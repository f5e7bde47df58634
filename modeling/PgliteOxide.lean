import PgliteOxide.Lib.Outcome
import PgliteOxide.Lib.BigEndian
import PgliteOxide.Lib.Utf8
import PgliteOxide.Lib.Framing
import PgliteOxide.Lib.Format
import PgliteOxide.Lib.Decoder
import PgliteOxide.Lib.DependencyOrder
import PgliteOxide.Lib.SqlFormat
import PgliteOxide.Lib.SqlLexer
import PgliteOxide.Lib.Prog
import PgliteOxide.Lib.Pool
import PgliteOxide.Lib.ProgState
import PgliteOxide.Lib.ProgScope
import PgliteOxide.Lib.Stateful
import PgliteOxide.Lib.FileTree
import PgliteOxide.Lib.FileLog
import PgliteOxide.Lib.FileFill
import PgliteOxide.Lib.PathText
import PgliteOxide.Lib.Lines
import PgliteOxide.Lib.PathBuf
import PgliteOxide.Protocol.Messages
import PgliteOxide.Protocol.BufferReader
import PgliteOxide.Protocol.BufferReaderTheorems
import PgliteOxide.Protocol.Parser
import PgliteOxide.Protocol.ParserTheorems
import PgliteOxide.Protocol.PacketFormat
import PgliteOxide.Protocol.Feed
import PgliteOxide.Protocol.RoundTrip
import PgliteOxide.Protocol.Serializer
import PgliteOxide.Protocol.BufferWriter
import PgliteOxide.Protocol.BufferWriterTheorems
import PgliteOxide.Protocol.FrontendGrammar
import PgliteOxide.Pglite.Config
import PgliteOxide.Pglite.Value
import PgliteOxide.Pglite.Wire
import PgliteOxide.Pglite.WireTheorems
import PgliteOxide.Pglite.Proxy
import PgliteOxide.Pglite.ProxyTheorems
import PgliteOxide.Pglite.ServerTheorems
import PgliteOxide.Pglite.Ledger
import PgliteOxide.Pglite.Closing
import PgliteOxide.Pglite.Conservation
import PgliteOxide.Pglite.Client
import PgliteOxide.Pglite.ClientTheorems
import PgliteOxide.Pglite.Types
import PgliteOxide.Pglite.ArrayText
import PgliteOxide.Pglite.ArrayOut
import PgliteOxide.Pglite.ArrayRoundTrip
import PgliteOxide.Pglite.Codecs
import PgliteOxide.Pglite.TypeRegistry
import PgliteOxide.Pglite.ArrayCycle
import PgliteOxide.Pglite.ArrayTermination
import PgliteOxide.Pglite.Results
import PgliteOxide.Pglite.StatementResults
import PgliteOxide.Pglite.RowCompleteness
import PgliteOxide.Pglite.Session
import PgliteOxide.Pglite.FrontendStream
import PgliteOxide.Pglite.Operations
import PgliteOxide.Pglite.Templating
import PgliteOxide.Pglite.TemplatingTheorems
import PgliteOxide.Pglite.SessionTheorems
import PgliteOxide.Pglite.Notifications
import PgliteOxide.Pglite.ErrorDetection
import PgliteOxide.Pglite.TransactionRules
import PgliteOxide.Pglite.Transactions
import PgliteOxide.Pglite.DumpGuard
import PgliteOxide.Pglite.Statements
import PgliteOxide.Pglite.Blobs
import PgliteOxide.Pglite.InitdbCommand
import PgliteOxide.Pglite.GuestPath
import PgliteOxide.Lib.PosixFile
import PgliteOxide.Pglite.SyncHostFile
import PgliteOxide.Lib.Getopt
import PgliteOxide.Pglite.PgDumpArgs
import PgliteOxide.Lib.IpAddr
import PgliteOxide.Lib.Uri
import PgliteOxide.Pglite.ConnectionUri
import PgliteOxide.Lib.LinkTree
import PgliteOxide.Lib.Registry
import PgliteOxide.Lib.WriteLoop
import PgliteOxide.Pglite.Unpacking
import PgliteOxide.Pglite.RootLock
import PgliteOxide.Pglite.AotCache
import PgliteOxide.Pglite.AotIntegrity
import PgliteOxide.Lib.Tar
import PgliteOxide.Pglite.DataDir
import PgliteOxide.Pglite.DataDirLog
import PgliteOxide.Pglite.TarCodec
import PgliteOxide.Pglite.DataDirView
import PgliteOxide.Pglite.DataDirArchive
import PgliteOxide.Pglite.Root
import PgliteOxide.Pglite.TemplateKey
import PgliteOxide.Pglite.TemplateKeyTheorems
import PgliteOxide.Pglite.RootSteps
import PgliteOxide.Pglite.RootFrame
import PgliteOxide.Pglite.RootReturns
import PgliteOxide.Pglite.RootOverlay
import PgliteOxide.Pglite.ArchiveUnpack
import PgliteOxide.Pglite.ArchiveLoad
import PgliteOxide.Pglite.DatabaseRoot
import PgliteOxide.Pglite.DatabaseRootSteps
import PgliteOxide.Pglite.CrashRecovery
import PgliteOxide.Pglite.Bridge
import PgliteOxide.Pglite.Pump
import PgliteOxide.Pglite.ProxySocket
import PgliteOxide.Pglite.Handover
import PgliteOxide.Pglite.BridgeOutput
import PgliteOxide.Pglite.BridgeTransport
import PgliteOxide.Pglite.SharedMemory
import PgliteOxide.Pglite.SharedMemoryTheorems
import PgliteOxide.Pglite.Extensions
import PgliteOxide.Pglite.StartupPacket
import PgliteOxide.Pglite.Quoting
import PgliteOxide.Pglite.ExtensionClosure
import PgliteOxide.Pglite.ExtensionCatalog
import PgliteOxide.Pglite.ListenerMap
import PgliteOxide.Pglite.Restart
import PgliteOxide.Pglite.Listeners
import PgliteOxide.Pglite.SessionRestore
import PgliteOxide.Pglite.Lifecycle
import PgliteOxide.Pglite.Readiness
import PgliteOxide.Pglite.GuestCalls
import PgliteOxide.Pglite.GuestMemory
import PgliteOxide.Pglite.GuestBackend
import PgliteOxide.Pglite.DirectExchange
import PgliteOxide.Pglite.ExchangeProgress
import PgliteOxide.Lib.Simulation
import PgliteOxide.Pglite.PumpCalls
import PgliteOxide.Pglite.PumpProgram
import PgliteOxide.Pglite.ServerShutdown
import PgliteOxide.Pglite.CopyUp
import PgliteOxide.Pglite.RootCustody
import PgliteOxide.Pglite.RootCustodyTheorems
import PgliteOxide.Pglite.SessionCustody
