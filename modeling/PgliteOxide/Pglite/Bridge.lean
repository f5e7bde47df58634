import PgliteOxide.Pglite.Wire

/-!
# The bridge between the proxy and the backend

`pglite_wasix_bridge.c` gives the backend a socket of its own: in buffered mode `pgl_recv` and
`pgl_send` work on two buffers the host fills and empties, in stream mode on standard input and
output. In hybrid mode the backend starts on the buffers and goes over to standard input and output
at the first write after it reported a COPY. Standard input is a `ProtocolStdioFile` of
`postgres_mod.rs`: bytes put in front by the host, then the client's socket.
-/

namespace PgliteOxide.Pglite

open Lib

/-! ## The C side -/

/-- `PGL_WASIX_PROTOCOL_*`, and `ProtocolTransportMode` on the host. -/
inductive ProtocolTransportMode where
  | buffered
  | stream
  | hybrid
deriving DecidableEq, Repr

/-- `PGL_WASIX_PROTOCOL_COPY_*`. -/
inductive ProtocolCopyState where
  | copyNone
  | copyIn
  | copyOut
  | copyBoth
deriving DecidableEq, Repr

/-- The check of `pgl_protocol_report_copy_response` on its argument. -/
def ProtocolCopyState.fromInt (state : Int) : Option ProtocolCopyState :=
  if state = 0 then some .copyNone
  else if state = 1 then some .copyIn
  else if state = 2 then some .copyOut
  else if state = 3 then some .copyBoth
  else none

/-- The static variables of the bridge; a buffer is the part of it that is in use. -/
structure Bridge where
  inputBuf : Bytes
  inputOff : ℕ
  outputBuf : Bytes
  protocolTransport : ProtocolTransportMode
  protocolCopyState : ProtocolCopyState
  protocolStreamRequested : Bool
  protocolStreamActive : Bool
deriving DecidableEq, Repr

namespace Bridge

/-- Static variables start at zero. -/
def initial : Bridge :=
  { inputBuf := [], inputOff := 0, outputBuf := [], protocolTransport := .buffered,
    protocolCopyState := .copyNone, protocolStreamRequested := false, protocolStreamActive := false }

/-- The input the backend has not read. -/
def unread (bridge : Bridge) : Bytes := bridge.inputBuf.drop bridge.inputOff

/-- `pgl_set_protocol_transport`, with the mode it returns. -/
def setProtocolTransport (bridge : Bridge) (mode : ProtocolTransportMode) :
    Bridge × ProtocolTransportMode :=
  let previous := bridge.protocolTransport
  let bridge := { bridge with
    protocolTransport := mode
    protocolStreamActive := decide (mode = .stream) }
  if mode ≠ .hybrid then
    ({ bridge with protocolCopyState := .copyNone, protocolStreamRequested := false }, previous)
  else
    (bridge, previous)

/-- `pgl_protocol_report_copy_response`. -/
def protocolReportCopyResponse (bridge : Bridge) (state : Int) : Bridge :=
  match ProtocolCopyState.fromInt state with
  | none => bridge
  | some copyState =>
    { bridge with
      protocolCopyState := copyState
      protocolStreamRequested :=
        decide (bridge.protocolTransport = .hybrid) && decide (copyState ≠ .copyNone) }

/-- `pgl_wasix_input_reset`. -/
def inputReset (bridge : Bridge) : Bridge := { bridge with inputBuf := [], inputOff := 0 }

/-- `pgl_wasix_input_write`, with the number it returns; `allocated` tells whether `realloc`
succeeds. -/
def inputWrite (bridge : Bridge) (buffer : Bytes) (allocated : Bool) : Bridge × Int :=
  if buffer = [] then
    (bridge, 0)
  else
    let bridge := if bridge.inputOff = bridge.inputBuf.length then bridge.inputReset else bridge
    if allocated then
      ({ bridge with inputBuf := bridge.inputBuf ++ buffer }, buffer.length)
    else
      (bridge, -1)

/-- `pgl_wasix_input_available`. -/
def inputAvailable (bridge : Bridge) : ℕ :=
  if bridge.inputOff ≥ bridge.inputBuf.length then 0
  else bridge.inputBuf.length - bridge.inputOff

/-- `pgl_wasix_buffer_read`, with the bytes it copies. -/
def bufferRead (bridge : Bridge) (maxLength : ℕ) : Bridge × Bytes :=
  if maxLength = 0 then
    (bridge, [])
  else if bridge.inputOff ≥ bridge.inputBuf.length then
    (bridge, [])
  else
    let available := bridge.inputBuf.length - bridge.inputOff
    let toCopy := if available < maxLength then available else maxLength
    ({ bridge with inputOff := bridge.inputOff + toCopy },
      (bridge.inputBuf.drop bridge.inputOff).take toCopy)

/-- `pgl_wasix_output_reset`. -/
def outputReset (bridge : Bridge) : Bridge :=
  { bridge with outputBuf := [], protocolCopyState := .copyNone, protocolStreamRequested := false }

/-- `pgl_recv` and `pgl_send` go to standard input and output. -/
def onStdio (bridge : Bridge) : Bool :=
  decide (bridge.protocolTransport = .stream) || bridge.protocolStreamActive

/-- `pgl_wasix_buffer_write` up to the point where a requested stream is opened. -/
def bufferAppend (bridge : Bridge) (bytes : Bytes) : Bridge :=
  { bridge with outputBuf := bridge.outputBuf ++ bytes }

/-- The condition of `pgl_wasix_buffer_write` under which the output is flushed to standard
output. -/
def opensStream (bridge : Bridge) : Bool :=
  decide (bridge.protocolTransport = .hybrid) && bridge.protocolStreamRequested

/-- The end of `pgl_wasix_buffer_write`, once the output is flushed. -/
def streamOpened (bridge : Bridge) : Bridge :=
  { bridge with outputBuf := [], protocolStreamActive := true, protocolStreamRequested := false }

end Bridge

/-! ## Standard input -/

/-- `ProtocolStdioInner`; of the stream it holds, only whether it is there. -/
structure ProtocolStdioInner where
  attached : Bool
  prefixBytes : Bytes
  prefixOffset : ℕ
deriving DecidableEq, Repr

namespace ProtocolStdioInner

/-- `ProtocolStdioInner::default`. -/
def default : ProtocolStdioInner := { attached := false, prefixBytes := [], prefixOffset := 0 }

/-- `ProtocolStdioFile::attach`, when no stream is attached yet. -/
def attach (_ : ProtocolStdioInner) : ProtocolStdioInner :=
  { attached := true, prefixBytes := [], prefixOffset := 0 }

/-- `ProtocolStdioFile::set_prefix`. -/
def setPrefix (inner : ProtocolStdioInner) (bytes : Bytes) : ProtocolStdioInner :=
  { inner with prefixBytes := bytes, prefixOffset := 0 }

/-- `ProtocolStdioFile::clear_prefix`. -/
def clearPrefix (inner : ProtocolStdioInner) : ProtocolStdioInner := inner.setPrefix []

/-- The bytes in front of the socket. -/
def inFront (inner : ProtocolStdioInner) : Bytes := inner.prefixBytes.drop inner.prefixOffset

/-- `poll_read` while there are bytes in front of the socket. -/
def readInFront (inner : ProtocolStdioInner) (unfilled : ℕ) : ProtocolStdioInner × Bytes :=
  let remaining := inner.prefixBytes.drop inner.prefixOffset
  let read := min remaining.length unfilled
  let inner' := { inner with prefixOffset := inner.prefixOffset + read }
  if inner'.prefixOffset = inner'.prefixBytes.length then
    ({ inner' with prefixBytes := [], prefixOffset := 0 }, remaining.take read)
  else
    (inner', remaining.take read)

end ProtocolStdioInner

end PgliteOxide.Pglite
