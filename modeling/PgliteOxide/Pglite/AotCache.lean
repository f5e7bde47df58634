import PgliteOxide.Lib.Pool
import PgliteOxide.Lib.Utf8

/-!
# The cache of compiled artifacts

`aot.rs`: the native code of an artifact is decompressed once and kept in a cache directory that
all processes share, next to a receipt that says what was written. A new file is written under a
temporary name and renamed. The functions are programs over the calls they make on the directory.
-/

namespace PgliteOxide.Pglite

open Lib

inductive AotVerifyMode where
  | fast
  | full
deriving DecidableEq

structure AotManifestArtifact where
  name : String
  sha256 : String
  moduleSha256 : String
  rawSha256 : Option String
  rawSize : Option ℕ
deriving DecidableEq

structure AotCacheReceipt where
  formatVersion : ℕ
  artifactName : String
  targetTriple : String
  engine : String
  wasmerVersion : String
  wasmerWasixVersion : String
  rawSha256 : String
  rawSize : ℕ
  compressedSha256 : String
  moduleSha256 : String
deriving DecidableEq

def cacheReceiptFormatVersion : ℕ := 1

def expectedAotEngine : String := "llvm-opta"

def expectedWasmerVersion : String := "7.2.0-alpha.3"

def expectedWasmerWasixVersion : String := "0.702.0-alpha.3"

/-- Where `ZstdDecoder` fails: when it is made, or when it reads. -/
inductive DecompressError where
  | decode
  | decompress
deriving DecidableEq

/-- What a process brings along: its target, its embedded artifacts, and the libraries it calls. -/
structure AotBuild where
  /-- `ProjectDirs` has a cache directory. -/
  hasCacheDir : Bool
  targetTriple : String
  targetArtifactBytes : String → Option Bytes
  decompress : Bytes → Except DecompressError Bytes
  sha256Hex : Bytes → String
  receiptJson : AotCacheReceipt → Bytes
  parseReceipt : Bytes → Option AotCacheReceipt

/-! ## Paths -/

/-- A file of the cache: the directory of the target and the name. -/
structure CachePath where
  triple : String
  file : List Char
deriving DecidableEq

/-- `Path::file_stem`: the name up to its last dot, unless that is its first character. -/
def fileStem (file : List Char) : List Char :=
  match file.reverse.dropWhile (· ≠ '.') with
  | _ :: c :: rest => (c :: rest).reverse
  | _ => file

/-- `Path::with_extension`. -/
def CachePath.withExtension (path : CachePath) (extension : String) : CachePath :=
  { path with file := fileStem path.file ++ '.' :: extension.toList }

/-- `name.replace([':', '/', '\\'], "-")`. -/
def safeName (name : String) : List Char :=
  name.toList.map fun c => if c = ':' ∨ c = '/' ∨ c = '\\' then '-' else c

/-- The path of an artifact. -/
def artifactPath (triple name hash : String) : CachePath :=
  { triple, file := safeName name ++ '-' :: hash.toList ++ ".bin".toList }

def receiptPath (cachePath : CachePath) : CachePath := cachePath.withExtension "receipt.json"

/-! ## Calls -/

/-- `io::Error` as the functions tell it apart. -/
inductive AotIoError where
  | notFound
  | other (text : String)
deriving DecidableEq

/-- Where `sha256_file_with_len` fails. -/
inductive AotReadError where
  | opening (err : AotIoError)
  | reading (err : AotIoError)
deriving DecidableEq

inductive AotOp where
  | fileExists (path : CachePath)
  | metadata (path : CachePath)
  | read (path : CachePath)
  /-- The file is opened and read by `sha256_file_with_len`. -/
  | readForHash (path : CachePath)
  | removeFile (path : CachePath)
  /-- `create_dir_all` of the directory of a path. -/
  | createDirAll (path : CachePath)
  /-- A temporary name: the extension with the process id and the time in it. -/
  | tmpPath (path : CachePath) (kind : String)
  /-- The first half of `fs::write`: the file is there, and empty. -/
  | createFile (path : CachePath)
  /-- The second half of `fs::write`. -/
  | writeAll (path : CachePath) (bytes : Bytes)
  | rename (src dest : CachePath)
deriving DecidableEq

abbrev AotOp.Answer : AotOp → Type
  | fileExists _ => Bool
  | metadata _ => Except AotIoError ℕ
  | read _ => Except AotIoError Bytes
  | readForHash _ => Except AotReadError Bytes
  | removeFile _ => Except AotIoError Unit
  | createDirAll _ => Except AotIoError Unit
  | tmpPath _ _ => CachePath
  | createFile _ => Except AotIoError Unit
  | writeAll _ _ => Except AotIoError Unit
  | rename _ _ => Except AotIoError Unit

/-- The errors: the text, the paths it shows, the file for its directory, and what the operating
system said. -/
structure AotError where
  text : String
  paths : List CachePath
  source : Option AotIoError
deriving DecidableEq

abbrev AotProg (α : Type) := Prog AotOp AotOp.Answer AotError α

structure InstalledArtifact where
  path : CachePath
  sha256 : String
deriving DecidableEq

namespace Aot

abbrev fileExists (path : CachePath) : AotProg Bool := Prog.perform (AotOp.fileExists path)

abbrev metadata (path : CachePath) : AotProg (Except AotIoError ℕ) :=
  Prog.perform (AotOp.metadata path)

abbrev read (path : CachePath) : AotProg (Except AotIoError Bytes) :=
  Prog.perform (AotOp.read path)

abbrev readForHash (path : CachePath) : AotProg (Except AotReadError Bytes) :=
  Prog.perform (AotOp.readForHash path)

abbrev removeFile (path : CachePath) : AotProg (Except AotIoError Unit) :=
  Prog.perform (AotOp.removeFile path)

abbrev createDirAll (path : CachePath) : AotProg (Except AotIoError Unit) :=
  Prog.perform (AotOp.createDirAll path)

abbrev tmpPath (path : CachePath) (kind : String) : AotProg CachePath :=
  Prog.perform (AotOp.tmpPath path kind)

abbrev createFile (path : CachePath) : AotProg (Except AotIoError Unit) :=
  Prog.perform (AotOp.createFile path)

abbrev writeAll (path : CachePath) (bytes : Bytes) : AotProg (Except AotIoError Unit) :=
  Prog.perform (AotOp.writeAll path bytes)

abbrev rename (src dest : CachePath) : AotProg (Except AotIoError Unit) :=
  Prog.perform (AotOp.rename src dest)

def failWith {α : Type} (text : String) (path : CachePath) (err : AotIoError) : AotProg α :=
  Prog.fail { text, paths := [path], source := some err }

def bail {α : Type} (text : String) : AotProg α := Prog.fail { text, paths := [], source := none }

/-- `fs::write`, with its context. -/
def write (text : String) (path : CachePath) (bytes : Bytes) : AotProg Unit := do
  match ← createFile path with
  | .error err => failWith text path err
  | .ok () =>
    match ← writeAll path bytes with
    | .error err => failWith text path err
    | .ok () => return ()

/-- `remove_file_if_exists`. -/
def removeFileIfExists (path : CachePath) : AotProg Unit := do
  match ← removeFile path with
  | .ok () => return ()
  | .error .notFound => return ()
  | .error err => failWith "remove" path err

/-- `remove_cached_artifact`. -/
def removeCachedArtifact (path : CachePath) : AotProg Unit := do
  removeFileIfExists path
  removeFileIfExists (receiptPath path)

section

variable (build : AotBuild) (name : String) (art : AotManifestArtifact) (mode : AotVerifyMode)

/-- `cache_path`. -/
def cachePath (hash : String) : AotProg CachePath :=
  if build.hasCacheDir then return artifactPath build.targetTriple name hash
  else bail "could not resolve pglite-oxide cache directory"

def zstdMagic : Bytes := [0x28, 0xb5, 0x2f, 0xfd]

/-- `validate_compressed_artifact_manifest`. -/
def validateCompressedArtifactManifest (bytes : Bytes) : Except String Unit :=
  let actualHash := build.sha256Hex bytes
  if eqIgnoreAsciiCase actualHash art.sha256 then .ok ()
  else .error s!"AOT artifact '{name}' hash mismatch: manifest={art.sha256} actual={actualHash}"

/-- `artifact_raw_bytes`. -/
def artifactRawBytes : Except String Bytes := do
  match build.targetArtifactBytes name with
  | none =>
    .error (s!"no Wasmer LLVM AOT artifact named '{name}' is available for target "
      ++ s!"{build.targetTriple}; rebuild assets or disable this unsupported target")
  | some bytes =>
    if mode = .full then validateCompressedArtifactManifest build name art bytes
    if zstdMagic <+: bytes then
      match build.decompress bytes with
      | .error .decode => .error s!"decode compressed AOT artifact '{name}'"
      | .error .decompress => .error s!"decompress AOT artifact '{name}'"
      | .ok raw =>
        if raw = [] then .error s!"AOT artifact '{name}' decompressed to zero bytes" else .ok raw
    else .ok bytes

/-- The size in the manifest, where it is not the actual one. -/
def wrongSize (actual : ℕ) : Option ℕ := art.rawSize.filter (· ≠ actual)

/-- `expected_raw_hash`. -/
def expectedRawHash (raw : Bytes) : Except String String :=
  match wrongSize art raw.length with
  | some rawSize =>
    .error (s!"AOT artifact '{name}' raw size mismatch: manifest={rawSize} "
      ++ s!"actual={raw.length}")
  | none =>
    match art.rawSha256 with
    | none =>
      if mode = .full then .ok (build.sha256Hex raw)
      else .error (s!"AOT artifact '{name}' is missing raw-sha256 metadata; rebuild assets or set "
        ++ "PGLITE_OXIDE_AOT_VERIFY=full for strict hash-derived cache keys")
    | some rawSha256 =>
      let actual := build.sha256Hex raw
      if mode = .full ∧ ¬ eqIgnoreAsciiCase actual rawSha256 then
        .error (s!"AOT artifact '{name}' raw hash mismatch: manifest={rawSha256} "
          ++ s!"actual={actual}")
      else .ok rawSha256

/-- The receipt `write_cache_receipt` writes. -/
def cacheReceipt (rawSha256 : String) (rawSize : ℕ) : AotCacheReceipt where
  formatVersion := cacheReceiptFormatVersion
  artifactName := name
  targetTriple := build.targetTriple
  engine := expectedAotEngine
  wasmerVersion := expectedWasmerVersion
  wasmerWasixVersion := expectedWasmerWasixVersion
  rawSha256 := rawSha256
  rawSize := rawSize
  compressedSha256 := art.sha256
  moduleSha256 := art.moduleSha256

/-- The comparison at the end of `cache_receipt_matches`. -/
def receiptMatches (receipt : AotCacheReceipt) (rawSha256 : String) (rawSize : ℕ) : Bool :=
  receipt.formatVersion = cacheReceiptFormatVersion
    && receipt.artifactName = name
    && receipt.targetTriple = build.targetTriple
    && receipt.engine = expectedAotEngine
    && receipt.wasmerVersion = expectedWasmerVersion
    && receipt.wasmerWasixVersion = expectedWasmerWasixVersion
    && eqIgnoreAsciiCase receipt.rawSha256 rawSha256
    && receipt.rawSize = rawSize
    && eqIgnoreAsciiCase receipt.compressedSha256 art.sha256
    && eqIgnoreAsciiCase receipt.moduleSha256 art.moduleSha256

/-- `cache_receipt_matches`. -/
def cacheReceiptMatches (path : CachePath) (rawSha256 : String) : AotProg Bool := do
  match art.rawSize with
  | none => return false
  | some rawSize =>
    match ← metadata path with
    | .error .notFound => return false
    | .error err => failWith "stat" path err
    | .ok len =>
      if len ≠ rawSize then return false
      else
        match ← read (receiptPath path) with
        | .error .notFound => return false
        | .error err => failWith "read" (receiptPath path) err
        | .ok bytes =>
          match build.parseReceipt bytes with
          | none => return false
          | some receipt => return receiptMatches build name art receipt rawSha256 rawSize

/-- `write_cache_receipt`. -/
def writeCacheReceipt (path : CachePath) (rawSha256 : String) : AotProg Unit := do
  match art.rawSize with
  | none => return ()
  | some rawSize =>
    let tmp ← tmpPath (receiptPath path) "receipt"
    write "write" tmp (build.receiptJson (cacheReceipt build name art rawSha256 rawSize))
    match ← rename tmp (receiptPath path) with
    | .ok () => return ()
    | .error err =>
      let _ ← removeFile tmp
      failWith "promote AOT cache receipt" (receiptPath path) err

/-- `materialize_artifact` once it knows what to write where. -/
def materializeAt (raw : Bytes) (hash : String) (path : CachePath) :
    AotProg InstalledArtifact := do
  removeCachedArtifact path
  match ← createDirAll path with
  | .error err => failWith "create AOT cache directory" path err
  | .ok () =>
    let tmp ← tmpPath path "bin"
    write "write AOT artifact" tmp raw
    match ← rename tmp path with
    | .error err =>
      let _ ← removeFile tmp
      Prog.fail { text := "promote AOT artifact", paths := [tmp, path], source := some err }
    | .ok () =>
      writeCacheReceipt build name art path hash
      return { path, sha256 := hash }

/-- `materialize_artifact`. -/
def materializeArtifact : AotProg InstalledArtifact := do
  match artifactRawBytes build name art mode with
  | .error text => bail text
  | .ok raw =>
    match expectedRawHash build name art mode raw with
    | .error text => bail text
    | .ok hash =>
      let path ← cachePath build name hash
      materializeAt build name art raw hash path

/-- `cached_raw_artifact` in `Full` mode, for a file that is there. -/
def verifyFull (path : CachePath) (rawSha256 : String) : AotProg (Option InstalledArtifact) := do
  match ← readForHash path with
  | .error (.opening err) => failWith "open" path err
  | .error (.reading err) => failWith "read" path err
  | .ok bytes =>
    if !eqIgnoreAsciiCase (build.sha256Hex bytes) rawSha256 then do
      removeCachedArtifact path
      return none
    else
      match wrongSize art bytes.length with
      | some rawSize =>
        bail (s!"cached AOT artifact '{name}' raw size mismatch: manifest={rawSize} "
          ++ s!"actual={bytes.length}")
      | none => return some { path, sha256 := rawSha256 }

/-- `cached_raw_artifact`. -/
def cachedRawArtifact : AotProg (Option InstalledArtifact) := do
  match art.rawSha256 with
  | none => return none
  | some rawSha256 =>
    let path ← cachePath build name rawSha256
    if !(← fileExists path) then return none
    else
      match mode with
      | .full => verifyFull build name art path rawSha256
      | .fast =>
        if !(← cacheReceiptMatches build name art path rawSha256) then do
          removeCachedArtifact path
          return none
        else return some { path, sha256 := rawSha256 }

end

end Aot

/-! ## The shared directory -/

/-- The files, and the temporary names that have been given out. -/
structure AotDir where
  files : CachePath → Option Bytes
  used : CachePath → Prop

namespace AotDir

def put (s : AotDir) (path : CachePath) (bytes : Bytes) : AotDir :=
  { s with files := fun q => if q = path then some bytes else s.files q }

def remove (s : AotDir) (path : CachePath) : AotDir :=
  { s with files := fun q => if q = path then none else s.files q }

end AotDir

/-- What a file has, or that it is not there, or some other failure. -/
def answers {α : Type} (content : Option α) (ans : Except AotIoError α) : Prop :=
  match ans with
  | .ok a => content = some a
  | .error .notFound => content = none
  | .error (.other _) => True

/-- The same where the file is opened first. -/
def answersOpened {α : Type} (content : Option α) : Except AotReadError α → Prop
  | .ok a => content = some a
  | .error (.opening err) => answers content (.error err)
  | .error (.reading _) => True

/-- What a call does. A call that fails has done nothing, but a failed `fs::write` may leave any
part of the bytes. Temporary names are unique. -/
def aotStep : (op : AotOp) → AotDir → AotDir → op.Answer → Prop
  | .fileExists path, s, s', ans => s' = s ∧ ans = (s.files path).isSome
  | .metadata path, s, s', ans => s' = s ∧ answers ((s.files path).map List.length) ans
  | .read path, s, s', ans => s' = s ∧ answers (s.files path) ans
  | .readForHash path, s, s', ans => s' = s ∧ answersOpened (s.files path) ans
  | .removeFile path, s, s', ans =>
    (ans = .ok () ∧ s.files path ≠ none ∧ s' = s.remove path) ∨
      (ans = .error .notFound ∧ s.files path = none ∧ s' = s) ∨
      ∃ text, ans = .error (.other text) ∧ s' = s
  | .createDirAll _, s, s', _ => s' = s
  | .tmpPath path kind, s, s', ans =>
    (∃ pid suffix : ℕ, ans = path.withExtension s!"{kind}.{pid}.{suffix}.tmp") ∧ ¬ s.used ans ∧
      s' = { s with used := fun q => q = ans ∨ s.used q }
  | .createFile path, s, s', ans => (s' = s ∧ ans ≠ .ok ()) ∨ s' = s.put path []
  | .writeAll path bytes, s, s', ans =>
    (s' = s.put path bytes ∧ ans = .ok ()) ∨
      ∃ part, part <+: bytes ∧ s' = s.put path part ∧ ans ≠ .ok ()
  | .rename src dest, s, s', ans =>
    (∃ bytes, s.files src = some bytes ∧ ans = .ok () ∧ s' = (s.remove src).put dest bytes) ∨
      (ans ≠ .ok () ∧ s' = s)

/-- What is left of a call when the process dies in it: nothing was done, or a part of the bytes
was written. A process that dies after a call dies in its next one. -/
def aotCrash : AotOp → AotDir → AotDir → Prop
  | .writeAll path bytes, s, s' => s' = s ∨ ∃ part, part <+: bytes ∧ s' = s.put path part
  | _, s, s' => s' = s

def aotEffects : Effects AotOp AotOp.Answer AotDir where
  step := aotStep
  crash := aotCrash

end PgliteOxide.Pglite
