import PgliteOxide.Lib.FileTree
import PgliteOxide.Lib.PathText
import PgliteOxide.Pglite.Session

/-!
# Physical PGDATA archives

`data_dir.rs`: the view of PGDATA that a dump archives is made in a temporary directory, first
from the lower tree of the overlay and then from the upper one, whose whiteouts hide what the
lower tree has; a tree is written to a tar archive and an archive is unpacked into a directory.

A directory that is only read is a `Dir`; its entries are in the order in which the code visits
them after sorting. The directory that is written is a `Files`.
-/

namespace PgliteOxide.Pglite

open Lib

/-- A directory on disk, with everything below it, in the order in which it is read. -/
abbrev PgDir := Dir FileName Bytes

/-- A directory whose entries are sorted, as the code sorts them after reading them. -/
abbrev PgTree := { d : PgDir // d.Sorted }

/-- The contents of the directory a method works in, and nothing else. -/
abbrev PgFiles := Files FileName Bytes

/-! ## Names -/

def pgdataOverlayManifestName : String := ".pglite-oxide-pgdata-overlay.json"

def runtimeStateFiles : List String := ["postmaster.pid", "postmaster.opts"]

/-- `OVERLAY_WHITEOUT_PREFIX`, the bytes of `.wh.`. -/
def overlayWhiteoutPrefix : Bytes := [46, 119, 104, 46]

/-- The bytes of the names of a path. -/
def pathParts (p : RelPath) : List Bytes := p.map FileName.bytes

/-- `whiteout_target_relative`: the directory and what `set_file_name` puts after it, which need
not be a file name. -/
def whiteoutTargetRelative (relative : List Bytes) : Option (List Bytes × Bytes) := do
  let fileName ← relative.getLast?
  if overlayWhiteoutPrefix <+: toStringLossy fileName then
    some (relative.dropLast, (toStringLossy fileName).drop overlayWhiteoutPrefix.length)
  else none

/-- `should_skip_relative`. -/
def shouldSkipRelative (relative : List Bytes) : Bool :=
  relative = [utf8 pgdataOverlayManifestName]
    || (whiteoutTargetRelative relative).isSome
    || runtimeStateFiles.any fun name => relative = [utf8 name]

/-! ## Errors -/

/-- `anyhow::Error` as this module builds it. -/
inductive DirError where
  | io (err : FsError)
  | msg (text : String)
  /-- A context with the path it shows. -/
  | context (text : String) (parts : List Bytes) (err : DirError)
deriving DecidableEq

/-- A method that works in a directory. -/
abbrev DirMethod (α : Type) := Stateful PgFiles DirError α

/-- `with_context` on a call of `std::fs`. -/
def withContext {α : Type} (text : String) (parts : List Bytes)
    (m : Stateful PgFiles FsError α) : DirMethod α :=
  m.mapErr fun err => .context text parts (.io err)

/-! ## The view -/

/-- What comes of `remove_dir_all` of the directory in which the temporary directory has been
made. -/
inductive RemovedAbove where
  /-- Something there cannot be removed; this is left of the temporary directory. -/
  | stuck (err : FsError) (left : PgFiles)
  /-- All that is there is removed. The tree that is being read may have been there too. -/
  | removed (source : Bool)

/-- `remove_materialized_entry` on an entry. -/
def removeEntry (p : RelPath) : DirMethod Unit := fun s =>
  match symlinkMetadata p s with
  | (_, .ok .dir) =>
    withContext "remove materialized whiteout directory" (pathParts p) (removeDirAll p) s
  | (_, .ok (.file _)) =>
    withContext "remove materialized whiteout file" (pathParts p) (removeFile p) s
  | (_, .err .notFound) => (s, .ok ())
  | (_, .err err) =>
    (s, .err (.context "stat materialized whiteout target" (pathParts p) (.io err)))
  | (_, .panic) => (s, .panic)

/-- `fs::symlink_metadata` of `.` or `..` in a directory, which must be there. -/
def dotsMetadata (directory : RelPath) : Stateful PgFiles FsError Unit := fun s =>
  match symlinkMetadata directory s with
  | (_, .ok .dir) => (s, .ok ())
  | (_, .ok (.file _)) => (s, .err .notADirectory)
  | (_, .err err) => (s, .err err)
  | (_, .panic) => (s, .panic)

/-- `fs::remove_dir_all` of `.` or `..` in a directory that is there; it returns whether the tree
that is being read is still there. What is in the target is removed first. The `rmdir` after that
refuses a path that ends with `.`; a path that ends with `..` is not found any more, as its
directory has been removed, and `remove_dir_all` takes this for success. -/
def removeDots (above : RemovedAbove) (directory : RelPath) (fileName : Bytes) :
    Stateful PgFiles FsError Bool := fun s =>
  if fileName = [46] then (s.removeBelow directory, .err .invalidInput)
  else if directory = [] then
    match above with
    | .stuck err left => (left, .err err)
    | .removed source => (fun _ => none, .ok !source)
  else (s.removeBelow directory.dropLast, .ok true)

/-- `remove_materialized_entry` on `.` or `..` in a directory. -/
def removeMaterializedDots (above : RemovedAbove) (directory : RelPath) (fileName : Bytes) :
    DirMethod Bool := fun s =>
  match dotsMetadata directory s with
  | (_, .ok ()) =>
    (removeDots above directory fileName).mapErr
      (fun err => .context "remove materialized whiteout directory"
        (pathParts directory ++ [fileName]) (.io err)) s
  | (_, .err .notFound) => (s, .ok true)
  | (_, .err err) =>
    (s, .err (.context "stat materialized whiteout target" (pathParts directory ++ [fileName])
      (.io err)))
  | (_, .panic) => (s, .panic)

/-- `remove_materialized_entry`; it returns whether the tree that is being read is still there. The
target of a whiteout without a name is the directory itself. -/
def removeMaterializedEntry (above : RemovedAbove) (directory : RelPath) (fileName : Bytes) :
    DirMethod Bool :=
  if fileName = [] then do
    removeEntry directory
    pure true
  else
    match FileName.ofBytes? fileName with
    | some name => do
      removeEntry (directory ++ [name])
      pure true
    | none => removeMaterializedDots above directory fileName

/-- What the loop of `copy_pgdata_tree` does with a child: a whiteout is applied, some names are
skipped, and the rest is copied. It returns whether the tree that is being read is still there. -/
def copyChild (above : RemovedAbove) (applyWhiteouts : Bool) (relative : RelPath)
    (copy : DirMethod Unit) : DirMethod Bool :=
  match if applyWhiteouts then whiteoutTargetRelative (pathParts relative) else none with
  | some (_, fileName) => removeMaterializedEntry above relative.dropLast fileName
  | none =>
    if shouldSkipRelative (pathParts relative) then pure true
    else do
      copy
      pure true

/-- `copy_pgdata_tree`, from one child of `current` on. The children have been listed; `source` says
whether the tree that is being read is still there. If it is not, a file is not found, and a
directory is made but not read, since `current.exists()` is false for it. -/
def copyPgdataTree (above : RemovedAbove) (applyWhiteouts : Bool) :
    Bool → RelPath → PgDir → DirMethod Unit
  | _, _, .nil => pure ()
  | source, current, .file name data rest => do
    let still ← copyChild above applyWhiteouts (current ++ [name]) do
      withContext "create materialized PGDATA directory" (pathParts current) (createDirAll current)
      withContext "copy PGDATA archive file" (pathParts (current ++ [name]))
        (if source then writeFile (current ++ [name]) data else Stateful.fail .notFound)
    copyPgdataTree above applyWhiteouts (source && still) current rest
  | source, current, .dir name sub rest => do
    let still ← copyChild above applyWhiteouts (current ++ [name]) do
      withContext "create materialized PGDATA directory" (pathParts (current ++ [name]))
        (createDirAll (current ++ [name]))
      if source then copyPgdataTree above applyWhiteouts true (current ++ [name]) sub else pure ()
    copyPgdataTree above applyWhiteouts (source && still) current rest

/-- `copy_pgdata_tree` of a root that may be missing. -/
def copyPgdataRoot (above : RemovedAbove) (applyWhiteouts : Bool) : Option PgDir → DirMethod Unit
  | none => pure ()
  | some root => copyPgdataTree above applyWhiteouts true [] root

/-- A new temporary directory. -/
def emptyDirectory : PgFiles := Dir.nil.find

/-- `materialize_pgdata_view`, from the temporary directory on. -/
def materializePgdataView (above : RemovedAbove) (upper : Option PgDir)
    (lower : Option (Option PgDir)) : DirMethod Unit := do
  match lower with
  | some root => copyPgdataRoot above false root
  | none => pure ()
  copyPgdataRoot above true upper

/-! ## Archives -/

inductive EntryType where
  | regular
  | directory
  /-- Links, devices and extensions. -/
  | other (code : UInt8)
deriving DecidableEq

/-- An entry as the dump appends it: the header fields it sets, and the contents. -/
structure TarEntry where
  path : Bytes
  entryType : EntryType
  mode : ℕ
  mtime : ℕ
  data : Bytes
deriving DecidableEq

/-- An entry as it is read back. Its contents may end early, with an error. The header block is
there for `Entry::unpack`. -/
structure TarItem where
  path : Except String Bytes
  entryType : EntryType
  data : Bytes
  failure : Option String
  header : Bytes

/-- What a reader delivers, and how it fails after that. -/
structure Stream where
  data : Bytes
  failure : Option String

/-- The `tar` and `flate2` crates: a tar archive of entries, the entries of a tar stream up to the
first that cannot be read, `Entry::unpack` at a path below the directory, and gzip in both
directions. -/
structure ArchiveCodec where
  tar : List TarEntry → Except String Bytes
  untar : Stream → Except String (List (Except String TarItem))
  unpack : TarItem → List Bytes → Stateful PgFiles String Unit
  /-- The entries that `unpack` takes for directories although their type is not that of one. -/
  isOldDirectory : TarItem → Bool
  gzip : Bytes → Except String Bytes
  gunzip : Bytes → Stream

/-- `EntrySource`, with the contents of a file as they are read when it is appended. -/
inductive EntrySource where
  | directory
  | file (data : Bytes)
deriving DecidableEq

/-- `BTreeMap<PathBuf, EntrySource>`: the entries in the order of their paths. -/
abbrev EntryMap := List (RelPath × EntrySource)

/-- `BTreeMap::insert`. -/
def EntryMap.insert (relative : RelPath) (source : EntrySource) : EntryMap → EntryMap
  | [] => [(relative, source)]
  | entry :: entries =>
    if relative < entry.1 then (relative, source) :: entry :: entries
    else if relative = entry.1 then (relative, source) :: entries
    else entry :: EntryMap.insert relative source entries

/-- `collect_pgdata_entries`, from one child of `current` on. -/
def collectPgdataEntries : RelPath → PgDir → EntryMap → EntryMap
  | _, .nil, entries => entries
  | current, .file name data rest, entries =>
    collectPgdataEntries current rest
      (if shouldSkipRelative (pathParts (current ++ [name])) then entries
       else EntryMap.insert (current ++ [name]) (.file data) entries)
  | current, .dir name sub rest, entries =>
    collectPgdataEntries current rest
      (if shouldSkipRelative (pathParts (current ++ [name])) then entries
       else collectPgdataEntries (current ++ [name]) sub
        (EntryMap.insert (current ++ [name]) .directory entries))

/-- `archive_path`. -/
def archivePath (relative : RelPath) : Bytes :=
  (toStringLossy (pathText (pathParts relative))).map fun c => if c = 92 then 47 else c

/-- The header and the contents of an entry. -/
def tarEntry (entry : RelPath × EntrySource) : TarEntry :=
  match entry.2 with
  | .directory =>
    { path := archivePath entry.1, entryType := .directory, mode := 0o755, mtime := 0, data := [] }
  | .file data =>
    { path := archivePath entry.1, entryType := .regular, mode := 0o644, mtime := 0, data }

/-- `dump_materialized_pgdata_archive` of a directory. -/
def dumpMaterializedPgdataArchive (codec : ArchiveCodec) (format : DataDirArchiveFormat)
    (pgdata : PgDir) : Except String Bytes := do
  let entries := collectPgdataEntries [] pgdata []
  let tarBytes ← codec.tar (entries.map tarEntry)
  match format with
  | .tar => return tarBytes
  | .tarGz => codec.gzip tarBytes

/-- `normalize_archive_path`. -/
def normalizeArchivePath (path : Bytes) : Except DirError (List Bytes) :=
  (components path).foldlM (fun dest component =>
    match component with
    | .rootDir | .curDir => .ok dest
    | .normal part => .ok (dest ++ [part])
    | .parentDir => .error (.context "unsafe PGDATA archive path" [path] (.io .invalidInput))) []

/-- The path of a file system; a part with a NUL has none. -/
def hostPath (parts : List Bytes) : Option RelPath := parts.mapM FileName.ofBytes?

lemma hostPath_pathParts (p : RelPath) : hostPath (pathParts p) = some p := by
  unfold hostPath pathParts
  induction p with
  | nil => rfl
  | cons name p ih =>
    rw [List.map_cons, List.mapM_cons, ih, FileName.ofBytes?_bytes]
    rfl

/-- A call of `std::fs` on a path that may have a NUL. -/
def onHostPath (parts : List Bytes) (f : RelPath → Stateful PgFiles FsError Unit) :
    Stateful PgFiles FsError Unit :=
  match hostPath parts with
  | some p => f p
  | none => Stateful.fail .invalidInput

/-- What the loop of `unpack_pgdata_archive` does with a regular file. -/
def unpackRegular (codec : ArchiveCodec) (item : TarItem) (path : Bytes) (relative : List Bytes) :
    DirMethod Unit := do
  withContext "create PGDATA directory" relative.dropLast
    (onHostPath relative.dropLast createDirAll)
  (codec.unpack item relative).mapErr fun text =>
    .context "unpack PGDATA archive entry" [path] (.msg text)

/-- What the loop of `unpack_pgdata_archive` does with an entry whose path has been
normalized. -/
def unpackEntry (codec : ArchiveCodec) (item : TarItem) (path : Bytes) (relative : List Bytes) :
    DirMethod Unit :=
  if relative = [] || shouldSkipRelative relative then pure ()
  else
    match item.entryType with
    | .directory =>
      withContext "create PGDATA directory" relative (onHostPath relative createDirAll)
    | .other _ =>
      Stateful.fail (.context "PGDATA archive entry has unsupported type" [path]
        (.io .invalidInput))
    | .regular => unpackRegular codec item path relative

/-- The loop of `unpack_pgdata_archive`. -/
def unpackEntries (codec : ArchiveCodec) : List (Except String TarItem) → DirMethod Unit
  | [] => pure ()
  | .error text :: _ => Stateful.fail (.context "read PGDATA archive entry" [] (.msg text))
  | .ok item :: items =>
    match item.path with
    | .error text => Stateful.fail (.context "read PGDATA archive entry path" [] (.msg text))
    | .ok path =>
      match normalizeArchivePath path with
      | .error err => Stateful.fail err
      | .ok relative => do
        unpackEntry codec item path relative
        unpackEntries codec items

/-- `unpack_pgdata_archive`, in the destination directory. -/
def unpackPgdataArchive (codec : ArchiveCodec) (bytes : Bytes) : DirMethod Unit :=
  let stream := if [0x1f, 0x8b] <+: bytes then codec.gunzip bytes else ⟨bytes, none⟩
  match codec.untar stream with
  | .error text => Stateful.fail (.context "read PGDATA archive entries" [] (.msg text))
  | .ok items => unpackEntries codec items

/-- What is relied on of `Entry::unpack`, at a path whose directory is there: it writes the file,
and replaces one that is there. Of contents that end early, what there was is written. An entry of
an old format is taken for a directory if its path ends with a slash. No file is written in the
place of a directory, no directory made in the place of a file, and nothing is done at a path that
no file system has. -/
structure ArchiveCodec.UnpackRules (codec : ArchiveCodec) : Prop where
  file : ∀ {item p s}, codec.isOldDirectory item = false → item.failure = none →
    s p.dropLast = some .dir → s.isDir p = false →
      codec.unpack item (pathParts p) s = (s.put p item.data, .ok ())
  partly : ∀ {item p s}, codec.isOldDirectory item = false → item.failure ≠ none →
    s p.dropLast = some .dir → s.isDir p = false →
      ∃ text, codec.unpack item (pathParts p) s = (s.put p item.data, .err text)
  noFile : ∀ {item p s}, codec.isOldDirectory item = false → s.isDir p = true →
    ∃ text, codec.unpack item (pathParts p) s = (s, .err text)
  directory : ∀ {item p s}, codec.isOldDirectory item = true → s p.dropLast = some .dir →
    s.isFile p = false → codec.unpack item (pathParts p) s = (s.makeDirs p, .ok ())
  noDirectory : ∀ {item p s}, codec.isOldDirectory item = true → s.isFile p = true →
    ∃ text, codec.unpack item (pathParts p) s = (s, .err text)
  noPath : ∀ {item dest s}, hostPath dest = none → ∃ text, codec.unpack item dest s = (s, .err text)
  slash : ∀ {item}, codec.isOldDirectory item = true → ∃ path, item.path = .ok path ∧ [47] <:+ path

end PgliteOxide.Pglite
