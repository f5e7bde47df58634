import PgliteOxide.Lib.ProgState
import PgliteOxide.Pglite.DataDir

/-!
# Root preparation

`base.rs` gets PGDATA ready before the backend starts: an existing cluster is kept, and a new one
is an overlay over a cached template, a copy of the template, or what `initdb` makes. The
functions are programs over the calls they make on a few directories that are apart from each
other.
-/

namespace PgliteOxide.Pglite

open Lib

/-! ## Places -/

/-- The directories root preparation works in: PGDATA, what else is in the runtime directory
above it, and the cache of the template whose archive has this hash. -/
inductive Place where
  | pgdata
  | runtime
  | template (archiveSha256 : String)
deriving DecidableEq

/-- A path in one of them. -/
structure Loc where
  place : Place
  path : RelPath
deriving DecidableEq

/-- `Path::join`. -/
def Loc.join (loc : Loc) (names : RelPath) : Loc := ⟨loc.place, loc.path ++ names⟩

/-- `Path::parent`, as far as it is in one of the directories. -/
def Loc.parent (loc : Loc) : Option Loc :=
  if loc.path ≠ [] then some ⟨loc.place, loc.path.dropLast⟩
  else if loc.place = .pgdata then some ⟨.runtime, []⟩
  else none

/-- `PG_VERSION`. -/
def pgVersionName : FileName := ⟨[80, 71, 95, 86, 69, 82, 83, 73, 79, 78], by decide⟩

/-- `global`. -/
def globalName : FileName := ⟨[103, 108, 111, 98, 97, 108], by decide⟩

/-- `pg_control`. -/
def pgControlName : FileName := ⟨[112, 103, 95, 99, 111, 110, 116, 114, 111, 108], by decide⟩

/-- `PGDATA_OVERLAY_MANIFEST_NAME`. -/
def overlayManifestName : FileName := ⟨utf8 pgdataOverlayManifestName, by decide +kernel⟩

/-- `TEMPLATE_RUNTIME_STATE_FILES`: `postmaster.pid` and `postmaster.opts`. -/
def templateRuntimeStateFiles : List FileName :=
  [⟨utf8 "postmaster.pid", by decide +kernel⟩, ⟨utf8 "postmaster.opts", by decide +kernel⟩]

/-- `base`. -/
def baseName : FileName := ⟨[98, 97, 115, 101], by decide⟩

/-! ## Data -/

structure PgDataTemplateManifest where
  postgresVersion : String
  wasmSha256 : String
  archiveSha256 : String
  architectureIndependent : Bool
deriving DecidableEq

structure PgDataOverlayManifest where
  templateArchiveSha256 : String
  postgresVersion : String
  extensionSqlNames : List String
deriving DecidableEq

inductive RuntimeLayoutKind where
  | fullLocal
  | sharedRuntimeOverlay
deriving DecidableEq

/-- The fields of a `RuntimeLayout` that PGDATA depends on. -/
structure RuntimeLayout where
  kind : RuntimeLayoutKind
  moduleRoot : Loc
  pgdataTemplateRoot : Option Loc
deriving DecidableEq

def RuntimeLayout.usesSharedOverlay (layout : RuntimeLayout) : Bool :=
  layout.kind = .sharedRuntimeOverlay

inductive ClusterPolicy where
  | existingOrTemplate
  | existingOrFreshInitdb
deriving DecidableEq

/-- `anyhow::Error` as this module builds it. -/
inductive RootError where
  | msg (text : String)
  | io (err : IoError)
  | context (text : String) (err : RootError)
deriving DecidableEq

/-- `format!("{err:#}")`. -/
def RootError.chain : RootError → String
  | .msg text => text
  | .io .notFound => "entity not found"
  | .io (.other text) => text
  | .context text err => text ++ ": " ++ err.chain

/-- The build and the process: the embedded assets with `serde_json` and the hash they are read
with, the environment, and what `PGDATA_TEMPLATE_CACHE` holds already. -/
structure RootBuild where
  bundled : Bool
  templateManifest : Option Bytes
  templateArchive : Option Bytes
  expectedModuleSha256 : Except RootError String
  parseTemplateManifest : Bytes → Except String PgDataTemplateManifest
  parseOverlayManifest : Bytes → Except String PgDataOverlayManifest
  overlayManifestBytes : PgDataOverlayManifest → Bytes
  sha256Hex : Bytes → String
  /-- `PGLITE_OXIDE_AOT_VERIFY`. -/
  aotVerify : Option String
  /-- `runtime_tar_path` finds an archive. -/
  hasRuntimeTar : Bool
  /-- `ProjectDirs` finds a cache directory. -/
  hasCacheDir : Bool
  /-- `PGLITE_OXIDE_TEMPLATE_REFLINK` is set. -/
  templateReflink : Bool
  templateCache : Option (Except String Loc)
  /-- What a template archive is unpacked to. -/
  archiveTree : Bytes → PgFiles
  display : Loc → String

/-! ## Calls -/

inductive RootOp where
  | pathExists (loc : Loc)
  | isFile (loc : Loc)
  | read (loc : Loc)
  /-- A walk with `read_dir`. -/
  | readTree (loc : Loc)
  | createDirAll (loc : Loc)
  /-- `fs::write`, and `fs::copy` of a file with these contents. -/
  | write (loc : Loc) (data : Bytes)
  | removeFile (loc : Loc)
  | removeDirAll (loc : Loc)
  /-- `fs::rename` within one place. -/
  | rename (place : Place) (src dest : RelPath)
  /-- `clone_dir_command`: whether it ran with success. -/
  | cloneDirCommand (src dest : Loc)
  /-- `try_reflink_file` up to the cleanup, for a source with these contents. -/
  | reflinkCommand (loc : Loc) (data : Bytes)
  /-- `CacheLock::acquire` for the template cache. -/
  | lockCache (archiveSha256 : String)
  /-- The name of a staging directory, made from the process and the time. -/
  | stagingName
  /-- `unpack_pgdata_template_archive`. -/
  | unpackTemplateArchive (archive : Bytes) (loc : Loc)
  /-- `PostgresMod::run_split_initdb`. -/
  | runSplitInitdb (pgdata : Loc) (layout : RuntimeLayout)

abbrev RootOp.Answer : RootOp → Type
  | pathExists _ => Bool
  | isFile _ => Bool
  | read _ => Except IoError Bytes
  | readTree _ => Except IoError PgDir
  | createDirAll _ => Except IoError Unit
  | write _ _ => Except IoError Unit
  | removeFile _ => Except IoError Unit
  | removeDirAll _ => Except IoError Unit
  | rename _ _ _ => Except IoError Unit
  | cloneDirCommand _ _ => Bool
  | reflinkCommand _ _ => Bool
  | lockCache _ => Except RootError Unit
  | stagingName => FileName
  | unpackTemplateArchive _ _ => Except RootError Unit
  | runSplitInitdb _ _ => Except RootError Unit

abbrev RootProg (α : Type) := Prog RootOp RootOp.Answer RootError α

namespace Root

abbrev pathExists (loc : Loc) : RootProg Bool := Prog.perform (RootOp.pathExists loc)

abbrev isFile (loc : Loc) : RootProg Bool := Prog.perform (RootOp.isFile loc)

abbrev read (loc : Loc) : RootProg (Except IoError Bytes) := Prog.perform (RootOp.read loc)

/-- The `?` operator. -/
def orFail {α : Type} : Except RootError α → RootProg α
  | .ok a => pure a
  | .error err => Prog.fail err

/-- `with_context` and `?` on a call of `std::fs`. -/
def orContext {α : Type} (text : String) : Except IoError α → RootProg α
  | .ok a => pure a
  | .error err => Prog.fail (.context text (.io err))

def bail {α : Type} (text : String) : RootProg α := Prog.fail (.msg text)

section

variable (build : RootBuild)

def createDirAll (text : String) (loc : Loc) : RootProg Unit := do
  let result ← Prog.perform (RootOp.createDirAll loc)
  orContext s!"{text} {build.display loc}" result

def write (text : String) (loc : Loc) (data : Bytes) : RootProg Unit := do
  let result ← Prog.perform (RootOp.write loc data)
  orContext s!"{text} {build.display loc}" result

def removeDirAll (text : String) (loc : Loc) : RootProg Unit := do
  let result ← Prog.perform (RootOp.removeDirAll loc)
  orContext s!"{text} {build.display loc}" result

/-- `if loc.exists() { fs::remove_dir_all(loc)?; }`. -/
def removeDirIfExists (text : String) (loc : Loc) : RootProg Unit := do
  let found ← pathExists loc
  if found then removeDirAll build text loc else return ()

/-- `if let Some(parent) = loc.parent() { fs::create_dir_all(parent)?; }`. -/
def createParent (text : String) (loc : Loc) : RootProg Unit :=
  match loc.parent with
  | some parent => createDirAll build text parent
  | none => return ()

/-- The loop of `remove_template_runtime_state`. -/
def removeStateFiles (pgdata : Loc) : List FileName → RootProg Unit
  | [] => return ()
  | name :: names => do
    let path := pgdata.join [name]
    let found ← pathExists path
    if found then
      let result ← Prog.perform (RootOp.removeFile path)
      orContext s!"remove {build.display path}" result
      removeStateFiles pgdata names
    else removeStateFiles pgdata names

/-- `remove_template_runtime_state`. -/
def removeTemplateRuntimeState (pgdata : Loc) : RootProg Unit :=
  removeStateFiles build pgdata templateRuntimeStateFiles

/-! ## Completeness -/

def markerCluster (pgdata : Loc) : Loc := pgdata.join [pgVersionName]

def markerControlFile (pgdata : Loc) : Loc := pgdata.join [globalName, pgControlName]

def pgdataOverlayManifestPath (pgdata : Loc) : Loc := pgdata.join [overlayManifestName]

def pgdataOverlayIsInstalled (pgdata : Loc) : RootProg Bool :=
  isFile (pgdataOverlayManifestPath pgdata)

/-- Both markers of a full cluster are files. -/
def hasMarkers (pgdata : Loc) : RootProg Bool := do
  let version ← isFile (markerCluster pgdata)
  if version then isFile (markerControlFile pgdata) else return false

def clusterIsComplete (pgdata : Loc) : RootProg Bool := do
  let full ← hasMarkers pgdata
  if full then return true else pgdataOverlayIsInstalled pgdata

def removeInterruptedPgdata (pgdata : Loc) : RootProg Unit := do
  let found ← pathExists pgdata
  if found then
    let complete ← clusterIsComplete pgdata
    if complete then return ()
    else
      removeDirAll build
        "remove interrupted PGDATA without complete cluster markers at" pgdata
  else return ()

/-! ## The template -/

/-- `strict_asset_verification`. -/
def strictAssetVerification : Except RootError Bool :=
  match build.aotVerify with
  | none => .ok false
  | some value =>
    let value := String.ofList (value.toList.map Char.toLower)
    if value ∈ ["", "fast", "metadata", "receipt", "0", "false", "off"] then .ok false
    else if value ∈ ["full", "sha", "sha256", "strict", "1", "true", "on"] then .ok true
    else .error (.msg s!"unsupported PGLITE_OXIDE_AOT_VERIFY={value}; use `fast` or `full`")

/-- `PGDATA_TEMPLATE_MANIFEST`. -/
def parsedTemplateManifest (bytes : Bytes) : Except RootError PgDataTemplateManifest :=
  match build.parseTemplateManifest bytes with
  | .error text => .error (.msg s!"parse embedded PGDATA template manifest: {text}")
  | .ok manifest =>
    if manifest.architectureIndependent then .ok manifest
    else
      .error (.msg "embedded PGDATA template manifest must set architectureIndependent=true")

/-- `validated_embedded_pgdata_template_manifest`. -/
def validatedEmbeddedPgdataTemplateManifest :
    Except RootError (Option PgDataTemplateManifest) :=
  match build.templateManifest, build.templateArchive with
  | some templateManifest, some templateArchive => do
    let manifest ← parsedTemplateManifest build templateManifest
    let strict ← strictAssetVerification build
    let actualArchive := build.sha256Hex templateArchive
    if strict && !eqIgnoreAsciiCase actualArchive manifest.archiveSha256 then
      .error (.msg ("embedded PGDATA template archive hash mismatch: manifest="
        ++ manifest.archiveSha256 ++ " actual=" ++ actualArchive))
    else return some manifest
  | _, _ => .ok none

/-- `ensure_module_matches_template`. -/
def ensureModuleMatchesTemplate (modulePath : Loc) (manifest : PgDataTemplateManifest) :
    RootProg Unit := do
  let strict ← orFail (strictAssetVerification build)
  if !strict then
    if build.bundled && !build.hasRuntimeTar then
      let expected ← orFail build.expectedModuleSha256
      if eqIgnoreAsciiCase expected manifest.wasmSha256 then return ()
      else
        bail ("embedded PGDATA template wasm hash mismatch: manifest=" ++ manifest.wasmSha256
          ++ " assets=" ++ expected)
    else return ()
  else
    let result ← read modulePath
    let bytes ← orContext s!"read {build.display modulePath}" result
    let actualWasm := build.sha256Hex bytes
    if eqIgnoreAsciiCase actualWasm manifest.wasmSha256 then return ()
    else
      bail ("embedded PGDATA template wasm hash mismatch: manifest=" ++ manifest.wasmSha256
        ++ " actual=" ++ actualWasm)

/-- `RuntimeLayout::module_path`. -/
def modulePath (layout : RuntimeLayout) : Loc :=
  layout.moduleRoot.join
    [⟨utf8 "bin", by decide +kernel⟩, ⟨utf8 "pglite", by decide +kernel⟩]

/-- `str::trim`. -/
def trimmed (text : String) : String := String.ofList (trim text.toList)

/-- `validate_pgdata_template_dir`. -/
def validatePgdataTemplateDir (pgdata : Loc) (manifest : PgDataTemplateManifest) :
    RootProg Unit := do
  let result ← read (markerCluster pgdata)
  let bytes ← orContext s!"read {build.display (markerCluster pgdata)}" result
  match fromUtf8 bytes with
  | none =>
    Prog.fail (.context s!"read {build.display (markerCluster pgdata)}"
      (.io (.other "stream did not contain valid UTF-8")))
  | some pgVersion =>
    if trimmed pgVersion = trimmed manifest.postgresVersion then
      let found ← pathExists (markerControlFile pgdata)
      if found then return ()
      else
        bail "embedded PGDATA template did not contain global/pg_control at archive root"
    else
      bail ("embedded PGDATA template postgres version mismatch: manifest="
        ++ manifest.postgresVersion ++ " actual=" ++ trimmed pgVersion)

/-- The directory of a cached template. -/
def cachedPgdata (archiveSha256 : String) : Loc := ⟨.template archiveSha256, [baseName]⟩

/-- `build_pgdata_template_cache`. A failure to remove the staging directory is ignored. -/
def buildPgdataTemplateCache : RootProg Loc := do
  let manifest ← orFail (validatedEmbeddedPgdataTemplateManifest build)
  match manifest, build.templateArchive with
  | some manifest, some templateArchive => do
    if !build.hasCacheDir then bail "could not resolve pglite-oxide cache directory"
    else
      let locked ← Prog.perform (RootOp.lockCache manifest.archiveSha256)
      orFail locked
      let root : Loc := ⟨.template manifest.archiveSha256, []⟩
      let pgdata := cachedPgdata manifest.archiveSha256
      let cached ← hasMarkers pgdata
      if cached then return pgdata
      else
        removeDirIfExists build "remove stale PGDATA template cache" root
        createDirAll build "create PGDATA template cache" root
        let staging ← Prog.perform RootOp.stagingName
        let unpacked ← Prog.perform
          (RootOp.unpackTemplateArchive templateArchive (root.join [staging]))
        match unpacked with
        | .error err =>
          let _ ← Prog.perform (RootOp.removeDirAll (root.join [staging]))
          Prog.fail err
        | .ok () =>
          validatePgdataTemplateDir build (root.join [staging]) manifest
          removeTemplateRuntimeState build (root.join [staging])
          let renamed ← Prog.perform (RootOp.rename root.place [staging] [baseName])
          orContext (s!"promote PGDATA template cache {build.display (root.join [staging])}"
            ++ s!" -> {build.display pgdata}") renamed
          return pgdata
  | some _, none => bail "embedded PGDATA template archive is unavailable"
  | none, _ => bail "embedded PGDATA template manifest is unavailable"

/-- `pgdata_template_cache`. -/
def pgdataTemplateCache : RootProg Loc :=
  match build.templateCache with
  | some (.ok pgdata) => return pgdata
  | some (.error message) => bail message
  | none => (buildPgdataTemplateCache build).mapErr fun err => .msg err.chain

/-! ## Copying a template -/

/-- `should_skip_template_entry`. -/
def shouldSkipTemplateEntry (name : FileName) : Bool :=
  utf8 ".s.PGSQL." <+: toStringLossy name.bytes
    || templateRuntimeStateFiles.any fun file => toStringLossy name.bytes = file.bytes

/-- `clone_mutable_template_file`, for a source with these contents. -/
def cloneMutableTemplateFile (src dest : Loc) (data : Bytes) : RootProg Unit :=
  if build.templateReflink then do
    let cloned ← Prog.perform (RootOp.reflinkCommand dest data)
    if cloned then return ()
    else
      let _ ← Prog.perform (RootOp.removeFile dest)
      write build s!"copy {build.display src} to" dest data
  else write build s!"copy {build.display src} to" dest data

/-- The loop of `copy_pgdata_template_dir_inner`, from one entry on. A link in a template is left
out of account. -/
def copyEntries (source dest : Loc) : PgDir → RootProg Unit
  | .nil => return ()
  | .file name data rest => do
    if shouldSkipTemplateEntry name then copyEntries source dest rest
    else
      createDirAll build "create directory" dest
      cloneMutableTemplateFile build (source.join [name]) (dest.join [name]) data
      copyEntries source dest rest
  | .dir name sub rest => do
    if shouldSkipTemplateEntry name then copyEntries source dest rest
    else
      createDirAll build "create directory" (dest.join [name])
      copyEntries (source.join [name]) (dest.join [name]) sub
      copyEntries source dest rest

/-- `copy_pgdata_template_dir_inner`. -/
def copyPgdataTemplateDirInner (source dest : Loc) : RootProg Unit := do
  createDirAll build "create directory" dest
  let result ← Prog.perform (RootOp.readTree source)
  let tree ← orContext s!"read directory {build.display source}" result
  copyEntries build source dest tree

/-- `try_clone_dir`. -/
def tryCloneDir (src dest : Loc) : RootProg Bool := do
  removeDirIfExists build "remove" dest
  createParent build "create" dest
  let success ← Prog.perform (RootOp.cloneDirCommand src dest)
  let made ← pathExists dest
  if success && made then return true
  else
    removeDirIfExists build "remove failed cloned directory" dest
    return false

/-- `clone_pgdata_template_dir`. -/
def clonePgdataTemplateDir (source dest : Loc) : RootProg Unit := do
  let cloned ← tryCloneDir build source dest
  if cloned then return () else copyPgdataTemplateDirInner build source dest

/-- `try_install_embedded_pgdata_template`. -/
def tryInstallEmbeddedPgdataTemplate (pgdata modulePath : Loc) : RootProg Bool := do
  let complete ← clusterIsComplete pgdata
  if complete then return false
  else
    let manifest ← orFail (validatedEmbeddedPgdataTemplateManifest build)
    match manifest with
    | none => return false
    | some manifest => do
      ensureModuleMatchesTemplate build modulePath manifest
      let template ← pgdataTemplateCache build
      createParent build "create pgdata parent" pgdata
      removeDirIfExists build "remove existing pgdata" pgdata
      clonePgdataTemplateDir build template pgdata
      removeTemplateRuntimeState build pgdata
      return true

/-! ## The overlay -/

/-- `read_pgdata_overlay_manifest`. -/
def readPgdataOverlayManifest (pgdata : Loc) : RootProg (Option PgDataOverlayManifest) := do
  let path := pgdataOverlayManifestPath pgdata
  let result ← read path
  match result with
  | .ok bytes =>
    match build.parseOverlayManifest bytes with
    | .ok manifest => return some manifest
    | .error text =>
      Prog.fail (.context s!"parse PGDATA overlay manifest {build.display path}" (.msg text))
  | .error .notFound => return none
  | .error err => Prog.fail (.context s!"read {build.display path}" (.io err))

/-- `write_pgdata_overlay_manifest`, with `write_pgdata_overlay_manifest_values` put in. -/
def writePgdataOverlayManifest (pgdata : Loc) (manifest : PgDataTemplateManifest) :
    RootProg Unit :=
  let overlay : PgDataOverlayManifest :=
    { templateArchiveSha256 := manifest.archiveSha256
      postgresVersion := manifest.postgresVersion
      extensionSqlNames := [] }
  write build "write PGDATA overlay manifest" (pgdataOverlayManifestPath pgdata)
    (build.overlayManifestBytes overlay)

/-- What `try_prepare_pgdata_template_overlay` makes of the overlay manifest it finds: one of
another template is refused, and without one an interrupted PGDATA is removed. -/
def checkExisting (pgdata : Loc) (manifest : PgDataTemplateManifest) :
    Option PgDataOverlayManifest → RootProg Unit
  | some existing =>
    if existing.templateArchiveSha256 = manifest.archiveSha256 then return ()
    else
      bail (s!"PGDATA overlay at {build.display pgdata} was created for template "
        ++ s!"{existing.templateArchiveSha256}, but this runtime provides "
        ++ s!"{manifest.archiveSha256}; delete the root/cache and recreate it")
  | none => do
    let found ← pathExists pgdata
    if found then
      let complete ← clusterIsComplete pgdata
      if complete then return ()
      else removeDirAll build "remove interrupted PGDATA before overlay setup at" pgdata
    else return ()

/-- `try_prepare_pgdata_template_overlay`, with the layout it changes. -/
def tryPreparePgdataTemplateOverlay (pgdata modulePath : Loc) (layout : RuntimeLayout) :
    RootProg (Bool × RuntimeLayout) := do
  let manifest ← orFail (validatedEmbeddedPgdataTemplateManifest build)
  match manifest with
  | none => return (false, layout)
  | some manifest => do
    ensureModuleMatchesTemplate build modulePath manifest
    let template ← pgdataTemplateCache build
    let existing ← readPgdataOverlayManifest build pgdata
    checkExisting build pgdata manifest existing
    createDirAll build "create PGDATA overlay upper" pgdata
    write build "write" (markerCluster pgdata)
      (utf8 (trimmed manifest.postgresVersion ++ "\n"))
    writePgdataOverlayManifest build pgdata manifest
    removeTemplateRuntimeState build pgdata
    return (true, { layout with pgdataTemplateRoot := some template })

/-! ## `prepare_pgdata` -/

/-- `prepare_pgdata` after `initdb`. -/
def freshInitdb (pgdata : Loc) (layout : RuntimeLayout) : RootProg RuntimeLayout := do
  removeInterruptedPgdata build pgdata
  let result ← Prog.perform (RootOp.runSplitInitdb pgdata layout)
  orFail result
  let complete ← clusterIsComplete pgdata
  if complete then
    removeTemplateRuntimeState build pgdata
    return layout
  else
    bail ("split WASIX initdb finished but did not create a complete PGDATA cluster at "
      ++ build.display pgdata)

/-- The overlay in the condition of `prepare_pgdata`; `pgdata_overlay_enabled` is always true. -/
def overlayIfShared (pgdata : Loc) (layout : RuntimeLayout) :
    RootProg (Bool × RuntimeLayout) :=
  if layout.usesSharedOverlay then
    tryPreparePgdataTemplateOverlay build pgdata (modulePath layout) layout
  else return (false, layout)

/-- `prepare_pgdata` for a PGDATA that is not complete. -/
def newPgdata (pgdata : Loc) (policy : ClusterPolicy) (layout : RuntimeLayout) :
    RootProg RuntimeLayout :=
  if policy = .existingOrTemplate then do
    let (overlaid, layout) ← overlayIfShared build pgdata layout
    if overlaid then return layout
    else
      let installed ← tryInstallEmbeddedPgdataTemplate build pgdata (modulePath layout)
      if installed then return layout else freshInitdb build pgdata layout
  else freshInitdb build pgdata layout

/-- `prepare_pgdata` without an overlay that it opens. -/
def existingOrNewPgdata (pgdata : Loc) (policy : ClusterPolicy) (layout : RuntimeLayout) :
    RootProg RuntimeLayout := do
  let complete ← clusterIsComplete pgdata
  if complete then
    removeTemplateRuntimeState build pgdata
    return layout
  else newPgdata build pgdata policy layout

/-- `prepare_pgdata`, with the layout it changes. -/
def preparePgdata (pgdata : Loc) (policy : ClusterPolicy) (layout : RuntimeLayout) :
    RootProg RuntimeLayout := do
  let installed ← pgdataOverlayIsInstalled pgdata
  if installed then
    if !layout.usesSharedOverlay then
      bail (s!"PGDATA at {build.display pgdata} uses the template overlay; delete the root/cache "
        ++ "and recreate it with the shared runtime layout")
    else
      let (overlaid, layout) ←
        tryPreparePgdataTemplateOverlay build pgdata (modulePath layout) layout
      if overlaid then return layout else existingOrNewPgdata build pgdata policy layout
  else existingOrNewPgdata build pgdata policy layout

end

end Root

end PgliteOxide.Pglite
