import PgliteOxide.Lib.ProgCrash
import PgliteOxide.Pglite.RootReturns
import PgliteOxide.Pglite.TemplateKey

/-!
# Database roots

`prepare_database_root` gets the runtime directory of a root ready and then its PGDATA;
`build_extension_pgdata_template_cache` makes a PGDATA with extensions for new roots to start
from. Both end by writing a manifest over the one they have read before.
-/

namespace PgliteOxide.Pglite

open Lib

/-! ## Names and data -/

/-- `MOUNTFS_RUNTIME_MARKER`. -/
def mountfsRuntimeMarker : FileName := ⟨utf8 ".pglite-oxide-mountfs-runtime", by decide +kernel⟩

/-- `RUNTIME_LAYOUT_MANIFEST_NAME`. -/
def runtimeLayoutManifestName : FileName :=
  ⟨utf8 ".pglite-oxide-runtime-layout.json", by decide +kernel⟩

/-- `DEFAULT_PASSWORD_FILE`. -/
def defaultPasswordFile : Bytes := utf8 "password\n"

def passwordName : FileName := ⟨utf8 "password", by decide +kernel⟩

def tmpName : FileName := ⟨utf8 "tmp", by decide +kernel⟩

/-- `pglite`, the runtime directory and the module. -/
def pgliteName : FileName := ⟨[112, 103, 108, 105, 116, 101], by decide⟩

def binName : FileName := ⟨[98, 105, 110], by decide⟩

def shareName : FileName := ⟨utf8 "share", by decide +kernel⟩

def postgresqlName : FileName := ⟨utf8 "postgresql", by decide +kernel⟩

/-- `extension-template.json`. -/
def extensionTemplateName : FileName := ⟨utf8 "extension-template.json", by decide +kernel⟩

structure RuntimeLayoutManifest where
  kind : RuntimeLayoutKind
  sourceKey : String
deriving DecidableEq

inductive RuntimeLayoutPolicy where
  | auto
  | fullLocal
deriving DecidableEq

/-- `RootPrepareOptions`, which are made by `template()` and `fresh()` only. -/
inductive RootPrepareOptions where
  | template
  | fresh
deriving DecidableEq

namespace RootPrepareOptions

def runtime : RootPrepareOptions → RuntimeLayoutPolicy
  | template => .auto
  | fresh => .auto

def cluster : RootPrepareOptions → ClusterPolicy
  | template => .existingOrTemplate
  | fresh => .existingOrFreshInitdb

end RootPrepareOptions

/-- What is read and written beside the embedded assets: the manifests as `serde_json` has them,
the key of the runtime and the assets of the extensions. -/
structure SetupBuild extends RootBuild where
  parseLayoutManifest : Bytes → Except String RuntimeLayoutManifest
  layoutManifestBytes : RuntimeLayoutManifest → Bytes
  parseExtensionManifest : Bytes → Except String ExtensionPgDataTemplateManifest
  extensionManifestBytes : ExtensionPgDataTemplateManifest → Bytes
  /-- `runtime_cache_key`. -/
  runtimeCacheKey : Except RootError String
  extensionAssets : List (String × String)
  /-- Paths in `pgdata-extension-template`. -/
  displayExtension : Loc → String
  /-- `pgroot`, the directory the runtime directory is in, and the one above it. -/
  displayPgroot : String
  displayInstallRoot : String

namespace SetupBuild

/-- A new process, in which nothing has been looked up yet. -/
def restarted (build : SetupBuild) : SetupBuild := { build with templateCache := none }

/-- The build as the functions on directories see it in `pgdata-extension-template`. -/
def inExtensions (build : SetupBuild) : RootBuild :=
  { build.toRootBuild with display := build.displayExtension }

end SetupBuild

/-! ## Calls -/

inductive SetupOp where
  | root (op : RootOp)
  /-- The same calls in `pgdata-extension-template`, where a template is found by its cache
  key. -/
  | extension (op : RootOp)
  /-- `runtime_cache`: where the cached runtime is. -/
  | runtimeCache
  /-- `fs::metadata`: whether it is a file, and its length. -/
  | metadata (loc : Loc)
  /-- `create_dir_all` of the directory the runtime directory is unpacked into. -/
  | createInstallRoot
  /-- `install_runtime_from_tar`. -/
  | installRuntimeFromTar
  /-- `build_extension_pgdata_template_staging`, in this directory. -/
  | buildStaging (staging : Loc) (extensions : List String) (postgresConfig : PostgresConfig)

abbrev SetupOp.Answer : SetupOp → Type
  | root op => op.Answer
  | extension op => op.Answer
  | runtimeCache => Except RootError Loc
  | metadata _ => Except IoError (Bool × ℕ)
  | createInstallRoot => Except IoError Unit
  | installRuntimeFromTar => Except RootError Bool
  | buildStaging _ _ _ => Except RootError Unit

abbrev SetupProg (α : Type) := Prog SetupOp SetupOp.Answer RootError α

/-- A program over the root and the template cache. -/
def onRoot {α : Type} (p : RootProg α) : SetupProg α := p.embed .root fun _ ans => ans

/-- A program over the extension templates. -/
def onExtensions {α : Type} (p : RootProg α) : SetupProg α := p.embed .extension fun _ ans => ans

namespace Root

/-! ## The runtime directory -/

/-- `PglitePaths::runtime_root`. -/
def runtimeRoot : Loc := ⟨.runtime, []⟩

def runtimeLayoutManifestPath : Loc := runtimeRoot.join [runtimeLayoutManifestName]

/-- `shared_runtime_overlay_enabled`. -/
def sharedRuntimeOverlayEnabled : Bool := true

section

variable (build : SetupBuild)

/-- `with_context` and `?` on the result of `serde_json`. -/
def orParse {α : Type} (text : String) : Except String α → RootProg α
  | .ok a => pure a
  | .error err => Prog.fail (.context text (.msg err))

/-- `read_runtime_layout_manifest`. -/
def readRuntimeLayoutManifest : RootProg (Option RuntimeLayoutManifest) := do
  let result ← read runtimeLayoutManifestPath
  match result with
  | .ok bytes => do
    let manifest ← orParse
      s!"parse runtime layout manifest {build.display runtimeLayoutManifestPath}"
      (build.parseLayoutManifest bytes)
    return some manifest
  | .error .notFound => return none
  | .error err => Prog.fail (.context s!"read {build.display runtimeLayoutManifestPath}" (.io err))

/-- `write_runtime_layout_manifest`. -/
def writeRuntimeLayoutManifest (kind : RuntimeLayoutKind) (sourceKey : String) :
    RootProg Unit := do
  createDirAll build.toRootBuild "create runtime root" runtimeRoot
  write build.toRootBuild "write runtime layout manifest" runtimeLayoutManifestPath
    (build.layoutManifestBytes { kind, sourceKey })

/-- `resolve_runtime_layout_kind`. -/
def resolveRuntimeLayoutKind : RuntimeLayoutPolicy → RootProg RuntimeLayoutKind
  | .fullLocal => return .fullLocal
  | .auto => do
    let manifest ← readRuntimeLayoutManifest build
    if manifest.any (·.kind = .sharedRuntimeOverlay) then return .sharedRuntimeOverlay
    else
      let marked ← isFile (runtimeRoot.join [mountfsRuntimeMarker])
      if marked then return .sharedRuntimeOverlay
      else if sharedRuntimeOverlayEnabled then return .sharedRuntimeOverlay
      else return .fullLocal

/-- `reset_dir`. -/
def resetDir (loc : Loc) : RootProg Unit := do
  removeDirIfExists build.toRootBuild "remove" loc
  createDirAll build.toRootBuild "create" loc

/-- `copy_runtime_file_if_exists`. -/
def copyRuntimeFileIfExists (src dest : Loc) : RootProg Unit := do
  let found ← pathExists src
  if found then
    createParent build.toRootBuild "create" dest
    let taken ← pathExists dest
    if taken then
      let removed ← Prog.perform (RootOp.removeFile dest)
      orContext s!"remove {build.display dest}" removed
      copyFile dest
    else copyFile dest
  else return ()
where
  copyFile (dest : Loc) : RootProg Unit := do
    let result ← read src
    let data ← orContext s!"copy {build.display src} -> {build.display dest}" result
    let copied ← Prog.perform (RootOp.write dest data)
    orContext s!"copy {build.display src} -> {build.display dest}" copied

/-- `prepare_shared_runtime_upper_root`. -/
def prepareSharedRuntimeUpperRoot (srcRuntime : Loc) : RootProg Unit := do
  createDirAll build.toRootBuild "create" runtimeRoot
  createDirAll build.toRootBuild "create" (runtimeRoot.join [⟨utf8 "home", by decide +kernel⟩])
  createDirAll build.toRootBuild "create" (runtimeRoot.join [⟨utf8 "dev", by decide +kernel⟩])
  resetDir build (runtimeRoot.join [tmpName])
  resetDir build
    (runtimeRoot.join [⟨utf8 "dev", by decide +kernel⟩, ⟨utf8 "shm", by decide +kernel⟩])
  copyRuntimeFileIfExists build (srcRuntime.join [passwordName]) (runtimeRoot.join [passwordName])
  write build.toRootBuild "write" (runtimeRoot.join [mountfsRuntimeMarker]) (utf8 "mountfs\n")
  let key ← orFail build.runtimeCacheKey
  writeRuntimeLayoutManifest build .sharedRuntimeOverlay key

/-! ## A runtime of its own -/

/-- The files of `share/postgresql` that `locate_runtime_module` asks for. -/
def requiredShareFiles : List RelPath :=
  [[⟨utf8 "postgres.bki", by decide +kernel⟩],
    [⟨utf8 "timezonesets", by decide +kernel⟩, ⟨utf8 "Default", by decide +kernel⟩],
    [⟨utf8 "timezone", by decide +kernel⟩, ⟨utf8 "UTC", by decide +kernel⟩],
    [⟨utf8 "timezone", by decide +kernel⟩, ⟨utf8 "America", by decide +kernel⟩,
      ⟨utf8 "New_York", by decide +kernel⟩]]

/-- Whether all of these are files. -/
def allFiles (loc : Loc) : List RelPath → RootProg Bool
  | [] => return true
  | relative :: rest => do
    let found ← isFile (loc.join relative)
    if found then allFiles loc rest else return false

/-- `locate_runtime_module`: where the module is. -/
def locateRuntimeModule : RootProg (Option Loc) := do
  let found ← pathExists runtimeRoot
  if !found then return none
  else
    let module := runtimeRoot.join [binName, pgliteName]
    let found ← pathExists module
    if !found then return none
    else
      let share := runtimeRoot.join [shareName, postgresqlName]
      let found ← pathExists share
      if !found then return none
      else
        let complete ← allFiles share requiredShareFiles
        return if complete then some module else none

/-- The files `runtime_support_files_need_repair` asks for. -/
def runtimeSupportFiles : List RelPath :=
  [[passwordName], [shareName, postgresqlName, ⟨utf8 "postgres.bki", by decide +kernel⟩],
    [shareName, postgresqlName, ⟨utf8 "system_views.sql", by decide +kernel⟩],
    [shareName, postgresqlName, ⟨utf8 "timezonesets", by decide +kernel⟩,
      ⟨utf8 "Default", by decide +kernel⟩]]

/-- The loop of `runtime_support_files_need_repair`. -/
def needRepair : List RelPath → SetupProg Bool
  | [] => return false
  | relative :: rest => do
    let result ← Prog.perform (SetupOp.metadata (runtimeRoot.join relative))
    match result with
    | .ok (isFile, length) => if isFile && 0 < length then needRepair rest else return true
    | .error .notFound => return true
    | .error err =>
      Prog.fail (.context s!"stat {build.display (runtimeRoot.join relative)}" (.io err))

/-- `ensure_runtime_password_file`. -/
def ensureRuntimePasswordFile (root : Loc) : RootProg Unit := do
  let path := root.join [passwordName]
  let result ← read path
  match result with
  | .ok bytes =>
    if bytes = [] then write build.toRootBuild "write" path defaultPasswordFile else return ()
  | .error .notFound => write build.toRootBuild "write" path defaultPasswordFile
  | .error err => Prog.fail (.context s!"read {build.display path}" (.io err))

/-- The end of both ways through `ensure_full_runtime`. -/
def finishFullRuntime : RootProg Unit := do
  let key ← orFail build.runtimeCacheKey
  writeRuntimeLayoutManifest build .fullLocal key
  ensureRuntimePasswordFile build runtimeRoot

/-- `install_runtime_from_tar`. -/
def installRuntimeFromTar : SetupProg Bool := do
  let result ← Prog.perform SetupOp.installRuntimeFromTar
  onRoot (orFail result)

/-- `ensure_full_runtime`. -/
def ensureFullRuntime : SetupProg Bool := do
  let existing ← onRoot locateRuntimeModule
  match existing with
  | some _ => do
    let repair ← needRepair build runtimeSupportFiles
    let repaired ← if repair then installRuntimeFromTar else pure false
    onRoot (finishFullRuntime build)
    return repaired
  | none => do
    let created ← Prog.perform SetupOp.createInstallRoot
    onRoot (orContext s!"create parent directory {build.displayInstallRoot}" created)
    let _ ← installRuntimeFromTar
    let located ← onRoot locateRuntimeModule
    match located with
    | none =>
      onRoot (bail (s!"runtime missing: could not locate module under {build.displayPgroot} "
        ++ "after archive install"))
    | some _ => do
      onRoot (finishFullRuntime build)
      return true

/-! ## `prepare_database_root` -/

/-- `prepare_runtime_layout`, and whether the runtime was unpacked. -/
def prepareRuntimeLayout (policy : RuntimeLayoutPolicy) : SetupProg (RuntimeLayout × Bool) := do
  let kind ← onRoot (resolveRuntimeLayoutKind build policy)
  match kind with
  | .fullLocal => do
    let unpacked ← ensureFullRuntime build
    let located ← onRoot locateRuntimeModule
    match located with
    | none =>
      onRoot (bail (s!"runtime missing: could not locate module under {build.displayPgroot} "
        ++ "after install"))
    | some _ =>
      return ({ kind := .fullLocal
                moduleRoot := runtimeRoot
                pgdataTemplateRoot := none }, unpacked)
  | .sharedRuntimeOverlay => do
    let cached ← Prog.perform SetupOp.runtimeCache
    let moduleRoot ← onRoot (orFail cached)
    onRoot (prepareSharedRuntimeUpperRoot build moduleRoot)
    return ({ kind := .sharedRuntimeOverlay
              moduleRoot
              pgdataTemplateRoot := none }, false)

/-- `prepare_database_root`. -/
def prepareDatabaseRoot (options : RootPrepareOptions) : SetupProg (RuntimeLayout × Bool) := do
  let (layout, unpacked) ← prepareRuntimeLayout build options.runtime
  let layout ← onRoot (preparePgdata build.toRootBuild pgdataLoc options.cluster layout)
  return (layout, unpacked)

/-! ## Extension templates -/

/-- What a template with extensions is asked for with. -/
structure ExtensionRequest where
  /-- The `sql_name`s. -/
  extensions : List String
  modulePath : Loc
  postgresConfig : PostgresConfig

/-- `extension_pgdata_template_manifest`. -/
def extensionManifest (request : ExtensionRequest) (base : PgDataTemplateManifest) :
    Except RootError ExtensionPgDataTemplateManifest :=
  let input : TemplateInput :=
    { base
      assets := build.extensionAssets
      extensions := request.extensions
      postgresConfig := request.postgresConfig }
  (input.extensionPgdataTemplateManifest build.sha256Hex).mapError .msg

/-- The directory of a template in `pgdata-extension-template`. -/
def extensionRoot (cacheKey : String) : Loc := ⟨.template cacheKey, []⟩

def extensionPgdata (cacheKey : String) : Loc := (extensionRoot cacheKey).join [baseName]

def extensionManifestPath (cacheKey : String) : Loc :=
  (extensionRoot cacheKey).join [extensionTemplateName]

/-- PGDATA below a root. -/
def builtPgdata : RelPath := [tmpName, pgliteName, baseName]

/-- `extension_pgdata_template_is_valid`. -/
def extensionPgdataTemplateIsValid (pgdata manifestPath : Loc)
    (expected : ExtensionPgDataTemplateManifest) : RootProg Bool := do
  let full ← hasMarkers pgdata
  if full then
    let result ← read manifestPath
    match result with
    | .ok bytes => do
      let actual ← orParse s!"parse {build.displayExtension manifestPath}"
        (build.parseExtensionManifest bytes)
      return actual = expected
    | .error .notFound => return false
    | .error err => Prog.fail (.context s!"read {build.displayExtension manifestPath}" (.io err))
  else return false

/-- `build_extension_pgdata_template_cache` from the staged cluster on. -/
def promoteExtensionTemplate (base : PgDataTemplateManifest)
    (manifest : ExtensionPgDataTemplateManifest) (staging : FileName) : RootProg Unit := do
  let root := extensionRoot manifest.cacheKey
  validatePgdataTemplateDir build.inExtensions (root.join (staging :: builtPgdata)) base
  removeTemplateRuntimeState build.inExtensions (root.join (staging :: builtPgdata))
  let renamed ← Prog.perform (RootOp.rename root.place (staging :: builtPgdata) [baseName])
  orContext ("promote extension PGDATA template cache "
    ++ build.displayExtension (root.join (staging :: builtPgdata)) ++ " -> "
    ++ build.displayExtension (extensionPgdata manifest.cacheKey)) renamed
  write build.inExtensions "write extension template manifest"
    (extensionManifestPath manifest.cacheKey) (build.extensionManifestBytes manifest)
  removeDirAll build.inExtensions "remove extension template build dir" (root.join [staging])

/-- `build_extension_pgdata_template_cache` where there is no valid template. -/
def buildExtensionTemplate (request : ExtensionRequest) (base : PgDataTemplateManifest)
    (manifest : ExtensionPgDataTemplateManifest) : SetupProg Unit := do
  let root := extensionRoot manifest.cacheKey
  onExtensions
    (removeDirIfExists build.inExtensions "remove stale extension PGDATA template cache" root)
  onExtensions (createDirAll build.inExtensions "create extension PGDATA template cache" root)
  let staging ← onExtensions (Prog.perform RootOp.stagingName)
  let built ← Prog.perform (SetupOp.buildStaging (root.join [staging]) request.extensions
    request.postgresConfig)
  match built with
  | .error err => do
    let _ ← onExtensions (Prog.perform (RootOp.removeDirAll (root.join [staging])))
    Prog.fail err
  | .ok () => onExtensions (promoteExtensionTemplate build base manifest staging)

/-- `build_extension_pgdata_template_cache` up to the lock: the manifest of the base template, and
the one that is asked for. -/
def requestedTemplate (request : ExtensionRequest) :
    SetupProg (PgDataTemplateManifest × ExtensionPgDataTemplateManifest) := do
  let base ← onRoot (orFail (validatedEmbeddedPgdataTemplateManifest build.toRootBuild))
  match base with
  | none => onRoot (bail "embedded PGDATA template manifest is unavailable")
  | some base => do
    onRoot (ensureModuleMatchesTemplate build.toRootBuild request.modulePath base)
    let manifest ← onRoot (orFail (extensionManifest build request base))
    if !build.hasCacheDir then onRoot (bail "could not resolve pglite-oxide cache directory")
    else
      let locked ← onExtensions (Prog.perform (RootOp.lockCache manifest.cacheKey))
      onExtensions (orFail locked)
      return (base, manifest)

/-- `build_extension_pgdata_template_cache`. -/
def buildExtensionPgdataTemplateCache (request : ExtensionRequest) :
    SetupProg (Loc × ExtensionPgDataTemplateManifest) := do
  let (base, manifest) ← requestedTemplate build request
  let pgdata := extensionPgdata manifest.cacheKey
  let valid ← onExtensions (extensionPgdataTemplateIsValid build pgdata
    (extensionManifestPath manifest.cacheKey) manifest)
  if valid then return (pgdata, manifest)
  else
    buildExtensionTemplate build request base manifest
    return (pgdata, manifest)

end

end Root

end PgliteOxide.Pglite
