import PgliteOxide.Pglite.DatabaseRootSteps
import PgliteOxide.Pglite.RootOverlay

/-!
# Starting again after a crash

Both ways to get a PGDATA ready write a JSON manifest over the old one and parse it at the next
start. A process that dies inside this write leaves an empty file, which is no JSON: a database
root is then not prepared any more (`layout_not_read_again`), and an extension template is not
built (`template_not_read_again`). The runtime layout manifest is written at every start.
-/

namespace PgliteOxide.Pglite

open Lib Lib.Prog

namespace Root

variable {build : SetupBuild} {α β : Type}

/-- The program can succeed. -/
def Succeeds (build : SetupBuild) (p : SetupProg α) (s : SetupDisk) : Prop :=
  ∃ s' a, Runs (setupEffects build.toRootBuild) p s s' (.ok a)

/-- Wherever the program is stopped, it can succeed in a new process and keeps the user's files of
a complete cluster. -/
def Recovers (build : SetupBuild) (p : SetupBuild → SetupProg α) (s : SetupDisk) : Prop :=
  ∀ c, Dies (setupEffects build.toRootBuild) (p build) s c →
    Succeeds build (p build.restarted) c ∧
    ∀ s' r, Runs (setupEffects build.toRootBuild) (p build.restarted) c s' r →
      s.root.complete pgdataLoc = true → Kept s.root s'.root

/-- The manifest of an extension template is there as it would be written, beside a cluster. -/
def TemplateCached (build : SetupBuild) (request : ExtensionRequest) (s : SetupDisk) : Prop :=
  ∃ base manifest, validatedEmbeddedPgdataTemplateManifest build.toRootBuild = .ok (some base) ∧
    extensionManifest build request base = .ok manifest ∧
    s.extension.hasMarkers (extensionPgdata manifest.cacheKey) = true ∧
    ∃ bytes, s.extension.node (extensionManifestPath manifest.cacheKey) = some (.file bytes) ∧
      build.parseExtensionManifest bytes = .ok manifest

/-! ## Rules -/

section Rules

variable {Op : Type} {Ans : Op → Type} {ε S : Type} {E : Effects Op Ans S} {B : S → Prop}
  {p : Prog Op Ans ε α} {f : α → Prog Op Ans ε β} {s : S}

/-- What comes first plays no part. -/
lemma exposes_skip {R : S → β → Prop} (h : ∀ s' a, exposes E B R (f a) s') :
    exposes E B R (p >>= f) s := by
  have hhead : returns E (fun _ _ => True) p s := returns_of_forall fun _ _ => trivial
  exact (exposes_of_returns hhead).bind fun s' a _ => h s' a

lemma returns_skip {R : S → β → Prop} (h : ∀ s' a, returns E R (f a) s') :
    returns E R (p >>= f) s :=
  returns.bind (returns_of_forall fun _ _ => trivial) fun s' a (_ : True) => h s' a

end Rules

/-! ## The runtime layout -/

/-- The runtime layout manifest is empty. -/
def LayoutTorn (s : RootDisk) : Prop := s.node runtimeLayoutManifestPath = some (.file [])

lemma exposes_prepareSharedRuntimeUpperRoot (src : Loc) (s : RootDisk) :
    exposes (tornEffects build.toRootBuild) LayoutTorn (fun _ _ => False)
      (prepareSharedRuntimeUpperRoot build src) s := by
  unfold prepareSharedRuntimeUpperRoot writeRuntimeLayoutManifest
  iterate 9 refine exposes_skip fun s _ => ?_
  exact exposes_write (node_put s _ [])

/-- Without a policy of its own, a root has the shared runtime. -/
lemma returns_resolveRuntimeLayoutKind {E : Effects RootOp RootOp.Answer RootDisk} (s : RootDisk) :
    returns E (fun _ kind => kind = .sharedRuntimeOverlay) (resolveRuntimeLayoutKind build .auto)
      s := by
  unfold resolveRuntimeLayoutKind
  refine returns_skip fun s manifest => returns.ite (fun _ => rfl) fun _ => ?_
  exact returns_skip fun s marked => returns.ite (fun _ => rfl) fun _ => rfl

lemma exposes_prepareRuntimeLayout (s : SetupDisk) :
    exposes (setupEffects build.toRootBuild) (fun c => LayoutTorn c.root) (fun _ _ => False)
      (prepareRuntimeLayout build .auto) s := by
  unfold prepareRuntimeLayout
  have hkind : returns (tornEffects build.toRootBuild)
      (fun _ kind => kind = .sharedRuntimeOverlay) (resolveRuntimeLayoutKind build .auto) s.root :=
    returns_resolveRuntimeLayoutKind s.root
  refine (exposes_of_returns (returns_embed sees_root hkind)).bind fun s₁ kind h => ?_
  rw [h.1]
  refine exposes_skip fun s₂ cached => exposes_skip fun s₃ moduleRoot => ?_
  exact (exposes_embed sees_root does_root
    (exposes_prepareSharedRuntimeUpperRoot moduleRoot s₃.root)).head

/-- **Every start may leave the runtime layout manifest empty.** -/
lemma exposes_prepareDatabaseRoot (options : RootPrepareOptions) (s : SetupDisk) :
    exposes (setupEffects build.toRootBuild) (fun c => LayoutTorn c.root) (fun _ _ => False)
      (prepareDatabaseRoot build options) s := by
  have hauto : options.runtime = .auto := by
    cases options <;> rfl
  unfold prepareDatabaseRoot
  rw [hauto]
  exact (exposes_prepareRuntimeLayout s).head

/-- **An empty runtime layout manifest stops every later start.** -/
lemma layout_not_read_again {calls : RootBuild}
    (hempty : ∀ manifest, build.parseLayoutManifest [] ≠ .ok manifest)
    (options : RootPrepareOptions) {s : SetupDisk} (htorn : LayoutTorn s.root) :
    returns (setupEffects calls) (fun _ _ => False) (prepareDatabaseRoot build options) s := by
  have hread : returns (tornEffects calls) (fun _ _ => False)
      (resolveRuntimeLayoutKind build .auto) s.root := by
    intro s' ans hstep
    have hans : rootReadAnswers (s.root.node runtimeLayoutManifestPath) ans := hstep.1.2
    rw [show s.root.node runtimeLayoutManifestPath = _ from htorn] at hans
    rcases hans with rfl | ⟨text, rfl⟩
    · show returns _ _ ((orParse _ (build.parseLayoutManifest []) >>= _) >>= _) s'
      cases hparse : build.parseLayoutManifest [] with
      | ok manifest => exact absurd hparse (hempty manifest)
      | error text => exact trivial
    · exact trivial
  have hauto : options.runtime = .auto := by
    cases options <;> rfl
  unfold prepareDatabaseRoot prepareRuntimeLayout
  rw [hauto]
  refine returns.bind (returns.bind (returns_embed sees_root hread) ?_) fun _ _ hfalse => hfalse
  exact fun _ _ hfalse => hfalse.1.elim

/-! ## Extension templates -/

/-- What the calls do does not depend on how paths are shown. -/
lemma rootEffects_inExtensions (build : SetupBuild) :
    rootEffects build.inExtensions = rootEffects build.toRootBuild := by
  have hstep : rootStep build.inExtensions = rootStep build.toRootBuild := by
    funext op
    cases op <;> rfl
  unfold rootEffects
  rw [hstep]

/-- The template is there, and its manifest is empty. -/
structure TemplateTorn (cacheKey : String) (s : RootDisk) : Prop where
  markers : s.hasMarkers (extensionPgdata cacheKey) = true
  empty : s.node (extensionManifestPath cacheKey) = some (.file [])

/-- A cluster that is promoted may be left with an empty manifest. -/
lemma exposes_promoteExtensionTemplate {base : PgDataTemplateManifest}
    {manifest : ExtensionPgDataTemplateManifest} {staging : FileName} {s : RootDisk}
    (hbuilt : s.hasMarkers ((extensionRoot manifest.cacheKey).join (staging :: builtPgdata))
      = true) :
    exposes (tornEffects build.toRootBuild) (TemplateTorn manifest.cacheKey) (fun _ _ => False)
      (promoteExtensionTemplate build base manifest staging) s := by
  unfold promoteExtensionTemplate
  have hvalidated : returns (rootEffects build.toRootBuild) (fun s' _ => s' = s)
      (validatePgdataTemplateDir build.inExtensions
        ((extensionRoot manifest.cacheKey).join (staging :: builtPgdata)) base) s :=
    returns_same (keepsTo_validatePgdataTemplateDir asks_nothing)
  refine (exposes_of_returns (returns_torn hvalidated)).bind fun s₁ _ hs₁ => ?_
  subst hs₁
  have hremoved : returns (rootEffects build.inExtensions) _ _ s₁ :=
    returns_removeTemplateRuntimeState
      ((extensionRoot manifest.cacheKey).join (staging :: builtPgdata)) s₁
  rw [rootEffects_inExtensions] at hremoved
  refine (exposes_of_returns (returns_torn hremoved)).bind fun s₂ _ hlasting => ?_
  refine fun s₃ renamed hrename => .inr ?_
  cases renamed with
  | error err => exact trivial
  | ok u =>
    have hmoved : ∀ p, s₃.node ((extensionPgdata manifest.cacheKey).join p)
        = s₂.node ((extensionRoot manifest.cacheKey).join (staging :: builtPgdata) |>.join p) := by
      intro p
      rw [show s₃ = _ from hrename.1]
      exact (congrFun (if_pos rfl) _).trans (if_pos (List.prefix_append [baseName] p))
    have hmarkers : s₃.hasMarkers (extensionPgdata manifest.cacheKey) = true := by
      rw [hasMarkers_congr fun p _ => hmoved p, hasMarkers_congr hlasting]
      exact hbuilt
    have htorn : TemplateTorn manifest.cacheKey
        (s₃.put (extensionManifestPath manifest.cacheKey) []) := by
      refine ⟨?_, node_put s₃ _ []⟩
      rw [← hmarkers]
      exact hasMarkers_congr fun p _ => node_put_of_ne s₃ (fun h => by cases h) []
    show exposes _ _ _ (write build.inExtensions "write extension template manifest"
      (extensionManifestPath manifest.cacheKey) (build.extensionManifestBytes manifest) >>= _) s₃
    exact (exposes_write htorn).head

lemma exposes_buildExtensionTemplate (request : ExtensionRequest) (base : PgDataTemplateManifest)
    (manifest : ExtensionPgDataTemplateManifest) (s : SetupDisk) :
    exposes (setupEffects build.toRootBuild) (fun c => TemplateTorn manifest.cacheKey c.extension)
      (fun _ _ => False) (buildExtensionTemplate build request base manifest) s := by
  unfold buildExtensionTemplate
  refine exposes_skip fun s₁ _ => exposes_skip fun s₂ _ => exposes_skip fun s₃ staging => ?_
  refine fun s₄ built hbuilt => .inr ?_
  cases built with
  | error err =>
    show exposes _ _ _
      (onExtensions (perform (RootOp.removeDirAll _)) >>= fun _ => Prog.fail err) s₄
    exact exposes_skip fun _ _ => trivial
  | ok u =>
    have hmarkers := hbuilt.2.2.2 rfl
    exact exposes_embed sees_extension does_extension (exposes_promoteExtensionTemplate hmarkers)

/-! ## The question whether a template is there -/

/-- What the answer of `extension_pgdata_template_is_valid` says. -/
structure Answered (build : SetupBuild) (s : RootDisk) (pgdata path : Loc)
    (expected : ExtensionPgDataTemplateManifest) (valid : Bool) : Prop where
  read : s.hasMarkers pgdata = true → ∀ bytes, s.node path = some (.file bytes) →
    ∃ actual, build.parseExtensionManifest bytes = .ok actual ∧ valid = decide (actual = expected)
  found : valid = true → s.hasMarkers pgdata = true ∧ ∃ bytes, s.node path = some (.file bytes)

lemma safe_extensionPgdataTemplateIsValid (pgdata path : Loc)
    (expected : ExtensionPgDataTemplateManifest) (s : RootDisk) :
    safe (rootEffects build.toRootBuild) (· = s)
      (fun _ r => ∀ valid, r = .ok valid → Answered build s pgdata path expected valid)
      (extensionPgdataTemplateIsValid build pgdata path expected) s := by
  unfold extensionPgdataTemplateIsValid
  rw [safe_hasMarkers]
  refine safe.ite (fun hmarkers => ?_) fun hmarkers => ?_
  · refine safe_read (fun ans hans => ?_) rfl
    cases ans with
    | error err =>
      cases err with
      | notFound =>
        refine ⟨rfl, fun valid hvalid => ?_⟩
        cases hvalid
        refine ⟨fun _ bytes hnode => ?_, nofun⟩
        rw [rootReadAnswers_notFound hans] at hnode
        cases hnode
      | other text => exact ⟨rfl, nofun⟩
    | ok bytes =>
      have hnode := rootReadAnswers_ok hans
      show safe _ _ _ (orParse _ (build.parseExtensionManifest bytes) >>= _) s
      cases hparse : build.parseExtensionManifest bytes with
      | error text => exact ⟨rfl, nofun⟩
      | ok actual =>
        refine ⟨rfl, fun valid hvalid => ?_⟩
        cases hvalid
        refine ⟨fun _ bytes' hnode' => ?_, fun _ => ⟨hmarkers, bytes, hnode⟩⟩
        rw [hnode] at hnode'
        cases hnode'
        exact ⟨actual, hparse, rfl⟩
  · refine ⟨rfl, fun valid hvalid => ?_⟩
    cases hvalid
    exact ⟨fun h => absurd h hmarkers, nofun⟩

lemma safe_onExtensions_isValid (manifest : ExtensionPgDataTemplateManifest) (s : SetupDisk) :
    safe (setupEffects build.toRootBuild) (· = s)
      (fun _ r => ∀ valid, r = .ok valid → Answered build s.extension
        (extensionPgdata manifest.cacheKey) (extensionManifestPath manifest.cacheKey) manifest
        valid)
      (onExtensions (extensionPgdataTemplateIsValid build (extensionPgdata manifest.cacheKey)
        (extensionManifestPath manifest.cacheKey) manifest)) s :=
  safe_onExtensions (safe_extensionPgdataTemplateIsValid _ _ manifest s.extension)

lemma safe_orFail {x : Except RootError α} {s : RootDisk} :
    safe (rootEffects build.toRootBuild) (· = s) (fun _ r => r = x) (orFail x) s := by
  cases x <;> exact ⟨rfl, rfl⟩

/-- Nothing changes up to the lock. -/
lemma safe_requestedTemplate (request : ExtensionRequest) (s : SetupDisk) :
    safe (setupEffects build.toRootBuild) (· = s)
      (fun _ r => ∀ found, r = .ok found →
        validatedEmbeddedPgdataTemplateManifest build.toRootBuild = .ok (some found.1) ∧
          extensionManifest build request found.1 = .ok found.2)
      (requestedTemplate build request) s := by
  unfold requestedTemplate
  refine safe.bind (safe_onRoot safe_orFail) ?_ fun _ _ _ _ => nofun
  rintro s₁ base rfl hbase
  cases base with
  | none => exact ⟨rfl, nofun⟩
  | some base =>
    have hmodule : safe (rootEffects build.toRootBuild) (· = s₁.root)
        (fun _ r => ∀ a, r = .ok a → True)
        (ensureModuleMatchesTemplate build.toRootBuild request.modulePath base) s₁.root :=
      safe_same (keepsTo_ensureModuleMatchesTemplate asks_nothing)
    refine safe.bind (safe_onRoot hmodule) ?_ fun _ _ _ _ => nofun
    rintro s₂ _ rfl -
    refine safe.bind (safe_onRoot safe_orFail) ?_ fun _ _ _ _ => nofun
    rintro s₃ manifest rfl hmanifest
    refine safe.ite (fun _ => ⟨rfl, nofun⟩) fun _ => ?_
    have hlock : safe (rootEffects build.toRootBuild) (· = s₃.extension) (fun _ _ => True)
        (perform (RootOp.lockCache manifest.cacheKey) : RootProg _) s₃.extension := by
      refine ⟨rfl, fun c hc => ?_, fun s' ans hstep => ⟨hstep, trivial⟩⟩
      obtain ⟨ans, hstep⟩ := hc
      exact hstep
    refine safe.bind (safe_onExtensions (Q := fun _ => True) hlock) ?_ fun _ _ _ _ => nofun
    rintro s₄ locked rfl -
    refine safe.bind (safe_onExtensions (Q := fun r => r = locked) safe_orFail) ?_
      fun _ _ _ _ => nofun
    rintro s₅ _ rfl -
    refine ⟨rfl, fun found hfound => ?_⟩
    cases hfound
    exact ⟨hbase.symm, hmanifest.symm⟩

/-! ## `build_extension_pgdata_template_cache` -/

/-- The template that is asked for is there, and its manifest is empty. -/
def RequestTorn (build : SetupBuild) (request : ExtensionRequest) (s : SetupDisk) : Prop :=
  ∃ base manifest, validatedEmbeddedPgdataTemplateManifest build.toRootBuild = .ok (some base) ∧
    extensionManifest build request base = .ok manifest ∧
    TemplateTorn manifest.cacheKey s.extension

/-- **Where the template is not there, it is built, and its manifest may be left empty.** -/
lemma exposes_buildExtensionPgdataTemplateCache {request : ExtensionRequest} {s : SetupDisk}
    (hcached : ¬ TemplateCached build request s) :
    exposes (setupEffects build.toRootBuild) (RequestTorn build request) (fun _ _ => False)
      (buildExtensionPgdataTemplateCache build request) s := by
  unfold buildExtensionPgdataTemplateCache
  refine (exposes_of_returns (returns_of_safe (safe_requestedTemplate request s))).bind ?_
  rintro s₁ ⟨base, manifest⟩ ⟨rfl, hbase, hmanifest⟩
  refine (exposes_of_returns (returns_of_safe (safe_onExtensions_isValid manifest s₁))).bind ?_
  rintro s₂ valid ⟨rfl, hanswered⟩
  cases valid with
  | true =>
    obtain ⟨hmarkers, bytes, hnode⟩ := hanswered.found rfl
    obtain ⟨actual, hparse, hactual⟩ := hanswered.read hmarkers bytes hnode
    have hsame : actual = manifest := of_decide_eq_true hactual.symm
    rw [hsame] at hparse
    exact absurd ⟨base, manifest, hbase, hmanifest, hmarkers, bytes, hnode, hparse⟩ hcached
  | false =>
    refine exposes.head (exposes_imp (exposes_buildExtensionTemplate request base manifest s₂) ?_)
    exact fun c hc => ⟨base, manifest, hbase, hmanifest, hc⟩

/-- **An empty manifest of an extension template stops every later build.** -/
lemma template_not_read_again (hempty : ∀ manifest, build.parseExtensionManifest [] ≠ .ok manifest)
    {request : ExtensionRequest} {s : SetupDisk} (htorn : RequestTorn build request s) :
    returns (setupEffects build.toRootBuild) (fun _ _ => False)
      (buildExtensionPgdataTemplateCache build request) s := by
  obtain ⟨base, manifest, hbase, hmanifest, hmarkers, hnode⟩ := htorn
  unfold buildExtensionPgdataTemplateCache
  refine (returns_of_safe (safe_requestedTemplate request s)).bind ?_
  rintro s₁ ⟨base', manifest'⟩ ⟨rfl, hbase', hmanifest'⟩
  obtain rfl : base = base' := Option.some.inj (Except.ok.inj (hbase.symm.trans hbase'))
  obtain rfl : manifest = manifest' := Except.ok.inj (hmanifest.symm.trans hmanifest')
  refine (returns_of_safe (safe_onExtensions_isValid manifest s₁)).bind ?_
  rintro s₂ valid ⟨rfl, hanswered⟩
  obtain ⟨actual, hparse, -⟩ := hanswered.read hmarkers [] hnode
  exact absurd hparse (hempty actual)

/-- **A template that is there is left as it is.** -/
lemma safe_buildExtensionPgdataTemplateCache {request : ExtensionRequest} {s : SetupDisk}
    (hcached : TemplateCached build request s) :
    safe (setupEffects build.toRootBuild) (· = s) (fun _ _ => True)
      (buildExtensionPgdataTemplateCache build request) s := by
  obtain ⟨base, manifest, hbase, hmanifest, hmarkers, bytes, hnode, hparse⟩ := hcached
  unfold buildExtensionPgdataTemplateCache
  refine (safe_requestedTemplate request s).bind ?_ fun _ _ _ _ => trivial
  intro s₁ found hs₁ hfound
  subst hs₁
  obtain ⟨base', manifest'⟩ := found
  obtain ⟨hbase', hmanifest'⟩ := hfound _ rfl
  obtain rfl : base = base' := Option.some.inj (Except.ok.inj (hbase.symm.trans hbase'))
  obtain rfl : manifest = manifest' := Except.ok.inj (hmanifest.symm.trans hmanifest')
  refine (safe_onExtensions_isValid manifest s₁).bind ?_ fun _ _ _ _ => trivial
  intro s₂ valid hs₂ hanswered
  subst hs₂
  obtain ⟨actual, hactual, hvalid⟩ := (hanswered valid rfl).read hmarkers bytes hnode
  cases hparse.symm.trans hactual
  rw [hvalid, decide_eq_true rfl]
  exact ⟨rfl, trivial⟩

/-! ## Crashes -/

/-- **No start of a database root survives a crash everywhere, and a build of an extension template
only where the template is there already.** -/
theorem recovers_iff (build : SetupBuild)
    (hlayout : ∀ manifest, build.parseLayoutManifest [] ≠ .ok manifest)
    (hextension : ∀ manifest, build.parseExtensionManifest [] ≠ .ok manifest) :
    (∀ options s, Succeeds build (prepareDatabaseRoot build options) s →
      ¬ Recovers build (prepareDatabaseRoot · options) s) ∧
    ∀ request s, Succeeds build (buildExtensionPgdataTemplateCache build request) s →
      (Recovers build (buildExtensionPgdataTemplateCache · request) s ↔
        TemplateCached build request s) := by
  constructor
  · rintro options s ⟨s', a, hrun⟩ hrecovers
    obtain ⟨c, hdies, htorn⟩ := hrun.exposed (exposes_prepareDatabaseRoot options s)
    obtain ⟨⟨s'', a', hagain⟩, -⟩ := hrecovers c hdies
    have hempty : ∀ manifest, build.restarted.parseLayoutManifest [] ≠ .ok manifest := hlayout
    exact hagain.of_returns (layout_not_read_again hempty options htorn)
  · rintro request s ⟨s', a, hrun⟩
    constructor
    · intro hrecovers
      by_contra hcached
      obtain ⟨c, hdies, htorn⟩ := hrun.exposed (exposes_buildExtensionPgdataTemplateCache hcached)
      obtain ⟨⟨s'', a', hagain⟩, -⟩ := hrecovers c hdies
      exact hagain.of_returns (template_not_read_again hextension htorn)
    · intro hcached c hdies
      have hsafe := safe_buildExtensionPgdataTemplateCache hcached
      have hc : c = s := hdies.of_safe hsafe
      subst hc
      refine ⟨⟨s', a, hrun⟩, fun s'' r hagain _ q _ => ?_⟩
      have hs'' : s'' = c := (Runs.dies hagain).of_safe hsafe
      rw [hs'']

/-! ## A root with a cluster -/

/-- A build with a runtime, whose manifests are read and written as far as it matters here: no
bytes are no JSON. -/
def clusterBuild : SetupBuild :=
  { templateBuild with
    parseLayoutManifest := fun bytes =>
      if bytes = [] then .error "EOF while parsing a value at line 1 column 0"
      else .ok { kind := .sharedRuntimeOverlay, sourceKey := (fromUtf8 bytes).getD "" }
    layoutManifestBytes := fun manifest => utf8 manifest.sourceKey
    parseExtensionManifest := fun _ => .error "EOF while parsing a value at line 1 column 0"
    extensionManifestBytes := fun manifest => utf8 manifest.cacheKey
    runtimeCacheKey := .ok "r"
    extensionAssets := []
    displayExtension := fun _ => "extension"
    displayPgroot := "tmp"
    displayInstallRoot := "root" }

/-- A complete cluster that has not been opened with a shared runtime yet. -/
def clusterRoot : SetupDisk := ⟨clusterDisk, fun _ _ => none⟩

/-- Where the cached runtime is. -/
def cachedRuntime : Loc := ⟨.template "r", []⟩

lemma runs_resetDir {s : RootDisk} {loc : Loc} (hnone : s.node loc = none) (hfree : s.Free loc) :
    Runs (tornEffects build.toRootBuild) (resetDir build loc) s (s.makeDirs loc) (.ok ()) :=
  (runs_removeDirIfExists hnone).bind (runs_createDirAll hfree)

lemma runs_copyRuntimeFileIfExists {s : RootDisk} {src dest : Loc} (h : s.node src = none) :
    Runs (tornEffects build.toRootBuild) (copyRuntimeFileIfExists build src dest) s s (.ok ()) := by
  have hstep : (tornEffects build.toRootBuild).step (.pathExists src) s s false :=
    ⟨⟨rfl, by rw [h]; rfl⟩, trivial⟩
  exact .call hstep (.ret () s)

lemma free_of_inits {s : RootDisk} {loc : Loc}
    (h : loc.path.inits.any (s loc.place).isFile = false) : s.Free loc := by
  intro p hp
  rw [Bool.eq_false_iff]
  exact List.any_eq_false.mp h p ((List.mem_inits p loc.path).mpr hp)

/-- The runtime directory of the cluster is made. -/
lemma runs_prepareSharedRuntimeUpperRoot : ∃ s',
    Runs (tornEffects clusterBuild.toRootBuild)
      (prepareSharedRuntimeUpperRoot clusterBuild cachedRuntime) clusterDisk s' (.ok ()) ∧
    s' .pgdata = clusterDisk .pgdata := by
  refine ⟨?_, ?_, ?_⟩
  rotate_left
  · refine (runs_createDirAll (free_of_inits (by decide))).bind ?_
    refine (runs_createDirAll (free_of_inits (by decide))).bind ?_
    refine (runs_createDirAll (free_of_inits (by decide))).bind ?_
    refine (runs_resetDir (by decide) (free_of_inits (by decide))).bind ?_
    refine (runs_resetDir (by decide) (free_of_inits (by decide))).bind ?_
    refine (runs_copyRuntimeFileIfExists (by decide)).bind ?_
    refine (runs_write ⟨by decide, by decide⟩).bind ?_
    refine (runs_createDirAll (free_of_inits (by decide))).bind ?_
    refine runs_write ⟨?_, ?_⟩
    · decide
    · decide
  · rfl

lemma runs_resolveRuntimeLayoutKind :
    Runs (tornEffects clusterBuild.toRootBuild) (resolveRuntimeLayoutKind clusterBuild .auto)
      clusterDisk clusterDisk (.ok .sharedRuntimeOverlay) := by
  have hread : (tornEffects clusterBuild.toRootBuild).step (.read runtimeLayoutManifestPath)
      clusterDisk clusterDisk (.error .notFound) := ⟨⟨rfl, .inl rfl⟩, trivial⟩
  have hmarker : (tornEffects clusterBuild.toRootBuild).step
      (.isFile (runtimeRoot.join [mountfsRuntimeMarker])) clusterDisk clusterDisk false :=
    ⟨⟨rfl, rfl⟩, trivial⟩
  exact .call hread (.call hmarker (.ret _ clusterDisk))

/-- A cluster is kept, and its state files are removed. -/
lemma runs_preparePgdata {build : RootBuild} {policy : ClusterPolicy} {layout : RuntimeLayout}
    {s : RootDisk} (hoverlay : s.isFile (pgdataOverlayManifestPath pgdataLoc) = false)
    (hversion : s.isFile (markerCluster pgdataLoc) = true)
    (hcontrol : s.isFile (markerControlFile pgdataLoc) = true)
    (hfree : ∀ name ∈ templateRuntimeStateFiles,
      (s pgdataLoc.place).isDir (pgdataLoc.join [name]).path = false) :
    ∃ s', Runs (tornEffects build) (preparePgdata build pgdataLoc policy layout) s s'
      (.ok layout) := by
  obtain ⟨s', hremoved⟩ := @runs_removeStateFiles build s pgdataLoc templateRuntimeStateFiles hfree
  have hasks : Asks fun op => ∀ loc data, op ≠ .write loc data :=
    ⟨fun _ _ _ => nofun, fun _ _ _ => nofun, fun _ _ _ => nofun⟩
  have htorn := runs_torn (keepsTo_removeStateFiles hasks fun _ _ _ _ => nofun) hremoved
  have hstep : ∀ {loc : Loc} {found : Bool}, s.isFile loc = found →
      (tornEffects build).step (.isFile loc) s s found :=
    fun h => ⟨⟨rfl, h.symm⟩, trivial⟩
  refine ⟨s', .call (hstep hoverlay) (.call (hstep hversion) (.call (hstep hcontrol) ?_))⟩
  show Runs _ (removeTemplateRuntimeState build pgdataLoc >>= fun _ => pure layout) s s' _
  exact htorn.bind (.ret layout s')

/-- The layout of a root over the cached runtime. -/
def cachedLayout : RuntimeLayout where
  kind := .sharedRuntimeOverlay
  moduleRoot := cachedRuntime
  pgdataTemplateRoot := none

lemma runs_prepareRuntimeLayout : ∃ s,
    Runs (setupEffects clusterBuild.toRootBuild) (prepareRuntimeLayout clusterBuild .auto)
      clusterRoot s (.ok (cachedLayout, false)) ∧
    s.root .pgdata = clusterDisk .pgdata := by
  obtain ⟨root, hmade, hpgdata⟩ := runs_prepareSharedRuntimeUpperRoot
  obtain ⟨s₁, hresolved, hs₁⟩ := Runs.embed (t := clusterRoot) does_root
    runs_resolveRuntimeLayoutKind
  rw [← hs₁] at hmade
  obtain ⟨s₂, hupper, rfl⟩ := hmade.embed does_root
  have hcached : (setupEffects clusterBuild.toRootBuild).step .runtimeCache s₁ s₁
      (.ok cachedRuntime) := ⟨rfl, rfl, rfl⟩
  exact ⟨s₂, hresolved.bind (.call hcached (hupper.bind (.ret _ s₂))), hpgdata⟩

/-- A start that makes a runtime directory beside a cluster. -/
lemma succeeds_clusterRoot (options : RootPrepareOptions) :
    Succeeds clusterBuild (prepareDatabaseRoot clusterBuild options) clusterRoot := by
  have hauto : options.runtime = .auto := by
    cases options <;> rfl
  obtain ⟨s, hlayout, hpgdata⟩ := runs_prepareRuntimeLayout
  have hisFile : ∀ p, s.root.isFile (pgdataLoc.join p) = clusterDisk.isFile (pgdataLoc.join p) :=
    fun p => Files.isFile_congr (congrFun hpgdata p)
  have hfree : ∀ name ∈ templateRuntimeStateFiles,
      (s.root pgdataLoc.place).isDir (pgdataLoc.join [name]).path = false := by
    rw [show s.root pgdataLoc.place = clusterDisk .pgdata from hpgdata]
    decide
  have hoverlay : s.root.isFile (pgdataOverlayManifestPath pgdataLoc) = false :=
    (hisFile _).trans (by decide)
  have hversion : s.root.isFile (markerCluster pgdataLoc) = true :=
    (hisFile _).trans (by decide)
  have hcontrol : s.root.isFile (markerControlFile pgdataLoc) = true :=
    (hisFile _).trans (by decide)
  obtain ⟨root, hprepared⟩ := @runs_preparePgdata clusterBuild.toRootBuild options.cluster
    cachedLayout s.root hoverlay hversion hcontrol hfree
  obtain ⟨s', hprepared, -⟩ := hprepared.embed does_root
  refine ⟨s', (cachedLayout, false), ?_⟩
  unfold prepareDatabaseRoot
  rw [hauto]
  exact hlayout.bind (hprepared.bind (.ret _ s'))

/-- A crash may keep a root with a cluster from being opened again. -/
theorem recovers_iff_cluster :
    Succeeds clusterBuild (prepareDatabaseRoot clusterBuild .template) clusterRoot ∧
    ¬ Recovers clusterBuild (prepareDatabaseRoot · .template) clusterRoot :=
  ⟨succeeds_clusterRoot .template,
    (recovers_iff clusterBuild (fun _ => nofun) fun _ => nofun).1 .template clusterRoot
      (succeeds_clusterRoot .template)⟩

/-- The crash of a start leaves a complete cluster that does not start. -/
theorem cluster_not_opened_again :
    ¬ (Succeeds clusterBuild (prepareDatabaseRoot clusterBuild .template) clusterRoot →
      Recovers clusterBuild (prepareDatabaseRoot · .template) clusterRoot) := by
  intro hrecovers
  have hsucceeds := succeeds_clusterRoot .template
  obtain ⟨s', a, hrun⟩ := hsucceeds
  obtain ⟨c, hdies, htorn⟩ := hrun.exposed (exposes_prepareDatabaseRoot .template clusterRoot)
  obtain ⟨⟨s'', a', hagain⟩, -⟩ := hrecovers (succeeds_clusterRoot .template) c hdies
  have hempty : ∀ manifest, clusterBuild.restarted.parseLayoutManifest [] ≠ .ok manifest :=
    fun _ => nofun
  exact hagain.of_returns (layout_not_read_again hempty .template htorn)

end Root

end PgliteOxide.Pglite
