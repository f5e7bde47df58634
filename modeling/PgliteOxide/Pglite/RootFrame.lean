import PgliteOxide.Pglite.RootSteps

/-!
# An existing cluster is kept

`prepare_pgdata` removes directories in several places. In a PGDATA that is complete none of them
is reached, whatever the policy, the layout and the assets are, however the calls fail, and
wherever the process dies: the only paths that change are `PG_VERSION`, the overlay manifest and
the state files of an earlier run.
-/

namespace PgliteOxide.Pglite

open Lib Lib.Prog

/-- PGDATA. -/
def pgdataLoc : Loc := ⟨.pgdata, []⟩

namespace RootDisk

/-- `PG_VERSION` and `global/pg_control` are there. -/
def hasMarkers (s : RootDisk) (pgdata : Loc) : Bool :=
  s.isFile (Root.markerCluster pgdata) && s.isFile (Root.markerControlFile pgdata)

/-- `cluster_is_complete`, as the disk has it. -/
def complete (s : RootDisk) (pgdata : Loc) : Bool :=
  s.hasMarkers pgdata || s.isFile (Root.pgdataOverlayManifestPath pgdata)

end RootDisk

namespace Root

variable {build : RootBuild} {α β : Type} {I : RootDisk → Prop}
  {Q : RootDisk → Except RootError β → Prop} {s : RootDisk} {pgdata : Loc}

/-! ## Questions -/

/-- A call that changes nothing and has one answer. -/
lemma safe_question {op : RootOp} {ans : op.Answer} {f : op.Answer → RootProg β}
    (hstep : ∀ s' a, rootStep build op s s' a ↔ s' = s ∧ a = ans) :
    safe (rootEffects build) I Q (perform op >>= f) s
      ↔ safe (rootEffects build) I Q (f ans) s := by
  rw [safe_bind, safe_perform]
  constructor
  · intro h
    exact (h.2.2 s ans ((hstep s ans).mpr ⟨rfl, rfl⟩)).2
  · intro h
    refine ⟨h.start, ?_, ?_⟩
    · rintro c ⟨a, hc⟩
      rw [((hstep c a).mp hc).1]
      exact h.start
    · intro s' a hs'
      obtain ⟨rfl, rfl⟩ := (hstep s' a).mp hs'
      exact ⟨h.start, h⟩

@[simp] lemma safe_isFile {loc : Loc} {f : Bool → RootProg β} :
    safe (rootEffects build) I Q (isFile loc >>= f) s
      ↔ safe (rootEffects build) I Q (f (s.isFile loc)) s :=
  safe_question fun _ _ => Iff.rfl

@[simp] lemma safe_hasMarkers {f : Bool → RootProg β} :
    safe (rootEffects build) I Q (hasMarkers pgdata >>= f) s
      ↔ safe (rootEffects build) I Q (f (s.hasMarkers pgdata)) s := by
  unfold hasMarkers RootDisk.hasMarkers
  rw [Prog.bind_assoc, safe_isFile]
  cases s.isFile (markerCluster pgdata)
  · rfl
  · exact safe_isFile

@[simp] lemma safe_clusterIsComplete {f : Bool → RootProg β} :
    safe (rootEffects build) I Q (clusterIsComplete pgdata >>= f) s
      ↔ safe (rootEffects build) I Q (f (s.complete pgdata)) s := by
  unfold clusterIsComplete RootDisk.complete
  rw [Prog.bind_assoc, safe_hasMarkers]
  cases s.hasMarkers pgdata
  · exact safe_isFile
  · rfl

/-- A read, with every answer it may have. -/
lemma safe_read {loc : Loc} {f : Except IoError Bytes → RootProg β}
    (h : ∀ ans, rootReadAnswers (s.node loc) ans → safe (rootEffects build) I Q (f ans) s)
    (hI : I s) : safe (rootEffects build) I Q (read loc >>= f) s := by
  refine safe_bind.mpr (safe_perform.mpr ⟨hI, ?_, ?_⟩)
  · rintro c ⟨ans, rfl, -⟩
    exact hI
  · rintro s' ans ⟨rfl, hans⟩
    exact ⟨hI, h ans hans⟩

/-! ## Harmless calls -/

/-- The paths of a complete PGDATA that may change. -/
def Volatile (p : RelPath) : Prop :=
  p = [pgVersionName] ∨ p = [overlayManifestName] ∨ ∃ name ∈ templateRuntimeStateFiles, p = [name]

/-- Nothing else has changed in PGDATA. -/
def Kept (s₀ s : RootDisk) : Prop := ∀ p, ¬ Volatile p → s .pgdata p = s₀ .pgdata p

/-- Calls that leave the cluster alone. -/
def Harmless : RootOp → Prop
  | .createDirAll loc => loc = pgdataLoc ∨ loc.place ≠ .pgdata
  | .write loc _ => loc.place = .pgdata → Volatile loc.path
  | .removeFile loc => loc.place = .pgdata → Volatile loc.path
  | op => ¬ op.Touches .pgdata

lemma Kept.step {s₀ s' : RootDisk} {op : RootOp} {ans : op.Answer} (hroot : s₀ .pgdata [] = some .dir)
    (hop : Harmless op) (hstep : rootStep build op s s' ans) (hs : Kept s₀ s) : Kept s₀ s' := by
  by_cases htouch : op.Touches .pgdata
  swap
  · intro p hp
    rw [rootStep_frame hstep htouch]
    exact hs p hp
  intro p hp
  rw [← hs p hp]
  have hdir : s .pgdata [] = some .dir := by
    rw [hs [] (by simp [Volatile]), hroot]
  have hmake (loc : Loc) (hloc : loc = pgdataLoc ∨ loc.place ≠ .pgdata) (r : RelPath)
      (hr : r <+: loc.path) : s.makeDirs ⟨loc.place, r⟩ .pgdata p = s .pgdata p := by
    rcases hloc with rfl | hne
    · show (if p <+: r then some .dir else s .pgdata p) = s .pgdata p
      split
      · rename_i hpr
        rw [List.prefix_nil.mp (hpr.trans hr), hdir]
      · rfl
    · rw [RootDisk.makeDirs_of_ne]
      rintro (h | ⟨h, -⟩)
      · exact hne h.symm
      · exact hne h
  have hput (loc : Loc) (hloc : loc.place = .pgdata → Volatile loc.path) (data : Bytes) :
      s.put loc data .pgdata p = s .pgdata p := by
    by_cases hplace : loc.place = .pgdata
    · show (if Place.pgdata = loc.place then (s .pgdata).put loc.path data else s .pgdata) p = _
      rw [if_pos hplace.symm]
      exact if_neg fun h : p = loc.path => hp (h ▸ hloc hplace)
    · exact congrFun (RootDisk.change_of_ne (Ne.symm hplace)) p
  cases op with
  | createDirAll loc =>
    cases ans with
    | ok u =>
      rw [hstep.2]
      exact hmake loc hop loc.path (List.prefix_refl _)
    | error err =>
      rcases hstep with rfl | ⟨r, hr, -, rfl⟩
      · rfl
      · exact hmake loc hop r hr
  | write loc data =>
    cases ans with
    | ok u =>
      rw [hstep.2]
      exact hput loc hop data
    | error err =>
      rcases hstep with rfl | ⟨-, torn, rfl⟩
      · rfl
      · exact hput loc hop torn
  | removeFile loc =>
    cases ans with
    | error err => rw [show s' = s from hstep]
    | ok u =>
      rw [hstep.2]
      by_cases hplace : loc.place = .pgdata
      · show (if Place.pgdata = loc.place then _ else s .pgdata : PgFiles) p = _
        rw [if_pos hplace.symm]
        exact if_neg fun h : p = loc.path => hp (h ▸ hop hplace)
      · exact congrFun (RootDisk.change_of_ne (Ne.symm hplace)) p
  | _ => exact absurd htouch hop

/-- A program of harmless calls keeps the cluster. -/
lemma safe_kept {s₀ : RootDisk} {p : RootProg α} {R : α → Prop} (hroot : s₀ .pgdata [] = some .dir)
    (hp : p.keepsTo Harmless R) (hs : Kept s₀ s) :
    safe (rootEffects build) (Kept s₀) (fun _ r => ∀ a, r = .ok a → R a) p s := by
  refine safe_of_keepsTo ?_ ?_ hp hs
  · rintro op s c hop ⟨ans, hc⟩ hs
    exact hs.step hroot hop hc
  · exact fun op s s' ans hop hstep hs => hs.step hroot hop hstep

/-- A program that works elsewhere leaves PGDATA as it is. -/
lemma safe_elsewhere {p : RootProg α} {q : Place} {R : α → Prop}
    (hp : p.keepsTo (fun op => ¬ op.Touches q) R) :
    safe (rootEffects build) (fun s' => s' q = s q) (fun _ r => ∀ a, r = .ok a → R a) p s := by
  have hkeep : ∀ op s₁ s₂ ans, ¬ op.Touches q → rootStep build op s₁ s₂ ans → s₁ q = s q →
      s₂ q = s q := by
    intro op s₁ s₂ ans hop hstep hs
    rw [rootStep_frame hstep hop, hs]
  refine safe_of_keepsTo ?_ hkeep hp rfl
  rintro op s₁ c hop ⟨ans, hc⟩ hs
  exact hkeep op s₁ c ans hop hc hs

/-! ## What the functions call -/

variable {A : RootOp → Prop}

lemma keepsTo_orFail {x : Except RootError α} : (orFail x).keepsTo A fun _ => True := by
  cases x <;> trivial

lemma keepsTo_orContext {x : Except IoError α} {text : String} :
    (orContext text x).keepsTo A fun _ => True := by
  cases x <;> trivial

lemma keepsTo_bail {text : String} : (bail text : RootProg α).keepsTo A fun _ => True := trivial

lemma keepsTo_createDirAll {text : String} {loc : Loc} (h : A (.createDirAll loc)) :
    (createDirAll build text loc).keepsTo A fun _ => True :=
  keepsTo_seq (keepsTo_call h) fun _ => keepsTo_orContext

lemma keepsTo_write {text : String} {loc : Loc} {data : Bytes} (h : A (.write loc data)) :
    (write build text loc data).keepsTo A fun _ => True :=
  keepsTo_seq (keepsTo_call h) fun _ => keepsTo_orContext

lemma keepsTo_removeDirAll {text : String} {loc : Loc} (h : A (.removeDirAll loc)) :
    (removeDirAll build text loc).keepsTo A fun _ => True :=
  keepsTo_seq (keepsTo_call h) fun _ => keepsTo_orContext

/-- Questions may be asked freely. -/
structure Asks (A : RootOp → Prop) : Prop where
  pathExists : ∀ loc, A (.pathExists loc)
  isFile : ∀ loc, A (.isFile loc)
  read : ∀ loc, A (.read loc)

lemma asks_harmless : Asks Harmless := ⟨fun _ h => h, fun _ h => h, fun _ h => h⟩

lemma asks_elsewhere (q : Place) : Asks fun op => ¬ op.Touches q :=
  ⟨fun _ h => h, fun _ h => h, fun _ h => h⟩

lemma keepsTo_removeDirIfExists (hA : Asks A) {text : String} {loc : Loc}
    (h : A (.removeDirAll loc)) : (removeDirIfExists build text loc).keepsTo A fun _ => True :=
  keepsTo_seq (keepsTo_call (hA.pathExists _)) fun _ =>
    keepsTo_ite (keepsTo_removeDirAll h) trivial

lemma keepsTo_removeStateFiles (hA : Asks A) {names : List FileName}
    (h : ∀ name ∈ names, A (.removeFile (pgdata.join [name]))) :
    (removeStateFiles build pgdata names).keepsTo A fun _ => True := by
  induction names with
  | nil => trivial
  | cons name names ih =>
    have hrest := ih fun n hn => h n (List.mem_cons_of_mem _ hn)
    refine keepsTo_seq (keepsTo_call (hA.pathExists _)) fun found => ?_
    refine keepsTo_ite ?_ hrest
    refine keepsTo_seq (keepsTo_call (h name List.mem_cons_self)) fun result => ?_
    exact keepsTo_seq keepsTo_orContext fun _ => hrest

lemma keepsTo_hasMarkers (hA : Asks A) : (hasMarkers pgdata).keepsTo A fun _ => True :=
  keepsTo_seq (keepsTo_call (hA.isFile _)) fun _ => keepsTo_ite (keepsTo_call (hA.isFile _)) trivial

lemma keepsTo_ensureModuleMatchesTemplate (hA : Asks A) {modulePath : Loc}
    {manifest : PgDataTemplateManifest} :
    (ensureModuleMatchesTemplate build modulePath manifest).keepsTo A fun _ => True := by
  refine keepsTo_seq keepsTo_orFail fun strict => ?_
  refine keepsTo_ite (keepsTo_ite ?_ trivial) ?_
  · exact keepsTo_seq keepsTo_orFail fun expected => keepsTo_ite trivial keepsTo_bail
  · refine keepsTo_seq (keepsTo_call (hA.read _)) fun result => ?_
    exact keepsTo_seq keepsTo_orContext fun bytes => keepsTo_ite trivial keepsTo_bail

lemma keepsTo_validatePgdataTemplateDir (hA : Asks A) {manifest : PgDataTemplateManifest} :
    (validatePgdataTemplateDir build pgdata manifest).keepsTo A fun _ => True := by
  refine keepsTo_seq (keepsTo_call (hA.read _)) fun result => ?_
  refine keepsTo_seq keepsTo_orContext fun bytes => ?_
  split
  · trivial
  · refine keepsTo_ite ?_ keepsTo_bail
    exact keepsTo_seq (keepsTo_call (hA.pathExists _)) fun found => keepsTo_ite trivial keepsTo_bail

/-- The template cache is filled without touching another place. -/
lemma keepsTo_pgdataTemplateCache {q : Place} (hq : ∀ hash, q ≠ .template hash) :
    (pgdataTemplateCache build).keepsTo (fun op => ¬ op.Touches q) fun _ => True := by
  have hA := asks_elsewhere q
  unfold pgdataTemplateCache
  split
  · trivial
  · trivial
  refine keepsTo_mapErr (keepsTo_seq keepsTo_orFail fun manifest => ?_)
  split
  · rename_i manifest archive _
    have hne := hq manifest.archiveSha256
    refine keepsTo_ite keepsTo_bail (keepsTo_seq (keepsTo_call fun h => h) fun locked => ?_)
    refine keepsTo_seq keepsTo_orFail fun _ => keepsTo_seq (keepsTo_hasMarkers hA) fun cached => ?_
    refine keepsTo_ite trivial (keepsTo_seq (keepsTo_removeDirIfExists hA hne) fun _ => ?_)
    refine keepsTo_seq (keepsTo_createDirAll ?_) fun _ => ?_
    · rintro (h | ⟨h, -⟩)
      · exact hne h
      · exact absurd h (by simp)
    refine keepsTo_seq (keepsTo_call fun h => h) fun staging => ?_
    refine keepsTo_seq (keepsTo_call hne) fun unpacked => ?_
    split
    · exact keepsTo_seq (keepsTo_call hne) fun _ => trivial
    · refine keepsTo_seq (keepsTo_validatePgdataTemplateDir hA) fun _ => ?_
      refine keepsTo_seq (keepsTo_removeStateFiles hA fun name _ => hne) fun _ => ?_
      refine keepsTo_seq (keepsTo_call hne) fun renamed => ?_
      exact keepsTo_seq keepsTo_orContext fun _ => trivial
  · trivial
  · trivial

/-! ## A complete cluster -/

/-- An overlay manifest that is there is read or stops the call. -/
lemma safe_readPgdataOverlayManifest (hI : I s)
    (hfile : s.isFile (pgdataOverlayManifestPath pgdata) = true) :
    safe (rootEffects build) I (fun s' r => s' = s ∧ r ≠ .ok none)
      (readPgdataOverlayManifest build pgdata) s := by
  obtain ⟨data, hdata⟩ := Files.isFile_iff.mp hfile
  refine safe_read (fun ans hans => ?_) hI
  rw [show s.node (pgdataOverlayManifestPath pgdata) = _ from hdata] at hans
  rcases hans with rfl | ⟨text, rfl⟩
  · simp only
    split
    · exact ⟨hI, rfl, by simp⟩
    · exact ⟨hI, rfl, by simp⟩
  · exact ⟨hI, rfl, by simp⟩

variable {s₀ : RootDisk} {layout : RuntimeLayout}

lemma kept_of_same (hs : Kept s₀ s) {s' : RootDisk} (h : s' .pgdata = s .pgdata) : Kept s₀ s' := by
  intro p hp
  rw [h]
  exact hs p hp

lemma keepsTo_removeTemplateRuntimeState :
    (removeTemplateRuntimeState build pgdataLoc).keepsTo Harmless fun _ => True :=
  keepsTo_removeStateFiles asks_harmless fun name hname _ => .inr (.inr ⟨name, hname, rfl⟩)

/-- An overlay is prepared without removing anything. -/
lemma safe_tryPreparePgdataTemplateOverlay (hroot : s₀ .pgdata [] = some .dir) (hs : Kept s₀ s)
    (hfile : s.isFile (pgdataOverlayManifestPath pgdataLoc) = true) {modulePath : Loc} :
    safe (rootEffects build) (Kept s₀) (fun s' r => ∀ l, r = .ok (false, l) → s' = s)
      (tryPreparePgdataTemplateOverlay build pgdataLoc modulePath layout) s := by
  unfold tryPreparePgdataTemplateOverlay
  cases validatedEmbeddedPgdataTemplateManifest build with
  | error err => exact ⟨hs, by simp⟩
  | ok found =>
  cases found with
  | none => exact ⟨hs, fun l _ => rfl⟩
  | some manifest =>
  simp only [orFail, Prog.bind_of_pure]
  -- until the overlay manifest is read, nothing happens in PGDATA
  have hmodule := @safe_elsewhere build _ s _ _ _
    (@keepsTo_ensureModuleMatchesTemplate build _ (asks_elsewhere .pgdata) modulePath manifest)
  refine safe.bind (safe_mono hmodule (fun _ h => kept_of_same hs h) fun s' r h _ => h) ?_
    fun s' e _ _ => by simp
  intro s₁ _ hs₁ hsame₁
  have htemplate := @safe_elsewhere build _ s₁ _ .pgdata _
    (@keepsTo_pgdataTemplateCache build .pgdata fun hash => by simp)
  refine safe.bind (safe_mono htemplate (fun _ h => kept_of_same hs₁ h) fun s' r h _ => h) ?_
    fun s' e _ _ => by simp
  intro s₂ template hs₂ hsame₂
  have hfile₂ : s₂.isFile (pgdataOverlayManifestPath pgdataLoc) = true := by
    unfold RootDisk.isFile
    rw [show s₂ (pgdataOverlayManifestPath pgdataLoc).place = s .pgdata from hsame₂.trans hsame₁]
    exact hfile
  refine safe.bind (safe_readPgdataOverlayManifest hs₂ hfile₂) ?_ fun s' e _ _ => by simp
  rintro s₃ existing hs₃ ⟨-, hexisting⟩
  cases existing with
  | none => exact absurd rfl hexisting
  | some existing =>
  -- what is left is harmless, and returns `true`
  refine safe_mono (safe_kept (R := fun a : Bool × RuntimeLayout => a.1 = true) hroot ?_ hs₃)
    (fun _ h => h) fun s' r _ hr l hl => absurd (hr _ hl) (by simp)
  refine keepsTo_seq (keepsTo_ite trivial keepsTo_bail) fun _ => ?_
  refine keepsTo_seq (keepsTo_createDirAll (.inl rfl)) fun _ => ?_
  refine keepsTo_seq (keepsTo_write fun _ => .inl rfl) fun _ => ?_
  refine keepsTo_seq (keepsTo_write fun _ => .inr (.inl rfl)) fun _ => ?_
  exact keepsTo_seq keepsTo_removeTemplateRuntimeState fun _ => rfl

/-- A complete PGDATA is kept by what follows the overlay. -/
lemma safe_existingOrNewPgdata (hroot : s₀ .pgdata [] = some .dir) (hs : Kept s₀ s)
    (hcomplete : s.complete pgdataLoc = true) (policy : ClusterPolicy) :
    safe (rootEffects build) (Kept s₀) (fun _ _ => True)
      (existingOrNewPgdata build pgdataLoc policy layout) s := by
  unfold existingOrNewPgdata
  rw [safe_clusterIsComplete, hcomplete, if_pos rfl]
  exact safe_mono (safe_kept hroot (keepsTo_seq (Q := fun _ => True)
    keepsTo_removeTemplateRuntimeState fun _ => trivial) hs) (fun _ h => h) fun _ _ _ _ => trivial

lemma safe_preparePgdata (hroot : s .pgdata [] = some .dir) (hcomplete : s.complete pgdataLoc = true)
    (policy : ClusterPolicy) :
    safe (rootEffects build) (Kept s) (fun _ _ => True)
      (preparePgdata build pgdataLoc policy layout) s := by
  have hs : Kept s s := fun _ _ => rfl
  unfold preparePgdata pgdataOverlayIsInstalled
  rw [safe_isFile]
  refine safe.ite (fun hfile => safe.ite (fun _ => ⟨hs, trivial⟩) fun _ => ?_) fun _ => ?_
  · refine safe.bind (safe_tryPreparePgdataTemplateOverlay hroot hs hfile) ?_
      fun _ _ _ _ => trivial
    rintro s₁ ⟨overlaid, layout₁⟩ hs₁ hfalse
    cases overlaid with
    | true => exact ⟨hs₁, trivial⟩
    | false =>
      rw [hfalse layout₁ rfl]
      exact safe_existingOrNewPgdata hroot hs hcomplete policy
  · exact safe_existingOrNewPgdata hroot hs hcomplete policy

/-- A complete PGDATA is a directory. -/
lemma root_of_complete (hclosed : (s .pgdata).Closed) (hcomplete : s.complete pgdataLoc = true) :
    s .pgdata [] = some .dir := by
  have hfile : ∃ p, p ≠ [] ∧ (s .pgdata).isFile p = true := by
    unfold RootDisk.complete RootDisk.hasMarkers at hcomplete
    rw [Bool.or_eq_true, Bool.and_eq_true] at hcomplete
    rcases hcomplete with ⟨hversion, -⟩ | hoverlay
    · exact ⟨_, by simp [markerCluster, Loc.join], hversion⟩
    · exact ⟨_, by simp [pgdataOverlayManifestPath, Loc.join], hoverlay⟩
  obtain ⟨p, hp, hfile⟩ := hfile
  obtain ⟨data, hdata⟩ := Files.isFile_iff.mp hfile
  exact hclosed [] p List.nil_prefix hp.symm (by rw [hdata]; simp)

/-- **Data preservation.** In a PGDATA that is complete, `prepare_pgdata` changes `PG_VERSION`,
the overlay manifest and the state files only, for every policy, every layout and all assets,
however it ends and wherever it is stopped. -/
theorem complete_cluster_kept (build : RootBuild) (policy : ClusterPolicy) (layout : RuntimeLayout)
    {s : RootDisk} (hclosed : (s .pgdata).Closed) (hcomplete : s.complete pgdataLoc = true) :
    (∀ s' r, Runs (rootEffects build) (preparePgdata build pgdataLoc policy layout) s s' r →
      ∀ p, ¬ Volatile p → s' .pgdata p = s .pgdata p) ∧
    ∀ s', Dies (rootEffects build) (preparePgdata build pgdataLoc policy layout) s s' →
      ∀ p, ¬ Volatile p → s' .pgdata p = s .pgdata p := by
  have hsafe := @safe_preparePgdata build s layout (root_of_complete hclosed hcomplete) hcomplete
    policy
  refine ⟨fun s' r hrun => ?_, fun s' hdies => hdies.of_safe hsafe⟩
  exact hrun.of_safe (Q := fun s' _ => Kept s s') (safe_mono hsafe (fun _ h => h) fun _ _ h _ => h)

/-! ## A root with a cluster -/

/-- `postmaster.pid`. -/
def postmasterPidName : FileName :=
  ⟨[112, 111, 115, 116, 109, 97, 115, 116, 101, 114, 46, 112, 105, 100], by decide⟩

/-- The files of a full cluster, with a state file left by a process that was killed. -/
def clusterFiles : PgDir :=
  .file pgVersionName [49, 55, 10]
    (.dir globalName (.file pgControlName [7] .nil)
      (.file postmasterPidName [49] .nil))

/-- A root with a full cluster; the template of hash `a` is not cached. -/
def clusterDisk : RootDisk
  | .pgdata => clusterFiles.find
  | _ => fun _ => none

/-- A build whose assets are a template of hash `a`, and which reads every overlay manifest as one
of that template. -/
def templateBuild : RootBuild where
  bundled := true
  templateManifest := some []
  templateArchive := some []
  expectedModuleSha256 := .ok "w"
  parseTemplateManifest _ := .ok
    { postgresVersion := "17"
      wasmSha256 := "w"
      archiveSha256 := "a"
      architectureIndependent := true }
  parseOverlayManifest _ := .ok
    { templateArchiveSha256 := "a"
      postgresVersion := "17"
      extensionSqlNames := [] }
  overlayManifestBytes _ := []
  sha256Hex _ := "a"
  aotVerify := none
  hasRuntimeTar := false
  hasCacheDir := true
  templateReflink := false
  templateCache := none
  archiveTree _ := clusterFiles.find
  display _ := "root"

def sharedLayout : RuntimeLayout where
  kind := .sharedRuntimeOverlay
  moduleRoot := ⟨.runtime, []⟩
  pgdataTemplateRoot := none

/-- The control file survives every attempt to prepare the root. -/
theorem complete_cluster_kept_control :
    (∀ s' r, Runs (rootEffects templateBuild)
      (preparePgdata templateBuild pgdataLoc .existingOrTemplate sharedLayout) clusterDisk s' r →
      s' .pgdata [globalName, pgControlName] = some (.file [7])) ∧
    ∀ s', Dies (rootEffects templateBuild)
      (preparePgdata templateBuild pgdataLoc .existingOrTemplate sharedLayout) clusterDisk s' →
      s' .pgdata [globalName, pgControlName] = some (.file [7]) := by
  have hclosed : (clusterDisk .pgdata).Closed := by
    rintro p q ⟨r, rfl⟩ hne hq
    exact Dir.find_above (by rintro rfl; simp at hne) hq
  have hvolatile : ¬ Volatile [globalName, pgControlName] := by
    rintro (h | h | ⟨name, -, h⟩) <;> simp at h
  have hkept := complete_cluster_kept templateBuild .existingOrTemplate sharedLayout hclosed
    (by decide +kernel)
  refine ⟨fun s' r hrun => ?_, fun s' hdies => ?_⟩
  · rw [hkept.1 s' r hrun _ hvolatile]
    decide +kernel
  · rw [hkept.2 s' hdies _ hvolatile]
    decide +kernel

end Root

end PgliteOxide.Pglite
