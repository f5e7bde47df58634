import PgliteOxide.Pglite.RootReturns

/-!
# Opening an overlay

PGDATA with an overlay manifest holds only what differs from a template. When `prepare_pgdata`
returns, PGDATA is complete, and an overlay comes with the template it was made for
(`OpensSoundly`), except where the assets have no template: then an overlay counts as a full
cluster because of its manifest, and is opened without the template (`opensSoundly_iff`).
-/

namespace PgliteOxide.Pglite

open Lib Lib.Prog

namespace Root

/-- The layout has the template that the overlay manifest of PGDATA records. -/
def RecordsTemplate (build : RootBuild) (s : RootDisk) (layout : RuntimeLayout) : Prop :=
  ∃ bytes manifest, s.node (pgdataOverlayManifestPath pgdataLoc) = some (.file bytes) ∧
    build.parseOverlayManifest bytes = .ok manifest ∧
    layout.pgdataTemplateRoot = some (cachedPgdata manifest.templateArchiveSha256)

/-- PGDATA is complete, and an overlay is opened with its template. -/
structure OpensSoundly (build : RootBuild) (s : RootDisk) (layout : RuntimeLayout) : Prop where
  complete : s.complete pgdataLoc = true
  overlay : s.isFile (pgdataOverlayManifestPath pgdataLoc) = true → RecordsTemplate build s layout

/-- An overlay is found while the assets have no template, and nothing stops `prepare_pgdata`. -/
structure OpensWithoutTemplate (build : RootBuild) (layout : RuntimeLayout) (s : RootDisk) :
    Prop where
  overlay : s.isFile (pgdataOverlayManifestPath pgdataLoc) = true
  shared : layout.usesSharedOverlay = true
  noTemplate : validatedEmbeddedPgdataTemplateManifest build = .ok none
  notRecorded : ¬ RecordsTemplate build s layout
  /-- A state file that is a directory cannot be removed. -/
  removable : ∀ name ∈ templateRuntimeStateFiles, (s .pgdata).isDir [name] = false

/-- What is written is read with the hash it was written with. -/
def ReadsBack (build : RootBuild) : Prop := ∀ manifest, ∃ manifest',
  build.parseOverlayManifest (build.overlayManifestBytes manifest) = .ok manifest' ∧
    manifest'.templateArchiveSha256 = manifest.templateArchiveSha256

variable {build : RootBuild} {s : RootDisk} {layout : RuntimeLayout}

lemma Whole.opensSoundly (h : Whole s pgdataLoc) : OpensSoundly build s layout where
  complete := by
    unfold RootDisk.complete
    rw [h.markers, Bool.true_or]
  overlay := by
    rw [h.noOverlay]
    exact nofun

lemma RecordsTemplate.isFile (h : RecordsTemplate build s layout) :
    s.isFile (pgdataOverlayManifestPath pgdataLoc) = true := by
  obtain ⟨bytes, _, hfile, _⟩ := h
  exact Files.isFile_iff.mpr ⟨bytes, hfile⟩

lemma RecordsTemplate.opensSoundly (h : RecordsTemplate build s layout) :
    OpensSoundly build s layout where
  complete := by
    unfold RootDisk.complete
    rw [h.isFile, Bool.or_true]
  overlay := fun _ => h

/-! ## The functions -/

lemma returns_ensureModuleMatchesTemplate {modulePath : Loc} {manifest : PgDataTemplateManifest} :
    returns (rootEffects build) (fun s' _ => s' = s)
      (ensureModuleMatchesTemplate build modulePath manifest) s :=
  returns_same (keepsTo_ensureModuleMatchesTemplate asks_nothing)

/-- A template is installed as a full cluster, or nothing is done. -/
lemma returns_tryInstallEmbeddedPgdataTemplate (hintact : TemplatesIntact build s)
    {modulePath : Loc} :
    returns (rootEffects build) (fun s' installed => if installed then Whole s' pgdataLoc else s' = s)
      (tryInstallEmbeddedPgdataTemplate build pgdataLoc modulePath) s := by
  unfold tryInstallEmbeddedPgdataTemplate
  rw [returns_clusterIsComplete]
  refine returns.ite (fun _ => rfl) fun _ => ?_
  refine returns_orFail fun found hfound => ?_
  cases found with
  | none => exact rfl
  | some manifest =>
    refine returns.bind returns_ensureModuleMatchesTemplate fun s₁ _ hs₁ => ?_
    subst hs₁
    refine returns.bind (returns_pgdataTemplateCache hintact hfound) fun s₂ template h => ?_
    obtain ⟨rfl, hwhole⟩ := h
    refine returns.bind returns_createParent fun s₃ _ hs₃ => ?_
    have hwhole₃ := hwhole.of_place (hs₃ _ fun heq => by cases heq)
    refine returns.bind returns_removePgdata fun s₄ _ hs₄ => ?_
    have hwhole₄ := hwhole₃.of_place (hs₄ _ fun heq => by cases heq)
    refine returns.bind (returns_clonePgdataTemplateDir hwhole₄) fun s₅ _ hinstalled => ?_
    refine returns.bind (returns_removeTemplateRuntimeState pgdataLoc s₅) fun s₆ _ hlasting => ?_
    exact hinstalled.congr hlasting

/-- An overlay is prepared with its template, or the assets have none and nothing is done. -/
lemma returns_tryPreparePgdataTemplateOverlay (hintact : TemplatesIntact build s)
    (hreads : ReadsBack build) {modulePath : Loc} :
    returns (rootEffects build)
      (fun s' prepared => if prepared.1 then RecordsTemplate build s' prepared.2
        else s' = s ∧ prepared.2 = layout ∧
          validatedEmbeddedPgdataTemplateManifest build = .ok none)
      (tryPreparePgdataTemplateOverlay build pgdataLoc modulePath layout) s := by
  unfold tryPreparePgdataTemplateOverlay
  refine returns_orFail fun found hfound => ?_
  cases found with
  | none => exact ⟨rfl, rfl, hfound⟩
  | some manifest =>
    refine returns.bind returns_ensureModuleMatchesTemplate fun s₁ _ hs₁ => ?_
    subst hs₁
    refine returns.bind (returns_pgdataTemplateCache hintact hfound) fun s₂ template h => ?_
    obtain ⟨rfl, -⟩ := h
    refine returns.bind (returns_of_forall fun _ _ => trivial) fun s₃ existing (_ : True) => ?_
    refine returns.bind (returns_of_forall fun _ _ => trivial) fun s₄ _ (_ : True) => ?_
    refine returns.bind (returns_of_forall fun _ _ => trivial) fun s₅ _ (_ : True) => ?_
    refine returns.bind (returns_of_forall fun _ _ => trivial) fun s₆ _ (_ : True) => ?_
    refine returns.bind returns_write fun s₇ _ hwritten => ?_
    refine returns.bind (returns_removeTemplateRuntimeState pgdataLoc s₇) fun s₈ _ hlasting => ?_
    obtain ⟨manifest', hparse, hhash⟩ := hreads
      { templateArchiveSha256 := manifest.archiveSha256
        postgresVersion := manifest.postgresVersion
        extensionSqlNames := [] }
    refine ⟨_, manifest', ?_, hparse, ?_⟩
    · have hkept : s₈.node (pgdataOverlayManifestPath pgdataLoc)
          = s₇.node (pgdataOverlayManifestPath pgdataLoc) :=
        hlasting [overlayManifestName] (by decide)
      rw [hkept, hwritten.2]
      exact node_put s₆ (pgdataOverlayManifestPath pgdataLoc) _
    · rw [hhash]

/-- `initdb` makes a full cluster. -/
lemma returns_freshInitdb
    (hoverlay : s.isFile (pgdataOverlayManifestPath pgdataLoc) = false) :
    returns (rootEffects build) (fun s' _ => Whole s' pgdataLoc)
      (freshInitdb build pgdataLoc layout) s := by
  unfold freshInitdb
  have hinterrupted : returns (rootEffects build)
      (fun s' _ => s'.isFile (pgdataOverlayManifestPath pgdataLoc) = false)
      (removeInterruptedPgdata build pgdataLoc) s := by
    unfold removeInterruptedPgdata
    rw [returns_pathExists]
    refine returns.ite (fun _ => ?_) fun _ => hoverlay
    rw [returns_clusterIsComplete]
    refine returns.ite (fun _ => hoverlay) fun _ => ?_
    refine returns_mono returns_removeDirAll fun s' _ hs' => ?_
    subst hs'
    have hnone := bare_removeTree s [overlayManifestName]
    show ((s.removeTree pgdataLoc) .pgdata).isFile [overlayManifestName] = false
    unfold Files.isFile
    rw [hnone]
  refine returns.bind hinterrupted fun s₁ _ hoverlay₁ => ?_
  intro s₂ result hinitdb
  have hoverlay₂ : s₂.isFile (pgdataOverlayManifestPath pgdataLoc) = false := by
    rw [Bool.eq_false_iff]
    intro hfile
    exact Bool.false_ne_true (hoverlay₁.symm.trans (hinitdb.2 hfile))
  refine returns_orFail fun _ _ => ?_
  rw [returns_clusterIsComplete]
  refine returns.ite (fun hcomplete => ?_) fun _ => trivial
  have hwhole : Whole s₂ pgdataLoc := by
    refine ⟨?_, hoverlay₂⟩
    unfold RootDisk.complete at hcomplete
    rw [hoverlay₂, Bool.or_false] at hcomplete
    exact hcomplete
  refine returns.bind (returns_removeTemplateRuntimeState pgdataLoc s₂) fun s₃ _ hlasting => ?_
  exact hwhole.congr hlasting

/-! ## `prepare_pgdata` -/

lemma returns_newPgdata (hintact : TemplatesIntact build s) (hreads : ReadsBack build)
    (hoverlay : s.isFile (pgdataOverlayManifestPath pgdataLoc) = false) (policy : ClusterPolicy) :
    returns (rootEffects build) (OpensSoundly build) (newPgdata build pgdataLoc policy layout) s := by
  have hfresh : ∀ layout, returns (rootEffects build) (OpensSoundly build)
      (freshInitdb build pgdataLoc layout) s := fun layout =>
    returns_mono (returns_freshInitdb hoverlay) fun _ _ h => h.opensSoundly
  have hinstall : ∀ layout : RuntimeLayout, returns (rootEffects build) (OpensSoundly build)
      (do
        let installed ← tryInstallEmbeddedPgdataTemplate build pgdataLoc (modulePath layout)
        if installed then return layout else freshInitdb build pgdataLoc layout) s := by
    intro layout
    refine returns.bind (returns_tryInstallEmbeddedPgdataTemplate hintact) ?_
    intro s₁ installed h
    cases installed with
    | true => exact Whole.opensSoundly h
    | false =>
      have hs₁ : s₁ = s := h
      subst hs₁
      exact hfresh layout
  unfold newPgdata
  refine returns.ite (fun _ => ?_) fun _ => hfresh layout
  unfold overlayIfShared
  by_cases hshared : layout.usesSharedOverlay = true
  · rw [if_pos hshared]
    refine returns.bind (returns_tryPreparePgdataTemplateOverlay hintact hreads) ?_
    intro s₁ prepared h
    obtain ⟨overlaid, layout₁⟩ := prepared
    cases overlaid with
    | true => exact RecordsTemplate.opensSoundly h
    | false =>
      have hs₁ : s₁ = s := h.1
      subst hs₁
      exact hinstall layout₁
  · rw [if_neg hshared]
    exact hinstall layout

/-- The markers that are there stay. -/
lemma returns_complete (hcomplete : s.complete pgdataLoc = true) :
    returns (rootEffects build)
      (fun s' layout' => layout' = layout ∧ s'.complete pgdataLoc = true ∧
        s'.node (pgdataOverlayManifestPath pgdataLoc)
          = s.node (pgdataOverlayManifestPath pgdataLoc))
      (do
        removeTemplateRuntimeState build pgdataLoc
        return layout) s := by
  refine returns.bind (returns_removeTemplateRuntimeState pgdataLoc s) fun s' _ hlasting => ?_
  have hversion : s'.isFile (markerCluster pgdataLoc) = s.isFile (markerCluster pgdataLoc) :=
    Files.isFile_congr (hlasting [pgVersionName] (by decide))
  have hcontrol : s'.isFile (markerControlFile pgdataLoc) = s.isFile (markerControlFile pgdataLoc) :=
    Files.isFile_congr (hlasting [globalName, pgControlName] (by decide))
  have hoverlay := hlasting [overlayManifestName] (by decide)
  have hinstalled : s'.isFile (pgdataOverlayManifestPath pgdataLoc)
      = s.isFile (pgdataOverlayManifestPath pgdataLoc) := Files.isFile_congr hoverlay
  refine ⟨rfl, ?_, hoverlay⟩
  unfold RootDisk.complete RootDisk.hasMarkers at hcomplete ⊢
  rw [hversion, hcontrol, hinstalled]
  exact hcomplete

/-- A cluster that is complete is opened, soundly where it is no overlay or the layout has the
template. -/
lemma returns_existingOrNewPgdata (hintact : TemplatesIntact build s) (hreads : ReadsBack build)
    (hoverlay : s.isFile (pgdataOverlayManifestPath pgdataLoc) = true →
      RecordsTemplate build s layout) (policy : ClusterPolicy) :
    returns (rootEffects build) (OpensSoundly build)
      (existingOrNewPgdata build pgdataLoc policy layout) s := by
  unfold existingOrNewPgdata
  rw [returns_clusterIsComplete]
  refine returns.ite (fun hcomplete => ?_) fun hcomplete => ?_
  · refine returns_mono (returns_complete hcomplete) fun s' layout' h => ?_
    obtain ⟨rfl, hcomplete', hsame⟩ := h
    refine ⟨hcomplete', fun hfile => ?_⟩
    have hinstalled : s.isFile (pgdataOverlayManifestPath pgdataLoc) = true := by
      rw [← hfile]
      exact Files.isFile_congr hsame.symm
    obtain ⟨bytes, manifest, hnode, hparse, hroot⟩ := hoverlay hinstalled
    exact ⟨bytes, manifest, hsame.trans hnode, hparse, hroot⟩
  · apply returns_newPgdata hintact hreads
    unfold RootDisk.complete at hcomplete
    rw [Bool.or_eq_true, not_or] at hcomplete
    exact Bool.eq_false_iff.mpr hcomplete.2

/-- Where a state file is a directory, the state files are not removed. -/
lemma returns_removeStateFiles_of_dir {pgdata : Loc} {names : List FileName} {name : FileName}
    (hname : name ∈ names) (hnames : names.Nodup)
    (hdir : s.node (pgdata.join [name]) = some .dir) :
    returns (rootEffects build) (fun _ _ => False) (removeStateFiles build pgdata names) s := by
  induction names generalizing s with
  | nil => exact absurd hname List.not_mem_nil
  | cons head names ih =>
    unfold removeStateFiles
    rw [returns_pathExists]
    by_cases heq : name = head
    · subst heq
      rw [hdir]
      intro s₁ ans hstep
      refine returns_orContext fun u hu => ?_
      subst hu
      have hfile : s.isFile (pgdata.join [name]) = false := Files.isFile_of_dir hdir
      exact absurd (hfile.symm.trans hstep.1) Bool.false_ne_true
    · have hmem : name ∈ names := (List.mem_cons.mp hname).resolve_left heq
      have hnodup := (List.nodup_cons.mp hnames).2
      cases (s.node (pgdata.join [head])).isSome with
      | false => exact ih hmem hnodup hdir
      | true =>
        intro s₁ ans hstep
        refine returns_orContext fun u hu => ?_
        subst hu
        apply ih hmem hnodup
        rw [hstep.2, ← hdir]
        show (if pgdata.place = pgdata.place then _ else _ : PgFiles) _ = _
        rw [if_pos rfl]
        refine if_neg fun hpath => heq ?_
        exact List.singleton_inj.mp (List.append_cancel_left hpath)

/-- **An overlay is opened with its template**, unless the assets have none. -/
lemma returns_preparePgdata (hintact : TemplatesIntact build s) (hreads : ReadsBack build)
    (hgood : ¬ OpensWithoutTemplate build layout s) (policy : ClusterPolicy) :
    returns (rootEffects build) (OpensSoundly build)
      (preparePgdata build pgdataLoc policy layout) s := by
  unfold preparePgdata pgdataOverlayIsInstalled
  rw [returns_isFile]
  cases hoverlay : s.isFile (pgdataOverlayManifestPath pgdataLoc) with
  | false =>
    apply returns_existingOrNewPgdata hintact hreads
    rw [hoverlay]
    exact nofun
  | true =>
    rw [if_pos rfl]
    refine returns.ite (fun _ => trivial) fun hshared => ?_
    refine returns.bind (returns_tryPreparePgdataTemplateOverlay hintact hreads) ?_
    intro s₁ prepared h
    obtain ⟨overlaid, layout₁⟩ := prepared
    cases overlaid with
    | true => exact RecordsTemplate.opensSoundly h
    | false =>
      obtain ⟨hs₁, hlayout₁, hnone⟩ := h
      have hs : s₁ = s := hs₁
      have hlayout : layout₁ = layout := hlayout₁
      subst hs
      subst hlayout
      by_cases hrecorded : RecordsTemplate build s₁ layout₁
      · exact returns_existingOrNewPgdata hintact hreads (fun _ => hrecorded) policy
      · -- something is in the way of the state files
        have hblocked : ∃ name ∈ templateRuntimeStateFiles, (s₁ .pgdata).isDir [name] = true := by
          by_contra hfree
          refine hgood ⟨hoverlay, by simpa using hshared, hnone, hrecorded, fun name hname => ?_⟩
          rw [Bool.eq_false_iff]
          exact fun hdir => hfree ⟨name, hname, hdir⟩
        obtain ⟨name, hname, hdir⟩ := hblocked
        have hcomplete : s₁.complete pgdataLoc = true := by
          unfold RootDisk.complete
          rw [hoverlay, Bool.or_true]
        show returns (rootEffects build) _ (existingOrNewPgdata build pgdataLoc policy layout₁) s₁
        unfold existingOrNewPgdata
        rw [returns_clusterIsComplete, hcomplete, if_pos rfl]
        refine returns.bind (returns_removeStateFiles_of_dir hname (by decide)
          (Files.isDir_iff.mp hdir)) ?_
        exact fun _ _ hfalse => hfalse.elim

/-! ## An overlay without its template -/

section Runs

variable {β : Type} {s' : RootDisk} {r : Except RootError β}

lemma runs_question {op : RootOp} {ans : op.Answer} {f : op.Answer → RootProg β}
    (hstep : rootStep build op s s ans) (h : Runs (rootEffects build) (f ans) s s' r) :
    Runs (rootEffects build) (perform op >>= f) s s' r :=
  .call hstep h

lemma runs_isFile {loc : Loc} {f : Bool → RootProg β}
    (h : Runs (rootEffects build) (f (s.isFile loc)) s s' r) :
    Runs (rootEffects build) (isFile loc >>= f) s s' r :=
  runs_question (show rootStep build (.isFile loc) s s (s.isFile loc) from ⟨rfl, rfl⟩) h

lemma runs_clusterIsComplete {pgdata : Loc} {f : Bool → RootProg β}
    (h : Runs (rootEffects build) (f (s.complete pgdata)) s s' r) :
    Runs (rootEffects build) (clusterIsComplete pgdata >>= f) s s' r := by
  unfold clusterIsComplete hasMarkers
  simp only [Prog.bind_assoc]
  apply runs_isFile
  unfold RootDisk.complete RootDisk.hasMarkers at h
  cases hversion : s.isFile (markerCluster pgdata) with
  | false =>
    rw [hversion] at h
    exact runs_isFile h
  | true =>
    rw [hversion] at h
    apply runs_isFile
    cases hcontrol : s.isFile (markerControlFile pgdata) with
    | false =>
      rw [hcontrol] at h
      exact runs_isFile h
    | true =>
      rw [hcontrol] at h
      exact h

end Runs

/-- State files that are no directories are removed. -/
lemma runs_removeStateFiles {pgdata : Loc} {names : List FileName}
    (hfree : ∀ name ∈ names, (s pgdata.place).isDir (pgdata.join [name]).path = false) :
    ∃ s', Runs (rootEffects build) (removeStateFiles build pgdata names) s s' (.ok ()) := by
  induction names generalizing s with
  | nil => exact ⟨s, .ret () s⟩
  | cons name names ih =>
    have hhead := hfree name List.mem_cons_self
    have htail : ∀ n ∈ names, (s pgdata.place).isDir (pgdata.join [n]).path = false :=
      fun n hn => hfree n (List.mem_cons_of_mem name hn)
    unfold removeStateFiles
    cases hnode : s.node (pgdata.join [name]) with
    | none =>
      obtain ⟨s', hrun⟩ := ih htail
      refine ⟨s', runs_question (show rootStep build (.pathExists _) s s false from ⟨rfl, ?_⟩) hrun⟩
      rw [hnode]
      rfl
    | some node =>
      have hfile : s.isFile (pgdata.join [name]) = true := by
        cases node with
        | file data => exact Files.isFile_iff.mpr ⟨data, hnode⟩
        | dir =>
          have hdir : (s pgdata.place).isDir (pgdata.join [name]).path = true :=
            Files.isDir_iff.mpr hnode
          exact absurd (hhead.symm.trans hdir) Bool.false_ne_true
      have herased : ∀ n ∈ names, ((s.erase (pgdata.join [name])) pgdata.place).isDir
          (pgdata.join [n]).path = false := by
        intro n hn
        have hplace : (s.erase (pgdata.join [name])) pgdata.place
            = fun p => if p = (pgdata.join [name]).path then none else s pgdata.place p :=
          if_pos rfl
        have hsame := htail n hn
        rw [hplace]
        rw [Bool.eq_false_iff, ne_eq, Files.isDir_iff] at hsame ⊢
        intro hdir
        apply hsame
        by_cases hpath : (pgdata.join [n]).path = (pgdata.join [name]).path
        · rw [if_pos hpath] at hdir
          cases hdir
        · rw [if_neg hpath] at hdir
          exact hdir
      obtain ⟨s', hrun⟩ := ih herased
      have hstep : (rootEffects build).step (.removeFile (pgdata.join [name])) s
          (s.erase (pgdata.join [name])) (.ok ()) := ⟨hfile, rfl⟩
      refine ⟨s', runs_question (show rootStep build (.pathExists _) s s true from ⟨rfl, ?_⟩) ?_⟩
      · rw [hnode]
        rfl
      · exact Runs.call hstep hrun

/-- An overlay is opened as if it were a full cluster. -/
lemma OpensWithoutTemplate.runs (h : OpensWithoutTemplate build layout s) (policy : ClusterPolicy) :
    ∃ s', Runs (rootEffects build) (preparePgdata build pgdataLoc policy layout) s s' (.ok layout) ∧
      ¬ OpensSoundly build s' layout := by
  obtain ⟨s', hremoved⟩ := @runs_removeStateFiles build s pgdataLoc templateRuntimeStateFiles
    h.removable
  have hcomplete : s.complete pgdataLoc = true := by
    unfold RootDisk.complete
    rw [h.overlay, Bool.or_true]
  have hopened : Runs (rootEffects build) (existingOrNewPgdata build pgdataLoc policy layout) s s'
      (.ok layout) := by
    unfold existingOrNewPgdata
    apply runs_clusterIsComplete
    rw [hcomplete, if_pos rfl]
    exact hremoved.bind (.ret layout s')
  have hlasting := (Runs.of_returns hremoved
    (returns_removeTemplateRuntimeState pgdataLoc s)) [overlayManifestName] (by decide)
  refine ⟨s', ?_, ?_⟩
  · unfold preparePgdata pgdataOverlayIsInstalled tryPreparePgdataTemplateOverlay
    apply runs_isFile
    rw [h.overlay, h.shared, h.noTemplate]
    exact hopened
  · intro hsound
    have hinstalled : s'.isFile (pgdataOverlayManifestPath pgdataLoc) = true :=
      (Files.isFile_congr hlasting).trans h.overlay
    obtain ⟨bytes, manifest, hnode, hparse, hroot⟩ := hsound.overlay hinstalled
    exact h.notRecorded ⟨bytes, manifest, hlasting.symm.trans hnode, hparse, hroot⟩

/-- **Overlays are opened with their template exactly where the assets have one.** Whenever
`prepare_pgdata` returns, PGDATA is complete and an overlay comes with the template its manifest
records, unless an overlay is found without a template in the assets. -/
theorem opensSoundly_iff (build : RootBuild) (policy : ClusterPolicy) (layout : RuntimeLayout)
    (s : RootDisk) (hintact : TemplatesIntact build s) (hreads : ReadsBack build) :
    (∀ s' layout', Runs (rootEffects build) (preparePgdata build pgdataLoc policy layout) s s'
        (.ok layout') → OpensSoundly build s' layout') ↔
      ¬ OpensWithoutTemplate build layout s := by
  constructor
  · intro hsound hwithout
    obtain ⟨s', hrun, hnot⟩ := hwithout.runs policy
    exact hnot (hsound s' layout hrun)
  · intro hgood s' layout' hrun
    exact hrun.of_returns (returns_preparePgdata hintact hreads hgood policy)

/-! ## A root with an overlay -/

/-- A build with a template of hash `a`; of an overlay manifest it writes and reads the hash. -/
def overlayBuild : RootBuild :=
  { templateBuild with
    overlayManifestBytes := fun manifest => utf8 manifest.templateArchiveSha256
    parseOverlayManifest := fun bytes => .ok
      { templateArchiveSha256 := (fromUtf8 bytes).getD ""
        postgresVersion := "17"
        extensionSqlNames := [] } }

/-- An overlay over the template of hash `a`. -/
def overlayFiles : PgDir := .file pgVersionName [49, 55, 10] (.file overlayManifestName [97] .nil)

def overlayDisk : RootDisk
  | .pgdata => overlayFiles.find
  | _ => fun _ => none

theorem opensSoundly_iff_overlay :
    (∀ s' layout', Runs (rootEffects overlayBuild)
      (preparePgdata overlayBuild pgdataLoc .existingOrTemplate sharedLayout) overlayDisk s'
        (.ok layout') → OpensSoundly overlayBuild s' layout') ∧
    overlayDisk.isFile (pgdataOverlayManifestPath pgdataLoc) = true := by
  have hintact : TemplatesIntact overlayBuild overlayDisk := by
    have hcluster : Whole (fun _ => clusterFiles.find) pgdataLoc :=
      ⟨by decide +kernel, by decide +kernel⟩
    refine ⟨fun _ _ => hcluster, ?_, nofun⟩
    intro hash hmarkers
    cases hmarkers
  have hreads : ReadsBack overlayBuild := by
    intro manifest
    refine ⟨_, rfl, ?_⟩
    show (fromUtf8 (utf8 manifest.templateArchiveSha256)).getD "" = _
    rw [fromUtf8_utf8]
    rfl
  refine ⟨(opensSoundly_iff overlayBuild .existingOrTemplate sharedLayout overlayDisk hintact
    hreads).mpr ?_, by decide +kernel⟩
  intro hwithout
  have htemplate : validatedEmbeddedPgdataTemplateManifest overlayBuild ≠ .ok none := by
    decide +kernel
  exact htemplate hwithout.noTemplate

/-- A build without embedded assets. -/
def bareBuild : RootBuild :=
  { overlayBuild with
    bundled := false
    templateManifest := none
    templateArchive := none }

/-- Without assets, an overlay is opened as if it were a full cluster. -/
theorem overlay_opened_as_cluster :
    ¬ ∀ s' layout', Runs (rootEffects bareBuild)
      (preparePgdata bareBuild pgdataLoc .existingOrTemplate sharedLayout) overlayDisk s'
        (.ok layout') → OpensSoundly bareBuild s' layout' := by
  have hwithout : OpensWithoutTemplate bareBuild sharedLayout overlayDisk := by
    refine ⟨by decide +kernel, rfl, rfl, ?_, by decide +kernel⟩
    rintro ⟨_, _, _, _, hroot⟩
    cases hroot
  intro hsound
  obtain ⟨s', hrun, hnot⟩ := hwithout.runs .existingOrTemplate
  exact hnot (hsound s' sharedLayout hrun)

end Root

end PgliteOxide.Pglite
