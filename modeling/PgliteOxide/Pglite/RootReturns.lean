import PgliteOxide.Pglite.RootFrame

/-!
# What root preparation leaves when it returns

The functions of `base.rs` one by one: what a template is copied to, what a template cache holds,
and what an overlay is made of, in the state a call returns in.
-/

namespace PgliteOxide.Pglite

open Lib Lib.Prog

namespace Root

variable {build : RootBuild} {α β : Type} {R : RootDisk → β → Prop} {s : RootDisk} {pgdata : Loc}

/-! ## Calls -/

/-- A call that changes nothing and has one answer. -/
lemma returns_question {op : RootOp} {ans : op.Answer} {f : op.Answer → RootProg β}
    (hstep : ∀ s' a, rootStep build op s s' a ↔ s' = s ∧ a = ans) :
    returns (rootEffects build) R (perform op >>= f) s
      ↔ returns (rootEffects build) R (f ans) s := by
  rw [returns_bind]
  constructor
  · intro h
    exact h s ans ((hstep s ans).mpr ⟨rfl, rfl⟩)
  · intro h s' a hs'
    obtain ⟨rfl, rfl⟩ := (hstep s' a).mp hs'
    exact h

@[simp] lemma returns_isFile {loc : Loc} {f : Bool → RootProg β} :
    returns (rootEffects build) R (isFile loc >>= f) s
      ↔ returns (rootEffects build) R (f (s.isFile loc)) s :=
  returns_question fun _ _ => Iff.rfl

@[simp] lemma returns_pathExists {loc : Loc} {f : Bool → RootProg β} :
    returns (rootEffects build) R (pathExists loc >>= f) s
      ↔ returns (rootEffects build) R (f (s.node loc).isSome) s :=
  returns_question fun _ _ => Iff.rfl

@[simp] lemma returns_hasMarkers {f : Bool → RootProg β} :
    returns (rootEffects build) R (hasMarkers pgdata >>= f) s
      ↔ returns (rootEffects build) R (f (s.hasMarkers pgdata)) s := by
  unfold hasMarkers RootDisk.hasMarkers
  rw [Prog.bind_assoc, returns_isFile]
  cases s.isFile (markerCluster pgdata)
  · rfl
  · exact returns_isFile

@[simp] lemma returns_clusterIsComplete {f : Bool → RootProg β} :
    returns (rootEffects build) R (clusterIsComplete pgdata >>= f) s
      ↔ returns (rootEffects build) R (f (s.complete pgdata)) s := by
  unfold clusterIsComplete RootDisk.complete
  rw [Prog.bind_assoc, returns_hasMarkers]
  cases s.hasMarkers pgdata
  · exact returns_isFile
  · rfl

/-- `?` on the result of a call of `std::fs`. -/
lemma returns_orContext {x : Except IoError α} {text : String} {f : α → RootProg β}
    (h : ∀ a, x = .ok a → returns (rootEffects build) R (f a) s) :
    returns (rootEffects build) R (orContext text x >>= f) s := by
  cases x with
  | ok a => exact h a rfl
  | error err => exact trivial

lemma returns_orFail {x : Except RootError α} {f : α → RootProg β}
    (h : ∀ a, x = .ok a → returns (rootEffects build) R (f a) s) :
    returns (rootEffects build) R (orFail x >>= f) s := by
  cases x with
  | ok a => exact h a rfl
  | error err => exact trivial

lemma returns_createDirAll {text : String} {loc : Loc} :
    returns (rootEffects build) (fun s' _ => s.Free loc ∧ s' = s.makeDirs loc)
      (createDirAll build text loc) s := by
  intro s' ans hstep
  cases ans with
  | ok u => exact hstep
  | error err => exact trivial

lemma returns_write {text : String} {loc : Loc} {data : Bytes} :
    returns (rootEffects build) (fun s' _ => s.Writable loc ∧ s' = s.put loc data)
      (write build text loc data) s := by
  intro s' ans hstep
  cases ans with
  | ok u => exact hstep
  | error err => exact trivial

lemma returns_removeDirAll {text : String} {loc : Loc} :
    returns (rootEffects build) (fun s' _ => s' = s.removeTree loc)
      (removeDirAll build text loc) s := by
  intro s' ans hstep
  cases ans with
  | ok u => exact hstep
  | error err => exact trivial

lemma returns_removeDirIfExists {text : String} {loc : Loc} :
    returns (rootEffects build)
      (fun s' _ => (s' = s ∧ s.node loc = none) ∨ s' = s.removeTree loc)
      (removeDirIfExists build text loc) s := by
  unfold removeDirIfExists
  rw [returns_pathExists]
  cases hnode : s.node loc with
  | none => exact .inl ⟨rfl, rfl⟩
  | some node => exact returns_mono returns_removeDirAll fun _ _ h => .inr h

/-- The questions touch no place. -/
lemma asks_nothing : Asks fun op => ∀ q, ¬ op.Touches q :=
  ⟨fun _ _ h => h, fun _ _ h => h, fun _ _ h => h⟩

/-- A program of questions leaves the state as it is. -/
lemma safe_same {p : RootProg α} {R : α → Prop}
    (hp : p.keepsTo (fun op => ∀ q, ¬ op.Touches q) R) :
    safe (rootEffects build) (· = s) (fun _ r => ∀ a, r = .ok a → R a) p s := by
  have hkeep : ∀ op s₁ s₂ ans, (∀ q, ¬ op.Touches q) → rootStep build op s₁ s₂ ans → s₁ = s →
      s₂ = s := by
    intro op s₁ s₂ ans hop hstep hs
    rw [← hs]
    exact funext fun q => rootStep_frame hstep (hop q)
  refine safe_of_keepsTo ?_ hkeep hp rfl
  intro op s₁ c hop hcrash hs
  obtain ⟨ans, hc⟩ := hcrash
  exact hkeep op s₁ c ans hop hc hs

lemma returns_same {p : RootProg α}
    (hp : p.keepsTo (fun op => ∀ q, ¬ op.Touches q) fun _ => True) :
    returns (rootEffects build) (fun s' _ => s' = s) p s :=
  returns_mono (returns_of_safe (safe_same hp)) fun _ _ h => h.1

/-! ## State files -/

/-- Nothing but the state files is removed. -/
lemma returns_removeStateFiles (pgdata : Loc) (names : List FileName) (s : RootDisk) :
    returns (rootEffects build)
      (fun s' _ => ∀ loc : Loc, (∀ name ∈ names, loc ≠ pgdata.join [name]) → s'.node loc = s.node loc)
      (removeStateFiles build pgdata names) s := by
  induction names generalizing s with
  | nil => exact fun loc _ => rfl
  | cons name names ih =>
    unfold removeStateFiles
    rw [returns_pathExists]
    cases (s.node (pgdata.join [name])).isSome with
    | false =>
      exact returns_mono (ih s) fun s' _ h loc hloc =>
        h loc fun n hn => hloc n (List.mem_cons_of_mem name hn)
    | true =>
      intro s₁ ans hstep
      refine returns_orContext fun u hu => ?_
      subst hu
      refine returns_mono (ih s₁) fun s' _ h loc hloc => ?_
      rw [h loc fun n hn => hloc n (List.mem_cons_of_mem name hn), hstep.2]
      have hne : loc ≠ pgdata.join [name] := hloc name List.mem_cons_self
      show (if loc.place = pgdata.place then _ else s loc.place : PgFiles) loc.path = _
      by_cases hplace : loc.place = pgdata.place
      · have hpath : loc.path ≠ (pgdata.join [name]).path := fun hpath =>
          hne (by cases loc; cases hplace; cases hpath; rfl)
        rw [if_pos hplace]
        exact if_neg hpath
      · rw [if_neg hplace]
        rfl

/-- A path that is no state file. -/
def Lasting (p : RelPath) : Prop := ∀ name ∈ templateRuntimeStateFiles, p ≠ [name]

instance (p : RelPath) : Decidable (Lasting p) :=
  inferInstanceAs (Decidable (∀ name ∈ templateRuntimeStateFiles, p ≠ [name]))

lemma returns_removeTemplateRuntimeState (pgdata : Loc) (s : RootDisk) :
    returns (rootEffects build)
      (fun s' _ => ∀ p, Lasting p → s'.node (pgdata.join p) = s.node (pgdata.join p))
      (removeTemplateRuntimeState build pgdata) s := by
  refine returns_mono (returns_removeStateFiles pgdata templateRuntimeStateFiles s) ?_
  intro s' _ h p hp
  apply h
  intro name hname heq
  have hpath : pgdata.path ++ p = pgdata.path ++ [name] := congrArg Loc.path heq
  exact hp name hname (List.append_cancel_left hpath)

/-! ## Full clusters -/

lemma hasMarkers_congr {s s' : RootDisk} {pgdata pgdata' : Loc}
    (h : ∀ p, Lasting p → s'.node (pgdata'.join p) = s.node (pgdata.join p)) :
    s'.hasMarkers pgdata' = s.hasMarkers pgdata := by
  have hversion : s'.isFile (markerCluster pgdata') = s.isFile (markerCluster pgdata) :=
    Files.isFile_congr (h [pgVersionName] (by decide +kernel))
  have hcontrol : s'.isFile (markerControlFile pgdata') = s.isFile (markerControlFile pgdata) :=
    Files.isFile_congr (h [globalName, pgControlName] (by decide +kernel))
  unfold RootDisk.hasMarkers
  rw [hversion, hcontrol]

/-- The markers of a full cluster, and no overlay manifest. -/
structure Whole (s : RootDisk) (pgdata : Loc) : Prop where
  markers : s.hasMarkers pgdata = true
  noOverlay : s.isFile (pgdataOverlayManifestPath pgdata) = false

/-- What is a full cluster stays one where its lasting files do. -/
lemma Whole.congr {s s' : RootDisk} {pgdata pgdata' : Loc} (h : Whole s pgdata)
    (hsame : ∀ p, Lasting p → s'.node (pgdata'.join p) = s.node (pgdata.join p)) :
    Whole s' pgdata' where
  markers := (hasMarkers_congr hsame).trans h.markers
  noOverlay := by
    have hoverlay : s'.isFile (pgdataOverlayManifestPath pgdata')
        = s.isFile (pgdataOverlayManifestPath pgdata) :=
      Files.isFile_congr (hsame [overlayManifestName] (by decide +kernel))
    exact hoverlay.trans h.noOverlay

lemma Whole.of_place {s s' : RootDisk} (h : Whole s pgdata)
    (hsame : s' pgdata.place = s pgdata.place) : Whole s' pgdata := by
  apply h.congr
  intro p _
  unfold RootDisk.node
  rw [show s' (pgdata.join p).place = s (pgdata.join p).place from hsame]

/-- The embedded template is a full cluster, and so are the cached ones as far as they have its
markers; a template that was found before is there. -/
structure TemplatesIntact (build : RootBuild) (s : RootDisk) : Prop where
  archive : ∀ bytes, build.templateArchive = some bytes →
    Whole (fun _ => build.archiveTree bytes) pgdataLoc
  cached : ∀ hash, s.hasMarkers (cachedPgdata hash) = true → Whole s (cachedPgdata hash)
  found : ∀ loc, build.templateCache = some (.ok loc) → ∃ manifest,
    validatedEmbeddedPgdataTemplateManifest build = .ok (some manifest) ∧
      loc = cachedPgdata manifest.archiveSha256 ∧ s.hasMarkers loc = true

/-! ## The template cache -/

variable {manifest : PgDataTemplateManifest}

/-- The cached template is a full cluster. -/
lemma returns_buildPgdataTemplateCache (hintact : TemplatesIntact build s)
    (hmanifest : validatedEmbeddedPgdataTemplateManifest build = .ok (some manifest)) :
    returns (rootEffects build)
      (fun s' loc => loc = cachedPgdata manifest.archiveSha256 ∧ Whole s' loc)
      (buildPgdataTemplateCache build) s := by
  unfold buildPgdataTemplateCache
  rw [hmanifest]
  cases harchive : build.templateArchive with
  | none => exact trivial
  | some archive =>
    show returns (rootEffects build) _ (if _ then _ else _) s
    cases build.hasCacheDir with
    | false => exact trivial
    | true =>
      intro s₁ locked hlock
      have hs₁ : s₁ = s := hlock
      subst hs₁
      refine returns_orFail fun _ _ => ?_
      rw [returns_hasMarkers]
      refine returns.ite (fun hcached => ⟨rfl, hintact.cached _ hcached⟩) fun _ => ?_
      refine returns.bind returns_removeDirIfExists fun s₂ _ _ => ?_
      refine returns.bind returns_createDirAll fun s₃ _ _ => ?_
      intro s₄ staging hstaging s₅ unpacked hunpack
      cases unpacked with
      | error err => exact fun _ _ _ => trivial
      | ok u =>
        obtain ⟨f, -, -, htree⟩ := hunpack
        have hwhole : Whole s₅ (Loc.join ⟨.template manifest.archiveSha256, []⟩ [staging]) :=
          (hintact.archive archive harchive).congr fun p _ => htree rfl p
        show returns (rootEffects build) _ (validatePgdataTemplateDir build _ manifest >>= _) s₅
        refine returns.bind (returns_same (keepsTo_validatePgdataTemplateDir asks_nothing)) ?_
        intro s₆ _ hs₆
        subst hs₆
        refine returns.bind (returns_removeTemplateRuntimeState _ s₆) fun s₇ _ hlasting => ?_
        intro s₈ renamed hrename
        refine returns_orContext fun u hu => ?_
        subst hu
        have hmoved : ∀ p, s₈.node ((cachedPgdata manifest.archiveSha256).join p)
            = s₇.node ((Loc.join ⟨.template manifest.archiveSha256, []⟩ [staging]).join p) := by
          intro p
          rw [show s₈ = _ from hrename]
          show (if Place.template manifest.archiveSha256 = _ then _ else _ : PgFiles) _ = _
          rw [if_pos rfl]
          exact if_pos (List.prefix_append [baseName] p)
        exact ⟨rfl, (hwhole.congr hlasting).congr fun p _ => hmoved p⟩

lemma returns_pgdataTemplateCache (hintact : TemplatesIntact build s)
    (hmanifest : validatedEmbeddedPgdataTemplateManifest build = .ok (some manifest)) :
    returns (rootEffects build)
      (fun s' loc => loc = cachedPgdata manifest.archiveSha256 ∧ Whole s' loc)
      (pgdataTemplateCache build) s := by
  unfold pgdataTemplateCache
  cases hcache : build.templateCache with
  | none =>
    exact returns_mapErr.mpr (returns_buildPgdataTemplateCache hintact hmanifest)
  | some memo =>
    cases memo with
    | error message => exact trivial
    | ok loc =>
      obtain ⟨manifest', hmanifest', hloc, hmarkers⟩ := hintact.found loc hcache
      rw [hmanifest] at hmanifest'
      cases hmanifest'
      subst hloc
      exact ⟨rfl, hintact.cached _ hmarkers⟩

/-! ## Copying a template -/

/-- A directory is made where there is no file on the way, so that files stay. -/
lemma isFile_makeDirs {s : RootDisk} {dest : Loc} (hfree : s.Free dest) (p : RelPath) :
    ((s.makeDirs dest) dest.place).isFile p = (s dest.place).isFile p := by
  have hplace : (s.makeDirs dest) dest.place = (s dest.place).makeDirs dest.path := if_pos rfl
  rw [hplace]
  exact Files.isFile_makeDirs hfree p

/-- What is written is there. -/
lemma node_put (s : RootDisk) (loc : Loc) (data : Bytes) :
    (s.put loc data).node loc = some (.file data) := by
  have hput : (s.put loc data) loc.place = (s loc.place).put loc.path data := if_pos rfl
  show (s.put loc data) loc.place loc.path = _
  rw [hput]
  exact if_pos rfl

/-- Nothing else is written. -/
lemma node_put_of_ne (s : RootDisk) {loc loc' : Loc} (h : loc' ≠ loc) (data : Bytes) :
    (s.put loc data).node loc' = s.node loc' := by
  by_cases hplace : loc'.place = loc.place
  · have hput : (s.put loc data) loc'.place = (s loc'.place).put loc.path data := if_pos hplace
    show (s.put loc data) loc'.place loc'.path = _
    rw [hput]
    refine if_neg fun hpath => h ?_
    cases loc
    cases loc'
    cases hplace
    cases hpath
    rfl
  · have hput : (s.put loc data) loc'.place = s loc'.place := RootDisk.change_of_ne hplace
    exact congrFun hput loc'.path

lemma isFile_put (s : RootDisk) (dest : Loc) (data : Bytes) (p : RelPath) :
    ((s.put dest data) dest.place).isFile p = true ↔
      p = dest.path ∨ (s dest.place).isFile p = true := by
  have hput : (s.put dest data) dest.place = (s dest.place).put dest.path data := if_pos rfl
  rw [hput]
  exact Files.isFile_put

/-- The files of one place, after files have been added at some paths. -/
def Adds (place : Place) (added : RelPath → Prop) (s s' : RootDisk) : Prop :=
  ∀ p, (s' place).isFile p = true ↔ added p ∨ (s place).isFile p = true

lemma Adds.trans {place : Place} {added added' : RelPath → Prop} {s s' s'' : RootDisk}
    (h : Adds place added s s') (h' : Adds place added' s' s'') :
    Adds place (fun p => added p ∨ added' p) s s'' := by
  intro p
  rw [h' p, h p]
  constructor
  · rintro (hadded | hadded | hfile)
    · exact .inl (.inr hadded)
    · exact .inl (.inl hadded)
    · exact .inr hfile
  · rintro ((hadded | hadded) | hfile)
    · exact .inr (.inl hadded)
    · exact .inl hadded
    · exact .inr (.inr hfile)

lemma Adds.congr {place : Place} {added added' : RelPath → Prop} {s s' : RootDisk}
    (h : Adds place added s s') (hiff : ∀ p, added p ↔ added' p) : Adds place added' s s' := by
  intro p
  rw [h p, hiff p]

lemma returns_createDirAll_adds {text : String} {dest : Loc} :
    returns (rootEffects build) (fun s' _ => Adds dest.place (fun _ => False) s s')
      (createDirAll build text dest) s := by
  refine returns_mono returns_createDirAll fun s' _ h p => ?_
  rw [h.2, isFile_makeDirs h.1]
  simp only [false_or]

lemma returns_write_adds {text : String} {dest : Loc} {data : Bytes} :
    returns (rootEffects build) (fun s' _ => Adds dest.place (· = dest.path) s s')
      (write build text dest data) s := by
  refine returns_mono returns_write fun s' _ h p => ?_
  rw [h.2]
  exact isFile_put s dest data p

/-- A call that changes the destination only, before the file is written there. -/
lemma returns_cloneMutableTemplateFile {src dest : Loc} {data : Bytes} :
    returns (rootEffects build) (fun s' _ => Adds dest.place (· = dest.path) s s')
      (cloneMutableTemplateFile build src dest data) s := by
  unfold cloneMutableTemplateFile
  refine returns.ite (fun _ => ?_) fun _ => returns_write_adds
  intro s₁ cloned hclone
  have hput : ∀ torn, Adds dest.place (· = dest.path) s (s.put dest torn) :=
    fun torn p => isFile_put s dest torn p
  cases cloned with
  | true =>
    show Adds dest.place (· = dest.path) s s₁
    rw [hclone.2]
    exact hput data
  | false =>
    -- what is left at the destination, or nothing, and then the file
    have hrest : ∀ p, p ≠ dest.path → (s₁ dest.place).isFile p = (s dest.place).isFile p := by
      intro p hp
      rcases hclone with rfl | ⟨-, torn, rfl⟩
      · rfl
      · rw [Bool.eq_iff_iff, hput torn p]
        simp only [hp, false_or]
    intro s₂ removed hremove
    have hrest' : ∀ p, p ≠ dest.path → (s₂ dest.place).isFile p = (s dest.place).isFile p := by
      intro p hp
      rw [← hrest p hp]
      cases removed with
      | error err => rw [show s₂ = s₁ from hremove]
      | ok u =>
        rw [hremove.2]
        have herase : (s₁.erase dest) dest.place
            = fun p => if p = dest.path then none else s₁ dest.place p := if_pos rfl
        rw [herase]
        exact Files.isFile_congr (if_neg hp)
    refine returns_mono returns_write_adds fun s' _ h p => ?_
    rw [h p]
    by_cases hp : p = dest.path
    · simp only [hp, true_or]
    · rw [hrest' p hp]

/-- No entry on the way is left out of a copy. -/
def Copied (p : RelPath) : Prop := ∀ name ∈ p, shouldSkipTemplateEntry name = false

instance (p : RelPath) : Decidable (Copied p) :=
  inferInstanceAs (Decidable (∀ name ∈ p, shouldSkipTemplateEntry name = false))

/-- The files of a directory that is copied. -/
def CopiedFile (dest : Loc) (tree : PgDir) (p : RelPath) : Prop :=
  ∃ q data, tree.HasFile q data ∧ Copied q ∧ p = dest.path ++ q

/-- **A copy adds the files of the directory**, but for the entries it leaves out. -/
lemma returns_copyEntries (source dest : Loc) (tree : PgDir) (s : RootDisk) :
    returns (rootEffects build) (fun s' _ => Adds dest.place (CopiedFile dest tree) s s')
      (copyEntries build source dest tree) s := by
  induction tree generalizing source dest s with
  | nil =>
    show Adds dest.place (CopiedFile dest .nil) s s
    intro p
    have hnone : ¬ CopiedFile dest .nil p := fun ⟨q, data, hfile, _⟩ => hfile
    simp only [hnone, false_or]
  | file name data rest ih =>
    have hiff : ∀ p, CopiedFile dest (.file name data rest) p ↔
        (shouldSkipTemplateEntry name = false ∧ p = dest.path ++ [name]) ∨
          CopiedFile dest rest p := by
      intro p
      constructor
      · rintro ⟨q, d, ⟨rfl, -⟩ | hfile, hcopied, rfl⟩
        · exact .inl ⟨hcopied name (List.mem_singleton_self name), rfl⟩
        · exact .inr ⟨q, d, hfile, hcopied, rfl⟩
      · rintro (⟨hskip, rfl⟩ | ⟨q, d, hfile, hcopied, rfl⟩)
        · exact ⟨[name], data, .inl ⟨rfl, rfl⟩,
            fun n hn => by rw [List.mem_singleton.mp hn]; exact hskip, rfl⟩
        · exact ⟨q, d, .inr hfile, hcopied, rfl⟩
    unfold copyEntries
    cases hskip : shouldSkipTemplateEntry name with
    | true =>
      refine returns_mono (ih source dest s) fun s' _ h => h.congr fun p => ?_
      rw [hiff p, hskip]
      simp only [Bool.true_eq_false, false_and, false_or]
    | false =>
      refine returns.bind returns_createDirAll_adds fun s₁ _ hdir => ?_
      refine returns.bind returns_cloneMutableTemplateFile fun s₂ _ hfile => ?_
      refine returns_mono (ih source dest s₂) fun s' _ hrest => ?_
      refine ((hdir.trans hfile).trans hrest).congr fun p => ?_
      rw [hiff p, hskip]
      simp only [false_or, true_and]
      rfl
  | dir name sub rest ihsub ihrest =>
    have hiff : ∀ p, CopiedFile dest (.dir name sub rest) p ↔
        (shouldSkipTemplateEntry name = false ∧ CopiedFile (dest.join [name]) sub p) ∨
          CopiedFile dest rest p := by
      intro p
      constructor
      · rintro ⟨q, d, ⟨r, rfl, hfile⟩ | hfile, hcopied, rfl⟩
        · refine .inl ⟨hcopied name List.mem_cons_self, r, d, hfile, ?_, ?_⟩
          · exact fun n hn => hcopied n (List.mem_cons_of_mem name hn)
          · exact List.append_cons dest.path name r
        · exact .inr ⟨q, d, hfile, hcopied, rfl⟩
      · rintro (⟨hskip, r, d, hfile, hcopied, rfl⟩ | ⟨q, d, hfile, hcopied, rfl⟩)
        · refine ⟨name :: r, d, .inl ⟨r, rfl, hfile⟩, ?_, ?_⟩
          · intro n hn
            rcases List.mem_cons.mp hn with rfl | hn
            · exact hskip
            · exact hcopied n hn
          · exact (List.append_cons dest.path name r).symm
        · exact ⟨q, d, .inr hfile, hcopied, rfl⟩
    unfold copyEntries
    cases hskip : shouldSkipTemplateEntry name with
    | true =>
      refine returns_mono (ihrest source dest s) fun s' _ h => h.congr fun p => ?_
      rw [hiff p, hskip]
      simp only [Bool.true_eq_false, false_and, false_or]
    | false =>
      refine returns.bind returns_createDirAll_adds fun s₁ _ hdir => ?_
      refine returns.bind (ihsub (source.join [name]) (dest.join [name]) s₁) fun s₂ _ hsub => ?_
      refine returns_mono (ihrest source dest s₂) fun s' _ hrest => ?_
      have hadded : Adds dest.place _ s s' := (Adds.trans hdir hsub).trans hrest
      refine hadded.congr fun p => ?_
      rw [hiff p, hskip]
      simp only [false_or, true_and]

/-- Nothing is in PGDATA. -/
def Bare (s : RootDisk) : Prop := ∀ p, s .pgdata p = none

lemma bare_removeTree (s : RootDisk) : Bare (s.removeTree pgdataLoc) := by
  intro p
  show (if Place.pgdata = .pgdata then (s .pgdata).removeTree [] else s .pgdata) p = none
  rw [if_pos rfl]
  exact if_pos List.nil_prefix

/-- PGDATA is the directory at `src`. -/
def SameTree (s : RootDisk) (src : Loc) : Prop := ∀ p, s.node (pgdataLoc.join p) = s.node (src.join p)

/-- The parent of PGDATA is made in the runtime directory. -/
lemma returns_createParent {text : String} :
    returns (rootEffects build) (fun s' _ => ∀ q, q ≠ .runtime → s' q = s q)
      (createParent build text pgdataLoc) s := by
  show returns (rootEffects build) _ (createDirAll build text ⟨.runtime, []⟩) s
  refine returns_mono returns_createDirAll fun s' _ h q hq => ?_
  rw [h.2]
  apply RootDisk.makeDirs_of_ne
  rintro (heq | ⟨heq, -⟩)
  · exact hq heq
  · cases heq

/-- Removing PGDATA changes nothing else. -/
lemma returns_removePgdata {text : String} :
    returns (rootEffects build) (fun s' _ => ∀ q, q ≠ .pgdata → s' q = s q)
      (removeDirIfExists build text pgdataLoc) s := by
  refine returns_mono returns_removeDirIfExists fun s' _ h q hq => ?_
  rcases h with ⟨rfl, -⟩ | rfl
  · rfl
  · exact RootDisk.change_of_ne hq

variable {hash : String}

/-- `cp` has copied the template, or there is nothing in PGDATA. -/
lemma returns_tryCloneDir :
    returns (rootEffects build)
      (fun s' cloned => s' (.template hash) = s (.template hash) ∧
        if cloned then SameTree s' (cachedPgdata hash) else Bare s')
      (tryCloneDir build (cachedPgdata hash) pgdataLoc) s := by
  unfold tryCloneDir
  refine returns.bind returns_removePgdata fun s₁ _ hs₁ => ?_
  refine returns.bind returns_createParent fun s₂ _ hs₂ => ?_
  have hne : Place.template hash ≠ .pgdata := fun heq => by cases heq
  have htemplate : s₂ (.template hash) = s (.template hash) :=
    (hs₂ _ fun heq => by cases heq).trans (hs₁ _ hne)
  intro s₃ success hclone
  obtain ⟨f, hs₃, -, hcopied, hnothing⟩ := hclone
  have htemplate₃ : s₃ (.template hash) = s (.template hash) := by
    rw [hs₃]
    exact (RootDisk.change_of_ne hne).trans htemplate
  have hsrc : ∀ p, s₂.node ((cachedPgdata hash).join p) = s₃.node ((cachedPgdata hash).join p) :=
    fun p => congrFun (htemplate.trans htemplate₃.symm) _
  show returns (rootEffects build) _ (pathExists pgdataLoc >>= _) s₃
  rw [returns_pathExists]
  refine returns.ite (fun hboth => ?_) fun hnot => ?_
  · rw [Bool.and_eq_true] at hboth
    have hsame : SameTree s₃ (cachedPgdata hash) := fun p => (hcopied hboth.1 p).trans (hsrc p)
    exact ⟨htemplate₃, hsame⟩
  · refine returns.bind returns_removeDirIfExists fun s₄ _ hremoved => ?_
    rcases hremoved with ⟨rfl, hnone⟩ | rfl
    · have hbare : Bare s₄ := fun p => hnothing hnone p
      exact ⟨htemplate₃, hbare⟩
    · exact ⟨(RootDisk.change_of_ne hne).trans htemplate₃, bare_removeTree s₃⟩

/-- A bare PGDATA has the files of the directory that is copied into it. -/
lemma returns_copyPgdataTemplateDirInner (hbare : Bare s) :
    returns (rootEffects build)
      (fun s' _ => ∀ p, (s' .pgdata).isFile p = true ↔
        Copied p ∧ s.isFile ((cachedPgdata hash).join p) = true)
      (copyPgdataTemplateDirInner build (cachedPgdata hash) pgdataLoc) s := by
  unfold copyPgdataTemplateDirInner
  refine returns.bind returns_createDirAll fun s₁ _ hmade => ?_
  have htemplate : s₁ (.template hash) = s (.template hash) := by
    rw [hmade.2]
    exact RootDisk.makeDirs_of_ne (by rintro (heq | ⟨-, heq⟩) <;> cases heq)
  have hnone : ∀ p, (s₁ .pgdata).isFile p = false := by
    intro p
    rw [hmade.2]
    have hsame : ((s.makeDirs pgdataLoc) .pgdata).isFile p = (s .pgdata).isFile p :=
      isFile_makeDirs hmade.1 p
    rw [hsame]
    unfold Files.isFile
    rw [hbare p]
  intro s₂ result hread
  obtain ⟨hs₂, htree⟩ := hread
  subst hs₂
  refine returns_orContext fun tree hok => ?_
  refine returns_mono (returns_copyEntries (cachedPgdata hash) pgdataLoc tree s₂) ?_
  intro s' _ hadds p
  have hfile : s.isFile ((cachedPgdata hash).join p) = true ↔ ∃ data, tree.HasFile p data := by
    have hsame : s.isFile ((cachedPgdata hash).join p) = s₂.isFile ((cachedPgdata hash).join p) :=
      Files.isFile_congr (congrFun htemplate.symm _)
    rw [hsame]
    unfold RootDisk.isFile
    rw [Files.isFile_iff]
    exact exists_congr fun data => (htree tree hok p data).symm
  have hadded := hadds p
  rw [show (s₂ pgdataLoc.place).isFile p = false from hnone p] at hadded
  rw [show (s' .pgdata).isFile p = true ↔ _ from hadded, hfile]
  constructor
  · rintro (⟨q, data, hq, hcopied, rfl⟩ | hfalse)
    · exact ⟨hcopied, data, hq⟩
    · cases hfalse
  · rintro ⟨hcopied, data, hp⟩
    exact .inl ⟨p, data, hp, hcopied, rfl⟩

/-- **A template is installed whole.** -/
lemma returns_clonePgdataTemplateDir (hwhole : Whole s (cachedPgdata hash)) :
    returns (rootEffects build) (fun s' _ => Whole s' pgdataLoc)
      (clonePgdataTemplateDir build (cachedPgdata hash) pgdataLoc) s := by
  unfold clonePgdataTemplateDir
  refine returns.bind (@returns_tryCloneDir build s hash) fun s₁ cloned h => ?_
  obtain ⟨hsame, hcloned⟩ := h
  have hwhole₁ : Whole s₁ (cachedPgdata hash) := hwhole.of_place hsame
  cases cloned with
  | true => exact hwhole₁.congr fun p _ => hcloned p
  | false =>
    refine returns_mono (returns_copyPgdataTemplateDirInner hcloned) fun s' _ hfiles => ?_
    have hmarkers := hwhole₁.markers
    unfold RootDisk.hasMarkers at hmarkers
    rw [Bool.and_eq_true] at hmarkers
    refine ⟨?_, ?_⟩
    · unfold RootDisk.hasMarkers
      rw [Bool.and_eq_true]
      exact ⟨(hfiles [pgVersionName]).mpr ⟨by decide +kernel, hmarkers.1⟩,
        (hfiles [globalName, pgControlName]).mpr ⟨by decide +kernel, hmarkers.2⟩⟩
    · rw [Bool.eq_false_iff]
      intro hfile
      have hoverlay := ((hfiles [overlayManifestName]).mp hfile).2
      exact Bool.false_ne_true (hwhole₁.noOverlay.symm.trans hoverlay)

end Root

end PgliteOxide.Pglite
