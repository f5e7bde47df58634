import PgliteOxide.Lib.FileFill
import PgliteOxide.Pglite.DataDirArchive

/-!
# Unpacking any archive

What `unpack_pgdata_archive` does with an archive that nobody promised to be one: the changes its
entries ask for (`archiveChanges`), if all of them can be unpacked, and what it leaves where one
of them cannot (`archiveStart`).
-/

namespace PgliteOxide.Pglite

open Lib

/-! ## What the entries ask for -/

/-- The entries of an archive that is a tar stream, in gzip or not. -/
def archiveItems (codec : ArchiveCodec) (archive : Bytes) :
    Except String (List (Except String TarItem)) :=
  codec.untar (if [0x1f, 0x8b] <+: archive then codec.gunzip archive else ⟨archive, none⟩)

/-- What an entry with this path asks for; an entry that is no complete file and no directory, or
has a path no file system has, asks for nothing that can be done. -/
def pathChanges (codec : ArchiveCodec) (item : TarItem) (relative : List Bytes) :
    Option (List (FsEvent FileName Bytes)) :=
  if relative = [] || shouldSkipRelative relative then some []
  else
    match hostPath relative, item.entryType with
    | some p, .directory => some [.mkdir p]
    | some p, .regular =>
      if codec.isOldDirectory item || item.failure.isNone then some [regularEvent codec item p]
      else none
    | _, _ => none

/-- The names of the path of an entry, if it can be read and is safe. -/
def itemRelative (item : TarItem) : Option (List Bytes) :=
  item.path.toOption.bind fun path => (normalizeArchivePath path).toOption

/-- The changes the entries ask for, if all of them can be read and have safe paths. -/
def archiveChanges (codec : ArchiveCodec) :
    List (Except String TarItem) → Option (List (FsEvent FileName Bytes))
  | [] => some []
  | .error _ :: _ => none
  | .ok item :: items =>
    (itemRelative item).bind fun relative =>
      (pathChanges codec item relative).bind fun changes =>
        (archiveChanges codec items).map (changes ++ ·)

/-- What is made for an entry that cannot be unpacked: the file as far as it goes, or the directory
it would be in. -/
def pathStart (codec : ArchiveCodec) (item : TarItem) (relative : List Bytes) :
    List (FsEvent FileName Bytes) :=
  match item.entryType with
  | .regular =>
    match hostPath relative with
    | some p => [regularEvent codec item p]
    | none => ((hostPath relative.dropLast).map .mkdir).toList
  | _ => []

/-- The changes the entries ask for, up to the first that cannot be unpacked. -/
def archiveStart (codec : ArchiveCodec) :
    List (Except String TarItem) → List (FsEvent FileName Bytes)
  | [] => []
  | .error _ :: _ => []
  | .ok item :: items =>
    match itemRelative item with
    | none => []
    | some relative =>
      match pathChanges codec item relative with
      | some changes => changes ++ archiveStart codec items
      | none => pathStart codec item relative

/-- What an archive has for an empty directory, up to its first fault. -/
def archiveFiles (codec : ArchiveCodec) (archive : Bytes) : PgFiles :=
  match archiveItems codec archive with
  | .ok items => runPart (archiveStart codec items) emptyDirectory
  | .error _ => emptyDirectory

/-- A host path has the names of its parts. -/
lemma hostPath_eq_some {parts : List Bytes} {p : RelPath} (h : hostPath parts = some p) :
    parts = pathParts p := by
  unfold hostPath at h
  induction parts generalizing p with
  | nil =>
    cases h
    rfl
  | cons part parts ih =>
    rw [List.mapM_cons] at h
    obtain ⟨name, hname, h⟩ := Option.bind_eq_some_iff.mp h
    obtain ⟨names, hnames, h⟩ := Option.bind_eq_some_iff.mp h
    cases h
    rw [ih hnames]
    unfold pathParts
    rw [List.map_cons, FileName.bytes_of_ofBytes? hname]

/-- Fails wherever it starts. -/
def FailsAnywhere (m : DirMethod Unit) : Prop := ∀ s, Rooted s → ∃ s' err, m s = (s', .err err)

lemma FailsAnywhere.bind {m m' : DirMethod Unit} (h : FailsAnywhere m) :
    FailsAnywhere (m >>= fun _ => m') := by
  intro s hs
  obtain ⟨s', err, hm⟩ := h s hs
  exact ⟨s', err, Stateful.bind_of_err hm⟩

section Codec

variable {codec : ArchiveCodec} {item : TarItem} {relative : List Bytes}

/-- The changes of a regular file that can be unpacked. -/
lemma pathChanges_regular {p : RelPath} (hrelative : relative = pathParts p)
    (hskip : ¬ (relative = [] || shouldSkipRelative relative) = true)
    (htype : item.entryType = .regular) :
    pathChanges codec item relative
      = if codec.isOldDirectory item || item.failure.isNone then some [regularEvent codec item p]
        else none := by
  unfold pathChanges
  rw [if_neg hskip, hrelative, hostPath_pathParts, htype]

/-- The loop does with an entry what it asks for. -/
lemma follows_unpackEntry (hunpack : codec.UnpackRules) {changes : List (FsEvent FileName Bytes)}
    (h : pathChanges codec item relative = some changes) (path : Bytes) :
    Follows (unpackEntry codec item path relative) changes := by
  unfold unpackEntry
  by_cases hskip : (relative = [] || shouldSkipRelative relative) = true
  · unfold pathChanges at h
    rw [if_pos hskip] at h ⊢
    cases h
    exact .nil
  · rw [if_neg hskip]
    cases hhost : hostPath relative with
    | none =>
      unfold pathChanges at h
      rw [if_neg hskip, hhost] at h
      cases h
    | some p =>
      have hparts := hostPath_eq_some hhost
      have hne : p ≠ [] := by
        rintro rfl
        apply hskip
        rw [hparts]
        rfl
      cases htype : item.entryType with
      | directory =>
        unfold pathChanges at h
        rw [if_neg hskip, hhost, htype] at h
        cases h
        show Follows (withContext _ _ (onHostPath relative createDirAll)) [.mkdir p]
        unfold onHostPath
        rw [hhost]
        exact follows_createDirAll _ _ hne
      | other code =>
        unfold pathChanges at h
        rw [if_neg hskip, hhost, htype] at h
        cases h
      | regular =>
        rw [pathChanges_regular hparts hskip htype] at h
        split at h
        · rename_i hcomplete
          cases h
          rw [Bool.or_eq_true, Option.isNone_iff_eq_none] at hcomplete
          rw [hparts]
          exact follows_unpackRegular hunpack hne hcomplete path
        · cases h

/-- A regular file at a path that no file system has is not unpacked; at most its directory is
made. -/
lemma unpackRegular_of_none (hunpack : codec.UnpackRules) (hhost : hostPath relative = none)
    (path : Bytes) (s : PgFiles) :
    ∃ err, unpackRegular codec item path relative s
      = (runPart ((hostPath relative.dropLast).map .mkdir).toList s, .err err) := by
  have hfails : ∀ s', ∃ err, ((codec.unpack item relative).mapErr fun text =>
      DirError.context "unpack PGDATA archive entry" [path] (.msg text)) s' = (s', .err err) := by
    intro s'
    obtain ⟨text, htext⟩ : ∃ text, codec.unpack item relative s' = (s', .err text) :=
      hunpack.noPath hhost
    rw [Stateful.mapErr, htext]
    exact ⟨_, rfl⟩
  unfold unpackRegular onHostPath
  -- the parent may have a name that no file system has, too
  cases hostPath relative.dropLast with
  | none =>
    have hstop : withContext "create PGDATA directory" relative.dropLast
        (Stateful.fail .invalidInput : Stateful PgFiles FsError Unit) s
          = (s, .err (.context "create PGDATA directory" relative.dropLast (.io .invalidInput))) :=
      rfl
    exact ⟨_, Stateful.bind_of_err hstop⟩
  | some d =>
    show ∃ err, Stateful.bind (withContext "create PGDATA directory" relative.dropLast
      (createDirAll d)) _ s = (runPart [.mkdir d] s, .err err)
    unfold Stateful.bind withContext Stateful.mapErr createDirAll
    rw [runPart, FsEvent.apply]
    by_cases hfile : d.inits.any s.isFile = true
    · rw [if_pos hfile, if_pos hfile]
      exact ⟨_, rfl⟩
    · rw [if_neg hfile, if_neg hfile]
      exact hfails _

/-- What nothing can be done for is not unpacked. -/
lemma failsAnywhere_unpackEntry (hunpack : codec.UnpackRules)
    (h : pathChanges codec item relative = none) (path : Bytes) :
    FailsAnywhere (unpackEntry codec item path relative) := by
  unfold unpackEntry
  by_cases hskip : (relative = [] || shouldSkipRelative relative) = true
  · unfold pathChanges at h
    rw [if_pos hskip] at h
    cases h
  · rw [if_neg hskip]
    cases htype : item.entryType with
    | other code => exact fun s _ => ⟨s, _, rfl⟩
    | directory =>
      unfold pathChanges at h
      rw [if_neg hskip, htype] at h
      cases hhost : hostPath relative with
      | none =>
        intro s _
        unfold onHostPath
        rw [hhost]
        exact ⟨s, _, rfl⟩
      | some p =>
        rw [hhost] at h
        cases h
    | regular =>
      intro s hs
      cases hhost : hostPath relative with
      | none =>
        obtain ⟨err, herr⟩ := unpackRegular_of_none hunpack hhost path s
        exact ⟨_, err, herr⟩
      | some p =>
        have hparts := hostPath_eq_some hhost
        have hne : p ≠ [] := by
          rintro rfl
          apply hskip
          rw [hparts]
          rfl
        rw [pathChanges_regular hparts hskip htype] at h
        split at h
        · cases h
        · rename_i hbad
          rw [Bool.or_eq_true, not_or, Bool.not_eq_true, Option.isNone_iff_eq_none] at hbad
          obtain ⟨hsome, hnone⟩ := unpackRegular_eq hunpack hne item path hs
          show ∃ s' err, unpackRegular codec item path relative s = (s', .err err)
          rw [hparts]
          cases happly : (regularEvent codec item p).apply s with
          | none =>
            obtain ⟨err, herr⟩ := hnone happly
            exact ⟨s, err, herr⟩
          | some s' =>
            obtain ⟨err, herr⟩ := (hsome s' happly).2 hbad.1 hbad.2
            exact ⟨s', err, herr⟩

end Codec

lemma unpackEntries_of_relative {codec : ArchiveCodec} {item : TarItem} {relative : List Bytes}
    (h : itemRelative item = some relative) (items : List (Except String TarItem)) :
    ∃ path, unpackEntries codec (.ok item :: items) = (do
      unpackEntry codec item path relative
      unpackEntries codec items) := by
  unfold itemRelative at h
  cases hpath : item.path with
  | error text =>
    rw [hpath] at h
    cases h
  | ok path =>
    rw [hpath] at h
    cases hnormal : normalizeArchivePath path with
    | error err =>
      have hnone : (normalizeArchivePath path).toOption = some relative := h
      rw [hnormal] at hnone
      cases hnone
    | ok relative' =>
      have hsome : (normalizeArchivePath path).toOption = some relative := h
      rw [hnormal] at hsome
      cases hsome
      refine ⟨path, ?_⟩
      rw [unpackEntries, hpath]
      simp only [hnormal]

/-- An entry without a safe path stops the loop. -/
lemma fails_of_relative {codec : ArchiveCodec} {item : TarItem} (h : itemRelative item = none)
    (items : List (Except String TarItem)) (s : PgFiles) :
    ∃ err, unpackEntries codec (.ok item :: items) s = (s, .err err) := by
  unfold itemRelative at h
  rw [unpackEntries]
  cases hpath : item.path with
  | error text => exact ⟨_, rfl⟩
  | ok path =>
    rw [hpath] at h
    cases hnormal : normalizeArchivePath path with
    | error err =>
      simp only [hnormal]
      exact ⟨err, rfl⟩
    | ok relative =>
      have hnone : (normalizeArchivePath path).toOption = none := h
      rw [hnormal] at hnone
      cases hnone

lemma archiveChanges_cons {codec : ArchiveCodec} {item : TarItem}
    {items : List (Except String TarItem)} {changes : List (FsEvent FileName Bytes)} :
    archiveChanges codec (.ok item :: items) = some changes ↔ ∃ relative first rest,
      itemRelative item = some relative ∧ pathChanges codec item relative = some first ∧
        archiveChanges codec items = some rest ∧ changes = first ++ rest := by
  rw [archiveChanges]
  simp only [Option.bind_eq_some_iff, Option.map_eq_some_iff]
  constructor
  · rintro ⟨relative, hrelative, first, hfirst, rest, hrest, rfl⟩
    exact ⟨relative, first, rest, hrelative, hfirst, hrest, rfl⟩
  · rintro ⟨relative, first, rest, hrelative, hfirst, hrest, rfl⟩
    exact ⟨relative, hrelative, first, hfirst, rest, hrest, rfl⟩

/-- The entries of an archive make their changes. -/
lemma follows_archiveChanges {codec : ArchiveCodec} (hunpack : codec.UnpackRules)
    {items : List (Except String TarItem)} {changes : List (FsEvent FileName Bytes)}
    (h : archiveChanges codec items = some changes) :
    Follows (unpackEntries codec items) changes := by
  induction items generalizing changes with
  | nil =>
    cases h
    exact .nil
  | cons item items ih =>
    rcases item with text | item
    · cases h
    · obtain ⟨relative, first, rest, hrelative, hfirst, hrest, rfl⟩ := archiveChanges_cons.mp h
      obtain ⟨path, hloop⟩ := unpackEntries_of_relative hrelative items
      rw [hloop]
      exact (follows_unpackEntry hunpack hfirst path).append (ih hrest)

/-- An archive with an entry for which nothing can be done is not unpacked. -/
lemma fails_archiveChanges {codec : ArchiveCodec} (hunpack : codec.UnpackRules)
    {items : List (Except String TarItem)} (h : archiveChanges codec items = none) {s : PgFiles}
    (hs : Rooted s) : ∃ s' err, unpackEntries codec items s = (s', .err err) := by
  -- on the entries: those before the first fault are unpacked
  induction items generalizing s with
  | nil => cases h
  | cons item items ih =>
    rcases item with text | item
    · exact ⟨s, _, rfl⟩
    · cases hrelative : itemRelative item with
      | none => exact ⟨s, fails_of_relative hrelative items s⟩
      | some relative =>
        obtain ⟨path, hloop⟩ := unpackEntries_of_relative hrelative items
        rw [hloop]
        cases hfirst : pathChanges codec item relative with
        | none => exact (failsAnywhere_unpackEntry hunpack hfirst path).bind s hs
        | some first =>
          have hrest : archiveChanges codec items = none := by
            cases hrest : archiveChanges codec items with
            | none => rfl
            | some rest =>
              rw [archiveChanges_cons.mpr
                ⟨relative, first, rest, hrelative, hfirst, hrest, rfl⟩] at h
              cases h
          obtain ⟨hok, hfail⟩ := follows_unpackEntry hunpack hfirst path s hs
          cases hrun : runLog first s with
          | none =>
            obtain ⟨s', err, hstop⟩ := hfail hrun
            exact ⟨s', err, Stateful.bind_of_err hstop⟩
          | some s₁ =>
            obtain ⟨hentry, hs₁⟩ := hok s₁ hrun
            rw [Stateful.bind_of_ok hentry]
            exact ih hrest hs₁

/-! ## What is left in the directory -/

/-- The method leaves what the log makes before it stops. -/
def Leaves (m : DirMethod Unit) (log : List (FsEvent FileName Bytes)) : Prop :=
  ∀ s, Rooted s → (m s).1 = runPart log s

lemma leaves_createDirAll (text : String) (parts : List Bytes) (p : RelPath) :
    Leaves (withContext text parts (createDirAll p)) [.mkdir p] := by
  intro s _
  unfold withContext
  rw [Stateful.mapErr_fst, createDirAll, runPart, FsEvent.apply]
  by_cases hfile : p.inits.any s.isFile = true
  · rw [if_pos hfile, if_pos hfile]
    rfl
  · rw [if_neg hfile, if_neg hfile]
    rfl

/-- What there is of a file is written. -/
lemma leaves_unpackRegular {codec : ArchiveCodec} (hunpack : codec.UnpackRules) {p : RelPath}
    (hne : p ≠ []) (item : TarItem) (path : Bytes) :
    Leaves (unpackRegular codec item path (pathParts p)) [regularEvent codec item p] := by
  intro s hs
  obtain ⟨hsome, hnone⟩ := unpackRegular_eq hunpack hne item path hs
  rw [runPart]
  cases happly : (regularEvent codec item p).apply s with
  | none =>
    obtain ⟨err, herr⟩ := hnone happly
    rw [herr]
    rfl
  | some s' =>
    show _ = s'
    -- an entry that ends early fails with what there is of it written
    by_cases hcomplete : codec.isOldDirectory item = true ∨ item.failure = none
    · rw [(hsome s' happly).1 hcomplete]
    · rw [not_or, Bool.not_eq_true] at hcomplete
      obtain ⟨err, herr⟩ := (hsome s' happly).2 hcomplete.1 hcomplete.2
      rw [herr]

section Leaves

variable {codec : ArchiveCodec} {item : TarItem} {relative : List Bytes}

lemma leaves_unpackEntry (hunpack : codec.UnpackRules) {changes : List (FsEvent FileName Bytes)}
    (h : pathChanges codec item relative = some changes) (path : Bytes) :
    Leaves (unpackEntry codec item path relative) changes := by
  unfold unpackEntry
  by_cases hskip : (relative = [] || shouldSkipRelative relative) = true
  · unfold pathChanges at h
    rw [if_pos hskip] at h ⊢
    cases h
    exact fun _ _ => rfl
  · rw [if_neg hskip]
    cases hhost : hostPath relative with
    | none =>
      unfold pathChanges at h
      rw [if_neg hskip, hhost] at h
      cases h
    | some p =>
      have hparts := hostPath_eq_some hhost
      cases htype : item.entryType with
      | directory =>
        unfold pathChanges at h
        rw [if_neg hskip, hhost, htype] at h
        cases h
        show Leaves (withContext _ _ (onHostPath relative createDirAll)) [.mkdir p]
        unfold onHostPath
        rw [hhost]
        exact leaves_createDirAll _ _ p
      | other code =>
        unfold pathChanges at h
        rw [if_neg hskip, hhost, htype] at h
        cases h
      | regular =>
        rw [pathChanges_regular hparts hskip htype] at h
        split at h
        · cases h
          have hne : p ≠ [] := by
            rintro rfl
            apply hskip
            rw [hparts]
            rfl
          rw [hparts]
          exact leaves_unpackRegular hunpack hne item path
        · cases h

/-- A file that cannot be unpacked is left as far as it goes. -/
lemma leaves_pathStart (hunpack : codec.UnpackRules)
    (h : pathChanges codec item relative = none) (path : Bytes) :
    Leaves (unpackEntry codec item path relative) (pathStart codec item relative) := by
  unfold unpackEntry pathStart
  by_cases hskip : (relative = [] || shouldSkipRelative relative) = true
  · unfold pathChanges at h
    rw [if_pos hskip] at h
    cases h
  · rw [if_neg hskip]
    cases htype : item.entryType with
    | other code => exact fun _ _ => rfl
    | directory =>
      unfold pathChanges at h
      rw [if_neg hskip, htype] at h
      cases hhost : hostPath relative with
      | none =>
        intro s _
        unfold onHostPath
        rw [hhost]
        rfl
      | some p =>
        rw [hhost] at h
        cases h
    | regular =>
      cases hhost : hostPath relative with
      | some p =>
        have hparts := hostPath_eq_some hhost
        subst hparts
        refine leaves_unpackRegular hunpack ?_ item path
        rintro rfl
        exact hskip rfl
      | none =>
        intro s _
        obtain ⟨err, herr⟩ := unpackRegular_of_none hunpack hhost path s
        show (unpackRegular codec item path relative s).1 = _
        rw [herr]

end Leaves

/-- **The loop leaves what the entries ask for, up to the first that cannot be unpacked.** -/
lemma leaves_archiveStart {codec : ArchiveCodec} (hunpack : codec.UnpackRules)
    (items : List (Except String TarItem)) :
    Leaves (unpackEntries codec items) (archiveStart codec items) := by
  induction items with
  | nil => exact fun _ _ => rfl
  | cons item items ih =>
    intro s hs
    rcases item with text | item
    · rfl
    · rw [archiveStart]
      cases hrelative : itemRelative item with
      | none =>
        obtain ⟨err, hstop⟩ := fails_of_relative hrelative items s
        rw [hstop]
        rfl
      | some relative =>
        obtain ⟨path, hloop⟩ := unpackEntries_of_relative hrelative items
        rw [hloop]
        cases hfirst : pathChanges codec item relative with
        | none =>
          obtain ⟨s', err, hstop⟩ := failsAnywhere_unpackEntry hunpack hfirst path s hs
          have hleaves := leaves_pathStart hunpack hfirst path s hs
          rw [hstop] at hleaves
          rw [Stateful.bind_of_err hstop]
          simp only [hfirst]
          exact hleaves
        | some first =>
          have hleaves := leaves_unpackEntry hunpack hfirst path s hs
          obtain ⟨hok, hfail⟩ := follows_unpackEntry hunpack hfirst path s hs
          simp only [hfirst]
          -- the entry may still fail in this directory, and then nothing is read behind it
          rw [runPart_append]
          cases hrun : runLog first s with
          | none =>
            obtain ⟨s', err, hstop⟩ := hfail hrun
            rw [hstop] at hleaves
            rw [Stateful.bind_of_err hstop]
            exact hleaves
          | some s₁ =>
            obtain ⟨hentry, hs₁⟩ := hok s₁ hrun
            rw [Stateful.bind_of_ok hentry]
            exact ih s₁ hs₁

lemma unpackPgdataArchive_of_ok {codec : ArchiveCodec} {archive : Bytes}
    {items : List (Except String TarItem)} (h : archiveItems codec archive = .ok items) :
    unpackPgdataArchive codec archive = unpackEntries codec items := by
  unfold archiveItems at h
  unfold unpackPgdataArchive
  simp only [h]

lemma unpackPgdataArchive_of_error {codec : ArchiveCodec} {archive : Bytes} {text : String}
    (h : archiveItems codec archive = .error text) :
    unpackPgdataArchive codec archive
      = Stateful.fail (.context "read PGDATA archive entries" [] (.msg text)) := by
  unfold archiveItems at h
  unfold unpackPgdataArchive
  simp only [h]

lemma unpackPgdataArchive_fst {codec : ArchiveCodec} (hunpack : codec.UnpackRules)
    (archive : Bytes) :
    (unpackPgdataArchive codec archive emptyDirectory).1 = archiveFiles codec archive := by
  unfold archiveFiles
  cases hitems : archiveItems codec archive with
  | error text =>
    rw [unpackPgdataArchive_of_error hitems]
    rfl
  | ok items =>
    rw [unpackPgdataArchive_of_ok hitems]
    exact leaves_archiveStart hunpack items emptyDirectory rooted_emptyDirectory

/-- An entry asks for a directory, or for a file that is not skipped. -/
lemma pathChanges_mem {codec : ArchiveCodec} {item : TarItem} {relative : List Bytes}
    {changes : List (FsEvent FileName Bytes)} (h : pathChanges codec item relative = some changes)
    {e : FsEvent FileName Bytes} (he : e ∈ changes) :
    (∃ p, e = .mkdir p) ∨
      ∃ p data, e = .put p data ∧ p ≠ [] ∧ shouldSkipRelative (pathParts p) = false := by
  by_cases hskip : (relative = [] || shouldSkipRelative relative) = true
  · unfold pathChanges at h
    rw [if_pos hskip] at h
    cases h
    exact absurd he List.not_mem_nil
  · cases hhost : hostPath relative with
    | none =>
      unfold pathChanges at h
      rw [if_neg hskip, hhost] at h
      cases h
    | some p =>
      have hparts := hostPath_eq_some hhost
      cases htype : item.entryType with
      | directory =>
        unfold pathChanges at h
        rw [if_neg hskip, hhost, htype] at h
        cases h
        exact .inl ⟨p, List.mem_singleton.mp he⟩
      | other code =>
        unfold pathChanges at h
        rw [if_neg hskip, hhost, htype] at h
        cases h
      | regular =>
        rw [pathChanges_regular hparts hskip htype] at h
        rw [Bool.or_eq_true, not_or, decide_eq_true_eq, Bool.not_eq_true] at hskip
        split at h
        · cases h
          rw [List.mem_singleton.mp he]
          unfold regularEvent
          split
          · exact .inl ⟨p, rfl⟩
          · refine .inr ⟨p, item.data, rfl, ?_, hparts ▸ hskip.2⟩
            rintro rfl
            exact hskip.1 hparts
        · cases h

lemma archiveChanges_mem {codec : ArchiveCodec} {items : List (Except String TarItem)}
    {changes : List (FsEvent FileName Bytes)} (h : archiveChanges codec items = some changes)
    {e : FsEvent FileName Bytes} (he : e ∈ changes) :
    (∃ p, e = .mkdir p) ∨
      ∃ p data, e = .put p data ∧ p ≠ [] ∧ shouldSkipRelative (pathParts p) = false := by
  induction items generalizing changes with
  | nil =>
    cases h
    exact absurd he List.not_mem_nil
  | cons item items ih =>
    rcases item with text | item
    · cases h
    · obtain ⟨relative, first, rest, -, hfirst, hrest, rfl⟩ := archiveChanges_cons.mp h
      rcases List.mem_append.mp he with he | he
      · exact pathChanges_mem hfirst he
      · exact ih hrest he

end PgliteOxide.Pglite
