import PgliteOxide.Lib.FileLog

/-!
# Filling an empty directory

A log that only makes directories and files can be run in an empty directory exactly when no file
is where a directory has to be, or on the way to one (`Fillable`); the order does not matter. What
is there in the end is what the log makes (`Filled`), and where it stops what it has made so far
(`runPart`).
-/

namespace Lib

variable {N D : Type}

/-- The event makes a directory or a file that is not the root. -/
def FsEvent.Adds : FsEvent N D → Prop
  | .mkdir _ => True
  | .put p _ => p ≠ []
  | _ => False

/-- The log makes a file at the path. -/
def FileOf (log : List (FsEvent N D)) (p : List N) : Prop := ∃ data, .put p data ∈ log

/-- The log makes a directory at the path, for itself or for a file. -/
def DirOf (log : List (FsEvent N D)) (d : List N) : Prop :=
  .mkdir d ∈ log ∨ ∃ p data, .put p data ∈ log ∧ p.dropLast = d

/-- No file is in the way of a directory. -/
def Fillable (log : List (FsEvent N D)) : Prop :=
  ∀ p d, FileOf log p → DirOf log d → ¬ p <+: d

variable {log log' : List (FsEvent N D)} {p d : List N} {data : D}

lemma FileOf.mono (h : FileOf log p) (hsub : log ⊆ log') : FileOf log' p := by
  obtain ⟨data, hmem⟩ := h
  exact ⟨data, hsub hmem⟩

lemma DirOf.mono (h : DirOf log d) (hsub : log ⊆ log') : DirOf log' d := by
  rcases h with hmem | ⟨p, data, hmem, hd⟩
  · exact .inl (hsub hmem)
  · exact .inr ⟨p, data, hsub hmem, hd⟩

lemma Fillable.mono (h : Fillable log') (hsub : log ⊆ log') : Fillable log :=
  fun p d hp hd => h p d (hp.mono hsub) (hd.mono hsub)

lemma fillable_nil : Fillable ([] : List (FsEvent N D)) := by
  rintro p d ⟨data, hmem⟩
  exact absurd hmem List.not_mem_nil

lemma fileOf_mkdir : FileOf (log ++ [.mkdir d]) p ↔ FileOf log p := by
  unfold FileOf
  simp only [List.mem_append, List.mem_singleton, reduceCtorEq, or_false]

lemma dirOf_mkdir {q : List N} : DirOf (log ++ [.mkdir q]) d ↔ DirOf log d ∨ d = q := by
  unfold DirOf
  simp only [List.mem_append, List.mem_singleton, reduceCtorEq, or_false, FsEvent.mkdir.injEq]
  exact or_right_comm

lemma fileOf_put {q : List N} : FileOf (log ++ [.put q data]) p ↔ FileOf log p ∨ p = q := by
  unfold FileOf
  simp only [List.mem_append, List.mem_singleton, FsEvent.put.injEq]
  constructor
  · rintro ⟨data', hmem | ⟨rfl, -⟩⟩
    · exact .inl ⟨data', hmem⟩
    · exact .inr rfl
  · rintro (⟨data', hmem⟩ | rfl)
    · exact ⟨data', .inl hmem⟩
    · exact ⟨data, .inr ⟨rfl, rfl⟩⟩

lemma dirOf_put {q : List N} :
    DirOf (log ++ [.put q data]) d ↔ DirOf log d ∨ d = q.dropLast := by
  unfold DirOf
  simp only [List.mem_append, List.mem_singleton, reduceCtorEq, or_false, FsEvent.put.injEq]
  constructor
  · rintro (hmem | ⟨p, data', hmem | ⟨rfl, -⟩, hd⟩)
    · exact .inl (.inl hmem)
    · exact .inl (.inr ⟨p, data', hmem, hd⟩)
    · exact .inr hd.symm
  · rintro ((hmem | ⟨p, data', hmem, hd⟩) | rfl)
    · exact .inl hmem
    · exact .inr ⟨p, data', .inl hmem, hd⟩
    · exact .inr ⟨q, data, .inr ⟨rfl, rfl⟩, rfl⟩

/-- A path is not above itself. -/
lemma not_prefix_dropLast {q : List N} (hq : q ≠ []) : ¬ q <+: q.dropLast := by
  intro h
  have hlength := h.length_le
  have hpos : 0 < q.length := List.length_pos_of_ne_nil hq
  rw [List.length_dropLast] at hlength
  omega

/-- A directory is made where no file is on the way. -/
lemma fillable_mkdir (h : Fillable log) {q : List N} :
    Fillable (log ++ [.mkdir q]) ↔ ∀ r, r <+: q → ¬ FileOf log r := by
  constructor
  · intro hfits r hr hfile
    exact hfits r q (fileOf_mkdir.mpr hfile) (dirOf_mkdir.mpr (.inr rfl)) hr
  · intro hfree r d hfile hdir hr
    rw [fileOf_mkdir] at hfile
    rcases dirOf_mkdir.mp hdir with hdir | rfl
    · exact h r d hfile hdir hr
    · exact hfree r hr hfile

/-- A file is made where no file is on the way, and no directory at or below it. -/
lemma fillable_put (h : Fillable log) {q : List N} (hq : q ≠ []) :
    Fillable (log ++ [.put q data]) ↔
      (∀ r, r <+: q.dropLast → ¬ FileOf log r) ∧ ∀ d, DirOf log d → ¬ q <+: d := by
  constructor
  · intro hfits
    constructor
    · intro r hr hfile
      exact hfits r q.dropLast (fileOf_put.mpr (.inl hfile)) (dirOf_put.mpr (.inr rfl)) hr
    · intro d hdir hd
      exact hfits q d (fileOf_put.mpr (.inr rfl)) (dirOf_put.mpr (.inl hdir)) hd
  · rintro ⟨hfree, hbelow⟩ r d hfile hdir hr
    rcases fileOf_put.mp hfile with hfile | rfl
    · rcases dirOf_put.mp hdir with hdir | rfl
      · exact h r d hfile hdir hr
      · exact hfree r hr hfile
    · rcases dirOf_put.mp hdir with hdir | rfl
      · exact hbelow d hdir hr
      · exact not_prefix_dropLast hq hr

/-- What is there is what the log makes, and the root. -/
structure Filled (log : List (FsEvent N D)) (s : Files N D) : Prop where
  files : ∀ p, s.isFile p = true ↔ FileOf log p
  dirs : ∀ p, s.isDir p = true ↔ p = [] ∨ ∃ d, DirOf log d ∧ p <+: d

section Run

variable [DecidableEq N] {s : Files N D}

lemma filled_nil : Filled [] (Dir.nil.find : Files N D) := by
  constructor
  · intro p
    refine iff_of_false ?_ fun ⟨data, hmem⟩ => absurd hmem List.not_mem_nil
    cases p with
    | nil => exact Bool.false_ne_true
    | cons x p => exact Bool.false_ne_true
  · intro p
    have hnone : ¬ ∃ d, DirOf ([] : List (FsEvent N D)) d ∧ p <+: d := by
      rintro ⟨d, hmem | ⟨q, data, hmem, -⟩, -⟩
      · exact absurd hmem List.not_mem_nil
      · exact absurd hmem List.not_mem_nil
    rw [or_iff_left hnone]
    cases p with
    | nil => exact iff_of_true rfl rfl
    | cons x p => exact iff_of_false Bool.false_ne_true (List.cons_ne_nil x p)

lemma Filled.mkdir (h : Filled log s) {q : List N} (hfree : ∀ r, r <+: q → s.isFile r = false) :
    Filled (log ++ [.mkdir q]) (s.makeDirs q) := by
  constructor
  · intro p
    rw [Files.isFile_makeDirs hfree, h.files, fileOf_mkdir]
  · intro p
    rw [Files.isDir_makeDirs, h.dirs]
    simp only [dirOf_mkdir, or_and_right, exists_or, exists_eq_left]
    rw [or_comm, or_assoc]

lemma Filled.put (h : Filled log s) {q : List N}
    (hfree : ∀ r, r <+: q.dropLast → s.isFile r = false) (hq : q ≠ [])
    (hdir : s.isDir q = false) :
    Filled (log ++ [.put q data]) ((s.makeDirs q.dropLast).put q data) := by
  constructor
  · intro p
    rw [Files.isFile_put, Files.isFile_makeDirs hfree, h.files, fileOf_put, or_comm]
  · intro p
    rw [Files.isDir_put, Files.isDir_makeDirs, h.dirs]
    simp only [dirOf_put, or_and_right, exists_or, exists_eq_left]
    have hne : p <+: q.dropLast ∨ p = [] ∨ (∃ d, DirOf log d ∧ p <+: d) → p ≠ q := by
      rintro hp rfl
      rcases hp with hp | hp | hp
      · exact not_prefix_dropLast hq hp
      · exact hq hp
      · have hdir' : s.isDir p = true := (h.dirs p).mpr (.inr hp)
        exact Bool.false_ne_true (hdir.symm.trans hdir')
    rw [and_iff_right_of_imp hne, or_comm, or_assoc]

/-- **Filling goes on exactly where what is made fits.** -/
lemma Filled.runLog_iff (h : Filled log s) (hfits : Fillable log) (hadds : ∀ e ∈ log', e.Adds) :
    (∃ s', runLog log' s = some s') ↔ Fillable (log ++ log') := by
  induction log' generalizing log s with
  | nil =>
    rw [List.append_nil]
    exact iff_of_true ⟨s, rfl⟩ hfits
  | cons e log' ih =>
    have hrest : ∀ e' ∈ log', e'.Adds := fun e' he' => hadds e' (List.mem_cons_of_mem e he')
    have hsplit : log ++ e :: log' = log ++ [e] ++ log' := List.append_cons log e log'
    have hfirst : Fillable (log ++ e :: log') → Fillable (log ++ [e]) := by
      rw [hsplit]
      exact fun hall => hall.mono (List.subset_append_left _ _)
    cases e with
    | fail => exact (hadds _ List.mem_cons_self).elim
    | remove t => exact (hadds _ List.mem_cons_self).elim
    | clear t => exact (hadds _ List.mem_cons_self).elim
    | mkdir q =>
      by_cases hfree : ∀ r, r <+: q → s.isFile r = false
      · have happly : (FsEvent.mkdir q).apply s = some (s.makeDirs q) :=
          FsEvent.apply_mkdir_eq_some.mpr ⟨hfree, rfl⟩
        have hfits' : Fillable (log ++ [.mkdir q]) := by
          rw [fillable_mkdir hfits]
          intro r hr hfile
          exact Bool.false_ne_true ((hfree r hr).symm.trans ((h.files r).mpr hfile))
        rw [runLog, happly, hsplit]
        exact ih (h.mkdir hfree) hfits' hrest
      · refine iff_of_false ?_ fun hall => hfree fun r hr => ?_
        · rintro ⟨s', hrun⟩
          obtain ⟨s₁, happly, -⟩ := Option.bind_eq_some_iff.mp hrun
          exact hfree (FsEvent.apply_mkdir_eq_some.mp happly).1
        · rw [Bool.eq_false_iff, ne_eq, h.files]
          exact (fillable_mkdir hfits).mp (hfirst hall) r hr
    | put q data =>
      have hq : q ≠ [] := hadds _ List.mem_cons_self
      by_cases hroom : (∀ r, r <+: q.dropLast → s.isFile r = false) ∧ s.isDir q = false
      · have happly : (FsEvent.put q data).apply s = some ((s.makeDirs q.dropLast).put q data) :=
          FsEvent.apply_put_eq_some.mpr ⟨hroom.1, hroom.2, rfl⟩
        have hfits' : Fillable (log ++ [.put q data]) := by
          rw [fillable_put hfits hq]
          constructor
          · intro r hr hfile
            exact Bool.false_ne_true ((hroom.1 r hr).symm.trans ((h.files r).mpr hfile))
          · intro d hdir hd
            have hdir' : s.isDir q = true := (h.dirs q).mpr (.inr ⟨d, hdir, hd⟩)
            exact Bool.false_ne_true (hroom.2.symm.trans hdir')
        rw [runLog, happly, hsplit]
        exact ih (h.put hroom.1 hq hroom.2) hfits' hrest
      · refine iff_of_false ?_ fun hall => hroom ?_
        · rintro ⟨s', hrun⟩
          obtain ⟨s₁, happly, -⟩ := Option.bind_eq_some_iff.mp hrun
          obtain ⟨hfree, hdir, -⟩ := FsEvent.apply_put_eq_some.mp happly
          exact hroom ⟨hfree, hdir⟩
        · obtain ⟨hfree, hbelow⟩ := (fillable_put hfits hq).mp (hfirst hall)
          constructor
          · intro r hr
            rw [Bool.eq_false_iff, ne_eq, h.files]
            exact hfree r hr
          · rw [Bool.eq_false_iff, ne_eq, h.dirs]
            rintro (hnil | ⟨d, hdir, hd⟩)
            · exact hq hnil
            · exact hbelow d hdir hd

/-- What a log has filled. -/
lemma Filled.runLog {s' : Files N D} (h : Filled log s) (hadds : ∀ e ∈ log', e.Adds)
    (hrun : runLog log' s = some s') : Filled (log ++ log') s' := by
  induction log' generalizing log s with
  | nil =>
    cases hrun
    rw [List.append_nil]
    exact h
  | cons e log' ih =>
    have hrest : ∀ e' ∈ log', e'.Adds := fun e' he' => hadds e' (List.mem_cons_of_mem e he')
    obtain ⟨s₁, happly, hrun'⟩ := Option.bind_eq_some_iff.mp hrun
    rw [List.append_cons]
    cases e with
    | fail => exact (hadds _ List.mem_cons_self).elim
    | remove t => exact (hadds _ List.mem_cons_self).elim
    | clear t => exact (hadds _ List.mem_cons_self).elim
    | mkdir q =>
      obtain ⟨hfree, rfl⟩ := FsEvent.apply_mkdir_eq_some.mp happly
      exact ih (h.mkdir hfree) hrest hrun'
    | put q data =>
      obtain ⟨hfree, hdir, rfl⟩ := FsEvent.apply_put_eq_some.mp happly
      exact ih (h.put hfree (hadds _ List.mem_cons_self) hdir) hrest hrun'

/-- What a log makes before it stops. -/
def runPart : List (FsEvent N D) → Files N D → Files N D
  | [], s => s
  | e :: log, s => (e.apply s).elim s (runPart log)

lemma runPart_append (log log' : List (FsEvent N D)) (s : Files N D) :
    runPart (log ++ log') s = (runLog log s).elim (runPart log s) (runPart log') := by
  induction log generalizing s with
  | nil => rfl
  | cons e log ih =>
    rw [List.cons_append, runPart, runPart, runLog]
    cases e.apply s with
    | none => rfl
    | some s₁ => exact ih s₁

end Run

end Lib
