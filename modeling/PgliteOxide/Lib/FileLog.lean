import PgliteOxide.Lib.FileTree

/-!
# Logs of file-system events

Code that fills a directory makes directories and files and removes trees, one after the other.
What is at a path in the end is decided by the last event that concerns it: `Alive` says that it
was made and not removed since. `run_shows_iff` says exactly when a log that makes each path once,
after the directories above it, turns one state into another, as far as what is in the directory
goes: the directory itself may be removed as well.
-/

namespace Lib

variable {N D : Type}

/-- One change of a directory. -/
inductive FsEvent (N D : Type) where
  /-- A call that fails. -/
  | fail
  /-- Remove what is at and below a path, if there is anything; the path must not lead through a
  file. -/
  | remove (t : List N)
  /-- Remove what is below a path. -/
  | clear (t : List N)
  /-- `create_dir_all`. -/
  | mkdir (p : List N)
  /-- `create_dir_all` of the parent, then write the file. -/
  | put (p : List N) (data : D)
deriving DecidableEq, Repr

namespace FsEvent

/-- The event makes `q`, with this at it. -/
def Makes : FsEvent N D → List N → Node D → Prop
  | fail, _, _ => False
  | remove _, _, _ => False
  | clear _, _, _ => False
  | mkdir p, q, node => p = q ∧ node = .dir
  | put p data, q, node => p = q ∧ node = .file data

/-- The event makes something at or below `p`. -/
def Builds (e : FsEvent N D) (p : List N) : Prop := ∃ q node, e.Makes q node ∧ p <+: q

/-- The event removes what is at `p`. -/
def Removes : FsEvent N D → List N → Prop
  | remove t, p => t <+: p
  | clear t, p => t <+: p ∧ p ≠ t
  | _, _ => False

/-- An event that removes something makes nothing. -/
lemma Removes.not_builds {e : FsEvent N D} {p q : List N} (h : e.Removes p) : ¬ e.Builds q := by
  rintro ⟨r, node, hmakes, -⟩
  cases e with
  | fail => exact h
  | remove t => exact hmakes
  | clear t => exact hmakes
  | mkdir d => exact h
  | put f data => exact h

lemma any_inits_eq_false {s : Files N D} {p : List N} :
    p.inits.any s.isFile = false ↔ ∀ r, r <+: p → s.isFile r = false := by
  simp [List.any_eq_false]

section Apply

variable [DecidableEq N]

/-- What the event does, unless it fails. -/
def apply : FsEvent N D → Files N D → Option (Files N D)
  | fail, _ => none
  | remove t, s => if t.dropLast.inits.any s.isFile then none else some (s.removeTree t)
  | clear t, s => some (s.removeBelow t)
  | mkdir p, s => if p.inits.any s.isFile then none else some (s.makeDirs p)
  | put p data, s =>
    if p.dropLast.inits.any s.isFile ∨ s.isDir p then none
    else some ((s.makeDirs p.dropLast).put p data)

variable {s s' : Files N D} {p : List N} {data : D}

lemma apply_remove_eq_some {t : List N} :
    (remove t : FsEvent N D).apply s = some s' ↔
      (∀ r, r <+: t.dropLast → s.isFile r = false) ∧ s' = s.removeTree t := by
  rw [apply, ← any_inits_eq_false]
  cases t.dropLast.inits.any s.isFile <;> simp [eq_comm]

lemma apply_mkdir_eq_some :
    (mkdir p : FsEvent N D).apply s = some s' ↔
      (∀ r, r <+: p → s.isFile r = false) ∧ s' = s.makeDirs p := by
  rw [apply, ← any_inits_eq_false]
  cases p.inits.any s.isFile <;> simp [eq_comm]

lemma apply_put_eq_some :
    (put p data).apply s = some s' ↔
      (∀ r, r <+: p.dropLast → s.isFile r = false) ∧ s.isDir p = false ∧
        s' = (s.makeDirs p.dropLast).put p data := by
  rw [apply, ← any_inits_eq_false]
  cases p.dropLast.inits.any s.isFile <;> cases s.isDir p <;> simp [eq_comm]

end Apply

end FsEvent

/-- Some event of the log removes what is at `p`. -/
def Removed (log : List (FsEvent N D)) (p : List N) : Prop := ∃ e ∈ log, e.Removes p

/-- `p` was made by the log, and not removed since. -/
def Alive : List (FsEvent N D) → List N → Prop
  | [], _ => False
  | e :: log, p => Alive log p ∨ e.Builds p ∧ ¬ Removed log p

section Run

variable [DecidableEq N]

/-- Run a log; it stops at the first event that fails. -/
def runLog : List (FsEvent N D) → Files N D → Option (Files N D)
  | [], s => some s
  | e :: log, s => (e.apply s).bind (runLog log)

lemma runLog_append (log log' : List (FsEvent N D)) (s : Files N D) :
    runLog (log ++ log') s = (runLog log s).bind (runLog log') := by
  induction log generalizing s with
  | nil => rfl
  | cons e log ih =>
    simp only [List.cons_append, runLog, Option.bind_assoc]
    congr 1
    funext s
    exact ih s

end Run

/-! ## The last event decides -/

@[simp] lemma removed_nil (p : List N) : ¬ Removed ([] : List (FsEvent N D)) p := by
  simp [Removed]

lemma removed_cons (e : FsEvent N D) (log : List (FsEvent N D)) (p : List N) :
    Removed (e :: log) p ↔ e.Removes p ∨ Removed log p := by
  simp [Removed]

lemma removed_append (log log' : List (FsEvent N D)) (p : List N) :
    Removed (log ++ log') p ↔ Removed log p ∨ Removed log' p := by
  simp [Removed, or_and_right, exists_or]

lemma Alive.builds {log : List (FsEvent N D)} {p : List N} (h : Alive log p) :
    ∃ e ∈ log, e.Builds p := by
  induction log with
  | nil => exact h.elim
  | cons e log ih =>
    rcases h with h | ⟨hbuilds, -⟩
    · obtain ⟨e', he', hb⟩ := ih h
      exact ⟨e', List.mem_cons_of_mem _ he', hb⟩
    · exact ⟨e, by simp, hbuilds⟩

/-- What was made and is not alive was removed. -/
lemma alive_or_removed {log : List (FsEvent N D)} {p : List N} {e : FsEvent N D} (he : e ∈ log)
    (hb : e.Builds p) : Alive log p ∨ Removed log p := by
  induction log with
  | nil => simp at he
  | cons e' log ih =>
    rw [removed_cons]
    rcases List.mem_cons.mp he with rfl | he
    · by_cases hr : Removed log p
      · exact .inr (.inr hr)
      · exact .inl (.inr ⟨hb, hr⟩)
    · rcases ih he with h | h
      · exact .inl (.inl h)
      · exact .inr (.inr h)

/-- After a removal, something alive was made again. -/
lemma Alive.made_after {pre post : List (FsEvent N D)} {e : FsEvent N D} {p : List N}
    (h : Alive (pre ++ e :: post) p) (he : e.Removes p) : ∃ e' ∈ post, e'.Builds p := by
  induction pre with
  | nil =>
    rcases h with h | ⟨hbuilds, -⟩
    · exact h.builds
    · exact absurd hbuilds he.not_builds
  | cons e' pre ih =>
    rcases h with h | ⟨-, hnot⟩
    · exact ih h
    · exact absurd ((removed_append _ _ _).mpr (.inr ((removed_cons _ _ _).mpr (.inl he)))) hnot

/-- A removed path was removed last by some event, after which nothing removes it. -/
lemma Removed.last {log : List (FsEvent N D)} {p : List N} (h : Removed log p) :
    ∃ pre e post, log = pre ++ e :: post ∧ e.Removes p ∧ ¬ Removed post p := by
  induction log with
  | nil => exact absurd h (removed_nil p)
  | cons e log ih =>
    by_cases hlog : Removed log p
    · obtain ⟨pre, e', post, rfl, he', hpost⟩ := ih hlog
      exact ⟨e :: pre, e', post, rfl, he', hpost⟩
    · exact ⟨[], e, log, rfl, ((removed_cons _ _ _).mp h).resolve_right hlog, hlog⟩

/-- Made after a last removal is alive. -/
lemma alive_of_made_last {pre post : List (FsEvent N D)} {e e' : FsEvent N D} {p : List N}
    (he : e ∈ post) (hb : e.Builds p) (hpost : ¬ Removed post p) :
    Alive (pre ++ e' :: post) p := by
  have hlive : Alive post p := (alive_or_removed he hb).resolve_right hpost
  induction pre with
  | nil => exact .inl hlive
  | cons x pre ih => exact .inl ih

/-! ## From one state to another -/

/-- What the log makes is what `view` has there, below directories, and what it removes is below
directories of `view`. -/
structure Shows (log : List (FsEvent N D)) (view : Files N D) : Prop where
  made : ∀ e ∈ log, ∀ q node, e.Makes q node →
    view q = some node ∧ ∀ r, r <+: q → r ≠ q → view r = some .dir
  removed : ∀ t, .remove t ∈ log → ∀ r, r <+: t → r ≠ t → view r = some .dir

lemma Shows.mono {log log' : List (FsEvent N D)} {view : Files N D} (h : Shows log view)
    (hsub : log' ⊆ log) : Shows log' view :=
  ⟨fun e he => h.made e (hsub he), fun t ht => h.removed t (hsub ht)⟩

/-- Each path is made after the directories above it, and before all that is below it. What is
removed is below directories that have been made. -/
def Ordered (made : List N → Prop) : List (FsEvent N D) → Prop
  | [] => True
  | e :: log =>
    (∀ q node, e.Makes q node →
      (∀ r, r <+: q → r ≠ q → made r) ∧ ∀ r, q <+: r → ¬ made r) ∧
    (∀ t, e = .remove t → ∀ r, r <+: t → r ≠ t → made r) ∧
    Ordered (fun r => made r ∨ ∃ node, e.Makes r node) log

lemma Shows.builds {log : List (FsEvent N D)} {view : Files N D} (h : Shows log view)
    {e : FsEvent N D} (he : e ∈ log) {p : List N} (hb : e.Builds p) : view p ≠ none := by
  obtain ⟨q, node, hmakes, hpq⟩ := hb
  obtain ⟨hq, habove⟩ := h.made e he q node hmakes
  by_cases hp : p = q
  · rw [hp, hq]
    simp
  · rw [habove p hpq hp]
    simp

lemma Ordered.append {made : List N → Prop} {log log' : List (FsEvent N D)} :
    Ordered made (log ++ log') ↔
      Ordered made log ∧ Ordered (fun r => made r ∨ ∃ e ∈ log, ∃ node, e.Makes r node) log' := by
  induction log generalizing made with
  | nil => simp [Ordered]
  | cons e log ih =>
    have hmade : (fun r => (made r ∨ ∃ node, e.Makes r node) ∨ ∃ e ∈ log, ∃ node, e.Makes r node)
        = fun r => made r ∨ ∃ e' ∈ e :: log, ∃ node, e'.Makes r node := by
      funext r
      simp [or_assoc]
    rw [List.cons_append, Ordered, Ordered, ih, hmade, and_assoc, and_assoc]

/-- Removals below what has been made come in any order. -/
lemma Ordered.of_makes_nothing {made : List N → Prop} {log : List (FsEvent N D)}
    (h : ∀ e ∈ log, (∀ q node, ¬ e.Makes q node) ∧
      ∀ t, e = .remove t → ∀ r, r <+: t → r ≠ t → made r) : Ordered made log := by
  induction log generalizing made with
  | nil => trivial
  | cons e log ih =>
    obtain ⟨hmakes, hremove⟩ := h e List.mem_cons_self
    refine ⟨fun q node hm => absurd hm (hmakes q node), hremove, ih fun e' he' => ?_⟩
    obtain ⟨hmakes', hremove'⟩ := h e' (List.mem_cons_of_mem e he')
    exact ⟨hmakes', fun t ht r hr hne => .inl (hremove' t ht r hr hne)⟩

/-- At its own place in the log. -/
lemma Ordered.at {made : List N → Prop} {pre post : List (FsEvent N D)} {e : FsEvent N D}
    (h : Ordered made (pre ++ e :: post)) {q : List N} {node : Node D} (he : e.Makes q node) :
    (∀ r, r <+: q → r ≠ q → made r ∨ ∃ e ∈ pre, ∃ node, e.Makes r node) ∧
      (∀ e' ∈ pre, ¬ e'.Builds q) ∧ ¬ made q := by
  rw [Ordered.append] at h
  obtain ⟨habove, hbelow⟩ := h.2.1 q node he
  refine ⟨habove, ?_, fun hq => hbelow q (List.prefix_refl q) (.inl hq)⟩
  rintro e' he' ⟨r, node', hmakes, hqr⟩
  exact hbelow r hqr (.inr ⟨e', he', node', hmakes⟩)

lemma prefix_dropLast_iff {p q : List N} (h : p ≠ q) : p <+: q.dropLast ↔ p <+: q := by
  rcases List.eq_nil_or_concat q with rfl | ⟨l, x, rfl⟩
  · rfl
  · rw [List.concat_eq_append] at h ⊢
    rw [List.dropLast_concat, List.prefix_concat_iff]
    exact ⟨.inr, fun hp => hp.resolve_left h⟩

/-- What is removed is below what has been made. -/
lemma Ordered.at_remove {made : List N → Prop} {pre post : List (FsEvent N D)} {t : List N}
    (h : Ordered made (pre ++ .remove t :: post)) :
    ∀ r, r <+: t → r ≠ t → made r ∨ ∃ e ∈ pre, ∃ node, e.Makes r node := by
  rw [Ordered.append] at h
  exact h.2.2.1 t rfl

section Transform

variable [DecidableEq N]

/-- An event leaves directories above what is there, unless it puts a file at the root. -/
lemma FsEvent.apply_closed {e : FsEvent N D} {s s' : Files N D} (hs : s.Closed)
    (hne : ∀ q node, e.Makes q node → q ≠ []) (h : e.apply s = some s') : s'.Closed := by
  cases e with
  | fail => cases h
  | remove t =>
    obtain ⟨-, rfl⟩ := apply_remove_eq_some.mp h
    exact hs.removeTree t
  | clear t =>
    cases h
    exact hs.removeBelow t
  | mkdir p =>
    obtain ⟨-, rfl⟩ := apply_mkdir_eq_some.mp h
    exact hs.makeDirs p
  | put p data =>
    obtain ⟨-, hdir, rfl⟩ := apply_put_eq_some.mp h
    refine (hs.makeDirs _).put (fun r hr hrp => ?_) ?_ data
    · rw [Files.makeDirs, if_pos ((prefix_dropLast_iff hrp).mpr hr)]
    · have hself : ¬ p <+: p.dropLast := fun hp => by
        -- a path above its own parent is the root
        have hlen := hp.length_le
        rw [List.length_dropLast] at hlen
        exact hne p _ ⟨rfl, rfl⟩ (List.eq_nil_of_length_eq_zero (by omega))
      rw [Files.isDir, Files.makeDirs, if_neg hself]
      exact hdir

/-- What one event does to a path. -/
lemma apply_find {e : FsEvent N D} {s s' view : Files N D} (hshow : Shows [e] view)
    (h : e.apply s = some s') (p : List N) :
    (e.Builds p → s' p = view p) ∧ (e.Removes p → s' p = none) ∧
      (¬ e.Builds p → ¬ e.Removes p → s' p = s p) := by
  cases e with
  | fail => cases h
  | remove t =>
    obtain ⟨-, rfl⟩ := FsEvent.apply_remove_eq_some.mp h
    refine ⟨?_, fun ht => if_pos ht, fun _ ht => if_neg ht⟩
    rintro ⟨q, node, hmakes, -⟩
    exact hmakes.elim
  | clear t =>
    cases h
    refine ⟨?_, fun ht => if_pos ht, fun _ ht => if_neg ht⟩
    rintro ⟨q, node, hmakes, -⟩
    exact hmakes.elim
  | mkdir d =>
    obtain ⟨-, rfl⟩ := FsEvent.apply_mkdir_eq_some.mp h
    obtain ⟨hd, habove⟩ := hshow.made (.mkdir d) (by simp) d .dir ⟨rfl, rfl⟩
    refine ⟨?_, False.elim, fun hnot _ => if_neg fun hp => hnot ⟨d, .dir, ⟨rfl, rfl⟩, hp⟩⟩
    rintro ⟨q, node, ⟨rfl, rfl⟩, hp⟩
    rw [Files.makeDirs, if_pos hp]
    by_cases hpd : p = d
    · rw [hpd, hd]
    · rw [habove p hp hpd]
  | put f data =>
    obtain ⟨-, -, rfl⟩ := FsEvent.apply_put_eq_some.mp h
    obtain ⟨hf, habove⟩ := hshow.made (.put f data) (by simp) f (.file data) ⟨rfl, rfl⟩
    refine ⟨?_, False.elim, fun hnot _ => ?_⟩
    · rintro ⟨q, node, ⟨rfl, rfl⟩, hp⟩
      by_cases hpf : p = f
      · rw [Files.put, if_pos hpf, hpf, hf]
      · rw [Files.put, if_neg hpf, Files.makeDirs, if_pos ((prefix_dropLast_iff hpf).mpr hp),
          habove p hp hpf]
    · have hp : ¬ p <+: f := fun hp => hnot ⟨f, .file data, ⟨rfl, rfl⟩, hp⟩
      have hpf : p ≠ f := fun hpf => hp (by rw [hpf])
      rw [Files.put, if_neg hpf, Files.makeDirs, if_neg (by rwa [prefix_dropLast_iff hpf])]

/-- **The last event decides.** -/
lemma runLog_find {log : List (FsEvent N D)} {s s' view : Files N D} (hshow : Shows log view)
    (h : runLog log s = some s') (p : List N) :
    (Alive log p → s' p = view p) ∧ (¬ Alive log p → Removed log p → s' p = none) ∧
      (¬ Alive log p → ¬ Removed log p → s' p = s p) := by
  induction log generalizing s with
  | nil =>
    cases h
    exact ⟨False.elim, fun _ hr => absurd hr (removed_nil p), fun _ _ => rfl⟩
  | cons e log ih =>
    rw [runLog, Option.bind_eq_some_iff] at h
    obtain ⟨s₁, he, hlog⟩ := h
    obtain ⟨halive, hremoved, hkept⟩ := ih (hshow.mono (by simp)) hlog
    obtain ⟨hbuilds, hremoves, hsame⟩ := apply_find (hshow.mono (by simp)) he p
    refine ⟨?_, ?_, ?_⟩
    · rintro (hlive | ⟨hb, hr⟩)
      · exact halive hlive
      -- made here and not removed later, though the rest may make it once more
      · by_cases hlive : Alive log p
        · exact halive hlive
        · rw [hkept hlive hr, hbuilds hb]
    · intro hlive hr
      have hlive' : ¬ Alive log p := fun h => hlive (.inl h)
      by_cases hr' : Removed log p
      · exact hremoved hlive' hr'
      · rw [hkept hlive' hr', hremoves (((removed_cons _ _ _).mp hr).resolve_right hr')]
    · intro hlive hr
      rw [removed_cons, not_or] at hr
      have hlive' : ¬ Alive log p := fun h => hlive (.inl h)
      rw [hkept hlive' hr.2, hsame (fun hb => hlive (.inr ⟨hb, hr.2⟩)) hr.1]

/-- What turns `base` into `view`: no call fails; what the view shows where something is removed
is made afterwards; where the base has a file in the place of a directory or a directory in the
place of a file it is removed before; and what the log neither makes nor removes the view has as
the base has it. -/
structure Transforms (log : List (FsEvent N D)) (base view : Files N D) : Prop where
  no_fail : .fail ∉ log
  made_again : ∀ pre e post, log = pre ++ e :: post → ∀ p, p ≠ [] → e.Removes p → view p ≠ none →
    ∃ e' ∈ post, e'.Builds p
  no_file : ∀ pre p post, log = pre ++ .mkdir p :: post → base.isFile p = true → Removed pre p
  no_dir : ∀ pre p data post, log = pre ++ .put p data :: post → base.isDir p = true →
    Removed pre p
  kept : ∀ p, p ≠ [] → ¬ Removed log p → (∀ e ∈ log, ¬ e.Builds p) → view p = base p

variable {log : List (FsEvent N D)} {base view : Files N D}

/-- A state the log has led to has no file where a directory has been made. -/
lemma isFile_eq_false_of_made {pre : List (FsEvent N D)} (hshow : Shows pre view)
    (hroot : base [] = some .dir) {s : Files N D} (hs : runLog pre base = some s) {r : List N}
    (hview : view r = some .dir) (hmade : r = [] ∨ ∃ e ∈ pre, ∃ node, e.Makes r node) :
    s.isFile r = false := by
  obtain ⟨halive, hremoved, hkept⟩ := runLog_find hshow hs r
  have hstate : s r = some .dir ∨ s r = none := by
    -- a directory is there if it was the last made, and nothing is if it was removed last
    by_cases hlive : Alive pre r
    · rw [halive hlive, hview]
      exact .inl rfl
    · by_cases hrem : Removed pre r
      · exact .inr (hremoved hlive hrem)
      · rcases hmade with rfl | ⟨e, he, node, hmakes⟩
        · rw [hkept hlive hrem, hroot]
          exact .inl rfl
        · have hbuilds : e.Builds r := ⟨r, node, hmakes, List.prefix_refl r⟩
          exact absurd ((alive_or_removed he hbuilds).resolve_left hlive) hrem
  unfold Files.isFile
  rcases hstate with h | h <;> rw [h]

/-- Before a path is made, it is as in the base, unless it has been removed. -/
lemma eq_base_before (hshow : Shows log view) {pre post : List (FsEvent N D)} {e : FsEvent N D}
    (hlog : log = pre ++ e :: post) (hord : Ordered (· = []) log) {s : Files N D}
    (hs : runLog pre base = some s) {q : List N} {node : Node D} (he : e.Makes q node) :
    (Removed pre q → s q = none) ∧ (¬ Removed pre q → s q = base q) := by
  subst hlog
  have hpre : Shows pre view := hshow.mono (by simp)
  -- the order makes each path once, so nothing before has made it
  have hlive : ¬ Alive pre q := fun h => by
    obtain ⟨e', he', hb⟩ := h.builds
    exact (hord.at he).2.1 e' he' hb
  obtain ⟨-, hremoved, hkept⟩ := runLog_find hpre hs q
  exact ⟨hremoved hlive, hkept hlive⟩

/-- The events of a log that transforms `base` do not fail. -/
lemma Transforms.apply_isSome (h : Transforms log base view) (hshow : Shows log view)
    (hroot : base [] = some .dir) (hviewroot : view [] = some .dir)
    {pre post : List (FsEvent N D)} {e : FsEvent N D}
    (hlog : log = pre ++ e :: post) (hord : Ordered (· = []) log) {s : Files N D}
    (hs : runLog pre base = some s) : ∃ s', e.apply s = some s' := by
  have hpre : Shows pre view := hshow.mono (by rw [hlog]; simp)
  cases e with
  | fail => exact absurd (by rw [hlog]; simp) h.no_fail
  | clear t => exact ⟨_, rfl⟩
  | remove t =>
    refine ⟨_, FsEvent.apply_remove_eq_some.mpr ⟨fun r hr => ?_, rfl⟩⟩
    by_cases hne : r = t
    · -- only the root is its own parent
      have hlen := hr.length_le
      rw [hne, List.length_dropLast] at hlen
      have hnil : r = [] := hne.trans (List.eq_nil_of_length_eq_zero (by omega))
      exact isFile_eq_false_of_made hpre hroot hs (by rw [hnil]; exact hviewroot) (.inl hnil)
    · have hrt := (prefix_dropLast_iff hne).mp hr
      have hview := hshow.removed t (by rw [hlog]; simp) r hrt hne
      exact isFile_eq_false_of_made hpre hroot hs hview ((hlog ▸ hord).at_remove r hrt hne)
  | mkdir p =>
    have hmakes : (FsEvent.mkdir p : FsEvent N D).Makes p .dir := ⟨rfl, rfl⟩
    refine ⟨_, FsEvent.apply_mkdir_eq_some.mpr ⟨fun r hr => ?_, rfl⟩⟩
    by_cases hne : r = p
    · obtain ⟨hremoved, hkept⟩ := eq_base_before hshow hlog hord hs hmakes
      rw [hne]
      by_cases hrem : Removed pre p
      · rw [Files.isFile, hremoved hrem]
      · rw [Files.isFile, hkept hrem]
        exact Bool.eq_false_iff.mpr fun hfile => hrem (h.no_file pre p post hlog hfile)
    · have hview := (hshow.made _ (by rw [hlog]; simp) p .dir hmakes).2 r hr hne
      exact isFile_eq_false_of_made hpre hroot hs hview (((hlog ▸ hord).at hmakes).1 r hr hne)
  | put p data =>
    have hmakes : (FsEvent.put p data).Makes p (.file data) := ⟨rfl, rfl⟩
    obtain ⟨hremoved, hkept⟩ := eq_base_before hshow hlog hord hs hmakes
    have hdir : s.isDir p = false := by
      by_cases hrem : Removed pre p
      · rw [Files.isDir, hremoved hrem]
      · rw [Files.isDir, hkept hrem]
        exact Bool.eq_false_iff.mpr fun hfile => hrem (h.no_dir pre p data post hlog hfile)
    refine ⟨_, FsEvent.apply_put_eq_some.mpr ⟨fun r hr => ?_, hdir, rfl⟩⟩
    have hne : r ≠ p := by
      rintro rfl
      rw [hlog] at hord
      have hlen := hr.length_le
      rw [List.length_dropLast] at hlen
      exact (hord.at hmakes).2.2 (List.eq_nil_of_length_eq_zero (by omega))
    have hrp := (prefix_dropLast_iff hne).mp hr
    have hview := (hshow.made _ (by rw [hlog]; simp) p _ hmakes).2 r hrp hne
    exact isFile_eq_false_of_made hpre hroot hs hview (((hlog ▸ hord).at hmakes).1 r hrp hne)

/-- A log that transforms `base` runs to its end. -/
lemma Transforms.runs (h : Transforms log base view) (hshow : Shows log view)
    (hroot : base [] = some .dir) (hviewroot : view [] = some .dir)
    (hord : Ordered (· = []) log) {pre post : List (FsEvent N D)}
    (hlog : log = pre ++ post) : ∃ s, runLog pre base = some s := by
  induction pre using List.reverseRecOn generalizing post with
  | nil => exact ⟨base, rfl⟩
  | append_singleton pre e ih =>
    rw [List.append_assoc] at hlog
    obtain ⟨s, hs⟩ := ih hlog
    obtain ⟨s', hs'⟩ := h.apply_isSome hshow hroot hviewroot hlog hord hs
    refine ⟨s', ?_⟩
    rw [runLog_append, hs]
    show (e.apply s).bind (runLog []) = some s'
    rw [hs']
    rfl

/-- **When a log leads from `base` to `view`.** The log makes each path once, after the
directories above it, and makes what the view shows. -/
theorem run_shows_iff (hshow : Shows log view) (hord : Ordered (· = []) log)
    (hroot : base [] = some .dir) (hviewroot : view [] = some .dir) :
    (∃ s, runLog log base = some s ∧ ∀ p, p ≠ [] → s p = view p) ↔
      Transforms log base view := by
  constructor
  · rintro ⟨s, hrun, hsame⟩
    have hfind := runLog_find hshow hrun
    refine ⟨?_, ?_, ?_, ?_, ?_⟩
    · intro hmem
      obtain ⟨pre, post, hlog⟩ := List.append_of_mem hmem
      rw [hlog, runLog_append, Option.bind_eq_some_iff] at hrun
      obtain ⟨s, -, hrun⟩ := hrun
      cases hrun
    · intro pre e post hlog p hne he hp
      -- what is shown and has been removed must be alive at the end, so it is made after
      have hrem : Removed log p := ⟨e, by rw [hlog]; simp, he⟩
      have hlive : Alive log p := by
        by_contra hlive
        exact hp ((hsame p hne).symm.trans ((hfind p).2.1 hlive hrem))
      rw [hlog] at hlive
      exact hlive.made_after he
    · intro pre p post hlog hfile
      have hmakes : (FsEvent.mkdir p : FsEvent N D).Makes p .dir := ⟨rfl, rfl⟩
      rw [hlog, runLog_append, Option.bind_eq_some_iff] at hrun
      obtain ⟨s, hs, hrun⟩ := hrun
      -- not removed before, the file of the base would still be in the way
      by_contra hrem
      have hsame := (eq_base_before hshow hlog hord hs hmakes).2 hrem
      rw [runLog, Option.bind_eq_some_iff] at hrun
      obtain ⟨s', hs', -⟩ := hrun
      have hnofile := (FsEvent.apply_mkdir_eq_some.mp hs').1 p (List.prefix_refl p)
      rw [Files.isFile, hsame] at hnofile
      exact absurd (hfile.symm.trans hnofile) (by simp)
    · intro pre p data post hlog hdir
      have hmakes : (FsEvent.put p data).Makes p (.file data) := ⟨rfl, rfl⟩
      rw [hlog, runLog_append, Option.bind_eq_some_iff] at hrun
      obtain ⟨s, hs, hrun⟩ := hrun
      -- and so would the directory
      by_contra hrem
      have hsame := (eq_base_before hshow hlog hord hs hmakes).2 hrem
      rw [runLog, Option.bind_eq_some_iff] at hrun
      obtain ⟨s', hs', -⟩ := hrun
      have hnodir := (FsEvent.apply_put_eq_some.mp hs').2.1
      rw [Files.isDir, hsame] at hnodir
      exact absurd (hdir.symm.trans hnodir) (by simp)
    · intro p hne hrem hnot
      -- neither made nor removed, it is as in the base
      have hlive : ¬ Alive log p := fun hlive => by
        obtain ⟨e, he, hb⟩ := hlive.builds
        exact hnot e he hb
      exact (hsame p hne).symm.trans ((hfind p).2.2 hlive hrem)
  · intro h
    obtain ⟨s, hs⟩ := h.runs hshow hroot hviewroot hord (List.append_nil log).symm
    refine ⟨s, hs, fun p hne => ?_⟩
    obtain ⟨halive, hremoved, hkept⟩ := runLog_find hshow hs p
    by_cases hlive : Alive log p
    · exact halive hlive
    · by_cases hrem : Removed log p
      · rw [hremoved hlive hrem]
        -- removed last, it would be made again if the view showed it
        by_contra hview
        obtain ⟨pre, e, post, hlog, he, hpost⟩ := hrem.last
        obtain ⟨e', he', hb⟩ := h.made_again pre e post hlog p hne he (Ne.symm hview)
        exact hlive (hlog ▸ alive_of_made_last he' hb hpost)
      · rw [hkept hlive hrem]
        have hnot : ∀ e ∈ log, ¬ e.Builds p := fun e he hb =>
          hrem ((alive_or_removed he hb).resolve_left hlive)
        exact (h.kept p hne hrem hnot).symm

end Transform

end Lib
