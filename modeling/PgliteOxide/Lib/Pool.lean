import PgliteOxide.Lib.Prog

/-!
# Programs side by side

Programs run side by side on a shared state, one call at a time and in any order; new ones may
start at any time, and one may die inside a call (`Pool.Reachable`). Each program can be given a
resource that says what it owns. A `Discipline` says which calls an owner may make and what they
do to its resource; a program that keeps to it in every branch `Obeys` it. When the calls keep
what the discipline says about the shared state and all resources together, this holds in every
state the pool reaches (`Pool.Reachable.holds`), whatever the interleaving.
-/

namespace Lib

variable {Op : Type} {Ans : Op → Type} {ε α β S R : Type}

/-- What an operation may do to the shared state with its answer, and what it may leave when its
caller dies inside it. -/
structure Effects (Op : Type) (Ans : Op → Type) (S : Type) where
  step : (op : Op) → S → S → Ans op → Prop
  crash : Op → S → S → Prop

/-- A program with the calls it has made, each with the state it found, and what is left of it. -/
structure Running (Op : Type) (Ans : Op → Type) (ε α S : Type) where
  started : Prog Op Ans ε α
  past : List (Event Op Ans × S)
  rest : Prog Op Ans ε α

structure Pool (Op : Type) (Ans : Op → Type) (ε α S : Type) where
  state : S
  running : List (Running Op Ans ε α S)

namespace Pool

variable (E : Effects Op Ans S) (allowed : Prog Op Ans ε α → Prop) (initial : S → Prop)

/-- What pools of allowed programs come to. -/
inductive Reachable : Pool Op Ans ε α S → Prop
  | start {s : S} (h : initial s) : Reachable ⟨s, []⟩
  | spawn {s : S} {runs : List (Running Op Ans ε α S)} {p : Prog Op Ans ε α}
      (h : Reachable ⟨s, runs⟩) (hp : allowed p) : Reachable ⟨s, runs ++ [⟨p, [], p⟩]⟩
  | call {s s' : S} {left right : List (Running Op Ans ε α S)} {p : Prog Op Ans ε α}
      {past : List (Event Op Ans × S)} {op : Op} {next : Ans op → Prog Op Ans ε α} {ans : Ans op}
      (h : Reachable ⟨s, left ++ ⟨p, past, .call op next⟩ :: right⟩) (hstep : E.step op s s' ans) :
      Reachable ⟨s', left ++ ⟨p, past ++ [(⟨op, ans⟩, s)], next ans⟩ :: right⟩
  | crash {s s' : S} {left right : List (Running Op Ans ε α S)} {p : Prog Op Ans ε α}
      {past : List (Event Op Ans × S)} {op : Op} {next : Ans op → Prog Op Ans ε α}
      (h : Reachable ⟨s, left ++ ⟨p, past, .call op next⟩ :: right⟩) (hcrash : E.crash op s s') :
      Reachable ⟨s', left ++ right⟩

end Pool

/-! ## Resources -/

/-- Who may call what, and what everybody owns together. -/
structure Discipline (Op : Type) (Ans : Op → Type) (S R : Type) where
  idle : R
  may : R → Op → Prop
  after : R → (op : Op) → Ans op → R
  /-- What a program may own when it ends. -/
  done : R → Prop
  /-- What holds of the shared state and the resources of all programs. -/
  holds : S → List R → Prop

/-- What a program owns after the calls it has made. -/
def Discipline.owned (d : Discipline Op Ans S R) (past : List (Event Op Ans × S)) : R :=
  past.foldl (fun r x => d.after r x.1.op x.1.ans) d.idle

lemma Discipline.owned_snoc (d : Discipline Op Ans S R) (past : List (Event Op Ans × S)) (op : Op)
    (ans : Ans op) (s : S) : d.owned (past ++ [(⟨op, ans⟩, s)]) = d.after (d.owned past) op ans := by
  simp [Discipline.owned]

/-- The calls keep what the discipline says. -/
structure Discipline.Sound (d : Discipline Op Ans S R) (E : Effects Op Ans S) : Prop where
  spawn : ∀ {s rs}, d.holds s rs → d.holds s (rs ++ [d.idle])
  call : ∀ {s s' left r right op ans}, d.holds s (left ++ r :: right) → d.may r op →
    E.step op s s' ans → d.holds s' (left ++ d.after r op ans :: right)
  crash : ∀ {s s' left r right op}, d.holds s (left ++ r :: right) → d.may r op →
    E.crash op s s' → d.holds s' (left ++ right)

namespace Prog

/-- The program, owning `r`, keeps to the discipline; when it returns, `Q` holds of what it owns
and of its result. -/
def Obeys (d : Discipline Op Ans S R) (Q : R → α → Prop) : R → Prog Op Ans ε α → Prop
  | r, ret a => Q r a
  | r, fail _ => d.done r
  | r, call op next => d.may r op ∧ ∀ ans, Obeys d Q (d.after r op ans) (next ans)

variable {d : Discipline Op Ans S R}

/-- **The rule for sequences.** -/
lemma obeys_bind (p : Prog Op Ans ε α) (f : α → Prog Op Ans ε β) (Q : R → β → Prop) (r : R) :
    Obeys d Q r (p >>= f) ↔ Obeys d (fun r a => Obeys d Q r (f a)) r p := by
  induction p generalizing r with
  | ret a => exact Iff.rfl
  | fail e => exact Iff.rfl
  | call op next ih => exact and_congr Iff.rfl (forall_congr' fun ans => ih ans _)

@[simp] lemma obeys_pure (a : α) (Q : R → α → Prop) (r : R) :
    Obeys d Q r (pure a : Prog Op Ans ε α) ↔ Q r a := Iff.rfl

@[simp] lemma obeys_perform (op : Op) (Q : R → Ans op → Prop) (r : R) :
    Obeys d Q r (perform op : Prog Op Ans ε (Ans op)) ↔
      d.may r op ∧ ∀ ans, Q (d.after r op ans) ans := Iff.rfl

lemma Obeys.mono {Q Q' : R → α → Prop} {r : R} {p : Prog Op Ans ε α} (h : Obeys d Q r p)
    (hQ : ∀ r a, Q r a → Q' r a) : Obeys d Q' r p := by
  induction p generalizing r with
  | ret a => exact hQ r a h
  | fail e => exact h
  | call op next ih => exact ⟨h.1, fun ans => ih ans (h.2 ans)⟩

/-- What is left of a program after some calls. -/
inductive Leads (p : Prog Op Ans ε α) : List (Event Op Ans) → Prog Op Ans ε α → Prop
  | nil : Leads p [] p
  | snoc {tr : List (Event Op Ans)} {op : Op} {next : Ans op → Prog Op Ans ε α}
      (h : Leads p tr (call op next)) (ans : Ans op) : Leads p (tr ++ [⟨op, ans⟩]) (next ans)

/-- What is left is determined by the calls. -/
lemma Leads.unique {p q q' : Prog Op Ans ε α} {tr : List (Event Op Ans)} (h : Leads p tr q)
    (h' : Leads p tr q') : q = q' := by
  -- by induction on the calls, from the last one
  induction h generalizing q' with
  | nil =>
    generalize htr : ([] : List (Event Op Ans)) = tr at h'
    cases h' with
    | nil => rfl
    | snoc _ ans => simp at htr
  | @snoc tr op next _ ans ih =>
    generalize htr : tr ++ [⟨op, ans⟩] = tr' at h'
    cases h' with
    | nil => simp at htr
    | snoc h' ans' =>
      obtain ⟨rfl, hlast⟩ := List.append_inj' htr rfl
      obtain ⟨rfl, rfl⟩ := Prog.call.inj (ih h')
      simp only [List.cons.injEq, Event.mk.injEq, heq_eq_eq, true_and, and_true] at hlast
      rw [hlast]

/-- A program that has returned makes no more calls. -/
lemma Leads.of_ret {p q : Prog Op Ans ε α} {tr tr' : List (Event Op Ans)} {a : α}
    (h : Leads p tr (ret a)) (h' : Leads p (tr ++ tr') q) : tr' = [] := by
  generalize htr : tr ++ tr' = whole at h'
  induction h' generalizing tr' with
  | nil => exact (List.append_eq_nil_iff.mp htr).2
  | @snoc front op next h' ans ih =>
    -- a last call would come from a program that has returned
    rcases List.eq_nil_or_concat tr' with rfl | ⟨init, last, rfl⟩
    · rfl
    · rw [List.concat_eq_append, ← List.append_assoc] at htr
      obtain ⟨rfl, -⟩ := List.append_inj' htr rfl
      obtain rfl := ih rfl
      rw [List.append_nil] at h'
      cases h.unique h'

/-- **The rule for sequences.** The first part goes on, or has failed, or has returned and the
second part goes on. -/
lemma Leads.bind_cases {p : Prog Op Ans ε α} {f : α → Prog Op Ans ε β}
    {tr : List (Event Op Ans)} {q : Prog Op Ans ε β} (h : Leads (p >>= f) tr q) :
    (∃ op next, Leads p tr (call op next) ∧ q = (call op next : Prog Op Ans ε α) >>= f) ∨
      (∃ e, Leads p tr (fail e) ∧ q = fail e) ∨
      ∃ tr₁ tr₂ a, tr = tr₁ ++ tr₂ ∧ Leads p tr₁ (ret a) ∧ Leads (f a) tr₂ q := by
  -- A part of `p` that is reached is in one of the three cases at once.
  have hpart {tr : List (Event Op Ans)} {p' : Prog Op Ans ε α} (hp : Leads p tr p') :
      (∃ op next, Leads p tr (call op next) ∧
          (p' >>= f : Prog Op Ans ε β) = (call op next : Prog Op Ans ε α) >>= f) ∨
        (∃ e, Leads p tr (fail e) ∧ (p' >>= f : Prog Op Ans ε β) = fail e) ∨
        ∃ tr₁ tr₂ a, tr = tr₁ ++ tr₂ ∧ Leads p tr₁ (ret a) ∧ Leads (f a) tr₂ (p' >>= f) := by
    cases p' with
    | ret a => exact .inr (.inr ⟨tr, [], a, (List.append_nil tr).symm, hp, .nil⟩)
    | fail e => exact .inr (.inl ⟨e, hp, rfl⟩)
    | call op next => exact .inl ⟨op, next, hp, rfl⟩
  generalize hstart : (p >>= f : Prog Op Ans ε β) = start at h
  induction h with
  | nil => exact hstart ▸ hpart .nil
  | snoc _ ans ih =>
    rcases ih with ⟨op', next', hp, heq⟩ | ⟨e, -, heq⟩ | ⟨tr₁, tr₂, a, rfl, hp, hf⟩
    · obtain ⟨rfl, hnext⟩ := Prog.call.inj heq
      rw [eq_of_heq hnext]
      exact hpart (hp.snoc ans)
    · cases heq
    · exact .inr (.inr ⟨tr₁, tr₂ ++ [⟨_, ans⟩], a, List.append_assoc _ _ _, hp, hf.snoc ans⟩)

/-- `Q` holds at every point of the program: of the calls before it and of what is left. -/
def Always : Prog Op Ans ε α → (List (Event Op Ans) → Prog Op Ans ε α → Prop) → Prop
  | ret a, Q => Q [] (ret a)
  | fail e, Q => Q [] (fail e)
  | call op next, Q => Q [] (call op next) ∧
      ∀ ans, Always (next ans) fun tr q => Q (⟨op, ans⟩ :: tr) q

lemma Always.here {p : Prog Op Ans ε α} {Q : List (Event Op Ans) → Prog Op Ans ε α → Prop}
    (h : Always p Q) : Q [] p := by
  cases p with
  | ret a => exact h
  | fail e => exact h
  | call op next => exact h.1

lemma Always.after {p q : Prog Op Ans ε α} {tr : List (Event Op Ans)}
    {Q : List (Event Op Ans) → Prog Op Ans ε α → Prop} (h : Always p Q) (hq : Leads p tr q) :
    Always q fun tr' q' => Q (tr ++ tr') q' := by
  induction hq with
  | nil => exact h
  | snoc _ ans ih =>
    have hnext := ih.2 ans
    simpa only [List.append_assoc, List.singleton_append] using hnext

/-- **The rule for points.** -/
lemma Always.of_leads {p q : Prog Op Ans ε α} {tr : List (Event Op Ans)}
    {Q : List (Event Op Ans) → Prog Op Ans ε α → Prop} (h : Always p Q) (hq : Leads p tr q) :
    Q tr q := by
  have hhere := (h.after hq).here
  rwa [List.append_nil] at hhere

lemma Leads.exec {p q : Prog Op Ans ε α} {tr tr' : List (Event Op Ans)} {r : Except ε α}
    (h : Leads p tr q) (hq : Exec q tr' r) : Exec p (tr ++ tr') r := by
  induction h generalizing tr' with
  | nil => exact hq
  | snoc _ ans ih =>
    rw [List.append_assoc]
    exact ih (.call ans hq)

end Prog

/-! ## What holds in every pool -/

namespace Pool.Reachable

variable {E : Effects Op Ans S} {allowed : Prog Op Ans ε α → Prop} {initial : S → Prop}
  {d : Discipline Op Ans S R}

/-- **The ownership rule.** Programs that keep to a sound discipline own what it says, in every
pool that can be reached. -/
theorem holds (hd : d.Sound E) (hallowed : ∀ p, allowed p → p.Obeys d (fun r _ => d.done r) d.idle)
    (hinitial : ∀ s, initial s → d.holds s []) {pool : Pool Op Ans ε α S}
    (h : Reachable E allowed initial pool) :
    (∀ run ∈ pool.running, run.rest.Obeys d (fun r _ => d.done r) (d.owned run.past)) ∧
      d.holds pool.state (pool.running.map fun run => d.owned run.past) := by
  induction h with
  | start hs => exact ⟨by simp, hinitial _ hs⟩
  | spawn _ hp ih =>
    obtain ⟨hobeys, hholds⟩ := ih
    refine ⟨fun run hrun => ?_, ?_⟩
    · rcases List.mem_append.mp hrun with hrun | hrun
      · exact hobeys run hrun
      · rw [List.mem_singleton.mp hrun]
        exact hallowed _ hp
    · rw [List.map_append]
      exact hd.spawn hholds
  | @call s s' left right p past op next ans h hstep ih =>
    obtain ⟨hobeys, hholds⟩ := ih
    -- the others own what they owned; the caller was allowed to make the call
    have hcaller := hobeys ⟨p, past, .call op next⟩ (by simp)
    refine ⟨fun run hrun => ?_, ?_⟩
    · rcases List.mem_append.mp hrun with hrun | hrun
      · exact hobeys run (List.mem_append_left _ hrun)
      rcases List.mem_cons.mp hrun with rfl | hrun
      · rw [Discipline.owned_snoc]
        exact hcaller.2 ans
      · exact hobeys run (List.mem_append_right _ (List.mem_cons_of_mem _ hrun))
    · rw [List.map_append, List.map_cons] at hholds ⊢
      rw [Discipline.owned_snoc]
      exact hd.call hholds hcaller.1 hstep
  | @crash s s' left right p past op next h hcrash ih =>
    obtain ⟨hobeys, hholds⟩ := ih
    have hcaller := hobeys ⟨p, past, .call op next⟩ (by simp)
    refine ⟨fun run hrun => ?_, ?_⟩
    · rcases List.mem_append.mp hrun with hrun | hrun
      · exact hobeys run (List.mem_append_left _ hrun)
      · exact hobeys run (List.mem_append_right _ (List.mem_cons_of_mem _ hrun))
    · rw [List.map_append, List.map_cons] at hholds
      rw [List.map_append]
      exact hd.crash hholds hcaller.1 hcrash

/-- What is true of every state is true of the states a program has seen; its past is a past of
the program it was started as. -/
theorem past {I : S → Prop} (hI : ∀ pool, Reachable E allowed initial pool → I pool.state)
    {pool : Pool Op Ans ε α S} (h : Reachable E allowed initial pool) :
    ∀ run ∈ pool.running, allowed run.started ∧
      run.started.Leads (run.past.map Prod.fst) run.rest ∧
      ∀ x ∈ run.past, I x.2 ∧ ∃ s', E.step x.1.op x.2 s' x.1.ans := by
  induction h with
  | start hs => simp
  | spawn _ hp ih =>
    intro run hrun
    rcases List.mem_append.mp hrun with hrun | hrun
    · exact ih run hrun
    · rw [List.mem_singleton.mp hrun]
      exact ⟨hp, .nil, by simp⟩
  | @call s s' left right p past op next ans h hstep ih =>
    intro run hrun
    rcases List.mem_append.mp hrun with hrun | hrun
    · exact ih run (List.mem_append_left _ hrun)
    rcases List.mem_cons.mp hrun with rfl | hrun
    · obtain ⟨hp, hleads, hpast⟩ := ih ⟨p, past, .call op next⟩ (by simp)
      refine ⟨hp, ?_, ?_⟩
      · rw [List.map_append]
        exact hleads.snoc ans
      · intro x hx
        rcases List.mem_append.mp hx with hx | hx
        · exact hpast x hx
        · rw [List.mem_singleton.mp hx]
          exact ⟨hI _ h, s', hstep⟩
    · exact ih run (List.mem_append_right _ (List.mem_cons_of_mem _ hrun))
  | crash _ hcrash ih =>
    intro run hrun
    rcases List.mem_append.mp hrun with hrun | hrun
    · exact ih run (List.mem_append_left _ hrun)
    · exact ih run (List.mem_append_right _ (List.mem_cons_of_mem _ hrun))

end Pool.Reachable

end Lib
