import Mathlib.Tactic.Common

/-!
# Programs that call an environment

A `Prog` returns, fails, or calls an operation and goes on with whatever the environment
answers. Nothing is assumed about the answers: an execution is a trace of operations with their
answers (`Exec`), and a statement about every trace is a statement about every environment.
`wp` computes what holds of all executions and composes along the program; `replay` runs a
program against a given trace, `execWith` against an environment that answers from the history.
-/

namespace Lib

/-- A program over the operations `Op` with answers in `Ans`. -/
inductive Prog (Op : Type) (Ans : Op → Type) (ε α : Type) where
  | ret (a : α)
  | fail (e : ε)
  | call (op : Op) (next : Ans op → Prog Op Ans ε α)

/-- An operation and its answer. -/
structure Event (Op : Type) (Ans : Op → Type) where
  op : Op
  ans : Ans op

namespace Prog

variable {Op : Type} {Ans : Op → Type} {ε α β : Type}

/-- Sequencing; a failure ends the program. -/
protected def bind : Prog Op Ans ε α → (α → Prog Op Ans ε β) → Prog Op Ans ε β
  | ret a, f => f a
  | fail e, _ => fail e
  | call op next, f => call op fun ans => (next ans).bind f

instance : Monad (Prog Op Ans ε) where
  pure := ret
  bind := Prog.bind

lemma bind_of_pure (a : α) (f : α → Prog Op Ans ε β) :
    (pure a : Prog Op Ans ε α) >>= f = f a := rfl

lemma bind_assoc {γ : Type} (p : Prog Op Ans ε α) (f : α → Prog Op Ans ε β)
    (g : β → Prog Op Ans ε γ) : (p >>= f) >>= g = p >>= fun a => f a >>= g := by
  induction p with
  | ret a => rfl
  | fail e => rfl
  | call op next ih =>
    show call op (fun ans => (next ans >>= f) >>= g)
      = call op fun ans => next ans >>= fun a => f a >>= g
    exact congrArg (call op) (funext ih)

/-- Call one operation. -/
def perform (op : Op) : Prog Op Ans ε (Ans op) := call op ret

/-- The `?` operator on a result that is already there. -/
def ofExcept : Except ε α → Prog Op Ans ε α
  | .ok a => ret a
  | .error e => fail e

/-! ## Executions -/

/-- `p` makes the calls of the trace and ends with the result. -/
inductive Exec : Prog Op Ans ε α → List (Event Op Ans) → Except ε α → Prop
  | ret (a : α) : Exec (ret a) [] (.ok a)
  | fail (e : ε) : Exec (fail e) [] (.error e)
  | call {op : Op} {next : Ans op → Prog Op Ans ε α} {tr : List (Event Op Ans)}
      {r : Except ε α} (ans : Ans op) (h : Exec (next ans) tr r) :
      Exec (call op next) (⟨op, ans⟩ :: tr) r

/-- One part after the other. -/
lemma Exec.bind {p : Prog Op Ans ε α} {f : α → Prog Op Ans ε β} {tr tr' : List (Event Op Ans)}
    {a : α} {r : Except ε β} (hp : Exec p tr (.ok a)) (hf : Exec (f a) tr' r) :
    Exec (p >>= f) (tr ++ tr') r := by
  generalize hresult : Except.ok a = result at hp
  induction hp with
  | ret a' =>
    cases hresult
    exact hf
  | fail e => cases hresult
  | call ans _ ih => exact .call ans (ih hresult)

/-- What holds of the trace and the result of every execution. -/
def wp : Prog Op Ans ε α → (List (Event Op Ans) → Except ε α → Prop) → Prop
  | ret a, Q => Q [] (.ok a)
  | fail e, Q => Q [] (.error e)
  | call op next, Q => ∀ ans, wp (next ans) fun tr r => Q (⟨op, ans⟩ :: tr) r

/-- What `wp` promises, an execution keeps. -/
lemma Exec.of_wp {p : Prog Op Ans ε α} {tr : List (Event Op Ans)} {r : Except ε α}
    (h : Exec p tr r) {Q : List (Event Op Ans) → Except ε α → Prop} (hp : wp p Q) : Q tr r := by
  induction h generalizing Q with
  | ret a => exact hp
  | fail e => exact hp
  | call ans _ ih => exact ih (hp ans)

/-! ## Rules -/

@[simp] lemma wp_pure (a : α) (Q : List (Event Op Ans) → Except ε α → Prop) :
    wp (pure a : Prog Op Ans ε α) Q ↔ Q [] (.ok a) := Iff.rfl

@[simp] lemma wp_fail (e : ε) (Q : List (Event Op Ans) → Except ε α → Prop) :
    wp (fail e) Q ↔ Q [] (.error e) := Iff.rfl

@[simp] lemma wp_perform (op : Op) (Q : List (Event Op Ans) → Except ε (Ans op) → Prop) :
    wp (perform op) Q ↔ ∀ ans, Q [⟨op, ans⟩] (.ok ans) := Iff.rfl

/-- **The rule for sequences.** -/
@[simp] lemma wp_bind (p : Prog Op Ans ε α) (f : α → Prog Op Ans ε β)
    (Q : List (Event Op Ans) → Except ε β → Prop) :
    wp (p >>= f) Q ↔ wp p fun tr r =>
      match r with
      | .ok a => wp (f a) fun tr' r' => Q (tr ++ tr') r'
      | .error e => Q tr (.error e) := by
  induction p generalizing Q with
  | ret a => exact Iff.rfl
  | fail e => exact Iff.rfl
  | call op next ih => exact forall_congr' fun ans => ih ans _

@[simp] lemma wp_ite {c : Prop} [Decidable c] (p q : Prog Op Ans ε α)
    (Q : List (Event Op Ans) → Except ε α → Prop) :
    wp (if c then p else q) Q ↔ (c → wp p Q) ∧ (¬ c → wp q Q) := by
  by_cases hc : c <;> simp [hc]

/-- A weaker promise is kept as well. -/
lemma wp_mono {p : Prog Op Ans ε α} {Q Q' : List (Event Op Ans) → Except ε α → Prop}
    (h : wp p Q) (hQ : ∀ tr r, Q tr r → Q' tr r) : wp p Q' := by
  induction p generalizing Q Q' with
  | ret a => exact hQ _ _ h
  | fail e => exact hQ _ _ h
  | call op next ih =>
    intro ans
    apply ih ans (h ans)
    intro tr r hr
    exact hQ _ _ hr

lemma wp_of_forall {p : Prog Op Ans ε α} {Q : List (Event Op Ans) → Except ε α → Prop}
    (h : ∀ tr r, Q tr r) : wp p Q := by
  induction p generalizing Q with
  | ret a => exact h _ _
  | fail e => exact h _ _
  | call op next ih => exact fun ans => ih ans fun tr r => h _ _

/-- The program only makes calls in `A`, and what it returns is in `Q`. -/
def keepsTo : Prog Op Ans ε α → (Op → Prop) → (α → Prop) → Prop
  | ret a, _, Q => Q a
  | fail _, _, _ => True
  | call op next, A, Q => A op ∧ ∀ ans, (next ans).keepsTo A Q

@[simp] lemma keepsTo_perform (op : Op) (A : Op → Prop) (Q : Ans op → Prop) :
    (perform op : Prog Op Ans ε (Ans op)).keepsTo A Q ↔ A op ∧ ∀ ans, Q ans := Iff.rfl

@[simp] lemma keepsTo_bind (p : Prog Op Ans ε α) (f : α → Prog Op Ans ε β) (A : Op → Prop)
    (Q : β → Prop) : (p >>= f).keepsTo A Q ↔ p.keepsTo A fun a => (f a).keepsTo A Q := by
  induction p with
  | ret a => exact Iff.rfl
  | fail e => exact Iff.rfl
  | call op next ih => exact and_congr Iff.rfl (forall_congr' ih)

lemma keepsTo_mono {A : Op → Prop} {Q Q' : α → Prop} {p : Prog Op Ans ε α} (h : p.keepsTo A Q)
    (hQ : ∀ a, Q a → Q' a) : p.keepsTo A Q' := by
  induction p with
  | ret a => exact hQ a h
  | fail e => trivial
  | call op next ih => exact ⟨h.1, fun ans => ih ans (h.2 ans)⟩

/-! ## Running a program -/

/-- Run against a trace: `none` when the program makes other calls. -/
def replay [DecidableEq Op] : Prog Op Ans ε α → List (Event Op Ans) → Option (Except ε α)
  | ret a, [] => some (.ok a)
  | fail e, [] => some (.error e)
  | call op next, e :: tr => if h : e.op = op then replay (next (h ▸ e.ans)) tr else none
  | _, _ => none

lemma exec_of_replay [DecidableEq Op] {p : Prog Op Ans ε α} {tr : List (Event Op Ans)}
    {r : Except ε α} (h : replay p tr = some r) : Exec p tr r := by
  induction p generalizing tr with
  | ret a =>
    cases tr with
    | nil => cases h; exact .ret a
    | cons e tr => cases h
  | fail e =>
    cases tr with
    | nil => cases h; exact .fail e
    | cons e tr => cases h
  | call op next ih =>
    cases tr with
    | nil => cases h
    | cons e tr =>
      simp only [replay] at h
      split at h
      · rename_i hop
        obtain ⟨op', ans⟩ := e
        subst hop
        exact .call ans (ih ans h)
      · cases h

/-- Run against an environment that answers from what was called so far. -/
def execWith (env : List (Event Op Ans) → (op : Op) → Ans op) :
    List (Event Op Ans) → Prog Op Ans ε α → List (Event Op Ans) × Except ε α
  | _, ret a => ([], .ok a)
  | _, fail e => ([], .error e)
  | history, call op next =>
    let ans := env history op
    let (tr, r) := execWith env (history ++ [⟨op, ans⟩]) (next ans)
    (⟨op, ans⟩ :: tr, r)

lemma exec_execWith (env : List (Event Op Ans) → (op : Op) → Ans op)
    (history : List (Event Op Ans)) (p : Prog Op Ans ε α) :
    Exec p (execWith env history p).1 (execWith env history p).2 := by
  induction p generalizing history with
  | ret a => exact .ret a
  | fail e => exact .fail e
  | call op next ih => exact .call _ (ih _ _)

/-- The answers of a trace are those the environment gives. -/
def AnsweredBy (env : List (Event Op Ans) → (op : Op) → Ans op) :
    List (Event Op Ans) → List (Event Op Ans) → Prop
  | _, [] => True
  | history, e :: tr => e.ans = env history e.op ∧ AnsweredBy env (history ++ [e]) tr

lemma answeredBy_execWith (env : List (Event Op Ans) → (op : Op) → Ans op)
    (history : List (Event Op Ans)) (p : Prog Op Ans ε α) :
    AnsweredBy env history (execWith env history p).1 := by
  induction p generalizing history with
  | ret a => trivial
  | fail e => trivial
  | call op next ih => exact ⟨rfl, ih _ _⟩

/-- What all answers of the environment have in common holds of every event. -/
lemma AnsweredBy.forall_mem {env : List (Event Op Ans) → (op : Op) → Ans op}
    {Q : Event Op Ans → Prop} (henv : ∀ history op, Q ⟨op, env history op⟩)
    {history tr : List (Event Op Ans)} (h : AnsweredBy env history tr) : ∀ e ∈ tr, Q e := by
  induction tr generalizing history with
  | nil => simp
  | cons e tr ih =>
    obtain ⟨op, ans⟩ := e
    obtain ⟨hans, htr⟩ := h
    dsimp only at hans
    subst hans
    exact List.forall_mem_cons.mpr ⟨henv history op, ih htr⟩

end Prog

/-! ## Machines -/

/-- A machine makes one program's worth of calls from each of its states; a failed program has
a state of its own, a halted machine no program. -/
structure Machine (Op : Type) (Ans : Op → Type) (ε C : Type) where
  next : C → Option (Prog Op Ans ε C)
  failed : ε → C

namespace Machine

variable {Op : Type} {Ans : Op → Type} {ε C : Type} (M : Machine Op Ans ε C)

/-- The state a program of the machine ends in. -/
def settle : Except ε C → C
  | .ok c => c
  | .error e => M.failed e

@[simp] lemma settle_ok (c : C) : M.settle (.ok c) = c := rfl

/-- Runs from `c₀` whose steps all meet `P`, with everything called so far. -/
inductive Run (P : C → List (Event Op Ans) → Prop) (c₀ : C) : List (Event Op Ans) → C → Prop
  | start : Run P c₀ [] c₀
  | step {tr tr' : List (Event Op Ans)} {c : C} {p : Prog Op Ans ε C} {r : Except ε C}
      (run : Run P c₀ tr c) (hnext : M.next c = some p) (exec : p.Exec tr' r) (hP : P c tr') :
      Run P c₀ (tr ++ tr') (M.settle r)

variable {M} {P : C → List (Event Op Ans) → Prop} {c₀ : C}

/-- **The invariant rule.** What holds at the start and is kept by every step holds of every run. -/
theorem Run.invariant {I : List (Event Op Ans) → C → Prop} (hstart : I [] c₀)
    (hstep : ∀ tr c p, I tr c → M.next c = some p →
      p.wp fun tr' r => P c tr' → I (tr ++ tr') (M.settle r))
    {tr : List (Event Op Ans)} {c : C} (run : M.Run P c₀ tr c) : I tr c := by
  induction run with
  | start => exact hstart
  | step _ hnext exec hP ih => exact exec.of_wp (hstep _ _ _ ih hnext) hP

/-- Steps that meet more conditions meet fewer. -/
lemma Run.mono {P' : C → List (Event Op Ans) → Prop} (hP : ∀ c tr, P c tr → P' c tr)
    {tr : List (Event Op Ans)} {c : C} (run : M.Run P c₀ tr c) : M.Run P' c₀ tr c := by
  induction run with
  | start => exact .start
  | step _ hnext exec h ih => exact ih.step hnext exec (hP _ _ h)

/-- Replay a run step by step, as long as the steps meet `P`. -/
def replay (M : Machine Op Ans ε C) [DecidableEq Op] (P : C → List (Event Op Ans) → Prop)
    [∀ c tr, Decidable (P c tr)] : C → List (List (Event Op Ans)) → Option C
  | c, [] => some c
  | c, tr :: trs =>
    match (M.next c).bind fun p => p.replay tr with
    | none => none
    | some r => if P c tr then M.replay P (M.settle r) trs else none

/-- What replays is a run. -/
lemma run_of_replay [DecidableEq Op] [∀ c tr, Decidable (P c tr)]
    {trs : List (List (Event Op Ans))} {history : List (Event Op Ans)} {c c' : C}
    (run : M.Run P c₀ history c) (h : M.replay P c trs = some c') :
    M.Run P c₀ (history ++ trs.flatten) c' := by
  induction trs generalizing history c with
  | nil =>
    cases h
    simpa using run
  | cons tr trs ih =>
    rw [replay] at h
    cases hnext : M.next c with
    | none => simp [hnext] at h
    | some p =>
      cases hexec : p.replay tr with
      | none => simp [hnext, hexec] at h
      | some r =>
        simp only [hnext, Option.bind_some, hexec] at h
        split at h
        · rename_i hP
          have hrun := ih (run.step hnext (p.exec_of_replay hexec) hP) h
          rwa [List.append_assoc] at hrun
        · cases h

lemma run_of_replay_start [DecidableEq Op] [∀ c tr, Decidable (P c tr)]
    {trs : List (List (Event Op Ans))} {c : C} (h : M.replay P c₀ trs = some c) :
    M.Run P c₀ trs.flatten c :=
  run_of_replay .start h

/-- A replayed run, of which only `f` is looked at. -/
lemma exists_run_of_replay [DecidableEq Op] (M : Machine Op Ans ε C)
    (P : C → List (Event Op Ans) → Prop) [∀ c tr, Decidable (P c tr)] (c₀ : C)
    (trs : List (List (Event Op Ans))) {β : Type} (f : C → β) {b : β}
    (h : (M.replay P c₀ trs).map f = some b) : ∃ c, M.Run P c₀ trs.flatten c ∧ f c = b := by
  obtain ⟨c, hc, hb⟩ := Option.map_eq_some_iff.mp h
  exact ⟨c, run_of_replay_start hc, hb⟩

variable (M)

/-- Run at most `n` steps against an environment. -/
def runWith (env : List (Event Op Ans) → (op : Op) → Ans op) :
    ℕ → List (Event Op Ans) → C → List (Event Op Ans) × C
  | 0, history, c => (history, c)
  | n + 1, history, c =>
    match M.next c with
    | none => (history, c)
    | some p =>
      let (tr, r) := p.execWith env history
      runWith env n (history ++ tr) (M.settle r)

/-- **The termination rule.** If every step against the environment keeps the invariant and makes
the measure smaller, the machine halts. -/
theorem exists_runWith_halted {env : List (Event Op Ans) → (op : Op) → Ans op}
    {I : List (Event Op Ans) → C → Prop} (μ : List (Event Op Ans) → C → ℕ)
    (hstep : ∀ tr c p, I tr c → M.next c = some p →
      p.wp fun tr' r => Prog.AnsweredBy env tr tr' →
        I (tr ++ tr') (M.settle r) ∧ μ (tr ++ tr') (M.settle r) < μ tr c)
    {tr : List (Event Op Ans)} {c : C} (hI : I tr c) :
    ∃ n, I (M.runWith env n tr c).1 (M.runWith env n tr c).2 ∧
      M.next (M.runWith env n tr c).2 = none := by
  induction hμ : μ tr c using Nat.strongRecOn generalizing tr c with
  | ind k ih =>
    cases hnext : M.next c with
    | none => exact ⟨0, hI, hnext⟩
    | some p =>
      have hdone := (p.exec_execWith env tr).of_wp (hstep tr c p hI hnext)
        (p.answeredBy_execWith env tr)
      obtain ⟨n, hn⟩ := ih _ (hμ ▸ hdone.2) hdone.1 rfl
      refine ⟨n + 1, ?_⟩
      simp only [runWith, hnext]
      exact hn

end Machine

end Lib
