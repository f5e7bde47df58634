import PgliteOxide.Lib.ProgState

/-!
# Programs a machine follows

A machine and a program on a state describe one thing at two levels: every run of the program is to
be one the machine can make. `Leads` says what states a machine comes to from the rest of a step;
`Follows` that it comes to a related state however the calls of the program are answered, and its
rules let either side take its next call.
-/

namespace Lib

variable {Op Op' : Type} {Ans : Op → Type} {Ans' : Op' → Type} {ε ε' α β C S : Type}

namespace Machine

section Leads

variable (M : Machine Op Ans ε C) (A : C → Prop) (E : Event Op Ans → Prop)

/-- The machine makes the calls of the program and then steps from states in `A`, with answers in
`E`, and comes to the state. -/
inductive Leads : Prog Op Ans ε C → C → Prop
  | here (c : C) : Leads (.ret c) c
  | call {op : Op} {next : Ans op → Prog Op Ans ε C} {c : C} (ans : Ans op) (hans : E ⟨op, ans⟩)
      (h : Leads (next ans) c) : Leads (.call op next) c
  | step {c c' : C} {p : Prog Op Ans ε C} (hc : A c) (hnext : M.next c = some p)
      (h : Leads p c') : Leads (.ret c) c'

variable {M A E}

/-- One run after the other. -/
lemma Run.trans {P : C → List (Event Op Ans) → Prop} {c₀ c c' : C} {tr tr' : List (Event Op Ans)}
    (h : M.Run P c₀ tr c) (h' : M.Run P c tr' c') : M.Run P c₀ (tr ++ tr') c' := by
  induction h' with
  | start =>
    rw [List.append_nil]
    exact h
  | step _ hnext exec hP ih =>
    rw [← List.append_assoc]
    exact ih.step hnext exec hP

lemma Leads.exec {c : C} {p : Prog Op Ans ε C} (h : M.Leads A E p c) :
    ∃ tr r tr', p.Exec tr r ∧ M.Run (fun _ _ => True) (M.settle r) tr' c := by
  induction h with
  | here c => exact ⟨[], .ok c, [], .ret c, .start⟩
  | call ans _ _ ih =>
    -- the call joins the calls of the step it is in
    obtain ⟨tr, r, tr', hexec, hrun⟩ := ih
    exact ⟨⟨_, ans⟩ :: tr, r, tr', .call ans hexec, hrun⟩
  | @step c _ _ _ hnext _ ih =>
    -- the step is over; what the next one calls belongs to the run
    obtain ⟨tr, r, tr', hexec, hrun⟩ := ih
    have hfirst : M.Run (fun _ _ => True) c ([] ++ tr) (M.settle r) :=
      Run.start.step hnext hexec trivial
    exact ⟨[], .ok c, _, .ret c, hfirst.trans hrun⟩

/-- What a machine leads to, it runs to. -/
lemma Leads.run {c₀ c c' : C} {p : Prog Op Ans ε C} {history : List (Event Op Ans)}
    (h : M.Leads A E p c') (hrun : M.Run (fun _ _ => True) c₀ history c)
    (hnext : M.next c = some p) : ∃ tr, M.Run (fun _ _ => True) c₀ (history ++ tr) c' := by
  obtain ⟨tr, r, tr', hexec, hrest⟩ := h.exec
  refine ⟨tr ++ tr', ?_⟩
  rw [← List.append_assoc]
  exact (hrun.step hnext hexec trivial).trans hrest

end Leads

section Follows

open Prog

variable (M : Machine Op Ans ε C) (A : C → Prop) (E : Event Op Ans → Prop)
  (F : Effects Op' Ans' S) (R : S → Except ε' α → C → Prop)

/-- However the calls of the program are answered, the machine comes to a state that is related to
the one the program ends in, and to its result. -/
def Follows (p : Prog Op Ans ε C) (q : Prog Op' Ans' ε' α) (s : S) : Prop :=
  safe F (fun _ => True) (fun s' x => ∃ c, R s' x c ∧ M.Leads A E p c) q s

variable {M A E F R} {p : Prog Op Ans ε C} {q : Prog Op' Ans' ε' α} {s s' : S} {c : C}

/-- **A run of the program is one of the machine.** -/
lemma Follows.of_runs {x : Except ε' α} (h : M.Follows A E F R p q s)
    (hrun : Prog.Runs F q s s' x) : ∃ c, R s' x c ∧ M.Leads A E p c := hrun.of_safe h

/-- The program has ended. -/
lemma Follows.pure {a : α} (h : R s (.ok a) c) : M.Follows A E F R (.ret c) (Pure.pure a) s :=
  ⟨trivial, c, h, .here c⟩

lemma Follows.fail {e : ε'} (h : R s (.error e) c) : M.Follows A E F R (.ret c) (.fail e) s :=
  ⟨trivial, c, h, .here c⟩

/-- What leads to more follows more. -/
lemma Follows.of_leads {p' : Prog Op Ans ε C} (h : M.Follows A E F R p' q s)
    (hleads : ∀ c, M.Leads A E p' c → M.Leads A E p c) : M.Follows A E F R p q s :=
  safe_mono h (fun _ _ => trivial) fun _ _ _ ⟨c, hc, hp⟩ => ⟨c, hc, hleads c hp⟩

/-- A call of the machine. -/
lemma Follows.answer {op : Op} {next : Ans op → Prog Op Ans ε C} (ans : Ans op) (hans : E ⟨op, ans⟩)
    (h : M.Follows A E F R (next ans) q s) : M.Follows A E F R (perform op >>= next) q s :=
  h.of_leads fun _ hleads => .call ans hans hleads

/-- The machine begins a step. -/
lemma Follows.step (hc : A c) (hnext : M.next c = some p) (h : M.Follows A E F R p q s) :
    M.Follows A E F R (.ret c) q s :=
  h.of_leads fun _ hleads => .step hc hnext hleads

/-- A call of the program. -/
lemma Follows.call {op : Op'} {f : Ans' op → Prog Op' Ans' ε' α} (hcrash : ∀ c, ¬ F.crash op s c)
    (h : ∀ s' ans, F.step op s s' ans → M.Follows A E F R p (f ans) s') :
    M.Follows A E F R p (perform op >>= f) s :=
  ⟨trivial, fun c hc => absurd hc (hcrash c), h⟩

/-- A part of the program, of which it is known how it ends. -/
lemma Follows.part {q : Prog Op' Ans' ε' β} {f : β → Prog Op' Ans' ε' α}
    {Q : S → Except ε' β → Prop} (hq : safe F (fun _ => True) Q q s)
    (hok : ∀ s' b, Q s' (.ok b) → M.Follows A E F R p (f b) s')
    (herr : ∀ s' e, Q s' (.error e) → M.Follows A E F R p (.fail e) s') :
    M.Follows A E F R p (q >>= f) s :=
  hq.bind (fun s' b _ hb => hok s' b hb) fun s' e _ he => (herr s' e he).2

end Follows

end Machine

end Lib
