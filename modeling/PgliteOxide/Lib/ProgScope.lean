import PgliteOxide.Lib.ProgState

/-!
# Failures as values

`attempt` keeps the failure of a program as a value, so that what follows is done on every path.
`Owes` says what a program that keeps to the rules of a `Custody` owns when it ends, whether it
returns or fails; an execution of such a program makes only the calls its owner may make, and ends
with what was promised (`Exec.of_owes`).
-/

namespace Lib

/-- Which calls the owner of something may make, and what they do to it. -/
structure Custody (Op : Type) (Ans : Op → Type) (R : Type) where
  may : R → Op → Prop
  after : R → (op : Op) → Ans op → R

namespace Prog

variable {Op : Type} {Ans : Op → Type} {ε ε' α β S R : Type}

/-- The result of a program as a value. -/
def attempt : Prog Op Ans ε α → Prog Op Ans ε' (Except ε α)
  | ret a => ret (.ok a)
  | fail e => ret (.error e)
  | call op next => call op fun ans => (next ans).attempt

lemma safe_attempt {E : Effects Op Ans S} {I : S → Prop} {Q : S → Except ε' (Except ε α) → Prop}
    {p : Prog Op Ans ε α} {s : S} :
    safe E I Q p.attempt s ↔ safe E I (fun s' r => Q s' (.ok r)) p s := by
  induction p generalizing s with
  | ret a => exact Iff.rfl
  | fail e => exact Iff.rfl
  | call op next ih =>
    refine and_congr_right fun _ => and_congr_right fun _ => ?_
    exact forall_congr' fun s' => forall_congr' fun ans => imp_congr_right fun _ => ih ans

lemma safe_mapErr {E : Effects Op Ans S} {I : S → Prop} {Q : S → Except ε' α → Prop} {g : ε → ε'}
    {p : Prog Op Ans ε α} {s : S} :
    safe E I Q (p.mapErr g) s ↔ safe E I (fun s' r => Q s' (r.mapError g)) p s := by
  induction p generalizing s with
  | ret a => exact Iff.rfl
  | fail e => exact Iff.rfl
  | call op next ih =>
    refine and_congr_right fun _ => and_congr_right fun _ => ?_
    exact forall_congr' fun s' => forall_congr' fun ans => imp_congr_right fun _ => ih ans

/-- A failure kept as a value does not stop the program; what holds when it returns is said of the
other values only. -/
lemma returns_attempt {E : Effects Op Ans S} {R : S → α → Prop} {p : Prog Op Ans ε α} {s : S} :
    returns E (fun s' x => ∀ a, x = .ok a → R s' a) (p.attempt : Prog Op Ans ε' (Except ε α)) s ↔
      returns E R p s := by
  induction p generalizing s with
  | ret a =>
    refine ⟨fun h => h a rfl, fun h b hb => ?_⟩
    cases hb
    exact h
  | fail e => exact ⟨fun _ => trivial, fun _ a ha => by cases ha⟩
  | call op next ih =>
    exact forall_congr' fun s' => forall_congr' fun ans => imp_congr_right fun _ => ih ans

/-! ## Runs of parts -/

section Runs

variable {E : Effects Op Ans S} {s s' : S}

lemma Runs.of_attempt {p : Prog Op Ans ε α} {r : Except ε' (Except ε α)}
    (h : Runs E (p.attempt : Prog Op Ans ε' (Except ε α)) s s' r) :
    ∃ x, r = .ok x ∧ Runs E p s s' x := by
  induction p generalizing s with
  | ret a =>
    cases h
    exact ⟨_, rfl, .ret a _⟩
  | fail e =>
    cases h
    exact ⟨_, rfl, .fail e _⟩
  | call op next ih =>
    cases h with
    | call hstep h =>
      obtain ⟨x, hr, hx⟩ := ih _ h
      exact ⟨x, hr, .call hstep hx⟩

lemma Runs.of_bind {p : Prog Op Ans ε α} {f : α → Prog Op Ans ε β} {r : Except ε β}
    (h : Runs E (p >>= f) s s' r) :
    (∃ a mid, Runs E p s mid (.ok a) ∧ Runs E (f a) mid s' r) ∨
      ∃ e, Runs E p s s' (.error e) ∧ r = .error e := by
  induction p generalizing s with
  | ret a => exact .inl ⟨a, s, .ret a s, h⟩
  | fail e =>
    cases h
    exact .inr ⟨e, .fail e _, rfl⟩
  | call op next ih =>
    cases h with
    | call hstep h =>
      rcases ih _ h with ⟨a, mid, hp, hf⟩ | ⟨e, hp, hr⟩
      · exact .inl ⟨a, mid, .call hstep hp, hf⟩
      · exact .inr ⟨e, .call hstep hp, hr⟩

/-- A program in a pool goes on where a part of it has run. -/
lemma Runs.advance {allowed : Prog Op Ans ε β → Prop} {initial : S → Prop} {p : Prog Op Ans ε α}
    {f : α → Prog Op Ans ε β} {a : α} {started : Prog Op Ans ε β}
    {past : List (Event Op Ans × S)} {left right : List (Running Op Ans ε β S)}
    (hrun : Runs E p s s' (.ok a))
    (h : Pool.Reachable E allowed initial ⟨s, left ++ ⟨started, past, p >>= f⟩ :: right⟩) :
    ∃ past', Pool.Reachable E allowed initial
      ⟨s', left ++ ⟨started, past', f a⟩ :: right⟩ := by
  induction p generalizing s past with
  | ret b =>
    cases hrun
    exact ⟨past, h⟩
  | fail e => cases hrun
  | call op next ih =>
    cases hrun with
    | call hstep hrun => exact ih _ hrun (.call h hstep)

/-- The program on a state that answers in one way. -/
def runWith (answer : S → (op : Op) → S × Ans op) : Prog Op Ans ε α → S → S × Except ε α
  | ret a, s => (s, .ok a)
  | fail e, s => (s, .error e)
  | call op next, s => runWith answer (next (answer s op).2) (answer s op).1

lemma runs_runWith {answer : S → (op : Op) → S × Ans op} {I : S → Prop}
    (h : ∀ s op, I s → E.step op s (answer s op).1 (answer s op).2 ∧ I (answer s op).1)
    (p : Prog Op Ans ε α) {s : S} (hs : I s) :
    Runs E p s (p.runWith answer s).1 (p.runWith answer s).2 := by
  induction p generalizing s with
  | ret a => exact .ret a s
  | fail e => exact .fail e s
  | call op next ih => exact .call (h s op hs).1 (ih _ (h s op hs).2)

end Runs

/-! ## What a program owes -/

/-- The program, owning `r`, keeps to the rules; however it ends, `Q` holds of what it then owns
and of its result. -/
def Owes (d : Custody Op Ans R) (Q : R → Except ε α → Prop) : R → Prog Op Ans ε α → Prop
  | r, ret a => Q r (.ok a)
  | r, fail e => Q r (.error e)
  | r, call op next => d.may r op ∧ ∀ ans, Owes d Q (d.after r op ans) (next ans)

variable {d : Custody Op Ans R} {Q : R → Except ε α → Prop} {r : R} {p : Prog Op Ans ε α}

@[simp] lemma owes_pure (a : α) : Owes d Q r (pure a : Prog Op Ans ε α) ↔ Q r (.ok a) := Iff.rfl

@[simp] lemma owes_fail (e : ε) : Owes d Q r (fail e : Prog Op Ans ε α) ↔ Q r (.error e) := Iff.rfl

lemma owes_attempt {Q : R → Except ε' (Except ε α) → Prop} :
    Owes d Q r p.attempt ↔ Owes d (fun r x => Q r (.ok x)) r p := by
  induction p generalizing r with
  | ret a => exact Iff.rfl
  | fail e => exact Iff.rfl
  | call op next ih => exact and_congr_right fun _ => forall_congr' fun ans => ih ans

lemma owes_mapErr {Q : R → Except ε' α → Prop} {g : ε → ε'} :
    Owes d Q r (p.mapErr g) ↔ Owes d (fun r x => Q r (x.mapError g)) r p := by
  induction p generalizing r with
  | ret a => exact Iff.rfl
  | fail e => exact Iff.rfl
  | call op next ih => exact and_congr_right fun _ => forall_congr' fun ans => ih ans

lemma Owes.mono {Q' : R → Except ε α → Prop} (h : Owes d Q r p) (hQ : ∀ r x, Q r x → Q' r x) :
    Owes d Q' r p := by
  induction p generalizing r with
  | ret a => exact hQ r _ h
  | fail e => exact hQ r _ h
  | call op next ih => exact ⟨h.1, fun ans => ih ans (h.2 ans)⟩

/-- **The rule for sequences.** -/
lemma Owes.bind {f : α → Prog Op Ans ε β} {Q' : R → Except ε β → Prop} (h : Owes d Q r p)
    (hok : ∀ r a, Q r (.ok a) → Owes d Q' r (f a))
    (herr : ∀ r e, Q r (.error e) → Q' r (.error e)) : Owes d Q' r (p >>= f) := by
  induction p generalizing r with
  | ret a => exact hok r a h
  | fail e => exact herr r e h
  | call op next ih => exact ⟨h.1, fun ans => ih ans (h.2 ans)⟩

lemma Owes.ite {c : Prop} [Decidable c] {q : Prog Op Ans ε α} (hp : c → Owes d Q r p)
    (hq : ¬ c → Owes d Q r q) : Owes d Q r (if c then p else q) := by
  split
  · exact hp ‹_›
  · exact hq ‹_›

/-- **Owners of a state.** Where the state agrees with what is owned, and the calls an owner may
make keep it so, it does at the end. -/
lemma safe_of_owes {E : Effects Op Ans S} {I : S → Prop} {Agrees : R → S → Prop} {s : S}
    (hI : ∀ r s, Agrees r s → I s)
    (hstep : ∀ r op s s' ans, Agrees r s → d.may r op → E.step op s s' ans →
      Agrees (d.after r op ans) s')
    (hcrash : ∀ r op s c, Agrees r s → d.may r op → E.crash op s c → I c)
    (hp : Owes d Q r p) (hs : Agrees r s) :
    safe E I (fun s' x => ∃ r', Q r' x ∧ Agrees r' s') p s := by
  induction p generalizing r s with
  | ret a => exact ⟨hI r s hs, r, hp, hs⟩
  | fail e => exact ⟨hI r s hs, r, hp, hs⟩
  | call op next ih =>
    refine ⟨hI r s hs, fun c hc => hcrash r op s c hs hp.1 hc, fun s' ans h => ?_⟩
    exact ih ans (hp.2 ans) (hstep r op s s' ans hs hp.1 h)

/-- What is owned after the calls of a trace. -/
def held (d : Custody Op Ans R) (r : R) (tr : List (Event Op Ans)) : R :=
  tr.foldl (fun r e => d.after r e.op e.ans) r

/-- **What is owed is kept.** -/
theorem Exec.of_owes {tr : List (Event Op Ans)} {x : Except ε α} (h : Exec p tr x)
    (hp : Owes d Q r p) :
    Q (held d r tr) x ∧
      ∀ before e after, tr = before ++ e :: after → d.may (held d r before) e.op := by
  induction h generalizing r with
  | ret a => exact ⟨hp, by simp⟩
  | fail e => exact ⟨hp, by simp⟩
  | @call op next tr x ans _ ih =>
    obtain ⟨hend, hmay⟩ := ih (hp.2 ans)
    refine ⟨hend, fun before e after heq => ?_⟩
    -- the call is the first one, or one of those behind it
    cases before with
    | nil =>
      obtain ⟨he, -⟩ := List.cons.inj heq
      rw [← he]
      exact hp.1
    | cons first before =>
      obtain ⟨hfirst, hrest⟩ := List.cons.inj heq
      rw [← hfirst]
      exact hmay before e after hrest

end Prog

end Lib
