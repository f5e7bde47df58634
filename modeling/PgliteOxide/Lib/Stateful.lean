import PgliteOxide.Lib.Outcome

/-!
# Methods on a mutable value

A Rust method with `&mut self` and result type `Result<α, ε>` is a function from the state to
the state it leaves and how it ended. Unlike in a state monad over `Except`, the state it
leaves is there after an error and after a panic as well, so what a failed call has already
done stays visible. `Keeps` is the invariant rule for such methods and `wp` the rule for what
holds when one ends.
-/

namespace Lib

/-- A method on a state `S`. -/
def Stateful (S ε α : Type) : Type := S → S × Outcome ε α

namespace Stateful

variable {S ε ε' α β : Type}

/-- Sequencing: the `?` operator. -/
protected def bind (m : Stateful S ε α) (f : α → Stateful S ε β) : Stateful S ε β := fun s =>
  match m s with
  | (s', .ok a) => f a s'
  | (s', .err e) => (s', .err e)
  | (s', .panic) => (s', .panic)

instance : Monad (Stateful S ε) where
  pure a := fun s => (s, .ok a)
  bind := Stateful.bind

/-- Read the state. -/
def get : Stateful S ε S := fun s => (s, .ok s)

/-- Change the state. -/
def modify (f : S → S) : Stateful S ε Unit := fun s => (f s, .ok ())

/-- Return an error. -/
def fail (e : ε) : Stateful S ε α := fun s => (s, .err e)

/-- A result that is already there. -/
def lift (x : Outcome ε α) : Stateful S ε α := fun s => (s, x)

/-- Change the error a method returns. -/
def mapErr (f : ε → ε') (m : Stateful S ε α) : Stateful S ε' α := fun s =>
  match m s with
  | (s', .ok a) => (s', .ok a)
  | (s', .err e) => (s', .err (f e))
  | (s', .panic) => (s', .panic)

/-- Keep the result of a method as a value. -/
def attempt (m : Stateful S ε α) : Stateful S ε' (Except ε α) := fun s =>
  match m s with
  | (s', .ok a) => (s', .ok (.ok a))
  | (s', .err e) => (s', .ok (.error e))
  | (s', .panic) => (s', .panic)

/-- Call a method on a condition; without it `a` stands for its result. -/
def onlyIf (m : Stateful S ε α) (c : Bool) (a : α) : Stateful S ε α :=
  if c then m else pure a

/-! ## Step by step -/

section Steps

variable {m : Stateful S ε α} {f : α → Stateful S ε β} {s s' : S}

lemma bind_of_ok {a : α} (h : m s = (s', .ok a)) : (m >>= f) s = f a s' := by
  show Stateful.bind m f s = f a s'
  rw [Stateful.bind, h]

lemma bind_of_err {e : ε} (h : m s = (s', .err e)) : (m >>= f) s = (s', .err e) := by
  show Stateful.bind m f s = (s', .err e)
  rw [Stateful.bind, h]

lemma bind_of_panic (h : m s = (s', .panic)) : (m >>= f) s = (s', .panic) := by
  show Stateful.bind m f s = (s', .panic)
  rw [Stateful.bind, h]

/-- A sequence goes on after its head, or stops where its head does and returns nothing. -/
lemma bind_cases (m : Stateful S ε α) (f : α → Stateful S ε β) (s : S) :
    (∃ t a, m s = (t, .ok a) ∧ (m >>= f) s = f a t) ∨
      (((m >>= f) s).1 = (m s).1 ∧ ∀ b, ((m >>= f) s).2 ≠ .ok b) := by
  rcases hm : m s with ⟨t, a | e | _⟩
  · exact .inl ⟨t, a, rfl, bind_of_ok hm⟩
  · exact .inr (by rw [bind_of_err hm]; simp)
  · exact .inr (by rw [bind_of_panic hm]; simp)

/-- A sequence goes on after its head, or its head returns nothing and neither does the whole. -/
lemma bind_ok_or (m : Stateful S ε α) (f : α → Stateful S ε β) (s : S) :
    (∃ t a, m s = (t, .ok a) ∧ (m >>= f) s = f a t) ∨
      (¬ (∃ a, (m s).2 = .ok a) ∧ ((m >>= f) s).1 = (m s).1 ∧ ¬ ∃ b, ((m >>= f) s).2 = .ok b) := by
  rcases hm : m s with ⟨t, a | e | _⟩
  · exact .inl ⟨t, a, rfl, bind_of_ok hm⟩
  · exact .inr (by rw [bind_of_err hm]; simp)
  · exact .inr (by rw [bind_of_panic hm]; simp)

lemma bind_assoc {γ : Type} (m : Stateful S ε α) (f : α → Stateful S ε β)
    (g : β → Stateful S ε γ) : (m >>= f) >>= g = m >>= fun a => f a >>= g := by
  funext s
  rcases hm : m s with ⟨t, a | e | _⟩
  · rw [bind_of_ok hm]
    show Stateful.bind (m >>= f) g s = Stateful.bind (f a) g t
    rw [Stateful.bind, bind_of_ok hm]
    rfl
  · rw [bind_of_err hm, bind_of_err (bind_of_err hm)]
  · rw [bind_of_panic hm, bind_of_panic (bind_of_panic hm)]

lemma bind_pure_unit (m : Stateful S ε Unit) : (m >>= fun _ => pure ()) = m := by
  funext s
  rcases hm : m s with ⟨t, a | e | _⟩
  · rw [bind_of_ok hm]
    rfl
  · rw [bind_of_err hm]
  · rw [bind_of_panic hm]

lemma bind_pure_fst (m : Stateful S ε α) (g : α → β) (s : S) :
    ((m >>= fun a => pure (g a)) s).1 = (m s).1 := by
  rcases hm : m s with ⟨t, a | e | _⟩
  · rw [bind_of_ok hm]
    rfl
  · rw [bind_of_err hm]
  · rw [bind_of_panic hm]

/-- A sequence returns when its head and then its tail return. -/
lemma bind_eq_ok {b : β} :
    (m >>= f) s = (s', .ok b) ↔ ∃ t a, m s = (t, .ok a) ∧ f a t = (s', .ok b) := by
  constructor
  · intro h
    rcases hm : m s with ⟨t, a | e | _⟩
    · exact ⟨t, a, rfl, by rw [← h, bind_of_ok hm]⟩
    · rw [bind_of_err hm] at h
      simp at h
    · rw [bind_of_panic hm] at h
      simp at h
  · rintro ⟨t, a, hm, hf⟩
    rw [bind_of_ok hm, hf]

/-- A sequence fails when its head does, or when the head returns and the tail does. -/
lemma bind_eq_err {e : ε} :
    (m >>= f) s = (s', .err e) ↔
      m s = (s', .err e) ∨ ∃ t a, m s = (t, .ok a) ∧ f a t = (s', .err e) := by
  constructor
  · intro h
    rcases hm : m s with ⟨t, a | e' | _⟩
    · exact Or.inr ⟨t, a, rfl, by rw [← h, bind_of_ok hm]⟩
    · rw [bind_of_err hm, Prod.mk.injEq, Outcome.err.injEq] at h
      exact Or.inl (by rw [h.1, h.2])
    · rw [bind_of_panic hm] at h
      simp at h
  · rintro (hm | ⟨t, a, hm, hf⟩)
    · exact bind_of_err hm
    · rw [bind_of_ok hm, hf]

lemma mapErr_fst (g : ε → ε') (m : Stateful S ε α) (s : S) : (m.mapErr g s).1 = (m s).1 := by
  unfold Stateful.mapErr
  rcases m s with ⟨t, a | e | _⟩ <;> rfl

lemma mapErr_eq_ok {g : ε → ε'} {a : α} :
    m.mapErr g s = (s', .ok a) ↔ m s = (s', .ok a) := by
  unfold Stateful.mapErr
  rcases m s with ⟨t, a | e | _⟩ <;> simp

lemma attempt_eq_ok {a : α} :
    (m.attempt s : S × Outcome ε' (Except ε α)) = (s', .ok (.ok a)) ↔ m s = (s', .ok a) := by
  unfold attempt
  rcases m s with ⟨t, a | e | _⟩ <;> simp

/-- A method whose result is kept as a value does not fail. -/
lemma attempt_ne_err (m : Stateful S ε α) (s : S) (e : ε') :
    (m.attempt s : S × Outcome ε' (Except ε α)).2 ≠ .err e := by
  unfold attempt
  rcases m s with ⟨t, a | e | _⟩ <;> simp

/-- A sequence fails only if one of its parts does. -/
lemma bind_ne_err (hm : ∀ e, (m s).2 ≠ .err e) (hf : ∀ a t e, (f a t).2 ≠ .err e) (e : ε) :
    ((m >>= f) s).2 ≠ .err e := by
  rcases h : m s with ⟨t, a | e' | _⟩
  · rw [bind_of_ok h]
    exact hf a t e
  · exact absurd (by rw [h]) (hm e')
  · rw [bind_of_panic h]
    simp

end Steps

/-! ## What holds when a method ends -/

/-- The method, called in `s`, ends in a state and with a result in `Q`. -/
def wp (m : Stateful S ε α) (Q : S → Outcome ε α → Prop) (s : S) : Prop := Q (m s).1 (m s).2

@[simp] lemma wp_pure (a : α) (Q : S → Outcome ε α → Prop) (s : S) :
    wp (pure a : Stateful S ε α) Q s ↔ Q s (.ok a) := Iff.rfl

@[simp] lemma wp_get (Q : S → Outcome ε S → Prop) (s : S) :
    wp (get : Stateful S ε S) Q s ↔ Q s (.ok s) := Iff.rfl

@[simp] lemma wp_modify (f : S → S) (Q : S → Outcome ε Unit → Prop) (s : S) :
    wp (modify f : Stateful S ε Unit) Q s ↔ Q (f s) (.ok ()) := Iff.rfl

@[simp] lemma wp_fail (e : ε) (Q : S → Outcome ε α → Prop) (s : S) :
    wp (fail e : Stateful S ε α) Q s ↔ Q s (.err e) := Iff.rfl

@[simp] lemma wp_lift (x : Outcome ε α) (Q : S → Outcome ε α → Prop) (s : S) :
    wp (lift x : Stateful S ε α) Q s ↔ Q s x := Iff.rfl

/-- What the rest of a sequence owes after its head has ended. -/
def after (f : α → Stateful S ε β) (Q : S → Outcome ε β → Prop) (s : S) : Outcome ε α → Prop
  | .ok a => wp (f a) Q s
  | .err e => Q s (.err e)
  | .panic => Q s .panic

@[simp] lemma after_ok (f : α → Stateful S ε β) (Q : S → Outcome ε β → Prop) (s : S) (a : α) :
    after f Q s (.ok a) ↔ wp (f a) Q s := Iff.rfl

@[simp] lemma after_err (f : α → Stateful S ε β) (Q : S → Outcome ε β → Prop) (s : S) (e : ε) :
    after f Q s (.err e) ↔ Q s (.err e) := Iff.rfl

@[simp] lemma after_panic (f : α → Stateful S ε β) (Q : S → Outcome ε β → Prop) (s : S) :
    after f Q s .panic ↔ Q s .panic := Iff.rfl

/-- **The rule for sequences.** -/
lemma wp_bind (m : Stateful S ε α) (f : α → Stateful S ε β) (Q : S → Outcome ε β → Prop)
    (s : S) : wp (m >>= f) Q s ↔ wp m (after f Q) s := by
  unfold wp
  show Q (Stateful.bind m f s).1 (Stateful.bind m f s).2 ↔ after f Q (m s).1 (m s).2
  unfold Stateful.bind
  generalize m s = r
  obtain ⟨s', o⟩ := r
  cases o <;> exact Iff.rfl

/-- A weaker promise is kept as well. -/
lemma wp_mono {m : Stateful S ε α} {Q Q' : S → Outcome ε α → Prop} {s : S} (h : wp m Q s)
    (hQ : ∀ s' o, Q s' o → Q' s' o) : wp m Q' s := hQ _ _ h

/-! ## Invariants -/

/-- The method keeps `I`, however it ends. -/
def Keeps (m : Stateful S ε α) (I : S → Prop) : Prop := ∀ s, I s → I (m s).1

variable {I : S → Prop}

lemma Keeps.pure (a : α) : (Pure.pure a : Stateful S ε α).Keeps I := fun _ h => h

lemma Keeps.get : (Stateful.get : Stateful S ε S).Keeps I := fun _ h => h

lemma Keeps.fail (e : ε) : (Stateful.fail e : Stateful S ε α).Keeps I := fun _ h => h

lemma Keeps.lift (x : Outcome ε α) : (Stateful.lift x : Stateful S ε α).Keeps I := fun _ h => h

lemma Keeps.modify {f : S → S} (hf : ∀ s, I s → I (f s)) :
    (Stateful.modify f : Stateful S ε Unit).Keeps I := hf

/-- **The invariant rule for sequences.** -/
lemma Keeps.bind {m : Stateful S ε α} {f : α → Stateful S ε β} (hm : m.Keeps I)
    (hf : ∀ a, (f a).Keeps I) : (m >>= f).Keeps I := by
  intro s hs
  have hm' := hm s hs
  show I (Stateful.bind m f s).1
  unfold Stateful.bind
  generalize m s = r at hm' ⊢
  obtain ⟨s', o⟩ := r
  cases o with
  | ok a => exact hf a s' hm'
  | err e => exact hm'
  | panic => exact hm'

lemma Keeps.mapErr {m : Stateful S ε α} {f : ε → ε'} (hm : m.Keeps I) :
    (m.mapErr f).Keeps I := by
  intro s hs
  rw [mapErr_fst]
  exact hm s hs

lemma Keeps.attempt {m : Stateful S ε α} (hm : m.Keeps I) :
    (m.attempt : Stateful S ε' (Except ε α)).Keeps I := by
  intro s hs
  have hm' := hm s hs
  unfold Stateful.attempt
  generalize m s = r at hm' ⊢
  obtain ⟨s', o⟩ := r
  cases o <;> exact hm'

lemma Keeps.ite {c : Prop} [Decidable c] {m m' : Stateful S ε α} (hm : m.Keeps I)
    (hm' : m'.Keeps I) : (if c then m else m').Keeps I := by
  split
  · exact hm
  · exact hm'

lemma Keeps.onlyIf {m : Stateful S ε α} {c : Bool} {a : α} (hm : m.Keeps I) :
    (m.onlyIf c a).Keeps I := hm.ite (.pure a)

/-- The rule for sequences whose head keeps `I`. -/
lemma Keeps.wp_bind {m : Stateful S ε α} {f : α → Stateful S ε β} {Q : S → Outcome ε β → Prop}
    {s : S} (hm : m.Keeps I) (hs : I s) (hok : ∀ t a, I t → wp (f a) Q t)
    (hno : ∀ t o, I t → (¬ ∃ b, o = .ok b) → Q t o) : wp (m >>= f) Q s := by
  rw [Stateful.wp_bind]
  have hkept := hm s hs
  unfold wp
  rcases hrun : m s with ⟨t, a | e | _⟩
  all_goals rw [hrun] at hkept
  · exact hok t a hkept
  · exact hno t _ hkept (by simp)
  · exact hno t _ hkept (by simp)

end Stateful

end Lib
