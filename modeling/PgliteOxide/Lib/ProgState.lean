import PgliteOxide.Lib.Pool

/-!
# One program on a state

The calls of a program may be answered by a state they change: `Effects` says what a call may do
and answer, and what it may leave when the program dies inside it. `Runs` are the executions to
the end and `Dies` the states a program that is stopped somewhere leaves behind; `safe` computes
what holds of all of these and composes along the program.
-/

namespace Lib.Prog

variable {Op : Type} {Ans : Op → Type} {ε ε' α β S : Type}

/-- Change the error a program fails with. -/
def mapErr (f : ε → ε') : Prog Op Ans ε α → Prog Op Ans ε' α
  | ret a => ret a
  | fail e => fail (f e)
  | call op next => call op fun ans => (next ans).mapErr f

lemma keepsTo_mapErr {f : ε → ε'} {p : Prog Op Ans ε α} {A : Op → Prop} {Q : α → Prop}
    (h : p.keepsTo A Q) : (p.mapErr f).keepsTo A Q := by
  induction p with
  | ret a => exact h
  | fail e => trivial
  | call op next ih => exact ⟨h.1, fun ans => ih ans (h.2 ans)⟩

lemma keepsTo_call {op : Op} {A : Op → Prop} (h : A op) :
    (perform op : Prog Op Ans ε (Ans op)).keepsTo A fun _ => True := ⟨h, fun _ => trivial⟩

lemma keepsTo_seq {p : Prog Op Ans ε α} {f : α → Prog Op Ans ε β} {A : Op → Prop} {Q : β → Prop}
    (hp : p.keepsTo A fun _ => True) (hf : ∀ a, (f a).keepsTo A Q) : (p >>= f).keepsTo A Q :=
  (keepsTo_bind _ _ _ _).mpr (keepsTo_mono hp fun a _ => hf a)

lemma keepsTo_ite {c : Prop} [Decidable c] {p q : Prog Op Ans ε α} {A : Op → Prop} {Q : α → Prop}
    (hp : p.keepsTo A Q) (hq : q.keepsTo A Q) : (if c then p else q).keepsTo A Q := by
  split
  · exact hp
  · exact hq

variable (E : Effects Op Ans S)

/-- The program, started in one state, leaves the other and ends with the result. -/
inductive Runs : Prog Op Ans ε α → S → S → Except ε α → Prop
  | ret (a : α) (s : S) : Runs (ret a) s s (.ok a)
  | fail (e : ε) (s : S) : Runs (fail e) s s (.error e)
  | call {op : Op} {next : Ans op → Prog Op Ans ε α} {s s' s'' : S} {ans : Ans op}
      {r : Except ε α} (hstep : E.step op s s' ans) (h : Runs (next ans) s' s'' r) :
      Runs (call op next) s s'' r

/-- The program, started in one state, is stopped between two calls or inside one and leaves the
other. -/
inductive Dies : Prog Op Ans ε α → S → S → Prop
  | here (p : Prog Op Ans ε α) (s : S) : Dies p s s
  | inside {op : Op} {next : Ans op → Prog Op Ans ε α} {s c : S} (h : E.crash op s c) :
      Dies (call op next) s c
  | later {op : Op} {next : Ans op → Prog Op Ans ε α} {s s' c : S} {ans : Ans op}
      (hstep : E.step op s s' ans) (h : Dies (next ans) s' c) : Dies (call op next) s c

variable {E} in
/-- What a program leaves at its end it leaves when it is stopped there. -/
lemma Runs.dies {p : Prog Op Ans ε α} {s s' : S} {r : Except ε α} (h : Runs E p s s' r) :
    Dies E p s s' := by
  induction h with
  | ret a s => exact .here _ s
  | fail e s => exact .here _ s
  | call hstep _ ih => exact .later hstep ih

/-- Wherever the program is stopped it leaves `I`, and it ends in `Q`. -/
def safe (I : S → Prop) (Q : S → Except ε α → Prop) : Prog Op Ans ε α → S → Prop
  | ret a, s => I s ∧ Q s (.ok a)
  | fail e, s => I s ∧ Q s (.error e)
  | call op next, s => I s ∧ (∀ c, E.crash op s c → I c) ∧
      ∀ s' ans, E.step op s s' ans → safe I Q (next ans) s'

/-- What a sequence owes after its head. -/
def andThen (I : S → Prop) (f : α → Prog Op Ans ε β) (Q : S → Except ε β → Prop) (s : S) :
    Except ε α → Prop
  | .ok a => safe E I Q (f a) s
  | .error e => Q s (.error e)

variable {E} {I : S → Prop} {Q Q' : S → Except ε α → Prop} {p : Prog Op Ans ε α} {s : S}

lemma safe.start (h : safe E I Q p s) : I s := by
  cases p with
  | ret a => exact h.1
  | fail e => exact h.1
  | call op next => exact h.1

lemma Dies.of_safe {c : S} (hdies : Dies E p s c) (h : safe E I Q p s) : I c := by
  induction hdies with
  | here p s => exact h.start
  | inside hcrash => exact h.2.1 _ hcrash
  | later hstep _ ih => exact ih (h.2.2 _ _ hstep)

lemma Runs.of_safe {s' : S} {r : Except ε α} (hrun : Runs E p s s' r) (h : safe E I Q p s) :
    Q s' r := by
  induction hrun with
  | ret a s => exact h.2
  | fail e s => exact h.2
  | call hstep _ ih => exact ih (h.2.2 _ _ hstep)

/-! ## Rules -/

@[simp] lemma safe_pure (a : α) : safe E I Q (pure a) s ↔ I s ∧ Q s (.ok a) := Iff.rfl

@[simp] lemma safe_fail (e : ε) : safe E I Q (fail e) s ↔ I s ∧ Q s (.error e) := Iff.rfl

lemma safe_perform {op : Op} {Q : S → Except ε (Ans op) → Prop} :
    safe E I Q (perform op) s ↔ I s ∧ (∀ c, E.crash op s c → I c) ∧
      ∀ s' ans, E.step op s s' ans → I s' ∧ Q s' (.ok ans) := Iff.rfl

lemma safe_mono {I' : S → Prop} (h : safe E I Q p s) (hI : ∀ s, I s → I' s)
    (hQ : ∀ s' r, I s' → Q s' r → Q' s' r) : safe E I' Q' p s := by
  induction p generalizing s with
  | ret a => exact ⟨hI _ h.1, hQ _ _ h.1 h.2⟩
  | fail e => exact ⟨hI _ h.1, hQ _ _ h.1 h.2⟩
  | call op next ih =>
    refine ⟨hI _ h.1, fun c hc => hI c (h.2.1 c hc), fun s' ans hstep => ?_⟩
    exact ih ans (h.2.2 s' ans hstep)

/-- **The rule for sequences.** -/
lemma safe_bind {f : α → Prog Op Ans ε β} {Q : S → Except ε β → Prop} :
    safe E I Q (p >>= f) s ↔ safe E I (andThen E I f Q) p s := by
  induction p generalizing s with
  | ret a => exact ⟨fun h => ⟨h.start, h⟩, fun h => h.2⟩
  | fail e => exact Iff.rfl
  | call op next ih =>
    refine and_congr_right fun _ => and_congr_right fun _ => ?_
    exact forall_congr' fun s' => forall_congr' fun ans => imp_congr_right fun _ => ih ans

/-- A sequence whose head ends in `Q`. -/
lemma safe.bind {f : α → Prog Op Ans ε β} {R : S → Except ε β → Prop} (h : safe E I Q p s)
    (hok : ∀ s' a, I s' → Q s' (.ok a) → safe E I R (f a) s')
    (herr : ∀ s' e, I s' → Q s' (.error e) → R s' (.error e)) : safe E I R (p >>= f) s := by
  rw [safe_bind]
  refine safe_mono h (fun _ hI => hI) fun s' r hI hQ => ?_
  cases r with
  | ok a => exact hok s' a hI hQ
  | error e => exact herr s' e hI hQ

lemma safe.ite {c : Prop} [Decidable c] {q : Prog Op Ans ε α} (hp : c → safe E I Q p s)
    (hq : ¬ c → safe E I Q q s) : safe E I Q (if c then p else q) s := by
  split
  · exact hp ‹_›
  · exact hq ‹_›

/-- What all calls a program may make keep, the program keeps. -/
lemma safe_of_keepsTo {A : Op → Prop} {R : α → Prop}
    (hcrash : ∀ op s c, A op → E.crash op s c → I s → I c)
    (hstep : ∀ op s s' ans, A op → E.step op s s' ans → I s → I s') (hp : p.keepsTo A R)
    (hs : I s) : safe E I (fun _ r => ∀ a, r = .ok a → R a) p s := by
  induction p generalizing s with
  | ret a =>
    refine ⟨hs, fun b hb => ?_⟩
    cases hb
    exact hp
  | fail e => exact ⟨hs, fun b hb => by cases hb⟩
  | call op next ih =>
    refine ⟨hs, fun c hc => hcrash op s c hp.1 hc hs, fun s' ans h => ?_⟩
    exact ih ans (hp.2 ans) (hstep op s s' ans hp.1 h hs)

/-! ## What holds when a program returns -/

variable (E) in
/-- However its calls are answered: if the program returns, `R` holds of the state it leaves and
of its result. -/
def returns (R : S → α → Prop) : Prog Op Ans ε α → S → Prop
  | ret a, s => R s a
  | fail _, _ => True
  | call op next, s => ∀ s' ans, E.step op s s' ans → returns R (next ans) s'

variable {R R' : S → α → Prop}

lemma Runs.of_returns {s' : S} {a : α} (hrun : Runs E p s s' (.ok a)) (h : returns E R p s) :
    R s' a := by
  generalize hr : (Except.ok a : Except ε α) = r at hrun
  induction hrun with
  | ret b s =>
    cases hr
    exact h
  | fail e s => cases hr
  | call hstep _ ih => exact ih (h _ _ hstep) hr

@[simp] lemma returns_pure (a : α) : returns E R (pure a : Prog Op Ans ε α) s ↔ R s a := Iff.rfl

@[simp] lemma returns_fail (e : ε) : returns E R (fail e : Prog Op Ans ε α) s := trivial

lemma returns_mono (h : returns E R p s) (hR : ∀ s' a, R s' a → R' s' a) : returns E R' p s := by
  induction p generalizing s with
  | ret a => exact hR _ _ h
  | fail e => trivial
  | call op next ih => exact fun s' ans hstep => ih ans (h s' ans hstep)

/-- **The rule for sequences.** -/
lemma returns_bind {f : α → Prog Op Ans ε β} {R : S → β → Prop} :
    returns E R (p >>= f) s ↔ returns E (fun s' a => returns E R (f a) s') p s := by
  induction p generalizing s with
  | ret a => exact Iff.rfl
  | fail e => exact Iff.rfl
  | call op next ih =>
    exact forall_congr' fun s' => forall_congr' fun ans => imp_congr_right fun _ => ih ans

/-- A sequence whose head returns with `R`. -/
lemma returns.bind {f : α → Prog Op Ans ε β} {R'' : S → β → Prop} (h : returns E R p s)
    (hf : ∀ s' a, R s' a → returns E R'' (f a) s') : returns E R'' (p >>= f) s :=
  returns_bind.mpr (returns_mono h hf)

lemma returns.ite {c : Prop} [Decidable c] {q : Prog Op Ans ε α} (hp : c → returns E R p s)
    (hq : ¬ c → returns E R q s) : returns E R (if c then p else q) s := by
  split
  · exact hp ‹_›
  · exact hq ‹_›

lemma returns_mapErr {f : ε → ε'} : returns E R (p.mapErr f) s ↔ returns E R p s := by
  induction p generalizing s with
  | ret a => exact Iff.rfl
  | fail e => exact Iff.rfl
  | call op next ih =>
    exact forall_congr' fun s' => forall_congr' fun ans => imp_congr_right fun _ => ih ans

lemma returns_of_forall (h : ∀ s' a, R s' a) : returns E R p s := by
  induction p generalizing s with
  | ret a => exact h s a
  | fail e => trivial
  | call op next ih => exact fun s' ans _ => ih ans

/-- What holds everywhere holds at the end. -/
lemma returns_of_safe {R : α → Prop} (h : safe E I (fun _ r => ∀ a, r = .ok a → R a) p s) :
    returns E (fun s' a => I s' ∧ R a) p s := by
  induction p generalizing s with
  | ret a => exact ⟨h.1, h.2 a rfl⟩
  | fail e => trivial
  | call op next ih => exact fun s' ans hstep => ih ans (h.2.2 s' ans hstep)

/-- A sequence runs as its parts do. -/
lemma Runs.bind {f : α → Prog Op Ans ε β} {s' s'' : S} {a : α} {r : Except ε β}
    (hp : Runs E p s s' (.ok a)) (hf : Runs E (f a) s' s'' r) : Runs E (p >>= f) s s'' r := by
  generalize hok : (Except.ok a : Except ε α) = r' at hp
  induction hp with
  | ret b s =>
    cases hok
    exact hf
  | fail e s => cases hok
  | call hstep _ ih => exact .call hstep (ih hf hok)

end Lib.Prog
