import PgliteOxide.Lib.ProgState

/-!
# Dying inside a call

A program that returns has come past its calls, and it could have died inside any of them:
`exposes` says that on every way to a result there is a call inside which the program may leave a
state of a kind. A program over some calls is a program over more calls (`embed`), on a state of
which it sees a part.
-/

namespace Lib.Prog

variable {Op : Type} {Ans : Op → Type} {ε α β S : Type}

section Exposes

variable (E : Effects Op Ans S) (B : S → Prop)

/-- However its calls are answered: the program comes to a call inside which it may die and leave
`B`, or it fails, or it returns with `R`. -/
def exposes (R : S → α → Prop) : Prog Op Ans ε α → S → Prop
  | ret a, s => R s a
  | fail _, _ => True
  | call op next, s => ∀ s' ans, E.step op s s' ans →
      (∃ c, E.crash op s c ∧ B c) ∨ exposes R (next ans) s'

variable {E B} {R R' : S → α → Prop} {p : Prog Op Ans ε α} {s : S}

lemma exposes_mono (h : exposes E B R p s) (hR : ∀ s' a, R s' a → R' s' a) :
    exposes E B R' p s := by
  induction p generalizing s with
  | ret a => exact hR _ _ h
  | fail e => trivial
  | call op next ih => exact fun s' ans hstep => (h s' ans hstep).imp_right (ih ans)

lemma exposes_imp {B' : S → Prop} (h : exposes E B R p s) (hB : ∀ c, B c → B' c) :
    exposes E B' R p s := by
  induction p generalizing s with
  | ret a => exact h
  | fail e => trivial
  | call op next ih =>
    intro s' ans hstep
    rcases h s' ans hstep with ⟨c, hcrash, hc⟩ | hnext
    · exact .inl ⟨c, hcrash, hB c hc⟩
    · exact .inr (ih ans hnext)

/-- **The rule for sequences.** -/
lemma exposes_bind {f : α → Prog Op Ans ε β} {R : S → β → Prop} :
    exposes E B R (p >>= f) s ↔ exposes E B (fun s' a => exposes E B R (f a) s') p s := by
  induction p generalizing s with
  | ret a => exact Iff.rfl
  | fail e => exact Iff.rfl
  | call op next ih =>
    exact forall_congr' fun s' => forall_congr' fun ans => imp_congr_right fun _ =>
      or_congr_right (ih ans)

lemma exposes.bind {f : α → Prog Op Ans ε β} {R'' : S → β → Prop} (h : exposes E B R p s)
    (hf : ∀ s' a, R s' a → exposes E B R'' (f a) s') : exposes E B R'' (p >>= f) s :=
  exposes_bind.mpr (exposes_mono h hf)

lemma exposes_of_returns (h : returns E R p s) : exposes E B R p s := by
  induction p generalizing s with
  | ret a => exact h
  | fail e => trivial
  | call op next ih => exact fun s' ans hstep => .inr (ih ans (h s' ans hstep))

/-- A sequence is exposed where its head is. -/
lemma exposes.head {f : α → Prog Op Ans ε β} {R'' : S → β → Prop}
    (h : exposes E B (fun _ _ => False) p s) : exposes E B R'' (p >>= f) s :=
  h.bind fun _ _ hfalse => hfalse.elim

/-- **A program that is exposed on every way may die and leave `B`**, if it can return at all. -/
lemma Runs.exposed {s' : S} {a : α} (hrun : Runs E p s s' (.ok a))
    (h : exposes E B (fun _ _ => False) p s) : ∃ c, Dies E p s c ∧ B c := by
  generalize hr : (Except.ok a : Except ε α) = r at hrun
  induction hrun with
  | ret b s => exact h.elim
  | fail e s => cases hr
  | call hstep _ ih =>
    rcases h _ _ hstep with ⟨c, hcrash, hc⟩ | hnext
    · exact ⟨c, .inside hcrash, hc⟩
    · obtain ⟨c, hdies, hc⟩ := ih hnext hr
      exact ⟨c, .later hstep hdies, hc⟩

end Exposes

section Embed

variable {Op' : Type} {Ans' : Op' → Type} {S' F : Type}

/-- A program over some of the calls. -/
def embed (g : Op → Op') (back : ∀ op, Ans' (g op) → Ans op) :
    Prog Op Ans ε α → Prog Op' Ans' ε α
  | ret a => ret a
  | fail e => fail e
  | call op next => call (g op) fun ans => (next (back op ans)).embed g back

/-- The calls do on the part that is seen what they do on a state of their own, and leave the rest
alone. -/
structure Sees (E : Effects Op Ans S) (E' : Effects Op' Ans' S') (g : Op → Op')
    (back : ∀ op, Ans' (g op) → Ans op) (view : S' → S) (rest : S' → F) : Prop where
  step : ∀ {op t t' ans}, E'.step (g op) t t' ans →
    E.step op (view t) (view t') (back op ans) ∧ rest t' = rest t
  crash : ∀ {op t c}, E'.crash (g op) t c → E.crash op (view t) (view c) ∧ rest c = rest t

/-- What the calls may do on a state of their own, they may do on the part. -/
structure Does (E : Effects Op Ans S) (E' : Effects Op' Ans' S') (g : Op → Op')
    (back : ∀ op, Ans' (g op) → Ans op) (view : S' → S) : Prop where
  step : ∀ {op t s' ans}, E.step op (view t) s' ans →
    ∃ t' ans', back op ans' = ans ∧ E'.step (g op) t t' ans' ∧ view t' = s'
  crash : ∀ {op t c}, E.crash op (view t) c → ∃ t', E'.crash (g op) t t' ∧ view t' = c

variable {g : Op → Op'} {back : ∀ op, Ans' (g op) → Ans op} {E : Effects Op Ans S}
  {E' : Effects Op' Ans' S'} {view : S' → S} {rest : S' → F} {p : Prog Op Ans ε α} {t : S'}

lemma returns_embed {R : S → α → Prop} (hsees : Sees E E' g back view rest)
    (h : returns E R p (view t)) :
    returns E' (fun t' a => R (view t') a ∧ rest t' = rest t) (p.embed g back) t := by
  induction p generalizing t with
  | ret a => exact ⟨h, rfl⟩
  | fail e => trivial
  | call op next ih =>
    intro t' ans hstep
    obtain ⟨hview, hrest⟩ := hsees.step hstep
    refine returns_mono (ih _ (h _ _ hview)) fun t'' a hR => ?_
    exact ⟨hR.1, hR.2.trans hrest⟩

lemma safe_embed {I : S → Prop} {Q : S → Except ε α → Prop} (hsees : Sees E E' g back view rest)
    (h : safe E I Q p (view t)) :
    safe E' (fun t' => I (view t') ∧ rest t' = rest t) (fun t' r => Q (view t') r)
      (p.embed g back) t := by
  induction p generalizing t with
  | ret a => exact ⟨⟨h.1, rfl⟩, h.2⟩
  | fail e => exact ⟨⟨h.1, rfl⟩, h.2⟩
  | call op next ih =>
    obtain ⟨hI, hcrash, hnext⟩ := h
    refine ⟨⟨hI, rfl⟩, fun c hc => ?_, fun t' ans hstep => ?_⟩
    · obtain ⟨hview, hrest⟩ := hsees.crash hc
      exact ⟨hcrash _ hview, hrest⟩
    · obtain ⟨hview, hrest⟩ := hsees.step hstep
      refine safe_mono (ih _ (hnext _ _ hview)) (fun t'' hI => ?_) fun _ _ _ hQ => hQ
      exact ⟨hI.1, hI.2.trans hrest⟩

lemma exposes_embed {B : S → Prop} {R : S → α → Prop} (hsees : Sees E E' g back view rest)
    (hdoes : Does E E' g back view) (h : exposes E B R p (view t)) :
    exposes E' (fun t' => B (view t')) (fun t' a => R (view t') a) (p.embed g back) t := by
  induction p generalizing t with
  | ret a => exact h
  | fail e => trivial
  | call op next ih =>
    intro t' ans hstep
    rcases h _ _ (hsees.step hstep).1 with ⟨c, hcrash, hc⟩ | hnext
    · obtain ⟨c', hcrash', rfl⟩ := hdoes.crash hcrash
      exact .inl ⟨c', hcrash', hc⟩
    · exact .inr (ih _ hnext)

lemma Runs.embed {s' : S} {r : Except ε α} (hdoes : Does E E' g back view)
    (hrun : Runs E p (view t) s' r) : ∃ t', Runs E' (p.embed g back) t t' r ∧ view t' = s' := by
  generalize hs : view t = s at hrun
  induction hrun generalizing t with
  | ret a s => exact ⟨t, .ret a t, hs⟩
  | fail e s => exact ⟨t, .fail e t, hs⟩
  | call hstep _ ih =>
    subst hs
    obtain ⟨t₁, ans', hback, hstep', hview⟩ := hdoes.step hstep
    obtain ⟨t', hrest, hlast⟩ := ih hview
    rw [← hback] at hrest
    exact ⟨t', .call hstep' hrest, hlast⟩

end Embed

end Lib.Prog
