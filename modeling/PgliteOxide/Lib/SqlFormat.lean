import Mathlib.Algebra.Order.Ring.Int
import Mathlib.Data.List.Count
import Mathlib.Tactic.Common
import Mathlib.Tactic.SplitIfs

/-!
# PostgreSQL's `format`

`format(formatstr, formatarg...)`: text is copied, `%%` stands for `%`, and
`%[position][flags][width]type` for an argument. The template is read character by character, so
a template is formatted part by part. How an identifier is quoted and which texts are integers are
matters of the server (`Quoting`).
-/

namespace Lib

namespace SqlFormat

/-- What `format` uses of the server: `quote_ident` and the input of integers. -/
structure Quoting where
  quoteIdent : List Char → List Char
  int4in : List Char → Option ℤ

/-- A character of a quoted literal or identifier: some are doubled. -/
def doubled (special : List Char) (c : Char) : List Char :=
  if c ∈ special then [c, c] else [c]

/-- `quote_literal`. -/
def quoteLiteral (text : List Char) : List Char :=
  (if '\\' ∈ text then ['E'] else []) ++ '\'' :: (text.flatMap (doubled ['\'', '\\']) ++ ['\''])

/-- `quote_nullable`. -/
def literal : Option (List Char) → List Char
  | none => ['N', 'U', 'L', 'L']
  | some text => quoteLiteral text

/-! ## Specifiers -/

/-- The width of a specifier. -/
inductive Width where
  | direct (n : ℕ)
  /-- `*`: the next argument. -/
  | next
  /-- `*n$`. -/
  | argument (n : ℕ)
deriving DecidableEq

/-- What has been read of the specifier at hand. -/
inductive Mode where
  | text
  /-- Behind the percent sign. -/
  | start
  /-- A number that is a position or a width. -/
  | number (n : ℕ)
  | flags (position : Option ℕ) (minus : Bool)
  | width (position : Option ℕ) (minus : Bool) (n : ℕ)
  | star (position : Option ℕ) (minus : Bool)
  | starNumber (position : Option ℕ) (minus : Bool) (n : ℕ)
  /-- Only the type is missing. -/
  | full (position : Option ℕ) (minus : Bool) (w : Width)
deriving DecidableEq

/-- The output so far and the number of the next argument. -/
structure State where
  out : List Char
  next : ℕ
  mode : Mode
deriving DecidableEq

def init : State := { out := [], next := 1, mode := .text }

/-- One more digit; a number is an `int`. -/
def pushDigit (n : ℕ) (c : Char) : Option ℕ :=
  let n := 10 * n + (c.toNat - 48)
  if n < 2 ^ 31 then some n else none

/-- A text in a field. -/
def pad (minus : Bool) (width : ℤ) (text : List Char) : List Char :=
  let blanks := List.replicate (width.natAbs - text.length) ' '
  if minus ∨ width < 0 then text ++ blanks else blanks ++ text

section

variable (quoting : Quoting) (args : List (Option (List Char)))

/-- The argument with a number from 1 on. -/
def argument (n : ℕ) : Option (Option (List Char)) := if n = 0 then none else args[n - 1]?

/-- The width of a field, and the number of the argument behind it. -/
def widthOf (next : ℕ) : Width → Option (ℤ × ℕ)
  | .direct n => some (n, next)
  | .next => (argument args next).bind fun
    | none => some (0, next + 1)
    | some text => (quoting.int4in text).map (·, next + 1)
  | .argument n => (argument args n).bind fun
    | none => some (0, n + 1)
    | some text => (quoting.int4in text).map (·, n + 1)

/-- An argument as a conversion shows it. -/
def shown (c : Char) (arg : Option (List Char)) : Option (List Char) :=
  if c = 's' then some (arg.getD [])
  else if c = 'I' then arg.map quoting.quoteIdent
  else if c = 'L' then some (literal arg)
  else none

/-- The type of a specifier: the argument is formatted. -/
def convert (s : State) (position : Option ℕ) (minus : Bool) (w : Width) (c : Char) :
    Option State := do
  let (width, next) ← widthOf quoting args s.next w
  let n := position.getD next
  let arg ← argument args n
  let text ← shown quoting c arg
  return { out := s.out ++ pad minus width text, next := n + 1, mode := .text }

/-- What may stand behind a percent sign or a position. -/
def flagStep (s : State) (position : Option ℕ) (minus : Bool) (c : Char) : Option State :=
  if c = '-' then some { s with mode := .flags position true }
  else if c = '*' then some { s with mode := .star position minus }
  else if c.isDigit then (pushDigit 0 c).map fun n => { s with mode := .width position minus n }
  else convert quoting args s position minus (.direct 0) c

/-- One character of the template. -/
def step (s : State) (c : Char) : Option State :=
  match s.mode with
  | .text => if c = '%' then some { s with mode := .start } else some { s with out := s.out ++ [c] }
  | .start =>
    if c = '%' then some { s with out := s.out ++ [c], mode := .text }
    else if c.isDigit then (pushDigit 0 c).map fun n => { s with mode := .number n }
    else flagStep quoting args s none false c
  | .number n =>
    if c.isDigit then (pushDigit n c).map fun n => { s with mode := .number n }
    else if c = '$' then
      if n = 0 then none else some { s with mode := .flags (some n) false }
    else convert quoting args s none false (.direct n) c
  | .flags position minus => flagStep quoting args s position minus c
  | .width position minus n =>
    if c.isDigit then (pushDigit n c).map fun n => { s with mode := .width position minus n }
    else convert quoting args s position minus (.direct n) c
  | .star position minus =>
    if c.isDigit then (pushDigit 0 c).map fun n => { s with mode := .starNumber position minus n }
    else convert quoting args s position minus .next c
  | .starNumber position minus n =>
    if c.isDigit then (pushDigit n c).map fun n => { s with mode := .starNumber position minus n }
    else if c = '$' then
      if n = 0 then none else some { s with mode := .full position minus (.argument n) }
    else none
  | .full position minus w => convert quoting args s position minus w c

/-- `format`; there is no result when it raises an error. -/
def format (template : List Char) : Option (List Char) := do
  let s ← template.foldlM (step quoting args) init
  if s.mode = .text then some s.out else none

end

/-! ## Templates part by part -/

section Parts

variable {quoting : Quoting} {args : List (Option (List Char))} {s : State}

/-- Text without a percent sign is copied. -/
lemma foldlM_text {cs : List Char} (hcs : '%' ∉ cs) (hs : s.mode = .text) :
    cs.foldlM (step quoting args) s = some { s with out := s.out ++ cs } := by
  induction cs generalizing s with
  | nil => simp
  | cons c cs ih =>
    rw [List.mem_cons, not_or] at hcs
    have hstep : step quoting args s c = some { s with out := s.out ++ [c] } := by
      rw [step, hs]
      exact if_neg (Ne.symm hcs.1)
    have htail := @ih { s with out := s.out ++ [c] } hcs.2 hs
    rw [List.foldlM_cons, hstep]
    simp only [Option.bind_eq_bind, Option.bind_some, htail, List.append_assoc,
      List.singleton_append]

/-- The number that digits go on to write. -/
abbrev numberFrom (n : ℕ) (digits : List Char) : ℕ := Nat.ofDigitChars 10 digits n

lemma le_numberFrom (digits : List Char) (n : ℕ) : n ≤ numberFrom n digits := by
  induction digits generalizing n with
  | nil => exact le_rfl
  | cons c digits ih =>
    show n ≤ Nat.ofDigitChars 10 (c :: digits) n
    rw [Nat.ofDigitChars_cons]
    calc n ≤ 10 * n + (c.toNat - '0'.toNat) := by omega
      _ ≤ _ := ih (10 * n + (c.toNat - '0'.toNat))

/-- Digits behind a number make it longer, as long as it is an `int`. -/
lemma foldlM_digits {digits : List Char} (hdigits : ∀ c ∈ digits, c.isDigit = true) {n : ℕ}
    (hs : s.mode = .number n) (hn : n < 2 ^ 31) :
    digits.foldlM (step quoting args) s
      = if numberFrom n digits < 2 ^ 31 then some { s with mode := .number (numberFrom n digits) }
        else none := by
  induction digits generalizing s n with
  | nil =>
    rw [numberFrom, Nat.ofDigitChars_nil, if_pos hn, ← hs]
    rfl
  | cons c digits ih =>
    have hc := hdigits c List.mem_cons_self
    have hnext : numberFrom n (c :: digits) = numberFrom (10 * n + (c.toNat - 48)) digits :=
      Nat.ofDigitChars_cons
    have hstep : step quoting args s c
        = (pushDigit n c).map fun n => { s with mode := .number n } := by
      rw [step, hs]
      exact if_pos hc
    rw [List.foldlM_cons, hstep, hnext, pushDigit]
    by_cases hlt : 10 * n + (c.toNat - 48) < 2 ^ 31
    · simp only [if_pos hlt, Option.map_some, Option.bind_eq_bind, Option.bind_some]
      exact @ih { s with mode := .number (10 * n + (c.toNat - 48)) }
        (fun d hd => hdigits d (List.mem_cons_of_mem c hd)) _ rfl hlt
    · have hle := le_numberFrom digits (10 * n + (c.toNat - 48))
      have hbig : ¬ numberFrom (10 * n + (c.toNat - 48)) digits < 2 ^ 31 := by omega
      rw [if_neg hlt, if_neg hbig]
      rfl

/-- A percent sign and digits are the beginning of a specifier. -/
lemma foldlM_percent {digits : List Char} (hdigits : ∀ c ∈ digits, c.isDigit = true)
    (hne : digits ≠ []) (hs : s.mode = .text) :
    ('%' :: digits).foldlM (step quoting args) s
      = if numberFrom 0 digits < 2 ^ 31 then some { s with mode := .number (numberFrom 0 digits) }
        else none := by
  cases digits with
  | nil => exact absurd rfl hne
  | cons c digits =>
    have hc := hdigits c List.mem_cons_self
    have hpercent : ¬ c = '%' := by
      intro h
      rw [h] at hc
      exact absurd hc (by decide)
    have hstart : step quoting args s '%' = some { s with mode := .start } := by
      rw [step, hs]
      exact if_pos rfl
    have hfirst : step quoting args { s with mode := .start } c
        = (pushDigit 0 c).map fun n => { s with mode := .number n } := by
      show (if c = '%' then _ else if c.isDigit = true then _ else _) = _
      rw [if_neg hpercent, if_pos hc]
    have hfrom :=
      @foldlM_digits quoting args { s with mode := .number 0 } (c :: digits) hdigits 0 rfl
      (by decide)
    rw [List.foldlM_cons, hstart]
    simp only [Option.bind_eq_bind, Option.bind_some]
    rw [List.foldlM_cons, hfirst]
    rw [List.foldlM_cons] at hfrom
    have hsame : step quoting args { s with mode := .number 0 } c
        = (pushDigit 0 c).map fun n => { s with mode := .number n } := by
      show (if c.isDigit = true then _ else _) = _
      rw [if_pos hc]
    rw [hsame] at hfrom
    exact hfrom

/-- The type `L` behind a percent sign and digits: the next argument as a literal, in a field of
this width. -/
lemma foldlM_literal {digits : List Char} (hdigits : ∀ c ∈ digits, c.isDigit = true)
    (hne : digits ≠ []) (hs : s.mode = .text) :
    ('%' :: (digits ++ ['L'])).foldlM (step quoting args) s
      = if numberFrom 0 digits < 2 ^ 31 then
          (argument args s.next).map fun arg =>
            { out := s.out ++ pad false (numberFrom 0 digits : ℕ) (literal arg)
              next := s.next + 1, mode := .text }
        else none := by
  have happend : '%' :: (digits ++ ['L']) = ('%' :: digits) ++ ['L'] := rfl
  rw [happend, List.foldlM_append, foldlM_percent hdigits hne hs]
  by_cases hlt : numberFrom 0 digits < 2 ^ 31
  · rw [if_pos hlt, if_pos hlt]
    simp only [Option.bind_eq_bind, Option.bind_some, List.foldlM_cons, List.foldlM_nil,
      Option.pure_def]
    show (convert quoting args _ none false (.direct (numberFrom 0 digits)) 'L').bind some = _
    simp only [convert, widthOf, shown, Option.bind_eq_bind, Option.bind_some, Option.getD_none,
      Option.bind_fun_some]
    cases argument args s.next with
    | none => rfl
    | some arg => rfl
  · rw [if_neg hlt, if_neg hlt]
    rfl

/-- No type: an error. -/
lemma foldlM_untyped {digits rest : List Char} {c : Char}
    (hdigits : ∀ c ∈ digits, c.isDigit = true) (hne : digits ≠ []) (hs : s.mode = .text)
    (hc : c.isDigit = false) (hother : c ∉ ['$', 's', 'I', 'L']) :
    ('%' :: (digits ++ c :: rest)).foldlM (step quoting args) s = none := by
  have happend : '%' :: (digits ++ c :: rest) = ('%' :: digits) ++ c :: rest := rfl
  simp only [List.mem_cons, List.not_mem_nil, or_false, not_or] at hother
  rw [happend, List.foldlM_append, foldlM_percent hdigits hne hs]
  by_cases hlt : numberFrom 0 digits < 2 ^ 31
  · rw [if_pos hlt]
    simp only [Option.bind_eq_bind, Option.bind_some, List.foldlM_cons]
    have hstep : step quoting args { s with mode := .number (numberFrom 0 digits) } c = none := by
      show (if c.isDigit = true then _ else if c = '$' then _ else
        convert quoting args _ none false (.direct (numberFrom 0 digits)) c) = none
      rw [if_neg (by simp [hc]), if_neg hother.1]
      simp only [convert, widthOf, shown, Option.bind_eq_bind, Option.getD_none,
        if_neg hother.2.1, if_neg hother.2.2.1, if_neg hother.2.2.2, Option.bind_none,
        Option.bind_fun_none]
    rw [hstep, Option.bind_none]
  · rw [if_neg hlt]
    rfl

end Parts

/-! ## Literals one after another -/

lemma pad_eq_self {width : ℕ} {text : List Char} (h : width ≤ text.length) :
    pad false width text = text := by
  unfold pad
  rw [Int.natAbs_natCast, Nat.sub_eq_zero_of_le h, if_neg (by simp)]
  rfl

lemma length_pad (width : ℕ) (text : List Char) :
    (pad false width text).length = max width text.length := by
  unfold pad
  rw [Int.natAbs_natCast, if_neg (by simp), List.length_append, List.length_replicate]
  omega

section Literals

/-- The output of literals whose specifiers have a width only: for each its digits and the text
behind it, from an argument on. -/
def literals (args : List (Option (List Char))) : ℕ → List (List Char × List Char) →
    Option (List Char)
  | _, [] => some []
  | next, (digits, text) :: fields =>
    if numberFrom 0 digits < 2 ^ 31 then
      (argument args next).bind fun arg =>
        (literals args (next + 1) fields).map fun out =>
          pad false (numberFrom 0 digits : ℕ) (literal arg) ++ (text ++ out)
    else none

/-- The template of such literals. -/
def literalTemplate (fields : List (List Char × List Char)) : List Char :=
  fields.flatMap fun field => '%' :: (field.1 ++ ['L']) ++ field.2

variable {quoting : Quoting} {args : List (Option (List Char))} {s : State}
  {fields : List (List Char × List Char)}

lemma foldlM_literalTemplate
    (hdigits : ∀ field ∈ fields, field.1 ≠ [] ∧ ∀ c ∈ field.1, c.isDigit = true)
    (htext : ∀ field ∈ fields, '%' ∉ field.2) (hs : s.mode = .text) :
    (literalTemplate fields).foldlM (step quoting args) s
      = (literals args s.next fields).map fun out =>
          { out := s.out ++ out, next := s.next + fields.length, mode := .text } := by
  induction fields generalizing s with
  | nil =>
    show some s = some { s with out := s.out ++ [], next := s.next + 0, mode := .text }
    rw [List.append_nil, ← hs]
    rfl
  | cons field fields ih =>
    have hfield := hdigits field List.mem_cons_self
    have hafter := htext field List.mem_cons_self
    have htemplate : literalTemplate (field :: fields)
        = ('%' :: (field.1 ++ ['L'])) ++ (field.2 ++ literalTemplate fields) := by
      show ('%' :: (field.1 ++ ['L']) ++ field.2) ++ literalTemplate fields = _
      rw [List.append_assoc]
    rw [htemplate, List.foldlM_append, foldlM_literal hfield.2 hfield.1 hs]
    show _ = ((if numberFrom 0 field.1 < 2 ^ 31 then _ else none : Option (List Char))).map _
    by_cases hlt : numberFrom 0 field.1 < 2 ^ 31
    · rw [if_pos hlt, if_pos hlt]
      cases harg : argument args s.next with
      | none => rfl
      | some arg =>
        simp only [Option.map_some, Option.bind_eq_bind, Option.bind_some]
        have htail := fun s hs => @ih s (fun f hf => hdigits f (List.mem_cons_of_mem field hf))
          (fun f hf => htext f (List.mem_cons_of_mem field hf)) hs
        rw [List.foldlM_append, foldlM_text hafter rfl]
        simp only [Option.bind_eq_bind, Option.bind_some]
        rw [htail _ rfl, Option.map_map]
        congr 1
        funext out
        simp only [Function.comp_apply, List.append_assoc, List.length_cons, State.mk.injEq,
          true_and, and_true]
        omega
    · rw [if_neg hlt, if_neg hlt]
      rfl

/-- **Literals are written in turn.** The digits in front of the type are a width: they do not
choose the argument. -/
theorem format_literals {head : List Char} (hhead : '%' ∉ head)
    (hdigits : ∀ field ∈ fields, field.1 ≠ [] ∧ ∀ c ∈ field.1, c.isDigit = true)
    (htext : ∀ field ∈ fields, '%' ∉ field.2) :
    format quoting args (head ++ literalTemplate fields)
      = (literals args 1 fields).map (head ++ ·) := by
  unfold format
  rw [List.foldlM_append, foldlM_text hhead rfl]
  simp only [Option.bind_eq_bind, Option.bind_some]
  rw [foldlM_literalTemplate hdigits htext rfl]
  cases hout : literals args 1 fields with
  | none =>
    rw [show init.next = 1 from rfl, hout]
    rfl
  | some out =>
    rw [show init.next = 1 from rfl, hout]
    rfl

end Literals

/-! ## Plain texts -/

/-- A text without the marks of templates and of literals. -/
def Plain (text : List Char) : Prop := ∀ c ∈ ['%', '$', '\'', '\\'], c ∉ text

lemma flatMap_doubled {special text : List Char} (h : ∀ c ∈ special, c ∉ text) :
    text.flatMap (doubled special) = text := by
  induction text with
  | nil => rfl
  | cons c text ih =>
    have hc : c ∉ special := fun hc => h c hc List.mem_cons_self
    have htail := ih fun d hd hmem => h d hd (List.mem_cons_of_mem c hmem)
    rw [List.flatMap_cons, htail, doubled, if_neg hc]
    rfl

lemma quoteLiteral_of_plain {text : List Char} (h : Plain text) :
    quoteLiteral text = '\'' :: (text ++ ['\'']) := by
  have hsame : text.flatMap (doubled ['\'', '\\']) = text := by
    apply flatMap_doubled
    intro c hc
    exact h c (List.mem_cons_of_mem '%' (List.mem_cons_of_mem '$' hc))
  rw [quoteLiteral, if_neg (h '\\' (by decide)), hsame]
  rfl

/-- Texts that end at their first mark. -/
lemma append_mark_inj {mark : Char} {text text' xs ys : List Char} (h : mark ∉ text)
    (h' : mark ∉ text') (heq : text ++ mark :: xs = text' ++ mark :: ys) :
    text = text' ∧ xs = ys := by
  induction text generalizing text' with
  | nil =>
    cases text' with
    | nil => simpa using heq
    | cons c text' =>
      have hc : mark = c := (List.cons.inj heq).1
      exact absurd List.mem_cons_self (hc ▸ h')
  | cons c text ih =>
    rw [List.mem_cons, not_or] at h
    cases text' with
    | nil => exact absurd (List.cons.inj heq).1.symm h.1
    | cons c' text' =>
      rw [List.mem_cons, not_or] at h'
      obtain ⟨hc, htail⟩ := List.cons.inj heq
      obtain ⟨htext, hrest⟩ := ih h.2 h'.2 htail
      exact ⟨by rw [hc, htext], hrest⟩

/-- Where the literal of a plain text ends is seen from its beginning. -/
lemma quoteLiteral_append_inj {text text' xs ys : List Char} (h : Plain text) (h' : Plain text')
    (heq : quoteLiteral text ++ xs = quoteLiteral text' ++ ys) : text = text' ∧ xs = ys := by
  rw [quoteLiteral_of_plain h, quoteLiteral_of_plain h'] at heq
  simp only [List.cons_append, List.append_assoc, List.cons.injEq, true_and,
    List.nil_append] at heq
  have hquote : '\'' ∉ text := h '\'' (by decide)
  have hquote' : '\'' ∉ text' := h' '\'' (by decide)
  exact append_mark_inj hquote hquote' heq

/-- The field of a literal that begins with a literal has no blanks. -/
lemma width_le_of_pad {width : ℕ} {text text' xs ys : List Char} (h : Plain text')
    (heq : pad false width text ++ xs = quoteLiteral text' ++ ys) : width ≤ text.length := by
  by_contra hlt
  have hblanks : width - text.length = (width - text.length - 1) + 1 := by omega
  rw [quoteLiteral_of_plain h, pad, Int.natAbs_natCast, if_neg (by simp), hblanks,
    List.replicate_succ] at heq
  simp at heq

lemma count_quoteLiteral_of_plain {text : List Char} (h : Plain text) :
    (quoteLiteral text).count '%' = 0 ∧ (quoteLiteral text).count '$' = 0 ∧
      (quoteLiteral text).count '\'' = 2 := by
  have hpercent := List.count_eq_zero.mpr (h '%' (by decide))
  have hdollar := List.count_eq_zero.mpr (h '$' (by decide))
  have hquote := List.count_eq_zero.mpr (h '\'' (by decide))
  rw [quoteLiteral_of_plain h]
  simp [List.count_append, hpercent, hdollar, hquote]

/-! ## What the output has of the template -/

section Counts

variable {quoting : Quoting} {args : List (Option (List Char))} {s s' : State}

/-- Arguments that bring no percent sign and no dollar sign, and at most two quotes each. -/
def Unmarked (quoting : Quoting) (args : List (Option (List Char))) : Prop :=
  ∀ arg ∈ args, ∀ c text, shown quoting c arg = some text →
    text.count '%' = 0 ∧ text.count '$' = 0 ∧ text.count '\'' ≤ 2

/-- Plain texts are such arguments: identifiers are quoted by doubling double quotes, or left as they
are. -/
lemma unmarked_of_plain
    (hident : ∀ text, quoting.quoteIdent text = text ∨
      quoting.quoteIdent text = '"' :: (text.flatMap (doubled ['"']) ++ ['"']))
    (hargs : ∀ arg ∈ args, ∃ text, arg = some text ∧ Plain text) : Unmarked quoting args := by
  intro arg harg c out hout
  obtain ⟨text, rfl, hplain⟩ := hargs arg harg
  have hbare : text.count '%' = 0 ∧ text.count '$' = 0 ∧ text.count '\'' ≤ 2 := by
    rw [List.count_eq_zero.mpr (hplain '%' (by decide)),
      List.count_eq_zero.mpr (hplain '$' (by decide)),
      List.count_eq_zero.mpr (hplain '\'' (by decide))]
    exact ⟨rfl, rfl, by omega⟩
  unfold shown at hout
  split_ifs at hout
  · rw [← Option.some.inj hout]
    exact hbare
  · rw [← Option.some.inj hout]
    rcases hident text with hsame | hquoted
    · rw [hsame]
      exact hbare
    · have hnone : ∀ c ∈ ['%', '$', '\''], c ∉ text.flatMap (doubled ['"']) := by
        intro c hc hmem
        obtain ⟨d, hd, hcd⟩ := List.mem_flatMap.mp hmem
        have hsame : c = d := by
          unfold doubled at hcd
          split_ifs at hcd <;> simpa using hcd
        rw [← hsame] at hd
        refine hplain c ?_ hd
        exact List.mem_append_left ['\\'] hc
      rw [hquoted]
      simp only [List.count_cons, List.count_append, List.count_nil]
      rw [List.count_eq_zero.mpr (hnone '%' (by decide)),
        List.count_eq_zero.mpr (hnone '$' (by decide)),
        List.count_eq_zero.mpr (hnone '\'' (by decide))]
      decide
  · rw [← Option.some.inj hout]
    show (quoteLiteral text).count '%' = 0 ∧ (quoteLiteral text).count '$' = 0 ∧
      (quoteLiteral text).count '\'' ≤ 2
    obtain ⟨hpercent, hdollar, hquote⟩ := count_quoteLiteral_of_plain hplain
    exact ⟨hpercent, hdollar, hquote.le⟩

/-- The marks of the output, against those of the template that has been read: each specifier took
a percent sign and brought at most two quotes. -/
def Counted (read : List Char) (s : State) : Prop :=
  ∃ specifiers, read.count '%' = 2 * s.out.count '%' + specifiers
      + (if s.mode = .text then 0 else 1) ∧
    s.out.count '$' ≤ read.count '$' ∧
    s.out.count '\'' ≤ read.count '\'' + 2 * specifiers

lemma count_pad {c : Char} (hc : c ≠ ' ') (minus : Bool) (width : ℤ) (text : List Char) :
    (pad minus width text).count c = text.count c := by
  have hblanks : ∀ n, (List.replicate n ' ').count c = 0 := by
    intro n
    exact List.count_eq_zero.mpr fun h => hc (List.eq_of_mem_replicate h)
  unfold pad
  split_ifs <;> simp [List.count_append, hblanks]

lemma argument_mem {n : ℕ} {arg : Option (List Char)} (h : argument args n = some arg) :
    arg ∈ args := by
  unfold argument at h
  split_ifs at h
  exact List.mem_of_getElem? h

/-- A character inside a specifier changes no count. -/
lemma Counted.inside {read : List Char} {c : Char} {mode : Mode} (h : Counted read s)
    (hc : c ≠ '%') (hs : s.mode ≠ .text) (hmode : mode ≠ .text) :
    Counted (read ++ [c]) { s with mode } := by
  obtain ⟨specifiers, hpercent, hdollar, hquote⟩ := h
  rw [if_neg hs] at hpercent
  refine ⟨specifiers, ?_, ?_, ?_⟩
  · rw [List.count_append, List.count_singleton, if_neg hmode, hpercent]
    simp [hc]
  · show s.out.count '$' ≤ _
    rw [List.count_append]
    omega
  · show s.out.count '\'' ≤ _
    rw [List.count_append]
    omega

/-- A specifier that ends. -/
lemma Counted.converted {read : List Char} {c : Char} {position : Option ℕ} {minus : Bool}
    {w : Width} (hargs : Unmarked quoting args) (h : Counted read s) (hs : s.mode ≠ .text)
    (hstep : convert quoting args s position minus w c = some s') :
    Counted (read ++ [c]) s' := by
  obtain ⟨specifiers, hpercent, hdollar, hquote⟩ := h
  rw [if_neg hs] at hpercent
  unfold convert at hstep
  simp only [Option.bind_eq_bind, Option.bind_eq_some_iff, Option.pure_def, Option.some.injEq,
    Prod.exists] at hstep
  obtain ⟨width, next, -, arg, harg, text, htext, rfl⟩ := hstep
  obtain ⟨hzero, hzero', htwo⟩ := hargs arg (argument_mem harg) c text htext
  have hc : c ≠ '%' := by
    intro hc
    rw [hc] at htext
    exact absurd htext (by simp [shown])
  refine ⟨specifiers + 1, ?_, ?_, ?_⟩
  · rw [List.count_append, List.count_append, count_pad (by decide), hzero, hpercent, if_pos rfl,
      List.count_singleton]
    simp [hc]
    omega
  · rw [List.count_append, List.count_append, count_pad (by decide), hzero']
    omega
  · rw [List.count_append, List.count_append, count_pad (by decide)]
    omega

/-- A digit inside a specifier. -/
lemma Counted.digit {read : List Char} {c : Char} {n : ℕ} {mode : ℕ → Mode} (h : Counted read s)
    (hc : c.isDigit = true) (hs : s.mode ≠ .text) (hmode : ∀ n, mode n ≠ .text)
    (hstep : (pushDigit n c).map (fun n => { s with mode := mode n }) = some s') :
    Counted (read ++ [c]) s' := by
  obtain ⟨m, -, rfl⟩ := Option.map_eq_some_iff.mp hstep
  refine h.inside ?_ hs (hmode m)
  intro hpercent
  rw [hpercent] at hc
  exact absurd hc (by decide)

lemma Counted.flagStep {read : List Char} {c : Char} {position : Option ℕ} {minus : Bool}
    (hargs : Unmarked quoting args) (h : Counted read s) (hs : s.mode ≠ .text)
    (hstep : flagStep quoting args s position minus c = some s') : Counted (read ++ [c]) s' := by
  unfold SqlFormat.flagStep at hstep
  by_cases hminus : c = '-'
  · rw [if_pos hminus] at hstep
    rw [← Option.some.inj hstep, hminus]
    exact h.inside (by decide) hs (by simp)
  rw [if_neg hminus] at hstep
  by_cases hstar : c = '*'
  · rw [if_pos hstar] at hstep
    rw [← Option.some.inj hstep, hstar]
    exact h.inside (by decide) hs (by simp)
  rw [if_neg hstar] at hstep
  by_cases hdigit : c.isDigit = true
  · rw [if_pos hdigit] at hstep
    exact h.digit hdigit hs (by simp) hstep
  · rw [if_neg hdigit] at hstep
    exact h.converted hargs hs hstep

/-- A position or a width argument ends with a dollar sign. -/
lemma Counted.dollar {read : List Char} {n : ℕ} {mode : Mode} (h : Counted read s)
    (hs : s.mode ≠ .text) (hmode : mode ≠ .text)
    (hstep : (if n = 0 then none else some { s with mode }) = some s') :
    Counted (read ++ ['$']) s' := by
  split_ifs at hstep
  rw [← Option.some.inj hstep]
  exact h.inside (by decide) hs hmode

/-- **What a step does to the counts.** -/
lemma Counted.step {read : List Char} {c : Char} (hargs : Unmarked quoting args)
    (h : Counted read s) (hstep : step quoting args s c = some s') : Counted (read ++ [c]) s' := by
  unfold SqlFormat.step at hstep
  cases hmode : s.mode with
  | text =>
    obtain ⟨specifiers, hpercent, hdollar, hquote⟩ := h
    rw [hmode, if_pos rfl] at hpercent
    rw [hmode] at hstep
    by_cases hc : c = '%'
    · simp only [if_pos hc] at hstep
      rw [← Option.some.inj hstep, hc]
      refine ⟨specifiers, ?_, ?_, ?_⟩
      · rw [List.count_append, hpercent]
        simp
      · show s.out.count '$' ≤ _
        rw [List.count_append]
        omega
      · show s.out.count '\'' ≤ _
        rw [List.count_append]
        omega
    · simp only [if_neg hc] at hstep
      rw [← Option.some.inj hstep]
      refine ⟨specifiers, ?_, ?_, ?_⟩
      · rw [List.count_append, List.count_append, List.count_singleton]
        simp [hc, hpercent]
      · rw [List.count_append, List.count_append]
        omega
      · rw [List.count_append, List.count_append]
        omega
  | start =>
    have hs : s.mode ≠ .text := by simp [hmode]
    rw [hmode] at hstep
    by_cases hc : c = '%'
    · simp only [if_pos hc] at hstep
      obtain ⟨specifiers, hpercent, hdollar, hquote⟩ := h
      rw [if_neg hs] at hpercent
      rw [← Option.some.inj hstep, hc]
      refine ⟨specifiers, ?_, ?_, ?_⟩
      · rw [List.count_append, List.count_append, hpercent]
        simp
        omega
      · rw [List.count_append, List.count_append]
        omega
      · rw [List.count_append, List.count_append]
        omega
    · simp only [if_neg hc] at hstep
      by_cases hdigit : c.isDigit = true
      · rw [if_pos hdigit] at hstep
        exact h.digit hdigit hs (by simp) hstep
      · rw [if_neg hdigit] at hstep
        exact h.flagStep hargs hs hstep
  | number n =>
    have hs : s.mode ≠ .text := by simp [hmode]
    rw [hmode] at hstep
    by_cases hdigit : c.isDigit = true
    · simp only [if_pos hdigit] at hstep
      exact h.digit hdigit hs (by simp) hstep
    · simp only [if_neg hdigit] at hstep
      by_cases hc : c = '$'
      · rw [if_pos hc] at hstep
        rw [hc]
        exact h.dollar hs (by simp) hstep
      · rw [if_neg hc] at hstep
        exact h.converted hargs hs hstep
  | flags position minus =>
    have hs : s.mode ≠ .text := by simp [hmode]
    rw [hmode] at hstep
    exact h.flagStep hargs hs hstep
  | width position minus n =>
    have hs : s.mode ≠ .text := by simp [hmode]
    rw [hmode] at hstep
    by_cases hdigit : c.isDigit = true
    · simp only [if_pos hdigit] at hstep
      exact h.digit hdigit hs (by simp) hstep
    · simp only [if_neg hdigit] at hstep
      exact h.converted hargs hs hstep
  | star position minus =>
    have hs : s.mode ≠ .text := by simp [hmode]
    rw [hmode] at hstep
    by_cases hdigit : c.isDigit = true
    · simp only [if_pos hdigit] at hstep
      exact h.digit hdigit hs (by simp) hstep
    · simp only [if_neg hdigit] at hstep
      exact h.converted hargs hs hstep
  | starNumber position minus n =>
    have hs : s.mode ≠ .text := by simp [hmode]
    rw [hmode] at hstep
    by_cases hdigit : c.isDigit = true
    · simp only [if_pos hdigit] at hstep
      exact h.digit hdigit hs (by simp) hstep
    · simp only [if_neg hdigit] at hstep
      by_cases hc : c = '$'
      · rw [if_pos hc] at hstep
        rw [hc]
        exact h.dollar hs (by simp) hstep
      · rw [if_neg hc] at hstep
        cases hstep
  | full position minus w =>
    have hs : s.mode ≠ .text := by simp [hmode]
    rw [hmode] at hstep
    exact h.converted hargs hs hstep

lemma Counted.foldlM {read template : List Char} (hargs : Unmarked quoting args)
    (h : Counted read s) (hfold : template.foldlM (SqlFormat.step quoting args) s = some s') :
    Counted (read ++ template) s' := by
  induction template generalizing read s with
  | nil =>
    rw [List.foldlM_nil] at hfold
    rw [List.append_nil, ← Option.some.inj hfold]
    exact h
  | cons c template ih =>
    rw [List.foldlM_cons] at hfold
    obtain ⟨t, ht, hfold⟩ := Option.bind_eq_some_iff.mp hfold
    have htail := ih (h.step hargs ht) hfold
    rwa [List.append_assoc, List.singleton_append] at htail

/-- **Counting marks.** With arguments that bring none, each percent sign of the output took two of
the template and each specifier one; dollar signs do not become more, and there are at most two
more quotes for each specifier. -/
theorem format_counts {template out : List Char} (hargs : Unmarked quoting args)
    (h : format quoting args template = some out) :
    ∃ specifiers, template.count '%' = 2 * out.count '%' + specifiers ∧
      out.count '$' ≤ template.count '$' ∧
      out.count '\'' ≤ template.count '\'' + 2 * specifiers := by
  unfold format at h
  obtain ⟨s, hfold, hout⟩ := Option.bind_eq_some_iff.mp h
  have hinit : Counted [] init := ⟨0, rfl, le_rfl, le_rfl⟩
  obtain ⟨specifiers, hpercent, hdollar, hquote⟩ := hinit.foldlM hargs hfold
  split_ifs at hout with hmode
  rw [← Option.some.inj hout]
  rw [List.nil_append, if_pos hmode] at hpercent
  rw [List.nil_append] at hdollar hquote
  exact ⟨specifiers, hpercent, hdollar, hquote⟩

end Counts

end SqlFormat

end Lib
