import PgliteOxide.Pglite.ArrayText

/-!
# Reading an array text ends

On any text, with any delimiter, `parse_array_text` returns unless a parser of elements panics
(`parseArrayText_terminates`). A routine called on a character boundary ends on one, further on in
the text; of the text in front of it, it may leave everything (`Ends`). A round of `parse_array`
never does: either the element consumes something, or it is an empty bare text in front of the
delimiter, which is skipped (`parseRound_ends`).
-/

namespace PgliteOxide.Pglite

open Lib

namespace ArrayTextParser

variable {p : ArrayTextParser} {index : ℕ} {rest : List Char} {α β : Type}

/-! ## Boundaries -/

/-- An index counts the bytes in front of what is left. -/
lemma charsFrom_sum {cs : List Char} (h : charsFrom cs index = .ok rest) :
    index + utf8Length rest = utf8Length cs := by
  induction cs generalizing index with
  | nil =>
    cases index with
    | zero =>
      cases h
      rfl
    | succ n => cases h
  | cons c cs ih =>
    cases index with
    | zero =>
      cases h
      omega
    | succ n =>
      have hcons : utf8Length (c :: cs) = c.utf8Size + utf8Length cs := rfl
      unfold charsFrom at h
      by_cases hsize : c.utf8Size ≤ n + 1
      · rw [if_pos hsize] at h
        have hrest : n + 1 - c.utf8Size + utf8Length rest = utf8Length cs := ih h
        omega
      · rw [if_neg hsize] at h
        cases h

lemma At.sum (h : p.At index rest) : index + utf8Length rest = utf8Length p.text.toList :=
  charsFrom_sum h

lemma utf8Length_append (cs ds : List Char) :
    utf8Length (cs ++ ds) = utf8Length cs + utf8Length ds := by
  induction cs with
  | nil =>
    show utf8Length ds = 0 + utf8Length ds
    omega
  | cons c cs ih =>
    have h₁ : utf8Length (c :: cs ++ ds) = c.utf8Size + utf8Length (cs ++ ds) := rfl
    have h₂ : utf8Length (c :: cs) = c.utf8Size + utf8Length cs := rfl
    omega

/-- A text that is not empty has bytes. -/
lemma utf8Length_pos {cs : List Char} (h : cs ≠ []) : 0 < utf8Length cs := by
  cases cs with
  | nil => exact absurd rfl h
  | cons c cs =>
    have hcons : utf8Length (c :: cs) = c.utf8Size + utf8Length cs := rfl
    have hpos := c.utf8Size_pos
    omega

/-- Where less of the text is left, the index is greater. -/
lemma At.lt_of_suffix {index' : ℕ} {rest' : List Char} (h : p.At index rest)
    (h' : p.At index' rest') (hsuffix : rest' <:+ rest) (hlt : rest'.length < rest.length) :
    index < index' := by
  obtain ⟨consumed, rfl⟩ := hsuffix
  have hne : consumed ≠ [] := by
    intro hnil
    rw [hnil] at hlt
    exact absurd hlt (lt_irrefl _)
  have hpos := utf8Length_pos hne
  have hlen := utf8Length_append consumed rest'
  have hsum := h.sum
  have hsum' := h'.sum
  omega

/-! ## Ends -/

/-- The parser of elements panics on some text. -/
def ElementPanics (p : ArrayTextParser) : Prop :=
  ∃ parser slice, p.elementParser = some parser ∧ parser slice p.elementTypeId = .panic

/-- A routine started with `rest` before it returns on a boundary further on, unless the parser of
elements panics. -/
def Ends (p : ArrayTextParser) (rest : List Char) (r : Outcome Empty (α × ℕ)) : Prop :=
  (∃ a index' rest', r = .ok (a, index') ∧ p.At index' rest' ∧ rest' <:+ rest) ∨
    (r = .panic ∧ p.ElementPanics)

/-- The same, with at least one character consumed. -/
def EndsBehind (p : ArrayTextParser) (rest : List Char) (r : Outcome Empty (α × ℕ)) : Prop :=
  (∃ a index' rest', r = .ok (a, index') ∧ p.At index' rest' ∧ rest' <:+ rest ∧
    rest'.length < rest.length) ∨ (r = .panic ∧ p.ElementPanics)

lemma EndsBehind.ends {r : Outcome Empty (α × ℕ)} (h : p.EndsBehind rest r) : p.Ends rest r := by
  rcases h with ⟨a, index', rest', hr, hat, hsuffix, -⟩ | h
  · exact .inl ⟨a, index', rest', hr, hat, hsuffix⟩
  · exact .inr h

lemma At.ends (h : p.At index rest) (a : α) : p.Ends rest (.ok (a, index)) :=
  .inl ⟨a, index, rest, rfl, h, List.suffix_refl rest⟩

/-- What starts behind a character ends behind it. -/
lemma Ends.behind {c : Char} {r : Outcome Empty (α × ℕ)} (h : p.Ends rest r) :
    p.EndsBehind (c :: rest) r := by
  rcases h with ⟨a, index', rest', hr, hat, hsuffix⟩ | h
  · have hlen := hsuffix.length_le
    refine .inl ⟨a, index', rest', hr, hat, hsuffix.trans (List.suffix_cons c rest), ?_⟩
    rw [List.length_cons]
    omega
  · exact .inr h

/-- One routine after another. -/
lemma Ends.bind {r : Outcome Empty (α × ℕ)} {f : α × ℕ → Outcome Empty (β × ℕ)}
    (h : p.Ends rest r)
    (hf : ∀ a index' rest', p.At index' rest' → rest' <:+ rest → p.Ends rest' (f (a, index'))) :
    p.Ends rest (r >>= f) := by
  rcases h with ⟨a, index', rest', rfl, hat, hsuffix⟩ | ⟨rfl, hpanics⟩
  · rcases hf a index' rest' hat hsuffix with ⟨b, index'', rest'', hb, hat', hsuffix'⟩ | hpanics
    · exact .inl ⟨b, index'', rest'', hb, hat', hsuffix'.trans hsuffix⟩
    · exact .inr hpanics
  · exact .inr ⟨rfl, hpanics⟩

/-- The same where the first routine consumes something. -/
lemma EndsBehind.bind {r : Outcome Empty (α × ℕ)} {f : α × ℕ → Outcome Empty (β × ℕ)}
    (h : p.EndsBehind rest r)
    (hf : ∀ a index' rest', p.At index' rest' → rest'.length < rest.length →
      p.Ends rest' (f (a, index'))) : p.EndsBehind rest (r >>= f) := by
  rcases h with ⟨a, index', rest', rfl, hat, hsuffix, hlt⟩ | ⟨rfl, hpanics⟩
  · rcases hf a index' rest' hat hlt with ⟨b, index'', rest'', hb, hat', hsuffix'⟩ | hpanics
    · have hlen := hsuffix'.length_le
      exact .inl ⟨b, index'', rest'', hb, hat', hsuffix'.trans hsuffix, by omega⟩
    · exact .inr hpanics
  · exact .inr ⟨rfl, hpanics⟩

/-- The parser of elements is the only thing that can panic in `apply_element_parser`. -/
lemma applyElementParser_cases (slice : String) (quoted : Bool) :
    (∃ value, p.applyElementParser slice quoted = .ok value) ∨
      (p.applyElementParser slice quoted = .panic ∧ p.ElementPanics) := by
  unfold applyElementParser
  cases hparser : p.elementParser with
  | some parser =>
    cases hvalue : parser slice p.elementTypeId with
    | ok value => exact .inl ⟨value, hvalue⟩
    | err e => exact e.elim
    | panic => exact .inr ⟨hvalue, parser, slice, hparser, hvalue⟩
  | none =>
    by_cases hnull : (!quoted && eqIgnoreAsciiCase slice "NULL") = true
    · exact .inl ⟨.null, if_pos hnull⟩
    · exact .inl ⟨.string slice, if_neg hnull⟩

/-- An element is parsed where the index stands. -/
lemma At.applied (h : p.At index rest) (slice : String) (quoted : Bool) :
    p.Ends rest (do
      let parsed ← p.applyElementParser slice quoted
      return (parsed, index)) := by
  rcases p.applyElementParser_cases slice quoted with ⟨value, hvalue⟩ | ⟨hvalue, hpanics⟩
  · rw [hvalue]
    exact h.ends value
  · rw [hvalue]
    exact .inr ⟨rfl, hpanics⟩

/-! ## Elements -/

/-- The loop of `parse_quoted`. -/
lemma parseQuotedFrom_ends {rounds : ℕ} {value : List Char} (h : p.At index rest)
    (hrounds : rest.length < rounds) : p.Ends rest (p.parseQuotedFrom rounds index value) := by
  induction rounds generalizing index rest value with
  | zero => omega
  | succ rounds ih =>
    unfold parseQuotedFrom
    rw [h.peek]
    cases rest with
    | nil => exact h.applied _ _
    | cons ch rest =>
      rw [List.length_cons] at hrounds
      have hnext := h.next
      simp only [List.head?_cons, Outcome.ok_bind, h.advance]
      apply EndsBehind.ends
      apply Ends.behind
      by_cases hbackslash : ch = '\\'
      · rw [if_pos hbackslash, hnext.peek]
        cases rest with
        | nil => exact ih hnext (by rw [List.length_nil]; omega)
        | cons escaped rest =>
          rw [List.length_cons] at hrounds
          simp only [List.head?_cons, Outcome.ok_bind, hnext.advance]
          exact (Ends.behind (ih hnext.next (by omega))).ends
      · rw [if_neg hbackslash]
        by_cases hquote : ch = '"'
        · rw [if_pos hquote]
          exact hnext.applied _ _
        · rw [if_neg hquote]
          exact ih hnext (by omega)

/-- `parse_quoted` at a quote consumes it. -/
lemma parseQuoted_ends {ch : Char} (h : p.At index (ch :: rest)) :
    p.EndsBehind (ch :: rest) (p.parseQuoted index) := by
  have hlen := h.length_le
  rw [List.length_cons] at hlen
  unfold parseQuoted
  rw [h.advance]
  exact Ends.behind (parseQuotedFrom_ends h.next (by omega))

/-- The text between two indices: a slice that is not in range is a panic. -/
def slice (p : ArrayTextParser) (start stop : ℕ) : Outcome Empty (List Char) := do
  let front ← charsFrom p.text.toList start
  let rest ← charsFrom p.text.toList stop
  if start ≤ stop then return front.take (front.length - rest.length) else .panic

/-- The loop of `parse_unquoted` passes over the characters up to the delimiter or a brace. -/
lemma parseUnquotedFrom_ends {rounds : ℕ} {passed : List Char} (h : p.At index rest)
    (hrounds : rest.length < rounds) :
    ∃ text index' rest', p.parseUnquotedFrom rounds index passed = .ok (passed ++ text, index') ∧
      p.At index' rest' ∧ rest = text ++ rest' ∧
      ∀ ch ∈ rest'.head?, ch = p.delimiter ∨ ch = '}' := by
  induction rounds generalizing index rest passed with
  | zero => omega
  | succ rounds ih =>
    unfold parseUnquotedFrom
    rw [h.peek]
    cases rest with
    | nil => exact ⟨[], index, [], by rw [List.append_nil]; rfl, h, rfl, fun ch hch => by cases hch⟩
    | cons ch rest =>
      rw [List.length_cons] at hrounds
      simp only [List.head?_cons, Outcome.ok_bind]
      by_cases hstop : ch = p.delimiter ∨ ch = '}'
      · rw [if_pos hstop]
        refine ⟨[], index, ch :: rest, by rw [List.append_nil]; rfl, h, rfl, ?_⟩
        intro c hc
        cases hc
        exact hstop
      · rw [if_neg hstop, h.advance]
        obtain ⟨text, index', rest', hread, hat, hrest, hend⟩ :=
          @ih _ _ (passed ++ [ch]) h.next (by omega)
        refine ⟨ch :: text, index', rest', ?_, hat, by rw [hrest]; rfl, hend⟩
        rw [Outcome.ok_bind, hread, List.append_assoc]
        rfl

/-- `parse_unquoted` takes the slice it passed over. -/
lemma parseUnquoted_slice (h : p.At index rest) :
    ∃ text index', p.parseUnquotedFrom (p.text.toList.length + 1) index [] = .ok (text, index') ∧
      p.slice index index' = .ok text := by
  have hlen := h.length_le
  obtain ⟨text, index', rest', hread, hat, hrest, -⟩ :=
    @parseUnquotedFrom_ends p _ _ _ [] h (show rest.length < p.text.toList.length + 1 by omega)
  refine ⟨text, index', hread, ?_⟩
  have hle : index ≤ index' := by
    have hsum := h.sum
    have hsum' := hat.sum
    have happend := utf8Length_append text rest'
    rw [← hrest] at happend
    omega
  have hfront : charsFrom p.text.toList index = .ok rest := h
  have hback : charsFrom p.text.toList index' = .ok rest' := hat
  unfold slice
  rw [hfront, hback, Outcome.ok_bind, Outcome.ok_bind, if_pos hle, hrest, List.length_append,
    Nat.add_sub_cancel_right, List.take_left]
  rfl

/-- `parse_unquoted` consumes something, or stops where it starts. -/
lemma parseUnquoted_ends {ch : Char} (h : p.At index (ch :: rest)) :
    p.EndsBehind (ch :: rest) (p.parseUnquoted index) ∨
      ((ch = p.delimiter ∨ ch = '}') ∧ ∃ slice, p.parseUnquoted index = (do
        let parsed ← p.applyElementParser slice false
        return (parsed, index))) := by
  have hlen := h.length_le
  obtain ⟨text, index', rest', hread, hat, hrest, hend⟩ :=
    @parseUnquotedFrom_ends p _ _ _ [] h
      (show (ch :: rest).length < p.text.toList.length + 1 by omega)
  have hparse : p.parseUnquoted index = (do
      let parsed ← p.applyElementParser (String.ofList (trim text)) false
      return (parsed, index')) := by
    unfold parseUnquoted
    rw [hread]
    rfl
  rw [hparse]
  cases text with
  | nil =>
    have heq : ch :: rest = rest' := hrest
    have hsame : index' = index := by
      have hsum := h.sum
      have hsum' := hat.sum
      rw [← heq] at hsum'
      omega
    exact .inr ⟨hend ch (by rw [← heq]; rfl), _, by rw [hsame]⟩
  | cons c text =>
    have hcons : ch :: rest = c :: (text ++ rest') := hrest
    have hback : p.Ends (text ++ rest') (do
        let parsed ← p.applyElementParser (String.ofList (trim (c :: text))) false
        return (parsed, index')) := by
      rcases hat.applied (String.ofList (trim (c :: text))) false with
        ⟨a, index'', rest'', hr, hat', hsuffix⟩ | hpanics
      · exact .inl ⟨a, index'', rest'', hr, hat', hsuffix.trans (List.suffix_append text rest')⟩
      · exact .inr hpanics
    rw [(List.cons.inj hcons).2]
    exact .inl hback.behind

/-! ## Rounds -/

/-- The delimiter behind an element is skipped. -/
def skipDelimiter (p : ArrayTextParser) (index : ℕ) : Outcome Empty ℕ := do
  if (← p.peek index) = some p.delimiter then p.advance index else pure index

/-- A round of the loop of `parse_array` at a character that does not end it. -/
def parseRound (p : ArrayTextParser) (depth : ℕ) (ch : Char) (index : ℕ) :
    Outcome Empty (Value × ℕ) := do
  let (value, index) ← p.parseItem depth ch index
  let index ← p.skipDelimiter index
  return (value, index)

/-- The loop of `parse_array` goes round by round. -/
lemma parseArrayFrom_round {depth : ℕ} {ch : Char} {values : List Value}
    (h : p.At index (ch :: rest)) (hch : ch ≠ '}') :
    p.parseArrayFrom (depth + 1) index values = (do
      let (value, index) ← p.parseRound depth ch index
      p.parseArrayFrom depth index (values ++ [value])) := by
  have hskip : ∀ index' (f : ℕ → Outcome Empty (Value × ℕ)), (p.skipDelimiter index' >>= f) = (do
      if (← p.peek index') = some p.delimiter then p.advance index' >>= f else f index') := by
    intro index' f
    unfold skipDelimiter
    rw [bind_assoc]
    congr 1
    funext next
    by_cases hnext : next = some p.delimiter
    · rw [if_pos hnext, if_pos hnext]
    · rw [if_neg hnext, if_neg hnext, pure_bind]
  rw [parseArrayFrom, h.peek]
  simp only [List.head?_cons, Outcome.ok_bind, if_neg hch, parseRound, parseItem, bind_assoc,
    pure_bind]
  simp only [hskip]
  by_cases hbrace : ch = '\x7b'
  · simp only [if_pos hbrace]
  · simp only [if_neg hbrace]
    by_cases hquote : ch = '"'
    · simp only [if_pos hquote]
    · simp only [if_neg hquote]

/-- Skipping ends, and behind the delimiter where it is in front. -/
lemma skipDelimiter_ends (h : p.At index rest) (value : Value) :
    p.Ends rest (do
      let index ← p.skipDelimiter index
      return (value, index)) := by
  unfold skipDelimiter
  rw [h.peek]
  cases rest with
  | nil =>
    simp only [List.head?_nil, Outcome.ok_bind, reduceCtorEq, if_false]
    exact h.ends value
  | cons c rest =>
    by_cases hc : some c = some p.delimiter
    · simp only [List.head?_cons, Outcome.ok_bind, if_pos hc, h.advance]
      exact (Ends.behind (h.next.ends value)).ends
    · simp only [List.head?_cons, Outcome.ok_bind, if_neg hc]
      exact h.ends value

/-- **A round makes progress**, if a nested array does. -/
lemma parseRound_ends {depth : ℕ} {ch : Char} (h : p.At index (ch :: rest)) (hch : ch ≠ '}')
    (hnested : ch = '{' → p.EndsBehind (ch :: rest) (p.parseArray depth index)) :
    p.EndsBehind (ch :: rest) (p.parseRound depth ch index) := by
  have hskip : ∀ {r : Outcome Empty (Value × ℕ)}, p.EndsBehind (ch :: rest) r →
      p.EndsBehind (ch :: rest) (do
        let (value, index) ← r
        let index ← p.skipDelimiter index
        return (value, index)) := fun hr =>
    hr.bind fun value _ _ hat _ => skipDelimiter_ends hat value
  unfold parseRound parseItem
  by_cases hbrace : ch = '\x7b'
  · rw [if_pos hbrace]
    exact hskip (hnested hbrace)
  · rw [if_neg hbrace]
    by_cases hquote : ch = '"'
    · rw [if_pos hquote]
      exact hskip (parseQuoted_ends h)
    · rw [if_neg hquote]
      rcases parseUnquoted_ends h with hread | ⟨hstop, slice, hread⟩
      · exact hskip hread
      · -- an empty bare text: the delimiter is in front, and it is skipped
        have hdelimiter : ch = p.delimiter := hstop.resolve_right hch
        rw [hread]
        simp only [bind_assoc, pure_bind]
        rcases p.applyElementParser_cases slice false with ⟨value, hvalue⟩ | ⟨hvalue, hpanics⟩
        · have hhead : some ch = some p.delimiter := congrArg some hdelimiter
          rw [hvalue, Outcome.ok_bind]
          unfold skipDelimiter
          rw [h.peek]
          simp only [List.head?_cons, Outcome.ok_bind, if_pos hhead, h.advance]
          exact Ends.behind (h.next.ends value)
        · rw [hvalue]
          exact .inr ⟨rfl, hpanics⟩

/-- **The loop of `parse_array` ends.** -/
lemma parseArray_parseArrayFrom_ends (p : ArrayTextParser) (depth : ℕ) :
    (∀ index rest, p.At index ('{' :: rest) → 2 * ('{' :: rest).length ≤ depth →
      p.EndsBehind ('{' :: rest) (p.parseArray depth index)) ∧
    ∀ index rest values, p.At index rest → 2 * rest.length + 1 ≤ depth →
      p.Ends rest (p.parseArrayFrom depth index values) := by
  -- the length of what is left bounds the depth of calls and rounds together
  induction depth with
  | zero =>
    refine ⟨fun index rest _ hdepth => ?_, fun index rest values _ hdepth => by omega⟩
    rw [List.length_cons] at hdepth
    omega
  | succ depth ih =>
    obtain ⟨ihArray, ihFrom⟩ := ih
    constructor
    · intro index rest h hdepth
      rw [List.length_cons] at hdepth
      rw [parseArray, h.peek]
      simp only [List.head?_cons, Outcome.ok_bind, ne_eq, not_true, if_false, h.advance]
      exact Ends.behind (ihFrom _ _ [] h.next (by omega))
    · intro index rest values h hdepth
      cases rest with
      | nil =>
        rw [parseArrayFrom, h.peek]
        exact h.ends _
      | cons ch rest =>
        by_cases hch : ch = '}'
        · rw [parseArrayFrom, h.peek]
          simp only [List.head?_cons, Outcome.ok_bind, if_pos hch, h.advance]
          exact (Ends.behind (h.next.ends _)).ends
        · rw [parseArrayFrom_round h hch]
          have hround : p.EndsBehind (ch :: rest) (p.parseRound depth ch index) := by
            apply parseRound_ends h hch
            intro hbrace
            subst hbrace
            exact ihArray index rest h (by omega)
          apply EndsBehind.ends
          apply hround.bind
          intro value index' rest' hat hlt
          exact ihFrom index' rest' (values ++ [value]) hat (by omega)

/-- What the loop of `parse_array` relies on, whatever the text and the delimiter: a round moves
the index forward to a character boundary of the text, and a slice is in range. -/
structure Progresses (p : ArrayTextParser) : Prop where
  round : ∀ depth index ch front, p.At index (ch :: front) → ch ≠ '}' →
    2 * (front.length + 1) ≤ depth →
    (∃ value index' rest, p.parseRound depth ch index = .ok (value, index') ∧ index < index' ∧
      index' ≤ utf8Length p.text.toList ∧ p.At index' rest) ∨
    (p.parseRound depth ch index = .panic ∧ p.ElementPanics)
  slice : ∀ index rest, p.At index rest → ∃ text index',
    p.parseUnquotedFrom (p.text.toList.length + 1) index [] = .ok (text, index') ∧
      p.slice index index' = .ok text

lemma progresses (p : ArrayTextParser) : p.Progresses where
  round := by
    intro depth index ch front h hch hdepth
    have hround : p.EndsBehind (ch :: front) (p.parseRound depth ch index) := by
      apply parseRound_ends h hch
      intro hbrace
      subst hbrace
      exact (p.parseArray_parseArrayFrom_ends depth).1 index front h hdepth
    rcases hround with ⟨value, index', rest, hvalue, hat, hsuffix, hlt⟩ | hpanics
    · have hsum := hat.sum
      exact .inl ⟨value, index', rest, hvalue, h.lt_of_suffix hat hsuffix hlt, by omega, hat⟩
    · exact .inr hpanics
  slice := fun _ _ h => parseUnquoted_slice h

end ArrayTextParser

/-- The first brace of a text is on a character boundary. -/
lemma findChar_eq_some {c : Char} {cs : List Char} {start : ℕ} (h : findChar c cs = some start) :
    ∃ front rest, cs = front ++ c :: rest ∧ start = utf8Length front := by
  induction cs generalizing start with
  | nil => cases h
  | cons d cs ih =>
    unfold findChar at h
    by_cases hd : d = c
    · rw [if_pos hd] at h
      cases h
      exact ⟨[], cs, by rw [hd]; rfl, rfl⟩
    · rw [if_neg hd, Option.map_eq_some_iff] at h
      obtain ⟨start', hstart, rfl⟩ := h
      obtain ⟨front, rest, rfl, rfl⟩ := ih hstart
      exact ⟨d :: front, rest, rfl, rfl⟩

/-- **Reading an array text ends**: `parse_array_text` returns unless the parser of elements
panics, and each of its rounds makes progress. -/
theorem parseArrayText_terminates (text : String) (elementParser : Option TypeParser)
    (elementTypeId : Int32) (delimiter : Char) :
    ((∃ value, parseArrayText text elementParser elementTypeId delimiter = .ok value) ∨
      (parseArrayText text elementParser elementTypeId delimiter = .panic ∧
        ∃ parser slice, elementParser = some parser ∧ parser slice elementTypeId = .panic)) ∧
    ({ text, elementParser, elementTypeId, delimiter } : ArrayTextParser).Progresses := by
  refine ⟨?_, ArrayTextParser.progresses _⟩
  unfold parseArrayText
  cases hfind : findChar '\x7b' text.toList with
  | none => exact .inl ⟨_, rfl⟩
  | some start =>
    obtain ⟨front, rest, htext, rfl⟩ := findChar_eq_some hfind
    generalize hp : ({ text, elementParser, elementTypeId, delimiter } : ArrayTextParser) = p
    have hat : p.At (utf8Length front) ('\x7b' :: rest) := by
      show ArrayTextParser.charsFrom p.text.toList _ = _
      rw [← hp, htext]
      exact ArrayTextParser.charsFrom_append _ _
    have hlen := hat.length_le
    have hsame : p.text = text := by rw [← hp]
    rw [hsame] at hlen
    rcases (p.parseArray_parseArrayFrom_ends (2 * text.toList.length + 2)).1 _ rest hat (by omega)
      with ⟨value, index', rest', hvalue, -, -, -⟩ | ⟨hpanic, hpanics⟩
    · exact .inl ⟨value, by simp only [hvalue]; rfl⟩
    · refine .inr ⟨by simp only [hpanic]; rfl, ?_⟩
      rw [← hp] at hpanics
      exact hpanics

end PgliteOxide.Pglite
