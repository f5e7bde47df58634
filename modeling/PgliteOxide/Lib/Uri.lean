import Mathlib.Data.List.TakeWhile
import PgliteOxide.Lib.Lines
import PgliteOxide.Lib.Utf8

/-!
# URIs

Percent-encoding, and how a URI with an authority is split into its components. A component that
stands in a URI as it is can be read back exactly if it has none of the bytes that end it and no
percent sign.
-/

namespace Lib

/-! ## Percent-encoding -/

def upperHexDigit (n : UInt8) : UInt8 := if n < 10 then 48 + n else 55 + n

def hexDigitValue (b : UInt8) : Option UInt8 :=
  if 48 ≤ b ∧ b ≤ 57 then some (b - 48)
  else if 65 ≤ b ∧ b ≤ 70 then some (b - 55)
  else if 97 ≤ b ∧ b ≤ 102 then some (b - 87)
  else none

/-- The bytes that are not kept become a percent sign and two digits. -/
def percentEncode (keep : UInt8 → Bool) (bytes : Bytes) : Bytes :=
  bytes.flatMap fun b =>
    if keep b then [b] else [37, upperHexDigit (b / 16), upperHexDigit (b % 16)]

/-- Behind a percent sign there are two digits. -/
def percentDecode : Bytes → Option Bytes
  | [] => some []
  | b :: rest =>
    if b = 37 then
      match rest with
      | high :: low :: rest => do
        let high ← hexDigitValue high
        let low ← hexDigitValue low
        let bytes ← percentDecode rest
        return (16 * high + low) :: bytes
      | _ => none
    else (percentDecode rest).map (b :: ·)

lemma percentDecode_cons {b : UInt8} (hb : b ≠ 37) (rest : Bytes) :
    percentDecode (b :: rest) = (percentDecode rest).map (b :: ·) := by
  conv_lhs => unfold percentDecode
  exact if_neg hb

lemma percentDecode_escape (high low : UInt8) (rest : Bytes) :
    percentDecode (37 :: high :: low :: rest) = (do
      let high ← hexDigitValue high
      let low ← hexDigitValue low
      let bytes ← percentDecode rest
      return (16 * high + low) :: bytes) := by
  conv_lhs => unfold percentDecode
  rfl

/-- The digits of a byte are read back. -/
lemma hexDigitValue_digits (b : UInt8) :
    hexDigitValue (upperHexDigit (b / 16)) = some (b / 16) ∧
      hexDigitValue (upperHexDigit (b % 16)) = some (b % 16) ∧ 16 * (b / 16) + b % 16 = b := by
  have hall : ∀ n < 256,
      hexDigitValue (upperHexDigit (UInt8.ofNat n / 16)) = some (UInt8.ofNat n / 16) ∧
      hexDigitValue (upperHexDigit (UInt8.ofNat n % 16)) = some (UInt8.ofNat n % 16) ∧
      16 * (UInt8.ofNat n / 16) + UInt8.ofNat n % 16 = UInt8.ofNat n := by
    decide +kernel
  have h := hall b.toNat b.toNat_lt
  rwa [UInt8.ofNat_toNat] at h

/-- **What was encoded is read back** where no percent sign is kept. -/
lemma percentDecode_percentEncode {keep : UInt8 → Bool} (hkeep : keep 37 = false) (bytes : Bytes) :
    percentDecode (percentEncode keep bytes) = some bytes := by
  unfold percentEncode
  induction bytes with
  | nil => rfl
  | cons b bytes ih =>
    rw [List.flatMap_cons]
    by_cases hb : keep b = true
    · have hpercent : b ≠ 37 := by
        intro h
        rw [h, hkeep] at hb
        cases hb
      rw [if_pos hb, List.singleton_append, percentDecode_cons hpercent, ih]
      rfl
    · obtain ⟨hhigh, hlow, hsum⟩ := hexDigitValue_digits b
      rw [if_neg hb]
      rw [List.cons_append, List.cons_append, List.cons_append, List.nil_append,
        percentDecode_escape, hhigh, hlow, ih]
      show some ((16 * (b / 16) + b % 16) :: bytes) = _
      rw [hsum]

/-- An encoded text has kept bytes, percent signs and digits. -/
lemma mem_percentEncode {keep : UInt8 → Bool} {bytes : Bytes} {x : UInt8}
    (h : x ∈ percentEncode keep bytes) :
    keep x = true ∨ x = 37 ∨ ∃ n < 16, x = upperHexDigit n := by
  unfold percentEncode at h
  obtain ⟨b, -, hx⟩ := List.mem_flatMap.mp h
  by_cases hb : keep b = true
  · rw [if_pos hb, List.mem_singleton] at hx
    rw [hx]
    exact Or.inl hb
  · rw [if_neg hb, List.mem_cons, List.mem_cons, List.mem_singleton] at hx
    have hlt : b.toNat < 256 := b.toNat_lt
    rcases hx with hx | hx | hx
    · exact Or.inr (Or.inl hx)
    · refine Or.inr (Or.inr ⟨b / 16, ?_, hx⟩)
      rw [UInt8.lt_iff_toNat_lt, UInt8.toNat_div]
      show b.toNat / 16 < 16
      omega
    · refine Or.inr (Or.inr ⟨b % 16, ?_, hx⟩)
      rw [UInt8.lt_iff_toNat_lt, UInt8.toNat_mod]
      show b.toNat % 16 < 16
      omega

lemma percentDecode_of_not_mem {text : Bytes} (h : 37 ∉ text) : percentDecode text = some text := by
  induction text with
  | nil => rfl
  | cons b text ih =>
    rw [List.mem_cons, not_or] at h
    rw [percentDecode_cons (Ne.symm h.1), ih h.2]
    rfl

/-- Decoding makes no text longer, and one with a percent sign shorter. -/
lemma length_of_percentDecode {text bytes : Bytes} (h : percentDecode text = some bytes) :
    bytes.length ≤ text.length ∧ (37 ∈ text → bytes.length < text.length) := by
  induction hlength : text.length using Nat.strong_induction_on generalizing text bytes with
  | _ n ih =>
    rcases text with _ | ⟨b, rest⟩
    · rw [← Option.some.inj h]
      exact ⟨Nat.zero_le _, fun hmem => absurd hmem List.not_mem_nil⟩
    · rw [List.length_cons] at hlength
      by_cases hb : b = 37
      · rw [hb] at h
        rcases rest with _ | ⟨high, _ | ⟨low, rest⟩⟩
        · cases h
        · cases h
        · rw [percentDecode_escape] at h
          obtain ⟨d, -, h⟩ := Option.bind_eq_some_iff.mp h
          obtain ⟨e, -, h⟩ := Option.bind_eq_some_iff.mp h
          obtain ⟨decoded, hdecoded, h⟩ := Option.bind_eq_some_iff.mp h
          have hcons := congrArg List.length (Option.some.inj h)
          rw [List.length_cons] at hcons
          rw [List.length_cons, List.length_cons] at hlength
          have hle := (ih rest.length (by omega) hdecoded rfl).1
          exact ⟨by omega, fun _ => by omega⟩
      · rw [percentDecode_cons hb, Option.map_eq_some_iff] at h
        obtain ⟨decoded, hdecoded, hcons⟩ := h
        rw [← hcons, List.length_cons]
        obtain ⟨hle, hlt⟩ := ih rest.length (by omega) hdecoded rfl
        refine ⟨by omega, fun hmem => ?_⟩
        rcases List.mem_cons.mp hmem with hmem | hmem
        · exact absurd hmem.symm hb
        · have hrest := hlt hmem
          omega

/-! ## Splitting -/

/-- What stands before the first of some bytes. -/
def before (stops : Bytes) (text : Bytes) : Bytes := text.takeWhile (· ∉ stops)

/-- The first of some bytes, and what is behind it. -/
def since (stops : Bytes) (text : Bytes) : Bytes := text.dropWhile (· ∉ stops)

lemma before_append {stops text : Bytes} (h : ∀ b ∈ text, b ∉ stops) (rest : Bytes) :
    before stops (text ++ rest) = text ++ before stops rest := by
  unfold before
  rw [List.takeWhile_append_of_pos (by simpa using h)]

lemma since_append {stops text : Bytes} (h : ∀ b ∈ text, b ∉ stops) (rest : Bytes) :
    since stops (text ++ rest) = since stops rest := by
  unfold since
  rw [List.dropWhile_append_of_pos (by simpa using h)]

lemma before_cons {stops : Bytes} {b : UInt8} (h : b ∈ stops) (rest : Bytes) :
    before stops (b :: rest) = [] := by
  unfold before
  rw [List.takeWhile_cons_of_neg (by simpa using h)]

lemma since_cons {stops : Bytes} {b : UInt8} (h : b ∈ stops) (rest : Bytes) :
    since stops (b :: rest) = b :: rest := by
  unfold since
  rw [List.dropWhile_cons_of_neg (by simpa using h)]

lemma before_of_forall {stops text : Bytes} (h : ∀ b ∈ text, b ∉ stops) :
    before stops text = text := by
  unfold before
  rw [List.takeWhile_eq_self_iff]
  simpa using h

/-- One of the bytes cuts a text short, whatever is behind it. -/
lemma length_before_lt {stops text : Bytes} {b : UInt8} (hb : b ∈ text) (hstop : b ∈ stops)
    (rest : Bytes) : (before stops (text ++ rest)).length < text.length := by
  induction text with
  | nil => exact absurd hb List.not_mem_nil
  | cons c text ih =>
    by_cases hc : c ∈ stops
    · rw [List.cons_append, before_cons hc]
      exact Nat.succ_pos _
    · have hmem : b ∈ text := by
        rcases List.mem_cons.mp hb with h | h
        · exact absurd hstop (by rwa [h])
        · exact h
      have hlt := ih hmem
      unfold before at hlt ⊢
      rw [List.cons_append, List.takeWhile_cons_of_pos (by simpa using hc), List.length_cons,
        List.length_cons]
      omega

/-- The components behind `scheme://`. -/
structure Uri where
  authority : Bytes
  path : Bytes
  query : Bytes
deriving DecidableEq

/-- The authority ends at a slash, a question mark or a number sign, the path at one of the last
two, the query at a number sign. -/
def splitUri (text : Bytes) : Uri :=
  let rest := since [47, 63, 35] text
  let query := since [63, 35] rest
  { authority := before [47, 63, 35] text
    path := before [63, 35] rest
    query := if query.head? = some 63 then before [35] (query.drop 1) else [] }

structure Authority where
  user : Bytes
  host : Bytes
  port : Bytes
deriving DecidableEq

/-- The host may stand in brackets; a colon is before the port. -/
def splitHostPort (text : Bytes) : Bytes × Bytes :=
  if text.head? = some 91 then
    (before [93] (text.drop 1), ((since [93] (text.drop 1)).drop 1).drop 1)
  else (before [58] text, (since [58] text).drop 1)

/-- The user information ends at the first at sign, the user in it at a colon. -/
def splitAuthority (text : Bytes) : Authority :=
  let user := if 64 ∈ text then before [58] (before [64] text) else []
  let hostPort := if 64 ∈ text then (since [64] text).drop 1 else text
  { user, host := (splitHostPort hostPort).1, port := (splitHostPort hostPort).2 }

/-- The parameters of a query: parts between `&`, each a name and a value with `=` between. -/
def splitQuery (query : Bytes) : List (Bytes × Bytes) :=
  if query = [] then []
  else (query.splitOn 38).map fun part => (before [61] part, (since [61] part).drop 1)

/-! ### What is read back -/

/-- **A text that is cut and decoded is itself** only if it has none of the bytes that cut it and
no percent sign. -/
lemma percentDecode_before {stops text rest : Bytes} {x : UInt8} (hx : x ∈ stops)
    (h : percentDecode (before stops (text ++ x :: rest)) = some text) :
    (∀ b ∈ text, b ∉ stops) ∧ 37 ∉ text := by
  have hle := (length_of_percentDecode h).1
  have hstops : ∀ b ∈ text, b ∉ stops := by
    intro b hb hstop
    have hlt := length_before_lt hb hstop (x :: rest)
    omega
  refine ⟨hstops, fun hpercent => ?_⟩
  rw [before_append hstops, before_cons hx, List.append_nil] at h
  exact absurd ((length_of_percentDecode h).2 hpercent) (Nat.lt_irrefl _)

lemma before_before (stops stops' text : Bytes) :
    before stops (before stops' text) = before (stops ++ stops') text := by
  unfold before
  rw [List.takeWhile_takeWhile]
  congr 1
  funext b
  simp [not_or]

/-- What ends a user. -/
def userStops : Bytes := [58, 64, 47, 63, 35]

/-- **A user is read back** only if nothing in it ends it and it has no percent sign. -/
lemma user_of_splitUri {user rest : Bytes} (hne : user ≠ [])
    (h : percentDecode (splitAuthority (splitUri (user ++ 64 :: rest)).authority).user
      = some user) :
    (∀ b ∈ user, b ∉ userStops) ∧ 37 ∉ user := by
  have huser : (splitAuthority (splitUri (user ++ 64 :: rest)).authority).user
      = if 64 ∈ before [47, 63, 35] (user ++ 64 :: rest) then
          before userStops (user ++ 64 :: rest) else [] := by
    show (if 64 ∈ before [47, 63, 35] (user ++ 64 :: rest) then
      before [58] (before [64] (before [47, 63, 35] (user ++ 64 :: rest))) else []) = _
    rw [before_before, before_before]
    rfl
  rw [huser] at h
  by_cases hat : 64 ∈ before [47, 63, 35] (user ++ 64 :: rest)
  · rw [if_pos hat] at h
    exact percentDecode_before (by decide) h
  · rw [if_neg hat] at h
    exact absurd (Option.some.inj h).symm hne

/-! ### A URI that is put together -/

section

variable {authority : Bytes} (h : ∀ b ∈ authority, b ∉ ([47, 63, 35] : Bytes))

include h

lemma splitUri_authority (rest : Bytes) :
    (splitUri (authority ++ 47 :: rest)).authority = authority := by
  show before [47, 63, 35] (authority ++ 47 :: rest) = authority
  rw [before_append h, before_cons (by decide), List.append_nil]

lemma splitUri_path (rest : Bytes) :
    (splitUri (authority ++ 47 :: rest)).path = 47 :: before [63, 35] rest := by
  show before [63, 35] (since [47, 63, 35] (authority ++ 47 :: rest)) = _
  rw [since_append h, since_cons (by decide)]
  have hslash : ∀ b ∈ ([47] : Bytes), b ∉ ([63, 35] : Bytes) := by
    intro b hb
    rw [List.mem_singleton.mp hb]
    decide
  exact before_append hslash rest

lemma splitUri_query {path query : Bytes} (hpath : ∀ b ∈ path, b ∉ ([63, 35] : Bytes))
    (hquery : 35 ∉ query) :
    (splitUri (authority ++ 47 :: (path ++ 63 :: query))).query = query := by
  have hstop : ∀ b ∈ 47 :: path, b ∉ ([63, 35] : Bytes) := by
    intro b hb
    rcases List.mem_cons.mp hb with hb | hb
    · rw [hb]
      decide
    · exact hpath b hb
  have hsince : since [63, 35] (since [47, 63, 35] (authority ++ 47 :: (path ++ 63 :: query)))
      = 63 :: query := by
    rw [since_append h, since_cons (by decide), ← List.cons_append, since_append hstop,
      since_cons (by decide)]
  unfold splitUri
  dsimp only
  rw [hsince]
  show before [35] query = query
  exact before_of_forall fun b hb hmem => hquery (by rwa [← List.mem_singleton.mp hmem])

end

lemma splitAuthority_eq {user : Bytes} (h : ∀ b ∈ user, b ∉ userStops) (hostPort : Bytes) :
    splitAuthority (user ++ 64 :: hostPort)
      = ⟨user, (splitHostPort hostPort).1, (splitHostPort hostPort).2⟩ := by
  have hat : ∀ b ∈ user, b ∉ ([64] : Bytes) := fun b hb hmem =>
    h b hb (by rw [List.mem_singleton.mp hmem]; decide)
  have hcolon : ∀ b ∈ user, b ∉ ([58] : Bytes) := fun b hb hmem =>
    h b hb (by rw [List.mem_singleton.mp hmem]; decide)
  have hbefore : before [64] (user ++ 64 :: hostPort) = user := by
    rw [before_append hat, before_cons (by decide), List.append_nil]
  have hsince : since [64] (user ++ 64 :: hostPort) = 64 :: hostPort := by
    rw [since_append hat, since_cons (by decide)]
  have hmem : 64 ∈ user ++ 64 :: hostPort := List.mem_append_right _ List.mem_cons_self
  unfold splitAuthority
  dsimp only
  rw [if_pos hmem, if_pos hmem, hbefore, hsince, before_of_forall hcolon]
  rfl

lemma splitHostPort_plain {host : Bytes} (hbracket : host.head? ≠ some 91) (hcolon : 58 ∉ host)
    (port : Bytes) : splitHostPort (host ++ 58 :: port) = (host, port) := by
  have hfree : ∀ b ∈ host, b ∉ ([58] : Bytes) := fun b hb hmem =>
    hcolon (by rwa [← List.mem_singleton.mp hmem])
  have hhead : (host ++ 58 :: port).head? ≠ some 91 := by
    rcases host with _ | ⟨b, host⟩
    · simp
    · exact hbracket
  unfold splitHostPort
  rw [if_neg hhead, before_append hfree, since_append hfree, before_cons (by decide),
    since_cons (by decide), List.append_nil]
  rfl

lemma splitHostPort_bracket {host : Bytes} (h : 93 ∉ host) (port : Bytes) :
    splitHostPort (91 :: (host ++ 93 :: 58 :: port)) = (host, port) := by
  have hfree : ∀ b ∈ host, b ∉ ([93] : Bytes) := fun b hb hmem =>
    h (by rwa [← List.mem_singleton.mp hmem])
  unfold splitHostPort
  rw [List.head?_cons, if_pos rfl]
  show (before [93] (host ++ 93 :: 58 :: port),
    ((since [93] (host ++ 93 :: 58 :: port)).drop 1).drop 1) = _
  rw [before_append hfree, since_append hfree, before_cons (by decide), since_cons (by decide),
    List.append_nil]
  rfl

/-- Parameters as they stand in a query. -/
def joinParams (params : List (Bytes × Bytes)) : Bytes :=
  [38].intercalate (params.map fun param => param.1 ++ 61 :: param.2)

lemma not_mem_joinParams {params : List (Bytes × Bytes)} {b : UInt8} (hjoin : b ≠ 38)
    (hequals : b ≠ 61) (h : ∀ param ∈ params, b ∉ param.1 ∧ b ∉ param.2) :
    b ∉ joinParams params := by
  unfold joinParams
  intro hmem
  induction params with
  | nil => exact absurd hmem List.not_mem_nil
  | cons param params ih =>
    have hpart : b ∉ param.1 ++ 61 :: param.2 := by
      have hparam := h param List.mem_cons_self
      simp [hparam.1, hparam.2, hequals]
    rcases params with _ | ⟨next, params⟩
    · rw [List.map_singleton, List.intercalate_singleton] at hmem
      exact hpart hmem
    · rw [List.map_cons, List.map_cons, List.intercalate_cons_cons, List.mem_append,
        List.mem_append, List.mem_singleton] at hmem
      rcases hmem with (hmem | hmem) | hmem
      · exact hpart hmem
      · exact hjoin hmem
      · exact ih (fun param hparam => h param (List.mem_cons_of_mem _ hparam)) hmem

/-- **The parameters are read back** if no name ends early and no `&` is in them. -/
lemma splitQuery_joinParams {params : List (Bytes × Bytes)} (hne : params ≠ [])
    (hname : ∀ param ∈ params, 61 ∉ param.1)
    (hfree : ∀ param ∈ params, 38 ∉ param.1 ∧ 38 ∉ param.2) :
    splitQuery (joinParams params) = params := by
  have hsplit : (joinParams params).splitOn 38
      = params.map fun param => param.1 ++ 61 :: param.2 := by
    apply List.splitOn_intercalate
    · intro part hpart hmem
      obtain ⟨param, hparam, heq⟩ := List.mem_map.mp hpart
      rw [← heq] at hmem
      rcases List.mem_append.mp hmem with hmem | hmem
      · exact (hfree param hparam).1 hmem
      · rcases List.mem_cons.mp hmem with hmem | hmem
        · exact absurd hmem (by decide)
        · exact (hfree param hparam).2 hmem
    · simpa using hne
  have hnil : joinParams params ≠ [] := by
    intro hnil
    rw [hnil] at hsplit
    rcases params with _ | ⟨param, _ | ⟨next, params⟩⟩
    · exact hne rfl
    · have hone := (List.cons.inj hsplit).1
      exact absurd hone.symm (by simp)
    · cases (List.cons.inj hsplit).2
  unfold splitQuery
  rw [if_neg hnil, hsplit, List.map_map]
  conv_rhs => rw [← List.map_id params]
  apply List.map_congr_left
  intro param hparam
  have hstop : ∀ b ∈ param.1, b ∉ ([61] : Bytes) := fun b hb hmem =>
    hname param hparam (by rwa [← List.mem_singleton.mp hmem])
  show (before [61] (param.1 ++ 61 :: param.2), (since [61] (param.1 ++ 61 :: param.2)).drop 1)
    = param
  rw [before_append hstop, since_append hstop, before_cons (by decide), since_cons (by decide),
    List.append_nil]
  rfl

end Lib
