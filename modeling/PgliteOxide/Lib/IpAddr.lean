import Mathlib.Tactic.IntervalCases
import Mathlib.Data.List.Basic
import PgliteOxide.Lib.Lines

/-!
# Numbers and IP addresses as text

`Display` and `FromStr` of numbers, of `Ipv4Addr` and of `Ipv6Addr`. What is printed is read back.
-/

namespace Lib

/-! ## Numbers -/

def digitValue (c : Char) : Option Nat :=
  if '0' ≤ c ∧ c ≤ '9' then some (c.toNat - 48)
  else if 'a' ≤ c ∧ c ≤ 'f' then some (c.toNat - 87)
  else if 'A' ≤ c ∧ c ≤ 'F' then some (c.toNat - 55)
  else none

/-- The digits of a number, the first ones being counted already. -/
def digitsValue (base : Nat) : Nat → List Char → Option Nat
  | acc, [] => some acc
  | acc, c :: cs =>
    match digitValue c with
    | some d => if d < base then digitsValue base (base * acc + d) cs else none
    | none => none

def readNumber (base : Nat) (text : List Char) : Option Nat :=
  if text = [] then none else digitsValue base 0 text

lemma digitValue_digitChar {d : Nat} (h : d < 16) : digitValue d.digitChar = some d := by
  interval_cases d <;> rfl

lemma digitsValue_append (base acc : Nat) (s t : List Char) :
    digitsValue base acc (s ++ t)
      = (digitsValue base acc s).bind fun acc => digitsValue base acc t := by
  induction s generalizing acc with
  | nil => rfl
  | cons c s ih =>
    simp only [List.cons_append, digitsValue]
    rcases digitValue c with _ | d
    · rfl
    · dsimp only
      by_cases hd : d < base
      · rw [if_pos hd, if_pos hd, ih]
      · rw [if_neg hd, if_neg hd]
        rfl

lemma digitsValue_digit {base acc d : Nat} (hd : d < base) (hbase : base ≤ 16) :
    digitsValue base acc [d.digitChar] = some (base * acc + d) := by
  unfold digitsValue
  rw [digitValue_digitChar (by omega)]
  dsimp only
  rw [if_pos hd]
  rfl

/-- A printed number is read back. -/
lemma readNumber_toDigits {base : Nat} (hbase : 1 < base) (hbase' : base ≤ 16) (n : Nat) :
    readNumber base (Nat.toDigits base n) = some n := by
  unfold readNumber
  rw [if_neg Nat.toDigits_ne_nil]
  induction n using Nat.strong_induction_on with
  | _ n ih =>
    rw [Nat.toDigits_eq_if hbase]
    by_cases hn : n < base
    · rw [if_pos hn, digitsValue_digit hn hbase', Nat.mul_zero, Nat.zero_add]
    · have hlt : n / base < n := Nat.div_lt_self (by omega) hbase
      have hmod : n % base < base := Nat.mod_lt n (by omega)
      rw [if_neg hn, digitsValue_append, ih _ hlt, Option.bind_some,
        digitsValue_digit hmod hbase', Nat.div_add_mod]

/-- The digits of a number are none of the characters that separate numbers. -/
lemma toDigits_chars {base : Nat} (hbase : 1 < base) (hbase' : base ≤ 16) (n : Nat) :
    ∀ c ∈ Nat.toDigits base n, ('0' ≤ c ∧ c ≤ '9') ∨ ('a' ≤ c ∧ c ≤ 'f') := by
  induction n using Nat.strong_induction_on with
  | _ n ih =>
    have hdigit : ∀ d, d < base →
        ('0' ≤ d.digitChar ∧ d.digitChar ≤ '9') ∨ ('a' ≤ d.digitChar ∧ d.digitChar ≤ 'f') := by
      intro d hd
      have hlt : d < 16 := by omega
      interval_cases d <;> decide
    rw [Nat.toDigits_eq_if hbase]
    by_cases hn : n < base
    · rw [if_pos hn]
      intro c hc
      rw [List.mem_singleton.mp hc]
      exact hdigit n hn
    · rw [if_neg hn]
      intro c hc
      rcases List.mem_append.mp hc with hc | hc
      · exact ih _ (Nat.div_lt_self (by omega) hbase) c hc
      · rw [List.mem_singleton.mp hc]
        exact hdigit _ (Nat.mod_lt n (by omega))

lemma not_mem_toDigits {base : Nat} (hbase : 1 < base) (hbase' : base ≤ 16) (n : Nat) {c : Char}
    (hc : ¬ (('0' ≤ c ∧ c ≤ '9') ∨ ('a' ≤ c ∧ c ≤ 'f'))) : c ∉ Nat.toDigits base n :=
  fun h => hc (toDigits_chars hbase hbase' n c h)

/-! ## IPv4 -/

structure Ipv4Addr where
  a : UInt8
  b : UInt8
  c : UInt8
  d : UInt8
deriving DecidableEq

namespace Ipv4Addr

def text (ip : Ipv4Addr) : List Char :=
  ['.'].intercalate [Nat.toDigits 10 ip.a.toNat, Nat.toDigits 10 ip.b.toNat,
    Nat.toDigits 10 ip.c.toNat, Nat.toDigits 10 ip.d.toNat]

/-- A part of an address: up to three digits that are at most 255. -/
def readOctet (text : List Char) : Option UInt8 :=
  if 3 < text.length then none
  else
    match readNumber 10 text with
    | some n => if n < 256 then some (UInt8.ofNat n) else none
    | none => none

def parse (text : List Char) : Option Ipv4Addr :=
  match text.splitOn '.' with
  | [a, b, c, d] => do
    return ⟨← readOctet a, ← readOctet b, ← readOctet c, ← readOctet d⟩
  | _ => none

lemma readOctet_toDigits (octet : UInt8) :
    readOctet (Nat.toDigits 10 octet.toNat) = some octet := by
  have hlt : octet.toNat < 256 := octet.toNat_lt
  have hlength : (Nat.toDigits 10 octet.toNat).length ≤ 3 :=
    (Nat.length_toDigits_le_iff (by decide) (by decide)).mpr (by omega)
  unfold readOctet
  rw [if_neg (by omega), readNumber_toDigits (by decide) (by decide)]
  dsimp only
  rw [if_pos hlt, UInt8.ofNat_toNat]

lemma parse_text (ip : Ipv4Addr) : parse ip.text = some ip := by
  have hdot : ∀ n, '.' ∉ Nat.toDigits 10 n := fun n =>
    not_mem_toDigits (by decide) (by decide) n (by decide)
  have hsplit : ip.text.splitOn '.' = [Nat.toDigits 10 ip.a.toNat, Nat.toDigits 10 ip.b.toNat,
      Nat.toDigits 10 ip.c.toNat, Nat.toDigits 10 ip.d.toNat] :=
    List.splitOn_intercalate '.' (by simp [hdot]) (by simp)
  unfold parse
  rw [hsplit]
  dsimp only
  rw [readOctet_toDigits, readOctet_toDigits, readOctet_toDigits, readOctet_toDigits]
  rfl

/-- An address has digits and dots only. -/
lemma text_chars (ip : Ipv4Addr) :
    ∀ c ∈ ip.text, c = '.' ∨ ('0' ≤ c ∧ c ≤ '9') ∨ ('a' ≤ c ∧ c ≤ 'f') := by
  intro c hc
  unfold text at hc
  simp only [List.intercalate, List.intersperse, List.flatten_cons, List.flatten_nil,
    List.append_nil, List.mem_append, List.mem_singleton] at hc
  rcases hc with hc | hc | hc | hc | hc | hc | hc
  · exact Or.inr (toDigits_chars (by decide) (by decide) _ c hc)
  · exact Or.inl hc
  · exact Or.inr (toDigits_chars (by decide) (by decide) _ c hc)
  · exact Or.inl hc
  · exact Or.inr (toDigits_chars (by decide) (by decide) _ c hc)
  · exact Or.inl hc
  · exact Or.inr (toDigits_chars (by decide) (by decide) _ c hc)

end Ipv4Addr

/-! ## IPv6 -/

@[ext]
structure Ipv6Addr where
  segments : List UInt16
  length_eq : segments.length = 8
deriving DecidableEq

/-- A run of zeros. -/
structure Span where
  start : Nat
  len : Nat
deriving DecidableEq

namespace Ipv6Addr

/-- The loop for the longest run of zeros, from a segment on. -/
def longestZeros (i : Nat) (longest current : Span) : List UInt16 → Span
  | [] => longest
  | segment :: segments =>
    if segment = 0 then
      let start := if current.len = 0 then i else current.start
      let current := ⟨start, current.len + 1⟩
      let longest := if longest.len < current.len then current else longest
      longestZeros (i + 1) longest current segments
    else longestZeros (i + 1) longest ⟨0, 0⟩ segments

def groupText (segment : UInt16) : List Char := Nat.toDigits 16 segment.toNat

/-- `fmt_subslice`. -/
def joinGroups (segments : List UInt16) : List Char :=
  [':'].intercalate (segments.map groupText)

def highByte (segment : UInt16) : UInt8 := UInt8.ofNat (segment.toNat / 256)

def lowByte (segment : UInt16) : UInt8 := UInt8.ofNat (segment.toNat % 256)

def ofBytes (high low : UInt8) : UInt16 := UInt16.ofNat (256 * high.toNat + low.toNat)

/-- `to_ipv4_mapped`. -/
def toIpv4Mapped (ip : Ipv6Addr) : Option Ipv4Addr :=
  match ip.segments with
  | [0, 0, 0, 0, 0, 0xffff, high, low] =>
    some ⟨highByte high, lowByte high, highByte low, lowByte low⟩
  | _ => none

def text (ip : Ipv6Addr) : List Char :=
  match ip.toIpv4Mapped with
  | some ipv4 => "::ffff:".toList ++ ipv4.text
  | none =>
    let zeroes := longestZeros 0 ⟨0, 0⟩ ⟨0, 0⟩ ip.segments
    if 1 < zeroes.len then
      joinGroups (ip.segments.take zeroes.start) ++ [':', ':']
        ++ joinGroups (ip.segments.drop (zeroes.start + zeroes.len))
    else joinGroups ip.segments

/-! ### Reading -/

/-- What stands before and behind the first double colon. -/
def splitDouble : List Char → Option (List Char × List Char)
  | ':' :: ':' :: rest => some ([], rest)
  | c :: rest => (splitDouble rest).map fun parts => (c :: parts.1, parts.2)
  | [] => none

/-- A group: up to four hexadecimal digits. -/
def readGroup (text : List Char) : Option UInt16 :=
  if 4 < text.length then none
  else
    match readNumber 16 text with
    | some n => if n < 65536 then some (UInt16.ofNat n) else none
    | none => none

/-- Groups; the last one may be an IPv4 address. -/
def readGroupList : List (List Char) → Option (List UInt16)
  | [] => some []
  | [last] =>
    match Ipv4Addr.parse last with
    | some ip => some [ofBytes ip.a ip.b, ofBytes ip.c ip.d]
    | none => (readGroup last).map fun group => [group]
  | group :: groups => do
    let group ← readGroup group
    let groups ← readGroupList groups
    return group :: groups

def readGroups (text : List Char) : Option (List UInt16) :=
  if text = [] then some [] else readGroupList (text.splitOn ':')

/-- The zeros of a double colon fill the address. -/
def fill (head tail : List UInt16) : Option Ipv6Addr :=
  if h : head.length + tail.length < 8 then
    some ⟨head ++ List.replicate (8 - (head.length + tail.length)) 0 ++ tail, by simp; omega⟩
  else none

def parse (text : List Char) : Option Ipv6Addr :=
  match splitDouble text with
  | some (front, behind) => do
    let head ← readGroups front
    let tail ← readGroups behind
    fill head tail
  | none => do
    let segments ← readGroups text
    if h : segments.length = 8 then some ⟨segments, h⟩ else none

/-! ### Groups -/

lemma ofBytes_bytes (segment : UInt16) :
    ofBytes (highByte segment) (lowByte segment) = segment := by
  have hlt : segment.toNat < 65536 := segment.toNat_lt
  have hhigh : (highByte segment).toNat = segment.toNat / 256 :=
    UInt8.toNat_ofNat_of_lt (by show _ < 256; omega)
  have hlow : (lowByte segment).toNat = segment.toNat % 256 :=
    UInt8.toNat_ofNat_of_lt (by show _ < 256; omega)
  unfold ofBytes
  rw [hhigh, hlow, Nat.div_add_mod, UInt16.ofNat_toNat]

lemma groupText_ne_nil (segment : UInt16) : groupText segment ≠ [] := Nat.toDigits_ne_nil

lemma colon_not_mem_groupText (segment : UInt16) : ':' ∉ groupText segment :=
  not_mem_toDigits (by decide) (by decide) _ (by decide)

lemma readGroup_groupText (segment : UInt16) : readGroup (groupText segment) = some segment := by
  have hlt : segment.toNat < 65536 := segment.toNat_lt
  have hlength : (Nat.toDigits 16 segment.toNat).length ≤ 4 :=
    (Nat.length_toDigits_le_iff (by decide) (by decide)).mpr (by omega)
  unfold readGroup groupText
  rw [if_neg (by omega), readNumber_toDigits (by decide) (by decide)]
  dsimp only
  rw [if_pos hlt, UInt16.ofNat_toNat]

/-- A group is no IPv4 address. -/
lemma parse_groupText (segment : UInt16) : Ipv4Addr.parse (groupText segment) = none := by
  have hdot : '.' ∉ groupText segment := not_mem_toDigits (by decide) (by decide) _ (by decide)
  have hsplit : (groupText segment).splitOn '.' = [groupText segment] := by
    have hno : ∀ l ∈ [groupText segment], '.' ∉ l := by simpa using hdot
    have h := List.splitOn_intercalate '.' hno (List.cons_ne_nil _ _)
    simpa [List.intercalate] using h
  unfold Ipv4Addr.parse
  rw [hsplit]

lemma readGroupList_map (segments : List UInt16) :
    readGroupList (segments.map groupText) = some segments := by
  induction segments with
  | nil => rfl
  | cons segment segments ih =>
    rcases segments with _ | ⟨next, segments⟩
    · show readGroupList [groupText segment] = _
      unfold readGroupList
      rw [parse_groupText, readGroup_groupText]
      rfl
    · show readGroupList (groupText segment :: groupText next :: segments.map groupText) = _
      unfold readGroupList
      rw [readGroup_groupText]
      show (do
        let groups ← readGroupList ((next :: segments).map groupText)
        return segment :: groups) = _
      rw [ih]
      rfl

lemma joinGroups_cons (segment next : UInt16) (segments : List UInt16) :
    joinGroups (segment :: next :: segments)
      = groupText segment ++ ':' :: joinGroups (next :: segments) := by
  simp [joinGroups, List.intercalate]

lemma joinGroups_singleton (segment : UInt16) : joinGroups [segment] = groupText segment := by
  simp [joinGroups, List.intercalate]

lemma joinGroups_ne_nil {segments : List UInt16} (h : segments ≠ []) :
    joinGroups segments ≠ [] := by
  rcases segments with _ | ⟨segment, _ | ⟨next, segments⟩⟩
  · exact absurd rfl h
  · rw [joinGroups_singleton]
    exact groupText_ne_nil segment
  · rw [joinGroups_cons]
    simp

lemma readGroups_joinGroups (segments : List UInt16) :
    readGroups (joinGroups segments) = some segments := by
  unfold readGroups
  by_cases hnil : segments = []
  · rw [hnil]
    rfl
  · have hsplit : (joinGroups segments).splitOn ':' = segments.map groupText := by
      apply List.splitOn_intercalate
      · intro text htext
        obtain ⟨segment, -, heq⟩ := List.mem_map.mp htext
        rw [← heq]
        exact colon_not_mem_groupText segment
      · simpa using hnil
    rw [if_neg (joinGroups_ne_nil hnil), hsplit, readGroupList_map]

/-! ### The double colon -/

lemma splitDouble_cons {c : Char} {rest : List Char} (h : c ≠ ':' ∨ rest.head? ≠ some ':') :
    splitDouble (c :: rest) = (splitDouble rest).map fun parts => (c :: parts.1, parts.2) := by
  conv_lhs => unfold splitDouble
  split
  · rename_i heq
    obtain ⟨hhead, htail⟩ := List.cons.inj heq
    rw [hhead, htail] at h
    rcases h with h | h
    · exact absurd rfl h
    · exact absurd rfl h
  · rename_i heq
    obtain ⟨hhead, htail⟩ := List.cons.inj heq
    rw [hhead, htail]
  · rename_i heq
    cases heq

lemma splitDouble_append {front : List Char} (h : ':' ∉ front) (rest : List Char) :
    splitDouble (front ++ rest)
      = (splitDouble rest).map fun parts => (front ++ parts.1, parts.2) := by
  induction front with
  | nil => simp
  | cons c front ih =>
    rw [List.mem_cons, not_or] at h
    rw [List.cons_append, splitDouble_cons (Or.inl (Ne.symm h.1)), ih h.2, Option.map_map]
    rfl

/-- A group starts with no colon. -/
lemma head_joinGroups (segment : UInt16) (segments : List UInt16) (rest : List Char) :
    (joinGroups (segment :: segments) ++ rest).head? ≠ some ':' := by
  have hhead : ∀ text : List Char, (groupText segment ++ text).head? ≠ some ':' := by
    intro text h
    obtain ⟨c, digits, hdigits⟩ := List.exists_cons_of_ne_nil (groupText_ne_nil segment)
    rw [hdigits] at h
    refine colon_not_mem_groupText segment ?_
    rw [hdigits, ← Option.some.inj h]
    exact List.mem_cons_self
  rcases segments with _ | ⟨next, segments⟩
  · rw [joinGroups_singleton]
    exact hhead rest
  · rw [joinGroups_cons, List.append_assoc]
    exact hhead _

/-- Groups have no double colon, so the first one is behind them. -/
lemma splitDouble_joinGroups (segments : List UInt16) (rest : List Char) :
    splitDouble (joinGroups segments ++ ':' :: ':' :: rest) = some (joinGroups segments, rest) := by
  induction segments with
  | nil => rfl
  | cons segment segments ih =>
    rcases segments with _ | ⟨next, segments⟩
    · rw [joinGroups_singleton, splitDouble_append (colon_not_mem_groupText segment)]
      show (some ([], rest)).map _ = _
      rw [Option.map_some, List.append_nil]
    · rw [joinGroups_cons, List.append_assoc,
        splitDouble_append (colon_not_mem_groupText segment), List.cons_append,
        splitDouble_cons (Or.inr (head_joinGroups next segments _)), ih]
      rfl

lemma splitDouble_joinGroups_none (segments : List UInt16) :
    splitDouble (joinGroups segments) = none := by
  induction segments with
  | nil => rfl
  | cons segment segments ih =>
    rcases segments with _ | ⟨next, segments⟩
    · rw [joinGroups_singleton, ← List.append_nil (groupText segment),
        splitDouble_append (colon_not_mem_groupText segment)]
      rfl
    · have hhead := head_joinGroups next segments []
      rw [List.append_nil] at hhead
      rw [joinGroups_cons, splitDouble_append (colon_not_mem_groupText segment),
        splitDouble_cons (Or.inr hhead), ih]
      rfl

/-! ### The longest run of zeros -/

/-- A span of an address that has zeros only. -/
def IsZeros (segments : List UInt16) (span : Span) : Prop :=
  span.start + span.len ≤ segments.length ∧
    ∀ k, k < span.len → segments[span.start + k]? = some 0

lemma longestZeros_isZeros {segments : List UInt16} (rest : List UInt16) {i : Nat}
    {longest current : Span} (hrest : segments.drop i = rest) (hlongest : IsZeros segments longest)
    (hcurrent : IsZeros segments current)
    (hend : 0 < current.len → current.start + current.len = i) :
    IsZeros segments (longestZeros i longest current rest) := by
  induction rest generalizing i longest current with
  | nil => exact hlongest
  | cons segment rest ih =>
    have hi : i < segments.length := by
      by_contra hle
      rw [List.drop_eq_nil_of_le (by omega)] at hrest
      cases hrest
    have hsegment : segments[i]? = some segment := by
      have hzero := congrArg (fun l => l[0]?) hrest
      simpa using hzero
    have hnext : segments.drop (i + 1) = rest := by
      rw [← List.tail_drop, hrest]
      rfl
    unfold longestZeros
    by_cases hz : segment = 0
    · rw [if_pos hz]
      -- the run that ends at this segment
      have hgrown : IsZeros segments
          ⟨if current.len = 0 then i else current.start, current.len + 1⟩ ∧
          (if current.len = 0 then i else current.start) + (current.len + 1) = i + 1 := by
        by_cases hlen : current.len = 0
        · rw [if_pos hlen]
          refine ⟨⟨?_, ?_⟩, by omega⟩
          · dsimp only
            omega
          · intro k hk
            dsimp only at hk ⊢
            have hk0 : k = 0 := by omega
            rw [hk0, Nat.add_zero, hsegment, hz]
        · have hsum := hend (by omega)
          rw [if_neg hlen]
          refine ⟨⟨?_, ?_⟩, by omega⟩
          · dsimp only
            omega
          · intro k hk
            dsimp only at hk ⊢
            by_cases hlast : k = current.len
            · rw [hlast, hsum, hsegment, hz]
            · exact hcurrent.2 k (by omega)
      generalize (if current.len = 0 then i else current.start) = start at hgrown ⊢
      dsimp only
      apply ih hnext
      · by_cases hlonger : longest.len < current.len + 1
        · rw [if_pos hlonger]
          exact hgrown.1
        · rw [if_neg hlonger]
          exact hlongest
      · exact hgrown.1
      · exact fun _ => hgrown.2
    · rw [if_neg hz]
      refine ih hnext hlongest ⟨by simp, fun k hk => ?_⟩ (fun hlen => ?_)
      · exact absurd hk (Nat.not_lt_zero k)
      · exact absurd hlen (Nat.lt_irrefl 0)

/-- The segments around a run of zeros, and the zeros. -/
lemma IsZeros.split {segments : List UInt16} {span : Span} (h : IsZeros segments span) :
    segments.take span.start ++ List.replicate span.len 0
      ++ segments.drop (span.start + span.len) = segments := by
  have hzeros : (segments.drop span.start).take span.len = List.replicate span.len 0 := by
    apply List.ext_getElem?
    intro k
    rw [List.getElem?_take, List.getElem?_replicate, List.getElem?_drop]
    by_cases hk : k < span.len
    · rw [if_pos hk, if_pos hk, h.2 k hk]
    · rw [if_neg hk, if_neg hk]
  rw [← hzeros, List.append_assoc, ← List.drop_drop, List.take_append_drop,
    List.take_append_drop]

/-! ### The round trip -/

lemma parse_of_double {text front behind : List Char} {head tail : List UInt16}
    (h : splitDouble text = some (front, behind)) (hhead : readGroups front = some head)
    (htail : readGroups behind = some tail) : parse text = fill head tail := by
  unfold parse
  rw [h]
  show (do
    let head ← readGroups front
    let tail ← readGroups behind
    fill head tail) = _
  rw [hhead, htail]
  rfl

lemma parse_of_none {text : List Char} {ip : Ipv6Addr} (h : splitDouble text = none)
    (hgroups : readGroups text = some ip.segments) : parse text = some ip := by
  unfold parse
  rw [h]
  show (do
    let segments ← readGroups text
    if h : segments.length = 8 then some (⟨segments, h⟩ : Ipv6Addr) else none) = _
  rw [hgroups]
  exact dif_pos ip.length_eq

/-- The zeros are as many as are left out. -/
lemma fill_eq {ip : Ipv6Addr} {head tail : List UInt16} {len : Nat} (hlen : 0 < len)
    (h : head ++ List.replicate len 0 ++ tail = ip.segments) : fill head tail = some ip := by
  have hlength := congrArg List.length h
  rw [ip.length_eq, List.length_append, List.length_append, List.length_replicate] at hlength
  have hcount : 8 - (head.length + tail.length) = len := by omega
  unfold fill
  rw [dif_pos (by omega)]
  congr 1
  apply Ipv6Addr.ext
  dsimp only
  rw [hcount, h]

lemma parse_mapped {ip : Ipv6Addr} {ipv4 : Ipv4Addr} (h : ip.toIpv4Mapped = some ipv4) :
    parse ("::ffff:".toList ++ ipv4.text) = some ip := by
  have hsegments : ip.segments
      = [0, 0, 0, 0, 0, 0xffff, ofBytes ipv4.a ipv4.b, ofBytes ipv4.c ipv4.d] := by
    unfold toIpv4Mapped at h
    split at h
    · rename_i high low heq
      rw [← Option.some.inj h, heq, ofBytes_bytes, ofBytes_bytes]
    · cases h
  have hcolon : ':' ∉ ipv4.text := by
    intro hmem
    rcases ipv4.text_chars ':' hmem with hc | hc
    · exact absurd hc (by decide)
    · exact absurd hc (by decide)
  have hsplit : ("ffff:".toList ++ ipv4.text).splitOn ':' = ["ffff".toList, ipv4.text] := by
    have hno : ∀ text ∈ ["ffff".toList, ipv4.text], ':' ∉ text := by
      intro text htext
      rcases List.mem_cons.mp htext with htext | htext
      · rw [htext]
        decide
      · rw [List.mem_singleton.mp htext]
        exact hcolon
    have hjoin := List.splitOn_intercalate ':' hno (List.cons_ne_nil _ _)
    simpa [List.intercalate] using hjoin
  have htail : readGroups ("ffff:".toList ++ ipv4.text)
      = some [0xffff, ofBytes ipv4.a ipv4.b, ofBytes ipv4.c ipv4.d] := by
    unfold readGroups
    rw [if_neg (by simp), hsplit]
    show (do
      let group ← readGroup "ffff".toList
      let groups ← readGroupList [ipv4.text]
      return group :: groups) = _
    have hgroup : readGroup "ffff".toList = some 0xffff := by decide
    have hlast : readGroupList [ipv4.text]
        = some [ofBytes ipv4.a ipv4.b, ofBytes ipv4.c ipv4.d] := by
      unfold readGroupList
      rw [Ipv4Addr.parse_text]
    rw [hgroup, hlast]
    rfl
  have hdouble : splitDouble ("::ffff:".toList ++ ipv4.text)
      = some ([], "ffff:".toList ++ ipv4.text) := rfl
  rw [parse_of_double hdouble rfl htail]
  have hfive : 0 < 5 := by decide
  exact fill_eq hfive hsegments.symm

/-- What is printed is read back. -/
lemma parse_text (ip : Ipv6Addr) : parse ip.text = some ip := by
  unfold text
  rcases hmapped : ip.toIpv4Mapped with _ | ipv4
  · dsimp only
    have hzeroes : IsZeros ip.segments (longestZeros 0 ⟨0, 0⟩ ⟨0, 0⟩ ip.segments) := by
      have hnone : IsZeros ip.segments ⟨0, 0⟩ :=
        ⟨Nat.zero_le _, fun k hk => absurd hk (Nat.not_lt_zero k)⟩
      exact longestZeros_isZeros ip.segments rfl hnone hnone
        (fun hlen => absurd hlen (Nat.lt_irrefl 0))
    by_cases hlen : 1 < (longestZeros 0 ⟨0, 0⟩ ⟨0, 0⟩ ip.segments).len
    · rw [if_pos hlen, List.append_assoc]
      show parse (joinGroups _ ++ ':' :: ':' :: joinGroups _) = _
      rw [parse_of_double (splitDouble_joinGroups _ _) (readGroups_joinGroups _)
        (readGroups_joinGroups _)]
      exact fill_eq (by omega) hzeroes.split
    · rw [if_neg hlen]
      exact parse_of_none (splitDouble_joinGroups_none _) (readGroups_joinGroups _)
  · exact parse_mapped hmapped

lemma joinGroups_chars (segments : List UInt16) :
    ∀ c ∈ joinGroups segments, c = ':' ∨ ('0' ≤ c ∧ c ≤ '9') ∨ ('a' ≤ c ∧ c ≤ 'f') := by
  induction segments with
  | nil => exact fun c hc => absurd hc List.not_mem_nil
  | cons segment segments ih =>
    have hgroup : ∀ c ∈ groupText segment, ('0' ≤ c ∧ c ≤ '9') ∨ ('a' ≤ c ∧ c ≤ 'f') :=
      toDigits_chars (by decide) (by decide) segment.toNat
    intro c hc
    rcases segments with _ | ⟨next, segments⟩
    · rw [joinGroups_singleton] at hc
      exact Or.inr (hgroup c hc)
    · rw [joinGroups_cons, List.mem_append, List.mem_cons] at hc
      rcases hc with hc | hc | hc
      · exact Or.inr (hgroup c hc)
      · exact Or.inl hc
      · exact ih c hc

/-- An address has digits, colons and dots only. -/
lemma text_chars (ip : Ipv6Addr) :
    ∀ c ∈ ip.text, c = ':' ∨ c = '.' ∨ ('0' ≤ c ∧ c ≤ '9') ∨ ('a' ≤ c ∧ c ≤ 'f') := by
  have hjoin : ∀ segments, ∀ c ∈ joinGroups segments,
      c = ':' ∨ c = '.' ∨ ('0' ≤ c ∧ c ≤ '9') ∨ ('a' ≤ c ∧ c ≤ 'f') := by
    intro segments c hc
    rcases joinGroups_chars segments c hc with hc | hc
    · exact Or.inl hc
    · exact Or.inr (Or.inr hc)
  intro c hc
  unfold text at hc
  rcases hmapped : ip.toIpv4Mapped with _ | ipv4
  · rw [hmapped] at hc
    dsimp only at hc
    split_ifs at hc
    · rw [List.mem_append, List.mem_append] at hc
      rcases hc with (hc | hc) | hc
      · exact hjoin _ c hc
      · simp only [List.mem_cons, List.not_mem_nil, or_false, or_self] at hc
        exact Or.inl hc
      · exact hjoin _ c hc
    · exact hjoin _ c hc
  · rw [hmapped] at hc
    rcases List.mem_append.mp hc with hc | hc
    · have hmem : c ∈ [':', ':', 'f', 'f', 'f', 'f', ':'] := hc
      simp only [List.mem_cons, List.not_mem_nil, or_false] at hmem
      rcases hmem with hc | hc | hc | hc | hc | hc | hc <;> rw [hc] <;> decide
    · exact Or.inr (ipv4.text_chars c hc)

end Ipv6Addr

end Lib
