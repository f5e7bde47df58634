import PgliteOxide.Pglite.Wire
import PgliteOxide.Protocol.RoundTrip
import PgliteOxide.Protocol.Serializer

/-!
# Startup packets

A startup packet is a header and a list of parameters. The proxy takes the user and the database
from it, the server reads it again. The proxy stops at the first occurrence of a key; for the
server a later occurrence overrides an earlier one.
-/

namespace PgliteOxide.Pglite

open Lib Protocol
open WireMessage (NulFree)

/-! ## Packets -/

/-- Parameters as they lie in a packet. -/
def parameterBytes (pairs : List (String × String)) : Bytes :=
  pairs.flatMap fun (key, value) => Serialize.cstring key ++ Serialize.cstring value

/-- A header of a length and a version, the parameters, and the empty key. -/
def packetOf (header : Bytes) (pairs : List (String × String)) : Bytes :=
  header ++ (parameterBytes pairs ++ [0])

/-- A key and a value can be told from the packet. -/
structure Readable (pair : String × String) : Prop where
  key_ne : pair.1 ≠ ""
  key_nul : NulFree pair.1
  value_nul : NulFree pair.2

lemma readable_mk {key value : String} (hne : key ≠ "") (hkey : NulFree key)
    (hvalue : NulFree value) : Readable (key, value) := ⟨hne, hkey, hvalue⟩

/-- The parameters of `startup_packet`. -/
def startupPairs (user database : String) : List (String × String) :=
  [("user", user), ("database", database), ("client_encoding", "UTF8"),
    ("DateStyle", "ISO, MDY"), ("TimeZone", "UTC")]

/-- The body of `startup_packet`. -/
def startupPacketBody (user database : String) : Bytes :=
  i32ToBe 196608
    ++ (startupPairs user database).flatMap (fun (key, value) =>
      utf8 key ++ [0] ++ utf8 value ++ [0])
    ++ [0]

/-- `startup_packet`. -/
def startupPacket (user database : String) : Bytes :=
  i32ToBe (Int32.ofNat ((startupPacketBody user database).length + 4))
    ++ startupPacketBody user database

/-! ## Reading with a cursor -/

/-- The loop of `startup_parameter`, with the indexing and slicing of the source. -/
def startupParameterAt (message : Bytes) (wanted : String) (cursor : ℕ) :
    Outcome String (Option String) :=
  if _h : cursor < message.length then do
    let byte ← index message cursor
    if byte = 0 then .ok none
    else
      let tail ← slice message cursor message.length
      match tail.findIdx? (· == 0) with
      | none => .err "startup parameter key is not nul-terminated"
      | some offset =>
        let keyEnd := cursor + offset
        let key ← slice message cursor keyEnd
        match fromUtf8 key with
        | none => .err "startup parameter key is not UTF-8"
        | some key =>
          let tail ← slice message (keyEnd + 1) message.length
          match tail.findIdx? (· == 0) with
          | none => .err "startup parameter value is not nul-terminated"
          | some offset =>
            let valueEnd := keyEnd + 1 + offset
            let value ← slice message (keyEnd + 1) valueEnd
            match fromUtf8 value with
            | none => .err "startup parameter value is not UTF-8"
            | some value =>
              if key = wanted then .ok (some value)
              else startupParameterAt message wanted (valueEnd + 1)
  else .ok none
termination_by message.length - cursor

/-- `startup_parameter`, cursor and all. -/
def startupParameterChecked (message : Bytes) (wanted : String) :
    Outcome String (Option String) :=
  if message.length < 8 then .err "startup packet is too short"
  else startupParameterAt message wanted 8

lemma findIdx?_lt {bytes : Bytes} {offset : ℕ} (h : bytes.findIdx? (· == 0) = some offset) :
    offset < bytes.length :=
  (List.findIdx?_eq_some_iff_getElem.mp h).1

/-- A turn of the checked loop reads what the loop over the rest of the packet reads. -/
lemma startupParameterAt_eq (message : Bytes) (wanted : String) (turns : ℕ) {cursor : ℕ}
    (hcursor : cursor ≤ message.length) (hturns : message.length < cursor + turns) :
    startupParameterAt message wanted cursor
      = .ofExcept (startupParameterFrom wanted turns (message.drop cursor)) := by
  induction turns generalizing cursor with
  | zero => omega
  | succ turns ih =>
    rw [startupParameterAt, startupParameterFrom]
    by_cases h : cursor < message.length
    · rw [dif_pos h]
      obtain ⟨byte, behind, hdrop⟩ := List.exists_cons_of_ne_nil (l := message.drop cursor)
        (by simpa using h)
      rw [index_eq_head message hdrop, Outcome.ok_bind]
      by_cases hbyte : byte = 0
      · rw [if_pos hbyte, if_pos (Or.inr (by rw [hdrop, hbyte]; rfl))]
        rfl
      · have hhead : ¬ ((message.drop cursor).head? = none ∨
            (message.drop cursor).head? = some 0) := by
          rw [hdrop]
          simpa using hbyte
        rw [if_neg hbyte, if_neg hhead, slice_to_end message hcursor, Outcome.ok_bind]
        rcases hkey : (message.drop cursor).findIdx? (· == 0) with _ | offset
        · rfl
        · have hoffset := findIdx?_lt hkey
          rw [List.length_drop] at hoffset
          dsimp only
          rw [slice_add message (by omega), Outcome.ok_bind]
          rcases fromUtf8 ((message.drop cursor).take offset) with _ | key
          · rfl
          · dsimp only
            rw [slice_to_end message (by omega), Outcome.ok_bind, List.drop_drop,
              ← Nat.add_assoc]
            rcases hvalue : (message.drop (cursor + offset + 1)).findIdx? (· == 0) with _ | n
            · rfl
            · have hn := findIdx?_lt hvalue
              rw [List.length_drop] at hn
              dsimp only
              rw [slice_add message (by omega), Outcome.ok_bind]
              rcases fromUtf8 ((message.drop (cursor + offset + 1)).take n) with _ | value
              · rfl
              · dsimp only
                by_cases hwanted : key = wanted
                · rw [if_pos hwanted, if_pos hwanted]
                  rfl
                · rw [if_neg hwanted, if_neg hwanted, List.drop_drop, ← Nat.add_assoc]
                  exact ih (by omega) (by omega)
    · have hnil : message.drop cursor = [] := List.drop_eq_nil_of_le (by omega)
      rw [dif_neg h, hnil, if_pos (Or.inl List.head?_nil)]
      rfl

/-- Every index and every slice of `startup_parameter` is in bounds. -/
lemma startupParameterChecked_eq (message : Bytes) (wanted : String) :
    startupParameterChecked message wanted = .ofExcept (startupParameter message wanted) := by
  unfold startupParameterChecked startupParameter
  by_cases h : message.length < 8
  · rw [if_pos h, if_pos h]
    rfl
  · rw [if_neg h, if_neg h]
    exact startupParameterAt_eq message wanted _ (by omega) (by omega)

/-! ## The values of a key -/

/-- The values a key has, in the order of the packet. -/
def occurrences (pairs : List (String × String)) (wanted : String) : List String :=
  (pairs.filter fun pair => pair.1 = wanted).map Prod.snd

/-- What the server takes: a later occurrence overrides an earlier one. -/
def overridden (pairs : List (String × String)) (wanted : String) : Option String :=
  (occurrences pairs wanted).getLast?

lemma occurrences_cons (key value : String) (pairs : List (String × String)) (wanted : String) :
    occurrences ((key, value) :: pairs) wanted
      = if key = wanted then value :: occurrences pairs wanted else occurrences pairs wanted := by
  unfold occurrences
  by_cases h : key = wanted <;> simp [h]

lemma length_le_parameterBytes (pairs : List (String × String)) :
    pairs.length ≤ (parameterBytes pairs).length := by
  induction pairs with
  | nil => simp
  | cons pair pairs ih =>
    show _ ≤ (Serialize.cstring pair.1 ++ Serialize.cstring pair.2 ++ parameterBytes pairs).length
    unfold Serialize.cstring
    simp only [List.length_cons, List.length_append, List.length_nil]
    omega

/-- The loop stops at the first occurrence of the key. -/
lemma startupParameterFrom_pairs {pairs : List (String × String)}
    (hpairs : ∀ pair ∈ pairs, Readable pair) (wanted : String) {turns : ℕ}
    (hturns : pairs.length < turns) :
    startupParameterFrom wanted turns (parameterBytes pairs ++ [0])
      = .ok (occurrences pairs wanted).head? := by
  induction pairs generalizing turns with
  | nil =>
    cases turns with
    | zero => exact absurd hturns (Nat.not_lt_zero _)
    | succ turns => rfl
  | cons pair pairs ih =>
    obtain ⟨key, value⟩ := pair
    obtain ⟨hne, hkey, hvalue⟩ := hpairs _ List.mem_cons_self
    have hkey0 : 0 ∉ utf8 key := hkey
    have hvalue0 : 0 ∉ utf8 value := hvalue
    cases turns with
    | zero => exact absurd hturns (Nat.not_lt_zero _)
    | succ turns =>
      have hbytes : parameterBytes ((key, value) :: pairs) ++ [0]
          = utf8 key ++ 0 :: (utf8 value ++ 0 :: (parameterBytes pairs ++ [0])) := by
        show Serialize.cstring key ++ Serialize.cstring value ++ parameterBytes pairs ++ [0] = _
        unfold Serialize.cstring
        simp
      -- the key is not empty and has no NUL, so the loop does not stop at it
      obtain ⟨b, rest, hb⟩ : ∃ b rest, utf8 key = b :: rest := by
        apply List.exists_cons_of_ne_nil
        intro hnil
        exact hne (utf8_injective (hnil.trans (by decide)))
      have hhead : ¬ ((parameterBytes ((key, value) :: pairs) ++ [0]).head? = none ∨
          (parameterBytes ((key, value) :: pairs) ++ [0]).head? = some 0) := by
        rw [hbytes, hb]
        rw [hb] at hkey0
        have hb0 : b ≠ 0 := fun h => hkey0 (h ▸ List.mem_cons_self)
        simpa using hb0
      have hdropKey : (utf8 key ++ 0 :: (utf8 value ++ 0 :: (parameterBytes pairs ++ [0]))).drop
          ((utf8 key).length + 1) = utf8 value ++ 0 :: (parameterBytes pairs ++ [0]) := by
        rw [← List.drop_drop, List.drop_left]
        rfl
      have hdropValue : (utf8 value ++ 0 :: (parameterBytes pairs ++ [0])).drop
          ((utf8 value).length + 1) = parameterBytes pairs ++ [0] := by
        rw [← List.drop_drop, List.drop_left]
        rfl
      rw [startupParameterFrom, if_neg hhead, hbytes, findIdx?_nul hkey0]
      dsimp only
      rw [List.take_left, fromUtf8_utf8]
      dsimp only
      rw [hdropKey, findIdx?_nul hvalue0]
      dsimp only
      rw [List.take_left, fromUtf8_utf8, hdropValue, occurrences_cons]
      by_cases hwanted : key = wanted
      · rw [if_pos hwanted]
        simp only [hwanted, if_true, List.head?_cons]
      · simp only [hwanted, if_false]
        exact ih (fun pair hmem => hpairs pair (List.mem_cons_of_mem _ hmem))
          (by simpa using hturns)

lemma startupParameter_packetOf {header : Bytes} (hheader : header.length = 8)
    {pairs : List (String × String)} (hpairs : ∀ pair ∈ pairs, Readable pair) (wanted : String) :
    startupParameter (packetOf header pairs) wanted = .ok (occurrences pairs wanted).head? := by
  have hlen := length_le_parameterBytes pairs
  have hdrop : (packetOf header pairs).drop 8 = parameterBytes pairs ++ [0] := by
    unfold packetOf
    rw [← hheader, List.drop_left]
  have hlength : (packetOf header pairs).length = 8 + ((parameterBytes pairs).length + 1) := by
    unfold packetOf
    rw [List.length_append, List.length_append, hheader]
    rfl
  unfold startupParameter
  rw [if_neg (by omega), hdrop]
  exact startupParameterFrom_pairs hpairs wanted (by omega)

/-! ## Agreement -/

/-- A base configuration with the identity taken from a packet. -/
def StartupConfig.withIdentity (base : StartupConfig) (user database : Option String) :
    Except String StartupConfig := do
  let config :=
    { base with username := user.getD base.username, database := database.getD base.database }
  config.validate
  return config

/-- The proxy takes from a packet what the server takes from its parameters. -/
structure IdentityAgrees (message : Bytes) (pairs : List (String × String)) : Prop where
  user : startupParameter message "user" = .ok (overridden pairs "user")
  database : startupParameter message "database" = .ok (overridden pairs "database")
  config : ∀ base, startupConfigForMessage base message
    = base.withIdentity (overridden pairs "user") (overridden pairs "database")

lemma startupConfigForMessage_eq {message : Bytes} {user database : Option String}
    (huser : startupParameter message "user" = .ok user)
    (hdatabase : startupParameter message "database" = .ok database) (base : StartupConfig) :
    startupConfigForMessage base message = base.withIdentity user database := by
  unfold startupConfigForMessage StartupConfig.withIdentity
  rw [huser, hdatabase]
  cases user <;> cases database <;> rfl

/-- The two identity keys have one value each: a repeated key says the same at its ends. -/
def SameEnds (pairs : List (String × String)) (wanted : String) : Prop :=
  (occurrences pairs wanted).head? = (occurrences pairs wanted).getLast?

lemma identityAgrees_iff {header : Bytes} (hheader : header.length = 8)
    {pairs : List (String × String)} (hpairs : ∀ pair ∈ pairs, Readable pair) :
    IdentityAgrees (packetOf header pairs) pairs
      ↔ SameEnds pairs "user" ∧ SameEnds pairs "database" := by
  have huser := startupParameter_packetOf hheader hpairs "user"
  have hdatabase := startupParameter_packetOf hheader hpairs "database"
  constructor
  · intro h
    have hu := huser.symm.trans h.user
    have hd := hdatabase.symm.trans h.database
    exact ⟨Except.ok.inj hu, Except.ok.inj hd⟩
  · intro h
    have hu : startupParameter (packetOf header pairs) "user"
        = .ok (overridden pairs "user") := huser.trans (congrArg Except.ok h.1)
    have hd : startupParameter (packetOf header pairs) "database"
        = .ok (overridden pairs "database") := hdatabase.trans (congrArg Except.ok h.2)
    exact ⟨hu, hd, startupConfigForMessage_eq hu hd⟩

/-! ## The packets of this crate -/

lemma packetOf_body {version body : Bytes} {pairs : List (String × String)}
    (hbody : body = version ++ (parameterBytes pairs ++ [0])) (len : Bytes) :
    len ++ body = packetOf (len ++ version) pairs := by
  unfold packetOf
  rw [hbody, List.append_assoc]

lemma startupPacket_eq (user database : String) :
    ∃ header : Bytes, header.length = 8 ∧
      startupPacket user database = packetOf header (startupPairs user database) := by
  have hbody : startupPacketBody user database
      = i32ToBe 196608 ++ (parameterBytes (startupPairs user database) ++ [0]) := by
    unfold startupPacketBody parameterBytes Serialize.cstring
    simp only [List.append_assoc]
  exact ⟨_, rfl, packetOf_body hbody _⟩

lemma startup_eq (options : List (String × String)) :
    ∃ header : Bytes, header.length = 8 ∧
      Serialize.startup options = packetOf header (options ++ [("client_encoding", "UTF8")]) := by
  have hbody : Serialize.startupBody options
      = i16ToBe 3 ++ i16ToBe 0
        ++ (parameterBytes (options ++ [("client_encoding", "UTF8")]) ++ [0]) := by
    unfold Serialize.startupBody parameterBytes
    rw [List.flatMap_append]
    simp only [List.append_assoc, List.flatMap_cons, List.flatMap_nil, List.append_nil]
    rfl
  exact ⟨_, rfl, packetOf_body hbody _⟩

lemma sameEnds_startupPairs (user database wanted : String)
    (hwanted : wanted = "user" ∨ wanted = "database") :
    SameEnds (startupPairs user database) wanted := by
  unfold SameEnds startupPairs
  rcases hwanted with h | h <;> rw [h] <;> simp [occurrences]

lemma nulFree_user : NulFree "user" := by
  unfold NulFree
  decide

lemma readable_startupPairs {user database : String} (huser : NulFree user)
    (hdatabase : NulFree database) : ∀ pair ∈ startupPairs user database, Readable pair := by
  intro pair hmem
  unfold startupPairs at hmem
  simp only [List.mem_cons, List.not_mem_nil, or_false] at hmem
  rcases hmem with h | h | h | h | h <;> rw [h]
  · exact readable_mk (by decide) nulFree_user huser
  · exact readable_mk (by decide) (by unfold NulFree; decide) hdatabase
  · exact readable_mk (by decide) (by unfold NulFree; decide) (by unfold NulFree; decide)
  · exact readable_mk (by decide) (by unfold NulFree; decide) (by unfold NulFree; decide)
  · exact readable_mk (by decide) (by unfold NulFree; decide) (by unfold NulFree; decide)

/-- The user and the database of `startup_packet` are taken by both sides. -/
theorem startupPacket_identity {user database : String} (huser : NulFree user)
    (hdatabase : NulFree database) :
    IdentityAgrees (startupPacket user database) (startupPairs user database) := by
  obtain ⟨header, hheader, heq⟩ := startupPacket_eq user database
  rw [heq, identityAgrees_iff hheader (readable_startupPairs huser hdatabase)]
  exact ⟨sameEnds_startupPairs _ _ _ (Or.inl rfl), sameEnds_startupPairs _ _ _ (Or.inr rfl)⟩

/-- **The proxy and the server agree on the identity** exactly when a repeated `user` or
`database` has the same value at its first and at its last occurrence. Whatever the bytes,
`startup_parameter` ends without an index out of bounds. -/
theorem startupIdentity_agrees_iff {header : Bytes} (hheader : header.length = 8)
    {pairs : List (String × String)} (hpairs : ∀ pair ∈ pairs, Readable pair) :
    (∀ message wanted, startupParameterChecked message wanted
        = .ofExcept (startupParameter message wanted) ∧
      startupParameterChecked message wanted ≠ .panic) ∧
    (∀ user database, ∃ header : Bytes, header.length = 8 ∧
      startupPacket user database = packetOf header (startupPairs user database)) ∧
    (∀ options, ∃ header : Bytes, header.length = 8 ∧
      Serialize.startup options = packetOf header (options ++ [("client_encoding", "UTF8")])) ∧
    (IdentityAgrees (packetOf header pairs) pairs
      ↔ SameEnds pairs "user" ∧ SameEnds pairs "database") := by
  refine ⟨fun message wanted => ⟨startupParameterChecked_eq message wanted, ?_⟩,
    startupPacket_eq, startup_eq, identityAgrees_iff hheader hpairs⟩
  rw [startupParameterChecked_eq]
  exact Outcome.ofExcept_ne_panic _

/-- A packet that names the superuser first and somebody else last. -/
def twoUsers : List (String × String) := [("user", "postgres"), ("user", "guest")]

lemma readable_twoUsers : ∀ pair ∈ twoUsers, Readable pair := by
  intro pair hmem
  unfold twoUsers at hmem
  simp only [List.mem_cons, List.not_mem_nil, or_false] at hmem
  rcases hmem with h | h <;> rw [h]
  · exact readable_mk (by decide) nulFree_user (by unfold NulFree; decide)
  · exact readable_mk (by decide) nulFree_user (by unfold NulFree; decide)

/-- The proxy opens a session for the superuser, the server takes the other one. -/
theorem startupIdentity_twoUsers :
    startupParameter (packetOf [0, 0, 0, 34, 0, 3, 0, 0] twoUsers) "user"
        = .ok (some "postgres") ∧
      overridden twoUsers "user" = some "guest" ∧
      ¬ IdentityAgrees (packetOf [0, 0, 0, 34, 0, 3, 0, 0] twoUsers) twoUsers := by
  have htaken : startupParameter (packetOf [0, 0, 0, 34, 0, 3, 0, 0] twoUsers) "user"
      = .ok (some "postgres") := by
    rw [startupParameter_packetOf rfl readable_twoUsers]
    decide
  have hserver : overridden twoUsers "user" = some "guest" := by decide
  refine ⟨htaken, hserver, fun h => ?_⟩
  have hsame := htaken.symm.trans h.user
  rw [hserver] at hsame
  exact absurd hsame (by decide)

theorem startupIdentity_agrees_oneUser :
    IdentityAgrees (packetOf [0, 0, 0, 20, 0, 3, 0, 0] [("user", "guest")]) [("user", "guest")] :=
  (startupIdentity_agrees_iff rfl (by
    intro pair hmem
    rw [List.mem_singleton.mp hmem]
    exact readable_mk (by decide) nulFree_user (by unfold NulFree; decide))).2.2.2.mpr
      ⟨by unfold SameEnds; decide, by unfold SameEnds; decide⟩

end PgliteOxide.Pglite
