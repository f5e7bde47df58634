import PgliteOxide.Protocol.BufferReaderTheorems
import PgliteOxide.Protocol.Parser

/-!
# The formats of backend messages

What each message body looks like on the wire, as relations between message values and byte
strings, and the two ways a body can drive a decoder out of range: a negative 16-bit element
count, and a column length below `-1` that reaches back behind the start of the column.
`packetDecoder_reads` says that the decoders of `parser.rs` read exactly these formats and
panic exactly on these bodies.
-/

namespace PgliteOxide.Protocol

open Lib BufferReader

/-! ## Fields and mechanisms -/

/-- One field of an `ErrorResponse`: a one-byte type other than NUL, and a value. -/
structure FieldPairOk (p : String × String) : Prop where
  type_length : (utf8 p.1).length = 1
  type_ne : p.1 ≠ "\x00"
  value_nul : 0 ∉ utf8 p.2

/-- The bytes of one field. -/
def fieldBytes (p : String × String) : Bytes := utf8 p.1 ++ (utf8 p.2 ++ [0])

/-- Fields up to the NUL type, put in front of those already read. -/
def fieldsFormatFrom (fields : FieldMap) : Format FieldMap := fun m x =>
  ∃ pairs : List (String × String), (∀ p ∈ pairs, FieldPairOk p) ∧
    x = (pairs.map fieldBytes).flatten ++ [0] ∧ m = pairs.reverse ++ fields

def fieldsFormat : Format FieldMap := fieldsFormatFrom []

/-- Non-empty mechanism names up to the empty one. -/
def mechanismsFormat : Format (List String) := fun ms x =>
  (∀ m ∈ ms, m ≠ "" ∧ 0 ∉ utf8 m) ∧ x = (ms.map fun m => utf8 m ++ [0]).flatten ++ [0]

/-! ## Counted bodies -/

/-- An element count the decoders can use. -/
def countFormat : Format Int16 := fun count x => x = i16ToBe count ∧ 0 ≤ count.toInt

/-- A count followed by that many elements. -/
def countedFormat {α : Type} (F : Format α) : Format (List α) := do
  let count ← countFormat
  F.times count.toInt.toNat

/-- A column: length `-1` for `NULL`, or a length and that many bytes of text. -/
def columnFormat : Format (Option String)
  | none, x => x = i32ToBe (-1)
  | some s, x => ∃ len : Int32, 0 ≤ len.toInt ∧ (utf8 s).length = len.toInt.toNat ∧
    x = i32ToBe len ++ utf8 s

def fieldFormat : Format Field := do
  let name ← cstringFormat
  let tableId ← int32Format
  let columnId ← int16Format
  let dataTypeId ← int32Format
  let dataTypeSize ← int16Format
  let dataTypeModifier ← int32Format
  let mode ← int16Format
  pure { name, tableId, columnId, dataTypeId, dataTypeSize, dataTypeModifier,
         format := (Mode.tryFrom mode).getD .text }

/-! ## Message bodies -/

def readyForQueryFormat (length : ℕ) : Format BackendMessage := do
  let status ← stringFormat 1
  pure (.readyForQuery { length, status := (utf8 status).headD 0 })

def commandCompleteFormat (length : ℕ) : Format BackendMessage := do
  let text ← cstringFormat
  pure (.commandComplete { length, text })

def copyFormat (length : ℕ) (name : MessageName) : Format BackendMessage := do
  let flag ← byteFormat
  let columnTypes ← countedFormat int16Format
  pure (.copyResponse { length, name, binary := flag ≠ 0, columnTypes })

def notificationFormat (length : ℕ) : Format BackendMessage := do
  let processId ← int32Format
  let channel ← cstringFormat
  let payload ← cstringFormat
  pure (.notification { length, processId, channel, payload })

def rowDescriptionFormat (length : ℕ) : Format BackendMessage := do
  let fields ← countedFormat fieldFormat
  pure (.rowDescription { length, fields })

def parameterDescriptionFormat (length : ℕ) : Format BackendMessage := do
  let dataTypeIds ← countedFormat int32Format
  pure (.parameterDescription { length, dataTypeIds })

def dataRowFormat (length : ℕ) : Format BackendMessage := do
  let fields ← countedFormat columnFormat
  pure (.dataRow { length, fields })

def parameterStatusFormat (length : ℕ) : Format BackendMessage := do
  let parameterName ← cstringFormat
  let parameterValue ← cstringFormat
  pure (.parameterStatus { length, parameterName, parameterValue })

def backendKeyDataFormat (length : ℕ) : Format BackendMessage := do
  let processId ← int32Format
  let secretKey ← int32Format
  pure (.backendKeyData { length, processId, secretKey })

def authenticationFormat (length : ℕ) : Format BackendMessage := do
  let code ← int32Format
  if code = 0 then
    pure (.authentication (.ok length))
  else if code = 3 then
    pure (.authentication (.cleartext length))
  else if code = 5 then
    let salt ← bytesFormat 4
    pure (.authentication (.md5 length salt))
  else if code = 10 then
    let mechanisms ← mechanismsFormat
    pure (.authentication (.sasl length mechanisms))
  else if code = 11 then
    let data ← stringFormat (length - 8)
    pure (.authentication (.saslContinue length data))
  else if code = 12 then
    let data ← stringFormat (length - 8)
    pure (.authentication (.saslFinal length data))
  else
    Format.none

def errorFormat (length : ℕ) : Format BackendMessage := do
  let fields ← fieldsFormat
  pure (.error { length, message := (fields.get "M").getD "", fields := .applyFields fields })

def noticeFormat (length : ℕ) : Format BackendMessage := do
  let fields ← fieldsFormat
  pure (.notice { length, message := fields.get "M", fields := .applyFields fields })

/-- The format of a body, by its code. -/
def packetFormat (code : UInt8) (bytes : Bytes) (length : ℕ) : Format BackendMessage :=
  match code with
  | codeBindComplete => pure (.bindComplete 5)
  | codeParseComplete => pure (.parseComplete 5)
  | codeCloseComplete => pure (.closeComplete 5)
  | codeNoData => pure (.noData 5)
  | codePortalSuspended => pure (.portalSuspended 5)
  | codeCopyDone => pure (.copyDone 4)
  | codeReplicationStart => pure (.replicationStart 4)
  | codeEmptyQuery => pure (.emptyQuery 4)
  | codeCommandComplete => commandCompleteFormat length
  | codeReadyForQuery => readyForQueryFormat length
  | codeDataRow => dataRowFormat length
  | codeNotificationResponse => notificationFormat length
  | codeParameterStatus => parameterStatusFormat length
  | codeBackendKeyData => backendKeyDataFormat length
  | codeError => errorFormat length
  | codeNotice => noticeFormat length
  | codeRowDescription => rowDescriptionFormat length
  | codeParameterDescription => parameterDescriptionFormat length
  | codeCopyIn => copyFormat length .copyInResponse
  | codeCopyOut => copyFormat length .copyOutResponse
  | codeCopyData => pure (.copyData { length, chunk := bytes })
  | codeAuthentication => authenticationFormat length
  | _ => Format.none

/-! ## Hazardous bodies -/

/-- A negative element count. -/
def countHazard : Hazard := fun _ b => ∃ count tail, b = i16ToBe count ++ tail ∧ count.toInt < 0

/-- A column length below `-1` that does not reach further back than the column's value is
from the start of the body. -/
def columnHazard : Hazard := fun offset b =>
  ∃ len tail, b = i32ToBe len ++ tail ∧ len.toInt < -1 ∧ -len.toInt ≤ ((offset + 4 : ℕ) : Int)

/-- A hazardous column behind readable ones. -/
def columnsHazard : Hazard :=
  Hazard.bind countFormat .never fun count => columnHazard.times columnFormat count.toInt.toNat

def dataRowHazard : Hazard := fun offset b => countHazard offset b ∨ columnsHazard offset b

/-- The format byte of a COPY response stands in front of its count. -/
def copyHazard : Hazard := fun offset b => ∃ flag tail, b = flag :: tail ∧ countHazard offset tail

/-- The bodies a decoder cannot read without leaving its range, by code. -/
def packetHazard (code : UInt8) : Hazard :=
  match code with
  | codeDataRow => dataRowHazard
  | codeRowDescription => countHazard
  | codeParameterDescription => countHazard
  | codeCopyIn => copyHazard
  | codeCopyOut => copyHazard
  | _ => .never

/-! ## Counted bodies are read -/

/-- `Vec::with_capacity` of a cast count: a negative count overflows the capacity. -/
lemma reads_capacity {size : ℕ} (hpos : 1 < size) (hsize : size ≤ 48) (count : Int16) :
    Reads (Decode.lift (withCapacity size (i16AsUsize count)))
      (fun _ _ => count.toInt < 0) (fun _ x => 0 ≤ count.toInt ∧ x = []) := by
  intro build r _
  have hlt := count.toInt_lt
  refine ⟨?_, ?_, ?_⟩
  · rintro _ x tail ⟨hcount, rfl⟩ _
    have hle : i16AsUsize count * size ≤ isizeMax := by
      rw [i16AsUsize_of_nonneg hcount]
      calc count.toInt.toNat * size ≤ 2 ^ 15 * 48 := Nat.mul_le_mul (by omega) hsize
        _ ≤ isizeMax := by decide
    rw [Decode.lift_apply, withCapacity_of_le hle]
    rfl
  · intro hcount hs
    exact absurd ⟨(), [], r.rest, ⟨by omega, rfl⟩, rfl⟩ hs
  · intro hcount
    have hgt : isizeMax < i16AsUsize count * size := by
      calc isizeMax < (2 ^ 64 - 2 ^ 15) * 1 := by decide
        _ ≤ i16AsUsize count * size :=
          Nat.mul_le_mul (i16AsUsize_of_neg hcount) (by omega)
    rw [Decode.lift_apply, withCapacity_of_gt hgt, Outcome.panic_bind]

/-- Reading a count, reserving the vector and reading the elements. -/
lemma reads_counted {α : Type} {d : Decode α} {H : Hazard} {F : Format α} (hd : Reads d H F)
    (size : ℕ) (hpos : 1 < size) (hsize : size ≤ 48) :
    Reads (do
        let count ← int16
        Decode.lift (withCapacity size (i16AsUsize count))
        Decode.times d (i16AsUsize count))
      (fun offset b => countHazard offset b ∨
        Hazard.bind countFormat .never (fun count => H.times F count.toInt.toNat) offset b)
      (countedFormat F) := by
  have hread := reads_int16.bind fun count =>
    (reads_capacity hpos hsize count).bind fun _ => hd.times (i16AsUsize count)
  refine hread.congr ?_ ?_
  · intro offset b
    constructor
    · rintro (⟨count, tail, rfl, hneg⟩ | ⟨h⟩ | ⟨count, x, tail, ⟨rfl, hcount⟩, rfl, hh⟩)
      · exact .inr ⟨count, _, tail, rfl, rfl, .inl hneg⟩
      · exact absurd h id
      · refine .inr ⟨count, _, tail, rfl, rfl, .inr ⟨(), [], tail, ⟨hcount, rfl⟩, rfl, ?_⟩⟩
        rwa [i16AsUsize_of_nonneg hcount]
    · rintro (h | ⟨count, x, tail, rfl, rfl, hneg | ⟨_, _, _, ⟨hcount, rfl⟩, rfl, hh⟩⟩)
      · exact absurd h id
      · exact .inl ⟨count, tail, rfl, hneg⟩
      · refine .inr (.inr ⟨count, _, _, ⟨rfl, hcount⟩, rfl, ?_⟩)
        rwa [i16AsUsize_of_nonneg hcount] at hh
  · intro as z
    constructor
    · rintro ⟨count, x, y, ⟨rfl, hcount⟩, hy, rfl⟩
      refine ⟨count, _, y, rfl, ⟨(), [], y, ⟨hcount, rfl⟩, ?_, rfl⟩, rfl⟩
      rwa [i16AsUsize_of_nonneg hcount]
    · rintro ⟨count, x, y, rfl, ⟨_, _, _, ⟨hcount, rfl⟩, hy, rfl⟩, rfl⟩
      refine ⟨count, _, _, ⟨rfl, hcount⟩, ?_, rfl⟩
      rwa [i16AsUsize_of_nonneg hcount] at hy

/-- A count is the only hazard of elements that are read without one. -/
lemma reads_countedSafe {α : Type} {d : Decode α} {F : Format α} (hd : Reads d .never F)
    {size : ℕ} (hpos : 1 < size) (hsize : size ≤ 48) :
    Reads (do
        let count ← int16
        Decode.lift (withCapacity size (i16AsUsize count))
        Decode.times d (i16AsUsize count))
      countHazard (countedFormat F) := by
  refine (reads_counted hd _ hpos hsize).congr (fun offset b => ?_) fun _ _ => Iff.rfl
  constructor
  · exact .inl
  · rintro (h | h | ⟨_, _, _, _, _, h⟩)
    · exact h
    · exact absurd h id
    · exact absurd h (Hazard.times_never F _ _ _)

/-- A last step that only builds the message keeps hazard and format. -/
lemma Reads.map {α β : Type} {d : Decode α} {H : Hazard} {F : Format α} (hd : Reads d H F)
    (f : α → β) : Reads (do let a ← d; pure (f a)) H (do let a ← F; pure (f a)) := by
  refine (hd.bind fun a => reads_pure (f a)).congr (fun offset b => ?_) fun _ _ => Iff.rfl
  simp only [Hazard.bind, Hazard.never, and_false, exists_false, or_false]

/-! ## Columns -/

/-- `string` with a cast negative length: out of range when it overflows past the cursor, an
underflow otherwise. -/
lemma reads_string_neg {len : Int32} (hlen : len.toInt < -1) :
    Reads (string (i32AsUsize len)) (fun offset _ => -len.toInt ≤ (offset : Int)) .none := by
  intro build r hr
  have hcast := i32AsUsize_of_neg (v := len) (by omega)
  have hle := len.le_toInt
  have hoff := hr.offset_le
  have hbuf := hr.length_lt
  refine ⟨fun _ _ _ h => absurd h id, ?_, ?_⟩
  · intro hh _
    obtain ⟨e, he⟩ := takeSlice_err build (n := i32AsUsize len) hr (by rw [length_rest]; omega)
      (by rw [usizeBound]; omega)
    exact ⟨e, by rw [string, Decode.bind_apply, he, Outcome.err_bind]⟩
  · intro hh
    have hpanic := takeSlice_panic build (n := i32AsUsize len) hr (by rw [usizeBound]; omega)
      (by rw [usizeBound]; omega)
    rw [string, Decode.bind_apply, hpanic, Outcome.panic_bind]

/-- The format behind a column's length. -/
def columnValueFormat (len : Int32) : Format (Option String) :=
  if len = -1 then pure none
  else if 0 ≤ len.toInt then do
    let value ← stringFormat len.toInt.toNat
    pure (some value)
  else Format.none

lemma columnFormat_iff (c : Option String) (x : Bytes) :
    columnFormat c x ↔ (int32Format >>= columnValueFormat) c x := by
  constructor
  · intro h
    cases c with
    | none => exact ⟨-1, x, [], h, ⟨rfl, rfl⟩, (List.append_nil x).symm⟩
    | some s =>
      obtain ⟨len, hlen, hs, rfl⟩ := h
      refine Format.bind_intro (a := len) rfl ?_
      have hne : len ≠ -1 := by
        rintro rfl
        exact absurd hlen (by decide)
      rw [columnValueFormat, if_neg hne, if_pos hlen]
      exact Format.bind_pure_intro ⟨rfl, hs⟩
  · rintro ⟨len, _, y, rfl, hy, rfl⟩
    rw [columnValueFormat] at hy
    by_cases hnull : len = -1
    · rw [if_pos hnull] at hy
      obtain ⟨rfl, rfl⟩ := hy
      rw [List.append_nil, hnull]
      rfl
    · rw [if_neg hnull] at hy
      by_cases hlen : 0 ≤ len.toInt
      · rw [if_pos hlen] at hy
        obtain ⟨s, _, _, ⟨rfl, hs⟩, ⟨rfl, rfl⟩, rfl⟩ := hy
        rw [List.append_nil]
        exact ⟨len, hlen, hs, rfl⟩
      · rw [if_neg hlen] at hy
        exact absurd hy id

lemma reads_column : Reads parseColumn columnHazard columnFormat := by
  have hvalue : ∀ len, Reads (if len = -1 then pure none else do
        let value ← string (i32AsUsize len)
        pure (some value) : Decode (Option String))
      (fun offset _ => len.toInt < -1 ∧ -len.toInt ≤ (offset : Int)) (columnValueFormat len) := by
    intro len
    have hlt := len.toInt_lt
    rw [columnValueFormat]
    by_cases hnull : len = -1
    · have hint : len.toInt = -1 := by rw [hnull]; rfl
      rw [if_pos hnull, if_pos hnull]
      exact (reads_pure none).congr (fun _ _ => iff_of_false (by omega) id) fun _ _ => Iff.rfl
    · have hint : len.toInt ≠ -1 := fun h => hnull (Int32.toInt_inj.mp h)
      rw [if_neg hnull, if_neg hnull]
      by_cases hlen : 0 ≤ len.toInt
      · rw [if_pos hlen, i32AsUsize_of_nonneg hlen]
        exact ((reads_string (by omega)).map some).congr
          (fun _ _ => iff_of_false (by omega) id) fun _ _ => Iff.rfl
      · rw [if_neg hlen]
        refine ((reads_string_neg (by omega)).map some).congr ?_ ?_
        · exact fun _ _ => and_iff_right (by omega)
        · exact fun _ _ => iff_of_false id fun ⟨_, _, _, h, _⟩ => h
  refine (reads_int32.bind hvalue).congr ?_ columnFormat_iff
  intro offset b
  constructor
  · rintro ⟨len, tail, rfl, hh⟩
    exact .inr ⟨len, _, tail, rfl, rfl, hh⟩
  · rintro (h | ⟨len, _, tail, rfl, rfl, hh⟩)
    · exact absurd h id
    · exact ⟨len, tail, rfl, hh⟩

/-! ## Loops that read up to a terminator -/

/-- The NUL character is the NUL byte. -/
lemma utf8_nul : utf8 "\x00" = [0] := by decide

/-- One turn of the field loop. -/
lemma fieldsFormatFrom_iff (fields m : FieldMap) (x : Bytes) :
    fieldsFormatFrom fields m x ↔ (do
      let fieldType ← stringFormat 1
      if fieldType = "\x00" then pure fields
      else do
        let value ← cstringFormat
        fieldsFormatFrom (fields.insert fieldType value) : Format FieldMap) m x := by
  constructor
  · rintro ⟨pairs, hpairs, rfl, rfl⟩
    cases pairs with
    | nil =>
      refine Format.bind_intro (a := "\x00") (x := [0]) (y := [])
        ⟨utf8_nul.symm, congrArg List.length utf8_nul⟩ ?_
      rw [if_pos rfl]
      exact ⟨rfl, rfl⟩
    | cons p pairs =>
      obtain ⟨htype, hne, hnul⟩ := hpairs p List.mem_cons_self
      rw [List.map_cons, List.flatten_cons, fieldBytes, List.append_assoc, List.append_assoc]
      refine Format.bind_intro ⟨rfl, htype⟩ ?_
      rw [if_neg hne]
      refine Format.bind_intro ⟨rfl, hnul⟩ ?_
      refine ⟨pairs, fun q hq => hpairs q (List.mem_cons_of_mem _ hq), rfl, ?_⟩
      rw [List.reverse_cons, List.append_assoc]
      rfl
  · rintro ⟨fieldType, _, y, ⟨rfl, htype⟩, hy, rfl⟩
    by_cases hne : fieldType = "\x00"
    · rw [if_pos hne] at hy
      obtain ⟨rfl, rfl⟩ := hy
      exact ⟨[], by simp, by rw [hne, utf8_nul]; rfl, rfl⟩
    · rw [if_neg hne] at hy
      obtain ⟨value, _, z, ⟨rfl, hnul⟩, ⟨pairs, hpairs, rfl, rfl⟩, rfl⟩ := hy
      refine ⟨(fieldType, value) :: pairs, ?_, ?_, ?_⟩
      · intro p hp
        rcases List.mem_cons.mp hp with rfl | hp
        · exact ⟨htype, hne, hnul⟩
        · exact hpairs p hp
      · simp only [List.map_cons, List.flatten_cons, fieldBytes, List.append_assoc]
      · rw [List.reverse_cons, List.append_assoc]
        rfl

/-- The rounds left always exceed the bytes left, so the loop ends by itself. -/
lemma collectFieldsFrom_readsAt (rounds : ℕ) (fields : FieldMap) (build : Build) {r : BufferReader}
    (hr : r.Valid) (hrounds : r.rest.length < rounds) :
    ReadsAt (collectFieldsFrom rounds fields) .never (fieldsFormatFrom fields) build r := by
  induction rounds generalizing fields r with
  | zero => omega
  | succ rounds ih =>
    have hturn : ReadsAt (collectFieldsFrom (rounds + 1) fields)
        (Hazard.bind (stringFormat 1) .never fun _ => .never) (do
          let fieldType ← stringFormat 1
          if fieldType = "\x00" then pure fields
          else do
            let value ← cstringFormat
            fieldsFormatFrom (fields.insert fieldType value)) build r := by
      refine ReadsAt.bind hr (reads_string (by omega) build r hr) ?_
      rintro fieldType _ tail ⟨rfl, htype⟩ hrest hr'
      by_cases hne : fieldType = "\x00"
      · rw [if_pos hne, if_pos hne]
        exact reads_pure fields build _ hr'
      · rw [if_neg hne, if_neg hne]
        refine ReadsAt.congr (ReadsAt.bind hr' (reads_cstring build _ hr') ?_)
          (fun _ _ => iff_of_false id (Hazard.bind_never_never _ _ _)) fun _ _ => Iff.rfl
        rintro value _ tail' ⟨rfl, _⟩ hrest' hr''
        refine ih _ hr'' ?_
        rw [rest_advance hrest'] at *
        rw [rest_advance hrest] at hrest'
        rw [hrest, hrest', List.length_append, List.length_append] at hrounds
        omega
    exact hturn.congr (fun _ _ => iff_of_false id (Hazard.bind_never_never _ _ _))
      (fieldsFormatFrom_iff fields)

lemma reads_collectFields : Reads collectFields .never fieldsFormat := by
  intro build r hr
  have hlen := length_rest r
  have hloop := collectFieldsFrom_readsAt (r.buffer.length + 1) [] build hr (by omega)
  exact ⟨hloop.accept, hloop.reject, hloop.panic⟩

/-- One turn of the mechanism loop. -/
lemma mechanismsFormat_iff (ms : List String) (x : Bytes) :
    mechanismsFormat ms x ↔ (do
      let mechanism ← cstringFormat
      if mechanism.isEmpty then pure []
      else do
        let rest ← mechanismsFormat
        pure (mechanism :: rest) : Format (List String)) ms x := by
  constructor
  · rintro ⟨hms, rfl⟩
    cases ms with
    | nil =>
      refine Format.bind_intro (a := "") (x := [0]) (y := []) ⟨rfl, List.not_mem_nil⟩ ?_
      rw [if_pos (by decide)]
      exact ⟨rfl, rfl⟩
    | cons m ms =>
      obtain ⟨hne, hnul⟩ := hms m List.mem_cons_self
      rw [List.map_cons, List.flatten_cons, List.append_assoc]
      refine Format.bind_intro ⟨rfl, hnul⟩ ?_
      rw [if_neg (by rwa [String.isEmpty_iff])]
      exact Format.bind_pure_intro ⟨fun m' hm' => hms m' (List.mem_cons_of_mem _ hm'), rfl⟩
  · rintro ⟨mechanism, _, y, ⟨rfl, hnul⟩, hy, rfl⟩
    by_cases hempty : mechanism.isEmpty
    · rw [if_pos hempty] at hy
      obtain ⟨rfl, rfl⟩ := hy
      rw [String.isEmpty_iff] at hempty
      exact ⟨by simp, by rw [hempty]; rfl⟩
    · rw [if_neg hempty] at hy
      obtain ⟨rest, z, _, ⟨hrest, rfl⟩, ⟨rfl, rfl⟩, rfl⟩ := hy
      rw [String.isEmpty_iff] at hempty
      refine ⟨?_, ?_⟩
      · intro m hm
        rcases List.mem_cons.mp hm with rfl | hm
        · exact ⟨hempty, hnul⟩
        · exact hrest m hm
      · simp only [List.map_cons, List.flatten_cons, List.append_nil, List.append_assoc]

lemma saslMechanismsFrom_readsAt (rounds : ℕ) (build : Build) {r : BufferReader} (hr : r.Valid)
    (hrounds : r.rest.length < rounds) :
    ReadsAt (saslMechanismsFrom rounds) .never mechanismsFormat build r := by
  induction rounds generalizing r with
  | zero => omega
  | succ rounds ih =>
    have hturn : ReadsAt (saslMechanismsFrom (rounds + 1))
        (Hazard.bind cstringFormat .never fun _ => .never) (do
          let mechanism ← cstringFormat
          if mechanism.isEmpty then pure []
          else do
            let rest ← mechanismsFormat
            pure (mechanism :: rest)) build r := by
      refine ReadsAt.bind hr (reads_cstring build r hr) ?_
      rintro mechanism _ tail ⟨rfl, _⟩ hrest hr'
      by_cases hempty : mechanism.isEmpty
      · rw [if_pos hempty, if_pos hempty]
        exact reads_pure [] build _ hr'
      · rw [if_neg hempty, if_neg hempty]
        have htail := ih hr' (by
          rw [rest_advance hrest]
          rw [hrest, List.length_append, List.length_append, List.length_singleton] at hrounds
          omega)
        exact (htail.bind hr' fun ms _ _ _ _ hr'' => reads_pure (mechanism :: ms) build _ hr'').congr
          (fun _ _ => iff_of_false id (Hazard.bind_never_never _ _ _)) fun _ _ => Iff.rfl
    exact hturn.congr (fun _ _ => iff_of_false id (Hazard.bind_never_never _ _ _))
      mechanismsFormat_iff

lemma reads_saslMechanisms : Reads saslMechanisms .never mechanismsFormat := by
  intro build r hr
  have hlen := length_rest r
  have hloop := saslMechanismsFrom_readsAt (r.buffer.length + 1) build hr (by omega)
  exact ⟨hloop.accept, hloop.reject, hloop.panic⟩

/-! ## Message bodies are read -/

lemma reads_field : Reads parseField .never fieldFormat :=
  reads_cstring.bindSafe fun _ => reads_int32.bindSafe fun _ => reads_int16.bindSafe fun _ =>
    reads_int32.bindSafe fun _ => reads_int16.bindSafe fun _ => reads_int32.bindSafe fun _ =>
      reads_int16.bindSafe fun _ => reads_pure _

/-- The status of `ReadyForQuery` is one byte long by construction, so the check behind it
never fires. -/
lemma reads_readyForQuery (length : ℕ) :
    Reads (parseReadyForQuery length) .never (readyForQueryFormat length) := by
  intro build r hr
  refine ReadsAt.congr (ReadsAt.bind (K := fun _ => .never) hr (reads_string (by omega) build r hr)
    ?_) (fun _ _ => iff_of_false id (Hazard.bind_never_never _ _ _)) fun _ _ => Iff.rfl
  rintro status _ tail ⟨rfl, hlen⟩ _ hr'
  rw [if_pos hlen]
  obtain ⟨b, hb⟩ := List.length_eq_one_iff.mp hlen
  rw [hb] at hr' ⊢
  exact reads_pure (BackendMessage.readyForQuery { length, status := b }) build _ hr'

lemma reads_commandComplete (length : ℕ) :
    Reads (parseCommandComplete length) .never (commandCompleteFormat length) :=
  reads_cstring.map _

lemma reads_notification (length : ℕ) :
    Reads (parseNotification length) .never (notificationFormat length) :=
  reads_int32.bindSafe fun _ => reads_cstring.bindSafe fun _ => reads_cstring.map _

lemma reads_parameterStatus (length : ℕ) :
    Reads (parseParameterStatus length) .never (parameterStatusFormat length) :=
  reads_cstring.bindSafe fun _ => reads_cstring.map _

lemma reads_backendKeyData (length : ℕ) :
    Reads (parseBackendKeyData length) .never (backendKeyDataFormat length) :=
  reads_int32.bindSafe fun _ => reads_int32.map _

lemma reads_errorMessage (length : ℕ) :
    Reads (parseErrorMessage length) .never (errorFormat length) := reads_collectFields.map _

lemma reads_noticeMessage (length : ℕ) :
    Reads (parseNoticeMessage length) .never (noticeFormat length) := reads_collectFields.map _

lemma reads_authentication {length : ℕ} (hlen : length < 2 ^ 32) :
    Reads (parseAuthentication length) .never (authenticationFormat length) := by
  refine reads_int32.bindSafe fun code => ?_
  have hdata : length - 8 < 2 ^ 32 := by omega
  split_ifs
  · exact reads_pure _
  · exact reads_pure _
  · exact (reads_takeSlice (by omega)).map _
  · exact reads_saslMechanisms.map _
  · exact (reads_string hdata).map _
  · exact (reads_string hdata).map _
  · exact reads_fail _

/-! Reading the count and the elements in one go is what the source's loops do. -/

lemma Decode.bind_assoc {α β γ : Type} (x : Decode α) (f : α → Decode β) (g : β → Decode γ) :
    (x >>= f) >>= g = x >>= fun a => f a >>= g := by
  funext build r
  simp only [Decode.bind_apply]
  cases x build r <;> rfl

/-- Reading a counted body and building the message from its elements. -/
lemma reads_countedMap {α : Type} {d : Decode α} {F : Format α} (hd : Reads d .never F)
    {size : ℕ} (hpos : 1 < size) (hsize : size ≤ 48) (f : List α → BackendMessage) :
    Reads (do
        let count ← int16
        Decode.lift (withCapacity size (i16AsUsize count))
        let as ← Decode.times d (i16AsUsize count)
        pure (f as))
      countHazard (do let as ← countedFormat F; pure (f as)) := by
  have h := (reads_countedSafe hd hpos hsize).map f
  simp only [Decode.bind_assoc] at h
  exact h

lemma reads_rowDescription (length : ℕ) :
    Reads (parseRowDescription length) countHazard (rowDescriptionFormat length) :=
  reads_countedMap reads_field (by omega) (by omega) _

lemma reads_parameterDescription (length : ℕ) :
    Reads (parseParameterDescription length) countHazard (parameterDescriptionFormat length) :=
  reads_countedMap reads_int32 (by omega) (by omega) _

lemma reads_copyMessage (length : ℕ) (name : MessageName) :
    Reads (parseCopyMessage length name) copyHazard (copyFormat length name) := by
  refine (reads_byte.bind fun flag => reads_countedMap reads_int16 (by omega) (by omega) _).congr
    ?_ fun _ _ => Iff.rfl
  intro offset b
  constructor
  · rintro ⟨flag, tail, rfl, hh⟩
    exact .inr ⟨flag, [flag], tail, rfl, rfl, hh⟩
  · rintro (h | ⟨flag, _, tail, rfl, rfl, hh⟩)
    · exact absurd h id
    · exact ⟨flag, tail, rfl, hh⟩

lemma reads_dataRow (length : ℕ) :
    Reads (parseDataRow length) dataRowHazard (dataRowFormat length) := by
  have h := (reads_counted reads_column 24 (by omega) (by omega)).map
    fun fields => BackendMessage.dataRow { length, fields }
  simp only [Decode.bind_assoc] at h
  exact h

/-- `parse_copy_data` takes the whole body it is given. -/
lemma reads_copyData {length : ℕ} {bytes : Bytes} (hlen : bytes.length = length - 4) :
    Reads (parseCopyData length bytes) .never (pure (.copyData { length, chunk := bytes })) := by
  have hslice : (slice bytes 0 (length - 4) : Outcome Error Bytes) = .ok bytes := by
    rw [slice_of_le _ (by omega) (by omega), List.drop_zero, ← hlen, List.take_length]
  rw [parseCopyData, hslice]
  exact reads_pure (BackendMessage.copyData { length, chunk := bytes })

/-- **The decoders read the formats of the protocol**, and panic exactly on hazardous bodies. -/
theorem packetDecoder_reads {length : ℕ} {bytes : Bytes} (hlt : length < 2 ^ 32)
    (hlen : bytes.length = length - 4) (code : UInt8) :
    Reads (packetDecoder code bytes length) (packetHazard code)
      (packetFormat code bytes length) := by
  unfold packetDecoder packetHazard packetFormat
  split
  · exact reads_pure _
  · exact reads_pure _
  · exact reads_pure _
  · exact reads_pure _
  · exact reads_pure _
  · exact reads_pure _
  · exact reads_pure _
  · exact reads_pure _
  · exact reads_commandComplete length
  · exact reads_readyForQuery length
  · exact reads_dataRow length
  · exact reads_notification length
  · exact reads_parameterStatus length
  · exact reads_backendKeyData length
  · exact reads_errorMessage length
  · exact reads_noticeMessage length
  · exact reads_rowDescription length
  · exact reads_parameterDescription length
  · exact reads_copyMessage length _
  · exact reads_copyMessage length _
  · exact reads_copyData hlen
  · exact reads_authentication hlt
  · -- no other code has a hazard or a format
    repeat (split <;> try contradiction)
    exact reads_fail _

end PgliteOxide.Protocol
