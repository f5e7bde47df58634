import PgliteOxide.Protocol.Feed

/-!
# Round trips

`WireMessage` is a backend message as a server sends it, `encode` its bytes (the encoders of
`protocol/tests.rs`, for arbitrary values) and `message` what a client should be told. Parsing
a concatenation of encodings gives the messages back exactly when no element count needs the
sixteenth bit: `parse_encode_iff`.
-/

namespace PgliteOxide.Protocol

open Lib BufferReader

/-- The backend messages `handle_packet` knows. Fields of an error or a notice are a type
character and a value. -/
inductive WireMessage where
  | parseComplete
  | bindComplete
  | closeComplete
  | noData
  | portalSuspended
  | copyDone
  | replicationStart
  | emptyQuery
  | readyForQuery (status : Char)
  | commandComplete (text : String)
  | dataRow (columns : List (Option String))
  | rowDescription (fields : List Field)
  | parameterDescription (dataTypeIds : List Int32)
  | parameterStatus (name value : String)
  | backendKeyData (processId secretKey : Int32)
  | notification (processId : Int32) (channel payload : String)
  | copyResponse (name : MessageName) (binary : Bool) (columnTypes : List Int16)
  | copyData (chunk : Bytes)
  | authenticationOk
  | authenticationCleartextPassword
  | authenticationMd5Password (salt : Bytes)
  | authenticationSasl (mechanisms : List String)
  | authenticationSaslContinue (data : String)
  | authenticationSaslFinal (data : String)
  | error (fields : List (Char × String))
  | notice (fields : List (Char × String))

namespace WireMessage

/-! ## Encoding -/

/-- `add_cstring`. -/
def cstringBytes (s : String) : Bytes := utf8 s ++ [0]

/-- `add_int16(xs.len() as i16)` and the elements. -/
def countedBytes {α : Type} (enc : α → Bytes) (xs : List α) : Bytes :=
  i16ToBe (Int16.ofNat xs.length) ++ (xs.map enc).flatten

def columnBytes : Option String → Bytes
  | none => i32ToBe (-1)
  | some s => i32ToBe (Int32.ofNat (utf8 s).length) ++ utf8 s

def rowFieldBytes (f : Field) : Bytes :=
  cstringBytes f.name ++ (i32ToBe f.tableId ++ (i16ToBe f.columnId ++ (i32ToBe f.dataTypeId ++
    (i16ToBe f.dataTypeSize ++ (i32ToBe f.dataTypeModifier ++ i16ToBe f.format.asI16)))))

/-- `error_or_notice`. -/
def errorOrNoticeBytes (fields : List (Char × String)) : Bytes :=
  (fields.map fun p => UInt8.ofNat p.1.toNat :: cstringBytes p.2).flatten ++ [0]

def code : WireMessage → UInt8
  | parseComplete => codeParseComplete
  | bindComplete => codeBindComplete
  | closeComplete => codeCloseComplete
  | noData => codeNoData
  | portalSuspended => codePortalSuspended
  | copyDone => codeCopyDone
  | replicationStart => codeReplicationStart
  | emptyQuery => codeEmptyQuery
  | readyForQuery _ => codeReadyForQuery
  | commandComplete _ => codeCommandComplete
  | dataRow _ => codeDataRow
  | rowDescription _ => codeRowDescription
  | parameterDescription _ => codeParameterDescription
  | parameterStatus _ _ => codeParameterStatus
  | backendKeyData _ _ => codeBackendKeyData
  | notification _ _ _ => codeNotificationResponse
  | copyResponse .copyInResponse _ _ => codeCopyIn
  | copyResponse .copyOutResponse _ _ => codeCopyOut
  | copyData _ => codeCopyData
  | authenticationOk | authenticationCleartextPassword | authenticationMd5Password _
  | authenticationSasl _ | authenticationSaslContinue _ | authenticationSaslFinal _ =>
    codeAuthentication
  | error _ => codeError
  | notice _ => codeNotice

def body : WireMessage → Bytes
  | parseComplete | bindComplete | closeComplete | noData | portalSuspended | copyDone
  | replicationStart | emptyQuery => []
  | readyForQuery status => [UInt8.ofNat status.toNat]
  | commandComplete text => cstringBytes text
  | dataRow columns => countedBytes columnBytes columns
  | rowDescription fields => countedBytes rowFieldBytes fields
  | parameterDescription dataTypeIds => countedBytes i32ToBe dataTypeIds
  | parameterStatus name value => cstringBytes name ++ cstringBytes value
  | backendKeyData processId secretKey => i32ToBe processId ++ i32ToBe secretKey
  | notification processId channel payload =>
    i32ToBe processId ++ (cstringBytes channel ++ cstringBytes payload)
  | copyResponse _ binary columnTypes =>
    (if binary then 1 else 0) :: countedBytes i16ToBe columnTypes
  | copyData chunk => chunk
  | authenticationOk => i32ToBe 0
  | authenticationCleartextPassword => i32ToBe 3
  | authenticationMd5Password salt => i32ToBe 5 ++ salt
  | authenticationSasl mechanisms =>
    i32ToBe 10 ++ ((mechanisms.map cstringBytes).flatten ++ cstringBytes "")
  | authenticationSaslContinue data => i32ToBe 11 ++ utf8 data
  | authenticationSaslFinal data => i32ToBe 12 ++ utf8 data
  | error fields => errorOrNoticeBytes fields
  | notice fields => errorOrNoticeBytes fields

/-- The length field: it counts itself and the body. -/
def length (w : WireMessage) : ℕ := w.body.length + 4

/-- `BufferList::join`. -/
def encode (w : WireMessage) : Bytes := w.code :: (i32ToBe (Int32.ofNat w.length) ++ w.body)

/-! ## What the client should be told -/

/-- The value sent last for a field type. -/
def fieldValue (fields : List (Char × String)) (fieldType : Char) : Option String :=
  fields.reverse.lookup fieldType

def noticeOrErrorFields (fields : List (Char × String)) : NoticeOrErrorFields where
  severity := fieldValue fields 'S'
  code := fieldValue fields 'C'
  detail := fieldValue fields 'D'
  hint := fieldValue fields 'H'
  position := fieldValue fields 'P'
  internalPosition := fieldValue fields 'p'
  internalQuery := fieldValue fields 'q'
  where_ := fieldValue fields 'W'
  schema := fieldValue fields 's'
  table := fieldValue fields 't'
  column := fieldValue fields 'c'
  dataType := fieldValue fields 'd'
  constraint := fieldValue fields 'n'
  file := fieldValue fields 'F'
  line := fieldValue fields 'L'
  routine := fieldValue fields 'R'

/-- The value the callback should receive. The lengths of the empty messages are the constants
`handle_packet` reports for them. -/
def message (w : WireMessage) : BackendMessage :=
  match w with
  | parseComplete => .parseComplete 5
  | bindComplete => .bindComplete 5
  | closeComplete => .closeComplete 5
  | noData => .noData 5
  | portalSuspended => .portalSuspended 5
  | copyDone => .copyDone 4
  | replicationStart => .replicationStart 4
  | emptyQuery => .emptyQuery 4
  | readyForQuery status =>
    .readyForQuery { length := w.length, status := UInt8.ofNat status.toNat }
  | commandComplete text => .commandComplete { length := w.length, text }
  | dataRow columns => .dataRow { length := w.length, fields := columns }
  | rowDescription fields => .rowDescription { length := w.length, fields }
  | parameterDescription dataTypeIds =>
    .parameterDescription { length := w.length, dataTypeIds }
  | parameterStatus name value =>
    .parameterStatus { length := w.length, parameterName := name, parameterValue := value }
  | backendKeyData processId secretKey =>
    .backendKeyData { length := w.length, processId, secretKey }
  | notification processId channel payload =>
    .notification { length := w.length, processId, channel, payload }
  | copyResponse name binary columnTypes =>
    .copyResponse { length := w.length, name, binary, columnTypes }
  | copyData chunk => .copyData { length := w.length, chunk }
  | authenticationOk => .authentication (.ok w.length)
  | authenticationCleartextPassword => .authentication (.cleartext w.length)
  | authenticationMd5Password salt => .authentication (.md5 w.length salt)
  | authenticationSasl mechanisms => .authentication (.sasl w.length mechanisms)
  | authenticationSaslContinue data => .authentication (.saslContinue w.length data)
  | authenticationSaslFinal data => .authentication (.saslFinal w.length data)
  | error fields =>
    .error { length := w.length, message := (fieldValue fields 'M').getD "",
             fields := noticeOrErrorFields fields }
  | notice fields =>
    .notice { length := w.length, message := fieldValue fields 'M',
              fields := noticeOrErrorFields fields }

/-! ## Well-formed messages -/

/-- The number of elements behind a 16-bit count. -/
def count : WireMessage → ℕ
  | dataRow columns => columns.length
  | rowDescription fields => fields.length
  | parameterDescription dataTypeIds => dataTypeIds.length
  | copyResponse _ _ columnTypes => columnTypes.length
  | _ => 0

/-- A text that can be NUL-terminated. -/
def NulFree (s : String) : Prop := 0 ∉ utf8 s

/-- Strings that the protocol terminates are NUL-free, single characters are ASCII. -/
def TextOk : WireMessage → Prop
  | readyForQuery status => status.toNat < 128
  | commandComplete text => NulFree text
  | rowDescription fields => ∀ f ∈ fields, NulFree f.name
  | parameterStatus name value => NulFree name ∧ NulFree value
  | notification _ channel payload => NulFree channel ∧ NulFree payload
  | authenticationMd5Password salt => salt.length = 4
  | authenticationSasl mechanisms => ∀ m ∈ mechanisms, m ≠ "" ∧ NulFree m
  | error fields => ∀ p ∈ fields, p.1 ≠ '\x00' ∧ p.1.toNat < 128 ∧ NulFree p.2
  | notice fields => ∀ p ∈ fields, p.1 ≠ '\x00' ∧ p.1.toNat < 128 ∧ NulFree p.2
  | _ => True

/-- What the protocol can carry: a count of 16 bits and a length that is a positive `Int32`. -/
structure WellFormed (w : WireMessage) : Prop where
  text : w.TextOk
  count_le : w.count ≤ 65535
  length_lt : w.length < 2 ^ 31

/-! ## Encodings are in the formats -/

lemma toInt_count {n : ℕ} (h : n ≤ 32767) : (Int16.ofNat n).toInt = n := by
  rw [Int16.toInt_ofNat', Int.bmod, Int16.size]
  omega

/-- The sixteenth bit is a sign bit. -/
lemma toInt_count_neg {n : ℕ} (h : 32767 < n) (h' : n ≤ 65535) : (Int16.ofNat n).toInt < 0 := by
  rw [Int16.toInt_ofNat', Int.bmod, Int16.size]
  omega

lemma toInt_length {n : ℕ} (h : n < 2 ^ 31) : (Int32.ofNat n).toInt = n := by
  rw [Int32.toInt_ofNat', Int.bmod, Int32.size]
  omega

lemma countedBytes_format {α : Type} {F : Format α} {enc : α → Bytes} {xs : List α}
    (hlen : xs.length ≤ 32767) (h : ∀ a ∈ xs, F a (enc a)) :
    countedFormat F xs (countedBytes enc xs) := by
  have hcount := toInt_count hlen
  refine Format.bind_intro (a := Int16.ofNat xs.length) ⟨rfl, by omega⟩ ?_
  rw [hcount, Int.toNat_natCast]
  exact Format.times_flatten xs h

/-- A count too large for 15 bits is a hazard. -/
lemma countedBytes_hazard {α : Type} {enc : α → Bytes} {xs : List α} (hlen : 32767 < xs.length)
    (hle : xs.length ≤ 65535) (offset : ℕ) : countHazard offset (countedBytes enc xs) :=
  ⟨Int16.ofNat xs.length, _, rfl, toInt_count_neg hlen hle⟩

lemma columnBytes_format {c : Option String} (h : (columnBytes c).length < 2 ^ 31) :
    columnFormat c (columnBytes c) := by
  cases c with
  | none => rfl
  | some s =>
    simp only [columnBytes, List.length_append] at h
    have hlen := toInt_length (n := (utf8 s).length) (by omega)
    exact ⟨_, by omega, by rw [hlen, Int.toNat_natCast], rfl⟩

lemma rowFieldBytes_format {f : Field} (h : NulFree f.name) :
    fieldFormat f (rowFieldBytes f) := by
  have hmode : f.format = (Mode.tryFrom f.format.asI16).getD .text := by
    rw [Mode.tryFrom_asI16]
    rfl
  refine Format.bind_intro (a := f.name) ⟨rfl, h⟩ (Format.bind_intro rfl (Format.bind_intro rfl
    (Format.bind_intro rfl (Format.bind_intro rfl (Format.bind_intro rfl ?_)))))
  refine ⟨f.format.asI16, _, [], rfl, ⟨?_, rfl⟩, (List.append_nil _).symm⟩
  rw [← hmode]

/-- A part of a run of encodings is no longer than the run. -/
lemma length_le_flatten {α : Type} {enc : α → Bytes} {xs : List α} {a : α} (ha : a ∈ xs) :
    (enc a).length ≤ (xs.map enc).flatten.length := by
  induction xs with
  | nil => simp at ha
  | cons b xs ih =>
    rw [List.map_cons, List.flatten_cons, List.length_append]
    rcases List.mem_cons.mp ha with rfl | ha
    · omega
    · have := ih ha
      omega

/-! Field types are looked up as one-character strings. -/

/-- A field as the parser keeps it. -/
def keyed (p : Char × String) : String × String := (String.singleton p.1, p.2)

lemma lookup_keyed (fields : List (Char × String)) (c : Char) :
    FieldMap.get (fields.map keyed) (String.singleton c) = fields.lookup c := by
  induction fields with
  | nil => rfl
  | cons p fields ih =>
    have hkey : (String.singleton c == String.singleton p.1) = (c == p.1) := by
      rw [Bool.eq_iff_iff, beq_iff_eq, beq_iff_eq]
      constructor
      · intro h
        have hlist := congrArg String.toList h
        simpa using hlist
      · exact congrArg String.singleton
    rw [FieldMap.get] at ih
    rw [FieldMap.get, List.map_cons, keyed, List.lookup_cons, hkey, ih, List.lookup_cons]

lemma get_keyed (fields : List (Char × String)) (c : Char) :
    FieldMap.get ((fields.map keyed).reverse ++ []) (String.singleton c) = fieldValue fields c := by
  rw [List.append_nil, ← List.map_reverse, lookup_keyed, fieldValue]

lemma applyFields_keyed (fields : List (Char × String)) :
    NoticeOrErrorFields.applyFields ((fields.map keyed).reverse ++ [])
      = noticeOrErrorFields fields := by
  simp only [NoticeOrErrorFields.applyFields, noticeOrErrorFields, ← get_keyed]
  rfl

lemma errorOrNoticeBytes_format {fields : List (Char × String)}
    (h : ∀ p ∈ fields, p.1 ≠ '\x00' ∧ p.1.toNat < 128 ∧ NulFree p.2) :
    fieldsFormat ((fields.map keyed).reverse ++ []) (errorOrNoticeBytes fields) := by
  refine ⟨fields.map keyed, ?_, ?_, rfl⟩
  · intro q hq
    obtain ⟨p, hp, rfl⟩ := List.mem_map.mp hq
    obtain ⟨hne, hascii, hnul⟩ := h p hp
    refine ⟨by rw [keyed, utf8_singleton hascii]; rfl, ?_, hnul⟩
    intro hc
    have hlist := congrArg String.toList hc
    exact hne (by simpa [keyed] using hlist)
  · rw [errorOrNoticeBytes, List.map_map]
    congr 2
    refine List.map_congr_left fun p hp => ?_
    rw [Function.comp_apply, fieldBytes, keyed, utf8_singleton (h p hp).2.1]
    rfl

/-- **Every well-formed body with a 15-bit count is in the format of its code.** -/
lemma body_format {w : WireMessage} (hw : w.WellFormed) (hcount : w.count ≤ 32767) :
    (packetFormat w.code w.body w.length).StartsWith w.message w.body := by
  obtain ⟨htext, -, hlen⟩ := hw
  rw [length] at hlen
  cases w with
  | parseComplete | bindComplete | closeComplete | noData | portalSuspended | copyDone
  | replicationStart | emptyQuery => exact Format.startsWith_self ⟨rfl, rfl⟩
  | readyForQuery status =>
    have hbyte := utf8_singleton htext
    refine Format.startsWith_self
      ⟨String.singleton status, _, [], ⟨hbyte.symm, by rw [hbyte]; rfl⟩, ⟨?_, rfl⟩, rfl⟩
    rw [hbyte]
    rfl
  | commandComplete text =>
    exact Format.startsWith_self (Format.bind_pure_intro (a := text) ⟨rfl, htext⟩)
  | dataRow columns =>
    refine Format.startsWith_self
      (Format.bind_pure_intro (a := columns) (countedBytes_format hcount fun c hc => ?_))
    have hle : (columnBytes c).length ≤ (columns.map columnBytes).flatten.length :=
      length_le_flatten hc
    simp only [body, countedBytes, List.length_append] at hlen
    exact columnBytes_format (by omega)
  | rowDescription fields =>
    exact Format.startsWith_self (Format.bind_pure_intro (a := fields)
      (countedBytes_format hcount fun f hf => rowFieldBytes_format (htext f hf)))
  | parameterDescription dataTypeIds =>
    exact Format.startsWith_self
      (Format.bind_pure_intro (a := dataTypeIds) (countedBytes_format hcount fun _ _ => rfl))
  | parameterStatus name value =>
    exact Format.startsWith_self (Format.bind_intro (a := name) ⟨rfl, htext.1⟩
      (Format.bind_pure_intro (a := value) ⟨rfl, htext.2⟩))
  | backendKeyData processId secretKey =>
    exact Format.startsWith_self
      (Format.bind_intro (a := processId) rfl (Format.bind_pure_intro (a := secretKey) rfl))
  | notification processId channel payload =>
    exact Format.startsWith_self (Format.bind_intro (a := processId) rfl
      (Format.bind_intro (a := channel) ⟨rfl, htext.1⟩
        (Format.bind_pure_intro (a := payload) ⟨rfl, htext.2⟩)))
  | copyResponse name binary columnTypes =>
    have hflag : binary = decide ((if binary then 1 else 0 : UInt8) ≠ 0) := by
      cases binary <;> rfl
    have hformat : ∀ length, copyFormat length name
        (.copyResponse { length, name, binary, columnTypes })
        (body (.copyResponse name binary columnTypes)) := by
      intro length
      refine ⟨if binary then 1 else 0, [_], countedBytes i16ToBe columnTypes, rfl,
        ⟨columnTypes, _, [], countedBytes_format hcount fun _ _ => rfl, ⟨?_, rfl⟩,
          (List.append_nil _).symm⟩, rfl⟩
      rw [← hflag]
    cases name <;> exact Format.startsWith_self (hformat _)
  | copyData chunk =>
    -- the decoder copies the body it is given and leaves the cursor where it is
    exact ⟨[], chunk, ⟨rfl, rfl⟩, rfl⟩
  | authenticationOk => exact Format.startsWith_self ⟨0, _, [], rfl, ⟨rfl, rfl⟩, rfl⟩
  | authenticationCleartextPassword =>
    exact Format.startsWith_self ⟨3, _, [], rfl, ⟨rfl, rfl⟩, rfl⟩
  | authenticationMd5Password salt =>
    exact Format.startsWith_self
      (Format.bind_intro (a := 5) rfl (Format.bind_pure_intro (a := salt) ⟨rfl, htext⟩))
  | authenticationSasl mechanisms =>
    exact Format.startsWith_self (Format.bind_intro (a := 10) rfl
      (Format.bind_pure_intro (a := mechanisms) ⟨htext, rfl⟩))
  | authenticationSaslContinue data =>
    refine Format.startsWith_self
      (Format.bind_intro (a := 11) rfl (Format.bind_pure_intro (a := data) ⟨rfl, ?_⟩))
    simp only [length, body, List.length_append, length_i32ToBe]
    omega
  | authenticationSaslFinal data =>
    refine Format.startsWith_self
      (Format.bind_intro (a := 12) rfl (Format.bind_pure_intro (a := data) ⟨rfl, ?_⟩))
    simp only [length, body, List.length_append, length_i32ToBe]
    omega
  | error fields =>
    refine Format.startsWith_self
      ⟨_, _, [], errorOrNoticeBytes_format htext, ⟨?_, rfl⟩, (List.append_nil _).symm⟩
    rw [applyFields_keyed, show "M" = String.singleton 'M' from rfl, get_keyed]
    rfl
  | notice fields =>
    refine Format.startsWith_self
      ⟨_, _, [], errorOrNoticeBytes_format htext, ⟨?_, rfl⟩, (List.append_nil _).symm⟩
    rw [applyFields_keyed, show "M" = String.singleton 'M' from rfl, get_keyed]
    rfl

/-- A count that needs the sixteenth bit is a hazard of the body. -/
lemma body_hazard {w : WireMessage} (hw : w.WellFormed) (hcount : 32767 < w.count) :
    packetHazard w.code 0 w.body := by
  have hle := hw.count_le
  cases w with
  | dataRow columns => exact .inl (countedBytes_hazard hcount hle 0)
  | rowDescription fields => exact countedBytes_hazard hcount hle 0
  | parameterDescription dataTypeIds => exact countedBytes_hazard hcount hle 0
  | copyResponse name binary columnTypes =>
    have hhaz : countHazard 0 (countedBytes i16ToBe columnTypes) :=
      countedBytes_hazard hcount hle 0
    cases name <;> exact ⟨_, _, rfl, hhaz⟩
  | _ => exact absurd hcount (by simp [count])

/-! ## Parsing encodings -/

lemma isFrame_encode {w : WireMessage} (hw : w.WellFormed) : backendFraming.IsFrame w.encode := by
  have hlen := hw.length_lt
  have hfield : ∀ b0 b1 b2 b3, i32ToBe (Int32.ofNat w.length) = [b0, b1, b2, b3] →
      lengthField b0 b1 b2 b3 = w.length := by
    intro b0 b1 b2 b3 h
    have hval : u32FromBe b0 b1 b2 b3 = UInt32.ofNat w.length := by
      simp only [i32ToBe, u32ToBe, List.cons.injEq, and_true] at h
      obtain ⟨rfl, rfl, rfl, rfl⟩ := h
      rw [u32FromBe_toBe]
      rfl
    rw [lengthField, hval, UInt32.toNat_ofNat', Nat.mod_eq_of_lt (by omega)]
  obtain ⟨b0, b1, b2, b3, hbytes⟩ : ∃ b0 b1 b2 b3, i32ToBe (Int32.ofNat w.length)
      = [b0, b1, b2, b3] := ⟨_, _, _, _, rfl⟩
  have hlength := hfield b0 b1 b2 b3 hbytes
  have hwl : w.length = w.body.length + 4 := rfl
  rw [Framing.IsFrame, encode, hbytes]
  simp only [List.cons_append, List.nil_append, List.length_cons]
  refine (scanBackend_frame w.code b0 b1 b2 b3 w.body (by omega) (by omega)).trans ?_
  rw [hlength, hwl, Nat.add_comm 1]

lemma drop_encode (w : WireMessage) : w.encode.drop headerLen = w.body := rfl

lemma length_encode (w : WireMessage) : w.encode.length - 1 = w.length := by
  rw [encode, List.length_cons, List.length_append, length_i32ToBe, length]
  omega

/-- One message is decoded to what it encodes, or its count is too large. -/
lemma decode_encode (build : Build) {w : WireMessage} (hw : w.WellFormed)
    (hcount : w.count ≤ 32767) : decodeFrame build w.encode = .ok w.message := by
  obtain ⟨x, tail, hx, hbody⟩ := body_format hw hcount
  have hreads := decodeFrame_readsAt build (isFrame_encode hw)
  rw [decodeFrame, handlePacket]
  rw [drop_encode, length_encode] at hreads ⊢
  rw [hreads.accept w.message x tail hx hbody]
  rfl

lemma decode_encode_panic (build : Build) {w : WireMessage} (hw : w.WellFormed)
    (hcount : 32767 < w.count) : decodeFrame build w.encode = .panic :=
  decodeFrame_eq_panic build (isFrame_encode hw) (body_hazard hw hcount)

end WireMessage

/-- Delivering encodings collects the messages, or panics at the first large count. -/
lemma deliver_encode (build : Build) {ws : List WireMessage} (hws : ∀ w ∈ ws, w.WellFormed)
    (ms : List BackendMessage) :
    (∀ w ∈ ws, w.count ≤ 32767) ∧ deliver build collect (ws.map WireMessage.encode) ms
        = (ms ++ ws.map WireMessage.message, .ok ()) ∨
    (¬ ∀ w ∈ ws, w.count ≤ 32767) ∧
      (deliver build collect (ws.map WireMessage.encode) ms).2 = .panic := by
  induction ws generalizing ms with
  | nil => exact .inl ⟨by simp, by simp [deliver]⟩
  | cons w ws ih =>
    rw [List.forall_mem_cons] at hws
    obtain ⟨hw, hws⟩ := hws
    rw [List.forall_mem_cons, List.map_cons, deliver]
    by_cases hcount : w.count ≤ 32767
    · rw [w.decode_encode build hw hcount]
      simp only [collect, hcount, true_and, List.map_cons]
      rcases ih hws (ms ++ [w.message]) with ⟨hall, hd⟩ | ⟨hnot, hd⟩
      · exact .inl ⟨hall, by rw [hd, List.append_assoc]; rfl⟩
      · exact .inr ⟨hnot, hd⟩
    · rw [w.decode_encode_panic build hw (by omega)]
      exact .inr ⟨fun h => hcount h.1, rfl⟩

/-- Encodings are cut where they were joined. -/
lemma cut_encode {ws : List WireMessage} (hws : ∀ w ∈ ws, w.WellFormed) :
    backendFraming.cut (ws.map WireMessage.encode).flatten
      = ⟨ws.map WireMessage.encode, [], none⟩ := by
  refine cut_frames fun f hf => ?_
  obtain ⟨w, hw, rfl⟩ := List.mem_map.mp hf
  exact WireMessage.isFrame_encode (hws w hw)

lemma parse_encode_ok (build : Build) {ws : List WireMessage} (hws : ∀ w ∈ ws, w.WellFormed)
    (hcount : ∀ w ∈ ws, w.count ≤ 32767) :
    Parser.new.parse build collect (ws.map WireMessage.encode).flatten []
      = ⟨Parser.new, ws.map WireMessage.message, .ok ()⟩ := by
  rw [parse_eq, show Parser.new.buffer = [] from rfl, List.nil_append, parseResult, cut_encode hws]
  rcases deliver_encode build hws [] with ⟨-, hd⟩ | ⟨hnot, -⟩
  · rw [hd]
    rfl
  · exact absurd hcount hnot

lemma parse_encode_panic (build : Build) {ws : List WireMessage} (hws : ∀ w ∈ ws, w.WellFormed)
    (hcount : ¬ ∀ w ∈ ws, w.count ≤ 32767) :
    (Parser.new.parse build collect (ws.map WireMessage.encode).flatten []).outcome = .panic := by
  rw [parse_eq, show Parser.new.buffer = [] from rfl, List.nil_append, parseResult, cut_encode hws]
  rcases deliver_encode build hws [] with ⟨hall, -⟩ | ⟨-, hd⟩
  · exact absurd hall hcount
  · rcases hr : deliver build collect (ws.map WireMessage.encode) [] with ⟨s, o⟩
    rw [hr] at hd
    simp only at hd
    rw [hd]

/-- **When messages round-trip.** A list of well-formed messages is parsed back, each message
once and in order, with an empty buffer at the end, exactly when every element count fits in
fifteen bits. -/
theorem parse_encode_iff (build : Build) (ws : List WireMessage)
    (hws : ∀ w ∈ ws, w.WellFormed) :
    Parser.new.parse build collect (ws.map WireMessage.encode).flatten []
        = ⟨Parser.new, ws.map WireMessage.message, .ok ()⟩
      ↔ ∀ w ∈ ws, w.count ≤ 32767 := by
  constructor
  · intro hparse
    by_contra hcount
    have hpanic := parse_encode_panic build hws hcount
    rw [hparse] at hpanic
    cases hpanic
  · exact parse_encode_ok build hws

/-- A row with a `NULL` and the end of a query. -/
theorem parse_encode_iff_row :
    Parser.new.parse ⟨false⟩ collect
        ([.dataRow [none, some "é"], .readyForQuery 'I'].map WireMessage.encode).flatten []
      = ⟨Parser.new, [.dataRow { length := 16, fields := [none, some "é"] },
          .readyForQuery { length := 5, status := 73 }], .ok ()⟩ := by
  refine (parse_encode_iff ⟨false⟩ [.dataRow [none, some "é"], .readyForQuery 'I'] ?_).mpr
    (by decide)
  intro w hw
  rcases List.mem_cons.mp hw with rfl | hw
  · exact ⟨trivial, by decide, by decide⟩
  · rw [List.mem_singleton.mp hw]
    exact ⟨(by decide : 'I'.toNat < 128), by decide, by decide⟩

/-- Any number of parameters a 16-bit count can carry is well-formed. -/
lemma wellFormed_parameterDescription {n : ℕ} (h : n ≤ 65535) :
    (WireMessage.parameterDescription (List.replicate n 23)).WellFormed := by
  refine ⟨trivial, ?_, ?_⟩
  · rwa [WireMessage.count, List.length_replicate]
  · simp only [WireMessage.length, WireMessage.body, WireMessage.countedBytes, List.length_append,
      length_i16ToBe, List.map_replicate, List.length_flatten, length_i32ToBe,
      List.sum_replicate_nat]
    omega

lemma parse_parameterDescription_panic {n : ℕ} (hlt : 32767 < n) (hle : n ≤ 65535) :
    (Parser.new.parse ⟨false⟩ collect ([WireMessage.parameterDescription
      (List.replicate n 23)].map WireMessage.encode).flatten []).outcome = .panic := by
  refine parse_encode_panic ⟨false⟩
    (List.forall_mem_singleton.mpr (wellFormed_parameterDescription hle)) ?_
  rw [List.forall_mem_singleton, WireMessage.count, List.length_replicate]
  omega

/-- A `ParameterDescription` of 32768 parameters is well-formed, and parsing it panics. -/
theorem parse_encode_many_parameters :
    (WireMessage.parameterDescription (List.replicate 32768 23)).WellFormed ∧
      Parser.new.parse ⟨false⟩ collect ([WireMessage.parameterDescription
        (List.replicate 32768 23)].map WireMessage.encode).flatten []
      ≠ ⟨Parser.new, [WireMessage.parameterDescription (List.replicate 32768 23)].map
          WireMessage.message, .ok ()⟩ := by
  refine ⟨wellFormed_parameterDescription (by omega), fun hparse => ?_⟩
  have hpanic := parse_parameterDescription_panic (n := 32768) (by omega) (by omega)
  rw [hparse] at hpanic
  cases hpanic

end PgliteOxide.Protocol
