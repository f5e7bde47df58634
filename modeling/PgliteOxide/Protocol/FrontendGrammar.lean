import PgliteOxide.Lib.Decoder
import PgliteOxide.Pglite.Wire
import PgliteOxide.Protocol.RoundTrip
import PgliteOxide.Protocol.Serializer

/-!
# The grammar of the extended query messages

How a server reads `Parse`, `Bind` and `Execute` by the message formats of the protocol, and what
it makes of the messages of `Serialize`. Counts are unsigned, and a length of `-1` is a NULL.
-/

namespace PgliteOxide.Protocol.Frontend

open Lib Decoder
open WireMessage (NulFree)

/-! ## What a server reads -/

structure ParseRequest where
  name : Bytes
  query : Bytes
  paramTypes : List Int32
deriving DecidableEq

structure BindRequest where
  portal : Bytes
  statement : Bytes
  paramFormats : List UInt16
  params : List (Option Bytes)
  resultFormats : List UInt16
deriving DecidableEq

structure ExecuteRequest where
  portal : Bytes
  rows : Int32
deriving DecidableEq

/-- A count and that many values. -/
def counted {α : Type} (d : Decoder α) : Decoder (List α) := do
  let count ← u16
  d.times count.toNat

/-- A parameter: a length, and the bytes unless it is `-1`. -/
def param : Decoder (Option Bytes) := do
  let len ← i32
  if len = -1 then pure none
  else if len.toInt < 0 then fail
  else do
    let bytes ← take len.toInt.toNat
    pure (some bytes)

def parseBody : Decoder ParseRequest := do
  let name ← cstring
  let query ← cstring
  let paramTypes ← counted i32
  pure { name, query, paramTypes }

def bindBody : Decoder BindRequest := do
  let portal ← cstring
  let statement ← cstring
  let paramFormats ← counted u16
  let params ← counted param
  let resultFormats ← counted u16
  pure { portal, statement, paramFormats, params, resultFormats }

def executeBody : Decoder ExecuteRequest := do
  let portal ← cstring
  let rows ← i32
  pure { portal, rows }

/-- A whole message: the code, a length that counts itself and the body, and the body. -/
def decodeMessage {α : Type} (code : UInt8) (body : Decoder α) : Bytes → Option α
  | c :: b0 :: b1 :: b2 :: b3 :: rest =>
    if c = code ∧ (i32FromBe b0 b1 b2 b3).toInt = rest.length + 4 then body.whole rest else none
  | _ => none

/-- Every result column is asked for in binary. -/
def BindRequest.AllBinary (request : BindRequest) : Prop :=
  request.resultFormats ≠ [] ∧ ∀ format ∈ request.resultFormats, format = 1

/-! ## Reading what `Serialize` writes -/

/-- The length field holds the length of the message. -/
def LengthFits (message : Bytes) : Prop := message.length ≤ 2 ^ 31

lemma length_frame (code : UInt8) (body : Bytes) :
    (Serialize.frame code body).length = body.length + 5 := by
  show (code :: (Serialize.length (body.length + 4) ++ body)).length = _
  rw [List.length_cons, List.length_append]
  show 4 + body.length + 1 = _
  omega

/-- A framed body is read when the length field holds its length, and not at all otherwise. -/
lemma decodeMessage_frame {α : Type} {code : UInt8} {d : Decoder α} {body : Bytes} :
    (LengthFits (Serialize.frame code body) →
      decodeMessage code d (Serialize.frame code body) = d.whole body) ∧
    (¬ LengthFits (Serialize.frame code body) →
      decodeMessage code d (Serialize.frame code body) = none) := by
  obtain ⟨b0, b1, b2, b3, hbytes, -, hread⟩ := Serialize.i32FromBe_length (body.length + 4)
  have hframe : Serialize.frame code body = code :: b0 :: b1 :: b2 :: b3 :: body := by
    rw [Serialize.frame, hbytes]
    rfl
  unfold LengthFits
  rw [length_frame, hframe]
  constructor
  · intro h
    rw [decodeMessage, if_pos]
    refine ⟨rfl, ?_⟩
    rw [hread, toInt_ofNat_toInt32 (by omega)]
    push_cast
    rfl
  · intro h
    rw [decodeMessage, if_neg]
    have hlt := (i32FromBe b0 b1 b2 b3).toInt_lt
    omega

/-- A counted list is read back while the count fits. -/
lemma reads_counted {α : Type} {d : Decoder α} {enc : α → Bytes} {xs : List α}
    (hcount : xs.length < 2 ^ 16) (h : ∀ a ∈ xs, Decoder.Reads d a (enc a)) :
    Decoder.Reads (counted d) xs (Serialize.count xs.length ++ xs.flatMap enc) := by
  have hn : (UInt16.ofNat xs.length).toNat = xs.length := by
    rw [UInt16.toNat_ofNat', Nat.mod_eq_of_lt hcount]
  refine (reads_u16 (UInt16.ofNat xs.length)).bind ?_
  rw [hn]
  exact reads_times h

/-- The format code of a value. -/
def formatOf : BindValue → UInt16
  | .null => 0
  | .text _ => 0
  | .binary _ => 1

/-- The bytes of a value, unless it is NULL. -/
def valueOf : BindValue → Option Bytes
  | .null => none
  | .text text => some (utf8 text)
  | .binary bytes => some bytes

/-- The bytes of a parameter. -/
def paramBytes : Option Bytes → Bytes
  | none => i32ToBe (-1)
  | some bytes => Serialize.length bytes.length ++ bytes

lemma bindFormat_eq (value : BindValue) :
    Serialize.bindFormat value = u16ToBe (formatOf value) := by
  cases value <;> rfl

lemma bindParam_eq (value : BindValue) : Serialize.bindParam value = paramBytes (valueOf value) := by
  cases value <;> rfl

lemma length_mappedValues (config : BindConfig) :
    (Serialize.mappedValues config).length = config.values.length := by
  unfold Serialize.mappedValues
  split <;> simp

lemma reads_param {value : Option Bytes} (h : ∀ bytes, value = some bytes → bytes.length < 2 ^ 31) :
    Decoder.Reads param value (paramBytes value) := by
  cases value with
  | none =>
    intro rest
    rw [param, paramBytes, (reads_i32 (-1)).bind_apply]
    rfl
  | some bytes =>
    have hlen := toInt_ofNat_toInt32 (h bytes rfl)
    have hread : Decoder.Reads i32 (UInt32.ofNat bytes.length).toInt32
        (Serialize.length bytes.length) := by
      have hwrite := reads_i32 (UInt32.ofNat bytes.length).toInt32
      rwa [i32ToBe, UInt32.toUInt32_toInt32] at hwrite
    have hneg : (UInt32.ofNat bytes.length).toInt32 ≠ -1 := by
      intro heq
      rw [heq] at hlen
      have hminus : (-1 : Int32).toInt = -1 := by decide
      omega
    refine hread.bind ?_
    rw [if_neg hneg, if_neg (by omega), hlen]
    exact (reads_take bytes).map

section Bind

variable {config : BindConfig}

/-- The body of `Bind` up to the result formats. -/
def bindFront (config : BindConfig) : Bytes :=
  Serialize.cstring (config.portal.getD "") ++ Serialize.cstring (config.statement.getD "")
    ++ (Serialize.count config.values.length ++ (Serialize.mappedValues config).flatMap
      Serialize.bindFormat)
    ++ (Serialize.count config.values.length ++ (Serialize.mappedValues config).flatMap
      Serialize.bindParam)

lemma bind_eq (config : BindConfig) :
    Serialize.bind config = Serialize.frame Serialize.codeBind
      (bindFront config ++ Serialize.count (if config.binary then 1 else 0)) := by
  simp only [Serialize.bind, bindFront, List.append_assoc]

/-- A parameter is not longer than the message it is in. -/
lemma length_param_le {bytes : Bytes}
    (h : some bytes ∈ (Serialize.mappedValues config).map valueOf) :
    bytes.length ≤ (bindFront config).length := by
  obtain ⟨value, hvalue, hbytes⟩ := List.mem_map.mp h
  have hpart : Serialize.bindParam value
      <:+: (Serialize.mappedValues config).flatMap Serialize.bindParam := by
    rw [List.flatMap_def]
    exact List.infix_of_mem_flatten (List.mem_map_of_mem hvalue)
  have hle := hpart.length_le
  have hlen : bytes.length ≤ (Serialize.bindParam value).length := by
    rw [bindParam_eq, hbytes, paramBytes, List.length_append]
    omega
  simp only [bindFront, List.length_append]
  omega

/-- Everything before the result formats is read as it was meant. -/
lemma bindBody_apply (hportal : NulFree (config.portal.getD ""))
    (hstatement : NulFree (config.statement.getD "")) (hcount : config.values.length < 2 ^ 16)
    (hlen : (bindFront config).length < 2 ^ 31) (tail : Bytes) :
    bindBody (bindFront config ++ tail)
      = (counted u16 >>= fun resultFormats => pure
          { portal := utf8 (config.portal.getD "")
            statement := utf8 (config.statement.getD "")
            paramFormats := (Serialize.mappedValues config).map formatOf
            params := (Serialize.mappedValues config).map valueOf
            resultFormats : BindRequest }) tail := by
  have hvalues := length_mappedValues config
  have hformats := @reads_counted _ u16 u16ToBe ((Serialize.mappedValues config).map formatOf)
    (by rw [List.length_map]; omega) fun format _ => reads_u16 format
  have hparams := @reads_counted _ param paramBytes ((Serialize.mappedValues config).map valueOf)
    (by rw [List.length_map]; omega) fun value hvalue => reads_param fun bytes hbytes => by
      have hle := length_param_le (hbytes ▸ hvalue)
      omega
  rw [List.length_map, hvalues, List.flatMap_map] at hformats hparams
  have hformatBytes : (Serialize.mappedValues config).flatMap Serialize.bindFormat
      = (Serialize.mappedValues config).flatMap fun value => u16ToBe (formatOf value) :=
    List.flatMap_congr fun value _ => bindFormat_eq value
  have hparamBytes : (Serialize.mappedValues config).flatMap Serialize.bindParam
      = (Serialize.mappedValues config).flatMap fun value => paramBytes (valueOf value) :=
    List.flatMap_congr fun value _ => bindParam_eq value
  rw [bindFront, hformatBytes, hparamBytes, bindBody]
  simp only [List.append_assoc]
  rw [Serialize.cstring, Serialize.cstring, (Decoder.reads_cstring hportal).bind_apply,
    (Decoder.reads_cstring hstatement).bind_apply, ← List.append_assoc, hformats.bind_apply,
    ← List.append_assoc, hparams.bind_apply]

/-- The server reads a `Bind` as the client meant it. -/
def BindMeets (config : BindConfig) : Prop :=
  ∃ request, decodeMessage Serialize.codeBind bindBody (Serialize.bind config) = some request ∧
    request.portal = utf8 (config.portal.getD "") ∧
    request.statement = utf8 (config.statement.getD "") ∧
    request.paramFormats = (Serialize.mappedValues config).map formatOf ∧
    request.params = (Serialize.mappedValues config).map valueOf ∧
    (request.AllBinary ↔ config.binary = true)

/-- A `Bind` is read as it was meant exactly when no binary results are asked for and its length
field holds its length. -/
lemma bindMeets_iff (hportal : NulFree (config.portal.getD ""))
    (hstatement : NulFree (config.statement.getD "")) (hcount : config.values.length < 2 ^ 16) :
    BindMeets config ↔ config.binary = false ∧ LengthFits (Serialize.bind config) := by
  unfold BindMeets
  by_cases hfits : LengthFits (Serialize.bind config)
  · have hframe := bind_eq config
    have hlen : (bindFront config).length < 2 ^ 31 := by
      rw [hframe, LengthFits, length_frame, List.length_append] at hfits
      omega
    have hdecode := (decodeMessage_frame (d := bindBody)).1 (hframe ▸ hfits)
    rw [and_iff_left hfits, hframe, hdecode, whole,
      bindBody_apply hportal hstatement hcount hlen]
    cases config.binary with
    | false =>
      refine iff_of_true ⟨_, rfl, rfl, rfl, rfl, rfl, ?_⟩ rfl
      simp [BindRequest.AllBinary]
    | true =>
      -- one result format is announced and none follows
      refine iff_of_false ?_ (by simp)
      intro hread
      obtain ⟨request, hrequest, -⟩ := hread
      cases hrequest
  · refine iff_of_false ?_ fun h => hfits h.2
    rw [bind_eq] at hfits ⊢
    rw [decodeMessage_frame.2 hfits]
    simp

end Bind

/-! ## `Parse` and `Execute` -/

/-- The server reads a `Parse` as the client meant it. -/
def ParseMeets (name : Option String) (text : String) (types : List Int32) : Prop :=
  decodeMessage Serialize.codeParse parseBody (Serialize.parse name text types)
    = some { name := utf8 (name.getD ""), query := utf8 text, paramTypes := types }

lemma parseMeets_iff {name : Option String} {text : String} {types : List Int32}
    (hname : NulFree (name.getD "")) (htext : NulFree text) (hcount : types.length < 2 ^ 16) :
    ParseMeets name text types ↔ LengthFits (Serialize.parse name text types) := by
  unfold ParseMeets Serialize.parse
  by_cases hfits : LengthFits (Serialize.parse name text types)
  · refine iff_of_true ?_ hfits
    rw [decodeMessage_frame.1 hfits]
    have hbody : Decoder.Reads parseBody
        { name := utf8 (name.getD ""), query := utf8 text, paramTypes := types }
        (Serialize.cstring (name.getD "") ++ (Serialize.cstring text
          ++ (Serialize.count types.length ++ types.flatMap i32ToBe))) := by
      unfold parseBody
      refine (Decoder.reads_cstring hname).bind ?_
      refine (Decoder.reads_cstring htext).bind ?_
      exact (reads_counted hcount fun type _ => reads_i32 type).map
    simp only [List.append_assoc]
    exact hbody.whole
  · refine iff_of_false ?_ hfits
    rw [decodeMessage_frame.2 hfits]
    simp

/-- The portal of an `Execute`. -/
def executePortal (config : Option ExecConfig) : String := (config.bind (·.portal)).getD ""

/-- The row limit of an `Execute`. -/
def executeRows (config : Option ExecConfig) : Int32 := (config.bind (·.rows)).getD 0

/-- The fixed bytes of the default portal without a limit are what the general layout gives. -/
lemma execute_eq (config : Option ExecConfig) :
    Serialize.execute config = Serialize.frame Serialize.codeExecute
      (Serialize.cstring (executePortal config) ++ i32ToBe (executeRows config)) := by
  have hfast : Serialize.frame Serialize.codeExecute (Serialize.cstring "" ++ i32ToBe 0)
      = [Serialize.codeExecute, 0, 0, 0, 9, 0, 0, 0, 0, 0] := by decide
  cases config with
  | none => exact hfast.symm
  | some cfg =>
    simp only [Serialize.execute]
    split
    · rename_i hdefault
      have hportal : executePortal (some cfg) = "" := hdefault.1
      have hrows : executeRows (some cfg) = 0 := hdefault.2
      rw [hportal, hrows, hfast]
    · rfl

/-- The server reads an `Execute` as the client meant it. -/
def ExecuteMeets (config : Option ExecConfig) : Prop :=
  decodeMessage Serialize.codeExecute executeBody (Serialize.execute config)
    = some { portal := utf8 (executePortal config), rows := executeRows config }

lemma executeMeets_iff (config : Option ExecConfig) :
    ExecuteMeets config ↔
      NulFree (executePortal config) ∧ LengthFits (Serialize.execute config) := by
  unfold ExecuteMeets
  rw [execute_eq]
  by_cases hfits : LengthFits (Serialize.frame Serialize.codeExecute
      (Serialize.cstring (executePortal config) ++ i32ToBe (executeRows config)))
  · rw [decodeMessage_frame.1 hfits, and_iff_left hfits]
    constructor
    · intro hread
      unfold whole at hread
      split at hread
      · rename_i request hbody
        rw [Option.some.inj hread] at hbody
        -- the portal is what comes before the first NUL
        cases hportal : cstring (Serialize.cstring (executePortal config)
            ++ i32ToBe (executeRows config)) with
        | none =>
          rw [executeBody, bind_of_none hportal] at hbody
          cases hbody
        | some read =>
          rw [executeBody, bind_of_some hportal] at hbody
          cases hrows : i32 read.2 with
          | none =>
            rw [bind_of_none hrows] at hbody
            cases hbody
          | some rows =>
            rw [bind_of_some hrows] at hbody
            have hname : read.1 = utf8 (executePortal config) :=
              congrArg (fun r => r.1.portal) (Option.some.inj hbody)
            show 0 ∉ utf8 (executePortal config)
            rw [← hname]
            exact nul_notMem_of_cstring hportal
      · cases hread
    · intro hnul
      have hbody : Decoder.Reads executeBody
          { portal := utf8 (executePortal config), rows := executeRows config }
          (Serialize.cstring (executePortal config) ++ i32ToBe (executeRows config)) := by
        unfold executeBody
        exact (Decoder.reads_cstring hnul).bind (reads_i32 (executeRows config)).map
      exact hbody.whole
  · rw [decodeMessage_frame.2 hfits]
    simp [hfits]

/-! ## The encoders -/

/-- **The extended query messages.** A `Parse` is read as it was meant, a `Bind` unless binary
results are asked for, and an `Execute` unless the portal has a NUL in it, as long as the length
field holds the length of the message. The hand-written layouts are those of the writer. -/
theorem extended_query_grammar_iff (config : BindConfig) (name : Option String) (text : String)
    (types : List Int32) (exec : Option ExecConfig) (sql : String) :
    (NulFree (config.portal.getD "") → NulFree (config.statement.getD "") →
      config.values.length ≤ 65535 →
      (BindMeets config ↔ config.binary = false ∧ LengthFits (Serialize.bind config))) ∧
    (NulFree (name.getD "") → NulFree text → types.length ≤ 65535 →
      (ParseMeets name text types ↔ LengthFits (Serialize.parse name text types))) ∧
    (ExecuteMeets exec ↔ NulFree (executePortal exec) ∧ LengthFits (Serialize.execute exec)) ∧
    Serialize.execute exec
      = Serialize.frame Serialize.codeExecute
        (Serialize.cstring (executePortal exec) ++ i32ToBe (executeRows exec)) ∧
    Pglite.simpleQueryMessage sql = Serialize.query sql := by
  refine ⟨fun hportal hstatement hcount => bindMeets_iff hportal hstatement (by omega),
    fun hname htext hcount => parseMeets_iff hname htext (by omega),
    executeMeets_iff exec, execute_eq exec, ?_⟩
  have hlen : (Serialize.cstring sql).length + 4 = (utf8 sql).length + 5 := by
    rw [Serialize.cstring, List.length_append]
    rfl
  show _ :: (_ ++ _) = _ :: (Serialize.length ((Serialize.cstring sql).length + 4) ++ _)
  rw [hlen]
  rfl

/-- A `Bind` with a value of each kind. -/
def mixedBind : BindConfig where
  portal := some "p"
  statement := none
  binary := false
  values := [.text "a", .null, .binary [0, 255]]
  valueMapper := none

/-- The values come back with their formats, and so does a `Parse`. -/
theorem extended_query_grammar_mixed :
    BindMeets mixedBind ∧ ParseMeets (some "s") "SELECT $1" [25] := by
  constructor
  · refine ((extended_query_grammar_iff mixedBind none "" [] none "").1 ?_ ?_
      (by decide)).mpr ⟨rfl, ?_⟩
    · show 0 ∉ utf8 "p"
      decide +kernel
    · show 0 ∉ utf8 ""
      decide +kernel
    · show (Serialize.bind mixedBind).length ≤ 2 ^ 31
      decide +kernel
  · refine ((extended_query_grammar_iff mixedBind (some "s") "SELECT $1" [25] none "").2.1 ?_ ?_
      (by decide)).mpr ?_
    · show 0 ∉ utf8 "s"
      decide +kernel
    · show 0 ∉ utf8 "SELECT $1"
      decide +kernel
    · show (Serialize.parse _ _ _).length ≤ 2 ^ 31
      decide +kernel

/-- A `Bind` that asks for binary results announces a format code and does not send it. -/
theorem binary_bind_unreadable : ¬ BindMeets { mixedBind with binary := true } := by
  have hnone : decodeMessage Serialize.codeBind bindBody
      (Serialize.bind { mixedBind with binary := true }) = none := by decide +kernel
  intro hmeets
  obtain ⟨request, hrequest, -⟩ := hmeets
  rw [hnone] at hrequest
  cases hrequest

end PgliteOxide.Protocol.Frontend
