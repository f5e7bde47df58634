import Mathlib.Data.List.Infix
import PgliteOxide.Lib.Outcome
import PgliteOxide.Protocol.Serializer

/-!
# `BufferWriter`

The growable buffer of `protocol/buffer_writer.rs`: zero-filled, five bytes in front kept free for
a header, an offset behind what is written. What it stands for is a list one appends to
(`WriterOp.pending`, `WriterOp.results`).
-/

namespace PgliteOxide.Protocol

open Lib

/-! ## The buffer -/

structure BufferWriter where
  buffer : Bytes
  size : ℕ
  offset : ℕ
deriving DecidableEq, Repr

namespace BufferWriter

/-- `vec![0; size]`. -/
def zeros (size : ℕ) : Outcome Empty Bytes := do
  withCapacity 1 size
  return List.replicate size 0

/-- `buffer.resize(new_len, 0)`. -/
def resize (buffer : Bytes) (newLen : ℕ) : Outcome Empty Bytes := do
  withCapacity 1 newLen
  return buffer.take newLen ++ List.replicate (newLen - buffer.length) 0

def new (size : ℕ) : Outcome Empty BufferWriter := do
  let buffer ← zeros size
  -- header space: a code and a length
  return { buffer, size, offset := 5 }

/-- `BufferWriter::default`. -/
def default : Outcome Empty BufferWriter := new 256

def ensureCapacity (build : Build) (w : BufferWriter) (additional : ℕ) :
    Outcome Empty BufferWriter := do
  let room ← usizeSub build w.buffer.length w.offset
  if room < additional then
    let oldLen := w.buffer.length
    let half ← usizeAdd build oldLen (oldLen / 2)
    let newLen ← usizeAdd build half additional
    let newLen ← if newLen = oldLen then usizeAdd build newLen additional else pure newLen
    let buffer ← resize w.buffer newLen
    return { w with buffer := buffer }
  else
    return w

def writeBeBytes (build : Build) (w : BufferWriter) (bytes : Bytes) :
    Outcome Empty BufferWriter := do
  let len := bytes.length
  let w ← w.ensureCapacity build len
  let stop ← usizeAdd build w.offset len
  let buffer ← copyFromSlice w.buffer w.offset stop bytes
  let offset ← usizeAdd build w.offset len
  return { w with buffer := buffer, offset := offset }

def addInt32 (build : Build) (w : BufferWriter) (value : Int32) : Outcome Empty BufferWriter :=
  w.writeBeBytes build (i32ToBe value)

def addInt16 (build : Build) (w : BufferWriter) (value : Int16) : Outcome Empty BufferWriter :=
  w.writeBeBytes build (i16ToBe value)

def addBytes (build : Build) (w : BufferWriter) (bytes : Bytes) : Outcome Empty BufferWriter :=
  w.writeBeBytes build bytes

def addString (build : Build) (w : BufferWriter) (value : String) :
    Outcome Empty BufferWriter := do
  let length := (utf8 value).length
  let w ← w.ensureCapacity build length
  let stop ← usizeAdd build w.offset length
  let buffer ← copyFromSlice w.buffer w.offset stop (utf8 value)
  return { w with buffer := buffer, offset := stop }

def addCstring (build : Build) (w : BufferWriter) (value : String) :
    Outcome Empty BufferWriter := do
  let w ← if value ≠ "" then w.addString build value else pure w
  w.addBytes build [0]

def join (build : Build) (w : BufferWriter) (code : Option UInt8) :
    Outcome Empty (Bytes × BufferWriter) := do
  let (start, w) ← match code with
    | some code => do
      let buffer ← setIndex w.buffer 0 code
      let length ← usizeSub build w.offset 1
      let buffer ← copyFromSlice buffer 1 5 (i32ToBe (UInt32.ofNat length).toInt32)
      pure (0, { w with buffer := buffer })
    | none => pure (5, w)
  let bytes ← slice w.buffer start w.offset
  return (bytes, w)

def flush (build : Build) (w : BufferWriter) (code : Option UInt8) :
    Outcome Empty (Bytes × BufferWriter) := do
  let (result, w) ← w.join build code
  let buffer ← zeros w.size
  return (result, { w with buffer := buffer, offset := 5 })

end BufferWriter

/-! ## Runs -/

/-- A call that adds to the body. -/
inductive Addition where
  | int16 (value : Int16)
  | int32 (value : Int32)
  | string (value : String)
  | cstring (value : String)
  | bytes (value : Bytes)
deriving DecidableEq

inductive WriterOp where
  | add (addition : Addition)
  | flush (code : Option UInt8)
deriving DecidableEq

namespace BufferWriter

/-- The call an addition stands for. -/
def add (build : Build) (w : BufferWriter) : Addition → Outcome Empty BufferWriter
  | .int16 value => w.addInt16 build value
  | .int32 value => w.addInt32 build value
  | .string value => w.addString build value
  | .cstring value => w.addCstring build value
  | .bytes value => w.addBytes build value

/-- Calls one after the other, with what the flushes return. -/
def run (build : Build) (w : BufferWriter) :
    List WriterOp → Outcome Empty (List Bytes × BufferWriter)
  | [] => .ok ([], w)
  | .add addition :: ops => do
    let w ← w.add build addition
    w.run build ops
  | .flush code :: ops => do
    let (result, w) ← w.flush build code
    let (results, w) ← w.run build ops
    return (result :: results, w)

end BufferWriter

/-! ## A list one appends to -/

/-- The bytes of an addition. -/
def Addition.encoding : Addition → Bytes
  | .int16 value => i16ToBe value
  | .int32 value => i32ToBe value
  | .string value => utf8 value
  | .cstring value => Serialize.cstring value
  | .bytes value => value

namespace WriterOp

/-- What is waiting for a flush after an operation. -/
def pendingAfter (body : Bytes) : WriterOp → Bytes
  | .add addition => body ++ addition.encoding
  | .flush _ => []

/-- What is waiting for a flush after operations. -/
def pending (body : Bytes) (ops : List WriterOp) : Bytes := ops.foldl pendingAfter body

/-- What a flush returns: the body, behind a header if there is a code. -/
def flushed (body : Bytes) : Option UInt8 → Bytes
  | some code => Serialize.frame code body
  | none => body

/-- What the flushes return. -/
def results (body : Bytes) : List WriterOp → List Bytes
  | [] => []
  | .add addition :: ops => results (body ++ addition.encoding) ops
  | .flush code :: ops => flushed body code :: results [] ops

/-- At no time the body reaches `2 ^ 31 - 4` bytes. -/
def Short (body : Bytes) (ops : List WriterOp) : Prop :=
  ∀ front, front <+: ops → (pending body front).length < 2 ^ 31 - 4

instance (body : Bytes) (ops : List WriterOp) : Decidable (Short body ops) :=
  decidable_of_iff (∀ front ∈ ops.inits, (pending body front).length < 2 ^ 31 - 4) (by
    simp only [List.mem_inits]
    rfl)

lemma Short.head {body : Bytes} {ops : List WriterOp} (h : Short body ops) :
    body.length < 2 ^ 31 - 4 := h [] List.nil_prefix

lemma Short.tail {body : Bytes} {op : WriterOp} {ops : List WriterOp} (h : Short body (op :: ops)) :
    Short (pendingAfter body op) ops := by
  intro front hfront
  exact h (op :: front) ((List.prefix_cons_inj op).mpr hfront)

end WriterOp

end PgliteOxide.Protocol
