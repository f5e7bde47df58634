import PgliteOxide.Lib.Outcome
import PgliteOxide.Lib.Utf8
import PgliteOxide.Protocol.Messages

/-!
# `BufferReader`

The cursor of `protocol/buffer_reader.rs` over one message body, and the decoding monad its
methods live in: a decoder reads the build profile (does `usize` overflow panic or wrap?) and
moves the cursor, or stops with an error or a panic.
-/

namespace PgliteOxide.Protocol

open Lib

/-- A cursor over a byte slice. -/
structure BufferReader where
  buffer : Bytes
  offset : ℕ
deriving DecidableEq, Repr

/-- A decoder. -/
def Decode (α : Type) : Type := Build → BufferReader → Outcome Error (α × BufferReader)

namespace Decode

variable {α β : Type}

instance : Monad Decode where
  pure a := fun _ r => .ok (a, r)
  bind x f := fun build r => x build r >>= fun p => f p.1 build p.2

@[simp] lemma bind_apply (x : Decode α) (f : α → Decode β) (build : Build) (r : BufferReader) :
    (x >>= f) build r = (x build r >>= fun p => f p.1 build p.2) := rfl

/-- `return Err(e)`. -/
def fail (e : Error) : Decode α := fun _ _ => .err e

/-- A step that does not touch the cursor. -/
def lift (x : Outcome Error α) : Decode α := fun _ r => x >>= fun a => .ok (a, r)

/-- `for _ in 0..count { out.push(d?) }`. -/
def times (d : Decode α) : ℕ → Decode (List α)
  | 0 => pure []
  | n + 1 => do
    let a ← d
    let rest ← times d n
    pure (a :: rest)

@[simp] lemma lift_apply (x : Outcome Error α) (build : Build) (r : BufferReader) :
    lift x build r = x >>= fun a => .ok (a, r) := rfl

end Decode

namespace BufferReader

/-- The text `ensure!` reports when a read runs past the body. -/
def underflowText (need have_ : ℕ) : String :=
  s!"buffer underflow (need {need} bytes, have {have_})"

/-- `take_slice`: both additions are `usize` additions, the slice is checked. -/
def takeSlice (len : ℕ) : Decode Bytes := fun build r => do
  let sum ← usizeAdd build r.offset len
  if sum ≤ r.buffer.length then
    let stop ← usizeAdd build r.offset len
    let bytes ← slice r.buffer r.offset stop
    let offset ← usizeAdd build r.offset len
    return (bytes, { r with offset := offset })
  else
    .err (.msg (underflowText len (r.buffer.length - r.offset)))

/-- `int16`. -/
def int16 : Decode Int16 := do
  let bytes ← takeSlice 2
  let b0 ← Decode.lift (index bytes 0)
  let b1 ← Decode.lift (index bytes 1)
  return i16FromBe b0 b1

/-- `byte`. -/
def byte : Decode UInt8 := do
  let bytes ← takeSlice 1
  Decode.lift (index bytes 0)

/-- `int32`. -/
def int32 : Decode Int32 := do
  let bytes ← takeSlice 4
  let b0 ← Decode.lift (index bytes 0)
  let b1 ← Decode.lift (index bytes 1)
  let b2 ← Decode.lift (index bytes 2)
  let b3 ← Decode.lift (index bytes 3)
  return i32FromBe b0 b1 b2 b3

/-- `std::str::from_utf8(bytes)?.to_owned()`. -/
def toText (bytes : Bytes) : Outcome Error String :=
  match fromUtf8 bytes with
  | some text => .ok text
  | none => .err .utf8

/-- `string`. -/
def string (length : ℕ) : Decode String := do
  let bytes ← takeSlice length
  Decode.lift (toText bytes)

/-- `cstring`: the byte loop stops at the first NUL at or after the cursor, or at the end of
the body. -/
def cstring : Decode String := fun _ r =>
  match (r.buffer.drop r.offset).findIdx? (· == 0) with
  | none => .err (.msg "unterminated cstring")
  | some n => do
    let bytes ← slice r.buffer r.offset (r.offset + n)
    let text ← toText bytes
    return (text, { r with offset := r.offset + n + 1 })

/-- `bytes`. -/
def bytes (length : ℕ) : Decode Bytes := takeSlice length

end BufferReader

end PgliteOxide.Protocol
