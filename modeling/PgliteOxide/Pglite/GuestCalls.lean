import PgliteOxide.Lib.ProgScope
import PgliteOxide.Pglite.ErrorDetection
import PgliteOxide.Pglite.Pump

/-!
# The host's calls into the guest

How `postgres_mod.rs` talks to the backend outside of the pump: the exports of the module and the
reads and writes of its memory are the calls of a program. A call that traps answers with the text
of the trap. `GuestAllocator` lends the host blocks of guest memory, `WasixPgliteIo` works on the
two buffers of the bridge, and `send_protocol_inner` and `start_protocol_with_startup_packet` put
one message through them.
-/

namespace PgliteOxide.Pglite

open Lib

/-- The exports the host calls, and its access to the guest's memory. The exports for timings are
one call for a reset and one for the readings, which is answered with the id of a timing whose
reading traps. -/
inductive GuestCall where
  | resetTimings
  | recordTimings
  | malloc (length : UInt32)
  | free (ptr : Int32)
  | memoryWrite (ptr : Int32) (bytes : Bytes)
  | memoryRead (ptr : Int32) (length : ℕ)
  | inputReset
  | inputWrite (ptr : Int32) (length : UInt32)
  | inputAvailable
  | outputReset
  | outputLen
  | outputRead (ptr : Int32) (maxLength : UInt32)
  | pqBufferRemainingData
  | mainLoop
  | recoverError
  | sendReady
  | pqFlush
  | getPort
  | processStartup (port : Int32)
  | sendConnData
deriving DecidableEq, Repr

@[reducible] def GuestCall.Answer : GuestCall → Type
  | .malloc _ | .inputReset | .inputWrite .. | .inputAvailable | .outputReset | .outputLen
  | .outputRead .. | .pqBufferRemainingData | .getPort | .processStartup _ => Except String Int32
  | .memoryRead .. => Except String Bytes
  | .mainLoop => GuestReturn
  | .recordTimings => Except Int32 Unit
  | .resetTimings | .free _ | .memoryWrite .. | .recoverError | .sendReady
  | .pqFlush | .sendConnData => Except String Unit

abbrev GuestM := Prog GuestCall GuestCall.Answer BackendError

namespace GuestM

variable {α : Type}

/-- `bail!`. -/
def bail (text : String) : GuestM α := Prog.fail { display := text, startupOutput := none }

/-- `with_context` on the result of a call. -/
def orContext (text : String) : Except String α → GuestM α
  | .ok a => return a
  | .error _ => bail text

/-- `with_context` on a part of the program. -/
def context (text : String) (p : GuestM α) : GuestM α :=
  p.mapErr fun err => { err with display := text }

/-- `ensure!`. -/
def ensure (c : Prop) [Decidable c] (text : String) : GuestM Unit :=
  if c then return () else bail text

/-- An `if` without `else`. -/
def when (c : Prop) [Decidable c] (p : GuestM Unit) : GuestM Unit := if c then p else return ()

end GuestM

/-! ## `GuestAllocator` -/

namespace GuestAllocator

open GuestM

variable {α : Type}

/-- `{ptr:x}`. -/
def lowerHex (ptr : Int32) : String := String.ofList (Nat.toDigits 16 ptr.toUInt32.toNat)

/-- `allocate`. -/
def allocate (length : UInt32) : GuestM Int32 := do
  let ptr ← orContext "malloc guest allocation" (← Prog.perform (.malloc length))
  GuestM.ensure (0 < ptr) "malloc returned null for guest allocation"
  return ptr

/-- `run_and_free`: the block is given back after a failure as well. -/
def runAndFree (ptr : Int32) (f : Int32 → GuestM α) : GuestM α := do
  let result ← (f ptr).attempt
  let freed ← Prog.perform (GuestCall.free ptr)
  match result, freed with
  | .ok value, .ok () => return value
  | .ok _, .error _ => bail s!"free guest allocation at 0x{lowerHex ptr}"
  | .error err, .ok () => Prog.fail err
  | .error _, .error trap =>
    bail (s!"failed to free guest allocation at 0x{lowerHex ptr} after previous error: "
      ++ s!"free guest allocation at 0x{lowerHex ptr}: {trap}")

/-- `with_bytes`. -/
def withBytes (bytes : Bytes) (f : Int32 → GuestM α) : GuestM α := do
  let ptr ← allocate (UInt32.ofNat bytes.length)
  runAndFree ptr fun ptr => do
    orContext s!"write guest bytes at 0x{lowerHex ptr}" (← Prog.perform (.memoryWrite ptr bytes))
    f ptr

/-- `with_allocation`. -/
def withAllocation (length : Int32) (f : Int32 → GuestM α) : GuestM α := do
  let ptr ← allocate length.toUInt32
  runAndFree ptr f

end GuestAllocator

/-! ## `WasixPgliteIo` -/

namespace WasixPgliteIo

open GuestM GuestAllocator

/-- `reset`. -/
def reset : GuestM Unit := do
  let code ← orContext "pgl_wasix_input_reset" (← Prog.perform .inputReset)
  GuestM.ensure (code = 0) "pgl_wasix_input_reset failed"
  let code ← orContext "pgl_wasix_output_reset" (← Prog.perform .outputReset)
  GuestM.ensure (code = 0) "pgl_wasix_output_reset failed"

/-- `push_input`. -/
def pushInput (bytes : Bytes) : GuestM Unit :=
  if bytes = [] then return ()
  else do
    let written ← withBytes bytes fun ptr => do
      orContext "pgl_wasix_input_write"
        (← Prog.perform (.inputWrite ptr (UInt32.ofNat bytes.length)))
    GuestM.ensure (written = Int32.ofNat bytes.length)
      s!"pgl_wasix_input_write wrote {written.toInt}, expected {bytes.length}"

/-- `available`. -/
def available : GuestM Int32 := do
  let available ← orContext "pgl_wasix_input_available" (← Prog.perform .inputAvailable)
  GuestM.ensure (0 ≤ available)
    s!"pgl_wasix_input_available returned negative length {available.toInt}"
  return available

/-- The closure of `take_output`. -/
def readOutput (len ptr : Int32) : GuestM Bytes := do
  let read ← orContext "pgl_wasix_output_read"
    (← Prog.perform (.outputRead ptr len.toUInt32))
  GuestM.ensure (0 ≤ read ∧ read ≤ len) s!"invalid pgl_wasix_output_read length {read.toInt}"
  orContext s!"read SQL output at 0x{lowerHex ptr}"
    (← Prog.perform (.memoryRead ptr read.toInt.toNat))

/-- `take_output`. -/
def takeOutput : GuestM Bytes := do
  let len ← orContext "pgl_wasix_output_len" (← Prog.perform .outputLen)
  GuestM.ensure (0 ≤ len) s!"pgl_wasix_output_len returned negative length {len.toInt}"
  if len = 0 then return []
  else do
    let bytes ← withAllocation len (readOutput len)
    let code ← orContext "pgl_wasix_output_reset after read" (← Prog.perform .outputReset)
    GuestM.ensure (code = 0) "pgl_wasix_output_reset after read failed"
    return bytes

end WasixPgliteIo

/-! ## One exchange -/

section Exchange

open GuestM WasixPgliteIo

/-- `protocol_input_remaining`. -/
def protocolInputRemaining : GuestM Int32 := do
  let hostRemaining ← available
  if 0 < hostRemaining then return hostRemaining
  else do
    let remaining ← Prog.perform .pqBufferRemainingData
    orContext "pq_buffer_remaining_data" remaining

/-- The loop of `recover_protocol_error`, with the attempts that are left. -/
def drainInput (payloadLen : ℕ) : ℕ → GuestM Unit
  | 0 => do
    GuestM.ensure (¬ 0 < (← protocolInputRemaining))
      ("Postgres protocol recovery did not drain buffered input after "
        ++ s!"{maxAttempts payloadLen + 1} attempts")
  | left + 1 => do
    if 0 < (← protocolInputRemaining) then
      let ended ← Prog.perform GuestCall.mainLoop
      when (ended ≠ .returned) do
        orContext "PostgresMainLongJmp while draining after protocol trap"
          (← Prog.perform .recoverError)
      drainInput payloadLen left
    else
      return ()

/-- `recover_protocol_error`. -/
def recoverProtocolError (payloadLen : ℕ) : GuestM Unit := do
  orContext "PostgresMainLongJmp after protocol trap" (← Prog.perform .recoverError)
  drainInput payloadLen (maxAttempts payloadLen)

/-- The loop of `send_protocol_inner`, with the attempts that are left; it returns
`recovered_protocol_error`. -/
def dispatchInput (payloadLen : ℕ) : ℕ → Bool → GuestM Bool
  | 0, recovered => do
    GuestM.ensure (¬ 0 < (← protocolInputRemaining))
      ("Postgres protocol dispatch did not drain buffered input after "
        ++ s!"{maxAttempts payloadLen + 1} attempts")
    return recovered
  | left + 1, recovered => do
    if 0 < (← protocolInputRemaining) then
      -- whatever ended the call, the error is recovered from in the same way
      let ended ← Prog.perform GuestCall.mainLoop
      if ended = .returned then
        dispatchInput payloadLen left recovered
      else do
        recoverProtocolError payloadLen
        dispatchInput payloadLen left true
    else
      return recovered

/-- `recover_non_trapping_protocol_error`. -/
def recoverNonTrappingProtocolError : GuestM Unit := do
  orContext "PostgresMainLongJmp after backend ErrorResponse" (← Prog.perform .recoverError)
  orContext "PostgresSendReadyForQueryIfNecessary after backend ErrorResponse"
    (← Prog.perform .sendReady)
  orContext "pgl_pq_flush after backend ErrorResponse recovery" (← Prog.perform .pqFlush)
  let _ ← takeOutput

/-- `protocol_response_contains_error`, which does not panic. -/
def containsError (response : Bytes) : Bool :=
  match protocolResponseContainsError response with
  | .ok found => found
  | _ => false

/-- `record_backend_c_timings`. -/
def recordBackendCTimings : GuestM Unit := do
  match ← Prog.perform GuestCall.recordTimings with
  | .ok () => return ()
  | .error id => bail s!"pgl_backend_timing_elapsed_us({id})"

/-- `send_protocol_inner`. -/
def sendProtocolInner (payload : Bytes) : GuestM Bytes := do
  orContext "pgl_backend_timing_reset" (← Prog.perform .resetTimings)
  reset
  pushInput payload
  let recovered ← dispatchInput payload.length (maxAttempts payload.length) false
  orContext "PostgresSendReadyForQueryIfNecessary" (← Prog.perform .sendReady)
  orContext "pgl_pq_flush after protocol buffer" (← Prog.perform .pqFlush)
  let output ← context "take backend output after protocol buffer" takeOutput
  when ((!recovered && containsError output) = true) recoverNonTrappingProtocolError
  recordBackendCTimings
  return output

/-- `start_protocol_with_startup_packet`, once the cluster is there and the protocol not started. -/
def processStartupPacket (startup : Bytes) : GuestM StartupProtocolResponse := do
  reset
  pushInput startup
  let port ← orContext "pgl_getMyProcPort" (← Prog.perform .getPort)
  GuestM.ensure (0 < port) "pgl_getMyProcPort returned null"
  let status ← orContext "ProcessStartupPacket" (← Prog.perform (.processStartup port))
  if status ≠ 0 then
    -- the packet was refused, and why is in the output; a flush that traps is ignored
    let _ ← Prog.perform .pqFlush
    let output ← takeOutput
    return { output, accepted := false }
  else do
    orContext "pgl_sendConnData" (← Prog.perform .sendConnData)
    orContext "pgl_pq_flush after startup" (← Prog.perform .pqFlush)
    let output ← takeOutput
    return { output, accepted := true }

end Exchange

/-! ## A session -/

/-- What the host asks of a backend that runs. -/
inductive GuestRequest where
  | startup (packet : Bytes)
  | protocol (payload : Bytes)
deriving DecidableEq, Repr

/-- One request, with what the backend answers. -/
def GuestRequest.serve : GuestRequest → GuestM Bytes
  | .startup packet => do
    let response ← processStartupPacket packet
    return response.output
  | .protocol payload => sendProtocolInner payload

/-- Requests one after the other, with their results; the host goes on after one that fails. -/
def serveRequests : List GuestRequest → GuestM (List (Except BackendError Bytes))
  | [] => return []
  | request :: requests => do
    let result ← request.serve.attempt
    let results ← serveRequests requests
    return result :: results

end PgliteOxide.Pglite
