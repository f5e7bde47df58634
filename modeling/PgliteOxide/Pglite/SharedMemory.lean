import Mathlib.Algebra.Group.Nat.Defs
import Mathlib.Algebra.Ring.Int.Defs
import PgliteOxide.Lib.Registry

/-!
# Shared memory

The System V shared memory of `pglite_wasix_bridge.c`: a linked list of segments, each with the
block of memory it stands for and the number of times it is attached. The calls take from outside
what `calloc` answers. The contract of the interface is about the calls made so far, so a history
keeps them beside the state of the bridge (`ShmHistory`, `ShmContract`).
-/

namespace PgliteOxide.Pglite

open Lib

/-! ## The bridge -/

/-- `IPC_PRIVATE`. -/
def ipcPrivate : Int32 := 0

/-- `IPC_CREAT`. -/
def ipcCreat : Int32 := 512

/-- `IPC_EXCL`. -/
def ipcExcl : Int32 := 1024

/-- `IPC_RMID`. -/
def ipcRmid : Int32 := 0

/-- `IPC_SET`. -/
def ipcSet : Int32 := 1

/-- `IPC_STAT`. -/
def ipcStat : Int32 := 2

/-- The values of `errno` the calls set. -/
inductive ShmErrno where
  | eexist
  | enoent
  | enomem
  | einval
deriving DecidableEq, Repr

structure WasixShmSegment where
  shmid : Int32
  key : Int32
  size : UInt32
  addr : UInt32
  nattch : UInt32
deriving DecidableEq, Repr

/-- A block of memory `calloc` gave and `free` has not taken back. -/
structure ShmBlock where
  addr : UInt32
  size : UInt32
deriving DecidableEq, Repr

/-- `wasix_shm_list`, `wasix_next_shmid`, and the blocks of the segments. -/
structure WasixShm where
  list : List WasixShmSegment
  nextShmid : Int32
  blocks : List ShmBlock
deriving DecidableEq, Repr

/-- `shmid_ds` without its times. -/
structure ShmidDs where
  key : Int32
  segsz : UInt32
  nattch : UInt32
deriving DecidableEq, Repr

/-- What `calloc` answers for the block, and whether it has room for the entry of the list. -/
structure CallocAnswers where
  addr : Option UInt32
  entry : Bool
deriving DecidableEq, Repr

namespace WasixShm

def initial : WasixShm := { list := [], nextShmid := 1, blocks := [] }

def findByKey (shm : WasixShm) (key : Int32) : Option WasixShmSegment :=
  shm.list.find? fun seg => seg.key == key

def findById (shm : WasixShm) (shmid : Int32) : Option WasixShmSegment :=
  shm.list.find? fun seg => seg.shmid == shmid

/-- The loop of `pgl_shmdt`. -/
def findByAddr (shm : WasixShm) (addr : UInt32) : Option WasixShmSegment :=
  shm.list.find? fun seg => seg.addr == addr

/-- The memory at an address is allocated. -/
def IsAllocated (shm : WasixShm) (addr : UInt32) : Prop := ∃ block ∈ shm.blocks, block.addr = addr

instance (shm : WasixShm) (addr : UInt32) : Decidable (shm.IsAllocated addr) :=
  inferInstanceAs (Decidable (∃ block ∈ shm.blocks, block.addr = addr))

/-- `free`. -/
def free (shm : WasixShm) (addr : UInt32) : WasixShm :=
  { shm with blocks := shm.blocks.filter fun block => block.addr != addr }

/-- The size a segment is allocated with: whole pages, at least one. -/
def allocSize (size : UInt32) (pagesize : Int32) : UInt32 :=
  let size := if size ≠ 0 then size else 1
  if pagesize > 0 then ((size + pagesize.toUInt32 - 1) / pagesize.toUInt32) * pagesize.toUInt32
  else size

/-- `pgl_shmget`, with the page size `sysconf` returns. -/
def shmget (shm : WasixShm) (key : Int32) (size : UInt32) (shmflg : Int32) (pagesize : Int32)
    (calloc : CallocAnswers) : WasixShm × Except ShmErrno Int32 :=
  match shm.findByKey key with
  | some existing =>
    if shmflg &&& ipcCreat ≠ 0 ∧ shmflg &&& ipcExcl ≠ 0 then (shm, .error .eexist)
    else (shm, .ok existing.shmid)
  | none =>
    if shmflg &&& ipcCreat = 0 then (shm, .error .enoent)
    else
      match calloc.addr with
      | none => (shm, .error .enomem)
      | some addr =>
        let allocated :=
          { shm with blocks := { addr, size := allocSize size pagesize } :: shm.blocks }
        if calloc.entry then
          let seg : WasixShmSegment := { shmid := shm.nextShmid, key, size, addr, nattch := 0 }
          ({ allocated with list := seg :: shm.list, nextShmid := shm.nextShmid + 1 },
            .ok seg.shmid)
        else (allocated.free addr, .error .enomem)

/-- `pgl_shmat`. -/
def shmat (shm : WasixShm) (shmid : Int32) : WasixShm × Except ShmErrno UInt32 :=
  match shm.findById shmid with
  | none => (shm, .error .einval)
  | some seg =>
    let list := updateFirst (fun seg => seg.shmid == shmid)
      (fun seg => { seg with nattch := seg.nattch + 1 }) shm.list
    ({ shm with list := list }, .ok seg.addr)

/-- `pgl_shmdt`. -/
def shmdt (shm : WasixShm) (addr : UInt32) : WasixShm × Except ShmErrno Unit :=
  match shm.findByAddr addr with
  | none => (shm, .error .einval)
  | some _ =>
    let list := updateFirst (fun seg => seg.addr == addr)
      (fun seg => if seg.nattch > 0 then { seg with nattch := seg.nattch - 1 } else seg) shm.list
    ({ shm with list := list }, .ok ())

/-- `pgl_shmctl`, with what is in the buffer afterwards. -/
def shmctl (shm : WasixShm) (shmid cmd : Int32) (buf : Option ShmidDs) :
    WasixShm × Except ShmErrno (Option ShmidDs) :=
  match shm.findById shmid with
  | none => (shm, .error .einval)
  | some seg =>
    if cmd = ipcRmid then
      let list := shm.list.eraseP fun seg => seg.shmid == shmid
      ({ shm with list := list }.free seg.addr, .ok buf)
    else if cmd = ipcStat then
      match buf with
      | none => (shm, .error .einval)
      | some _ => (shm, .ok (some { key := seg.key, segsz := seg.size, nattch := seg.nattch }))
    else if cmd = ipcSet then
      match buf with
      | none => (shm, .error .einval)
      | some ds =>
        let list := updateFirst (fun seg => seg.shmid == shmid)
          (fun seg => { seg with size := ds.segsz }) shm.list
        ({ shm with list := list }, .ok buf)
    else (shm, .error .einval)

end WasixShm

/-! ## Calls -/

inductive ShmCall where
  | shmget (key : Int32) (size : UInt32) (shmflg pagesize : Int32) (calloc : CallocAnswers)
  | shmat (shmid : Int32)
  | shmdt (addr : UInt32)
  | shmctl (shmid cmd : Int32) (buf : Option ShmidDs)
deriving DecidableEq

/-- What a call did for its caller. -/
inductive ShmEvent where
  | created (shmid : Int32)
  | attached (shmid : Int32) (addr : UInt32)
  | detached (shmid : Int32)
deriving DecidableEq

/-- The state of the bridge and what the calls have done, the last one first. -/
structure ShmHistory where
  shm : WasixShm
  events : List ShmEvent
deriving DecidableEq

namespace ShmHistory

def initial : ShmHistory := { shm := .initial, events := [] }

/-- What a call does for its caller; what is detached is the segment at the address. -/
def eventsOf (shm : WasixShm) : ShmCall → List ShmEvent
  | .shmget key size shmflg pagesize calloc =>
    match shm.findByKey key, (shm.shmget key size shmflg pagesize calloc).2 with
    | none, .ok shmid => [.created shmid]
    | _, _ => []
  | .shmat shmid =>
    match (shm.shmat shmid).2 with
    | .ok addr => [.attached shmid addr]
    | .error _ => []
  | .shmdt addr =>
    match shm.findByAddr addr with
    | some seg => [.detached seg.shmid]
    | none => []
  | .shmctl _ _ _ => []

/-- The state of the bridge after a call. -/
def after (shm : WasixShm) : ShmCall → WasixShm
  | .shmget key size shmflg pagesize calloc => (shm.shmget key size shmflg pagesize calloc).1
  | .shmat shmid => (shm.shmat shmid).1
  | .shmdt addr => (shm.shmdt addr).1
  | .shmctl shmid cmd buf => (shm.shmctl shmid cmd buf).1

def step (h : ShmHistory) (call : ShmCall) : ShmHistory :=
  { shm := after h.shm call, events := eventsOf h.shm call ++ h.events }

/-- The number of segments created. -/
def creations (events : List ShmEvent) : ℕ :=
  events.countP fun event => match event with
    | .created _ => true
    | _ => false

/-- How often a segment was attached. -/
def attaches (events : List ShmEvent) (shmid : Int32) : ℕ :=
  events.countP fun event => match event with
    | .attached id _ => id == shmid
    | _ => false

/-- How often a segment was detached. -/
def detaches (events : List ShmEvent) (shmid : Int32) : ℕ :=
  events.countP fun event => match event with
    | .detached id => id == shmid
    | _ => false

end ShmHistory

/-! ## The contract -/

/-- What holds between two calls. -/
structure ShmContract (h : ShmHistory) : Prop where
  /-- Live segments have distinct ids. -/
  distinct : (h.shm.list.map WasixShmSegment.shmid).Nodup
  /-- A key that is not private has at most one live segment. -/
  onePerKey : ((h.shm.list.map WasixShmSegment.key).filter fun key => key != ipcPrivate).Nodup
  /-- `nattch` is attaches minus detaches. -/
  nattch_eq : ∀ seg ∈ h.shm.list, (seg.nattch.toNat : ℤ)
    = ShmHistory.attaches h.events seg.shmid - ShmHistory.detaches h.events seg.shmid
  /-- The memory of a segment is there until it is detached as often as attached. -/
  memory : ∀ shmid addr, .attached shmid addr ∈ h.events →
    ShmHistory.detaches h.events shmid < ShmHistory.attaches h.events shmid →
    h.shm.IsAllocated addr

/-- A call for a private segment yields a segment that was not there, unless memory runs out. -/
def PrivateIsFresh (h : ShmHistory) : ShmCall → Prop
  | .shmget key size shmflg pagesize calloc => key = ipcPrivate →
    match (h.shm.shmget key size shmflg pagesize calloc).2 with
    | .ok shmid => shmid ∉ h.shm.list.map WasixShmSegment.shmid ∧
        shmid ∈ (h.shm.shmget key size shmflg pagesize calloc).1.list.map WasixShmSegment.shmid
    | .error errno => errno = .enomem
  | _ => True

/-- The contract of a call: its own part, and the state it leaves. -/
def KeepsContract (h : ShmHistory) (call : ShmCall) : Prop :=
  PrivateIsFresh h call ∧ ShmContract (h.step call)

/-- What `calloc` promises: a block that is not in use, at an address that is not zero. -/
def Grants (h : ShmHistory) : ShmCall → Prop
  | .shmget _ _ _ _ calloc => ∀ addr ∈ calloc.addr, addr ≠ 0 ∧ ¬ h.shm.IsAllocated addr
  | _ => True

instance (h : ShmHistory) : ∀ call, Decidable (Grants h call)
  | .shmget _ _ _ _ calloc =>
    Option.decidableForallMem calloc.addr
  | .shmat _ | .shmdt _ | .shmctl _ _ _ => inferInstanceAs (Decidable True)

/-- The calls the bridge can serve: a private segment is asked for with `IPC_CREAT` and while there
is no other, what is detached is attached, what is removed is not, and no count wraps. -/
def ShmCall.Supported (h : ShmHistory) : ShmCall → Prop
  | .shmget key _ shmflg _ _ => key = ipcPrivate →
    shmflg &&& ipcCreat ≠ 0 ∧ ∀ seg ∈ h.shm.list, seg.key ≠ ipcPrivate
  | .shmat shmid => ∀ seg ∈ h.shm.list, seg.shmid = shmid → seg.nattch.toNat + 1 < 2 ^ 32
  | .shmdt addr => ∀ seg ∈ h.shm.list, seg.addr = addr → 0 < seg.nattch.toNat
  | .shmctl shmid cmd _ => cmd = ipcRmid →
    ∀ seg ∈ h.shm.list, seg.shmid = shmid → seg.nattch.toNat = 0

instance (h : ShmHistory) : ∀ call : ShmCall, Decidable (call.Supported h)
  | .shmget _ _ _ _ _ => inferInstanceAs (Decidable (_ → _ ∧ ∀ seg ∈ h.shm.list, _))
  | .shmat _ => inferInstanceAs (Decidable (∀ seg ∈ h.shm.list, _ → _))
  | .shmdt _ => inferInstanceAs (Decidable (∀ seg ∈ h.shm.list, _ → _))
  | .shmctl _ _ _ => inferInstanceAs (Decidable (_ → ∀ seg ∈ h.shm.list, _ → _))

end PgliteOxide.Pglite
