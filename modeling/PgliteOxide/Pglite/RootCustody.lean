import PgliteOxide.Lib.ProgScope
import PgliteOxide.Pglite.Extensions
import PgliteOxide.Pglite.RootLock

/-!
# Who works in a root directory

`PgliteBuilder::open` locks a root before anything is done in it, and the lock goes with the
instance: a successful `close` gives it back, and so does the drop. Most methods ask `check_ready`
before they touch the root, but `enable_extension` and the raw protocol methods do not, so that an
instance that has been closed can still work in a root that another one has locked since. A
temporary directory is not locked at all, so that its path can be opened as a root as long as it is
there. Sessions of any processes run side by side here; `work_exclusive_iff` says when no two of
them are ever at work in one directory.
-/

namespace PgliteOxide.Pglite.RootUse

open Lib

/-! ## Calls -/

/-- What is done in a root directory. -/
inductive RootJob where
  /-- `prepare_root` behind the lock. -/
  | prepareRoot
  /-- `BackendSession::open`. -/
  | openBackend
  /-- An exchange with the backend. -/
  | exchange
  /-- `install_bundled_extension_bytes`. -/
  | installExtension
  /-- `preload_extension_module`. -/
  | preloadModule
  /-- `archive_quiesced_pgdata`. -/
  | dumpDataDir
  /-- `BackendSession::shutdown`. -/
  | shutdown
  /-- `Drop for TempDir`. -/
  | removeTempDir
deriving DecidableEq

/-- How `archive_quiesced_pgdata` ends. -/
inductive DumpEnd where
  | archived
  | failed
  /-- The backend has not been restarted. -/
  | notRestarted
deriving DecidableEq

/-- The extensions a root has been prepared with, or whether a job was done. -/
abbrev RootJob.Answer : RootJob → Type
  | prepareRoot => Option (List String)
  | dumpDataDir => DumpEnd
  | _ => Bool

/-- What happens between two steps of other sessions. -/
inductive CustodyOp where
  | lock (process : ℕ) (op : LockOp)
  /-- `TempDir::new`. -/
  | createTempDir
  | work (root : HostPath) (job : RootJob)
deriving DecidableEq

abbrev CustodyOp.Answer : CustodyOp → Type
  | lock _ op => op.Answer
  | createTempDir => Except String HostPath
  | work _ job => job.Answer

/-- Why a database was not opened. -/
inductive OpenError where
  | lock (err : LockError)
  | tempDir (err : String)
  | prepareRoot
  | openBackend
  | setRole
  | enableExtension
deriving DecidableEq

abbrev CustodyProg (α : Type) := Prog CustodyOp CustodyOp.Answer OpenError α

/-- The calls of a process with its own set of locked paths. -/
def asProcess {α : Type} (process : ℕ) : LockProg α → CustodyProg α
  | .ret a => .ret a
  | .fail err => .fail (.lock err)
  | .call op next => .call (.lock process op) fun ans => asProcess process (next ans)

abbrev work (root : HostPath) (job : RootJob) : CustodyProg job.Answer :=
  Prog.perform (CustodyOp.work root job)

/-! ## Instances -/

/-- An entry of `notify_listeners`. -/
structure ChannelEntry where
  id : UInt64
  channel : String
deriving DecidableEq

/-- `Pglite`, as far as it decides who works in the root. -/
structure OpenDb where
  root : HostPath
  lock : Option RootLock
  tempDir : Bool
  ready : Bool
  closing : Bool
  closed : Bool
  notifyListeners : List ChannelEntry
  nextListenerId : UInt64

/-- The errors of the methods. -/
inductive CallError where
  | isClosing
  | isClosed
  | notReady
  | failed
deriving DecidableEq

/-- The methods of `Pglite`. -/
inductive DbCall where
  /-- A method that does its work in exchanges and asks `check_ready` first. -/
  | exec
  | listen (channel : String)
  | unlisten (handle : ChannelEntry)
  | unlistenChannel (channel : String)
  | dumpDataDir
  | enableExtension (extension : Extension)
  /-- `exec_protocol`, `exec_protocol_raw` and `exec_protocol_raw_stream`. -/
  | execProtocol
  | close
deriving DecidableEq

namespace OpenDb

/-- What a method leaves and how it ends. -/
abbrev Ended := OpenDb × Except CallError Unit

/-- `check_ready`. -/
def checkReady (db : OpenDb) : Except CallError Unit :=
  if db.closing then .error .isClosing
  else if db.closed then .error .isClosed
  else if !db.ready then .error .notReady
  else .ok ()

/-- `exec_internal`. -/
def execInternal (db : OpenDb) : CustodyProg (Except CallError Unit) := do
  if ← work db.root .exchange then return .ok () else return .error .failed

/-- `exec`. -/
def exec (db : OpenDb) : CustodyProg (Except CallError Unit) :=
  match db.checkReady with
  | .error err => return .error err
  | .ok () => db.execInternal

/-- The loop over the statements that set an extension up. -/
def setUp (db : OpenDb) : List String → CustodyProg (Except CallError Unit)
  | [] => return .ok ()
  | _ :: statements => do
    match ← db.exec with
    | .error err => return .error err
    | .ok () => db.setUp statements

/-- The module is loaded and the statements are executed. -/
def preloadAndSetUp (db : OpenDb) (statements : List String) :
    CustodyProg (Except CallError Unit) := do
  if ← work db.root .preloadModule then db.setUp statements else return .error .failed

/-- `enable_preinstalled_extension`. -/
def enablePreinstalledExtension (db : OpenDb) (extension : Extension) :
    CustodyProg (Except CallError Unit) :=
  db.preloadAndSetUp (extensionSessionSetupSql extension)

/-- `enable_extension`. -/
def enableExtension (db : OpenDb) (extension : Extension) :
    CustodyProg (Except CallError Unit) := do
  if ← work db.root .installExtension then db.preloadAndSetUp (extensionSetupSql extension)
  else return .error .failed

/-- `listen`. -/
def listen (db : OpenDb) (channel : String) : CustodyProg Ended :=
  match db.checkReady with
  | .error err => return (db, .error err)
  | .ok () => do
    let entered : OpenDb :=
      { db with
        notifyListeners := db.notifyListeners ++ [⟨db.nextListenerId, channel⟩]
        nextListenerId := db.nextListenerId + 1 }
    if db.notifyListeners.any (·.channel = channel) then return (entered, .ok ())
    else
      match ← db.execInternal with
      | .error err => return (db, .error err)
      | .ok () => return (entered, .ok ())

/-- `unlisten`. -/
def unlisten (db : OpenDb) (handle : ChannelEntry) : CustodyProg Ended :=
  if db.notifyListeners.any (·.channel = handle.channel) then do
    let left : OpenDb :=
      { db with
        notifyListeners := db.notifyListeners.filter fun entry =>
          !(entry.channel = handle.channel && entry.id = handle.id) }
    if left.notifyListeners.any (·.channel = handle.channel) then return (left, .ok ())
    else return (left, ← left.execInternal)
  else return (db, .ok ())

/-- `unlisten_channel`. -/
def unlistenChannel (db : OpenDb) (channel : String) : CustodyProg Ended :=
  if db.notifyListeners.any (·.channel = channel) then do
    let left : OpenDb :=
      { db with notifyListeners := db.notifyListeners.filter (·.channel ≠ channel) }
    return (left, ← left.execInternal)
  else return (db, .ok ())

/-- `dump_data_dir_with_format`. -/
def dumpDataDir (db : OpenDb) : CustodyProg Ended :=
  match db.checkReady with
  | .error err => return (db, .error err)
  | .ok () => do
    match ← work db.root .dumpDataDir with
    | .archived => return (db, .ok ())
    | .failed => return (db, .error .failed)
    | .notRestarted => return ({ db with ready := false, closed := true }, .error .failed)

/-- `Option<RootLock>` is set to `None`, or dropped. -/
def dropLock (process : ℕ) : Option RootLock → CustodyProg Unit
  | none => return ()
  | some lock => asProcess process lock.drop

/-- `close_backend`. `closing` is set while the backend is shut down, which nobody else sees. -/
def closeBackend (process : ℕ) (db : OpenDb) : CustodyProg Ended := do
  if db.closed then return (db, .ok ())
  else if db.closing then return (db, .error .isClosing)
  else if ← work db.root .shutdown then
    dropLock process db.lock
    return ({ db with
      lock := none, ready := false, closed := true, notifyListeners := [] }, .ok ())
  else return (db, .error .failed)

/-- `Drop for Pglite`. -/
def dropSelf (process : ℕ) (db : OpenDb) : CustodyProg Ended :=
  if db.closed then return (db, .ok ()) else db.closeBackend process

/-- An instance is dropped, and its fields behind it. -/
def drop (process : ℕ) (db : OpenDb) : CustodyProg Unit := do
  let (left, _) ← db.dropSelf process
  if left.tempDir then
    let _ ← work left.root .removeTempDir
  dropLock process left.lock

/-- A method is called. -/
def call (process : ℕ) (db : OpenDb) : DbCall → CustodyProg Ended
  | .exec => return (db, ← db.exec)
  | .listen channel => db.listen channel
  | .unlisten handle => db.unlisten handle
  | .unlistenChannel channel => db.unlistenChannel channel
  | .dumpDataDir => db.dumpDataDir
  | .enableExtension extension => return (db, ← db.enableExtension extension)
  | .execProtocol => return (db, ← db.execInternal)
  | .close => db.closeBackend process

end OpenDb

/-! ## Sessions -/

/-- `RootTarget`; an application stands for the path of its directory. -/
inductive Target where
  | path (root : HostPath)
  | temporary
deriving DecidableEq

/-- What `PgliteBuilder::open` goes by. -/
structure OpenPlan where
  target : Target
  /-- The user is not `postgres`. -/
  setsRole : Bool
  extensions : List Extension

/-- The part of `PreparedRoot` that is held. -/
structure HeldRoot where
  root : HostPath
  lock : Option RootLock
  tempDir : Bool

/-- The first part of `prepare_root`. -/
def holdRoot (process : ℕ) : Target → CustodyProg HeldRoot
  | .path root => do
    let lock ← asProcess process (RootLock.acquire root)
    return { root, lock := some lock, tempDir := false }
  | .temporary => do
    match ← Prog.perform CustodyOp.createTempDir with
    | .error err => Prog.fail (.tempDir err)
    | .ok root => return { root, lock := none, tempDir := true }

/-- The lock and the temporary directory are dropped without an instance. -/
def HeldRoot.drop (process : ℕ) (held : HeldRoot) : CustodyProg Unit := do
  OpenDb.dropLock process held.lock
  if held.tempDir then
    let _ ← work held.root .removeTempDir

/-- The struct that `new_prepared_with_config` builds. -/
def OpenDb.opened (root : HostPath) : OpenDb where
  root := root
  lock := none
  tempDir := false
  ready := true
  closing := false
  closed := false
  notifyListeners := []
  nextListenerId := 1

/-- The startup role. -/
def OpenDb.setRole (db : OpenDb) (needed : Bool) : CustodyProg (Except CallError Unit) :=
  if needed then db.exec else return .ok ()

/-- One round of the loop of `open_prepared_root` over the extensions. -/
def OpenDb.enable (db : OpenDb) (preinstalled : List String) (extension : Extension) :
    CustodyProg (Except CallError Unit) :=
  if extension.sqlName ∈ preinstalled then db.enablePreinstalledExtension extension
  else db.enableExtension extension

/-- The loop of `open_prepared_root` over the extensions. -/
def enableExtensions (process : ℕ) (db : OpenDb) (preinstalled : List String) :
    List Extension → CustodyProg OpenDb
  | [] => return db
  | extension :: rest => do
    match ← db.enable preinstalled extension with
    | .error _ =>
      db.drop process
      Prog.fail .enableExtension
    | .ok () => enableExtensions process db preinstalled rest

/-- `new_prepared_with_config` and the rest of `open_prepared_root`. -/
def openPreparedRoot (process : ℕ) (plan : OpenPlan) (held : HeldRoot)
    (preinstalled : List String) : CustodyProg OpenDb := do
  if !(← work held.root .openBackend) then
    held.drop process
    Prog.fail .openBackend
  else
    match ← (OpenDb.opened held.root).setRole plan.setsRole with
    | .error _ =>
      -- the instance has neither the lock nor the directory yet
      (OpenDb.opened held.root).drop process
      held.drop process
      Prog.fail .setRole
    | .ok () =>
      enableExtensions process
        { OpenDb.opened held.root with lock := held.lock, tempDir := held.tempDir } preinstalled
        plan.extensions

/-- `PgliteBuilder::open`. -/
def openDb (process : ℕ) (plan : OpenPlan) : CustodyProg OpenDb := do
  let held ← holdRoot process plan.target
  match ← work held.root .prepareRoot with
  | none =>
    held.drop process
    Prog.fail .prepareRoot
  | some preinstalled => openPreparedRoot process plan held preinstalled

/-- The methods are called one after the other. -/
def callAll (process : ℕ) (db : OpenDb) : List DbCall → CustodyProg OpenDb
  | [] => return db
  | c :: calls => do
    let (left, _) ← db.call process c
    callAll process left calls

lemma callAll_append (process : ℕ) (calls calls' : List DbCall) (db : OpenDb) :
    callAll process db (calls ++ calls') =
      callAll process db calls >>= fun left => callAll process left calls' := by
  induction calls generalizing db with
  | nil => rfl
  | cons c calls ih =>
    show (db.call process c >>= fun ended => callAll process ended.1 (calls ++ calls')) = _
    simp only [ih]
    exact (Prog.bind_assoc ..).symm

/-- A database is opened, its methods are called, and it is dropped. -/
def session (process : ℕ) (plan : OpenPlan) (calls : List DbCall) : CustodyProg Unit := do
  let db ← openDb process plan
  let left ← callAll process db calls
  left.drop process

/-! ## Steps -/

/-- What the sessions share: the set of locked paths of each process, the directory whose lock file
a handle was opened in, the handles that have the lock, and the temporary directories. -/
structure RootWorld (Dir : Type) where
  lockedPaths : ℕ → LockedPaths
  opened : FileHandle → Option Dir
  locks : Finset FileHandle
  tempDirs : List Dir

namespace RootWorld

/-- Nothing is open or locked. -/
def initial (Dir : Type) : RootWorld Dir where
  lockedPaths _ := ∅
  opened _ := none
  locks := ∅
  tempDirs := []

variable {Dir : Type} (s : RootWorld Dir)

/-- The set of a process is changed. -/
def setPaths (process : ℕ) (f : LockedPaths → LockedPaths) : RootWorld Dir :=
  { s with lockedPaths := Function.update s.lockedPaths process (f (s.lockedPaths process)) }

/-- A lock file is opened. -/
def openFile (file : FileHandle) (dir : Dir) : RootWorld Dir :=
  { s with opened := Function.update s.opened file (some dir) }

/-- A handle gets the lock of its file. -/
def take (file : FileHandle) : RootWorld Dir := { s with locks := insert file s.locks }

/-- A handle loses it. -/
def giveBack (file : FileHandle) : RootWorld Dir := { s with locks := s.locks.erase file }

/-- A temporary directory is made. -/
def makeTempDir (dir : Dir) : RootWorld Dir := { s with tempDirs := dir :: s.tempDirs }

end RootWorld

section Steps

variable {Dir : Type} (place : HostPath → Dir) (IsTemp : Dir → Prop)

/-- A lock file belongs to the directory its path leads to. At most one handle has the lock of a
file; a call of the operating system may also fail. -/
def processStep (process : ℕ) :
    (op : LockOp) → RootWorld Dir → RootWorld Dir → op.Answer → Prop
  | .insert path, s, s', ans =>
    ans = decide (path ∉ s.lockedPaths process) ∧ s' = s.setPaths process (insert path)
  | .releaseRootLockPath path, s, s', _ => s' = s.setPaths process (·.erase path)
  | .openRootLockFile path, s, s', .ok file =>
    s.opened file = none ∧ s' = s.openFile file (place path.dropLast)
  | .tryLock file, s, s', .ok () =>
    (∀ other ∈ s.locks, s.opened other ≠ s.opened file) ∧ s' = s.take file
  | .unlock file, s, s', .ok () => s' = s.giveBack file
  | _, s, s', _ => s' = s

/-- A temporary directory is a new one, in a place where temporary directories are made. -/
def custodyStep : (op : CustodyOp) → RootWorld Dir → RootWorld Dir → op.Answer → Prop
  | .lock process op, s, s', ans => processStep place process op s s' ans
  | .createTempDir, s, s', .ok root =>
    IsTemp (place root) ∧ place root ∉ s.tempDirs ∧ s' = s.makeTempDir (place root)
  | _, s, s', _ => s' = s

def custodyEffects : Effects CustodyOp CustodyOp.Answer (RootWorld Dir) where
  step := custodyStep place IsTemp
  crash _ _ _ := False

abbrev SessionPool (Dir : Type) := Pool CustodyOp CustodyOp.Answer OpenError Unit (RootWorld Dir)

/-- Sessions that open one of the targets and call the methods in an order that goes with it. -/
def IsSession (uses : Set (Target × List DbCall)) (p : CustodyProg Unit) : Prop :=
  ∃ process plan calls, p = session process plan calls ∧ (plan.target, calls) ∈ uses

/-- The states of a machine on which such sessions run, in any processes. -/
def SessionPool.Reachable (uses : Set (Target × List DbCall)) (pool : SessionPool Dir) : Prop :=
  Pool.Reachable (custodyEffects place IsTemp) (IsSession uses) (· = RootWorld.initial Dir) pool

/-- The session is at work in the directory. -/
def AtWork (run : Running CustodyOp CustodyOp.Answer OpenError Unit (RootWorld Dir)) (dir : Dir) :
    Prop :=
  ∃ root job next, run.rest = .call (.work root job) next ∧ place root = dir

/-- No two sessions are at work in one directory. -/
def SessionPool.Exclusive (pool : SessionPool Dir) : Prop :=
  ∀ dir, pool.running.Pairwise fun run run' => ¬ (AtWork place run dir ∧ AtWork place run' dir)

end Steps

/-! ## Orders -/

/-- The method asks `check_ready` before it touches the root, or has nothing to do there when the
instance is closed. -/
def DbCall.guarded : DbCall → Bool
  | .enableExtension _ | .execProtocol => false
  | _ => true

/-- Only guarded methods are called after `close`. -/
def Orderly : List DbCall → Prop
  | [] => True
  | .close :: calls => ∀ c ∈ calls, c.guarded = true
  | _ :: calls => Orderly calls

end PgliteOxide.Pglite.RootUse
