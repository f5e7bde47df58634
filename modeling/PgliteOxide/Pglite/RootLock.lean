import Mathlib.Data.Finset.Erase
import Mathlib.Data.Finset.Insert
import PgliteOxide.Lib.PathText
import PgliteOxide.Lib.Pool

/-!
# Locks on database roots

`RootLock` of `base.rs`: a root in use is entered into a set of the process, and its lock file is
locked. The two are taken and given back in separate steps, so that acquiring and dropping locks
on different threads may interleave between any two of them. A `useRoot` is what a thread does
with a root: it acquires the lock, keeps it for some time and drops it.
-/

namespace PgliteOxide.Pglite

open Lib

/-- A `PathBuf`; two of them are equal when their components are. -/
abbrev HostPath := List Component

/-- An open file. -/
abbrev FileHandle := ℕ

/-- The errors of `acquire`: the text, with what the operating system said if it was asked. -/
structure LockError where
  text : String
  root : HostPath
  source : Option String
deriving DecidableEq

structure RootLock where
  path : HostPath
  file : FileHandle
deriving DecidableEq

/-- What happens between two steps of other threads. -/
inductive LockOp where
  | createDirAll (root : HostPath)
  | canonicalize (root : HostPath)
  /-- `ROOT_LOCKED_PATHS.lock().insert`. -/
  | insert (path : HostPath)
  /-- `open_root_lock_file`. -/
  | openRootLockFile (path : HostPath)
  | tryLock (file : FileHandle)
  /-- `release_root_lock_path`. -/
  | releaseRootLockPath (path : HostPath)
  /-- The time in which the lock is kept. -/
  | keep (lock : RootLock)
  | unlock (file : FileHandle)
deriving DecidableEq

abbrev LockOp.Answer : LockOp → Type
  | createDirAll _ => Except String Unit
  | canonicalize _ => Except String HostPath
  | insert _ => Bool
  | openRootLockFile _ => Except String FileHandle
  | tryLock _ => Except String Unit
  | releaseRootLockPath _ => Unit
  | keep _ => Unit
  | unlock _ => Except String Unit

abbrev LockProg (α : Type) := Prog LockOp LockOp.Answer LockError α

namespace RootLock

abbrev createDirAll (root : HostPath) : LockProg (Except String Unit) :=
  Prog.perform (LockOp.createDirAll root)

/-- `dunce::canonicalize`. -/
abbrev canonicalize (root : HostPath) : LockProg (Except String HostPath) :=
  Prog.perform (LockOp.canonicalize root)

abbrev insertPath (path : HostPath) : LockProg Bool := Prog.perform (LockOp.insert path)

abbrev openRootLockFile (path : HostPath) : LockProg (Except String FileHandle) :=
  Prog.perform (LockOp.openRootLockFile path)

abbrev tryLock (file : FileHandle) : LockProg (Except String Unit) :=
  Prog.perform (LockOp.tryLock file)

abbrev releaseRootLockPath (path : HostPath) : LockProg Unit :=
  Prog.perform (LockOp.releaseRootLockPath path)

abbrev keep (lock : RootLock) : LockProg Unit := Prog.perform (LockOp.keep lock)

abbrev unlock (file : FileHandle) : LockProg (Except String Unit) := Prog.perform (LockOp.unlock file)

/-- The lock file of a root. -/
def lockFile (root : HostPath) : HostPath := root ++ [.normal (utf8 ".pglite-oxide.lock")]

/-- `RootLock::acquire` from the insert on. -/
def acquireCanonical (root canonicalRoot : HostPath) : LockProg RootLock := do
  if !(← insertPath canonicalRoot) then
    Prog.fail { text := "PGlite root is already in use", root, source := none }
  else
    match ← openRootLockFile (lockFile root) with
    | .error err =>
      releaseRootLockPath canonicalRoot
      Prog.fail
        { text := "PGlite root is already in use or unavailable", root, source := some err }
    | .ok file =>
      match ← tryLock file with
      | .error err =>
        releaseRootLockPath canonicalRoot
        Prog.fail { text := "PGlite root is already in use", root, source := some err }
      | .ok () => return { path := canonicalRoot, file }

/-- `RootLock::acquire`. -/
def acquire (root : HostPath) : LockProg RootLock := do
  match ← createDirAll root with
  | .error err => Prog.fail { text := "create PGlite root", root, source := some err }
  | .ok () =>
    match ← canonicalize root with
    | .ok path => acquireCanonical root path
    | .error _ => acquireCanonical root root

/-- `Drop for RootLock`. A failure to unlock the file is ignored. -/
def drop (lock : RootLock) : LockProg Unit := do
  let _ ← unlock lock.file
  releaseRootLockPath lock.path

end RootLock

/-- What a thread does with a root. -/
def useRoot (root : HostPath) : LockProg Unit := do
  let lock ← RootLock.acquire root
  lock.keep
  lock.drop

/-! ## Steps -/

/-- `ROOT_LOCKED_PATHS`. -/
abbrev LockedPaths := Finset HostPath

/-- The set is changed under its mutex; the operating system may answer anything. -/
def lockStep : (op : LockOp) → LockedPaths → LockedPaths → op.Answer → Prop
  | .insert path, s, s', ans => ans = decide (path ∉ s) ∧ s' = insert path s
  | .releaseRootLockPath path, s, s', _ => s' = s.erase path
  | _, s, s', _ => s' = s

/-- Threads do not die alone. -/
def lockEffects : Effects LockOp LockOp.Answer LockedPaths where
  step := lockStep
  crash _ _ _ := False

abbrev LockPool := Pool LockOp LockOp.Answer LockError Unit LockedPaths

/-- The states of a process that starts with no root in use. -/
def LockPool.Reachable (pool : LockPool) : Prop :=
  Pool.Reachable lockEffects (fun p => ∃ root, p = useRoot root) (· = ∅) pool

/-! ## Stages -/

/-- How far a thread is. -/
inductive Stage where
  /-- `acquire` has not passed the insert. -/
  | outside
  /-- `acquire` has passed the insert and not returned. -/
  | acquiring (path : HostPath)
  /-- `acquire` has returned the lock, and it is not being dropped. -/
  | live (lock : RootLock)
  /-- The lock is being dropped, and its entry not yet removed. -/
  | dropping (lock : RootLock)
  /-- The entry has been removed. -/
  | released
deriving DecidableEq

namespace Stage

/-- The canonical root a thread has in the set. -/
def entry : Stage → Option HostPath
  | outside => none
  | acquiring path => some path
  | live lock => some lock.path
  | dropping lock => some lock.path
  | released => none

/-- The stage after a call. -/
def after : Stage → (op : LockOp) → op.Answer → Stage
  | outside, .insert path, true => acquiring path
  | acquiring path, .tryLock file, .ok () => live { path, file }
  | live lock, .keep _, _ => dropping lock
  | _, .releaseRootLockPath _, _ => released
  | stage, _, _ => stage

end Stage

/-- The set has the entries of the threads, and no two threads have the same. -/
def Entered (s : LockedPaths) (stages : List Stage) : Prop :=
  (∀ path, path ∈ s ↔ path ∈ stages.filterMap Stage.entry) ∧
    (stages.filterMap Stage.entry).Nodup

/-- Which calls belong to which stage. -/
def lockDiscipline : Discipline LockOp LockOp.Answer LockedPaths Stage where
  idle := .outside
  may stage
    | .insert _ => stage = .outside
    | .releaseRootLockPath path => stage.entry = some path
    | .tryLock _ => ∃ path, stage = .acquiring path
    | .keep lock => stage = .live lock
    | .unlock _ => ∃ lock, stage = .dropping lock
    | _ => ∀ lock, stage ≠ .live lock
  after := Stage.after
  done stage := stage.entry = none
  holds := Entered

/-! ## Proofs -/

section Discipline

variable {s : LockedPaths} {left right : List Stage} {stage stage' : Stage}

lemma filterMap_middle (left right : List Stage) (stage : Stage) :
    (left ++ stage :: right).filterMap Stage.entry
      = left.filterMap Stage.entry ++ (stage.entry.toList ++ right.filterMap Stage.entry) := by
  rw [List.filterMap_append, List.filterMap_cons]
  cases stage.entry <;> rfl

/-- A stage may change as long as its entry does not. -/
lemma Entered.replace (h : Entered s (left ++ stage :: right))
    (hentry : stage'.entry = stage.entry) : Entered s (left ++ stage' :: right) := by
  have heq : (left ++ stage' :: right).filterMap Stage.entry
      = (left ++ stage :: right).filterMap Stage.entry := by
    rw [filterMap_middle, filterMap_middle, hentry]
  unfold Entered at h ⊢
  rwa [heq]

/-- An entry that was not there. -/
lemma Entered.insert (h : Entered s (left ++ .outside :: right)) {path : HostPath}
    (hpath : path ∉ s) : Entered (insert path s) (left ++ .acquiring path :: right) := by
  obtain ⟨hset, hdistinct⟩ := h
  rw [filterMap_middle] at hset hdistinct
  refine ⟨fun q => ?_, ?_⟩
  · rw [filterMap_middle, Finset.mem_insert, hset q]
    show q = path ∨ q ∈ left.filterMap Stage.entry ++ right.filterMap Stage.entry ↔
      q ∈ left.filterMap Stage.entry ++ path :: right.filterMap Stage.entry
    rw [List.mem_append, List.mem_append, List.mem_cons]
    tauto
  · rw [filterMap_middle]
    show (_ ++ path :: _).Nodup
    rw [List.nodup_middle, List.nodup_cons]
    exact ⟨fun hmem => hpath ((hset path).mpr hmem), hdistinct⟩

/-- An entry is given back by its owner. -/
lemma Entered.erase (h : Entered s (left ++ stage :: right)) {path : HostPath}
    (hstage : stage.entry = some path) : Entered (s.erase path) (left ++ .released :: right) := by
  obtain ⟨hset, hdistinct⟩ := h
  rw [filterMap_middle, hstage] at hset hdistinct
  have hnodup := List.nodup_cons.mp (List.nodup_middle.mp hdistinct)
  refine ⟨fun q => ?_, ?_⟩
  · rw [filterMap_middle, Finset.mem_erase, hset q]
    show q ≠ path ∧ q ∈ _ ++ path :: _ ↔ q ∈ _ ++ _
    rw [List.mem_append, List.mem_cons, List.mem_append]
    constructor
    · rintro ⟨hne, hq⟩
      tauto
    · intro hq
      refine ⟨fun hqp => hnodup.1 (hqp ▸ List.mem_append.mpr hq), ?_⟩
      tauto
  · rw [filterMap_middle]
    exact hnodup.2

end Discipline

/-- **Every step keeps the entries.** -/
lemma lockDiscipline_sound : lockDiscipline.Sound lockEffects where
  spawn := by
    intro s stages h
    have heq : (stages ++ [Stage.outside]).filterMap Stage.entry = stages.filterMap Stage.entry := by
      rw [List.filterMap_append]
      exact List.append_nil _
    show Entered s (stages ++ [Stage.outside])
    unfold Entered
    rw [heq]
    exact h
  call := by
    intro s s' left stage right op ans h hmay hstep
    cases op with
    | insert path =>
      obtain ⟨hans, rfl⟩ := hstep
      have hout : stage = .outside := hmay
      subst hout
      by_cases hpath : path ∈ s
      · have hfalse : ans = false := by rw [hans, decide_eq_false_iff_not, not_not]; exact hpath
        rw [Finset.insert_eq_of_mem hpath, hfalse]
        exact h
      · have htrue : ans = true := by rw [hans, decide_eq_true_eq]; exact hpath
        rw [htrue]
        exact h.insert hpath
    | releaseRootLockPath path =>
      have hrel : lockDiscipline.after stage (.releaseRootLockPath path) ans = .released := by
        cases stage <;> rfl
      have hs' : s' = s.erase path := hstep
      rw [hrel, hs']
      exact h.erase hmay
    | tryLock file =>
      obtain ⟨path, rfl⟩ := hmay
      have hs' : s' = s := hstep
      rw [hs']
      refine Entered.replace h ?_
      cases ans <;> rfl
    | keep lock =>
      have hlive : stage = .live lock := hmay
      have hs' : s' = s := hstep
      rw [hlive] at h ⊢
      rw [hs']
      exact Entered.replace h rfl
    | _ =>
      have hs' : s' = s := hstep
      rw [hs']
      refine Entered.replace h ?_
      cases stage <;> rfl
  crash := by
    intro s s' left stage right op h hmay hcrash
    exact hcrash.elim

lemma obeys_drop (lock : RootLock) :
    lock.drop.Obeys lockDiscipline (fun stage _ => lockDiscipline.done stage) (.dropping lock) :=
  ⟨⟨lock, rfl⟩, fun _ => ⟨rfl, fun _ => rfl⟩⟩

/-- `acquire` ends with a live lock or with no entry. -/
lemma obeys_acquireCanonical (root canonicalRoot : HostPath) :
    (RootLock.acquireCanonical root canonicalRoot).Obeys lockDiscipline
      (fun stage lock => stage = .live lock) .outside := by
  refine ⟨rfl, fun inserted => ?_⟩
  cases inserted with
  | false => exact rfl
  | true =>
    refine ⟨fun lock => by simp [lockDiscipline, Stage.after], fun opened => ?_⟩
    cases opened with
    | error err => exact ⟨rfl, fun _ => rfl⟩
    | ok file =>
      refine ⟨⟨canonicalRoot, rfl⟩, fun locked => ?_⟩
      cases locked with
      | error err => exact ⟨rfl, fun _ => rfl⟩
      | ok _ => exact rfl

lemma obeys_useRoot (root : HostPath) :
    (useRoot root).Obeys lockDiscipline (fun stage _ => lockDiscipline.done stage)
      lockDiscipline.idle := by
  have hkeep (canonicalRoot : HostPath) : (RootLock.acquireCanonical root canonicalRoot >>= fun lock =>
      lock.keep >>= fun _ => lock.drop).Obeys lockDiscipline
        (fun stage _ => lockDiscipline.done stage) .outside := by
    rw [Prog.obeys_bind]
    refine (obeys_acquireCanonical root canonicalRoot).mono fun stage lock hlive => ?_
    exact ⟨hlive, fun _ => hlive ▸ obeys_drop lock⟩
  refine ⟨fun lock => by simp [lockDiscipline], fun created => ?_⟩
  cases created with
  | error err => exact rfl
  | ok _ =>
    refine ⟨fun lock => by simp [lockDiscipline, Stage.after], fun path => ?_⟩
    cases path with
    | error err => exact hkeep root
    | ok path => exact hkeep path

/-! ## Where a thread stands -/

abbrev LockRun := Running LockOp LockOp.Answer LockError Unit LockedPaths

namespace LockRun

/-- The calls the thread has made. -/
def calls (run : LockRun) : List (Event LockOp LockOp.Answer) := run.past.map Prod.fst

/-- `acquire` has passed the insert of the path and not returned. -/
def IsAcquiring (run : LockRun) (path : HostPath) : Prop :=
  (∃ root op next, run.started = useRoot root ∧
      (RootLock.acquire root).Leads run.calls (.call op next)) ∧
    ⟨.insert path, true⟩ ∈ run.calls

/-- `acquire` has returned a lock on the canonical root, and it is kept. -/
def IsLive (run : LockRun) (path : HostPath) : Prop :=
  ∃ lock next, run.rest = .call (.keep lock) next ∧ lock.path = path

/-- The lock has been kept, and its drop is under way and has not removed the entry. -/
def IsDropping (run : LockRun) (path : HostPath) : Prop :=
  ∃ lock op next, ⟨.keep lock, ()⟩ ∈ run.calls ∧ lock.path = path ∧ run.rest = .call op next ∧
    ⟨.releaseRootLockPath path, ()⟩ ∉ run.calls

/-- The thread has an entry for the canonical root. -/
def Occupies (run : LockRun) (path : HostPath) : Prop :=
  run.IsAcquiring path ∨ run.IsLive path ∨ run.IsDropping path

end LockRun

/-- How far a thread is after some calls. -/
def stageAfter (calls : List (Event LockOp LockOp.Answer)) : Stage :=
  calls.foldl (fun stage x => stage.after x.op x.ans) .outside

/-- How far a thread is. -/
def stageOf (run : LockRun) : Stage := stageAfter run.calls

lemma stageOf_eq (run : LockRun) : stageOf run = lockDiscipline.owned run.past := by
  rw [stageOf, stageAfter, LockRun.calls, List.foldl_map]
  rfl

lemma stageAfter_append (calls calls' : List (Event LockOp LockOp.Answer)) :
    stageAfter (calls ++ calls')
      = calls'.foldl (fun stage x => stage.after x.op x.ans) (stageAfter calls) :=
  List.foldl_append

/-- What a point of an `acquire` says of the calls before it. -/
structure OfAcquire (calls : List (Event LockOp LockOp.Answer)) (rest : LockProg RootLock) :
    Prop where
  not_kept : ∀ lock, ⟨.keep lock, ()⟩ ∉ calls
  not_keep : ∀ lock next, rest ≠ .call (.keep lock) next
  failed : ∀ err, rest = .fail err → (stageAfter calls).entry = none
  returned : ∀ lock, rest = .ret lock → stageAfter calls = .live lock ∧
    ∀ path, ⟨.releaseRootLockPath path, ()⟩ ∉ calls
  goes_on : ∀ op next, rest = .call op next → ∀ path, (stageAfter calls).entry = some path ↔
    ⟨.insert path, true⟩ ∈ calls

/-- From the insert on, after calls that have left the thread outside. -/
lemma always_acquireCanonical (root canonicalRoot : HostPath)
    {before : List (Event LockOp LockOp.Answer)} (hstage : stageAfter before = .outside)
    (hkeep : ∀ lock, ⟨.keep lock, ()⟩ ∉ before)
    (hrelease : ∀ path, ⟨.releaseRootLockPath path, ()⟩ ∉ before)
    (hinsert : ∀ path, ⟨.insert path, true⟩ ∉ before) :
    (RootLock.acquireCanonical root canonicalRoot).Always
      fun calls rest => OfAcquire (before ++ calls) rest := by
  have hafter (calls) : stageAfter (before ++ calls)
      = calls.foldl (fun stage x => stage.after x.op x.ans) .outside := by
    rw [stageAfter_append, hstage]
  refine ⟨?_, fun inserted => ?_⟩
  · constructor <;> simp [*, Stage.entry]
  cases inserted with
  | false => constructor <;> simp [*, Stage.entry, Stage.after]
  | true =>
    refine ⟨?_, fun opened => ?_⟩
    · constructor <;> simp [*, Stage.entry, Stage.after, eq_comm]
    cases opened with
    | error err =>
      refine ⟨?_, fun _ => ?_⟩
      · constructor <;> simp [*, Stage.entry, Stage.after, eq_comm]
      · constructor <;> simp [*, Stage.entry, Stage.after]
    | ok file =>
      refine ⟨?_, fun locked => ?_⟩
      · constructor <;> simp [*, Stage.entry, Stage.after, eq_comm]
      cases locked with
      | error err =>
        refine ⟨?_, fun _ => ?_⟩
        · constructor <;> simp [*, Stage.entry, Stage.after, eq_comm]
        · constructor <;> simp [*, Stage.entry, Stage.after]
      | ok _ => constructor <;> simp [*, Stage.after]

lemma always_acquire (root : HostPath) : (RootLock.acquire root).Always OfAcquire := by
  refine ⟨?_, fun created => ?_⟩
  · constructor <;> simp [stageAfter, Stage.entry]
  cases created with
  | error err => constructor <;> simp [stageAfter, Stage.entry, Stage.after]
  | ok _ =>
    refine ⟨?_, fun path => ?_⟩
    · constructor <;> simp [stageAfter, Stage.entry, Stage.after]
    have hcanonical (canonicalRoot : HostPath) := always_acquireCanonical root canonicalRoot
      (show stageAfter [⟨.createDirAll root, .ok ()⟩, ⟨.canonicalize root, path⟩] = .outside from rfl)
      (by simp) (by simp) (by simp)
    cases path with
    | error err => exact hcanonical root
    | ok path => exact hcanonical path

/-- From the lock that `acquire` has returned on. -/
lemma always_kept (run : LockRun) {lock : RootLock} {before : List (Event LockOp LockOp.Answer)}
    (hstage : stageAfter before = .live lock) (hkeep : ∀ lock, ⟨.keep lock, ()⟩ ∉ before)
    (hrelease : ∀ path, ⟨.releaseRootLockPath path, ()⟩ ∉ before) :
    (lock.keep >>= fun _ => lock.drop : LockProg Unit).Always fun calls rest =>
      run.calls = before ++ calls → run.rest = rest → ∀ path,
        (stageOf run).entry = some path ↔ run.IsLive path ∨ run.IsDropping path := by
  have hafter {calls} (hcalls : run.calls = before ++ calls) :
      stageOf run = calls.foldl (fun stage x => stage.after x.op x.ans) (.live lock) := by
    rw [stageOf, hcalls, stageAfter_append, hstage]
  refine ⟨fun hcalls hrest path => ?_, fun _ => ⟨fun hcalls hrest path => ?_, fun unlocked =>
    ⟨fun hcalls hrest path => ?_, fun _ hcalls hrest path => ?_⟩⟩⟩
  · rw [hafter hcalls, LockRun.IsLive, LockRun.IsDropping, hrest, hcalls]
    simp [*, Stage.entry]
  · rw [hafter hcalls, LockRun.IsLive, LockRun.IsDropping, hrest, hcalls]
    simp [*, Stage.entry, Stage.after]
  · rw [hafter hcalls, LockRun.IsLive, LockRun.IsDropping, hrest, hcalls]
    simp [*, Stage.entry, Stage.after]
  · rw [hafter hcalls, LockRun.IsLive, LockRun.IsDropping, hrest, hcalls]
    simp [*, Stage.entry, Stage.after]

/-- **A thread has the entry its stage says.** -/
lemma entry_eq_some_iff {run : LockRun} {root : HostPath} (hstarted : run.started = useRoot root)
    (hleads : (useRoot root).Leads run.calls run.rest) (path : HostPath) :
    (stageOf run).entry = some path ↔ run.Occupies path := by
  have hroot {root' : HostPath} (h : run.started = useRoot root') : root' = root := by
    have heq : useRoot root' = useRoot root := h.symm.trans hstarted
    exact LockOp.createDirAll.inj (Prog.call.inj heq).1
  rcases hleads.bind_cases with ⟨op, next, hacquire, hrest⟩ | ⟨err, hacquire, hrest⟩ |
    ⟨before, calls, lock, hcalls, hacquire, hkept⟩
  · have hpoint := (always_acquire root).of_leads hacquire
    have hacquiring : run.IsAcquiring path ↔ ⟨.insert path, true⟩ ∈ run.calls :=
      and_iff_right ⟨root, op, next, hstarted, hacquire⟩
    have hlive : ¬ run.IsLive path := by
      rintro ⟨lock, next', hkeep, -⟩
      obtain ⟨rfl, -⟩ := Prog.call.inj (hrest.symm.trans hkeep)
      exact hpoint.not_keep lock next rfl
    have hdropping : ¬ run.IsDropping path := by
      rintro ⟨lock, op', next', hkeep, -⟩
      exact hpoint.not_kept lock hkeep
    rw [LockRun.Occupies, hacquiring, or_iff_left (not_or.mpr ⟨hlive, hdropping⟩)]
    exact hpoint.goes_on op next rfl path
  · have hpoint := (always_acquire root).of_leads hacquire
    have hentry : (stageOf run).entry = none := hpoint.failed err rfl
    rw [hentry]
    refine iff_of_false (by simp) ?_
    rintro (⟨⟨root', op, next, hroot', hcall⟩, -⟩ | ⟨lock, next, hkeep, -⟩ |
      ⟨lock, op, next, -, -, hcall, -⟩)
    · rw [hroot hroot'] at hcall
      cases hacquire.unique hcall
    · cases hrest.symm.trans hkeep
    · cases hrest.symm.trans hcall
  · have hpoint := (always_acquire root).of_leads hacquire
    obtain ⟨hstage, hrelease⟩ := hpoint.returned lock rfl
    have hafter := (always_kept run hstage hpoint.not_kept hrelease).of_leads hkept hcalls rfl path
    refine hafter.trans (or_iff_right ?_).symm
    -- An `acquire` that has returned does not go on.
    rintro ⟨⟨root', op, next, hroot', hcall⟩, -⟩
    rw [hroot hroot', hcalls] at hcall
    obtain rfl := hacquire.of_ret hcall
    rw [List.append_nil] at hcall
    cases hacquire.unique hcall

/-! ## The main result -/

/-- **Root locks.** In every state of a process, the set of locked paths has exactly the
canonical roots of the live locks, of those being dropped whose entry is not yet removed, and of
the `acquire`s that have passed the insert and not returned, each for one thread; so there is at
most one live lock for a canonical root, and neither an `acquire` that has failed nor a thread
that has dropped its lock has an entry. -/
theorem root_locks_exclusive {pool : LockPool} (h : pool.Reachable) :
    (∀ path, path ∈ pool.state ↔ ∃ run ∈ pool.running, LockRun.Occupies run path) ∧
      (∀ path, pool.running.Pairwise fun run run' =>
        ¬ (LockRun.Occupies run path ∧ LockRun.Occupies run' path)) ∧
      (∀ path, pool.running.Pairwise fun run run' =>
        ¬ (LockRun.IsLive run path ∧ LockRun.IsLive run' path)) ∧
      ∀ run ∈ pool.running, ((∃ err, run.rest = .fail err) ∨ run.rest = .ret ()) →
        ∀ path, ¬ LockRun.Occupies run path := by
  obtain ⟨hobeys, hset, hdistinct⟩ := Pool.Reachable.holds lockDiscipline_sound
    (by rintro p ⟨root, rfl⟩; exact obeys_useRoot root)
    (by rintro s rfl; exact ⟨by simp, by simp⟩) h
  have hentry : ∀ run ∈ pool.running, ∀ path,
      (lockDiscipline.owned run.past).entry = some path ↔ LockRun.Occupies run path := by
    intro run hrun path
    obtain ⟨⟨root, hstarted⟩, hleads, -⟩ :=
      Pool.Reachable.past (I := fun _ => True) (fun _ _ => trivial) h run hrun
    rw [← stageOf_eq]
    exact entry_eq_some_iff hstarted (hstarted ▸ hleads) path
  have hone (path : HostPath) : pool.running.Pairwise fun run run' =>
      ¬ (LockRun.Occupies run path ∧ LockRun.Occupies run' path) := by
    rw [List.filterMap_map] at hdistinct
    refine (List.pairwise_filterMap.mp hdistinct).imp_of_mem ?_
    rintro run run' hrun hrun' hne ⟨hocc, hocc'⟩
    exact hne path ((hentry run hrun path).mpr hocc) path ((hentry run' hrun' path).mpr hocc') rfl
  refine ⟨fun path => ?_, hone, fun path => ?_, ?_⟩
  · rw [hset path, List.filterMap_map, List.mem_filterMap]
    exact exists_congr fun run => and_congr_right fun hrun => hentry run hrun path
  · exact (hone path).imp fun hne hlive => hne ⟨.inr (.inl hlive.1), .inr (.inl hlive.2)⟩
  · intro run hrun hended path hocc
    have hpath := (hentry run hrun path).mpr hocc
    have hdone : (lockDiscipline.owned run.past).entry = none := by
      have hrun := hobeys run hrun
      rcases hended with ⟨err, hrest⟩ | hrest
      · rwa [hrest] at hrun
      · rwa [hrest] at hrun
    rw [hdone] at hpath
    cases hpath

/-- The root `/db`. -/
def rootDb : HostPath := [.rootDir, .normal (utf8 "db")]

/-- A step of one of the threads. -/
lemma LockPool.Reachable.step (left right : List LockRun) {s s' : LockedPaths}
    {p : LockProg Unit} {past : List (Event LockOp LockOp.Answer × LockedPaths)} {op : LockOp}
    {next : op.Answer → LockProg Unit} {ans : op.Answer}
    (h : LockPool.Reachable ⟨s, left ++ ⟨p, past, .call op next⟩ :: right⟩)
    (hstep : lockStep op s s' ans) :
    LockPool.Reachable ⟨s', left ++ ⟨p, past ++ [(⟨op, ans⟩, s)], next ans⟩ :: right⟩ :=
  Pool.Reachable.call h hstep

/-- Two threads on one root: the second is refused while the first opens the lock file, and the
first then has its lock. -/
theorem root_locks_exclusive_twoThreads : ∃ pool : LockPool, pool.Reachable ∧
    pool.running.length = 2 ∧
    (∃ run ∈ pool.running, LockRun.IsLive run rootDb) ∧
    (∃ run ∈ pool.running, ∃ err, run.rest = .fail err ∧ ¬ LockRun.Occupies run rootDb) ∧
    rootDb ∈ pool.state := by
  have hempty : LockPool.Reachable ⟨∅, []⟩ := Pool.Reachable.start rfl
  have hfirst : LockPool.Reachable ⟨∅, [⟨useRoot rootDb, [], useRoot rootDb⟩]⟩ :=
    Pool.Reachable.spawn hempty ⟨rootDb, rfl⟩
  have hboth := Pool.Reachable.spawn hfirst ⟨rootDb, rfl⟩
  -- The first thread passes the insert.
  have hcreated := LockPool.Reachable.step [] [_] hboth
    (show lockStep (.createDirAll rootDb) ∅ ∅ (.ok ()) from rfl)
  have hcanonical := LockPool.Reachable.step [] [_] hcreated
    (show lockStep (.canonicalize rootDb) ∅ ∅ (.ok rootDb) from rfl)
  have hinserted := LockPool.Reachable.step [] [_] hcanonical
    (show lockStep (.insert rootDb) ∅ {rootDb} true from ⟨rfl, rfl⟩)
  -- The second one finds the entry.
  have hcreated' := LockPool.Reachable.step [_] [] hinserted
    (show lockStep (.createDirAll rootDb) {rootDb} {rootDb} (.ok ()) from rfl)
  have hcanonical' := LockPool.Reachable.step [_] [] hcreated'
    (show lockStep (.canonicalize rootDb) {rootDb} {rootDb} (.ok rootDb) from rfl)
  have hrefused := LockPool.Reachable.step [_] [] hcanonical'
    (show lockStep (.insert rootDb) {rootDb} {rootDb} false by simp [lockStep])
  have hopened := LockPool.Reachable.step [] [_] hrefused
    (show lockStep (.openRootLockFile _) {rootDb} {rootDb} (.ok 0) from rfl)
  have hlocked := LockPool.Reachable.step [] [_] hopened
    (show lockStep (.tryLock 0) {rootDb} {rootDb} (.ok ()) from rfl)
  obtain ⟨hset, -, -, hended⟩ := root_locks_exclusive hlocked
  refine ⟨_, hlocked, rfl, ⟨_, List.mem_cons_self, ⟨rootDb, 0⟩, _, rfl, rfl⟩,
    ⟨_, List.mem_cons_of_mem _ (List.mem_singleton.mpr rfl), _, rfl, ?_⟩,
    (hset rootDb).mpr ⟨_, List.mem_cons_self, .inr (.inl ⟨⟨rootDb, 0⟩, _, rfl, rfl⟩)⟩⟩
  exact hended _ (List.mem_cons_of_mem _ (List.mem_singleton.mpr rfl)) (.inl ⟨_, rfl⟩) rootDb

end PgliteOxide.Pglite
