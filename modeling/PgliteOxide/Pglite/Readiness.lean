import PgliteOxide.Pglite.Lifecycle

/-!
# A ready client has a running backend

Every operation keeps it so, but for a shutdown that fails half-way: the client stays ready, and
the guest has been deactivated.
-/

namespace PgliteOxide.Pglite

open Lib Protocol

namespace Session

variable {γ : Type} {build : Build} {lc : Lifecycle γ} {files : Backend (PostgresMod γ)}
  {active : γ → Bool} {stack : ℕ} {s s' : Session (PostgresMod γ)}

/-- A client that says it is ready has a running backend. -/
def Consistent (active : γ → Bool) (s : Session (PostgresMod γ)) : Prop :=
  s.db.isReady = true → s.db.backend.Running active

lemma running_of_apart {pg pg' : PostgresMod γ}
    (h : pg'.backendStarted = pg.backendStarted ∧ active pg'.guest = active pg.guest)
    (hrunning : pg.Running active) : pg'.Running active :=
  ⟨h.1.trans hrunning.1, h.2.trans hrunning.2⟩

/-- Exchanges and blob steps keep it. -/
lemma steady_consistent (build : Build) (rules : GuestRules lc active)
    (apart : FilesApart files active) :
    Steady build (lifecycleBackend lc files) (Consistent active) fun _ => True where
  createBlobDir _ h hready := running_of_apart (apart.createBlobDir _) (h hready)
  writeBlob _ bytes h hready := running_of_apart (apart.writeBlob _ bytes) (h hready)
  removeBlob _ h hready := running_of_apart (apart.removeBlob _) (h hready)
  fields s db h hbackend _ _ hready hclosing hclosed := by
    have hsame : db.isReady = s.db.isReady := by
      unfold Instance.isReady
      rw [hready, hclosing, hclosed]
    intro hdb
    show db.backend.Running active
    rw [hbackend]
    exact h (hsame ▸ hdb)
  exchange request _ options s h := by
    obtain ⟨parser, e, hstate⟩ := execProtocol_state build (lifecycleBackend lc files) request
      options s
    rw [hstate]
    intro hready
    show PostgresMod.Running active (if _ then _ else _ : PostgresMod γ × Except Error Bytes).1
    split
    · exact h hready
    · exact PostgresMod.sendProtocol_of_running rules (h hready) _
  lookup _ := trivial

/-! ## The flags -/

/-- The flags stay. -/
structure SameFlags (s₀ s : Session (PostgresMod γ)) : Prop where
  ready : s.db.ready = s₀.db.ready
  closing : s.db.closing = s₀.db.closing
  closed : s.db.closed = s₀.db.closed

lemma SameFlags.isReady (h : SameFlags s s') : s'.db.isReady = s.db.isReady := by
  unfold Instance.isReady
  rw [h.ready, h.closing, h.closed]

lemma steady_sameFlags (build : Build) (b : Backend (PostgresMod γ))
    (s₀ : Session (PostgresMod γ)) : Steady build b (SameFlags s₀) fun _ => True where
  createBlobDir _ h := ⟨h.ready, h.closing, h.closed⟩
  writeBlob _ _ h := ⟨h.ready, h.closing, h.closed⟩
  removeBlob _ h := ⟨h.ready, h.closing, h.closed⟩
  fields _ _ h _ _ _ hready hclosing hclosed :=
    ⟨hready.trans h.ready, hclosing.trans h.closing, hclosed.trans h.closed⟩
  exchange request _ options s h := by
    obtain ⟨parser, e, hstate⟩ := execProtocol_state build b request options s
    rw [hstate]
    exact ⟨h.ready, h.closing, h.closed⟩
  lookup _ := trivial

/-- `check_ready` asks for what `is_ready` says. -/
lemma checkReady_isReady {u : Unit} (h : checkReady s = (s', .ok u)) : s.db.isReady = true := by
  unfold checkReady at h
  rw [Stateful.bind_of_ok (show getDb s = (s, .ok s.db) from rfl)] at h
  split at h
  · simp [bail, Stateful.fail] at h
  split at h
  · simp [bail, Stateful.fail] at h
  split at h
  · simp [bail, Stateful.fail] at h
  · rename_i hclosing hclosed hready
    simp_all [Instance.isReady]

/-- A checkpoint that returns was made by a ready client. -/
lemma checkpoint_isReady {b : Backend (PostgresMod γ)} {operation : String}
    (h : checkpointBackendForPhysicalSnapshot build b stack operation s = (s', .ok ())) :
    s'.db.isReady = true := by
  have hflags : SameFlags s
      (checkpointBackendForPhysicalSnapshot build b stack operation s).1 :=
    (steady_sameFlags build b s).frame.keeps_checkpoint trivial stack operation s ⟨rfl, rfl, rfl⟩
  rw [h] at hflags
  rw [hflags.isReady]
  unfold checkpointBackendForPhysicalSnapshot at h
  rw [Stateful.bind_of_ok (show getDb s = (s, .ok s.db) from rfl)] at h
  split at h
  · simp [bail, Stateful.fail] at h
  rw [Stateful.bind_eq_ok] at h
  obtain ⟨t, results, hexec, -⟩ := h
  rw [context, Stateful.mapErr_eq_ok, exec, Stateful.bind_eq_ok] at hexec
  obtain ⟨t', u, hcheck, -⟩ := hexec
  exact checkReady_isReady hcheck

/-! ## Dumps -/

/-- The shutdown of a dump does not strand the guest: the dump does not get that far, or the guest
is not stranded by it. -/
def DumpSpares (build : Build) (lc : Lifecycle γ) (files : Backend (PostgresMod γ)) (stack : ℕ)
    (active : γ → Bool) (operation : String) (s : Session (PostgresMod γ)) : Prop :=
  ∀ t, checkpointBackendForPhysicalSnapshot build (lifecycleBackend lc files) stack operation s
    = (t, .ok ()) → ¬ lc.Strands active t.db.backend.guest

section

variable (rules : GuestRules lc active) (apart : FilesApart files active)

include rules apart

/-- A restart that returns leaves a running backend. -/
lemma consistent_restartSession {operation : String}
    (h : restartSession build (lifecycleBackend lc files) stack operation s = (s', .ok ())) :
    Consistent active s' := by
  obtain ⟨backend, hrestart, hrestore⟩ := restartSession_eq_ok h
  have hrunning : Consistent active (s.withBackend backend) :=
    fun _ => PostgresMod.restart_ok rules hrestart
  have hkept : Consistent active (restoreSessionStateAfterBackendRestart build
      (lifecycleBackend lc files) stack (s.withBackend backend)).1 :=
    (steady_consistent build rules apart).frame.keeps_restoreSessionState (fun _ => trivial)
      (fun _ => trivial) _ hrunning
  rw [hrestore] at hkept
  exact hkept

/-- **After a dump, a ready client has a running backend exactly when the shutdown did not strand
the guest.** -/
lemma consistent_archive_iff (hs : Consistent active s) {operation : String}
    {format : DataDirArchiveFormat} {o : Outcome ClientError Bytes}
    (h : archiveQuiescedPgdata build (lifecycleBackend lc files) stack operation format s = (s', o))
    (ho : o ≠ .panic) :
    Consistent active s' ↔ DumpSpares build lc files stack active operation s := by
  have hpoint {t : Session (PostgresMod γ)} {o' : Outcome ClientError Unit}
      (ht : checkpointBackendForPhysicalSnapshot build (lifecycleBackend lc files) stack operation s
        = (t, o')) : Consistent active t := by
    have hkept := (steady_consistent build rules apart).frame.keeps_checkpoint trivial stack
      operation s hs
    rw [ht] at hkept
    exact hkept
  -- what the dump has seen is the state after the checkpoint
  have hspares {t : Session (PostgresMod γ)}
      (ht : checkpointBackendForPhysicalSnapshot build (lifecycleBackend lc files) stack operation s
        = (t, .ok ())) :
      DumpSpares build lc files stack active operation s ↔
        ¬ lc.Strands active t.db.backend.guest := by
    refine ⟨fun hall => hall t ht, fun hnot t' ht' => ?_⟩
    have heq : t = t' := congrArg Prod.fst (ht.symm.trans ht')
    rw [← heq]
    exact hnot
  cases archived_of_eq h ho with
  | @notCheckpointed _ e ht =>
    refine ⟨fun _ t' ht' => ?_, fun _ => hpoint ht⟩
    have hbad := congrArg Prod.snd (ht.symm.trans ht')
    simp at hbad
  | @notShutDown t err e ht hfailed =>
    have hready := checkpoint_isReady ht
    have hrunning := hpoint ht hready
    rw [hspares ht]
    have hshutdown : PostgresMod.shutdownBackend lc t.db.backend
        = ((PostgresMod.shutdownBackend lc t.db.backend).1, .error err) := Prod.ext rfl hfailed
    rw [← PostgresMod.shutdownBackend_error rules hrunning.1 hshutdown]
    exact ⟨fun hcons => hcons hready, fun hrun _ => hrun⟩
  | @restarted t _ _ ht hdown hrestart _ =>
    rw [hspares ht]
    exact ⟨fun _ => PostgresMod.not_strands_of_shutdown active hdown,
      fun _ => consistent_restartSession rules apart hrestart⟩
  | @notRestarted t t' err e ht hdown hrestart =>
    rw [hspares ht]
    refine ⟨fun _ => PostgresMod.not_strands_of_shutdown active hdown, fun _ hready => ?_⟩
    simp [asClosed, Instance.isReady] at hready

end

/-! ## Closing -/

/-- The shutdown of `close_backend` does not strand the guest. -/
def CloseSpares (lc : Lifecycle γ) (active : γ → Bool) (s : Session (PostgresMod γ)) : Prop :=
  s.db.isReady = true → ¬ lc.Strands active s.db.backend.guest

/-- **After `close_backend` as well.** -/
lemma consistent_close_iff (rules : GuestRules lc active) (hs : Consistent active s) :
    Consistent active (closeBackend (lifecycleBackend lc files) s).1 ↔ CloseSpares lc active s := by
  by_cases hclosed : s.db.closed = true
  · have hstate : closeBackend (lifecycleBackend lc files) s = (s, .ok ()) := by
      unfold closeBackend
      rw [Stateful.bind_of_ok (show getDb s = (s, .ok s.db) from rfl), if_pos hclosed]
      rfl
    rw [hstate]
    refine ⟨fun _ hready => ?_, fun _ => hs⟩
    simp [Instance.isReady, hclosed] at hready
  by_cases hclosing : s.db.closing = true
  · have hstate : (closeBackend (lifecycleBackend lc files) s).1 = s := by
      unfold closeBackend
      rw [Stateful.bind_of_ok (show getDb s = (s, .ok s.db) from rfl), if_neg hclosed,
        if_pos hclosing]
      rfl
    rw [hstate]
    refine ⟨fun _ hready => ?_, fun _ => hs⟩
    simp [Instance.isReady, hclosing] at hready
  rw [closeBackend_eq _ s (by simpa using hclosed) (by simpa using hclosing)]
  rw [show (lifecycleBackend lc files).shutdown s.db.backend
    = PostgresMod.shutdownBackend lc s.db.backend from rfl]
  cases hdown : (PostgresMod.shutdownBackend lc s.db.backend).2 with
  | ok u =>
    refine ⟨fun _ _ => PostgresMod.not_strands_of_shutdown active hdown, fun _ hready => ?_⟩
    simp [Instance.isReady] at hready
  | error err =>
    have hshutdown : PostgresMod.shutdownBackend lc s.db.backend
        = ((PostgresMod.shutdownBackend lc s.db.backend).1, .error err) := Prod.ext rfl hdown
    have hflags : ∀ backend, ({ s.db with backend, closing := false } :
        Instance (PostgresMod γ)).isReady = s.db.isReady := by
      intro backend
      simp [Instance.isReady, hclosing]
    constructor
    · intro hcons hready
      rw [← PostgresMod.shutdownBackend_error rules (hs hready).1 hshutdown]
      exact hcons ((hflags _).trans hready)
    · intro hnot hready
      have hready' : s.db.isReady = true := (hflags _).symm.trans hready
      exact (PostgresMod.shutdownBackend_error rules (hs hready').1 hshutdown).mpr (hnot hready')

/-! ## Runs -/

/-- The sessions that an opened client gets to, as long as no shutdown strands the guest. -/
inductive SparedRun (build : Build) (lc : Lifecycle γ) (files : Backend (PostgresMod γ)) (stack : ℕ)
    (active : γ → Bool) : Session (PostgresMod γ) → Prop
  | opened (serializers : SerializerMap) (parsers : ParserMap) {guest : γ} {pg : PostgresMod γ}
      (hopen : PostgresMod.ensureCluster lc (.new guest) = (pg, .ok ())) :
      SparedRun build lc files stack active (.opened serializers parsers pg)
  | called {s : Session (PostgresMod γ)} {op : Operation}
      (h : SparedRun build lc files stack active s) (hop : op.IsSimple) :
      SparedRun build lc files stack active (call build (lifecycleBackend lc files) stack op s).1
  | transaction {s : Session (PostgresMod γ)} {T : Type} (callback : Callback T)
      (h : SparedRun build lc files stack active s) :
      SparedRun build lc files stack active
        (transaction build (lifecycleBackend lc files) stack callback s).1
  | archived {s s' : Session (PostgresMod γ)} {operation : String} {format : DataDirArchiveFormat}
      {o : Outcome ClientError Bytes} (h : SparedRun build lc files stack active s)
      (harchive : archiveQuiescedPgdata build (lifecycleBackend lc files) stack operation format s
        = (s', o)) (ho : o ≠ .panic)
      (hspares : DumpSpares build lc files stack active operation s) :
      SparedRun build lc files stack active s'
  | closed {s : Session (PostgresMod γ)} (h : SparedRun build lc files stack active s)
      (hspares : CloseSpares lc active s) :
      SparedRun build lc files stack active (closeBackend (lifecycleBackend lc files) s).1

lemma SparedRun.consistent (rules : GuestRules lc active) (apart : FilesApart files active)
    (h : SparedRun build lc files stack active s) : Consistent active s := by
  induction h with
  | opened serializers parsers hopen => exact fun _ => PostgresMod.ensureCluster_new rules hopen
  | called _ hop ih => exact (steady_consistent build rules apart).keeps_call hop _ ih
  | transaction callback _ ih =>
    exact (steady_consistent build rules apart).frame.keeps_transaction (fun _ _ hs => hs) callback _ ih
  | archived _ harchive ho hspares ih =>
    exact (consistent_archive_iff rules apart ih harchive ho).mpr hspares
  | closed _ hspares ih => exact (consistent_close_iff rules ih).mpr hspares

/-- **A ready client has a running backend** in every state of a run in which no shutdown strands
the guest; and the next dump and the next `close_backend` leave it so exactly when their shutdown
does not strand the guest either. -/
theorem ready_is_running_iff (rules : GuestRules lc active) (apart : FilesApart files active)
    (h : SparedRun build lc files stack active s) :
    (s.db.isReady = true → s.db.backend.Running active) ∧
    (∀ operation format s' o, archiveQuiescedPgdata build (lifecycleBackend lc files) stack
        operation format s = (s', o) → o ≠ .panic →
      ((s'.db.isReady = true → s'.db.backend.Running active) ↔
        DumpSpares build lc files stack active operation s)) ∧
    (∀ s' o, closeBackend (lifecycleBackend lc files) s = (s', o) →
      ((s'.db.isReady = true → s'.db.backend.Running active) ↔ CloseSpares lc active s)) := by
  have hs := h.consistent rules apart
  refine ⟨hs, fun operation format s' o harchive ho => ?_, fun s' o hclose => ?_⟩
  · exact consistent_archive_iff rules apart hs harchive ho
  · have hiff : Consistent active (closeBackend (lifecycleBackend lc files) s).1 ↔ _ :=
      consistent_close_iff rules hs
    rw [hclose] at hiff
    exact hiff

end Session

/-! ## A guest with an exit function -/

namespace SmallGuest

/-- A guest that is active or not, and answers every request with one command. -/
def lifecycle (runAtexitFuncs : Bool → Bool × Except String Unit) : Lifecycle Bool where
  configureStart g := (g, .ok ())
  setActive _ value := (decide (value ≠ 0), .ok 0)
  startSingleUser g := (g, .ok ())
  runAtexitFuncs := some runAtexitFuncs
  processStartup g := (g, .ok ([], true))
  sendProtocolInner g _ := (g, .ok (OneTable.completed "OK"))
  isClusterInitialized _ := true
  newPostgres _ := .ok false
  summarizeProtocol _ := ""
  protocolResponseContainsError _ := false

def files : Backend (PostgresMod Bool) := Backend.answering fun pg _ => (pg, .ok [])

lemma guestRules {runAtexitFuncs : Bool → Bool × Except String Unit}
    (h : ∀ g, (runAtexitFuncs g).1 = g) : GuestRules (lifecycle runAtexitFuncs) id where
  setActive _ value g' r heq := by
    have hg : decide (value ≠ 0) = g' := congrArg Prod.fst heq
    exact hg.symm
  configureStart _ := rfl
  startSingleUser _ := rfl
  runAtexitFuncs run hrun g := by
    have hrun' : runAtexitFuncs = run := Option.some.inj hrun
    rw [← hrun']
    exact h g
  processStartup _ := rfl
  sendProtocolInner _ _ := rfl

lemma filesApart : FilesApart files id where
  createBlobDir _ := ⟨rfl, rfl⟩
  writeBlob _ _ := ⟨rfl, rfl⟩
  removeBlob _ := ⟨rfl, rfl⟩

/-- A client that was just opened. -/
def client : Session (PostgresMod Bool) :=
  .opened [] [] { PostgresMod.new true with clusterReady := true, backendStarted := true }

lemma sparedRun_client (runAtexitFuncs : Bool → Bool × Except String Unit) :
    Session.SparedRun ⟨false⟩ (lifecycle runAtexitFuncs) files 3 id client := by
  have hopen : PostgresMod.ensureCluster (lifecycle runAtexitFuncs) (.new false)
      = ({ PostgresMod.new true with clusterReady := true, backendStarted := true }, .ok ()) := rfl
  exact .opened [] [] hopen

/-- A dump of the client. -/
def dump (runAtexitFuncs : Bool → Bool × Except String Unit) :
    Session (PostgresMod Bool) × Outcome ClientError Bytes :=
  Session.archiveQuiescedPgdata ⟨false⟩ (lifecycleBackend (lifecycle runAtexitFuncs) files) 3
    "dump PGDATA archive" .tar client

/-- Closing the client. -/
def close (runAtexitFuncs : Bool → Bool × Except String Unit) :
    Session (PostgresMod Bool) × Outcome ClientError Unit :=
  Session.closeBackend (lifecycleBackend (lifecycle runAtexitFuncs) files) client

end SmallGuest

namespace Session

open SmallGuest

/-- With exit functions that return, the client is ready after a dump and its backend runs. -/
theorem ready_is_running_after_dump :
    (dump fun g => (g, .ok ())).1.db.isReady = true ∧
      (dump fun g => (g, .ok ())).1.db.backend.Running id := by
  have hok : (dump fun g => (g, .ok ())).2.toOption = some [] := by
    decide +kernel
  have hready : (dump fun g => (g, .ok ())).1.db.isReady = true := by
    decide +kernel
  have hdump : archiveQuiescedPgdata ⟨false⟩
      (lifecycleBackend (lifecycle fun g => (g, .ok ())) files) 3 "dump PGDATA archive" .tar client
        = ((dump fun g => (g, .ok ())).1, .ok []) := Prod.ext rfl (Outcome.toOption_eq_some.mp hok)
  have hiff := (ready_is_running_iff (guestRules fun _ => rfl) filesApart
    (sparedRun_client fun g => (g, .ok ()))).2.1 _ _ _ _ hdump (by simp)
  refine ⟨hready, hiff.mpr ?_ hready⟩
  rintro t - ⟨run, err, hrun, herr⟩
  have hrun' : (fun g => (g, .ok ())) = run := Option.some.inj hrun
  rw [← hrun'] at herr
  simp at herr

/-- **An exit function that traps**: the dump and `close_backend` fail, the client is still ready,
and the guest has been deactivated. -/
theorem ready_without_running_backend :
    ((dump fun g => (g, .error "unreachable")).1.db.isReady = true ∧
      ¬ (dump fun g => (g, .error "unreachable")).1.db.backend.Running id) ∧
    ((close fun g => (g, .error "unreachable")).1.db.isReady = true ∧
      ¬ (close fun g => (g, .error "unreachable")).1.db.backend.Running id) := by
  unfold PostgresMod.Running
  decide +kernel

end Session

end PgliteOxide.Pglite
