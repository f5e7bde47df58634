import PgliteOxide.Pglite.Restart

/-!
# The lifecycle of the backend

`postgres_mod.rs` starts and stops a guest that runs PostgreSQL, and keeps flags about it beside
the guest's own `active` flag; `Pglite` has flags of its own above. `shutdown_backend` deactivates
the guest first and touches the flags last, so a failure in between leaves a client that says it
is ready over a backend that is not active.
-/

namespace PgliteOxide.Pglite

open Lib Protocol

/-! ## `PostgresMod` -/

/-- The guest and the flags of `PostgresMod`. -/
structure PostgresMod (γ : Type) where
  guest : γ
  startupResponse : Option Bytes
  clusterReady : Bool
  backendStarted : Bool
  started : Bool

/-- The guest calls of a lifecycle; a trap is an error. `configureStart` stands for the calls of
`start_backend` before the guest is activated, `startSingleUser` for `_start` and
`pgl_startPGlite`, `processStartup` for those of `start_protocol_with_startup_packet`, which
return the output and whether the packet was accepted, and `newPostgres` for a new guest with its
preloaded extensions. -/
structure Lifecycle (γ : Type) where
  configureStart : γ → γ × Except Error Unit
  setActive : γ → Int32 → γ × Except String Int32
  startSingleUser : γ → γ × Except Error Unit
  runAtexitFuncs : Option (γ → γ × Except String Unit)
  processStartup : γ → γ × Except Error (Bytes × Bool)
  sendProtocolInner : γ → Bytes → γ × Except Error Bytes
  isClusterInitialized : γ → Bool
  newPostgres : γ → Except Error γ
  summarizeProtocol : Bytes → String
  protocolResponseContainsError : Bytes → Bool

/-- The exit functions, where the guest exports them. -/
def Lifecycle.runAtexit {γ : Type} (lc : Lifecycle γ) (guest : γ) : γ × Except String Unit :=
  match lc.runAtexitFuncs with
  | none => (guest, .ok ())
  | some runAtexitFuncs => runAtexitFuncs guest

namespace PostgresMod

variable {γ : Type} (lc : Lifecycle γ)

/-- The flags of a `PostgresMod` that was just made. -/
def new (guest : γ) : PostgresMod γ where
  guest := guest
  startupResponse := none
  clusterReady := false
  backendStarted := false
  started := false

/-- `initialize_cluster`. -/
def initializeCluster (pg : PostgresMod γ) : PostgresMod γ × Except Error Unit :=
  if pg.clusterReady then (pg, .ok ())
  else if !lc.isClusterInitialized pg.guest then
    (pg, .error (.msg ("PGDATA is not initialized; install the WASIX runtime assets and "
      ++ "PGDATA template before opening")))
  else ({ pg with clusterReady := true }, .ok ())

/-- `start_backend`. -/
def startBackend (pg : PostgresMod γ) : PostgresMod γ × Except Error Unit :=
  if pg.backendStarted then (pg, .ok ())
  else
    match lc.configureStart pg.guest with
    | (guest, .error err) => ({ pg with guest }, .error err)
    | (guest, .ok ()) =>
      match lc.setActive guest 1 with
      | (guest, .error err) => ({ pg with guest }, .error (.msg s!"pgl_setPGliteActive(1): {err}"))
      | (guest, .ok _) =>
        match lc.startSingleUser guest with
        | (guest, .error err) => ({ pg with guest }, .error err)
        | (guest, .ok ()) => ({ pg with guest, backendStarted := true }, .ok ())

/-- `ensure_cluster`. -/
def ensureCluster (pg : PostgresMod γ) : PostgresMod γ × Except Error Unit :=
  match initializeCluster lc pg with
  | (pg, .error err) => (pg, .error err)
  | (pg, .ok ()) => startBackend lc pg

/-- `start_protocol`, with `start_protocol_with_startup_packet`. -/
def startProtocol (pg : PostgresMod γ) : PostgresMod γ × Except Error Unit :=
  if pg.started then (pg, .ok ())
  else
    match ensureCluster lc pg with
    | (pg, .error err) => (pg, .error err)
    | (pg, .ok ()) =>
      match lc.processStartup pg.guest with
      | (guest, .error err) => ({ pg with guest }, .error err)
      | (guest, .ok (output, accepted)) =>
        let pg := { pg with guest }
        if !accepted then
          (pg, .error (.msg ("PGlite WASIX startup packet was rejected: "
            ++ lc.summarizeProtocol output)))
        else
          let pg := { pg with started := true, startupResponse := some output }
          if lc.protocolResponseContainsError output then
            (pg, .error (.msg ("PGlite WASIX startup packet returned an error: "
              ++ lc.summarizeProtocol output)))
          else (pg, .ok ())

/-- `send_protocol`. -/
def sendProtocol (payload : Bytes) (pg : PostgresMod γ) : PostgresMod γ × Except Error Bytes :=
  match startProtocol lc pg with
  | (pg, .error err) => (pg, .error err)
  | (pg, .ok ()) =>
    if payload = [] then (pg, .ok [])
    else
      let (guest, result) := lc.sendProtocolInner pg.guest payload
      ({ pg with guest }, result)

/-- `shutdown_backend`. -/
def shutdownBackend (pg : PostgresMod γ) : PostgresMod γ × Except Error Unit :=
  match lc.setActive pg.guest 0 with
  | (guest, .error err) => ({ pg with guest }, .error (.msg s!"pgl_setPGliteActive(0): {err}"))
  | (guest, .ok _) =>
    match lc.runAtexit guest with
    | (guest, .error err) => ({ pg with guest }, .error (.msg s!"pgl_run_atexit_funcs: {err}"))
    | (guest, .ok ()) => (new guest, .ok ())

/-- `BackendSession::restart`: the old `PostgresMod` is replaced at the end. -/
def restart (pg : PostgresMod γ) : PostgresMod γ × Except Error Unit :=
  match lc.newPostgres pg.guest with
  | .error err => (pg, .error err)
  | .ok guest =>
    match ensureCluster lc (new guest) with
    | (_, .error err) => (pg, .error err)
    | (opened, .ok ()) => (opened, .ok ())

end PostgresMod

/-- `BackendSession` over a `PostgresMod`; `files` has the steps that work on host files. -/
def lifecycleBackend {γ : Type} (lc : Lifecycle γ) (files : Backend (PostgresMod γ)) :
    Backend (PostgresMod γ) :=
  { files with
    sendBuffered := fun pg message requested =>
      if requested = some .file then
        (pg, .error (.msg "file transport is not implemented for the WASIX backend"))
      else PostgresMod.sendProtocol lc message pg
    shutdown := PostgresMod.shutdownBackend lc
    restart := PostgresMod.restart lc }

namespace Session

variable {σ : Type}

/-- `close_backend`. `sync_to_fs` does nothing. -/
def closeBackend (b : Backend σ) : Method σ Unit := do
  let db ← getDb
  if db.closed then return ()
  else if db.closing then bail "Pglite is closing"
  else
    setDb fun db => { db with closing := true }
    let result ← (callBackend b.shutdown).attempt
    setDb fun db => { db with closing := false }
    match result with
    | .ok () =>
      setDb fun db =>
        { db with closed := true, ready := false, notifyListeners := [], globalNotifyListeners := [] }
    | .error err => Stateful.fail err

/-- What `close_backend` does to a client that is neither closed nor closing. -/
lemma closeBackend_eq (b : Backend σ) (s : Session σ) (hclosed : s.db.closed = false)
    (hclosing : s.db.closing = false) :
    closeBackend b s = match (b.shutdown s.db.backend).2 with
      | .ok () => ({ s with db := { s.db with
          backend := (b.shutdown s.db.backend).1, closing := false, closed := true, ready := false
          notifyListeners := [], globalNotifyListeners := [] } }, .ok ())
      | .error err => ({ s with db := { s.db with
          backend := (b.shutdown s.db.backend).1, closing := false } }, .err (.protocol err)) := by
  unfold closeBackend
  rw [Stateful.bind_of_ok (show getDb s = (s, .ok s.db) from rfl), if_neg (by simp [hclosed]),
    if_neg (by simp [hclosing])]
  rw [Stateful.bind_of_ok (show setDb _ s
    = ({ s with db := { s.db with closing := true } }, .ok ()) from rfl)]
  rcases hshutdown : b.shutdown s.db.backend with ⟨backend, err | u⟩
  · have hattempt : (callBackend b.shutdown).attempt { s with db := { s.db with closing := true } }
        = (({ s with db := { s.db with closing := true, backend } } : Session σ),
          (.ok (.error (.protocol err)) : Outcome ClientError (Except ClientError Unit))) := by
      unfold Stateful.attempt callBackend
      simp only [hshutdown]
    rw [Stateful.bind_of_ok hattempt]
    rfl
  · have hattempt : (callBackend b.shutdown).attempt { s with db := { s.db with closing := true } }
        = (({ s with db := { s.db with closing := true, backend } } : Session σ),
          (.ok (.ok u) : Outcome ClientError (Except ClientError Unit))) := by
      unfold Stateful.attempt callBackend
      simp only [hshutdown]
    rw [Stateful.bind_of_ok hattempt]
    rfl

end Session

/-- `is_ready`. -/
def Instance.isReady {σ : Type} (db : Instance σ) : Bool := db.ready && !db.closing && !db.closed

/-! ## The guest -/

/-- `active` is what `pgl_setPGliteActive` was last told; no other call changes it. -/
structure GuestRules {γ : Type} (lc : Lifecycle γ) (active : γ → Bool) : Prop where
  setActive : ∀ g value g' r, lc.setActive g value = (g', .ok r) → active g' = decide (value ≠ 0)
  configureStart : ∀ g, active (lc.configureStart g).1 = active g
  startSingleUser : ∀ g, active (lc.startSingleUser g).1 = active g
  runAtexitFuncs : ∀ run, lc.runAtexitFuncs = some run → ∀ g, active (run g).1 = active g
  processStartup : ∀ g, active (lc.processStartup g).1 = active g
  sendProtocolInner : ∀ g payload, active (lc.sendProtocolInner g payload).1 = active g

/-- The steps on host files leave the guest and the flags alone. -/
structure FilesApart {γ : Type} (files : Backend (PostgresMod γ)) (active : γ → Bool) : Prop where
  createBlobDir : ∀ pg, (files.createBlobDir pg).1.backendStarted = pg.backendStarted ∧
    active (files.createBlobDir pg).1.guest = active pg.guest
  writeBlob : ∀ pg bytes, (files.writeBlob pg bytes).1.backendStarted = pg.backendStarted ∧
    active (files.writeBlob pg bytes).1.guest = active pg.guest
  removeBlob : ∀ pg, (files.removeBlob pg).backendStarted = pg.backendStarted ∧
    active (files.removeBlob pg).guest = active pg.guest

/-- The backend is started and active. -/
def PostgresMod.Running {γ : Type} (active : γ → Bool) (pg : PostgresMod γ) : Prop :=
  pg.backendStarted = true ∧ active pg.guest = true

/-- Shutting this guest down fails and leaves it inactive: the deactivation fails that way, or it
succeeds and the exit functions fail. -/
def Lifecycle.Strands {γ : Type} (lc : Lifecycle γ) (active : γ → Bool) (g : γ) : Prop :=
  match lc.setActive g 0 with
  | (g', .error _) => active g' = false
  | (g', .ok _) => ∃ run err, lc.runAtexitFuncs = some run ∧ (run g').2 = .error err

namespace PostgresMod

variable {γ : Type} {lc : Lifecycle γ} {active : γ → Bool} (rules : GuestRules lc active)
  {pg pg' : PostgresMod γ}

lemma running_initializeCluster (lc : Lifecycle γ) (h : pg.Running active) :
    (initializeCluster lc pg).1.Running active := by
  unfold initializeCluster
  split
  · exact h
  split
  · exact h
  · exact h

lemma ensureCluster_of_running (lc : Lifecycle γ) (h : pg.Running active) :
    (ensureCluster lc pg).1.Running active := by
  have hinit := running_initializeCluster lc h
  unfold ensureCluster
  split
  · rename_i pg' err heq
    rw [heq] at hinit
    exact hinit
  · rename_i pg' heq
    rw [heq] at hinit
    unfold startBackend
    rw [if_pos hinit.1]
    exact hinit

include rules

/-- A backend that has been started is active. -/
lemma startBackend_ok (hnew : pg.backendStarted = false)
    (h : startBackend lc pg = (pg', .ok ())) : pg'.Running active := by
  unfold startBackend at h
  rw [if_neg (by simp [hnew])] at h
  split at h
  · simp at h
  split at h
  · simp at h
  · rename_i guest hconfigure _ guest' r hactive
    split at h
    · simp at h
    · rename_i guest'' hstart
      have hpg' : { pg with guest := guest'', backendStarted := true } = pg' :=
        congrArg Prod.fst h
      rw [← hpg']
      refine ⟨rfl, ?_⟩
      have hkept := rules.startSingleUser guest'
      rw [hstart] at hkept
      show active guest'' = true
      rw [show active guest'' = active guest' from hkept, rules.setActive _ _ _ _ hactive]
      decide

/-- A `PostgresMod` that was just made runs once its cluster is ensured. -/
lemma ensureCluster_new {guest : γ} (h : ensureCluster lc (new guest) = (pg, .ok ())) :
    pg.Running active := by
  unfold ensureCluster at h
  split at h
  · simp at h
  · rename_i pg₀ hinit
    refine startBackend_ok rules ?_ h
    unfold initializeCluster at hinit
    split at hinit
    · exact congrArg (fun r => r.1.backendStarted) hinit.symm
    split at hinit
    · simp at hinit
    · exact congrArg (fun r => r.1.backendStarted) hinit.symm

/-- **A restart that returns leaves a running backend.** -/
lemma restart_ok (h : restart lc pg = (pg', .ok ())) : pg'.Running active := by
  unfold restart at h
  split at h
  · simp at h
  split at h
  · simp at h
  · rename_i guest _ opened hopen
    have hpg' : opened = pg' := congrArg Prod.fst h
    rw [← hpg']
    exact ensureCluster_new rules hopen

lemma startProtocol_of_running (h : pg.Running active) :
    (startProtocol lc pg).1.Running active := by
  have hcluster := ensureCluster_of_running lc h
  unfold startProtocol
  split
  · exact h
  split
  · rename_i pg₀ err heq
    rw [heq] at hcluster
    exact hcluster
  · rename_i pg₀ heq
    rw [heq] at hcluster
    have hkept := rules.processStartup pg₀.guest
    split
    · rename_i guest err hstartup
      rw [hstartup] at hkept
      exact ⟨hcluster.1, hkept.trans hcluster.2⟩
    · rename_i guest output accepted hstartup
      rw [hstartup] at hkept
      split
      · exact ⟨hcluster.1, hkept.trans hcluster.2⟩
      · split
        · exact ⟨hcluster.1, hkept.trans hcluster.2⟩
        · exact ⟨hcluster.1, hkept.trans hcluster.2⟩

/-- An exchange leaves a running backend running. -/
lemma sendProtocol_of_running (h : pg.Running active) (payload : Bytes) :
    (sendProtocol lc payload pg).1.Running active := by
  have hstart := startProtocol_of_running rules h
  unfold sendProtocol
  split
  · rename_i pg₀ err heq
    rw [heq] at hstart
    exact hstart
  · rename_i pg₀ heq
    rw [heq] at hstart
    split
    · exact hstart
    · exact ⟨hstart.1, (rules.sendProtocolInner _ _).trans hstart.2⟩

/-- The exit functions that fail are exported. -/
lemma runAtexit_error {g g' : γ} {err : String} (h : lc.runAtexit g = (g', .error err)) :
    active g' = active g ∧ ∃ run err, lc.runAtexitFuncs = some run ∧ (run g).2 = .error err := by
  unfold Lifecycle.runAtexit at h
  cases hatexit : lc.runAtexitFuncs with
  | none =>
    rw [hatexit] at h
    simp at h
  | some run =>
    rw [hatexit] at h
    have hkept := rules.runAtexitFuncs run hatexit g
    have hrun : run g = (g', .error err) := h
    rw [hrun] at hkept
    exact ⟨hkept, run, err, rfl, by rw [hrun]⟩

/-- A shutdown that fails has kept the flags, and the guest is active unless it is stranded. -/
lemma shutdownBackend_error {err : Error} (hstarted : pg.backendStarted = true)
    (h : shutdownBackend lc pg = (pg', .error err)) :
    pg'.Running active ↔ ¬ lc.Strands active pg.guest := by
  unfold shutdownBackend at h
  unfold Lifecycle.Strands
  split at h
  · rename_i guest err' hactive
    have hpg' : { pg with guest } = pg' := congrArg Prod.fst h
    rw [← hpg']
    simp [Running, hstarted]
  · rename_i guest r hactive
    have hoff : active guest = false := by
      rw [rules.setActive _ _ _ _ hactive]
      decide
    split at h
    · rename_i guest' err' hatexit
      obtain ⟨hkept, hstrands⟩ := runAtexit_error rules hatexit
      have hpg' : { pg with guest := guest' } = pg' := congrArg Prod.fst h
      rw [← hpg']
      refine ⟨fun hrunning => absurd hrunning.2 ?_, fun hnot => absurd hstrands hnot⟩
      show ¬ active guest' = true
      rw [hkept, hoff]
      decide
    · simp at h

omit rules in
/-- A shutdown that returns strands nothing. -/
lemma not_strands_of_shutdown (active : γ → Bool) (h : (shutdownBackend lc pg).2 = .ok ()) :
    ¬ lc.Strands active pg.guest := by
  unfold shutdownBackend at h
  unfold Lifecycle.Strands
  split at h
  · simp at h
  · rename_i guest r hactive
    rintro ⟨run, err, hatexit, herr⟩
    have hran : lc.runAtexit guest = ((run guest).1, .error err) := by
      unfold Lifecycle.runAtexit
      rw [hatexit]
      exact Prod.ext rfl herr
    rw [hran] at h
    simp at h

end PostgresMod

end PgliteOxide.Pglite
