import PgliteOxide.Pglite.ProxyTheorems

/-!
# How connections end

A backend is closed once for each time it was opened, unless a turn fails while one is open: the
`?` exits of `handle_stream` do not clean up (`backends_released_iff`). And the accept loops stop
for the shutdown flag or their own socket only, unless a turn fails: they pass the error of a
connection on (`server_stops_only`).
-/

namespace PgliteOxide.Pglite

open Lib Prog

/-! ## Releasing backends -/

/-- The backend a connection has open. -/
def backendOf : Connection → Option Handle
  | .reading st => st.backend
  | .handling st _ _ => st.backend
  | .returned _ => none

/-- Nothing fatal happens in a turn that has a backend open or opens one. -/
def sparesBackend (proxy : PgliteProxy) (c : Connection) (tr : Trace) : Prop :=
  (backendOf c).isSome = true ∨ (footprint tr).opened ≠ [] → fine proxy c tr = true

instance (proxy : PgliteProxy) (c : Connection) (tr : Trace) :
    Decidable (sparesBackend proxy c tr) :=
  inferInstanceAs (Decidable (_ → _))

/-- A turn that does not fail closes what it had open or opened, or keeps it. -/
lemma Turn.handles {proxy : PgliteProxy} {c c' : Connection} {tr : Trace}
    (turn : Turn proxy c tr c') (hfine : fine proxy c tr = true) :
    (backendOf c).toList ++ (footprint tr).opened
      = (footprint tr).closed ++ (backendOf c').toList := by
  cases turn with
  | readFailed _ h | badFrame _ h | endFailed _ _ h | messageFailed _ _ _ h | flushFailed _ h =>
    rw [h] at hfine
    cases hfine
  | framed hfoot | held _ _ hfoot | sent _ _ hfoot | sslRefused _ hfoot | closing _ hfoot
  | goOn hfoot => simp [hfoot, backendOf]
  | ended hfoot | finished hfoot | streamed _ hfoot => simp [hfoot, backendOf]
  | accepted _ hnone _ hfoot | turnedAway _ hnone _ hfoot => simp [hfoot, hnone, backendOf]

/-- A turn that fails closes nothing. -/
lemma Turn.closed_of_not_fine {proxy : PgliteProxy} {c c' : Connection} {tr : Trace}
    (turn : Turn proxy c tr c') (hfine : fine proxy c tr = false) :
    (footprint tr).closed = [] ∧ backendOf c' = none := by
  obtain ⟨err, rfl⟩ := turn.fine_eq_false_iff.mp hfine
  cases turn with
  | readFailed hfoot | badFrame hfoot | endFailed hfoot | flushFailed hfoot =>
    exact ⟨by rw [hfoot], rfl⟩
  | messageFailed _ hclosed => exact ⟨hclosed, rfl⟩

/-- As long as no turn fails with a backend open, the backends opened are the closed ones and the
one that is open. -/
lemma opened_eq_of_run {proxy : PgliteProxy} {tr : Trace} {c : Connection}
    (run : (handleStream proxy).Run (sparesBackend proxy) (.reading .initial) tr c) :
    (footprint tr).opened = (footprint tr).closed ++ (backendOf c).toList := by
  refine run_invariant (I := fun tr c =>
    (footprint tr).opened = (footprint tr).closed ++ (backendOf c).toList) rfl ?_ run
  intro tr tr' c c' hI turn hspares
  have hstep : (backendOf c).toList ++ (footprint tr').opened
      = (footprint tr').closed ++ (backendOf c').toList := by
    cases hfine : fine proxy c tr' with
    | true => exact turn.handles hfine
    | false =>
      -- the turn failed, so there was no backend to lose
      obtain ⟨hclosed, hnone⟩ := turn.closed_of_not_fine hfine
      have hno : ¬ ((backendOf c).isSome = true ∨ (footprint tr').opened ≠ []) := by
        intro h
        rw [hspares h] at hfine
        cases hfine
      simp only [not_or, not_not, Bool.not_eq_true, Option.isSome_eq_false_iff,
        Option.isNone_iff_eq_none] at hno
      simp [hclosed, hnone, hno]
  rw [footprint_append, Footprint.opened_append, Footprint.closed_append, hI, List.append_assoc,
    List.append_assoc, hstep]

/-- A run either never fails with a backend open, or has lost one. -/
lemma run_spares_or_lost {proxy : PgliteProxy} {tr : Trace} {c : Connection}
    (run : (handleStream proxy).Run (fun _ _ => True) (.reading .initial) tr c) :
    (handleStream proxy).Run (sparesBackend proxy) (.reading .initial) tr c ∨
      (∃ err, c = .returned (.error err)) ∧
        (footprint tr).closed.length < (footprint tr).opened.length := by
  induction run with
  | start => exact Or.inl .start
  | @step tr tr' c p r _ hnext exec _ ih =>
    rcases ih with ih | ⟨⟨err, rfl⟩, -⟩
    · by_cases hspares : sparesBackend proxy c tr'
      · exact Or.inl (ih.step hnext exec hspares)
      · right
        have turn := exec.of_wp (turn_of_next proxy hnext)
        rw [sparesBackend, Classical.not_imp, Bool.not_eq_true] at hspares
        obtain ⟨hopen, hfine⟩ := hspares
        refine ⟨turn.fine_eq_false_iff.mp hfine, ?_⟩
        have hpos : 0 < (backendOf c).toList.length + (footprint tr').opened.length := by
          rcases hopen with hopen | hopen
          · obtain ⟨backend, hbackend⟩ := Option.isSome_iff_exists.mp hopen
            rw [hbackend, Option.toList_some, List.length_singleton]
            omega
          · have := List.length_pos_iff.mpr hopen
            omega
        rw [footprint_append, Footprint.opened_append, Footprint.closed_append,
          (turn.closed_of_not_fine hfine).1, opened_eq_of_run ih]
        simp only [List.append_nil, List.length_append]
        omega
    · cases hnext

/-- **When `handle_stream` returns, it has closed each backend once for each time it opened it,
exactly when no turn failed with a backend open.** -/
theorem backends_released_iff (proxy : PgliteProxy) (tr : Trace) (result : Except ProxyError Unit)
    (run : (handleStream proxy).Run (fun _ _ => True) (.reading .initial) tr (.returned result)) :
    (footprint tr).closed = (footprint tr).opened ↔
      (handleStream proxy).Run (sparesBackend proxy) (.reading .initial) tr (.returned result) := by
  constructor
  · intro hclosed
    rcases run_spares_or_lost run with h | ⟨-, hlost⟩
    · exact h
    · rw [hclosed] at hlost
      exact absurd hlost (Nat.lt_irrefl _)
  · intro h
    rw [opened_eq_of_run h]
    exact (List.append_nil _).symm

theorem backends_released_iff_leave :
    (footprint (letIn ++ leave).flatten).closed = (footprint (letIn ++ leave).flatten).opened ↔
      (handleStream plainProxy).Run (sparesBackend plainProxy) (.reading .initial)
        (letIn ++ leave).flatten (.returned (.ok ())) :=
  backends_released_iff plainProxy _ _ (Machine.run_of_replay_start (by decide))

/-- A client that resets its connection leaves its backend open. -/
theorem backends_not_released :
    ¬ ∀ (proxy : PgliteProxy) (tr : Trace) (result : Except ProxyError Unit),
      (handleStream proxy).Run (fun _ _ => True) (.reading .initial) tr (.returned result) →
        (footprint tr).closed = (footprint tr).opened := by
  intro h
  have hrun : (handleStream plainProxy).Run (fun _ _ => True) (.reading .initial)
      (letIn ++ [[(⟨.read, .error .connectionReset⟩ : Event Op Answer)]]).flatten
      (.returned (.error (.io "read frontend socket" .connectionReset))) :=
    Machine.run_of_replay_start (by decide)
  exact absurd (h _ _ _ hrun) (by decide)

/-! ## The accept loops -/

/-- An answer an accept loop stops for: shutdown was requested, or its own socket failed. -/
def stopsServer : Event Op Answer → Bool
  | ⟨.loadShutdown, requested⟩ => requested
  | ⟨.accept, .error _⟩ => true
  | ⟨.setNonblocking, .error _⟩ => true
  | _ => false

/-- Nothing fatal happens to the connection that is served. -/
def servedFine (proxy : PgliteProxy) : Server → Trace → Prop
  | .serving c, tr => fine proxy c tr = true
  | _, _ => True

instance (proxy : PgliteProxy) : (s : Server) → (tr : Trace) → Decidable (servedFine proxy s tr)
  | .serving c, tr => inferInstanceAs (Decidable (fine proxy c tr = true))
  | .starting _, _ | .listening, _ | .stopped _, _ => inferInstanceAs (Decidable True)

/-- The loop head stops for its own reasons only. -/
lemma acceptConnection_spec (transport : Transport) :
    (acceptConnection transport).wp fun tr r =>
      r = .ok (.serving (.reading .initial)) ∨
      ((∃ err, r = .error err) ∨ r = .ok (.stopped (.ok ()))) ∧
        ∃ e, tr.getLast? = some e ∧ stopsServer e = true := by
  simp only [acceptConnection, wp_bind, wp_perform, wp_ite]
  intro requested
  constructor
  · intro hrequested
    right
    exact ⟨Or.inr rfl, _, rfl, hrequested⟩
  · intro _ ans
    rcases ans with kind | ⟨⟩
    · right
      exact ⟨Or.inl ⟨_, rfl⟩, _, rfl, rfl⟩
    · simp only [wp_bind, wp_perform, wp_ite]
      intro requested
      constructor
      · intro hrequested
        right
        exact ⟨Or.inr rfl, _, rfl, hrequested⟩
      · intro _ ans
        rcases ans with kind | ⟨⟩
        · right
          exact ⟨Or.inl ⟨_, rfl⟩, _, rfl, rfl⟩
        · left
          rfl

/-- What holds of the server as long as nothing fatal happens to its connections. -/
def stopsForItsOwn (tr : Trace) : Server → Prop
  | .serving (.returned (.error _)) => False
  | .stopped _ => ∃ e, tr.getLast? = some e ∧ stopsServer e = true
  | _ => True

/-- A turn of the connection that is served keeps the server going. -/
lemma serving_step {transport : Transport} {proxy : PgliteProxy} {c : Connection}
    {q : ProxyM Connection} (hnext : (handleStream proxy).next c = some q) (tr : Trace) :
    (do let connection ← q; return .serving connection : ProxyM Server).wp fun tr' r =>
      fine proxy c tr' = true →
        stopsForItsOwn (tr ++ tr') ((serveListenerUntilReady transport proxy).settle r) := by
  rw [wp_bind]
  apply wp_mono (turn_of_next proxy hnext)
  intro tr' r turn
  have hsound := turn.fine_eq_false_iff
  rcases r with err | c'
  · intro hfine
    rw [hsound.mpr ⟨err, rfl⟩] at hfine
    cases hfine
  · simp only [wp_pure, List.append_nil]
    intro hfine
    rw [hfine] at hsound
    cases c' with
    | reading st => trivial
    | handling st messages close => trivial
    | returned result =>
      cases result with
      | ok => trivial
      | error err => exact absurd (hsound.mpr ⟨err, rfl⟩) (by decide)

lemma stopsForItsOwn_step {transport : Transport} {proxy : PgliteProxy} {tr : Trace} {s : Server}
    {p : ProxyM Server} (hI : stopsForItsOwn tr s)
    (hnext : (serveListenerUntilReady transport proxy).next s = some p) :
    p.wp fun tr' r => servedFine proxy s tr' →
      stopsForItsOwn (tr ++ tr') ((serveListenerUntilReady transport proxy).settle r) := by
  match s, hnext with
  | .starting ready, hnext =>
    cases hnext
    cases ready <;> simp [stopsForItsOwn]
  | .listening, hnext =>
    cases hnext
    apply wp_mono (acceptConnection_spec transport)
    intro tr' r h _
    have hlast : (∃ e, tr'.getLast? = some e ∧ stopsServer e = true) →
        ∃ e, (tr ++ tr').getLast? = some e ∧ stopsServer e = true := by
      intro ⟨e, he, hstops⟩
      exact ⟨e, by simp [List.getLast?_append, he], hstops⟩
    rcases h with rfl | ⟨⟨err, rfl⟩ | rfl, hstops⟩
    · trivial
    · exact hlast hstops
    · exact hlast hstops
  | .serving (.returned (.ok ())), hnext =>
    cases hnext
    intro _
    trivial
  | .serving (.returned (.error err)), hnext => exact absurd hI id
  | .serving (.reading st), hnext =>
    cases hnext
    exact serving_step rfl tr
  | .serving (.handling st [] close), hnext =>
    cases hnext
    exact serving_step rfl tr
  | .serving (.handling st (message :: rest) close), hnext =>
    cases hnext
    exact serving_step rfl tr

/-- **The accept loops stop only for the shutdown flag or for their own socket, as long as nothing
fatal happens to the connections they serve**: then no `handle_stream` returns an error. -/
theorem server_stops_only (proxy : PgliteProxy) (M : Machine Op Answer ProxyError Server)
    (hM : M = serveTcpListenerUntilReady proxy ∨ M = serveUnixListenerUntilReady proxy)
    (ready : Bool) (tr : Trace) (s : Server)
    (run : M.Run (servedFine proxy) (.starting ready) tr s) :
    (∀ err, s ≠ .serving (.returned (.error err))) ∧
      ∀ result, s = .stopped result → ∃ e, tr.getLast? = some e ∧ stopsServer e = true := by
  obtain ⟨transport, rfl⟩ : ∃ transport, M = serveListenerUntilReady transport proxy := by
    rcases hM with rfl | rfl
    · exact ⟨.tcp, rfl⟩
    · exact ⟨.unix, rfl⟩
  have hI : stopsForItsOwn tr s := by
    apply run.invariant
    · trivial
    · intro tr s p hI hnext
      exact stopsForItsOwn_step hI hnext
  constructor
  · intro err hs
    rw [hs] at hI
    exact hI
  · intro result hs
    rw [hs] at hI
    exact hI

/-- A client comes and goes, then shutdown is requested. -/
def serveOne : List Trace :=
  [[⟨.sendReady, ()⟩],
    [⟨.loadShutdown, false⟩, ⟨.accept, .ok ()⟩, ⟨.loadShutdown, false⟩, ⟨.setNonblocking, .ok ()⟩]]
    ++ letIn ++ leave ++ [[], [⟨.loadShutdown, true⟩]]

theorem server_stops_only_shutdown :
    ∃ e, serveOne.flatten.getLast? = some e ∧ stopsServer e = true :=
  (server_stops_only plainProxy (serveTcpListenerUntilReady plainProxy) (Or.inl rfl) true
    serveOne.flatten (.stopped (.ok ())) (Machine.run_of_replay_start (by decide))).2 _ rfl

/-- Four bytes of one client end the server: they announce a startup packet shorter than its own
header. -/
theorem server_stopped_by_client :
    ¬ ∀ (proxy : PgliteProxy) (ready : Bool) (tr : Trace) (result : Except ProxyError Unit),
      (serveTcpListenerUntilReady proxy).Run (fun _ _ => True) (.starting ready) tr
        (.stopped result) →
      ∃ e, tr.getLast? = some e ∧ stopsServer e = true := by
  intro h
  have hrun : (serveTcpListenerUntilReady plainProxy).Run (fun _ _ => True) (.starting false)
      ([[], [⟨.loadShutdown, false⟩, ⟨.accept, .ok ()⟩, ⟨.loadShutdown, false⟩,
        ⟨.setNonblocking, .ok ()⟩], [⟨.read, .ok [0, 0, 0, 4]⟩]] : List Trace).flatten
      (.stopped (.error (.text "invalid startup packet length 4"))) :=
    Machine.run_of_replay_start (by decide)
  exact absurd (h _ _ _ _ hrun) (by decide)

end PgliteOxide.Pglite
