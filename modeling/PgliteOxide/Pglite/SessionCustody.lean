import PgliteOxide.Pglite.Lifecycle
import PgliteOxide.Pglite.RootCustody
import PgliteOxide.Pglite.SessionRestore

/-!
# Sessions and who works in their root

The methods of `RootCustody.lean` decide who works in a root, and leave open how the jobs end. They
are connected here with the methods of a client: an instance shows a session when they agree on the
flags and on the listeners (`OpenDb.Shows`), and whatever a method of the session does, the one on
the instance can end in the same way and show the session that is left (`OpenDb.Covers`).
-/

namespace PgliteOxide.Pglite.RootUse

open Lib Session

/-! ## The relation -/

/-- The ids of the listeners of a channel. -/
def OpenDb.idsOf (db : OpenDb) (channel : String) : List UInt64 :=
  (db.notifyListeners.filter (·.channel = channel)).map (·.id)

section Shows

variable {σ α : Type} {build : Build} {b : Backend σ} {stack : ℕ} {db db' : OpenDb}
  {s s' : Session σ} {channel channel' : String}

/-- The flags and the listeners are those of the session; no channel is kept without a listener. -/
structure OpenDb.Shows (db : OpenDb) (s : Session σ) : Prop where
  ready : db.ready = s.db.ready
  closing : db.closing = s.db.closing
  closed : db.closed = s.db.closed
  listeners : ∀ channel, db.idsOf channel = (s.db.listeners channel).map (·.id)
  filled : ∀ channel, s.db.notifyListeners.get channel ≠ some []
  nextListenerId : db.nextListenerId = s.db.nextListenerId

/-- The program can end as the method did, with an instance that shows the session. -/
def Covers (p : CustodyProg OpenDb.Ended) (s' : Session σ) (r : Outcome ClientError α) : Prop :=
  ∃ calls ended, Prog.Exec p calls (.ok ended) ∧ ended.1.Shows s' ∧
    (ended.2 = .ok () ↔ ∃ a, r = .ok a)

/-- The program can end as the method did. -/
def Ends (p : CustodyProg (Except CallError Unit)) (r : Outcome ClientError α) : Prop :=
  ∃ calls result, Prog.Exec p calls (.ok result) ∧ (result = .ok () ↔ ∃ a, r = .ok a)

/-- What is shown does not depend on the backend, nor on what is read and registered. -/
lemma OpenDb.Shows.frame (h : db.Shows s) (hlisteners : s'.db.notifyListeners = s.db.notifyListeners)
    (hnext : s'.db.nextListenerId = s.db.nextListenerId) (hready : s'.db.ready = s.db.ready)
    (hclosing : s'.db.closing = s.db.closing) (hclosed : s'.db.closed = s.db.closed) :
    db.Shows s' where
  ready := h.ready.trans hready.symm
  closing := h.closing.trans hclosing.symm
  closed := h.closed.trans hclosed.symm
  listeners channel := by
    unfold Instance.listeners
    rw [hlisteners]
    exact h.listeners channel
  filled channel := hlisteners ▸ h.filled channel
  nextListenerId := h.nextListenerId.trans hnext.symm

/-- Queries leave what is shown alone. -/
lemma steadyFrame_shows (build : Build) (b : Backend σ) (db : OpenDb) :
    SteadyFrame build b (fun s => db.Shows s) fun _ => True where
  createBlobDir _ h := h.frame rfl rfl rfl rfl rfl
  writeBlob _ _ h := h.frame rfl rfl rfl rfl rfl
  removeBlob _ h := h.frame rfl rfl rfl rfl rfl
  registry _ _ _ _ _ h := h.frame rfl rfl rfl rfl rfl
  exchange request _ options s h := by
    obtain ⟨parser, e, hstate⟩ := execProtocol_state build b request options s
    rw [hstate]
    exact h.frame rfl rfl rfl rfl rfl
  lookup _ := trivial

/-- An instance that has just been opened. -/
lemma shows_opened (root : HostPath) (serializers : SerializerMap) (parsers : ParserMap)
    (backend : σ) : (OpenDb.opened root).Shows (Session.opened serializers parsers backend) where
  ready := rfl
  closing := rfl
  closed := rfl
  listeners _ := rfl
  filled _ := nofun
  nextListenerId := rfl

/-! ## Listeners -/

lemma OpenDb.Shows.any_iff (h : db.Shows s) (channel : String) :
    db.notifyListeners.any (·.channel = channel) = true ↔ s.db.listeners channel ≠ [] := by
  have hids : db.notifyListeners.any (·.channel = channel) = true ↔ db.idsOf channel ≠ [] := by
    unfold OpenDb.idsOf
    rw [List.any_eq_true, ne_eq, List.map_eq_nil_iff, List.filter_eq_nil_iff]
    push Not
    rfl
  rw [hids, h.listeners, ne_eq, List.map_eq_nil_iff]

/-- A channel that is in the map has a listener. -/
lemma OpenDb.Shows.get_eq_none_iff (h : db.Shows s) (channel : String) :
    s.db.notifyListeners.get channel = none ↔ s.db.listeners channel = [] := by
  unfold Instance.listeners
  rcases hget : s.db.notifyListeners.get channel with _ | listeners
  · simp
  · have hne : listeners ≠ [] := fun hnil => h.filled channel (hnil ▸ hget)
    simpa using hne

/-! ## Methods that leave the instance as it is -/

/-- A job may end in any way. -/
lemma exec_work (root : HostPath) (job : RootJob) (ans : job.Answer) :
    Prog.Exec (work root job) [⟨.work root job, ans⟩] (.ok ans) :=
  @Prog.Exec.call CustodyOp CustodyOp.Answer OpenError job.Answer (CustodyOp.work root job) Prog.ret
    [] (.ok ans) ans (.ret ans)

lemma ends_execInternal (db : OpenDb) (r : Outcome ClientError α) : Ends db.execInternal r := by
  by_cases hr : ∃ a, r = .ok a
  · exact ⟨_, .ok (), (exec_work db.root .exchange true).bind (.ret _), iff_of_true rfl hr⟩
  · exact ⟨_, .error .failed, (exec_work db.root .exchange false).bind (.ret _),
      iff_of_false nofun hr⟩

lemma checkReady_iff (h : db.Shows s) :
    db.checkReady = .ok () ↔ (checkReady s).2 = .ok () := by
  unfold checkReady OpenDb.checkReady
  rw [Stateful.bind_of_ok (show getDb s = (s, .ok s.db) from rfl), h.closing, h.closed, h.ready]
  cases s.db.closing <;> cases s.db.closed <;> cases s.db.ready <;> simp [bail, Stateful.fail]
  rfl

lemma checkReady_eq_ok (h : db.Shows s) (hready : db.checkReady = .ok ()) :
    checkReady s = (s, .ok ()) :=
  Prod.ext (checkReady_fst s) ((checkReady_iff h).mp hready)

/-- A method that asks `check_ready` first does nothing where it fails. -/
lemma not_ready (h : db.Shows s) {err : CallError} (hready : db.checkReady = .error err)
    (f : Unit → Method σ α) :
    ((checkReady >>= f) s).1 = s ∧ ¬ ∃ a, ((checkReady >>= f) s).2 = .ok a := by
  have hfst := checkReady_fst s
  rcases hcheck : checkReady s with ⟨t, _ | e | _⟩
  · have hok : db.checkReady = .ok () := (checkReady_iff h).mpr (by rw [hcheck])
    rw [hok] at hready
    cases hready
  · rw [hcheck] at hfst
    rw [Stateful.bind_of_err hcheck]
    exact ⟨hfst, by simp⟩
  · rw [hcheck] at hfst
    rw [Stateful.bind_of_panic hcheck]
    exact ⟨hfst, by simp⟩

/-- A method that works in exchanges behind `check_ready`. -/
lemma ends_exec (h : db.Shows s) (m : Unit → Method σ α) :
    Ends db.exec ((checkReady >>= m) s).2 := by
  unfold OpenDb.exec
  rcases hready : db.checkReady with err | _
  · exact ⟨[], .error err, .ret _, iff_of_false nofun (not_ready h hready m).2⟩
  · exact ends_execInternal db _

/-- `exec`. -/
lemma exec_ends (h : db.Shows s) (sql : String) (options : Option QueryOptions) :
    Ends db.exec (exec build b stack sql options s).2 ∧
      db.Shows (exec build b stack sql options s).1 :=
  ⟨ends_exec h _, (steadyFrame_shows build b db).keeps_exec trivial options s h⟩

/-- Such a method as a call of the instance. -/
lemma Ends.covers {p : CustodyProg (Except CallError Unit)} {r : Outcome ClientError α}
    (hends : Ends p r) (h : db.Shows s') : Covers (p >>= fun result => pure (db, result)) s' r := by
  obtain ⟨calls, result, hexec, hresult⟩ := hends
  exact ⟨calls ++ [], (db, result), hexec.bind (.ret _), h, hresult⟩

/-- The result of a method may be dropped. -/
lemma Covers.drop_result {p : CustodyProg OpenDb.Ended} {m : Method σ α}
    (h : Covers p (m s).1 (m s).2) :
    Covers p ((m >>= fun _ => pure () : Method σ Unit) s).1
      ((m >>= fun _ => pure () : Method σ Unit) s).2 := by
  obtain ⟨calls, ended, hexec, hshows, hresult⟩ := h
  refine ⟨calls, ended, hexec, ?_, hresult.trans ?_⟩
  · rw [Stateful.bind_pure_fst]
    exact hshows
  · rcases hrun : m s with ⟨t, a | e | _⟩
    · rw [Stateful.bind_of_ok hrun]
      exact iff_of_true ⟨_, rfl⟩ ⟨(), rfl⟩
    · rw [Stateful.bind_of_err hrun]
      simp
    · rw [Stateful.bind_of_panic hrun]
      simp

/-- A part that does not end well ends the whole. -/
lemma Ends.of_not_ok {p : CustodyProg (Except CallError Unit)} {r : Outcome ClientError α}
    (h : Ends p r) (hr : ¬ ∃ a, r = .ok a) :
    ∃ calls err, Prog.Exec p calls (.ok (.error err)) := by
  obtain ⟨calls, result, hexec, hresult⟩ := h
  rcases result with err | _
  · exact ⟨calls, err, hexec⟩
  · exact absurd (hresult.mp rfl) hr

lemma Ends.of_ok {p : CustodyProg (Except CallError Unit)} {r : Outcome ClientError α} {a : α}
    (h : Ends p r) (hr : r = .ok a) : ∃ calls, Prog.Exec p calls (.ok (.ok ())) := by
  obtain ⟨calls, result, hexec, hresult⟩ := h
  obtain rfl : result = .ok () := hresult.mpr ⟨a, hr⟩
  exact ⟨calls, hexec⟩

/-- The statements of an extension. -/
lemma setUp_ends (h : db.Shows s) (statements : List String) :
    Ends (db.setUp statements) (execAll build b stack statements s).2 := by
  -- on the statements: the first that fails ends them
  induction statements generalizing s with
  | nil => exact ⟨[], .ok (), .ret _, iff_of_true rfl ⟨(), rfl⟩⟩
  | cons sql statements ih =>
    obtain ⟨hends, hshows⟩ : Ends db.exec (exec build b stack sql none s).2 ∧
        db.Shows (exec build b stack sql none s).1 := exec_ends h sql none
    have hall : execAll build b stack (sql :: statements) =
        (exec build b stack sql none >>= fun _ => execAll build b stack statements) := rfl
    rw [hall]
    obtain ⟨t, results, hrun, hrest⟩ | ⟨hhead, -, hno⟩ := Stateful.bind_ok_or
      (exec build b stack sql none) (fun _ => execAll build b stack statements) s
    · rw [hrun] at hends hshows
      obtain ⟨calls, hexec⟩ := hends.of_ok rfl
      obtain ⟨calls', result, hexec', hresult⟩ := ih hshows
      exact ⟨calls ++ calls', result, hexec.bind hexec', hrest ▸ hresult⟩
    · obtain ⟨calls, err, hexec⟩ := hends.of_not_ok hhead
      exact ⟨calls ++ [], .error err, hexec.bind (.ret _), iff_of_false nofun hno⟩

/-! ## Extensions -/

/-- A job, and what is done behind it where it is done. -/
lemma Ends.job {w : CustodyProg Bool} (hw : ∀ ok, ∃ calls, Prog.Exec w calls (.ok ok)) {β : Type}
    {p : CustodyProg (Except CallError Unit)} {m : Method σ β} {f : β → Method σ α}
    (hp : ∀ t a, m s = (t, .ok a) → Ends p (f a t).2) :
    Ends (w >>= fun ok => if ok then p else pure (.error .failed)) ((m >>= f) s).2 := by
  obtain ⟨t, a, hm, hrest⟩ | ⟨-, -, hno⟩ := Stateful.bind_ok_or m f s
  · obtain ⟨calls, hdone⟩ := hw true
    obtain ⟨calls', result, hexec, hresult⟩ := hp t a hm
    rw [hrest]
    exact ⟨calls ++ calls', result, hdone.bind hexec, hresult⟩
  · obtain ⟨calls, hfailed⟩ := hw false
    exact ⟨calls ++ [], .error .failed, hfailed.bind (.ret _), iff_of_false nofun hno⟩

variable {host : ExtensionHost σ}

lemma preloadAndSetUp_ends (h : db.Shows s) (extension : Extension) (statements : List String) :
    Ends (db.preloadAndSetUp statements)
      ((callBackend (host.preloadExtensionModule · extension) >>= fun _ =>
        execAll build b stack statements : Method σ Unit) s).2 := by
  refine Ends.job (fun ok => ⟨_, exec_work db.root .preloadModule ok⟩) fun t a hpreload => ?_
  have hshows : db.Shows (callBackend (host.preloadExtensionModule · extension) s).1 :=
    keeps_callBackend (I := fun s => db.Shows s) (fun _ h => h.frame rfl rfl rfl rfl rfl) s h
  rw [hpreload] at hshows
  exact setUp_ends hshows statements

/-- `enable_preinstalled_extension`. -/
lemma enablePreinstalledExtension_ends (h : db.Shows s) (extension : Extension) :
    Ends (db.enablePreinstalledExtension extension)
        (enablePreinstalledExtension build b host stack extension s).2 ∧
      db.Shows (enablePreinstalledExtension build b host stack extension s).1 :=
  ⟨preloadAndSetUp_ends h extension _, (steadyFrame_shows build b db).keeps_enablePreinstalledExtension
    (fun _ _ h => h.frame rfl rfl rfl rfl rfl) (fun _ _ => trivial) s h⟩

/-- `enable_extension`. -/
lemma enableExtension_ends (h : db.Shows s) (extension : Extension) :
    Ends (db.enableExtension extension) (enableExtension build b host stack extension s).2 ∧
      db.Shows (enableExtension build b host stack extension s).1 := by
  refine ⟨?_, (steadyFrame_shows build b db).keeps_enableExtension
    (fun _ _ _ h => h.frame rfl rfl rfl rfl rfl) (fun _ _ h => h.frame rfl rfl rfl rfl rfl)
    (fun _ _ => trivial) s h⟩
  unfold enableExtension OpenDb.enableExtension
  rcases host.extensionArchive extension.sqlName with _ | bytes
  · exact ⟨_, .error .failed, (exec_work db.root .installExtension false).bind (.ret _),
      iff_of_false nofun (by simp [bail, Stateful.fail])⟩
  · refine Ends.job (fun ok => ⟨_, exec_work db.root .installExtension ok⟩) fun t a hinstall => ?_
    have hshows : db.Shows
        (callBackend (host.installBundledExtensionBytes · extension.sqlName bytes) s).1 :=
      keeps_callBackend (I := fun s => db.Shows s) (fun _ h => h.frame rfl rfl rfl rfl rfl) s h
    rw [hinstall] at hshows
    exact preloadAndSetUp_ends hshows extension _

/-! ## Listeners that come and go -/

/-- The instance with one more listener. -/
lemma OpenDb.Shows.listened (h : db.Shows s) (channel : String) (callback : CallbackId) :
    OpenDb.Shows { db with
      notifyListeners := db.notifyListeners ++ [⟨db.nextListenerId, channel⟩]
      nextListenerId := db.nextListenerId + 1 } (s.withListener channel callback) where
  ready := h.ready
  closing := h.closing
  closed := h.closed
  listeners channel' := by
    have hids := h.listeners channel'
    unfold OpenDb.idsOf Instance.listeners at *
    unfold Session.withListener
    by_cases hchannel : channel' = channel
    · subst hchannel
      rw [ListenerMap.get_set]
      simp [hids, h.nextListenerId, Instance.listeners]
    · rw [ListenerMap.get_set_of_ne _ _ hchannel]
      simpa [Ne.symm hchannel] using hids
  filled channel' := by
    unfold Session.withListener
    by_cases hchannel : channel' = channel
    · subst hchannel
      simp
    · rw [ListenerMap.get_set_of_ne _ _ hchannel]
      exact h.filled channel'
  nextListenerId := congrArg (· + 1) h.nextListenerId

/-- `listen`. -/
lemma listen_covers (h : db.Shows s) (channel : String) (callback : CallbackId) :
    Covers (db.listen channel) (listen build b stack channel callback s).1
      (listen build b stack channel callback s).2 := by
  unfold OpenDb.listen
  rcases hready : db.checkReady with err | _
  · obtain ⟨hfst, hno⟩ : (listen build b stack channel callback s).1 = s ∧
        ¬ ∃ a, (listen build b stack channel callback s).2 = .ok a := not_ready h hready _
    rw [hfst]
    exact ⟨[], (db, .error err), .ret _, h, iff_of_false nofun hno⟩
  have hany := h.any_iff channel
  rw [listen_eq (checkReady_eq_ok h hready)]
  dsimp only
  -- only the first listener of a channel sends LISTEN
  by_cases hnone : s.db.listeners channel = []
  · have hshows : db.Shows (listenFirst build b stack channel s).1 :=
      ((steadyFrame_shows build b db).keeps_execInternal trivial none).onlyIf s h
    obtain ⟨calls, result, hexec, hresult⟩ :=
      ends_execInternal db (listenFirst build b stack channel s).2
    rw [if_neg fun hsome => hany.mp hsome hnone]
    rcases hfirst : listenFirst build b stack channel s with ⟨t, results | e | _⟩
    · rw [hfirst] at hshows hresult
      obtain rfl : result = .ok () := hresult.mpr ⟨results, rfl⟩
      exact ⟨calls ++ [], _, hexec.bind (.ret _), hshows.listened channel callback,
        iff_of_true rfl ⟨_, rfl⟩⟩
    all_goals
      rw [hfirst] at hshows hresult
      obtain ⟨err, rfl⟩ : ∃ err, result = .error err := by
        rcases result with err | _
        · exact ⟨err, rfl⟩
        · simpa using hresult.mp rfl
      exact ⟨calls ++ [], (db, .error err), hexec.bind (.ret _), hshows,
        iff_of_false nofun (by simp)⟩
  · have hfirst : listenFirst build b stack channel s = (s, .ok []) := by
      unfold listenFirst Stateful.onlyIf
      rw [if_neg (by simpa using hnone)]
      rfl
    rw [if_pos (hany.mpr hnone), hfirst]
    exact ⟨[], _, .ret _, h.listened channel callback, iff_of_true rfl ⟨_, rfl⟩⟩

/-- The instance with the listeners that are kept. -/
abbrev OpenDb.keeping (db : OpenDb) (keep : ChannelEntry → Bool) : OpenDb :=
  { db with notifyListeners := db.notifyListeners.filter keep }

/-- The listeners of a channel whose listeners are all kept. -/
lemma OpenDb.Shows.idsOf_keeping (h : db.Shows s) {keep : ChannelEntry → Bool}
    (hkeep : ∀ entry, entry.channel = channel → keep entry = true) :
    (db.keeping keep).idsOf channel = (s.db.listeners channel).map (·.id) := by
  rw [← h.listeners channel]
  unfold OpenDb.idsOf
  rw [List.filter_filter]
  refine congrArg _ (List.filter_congr fun entry _ => ?_)
  by_cases hentry : entry.channel = channel
  · simp [hentry, hkeep entry hentry]
  · simp [hentry]

/-- Where only the listeners of one channel are not all kept. -/
lemma OpenDb.Shows.keeping (h : db.Shows s) {keep : ChannelEntry → Bool} {map : ListenerMap}
    (hothers : ∀ entry, entry.channel ≠ channel → keep entry = true)
    (hget : ∀ channel', channel' ≠ channel →
      map.get channel' = s.db.notifyListeners.get channel')
    (hids : (db.keeping keep).idsOf channel = ((map.get channel).getD []).map (·.id))
    (hfilled : map.get channel ≠ some []) : (db.keeping keep).Shows (s.withListeners map) where
  ready := h.ready
  closing := h.closing
  closed := h.closed
  listeners channel' := by
    by_cases hchannel : channel' = channel
    · exact hchannel ▸ hids
    · have hsame : (s.withListeners map).db.listeners channel' = s.db.listeners channel' :=
        congrArg (·.getD []) (hget channel' hchannel)
      rw [hsame]
      exact h.idsOf_keeping fun entry hentry => hothers entry (hentry ▸ hchannel)
  filled channel' := by
    by_cases hchannel : channel' = channel
    · exact hchannel ▸ hfilled
    · rw [show (s.withListeners map).db.notifyListeners.get channel' = _ from hget channel' hchannel]
      exact h.filled channel'
  nextListenerId := h.nextListenerId

/-- The last exchange of a method. -/
lemma execLast_covers (h : db.Shows s) (sql : String) :
    Covers (db.execInternal >>= fun result => pure (db, result))
      ((execInternal build b stack sql none >>= fun _ => pure () : Method σ Unit) s).1
      ((execInternal build b stack sql none >>= fun _ => pure () : Method σ Unit) s).2 :=
  ((ends_execInternal db _).covers
    ((steadyFrame_shows build b db).keeps_execInternal trivial none s h)).drop_result

/-- A channel that nobody listens on is left alone. -/
lemma OpenDb.Shows.any_of_get (h : db.Shows s) :
    db.notifyListeners.any (·.channel = channel) = (s.db.notifyListeners.get channel).isSome := by
  rw [Bool.eq_iff_iff, h.any_iff, Option.isSome_iff_ne_none, ne_eq, ne_eq, h.get_eq_none_iff]

/-- `unlisten_channel`. -/
lemma unlistenChannel_covers (h : db.Shows s) (channel : String) :
    Covers (db.unlistenChannel channel) (unlistenChannel build b stack channel s).1
      (unlistenChannel build b stack channel s).2 := by
  unfold OpenDb.unlistenChannel unlistenChannel
  rw [Stateful.bind_of_ok (show getDb s = (s, .ok s.db) from rfl), h.any_of_get]
  rcases hget : s.db.notifyListeners.get channel with _ | listeners
  · exact ⟨[], (db, .ok ()), .ret _, h, iff_of_true rfl ⟨(), rfl⟩⟩
  · refine execLast_covers (h.keeping (by simp)
      (fun channel' hchannel => ListenerMap.get_remove_of_ne _ hchannel) ?_ (by simp)) _
    rw [ListenerMap.get_remove]
    simp [OpenDb.idsOf]

/-- The listener is not the one of the handle. -/
abbrev ChannelEntry.isOther (handle : ListenerHandle) (entry : ChannelEntry) : Bool :=
  !(entry.channel = handle.normalizedChannel && entry.id = handle.id)

/-- The ids that `unlisten` keeps. -/
lemma OpenDb.Shows.idsOf_kept (h : db.Shows s) (handle : ListenerHandle) :
    (db.keeping (·.isOther handle)).idsOf handle.normalizedChannel =
      (keptListeners s handle).map (·.id) := by
  have hids := h.listeners handle.normalizedChannel
  unfold OpenDb.idsOf at hids ⊢
  have hfilter : (db.notifyListeners.filter (·.isOther handle)).filter
      (·.channel = handle.normalizedChannel) =
      (db.notifyListeners.filter (·.channel = handle.normalizedChannel)).filter
        ((fun id => decide (id ≠ handle.id)) ∘ (·.id)) := by
    rw [List.filter_filter, List.filter_filter]
    refine List.filter_congr fun entry _ => ?_
    by_cases hentry : entry.channel = handle.normalizedChannel <;> simp [hentry]
  rw [hfilter, ← List.filter_map, hids, List.filter_map]
  rfl

/-- `unlisten`. -/
lemma unlisten_covers (h : db.Shows s) (handle : ListenerHandle) :
    Covers (db.unlisten ⟨handle.id, handle.normalizedChannel⟩) (unlisten build b stack handle s).1
      (unlisten build b stack handle s).2 := by
  have hkept := h.idsOf_kept handle
  have hothers : ∀ entry : ChannelEntry, entry.channel ≠ handle.normalizedChannel →
      entry.isOther handle = true := fun entry hentry => by simp [hentry]
  rcases hget : s.db.notifyListeners.get handle.normalizedChannel with _ | listeners
  · have hcustody : db.unlisten ⟨handle.id, handle.normalizedChannel⟩ = pure (db, .ok ()) :=
      if_neg (by rw [h.any_of_get, hget]; decide)
    have hsession : unlisten build b stack handle s = (s, .ok ()) := by
      unfold unlisten
      rw [Stateful.bind_of_ok (show getDb s = (s, .ok s.db) from rfl), hget]
      rfl
    rw [hcustody, hsession]
    exact ⟨[], (db, .ok ()), .ret _, h, iff_of_true rfl ⟨(), rfl⟩⟩
  -- both sides keep the same listeners
  generalize hleft : db.keeping (·.isOther handle) = left at hkept
  have hcustody : db.unlisten ⟨handle.id, handle.normalizedChannel⟩ =
      if left.notifyListeners.any (·.channel = handle.normalizedChannel) then
        pure (left, .ok ())
      else left.execInternal >>= fun result => pure (left, result) := by
    rw [← hleft]
    exact if_pos (by rw [h.any_of_get, hget]; rfl)
  have hlisteners : (listeners.filter fun listener => listener.id ≠ handle.id) =
      keptListeners s handle := by
    unfold keptListeners Instance.listeners
    rw [hget]
    rfl
  have hsession : unlisten build b stack handle s =
      if (keptListeners s handle).isEmpty then
        (execInternal build b stack s!"UNLISTEN {quoteIdentifier handle.channel}" none >>=
          fun _ => pure () : Method σ Unit)
          (s.withListeners (s.db.notifyListeners.remove handle.normalizedChannel))
      else (s.withListeners
        (s.db.notifyListeners.set handle.normalizedChannel (keptListeners s handle)), .ok ()) := by
    unfold unlisten
    rw [Stateful.bind_of_ok (show getDb s = (s, .ok s.db) from rfl), hget]
    dsimp only
    rw [hlisteners]
    split <;> rfl
  rw [hcustody, hsession]
  by_cases hempty : keptListeners s handle = []
  · -- nobody listens any more
    rw [hempty] at hkept
    have hshows : left.Shows
        (s.withListeners (s.db.notifyListeners.remove handle.normalizedChannel)) := by
      rw [← hleft]
      exact h.keeping hothers (fun channel hchannel => ListenerMap.get_remove_of_ne _ hchannel)
        (by rw [hleft, hkept, ListenerMap.get_remove]; rfl) (by simp)
    have hnone : left.notifyListeners.any (·.channel = handle.normalizedChannel) = false := by
      rw [hshows.any_of_get]
      exact congrArg Option.isSome (ListenerMap.get_remove ..)
    rw [hnone, hempty]
    exact execLast_covers hshows _
  · have hshows : left.Shows (s.withListeners
        (s.db.notifyListeners.set handle.normalizedChannel (keptListeners s handle))) := by
      rw [← hleft]
      exact h.keeping hothers (fun channel hchannel => ListenerMap.get_set_of_ne _ _ hchannel)
        (by rw [hleft, hkept, ListenerMap.get_set]; rfl) (by simpa using hempty)
    have hsome : left.notifyListeners.any (·.channel = handle.normalizedChannel) = true := by
      rw [hshows.any_of_get]
      exact congrArg Option.isSome (ListenerMap.get_set ..)
    rw [if_pos hsome, if_neg (by simpa using hempty)]
    exact ⟨[], _, .ret _, hshows, iff_of_true rfl ⟨(), rfl⟩⟩

/-! ## Dumps and the end -/

/-- The client has no backend any more. -/
lemma OpenDb.Shows.asClosed (h : db.Shows s) :
    OpenDb.Shows { db with ready := false, closed := true } s.asClosed where
  ready := rfl
  closing := h.closing
  closed := rfl
  listeners := h.listeners
  filled := h.filled
  nextListenerId := h.nextListenerId

/-- How the job of a dump ends. -/
def DumpShows (db : OpenDb) (s : Session σ) (r : Outcome ClientError α) : DumpEnd → Prop
  | .archived => db.Shows s ∧ ∃ a, r = .ok a
  | .failed => db.Shows s ∧ ¬ ∃ a, r = .ok a
  | .notRestarted =>
    OpenDb.Shows { db with ready := false, closed := true } s ∧ ¬ ∃ a, r = .ok a

/-- `archive_quiesced_pgdata`. -/
lemma archiveQuiescedPgdata_ends (h : db.Shows s) (operation : String)
    (format : DataDirArchiveFormat) :
    Stateful.wp (archiveQuiescedPgdata build b stack operation format)
      (fun s' r => ∃ dumpEnd, DumpShows db s' r dumpEnd) s := by
  have hframe := steadyFrame_shows build b db
  have hcall : ∀ {β : Type} (f : σ → σ × Except Protocol.Error β),
      (callBackend f).Keeps (fun s => db.Shows s) := fun f =>
    keeps_callBackend fun _ h => h.frame rfl rfl rfl rfl rfl
  have hfailed : ∀ (t : Session σ) (o : Outcome ClientError Bytes), db.Shows t →
      (¬ ∃ archive, o = .ok archive) → ∃ dumpEnd, DumpShows db t o dumpEnd :=
    fun t o ht ho => ⟨.failed, ht, ho⟩
  unfold archiveQuiescedPgdata
  refine (hframe.keeps_checkpoint trivial stack operation).wp_bind h (fun t _ ht => ?_) hfailed
  have hquiesce : (quiesceBackend b).Keeps fun s => db.Shows s :=
    (Stateful.Keeps.modify fun _ h => h.frame rfl rfl rfl rfl rfl).bind fun _ => hcall _
  refine (keeps_context hquiesce).wp_bind ht (fun t _ ht => ?_) hfailed
  refine keeps_getDb.wp_bind ht (fun t archivedDb ht => ?_) hfailed
  have hrestart : (callBackend b.restart >>= fun _ =>
      restoreSessionStateAfterBackendRestart build b stack).Keeps fun s => db.Shows s :=
    (hcall _).bind fun _ => hframe.keeps_restoreSessionState (fun _ => trivial) fun _ => trivial
  refine (keeps_context hrestart).attempt.wp_bind ht (fun t restart ht => ?_) hfailed
  -- a restart that fails closes the client, whatever the dump gave
  rcases b.dumpPgdataArchive archivedDb.backend format with err | archive <;>
    rcases restart with restartErr | _
  · exact ⟨.notRestarted, ht.asClosed, by rintro ⟨_, ⟨⟩⟩⟩
  · exact ⟨.failed, ht, by simp [Stateful.fail]⟩
  · exact ⟨.notRestarted, ht.asClosed, by rintro ⟨_, ⟨⟩⟩⟩
  · exact ⟨.archived, ht, archive, rfl⟩

/-- `dump_data_dir_with_format`. -/
lemma dumpDataDir_covers (h : db.Shows s) (format : DataDirArchiveFormat) :
    Covers db.dumpDataDir (dumpDataDirWithFormat build b stack format s).1
      (dumpDataDirWithFormat build b stack format s).2 := by
  unfold OpenDb.dumpDataDir dumpDataDirWithFormat
  rcases hready : db.checkReady with err | _
  · obtain ⟨hfst, hno⟩ := not_ready h hready fun _ =>
      archiveQuiescedPgdata build b stack "dump PGDATA archive" format
    rw [hfst]
    exact ⟨[], (db, .error err), .ret _, h, iff_of_false nofun hno⟩
  · rw [Stateful.bind_of_ok (checkReady_eq_ok h hready)]
    obtain ⟨dumpEnd, hdump⟩ : ∃ dumpEnd, DumpShows db
        (archiveQuiescedPgdata build b stack "dump PGDATA archive" format s).1
        (archiveQuiescedPgdata build b stack "dump PGDATA archive" format s).2 dumpEnd :=
      archiveQuiescedPgdata_ends h _ format
    have hwork := exec_work db.root .dumpDataDir dumpEnd
    rcases dumpEnd with _ | _ | _
    · exact ⟨_, (db, .ok ()), hwork.bind (.ret _), hdump.1, iff_of_true rfl hdump.2⟩
    · exact ⟨_, (db, .error .failed), hwork.bind (.ret _), hdump.1, iff_of_false nofun hdump.2⟩
    · exact ⟨_, (_, .error .failed), hwork.bind (.ret _), hdump.1, iff_of_false nofun hdump.2⟩

/-- Dropping a lock ends. -/
lemma exec_dropLock (process : ℕ) (lock : Option RootLock) :
    ∃ calls, Prog.Exec (OpenDb.dropLock process lock) calls (.ok ()) := by
  rcases lock with _ | lock
  · exact ⟨[], .ret _⟩
  · exact ⟨[⟨.lock process (.unlock lock.file), .ok ()⟩,
      ⟨.lock process (.releaseRootLockPath lock.path), ()⟩], .call _ (.call _ (.ret _))⟩

/-- `close_backend`. -/
lemma closeBackend_covers (process : ℕ) (h : db.Shows s) :
    Covers (db.closeBackend process) (Session.closeBackend b s).1 (Session.closeBackend b s).2 := by
  unfold OpenDb.closeBackend
  rw [h.closed, h.closing]
  by_cases hclosed : s.db.closed = true
  · have hsession : Session.closeBackend b s = (s, .ok ()) := by
      unfold Session.closeBackend
      rw [Stateful.bind_of_ok (show getDb s = (s, .ok s.db) from rfl), if_pos hclosed]
      rfl
    rw [if_pos hclosed, hsession]
    exact ⟨[], (db, .ok ()), .ret _, h, iff_of_true rfl ⟨(), rfl⟩⟩
  by_cases hclosing : s.db.closing = true
  · have hsession : Session.closeBackend b s = (s, .err (.msg "Pglite is closing")) := by
      unfold Session.closeBackend
      rw [Stateful.bind_of_ok (show getDb s = (s, .ok s.db) from rfl), if_neg hclosed,
        if_pos hclosing]
      rfl
    rw [if_neg hclosed, if_pos hclosing, hsession]
    exact ⟨[], (db, .error .isClosing), .ret _, h, iff_of_false nofun (by simp)⟩
  rw [if_neg hclosed, if_neg hclosing, Session.closeBackend_eq b s (by simpa using hclosed)
    (by simpa using hclosing)]
  -- a shutdown that fails leaves the lock where it is
  rcases (b.shutdown s.db.backend).2 with err | _
  · refine ⟨_, (db, .error .failed), (exec_work db.root .shutdown false).bind (.ret _), ?_,
      iff_of_false nofun (by simp)⟩
    exact h.frame rfl rfl rfl (by simpa using hclosing) rfl
  · obtain ⟨calls, hdrop⟩ := exec_dropLock process db.lock
    refine ⟨_, (_, .ok ()), (exec_work db.root .shutdown true).bind (hdrop.bind (.ret _)), ?_,
      iff_of_true rfl ⟨(), rfl⟩⟩
    exact
      { ready := rfl
        closing := show s.db.closing = false by simpa using hclosing
        closed := rfl
        listeners := fun _ => rfl
        filled := fun _ => nofun
        nextListenerId := h.nextListenerId }

end Shows

/-! ## Runs -/

/-- The methods of a client. -/
inductive SessionCall : Type 1 where
  | operation (op : Operation)
  | enableExtension (extension : Extension)
  | close

/-- What a method is on the instance. `try_clone` asks for the extensions and then dumps; the clone
has a root of its own. -/
def SessionCall.dbCalls : SessionCall → Set (List DbCall)
  | .operation (.execProtocol ..) => {[.execProtocol]}
  | .operation (.listen channel _) => {[.listen channel]}
  | .operation (.unlisten handle) => {[.unlisten ⟨handle.id, handle.normalizedChannel⟩]}
  | .operation (.unlistenChannel channel) => {[.unlistenChannel channel]}
  | .operation (.onNotification _) | .operation (.offNotification _) => {[]}
  | .operation (.dumpDataDir _) => {[.dumpDataDir]}
  | .operation .tryClone => {[.exec], [.exec, .dumpDataDir]}
  | .operation _ => {[.exec]}
  | .enableExtension extension => {[.enableExtension extension]}
  | .close => {[.close]}

section Runs

variable {σ : Type} (build : Build) (b : Backend σ) (host : ExtensionHost σ) (stack : ℕ)
  (process : ℕ)

/-- Call a method; its result is dropped. -/
def SessionCall.run : SessionCall → Method σ Unit
  | .operation op => Session.call build b stack op
  | .enableExtension extension => Session.enableExtension build b host stack extension
  | .close => Session.closeBackend b

/-- The instance can come by the calls to one that shows the session. -/
def Reaches (db : OpenDb) (calls : List DbCall) (s : Session σ) : Prop :=
  ∃ events left, Prog.Exec (callAll process db calls) events (.ok left) ∧ left.Shows s

/-- The client after the methods that were called, one after the other. -/
inductive SessionRun (s : Session σ) : List SessionCall → Session σ → Prop
  | opened : SessionRun s [] s
  | called {calls : List SessionCall} {t : Session σ} (h : SessionRun s calls t)
      (call : SessionCall) : SessionRun s (calls ++ [call]) (call.run build b host stack t).1

end Runs

section Reached

variable {σ α : Type} {build : Build} {b : Backend σ} {host : ExtensionHost σ} {stack process : ℕ}
  {db : OpenDb} {s s' : Session σ}

lemma Reaches.append {calls calls' : List DbCall} (h : Reaches process db calls s)
    (hnext : ∀ left : OpenDb, left.Shows s → Reaches process left calls' s') :
    Reaches process db (calls ++ calls') s' := by
  obtain ⟨events, left, hexec, hshows⟩ := h
  obtain ⟨events', left', hexec', hshows'⟩ := hnext left hshows
  refine ⟨events ++ events', left', ?_, hshows'⟩
  rw [callAll_append]
  exact hexec.bind hexec'

lemma Covers.reaches {c : DbCall} {r : Outcome ClientError α}
    (h : Covers (db.call process c) s r) : Reaches process db [c] s := by
  obtain ⟨events, ⟨left, result⟩, hexec, hshows, -⟩ := h
  exact ⟨events ++ [], left, hexec.bind (.ret _), hshows⟩

/-- A method that works in exchanges behind `check_ready`. -/
lemma exec_covers (process : ℕ) (h : db.Shows s) {f : Unit → Method σ α}
    (hf : (checkReady >>= f).Keeps fun s => db.Shows s) :
    Covers (db.call process .exec) ((checkReady >>= f) s).1 ((checkReady >>= f) s).2 :=
  (ends_exec h f).covers (hf s h)

/-- `try_clone`. -/
lemma tryClone_reaches (process : ℕ) (h : db.Shows s) :
    Reaches process db [.exec] (tryClone build b stack s).1 ∨
      Reaches process db [.exec, .dumpDataDir] (tryClone build b stack s).1 := by
  have hquery : Covers (db.call process .exec) (bundledExtensionsInDatabase build b stack s).1
      (query build b stack extensionNamesSql [] none s).2 := by
    have hfst : (bundledExtensionsInDatabase build b stack s).1 =
        (query build b stack extensionNamesSql [] none s).1 := Stateful.bind_pure_fst ..
    rw [hfst]
    exact exec_covers process h
      ((steadyFrame_shows build b db).keeps_query trivial (fun _ => trivial) [])
  -- after the query, only the dump changes the client
  obtain ⟨rest, hclone, hdumps⟩ : ∃ rest : List String → Method σ σ,
      tryClone build b stack = bundledExtensionsInDatabase build b stack >>= rest ∧
      ∀ extensions t, (rest extensions t).1 = (dumpDataDirWithFormat build b stack .tar t).1 := by
    refine ⟨_, rfl, fun extensions t => ?_⟩
    rcases hdump : dumpDataDirWithFormat build b stack .tar t with ⟨u, archive | e | _⟩
    · rw [Stateful.bind_of_ok hdump]
      cases b.openTemporary archive extensions <;> rfl
    · rw [Stateful.bind_of_err hdump]
    · rw [Stateful.bind_of_panic hdump]
  rw [hclone]
  obtain ⟨t, extensions, hrun, hrest⟩ | ⟨-, hfst, -⟩ :=
    Stateful.bind_ok_or (bundledExtensionsInDatabase build b stack) rest s
  · right
    rw [hrun] at hquery
    rw [hrest, hdumps]
    exact hquery.reaches.append fun left hleft =>
      Covers.reaches (c := .dumpDataDir) (dumpDataDir_covers hleft .tar)
  · left
    rw [hfst]
    exact hquery.reaches

/-- One method. -/
lemma call_reaches (process : ℕ) (h : db.Shows s) (call : SessionCall) :
    ∃ calls ∈ call.dbCalls, Reaches process db calls (call.run build b host stack s).1 := by
  have hframe := steadyFrame_shows build b db
  rcases call with op | extension | _
  · cases op with
    | exec sql options =>
      exact ⟨_, rfl, (exec_covers process h (hframe.keeps_exec trivial options)).drop_result.reaches⟩
    | query sql params options =>
      exact ⟨_, rfl, (exec_covers process h
        (hframe.keeps_query trivial (fun _ => trivial) params)).drop_result.reaches⟩
    | execProtocol message options =>
      have hexec : Covers (db.call process .execProtocol)
          (Session.execProtocol build b (.raw message) options s).1
          (Session.execProtocol build b (.raw message) options s).2 :=
        (ends_execInternal db _).covers (hframe.exchange (.raw message) trivial options s h)
      exact ⟨_, rfl, hexec.drop_result.reaches⟩
    | transaction T callback =>
      refine ⟨_, rfl, (exec_covers process h ?_).drop_result.reaches⟩
      exact hframe.keeps_transaction (fun _ _ h => h.frame rfl rfl rfl rfl rfl) callback
    | refreshArrayTypes =>
      exact ⟨_, rfl, (exec_covers process h
        (keeps_checkReady.bind fun _ => hframe.keeps_refreshArrayTypesInternal trivial)).reaches⟩
    | listen channel callback =>
      exact ⟨_, rfl, Covers.reaches (c := .listen channel)
        (listen_covers h channel callback).drop_result⟩
    | unlisten handle => exact ⟨_, rfl, Covers.reaches (c := .unlisten _) (unlisten_covers h handle)⟩
    | unlistenChannel channel =>
      exact ⟨_, rfl, Covers.reaches (c := .unlistenChannel _) (unlistenChannel_covers h channel)⟩
    | onNotification callback =>
      exact ⟨_, rfl, [], db, .ret _, h.frame rfl rfl rfl rfl rfl⟩
    | offNotification handle => exact ⟨_, rfl, [], db, .ret _, h.frame rfl rfl rfl rfl rfl⟩
    | dumpDataDir format =>
      exact ⟨_, rfl, Covers.reaches (c := .dumpDataDir) (dumpDataDir_covers h format).drop_result⟩
    | tryClone =>
      have hfst : (SessionCall.run build b host stack (.operation .tryClone) s).1 =
          (tryClone build b stack s).1 := Stateful.bind_pure_fst ..
      rw [hfst]
      obtain hreaches | hreaches := tryClone_reaches process h
      · exact ⟨_, .inl rfl, hreaches⟩
      · exact ⟨_, .inr rfl, hreaches⟩
  · obtain ⟨hends, hshows⟩ :=
      enableExtension_ends h extension
    exact ⟨_, rfl, Covers.reaches (c := .enableExtension extension) (hends.covers hshows)⟩
  · exact ⟨_, rfl, Covers.reaches (c := .close) (closeBackend_covers process h)⟩

/-- Whatever the methods of a client do, an instance that shows it can come by the calls they stand
for to one that shows the client that is left. -/
theorem sessionRun_reaches (process : ℕ) (h : db.Shows s) {sessionCalls : List SessionCall}
    (hrun : SessionRun build b host stack s sessionCalls s') :
    ∃ calls, List.Forall₂ (fun call calls => calls ∈ call.dbCalls) sessionCalls calls ∧
      Reaches process db calls.flatten s' := by
  -- on the methods: what shows the client goes through all of them
  induction hrun with
  | opened => exact ⟨[], .nil, [], db, .ret _, h⟩
  | called _ call ih =>
    obtain ⟨calls, hcalls, hreaches⟩ := ih
    obtain ⟨events, left, hexec, hshows⟩ := hreaches
    obtain ⟨last, hlast, hnext⟩ := call_reaches process hshows call
    refine ⟨calls ++ [last], List.rel_append hcalls (.cons hlast .nil), ?_⟩
    rw [List.flatten_append, List.flatten_singleton]
    obtain ⟨events', left', hexec', hshows'⟩ := hnext
    refine ⟨events ++ events', left', ?_, hshows'⟩
    rw [callAll_append]
    exact hexec.bind hexec'

/-- **What a client that has been opened comes to, its instance can come to by the calls its methods
stand for**, so what holds of the instances, in any order of calls, holds of the clients. -/
theorem openedRun_reaches (process : ℕ) (root : HostPath) {serializers : SerializerMap}
    {parsers : ParserMap} {backend : σ} {sessionCalls : List SessionCall}
    (hrun : SessionRun build b host stack (Session.opened serializers parsers backend) sessionCalls
      s') :
    ∃ calls, List.Forall₂ (fun call calls => calls ∈ call.dbCalls) sessionCalls calls ∧
      Reaches process (.opened root) calls.flatten s' :=
  sessionRun_reaches process (shows_opened root serializers parsers backend) hrun

end Reached

end PgliteOxide.Pglite.RootUse
