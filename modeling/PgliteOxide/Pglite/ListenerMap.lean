import Mathlib.Data.Set.Basic
import PgliteOxide.Pglite.TransactionRules

/-!
# The listeners of a client

The map from channels to listeners, what `listen`, `unlisten` and `unlisten_channel` make of it,
and that queries leave it alone.
-/

namespace PgliteOxide.Pglite

open Lib Protocol

/-! ## The map -/

namespace ListenerMap

variable (map : ListenerMap) {channel channel' : String} (listeners : List ChannelListener)

@[simp] lemma get_remove : (map.remove channel).get channel = none := by
  unfold get remove
  induction map with
  | nil => rfl
  | cons entry map ih =>
    by_cases h : entry.1 = channel
    · rw [List.filter_cons_of_neg (by simpa using h)]
      exact ih
    · have hne : (channel == entry.1) = false := by simpa using Ne.symm h
      rw [List.filter_cons_of_pos (by simpa using h), List.lookup_cons, hne]
      exact ih

lemma get_remove_of_ne (h : channel' ≠ channel) :
    (map.remove channel).get channel' = map.get channel' := by
  unfold get remove
  induction map with
  | nil => rfl
  | cons entry map ih =>
    by_cases hentry : entry.1 = channel
    · rw [List.filter_cons_of_neg (by simpa using hentry), List.lookup_cons]
      have hne : (channel' == entry.1) = false := by
        rw [hentry]
        simpa using h
      rw [hne]
      exact ih
    · rw [List.filter_cons_of_pos (by simpa using hentry), List.lookup_cons, List.lookup_cons, ih]

@[simp] lemma get_set : (map.set channel listeners).get channel = some listeners := by
  unfold get set
  rw [List.lookup_cons, beq_self_eq_true]

lemma get_set_of_ne (h : channel' ≠ channel) :
    (map.set channel listeners).get channel' = map.get channel' := by
  have hne : (channel' == channel) = false := by simpa using h
  show List.lookup channel' ((channel, listeners) :: map.remove channel) = _
  rw [List.lookup_cons, hne]
  exact map.get_remove_of_ne h

/-- What is found for a channel is an entry. -/
lemma mem_of_get {listeners : List ChannelListener} (h : map.get channel = some listeners) :
    (channel, listeners) ∈ map := by
  unfold get at h
  induction map with
  | nil => simp at h
  | cons entry map ih =>
    rw [List.lookup_cons] at h
    by_cases hentry : channel = entry.1
    · rw [hentry, beq_self_eq_true] at h
      have heq : entry.2 = listeners := by simpa using h
      rw [hentry, ← heq]
      exact List.mem_cons_self
    · have hne : (channel == entry.1) = false := by simpa using hentry
      rw [hne] at h
      exact List.mem_cons_of_mem _ (ih h)

/-- Every channel has one entry. -/
def Keyed : Prop := (map.map (·.1)).Nodup

lemma get_of_mem {listeners : List ChannelListener} (hkeys : map.Keyed)
    (h : (channel, listeners) ∈ map) : map.get channel = some listeners := by
  unfold get
  induction map with
  | nil => simp at h
  | cons entry map ih =>
    unfold Keyed at hkeys ih
    rw [List.map_cons, List.nodup_cons] at hkeys
    rw [List.lookup_cons]
    rcases List.mem_cons.mp h with rfl | h
    · rw [beq_self_eq_true]
    · have hne : (channel == entry.1) = false := by
        refine beq_eq_false_iff_ne.mpr fun heq => hkeys.1 ?_
        rw [← heq]
        exact List.mem_map_of_mem h
      rw [hne]
      exact ih hkeys.2 h

lemma Keyed.remove (hkeys : map.Keyed) (channel : String) : (map.remove channel).Keyed :=
  hkeys.sublist (List.filter_sublist.map _)

lemma Keyed.set (hkeys : map.Keyed) (channel : String) : (map.set channel listeners).Keyed := by
  unfold Keyed ListenerMap.set
  rw [List.map_cons, List.nodup_cons]
  refine ⟨fun hmem => ?_, hkeys.remove _ channel⟩
  obtain ⟨entry, hentry, heq⟩ := List.mem_map.mp hmem
  have hne : entry.1 ≠ channel := by simpa using (List.mem_filter.mp hentry).2
  exact hne heq

end ListenerMap

/-- The listeners of a channel. -/
def Instance.listeners {σ : Type} (db : Instance σ) (channel : String) : List ChannelListener :=
  (db.notifyListeners.get channel).getD []

namespace Session

variable {σ : Type} {build : Build} {b : Backend σ} {stack : ℕ} {s s' : Session σ}

/-! ## What queries leave alone -/

/-- The same listeners and flags. -/
structure SameListeners (s₀ s : Session σ) : Prop where
  notifyListeners : s.db.notifyListeners = s₀.db.notifyListeners
  nextListenerId : s.db.nextListenerId = s₀.db.nextListenerId
  ready : s.db.ready = s₀.db.ready

lemma SameListeners.refl (s : Session σ) : SameListeners s s := ⟨rfl, rfl, rfl⟩

lemma SameListeners.listeners {s₀ s : Session σ} (h : SameListeners s₀ s) (channel : String) :
    s.db.listeners channel = s₀.db.listeners channel := by
  unfold Instance.listeners
  rw [h.notifyListeners]

/-- Queries do not touch the listeners. -/
lemma steadyFrame_sameListeners (build : Build) (b : Backend σ) (s₀ : Session σ) :
    SteadyFrame build b (SameListeners s₀) fun _ => True where
  createBlobDir _ h := ⟨h.notifyListeners, h.nextListenerId, h.ready⟩
  writeBlob _ _ h := ⟨h.notifyListeners, h.nextListenerId, h.ready⟩
  removeBlob _ h := ⟨h.notifyListeners, h.nextListenerId, h.ready⟩
  registry _ _ _ _ _ h := ⟨h.notifyListeners, h.nextListenerId, h.ready⟩
  exchange request _ options s h := by
    obtain ⟨parser, e, hstate⟩ := execProtocol_state build b request options s
    rw [hstate]
    exact ⟨h.notifyListeners, h.nextListenerId, h.ready⟩
  lookup _ := trivial

/-- Nothing is left in the parser. -/
lemma steadyFrame_drained (hwf : b.WellFormed) :
    SteadyFrame build b (fun s => s.db.parser = Parser.new) fun _ => True where
  createBlobDir _ h := h
  writeBlob _ _ h := h
  removeBlob _ h := h
  registry _ _ _ _ _ h := h
  exchange request _ options _ h := execProtocol_drained build hwf request options h
  lookup _ := trivial

/-- Exchanges are added at the end. -/
lemma steadyFrame_history (build : Build) (b : Backend σ) (history : List Exchange) :
    SteadyFrame build b (fun s => history <+: s.history) fun _ => True where
  createBlobDir _ h := h
  writeBlob _ _ h := h
  removeBlob _ h := h
  registry _ _ _ _ _ h := h
  exchange request _ options s h := by
    obtain ⟨parser, e, hstate⟩ := execProtocol_state build b request options s
    rw [hstate]
    exact h.trans (List.prefix_append _ _)
  lookup _ := trivial

/-- `check_ready` changes nothing. -/
lemma checkReady_fst (s : Session σ) : (checkReady s).1 = s :=
  keeps_checkReady (I := fun t => t = s) s rfl

lemma checkReady_ok {u : Unit} (h : checkReady s = (s', .ok u)) : s' = s ∧ s.db.ready = true := by
  have hs' : s' = s := by
    rw [← checkReady_fst s, h]
  refine ⟨hs', ?_⟩
  unfold checkReady at h
  rw [Stateful.bind_of_ok (show getDb s = (s, .ok s.db) from rfl)] at h
  by_cases hready : s.db.ready = true
  · exact hready
  · split at h
    · simp [bail, Stateful.fail] at h
    split at h
    · simp [bail, Stateful.fail] at h
    · rw [if_pos (by simpa using hready)] at h
      simp [bail, Stateful.fail] at h

/-! ## The channels -/

/-- The channels with a listener. -/
def channelsOf (s : Session σ) : Set String := {channel | ∃ l, l ∈ s.db.listeners channel}

lemma SameListeners.channelsOf (h : SameListeners s s') : channelsOf s' = channelsOf s := by
  unfold Session.channelsOf
  simp only [h.listeners]

/-- The names that a walk through the map finds. -/
def channelNames (s : Session σ) : List String :=
  (s.db.notifyListeners.filter fun entry => !entry.2.isEmpty).map (·.1)

/-- A channel with a listener is found. -/
lemma mem_channelNames {channel : String} (hchannel : channel ∈ channelsOf s) :
    channel ∈ channelNames s := by
  obtain ⟨l, hl⟩ := hchannel
  unfold channelNames
  rw [List.mem_map]
  unfold Instance.listeners at hl
  cases hget : s.db.notifyListeners.get channel with
  | none =>
    rw [hget] at hl
    simp at hl
  | some listeners =>
    rw [hget] at hl
    refine ⟨(channel, listeners), List.mem_filter.mpr ⟨ListenerMap.mem_of_get _ hget, ?_⟩, rfl⟩
    simpa using List.ne_nil_of_mem hl

/-- And nothing else is. -/
lemma mem_channelsOf (hkeys : s.db.notifyListeners.Keyed) {channel : String}
    (hchannel : channel ∈ channelNames s) : channel ∈ channelsOf s := by
  obtain ⟨⟨name, listeners⟩, hmem, rfl⟩ := List.mem_map.mp hchannel
  rw [List.mem_filter] at hmem
  have hne : listeners ≠ [] := by simpa using hmem.2
  obtain ⟨l, hl⟩ := List.exists_mem_of_ne_nil _ hne
  refine ⟨l, ?_⟩
  unfold Instance.listeners
  rw [ListenerMap.get_of_mem _ hkeys hmem.1]
  exact hl

/-- The session with another map. -/
def withListeners (s : Session σ) (map : ListenerMap) : Session σ :=
  { s with db := { s.db with notifyListeners := map } }

lemma fewer_remove (s : Session σ) (channel channel' : String) (l : ChannelListener)
    (hl : l ∈ ((s.db.notifyListeners.remove channel).get channel').getD []) :
    l ∈ s.db.listeners channel' := by
  by_cases hchannel : channel' = channel
  · rw [hchannel, ListenerMap.get_remove] at hl
    simp at hl
  · rw [ListenerMap.get_remove_of_ne _ hchannel] at hl
    exact hl

lemma not_mem_channelsOf_remove (s : Session σ) (channel : String) :
    channel ∉ channelsOf (s.withListeners (s.db.notifyListeners.remove channel)) := by
  rintro ⟨l, hl⟩
  have hl' : l ∈ ((s.db.notifyListeners.remove channel).get channel).getD [] := hl
  rw [ListenerMap.get_remove] at hl'
  simp at hl'

/-! ## `unlisten` and `unlisten_channel` -/

/-- What `unlisten_channel` does. -/
lemma unlistenChannel_state (build : Build) (b : Backend σ) (stack : ℕ) (channel : String)
    (s : Session σ) :
    (s.db.notifyListeners.get channel = none ∧ (unlistenChannel build b stack channel s).1 = s) ∨
      (unlistenChannel build b stack channel s).1
        = (execInternal build b stack s!"UNLISTEN {quoteIdentifier channel}" none
          (s.withListeners (s.db.notifyListeners.remove channel))).1 := by
  cases hget : s.db.notifyListeners.get channel with
  | none =>
    refine Or.inl ⟨rfl, ?_⟩
    unfold unlistenChannel
    rw [Stateful.bind_of_ok (show getDb s = (s, .ok s.db) from rfl)]
    simp only [hget]
    rfl
  | some listeners =>
    refine Or.inr ?_
    unfold unlistenChannel
    rw [Stateful.bind_of_ok (show getDb s = (s, .ok s.db) from rfl)]
    simp only [hget]
    rw [Stateful.bind_of_ok (show setDb _ s
      = (s.withListeners (s.db.notifyListeners.remove channel), .ok ()) from rfl)]
    exact Stateful.bind_pure_fst _ _ _

/-- What `unlisten` leaves of the listeners of its channel. -/
def keptListeners (s : Session σ) (handle : ListenerHandle) : List ChannelListener :=
  (s.db.listeners handle.normalizedChannel).filter fun l => l.id ≠ handle.id

/-- What `unlisten` does: it issues `UNLISTEN` only when there is no listener left. -/
lemma unlisten_state (build : Build) (b : Backend σ) (stack : ℕ) (handle : ListenerHandle)
    (s : Session σ) :
    (s.db.notifyListeners.get handle.normalizedChannel = none ∧
      (unlisten build b stack handle s).1 = s) ∨
    (keptListeners s handle = [] ∧ (unlisten build b stack handle s).1
      = (execInternal build b stack s!"UNLISTEN {quoteIdentifier handle.channel}" none
        (s.withListeners (s.db.notifyListeners.remove handle.normalizedChannel))).1) ∨
    (keptListeners s handle ≠ [] ∧ (unlisten build b stack handle s).1
      = s.withListeners
        (s.db.notifyListeners.set handle.normalizedChannel (keptListeners s handle))) := by
  cases hget : s.db.notifyListeners.get handle.normalizedChannel with
  | none =>
    refine Or.inl ⟨rfl, ?_⟩
    unfold unlisten
    rw [Stateful.bind_of_ok (show getDb s = (s, .ok s.db) from rfl)]
    simp only [hget]
    rfl
  | some listeners =>
    have hkept : keptListeners s handle = listeners.filter fun l => l.id ≠ handle.id := by
      unfold keptListeners Instance.listeners
      rw [hget]
      rfl
    refine Or.inr ?_
    unfold unlisten
    rw [Stateful.bind_of_ok (show getDb s = (s, .ok s.db) from rfl)]
    simp only [hget]
    rw [← hkept]
    by_cases hempty : keptListeners s handle = []
    · refine Or.inl ⟨hempty, ?_⟩
      rw [if_pos (by rw [hempty]; rfl)]
      rw [Stateful.bind_of_ok (show setDb _ s
        = (s.withListeners (s.db.notifyListeners.remove handle.normalizedChannel), .ok ()) from rfl)]
      exact Stateful.bind_pure_fst _ _ _
    · refine Or.inr ⟨hempty, ?_⟩
      rw [if_neg (by simpa using hempty)]
      rfl

lemma fewer_set (s : Session σ) (handle : ListenerHandle) (channel' : String) (l : ChannelListener)
    (hl : l ∈ ((s.db.notifyListeners.set handle.normalizedChannel
      (keptListeners s handle)).get channel').getD []) : l ∈ s.db.listeners channel' := by
  by_cases hchannel : channel' = handle.normalizedChannel
  · rw [hchannel, ListenerMap.get_set] at hl
    rw [hchannel]
    exact List.mem_of_mem_filter hl
  · rw [ListenerMap.get_set_of_ne _ _ hchannel] at hl
    exact hl

/-- `UNLISTEN` is issued only when nobody listens any more. -/
lemma unlisten_sent (build : Build) (b : Backend σ) (stack : ℕ) {handle : ListenerHandle}
    (hchannel : handle.normalizedChannel = handle.channel) (s : Session σ) :
    ∃ sent, (unlisten build b stack handle s).1.history = s.history ++ sent ∧
      (sent ≠ [] → (unlisten build b stack handle s).1.db.listeners handle.channel = []) := by
  rcases unlisten_state build b stack handle s with ⟨-, hs'⟩ | ⟨-, hs'⟩ | ⟨-, hs'⟩
  · exact ⟨[], by rw [hs', List.append_nil], fun hne => absurd rfl hne⟩
  · have hhistory : s.history <+: (unlisten build b stack handle s).1.history := by
      rw [hs']
      exact (steadyFrame_history build b s.history).keeps_execInternal trivial none _
        (List.prefix_refl _)
    obtain ⟨sent, hsent⟩ := hhistory
    refine ⟨sent, hsent.symm, fun _ => ?_⟩
    have hsame : SameListeners (s.withListeners (s.db.notifyListeners.remove handle.channel))
        (unlisten build b stack handle s).1 := by
      rw [hs', hchannel]
      exact (steadyFrame_sameListeners build b _).keeps_execInternal trivial none _ (.refl _)
    rw [hsame.listeners]
    show ((s.db.notifyListeners.remove handle.channel).get handle.channel).getD [] = []
    rw [ListenerMap.get_remove]
    rfl
  · exact ⟨[], by rw [hs', List.append_nil]; rfl, fun hne => absurd rfl hne⟩

/-! ## `listen` -/

/-- The session with one more listener. -/
def withListener (s : Session σ) (channel : String) (callback : CallbackId) : Session σ :=
  { s with db := { s.db with
    nextListenerId := s.db.nextListenerId + 1
    notifyListeners := s.db.notifyListeners.set channel
      (s.db.listeners channel ++ [{ id := s.db.nextListenerId, callback }]) } }

/-- What `listen` does before it changes the map. -/
def listenFirst (build : Build) (b : Backend σ) (stack : ℕ) (channel : String) (s : Session σ) :
    Session σ × Outcome ClientError (List Results) :=
  (execInternal build b stack s!"LISTEN {quoteIdentifier channel}" none).onlyIf
    (s.db.listeners channel).isEmpty [] s

lemma listen_eq {channel : String} {callback : CallbackId} {u : Unit}
    (hready : checkReady s = (s, .ok u)) :
    listen build b stack channel callback s
      = match listenFirst build b stack channel s with
        | (t, .ok _) => (t.withListener channel callback, .ok ⟨channel, channel, t.db.nextListenerId⟩)
        | (t, .err e) => (t, .err e)
        | (t, .panic) => (t, .panic) := by
  unfold listen
  rw [Stateful.bind_of_ok hready, Stateful.bind_of_ok (show getDb s = (s, .ok s.db) from rfl)]
  have hshould (should : Bool) (h : should = (s.db.listeners channel).isEmpty) :
      (execInternal build b stack s!"LISTEN {quoteIdentifier channel}" none).onlyIf should [] s
        = listenFirst build b stack channel s := by
    rw [h]
    rfl
  rcases hfirst : listenFirst build b stack channel s with ⟨t, results | e | _⟩
  · refine (Stateful.bind_of_ok ((hshould _ ?_).trans hfirst)).trans rfl
    unfold Instance.listeners
    cases s.db.notifyListeners.get channel <;> rfl
  · refine Stateful.bind_of_err ((hshould _ ?_).trans hfirst)
    unfold Instance.listeners
    cases s.db.notifyListeners.get channel <;> rfl
  · refine Stateful.bind_of_panic ((hshould _ ?_).trans hfirst)
    unfold Instance.listeners
    cases s.db.notifyListeners.get channel <;> rfl

lemma mem_listeners_withListener {channel channel' : String} {callback : CallbackId}
    {l : ChannelListener} (hl : l ∈ (s.withListener channel callback).db.listeners channel') :
    l ∈ s.db.listeners channel' ∨ channel' = channel ∧ l = ⟨s.db.nextListenerId, callback⟩ := by
  have hl' : l ∈ ((s.db.notifyListeners.set channel
    (s.db.listeners channel ++ [⟨s.db.nextListenerId, callback⟩])).get channel').getD [] := hl
  by_cases hchannel : channel' = channel
  · rw [hchannel, ListenerMap.get_set] at hl'
    rcases List.mem_append.mp hl' with hl' | hl'
    · exact Or.inl (hchannel ▸ hl')
    · exact Or.inr ⟨hchannel, List.mem_singleton.mp hl'⟩
  · rw [ListenerMap.get_set_of_ne _ _ hchannel] at hl'
    exact Or.inl hl'

end Session

end PgliteOxide.Pglite
