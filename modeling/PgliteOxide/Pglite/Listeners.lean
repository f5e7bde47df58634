import Mathlib.Data.Set.Insert
import PgliteOxide.Pglite.Quoting
import PgliteOxide.Pglite.Restart

/-!
# Listeners

The client keeps a map from channels to listeners, the backend session a set of channels it
listens on. Every channel with a listener is in the set: `LISTEN` comes before the map is changed
and `UNLISTEN` after, and a physical dump, which starts a new session, listens again.
-/

namespace PgliteOxide.Pglite

open Lib Protocol

/-! ## PostgreSQL's rules -/

/-- Shorter than `NAMEDATALEN`. -/
def ShortChannel (channel : String) : Prop := (utf8 channel).length < 64

/-- A backend that follows PostgreSQL's rules for `LISTEN`. `listening` are the channels of its
session; `settled` says that no transaction block is open and that the unnamed statement, if there
is one, is plain. A plain statement issues no `LISTEN`, `UNLISTEN` or `DISCARD` and no transaction
control. A statement that fails changes none of this. -/
structure ListenRules {σ : Type} (build : Build) (b : Backend σ) (listening : σ → Set String)
    (settled : σ → Prop) (Plain : String → Prop) : Prop where
  wellFormed : b.WellFormed
  listen : ∀ s channel c, settled s →
    settled (b.after s (.query s!"LISTEN {quoteIdentifier channel}") c) ∧
      listening s ⊆ listening (b.after s (.query s!"LISTEN {quoteIdentifier channel}") c)
  listen_accepted : ∀ s channel c, settled s → ShortChannel channel →
    b.Accepts build s (.query s!"LISTEN {quoteIdentifier channel}") c →
      channel ∈ listening (b.after s (.query s!"LISTEN {quoteIdentifier channel}") c)
  unlisten : ∀ s channel c, settled s → ShortChannel channel →
    settled (b.after s (.query s!"UNLISTEN {quoteIdentifier channel}") c) ∧
      listening s \ {channel}
        ⊆ listening (b.after s (.query s!"UNLISTEN {quoteIdentifier channel}") c)
  plain : ∀ s sql c, settled s → Plain sql →
    settled (b.after s (.query sql) c) ∧ listening s ⊆ listening (b.after s (.query sql) c)
  parse : ∀ s sql types c, settled s → Plain sql →
    settled (b.after s (.parseDescribe sql types) c) ∧
      listening s ⊆ listening (b.after s (.parseDescribe sql types) c)
  bind : ∀ s values c, settled s → settled (b.after s (.bindExecute values) c) ∧
    listening s ⊆ listening (b.after s (.bindExecute values) c)
  /-- A new session has no transaction block and no statement. -/
  restart : ∀ s s', b.restart s = (s', .ok ()) → settled s'
  /-- The blob file has nothing to do with the session. -/
  createBlobDir : ∀ s, settled s → settled (b.createBlobDir s).1 ∧
    listening s ⊆ listening (b.createBlobDir s).1
  writeBlob : ∀ s bytes, settled s → settled (b.writeBlob s bytes).1 ∧
    listening s ⊆ listening (b.writeBlob s bytes).1
  removeBlob : ∀ s, settled s → settled (b.removeBlob s) ∧ listening s ⊆ listening (b.removeBlob s)
  /-- A map is walked through all its keys. -/
  hashOrder : ∀ keys key, key ∈ b.hashOrder keys ↔ key ∈ keys
  /-- The client's own statements are plain. -/
  lookup : ∀ oid, Plain (Session.arrayTypeLookupSql oid)
  arrayTypes : Plain Session.arrayTypesSql
  checkpoint : Plain "CHECKPOINT"
  setRole : ∀ role, Plain s!"SET ROLE {quoteIdentifier role}"

namespace Session

variable {σ : Type} {build : Build} {b : Backend σ} {stack : ℕ} {listening : σ → Set String}
  {settled : σ → Prop} {Plain : String → Prop}

/-! ## What the steps keep -/

/-- The channels are listened on, in a session without an open block. -/
structure Kept (listening : σ → Set String) (settled : σ → Prop) (channels : Set String)
    (s : Session σ) : Prop where
  parser : s.db.parser = Parser.new
  settled : settled s.db.backend
  subset : channels ⊆ listening s.db.backend

/-- The requests that do not take the channels away. -/
inductive Harmless (Plain : String → Prop) (channels : Set String) : Request → Prop
  | plain {sql : String} (h : Plain sql) : Harmless Plain channels (.query sql)
  | parse {sql : String} (h : Plain sql) (types : List Int32) :
      Harmless Plain channels (.parseDescribe sql types)
  | bind (values : List BindValue) : Harmless Plain channels (.bindExecute values)
  | listen (channel : String) : Harmless Plain channels (.query s!"LISTEN {quoteIdentifier channel}")
  | unlisten {channel : String} (hshort : ShortChannel channel) (h : channel ∉ channels) :
      Harmless Plain channels (.query s!"UNLISTEN {quoteIdentifier channel}")

lemma steadyFrame_kept (rules : ListenRules build b listening settled Plain)
    (channels : Set String) :
    SteadyFrame build b (Kept listening settled channels) (Harmless Plain channels) where
  createBlobDir s h :=
    have hblob := rules.createBlobDir s.db.backend h.settled
    ⟨h.parser, hblob.1, Set.Subset.trans h.subset hblob.2⟩
  writeBlob s bytes h :=
    have hblob := rules.writeBlob s.db.backend bytes h.settled
    ⟨h.parser, hblob.1, Set.Subset.trans h.subset hblob.2⟩
  removeBlob s h :=
    have hblob := rules.removeBlob s.db.backend h.settled
    ⟨h.parser, hblob.1, Set.Subset.trans h.subset hblob.2⟩
  registry s _ _ _ _ h := ⟨h.parser, h.settled, h.subset⟩
  exchange request hrequest options s h := by
    have hafter : settled (b.after s.db.backend request options.dataTransferContainer) ∧
        channels ⊆ listening (b.after s.db.backend request options.dataTransferContainer) := by
      cases hrequest with
      | plain hsql =>
        have hrule := rules.plain s.db.backend _ options.dataTransferContainer h.settled hsql
        exact ⟨hrule.1, Set.Subset.trans h.subset hrule.2⟩
      | parse hsql types =>
        have hrule := rules.parse s.db.backend _ types options.dataTransferContainer h.settled hsql
        exact ⟨hrule.1, Set.Subset.trans h.subset hrule.2⟩
      | bind values =>
        have hrule := rules.bind s.db.backend values options.dataTransferContainer h.settled
        exact ⟨hrule.1, Set.Subset.trans h.subset hrule.2⟩
      | listen channel =>
        have hrule := rules.listen s.db.backend channel options.dataTransferContainer h.settled
        exact ⟨hrule.1, Set.Subset.trans h.subset hrule.2⟩
      | @unlisten channel hshort hnot =>
        have hrule := rules.unlisten s.db.backend channel options.dataTransferContainer h.settled
          hshort
        refine ⟨hrule.1, fun other hother => hrule.2 ⟨h.subset hother, ?_⟩⟩
        exact fun heq => hnot (heq ▸ hother)
    have hbackend : (execProtocol build b request options s).1.db.backend = _ :=
      execProtocol_backend request options s
    rw [← hbackend] at hafter
    exact ⟨execProtocol_drained build rules.wellFormed request options h.parser, hafter.1, hafter.2⟩
  lookup oid := .plain (rules.lookup oid)

/-- A `LISTEN` that returns has added its channel. -/
lemma execInternal_listen (rules : ListenRules build b listening settled Plain)
    {channels : Set String} {channel : String} (hshort : ShortChannel channel) {s s' : Session σ}
    {results : List Results} (hs : Kept listening settled channels s)
    (h : execInternal build b stack s!"LISTEN {quoteIdentifier channel}" none s
      = (s', .ok results)) : Kept listening settled (insert channel channels) s' := by
  obtain ⟨t, t', c, hlocal, haccepts, hbackend, hparser, hrest⟩ :=
    execInternal_accepted rules.wellFormed hs.parser h
  have ht := hlocal _ (steadyFrame_kept rules channels).toLocalFrame hs
  have hrule := rules.listen t.db.backend channel c ht.settled
  have hadded := rules.listen_accepted t.db.backend channel c ht.settled hshort haccepts
  rw [← hbackend] at hrule hadded
  have ht' : Kept listening settled (insert channel channels) t' :=
    ⟨hparser, hrule.1, Set.insert_subset hadded (Set.Subset.trans ht.subset hrule.2)⟩
  refine hrest _ ((steadyFrame_kept rules _).mono ?_ fun oid => ⟨oid, rfl⟩) ht'
  rintro _ ⟨oid, rfl⟩
  exact .plain (rules.lookup oid)

/-- Listening again, channel by channel. -/
lemma restoreListeners_ok (rules : ListenRules build b listening settled Plain)
    {channels : Set String} {names : List String} {s s' : Session σ}
    (hs : Kept listening settled channels s)
    (h : restoreListeners build b stack names s = (s', .ok ())) :
    Kept listening settled (channels ∪ {name | name ∈ names ∧ ShortChannel name}) s' := by
  induction names generalizing channels s with
  | nil =>
    have heq : s = s' := congrArg Prod.fst h
    rw [← heq]
    refine ⟨hs.parser, hs.settled, ?_⟩
    rintro name (hname | ⟨hname, -⟩)
    · exact hs.subset hname
    · simp at hname
  | cons name names ih =>
    rw [restoreListeners, Stateful.bind_eq_ok] at h
    obtain ⟨t, results, hlisten, hnames⟩ := h
    rw [context, Stateful.mapErr_eq_ok] at hlisten
    by_cases hshort : ShortChannel name
    · have hs' := ih (execInternal_listen rules hshort hs hlisten) hnames
      refine ⟨hs'.parser, hs'.settled, fun other hother => hs'.subset ?_⟩
      rcases hother with hother | ⟨hother, hshort'⟩
      · exact Or.inl (Or.inr hother)
      rcases List.mem_cons.mp hother with rfl | hother
      · exact Or.inl (Or.inl rfl)
      · exact Or.inr ⟨hother, hshort'⟩
    · -- a name that is too long is listened on under another one
      have ht : Kept listening settled channels
          (execInternal build b stack s!"LISTEN {quoteIdentifier name}" none s).1 :=
        (steadyFrame_kept rules channels).keeps_execInternal (.listen name) none s hs
      rw [hlisten] at ht
      have hs' := ih ht hnames
      refine ⟨hs'.parser, hs'.settled, fun other hother => hs'.subset ?_⟩
      rcases hother with hother | ⟨hother, hshort'⟩
      · exact Or.inl hother
      rcases List.mem_cons.mp hother with rfl | hother
      · exact absurd hshort' hshort
      · exact Or.inr ⟨hother, hshort'⟩

/-! ## The registry -/

/-- A handle that `listen` has returned, with the callback it was called with. -/
abbrev Registration := ListenerHandle × CallbackId

/-- The listeners are among those registered, which are numbered, and their channels are listened
on. -/
structure Registry (listening : σ → Set String) (settled : σ → Prop) (regs : List Registration)
    (s : Session σ) : Prop where
  parser : s.db.parser = Parser.new
  next : s.db.nextListenerId = UInt64.ofNat (regs.length + 1)
  numbered : ∀ i reg, regs[i]? = some reg → reg.1.id = UInt64.ofNat (i + 1) ∧
    reg.1.normalizedChannel = reg.1.channel ∧ ShortChannel reg.1.channel
  known : ∀ channel l, l ∈ s.db.listeners channel → (⟨channel, channel, l.id⟩, l.callback) ∈ regs
  listened : s.db.ready = true → Kept listening settled (channelsOf s) s

section Registry

variable {regs : List Registration} {s s' : Session σ}

lemma Registry.short (h : Registry listening settled regs s) {channel : String}
    (hchannel : channel ∈ channelsOf s) : ShortChannel channel := by
  obtain ⟨l, hl⟩ := hchannel
  obtain ⟨i, hi⟩ := List.mem_iff_getElem?.mp (h.known channel l hl)
  exact (h.numbered i _ hi).2.2

/-- A step that changes the session only. -/
lemma Registry.of_sameListeners (h : Registry listening settled regs s)
    (hsame : SameListeners s s') (hparser : s'.db.parser = Parser.new)
    (hkept : s.db.ready = true → Kept listening settled (channelsOf s) s') :
    Registry listening settled regs s' where
  parser := hparser
  next := hsame.nextListenerId.trans h.next
  numbered := h.numbered
  known channel l hl := h.known channel l (hsame.listeners channel ▸ hl)
  listened hready := by
    rw [hsame.channelsOf]
    exact hkept (hsame.ready ▸ hready)

/-- A method made of harmless requests. -/
lemma Registry.of_keeps {α : Type} (rules : ListenRules build b listening settled Plain)
    (h : Registry listening settled regs s) {m : Method σ α}
    (hm : ∀ I A, SteadyFrame build b I A → (∀ r, Harmless Plain (channelsOf s) r → A r) →
      m.Keeps I) :
    Registry listening settled regs (m s).1 := by
  refine h.of_sameListeners ?_ ?_ fun hready => ?_
  · exact hm _ _ (steadyFrame_sameListeners build b s) (fun _ _ => trivial) s (.refl s)
  · exact hm _ _ (steadyFrame_drained rules.wellFormed) (fun _ _ => trivial) s h.parser
  · exact hm _ _ (steadyFrame_kept rules _) (fun _ hr => hr) s (h.listened hready)

/-- Fewer listeners. -/
lemma Registry.of_fewer (h : Registry listening settled regs s) {map : ListenerMap}
    (hfewer : ∀ channel l, l ∈ (map.get channel).getD [] → l ∈ s.db.listeners channel) :
    Registry listening settled regs (s.withListeners map) where
  parser := h.parser
  next := h.next
  numbered := h.numbered
  known channel l hl := h.known channel l (hfewer channel l hl)
  listened hready := by
    have hkept := h.listened hready
    refine ⟨hkept.parser, hkept.settled, ?_⟩
    rintro channel ⟨l, hl⟩
    exact hkept.subset ⟨l, hfewer channel l hl⟩

/-- `UNLISTEN`, once the channel has no listener. -/
lemma Registry.execInternal_unlisten (rules : ListenRules build b listening settled Plain)
    (h : Registry listening settled regs s) {channel : String} (hshort : ShortChannel channel)
    (hnone : channel ∉ channelsOf s) :
    Registry listening settled regs
      (execInternal build b stack s!"UNLISTEN {quoteIdentifier channel}" none s).1 :=
  h.of_keeps rules fun _ _ hI hA => hI.keeps_execInternal (hA _ (.unlisten hshort hnone)) none

/-- `unlisten_channel` keeps the registry. -/
lemma Registry.unlistenChannel (rules : ListenRules build b listening settled Plain)
    (h : Registry listening settled regs s) {channel : String} (hshort : ShortChannel channel) :
    Registry listening settled regs (unlistenChannel build b stack channel s).1 := by
  rcases unlistenChannel_state build b stack channel s with ⟨-, hs'⟩ | hs'
  · rw [hs']
    exact h
  · rw [hs']
    exact (h.of_fewer (fewer_remove s channel)).execInternal_unlisten rules hshort
      (not_mem_channelsOf_remove s channel)

/-- `unlisten` keeps the registry. -/
lemma Registry.unlisten (rules : ListenRules build b listening settled Plain)
    (h : Registry listening settled regs s) {handle : ListenerHandle}
    (hchannel : handle.normalizedChannel = handle.channel)
    (hshort : ShortChannel handle.channel) :
    Registry listening settled regs (unlisten build b stack handle s).1 := by
  rcases unlisten_state build b stack handle s with ⟨-, hs'⟩ | ⟨-, hs'⟩ | ⟨-, hs'⟩
  · rw [hs']
    exact h
  · rw [hs', hchannel]
    exact (h.of_fewer (fewer_remove s handle.channel)).execInternal_unlisten rules hshort
      (not_mem_channelsOf_remove s handle.channel)
  · rw [hs']
    exact h.of_fewer (fewer_set s handle)

/-- Before the map is changed, the channel is listened on. -/
lemma Registry.listenFirst_ok (rules : ListenRules build b listening settled Plain)
    (h : Registry listening settled regs s) (hready : s.db.ready = true) {channel : String}
    (hshort : ShortChannel channel) {t : Session σ} {results : List Results}
    (hfirst : listenFirst build b stack channel s = (t, .ok results)) :
    SameListeners s t ∧ Kept listening settled (insert channel (channelsOf s)) t := by
  unfold listenFirst Stateful.onlyIf at hfirst
  by_cases hempty : (s.db.listeners channel).isEmpty = true
  · rw [if_pos hempty] at hfirst
    refine ⟨?_, execInternal_listen rules hshort (h.listened hready) hfirst⟩
    have hsame : SameListeners s
        (execInternal build b stack s!"LISTEN {quoteIdentifier channel}" none s).1 :=
      (steadyFrame_sameListeners build b s).keeps_execInternal trivial none s (.refl s)
    rw [hfirst] at hsame
    exact hsame
  · rw [if_neg hempty] at hfirst
    have heq : s = t := congrArg Prod.fst hfirst
    rw [← heq]
    have hkept := h.listened hready
    refine ⟨.refl s, hkept.parser, hkept.settled, Set.insert_subset (hkept.subset ?_) hkept.subset⟩
    obtain ⟨l, hl⟩ := List.exists_mem_of_ne_nil _ (by simpa using hempty)
    exact ⟨l, hl⟩

/-- One more registration. -/
lemma Registry.register (h : Registry listening settled regs s) {t : Session σ}
    (hsame : SameListeners s t) {channel : String} (hshort : ShortChannel channel)
    (hkept : Kept listening settled (insert channel (channelsOf s)) t) (callback : CallbackId) :
    Registry listening settled (regs ++ [(⟨channel, channel, t.db.nextListenerId⟩, callback)])
      (t.withListener channel callback) where
  parser := hkept.parser
  next := by
    show t.db.nextListenerId + 1 = _
    rw [hsame.nextListenerId, h.next, List.length_append, List.length_singleton,
      UInt64.ofNat_add (regs.length + 1) 1]
    rfl
  numbered i reg hi := by
    rw [List.getElem?_append] at hi
    split at hi
    · exact h.numbered i reg hi
    · rename_i hlen
      have hi' : i = regs.length := by
        have hbound := (List.getElem?_eq_some_iff.mp hi).1
        rw [List.length_singleton] at hbound
        omega
      rw [hi', Nat.sub_self] at hi
      have hreg : (⟨channel, channel, t.db.nextListenerId⟩, callback) = reg := by simpa using hi
      rw [← hreg, hi']
      exact ⟨hsame.nextListenerId.trans h.next, rfl, hshort⟩
  known channel' l hl := by
    rcases mem_listeners_withListener hl with hl | ⟨rfl, rfl⟩
    · rw [hsame.listeners] at hl
      exact List.mem_append_left _ (h.known channel' l hl)
    · exact List.mem_append_right _ List.mem_cons_self
  listened _ := by
    refine ⟨hkept.parser, hkept.settled, ?_⟩
    rintro channel' ⟨l, hl⟩
    apply hkept.subset
    rcases mem_listeners_withListener hl with hl | ⟨rfl, -⟩
    · exact Or.inr ⟨l, hsame.listeners channel' ▸ hl⟩
    · exact Or.inl rfl

/-- A `listen` that returns. -/
lemma Registry.listen_ok (rules : ListenRules build b listening settled Plain)
    (h : Registry listening settled regs s) {channel : String} (hshort : ShortChannel channel)
    {callback : CallbackId} {handle : ListenerHandle}
    (hlisten : listen build b stack channel callback s = (s', .ok handle)) :
    Registry listening settled (regs ++ [(handle, callback)]) s' := by
  rcases hcheck : checkReady s with ⟨t₀, u | e | _⟩
  · obtain ⟨rfl, hready⟩ := checkReady_ok hcheck
    rw [listen_eq hcheck] at hlisten
    rcases hfirst : listenFirst build b stack channel t₀ with ⟨t, results | e | _⟩
    · rw [hfirst] at hlisten
      obtain ⟨hsame, hkept⟩ := h.listenFirst_ok rules hready hshort hfirst
      have hreg := h.register hsame hshort hkept callback
      simp only [Prod.mk.injEq, Outcome.ok.injEq] at hlisten
      rw [← hlisten.1, ← hlisten.2]
      exact hreg
    · rw [hfirst] at hlisten
      simp at hlisten
    · rw [hfirst] at hlisten
      simp at hlisten
  · unfold listen at hlisten
    rw [Stateful.bind_of_err hcheck] at hlisten
    simp at hlisten
  · unfold listen at hlisten
    rw [Stateful.bind_of_panic hcheck] at hlisten
    simp at hlisten

/-- A `listen` that fails has registered nothing. -/
lemma Registry.listen_err (rules : ListenRules build b listening settled Plain)
    (h : Registry listening settled regs s) {channel : String} {callback : CallbackId}
    {e : ClientError} (hlisten : listen build b stack channel callback s = (s', .err e)) :
    Registry listening settled regs s' := by
  rcases hcheck : checkReady s with ⟨t₀, u | e | _⟩
  · obtain ⟨rfl, -⟩ := checkReady_ok hcheck
    rw [listen_eq hcheck] at hlisten
    have hfirst : Registry listening settled regs (listenFirst build b stack channel t₀).1 := by
      unfold listenFirst
      exact h.of_keeps rules fun _ _ hI hA =>
        (hI.keeps_execInternal (hA _ (.listen channel)) none).onlyIf
    rcases hresult : listenFirst build b stack channel t₀ with ⟨t, results | e | _⟩
    · rw [hresult] at hlisten
      simp at hlisten
    · rw [hresult] at hlisten hfirst
      simp only [Prod.mk.injEq] at hlisten
      rw [← hlisten.1]
      exact hfirst
    · rw [hresult] at hlisten
      simp at hlisten
  · have hs := checkReady_fst s
    unfold listen at hlisten
    rw [Stateful.bind_of_err hcheck] at hlisten
    rw [hcheck] at hs
    simp only [Prod.mk.injEq] at hlisten
    rw [← hlisten.1, show t₀ = s from hs]
    exact h
  · unfold listen at hlisten
    rw [Stateful.bind_of_panic hcheck] at hlisten
    simp at hlisten

/-! ## Physical dumps -/

/-- The checkpoint is one harmless request. -/
lemma Registry.checkpoint (rules : ListenRules build b listening settled Plain)
    (h : Registry listening settled regs s) (stack : ℕ) (operation : String) :
    Registry listening settled regs
      (checkpointBackendForPhysicalSnapshot build b stack operation s).1 := by
  refine h.of_keeps rules fun _ _ hI hA => ?_
  exact hI.keeps_checkpoint (hA _ (.plain rules.checkpoint)) stack operation

/-- After a restart, the role and the channels come back. -/
lemma restoreSessionState_ok (rules : ListenRules build b listening settled Plain)
    (hshort : ∀ channel ∈ channelsOf s, ShortChannel channel)
    (hs : Kept listening settled ∅ s)
    (h : restoreSessionStateAfterBackendRestart build b stack s = (s', .ok ())) :
    Kept listening settled (channelsOf s) s' := by
  unfold restoreSessionStateAfterBackendRestart at h
  rw [Stateful.bind_eq_ok] at h
  obtain ⟨t, results, hrole, h⟩ := h
  rw [Stateful.bind_of_ok (show getDb t = (t, .ok t.db) from rfl)] at h
  have hstep (I : Session σ → Prop) (A : Request → Prop) (hI : SteadyFrame build b I A)
      (hA : ∀ r, Harmless Plain ∅ r → A r) (hs : I s) : I t := by
    refine (congrArg (fun r => I r.1) hrole).mp ?_
    exact (keeps_context (hI.keeps_exec (hA _ (.plain (rules.setRole _))) none)).onlyIf s hs
  have ht := hstep _ _ (steadyFrame_kept rules ∅) (fun _ hr => hr) hs
  have hsame := hstep _ _ (steadyFrame_sameListeners build b s) (fun _ _ => trivial) (.refl s)
  have hs' := restoreListeners_ok rules ht h
  refine ⟨hs'.parser, hs'.settled, fun channel hchannel => hs'.subset (Or.inr ⟨?_, ?_⟩)⟩
  · refine (rules.hashOrder _ _).mpr (mem_channelNames ?_)
    rw [hsame.channelsOf]
    exact hchannel
  · exact hshort channel hchannel

/-- A restart that returns listens on all channels again. -/
lemma restartSession_ok (rules : ListenRules build b listening settled Plain) {operation : String}
    (hshort : ∀ channel ∈ channelsOf s, ShortChannel channel) (hparser : s.db.parser = Parser.new)
    (h : restartSession build b stack operation s = (s', .ok ())) :
    Kept listening settled (channelsOf s) s' := by
  obtain ⟨backend, hbackend, hrestore⟩ := restartSession_eq_ok h
  have ht : Kept listening settled ∅ (s.withBackend backend) :=
    ⟨hparser, rules.restart _ _ hbackend, Set.empty_subset _⟩
  exact restoreSessionState_ok (s := s.withBackend backend) rules hshort ht hrestore

/-- A client that is closed has nothing to keep. -/
lemma Registry.closed (h : Registry listening settled regs s) (hsame : SameListeners s s')
    (hparser : s'.db.parser = Parser.new) : Registry listening settled regs s'.asClosed where
  parser := hparser
  next := hsame.nextListenerId.trans h.next
  numbered := h.numbered
  known channel l hl := h.known channel l (hsame.listeners channel ▸ hl)
  listened hready := by simp [asClosed] at hready

/-- **A dump keeps the registry**, if the backend can be shut down. -/
lemma Registry.archived (rules : ListenRules build b listening settled Plain)
    (hshutdown : ∀ x, (b.shutdown x).2 = .ok ()) (h : Registry listening settled regs s)
    {operation : String} {format : DataDirArchiveFormat} {o : Outcome ClientError Bytes}
    (harchived : Archived build b stack operation format s s' o) :
    Registry listening settled regs s' := by
  -- the state in which the backend is shut down
  have hpoint {t : Session σ} {o' : Outcome ClientError Unit}
      (ht : checkpointBackendForPhysicalSnapshot build b stack operation s = (t, o')) :
      Registry listening settled regs t := by
    have hreg := h.checkpoint rules stack operation
    rw [ht] at hreg
    exact hreg
  cases harchived with
  | notCheckpointed ht => exact hpoint ht
  | @notShutDown t err e ht hfailed =>
    rw [hshutdown] at hfailed
    simp at hfailed
  | @restarted t _ _ ht _ hrestart _ =>
    have hreg := hpoint ht
    have hstate := restartSession_state build rules.wellFormed stack operation
      (t.afterShutdown b) hreg.parser
    have hkept := restartSession_ok rules (s := t.afterShutdown b) (fun _ hc => hreg.short hc)
      hreg.parser hrestart
    rw [hrestart] at hstate
    have hsame : SameListeners t s' :=
      ⟨hstate.1.notifyListeners, hstate.1.nextListenerId, hstate.1.ready⟩
    exact hreg.of_sameListeners hsame hstate.2 fun _ => hkept
  | @notRestarted t t' err e ht _ hrestart =>
    have hreg := hpoint ht
    have hstate := restartSession_state build rules.wellFormed stack operation
      (t.afterShutdown b) hreg.parser
    rw [hrestart] at hstate
    have hsame : SameListeners t t' :=
      ⟨hstate.1.notifyListeners, hstate.1.nextListenerId, hstate.1.ready⟩
    exact hreg.closed hsame hstate.2

/-- `dump_data_dir_with_format` keeps the registry. -/
lemma Registry.dump (rules : ListenRules build b listening settled Plain)
    (hshutdown : ∀ x, (b.shutdown x).2 = .ok ()) (h : Registry listening settled regs s)
    {format : DataDirArchiveFormat} {o : Outcome ClientError Bytes}
    (hdump : dumpDataDirWithFormat build b stack format s = (s', o)) (ho : o ≠ .panic) :
    Registry listening settled regs s' := by
  have hs := checkReady_fst s
  unfold dumpDataDirWithFormat at hdump
  rcases hcheck : checkReady s with ⟨t₀, u | e | _⟩
  · rw [hcheck] at hs
    rw [Stateful.bind_of_ok hcheck, show t₀ = s from hs] at hdump
    exact h.archived rules hshutdown (archived_of_eq hdump ho)
  · rw [hcheck] at hs
    rw [Stateful.bind_of_err hcheck] at hdump
    simp only [Prod.mk.injEq] at hdump
    rw [← hdump.1, show t₀ = s from hs]
    exact h
  · rw [Stateful.bind_of_panic hcheck] at hdump
    exact absurd (congrArg Prod.snd hdump).symm ho

end Registry

/-! ## Runs -/

/-- The operations: user SQL is plain, channel names are short, and handles come from `listen`. -/
def Admissible (Plain : String → Prop) (regs : List Registration) : Operation → Prop
  | .exec sql _ => Plain sql
  | .query sql _ _ => Plain sql
  | .refreshArrayTypes => True
  | .unlisten handle => ∃ callback, (handle, callback) ∈ regs
  | .unlistenChannel channel => ShortChannel channel
  | .onNotification _ => True
  | .offNotification _ => True
  | .dumpDataDir _ => True
  | _ => False

/-- The sessions that operations lead to, with the registrations `listen` has returned. An
operation returns or fails. -/
inductive Reached (build : Build) (b : Backend σ) (stack : ℕ) (settled : σ → Prop)
    (Plain : String → Prop) : List Registration → Session σ → Prop
  | opened (serializers : SerializerMap) (parsers : ParserMap) {backend : σ}
      (h : settled backend) :
      Reached build b stack settled Plain [] (.opened serializers parsers backend)
  | called {regs : List Registration} {s s' : Session σ} {op : Operation}
      {o : Outcome ClientError Unit} (h : Reached build b stack settled Plain regs s)
      (hop : Admissible Plain regs op) (hcall : call build b stack op s = (s', o))
      (ho : o ≠ .panic) : Reached build b stack settled Plain regs s'
  | listened {regs : List Registration} {s s' : Session σ} {channel : String}
      {callback : CallbackId} {handle : ListenerHandle}
      (h : Reached build b stack settled Plain regs s) (hshort : ShortChannel channel)
      (hlisten : listen build b stack channel callback s = (s', .ok handle)) :
      Reached build b stack settled Plain (regs ++ [(handle, callback)]) s'
  | refused {regs : List Registration} {s s' : Session σ} {channel : String}
      {callback : CallbackId} {e : ClientError}
      (h : Reached build b stack settled Plain regs s) (hshort : ShortChannel channel)
      (hlisten : listen build b stack channel callback s = (s', .err e)) :
      Reached build b stack settled Plain regs s'

section Runs

variable {regs : List Registration} {s s' : Session σ}

/-- One operation. -/
lemma Registry.call (rules : ListenRules build b listening settled Plain)
    (hshutdown : ∀ x, (b.shutdown x).2 = .ok ()) (h : Registry listening settled regs s)
    {op : Operation} (hop : Admissible Plain regs op) {o : Outcome ClientError Unit}
    (hcall : call build b stack op s = (s', o)) (ho : o ≠ .panic) :
    Registry listening settled regs s' := by
  have hs' : s' = (Session.call build b stack op s).1 := by rw [hcall]
  cases op with
  | exec sql options =>
    rw [hs']
    refine h.of_keeps rules fun _ _ hI hA => ?_
    exact (hI.keeps_exec (hA _ (.plain hop)) options).bind fun _ => .pure _
  | query sql params options =>
    rw [hs']
    refine h.of_keeps rules fun _ _ hI hA => ?_
    exact (hI.keeps_query (hA _ (.parse hop _)) (fun values => hA _ (.bind values)) params).bind
      fun _ => .pure _
  | refreshArrayTypes =>
    rw [hs']
    refine h.of_keeps rules fun _ _ hI hA => ?_
    exact keeps_checkReady.bind fun _ =>
      hI.keeps_refreshArrayTypesInternal (hA _ (.plain rules.arrayTypes))
  | unlisten handle =>
    obtain ⟨callback, hmem⟩ := hop
    obtain ⟨i, hi⟩ := List.mem_iff_getElem?.mp hmem
    obtain ⟨-, hchannel, hshort⟩ := h.numbered i _ hi
    rw [hs']
    exact h.unlisten rules hchannel hshort
  | unlistenChannel channel =>
    rw [hs']
    exact h.unlistenChannel rules hop
  | onNotification callback =>
    rw [hs']
    exact h.of_sameListeners ⟨rfl, rfl, rfl⟩ h.parser fun hready =>
      ⟨h.parser, (h.listened hready).settled, (h.listened hready).subset⟩
  | offNotification handle =>
    rw [hs']
    exact h.of_sameListeners ⟨rfl, rfl, rfl⟩ h.parser fun hready =>
      ⟨h.parser, (h.listened hready).settled, (h.listened hready).subset⟩
  | dumpDataDir format =>
    rcases hdump : dumpDataDirWithFormat build b stack format s with ⟨t, archive | e | _⟩
    · have ht : t = s' := by
        rw [hs']
        show t = ((dumpDataDirWithFormat build b stack format >>= fun _ => pure ()) s).1
        rw [Stateful.bind_pure_fst, hdump]
      rw [← ht]
      exact h.dump rules hshutdown hdump (by simp)
    · have ht : t = s' := by
        rw [hs']
        show t = ((dumpDataDirWithFormat build b stack format >>= fun _ => pure ()) s).1
        rw [Stateful.bind_pure_fst, hdump]
      rw [← ht]
      exact h.dump rules hshutdown hdump (by simp)
    · refine absurd ?_ ho
      have hpanic : Session.call build b stack (.dumpDataDir format) s = (t, .panic) :=
        Stateful.bind_of_panic hdump
      rw [hpanic] at hcall
      exact (congrArg Prod.snd hcall).symm
  | execProtocol message options => exact hop.elim
  | transaction T callback => exact hop.elim
  | listen channel callback => exact hop.elim
  | tryClone => exact hop.elim

/-- **The registry of every reachable session.** -/
lemma Reached.registry (rules : ListenRules build b listening settled Plain)
    (hshutdown : ∀ x, (b.shutdown x).2 = .ok ()) (h : Reached build b stack settled Plain regs s) :
    Registry listening settled regs s := by
  induction h with
  | @opened serializers parsers backend hbackend =>
    have hnone : ∀ channel l,
        l ∉ (Instance.opened serializers parsers backend).listeners channel := by
      intro channel l hl
      simp [Instance.listeners, Instance.opened, ListenerMap.get] at hl
    refine ⟨rfl, rfl, by simp, fun channel l hl => absurd hl (hnone channel l), fun _ => ?_⟩
    refine ⟨rfl, hbackend, ?_⟩
    rintro channel ⟨l, hl⟩
    exact absurd hl (hnone channel l)
  | called _ hop hcall ho ih => exact ih.call rules hshutdown hop hcall ho
  | listened _ hshort hlisten ih => exact ih.listen_ok rules hshort hlisten
  | refused _ _ hlisten ih => exact ih.listen_err rules hlisten

/-- Registrations are known by their number. -/
lemma Registry.eq_of_id (h : Registry listening settled regs s) (hcount : regs.length < 2 ^ 64)
    {reg reg' : Registration} (hreg : reg ∈ regs) (hreg' : reg' ∈ regs)
    (hid : reg.1.id = reg'.1.id) : reg = reg' := by
  obtain ⟨i, hi⟩ := List.mem_iff_getElem?.mp hreg
  obtain ⟨j, hj⟩ := List.mem_iff_getElem?.mp hreg'
  rw [(h.numbered i reg hi).1, (h.numbered j reg' hj).1] at hid
  have hilt := (List.getElem?_eq_some_iff.mp hi).1
  have hjlt := (List.getElem?_eq_some_iff.mp hj).1
  have hnat := congrArg UInt64.toNat hid
  rw [UInt64.toNat_ofNat', UInt64.toNat_ofNat', Nat.mod_eq_of_lt (by omega),
    Nat.mod_eq_of_lt (by omega)] at hnat
  have hij : i = j := by omega
  rw [hij, hj] at hi
  exact (Option.some.inj hi).symm

/-- The listener of a handle is known by its number. -/
lemma Registry.eq_listener (h : Registry listening settled regs s) (hcount : regs.length < 2 ^ 64)
    {handle : ListenerHandle} {callback : CallbackId} (hmem : (handle, callback) ∈ regs)
    {channel : String} {l : ChannelListener} (hl : l ∈ s.db.listeners channel) :
    l.id = handle.id ↔ channel = handle.channel ∧ l = ⟨handle.id, callback⟩ := by
  constructor
  · intro hid
    have heq := h.eq_of_id hcount (h.known channel l hl) hmem hid
    rw [Prod.mk.injEq] at heq
    obtain ⟨hhandle, hcallback⟩ := heq
    rw [← hhandle, ← hcallback]
    exact ⟨rfl, rfl⟩
  · rintro ⟨-, rfl⟩
    rfl

/-- What `unlisten` leaves: everything but what its handle stands for. -/
lemma Registry.mem_listeners_unlisten (h : Registry listening settled regs s)
    (hcount : regs.length < 2 ^ 64) {handle : ListenerHandle} {callback : CallbackId}
    (hmem : (handle, callback) ∈ regs) (channel : String) (l : ChannelListener) :
    l ∈ (Session.unlisten build b stack handle s).1.db.listeners channel ↔
      l ∈ s.db.listeners channel ∧ ¬ (channel = handle.channel ∧ l = ⟨handle.id, callback⟩) := by
  obtain ⟨i, hi⟩ := List.mem_iff_getElem?.mp hmem
  obtain ⟨-, hchannel, -⟩ := h.numbered i _ hi
  have hiff : l ∈ s.db.listeners channel →
      (l.id = handle.id ↔ channel = handle.channel ∧ l = ⟨handle.id, callback⟩) :=
    h.eq_listener hcount hmem
  have hkept : keptListeners s handle = (s.db.listeners handle.channel).filter fun l =>
      l.id ≠ handle.id := by
    unfold keptListeners
    rw [hchannel]
  rcases unlisten_state build b stack handle s with ⟨hget, hs'⟩ | ⟨hempty, hs'⟩ | ⟨-, hs'⟩
  · rw [hs']
    refine ⟨fun hl => ⟨hl, ?_⟩, fun hl => hl.1⟩
    rintro ⟨rfl, -⟩
    unfold Instance.listeners at hl
    rw [← show handle.normalizedChannel = handle.channel from hchannel, hget] at hl
    simp at hl
  · have hsame : SameListeners (s.withListeners (s.db.notifyListeners.remove handle.channel))
        (Session.unlisten build b stack handle s).1 := by
      rw [hs', hchannel]
      exact (steadyFrame_sameListeners build b _).keeps_execInternal trivial none _ (.refl _)
    rw [hsame.listeners]
    show l ∈ ((s.db.notifyListeners.remove handle.channel).get channel).getD [] ↔ _
    by_cases hc : channel = handle.channel
    · -- all its listeners had the number of the handle
      rw [hc, ListenerMap.get_remove]
      refine ⟨fun hl => by simp at hl, fun hl => absurd ?_ hl.2⟩
      rw [hkept, List.filter_eq_nil_iff] at hempty
      have hid : l.id = handle.id := by simpa using hempty l hl.1
      have hl' : l ∈ s.db.listeners channel := hc ▸ hl.1
      exact ⟨rfl, ((hiff hl').mp hid).2⟩
    · rw [ListenerMap.get_remove_of_ne _ hc]
      exact ⟨fun hl => ⟨hl, fun hbad => hc hbad.1⟩, fun hl => hl.1⟩
  · rw [hs']
    show l ∈ ((s.db.notifyListeners.set handle.normalizedChannel _).get channel).getD [] ↔ _
    rw [hchannel, hkept]
    by_cases hc : channel = handle.channel
    · rw [hc, ListenerMap.get_set]
      show l ∈ List.filter _ _ ↔ _
      rw [List.mem_filter]
      rw [hc] at hiff
      constructor
      · rintro ⟨hl, hid⟩
        exact ⟨hl, fun hbad => (by simpa using hid : l.id ≠ handle.id) ((hiff hl).mpr hbad)⟩
      · rintro ⟨hl, hbad⟩
        refine ⟨hl, ?_⟩
        simp only [decide_eq_true_eq]
        exact fun hid => hbad ((hiff hl).mp hid)
    · rw [ListenerMap.get_set_of_ne _ _ hc]
      exact ⟨fun hl => ⟨hl, fun hbad => hc hbad.1⟩, fun hl => hl.1⟩

/-- **Every channel with a listener is listened on**, in every ready state that listening,
unlistening, notifications, plain SQL and dumps lead to, whichever statements fail. `unlisten`
removes the listener its handle was returned for and no other, and sends something to the backend
only when the channel has no listener left. -/
theorem listeners_are_listened (rules : ListenRules build b listening settled Plain)
    (hshutdown : ∀ x, (b.shutdown x).2 = .ok ())
    (h : Reached build b stack settled Plain regs s) (hcount : regs.length < 2 ^ 64) :
    (s.db.ready = true → ∀ channel, s.db.listeners channel ≠ [] →
      channel ∈ listening s.db.backend) ∧
    ∀ handle callback, (handle, callback) ∈ regs →
      (∀ channel l, l ∈ (unlisten build b stack handle s).1.db.listeners channel ↔
        l ∈ s.db.listeners channel ∧
          ¬ (channel = handle.channel ∧ l = ⟨handle.id, callback⟩)) ∧
      ∃ sent, (unlisten build b stack handle s).1.history = s.history ++ sent ∧
        (sent ≠ [] → (unlisten build b stack handle s).1.db.listeners handle.channel = []) := by
  have hreg := h.registry rules hshutdown
  refine ⟨fun hready channel hne => ?_, fun handle callback hmem => ⟨?_, ?_⟩⟩
  · exact (hreg.listened hready).subset (List.exists_mem_of_ne_nil _ hne)
  · exact hreg.mem_listeners_unlisten hcount hmem
  · obtain ⟨i, hi⟩ := List.mem_iff_getElem?.mp hmem
    exact unlisten_sent build b stack (hreg.numbered i _ hi).2.1 s

end Runs

end Session

/-! ## A backend with one channel -/

namespace NewsBackend

def listenSql : String := "LISTEN " ++ quoteIdentifier "news"

def unlistenSql : String := "UNLISTEN " ++ quoteIdentifier "news"

/-- It listens on `news` or not, and knows no other statement than `LISTEN` and `UNLISTEN`. -/
def backend : Backend Bool :=
  { Backend.answering fun s message =>
      if message = (Request.query listenSql).bytes then (true, .ok (OneTable.completed "LISTEN"))
      else if message = (Request.query unlistenSql).bytes then
        (false, .ok (OneTable.completed "UNLISTEN"))
      else (s, .ok OneTable.failed) with
    restart := fun _ => (false, .ok ()) }

def listening (s : Bool) : Set String := {channel | s = true ∧ channel = "news"}

/-- Statements that do not begin like `LISTEN` or `UNLISTEN`. -/
def Plain (sql : String) : Prop :=
  sql.toList.head? ≠ some 'L' ∧ sql.toList.head? ≠ some 'U'

lemma head_append (c : Char) (text : List Char) (rest : String) :
    (String.ofList (c :: text) ++ rest).toList.head? = some c := by
  rw [String.toList_append, String.toList_ofList]
  rfl

lemma plain_of_head {sql : String} {c : Char} (h : sql.toList.head? = some c)
    (hc : c ≠ 'L' ∧ c ≠ 'U') : Plain sql := by
  unfold Plain
  rw [h]
  simpa using hc

lemma after_eq (s : Bool) (request : Request) (c : Option DataTransferContainer) :
    backend.after s request c
      = if request.bytes = (Request.query listenSql).bytes then true
        else if request.bytes = (Request.query unlistenSql).bytes then false else s := by
  show (if _ then _ else if _ then _ else _ : Bool × Except Error Bytes).1 = _
  split
  · rfl
  · split <;> rfl

lemma response_eq (s : Bool) (request : Request) (c : Option DataTransferContainer) :
    backend.response s request c
      = .ok (if request.bytes = (Request.query listenSql).bytes then OneTable.completed "LISTEN"
        else if request.bytes = (Request.query unlistenSql).bytes then
          OneTable.completed "UNLISTEN"
        else OneTable.failed) := by
  show (if _ then _ else if _ then _ else _ : Bool × Except Error Bytes).2 = _
  split
  · rfl
  · split <;> rfl

lemma unchanged {s : Bool} {request : Request} (c : Option DataTransferContainer)
    (hlisten : request.bytes ≠ (Request.query listenSql).bytes)
    (hunlisten : request.bytes ≠ (Request.query unlistenSql).bytes) :
    True ∧ listening s ⊆ listening (backend.after s request c) := by
  rw [after_eq, if_neg hlisten, if_neg hunlisten]
  exact ⟨trivial, fun _ h => h⟩

lemma query_ne {sql text : String} (h : sql ≠ text) :
    (Request.query sql).bytes ≠ (Request.query text).bytes := fun hbytes =>
  h (OneTable.query_bytes_inj.mp hbytes)

lemma listen_ne_unlisten (a c : String) :
    s!"LISTEN {quoteIdentifier a}" ≠ s!"UNLISTEN {quoteIdentifier c}" := by
  intro h
  have hhead := congrArg (fun text => text.toList.head?) h
  have hl : (s!"LISTEN {quoteIdentifier a}").toList.head? = some 'L' :=
    head_append _ _ _
  have hu : (s!"UNLISTEN {quoteIdentifier c}").toList.head? = some 'U' :=
    head_append _ _ _
  simp only [hl, hu] at hhead
  exact absurd hhead (by decide)

lemma listenSql_eq {channel : String} (h : s!"LISTEN {quoteIdentifier channel}" = listenSql) :
    channel = "news" := by
  have hlist : "LISTEN " ++ quoteIdentifier channel = "LISTEN " ++ quoteIdentifier "news" := h
  have hcancel := congrArg String.toList hlist
  rw [String.toList_append, String.toList_append] at hcancel
  exact quoteIdentifier_inj (String.toList_injective (List.append_cancel_left hcancel))

lemma unlistenSql_eq {channel : String}
    (h : s!"UNLISTEN {quoteIdentifier channel}" = unlistenSql) : channel = "news" := by
  have hlist : "UNLISTEN " ++ quoteIdentifier channel = "UNLISTEN " ++ quoteIdentifier "news" := h
  have hcancel := congrArg String.toList hlist
  rw [String.toList_append, String.toList_append] at hcancel
  exact quoteIdentifier_inj (String.toList_injective (List.append_cancel_left hcancel))

lemma plain_ne {sql : String} (h : Plain sql) : sql ≠ listenSql ∧ sql ≠ unlistenSql := by
  refine ⟨?_, ?_⟩
  · rintro rfl
    exact h.1 (head_append _ _ _)
  · rintro rfl
    exact h.2 (head_append _ _ _)

lemma wellFormed : backend.WellFormed := by
  intro s request c data h
  have hdata : data = OneTable.completed "LISTEN" ∨ data = OneTable.completed "UNLISTEN" ∨
      data = OneTable.failed := by
    rw [response_eq, Except.ok.injEq] at h
    split at h
    · exact Or.inl h.symm
    split at h
    · exact Or.inr (Or.inl h.symm)
    · exact Or.inr (Or.inr h.symm)
  have hcompleted (tag : String) (hframes : ∀ f ∈
      [Serialize.frame codeCommandComplete (Serialize.cstring tag), readyFrame],
      backendFraming.IsFrame f ∧ (frameMessage ⟨false⟩ f).isSome) :
      WellFormedResponse (OneTable.completed tag) :=
    wellFormedResponse_of_frames ⟨false⟩ (fun f hf => (hframes f hf).1) fun f hf => (hframes f hf).2
  rcases hdata with rfl | rfl | rfl
  · exact hcompleted "LISTEN" (by decide +kernel)
  · exact hcompleted "UNLISTEN" (by decide +kernel)
  · exact OneTable.wellFormed_failed

lemma listenRules : ListenRules ⟨false⟩ backend listening (fun _ => True) Plain where
  wellFormed := wellFormed
  listen s channel c _ := by
    by_cases hchannel : s!"LISTEN {quoteIdentifier channel}" = listenSql
    · rw [hchannel, after_eq, if_pos rfl]
      exact ⟨trivial, fun _ h => ⟨rfl, h.2⟩⟩
    · exact unchanged c (query_ne hchannel) (query_ne (listen_ne_unlisten channel "news"))
  listen_accepted s channel c _ _ haccepts := by
    by_cases hchannel : s!"LISTEN {quoteIdentifier channel}" = listenSql
    · rw [hchannel, after_eq, if_pos rfl]
      exact ⟨rfl, listenSql_eq hchannel⟩
    · -- any other channel is refused
      obtain ⟨data, hdata, haccepted⟩ := haccepts
      refine absurd ?_ haccepted
      have hunlisten : s!"LISTEN {quoteIdentifier channel}" ≠ unlistenSql :=
        listen_ne_unlisten channel "news"
      rw [response_eq, if_neg (query_ne hchannel), if_neg (query_ne hunlisten),
        Except.ok.injEq] at hdata
      rw [← hdata]
      exact OneTable.rejected_failed
  unlisten s channel c _ _ := by
    by_cases hchannel : s!"UNLISTEN {quoteIdentifier channel}" = unlistenSql
    · rw [unlistenSql_eq hchannel]
      refine ⟨trivial, ?_⟩
      rintro other ⟨⟨-, rfl⟩, hother⟩
      exact absurd rfl hother
    · have hsame := unchanged (s := s) c (query_ne (listen_ne_unlisten "news" channel).symm)
        (query_ne hchannel)
      exact ⟨trivial, fun _ h => hsame.2 h.1⟩
  plain s sql c _ hsql := unchanged c (query_ne (plain_ne hsql).1) (query_ne (plain_ne hsql).2)
  parse s sql types c _ _ := by
    refine unchanged c ?_ ?_ <;>
      simp [Request.bytes, Serialize.parse, Serialize.query, Serialize.frame, Serialize.codeParse,
        Serialize.codeQuery]
  bind s values c _ := by
    refine unchanged c ?_ ?_ <;>
      simp [Request.bytes, Serialize.bind, Serialize.query, Serialize.frame, Serialize.codeBind,
        Serialize.codeQuery]
  restart _ _ _ := trivial
  createBlobDir s _ := ⟨trivial, fun _ h => h⟩
  writeBlob s bytes _ := ⟨trivial, fun _ h => h⟩
  removeBlob s _ := ⟨trivial, fun _ h => h⟩
  hashOrder _ _ := Iff.rfl
  lookup oid := by
    unfold Session.arrayTypeLookupSql
    rw [String.append_assoc, String.append_assoc, String.append_assoc, String.append_assoc]
    exact plain_of_head (head_append _ _ _) (by decide)
  arrayTypes := by
    unfold Session.arrayTypesSql
    rw [String.append_assoc, String.append_assoc, String.append_assoc, String.append_assoc]
    exact plain_of_head (head_append _ _ _) (by decide)
  checkpoint := plain_of_head (c := 'C') (by decide) (by decide)
  setRole _ := plain_of_head (head_append _ _ _) (by decide)

end NewsBackend

namespace Session

/-- A client with a listener on `news`. -/
def newsSession : Session Bool :=
  (listen ⟨false⟩ NewsBackend.backend 3 "news" 7 (.opened [] [] false)).1

/-- The listener of `news` hears the backend. -/
theorem news_listener_is_listened :
    newsSession.db.listeners "news" = [⟨1, 7⟩] ∧ newsSession.db.ready = true ∧
      "news" ∈ NewsBackend.listening newsSession.db.backend := by
  have hlisten : (listen ⟨false⟩ NewsBackend.backend 3 "news" 7 (.opened [] [] false)).2.toOption
      = some ⟨"news", "news", 1⟩ := by
    decide +kernel
  have hlisteners : newsSession.db.listeners "news" = [⟨1, 7⟩] := by
    decide +kernel
  have hready : newsSession.db.ready = true := by
    decide +kernel
  have hreached : Reached ⟨false⟩ NewsBackend.backend 3 (fun _ => True) NewsBackend.Plain
      ([] ++ [(⟨"news", "news", 1⟩, 7)]) newsSession := by
    have hopened : Reached ⟨false⟩ NewsBackend.backend 3 (fun _ => True) NewsBackend.Plain []
        (.opened [] [] false) := .opened [] [] trivial
    have hshort : ShortChannel "news" := by
      unfold ShortChannel
      decide
    have hcall : listen ⟨false⟩ NewsBackend.backend 3 "news" 7 (.opened [] [] false)
        = (newsSession, .ok ⟨"news", "news", 1⟩) :=
      Prod.ext rfl (Outcome.toOption_eq_some.mp hlisten)
    exact .listened hopened hshort hcall
  refine ⟨hlisteners, hready, ?_⟩
  refine (listeners_are_listened NewsBackend.listenRules (fun _ => rfl) hreached (by decide)).1
    hready "news" ?_
  rw [hlisteners]
  simp

end Session

end PgliteOxide.Pglite
