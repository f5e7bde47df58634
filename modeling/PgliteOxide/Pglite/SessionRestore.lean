import Mathlib.Data.Set.Image
import PgliteOxide.Pglite.Extensions
import PgliteOxide.Pglite.Listeners
import PgliteOxide.Pglite.Statements

/-!
# Sessions across a physical dump

A dump starts a new backend session. The client sets the startup role again and listens again on
the channels with a listener. What enabling an extension has executed in the old session is not
executed in the new one.
-/

namespace PgliteOxide.Pglite

open Lib Protocol

/-! ## Extensions -/

/-- What enabling an extension uses besides the session: the bundled archives, their installation
below the root, and the loading of a side module. -/
structure ExtensionHost (σ : Type) where
  extensionArchive : String → Option Bytes
  installBundledExtensionBytes : σ → String → Bytes → σ × Except Error Unit
  preloadExtensionModule : σ → Extension → σ × Except Error Unit

namespace Session

section

variable {σ : Type} (build : Build) (b : Backend σ) (host : ExtensionHost σ) (stack : ℕ)

/-- Statements, one `exec` after another. -/
def execAll : List String → Method σ Unit
  | [] => return ()
  | sql :: statements => do
    let _ ← exec build b stack sql none
    execAll statements

/-- `enable_extension`. -/
def enableExtension (extension : Extension) : Method σ Unit :=
  match host.extensionArchive extension.sqlName with
  | none =>
    bail s!"extension asset '{extension.sqlName}' is not bundled in this pglite-oxide build"
  | some bytes => do
    callBackend (host.installBundledExtensionBytes · extension.sqlName bytes)
    callBackend (host.preloadExtensionModule · extension)
    execAll build b stack (extensionSetupSql extension)

/-- `enable_preinstalled_extension`. -/
def enablePreinstalledExtension (extension : Extension) : Method σ Unit := do
  callBackend (host.preloadExtensionModule · extension)
  execAll build b stack (extensionSessionSetupSql extension)

/-- The last step of `new_prepared_with_config`. -/
def setStartupRole : Method σ Unit := do
  let username := b.startupConfig.username
  let _ ← (context s!"set startup role {username}"
    (exec build b stack s!"SET ROLE {quoteIdentifier username}" none)).onlyIf
      (username ≠ "postgres") []
  return ()

end

end Session

/-! ## PostgreSQL's rules -/

/-- The current role of a backend session and the channels it listens on. `settled` says that no
transaction block is open and that the unnamed statement, if there is one, changes neither. -/
structure SessionView (σ : Type) where
  role : σ → String
  listening : σ → Set String
  settled : σ → Prop

/-- `y` looks like `x`. -/
structure SessionView.Same {σ : Type} (view : SessionView σ) (x y : σ) : Prop where
  settled : view.settled y
  role : view.role y = view.role x
  listening : view.listening y = view.listening x

/-- A backend that follows PostgreSQL's rules for roles and `LISTEN`. `identifier` is a name as the
backend knows it: it cuts names that are too long. A new session has the role `startRole` and
listens on nothing. Neutral statements leave the role and the channels alone, and so do the setup
statements of the bundled extensions and the client's own. -/
structure RestoreRules {σ : Type} (build : Build) (b : Backend σ) (host : ExtensionHost σ)
    (view : SessionView σ) (identifier : String → String) (startRole : String)
    (Neutral : String → Prop) : Prop where
  wellFormed : b.WellFormed
  neutral : ∀ s sql c, view.settled s → Neutral sql → view.Same s (b.after s (.query sql) c)
  parse : ∀ s sql types c, view.settled s → Neutral sql →
    view.Same s (b.after s (.parseDescribe sql types) c)
  bind : ∀ s values c, view.settled s → view.Same s (b.after s (.bindExecute values) c)
  listen : ∀ s channel c, view.settled s →
    view.settled (b.after s (.query s!"LISTEN {quoteIdentifier channel}") c) ∧
      view.role (b.after s (.query s!"LISTEN {quoteIdentifier channel}") c) = view.role s
  listen_accepted : ∀ s channel c, view.settled s →
    b.Accepts build s (.query s!"LISTEN {quoteIdentifier channel}") c →
      view.listening (b.after s (.query s!"LISTEN {quoteIdentifier channel}") c)
        = insert (identifier channel) (view.listening s)
  unlisten : ∀ s channel c, view.settled s →
    view.settled (b.after s (.query s!"UNLISTEN {quoteIdentifier channel}") c) ∧
      view.role (b.after s (.query s!"UNLISTEN {quoteIdentifier channel}") c) = view.role s
  setRole_accepted : ∀ s role c, view.settled s →
    b.Accepts build s (.query s!"SET ROLE {quoteIdentifier role}") c →
      view.settled (b.after s (.query s!"SET ROLE {quoteIdentifier role}") c) ∧
      view.role (b.after s (.query s!"SET ROLE {quoteIdentifier role}") c) = identifier role ∧
      view.listening (b.after s (.query s!"SET ROLE {quoteIdentifier role}") c)
        = view.listening s
  restart : ∀ s s', b.restart s = (s', .ok ()) →
    view.settled s' ∧ view.role s' = startRole ∧ view.listening s' = ∅
  /-- The files have nothing to do with the session. -/
  createBlobDir : ∀ s, view.settled s → view.Same s (b.createBlobDir s).1
  writeBlob : ∀ s bytes, view.settled s → view.Same s (b.writeBlob s bytes).1
  removeBlob : ∀ s, view.settled s → view.Same s (b.removeBlob s)
  install : ∀ s name bytes, view.settled s →
    view.Same s (host.installBundledExtensionBytes s name bytes).1
  preload : ∀ s extension, view.settled s →
    view.Same s (host.preloadExtensionModule s extension).1
  /-- A map is walked through all its keys. -/
  hashOrder : ∀ keys key, key ∈ b.hashOrder keys ↔ key ∈ keys
  lookup : ∀ oid, Neutral (Session.arrayTypeLookupSql oid)
  arrayTypes : Neutral Session.arrayTypesSql
  checkpoint : Neutral "CHECKPOINT"
  setup : ∀ extension ∈ Extension.candidates, ∀ sql ∈ extensionSetupSql extension, Neutral sql

/-- The role of a client's session. -/
def Backend.sessionRole {σ : Type} (b : Backend σ) (identifier : String → String)
    (startRole : String) : String :=
  if b.startupConfig.username = "postgres" then startRole
  else identifier b.startupConfig.username

namespace Session

variable {σ : Type} {build : Build} {b : Backend σ} {host : ExtensionHost σ} {stack : ℕ}
  {view : SessionView σ} {identifier : String → String} {startRole : String}
  {Neutral : String → Prop} {role : String} {channels : Set String} {s s' : Session σ}

/-! ## What the steps keep -/

/-- The session has this role. -/
structure HasRole (view : SessionView σ) (role : String) (s : Session σ) : Prop where
  parser : s.db.parser = Parser.new
  settled : view.settled s.db.backend
  role : view.role s.db.backend = role

/-- The session has this role and listens on these channels. -/
structure Looks (view : SessionView σ) (role : String) (channels : Set String) (s : Session σ) :
    Prop extends HasRole view role s where
  listening : view.listening s.db.backend = channels

/-- The requests that leave the role and the channels alone. -/
inductive Calm (Neutral : String → Prop) : Request → Prop
  | query {sql : String} (h : Neutral sql) : Calm Neutral (.query sql)
  | parse {sql : String} (h : Neutral sql) (types : List Int32) :
      Calm Neutral (.parseDescribe sql types)
  | bind (values : List BindValue) : Calm Neutral (.bindExecute values)

/-- The requests that leave the role alone. -/
inductive KeepsRole (Neutral : String → Prop) : Request → Prop
  | calm {request : Request} (h : Calm Neutral request) : KeepsRole Neutral request
  | listen (channel : String) : KeepsRole Neutral (.query s!"LISTEN {quoteIdentifier channel}")
  | unlisten (channel : String) :
      KeepsRole Neutral (.query s!"UNLISTEN {quoteIdentifier channel}")

section

variable (rules : RestoreRules build b host view identifier startRole Neutral)

include rules

lemma same_of_calm {request : Request} (hrequest : Calm Neutral request) {x : σ}
    (hx : view.settled x) (c : Option DataTransferContainer) :
    view.Same x (b.after x request c) := by
  cases hrequest with
  | query h => exact rules.neutral x _ c hx h
  | parse h types => exact rules.parse x _ types c hx h
  | bind values => exact rules.bind x values c hx

lemma role_of_keepsRole {request : Request} (hrequest : KeepsRole Neutral request) {x : σ}
    (hx : view.settled x) (c : Option DataTransferContainer) :
    view.settled (b.after x request c) ∧ view.role (b.after x request c) = view.role x := by
  cases hrequest with
  | calm h =>
    have hsame := same_of_calm rules h hx c
    exact ⟨hsame.settled, hsame.role⟩
  | listen channel => exact rules.listen x channel c hx
  | unlisten channel => exact rules.unlisten x channel c hx

lemma steady_hasRole (role : String) :
    Steady build b (HasRole view role) (KeepsRole Neutral) where
  createBlobDir s h :=
    have hsame := rules.createBlobDir s.db.backend h.settled
    ⟨h.parser, hsame.settled, hsame.role.trans h.role⟩
  writeBlob s bytes h :=
    have hsame := rules.writeBlob s.db.backend bytes h.settled
    ⟨h.parser, hsame.settled, hsame.role.trans h.role⟩
  removeBlob s h :=
    have hsame := rules.removeBlob s.db.backend h.settled
    ⟨h.parser, hsame.settled, hsame.role.trans h.role⟩
  fields s db h hbackend hparser _ _ _ _ := by
    refine ⟨hparser.trans h.parser, ?_, ?_⟩
    · show view.settled db.backend
      rw [hbackend]
      exact h.settled
    · show view.role db.backend = role
      rw [hbackend]
      exact h.role
  exchange request hrequest options s h := by
    have hafter := role_of_keepsRole rules hrequest h.settled options.dataTransferContainer
    have hbackend : (execProtocol build b request options s).1.db.backend = _ :=
      execProtocol_backend request options s
    rw [← hbackend] at hafter
    exact ⟨execProtocol_drained build rules.wellFormed request options h.parser, hafter.1,
      hafter.2.trans h.role⟩
  lookup oid := .calm (.query (rules.lookup oid))

lemma steadyFrame_looks (role : String) (channels : Set String) :
    SteadyFrame build b (Looks view role channels) (Calm Neutral) where
  createBlobDir s h :=
    have hsame := rules.createBlobDir s.db.backend h.settled
    ⟨⟨h.parser, hsame.settled, hsame.role.trans h.role⟩, hsame.listening.trans h.listening⟩
  writeBlob s bytes h :=
    have hsame := rules.writeBlob s.db.backend bytes h.settled
    ⟨⟨h.parser, hsame.settled, hsame.role.trans h.role⟩, hsame.listening.trans h.listening⟩
  removeBlob s h :=
    have hsame := rules.removeBlob s.db.backend h.settled
    ⟨⟨h.parser, hsame.settled, hsame.role.trans h.role⟩, hsame.listening.trans h.listening⟩
  registry s _ _ _ _ h := ⟨⟨h.parser, h.settled, h.role⟩, h.listening⟩
  exchange request hrequest options s h := by
    have hafter := same_of_calm rules hrequest h.settled options.dataTransferContainer
    have hbackend : (execProtocol build b request options s).1.db.backend = _ :=
      execProtocol_backend request options s
    rw [← hbackend] at hafter
    exact ⟨⟨execProtocol_drained build rules.wellFormed request options h.parser, hafter.settled,
      hafter.role.trans h.role⟩, hafter.listening.trans h.listening⟩
  lookup oid := .query (rules.lookup oid)

/-- A statement that returns: what the backend makes of it is all that changes. -/
lemma execInternal_looks {sql : String} {role' : String} {channels' : Set String}
    {results : List Results} (hs : Looks view role channels s)
    (hsql : ∀ x c, view.settled x → view.role x = role → view.listening x = channels →
      b.Accepts build x (.query sql) c →
        view.settled (b.after x (.query sql) c) ∧ view.role (b.after x (.query sql) c) = role' ∧
        view.listening (b.after x (.query sql) c) = channels')
    (h : execInternal build b stack sql none s = (s', .ok results)) :
    Looks view role' channels' s' := by
  obtain ⟨t, t', c, hlocal, haccepts, hbackend, hparser, hrest⟩ :=
    execInternal_accepted rules.wellFormed hs.parser h
  have ht := hlocal _ (steadyFrame_looks rules role channels).toLocalFrame hs
  have hafter := hsql t.db.backend c ht.settled ht.role ht.listening haccepts
  rw [← hbackend] at hafter
  have ht' : Looks view role' channels' t' := ⟨⟨hparser, hafter.1, hafter.2.1⟩, hafter.2.2⟩
  refine hrest _ ((steadyFrame_looks rules _ _).mono ?_ fun oid => ⟨oid, rfl⟩) ht'
  rintro _ ⟨oid, rfl⟩
  exact .query (rules.lookup oid)

end

lemma exec_ok {sql : String} {options : Option QueryOptions} {results : List Results}
    (h : exec build b stack sql options s = (s', .ok results)) :
    execInternal build b stack sql options s = (s', .ok results) := by
  unfold exec at h
  rw [Stateful.bind_eq_ok] at h
  obtain ⟨t, u, hcheck, h⟩ := h
  obtain ⟨rfl, -⟩ := checkReady_ok hcheck
  exact h

/-! ## Restoring -/

section

variable (rules : RestoreRules build b host view identifier startRole Neutral)

include rules

/-- The startup role, in a new session. -/
lemma setRole_looks {text : String} {results : List Results}
    (hs : Looks view startRole channels s)
    (h : (context text (exec build b stack s!"SET ROLE {quoteIdentifier b.startupConfig.username}"
      none)).onlyIf (b.startupConfig.username ≠ "postgres") [] s = (s', .ok results)) :
    Looks view (b.sessionRole identifier startRole) channels s' := by
  unfold Stateful.onlyIf at h
  unfold Backend.sessionRole
  by_cases hname : b.startupConfig.username = "postgres"
  · rw [if_neg (by simpa using hname)] at h
    have heq : s = s' := congrArg Prod.fst h
    rw [if_pos hname, ← heq]
    exact hs
  · rw [if_pos (by simpa using hname), context, Stateful.mapErr_eq_ok] at h
    rw [if_neg hname]
    refine execInternal_looks rules hs (fun x c hx _ hlistening haccepts => ?_) (exec_ok h)
    have hafter := rules.setRole_accepted x _ c hx haccepts
    exact ⟨hafter.1, hafter.2.1, hafter.2.2.trans hlistening⟩

/-- Listening again, channel by channel. -/
lemma restoreListeners_looks {names : List String} (hs : Looks view role channels s)
    (h : restoreListeners build b stack names s = (s', .ok ())) :
    Looks view role (channels ∪ identifier '' {name | name ∈ names}) s' := by
  induction names generalizing channels s with
  | nil =>
    have heq : s = s' := congrArg Prod.fst h
    have hchannels : channels ∪ identifier '' {name | name ∈ ([] : List String)} = channels := by
      simp
    rw [← heq, hchannels]
    exact hs
  | cons name names ih =>
    rw [restoreListeners, Stateful.bind_eq_ok] at h
    obtain ⟨t, results, hlisten, hnames⟩ := h
    rw [context, Stateful.mapErr_eq_ok] at hlisten
    have ht : Looks view role (insert (identifier name) channels) t := by
      refine execInternal_looks rules hs (fun x c hx hrole hlistening haccepts => ?_) hlisten
      have hafter := rules.listen x name c hx
      have hadded := rules.listen_accepted x name c hx haccepts
      exact ⟨hafter.1, hafter.2.trans hrole, hadded.trans (by rw [hlistening])⟩
    have hchannels : insert (identifier name) channels ∪ identifier '' {n | n ∈ names}
        = channels ∪ identifier '' {n | n ∈ name :: names} := by
      ext channel
      simp only [Set.mem_union, Set.mem_insert_iff, Set.mem_image, Set.mem_ofPred_eq,
        List.mem_cons, exists_eq_or_imp]
      constructor
      · rintro ((rfl | h) | h)
        · exact Or.inr (Or.inl rfl)
        · exact Or.inl h
        · exact Or.inr (Or.inr h)
      · rintro (h | h | h)
        · exact Or.inl (Or.inr h)
        · exact Or.inl (Or.inl h.symm)
        · exact Or.inr h
    rw [← hchannels]
    exact ih ht hnames

/-- A new session gets the role and the channels of the old one. -/
lemma restoreSession_looks (hkeys : s.db.notifyListeners.Keyed)
    (hs : Looks view startRole ∅ s)
    (h : restoreSessionStateAfterBackendRestart build b stack s = (s', .ok ())) :
    Looks view (b.sessionRole identifier startRole) (identifier '' channelsOf s) s' := by
  unfold restoreSessionStateAfterBackendRestart at h
  rw [Stateful.bind_eq_ok] at h
  obtain ⟨t, results, hrole, h⟩ := h
  rw [Stateful.bind_of_ok (show getDb t = (t, .ok t.db) from rfl)] at h
  have hsame : SameListeners s t := by
    refine (congrArg (fun r => SameListeners s r.1) hrole).mp ?_
    exact (keeps_context ((steadyFrame_sameListeners build b s).keeps_exec trivial none)).onlyIf s
      (.refl s)
  have hnames : {name | name ∈ b.hashOrder (channelNames t)} = channelsOf s := by
    rw [← hsame.channelsOf]
    ext name
    rw [Set.mem_ofPred_eq, rules.hashOrder]
    exact ⟨mem_channelsOf (by rw [hsame.notifyListeners]; exact hkeys), mem_channelNames⟩
  have hs' := restoreListeners_looks rules (setRole_looks rules hs hrole) h
  rw [Set.empty_union] at hs'
  rw [← hnames]
  exact hs'

/-- **The session after a dump.** -/
lemma archive_looks {operation : String} {format : DataDirArchiveFormat} {archive : Bytes}
    (hkeys : s.db.notifyListeners.Keyed) (hs : HasRole view role s)
    (h : archiveQuiescedPgdata build b stack operation format s = (s', .ok archive)) :
    s'.db.notifyListeners = s.db.notifyListeners ∧
      Looks view (b.sessionRole identifier startRole) (identifier '' channelsOf s') s' := by
  have harchived := archived_of_eq h (by simp)
  cases harchived with
  | @restarted t _ _ ht _ hrestart _ =>
    have hparser : t.db.parser = Parser.new := by
      have hkept := (steady_hasRole rules role).frame.keeps_checkpoint
        (.calm (.query rules.checkpoint)) stack operation s hs
      rw [ht] at hkept
      exact hkept.parser
    have hsame : SameListeners s t := by
      have hkept := (steadyFrame_sameListeners build b s).keeps_checkpoint trivial stack operation
        s (.refl s)
      rw [ht] at hkept
      exact hkept
    have hstate := restartSession_state build rules.wellFormed stack operation
      (t.afterShutdown b) hparser
    rw [hrestart] at hstate
    have hlisteners : s'.db.notifyListeners = t.db.notifyListeners := hstate.1.notifyListeners
    obtain ⟨backend, hbackend, hrestore⟩ := restartSession_eq_ok hrestart
    obtain ⟨hsettled, hrole, hlistening⟩ := rules.restart _ _ hbackend
    have hfresh : Looks view startRole ∅ ((t.afterShutdown b).withBackend backend) :=
      ⟨⟨hparser, hsettled, hrole⟩, hlistening⟩
    have hkeys' : t.db.notifyListeners.Keyed := by
      rw [hsame.notifyListeners]
      exact hkeys
    have hs' := restoreSession_looks rules (s := (t.afterShutdown b).withBackend backend) hkeys'
      hfresh hrestore
    refine ⟨hlisteners.trans hsame.notifyListeners, ?_⟩
    have hchannels : channelsOf s' = channelsOf ((t.afterShutdown b).withBackend backend) := by
      unfold channelsOf Instance.listeners
      rw [hlisteners]
      rfl
    rw [hchannels]
    exact hs'

end

/-- The requests of a dump. -/
inductive Restoring : Request → Prop
  | checkpoint : Restoring (.query "CHECKPOINT")
  | lookup (oid : Int32) : Restoring (.query (arrayTypeLookupSql oid))
  | setRole (role : String) : Restoring (.query s!"SET ROLE {quoteIdentifier role}")
  | listen (channel : String) : Restoring (.query s!"LISTEN {quoteIdentifier channel}")

/-- A dump sends nothing else. -/
lemma archive_sent {operation : String} {format : DataDirArchiveFormat} {archive : Bytes}
    (h : archiveQuiescedPgdata build b stack operation format s = (s', .ok archive)) :
    Sent (fun e => Restoring e.request) s.history s' := by
  have hsteady : Steady build b (Sent (fun e => Restoring e.request) s.history) Restoring :=
    steady_sent s.history .lookup
  have harchived := archived_of_eq h (by simp)
  cases harchived with
  | @restarted t _ _ ht _ hrestart _ =>
    have hkept := hsteady.frame.keeps_checkpoint .checkpoint stack operation s (Sent.refl s)
    rw [ht] at hkept
    have hrestarted : (restartSession build b stack operation).Keeps
        (Sent (fun e => Restoring e.request) s.history) := by
      refine keeps_context ((keeps_callBackend fun _ hs => hs).bind fun _ => ?_)
      exact hsteady.frame.keeps_restoreSessionState .listen .setRole
    have hs' := hrestarted (t.afterShutdown b) hkept
    rw [hrestart] at hs'
    exact hs'

/-! ## Enabling extensions -/

namespace SteadyFrame

variable {I : Session σ → Prop} {A : Request → Prop}

lemma keeps_execAll (h : SteadyFrame build b I A) {statements : List String}
    (hsql : ∀ sql ∈ statements, A (.query sql)) : (execAll build b stack statements).Keeps I := by
  induction statements with
  | nil => exact .pure _
  | cons sql statements ih =>
    refine (h.keeps_exec (hsql sql List.mem_cons_self) none).bind fun _ => ?_
    exact ih fun sql' hmem => hsql sql' (List.mem_cons_of_mem sql hmem)

lemma keeps_enableExtension (h : SteadyFrame build b I A)
    (hinstall : ∀ s name bytes, I s →
      I (s.withBackend (host.installBundledExtensionBytes s.db.backend name bytes).1))
    (hpreload : ∀ s extension, I s →
      I (s.withBackend (host.preloadExtensionModule s.db.backend extension).1))
    {extension : Extension} (hsql : ∀ sql ∈ extensionSetupSql extension, A (.query sql)) :
    (enableExtension build b host stack extension).Keeps I := by
  unfold enableExtension
  split
  · exact keeps_bail
  · refine (keeps_callBackend fun s => hinstall s _ _).bind fun _ => ?_
    exact (keeps_callBackend fun s => hpreload s _).bind fun _ => h.keeps_execAll hsql

lemma keeps_enablePreinstalledExtension (h : SteadyFrame build b I A)
    (hpreload : ∀ s extension, I s →
      I (s.withBackend (host.preloadExtensionModule s.db.backend extension).1))
    {extension : Extension} (hsql : ∀ sql ∈ extensionSetupSql extension, A (.query sql)) :
    (enablePreinstalledExtension build b host stack extension).Keeps I := by
  refine (keeps_callBackend fun s => hpreload s _).bind fun _ => h.keeps_execAll fun sql hmem => ?_
  apply hsql
  unfold extensionSetupSql
  rw [List.append_assoc]
  exact List.mem_append_right _ hmem

end SteadyFrame

/-! ## Runs -/

/-- `enable_extension` or `enable_preinstalled_extension`. -/
def enable (build : Build) (b : Backend σ) (host : ExtensionHost σ) (stack : ℕ)
    (preinstalled : Bool) (extension : Extension) : Method σ Unit :=
  if preinstalled then enablePreinstalledExtension build b host stack extension
  else enableExtension build b host stack extension

/-- The operations of a session: listeners, and SQL that is neutral. -/
def IsSessionCall (Neutral : String → Prop) : Operation → Prop
  | .exec sql _ => Neutral sql
  | .query sql _ _ => Neutral sql
  | .refreshArrayTypes => True
  | .listen _ _ => True
  | .unlisten _ => True
  | .unlistenChannel _ => True
  | .onNotification _ => True
  | .offNotification _ => True
  | _ => False

/-- The sessions that an opened client gets to, with the extensions that were enabled. -/
inductive SessionRun (build : Build) (b : Backend σ) (host : ExtensionHost σ) (stack : ℕ)
    (view : SessionView σ) (startRole : String) (Neutral : String → Prop) :
    List Extension → Session σ → Prop
  | opened (serializers : SerializerMap) (parsers : ParserMap) {backend : σ} {s : Session σ}
      (hsettled : view.settled backend) (hrole : view.role backend = startRole)
      (hopen : setStartupRole build b stack (.opened serializers parsers backend) = (s, .ok ())) :
      SessionRun build b host stack view startRole Neutral [] s
  | called {enabled : List Extension} {s : Session σ} {op : Operation}
      (h : SessionRun build b host stack view startRole Neutral enabled s)
      (hop : IsSessionCall Neutral op) :
      SessionRun build b host stack view startRole Neutral enabled (call build b stack op s).1
  | enabled {enabled : List Extension} {s s' : Session σ} {preinstalled : Bool}
      {extension : Extension}
      (h : SessionRun build b host stack view startRole Neutral enabled s)
      (hmem : extension ∈ Extension.candidates)
      (henable : enable build b host stack preinstalled extension s = (s', .ok ())) :
      SessionRun build b host stack view startRole Neutral (extension :: enabled) s'
  | notEnabled {enabled : List Extension} {s s' : Session σ} {preinstalled : Bool}
      {extension : Extension} {e : ClientError}
      (h : SessionRun build b host stack view startRole Neutral enabled s)
      (hmem : extension ∈ Extension.candidates)
      (henable : enable build b host stack preinstalled extension s = (s', .err e)) :
      SessionRun build b host stack view startRole Neutral enabled s'
  | dumped {enabled : List Extension} {s s' : Session σ} {operation : String}
      {format : DataDirArchiveFormat} {archive : Bytes}
      (h : SessionRun build b host stack view startRole Neutral enabled s)
      (hdump : archiveQuiescedPgdata build b stack operation format s = (s', .ok archive)) :
      SessionRun build b host stack view startRole Neutral enabled s'

/-- Queries do not touch the map. -/
lemma steadyFrame_keyed (build : Build) (b : Backend σ) :
    SteadyFrame build b (fun s => s.db.notifyListeners.Keyed) fun _ => True where
  createBlobDir _ h := h
  writeBlob _ _ h := h
  removeBlob _ h := h
  registry _ _ _ _ _ h := h
  exchange request _ options s h := by
    obtain ⟨parser, e, hstate⟩ := execProtocol_state build b request options s
    rw [hstate]
    exact h
  lookup _ := trivial

/-- Every channel keeps one entry. -/
lemma keeps_keyed {op : Operation} (hop : IsSessionCall Neutral op) :
    (call build b stack op).Keeps fun s => s.db.notifyListeners.Keyed := by
  have hI := steadyFrame_keyed build b
  cases op with
  | exec sql options => exact (hI.keeps_exec trivial options).bind fun _ => .pure _
  | query sql params options =>
    exact (hI.keeps_query trivial (fun _ => trivial) params).bind fun _ => .pure _
  | refreshArrayTypes =>
    exact keeps_checkReady.bind fun _ => hI.keeps_refreshArrayTypesInternal trivial
  | listen channel callback =>
    refine Stateful.Keeps.bind ?_ fun _ => .pure _
    refine keeps_checkReady.bind fun _ => keeps_getDb.bind fun db => ?_
    refine (hI.keeps_execInternal trivial none).onlyIf.bind fun _ => keeps_getDb.bind fun db => ?_
    exact Stateful.Keeps.bind (fun _ h => h.set _ _ channel) fun _ => .pure _
  | unlisten handle =>
    refine keeps_getDb.bind fun db => ?_
    split
    · exact .pure _
    · refine Stateful.Keeps.ite ?_ fun _ h => h.set _ _ _
      refine Stateful.Keeps.bind (fun _ h => h.remove _ _) fun _ => ?_
      exact (hI.keeps_execInternal trivial none).bind fun _ => .pure _
  | unlistenChannel channel =>
    refine keeps_getDb.bind fun db => ?_
    split
    · exact .pure _
    · refine Stateful.Keeps.bind (fun _ h => h.remove _ _) fun _ => ?_
      exact (hI.keeps_execInternal trivial none).bind fun _ => .pure _
  | onNotification callback => exact fun _ h => h
  | offNotification handle => exact fun _ h => h
  | execProtocol message options => exact hop.elim
  | transaction T callback => exact hop.elim
  | dumpDataDir format => exact hop.elim
  | tryClone => exact hop.elim

section

variable (rules : RestoreRules build b host view identifier startRole Neutral)

include rules

/-- The role stays. -/
lemma keeps_hasRole {op : Operation} (hop : IsSessionCall Neutral op) :
    (call build b stack op).Keeps (HasRole view role) := by
  have hI := steady_hasRole rules role
  cases op with
  | exec sql options => exact (hI.frame.keeps_exec (.calm (.query hop)) options).bind fun _ => .pure _
  | query sql params options =>
    refine Stateful.Keeps.bind ?_ fun _ => .pure _
    exact hI.frame.keeps_query (.calm (.parse hop _)) (fun values => .calm (.bind values)) params
  | refreshArrayTypes =>
    refine keeps_checkReady.bind fun _ => ?_
    exact hI.frame.keeps_refreshArrayTypesInternal (.calm (.query rules.arrayTypes))
  | listen channel callback =>
    exact (hI.keeps_listen (.listen channel) callback).bind fun _ => .pure _
  | unlisten handle => exact hI.keeps_unlisten (.unlisten _)
  | unlistenChannel channel => exact hI.keeps_unlistenChannel (.unlisten channel)
  | onNotification callback => exact (hI.keeps_onNotification callback).bind fun _ => .pure _
  | offNotification handle => exact hI.keeps_offNotification handle
  | execProtocol message options => exact hop.elim
  | transaction T callback => exact hop.elim
  | dumpDataDir format => exact hop.elim
  | tryClone => exact hop.elim

lemma enable_hasRole (stack : ℕ) {extension : Extension}
    (hmem : extension ∈ Extension.candidates) (preinstalled : Bool) :
    (enable build b host stack preinstalled extension).Keeps (HasRole view role) := by
  have hI := (steady_hasRole rules role).frame
  have hsql (sql : String) (h : sql ∈ extensionSetupSql extension) :
      KeepsRole Neutral (.query sql) := .calm (.query (rules.setup extension hmem sql h))
  have hinstall (s : Session σ) (name : String) (bytes : Bytes) (h : HasRole view role s) :
      HasRole view role
        (s.withBackend (host.installBundledExtensionBytes s.db.backend name bytes).1) :=
    have hsame := rules.install s.db.backend name bytes h.settled
    ⟨h.parser, hsame.settled, hsame.role.trans h.role⟩
  have hpreload (s : Session σ) (extension : Extension) (h : HasRole view role s) :
      HasRole view role (s.withBackend (host.preloadExtensionModule s.db.backend extension).1) :=
    have hsame := rules.preload s.db.backend extension h.settled
    ⟨h.parser, hsame.settled, hsame.role.trans h.role⟩
  unfold enable
  split
  · exact hI.keeps_enablePreinstalledExtension hpreload hsql
  · exact hI.keeps_enableExtension hinstall hpreload hsql

omit rules in
lemma enable_keyed (extension : Extension) (preinstalled : Bool) :
    (enable build b host stack preinstalled extension).Keeps
      fun s => s.db.notifyListeners.Keyed := by
  have hI := steadyFrame_keyed build b
  unfold enable
  split
  · exact hI.keeps_enablePreinstalledExtension (fun _ _ h => h) fun _ _ => trivial
  · exact hI.keeps_enableExtension (fun _ _ _ h => h) (fun _ _ h => h) fun _ _ => trivial

/-- **In every run**, the session has the role of the client. -/
lemma SessionRun.hasRole {enabled : List Extension}
    (h : SessionRun build b host stack view startRole Neutral enabled s) :
    HasRole view (b.sessionRole identifier startRole) s ∧ s.db.notifyListeners.Keyed ∧
      ∀ extension ∈ enabled, extension ∈ Extension.candidates := by
  induction h with
  | @opened serializers parsers backend s hsettled hrole hopen =>
    have hopened : Looks view startRole (view.listening backend)
        (.opened serializers parsers backend) := ⟨⟨rfl, hsettled, hrole⟩, rfl⟩
    unfold setStartupRole at hopen
    rw [Stateful.bind_eq_ok] at hopen
    obtain ⟨t, results, hset, ht⟩ := hopen
    have heq : t = s := congrArg Prod.fst ht
    rw [heq] at hset
    refine ⟨(setRole_looks rules hopened hset).toHasRole, ?_, by simp⟩
    refine (congrArg (fun r => r.1.db.notifyListeners.Keyed) hset).mp ?_
    refine (keeps_context ((steadyFrame_keyed build b).keeps_exec trivial none)).onlyIf _ ?_
    exact List.nodup_nil
  | @called enabled s op _ hop ih =>
    exact ⟨keeps_hasRole rules hop s ih.1, keeps_keyed hop s ih.2.1, ih.2.2⟩
  | @enabled enabled s s' preinstalled extension _ hmem henable ih =>
    have hrole := enable_hasRole rules stack hmem preinstalled s ih.1
    have hkeys : (enable build b host stack preinstalled extension s).1.db.notifyListeners.Keyed :=
      enable_keyed extension preinstalled s ih.2.1
    rw [henable] at hrole hkeys
    refine ⟨hrole, hkeys, fun other hother => ?_⟩
    rcases List.mem_cons.mp hother with rfl | hother
    · exact hmem
    · exact ih.2.2 other hother
  | @notEnabled enabled s s' preinstalled extension e _ hmem henable ih =>
    have hrole := enable_hasRole rules stack hmem preinstalled s ih.1
    have hkeys : (enable build b host stack preinstalled extension s).1.db.notifyListeners.Keyed :=
      enable_keyed extension preinstalled s ih.2.1
    rw [henable] at hrole hkeys
    exact ⟨hrole, hkeys, ih.2.2⟩
  | @dumped enabled s s' operation format archive _ hdump ih =>
    obtain ⟨hlisteners, hs'⟩ := archive_looks rules ih.2.1 ih.1 hdump
    refine ⟨hs'.toHasRole, ?_, ih.2.2⟩
    rw [hlisteners]
    exact ih.2.1

end

/-! ## What is not executed again -/

/-- The first letters of a statement. -/
def start (sql : String) : List Char := sql.toList.take 5

lemma start_ofList (l : List Char) : start (String.ofList l) = l.take 5 := by
  unfold start
  rw [String.toList_ofList]

lemma start_append {l : List Char} (h : 5 ≤ l.length) (rest : String) :
    start (String.ofList l ++ rest) = l.take 5 := by
  unfold start
  rw [String.toList_append, String.toList_ofList, List.take_append_of_le_length h]

lemma start_lookup (oid : Int32) :
    start (arrayTypeLookupSql oid) = ['S', 'E', 'L', 'E', 'C'] := by
  unfold arrayTypeLookupSql
  rw [String.append_assoc, String.append_assoc, String.append_assoc, String.append_assoc]
  exact start_append (by decide) _

lemma start_setRole (role : String) :
    start s!"SET ROLE {quoteIdentifier role}" = ['S', 'E', 'T', ' ', 'R'] :=
  start_append (by decide) _

lemma start_listen (channel : String) :
    start s!"LISTEN {quoteIdentifier channel}" = ['L', 'I', 'S', 'T', 'E'] :=
  start_append (by decide) _

lemma start_unlisten (channel : String) :
    start s!"UNLISTEN {quoteIdentifier channel}" = ['U', 'N', 'L', 'I', 'S'] :=
  start_append (by decide) _

lemma start_checkpoint : start "CHECKPOINT" = ['C', 'H', 'E', 'C', 'K'] := start_ofList _

/-- Two bundled extensions have session setup statements. -/
lemma sessionSetup_cases : ∀ extension ∈ Extension.candidates,
    extensionSessionSetupSql extension = [] ∨
    extensionSessionSetupSql extension = extensionSessionSetupSql .candidateAge ∨
    extensionSessionSetupSql extension = extensionSessionSetupSql .candidateAutoExplain := by
  decide

/-- They load a library or set a parameter that is not the role. -/
lemma start_sessionSetup {extension : Extension} (hmem : extension ∈ Extension.candidates)
    {sql : String} (hsql : sql ∈ extensionSessionSetupSql extension) :
    start sql = ['L', 'O', 'A', 'D', ' '] ∨ start sql = ['S', 'E', 'T', ' ', 's'] ∨
      start sql = ['S', 'E', 'T', ' ', 'a'] := by
  rcases sessionSetup_cases extension hmem with hnone | hage | hexplain
  · rw [hnone] at hsql
    simp at hsql
  · rw [hage] at hsql
    simp only [extensionSessionSetupSql, Extension.candidateAge, List.cons_append, List.nil_append,
      List.mem_cons, List.not_mem_nil, or_false] at hsql
    rcases hsql with rfl | rfl
    · exact Or.inl (start_ofList _)
    · exact Or.inr (Or.inl (start_ofList _))
  · rw [hexplain] at hsql
    simp only [extensionSessionSetupSql, Extension.candidateAutoExplain, List.append_nil,
      List.mem_cons, List.not_mem_nil, or_false] at hsql
    rcases hsql with rfl | rfl | rfl | rfl
    · exact Or.inl (start_ofList _)
    · exact Or.inr (Or.inr (start_ofList _))
    · exact Or.inr (Or.inr (start_ofList _))
    · exact Or.inr (Or.inr (start_ofList _))

/-- The setup statements of an extension create it, or belong to the session. -/
lemma start_setup {extension : Extension} (hmem : extension ∈ Extension.candidates) {sql : String}
    (hsql : sql ∈ extensionSetupSql extension) :
    start sql = ['C', 'R', 'E', 'A', 'T'] ∨ start sql = ['L', 'O', 'A', 'D', ' '] ∨
      start sql = ['S', 'E', 'T', ' ', 's'] ∨ start sql = ['S', 'E', 'T', ' ', 'a'] := by
  unfold extensionSetupSql at hsql
  rw [List.append_assoc, List.mem_append] at hsql
  rcases hsql with hcreate | hsession
  · left
    split at hcreate
    · rcases List.mem_append.mp hcreate with hschema | hextension
      · obtain ⟨schema, -, hschema⟩ := Option.map_eq_some_iff.mp (Option.mem_toList.mp hschema)
        rw [← hschema]
        show start ("CREATE SCHEMA IF NOT EXISTS " ++ quoteIdentifier schema ++ ";") = _
        rw [String.append_assoc]
        exact start_append (by decide) _
      · rw [List.mem_singleton.mp hextension]
        show start ("CREATE EXTENSION IF NOT EXISTS " ++ quoteIdentifier extension.sqlName
          ++ _ ++ ";") = _
        rw [String.append_assoc, String.append_assoc]
        exact start_append (by decide) _
    · simp at hcreate
  · exact Or.inr (start_sessionSetup hmem hsession)

/-- How the statements of a dump begin. -/
lemma Restoring.start_mem {sql : String} (h : Restoring (.query sql)) :
    start sql ∈ [['C', 'H', 'E', 'C', 'K'], ['S', 'E', 'L', 'E', 'C'], ['S', 'E', 'T', ' ', 'R'],
      ['L', 'I', 'S', 'T', 'E']] := by
  generalize hrequest : Request.query sql = request at h
  cases h with
  | checkpoint =>
    rw [Request.query.inj hrequest, start_checkpoint]
    decide
  | lookup oid =>
    rw [Request.query.inj hrequest, start_lookup]
    decide
  | setRole role =>
    rw [Request.query.inj hrequest, start_setRole]
    decide
  | listen channel =>
    rw [Request.query.inj hrequest, start_listen]
    decide

/-- No session setup statement is sent by a dump. -/
lemma not_restoring_sessionSetup {extension : Extension} (hmem : extension ∈ Extension.candidates)
    {sql : String} (hsql : sql ∈ extensionSessionSetupSql extension) :
    ¬ Restoring (.query sql) := by
  intro h
  have hdump := h.start_mem
  rcases start_sessionSetup hmem hsql with hstart | hstart | hstart
  · rw [hstart] at hdump
    exact absurd hdump (by decide)
  · rw [hstart] at hdump
    exact absurd hdump (by decide)
  · rw [hstart] at hdump
    exact absurd hdump (by decide)

/-- What a dump promises the session: the role it had, the channels with a listener, and the
session setup of the enabled extensions, executed since the dump began. -/
structure Restored (view : SessionView σ) (identifier : String → String)
    (enabled : List Extension) (s s' : Session σ) : Prop where
  role : view.role s'.db.backend = view.role s.db.backend
  listening : view.listening s'.db.backend = identifier '' channelsOf s'
  setup : ∃ sent, s'.history = s.history ++ sent ∧ ∀ extension ∈ enabled,
    ∀ sql ∈ extensionSessionSetupSql extension,
      ∃ e ∈ sent, e.request = .query sql ∧ ∃ result, e.outcome.result = .ok result

/-- **A dump restores the session exactly when no enabled extension has session setup
statements**: the role and the channels come back, the setup statements do not. -/
theorem session_restored_iff (rules : RestoreRules build b host view identifier startRole Neutral)
    {enabled : List Extension}
    (hrun : SessionRun build b host stack view startRole Neutral enabled s)
    {operation : String} {format : DataDirArchiveFormat} {archive : Bytes}
    (h : archiveQuiescedPgdata build b stack operation format s = (s', .ok archive)) :
    Restored view identifier enabled s s' ↔
      ∀ extension ∈ enabled, extensionSessionSetupSql extension = [] := by
  obtain ⟨hrole, hkeys, henabled⟩ := hrun.hasRole rules
  obtain ⟨hlisteners, hs'⟩ := archive_looks rules hkeys hrole h
  obtain ⟨sent, hsent, hrestoring⟩ := archive_sent h
  constructor
  · intro hrestored extension hmem
    obtain ⟨sent', hsent', hsetup⟩ := hrestored.setup
    have heq : sent' = sent := List.append_cancel_left (hsent'.symm.trans hsent)
    apply List.eq_nil_iff_forall_not_mem.mpr
    intro sql hsql
    obtain ⟨e, he, hrequest, -⟩ := hsetup extension hmem sql hsql
    rw [heq] at he
    have hdump : Restoring e.request := hrestoring e he
    rw [hrequest] at hdump
    exact not_restoring_sessionSetup (henabled extension hmem) hsql hdump
  · intro hnone
    refine ⟨hs'.role.trans hrole.role.symm, hs'.listening, sent, hsent, ?_⟩
    intro extension hmem sql hsql
    rw [hnone extension hmem] at hsql
    simp at hsql

lemma not_restored_of_requests {enabled : List Extension} {requests : List Request}
    (hsent : (s'.history.drop s.history.length).map (·.request) = requests) {extension : Extension}
    (hmem : extension ∈ enabled) {sql : String} (hsql : sql ∈ extensionSessionSetupSql extension)
    (hnot : .query sql ∉ requests) : ¬ Restored view identifier enabled s s' := by
  intro hrestored
  obtain ⟨sent, hhistory, hsetup⟩ := hrestored.setup
  obtain ⟨e, he, hrequest, -⟩ := hsetup extension hmem sql hsql
  apply hnot
  rw [← hsent, hhistory, List.drop_left, ← hrequest]
  exact List.mem_map_of_mem he

end Session

/-! ## A backend with two extensions -/

namespace KnownBackend

/-- The statements it accepts besides those of `NewsBackend`. -/
def known : List String :=
  "CHECKPOINT" :: extensionSetupSql .candidateVector ++ extensionSetupSql .candidateAge

def backend : Backend Bool :=
  { NewsBackend.backend with
    sendBuffered := fun s message c =>
      if message ∈ known.map fun sql => (Request.query sql).bytes then
        (s, .ok (OneTable.completed "OK"))
      else NewsBackend.backend.sendBuffered s message c }

/-- Every extension is bundled, and files are not part of the state. -/
def host : ExtensionHost Bool where
  extensionArchive _ := some []
  installBundledExtensionBytes s _ _ := (s, .ok ())
  preloadExtensionModule s _ := (s, .ok ())

def view : SessionView Bool where
  role _ := "postgres"
  listening := NewsBackend.listening
  settled _ := True

def Neutral (sql : String) : Prop := sql ≠ NewsBackend.listenSql ∧ sql ≠ NewsBackend.unlistenSql

lemma after_eq (s : Bool) (request : Request) (c : Option DataTransferContainer) :
    backend.after s request c
      = if request.bytes ∈ known.map fun sql => (Request.query sql).bytes then s
        else NewsBackend.backend.after s request c := by
  show (if _ then _ else _ : Bool × Except Error Bytes).1 = _
  split <;> rfl

lemma response_eq (s : Bool) (request : Request) (c : Option DataTransferContainer) :
    backend.response s request c
      = if request.bytes ∈ known.map fun sql => (Request.query sql).bytes then
          .ok (OneTable.completed "OK")
        else NewsBackend.backend.response s request c := by
  show (if _ then _ else _ : Bool × Except Error Bytes).2 = _
  split <;> rfl

lemma start_known {sql : String} (hsql : sql ∈ known) : Session.start sql ∉
    [['L', 'I', 'S', 'T', 'E'], ['U', 'N', 'L', 'I', 'S'], ['S', 'E', 'T', ' ', 'R']] := by
  have hvector : Extension.candidateVector ∈ Extension.candidates := by
    simp [Extension.candidates]
  have hage : Extension.candidateAge ∈ Extension.candidates := by
    simp [Extension.candidates]
  unfold known at hsql
  rw [List.cons_append, List.mem_cons, List.mem_append] at hsql
  rcases hsql with rfl | hsql | hsql
  · rw [Session.start_checkpoint]
    decide
  · rcases Session.start_setup hvector hsql with hstart | hstart | hstart | hstart <;>
      rw [hstart] <;> decide
  · rcases Session.start_setup hage hsql with hstart | hstart | hstart | hstart <;>
      rw [hstart] <;> decide

lemma not_known {sql : String} (h : Session.start sql ∈
    [['L', 'I', 'S', 'T', 'E'], ['U', 'N', 'L', 'I', 'S'], ['S', 'E', 'T', ' ', 'R']]) :
    (Request.query sql).bytes ∉ known.map fun sql => (Request.query sql).bytes := by
  intro hmem
  obtain ⟨text, htext, hbytes⟩ := List.mem_map.mp hmem
  rw [OneTable.query_bytes_inj.mp hbytes] at htext
  exact start_known htext h

lemma start_listenSql : Session.start NewsBackend.listenSql = ['L', 'I', 'S', 'T', 'E'] :=
  Session.start_listen "news"

lemma neutral_of_start {sql : String} {letters : List Char} (h : Session.start sql = letters)
    (hlisten : letters ≠ ['L', 'I', 'S', 'T', 'E'])
    (hunlisten : letters ≠ ['U', 'N', 'L', 'I', 'S']) : Neutral sql := by
  refine ⟨fun heq => hlisten ?_, fun heq => hunlisten ?_⟩
  · rw [← h, heq]
    exact start_listenSql
  · rw [← h, heq]
    exact Session.start_unlisten "news"

lemma neutral_setup {extension : Extension} (hmem : extension ∈ Extension.candidates) {sql : String}
    (hsql : sql ∈ extensionSetupSql extension) : Neutral sql := by
  rcases Session.start_setup hmem hsql with hstart | hstart | hstart | hstart
  · exact neutral_of_start hstart (by decide) (by decide)
  · exact neutral_of_start hstart (by decide) (by decide)
  · exact neutral_of_start hstart (by decide) (by decide)
  · exact neutral_of_start hstart (by decide) (by decide)

/-- What is neither `LISTEN` nor `UNLISTEN` changes nothing. -/
lemma same (s : Bool) {request : Request} (c : Option DataTransferContainer)
    (hlisten : request.bytes ≠ (Request.query NewsBackend.listenSql).bytes)
    (hunlisten : request.bytes ≠ (Request.query NewsBackend.unlistenSql).bytes) :
    view.Same s (backend.after s request c) := by
  have hafter : backend.after s request c = s := by
    rw [after_eq]
    split
    · rfl
    · rw [NewsBackend.after_eq, if_neg hlisten, if_neg hunlisten]
  rw [hafter]
  exact ⟨trivial, rfl, rfl⟩

lemma wellFormed : backend.WellFormed := by
  intro s request c data h
  rw [response_eq] at h
  split at h
  · rw [← Except.ok.inj h]
    have hframes : ∀ f ∈ [Serialize.frame codeCommandComplete (Serialize.cstring "OK"), readyFrame],
        backendFraming.IsFrame f ∧ (frameMessage ⟨false⟩ f).isSome := by
      decide
    exact wellFormedResponse_of_frames ⟨false⟩ (fun f hf => (hframes f hf).1) fun f hf =>
      (hframes f hf).2
  · exact NewsBackend.wellFormed s request c data h

/-- A statement that neither backend knows. -/
lemma not_accepts {s : Bool} {sql : String} {c : Option DataTransferContainer}
    (hstart : Session.start sql ∈
      [['L', 'I', 'S', 'T', 'E'], ['U', 'N', 'L', 'I', 'S'], ['S', 'E', 'T', ' ', 'R']])
    (hsql : Neutral sql) : ¬ backend.Accepts ⟨false⟩ s (.query sql) c := by
  rintro ⟨data, hdata, haccepted⟩
  rw [response_eq, if_neg (not_known hstart), NewsBackend.response_eq,
    if_neg (NewsBackend.query_ne hsql.1), if_neg (NewsBackend.query_ne hsql.2),
    Except.ok.injEq] at hdata
  rw [← hdata] at haccepted
  exact haccepted OneTable.rejected_failed

lemma listening_after_listen (s : Bool) (c : Option DataTransferContainer) :
    view.listening (backend.after s (.query NewsBackend.listenSql) c)
      = insert "news" (view.listening s) := by
  have hafter : backend.after s (.query NewsBackend.listenSql) c = true := by
    have hnot : (Request.query NewsBackend.listenSql).bytes
        ∉ known.map fun sql => (Request.query sql).bytes := by
      apply not_known
      rw [start_listenSql]
      decide
    rw [after_eq, if_neg hnot, NewsBackend.after_eq, if_pos rfl]
  rw [hafter]
  ext channel
  constructor
  · exact fun h => Or.inl h.2
  · rintro (h | h)
    · exact ⟨rfl, h⟩
    · exact ⟨rfl, h.2⟩

lemma restoreRules : RestoreRules ⟨false⟩ backend host view id "postgres" Neutral where
  wellFormed := wellFormed
  neutral s sql c _ hsql := same s c (NewsBackend.query_ne hsql.1) (NewsBackend.query_ne hsql.2)
  parse s sql types c _ _ := by
    refine same s c ?_ ?_ <;>
      simp [Request.bytes, Serialize.parse, Serialize.query, Serialize.frame, Serialize.codeParse,
        Serialize.codeQuery]
  bind s values c _ := by
    refine same s c ?_ ?_ <;>
      simp [Request.bytes, Serialize.bind, Serialize.query, Serialize.frame, Serialize.codeBind,
        Serialize.codeQuery]
  listen _ _ _ _ := ⟨trivial, rfl⟩
  listen_accepted s channel c _ haccepts := by
    by_cases hchannel : s!"LISTEN {quoteIdentifier channel}" = NewsBackend.listenSql
    · rw [hchannel, NewsBackend.listenSql_eq hchannel]
      exact listening_after_listen s c
    · refine absurd haccepts (not_accepts ?_ ⟨hchannel, ?_⟩)
      · rw [Session.start_listen]
        decide
      · exact NewsBackend.listen_ne_unlisten channel "news"
  unlisten _ _ _ _ := ⟨trivial, rfl⟩
  setRole_accepted s role c _ haccepts := by
    refine absurd haccepts (not_accepts ?_ ?_)
    · rw [Session.start_setRole]
      decide
    · exact neutral_of_start (Session.start_setRole role) (by decide) (by decide)
  restart s s' h := by
    have hs' : s' = false := (congrArg Prod.fst h).symm
    refine ⟨trivial, rfl, ?_⟩
    rw [hs']
    ext channel
    exact ⟨fun h => absurd h.1 (by simp), fun h => h.elim⟩
  createBlobDir _ _ := ⟨trivial, rfl, rfl⟩
  writeBlob _ _ _ := ⟨trivial, rfl, rfl⟩
  removeBlob _ _ := ⟨trivial, rfl, rfl⟩
  install _ _ _ _ := ⟨trivial, rfl, rfl⟩
  preload _ _ _ := ⟨trivial, rfl, rfl⟩
  hashOrder _ _ := Iff.rfl
  lookup oid := neutral_of_start (Session.start_lookup oid) (by decide) (by decide)
  arrayTypes := by
    have hstart : Session.start Session.arrayTypesSql = ['\n', ' ', ' ', ' ', ' '] := by
      unfold Session.arrayTypesSql
      rw [String.append_assoc, String.append_assoc, String.append_assoc, String.append_assoc]
      exact Session.start_append (by decide) _
    exact neutral_of_start hstart (by decide) (by decide)
  checkpoint := neutral_of_start Session.start_checkpoint (by decide) (by decide)
  setup _ hmem _ hsql := neutral_setup hmem hsql

end KnownBackend

namespace Session

open KnownBackend

/-- A client that listens on `news` and has enabled an extension. -/
def enabledSession (extension : Extension) : Session Bool :=
  (enable ⟨false⟩ backend host 3 false extension
    (call ⟨false⟩ backend 3 (.listen "news" 7) (.opened [] [] false)).1).1

lemma sessionRun_enabled {extension : Extension} (hmem : extension ∈ Extension.candidates)
    (hok : (enable ⟨false⟩ backend host 3 false extension
      (call ⟨false⟩ backend 3 (.listen "news" 7) (.opened [] [] false)).1).2.toOption = some ()) :
    SessionRun ⟨false⟩ backend host 3 view "postgres" Neutral [extension]
      (enabledSession extension) := by
  have hopened : SessionRun ⟨false⟩ backend host 3 view "postgres" Neutral []
      (.opened [] [] false) := .opened [] [] trivial rfl rfl
  have hlistened : SessionRun ⟨false⟩ backend host 3 view "postgres" Neutral []
      (call ⟨false⟩ backend 3 (.listen "news" 7) (.opened [] [] false)).1 :=
    .called hopened trivial
  exact .enabled hlistened hmem (Prod.ext rfl (Outcome.toOption_eq_some.mp hok))

/-- The session of a client after a dump. -/
def dumpedSession (extension : Extension) : Session Bool :=
  (archiveQuiescedPgdata ⟨false⟩ backend 3 "dump PGDATA archive" .tar
    (enabledSession extension)).1

lemma dumpedSession_eq {extension : Extension}
    (hok : (archiveQuiescedPgdata ⟨false⟩ backend 3 "dump PGDATA archive" .tar
      (enabledSession extension)).2.toOption = some []) :
    archiveQuiescedPgdata ⟨false⟩ backend 3 "dump PGDATA archive" .tar (enabledSession extension)
      = (dumpedSession extension, .ok []) :=
  Prod.ext rfl (Outcome.toOption_eq_some.mp hok)

/-- With `vector` enabled, a dump restores the session. -/
theorem session_restored_vector :
    (dumpedSession .candidateVector).db.ready = true ∧
      Restored view id [.candidateVector] (enabledSession .candidateVector)
        (dumpedSession .candidateVector) := by
  have hmem : Extension.candidateVector ∈ Extension.candidates := by decide +kernel
  have hdump : archiveQuiescedPgdata ⟨false⟩ backend 3 "dump PGDATA archive" .tar
      (enabledSession .candidateVector) = (dumpedSession .candidateVector, .ok []) :=
    dumpedSession_eq (by decide +kernel)
  have hrun : SessionRun ⟨false⟩ backend host 3 view "postgres" Neutral [.candidateVector]
      (enabledSession .candidateVector) := sessionRun_enabled hmem (by decide +kernel)
  have hready : (dumpedSession .candidateVector).db.ready = true := by decide +kernel
  exact ⟨hready, (session_restored_iff restoreRules hrun hdump).mpr (by decide +kernel)⟩

/-- **With `age` enabled it does not**: the new session has not loaded the extension. -/
theorem session_not_restored_age :
    SessionRun ⟨false⟩ backend host 3 view "postgres" Neutral [.candidateAge]
        (enabledSession .candidateAge) ∧
      archiveQuiescedPgdata ⟨false⟩ backend 3 "dump PGDATA archive" .tar
        (enabledSession .candidateAge) = (dumpedSession .candidateAge, .ok []) ∧
      ¬ Restored view id [.candidateAge] (enabledSession .candidateAge)
        (dumpedSession .candidateAge) := by
  have hmem : Extension.candidateAge ∈ Extension.candidates := by decide +kernel
  -- what was sent since the dump began
  have hrequests : ((dumpedSession .candidateAge).history.drop
      (enabledSession .candidateAge).history.length).map (·.request)
        = [.query "CHECKPOINT", .query NewsBackend.listenSql] := by
    decide +kernel
  have hsql : "LOAD 'age';" ∈ extensionSessionSetupSql .candidateAge := by decide +kernel
  exact ⟨sessionRun_enabled hmem (by decide +kernel), dumpedSession_eq (by decide +kernel),
    not_restored_of_requests hrequests List.mem_cons_self hsql (by decide +kernel)⟩

end Session

end PgliteOxide.Pglite
