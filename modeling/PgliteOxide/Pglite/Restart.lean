import PgliteOxide.Pglite.ListenerMap

/-!
# Dumps restart the backend

How `archive_quiesced_pgdata` can end: before the backend was touched, with a backend that could
not be shut down, with a new session, or with a client that is closed because there is none.
-/

namespace PgliteOxide.Pglite

open Lib Protocol

namespace Session

variable {σ : Type} (build : Build) (b : Backend σ) (stack : ℕ)

/-- Restarting the backend and restoring its session. -/
def restartSession (operation : String) : Method σ Unit :=
  context s!"restart backend after {operation}" do
    callBackend b.restart
    restoreSessionStateAfterBackendRestart build b stack

/-- The session after the backend was told to shut down. -/
def afterShutdown (s : Session σ) : Session σ :=
  { s with
    quiesced := s.quiesced ++ [s.db.backend]
    db := { s.db with backend := (b.shutdown s.db.backend).1 } }

/-- The session of a client without a backend. -/
def asClosed (s : Session σ) : Session σ :=
  { s with db := { s.db with ready := false, closed := true } }

variable (operation : String) (format : DataDirArchiveFormat)

/-- How `archive_quiesced_pgdata` ends, when it does not panic. -/
inductive Archived (s : Session σ) : Session σ → Outcome ClientError Bytes → Prop
  | notCheckpointed {t : Session σ} {e : ClientError}
      (hcheckpoint : checkpointBackendForPhysicalSnapshot build b stack operation s = (t, .err e)) :
      Archived s t (.err e)
  | notShutDown {t : Session σ} {err : Error} {e : ClientError}
      (hcheckpoint : checkpointBackendForPhysicalSnapshot build b stack operation s = (t, .ok ()))
      (hshutdown : (b.shutdown t.db.backend).2 = .error err) :
      Archived s (t.afterShutdown b) (.err e)
  | restarted {t s' : Session σ} {o : Outcome ClientError Bytes}
      (hcheckpoint : checkpointBackendForPhysicalSnapshot build b stack operation s = (t, .ok ()))
      (hshutdown : (b.shutdown t.db.backend).2 = .ok ())
      (hrestart : restartSession build b stack operation (t.afterShutdown b) = (s', .ok ()))
      (ho : ∀ archive, o = .ok archive ↔
        b.dumpPgdataArchive (t.afterShutdown b).db.backend format = .ok archive) :
      Archived s s' o
  | notRestarted {t s' : Session σ} {err e : ClientError}
      (hcheckpoint : checkpointBackendForPhysicalSnapshot build b stack operation s = (t, .ok ()))
      (hshutdown : (b.shutdown t.db.backend).2 = .ok ())
      (hrestart : restartSession build b stack operation (t.afterShutdown b) = (s', .err err)) :
      Archived s s'.asClosed (.err e)

variable {build b stack operation format}

/-- `backend.shutdown`, and what it says. -/
lemma quiesceBackend_eq (text : String) (s : Session σ) :
    context text (quiesceBackend b) s = (s.afterShutdown b,
      match (b.shutdown s.db.backend).2 with
      | .ok u => .ok u
      | .error err => .err (.context text (.protocol err))) := by
  have hcall : quiesceBackend b s = (s.afterShutdown b,
      match (b.shutdown s.db.backend).2 with
      | .ok u => .ok u
      | .error err => .err (.protocol err)) := by
    unfold quiesceBackend
    rw [Stateful.bind_of_ok (show Stateful.modify _ s
      = ({ s with quiesced := s.quiesced ++ [s.db.backend] }, .ok ()) from rfl)]
    unfold callBackend afterShutdown
    rcases b.shutdown s.db.backend with ⟨backend, err | u⟩ <;> rfl
  unfold context Stateful.mapErr
  rw [hcall]
  cases (b.shutdown s.db.backend).2 <;> rfl

/-- What `archive_quiesced_pgdata` makes of the archive and the restart. -/
def finishArchive (operation : String) (archive : Except Error Bytes)
    (restart : Except ClientError Unit) : Method σ Bytes :=
  let archiveErr (err : Error) : ClientError :=
    .context s!"materialize physical PGDATA archive for {operation}" (.protocol err)
  match archive, restart with
  | .ok archive, .ok () => return archive
  | .error err, .ok () => Stateful.fail (archiveErr err)
  | .ok _, .error err => do
    setDb fun db => { db with ready := false, closed := true }
    Stateful.fail err
  | .error err, .error restartErr => do
    setDb fun db => { db with ready := false, closed := true }
    Stateful.fail (.restartFailed operation restartErr (archiveErr err))

/-- The part after the shutdown. -/
lemma archived_of_restart {s t s' : Session σ} {o : Outcome ClientError Bytes}
    (hcheckpoint : checkpointBackendForPhysicalSnapshot build b stack operation s = (t, .ok ()))
    (hshutdown : (b.shutdown t.db.backend).2 = .ok ())
    (h : ((restartSession build b stack operation).attempt >>= finishArchive operation
      (b.dumpPgdataArchive (t.afterShutdown b).db.backend format)) (t.afterShutdown b) = (s', o))
    (ho : o ≠ .panic) : Archived build b stack operation format s s' o := by
  rcases hrestart : restartSession build b stack operation (t.afterShutdown b)
    with ⟨t', u | err | _⟩
  · have hattempt : ((restartSession build b stack operation).attempt :
        Method σ (Except ClientError Unit)) (t.afterShutdown b) = (t', .ok (.ok u)) := by
      unfold Stateful.attempt
      rw [hrestart]
    rw [Stateful.bind_of_ok hattempt] at h
    cases harchive : b.dumpPgdataArchive (t.afterShutdown b).db.backend format with
    | ok archive =>
      rw [harchive] at h
      have heq : (t', Outcome.ok archive) = (s', o) := h
      simp only [Prod.mk.injEq] at heq
      rw [← heq.1, ← heq.2]
      exact .restarted hcheckpoint hshutdown hrestart (by simp [harchive])
    | error err =>
      rw [harchive] at h
      have heq : (t', Outcome.err _) = (s', o) := h
      simp only [Prod.mk.injEq] at heq
      rw [← heq.1, ← heq.2]
      exact .restarted hcheckpoint hshutdown hrestart (by simp [harchive])
  · have hattempt : ((restartSession build b stack operation).attempt :
        Method σ (Except ClientError Unit)) (t.afterShutdown b) = (t', .ok (.error err)) := by
      unfold Stateful.attempt
      rw [hrestart]
    rw [Stateful.bind_of_ok hattempt] at h
    have heq : ∃ e, (t'.asClosed, Outcome.err e) = (s', o) := by
      cases harchive : b.dumpPgdataArchive (t.afterShutdown b).db.backend format with
      | ok archive =>
        rw [harchive] at h
        exact ⟨_, h⟩
      | error err' =>
        rw [harchive] at h
        exact ⟨_, h⟩
    obtain ⟨e, heq⟩ := heq
    simp only [Prod.mk.injEq] at heq
    rw [← heq.1, ← heq.2]
    exact .notRestarted hcheckpoint hshutdown hrestart
  · have hattempt : ((restartSession build b stack operation).attempt :
        Method σ (Except ClientError Unit)) (t.afterShutdown b) = (t', .panic) := by
      unfold Stateful.attempt
      rw [hrestart]
    rw [Stateful.bind_of_panic hattempt] at h
    exact absurd (congrArg Prod.snd h).symm ho

/-- **`archive_quiesced_pgdata` ends in one of these ways.** -/
lemma archived_of_eq {s s' : Session σ} {o : Outcome ClientError Bytes}
    (h : archiveQuiescedPgdata build b stack operation format s = (s', o)) (ho : o ≠ .panic) :
    Archived build b stack operation format s s' o := by
  unfold archiveQuiescedPgdata at h
  rcases hcheckpoint : checkpointBackendForPhysicalSnapshot build b stack operation s
    with ⟨t, u | e | _⟩
  · rw [Stateful.bind_of_ok hcheckpoint] at h
    have hquiesce := quiesceBackend_eq (b := b) s!"quiesce backend before {operation}" t
    cases hshutdown : (b.shutdown t.db.backend).2 with
    | error err =>
      rw [hshutdown] at hquiesce
      rw [Stateful.bind_of_err hquiesce] at h
      simp only [Prod.mk.injEq] at h
      rw [← h.1, ← h.2]
      exact .notShutDown hcheckpoint hshutdown
    | ok v =>
      rw [hshutdown] at hquiesce
      rw [Stateful.bind_of_ok hquiesce, Stateful.bind_of_ok (show getDb (t.afterShutdown b)
        = (t.afterShutdown b, .ok (t.afterShutdown b).db) from rfl)] at h
      exact archived_of_restart hcheckpoint hshutdown h ho
  · rw [Stateful.bind_of_err hcheckpoint] at h
    simp only [Prod.mk.injEq] at h
    rw [← h.1, ← h.2]
    exact .notCheckpointed hcheckpoint
  · rw [Stateful.bind_of_panic hcheckpoint] at h
    exact absurd (congrArg Prod.snd h).symm ho

/-! ## The checkpoint and the restart -/

lemma SteadyFrame.keeps_checkpoint {I : Session σ → Prop} {A : Request → Prop}
    (h : SteadyFrame build b I A) (hsql : A (.query "CHECKPOINT")) (stack : ℕ)
    (operation : String) :
    (checkpointBackendForPhysicalSnapshot build b stack operation).Keeps I := by
  refine keeps_getDb.bind fun db => keeps_bail.ite ?_
  exact (keeps_context (h.keeps_exec hsql none)).bind fun _ => .pure _

/-- The listeners stay through a restart. -/
lemma restartSession_state (build : Build) (hwf : b.WellFormed) (stack : ℕ) (operation : String)
    (s : Session σ) (hparser : s.db.parser = Parser.new) :
    SameListeners s (restartSession build b stack operation s).1 ∧
      (restartSession build b stack operation s).1.db.parser = Parser.new := by
  have hkeeps (I : Session σ → Prop) (hI : SteadyFrame build b I fun _ => True)
      (hrestart : ∀ s, I s → I (s.withBackend (b.restart s.db.backend).1)) :
      (restartSession build b stack operation).Keeps I := by
    refine keeps_context ((keeps_callBackend hrestart).bind fun _ => ?_)
    exact hI.keeps_restoreSessionState (fun _ => trivial) fun _ => trivial
  refine ⟨hkeeps _ (steadyFrame_sameListeners build b s) ?_ s (.refl s),
    hkeeps _ (steadyFrame_drained hwf) (fun _ h => h) s hparser⟩
  exact fun _ h => ⟨h.notifyListeners, h.nextListenerId, h.ready⟩

/-- A restart that returns has a new session and has restored it. -/
lemma restartSession_eq_ok {s s' : Session σ}
    (h : restartSession build b stack operation s = (s', .ok ())) :
    ∃ backend, b.restart s.db.backend = (backend, .ok ()) ∧
      restoreSessionStateAfterBackendRestart build b stack (s.withBackend backend)
        = (s', .ok ()) := by
  unfold restartSession context at h
  rw [Stateful.mapErr_eq_ok, Stateful.bind_eq_ok] at h
  obtain ⟨t, u, hrestart, hrestore⟩ := h
  unfold callBackend at hrestart
  rcases hr : b.restart s.db.backend with ⟨backend, err | _⟩
  · simp [hr] at hrestart
  · rw [hr] at hrestart
    have ht : t = s.withBackend backend := (congrArg Prod.fst hrestart).symm
    rw [ht] at hrestore
    exact ⟨backend, rfl, hrestore⟩

end Session

end PgliteOxide.Pglite
