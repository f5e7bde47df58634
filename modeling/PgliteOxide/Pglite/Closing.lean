import PgliteOxide.Pglite.Ledger
import Mathlib.Data.List.Infix
import Mathlib.Data.List.TakeWhile

/-!
# After `Terminate` and `CancelRequest`

`handle_stream` only looks at its close flag once all messages of a read are handled, so a closing
frame is the last thing it acts on exactly when nothing complete follows it in the same read. In
runs where that holds: what is forwarded comes from before the closing frame, nothing happens
after it but the cleanup, and the bytes forwarded do not depend on how the stream was cut into
reads (`closing_frame_is_last`).
-/

namespace PgliteOxide.Pglite

open Lib Prog

/-! ## Frames before a closing one -/

/-- The protocol frames before the first closing frame. -/
def protocolBefore (frames : List Bytes) : List Bytes :=
  (frames.takeWhile fun m => !closes m).filter isProtocol

/-- Only the last frame may close. -/
def ClosesLast (frames : List Bytes) : Prop := ∀ m ∈ frames.dropLast, closes m = false

lemma isProtocol_of_closes {message : Bytes} (h : closes message = true) :
    isProtocol message = false := by
  unfold closes at h
  unfold isProtocol
  split at h <;> simp_all

lemma ClosesLast.of_forall {frames : List Bytes} (h : ∀ m ∈ frames, closes m = false) :
    ClosesLast frames :=
  fun m hm => h m (List.dropLast_subset _ hm)

lemma ClosesLast.of_append {frames more : List Bytes} (h : ClosesLast (frames ++ more)) :
    ClosesLast frames := by
  intro m hm
  apply h
  cases more with
  | nil => rwa [List.append_nil]
  | cons b more =>
    rw [List.dropLast_append_cons]
    exact List.mem_append_left _ (List.dropLast_subset _ hm)

/-- What something follows does not close. -/
lemma ClosesLast.of_mem_append {frames more : List Bytes} (h : ClosesLast (frames ++ more))
    (hne : more ≠ []) : ∀ m ∈ frames, closes m = false := by
  intro m hm
  apply h
  rw [List.dropLast_append_of_ne_nil hne]
  exact List.mem_append_left _ hm

/-- Nothing follows a closing frame. -/
lemma ClosesLast.eq_nil {handled rest : List Bytes} {message : Bytes}
    (h : ClosesLast (handled ++ message :: rest)) (hcloses : closes message = true) : rest = [] := by
  by_contra hne
  rw [List.append_cons] at h
  have hopen := h.of_mem_append hne message (by simp)
  rw [hopen] at hcloses
  cases hcloses

/-- A closing frame at the end is no protocol frame, so all protocol frames are before it. -/
lemma ClosesLast.filter_eq {frames : List Bytes} (h : ClosesLast frames) :
    frames.filter isProtocol = protocolBefore frames := by
  unfold protocolBefore
  rcases List.eq_nil_or_concat frames with rfl | ⟨init, last, rfl⟩
  · rfl
  · rw [List.concat_eq_append] at h ⊢
    rw [List.takeWhile_append_of_pos (by simpa [ClosesLast] using h)]
    cases hlast : closes last with
    | false => simp [hlast]
    | true => simp [hlast, isProtocol_of_closes hlast]

lemma protocolBefore_append {frames : List Bytes} (hclose : ∃ m ∈ frames, closes m = true)
    (more : List Bytes) : protocolBefore (frames ++ more) = protocolBefore frames := by
  unfold protocolBefore
  rw [List.takeWhile_append, if_neg]
  intro hlen
  have hall := List.IsPrefix.eq_of_length (List.takeWhile_prefix _) hlen
  obtain ⟨m, hm, hcloses⟩ := hclose
  have := List.takeWhile_eq_self_iff.mp hall m hm
  simp [hcloses] at this

lemma protocolBefore_mono {frames frames' : List Bytes} (h : frames <+: frames') :
    protocolBefore frames <+: protocolBefore frames' := by
  obtain ⟨more, rfl⟩ := h
  apply List.IsPrefix.filter
  rw [List.takeWhile_append]
  split_ifs with hlen
  · rw [List.IsPrefix.eq_of_length (List.takeWhile_prefix _) hlen]
    exact List.prefix_append _ _
  · exact List.prefix_rfl

/-- The frames received. -/
def framesOf (tr : Trace) : List Bytes := (frontendFraming.cut (received tr)).frames

lemma Ledger.framesOf_eq {tr : Trace} {st : StreamState} {handled rest held : List Bytes}
    {groups : List (List Bytes)} (h : Ledger tr st handled rest groups held) :
    framesOf tr = handled ++ rest := by
  rw [framesOf, h.framed]

/-- Nothing after the first closing frame was handed to a backend. -/
def ForwardsBefore (tr : Trace) : Prop :=
  (∃ m ∈ framesOf tr, closes m = true) →
    (footprint tr).payloads.flatten <+: (protocolBefore (framesOf tr)).flatten

lemma forwardsBefore_of_handled {tr : Trace} (handled : List Bytes)
    (hpre : handled <+: framesOf tr) (hlast : ClosesLast handled)
    (hpayloads : (footprint tr).payloads.flatten <+: (handled.filter isProtocol).flatten) :
    ForwardsBefore tr := by
  intro _
  rw [hlast.filter_eq] at hpayloads
  exact hpayloads.trans (protocolBefore_mono hpre).flatten

/-! ## Runs in which closing frames come last -/

/-- The frames of a read in which only the last may close. -/
def readClosesLast (st : StreamState) (bytes : Bytes) : Bool :=
  match (st.reader.push bytes).2 with
  | .ok messages => messages.dropLast.all fun m => !closes m
  | .error _ => true

/-- A closing frame is the last complete one of its read, and no backend takes over the stream
with a closing frame among the bytes already read. -/
def closingLast : Connection → Trace → Prop
  | .reading st, tr => (footprint tr).reads.all (readClosesLast st) = true
  | .handling _ (_ :: rest) _, tr => tr.any handover = true → rest.any closes = false
  | _, _ => True

instance : (c : Connection) → (tr : Trace) → Decidable (closingLast c tr)
  | .reading st, tr => inferInstanceAs (Decidable ((footprint tr).reads.all (readClosesLast st) = true))
  | .handling _ (_ :: rest) _, tr =>
    inferInstanceAs (Decidable (tr.any handover = true → rest.any closes = false))
  | .handling _ [] _, _ | .returned _, _ => inferInstanceAs (Decidable True)

/-- The books of a run in which closing frames come last; `dropped` are the frames a startup that
was turned away left behind. -/
def Orderly (tr : Trace) : Connection → Prop
  | .reading st => ∃ handled groups held, Ledger tr st handled [] groups held ∧
      ∀ m ∈ handled, closes m = false
  | .handling st messages close => ∃ handled dropped groups held,
      Ledger tr st handled (messages ++ dropped) groups held ∧
      ClosesLast (handled ++ (messages ++ dropped)) ∧
      (close = false → dropped = [] ∧ ∀ m ∈ handled, closes m = false) ∧
      (dropped ≠ [] → messages = [])
  | .returned _ => ForwardsBefore tr

section

variable {proxy : PgliteProxy} {tr tr' : Trace} {st : StreamState} {c' : Connection}

lemma received_eq_nil (h : (footprint tr).reads = []) : received tr = [] := by
  rw [received, h, List.flatten_nil]

lemma framesOf_append_of_reads (h : (footprint tr').reads = []) :
    framesOf (tr ++ tr') = framesOf tr := by
  rw [framesOf, received_append, received_eq_nil h, List.append_nil, framesOf]

/-- The frames read once more are those read before and the new ones. -/
lemma closesLast_of_read {handled messages : List Bytes} {bytes : Bytes}
    {reader : FrontendFrameReader} (hhandled : ∀ m ∈ handled, closes m = false)
    (hpush : st.reader.push bytes = (reader, .ok messages))
    (hlast : readClosesLast st bytes = true) : ClosesLast (handled ++ messages) := by
  have hmessages : ∀ m ∈ messages.dropLast, closes m = false := by
    simpa [readClosesLast, hpush] using hlast
  intro m hm
  by_cases hnil : messages = []
  · rw [hnil, List.append_nil] at hm
    exact hhandled m (List.dropLast_subset _ hm)
  · rw [List.dropLast_append_of_ne_nil hnil] at hm
    rcases List.mem_append.mp hm with hm | hm
    · exact hhandled m hm
    · exact hmessages m hm

/-- From reading: whatever comes, the frames before it were handled. -/
lemma orderly_reading (hI : Orderly tr (.reading st)) (turn : Turn proxy (.reading st) tr' c')
    (hlast : closingLast (.reading st) tr') : Orderly (tr ++ tr') c' := by
  obtain ⟨handled, groups, held, hledger, hopen⟩ := hI
  have hpre : handled <+: framesOf (tr ++ tr') := by
    have hframes := hledger.framesOf_eq
    rw [List.append_nil] at hframes
    rw [← hframes, framesOf, framesOf, received_append]
    exact frontendFraming.frames_prefix_append _ _
  -- what a turn can send is the batch
  have hsent : ∀ payloads, (footprint tr').payloads = payloads →
      (payloads = [] ∨ payloads = [st.protocolBatch]) → ForwardsBefore (tr ++ tr') := by
    intro payloads hfoot hpayloads
    apply forwardsBefore_of_handled handled hpre (.of_forall hopen)
    rw [← hledger.payloads_append_batch, footprint_append, Footprint.payloads_append, hfoot,
      List.flatten_append]
    rcases hpayloads with rfl | rfl
    · simp
    · simp
  cases turn with
  | readFailed hfoot | badFrame hfoot => exact hsent [] (by rw [hfoot]) (Or.inl rfl)
  | ended hfoot => exact hsent _ (by rw [hfoot]) (unlessEmpty_cases _)
  | endFailed hfoot hpayloads => exact hsent _ (by rw [hfoot]) hpayloads
  | @framed st tr' bytes reader messages hfoot hne hpush hfine =>
    refine ⟨handled, [], groups, held, ?_, ?_, ?_, by simp⟩
    · rw [List.append_nil]
      exact hledger.read hfoot hpush
    · rw [List.append_nil]
      apply closesLast_of_read hopen hpush
      simpa [closingLast, hfoot] using hlast
    · intro _
      exact ⟨rfl, hopen⟩

/-- The books after one message, when the next is handled in turn. -/
lemma orderly_next {st' : StreamState} {message : Bytes} {rest handled held : List Bytes}
    {groups : List (List Bytes)} {close : Bool}
    (hledger : Ledger (tr ++ tr') st' (handled ++ [message]) rest groups held)
    (hlast : ClosesLast (handled ++ message :: rest))
    (hopen : close = false → closes message = false ∧ ∀ m ∈ handled, closes m = false) :
    Orderly (tr ++ tr') (.handling st' rest close) := by
  refine ⟨handled ++ [message], [], groups, held, ?_, ?_, ?_, by simp⟩
  · rwa [List.append_nil]
  · rw [List.append_nil, List.append_assoc, List.singleton_append]
    exact hlast
  · intro hclose
    obtain ⟨hmessage, hhandled⟩ := hopen hclose
    refine ⟨rfl, List.forall_mem_append.mpr ⟨hhandled, ?_⟩⟩
    intro m hm
    rw [List.mem_singleton.mp hm]
    exact hmessage

/-- A message. -/
lemma orderly_message {message : Bytes} {rest : List Bytes} {close : Bool}
    (hI : Orderly tr (.handling st (message :: rest) close))
    (turn : Turn proxy (.handling st (message :: rest) close) tr' c')
    (hhand : closingLast (.handling st (message :: rest) close) tr') : Orderly (tr ++ tr') c' := by
  obtain ⟨handled, dropped, groups, held, hledger, hlast, hopen, hdropped⟩ := hI
  obtain rfl : dropped = [] := by
    by_contra hne
    cases hdropped hne
  rw [List.append_nil] at hledger hlast
  have hhandled : close = false → ∀ m ∈ handled, closes m = false := fun h => (hopen h).2
  cases turn with
  | @sslRefused _ _ _ _ gone _ _ _ _ hkind hfoot =>
    have hskip := hledger.skip (isProtocol_eq_false hkind (by decide))
    obtain ⟨groups', hledger'⟩ := hskip.flushed (received_eq_nil (by rw [hfoot])) (by rw [hfoot])
    apply orderly_next hledger' hlast
    intro hclose
    exact ⟨closes_eq_false hkind (by decide), hhandled (Bool.or_eq_false_iff.mp hclose).1⟩
  | closing hkind hfoot =>
    have hskip : Ledger tr st (handled ++ [message]) rest groups held := by
      apply hledger.skip
      rcases hkind with hkind | hkind <;> exact isProtocol_eq_false hkind (by decide)
    obtain ⟨groups', hledger'⟩ := hskip.flushed (received_eq_nil (by rw [hfoot])) (by rw [hfoot])
    apply orderly_next hledger' hlast
    intro hclose
    cases hclose
  | accepted hkind _ _ hfoot =>
    have hskip := hledger.skip (isProtocol_eq_false hkind (by decide))
    have hquiet := hskip.quiet tr' (received_eq_nil (by rw [hfoot])) (by rw [hfoot])
    apply orderly_next (hquiet.setBackend _) hlast
    intro hclose
    exact ⟨closes_eq_false hkind (by decide), hhandled hclose⟩
  | turnedAway hkind _ hrest hfoot =>
    have hskip := hledger.skip (isProtocol_eq_false hkind (by decide))
    have hquiet := hskip.quiet tr' (received_eq_nil (by rw [hfoot])) (by rw [hfoot])
    rcases hrest with rfl | rfl
    · -- the other messages of the read are dropped
      refine ⟨handled ++ [message], rest, groups, held, hquiet, ?_, by simp, by simp⟩
      rw [List.nil_append, List.append_assoc, List.singleton_append]
      exact hlast
    · apply orderly_next hquiet hlast
      intro hclose
      cases hclose
  | held hkind _ hfoot =>
    have hhold := hledger.hold (isProtocol_eq_true.mpr hkind)
    have hquiet := hhold.quiet tr' (received_eq_nil (by rw [hfoot])) (by rw [hfoot])
    apply orderly_next hquiet hlast
    intro hclose
    exact ⟨closes_eq_false hkind (by decide), hhandled hclose⟩
  | sent hkind _ hfoot =>
    obtain ⟨groups', hledger'⟩ := hledger.sent (isProtocol_eq_true.mpr hkind)
      (received_eq_nil (by rw [hfoot])) (by rw [hfoot])
    apply orderly_next hledger' hlast
    intro hclose
    exact ⟨closes_eq_false hkind (by decide), hhandled hclose⟩
  | streamed hkind hfoot hhandover =>
    -- the frames handed over do not close, nor do those something follows
    intro ⟨m, hm, hcloses⟩
    exfalso
    have hframes : framesOf (tr ++ tr') = handled ++ message :: rest := by
      rw [framesOf_append_of_reads (by rw [hfoot])]
      exact hledger.framesOf_eq
    have hnone : rest.any closes = false := by
      apply hhand
      obtain ⟨e, he, -, hhandover⟩ := hhandover
      exact List.any_eq_true.mpr ⟨e, he, hhandover⟩
    rw [hframes] at hm
    rcases List.mem_append.mp hm with hm | hm
    · rw [hlast.of_mem_append (List.cons_ne_nil _ _) m hm] at hcloses
      cases hcloses
    · rcases List.mem_cons.mp hm with rfl | hm
      · rw [closes_eq_false hkind (by decide)] at hcloses
        cases hcloses
      · exact List.any_eq_false.mp hnone m hm hcloses
  | messageFailed hreads _ hsent =>
    have hframes : framesOf (tr ++ tr') = handled ++ message :: rest := by
      rw [framesOf_append_of_reads hreads]
      exact hledger.framesOf_eq
    have hsplit : handled ++ message :: rest = handled ++ [message] ++ rest := by simp
    rcases hsent with hsent | hsent | ⟨hkind, hsent⟩
    · apply forwardsBefore_of_handled handled
      · rw [hframes]
        exact List.prefix_append _ _
      · exact hlast.of_append
      · rw [← hledger.payloads_append_batch]
        simp [hsent]
    · apply forwardsBefore_of_handled handled
      · rw [hframes]
        exact List.prefix_append _ _
      · exact hlast.of_append
      · rw [← hledger.payloads_append_batch]
        simp [hsent]
    · have hhold := hledger.hold (isProtocol_eq_true.mpr hkind)
      apply forwardsBefore_of_handled (handled ++ [message])
      · rw [hframes, hsplit]
        exact List.prefix_append _ _
      · rw [hsplit] at hlast
        exact hlast.of_append
      · rw [← hhold.payloads_append_batch]
        simp [hsent]

/-- The end of a turn. -/
lemma orderly_end {close : Bool} (hI : Orderly tr (.handling st [] close))
    (turn : Turn proxy (.handling st [] close) tr' c') : Orderly (tr ++ tr') c' := by
  obtain ⟨handled, dropped, groups, held, hledger, hlast, hopen, -⟩ := hI
  rw [List.nil_append] at hledger hlast
  -- nothing is read or sent at the end of a turn
  have hforwards : (footprint tr').reads = [] → (footprint tr').payloads = [] →
      ForwardsBefore (tr ++ tr') := by
    intro hreads hpayloads
    apply forwardsBefore_of_handled handled _ hlast.of_append
    · rw [footprint_append, Footprint.payloads_append, hpayloads, List.append_nil,
        ← hledger.payloads_append_batch]
      exact List.prefix_append _ _
    · rw [(hledger.quiet tr' (received_eq_nil hreads) hpayloads).framesOf_eq]
      exact List.prefix_append _ _
  cases turn with
  | goOn hfoot =>
    obtain ⟨rfl, hhandled⟩ := hopen rfl
    exact ⟨handled, groups, held, hledger.quiet tr' (received_eq_nil (by rw [hfoot])) (by rw [hfoot]),
      hhandled⟩
  | finished hfoot => exact hforwards (by rw [hfoot]) (by rw [hfoot])
  | flushFailed hfoot => exact hforwards (by rw [hfoot]) (by rw [hfoot])

lemma orderly_turn {c : Connection} (hI : Orderly tr c) (turn : Turn proxy c tr' c')
    (hlast : closingLast c tr') : Orderly (tr ++ tr') c' := by
  match c, hI, turn, hlast with
  | .reading _, hI, turn, hlast => exact orderly_reading hI turn hlast
  | .handling _ [] _, hI, turn, _ => exact orderly_end hI turn
  | .handling _ (_ :: _) _, hI, turn, hlast => exact orderly_message hI turn hlast

lemma orderly_of_run {c : Connection}
    (run : (handleStream proxy).Run closingLast (.reading .initial) tr c) : Orderly tr c := by
  apply run_invariant (I := Orderly) _ _ run
  · exact ⟨[], [], [], Ledger.initial, by simp⟩
  · intro _ _ _ _ hI turn hlast
    exact orderly_turn hI turn hlast

/-- Once the connection is to be closed and all messages are handled, backends are closed and
nothing else happens. -/
lemma footprint_of_closed {P : Connection → Trace → Prop} {c₀ c : Connection}
    (hc₀ : (∃ st, c₀ = .handling st [] true) ∨ ∃ result, c₀ = .returned result)
    (run : (handleStream proxy).Run P c₀ tr c) :
    ∃ backends, footprint tr = { closed := backends } := by
  have hI : (∃ st, c = .handling st [] true) ∧ footprint tr = {} ∨
      (∃ result, c = .returned result) ∧ ∃ backends, footprint tr = { closed := backends } := by
    apply run_invariant (I := fun tr c => (∃ st, c = .handling st [] true) ∧ footprint tr = {} ∨
      (∃ result, c = .returned result) ∧ ∃ backends, footprint tr = { closed := backends }) _ _ run
    · rcases hc₀ with hc₀ | hc₀
      · exact Or.inl ⟨hc₀, rfl⟩
      · exact Or.inr ⟨hc₀, [], rfl⟩
    · intro tr tr' c c' hI turn _
      rcases hI with ⟨⟨st, rfl⟩, hfoot⟩ | ⟨⟨result, rfl⟩, -⟩
      · right
        cases turn with
        | finished hfoot' =>
          exact ⟨⟨_, rfl⟩, st.backend.toList, by rw [footprint_append, hfoot, hfoot']; rfl⟩
        | flushFailed hfoot' => exact ⟨⟨_, rfl⟩, [], by rw [footprint_append, hfoot, hfoot']; rfl⟩
      · cases turn
  rcases hI with ⟨-, hfoot⟩ | ⟨-, hfoot⟩
  · exact ⟨[], hfoot⟩
  · exact hfoot

/-- Handling a closing frame that is the last of its read leaves nothing to handle. -/
lemma closed_after_closing {message : Bytes} {rest : List Bytes} {close : Bool}
    (run : (handleStream proxy).Run closingLast (.reading .initial) tr
      (.handling st (message :: rest) close))
    (hcloses : closes message = true)
    (turn : Turn proxy (.handling st (message :: rest) close) tr' c') :
    (∃ st', c' = .handling st' [] true) ∨ ∃ result, c' = .returned result := by
  obtain ⟨handled, dropped, groups, held, hledger, hlast, -⟩ := orderly_of_run run
  have hrest : rest = [] := (List.append_eq_nil_iff.mp (hlast.eq_nil hcloses)).1
  subst hrest
  cases turn with
  | sslRefused hkind | accepted hkind | turnedAway hkind | held hkind | sent hkind =>
    rw [closes_eq_false hkind (by decide)] at hcloses
    cases hcloses
  | closing => exact Or.inl ⟨_, rfl⟩
  | streamed | messageFailed => exact Or.inr ⟨_, rfl⟩

/-! ## Runs in which nothing goes wrong -/

/-- A closing frame comes last, nothing is fatal, and everything is answered as hoped. -/
def undisturbed (proxy : PgliteProxy) (c : Connection) (tr : Trace) : Prop :=
  closingLast c tr ∧ fine proxy c tr = true ∧ ∀ e ∈ tr, smooth e = true

instance (c : Connection) (tr : Trace) : Decidable (undisturbed proxy c tr) :=
  inferInstanceAs (Decidable (_ ∧ _ ∧ _))

/-- The books of such a run: it has sent everything when it returns. -/
def Prompt (tr : Trace) : Connection → Prop
  | .reading st => ∃ handled groups held, Ledger tr st handled [] groups held ∧
      ∀ m ∈ handled, closes m = false
  | .handling st messages close => ∃ handled groups held, Ledger tr st handled messages groups held ∧
      ClosesLast (handled ++ messages) ∧
      (close = false → ∀ m ∈ handled, closes m = false) ∧
      (close = true → messages = [] ∧ held = [] ∧ ∃ m ∈ handled, closes m = true)
  | .returned _ =>
      (footprint tr).payloads.flatten = (protocolBefore (framesOf tr)).flatten ∧
      ((∃ m ∈ framesOf tr, closes m = true) ∨ [] ∈ (footprint tr).reads)

/-- The books after one message. -/
lemma prompt_next {st' : StreamState} {message : Bytes} {rest handled held : List Bytes}
    {groups : List (List Bytes)} {kind : FrontendFrameKind}
    (hledger : Ledger (tr ++ tr') st' (handled ++ [message]) rest groups held)
    (hlast : ClosesLast (handled ++ message :: rest)) (hopen : ∀ m ∈ handled, closes m = false)
    (hkind : classifyFrontendMessage message = .ok kind)
    (hne : kind ≠ .terminate ∧ kind ≠ .cancelRequest) :
    Prompt (tr ++ tr') (.handling st' rest false) := by
  refine ⟨handled ++ [message], groups, held, hledger, ?_, ?_, by simp⟩
  · rw [List.append_assoc, List.singleton_append]
    exact hlast
  · intro _
    refine List.forall_mem_append.mpr ⟨hopen, ?_⟩
    intro m hm
    rw [List.mem_singleton.mp hm]
    exact closes_eq_false hkind hne

/-- Everything handled is sent when the books are closed with an empty batch. -/
lemma prompt_returned {handled : List Bytes} {groups : List (List Bytes)}
    (hledger : Ledger tr st handled [] groups []) (hlast : ClosesLast handled)
    (hend : (∃ m ∈ handled, closes m = true) ∨ [] ∈ (footprint tr).reads)
    (result : Except ProxyError Unit) : Prompt tr (.returned result) := by
  have hframes := hledger.framesOf_eq
  rw [List.append_nil] at hframes
  constructor
  · rw [hframes, ← hlast.filter_eq, ← hledger.payloads_append_batch, ← hledger.batch]
    simp
  · rw [hframes]
    exact hend

lemma prompt_message {message : Bytes} {rest : List Bytes} {close : Bool}
    (hI : Prompt tr (.handling st (message :: rest) close))
    (turn : Turn proxy (.handling st (message :: rest) close) tr' c')
    (hfine : fine proxy (.handling st (message :: rest) close) tr' = true)
    (hsmooth : ∀ e ∈ tr', smooth e = true) : Prompt (tr ++ tr') c' := by
  obtain ⟨handled, groups, held, hledger, hlast, hopen, hclosed⟩ := hI
  obtain rfl : close = false := by
    by_contra hclose
    cases (hclosed (by simpa using hclose)).1
  have hrough : ∀ {p : Prop}, (∃ e ∈ tr', smooth e = false) → p := by
    intro p ⟨e, he, hrough⟩
    rw [hsmooth e he] at hrough
    cases hrough
  specialize hopen rfl
  cases turn with
  | sslRefused hkind hfoot _ _ hgone =>
    have hskip := hledger.skip (isProtocol_eq_false hkind (by decide))
    obtain ⟨groups', hledger'⟩ := hskip.flushed (received_eq_nil (by rw [hfoot])) (by rw [hfoot])
    rcases hgone with ⟨rfl, -⟩ | ⟨-, -, hbad⟩
    · exact prompt_next hledger' hlast hopen hkind (by decide)
    · exact hrough hbad
  | closing hkind hfoot =>
    have hcloses : closes message = true := by
      rcases hkind with hkind | hkind <;> simp [closes, hkind]
    have hskip := hledger.skip (isProtocol_of_closes hcloses)
    obtain ⟨groups', hledger'⟩ := hskip.flushed (received_eq_nil (by rw [hfoot])) (by rw [hfoot])
    refine ⟨handled ++ [message], groups', [], hledger', ?_, by simp, ?_⟩
    · rw [List.append_assoc, List.singleton_append]
      exact hlast
    · intro _
      exact ⟨hlast.eq_nil hcloses, rfl, message, by simp, hcloses⟩
  | accepted hkind _ _ hfoot =>
    have hskip := hledger.skip (isProtocol_eq_false hkind (by decide))
    have hquiet := hskip.quiet tr' (received_eq_nil (by rw [hfoot])) (by rw [hfoot])
    exact prompt_next (hquiet.setBackend _) hlast hopen hkind (by decide)
  | turnedAway _ _ _ _ hbad => exact hrough hbad
  | held hkind _ hfoot =>
    have hhold := hledger.hold (isProtocol_eq_true.mpr hkind)
    have hquiet := hhold.quiet tr' (received_eq_nil (by rw [hfoot])) (by rw [hfoot])
    exact prompt_next hquiet hlast hopen hkind (by decide)
  | sent hkind _ hfoot =>
    obtain ⟨groups', hledger'⟩ := hledger.sent (isProtocol_eq_true.mpr hkind)
      (received_eq_nil (by rw [hfoot])) (by rw [hfoot])
    exact prompt_next hledger' hlast hopen hkind (by decide)
  | streamed _ _ hbad => exact hrough (hbad.imp fun e he => ⟨he.1, he.2.1⟩)
  | messageFailed _ _ _ hbad =>
    rw [hbad] at hfine
    cases hfine

lemma prompt_turn {c : Connection} (hI : Prompt tr c) (turn : Turn proxy c tr' c')
    (hgood : undisturbed proxy c tr') : Prompt (tr ++ tr') c' := by
  obtain ⟨hlast, hfine, hsmooth⟩ := hgood
  match c, hI, turn with
  | .handling _ (_ :: _) _, hI, turn => exact prompt_message hI turn hfine hsmooth
  | .handling st [] close, hI, turn =>
    obtain ⟨handled, groups, held, hledger, hcloses, hopen, hclosed⟩ := hI
    rw [List.append_nil] at hcloses
    cases turn with
    | goOn hfoot =>
      exact ⟨handled, groups, held,
        hledger.quiet tr' (received_eq_nil (by rw [hfoot])) (by rw [hfoot]), hopen rfl⟩
    | finished hfoot =>
      obtain ⟨-, rfl, hend⟩ := hclosed rfl
      exact prompt_returned (hledger.quiet tr' (received_eq_nil (by rw [hfoot])) (by rw [hfoot]))
        hcloses (Or.inl hend) _
    | flushFailed _ hbad =>
      rw [hbad] at hfine
      cases hfine
  | .reading st, hI, turn =>
    obtain ⟨handled, groups, held, hledger, hopen⟩ := hI
    cases turn with
    | readFailed _ hbad | badFrame _ hbad | endFailed _ _ hbad =>
      rw [hbad] at hfine
      cases hfine
    | @framed _ _ bytes reader messages hfoot hne hpush =>
      refine ⟨handled, groups, held, hledger.read hfoot hpush, ?_, fun _ => hopen, by simp⟩
      apply closesLast_of_read hopen hpush
      simpa [closingLast, hfoot] using hlast
    | ended hfoot =>
      have hreceived : received tr' = [] := by simp [received, hfoot]
      obtain ⟨groups', hledger'⟩ := hledger.flushed hreceived (by rw [hfoot])
      refine prompt_returned hledger' (.of_forall hopen) (Or.inr ?_) _
      simp [hfoot]

/-- The reads of a run are the beginning of the client's stream, and the end is only reported at
the end. -/
def Delivers (stream : Bytes) (tr : Trace) : Prop :=
  received tr <+: stream ∧ ([] ∈ (footprint tr).reads → received tr = stream)

/-- What is forwarded in the end depends on the stream only. -/
lemma payloads_of_undisturbed {stream : Bytes} {result : Except ProxyError Unit}
    (run : (handleStream proxy).Run (undisturbed proxy) (.reading .initial) tr (.returned result))
    (hstream : Delivers stream tr) :
    (footprint tr).payloads.flatten
      = (protocolBefore (frontendFraming.cut stream).frames).flatten := by
  have hI : Prompt tr (.returned result) := by
    apply run_invariant (I := Prompt) _ _ run
    · exact ⟨[], [], [], Ledger.initial, by simp⟩
    · intro _ _ _ _ hI turn hgood
      exact prompt_turn hI turn hgood
  obtain ⟨hpayloads, hend⟩ := hI
  rw [hpayloads]
  rcases hend with hcloses | hend
  · obtain ⟨more, hmore⟩ := hstream.1
    obtain ⟨later, hlater⟩ := frontendFraming.frames_prefix_append (received tr) more
    rw [← hmore, ← hlater]
    exact (congrArg List.flatten (protocolBefore_append hcloses later)).symm
  · rw [← hstream.2 hend]
    rfl

end

/-! ## The theorem -/

lemma forwardsBefore_of_run {proxy : PgliteProxy} {tr : Trace} {c : Connection}
    (run : (handleStream proxy).Run closingLast (.reading .initial) tr c) : ForwardsBefore tr := by
  have hI := orderly_of_run run
  match c, hI with
  | .returned _, hI => exact hI
  | .reading st, hI =>
    obtain ⟨handled, groups, held, hledger, hopen⟩ := hI
    apply forwardsBefore_of_handled handled _ (.of_forall hopen)
    · rw [← hledger.payloads_append_batch]
      exact List.prefix_append _ _
    · rw [hledger.framesOf_eq]
      exact List.prefix_append _ _
  | .handling st messages close, hI =>
    obtain ⟨handled, dropped, groups, held, hledger, hlast, -⟩ := hI
    apply forwardsBefore_of_handled handled _ hlast.of_append
    · rw [← hledger.payloads_append_batch]
      exact List.prefix_append _ _
    · rw [hledger.framesOf_eq]
      exact List.prefix_append _ _

/-- **A closing frame is the last thing a connection acts on**, in every run in which it is the
last complete frame of its read and no backend takes over the stream before it in that read.
Nothing after it is forwarded; once it is handled nothing is read, forwarded, opened or written;
and if nothing goes wrong, the bytes forwarded in the end depend on the client's stream only and
not on the reads it came in. -/
theorem closing_frame_is_last (proxy : PgliteProxy) :
    (∀ tr c, (handleStream proxy).Run closingLast (.reading .initial) tr c → ForwardsBefore tr) ∧
    (∀ tr st message rest close,
      (handleStream proxy).Run closingLast (.reading .initial) tr
        (.handling st (message :: rest) close) →
      closes message = true →
      ∀ tr₁ r, (handleMessage proxy st message rest close).Exec tr₁ r →
      ∀ tr₂ c, (handleStream proxy).Run closingLast ((handleStream proxy).settle r) tr₂ c →
        ∃ backends, footprint tr₂ = { closed := backends }) ∧
    ∀ stream tr result,
      (handleStream proxy).Run (undisturbed proxy) (.reading .initial) tr (.returned result) →
      Delivers stream tr →
      (footprint tr).payloads.flatten
        = (protocolBefore (frontendFraming.cut stream).frames).flatten := by
  refine ⟨?_, ?_, ?_⟩
  · intro tr c run
    exact forwardsBefore_of_run run
  · intro tr st message rest close run hcloses tr₁ r exec tr₂ c run₂
    have hnext : (handleStream proxy).next (.handling st (message :: rest) close)
        = some (handleMessage proxy st message rest close) := rfl
    have turn := exec.of_wp (turn_of_next proxy hnext)
    exact footprint_of_closed (closed_after_closing run hcloses turn) run₂
  · intro stream tr result run hstream
    exact payloads_of_undisturbed run hstream

/-- `Terminate`. -/
def terminateMessage : Bytes := [88, 0, 0, 0, 4]

/-- A query without text. -/
def queryMessage : Bytes := [81, 0, 0, 0, 5, 0]

/-- A client that starts up, asks and terminates. -/
def askAndTerminate : List Trace :=
  letIn ++
    [ [⟨.read, .ok (queryMessage ++ terminateMessage)⟩],
      [⟨.sendWithProtocolPump .protocolMessage 0 queryMessage terminateMessage, .ok (.buffered [])⟩],
      [],
      [⟨.flush true, .ok ()⟩,
        ⟨.send .resetSessionState 0 (simpleQueryMessage "ROLLBACK"), .ok []⟩,
        ⟨.send .resetSessionState 0 (simpleQueryMessage "DISCARD ALL"), .ok []⟩, ⟨.close 0, ()⟩] ]

theorem closing_frame_is_last_terminate :
    (footprint askAndTerminate.flatten).payloads.flatten
      = (protocolBefore
          (frontendFraming.cut (plainStartup ++ (queryMessage ++ terminateMessage))).frames).flatten :=
  (closing_frame_is_last plainProxy).2.2 _ askAndTerminate.flatten (.ok ())
    (Machine.run_of_replay_start (by decide)) ⟨by decide, by decide⟩

/-- A query that comes in one read after a `Terminate` is still forwarded. -/
theorem query_after_terminate :
    ¬ ∀ (proxy : PgliteProxy) (tr : Trace) (c : Connection),
      (handleStream proxy).Run (fun _ _ => True) (.reading .initial) tr c → ForwardsBefore tr := by
  intro h
  have hrun : (handleStream plainProxy).Run (fun _ _ => True) (.reading .initial)
      (letIn ++ [[(⟨.read, .ok (terminateMessage ++ queryMessage)⟩ : Event Op Answer)], [],
        [⟨.sendWithProtocolPump .protocolMessage 0 queryMessage [], .ok (.buffered [])⟩]]).flatten
      (.handling { backend := some 0, reader := .default, protocolBatch := [] } [] true) :=
    Machine.run_of_replay_start (by decide)
  have hframes :
      (frontendFraming.cut (plainStartup ++ (terminateMessage ++ (queryMessage ++ [])))).frames
      = [plainStartup, terminateMessage, queryMessage] := by
    rw [frontendFraming.cut_cons_frame (show frontendFraming.IsFrame plainStartup by decide),
      frontendFraming.cut_cons_frame (show frontendFraming.IsFrame terminateMessage by decide),
      frontendFraming.cut_cons_frame (show frontendFraming.IsFrame queryMessage by decide),
      frontendFraming.cut_of_more rfl]
    rfl
  have hforwards := h _ _ _ hrun
  rw [ForwardsBefore, framesOf] at hforwards
  change (∃ m ∈
      (frontendFraming.cut (plainStartup ++ (terminateMessage ++ (queryMessage ++ [])))).frames,
    closes m = true) → queryMessage <+: (protocolBefore (frontendFraming.cut (plainStartup ++
      (terminateMessage ++ (queryMessage ++ [])))).frames).flatten at hforwards
  rw [hframes] at hforwards
  exact absurd (hforwards (by decide)) (by decide)

end PgliteOxide.Pglite
