import PgliteOxide.Protocol.PacketFormat
import PgliteOxide.Protocol.ParserTheorems

/-!
# Feeding a parser chunk by chunk

`feed` is a run of `Parser::parse` calls on one parser. Where parsing the whole input at once
succeeds, cutting it into chunks changes nothing (`feed_eq_parse`). Where it does not, the first
call that meets the offending frame and every later call end the same way, so whether a run
panics is a property of the bytes alone; `feed_never_panics_iff` says which bytes.
-/

namespace PgliteOxide.Protocol

open Lib

section

variable {σ : Type}

/-- A run of calls: the parser and the callback's state at the end, and how each call ended. -/
structure FeedResult (σ : Type) where
  parser : Parser
  state : σ
  outcomes : List (Outcome Error Unit)

/-- Successive `parse` calls on one parser. -/
def feed (build : Build) (callback : σ → BackendMessage → σ × Except Error Unit) :
    Parser → σ → List Bytes → FeedResult σ
  | p, s, [] => { parser := p, state := s, outcomes := [] }
  | p, s, c :: cs =>
    let r := p.parse build callback c s
    let rest := feed build callback r.parser r.state cs
    { rest with outcomes := r.outcome :: rest.outcomes }

variable (build : Build) (callback : σ → BackendMessage → σ × Except Error Unit)

/-! ## Chunk invariance -/

/-- What a call that returns `Ok` says about its buffer. -/
lemma parseResult_eq_ok {b : Bytes} {s : σ}
    (h : (parseResult build callback b s).outcome = .ok ()) :
    (backendFraming.cut b).error = none ∧
      deliver build callback (backendFraming.cut b).frames s
        = ((parseResult build callback b s).state, .ok ()) ∧
      (parseResult build callback b s).parser = ⟨(backendFraming.cut b).rest⟩ := by
  unfold parseResult at h ⊢
  rcases hd : deliver build callback (backendFraming.cut b).frames s with ⟨s', ⟨⟩ | e | _⟩
  · simp only [hd] at h ⊢
    cases herr : (backendFraming.cut b).error with
    | none => simp
    | some e => simp [herr] at h
  · simp [hd] at h
  · simp [hd] at h

lemma parseResult_of_deliver {b : Bytes} {s s' : σ} (herr : (backendFraming.cut b).error = none)
    (hd : deliver build callback (backendFraming.cut b).frames s = (s', .ok ())) :
    parseResult build callback b s = ⟨⟨(backendFraming.cut b).rest⟩, s', .ok ()⟩ := by
  simp only [parseResult, hd, herr]

/-- A front of input that parses, parses. -/
lemma parseResult_front {b c : Bytes} {s : σ}
    (h : (parseResult build callback (b ++ c) s).outcome = .ok ()) :
    (parseResult build callback b s).outcome = .ok () := by
  obtain ⟨herr, hd, -⟩ := parseResult_eq_ok build callback h
  have herrb := backendFraming.error_of_append herr
  rw [backendFraming.cut_append herrb c, Cut.prepend_frames, deliver_append] at hd
  rcases hb : deliver build callback (backendFraming.cut b).frames s with ⟨s', ⟨⟩ | e | _⟩
  · rw [parseResult_of_deliver build callback herrb hb]
  · simp [hb] at hd
  · simp [hb] at hd

/-- Parsing on, from what a front of the input left, is parsing all of it. -/
lemma parseResult_append {b c : Bytes} {s : σ}
    (h : (parseResult build callback (b ++ c) s).outcome = .ok ()) :
    parseResult build callback ((backendFraming.cut b).rest ++ c)
        (parseResult build callback b s).state
      = parseResult build callback (b ++ c) s := by
  obtain ⟨herr, hd, -⟩ := parseResult_eq_ok build callback h
  obtain ⟨herrb, hb, -⟩ := parseResult_eq_ok build callback (parseResult_front build callback h)
  rw [parseResult_of_deliver build callback herr hd]
  rw [backendFraming.cut_append herrb c] at herr hd ⊢
  rw [Cut.prepend_frames, deliver_append, hb] at hd
  exact parseResult_of_deliver build callback herr hd

/-- The calls on the chunks behind a front `b` of the input. -/
lemma feed_from_front (b : Bytes) (s : σ) (chunks : List Bytes)
    (h : (parseResult build callback (b ++ chunks.flatten) s).outcome = .ok ()) :
    let whole := parseResult build callback (b ++ chunks.flatten) s
    let front := parseResult build callback b s
    let fed := feed build callback front.parser front.state chunks
    fed.parser = whole.parser ∧ fed.state = whole.state ∧ ∀ o ∈ fed.outcomes, o = .ok () := by
  induction chunks generalizing b with
  | nil =>
    rw [List.flatten_nil, List.append_nil]
    exact ⟨rfl, rfl, by simp [feed]⟩
  | cons c cs ih =>
    rw [List.flatten_cons, ← List.append_assoc] at h ⊢
    have hbc := parseResult_front build callback h
    obtain ⟨-, -, hrest⟩ := parseResult_eq_ok build callback (parseResult_front build callback hbc)
    obtain ⟨hp, hs, ho⟩ := ih (b ++ c) h
    simp only [feed, parse_eq, hrest, parseResult_append build callback hbc]
    refine ⟨hp, hs, ?_⟩
    intro o hmem
    rcases List.mem_cons.mp hmem with rfl | hmem
    · exact hbc
    · exact ho o hmem

/-- **Chunk invariance.** Where a fresh parser succeeds on a whole input, feeding the input in
any chunks succeeds call by call, leaves the callback in the same state (for `collect`: the same
messages in the same order) and leaves the same bytes: those after the last complete frame. -/
theorem feed_eq_parse (s₀ : σ) (chunks : List Bytes)
    (hok : (Parser.new.parse build callback chunks.flatten s₀).outcome = .ok ()) :
    let whole := Parser.new.parse build callback chunks.flatten s₀
    let fed := feed build callback Parser.new s₀ chunks
    (∀ o ∈ fed.outcomes, o = .ok ()) ∧ fed.state = whole.state ∧ fed.parser = whole.parser ∧
      ∃ frames : List Bytes, (∀ f ∈ frames, backendFraming.IsFrame f) ∧
        chunks.flatten = frames.flatten ++ fed.parser.buffer ∧
        backendFraming.scan fed.parser.buffer = .more := by
  simp only [parse_eq, Parser.new, List.nil_append] at hok ⊢
  obtain ⟨herr, -, hbuffer⟩ := parseResult_eq_ok build callback hok
  obtain ⟨hp, hs, ho⟩ := feed_from_front build callback [] s₀ chunks hok
  have hnil : parseResult build callback [] s₀ = ⟨⟨[]⟩, s₀, .ok ()⟩ := by
    have hcut := backendFraming.cut_of_more (b := []) rfl
    exact parseResult_of_deliver build callback (by rw [hcut]) (by rw [hcut]; rfl) |>.trans
      (by rw [hcut])
  rw [hnil] at hp hs ho
  refine ⟨ho, hs, hp, (backendFraming.cut chunks.flatten).frames, ?_, ?_, ?_⟩
  · exact fun f hf => backendFraming.isFrame_of_mem_cut hf
  · rw [hp, List.nil_append, hbuffer, backendFraming.cut_flatten]
  · rw [hp, List.nil_append, hbuffer]
    exact backendFraming.scan_rest herr

end

/-- Two messages cut inside the first header, the second still incomplete. -/
theorem feed_eq_parse_two_chunks :
    (feed ⟨false⟩ collect Parser.new [] [[49, 0], [], [0, 0, 4, 90, 0]]).state
      = [.parseComplete 5] ∧
    (feed ⟨false⟩ collect Parser.new [] [[49, 0], [], [0, 0, 4, 90, 0]]).parser.buffer
      = [90, 0] := by
  have h := feed_eq_parse ⟨false⟩ collect [] [[49, 0], [], [0, 0, 4, 90, 0]] (by decide)
  exact ⟨h.2.1.trans (by decide), (congrArg Parser.buffer h.2.2.1).trans (by decide)⟩

/-! ## Panics -/

/-- A frame whose body drives its decoder out of range. -/
def FrameHazard (f : Bytes) : Prop := packetHazard (f.headD 0) 0 (f.drop headerLen)

/-- A frame whose body starts with an encoding of a message of its kind. -/
def FrameWellFormed (f : Bytes) : Prop :=
  (packetFormat (f.headD 0) (f.drop headerLen) (f.length - 1)).Starts (f.drop headerLen)

/-- The first frame of a stream that is not well-formed has no hazardous body, and a stream of
well-formed frames has no length field below four. -/
structure StreamSafe (s : Bytes) : Prop where
  body : ∀ fs f gs, (backendFraming.cut s).frames = fs ++ f :: gs →
    (∀ g ∈ fs, FrameWellFormed g) → ¬ FrameHazard f
  length : (∀ f ∈ (backendFraming.cut s).frames, FrameWellFormed f) →
    (backendFraming.cut s).error = none

/-- A stream with a frame that is not well-formed, or a length field below four. -/
def StreamMalformed (s : Bytes) : Prop :=
  (∃ f ∈ (backendFraming.cut s).frames, ¬ FrameWellFormed f) ∨ (backendFraming.cut s).error ≠ none

section

variable (build : Build)

/-- A frame is decoded by a reader over its body. -/
lemma decodeFrame_readsAt {f : Bytes} (hf : backendFraming.IsFrame f) :
    ReadsAt (packetDecoder (f.headD 0) (f.drop headerLen) (f.length - 1)) (packetHazard (f.headD 0))
      (packetFormat (f.headD 0) (f.drop headerLen) (f.length - 1)) build
      { buffer := f.drop headerLen, offset := 0 } := by
  obtain ⟨code, b0, b1, b2, b3, tail, rfl, hlen, h4, -⟩ := scanBackend_eq_frame hf
  have hlt : lengthField b0 b1 b2 b3 < 2 ^ 32 := UInt32.toNat_lt _
  simp only [List.length_cons] at hlen
  have hbody : ((code :: b0 :: b1 :: b2 :: b3 :: tail).drop headerLen).length = tail.length := rfl
  have hlength : (code :: b0 :: b1 :: b2 :: b3 :: tail).length = tail.length + 5 := rfl
  refine packetDecoder_reads ?_ ?_ _ build _ ⟨Nat.zero_le _, ?_⟩
  · rw [hlength]
    omega
  · rw [hbody, hlength]
    omega
  · rw [hbody]
    omega

lemma decodeFrame_eq_panic {f : Bytes} (hf : backendFraming.IsFrame f) (h : FrameHazard f) :
    decodeFrame build f = .panic := by
  rw [decodeFrame, handlePacket, (decodeFrame_readsAt build hf).panic h]
  rfl

lemma decodeFrame_eq_ok {f : Bytes} (hf : backendFraming.IsFrame f) (h : FrameWellFormed f) :
    ∃ m, decodeFrame build f = .ok m := by
  obtain ⟨m, x, tail, hx, hbody⟩ := h
  rw [decodeFrame, handlePacket, (decodeFrame_readsAt build hf).accept m x tail hx hbody]
  exact ⟨m, rfl⟩

lemma decodeFrame_eq_err {f : Bytes} (hf : backendFraming.IsFrame f) (h : ¬ FrameHazard f)
    (hwf : ¬ FrameWellFormed f) : ∃ e, decodeFrame build f = .err e := by
  obtain ⟨e, he⟩ := (decodeFrame_readsAt build hf).reject h hwf
  rw [decodeFrame, handlePacket, he]
  exact ⟨e, rfl⟩

/-- How decoding a row of frames ends. -/
def framesVerdict : List Bytes → Outcome Error Unit
  | [] => .ok ()
  | f :: fs => decodeFrame build f >>= fun _ => framesVerdict fs

lemma framesVerdict_append (fs gs : List Bytes) :
    framesVerdict build (fs ++ gs) = framesVerdict build fs >>= fun _ => framesVerdict build gs := by
  induction fs with
  | nil => rfl
  | cons f fs ih =>
    rw [List.cons_append, framesVerdict, framesVerdict, ih]
    cases decodeFrame build f <;> rfl

/-- How parsing a buffer ends, whatever the callback does with the messages. -/
def verdict (b : Bytes) : Outcome Error Unit := do
  framesVerdict build (backendFraming.cut b).frames
  match (backendFraming.cut b).error with
  | none => .ok ()
  | some _ => .panic

/-- Bytes that end the parsing end it whatever follows. -/
lemma verdict_append_stuck {b : Bytes} (h : verdict build b ≠ .ok ()) (c : Bytes) :
    verdict build (b ++ c) = verdict build b := by
  cases herr : (backendFraming.cut b).error with
  | some e =>
    simp only [verdict, backendFraming.cut_append_of_error herr c, herr]
  | none =>
    simp only [verdict, herr] at h ⊢
    rw [backendFraming.cut_append herr c, Cut.prepend_frames, framesVerdict_append]
    rcases hv : framesVerdict build (backendFraming.cut b).frames with ⟨⟩ | e | _
    · rw [hv] at h
      exact absurd rfl h
    · rfl
    · rfl

/-- Bytes that parse leave the rest of the stream to the bytes they leave behind. -/
lemma verdict_append_ok {b : Bytes} (h : verdict build b = .ok ()) (c : Bytes) :
    verdict build ((backendFraming.cut b).rest ++ c) = verdict build (b ++ c) := by
  obtain ⟨⟨⟩, hframes, herr⟩ := Outcome.bind_eq_ok.mp h
  have hnone : (backendFraming.cut b).error = none := by
    cases hb : (backendFraming.cut b).error with
    | none => rfl
    | some e => simp [hb] at herr
  simp only [verdict]
  rw [backendFraming.cut_append hnone c, Cut.prepend_frames, framesVerdict_append, hframes,
    Outcome.ok_bind, Cut.prepend_error]

end

/-! ## Runs with a callback that never fails -/

section

variable {σ : Type} (build : Build) {callback : σ → BackendMessage → σ × Except Error Unit}
  (hcb : ∀ s m, (callback s m).2 = .ok ())

include hcb

lemma deliver_outcome (fs : List Bytes) (s : σ) :
    (deliver build callback fs s).2 = framesVerdict build fs := by
  induction fs generalizing s with
  | nil => rfl
  | cons f fs ih =>
    simp only [deliver, framesVerdict]
    cases decodeFrame build f with
    | panic => rfl
    | err e => rfl
    | ok m =>
      have hm := hcb s m
      rcases hc : callback s m with ⟨s', e | ⟨⟩⟩
      · simp [hc] at hm
      · simp only [hc, Outcome.ok_bind]
        exact ih s'

/-- A call ends as its buffer says; unless it returns `Ok` the buffer is kept. -/
lemma parse_outcome (p : Parser) (c : Bytes) (s : σ) :
    (p.parse build callback c s).outcome = verdict build (p.buffer ++ c) ∧
      (verdict build (p.buffer ++ c) ≠ .ok () →
        (p.parse build callback c s).parser.buffer = p.buffer ++ c) ∧
      (verdict build (p.buffer ++ c) = .ok () → (p.parse build callback c s).parser.buffer
        = (backendFraming.cut (p.buffer ++ c)).rest) := by
  have hd := deliver_outcome build hcb (backendFraming.cut (p.buffer ++ c)).frames s
  rw [parse_eq, parseResult, verdict, ← hd]
  rcases deliver build callback (backendFraming.cut (p.buffer ++ c)).frames s with ⟨s', ⟨⟩ | e | _⟩
  · cases (backendFraming.cut (p.buffer ++ c)).error <;> simp
  · simp
  · simp

/-- Once a call did not return `Ok`, every later call ends the same way. -/
lemma feed_stuck (p : Parser) (s : σ) (chunks : List Bytes) (h : verdict build p.buffer ≠ .ok ()) :
    ∀ o ∈ (feed build callback p s chunks).outcomes, o = verdict build p.buffer := by
  induction chunks generalizing p s with
  | nil => simp [feed]
  | cons c cs ih =>
    have hv := verdict_append_stuck build h c
    obtain ⟨ho, hkeep, -⟩ := parse_outcome build hcb p c s
    have hbuf := hkeep (by rwa [hv])
    intro o hmem
    rcases List.mem_cons.mp hmem with rfl | hmem
    · rw [ho, hv]
    · have hrest := ih (p.parse build callback c s).parser (p.parse build callback c s).state
        (by rwa [hbuf, hv]) o hmem
      rw [hrest, hbuf, hv]

/-- The calls return `Ok` up to the one that meets the verdict on the whole stream. -/
lemma feed_outcomes (p : Parser) (s : σ) (chunks : List Bytes)
    (h : verdict build p.buffer = .ok ()) :
    (∀ o ∈ (feed build callback p s chunks).outcomes,
      o = .ok () ∨ o = verdict build (p.buffer ++ chunks.flatten)) ∧
    (verdict build (p.buffer ++ chunks.flatten) ≠ .ok () →
      verdict build (p.buffer ++ chunks.flatten)
        ∈ (feed build callback p s chunks).outcomes) := by
  induction chunks generalizing p s with
  | nil =>
    rw [List.flatten_nil, List.append_nil]
    exact ⟨by simp [feed], fun hne => absurd h hne⟩
  | cons c cs ih =>
    rw [List.flatten_cons, ← List.append_assoc]
    obtain ⟨ho, hkeep, hdrain⟩ := parse_outcome build hcb p c s
    by_cases hok : verdict build (p.buffer ++ c) = .ok ()
    · -- the chunk parses: go on with what it left
      have hbuf := hdrain hok
      have hrest := verdict_append_ok build hok
      have hempty : verdict build (p.parse build callback c s).parser.buffer = .ok () := by
        have hnil := hrest []
        rwa [List.append_nil, List.append_nil, hok, ← hbuf] at hnil
      obtain ⟨hall, hmem⟩ := ih (p.parse build callback c s).parser
        (p.parse build callback c s).state hempty
      rw [hbuf, hrest] at hall hmem
      refine ⟨?_, fun hne => List.mem_cons_of_mem _ (hmem hne)⟩
      intro o hin
      rcases List.mem_cons.mp hin with rfl | hin
      · exact .inl (ho.trans hok)
      · exact hall o hin
    · -- the chunk does not: the verdict is in, and stays
      have hbuf := hkeep hok
      have hv := verdict_append_stuck build hok cs.flatten
      have hlater := feed_stuck build hcb (p.parse build callback c s).parser
        (p.parse build callback c s).state cs (by rwa [hbuf])
      rw [hv]
      refine ⟨?_, fun _ => List.mem_cons.mpr (.inl ho.symm)⟩
      intro o hin
      rcases List.mem_cons.mp hin with rfl | hin
      · exact .inr ho
      · exact .inr ((hlater o hin).trans (by rw [hbuf]))

end

/-! ## Which streams panic -/

section

variable (build : Build)

/-- A row of frames panics at its first frame that is not well-formed, or not at all. -/
lemma framesVerdict_cases {fs : List Bytes} (hfs : ∀ f ∈ fs, backendFraming.IsFrame f) :
    (∀ f ∈ fs, FrameWellFormed f) ∧ framesVerdict build fs = .ok () ∨
    ∃ gs f rest, fs = gs ++ f :: rest ∧ (∀ g ∈ gs, FrameWellFormed g) ∧
      (FrameHazard f ∧ framesVerdict build fs = .panic ∨
        ¬ FrameHazard f ∧ ¬ FrameWellFormed f ∧ ∃ e, framesVerdict build fs = .err e) := by
  induction fs with
  | nil => exact .inl ⟨by simp, rfl⟩
  | cons f fs ih =>
    have hf := hfs f List.mem_cons_self
    have htail := ih fun g hg => hfs g (List.mem_cons_of_mem _ hg)
    by_cases hhaz : FrameHazard f
    · refine .inr ⟨[], f, fs, rfl, by simp, .inl ⟨hhaz, ?_⟩⟩
      rw [framesVerdict, decodeFrame_eq_panic build hf hhaz, Outcome.panic_bind]
    · by_cases hwf : FrameWellFormed f
      · obtain ⟨m, hm⟩ := decodeFrame_eq_ok build hf hwf
        have hv : framesVerdict build (f :: fs) = framesVerdict build fs := by
          rw [framesVerdict, hm, Outcome.ok_bind]
        rw [hv]
        rcases htail with ⟨hall, hok⟩ | ⟨gs, g, rest, rfl, hgs, hcase⟩
        · exact .inl ⟨List.forall_mem_cons.mpr ⟨hwf, hall⟩, hok⟩
        · exact .inr ⟨f :: gs, g, rest, rfl, List.forall_mem_cons.mpr ⟨hwf, hgs⟩, hcase⟩
      · obtain ⟨e, he⟩ := decodeFrame_eq_err build hf hhaz hwf
        refine .inr ⟨[], f, fs, rfl, by simp, .inr ⟨hhaz, hwf, e, ?_⟩⟩
        rw [framesVerdict, he, Outcome.err_bind]

/-- A hazardous frame is not well-formed: decoding cannot both return and panic. -/
lemma not_wellFormed_of_hazard {f : Bytes} (hf : backendFraming.IsFrame f) (h : FrameHazard f) :
    ¬ FrameWellFormed f := by
  intro hwf
  obtain ⟨m, hm⟩ := decodeFrame_eq_ok ⟨false⟩ hf hwf
  rw [decodeFrame_eq_panic ⟨false⟩ hf h] at hm
  cases hm

/-- Two cuts of a row at its first frame that is not well-formed agree. -/
lemma not_hazard_of_first {gs rest fs' gs' : List Bytes} {f f' : Bytes}
    (hcut : gs ++ f :: rest = fs' ++ f' :: gs') (hgs : ∀ g ∈ gs, FrameWellFormed g ∧ ¬ FrameHazard g)
    (hf : ¬ FrameWellFormed f) (hhaz : ¬ FrameHazard f) (hfs : ∀ g ∈ fs', FrameWellFormed g) :
    ¬ FrameHazard f' := by
  rcases List.append_eq_append_iff.mp hcut with ⟨as, rfl, has⟩ | ⟨cs, rfl, hcs⟩
  · cases as with
    | nil =>
      rw [List.nil_append, List.cons.injEq] at has
      rwa [← has.1]
    | cons a as =>
      rw [List.cons_append, List.cons.injEq] at has
      rw [has.1] at hf
      exact absurd (hfs a (by simp)) hf
  · cases cs with
    | nil =>
      rw [List.nil_append, List.cons.injEq] at hcs
      rwa [hcs.1]
    | cons c cs =>
      rw [List.cons_append, List.cons.injEq] at hcs
      rw [hcs.1]
      exact (hgs c (by simp)).2

/-- **Which streams panic.** -/
lemma streamSafe_iff (b : Bytes) : StreamSafe b ↔ verdict build b ≠ .panic := by
  have hframe : ∀ f ∈ (backendFraming.cut b).frames, backendFraming.IsFrame f :=
    fun f hf => backendFraming.isFrame_of_mem_cut hf
  rcases framesVerdict_cases build hframe with ⟨hall, hok⟩ | ⟨gs, f, rest, hcut, hgs, hcase⟩
  · have hv : verdict build b = .panic ↔ (backendFraming.cut b).error ≠ none := by
      rw [verdict, hok, Outcome.ok_bind]
      cases (backendFraming.cut b).error <;> simp
    rw [ne_eq, hv, not_not]
    constructor
    · intro hsafe
      exact hsafe.length hall
    · intro herr
      refine ⟨?_, fun _ => herr⟩
      intro fs f gs hcut _ hhaz
      have hmem : f ∈ (backendFraming.cut b).frames := by simp [hcut]
      exact not_wellFormed_of_hazard (hframe f hmem) hhaz (hall f hmem)
  · have hmem : f ∈ (backendFraming.cut b).frames := by simp [hcut]
    rcases hcase with ⟨hhaz, hv⟩ | ⟨hhaz, hwf, e, hv⟩
    · rw [verdict, hv, Outcome.panic_bind]
      exact iff_of_false (fun hsafe => hsafe.body gs f rest hcut hgs hhaz) (by simp)
    · rw [verdict, hv, Outcome.err_bind]
      refine iff_of_true ⟨?_, fun hall => absurd (hall f hmem) hwf⟩ (by simp)
      intro fs' f' gs' hcut' hfs'
      refine not_hazard_of_first (hcut.symm.trans hcut') ?_ hwf hhaz hfs'
      intro g hg
      refine ⟨hgs g hg, fun hghaz => ?_⟩
      exact not_wellFormed_of_hazard (hframe g (by rw [hcut]; simp [hg])) hghaz (hgs g hg)

/-- A safe malformed stream is reported. -/
lemma verdict_of_malformed {b : Bytes} (hsafe : StreamSafe b) (hmal : StreamMalformed b) :
    ∃ e, verdict build b = .err e := by
  have hframe : ∀ f ∈ (backendFraming.cut b).frames, backendFraming.IsFrame f :=
    fun f hf => backendFraming.isFrame_of_mem_cut hf
  rcases framesVerdict_cases build hframe with ⟨hall, -⟩ | ⟨gs, f, rest, hcut, hgs, hcase⟩
  · rcases hmal with ⟨f, hf, hwf⟩ | herr
    · exact absurd (hall f hf) hwf
    · exact absurd (hsafe.length hall) herr
  · rcases hcase with ⟨hhaz, -⟩ | ⟨-, -, e, he⟩
    · exact absurd hhaz (hsafe.body gs f rest hcut hgs)
    · exact ⟨e, by rw [verdict, he, Outcome.err_bind]⟩

end

/-- **When feeding panics.** Whatever the chunks and the build, no call panics and malformed
input is reported as an error exactly when the stream is safe. -/
theorem feed_never_panics_iff {σ : Type} (build : Build)
    (callback : σ → BackendMessage → σ × Except Error Unit)
    (hcb : ∀ s m, (callback s m).2 = .ok ()) (s₀ : σ) (chunks : List Bytes) :
    ((∀ o ∈ (feed build callback Parser.new s₀ chunks).outcomes, o ≠ .panic) ∧
      (StreamMalformed chunks.flatten →
        ∃ o ∈ (feed build callback Parser.new s₀ chunks).outcomes, ∃ e, o = .err e))
      ↔ StreamSafe chunks.flatten := by
  have hnew : verdict build Parser.new.buffer = .ok () := by
    rw [verdict, backendFraming.cut_of_more (b := Parser.new.buffer) rfl]
    rfl
  obtain ⟨hall, hmem⟩ := feed_outcomes build hcb Parser.new s₀ chunks hnew
  rw [show Parser.new.buffer = [] from rfl, List.nil_append] at hall hmem
  constructor
  · rintro ⟨hpanic, -⟩
    rw [streamSafe_iff build]
    intro hv
    exact hpanic _ (hmem (by rw [hv]; simp)) hv
  · intro hsafe
    refine ⟨?_, ?_⟩
    · intro o ho
      rcases hall o ho with rfl | rfl
      · simp
      · exact (streamSafe_iff build _).mp hsafe
    · intro hmal
      obtain ⟨e, he⟩ := verdict_of_malformed build hsafe hmal
      exact ⟨_, hmem (by rw [he]; simp), e, he⟩

/-- A length field of zero: the body slice would end before it starts. -/
theorem feed_never_panics_iff_zero_length : ¬ StreamSafe [49, 0, 0, 0, 0] := by
  intro hsafe
  have h := (feed_never_panics_iff ⟨false⟩ collect (fun _ _ => rfl) []
    [[49, 0, 0], [0, 0]]).mpr hsafe
  exact h.1 .panic (by decide) rfl

/-- Release and debug builds panic alike on a column length of `-2`. -/
theorem feed_panics_on_column_length (build : Build) :
    .panic ∈ (feed build collect Parser.new []
      [[68, 0, 0, 0, 10, 0, 1, 255, 255, 255, 254]]).outcomes := by
  cases build with
  | mk overflowChecks => cases overflowChecks <;> decide

theorem feed_panics_on_zero_length :
    ¬ ∀ o ∈ (feed ⟨false⟩ collect Parser.new [] [[49, 0, 0, 0, 0]]).outcomes, o ≠ .panic := by
  decide

end PgliteOxide.Protocol
