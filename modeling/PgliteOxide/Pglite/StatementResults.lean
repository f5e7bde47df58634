import PgliteOxide.Pglite.Results

/-!
# Results statement by statement

A response is a sequence of segments, each of which ends with the `CommandComplete` of its
statement. The loop of `parse_results` forgets the fields and the rows of a statement when it
ends, but not the affected-row count: `parseResults_flatMap_iff` says for which responses the
results are those of the statements taken one by one.
-/

namespace PgliteOxide.Pglite

open Lib Protocol

def isCommandComplete : BackendMessage → Bool
  | .commandComplete _ => true
  | _ => false

/-- The messages of one statement. -/
structure Segment where
  body : List BackendMessage
  complete : CommandCompleteMessage
  plain : ∀ m ∈ body, isCommandComplete m = false

namespace Segment

def messages (seg : Segment) : List BackendMessage := seg.body ++ [.commandComplete seg.complete]

/-- The rows the statement says it affected. -/
def rowCount (seg : Segment) : ℕ := retrieveRowCount seg.complete

end Segment

/-! ## One segment -/

section Loop

variable (build : Build) (defaults overrides : ParserMap) (rowMode : Option RowMode)
  (blob : Option Bytes)

/-- The loop between two `CommandComplete`s. -/
def scanBody : List FieldInfo → List Value → List BackendMessage →
    Outcome Empty (List FieldInfo × List Value)
  | fields, rows, [] => .ok (fields, rows)
  | _, rows, .rowDescription desc :: messages => scanBody (mapFields desc) rows messages
  | fields, rows, .dataRow row :: messages =>
    if fields = [] then scanBody fields rows messages
    else do
      let rowValue ← mapRow defaults overrides row fields rowMode
      scanBody fields (rows ++ [rowValue]) messages
  | fields, rows, _ :: messages => scanBody fields rows messages

lemma parseResultsFrom_body {body : List BackendMessage}
    (hbody : ∀ m ∈ body, isCommandComplete m = false) (rest : List BackendMessage)
    (r : ResultsProgress) :
    parseResultsFrom build defaults overrides rowMode blob r (body ++ rest) = (do
      let (fields, rows) ← scanBody defaults overrides rowMode r.currentFields r.currentRows body
      parseResultsFrom build defaults overrides rowMode blob
        { r with currentFields := fields, currentRows := rows } rest) := by
  induction body generalizing r with
  | nil => rfl
  | cons m body ih =>
    have htail := ih fun m hm => hbody m (List.mem_cons_of_mem _ hm)
    cases m with
    | commandComplete cmd =>
      have hcmd : isCommandComplete (.commandComplete cmd) = false := hbody _ (by simp)
      simp [isCommandComplete] at hcmd
    | rowDescription desc =>
      rw [List.cons_append, parseResultsFrom, scanBody, htail]
    | dataRow row =>
      rw [List.cons_append, parseResultsFrom, scanBody]
      by_cases hfields : r.currentFields = []
      · rw [if_pos hfields, if_pos hfields, htail]
      · rw [if_neg hfields, if_neg hfields]
        cases mapRow defaults overrides row r.currentFields rowMode with
        | ok rowValue => exact htail _
        | err e => exact e.elim
        | panic => rfl
    | _ =>
      rw [List.cons_append, parseResultsFrom, scanBody, htail]
      all_goals simp

/-- What a statement says about its rows, with some count of affected rows. -/
def segmentResults (seg : Segment) (affectedRows : ℕ) : Outcome Empty Results := do
  let (fields, rows) ← scanBody defaults overrides rowMode [] [] seg.body
  return { rows, fields, affectedRows := some affectedRows, blob }

/-- The results of the statements after `affectedRows` rows. -/
def countedResults : ℕ → List Segment → Outcome Empty (List Results × ℕ)
  | affectedRows, [] => .ok ([], affectedRows)
  | affectedRows, seg :: segments => do
    let (fields, rows) ← scanBody defaults overrides rowMode [] [] seg.body
    let affectedRows ← usizeAdd build affectedRows seg.rowCount
    let (results, total) ← countedResults affectedRows segments
    return ({ rows, fields, affectedRows := some affectedRows, blob } :: results, total)

/-- **The loop runs the segments one after the other**; only the count goes from one to the
next. -/
lemma parseResultsFrom_flatMap (segments : List Segment) (done : List Results) (n : ℕ) :
    parseResultsFrom build defaults overrides rowMode blob
        { resultSets := done, currentFields := [], currentRows := [], affectedRows := n }
        (segments.flatMap Segment.messages) = (do
      let (results, total) ← countedResults build defaults overrides rowMode blob n segments
      return { resultSets := done ++ results, currentFields := [], currentRows := [],
               affectedRows := total }) := by
  induction segments generalizing done n with
  | nil =>
    rw [List.flatMap_nil, parseResultsFrom, countedResults]
    simp
  | cons seg segments ih =>
    rw [List.flatMap_cons, Segment.messages, List.append_assoc,
      parseResultsFrom_body _ _ _ _ _ seg.plain, countedResults]
    cases scanBody defaults overrides rowMode [] [] seg.body with
    | err e => exact e.elim
    | panic => rfl
    | ok scanned =>
      obtain ⟨fields, rows⟩ := scanned
      simp only [Outcome.ok_bind, List.singleton_append, parseResultsFrom]
      show (usizeAdd build n seg.rowCount >>= _) = _
      cases usizeAdd build n seg.rowCount with
      | err e => exact e.elim
      | panic => rfl
      | ok count =>
        simp only [Outcome.ok_bind, ih]
        cases countedResults build defaults overrides rowMode blob count segments with
        | err e => exact e.elim
        | panic => rfl
        | ok rest =>
          simp only [Outcome.ok_bind, Outcome.pure_eq, List.append_assoc, List.singleton_append]

end Loop

/-! ## Row counts -/

lemma parseUsize_lt {s : String} {n : ℕ} (h : parseUsize s = some n) : n < usizeBound := by
  unfold parseUsize at h
  dsimp only at h
  split_ifs at h with hdigits hlt
  rw [Option.some.injEq] at h
  rwa [h] at hlt

/-- A row count is a `usize`. -/
lemma retrieveRowCount_lt (msg : CommandCompleteMessage) : retrieveRowCount msg < usizeBound := by
  have hpart (part : Option String) : (part.bind parseUsize).getD 0 < usizeBound := by
    cases hn : part.bind parseUsize with
    | none => simp [usizeBound]
    | some n =>
      obtain ⟨text, -, htext⟩ := Option.bind_eq_some_iff.mp hn
      exact parseUsize_lt htext
  unfold retrieveRowCount
  dsimp only
  split
  · exact hpart _
  all_goals first | exact hpart _ | simp [usizeBound]

/-- Adding a count changes it, unless there was nothing before. -/
lemma usizeAdd_eq_self_iff (build : Build) {a b : ℕ} (ha : a < usizeBound) (hb : b < usizeBound) :
    (usizeAdd build a b : Outcome Empty ℕ) = .ok b ↔ a = 0 := by
  unfold usizeAdd
  constructor
  · intro h
    split_ifs at h with hlt hbuild
    · simp only [Outcome.ok.injEq] at h
      omega
    · simp only [Outcome.ok.injEq] at h
      have hmod : (a + b) % usizeBound = a + b - usizeBound := by
        rw [Nat.mod_eq_sub_mod (Nat.not_lt.mp hlt), Nat.mod_eq_of_lt (by omega)]
      omega
  · intro h
    rw [h, Nat.zero_add, if_pos hb]

lemma usizeAdd_lt {build : Build} {a b n : ℕ} (h : (usizeAdd build a b : Outcome Empty ℕ) = .ok n) :
    n < usizeBound := by
  unfold usizeAdd at h
  split_ifs at h with hlt hbuild
  · rwa [← Outcome.ok.inj h]
  · rw [← Outcome.ok.inj h]
    exact Nat.mod_lt _ (by simp [usizeBound])

/-! ## Statement by statement -/

section Statements

variable (build : Build) (defaults overrides : ParserMap) (rowMode : Option RowMode)
  (blob : Option Bytes)

/-- The results of the statements, each with its own count. -/
def ownResults : List Segment → Outcome Empty (List Results)
  | [] => .ok []
  | seg :: segments => do
    let results ← segmentResults defaults overrides rowMode blob seg seg.rowCount
    let rest ← ownResults segments
    return results :: rest

variable {defaults overrides rowMode}

/-- A statement whose rows can be parsed. -/
def Parses (defaults overrides : ParserMap) (rowMode : Option RowMode) (seg : Segment) : Prop :=
  ∃ scanned, scanBody defaults overrides rowMode [] [] seg.body = .ok scanned

lemma ownResults_of_parses {segments : List Segment}
    (h : ∀ seg ∈ segments, Parses defaults overrides rowMode seg) :
    ∃ results, ownResults defaults overrides rowMode blob segments = .ok results := by
  induction segments with
  | nil => exact ⟨[], rfl⟩
  | cons seg segments ih =>
    obtain ⟨⟨fields, rows⟩, hscan⟩ := h seg (by simp)
    obtain ⟨rest, hrest⟩ := ih fun seg hseg => h seg (List.mem_cons_of_mem _ hseg)
    refine ⟨{ rows, fields, affectedRows := some seg.rowCount, blob } :: rest, ?_⟩
    rw [ownResults, segmentResults, hscan, hrest]
    rfl

/-- The running count is each statement's own count only while nothing has been counted. -/
lemma countedResults_eq_own_iff {segments : List Segment}
    (h : ∀ seg ∈ segments, Parses defaults overrides rowMode seg) {n : ℕ} (hn : n < usizeBound) :
    (countedResults build defaults overrides rowMode blob n segments >>= fun r => .ok r.1)
        = ownResults defaults overrides rowMode blob segments ↔
      segments = [] ∨ n = 0 ∧ ∀ seg ∈ segments.dropLast, seg.rowCount = 0 := by
  induction segments generalizing n with
  | nil => simp [countedResults, ownResults]
  | cons seg segments ih =>
    obtain ⟨⟨fields, rows⟩, hscan⟩ := h seg (by simp)
    have htail : ∀ seg ∈ segments, Parses defaults overrides rowMode seg :=
      fun seg hseg => h seg (List.mem_cons_of_mem _ hseg)
    obtain ⟨rest, hrest⟩ := ownResults_of_parses blob htail
    have hself : (usizeAdd build n seg.rowCount : Outcome Empty ℕ) = .ok seg.rowCount ↔ n = 0 :=
      usizeAdd_eq_self_iff build hn (retrieveRowCount_lt seg.complete)
    rw [countedResults, ownResults, segmentResults, hscan, hrest]
    simp only [Outcome.ok_bind, Outcome.pure_eq]
    show ((usizeAdd build n seg.rowCount >>= _) >>= _) = _ ↔ _
    cases hadd : (usizeAdd build n seg.rowCount : Outcome Empty ℕ) with
    | err e => exact e.elim
    | panic =>
      -- the sum overflows, so there was something before
      have hne : n ≠ 0 := fun h0 => by
        rw [hself.mpr h0] at hadd
        simp at hadd
      simp [hne]
    | ok m =>
      rw [hadd, Outcome.ok.injEq] at hself
      have ih' := ih htail (usizeAdd_lt hadd)
      rw [hrest] at ih'
      have hsplit : ((countedResults build defaults overrides rowMode blob m segments >>= fun r =>
            (.ok ({ rows, fields, affectedRows := some m, blob } :: r.1, r.2) :
              Outcome Empty (List Results × ℕ))) >>= fun r => .ok r.1)
          = .ok ({ rows, fields, affectedRows := some seg.rowCount, blob } :: rest) ↔
          m = seg.rowCount ∧
            (countedResults build defaults overrides rowMode blob m segments >>= fun r => .ok r.1)
              = (.ok rest : Outcome Empty (List Results)) := by
        cases countedResults build defaults overrides rowMode blob m segments with
        | err e => exact e.elim
        | panic => simp
        | ok r => simp
      refine hsplit.trans ?_
      rw [ih', hself]
      cases segments with
      | nil => simp
      | cons seg' segments =>
        simp only [List.cons_ne_nil, false_or, List.dropLast_cons_cons, List.forall_mem_cons]
        constructor
        · rintro ⟨h0, hm, hrows⟩
          exact ⟨h0, (hself.mpr h0) ▸ hm, hrows⟩
        · rintro ⟨h0, hrow, hrows⟩
          exact ⟨h0, (hself.mpr h0).trans hrow, hrows⟩

/-- A statement that cannot be parsed makes the loop panic. -/
lemma countedResults_panic {segments : List Segment} {seg : Segment} (hseg : seg ∈ segments)
    (h : ¬ Parses defaults overrides rowMode seg) (n : ℕ) :
    countedResults build defaults overrides rowMode blob n segments = .panic := by
  induction segments generalizing n with
  | nil => simp at hseg
  | cons seg' segments ih =>
    rw [countedResults]
    cases hscan : scanBody defaults overrides rowMode [] [] seg'.body with
    | err e => exact e.elim
    | panic => rfl
    | ok scanned =>
      rcases List.mem_cons.mp hseg with rfl | hseg
      · exact absurd ⟨scanned, hscan⟩ h
      · simp only [Outcome.ok_bind]
        cases (usizeAdd build n seg'.rowCount : Outcome Empty ℕ) with
        | err e => exact e.elim
        | panic => rfl
        | ok m =>
          simp only [Outcome.ok_bind, ih hseg m]
          rfl

lemma ownResults_panic {segments : List Segment} {seg : Segment} (hseg : seg ∈ segments)
    (h : ¬ Parses defaults overrides rowMode seg) :
    ownResults defaults overrides rowMode blob segments = .panic := by
  induction segments with
  | nil => simp at hseg
  | cons seg' segments ih =>
    rw [ownResults, segmentResults]
    cases hscan : scanBody defaults overrides rowMode [] [] seg'.body with
    | err e => exact e.elim
    | panic => rfl
    | ok scanned =>
      rcases List.mem_cons.mp hseg with rfl | hseg
      · exact absurd ⟨scanned, hscan⟩ h
      · simp only [Outcome.ok_bind, Outcome.pure_eq, ih hseg]
        rfl

end Statements

section Main

variable (build : Build) (defaultParsers : ParserMap) (options : Option QueryOptions)
  (blob : Option Bytes)

/-- What `parse_results` makes of each statement alone. -/
def statementWise (segments : List Segment) : Outcome Empty (List Results) := do
  let results ← segments.mapM fun seg =>
    parseResults build seg.messages defaultParsers options blob
  return results.flatten

/-- `parse_results` of a response, through the running count. -/
lemma parseResults_flatMap (segments : List Segment) :
    parseResults build (segments.flatMap Segment.messages) defaultParsers options blob = (do
      let (results, _) ← countedResults build defaultParsers ((options.map (·.parsers)).getD [])
        (options.bind (·.rowMode)) blob 0 segments
      match results with
      | [] => return [{ rows := [], fields := [], affectedRows := some 0, blob }]
      | results => return results) := by
  rw [parseResults, parseResultsFrom_flatMap]
  cases countedResults build defaultParsers ((options.map (·.parsers)).getD [])
      (options.bind (·.rowMode)) blob 0 segments with
  | err e => exact e.elim
  | panic => rfl
  | ok r => rfl

lemma parseResults_segment (seg : Segment) :
    parseResults build seg.messages defaultParsers options blob = (do
      let results ← segmentResults defaultParsers ((options.map (·.parsers)).getD [])
        (options.bind (·.rowMode)) blob seg seg.rowCount
      return [results]) := by
  have hone := parseResults_flatMap build defaultParsers options blob [seg]
  rw [List.flatMap_cons, List.flatMap_nil, List.append_nil] at hone
  have hadd : (usizeAdd build 0 seg.rowCount : Outcome Empty ℕ) = .ok seg.rowCount :=
    (usizeAdd_eq_self_iff build (by simp [usizeBound]) (retrieveRowCount_lt seg.complete)).mpr rfl
  rw [hone, countedResults, segmentResults, hadd]
  cases scanBody defaultParsers ((options.map (·.parsers)).getD [])
      (options.bind (·.rowMode)) [] [] seg.body with
  | err e => exact e.elim
  | panic => rfl
  | ok scanned => rfl

lemma statementWise_eq (segments : List Segment) :
    statementWise build defaultParsers options blob segments
      = ownResults defaultParsers ((options.map (·.parsers)).getD [])
          (options.bind (·.rowMode)) blob segments := by
  unfold statementWise
  induction segments with
  | nil => rfl
  | cons seg segments ih =>
    rw [List.mapM_cons, parseResults_segment, ownResults, ← ih]
    cases segmentResults defaultParsers ((options.map (·.parsers)).getD [])
        (options.bind (·.rowMode)) blob seg seg.rowCount with
    | err e => exact e.elim
    | panic => rfl
    | ok results =>
      simp only [Outcome.ok_bind, Outcome.pure_eq]
      cases segments.mapM fun seg => parseResults build seg.messages defaultParsers options blob with
      | err e => exact e.elim
      | panic => rfl
      | ok rest => rfl

/-- A statement cannot be parsed alone when one of its rows cannot. -/
lemma parseResults_eq_panic_iff (seg : Segment) :
    parseResults build seg.messages defaultParsers options blob = .panic ↔
      ¬ Parses defaultParsers ((options.map (·.parsers)).getD []) (options.bind (·.rowMode)) seg := by
  rw [parseResults_segment, segmentResults, Parses]
  cases scanBody defaultParsers ((options.map (·.parsers)).getD [])
      (options.bind (·.rowMode)) [] [] seg.body with
  | err e => exact e.elim
  | panic => simp
  | ok scanned => simp

/-- A response with a statement has results. -/
lemma countedResults_cons (seg : Segment) (segments : List Segment) (overrides : ParserMap)
    (rowMode : Option RowMode) (n : ℕ) :
    (do
      let (results, _) ← countedResults build defaultParsers overrides rowMode blob n
        (seg :: segments)
      match results with
      | [] => return [{ rows := [], fields := [], affectedRows := some 0, blob }]
      | results => return results) =
      (countedResults build defaultParsers overrides rowMode blob n (seg :: segments) >>= fun r =>
        (.ok r.1 : Outcome Empty (List Results))) := by
  rw [countedResults]
  cases scanBody defaultParsers overrides rowMode [] [] seg.body with
  | err e => exact e.elim
  | panic => rfl
  | ok scanned =>
    simp only [Outcome.ok_bind]
    cases (usizeAdd build n seg.rowCount : Outcome Empty ℕ) with
    | err e => exact e.elim
    | panic => rfl
    | ok m =>
      simp only [Outcome.ok_bind]
      cases countedResults build defaultParsers overrides rowMode blob m segments with
      | err e => exact e.elim
      | panic => rfl
      | ok r => rfl

/-- **Results statement by statement.** The results of a response are those of its statements
taken one by one exactly when there is a statement and no statement before the last one affected
rows, or when a parser panics on the rows of some statement. -/
theorem parseResults_flatMap_iff (segments : List Segment) :
    parseResults build (segments.flatMap Segment.messages) defaultParsers options blob
        = statementWise build defaultParsers options blob segments ↔
      (segments ≠ [] ∧ ∀ seg ∈ segments.dropLast, retrieveRowCount seg.complete = 0) ∨
        ∃ seg ∈ segments,
          parseResults build seg.messages defaultParsers options blob = .panic := by
  rw [parseResults_flatMap, statementWise_eq]
  simp only [parseResults_eq_panic_iff]
  by_cases hpanic : ∃ seg ∈ segments, ¬ Parses defaultParsers
      ((options.map (·.parsers)).getD []) (options.bind (·.rowMode)) seg
  · obtain ⟨seg, hseg, hnot⟩ := hpanic
    rw [countedResults_panic build blob hseg hnot, ownResults_panic blob hseg hnot]
    exact iff_of_true rfl (.inr ⟨seg, hseg, hnot⟩)
  · rw [or_iff_left hpanic]
    push Not at hpanic
    have hiff := countedResults_eq_own_iff build blob hpanic (n := 0) (by simp [usizeBound])
    cases segments with
    | nil => simp [countedResults, ownResults]
    | cons seg segments =>
      simp only [List.cons_ne_nil, false_or, true_and] at hiff
      rw [countedResults_cons, hiff]
      simp [Segment.rowCount]

/-- A statement that affected one row. -/
def insertOne : Segment where
  body := []
  complete := { length := 15, text := "INSERT 0 1" }
  plain := by simp

/-- The second of two statements reports the row of the first one as well. -/
theorem row_count_leaks :
    parseResults ⟨true⟩ ([insertOne, insertOne].flatMap Segment.messages) [] none none
      ≠ statementWise ⟨true⟩ [] none none [insertOne, insertOne] := by
  have hcounts : (parseResults ⟨true⟩ ([insertOne, insertOne].flatMap Segment.messages) [] none
        none).toOption.map (·.map Results.affectedRows)
      ≠ (statementWise ⟨true⟩ [] none none [insertOne, insertOne]).toOption.map
        (·.map Results.affectedRows) := by decide +kernel
  exact fun h => hcounts (by rw [h])

end Main

end PgliteOxide.Pglite
