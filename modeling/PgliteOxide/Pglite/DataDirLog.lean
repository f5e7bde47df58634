import PgliteOxide.Lib.FileLog
import PgliteOxide.Pglite.DataDir

/-!
# Logs of PGDATA trees

The calls by which `data_dir.rs` fills a directory, as changes of it (`Follows`), and the log of a
tree that is copied (`treeLog`): the directories and files whose names are all passed.
-/

namespace PgliteOxide.Pglite

open Lib

/-! ## Methods that make the changes of a log -/

/-- A directory as a method finds it: nothing is below a file, and it is no file itself. -/
structure Rooted (s : PgFiles) : Prop where
  closed : s.Closed
  noFile : s.isFile [] = false

/-- The method makes the changes of the log, and fails where the log does. -/
def Follows (m : DirMethod Unit) (log : List (FsEvent FileName Bytes)) : Prop :=
  ∀ s, Rooted s →
    (∀ s', runLog log s = some s' → m s = (s', .ok ()) ∧ Rooted s') ∧
    (runLog log s = none → ∃ s' err, m s = (s', .err err))

lemma Follows.nil : Follows (pure ()) [] := by
  intro s hs
  refine ⟨fun s' h => ?_, fun h => by simp [runLog] at h⟩
  cases h
  exact ⟨rfl, hs⟩

lemma Follows.append {m m' : DirMethod Unit} {log log' : List (FsEvent FileName Bytes)}
    (h : Follows m log) (h' : Follows m' log') :
    Follows (m >>= fun _ => m') (log ++ log') := by
  intro s hs
  obtain ⟨hok, hfail⟩ := h s hs
  rw [runLog_append]
  cases hrun : runLog log s with
  | none =>
    refine ⟨fun s' hs' => by simp at hs', fun _ => ?_⟩
    obtain ⟨s', err, hm⟩ := hfail hrun
    exact ⟨s', err, Stateful.bind_of_err hm⟩
  | some s₁ =>
    obtain ⟨hm, hs₁⟩ := hok s₁ hrun
    rw [Stateful.bind_of_ok hm]
    exact h' s₁ hs₁

/-- One event, for a method that does the same. -/
lemma Follows.single {m : DirMethod Unit} {e : FsEvent FileName Bytes}
    (hne : ∀ q node, e.Makes q node → q ≠ [])
    (hok : ∀ s s', Rooted s → e.apply s = some s' → m s = (s', .ok ()))
    (hfail : ∀ s, Rooted s → e.apply s = none → ∃ s' err, m s = (s', .err err)) :
    Follows m [e] := by
  intro s hs
  have hrun : runLog [e] s = e.apply s := by
    rw [runLog]
    cases e.apply s <;> rfl
  rw [hrun]
  refine ⟨fun s' h => ⟨hok s s' hs h, FsEvent.apply_closed hs.closed hne h, ?_⟩, hfail s hs⟩
  -- the root becomes no file
  cases e with
  | fail => cases h
  | remove t =>
    obtain ⟨-, rfl⟩ := FsEvent.apply_remove_eq_some.mp h
    by_cases ht : t <+: []
    · rw [Files.isFile, Files.removeTree, if_pos ht]
    · rw [Files.isFile, Files.removeTree, if_neg ht]
      exact hs.noFile
  | clear t =>
    cases h
    by_cases ht : t <+: [] ∧ [] ≠ t
    · rw [Files.isFile, Files.removeBelow, if_pos ht]
    · rw [Files.isFile, Files.removeBelow, if_neg ht]
      exact hs.noFile
  | mkdir p =>
    obtain ⟨-, rfl⟩ := FsEvent.apply_mkdir_eq_some.mp h
    rw [Files.isFile, Files.makeDirs, if_pos (List.nil_prefix)]
  | put p data =>
    obtain ⟨-, -, rfl⟩ := FsEvent.apply_put_eq_some.mp h
    rw [Files.isFile, Files.put, if_neg (Ne.symm (hne p _ ⟨rfl, rfl⟩)), Files.makeDirs,
      if_pos List.nil_prefix]

lemma follows_removeEntry (p : RelPath) : Follows (removeEntry p) [.remove p] := by
  refine .single (fun _ _ h => h.elim) (fun s s' hs h => ?_) fun s hs h => ?_
  · obtain ⟨habove, rfl⟩ := FsEvent.apply_remove_eq_some.mp h
    rw [← FsEvent.any_inits_eq_false] at habove
    unfold removeEntry symlinkMetadata
    cases hp : s p with
    | none =>
      rw [habove, hs.closed.removeTree_eq_self hp]
      rfl
    | some node =>
      cases node with
      | dir =>
        show withContext _ _ (removeDirAll p) s = _
        rw [withContext, Stateful.mapErr, removeDirAll, hp]
      | file data =>
        show withContext _ _ (removeFile p) s = _
        rw [withContext, Stateful.mapErr, removeFile, hp]
  · -- there is a file on the way, so nothing is at `p`
    have habove : p.dropLast.inits.any s.isFile = true := by
      rw [FsEvent.apply] at h
      split at h
      · assumption
      · simp at h
    have hp : s p = none := by
      by_contra hp
      obtain ⟨r, hr, hfile⟩ := List.any_eq_true.mp habove
      rw [List.mem_inits] at hr
      by_cases hrp : r = p
      · have hlen := hr.length_le
        rw [hrp, List.length_dropLast] at hlen
        have hnil : r = [] := hrp.trans (List.eq_nil_of_length_eq_zero (by omega))
        rw [hnil, hs.noFile] at hfile
        simp at hfile
      · have hdir := hs.closed r p ((prefix_dropLast_iff hrp).mp hr) hrp hp
        rw [Files.isFile, hdir] at hfile
        simp at hfile
    refine ⟨s, .context "stat materialized whiteout target" (pathParts p) (.io .notADirectory), ?_⟩
    unfold removeEntry symlinkMetadata
    rw [hp, habove]
    rfl

lemma follows_createDirAll (text : String) (parts : List Bytes) {p : RelPath} (hp : p ≠ []) :
    Follows (withContext text parts (createDirAll p)) [.mkdir p] := by
  refine .single ?_ (fun s s' hs h => ?_) fun s hs h => ?_
  · rintro q node ⟨rfl, -⟩
    exact hp
  · obtain ⟨habove, rfl⟩ := FsEvent.apply_mkdir_eq_some.mp h
    rw [← FsEvent.any_inits_eq_false] at habove
    rw [withContext, Stateful.mapErr, createDirAll, habove]
    rfl
  · have habove : p.inits.any s.isFile = true := by
      rw [FsEvent.apply] at h
      split at h
      · assumption
      · simp at h
    rw [withContext, Stateful.mapErr, createDirAll, habove]
    exact ⟨_, _, rfl⟩

/-- A file is copied into its directory, which is made first. -/
lemma follows_copyFile (text text' : String) (parts parts' : List Bytes) (current : RelPath)
    (name : FileName) (data : Bytes) :
    Follows (do
      withContext text parts (createDirAll current)
      withContext text' parts' (writeFile (current ++ [name]) data))
      [.put (current ++ [name]) data] := by
  have hself : ¬ current ++ [name] <+: current := fun h => by
    have hlen := h.length_le
    rw [List.length_append, List.length_singleton] at hlen
    omega
  refine .single ?_ (fun s s' hs h => ?_) fun s hs h => ?_
  · rintro q node ⟨rfl, -⟩
    simp
  · obtain ⟨habove, hdir, rfl⟩ := FsEvent.apply_put_eq_some.mp h
    rw [List.dropLast_concat] at habove ⊢
    rw [← FsEvent.any_inits_eq_false] at habove
    have hmake : withContext text parts (createDirAll current) s
        = (Files.makeDirs s current, .ok ()) := by
      rw [withContext, Stateful.mapErr, createDirAll, habove]
      rfl
    rw [Stateful.bind_of_ok hmake, withContext, Stateful.mapErr, writeFile, List.dropLast_concat]
    have hcurrent : Files.makeDirs s current current = some .dir := if_pos (List.prefix_refl _)
    have hdir' : (Files.makeDirs s current).isDir (current ++ [name]) = false := by
      rw [Files.isDir, Files.makeDirs, if_neg hself]
      exact hdir
    rw [hcurrent, hdir']
    rfl
  · rw [FsEvent.apply, List.dropLast_concat] at h
    split at h
    · rename_i hbad
      by_cases habove : current.inits.any s.isFile = true
      · have hmake : withContext text parts (createDirAll current) s
            = (s, .err (.context text parts (.io .notADirectory))) := by
          rw [withContext, Stateful.mapErr, createDirAll, if_pos habove]
        exact ⟨_, _, Stateful.bind_of_err hmake⟩
      · have hmake : withContext text parts (createDirAll current) s
            = (Files.makeDirs s current, .ok ()) := by
          rw [withContext, Stateful.mapErr, createDirAll, if_neg habove]
        rw [Stateful.bind_of_ok hmake, withContext, Stateful.mapErr, writeFile,
          List.dropLast_concat]
        have hcurrent : Files.makeDirs s current current = some .dir := if_pos (List.prefix_refl _)
        have hdir' : (Files.makeDirs s current).isDir (current ++ [name]) = true := by
          rw [Files.isDir, Files.makeDirs, if_neg hself]
          exact hbad.resolve_left habove
        rw [hcurrent, hdir']
        exact ⟨_, _, rfl⟩
    · simp at h

/-! ## Names that are passed -/

/-- No name on the way from `current` to `p` is skipped. -/
def Passed (current p : RelPath) : Prop :=
  ∀ r, r <+: p → r ≠ [] → shouldSkipRelative (pathParts (current ++ r)) = false

lemma Passed.cons {current p : RelPath} {name : FileName} :
    Passed current (name :: p) ↔
      shouldSkipRelative (pathParts (current ++ [name])) = false ∧
        Passed (current ++ [name]) p := by
  constructor
  · intro h
    refine ⟨h [name] (by simp) (by simp), fun r hr hne => ?_⟩
    have hstep := h (name :: r) ((List.prefix_cons_inj name).mpr hr) (by simp)
    rwa [List.append_cons] at hstep
  · rintro ⟨hname, hrest⟩ r hr hne
    cases r with
    | nil => exact absurd rfl hne
    | cons x r =>
      obtain ⟨rfl, hrp⟩ := List.cons_prefix_cons.mp hr
      by_cases hnil : r = []
      · rw [hnil]
        exact hname
      · rw [List.append_cons]
        exact hrest r hrp hnil

lemma passed_nil (current : RelPath) : Passed current [] := by
  intro r hr hne
  exact absurd (List.prefix_nil.mp hr) hne

/-- The name of a whiteout. -/
def IsWhiteout (name : FileName) : Prop := overlayWhiteoutPrefix <+: name.bytes

/-- The overlay manifest and the runtime state files at the top, and whiteouts everywhere. -/
def IsSkipped (p : RelPath) : Prop :=
  pathParts p = [utf8 pgdataOverlayManifestName] ∨
    (∃ q name, p = q ++ [name] ∧ IsWhiteout name) ∨
    ∃ name ∈ runtimeStateFiles, pathParts p = [utf8 name]

lemma isWhiteout_iff (q : RelPath) (name : FileName) :
    (whiteoutTargetRelative (pathParts (q ++ [name]))).isSome = true ↔ IsWhiteout name := by
  have hascii : ∀ c ∈ overlayWhiteoutPrefix, c < 0x80 := by decide +kernel
  have hlast : (pathParts (q ++ [name])).getLast? = some name.bytes := by
    rw [pathParts, List.map_append]
    exact List.getLast?_concat
  unfold whiteoutTargetRelative IsWhiteout
  rw [hlast, ← prefix_toStringLossy_iff hascii]
  by_cases h : overlayWhiteoutPrefix <+: toStringLossy name.bytes <;> simp [h]

/-- `should_skip_relative` skips what it says. -/
lemma shouldSkipRelative_iff (p : RelPath) :
    shouldSkipRelative (pathParts p) = true ↔ IsSkipped p := by
  have hwhiteout : (whiteoutTargetRelative (pathParts p)).isSome = true ↔
      ∃ q name, p = q ++ [name] ∧ IsWhiteout name := by
    constructor
    · intro h
      rcases List.eq_nil_or_concat p with rfl | ⟨q, name, rfl⟩
      · simp [whiteoutTargetRelative, pathParts] at h
      · rw [List.concat_eq_append] at h ⊢
        exact ⟨q, name, rfl, (isWhiteout_iff q name).mp h⟩
    · rintro ⟨q, name, rfl, h⟩
      exact (isWhiteout_iff q name).mpr h
  unfold shouldSkipRelative IsSkipped
  rw [← hwhiteout]
  simp only [Bool.or_eq_true, decide_eq_true_eq, List.any_eq_true, or_assoc]

lemma passed_iff (p : RelPath) : Passed [] p ↔ ¬ ∃ r, r <+: p ∧ IsSkipped r := by
  unfold Passed
  constructor
  · rintro h ⟨r, hr, hskip⟩
    rw [← shouldSkipRelative_iff] at hskip
    by_cases hne : r = []
    · rw [hne] at hskip
      revert hskip
      decide +kernel
    · rw [← List.nil_append r, h r hr hne] at hskip
      simp at hskip
  · intro h r hr _
    rw [List.nil_append]
    exact Bool.eq_false_iff.mpr fun hskip => h ⟨r, hr, (shouldSkipRelative_iff r).mp hskip⟩

open Classical in
/-- What is copied of a tree. -/
noncomputable def passedFiles (d : PgDir) : PgFiles := fun p =>
  if Passed [] p then d.find p else none

lemma Passed.of_prefix {p r : RelPath} (h : Passed [] p) (hr : r <+: p) : Passed [] r :=
  fun x hx => h x (hx.trans hr)

/-! ## The log of a tree -/

/-- What copying a tree makes, in order. -/
def treeLog : RelPath → PgDir → List (FsEvent FileName Bytes)
  | _, .nil => []
  | current, .file name data rest =>
    (if shouldSkipRelative (pathParts (current ++ [name])) then []
      else [.put (current ++ [name]) data])
      ++ treeLog current rest
  | current, .dir name sub rest =>
    (if shouldSkipRelative (pathParts (current ++ [name])) then []
      else .mkdir (current ++ [name]) :: treeLog (current ++ [name]) sub)
      ++ treeLog current rest

/-- What the log makes is below an entry of the directory. -/
lemma makes_treeLog_below {d : PgDir} {current q : RelPath} {node : Node Bytes}
    {e : FsEvent FileName Bytes} (he : e ∈ treeLog current d) (hmakes : e.Makes q node) :
    ∃ name ∈ d.names, ∃ p, q = current ++ name :: p := by
  induction d generalizing current with
  | nil => simp [treeLog] at he
  | file name data rest ih =>
    rcases List.mem_append.mp he with he | he
    · split_ifs at he with hskip
      · simp at he
      · rw [List.mem_singleton.mp he] at hmakes
        obtain ⟨rfl, -⟩ := hmakes
        exact ⟨name, by simp [Dir.names], [], rfl⟩
    · obtain ⟨n, hn, p, hp⟩ := ih he
      exact ⟨n, List.mem_cons_of_mem _ hn, p, hp⟩
  | dir name sub rest ihsub ih =>
    rcases List.mem_append.mp he with he | he
    · split_ifs at he with hskip
      · simp at he
      · rcases List.mem_cons.mp he with rfl | he
        · obtain ⟨rfl, -⟩ := hmakes
          exact ⟨name, by simp [Dir.names], [], rfl⟩
        · obtain ⟨n, -, p, hp⟩ := ihsub he
          exact ⟨name, by simp [Dir.names], n :: p, by rw [hp, ← List.append_cons]⟩
    · obtain ⟨n, hn, p, hp⟩ := ih he
      exact ⟨n, List.mem_cons_of_mem _ hn, p, hp⟩

/-- What the log of a child and of the other entries make. -/
lemma makes_append_iff {l l' : List (FsEvent FileName Bytes)} {q : RelPath} {node : Node Bytes} :
    (∃ e ∈ l ++ l', e.Makes q node) ↔
      (∃ e ∈ l, e.Makes q node) ∨ ∃ e ∈ l', e.Makes q node := by
  simp only [List.mem_append, or_and_right, exists_or]

/-- **What the log of a tree makes**: each path of the tree whose names are all passed. -/
lemma makes_treeLog_iff {d : PgDir} (hd : d.Sorted) (current p : RelPath) (hp : p ≠ [])
    (node : Node Bytes) :
    (∃ e ∈ treeLog current d, e.Makes (current ++ p) node) ↔
      d.find p = some node ∧ Passed current p := by
  obtain ⟨x, p, rfl⟩ := List.exists_cons_of_ne_nil hp
  clear hp
  induction d generalizing current x p with
  | nil => simp [treeLog]
  | file name data rest ih =>
    rw [treeLog, makes_append_iff, ih hd.2, Dir.find_file_cons]
    by_cases hx : x = name
    · subst hx
      rw [if_pos rfl, Dir.find_eq_none_of_lt hd.1, Passed.cons]
      cases hskip : shouldSkipRelative (pathParts (current ++ [x])) with
      | true => simp
      | false =>
        by_cases hp : p = []
        · subst hp
          simp [FsEvent.Makes, passed_nil, eq_comm]
        · simp [FsEvent.Makes, hp, Ne.symm hp]
    · rw [if_neg hx]
      have hnot : ¬ ∃ e ∈ (if shouldSkipRelative (pathParts (current ++ [name])) then []
          else [.put (current ++ [name]) data] : List (FsEvent FileName Bytes)),
          e.Makes (current ++ x :: p) node := by
        rintro ⟨e, he, hmakes⟩
        split_ifs at he
        · simp at he
        · rw [List.mem_singleton.mp he] at hmakes
          exact hx (List.cons.inj (List.append_cancel_left hmakes.1)).1.symm
      exact or_iff_right hnot
  | dir name sub rest ihsub ih =>
    rw [treeLog, makes_append_iff, ih hd.2.2, Dir.find_dir_cons]
    by_cases hx : x = name
    · subst hx
      rw [if_pos rfl, Dir.find_eq_none_of_lt hd.1, Passed.cons]
      cases hskip : shouldSkipRelative (pathParts (current ++ [x])) with
      | true => simp
      | false =>
        cases p with
        | nil =>
          have hnot : ¬ ∃ e ∈ treeLog (current ++ [x]) sub, e.Makes (current ++ [x]) node := by
            rintro ⟨e, he, hmakes⟩
            obtain ⟨n, -, r, hr⟩ := makes_treeLog_below he hmakes
            simp at hr
          simp only [Bool.false_eq_true, if_false, List.mem_cons, or_and_right, exists_or,
            exists_eq_left]
          rw [or_iff_left hnot]
          simp [FsEvent.Makes, passed_nil, eq_comm]
        | cons y p =>
          rw [List.append_cons current x (y :: p)]
          simp only [Bool.false_eq_true, if_false, List.mem_cons, or_and_right, exists_or,
            exists_eq_left]
          rw [ihsub hd.2.1]
          simp [FsEvent.Makes]
    · rw [if_neg hx]
      have hnot : ¬ ∃ e ∈ (if shouldSkipRelative (pathParts (current ++ [name])) then []
          else .mkdir (current ++ [name]) :: treeLog (current ++ [name]) sub),
          e.Makes (current ++ x :: p) node := by
        rintro ⟨e, he, hmakes⟩
        split_ifs at he
        · simp at he
        · rcases List.mem_cons.mp he with rfl | he
          · exact hx (List.cons.inj (List.append_cancel_left hmakes.1)).1.symm
          · obtain ⟨n, -, r, hr⟩ := makes_treeLog_below he hmakes
            rw [← List.append_cons] at hr
            exact hx (List.cons.inj (List.append_cancel_left hr)).1
      exact or_iff_right hnot

/-- What the log of a tree makes, from the top. -/
lemma makes_treeLog {d : PgDir} (hd : d.Sorted) {e : FsEvent FileName Bytes}
    (he : e ∈ treeLog [] d) {q : RelPath} {node : Node Bytes} (hmakes : e.Makes q node) :
    q ≠ [] ∧ d.find q = some node ∧ Passed [] q := by
  obtain ⟨name, -, p, hq⟩ := makes_treeLog_below he hmakes
  have hne : q ≠ [] := by
    rw [hq]
    simp
  exact ⟨hne, (makes_treeLog_iff hd [] q hne node).mp ⟨e, he, hmakes⟩⟩

/-- The log of a tree makes something with each event. -/
lemma exists_makes_treeLog {d : PgDir} {current : RelPath} {e : FsEvent FileName Bytes}
    (he : e ∈ treeLog current d) : ∃ q node, e.Makes q node := by
  induction d generalizing current with
  | nil => simp [treeLog] at he
  | file name data rest ih =>
    rcases List.mem_append.mp he with he | he
    · split_ifs at he
      · simp at he
      · rw [List.mem_singleton.mp he]
        exact ⟨_, _, rfl, rfl⟩
    · exact ih he
  | dir name sub rest ihsub ih =>
    rcases List.mem_append.mp he with he | he
    · split_ifs at he
      · simp at he
      · rcases List.mem_cons.mp he with rfl | he
        · exact ⟨_, _, rfl, rfl⟩
        · exact ihsub he
    · exact ih he

/-- An empty directory has nothing but its root. -/
lemma emptyDirectory_ne_none {p : RelPath} (h : emptyDirectory p ≠ none) : p = [] := by
  cases p with
  | nil => rfl
  | cons x p => exact absurd rfl h

lemma rooted_emptyDirectory : Rooted emptyDirectory where
  closed p q hpq hne hq := by
    rw [emptyDirectory_ne_none hq, List.prefix_nil] at hpq
    rw [emptyDirectory_ne_none hq] at hne
    exact absurd hpq hne
  noFile := rfl

end PgliteOxide.Pglite
