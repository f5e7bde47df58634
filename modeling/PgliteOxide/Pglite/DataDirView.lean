import PgliteOxide.Pglite.DataDirLog

/-!
# The materialized view

`copy_pgdata_tree` turns a tree into a log of directory changes. Whether the log of the upper tree,
run on what is copied of the lower tree, leads to the union of the two is a question about this
log, which `materialize_eq_union_iff` answers.

Where a whiteout of `.` or `..` is met, it matters whether the directory that is filled is still
there. The whiteout without a name before it may have removed it, and this can be seen from the
names alone.
-/

namespace PgliteOxide.Pglite

open Lib

/-! ## The log of a tree with whiteouts -/

/-- The changes a whiteout of `.` or `..` asks for in a directory that is there. -/
def dotsLog (above : RemovedAbove) (directory : RelPath) (fileName : Bytes) :
    List (FsEvent FileName Bytes) :=
  if fileName = [46] then [.fail]
  else if directory = [] then
    match above with
    | .stuck _ _ => [.fail]
    | .removed _ => [.remove []]
  else [.clear directory.dropLast]

/-- The changes a whiteout asks for; `gone` says that its directory is not there. -/
def whiteoutLog (above : RemovedAbove) (gone : Bool) (directory : RelPath) (fileName : Bytes) :
    List (FsEvent FileName Bytes) :=
  if fileName = [] then [.remove directory]
  else
    match FileName.ofBytes? fileName with
    | some name => [.remove (directory ++ [name])]
    | none => if gone then [] else dotsLog above directory fileName

/-- The directory is gone after a whiteout. -/
def whiteoutGone (gone : Bool) (fileName : Bytes) : Bool :=
  if fileName = [] then true
  else
    match FileName.ofBytes? fileName with
    | some _ => gone
    | none => true

/-- The tree that is read is there after a whiteout. -/
def whiteoutStill (above : RemovedAbove) (gone : Bool) (directory : RelPath) (fileName : Bytes) :
    Bool :=
  if fileName = [] then true
  else
    match FileName.ofBytes? fileName, above with
    | none, .removed source => gone || fileName = [46] || directory ≠ [] || !source
    | _, _ => true

/-- The changes for a child, when copying it means `log`. -/
def childLog (above : RemovedAbove) (applyWhiteouts gone : Bool) (relative : RelPath)
    (log : List (FsEvent FileName Bytes)) : List (FsEvent FileName Bytes) :=
  match if applyWhiteouts then whiteoutTargetRelative (pathParts relative) else none with
  | some (_, fileName) => whiteoutLog above gone relative.dropLast fileName
  | none => if shouldSkipRelative (pathParts relative) then [] else log

/-- The directory is gone after a child. -/
def childGone (applyWhiteouts gone : Bool) (relative : RelPath) : Bool :=
  match if applyWhiteouts then whiteoutTargetRelative (pathParts relative) else none with
  | some (_, fileName) => whiteoutGone gone fileName
  | none => shouldSkipRelative (pathParts relative) && gone

/-- The tree that is read is there after a child. -/
def childStill (above : RemovedAbove) (applyWhiteouts gone : Bool) (relative : RelPath) : Bool :=
  match if applyWhiteouts then whiteoutTargetRelative (pathParts relative) else none with
  | some (_, fileName) => whiteoutStill above gone relative.dropLast fileName
  | none => true

/-- The changes `copy_pgdata_tree` makes, in order; `source` says that the tree that is read is
there, and `gone` that the directory that is filled is not. -/
def copyLog (above : RemovedAbove) (applyWhiteouts : Bool) :
    Bool → Bool → RelPath → PgDir → List (FsEvent FileName Bytes)
  | _, _, _, .nil => []
  | source, gone, current, .file name data rest =>
    childLog above applyWhiteouts gone (current ++ [name])
        (if source then [.put (current ++ [name]) data] else [.fail])
      ++ copyLog above applyWhiteouts
        (source && childStill above applyWhiteouts gone (current ++ [name]))
        (childGone applyWhiteouts gone (current ++ [name])) current rest
  | source, gone, current, .dir name sub rest =>
    childLog above applyWhiteouts gone (current ++ [name])
        (.mkdir (current ++ [name])
          :: if source then copyLog above applyWhiteouts true false (current ++ [name]) sub else [])
      ++ copyLog above applyWhiteouts
        (source && childStill above applyWhiteouts gone (current ++ [name]))
        (childGone applyWhiteouts gone (current ++ [name])) current rest

/-! ### The method makes the changes -/

/-- The directory, or only those above it. -/
structure Stands (s : PgFiles) (current : RelPath) (gone : Bool) : Prop where
  above : ∀ r, r <+: current → r ≠ current → s r = some .dir
  here : s current = if gone then none else some .dir

/-- From such a state the method makes the changes of the log and returns `a`, and fails where the
log does. -/
def FollowsFrom {α : Type} (pre post : PgFiles → Prop) (m : DirMethod α) (a : α)
    (log : List (FsEvent FileName Bytes)) : Prop :=
  ∀ s, Rooted s → pre s →
    (∀ s', runLog log s = some s' → m s = (s', .ok a) ∧ Rooted s' ∧ post s') ∧
    (runLog log s = none → ∃ s' err, m s = (s', .err err))

section FollowsFrom

variable {α β : Type} {pre mid post : PgFiles → Prop} {log log' : List (FsEvent FileName Bytes)}

lemma FollowsFrom.pure (a : α) : FollowsFrom pre pre (pure a) a [] := by
  intro s hs hpre
  refine ⟨fun s' h => ?_, fun h => by simp [runLog] at h⟩
  cases h
  exact ⟨rfl, hs, hpre⟩

lemma FollowsFrom.bind {m : DirMethod α} {f : α → DirMethod β} {a : α} {b : β}
    (h : FollowsFrom pre mid m a log) (h' : FollowsFrom mid post (f a) b log') :
    FollowsFrom pre post (m >>= f) b (log ++ log') := by
  intro s hs hpre
  obtain ⟨hok, hfail⟩ := h s hs hpre
  rw [runLog_append]
  cases hrun : runLog log s with
  | none =>
    refine ⟨fun s' hs' => by simp at hs', fun _ => ?_⟩
    obtain ⟨s', err, hm⟩ := hfail hrun
    exact ⟨s', err, Stateful.bind_of_err hm⟩
  | some s₁ =>
    obtain ⟨hm, hs₁, hmid⟩ := hok s₁ hrun
    rw [Stateful.bind_of_ok hm]
    exact h' s₁ hs₁ hmid

lemma FollowsFrom.mono {post' : PgFiles → Prop} {m : DirMethod α} {a : α}
    (h : FollowsFrom pre post m a log) (hpost : ∀ s, post s → post' s) :
    FollowsFrom pre post' m a log := by
  intro s hs hpre
  obtain ⟨hok, hfail⟩ := h s hs hpre
  refine ⟨fun s' hrun => ?_, hfail⟩
  obtain ⟨hm, hs', hpost'⟩ := hok s' hrun
  exact ⟨hm, hs', hpost s' hpost'⟩

/-- A method that fails in such a state. -/
lemma FollowsFrom.fail {m : DirMethod α} {a : α}
    (h : ∀ s, pre s → ∃ s' err, m s = (s', .err err)) : FollowsFrom pre post m a [.fail] := by
  intro s _ hpre
  exact ⟨nofun, fun _ => h s hpre⟩

/-- A method that makes the changes from any state. -/
lemma Follows.from {m : DirMethod Unit} (h : Follows m log)
    (hpost : ∀ s s', pre s → runLog log s = some s' → post s') : FollowsFrom pre post m () log := by
  intro s hs hpre
  obtain ⟨hok, hfail⟩ := h s hs
  refine ⟨fun s' hrun => ?_, hfail⟩
  obtain ⟨hm, hs'⟩ := hok s' hrun
  exact ⟨hm, hs', hpost s s' hpre hrun⟩

end FollowsFrom

/-- The run of one event. -/
lemma runLog_singleton {e : FsEvent FileName Bytes} {s s' : PgFiles} :
    runLog [e] s = some s' ↔ e.apply s = some s' := by
  rw [runLog]
  cases e.apply s <;> rfl

section Stands

variable {s s' : PgFiles} {current : RelPath} {name : FileName} {gone : Bool}

lemma not_prefix_concat : ¬ current ++ [name] <+: current := by
  intro h
  have hlen := h.length_le
  rw [List.length_append, List.length_singleton] at hlen
  omega

/-- The directory itself is removed. -/
lemma Stands.removed (h : Stands s current gone) : Stands (s.removeTree current) current true where
  above r hr hne := by
    have hnot : ¬ current <+: r := fun hcr => hne (hr.eq_of_length_le hcr.length_le)
    rw [Files.removeTree, if_neg hnot]
    exact h.above r hr hne
  here := if_pos (List.prefix_refl current)

/-- An entry of the directory is removed. -/
lemma Stands.removedEntry (h : Stands s current gone) :
    Stands (s.removeTree (current ++ [name])) current gone where
  above r hr hne := by
    rw [Files.removeTree, if_neg fun hcr => not_prefix_concat (hcr.trans hr)]
    exact h.above r hr hne
  here := by
    rw [Files.removeTree, if_neg not_prefix_concat]
    exact h.here

/-- What is beside the directory is removed with it. -/
lemma Stands.cleared (h : Stands s current gone) (hne : current ≠ []) :
    Stands (s.removeBelow current.dropLast) current true where
  above r hr hrc := by
    have hparent : r <+: current.dropLast := (prefix_dropLast_iff hrc).mpr hr
    have hnot : ¬ (current.dropLast <+: r ∧ r ≠ current.dropLast) := fun hbelow =>
      hbelow.2 (hparent.eq_of_length_le hbelow.1.length_le)
    rw [Files.removeBelow, if_neg hnot]
    exact h.above r hr hrc
  here := by
    have hself : current ≠ current.dropLast := fun heq => by
      have hlen := congrArg List.length heq
      have hpos := List.length_pos_of_ne_nil hne
      rw [List.length_dropLast] at hlen
      omega
    exact if_pos ⟨List.dropLast_prefix current, hself⟩

/-- An entry of the directory is made. -/
lemma stands_makeDirs : Stands (s.makeDirs (current ++ [name])) (current ++ [name]) false where
  above _ hr _ := if_pos hr
  here := if_pos (List.prefix_refl _)

lemma stands_put (data : Bytes) :
    Stands ((s.makeDirs current).put (current ++ [name]) data) current false where
  above r hr _ := by
    have hne : r ≠ current ++ [name] := fun heq => not_prefix_concat (heq ▸ hr)
    rw [Files.put, if_neg hne, Files.makeDirs, if_pos hr]
  here := by
    have hne : current ≠ current ++ [name] := by simp
    exact (if_neg hne).trans (if_pos (List.prefix_refl current))

/-- What stands below the entries of a directory stands in it. -/
lemma stands_of_above (h : ∀ r, r <+: current ++ [name] → r ≠ current ++ [name] → s r = some .dir) :
    Stands s current false := by
  have hbelow : ∀ r, r <+: current → s r = some .dir := fun r hr =>
    h r (hr.trans (List.prefix_append _ _)) fun heq => not_prefix_concat (heq ▸ hr)
  exact ⟨fun r hr _ => hbelow r hr, hbelow current (List.prefix_refl _)⟩

end Stands

section Copy

variable (above : RemovedAbove) (applyWhiteouts : Bool)

lemma follows_removeDots (gone : Bool) (directory : RelPath) (fileName : Bytes)
    (hname : fileName ≠ []) (hdots : FileName.ofBytes? fileName = none) :
    FollowsFrom (Stands · directory gone) (Stands · directory true)
      (removeMaterializedDots above directory fileName)
      (whiteoutStill above gone directory fileName)
      (if gone then [] else dotsLog above directory fileName) := by
  have hstill : whiteoutStill above gone directory fileName = true ∨
      gone = false ∧ fileName ≠ [46] ∧ directory = [] ∧ above = .removed true := by
    unfold whiteoutStill
    rw [if_neg hname, hdots]
    rcases above with ⟨err, left⟩ | _ | _ <;> cases gone <;>
      by_cases hdot : fileName = [46] <;> by_cases hdir : directory = [] <;> simp [hdot, hdir]
  cases gone with
  | true =>
    rw [hstill.resolve_right (by simp)]
    intro s hs hstands
    refine ⟨fun s' hrun => ?_, fun hrun => by simp [runLog] at hrun⟩
    cases hrun
    -- nothing is at the directory, and no file is above it
    have hfree : directory.dropLast.inits.any s.isFile = false := by
      rw [FsEvent.any_inits_eq_false]
      intro r hr
      by_cases hrd : r = directory
      · rw [hrd, Files.isFile, hstands.here]
        rfl
      · exact Files.isFile_of_dir (hstands.above r ((prefix_dropLast_iff hrd).mp hr) hrd)
    have hnone : s directory = none := hstands.here
    refine ⟨?_, hs, hstands⟩
    unfold removeMaterializedDots dotsMetadata symlinkMetadata
    rw [hnone, hfree]
    rfl
  | false =>
    -- the directory is there, so that it all depends on `remove_dir_all`
    have hthere {s : PgFiles} (hstands : Stands s directory false) :
        removeMaterializedDots above directory fileName s
          = (removeDots above directory fileName).mapErr
            (fun err => .context "remove materialized whiteout directory"
              (pathParts directory ++ [fileName]) (.io err)) s := by
      have hdir : s directory = some .dir := hstands.here
      unfold removeMaterializedDots dotsMetadata symlinkMetadata
      rw [hdir]
    rw [if_neg Bool.false_ne_true]
    unfold dotsLog
    by_cases hdot : fileName = [46]
    · rw [if_pos hdot]
      refine .fail fun s hstands => ?_
      have hcall : removeDots above directory fileName s
          = (s.removeBelow directory, .err .invalidInput) := if_pos hdot
      rw [hthere hstands, Stateful.mapErr, hcall]
      exact ⟨_, _, rfl⟩
    · rw [if_neg hdot]
      by_cases hroot : directory = []
      · rw [if_pos hroot]
        cases above with
        | stuck err left =>
          refine .fail fun s hstands => ?_
          have hcall : removeDots (.stuck err left) directory fileName s = (left, .err err) := by
            unfold removeDots
            rw [if_neg hdot, if_pos hroot]
          rw [hthere hstands, Stateful.mapErr, hcall]
          exact ⟨_, _, rfl⟩
        | removed source =>
          have hstays : whiteoutStill (.removed source) false directory fileName = !source := by
            unfold whiteoutStill
            rw [if_neg hname, hdots]
            simp [hdot, hroot]
          rw [hstays]
          intro s hs hstands
          have hcall : removeDots (.removed source) directory fileName s
              = (fun _ => none, .ok !source) := by
            unfold removeDots
            rw [if_neg hdot, if_pos hroot]
          have hrun : runLog [.remove []] s = some fun _ => none := by
            rw [runLog_singleton, FsEvent.apply_remove_eq_some]
            refine ⟨fun r hr => ?_, funext fun p => (if_pos List.nil_prefix).symm⟩
            rw [List.prefix_nil.mp hr]
            exact hs.noFile
          refine ⟨fun s' hs' => ?_, fun hnone => absurd (hrun.symm.trans hnone) (by simp)⟩
          cases hrun.symm.trans hs'
          rw [hthere hstands, Stateful.mapErr, hcall]
          refine ⟨rfl, ⟨fun p q _ _ h => absurd rfl h, rfl⟩, ?_⟩
          rw [hroot]
          exact ⟨fun r hr hne => absurd (List.prefix_nil.mp hr) hne, rfl⟩
      · rw [if_neg hroot, hstill.resolve_right fun h => hroot h.2.2.1]
        intro s hs hstands
        have hcall : removeDots above directory fileName s
            = (s.removeBelow directory.dropLast, .ok true) := by
          unfold removeDots
          rw [if_neg hdot, if_neg hroot]
        refine ⟨fun s' hrun => ?_, fun hrun => by cases hrun⟩
        cases hrun
        rw [hthere hstands, Stateful.mapErr, hcall]
        refine ⟨rfl, ⟨hs.closed.removeBelow _, ?_⟩, hstands.cleared hroot⟩
        rw [Files.isFile, Files.removeBelow]
        split_ifs
        · rfl
        · exact hs.noFile

lemma follows_removeMaterializedEntry (gone : Bool) (directory : RelPath) (fileName : Bytes) :
    FollowsFrom (Stands · directory gone) (Stands · directory (whiteoutGone gone fileName))
      (removeMaterializedEntry above directory fileName)
      (whiteoutStill above gone directory fileName)
      (whiteoutLog above gone directory fileName) := by
  unfold removeMaterializedEntry whiteoutGone whiteoutLog
  by_cases hname : fileName = []
  · have hstill : whiteoutStill above gone directory fileName = true := if_pos hname
    rw [if_pos hname, if_pos hname, if_pos hname, hstill]
    refine FollowsFrom.bind ((follows_removeEntry directory).from ?_) (.pure true)
    intro s s' hstands hrun
    obtain ⟨-, rfl⟩ := FsEvent.apply_remove_eq_some.mp (runLog_singleton.mp hrun)
    exact hstands.removed
  · rw [if_neg hname, if_neg hname, if_neg hname]
    cases hentry : FileName.ofBytes? fileName with
    | none => exact follows_removeDots above gone directory fileName hname hentry
    | some name =>
      have hstill : whiteoutStill above gone directory fileName = true := by
        unfold whiteoutStill
        rw [if_neg hname, hentry]
      rw [hstill]
      refine FollowsFrom.bind ((follows_removeEntry (directory ++ [name])).from ?_) (.pure true)
      intro s s' hstands hrun
      obtain ⟨-, rfl⟩ := FsEvent.apply_remove_eq_some.mp (runLog_singleton.mp hrun)
      exact hstands.removedEntry

lemma follows_copyChild (gone : Bool) (current : RelPath) (name : FileName)
    {copy : DirMethod Unit} {log : List (FsEvent FileName Bytes)}
    (h : FollowsFrom (Stands · current gone) (Stands · current false) copy () log) :
    FollowsFrom (Stands · current gone)
      (Stands · current (childGone applyWhiteouts gone (current ++ [name])))
      (copyChild above applyWhiteouts (current ++ [name]) copy)
      (childStill above applyWhiteouts gone (current ++ [name]))
      (childLog above applyWhiteouts gone (current ++ [name]) log) := by
  unfold copyChild childGone childStill childLog
  cases if applyWhiteouts then whiteoutTargetRelative (pathParts (current ++ [name])) else none with
  | some target =>
    rw [List.dropLast_concat]
    exact follows_removeMaterializedEntry above gone current target.2
  | none =>
    cases shouldSkipRelative (pathParts (current ++ [name])) with
    | true => exact .pure true
    | false =>
      rw [← List.append_nil (if false then [] else log)]
      exact FollowsFrom.bind (f := fun _ => pure true) h (.pure true)

/-- A file is copied, if it is still there. -/
lemma follows_copySource (source gone : Bool) (text text' : String) (parts parts' : List Bytes)
    (current : RelPath) (name : FileName) (data : Bytes) :
    FollowsFrom (Stands · current gone) (Stands · current false)
      (do
        withContext text parts (createDirAll current)
        withContext text' parts'
          (if source then writeFile (current ++ [name]) data else Stateful.fail .notFound))
      () (if source then [.put (current ++ [name]) data] else [.fail]) := by
  cases source with
  | true =>
    refine (follows_copyFile text text' parts parts' current name data).from fun s s' _ hrun => ?_
    obtain ⟨-, -, rfl⟩ := FsEvent.apply_put_eq_some.mp (runLog_singleton.mp hrun)
    rw [List.dropLast_concat]
    exact stands_put data
  | false =>
    refine .fail fun s _ => ?_
    by_cases hfile : current.inits.any s.isFile = true
    · have hstop : withContext text parts (createDirAll current) s
          = (s, .err (.context text parts (.io .notADirectory))) := by
        rw [withContext, Stateful.mapErr, createDirAll, if_pos hfile]
      exact ⟨_, _, Stateful.bind_of_err hstop⟩
    · have hmade : withContext text parts (createDirAll current) s
          = (Files.makeDirs s current, .ok ()) := by
        rw [withContext, Stateful.mapErr, createDirAll, if_neg hfile]
      rw [Stateful.bind_of_ok hmade]
      exact ⟨_, _, rfl⟩

/-- **Copying a tree makes the changes of its log.** -/
lemma follows_copyPgdataTree (source gone : Bool) (current : RelPath) (d : PgDir) :
    FollowsFrom (Stands · current gone)
      (fun s => ∀ r, r <+: current → r ≠ current → s r = some .dir)
      (copyPgdataTree above applyWhiteouts source current d) ()
      (copyLog above applyWhiteouts source gone current d) := by
  induction d generalizing source gone current with
  | nil => exact (FollowsFrom.pure ()).mono fun s h => h.above
  | file name data rest ih =>
    exact (follows_copyChild above applyWhiteouts gone current name
      (follows_copySource source gone _ _ _ _ current name data)).bind (ih _ _ current)
  | dir name sub rest ihsub ih =>
    refine (follows_copyChild above applyWhiteouts gone current name ?_).bind (ih _ _ current)
    have hmade : FollowsFrom (Stands · current gone) (Stands · (current ++ [name]) false)
        (withContext "create materialized PGDATA directory" (pathParts (current ++ [name]))
          (createDirAll (current ++ [name]))) () [.mkdir (current ++ [name])] := by
      refine (follows_createDirAll _ _ (by simp)).from fun s s' _ hrun => ?_
      obtain ⟨-, rfl⟩ := FsEvent.apply_mkdir_eq_some.mp (runLog_singleton.mp hrun)
      exact stands_makeDirs
    cases source with
    | true =>
      exact hmade.bind ((ihsub true false (current ++ [name])).mono fun s h => stands_of_above h)
    | false =>
      exact hmade.bind ((FollowsFrom.pure ()).mono fun s h => stands_of_above h.above)

end Copy

/-! ### What is in the log -/

/-- Without whiteouts a tree is copied as it is. -/
lemma copyLog_false (above : RemovedAbove) (gone : Bool) (current : RelPath) (d : PgDir) :
    copyLog above false true gone current d = treeLog current d := by
  induction d generalizing gone current with
  | nil => rfl
  | file name data rest ih =>
    unfold copyLog treeLog
    exact congrArg _ (ih _ current)
  | dir name sub rest ihsub ih =>
    unfold copyLog treeLog
    rw [if_pos rfl, ihsub]
    exact congrArg _ (ih _ current)

section Events

variable {above : RemovedAbove} {applyWhiteouts : Bool} {e : FsEvent FileName Bytes}

/-- An event of a whiteout is about its directory or about an entry of it. -/
lemma mem_whiteoutLog {gone : Bool} {directory : RelPath} {fileName : Bytes}
    (h : e ∈ whiteoutLog above gone directory fileName) :
    e = .fail ∨ (∃ t, e = .clear t) ∨ e = .remove directory ∨
      ∃ name, e = .remove (directory ++ [name]) := by
  unfold whiteoutLog at h
  by_cases hname : fileName = []
  · rw [if_pos hname] at h
    exact .inr (.inr (.inl (List.mem_singleton.mp h)))
  · rw [if_neg hname] at h
    split at h
    · exact .inr (.inr (.inr ⟨_, List.mem_singleton.mp h⟩))
    · cases gone with
      | true => simp at h
      | false =>
        rw [if_neg Bool.false_ne_true] at h
        unfold dotsLog at h
        split_ifs at h with hdot hroot
        · exact .inl (List.mem_singleton.mp h)
        · rcases above with ⟨err, left⟩ | source
          · exact .inl (List.mem_singleton.mp h)
          · rw [hroot]
            exact .inr (.inr (.inl (List.mem_singleton.mp h)))
        · exact .inr (.inl ⟨_, List.mem_singleton.mp h⟩)

/-- The events of a child are those of a whiteout, or those of its copy. -/
lemma mem_childLog {gone : Bool} {relative : RelPath} {log : List (FsEvent FileName Bytes)}
    (h : e ∈ childLog above applyWhiteouts gone relative log) :
    (∃ fileName, e ∈ whiteoutLog above gone relative.dropLast fileName) ∨
      shouldSkipRelative (pathParts relative) = false ∧ e ∈ log := by
  unfold childLog at h
  split at h
  · exact .inl ⟨_, h⟩
  · split_ifs at h with hskip
    · simp at h
    · exact .inr ⟨by simpa using hskip, h⟩

/-- **The log of a tree**: what copying it makes, and what is removed for the whiteouts in
directories of the tree that are passed. -/
lemma mem_copyLog {d : PgDir} (hd : d.Sorted) {source gone : Bool} {current : RelPath}
    (he : e ∈ copyLog above applyWhiteouts source gone current d) :
    e ∈ treeLog current d ∨ e = .fail ∨ (∃ t, e = .clear t) ∨
      ∃ p, d.find p = some .dir ∧ Passed current p ∧
        (e = .remove (current ++ p) ∨ ∃ name, e = .remove (current ++ p ++ [name])) := by
  -- what is found below another entry of the directory is found in the directory
  have hlift {name : FileName} {rest : PgDir} (hname : ∀ m ∈ rest.names, name < m) {p : RelPath}
      (hp : rest.find p = some .dir) : p = [] ∨ ∃ x r, p = x :: r ∧ x ≠ name := by
    cases p with
    | nil => exact .inl rfl
    | cons x r =>
      refine .inr ⟨x, r, rfl, ?_⟩
      rintro rfl
      exact nomatch (Dir.find_eq_none_of_lt hname r).symm.trans hp
  -- a whiteout is found in the directory itself
  have hwhiteout {gone : Bool} {current : RelPath} {name : FileName} {fileName : Bytes} {d : PgDir}
      (he : e ∈ whiteoutLog above gone (current ++ [name]).dropLast fileName) :
      e = .fail ∨ (∃ t, e = .clear t) ∨ ∃ p, d.find p = some .dir ∧ Passed current p ∧
        (e = .remove (current ++ p) ∨ ∃ name, e = .remove (current ++ p ++ [name])) := by
    rw [List.dropLast_concat] at he
    refine (mem_whiteoutLog he).imp_right (Or.imp_right fun h => ?_)
    refine ⟨[], Dir.find_root _, passed_nil _, ?_⟩
    rwa [List.append_nil]
  induction d generalizing source gone current with
  | nil => simp [copyLog] at he
  | file name data rest ih =>
    rcases List.mem_append.mp he with he | he
    · rcases mem_childLog he with ⟨fileName, he⟩ | ⟨hskip, he⟩
      · exact .inr (hwhiteout he)
      · cases source with
        | false => exact .inr (.inl (List.mem_singleton.mp he))
        | true =>
          refine .inl (List.mem_append_left _ ?_)
          rw [hskip]
          exact he
    · rcases ih hd.2 he with htree | hfail | hclear | ⟨p, hp, hpassed, he⟩
      · exact .inl (List.mem_append_right _ htree)
      · exact .inr (.inl hfail)
      · exact .inr (.inr (.inl hclear))
      · refine .inr (.inr (.inr ⟨p, ?_, hpassed, he⟩))
        rcases hlift hd.1 hp with rfl | ⟨x, r, rfl, hx⟩
        · exact Dir.find_root _
        · rw [Dir.find_file_cons, if_neg hx, hp]
  | dir name sub rest ihsub ih =>
    rcases List.mem_append.mp he with he | he
    · rcases mem_childLog he with ⟨fileName, he⟩ | ⟨hskip, he⟩
      · exact .inr (hwhiteout he)
      · rcases List.mem_cons.mp he with hmkdir | he
        · refine .inl (List.mem_append_left _ ?_)
          rw [hskip, hmkdir]
          exact List.mem_cons_self
        · cases source with
          | false => simp at he
          | true =>
            rcases ihsub hd.2.1 he with htree | hfail | hclear | ⟨p, hp, hpassed, he⟩
            · refine .inl (List.mem_append_left _ ?_)
              rw [hskip]
              exact List.mem_cons_of_mem _ htree
            · exact .inr (.inl hfail)
            · exact .inr (.inr (.inl hclear))
            · refine .inr (.inr (.inr ⟨name :: p, ?_, Passed.cons.mpr ⟨hskip, hpassed⟩, ?_⟩))
              · rw [Dir.find_dir_cons, if_pos rfl, hp]
              · rwa [List.append_cons]
    · rcases ih hd.2.2 he with htree | hfail | hclear | ⟨p, hp, hpassed, he⟩
      · exact .inl (List.mem_append_right _ htree)
      · exact .inr (.inl hfail)
      · exact .inr (.inr (.inl hclear))
      · refine .inr (.inr (.inr ⟨p, ?_, hpassed, he⟩))
        rcases hlift hd.1 hp with rfl | ⟨x, r, rfl, hx⟩
        · exact Dir.find_root _
        · rw [Dir.find_dir_cons, if_neg hx, hp]

/-- What the log makes is made by copying the tree. -/
lemma mem_treeLog_of_makes {d : PgDir} (hd : d.Sorted) {source gone : Bool} {current q : RelPath}
    {node : Node Bytes} (he : e ∈ copyLog above applyWhiteouts source gone current d)
    (hmakes : e.Makes q node) : e ∈ treeLog current d := by
  rcases mem_copyLog hd he with htree | rfl | ⟨t, rfl⟩ | ⟨p, -, -, rfl | ⟨name, rfl⟩⟩
  · exact htree
  all_goals exact hmakes.elim

end Events

/-! ### The order of the log -/

section Order

variable {above : RemovedAbove} {applyWhiteouts : Bool}

/-- The events of a child come after the directories above it, if those of its copy do. -/
lemma ordered_childLog {gone : Bool} {current : RelPath} {name : FileName}
    {log : List (FsEvent FileName Bytes)} {made : RelPath → Prop}
    (habove : ∀ r, r <+: current → made r) (hlog : Ordered made log) :
    Ordered made (childLog above applyWhiteouts gone (current ++ [name]) log) := by
  unfold childLog
  split
  · rw [List.dropLast_concat]
    refine .of_makes_nothing fun e he => ?_
    rcases mem_whiteoutLog he with rfl | ⟨t, rfl⟩ | rfl | ⟨name, rfl⟩
    · exact ⟨fun _ _ => id, fun t ht => nomatch ht⟩
    · exact ⟨fun _ _ => id, fun t ht => nomatch ht⟩
    · refine ⟨fun _ _ => id, fun t ht r hr _ => ?_⟩
      cases ht
      exact habove r hr
    · refine ⟨fun _ _ => id, fun t ht r hr hne => ?_⟩
      cases ht
      exact habove r ((List.prefix_concat_iff.mp hr).resolve_left hne)
  · split_ifs
    · trivial
    · exact hlog

/-- An entry is made below its directory, where nothing with its name has been made. -/
lemma ordered_entry {current : RelPath} {name : FileName} {made : RelPath → Prop}
    (habove : ∀ r, r <+: current → made r) (hnot : ∀ p, ¬ made (current ++ name :: p)) :
    (∀ r, r <+: current ++ [name] → r ≠ current ++ [name] → made r) ∧
      ∀ r, current ++ [name] <+: r → ¬ made r := by
  refine ⟨fun r hr hne => habove r ((List.prefix_concat_iff.mp hr).resolve_left hne), ?_⟩
  rintro r ⟨p, rfl⟩
  rw [← List.append_cons]
  exact hnot p

/-- What the log of a child makes is below its name. -/
lemma makes_childLog_below {gone : Bool} {current q : RelPath} {name : FileName}
    {log : List (FsEvent FileName Bytes)} {node : Node Bytes} {e : FsEvent FileName Bytes}
    (hlog : ∀ e ∈ log, ∀ q node, e.Makes q node → ∃ p, q = current ++ name :: p)
    (he : e ∈ childLog above applyWhiteouts gone (current ++ [name]) log)
    (hmakes : e.Makes q node) : ∃ p, q = current ++ name :: p := by
  rcases mem_childLog he with ⟨fileName, he⟩ | ⟨-, he⟩
  · rcases mem_whiteoutLog he with rfl | ⟨t, rfl⟩ | rfl | ⟨name, rfl⟩
    all_goals exact hmakes.elim
  · exact hlog e he q node hmakes

/-- After an entry, the others are still to be made. -/
lemma not_made_others {current : RelPath} {name : FileName} {rest : PgDir}
    {log : List (FsEvent FileName Bytes)} {made : RelPath → Prop}
    (hname : ∀ m ∈ rest.names, name < m)
    (hbelow : ∀ m ∈ rest.names, ∀ p, ¬ made (current ++ m :: p))
    (hlog : ∀ e ∈ log, ∀ q node, e.Makes q node → ∃ p, q = current ++ name :: p) :
    ∀ m ∈ rest.names, ∀ p, ¬ (made (current ++ m :: p) ∨
      ∃ e ∈ log, ∃ node, e.Makes (current ++ m :: p) node) := by
  rintro m hm p (hmade | ⟨e, he, node, hmakes⟩)
  · exact hbelow m hm p hmade
  · obtain ⟨r, hr⟩ := hlog e he _ node hmakes
    have heq : m = name := (List.cons.inj (List.append_cancel_left hr)).1
    have hlt := hname m hm
    rw [heq] at hlt
    exact lt_irrefl name hlt

/-- **The log of a tree is ordered**: a directory comes before what is in it, and nothing comes
twice. The induction carries which paths have been made before. -/
lemma ordered_copyLog {d : PgDir} (hd : d.Sorted) {source gone : Bool} {current : RelPath}
    {made : RelPath → Prop} (habove : ∀ r, r <+: current → made r)
    (hbelow : ∀ name ∈ d.names, ∀ p, ¬ made (current ++ name :: p)) :
    Ordered made (copyLog above applyWhiteouts source gone current d) := by
  induction d generalizing source gone current made with
  | nil => trivial
  | file name data rest ih =>
    have hchild : ∀ e ∈ (if source then [.put (current ++ [name]) data] else [.fail] :
        List (FsEvent FileName Bytes)), ∀ q node, e.Makes q node →
          ∃ p, q = current ++ name :: p := by
      intro e he q node hmakes
      split_ifs at he
      · rw [List.mem_singleton.mp he] at hmakes
        exact ⟨[], hmakes.1.symm⟩
      · rw [List.mem_singleton.mp he] at hmakes
        exact hmakes.elim
    rw [copyLog, Ordered.append]
    refine ⟨ordered_childLog habove ?_, ih hd.2 (fun r hr => .inl (habove r hr)) ?_⟩
    · split_ifs
      · refine ⟨?_, by simp, trivial⟩
        rintro q node ⟨rfl, -⟩
        exact ordered_entry habove (hbelow name (by simp [Dir.names]))
      · refine .of_makes_nothing fun e he => ?_
        rw [List.mem_singleton.mp he]
        exact ⟨fun _ _ => id, fun _ h => by cases h⟩
    · exact not_made_others hd.1 (fun m hm => hbelow m (List.mem_cons_of_mem _ hm))
        fun e he q node => makes_childLog_below hchild he
  | dir name sub rest ihsub ih =>
    have hchild : ∀ e ∈ (.mkdir (current ++ [name]) :: if source then
        copyLog above applyWhiteouts true false (current ++ [name]) sub else []),
        ∀ q node, e.Makes q node → ∃ p, q = current ++ name :: p := by
      intro e he q node hmakes
      rcases List.mem_cons.mp he with rfl | he
      · exact ⟨[], hmakes.1.symm⟩
      · split_ifs at he
        · obtain ⟨n, -, p, rfl⟩ :=
            makes_treeLog_below (mem_treeLog_of_makes hd.2.1 he hmakes) hmakes
          exact ⟨n :: p, (List.append_cons ..).symm⟩
        · simp at he
    rw [copyLog, Ordered.append]
    refine ⟨ordered_childLog habove ⟨?_, by simp, ?_⟩,
      ih hd.2.2 (fun r hr => .inl (habove r hr)) ?_⟩
    · rintro q node ⟨rfl, -⟩
      exact ordered_entry habove (hbelow name (by simp [Dir.names]))
    · split_ifs
      · refine ihsub hd.2.1 (fun r hr => ?_) ?_
        · rcases List.prefix_concat_iff.mp hr with rfl | hr
          · exact .inr ⟨.dir, rfl, rfl⟩
          · exact .inl (habove r hr)
        · rintro n hn p (hmade | ⟨node, hmakes, -⟩)
          · rw [← List.append_cons] at hmade
            exact hbelow name (by simp [Dir.names]) _ hmade
          · simp at hmakes
      · trivial
    · exact not_made_others hd.1 (fun m hm => hbelow m (List.mem_cons_of_mem _ hm))
        fun e he q node => makes_childLog_below hchild he

lemma ordered_copyLog_root {d : PgDir} (hd : d.Sorted) {source gone : Bool} :
    Ordered (· = []) (copyLog above applyWhiteouts source gone [] d) := by
  refine ordered_copyLog hd (fun r hr => List.prefix_nil.mp hr) ?_
  intro name _ p
  simp

/-- The log of a tree shows in every view that has what is copied of the tree. -/
lemma shows_copyLog {d : PgDir} (hd : d.Sorted) {source gone : Bool} {view : PgFiles}
    (hview : ∀ p node, d.find p = some node → Passed [] p → view p = some node) :
    Shows (copyLog above applyWhiteouts source gone [] d) view := by
  -- directories above something of the tree are in the view
  have habove {p r : RelPath} (hp : d.find p ≠ none) (hpassed : Passed [] p) (hr : r <+: p)
      (hne : r ≠ p) : view r = some .dir := by
    obtain ⟨t, rfl⟩ := hr
    have ht : t ≠ [] := by
      rintro rfl
      simp at hne
    exact hview r .dir (Dir.find_above ht hp) (hpassed.of_prefix (List.prefix_append _ _))
  refine ⟨fun e he q node hmakes => ?_, fun t ht r hr hne => ?_⟩
  · obtain ⟨-, hfind, hpassed⟩ := makes_treeLog hd (mem_treeLog_of_makes hd he hmakes) hmakes
    exact ⟨hview q node hfind hpassed, fun r => habove (by rw [hfind]; simp) hpassed⟩
  · rcases mem_copyLog hd ht with htree | hfail | ⟨t', hclear⟩ | ⟨p, hfind, hpassed, he⟩
    · obtain ⟨q, node, hmakes⟩ := exists_makes_treeLog htree
      exact hmakes.elim
    · exact nomatch hfail
    · exact nomatch hclear
    · rw [List.nil_append] at he
      rcases he with he | ⟨name, he⟩
      · rw [FsEvent.remove.inj he] at hr hne
        exact habove (by rw [hfind]; simp) hpassed hr hne
      · rw [FsEvent.remove.inj he] at hr hne
        by_cases hrp : r = p
        · rw [hrp]
          exact hview p .dir hfind hpassed
        · exact habove (by rw [hfind]; simp) hpassed
            ((List.prefix_concat_iff.mp hr).resolve_left hne) hrp

end Order

/-- **Copying a tree into an empty directory** copies what is passed. -/
lemma run_treeLog_empty {d : PgDir} (hd : d.Sorted) :
    runLog (treeLog [] d) emptyDirectory = some (passedFiles d) := by
  have hview : ∀ p node, d.find p = some node → Passed [] p → passedFiles d p = some node := by
    intro p node hfind hpassed
    rw [passedFiles, if_pos hpassed, hfind]
  have hroot : passedFiles d [] = some .dir := hview [] .dir (Dir.find_root d) (passed_nil [])
  -- the log removes nothing
  have hmakes : ∀ e ∈ treeLog [] d, ∃ q node, e.Makes q node := fun e => exists_makes_treeLog
  have hremoves : ∀ e ∈ treeLog [] d, ∀ p, ¬ e.Removes p := by
    intro e he p hrem
    obtain ⟨q, node, h⟩ := hmakes e he
    exact hrem.not_builds ⟨q, node, h, List.prefix_refl q⟩
  have hord : Ordered (· = []) (treeLog [] d) := by
    rw [← copyLog_false (.removed true) false]
    exact ordered_copyLog_root hd
  have hshow : Shows (treeLog [] d) (passedFiles d) := by
    rw [← copyLog_false (.removed true) false]
    exact shows_copyLog hd hview
  have htransforms : Transforms (treeLog [] d) emptyDirectory (passedFiles d) := by
    refine ⟨fun hfail => ?_, ?_, ?_, ?_, ?_⟩
    · obtain ⟨q, node, h⟩ := hmakes .fail hfail
      exact h.elim
    · intro pre e post hlog p _ hrem _
      exact absurd hrem (hremoves e (by rw [hlog]; simp) p)
    · intro pre p post hlog hfile
      obtain ⟨data, hdata⟩ := Files.isFile_iff.mp hfile
      have hp : p = [] := emptyDirectory_ne_none (by rw [hdata]; simp)
      rw [hp] at hdata
      cases hdata
    · intro pre p data post hlog hdir
      have hp : p = [] := emptyDirectory_ne_none (by rw [Files.isDir_iff.mp hdir]; simp)
      have hput : (FsEvent.put p data).Makes p (.file data) := ⟨rfl, rfl⟩
      exact absurd hp ((hlog ▸ hord).at hput).2.2
    · intro p hp _ hnot
      have hempty : emptyDirectory p = none := by
        by_contra hne
        exact hp (emptyDirectory_ne_none hne)
      rw [hempty]
      unfold passedFiles
      split
      · rename_i hpassed
        by_contra hfind
        obtain ⟨node, hnode⟩ := Option.ne_none_iff_exists'.mp hfind
        obtain ⟨e, he, hmake⟩ := (makes_treeLog_iff hd [] p hp node).mpr ⟨hnode, hpassed⟩
        exact hnot e he ⟨p, node, hmake, List.prefix_refl p⟩
      · rfl
  obtain ⟨s, hrun, hsame⟩ := (run_shows_iff hshow hord rfl hroot).mpr htransforms
  -- the root is never removed
  have hkeeps : s [] = some .dir := by
    obtain ⟨halive, -, hkept⟩ := runLog_find hshow hrun []
    by_cases hlive : Alive (treeLog [] d) []
    · exact (halive hlive).trans hroot
    · refine hkept hlive ?_
      rintro ⟨e, he, hrem⟩
      exact hremoves e he [] hrem
  have heq : s = passedFiles d := by
    funext p
    by_cases hp : p = []
    · rw [hp, hkeeps, hroot]
    · exact hsame p hp
  rw [hrun, heq]

/-! ## The union -/

/-- A whiteout of the upper tree names the path or a directory above it. -/
def IsHidden (upper : PgDir) (p : RelPath) : Prop :=
  ∃ q name whiteout, q ++ [name] <+: p ∧
    whiteout.bytes = overlayWhiteoutPrefix ++ name.bytes ∧ upper.find (q ++ [whiteout]) ≠ none

/-- A file of the upper tree is above the path. -/
def IsBelowFile (upper : PgDir) (p : RelPath) : Prop :=
  ∃ q, q <+: p ∧ q ≠ p ∧ Files.isFile upper.find q = true

open Classical in
/-- The union of the two trees: the upper one as it is, and the lower one where nothing hides
it. -/
noncomputable def overlayUnion (lower upper : PgDir) : PgFiles := fun p =>
  if ∃ r, r <+: p ∧ IsSkipped r then none
  else
    match upper.find p with
    | some node => some node
    | none => if IsHidden upper p ∨ IsBelowFile upper p then none else lower.find p

/-! ## The main result -/

lemma overlayUnion_of_upper {lower upper : PgDir} {p : RelPath} {node : Node Bytes}
    (hfind : upper.find p = some node) (hpassed : Passed [] p) :
    overlayUnion lower upper p = some node := by
  rw [overlayUnion, if_neg ((passed_iff p).mp hpassed), hfind]

lemma stands_emptyDirectory : Stands emptyDirectory [] false where
  above _ hr hne := absurd (List.prefix_nil.mp hr) hne
  here := rfl

/-- The lower tree is copied as it is. -/
lemma copyPgdataTree_lower (above : RemovedAbove) {d : PgDir} (hd : d.Sorted) :
    copyPgdataTree above false true [] d emptyDirectory = (passedFiles d, .ok ()) ∧
      Rooted (passedFiles d) := by
  have hfollows := follows_copyPgdataTree above false true false [] d emptyDirectory
    rooted_emptyDirectory stands_emptyDirectory
  rw [copyLog_false] at hfollows
  obtain ⟨hrun, hrooted, -⟩ := hfollows.1 _ (run_treeLog_empty hd)
  exact ⟨hrun, hrooted⟩

/-- What the view shows below its own directory. -/
def ShowsUnion (lower upper : PgDir) (r : PgFiles × Outcome DirError Unit) : Prop :=
  r.2 = .ok () ∧ ∀ p, p ≠ [] → r.1 p = overlayUnion lower upper p

/-- **The materialized view.** For every lower and every upper tree, `materialize_pgdata_view`
succeeds with the union of the two exactly when the changes the upper tree asks for transform what
is copied of the lower tree into the union: no whiteout of `.` comes where its directory is there,
and none of `..` that makes the copy fail; what the union shows where a whiteout removes is copied
later; where one tree has a file and the other a directory, a whiteout has removed the entry
before; and what is neither copied nor removed is in the union as the lower tree has it. -/
theorem materialize_eq_union_iff (above : RemovedAbove) (lower upper : PgTree) :
    ShowsUnion lower.1 upper.1
        (materializePgdataView above (some upper.1) (some (some lower.1)) emptyDirectory) ↔
      Transforms (copyLog above true true false [] upper.1) (passedFiles lower.1)
        (overlayUnion lower.1 upper.1) := by
  obtain ⟨lower, hlower⟩ := lower
  obtain ⟨upper, hupper⟩ := upper
  have hview : ∀ p node, upper.find p = some node → Passed [] p →
      overlayUnion lower upper p = some node := fun p node => overlayUnion_of_upper
  have hroot : overlayUnion lower upper [] = some .dir :=
    hview [] .dir (Dir.find_root upper) (passed_nil [])
  have hbase : passedFiles lower [] = some .dir := by
    rw [passedFiles, if_pos (passed_nil []), Dir.find_root]
  obtain ⟨hcopied, hrooted⟩ := copyPgdataTree_lower above hlower
  have hmaterialize : materializePgdataView above (some upper) (some (some lower)) emptyDirectory
      = copyPgdataTree above true true [] upper (passedFiles lower) :=
    Stateful.bind_of_ok hcopied
  have hstands : Stands (passedFiles lower) [] false :=
    ⟨fun r hr hne => absurd (List.prefix_nil.mp hr) hne, hbase⟩
  rw [hmaterialize, ← run_shows_iff (shows_copyLog hupper hview) (ordered_copyLog_root hupper)
    hbase hroot]
  -- the changes of the upper tree, and nothing else
  obtain ⟨hok, hfail⟩ := follows_copyPgdataTree above true true false [] upper _ hrooted hstands
  constructor
  · rintro ⟨hends, hsame⟩
    cases hrun : runLog (copyLog above true true false [] upper) (passedFiles lower) with
    | none =>
      obtain ⟨s, err, hs⟩ := hfail hrun
      rw [hs] at hends
      cases hends
    | some s =>
      rw [(hok s hrun).1] at hsame
      exact ⟨s, rfl, hsame⟩
  · rintro ⟨s, hrun, hsame⟩
    rw [(hok s hrun).1]
    exact ⟨rfl, hsame⟩

/-- A lower directory `d` that became a file. -/
def directoryD : PgTree := ⟨.dir ⟨[100], by decide⟩ .nil .nil, by simp [Dir.Sorted, Dir.names]⟩

def fileD : PgTree := ⟨.file ⟨[100], by decide⟩ [1] .nil, by simp [Dir.Sorted, Dir.names]⟩

def dotA : FileName := ⟨[46, 97], by decide⟩

/-- A lower file `.a`, and the upper file `.a` that replaced it, beside the whiteout `.wh..a`. -/
def fileDotA : PgTree := ⟨.file dotA [0] .nil, by simp [Dir.Sorted, Dir.names]⟩

def replacedDotA : PgTree :=
  ⟨.file dotA [1] (.file ⟨[46, 119, 104, 46, 46, 97], by decide⟩ [] .nil),
    by simp only [Dir.Sorted, Dir.names]; decide⟩

/-- Two unions that are not made: a file that takes the place of a directory makes the copy fail,
and a whiteout that sorts after the file re-created beside it removes that file again. -/
theorem union_not_materialized :
    ¬ ShowsUnion directoryD.1 fileD.1
        (materializePgdataView (.removed false) (some fileD.1) (some (some directoryD.1))
          emptyDirectory) ∧
    ¬ ShowsUnion fileDotA.1 replacedDotA.1
        (materializePgdataView (.removed false) (some replacedDotA.1) (some (some fileDotA.1))
          emptyDirectory) := by
  constructor
  · rintro ⟨hends, -⟩
    revert hends
    decide +kernel
  · rintro ⟨-, hsame⟩
    have hgone : (materializePgdataView (.removed false) (some replacedDotA.1)
        (some (some fileDotA.1)) emptyDirectory).1 [dotA] = none := by decide +kernel
    have hpassed : Passed [] [dotA] :=
      Passed.cons.mpr ⟨by decide +kernel, passed_nil _⟩
    have hunion : overlayUnion fileDotA.1 replacedDotA.1 [dotA] = some (.file [1]) :=
      overlayUnion_of_upper rfl hpassed
    rw [hsame [dotA] (by simp), hunion] at hgone
    cases hgone

end PgliteOxide.Pglite
