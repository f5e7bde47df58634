import PgliteOxide.Pglite.ArchiveUnpack
import PgliteOxide.Pglite.RootFrame

/-!
# Loading a PGDATA archive

`prepare_root_from_data_dir_archive` of `base.rs` removes PGDATA and unpacks the archive in its
place; whether the archive holds a cluster is looked at last. The archive is well formed
(`ArchiveWellFormed`) exactly where this succeeds, and only then, or where PGDATA has nothing to
lose, is a root safe from a load that fails (`load_atomic_iff`). Calls of `std::fs` fail only for
what is in the directory.
-/

namespace PgliteOxide.Pglite

open Lib

/-! ## The code -/

/-- `if path.exists() { fs::remove_file(&path)?; }`. -/
def removeIfExists (name : FileName) : DirMethod Unit := fun s =>
  if Files.exists' s [name] then withContext "remove" [name.bytes] (removeFile [name]) s
  else (s, .ok ())

/-- `remove_template_runtime_state` of the directory itself. -/
def removeRuntimeState : List FileName → DirMethod Unit
  | [] => pure ()
  | name :: names => do
    removeIfExists name
    removeRuntimeState names

/-- The `ensure!` on the markers of a cluster. -/
def ensureLoaded : DirMethod Unit := fun s =>
  if s.isFile [pgVersionName] && s.isFile [globalName, pgControlName] then (s, .ok ())
  else (s, .err (.msg "loaded PGDATA archive did not contain PG_VERSION and global/pg_control"))

/-- `prepare_root_from_data_dir_archive`, from the empty PGDATA on. -/
def loadArchive (codec : ArchiveCodec) (archive : Bytes) : DirMethod Unit := do
  (unpackPgdataArchive codec archive).mapErr (.context "load PGDATA archive into" [])
  removeRuntimeState templateRuntimeStateFiles
  ensureLoaded

/-- `if paths.pgdata.exists() { fs::remove_dir_all(&paths.pgdata)?; }`. -/
def removeExistingPgdata : DirMethod Unit := fun s =>
  if Files.exists' s [] then withContext "remove existing PGDATA" [] (removeDirAll []) s
  else (s, .ok ())

/-- `prepare_root_from_data_dir_archive`; the layout is what `prepare_runtime_layout` returns, which
does not touch PGDATA. -/
def prepareRootFromDataDirArchive (codec : ArchiveCodec) (layout : Except DirError RuntimeLayout)
    (archive : Bytes) : DirMethod RuntimeLayout := do
  let layout ← Stateful.lift (Outcome.ofExcept layout)
  removeExistingPgdata
  withContext "create PGDATA" [] (createDirAll [])
  loadArchive codec archive
  return layout

/-! ## Well-formed archives -/

/-- The archive is read to its end, its entries have safe paths and are complete files and
directories that do not stand in each other's way, a cluster is among them, and no directory has
the name of a state file. -/
structure ArchiveWellFormed (codec : ArchiveCodec) (archive : Bytes) : Prop where
  readable : ∃ items, archiveItems codec archive = .ok items ∧ ∃ changes,
    archiveChanges codec items = some changes ∧ Fillable changes ∧
      FileOf changes [pgVersionName] ∧ FileOf changes [globalName, pgControlName] ∧
      ∀ name ∈ templateRuntimeStateFiles, ∀ d, DirOf changes d → ¬ [name] <+: d

/-! ## The load -/

/-- The state files are not there, or one of them is a directory and stops the call. -/
lemma removeRuntimeState_eq {names : List FileName} {s : PgFiles}
    (hfiles : ∀ name ∈ names, s.isFile [name] = false) :
    ∃ r, removeRuntimeState names s = (s, r) ∧ r ≠ .panic ∧
      (r = .ok () ↔ ∀ name ∈ names, s.isDir [name] = false) := by
  induction names with
  | nil => exact ⟨_, rfl, nofun, iff_of_true rfl fun _ h => absurd h List.not_mem_nil⟩
  | cons name names ih =>
    obtain ⟨r, hrest, hends, hiff⟩ := ih fun n hn => hfiles n (List.mem_cons_of_mem name hn)
    unfold removeRuntimeState
    cases hnode : s [name] with
    | none =>
      have hhead : removeIfExists name s = (s, .ok ()) := by
        unfold removeIfExists Files.exists'
        rw [hnode]
        rfl
      have hdir : s.isDir [name] = false := by
        unfold Files.isDir
        rw [hnode]
      rw [Stateful.bind_of_ok hhead]
      refine ⟨r, hrest, hends, ?_⟩
      rw [hiff, List.forall_mem_cons, and_iff_right hdir]
    | some node =>
      cases node with
      | file data =>
        have hfile : s.isFile [name] = true := Files.isFile_iff.mpr ⟨data, hnode⟩
        exact absurd ((hfiles name List.mem_cons_self).symm.trans hfile) Bool.false_ne_true
      | dir =>
        have hhead : removeIfExists name s
            = (s, .err (.context "remove" [name.bytes] (.io .isADirectory))) := by
          unfold removeIfExists Files.exists' withContext Stateful.mapErr removeFile
          rw [hnode]
          rfl
        refine ⟨_, Stateful.bind_of_err hhead, nofun, iff_of_false nofun fun hall => ?_⟩
        have hdir : s.isDir [name] = true := Files.isDir_iff.mpr hnode
        exact Bool.false_ne_true ((hall name List.mem_cons_self).symm.trans hdir)

/-- State files are skipped. -/
lemma skip_stateFiles {name : FileName} (h : name ∈ templateRuntimeStateFiles) :
    shouldSkipRelative (pathParts [name]) = true := by
  have hall : ∀ name ∈ templateRuntimeStateFiles,
      shouldSkipRelative (pathParts [name]) = true := by
    decide +kernel
  exact hall name h

/-- What follows the unpacking changes nothing, and succeeds where the markers were unpacked and
no directory has the name of a state file. -/
lemma loadArchive_of_unpacked {codec : ArchiveCodec} {archive : Bytes} {s : PgFiles}
    {changes : List (FsEvent FileName Bytes)}
    (hunpack : unpackPgdataArchive codec archive emptyDirectory = (s, .ok ()))
    (hfilled : Filled changes s)
    (hskipped : ∀ name ∈ templateRuntimeStateFiles, ¬ FileOf changes [name]) :
    ∃ r, loadArchive codec archive emptyDirectory = (s, r) ∧ r ≠ .panic ∧
      (r = .ok () ↔
        FileOf changes [pgVersionName] ∧ FileOf changes [globalName, pgControlName] ∧
          ∀ name ∈ templateRuntimeStateFiles, ∀ d, DirOf changes d → ¬ [name] <+: d) := by
  have hfiles : ∀ name ∈ templateRuntimeStateFiles, s.isFile [name] = false := by
    intro name hname
    rw [Bool.eq_false_iff, ne_eq, hfilled.files]
    exact hskipped name hname
  have hdirs : (∀ name ∈ templateRuntimeStateFiles, s.isDir [name] = false) ↔
      ∀ name ∈ templateRuntimeStateFiles, ∀ d, DirOf changes d → ¬ [name] <+: d := by
    refine forall₂_congr fun name _ => ?_
    rw [Bool.eq_false_iff, ne_eq, hfilled.dirs, or_iff_right (List.cons_ne_nil name []), not_exists]
    exact forall_congr' fun d => not_and
  obtain ⟨r, hremove, hends, hiff⟩ := removeRuntimeState_eq hfiles
  have hfirst : Stateful.mapErr (DirError.context "load PGDATA archive into" [])
      (unpackPgdataArchive codec archive) emptyDirectory = (s, .ok ()) := by
    unfold Stateful.mapErr
    rw [hunpack]
  unfold loadArchive
  rw [Stateful.bind_of_ok hfirst, ← hdirs]
  rcases r with u | err | _
  · have hremovable := hiff.mp rfl
    rw [Stateful.bind_of_ok hremove]
    unfold ensureLoaded
    rw [← hfilled.files, ← hfilled.files]
    by_cases hmarkers : (s.isFile [pgVersionName] && s.isFile [globalName, pgControlName]) = true
    · rw [if_pos hmarkers]
      rw [Bool.and_eq_true] at hmarkers
      exact ⟨_, rfl, nofun, iff_of_true rfl ⟨hmarkers.1, hmarkers.2, hremovable⟩⟩
    · rw [if_neg hmarkers]
      rw [Bool.and_eq_true] at hmarkers
      exact ⟨_, rfl, nofun, iff_of_false nofun fun h => hmarkers ⟨h.1, h.2.1⟩⟩
  · refine ⟨_, Stateful.bind_of_err hremove, nofun, iff_of_false nofun fun h => ?_⟩
    exact nomatch hiff.mpr h.2.2
  · exact absurd rfl hends

/-- A load stops where the unpacking does. -/
lemma loadArchive_of_err {codec : ArchiveCodec} {archive : Bytes} {s s' : PgFiles} {err : DirError}
    (h : unpackPgdataArchive codec archive s = (s', .err err)) :
    loadArchive codec archive s = (s', .err (.context "load PGDATA archive into" [] err)) := by
  apply Stateful.bind_of_err
  unfold Stateful.mapErr
  rw [h]

/-- Well-formed archives, by the changes they ask for. -/
lemma archiveWellFormed_iff {codec : ArchiveCodec} {archive : Bytes}
    {items : List (Except String TarItem)} {changes : List (FsEvent FileName Bytes)}
    (hitems : archiveItems codec archive = .ok items)
    (hchanges : archiveChanges codec items = some changes) :
    ArchiveWellFormed codec archive ↔ Fillable changes ∧
      FileOf changes [pgVersionName] ∧ FileOf changes [globalName, pgControlName] ∧
      ∀ name ∈ templateRuntimeStateFiles, ∀ d, DirOf changes d → ¬ [name] <+: d := by
  constructor
  · rintro ⟨items', hitems', changes', hchanges', hrest⟩
    rw [hitems] at hitems'
    cases hitems'
    rw [hchanges] at hchanges'
    cases hchanges'
    exact hrest
  · exact fun hrest => ⟨items, hitems, changes, hchanges, hrest⟩

/-- **A load into an empty directory succeeds exactly with a well-formed archive.** What it leaves
is what the archive has up to its first fault. -/
lemma loadArchive_eq {codec : ArchiveCodec} (hunpack : codec.UnpackRules) (archive : Bytes) :
    ∃ r, loadArchive codec archive emptyDirectory = (archiveFiles codec archive, r) ∧
      r ≠ .panic ∧ (r = .ok () ↔ ArchiveWellFormed codec archive) := by
  rw [← unpackPgdataArchive_fst hunpack]
  have hstop : (∃ s' err, unpackPgdataArchive codec archive emptyDirectory = (s', .err err)) →
      ¬ ArchiveWellFormed codec archive → ∃ r, loadArchive codec archive emptyDirectory
        = ((unpackPgdataArchive codec archive emptyDirectory).1, r) ∧ r ≠ .panic ∧
      (r = .ok () ↔ ArchiveWellFormed codec archive) := by
    rintro ⟨s', err, herr⟩ hnot
    rw [herr]
    exact ⟨_, loadArchive_of_err herr, nofun, iff_of_false nofun hnot⟩
  cases hitems : archiveItems codec archive with
  | error text =>
    apply hstop
    · rw [unpackPgdataArchive_of_error hitems]
      exact ⟨_, _, rfl⟩
    · rintro ⟨items, hok, -⟩
      rw [hitems] at hok
      cases hok
  | ok items =>
    have hloop := unpackPgdataArchive_of_ok hitems
    cases hchanges : archiveChanges codec items with
    | none =>
      apply hstop
      · rw [hloop]
        exact fails_archiveChanges hunpack hchanges rooted_emptyDirectory
      · rintro ⟨items', hok, changes, hsome, -⟩
        rw [hitems] at hok
        cases hok
        rw [hchanges] at hsome
        cases hsome
    | some changes =>
      obtain ⟨hok, hfail⟩ := follows_archiveChanges hunpack hchanges emptyDirectory
        rooted_emptyDirectory
      have hadds : ∀ e ∈ changes, e.Adds := by
        intro e he
        rcases archiveChanges_mem hchanges he with ⟨p, rfl⟩ | ⟨p, data, rfl, hne, -⟩
        · exact trivial
        · exact hne
      have hrun : (∃ s, runLog changes emptyDirectory = some s) ↔ Fillable changes :=
        filled_nil.runLog_iff fillable_nil hadds
      have hwell := archiveWellFormed_iff hitems hchanges
      cases hlog : runLog changes emptyDirectory with
      | none =>
        apply hstop
        · rw [hloop]
          exact hfail hlog
        · rw [hwell]
          rintro ⟨hfits, -⟩
          obtain ⟨s', hs'⟩ := hrun.mpr hfits
          rw [hlog] at hs'
          cases hs'
      | some s =>
        obtain ⟨hunpacked, -⟩ := hok s hlog
        rw [← hloop] at hunpacked
        have hfilled : Filled changes s := filled_nil.runLog hadds hlog
        have hskipped : ∀ name ∈ templateRuntimeStateFiles, ¬ FileOf changes [name] := by
          rintro name hname ⟨data, hmem⟩
          rcases archiveChanges_mem hchanges hmem with ⟨p, heq⟩ | ⟨p, data', heq, -, hskip⟩
          · cases heq
          · cases heq
            exact Bool.false_ne_true (hskip.symm.trans (skip_stateFiles hname))
        obtain ⟨r, hload, hends, hiff⟩ := loadArchive_of_unpacked hunpacked hfilled hskipped
        refine ⟨r, ?_, hends, ?_⟩
        · rw [hload, hunpacked]
        · rw [hiff, hwell, and_iff_right (hrun.mp ⟨s, hlog⟩)]

/-! ## The root -/

/-- What was in PGDATA is gone when the archive is looked at. -/
lemma prepareRoot_eq {codec : ArchiveCodec} {layout : RuntimeLayout} {archive : Bytes} {s : PgFiles}
    (hclosed : s.Closed) (hnofile : s.isFile [] = false) :
    prepareRootFromDataDirArchive codec (.ok layout) archive s
      = (loadArchive codec archive >>= fun _ => pure layout) emptyDirectory := by
  have hmade : Files.makeDirs (fun _ => none) [] = emptyDirectory := by
    funext p
    cases p with
    | nil => exact if_pos (List.prefix_refl [])
    | cons x p => exact if_neg fun h => List.cons_ne_nil x p (List.prefix_nil.mp h)
  have hremoved : removeExistingPgdata s = ((fun _ => none), .ok ()) := by
    unfold removeExistingPgdata Files.exists'
    cases hroot : s [] with
    | none =>
      have hnone : s = fun _ => none := by
        funext p
        by_contra hp
        by_cases hnil : p = []
        · exact hp (hnil ▸ hroot)
        · exact nomatch hroot.symm.trans (hclosed [] p List.nil_prefix (Ne.symm hnil) hp)
      rw [hnone]
      rfl
    | some node =>
      cases node with
      | file data =>
        have hfile : s.isFile [] = true := Files.isFile_iff.mpr ⟨data, hroot⟩
        exact absurd (hnofile.symm.trans hfile) Bool.false_ne_true
      | dir =>
        have htree : s.removeTree [] = fun _ => none := funext fun p => if_pos List.nil_prefix
        unfold withContext Stateful.mapErr removeDirAll
        rw [hroot, htree]
        rfl
  have hcreated : withContext "create PGDATA" [] (createDirAll []) (fun _ => none)
      = (emptyDirectory, .ok ()) := by
    rw [← hmade]
    rfl
  show Stateful.bind removeExistingPgdata _ s = _
  unfold Stateful.bind
  rw [hremoved]
  show Stateful.bind (withContext "create PGDATA" [] (createDirAll [])) _ _ = _
  unfold Stateful.bind
  rw [hcreated]

/-- **A load that fails leaves PGDATA as it was exactly where it has nothing to lose**: the runtime
is not there, PGDATA is no directory, the archive is well formed, or PGDATA has just what the
archive has up to its first fault. -/
theorem load_atomic_iff (codec : ArchiveCodec) (hunpack : codec.UnpackRules)
    (layout : Except DirError RuntimeLayout) (archive : Bytes) {s : PgFiles} (hclosed : s.Closed) :
    (∀ s' err, prepareRootFromDataDirArchive codec layout archive s = (s', .err err) → s' = s) ↔
      (∃ err, layout = .error err) ∨ s.isFile [] = true ∨ ArchiveWellFormed codec archive ∨
        s = archiveFiles codec archive := by
  rcases layout with err | layout
  · -- nothing has happened to PGDATA
    refine iff_of_true (fun s' err' h => ?_) (.inl ⟨err, rfl⟩)
    have hstop : prepareRootFromDataDirArchive codec (.error err) archive s = (s, .err err) := rfl
    rw [hstop] at h
    cases h
    rfl
  cases hfile : s.isFile [] with
  | true =>
    -- `remove_dir_all` refuses a file
    refine iff_of_true (fun s' err' h => ?_) (.inr (.inl rfl))
    obtain ⟨data, hdata⟩ := Files.isFile_iff.mp hfile
    have hrefused : removeExistingPgdata s
        = (s, .err (.context "remove existing PGDATA" [] (.io .notADirectory))) := by
      unfold removeExistingPgdata Files.exists' withContext Stateful.mapErr removeDirAll
      rw [hdata]
      rfl
    have hstop : prepareRootFromDataDirArchive codec (.ok layout) archive s
        = (s, .err (.context "remove existing PGDATA" [] (.io .notADirectory))) := by
      show Stateful.bind removeExistingPgdata _ s = _
      exact Stateful.bind_of_err hrefused
    rw [hstop] at h
    cases h
    rfl
  | false =>
    obtain ⟨r, hload, hends, hiff⟩ := loadArchive_eq hunpack archive
    rw [prepareRoot_eq hclosed hfile, ← hiff]
    simp only [reduceCtorEq, exists_false, Bool.false_eq_true, false_or]
    rcases r with u | err | _
    · refine iff_of_true (fun s' err' h => ?_) (.inl rfl)
      rw [Stateful.bind_of_ok hload] at h
      cases h
    · rw [Stateful.bind_of_err hload]
      constructor
      · intro hsame
        exact .inr (hsame _ err rfl).symm
      · rintro (hok | heq) s' err' h
        · cases hok
        · cases h
          exact heq.symm
    · exact absurd rfl hends

/-! ### An archive of a cluster -/

/-- The entries of a plain archive whose first path is text. -/
lemma archiveItems_plainTar {e : TarEntry} {entries : List TarEntry}
    (hstorable : ∀ e' ∈ e :: entries, e'.member.Storable) {text : String}
    (hname : utf8 text = e.path) (hshort : e.path.length < 100) :
    archiveItems plainTar (Tar.archive ((e :: entries).map TarEntry.member))
      = .ok ((e :: entries).map fun e => .ok (TarItem.ofMember
        ⟨e.path, e.entryType.typeFlag, e.data, true, Tar.header e.member⟩)) := by
  obtain ⟨rest, hrest⟩ := archive_front hshort entries
  have hplain : ¬ [0x1f, 0x8b] <+: Tar.archive ((e :: entries).map TarEntry.member) := by
    rw [hrest, ← hname]
    exact not_gzip text rest
  unfold archiveItems
  rw [if_neg hplain]
  exact (untar_archive hstorable).2

def clusterEntries : List TarEntry :=
  [⟨utf8 "PG_VERSION", .regular, 0o644, 0, utf8 "17"⟩, ⟨utf8 "global", .directory, 0o755, 0, []⟩,
    ⟨utf8 "global/pg_control", .regular, 0o644, 0, [1]⟩]

/-- A plain archive of the smallest cluster. -/
def clusterArchive : Bytes := Tar.archive (clusterEntries.map TarEntry.member)

def clusterChanges : List (FsEvent FileName Bytes) :=
  [.put [pgVersionName] (utf8 "17"), .mkdir [globalName], .put [globalName, pgControlName] [1]]

lemma wellFormed_clusterArchive : ArchiveWellFormed plainTar clusterArchive := by
  have hitems := @archiveItems_plainTar (clusterEntries.head (by decide)) clusterEntries.tail
    (by decide +kernel) "PG_VERSION" rfl (by decide +kernel)
  have hversion : FileOf clusterChanges [pgVersionName] := ⟨_, List.mem_cons_self⟩
  have hcontrol : FileOf clusterChanges [globalName, pgControlName] :=
    ⟨_, List.mem_cons_of_mem _ (List.mem_cons_of_mem _ List.mem_cons_self)⟩
  -- the directories that are made
  have hdirs : ∀ d, DirOf clusterChanges d → d = [] ∨ d = [globalName] := by
    rintro d (hdir | ⟨p, data, hput, hd⟩)
    · simp only [clusterChanges, List.mem_cons, reduceCtorEq, FsEvent.mkdir.injEq, false_or,
        List.not_mem_nil, or_false] at hdir
      exact .inr hdir
    · simp only [clusterChanges, List.mem_cons, reduceCtorEq, FsEvent.put.injEq, false_or,
        List.not_mem_nil, or_false] at hput
      rcases hput with ⟨rfl, -⟩ | ⟨rfl, -⟩
      · exact .inl hd.symm
      · exact .inr hd.symm
  refine ⟨⟨_, hitems, clusterChanges, by decide +kernel, ?_, hversion, hcontrol, ?_⟩⟩
  · rintro p d ⟨data, hput⟩ hdir
    simp only [clusterChanges, List.mem_cons, reduceCtorEq, FsEvent.put.injEq, false_or,
      List.not_mem_nil, or_false] at hput
    rcases hput with ⟨rfl, -⟩ | ⟨rfl, -⟩ <;> rcases hdirs d hdir with rfl | rfl <;> decide +kernel
  · intro name hname d hdir
    rcases hdirs d hdir with rfl | rfl
    · exact fun hpre => List.cons_ne_nil _ _ (List.prefix_nil.mp hpre)
    · revert name
      decide +kernel

lemma closed_clusterFiles : Files.Closed Root.clusterFiles.find := by
  rintro p q ⟨r, rfl⟩ hne hq
  exact Dir.find_above (by rintro rfl; simp at hne) hq

/-- A cluster is replaced by the one in a well-formed archive, and the load does not fail. -/
theorem load_atomic_iff_cluster :
    plainTar.UnpackRules ∧ Files.Closed Root.clusterFiles.find ∧
      ∀ s' err, prepareRootFromDataDirArchive plainTar (.ok Root.sharedLayout) clusterArchive
        Root.clusterFiles.find = (s', .err err) → s' = Root.clusterFiles.find :=
  ⟨unpackRules_plainTar, closed_clusterFiles,
    (load_atomic_iff plainTar unpackRules_plainTar (.ok Root.sharedLayout) clusterArchive
      closed_clusterFiles).mpr (.inr (.inr (.inl wellFormed_clusterArchive)))⟩

/-- A complete cluster is lost to an archive without entries. -/
theorem cluster_lost_to_archive :
    ¬ ∀ s' err, prepareRootFromDataDirArchive plainTar (.ok Root.sharedLayout) Tar.endOfArchive
      Root.clusterFiles.find = (s', .err err) → s' = Root.clusterFiles.find := by
  have hitems : archiveItems plainTar Tar.endOfArchive = .ok [] := by
    obtain ⟨zeros, hzeros⟩ : ∃ zeros, Tar.endOfArchive = utf8 "" ++ 0 :: zeros :=
      ⟨List.replicate 1023 0, by rw [Tar.endOfArchive, List.replicate_succ]; rfl⟩
    have hplain : ¬ [0x1f, 0x8b] <+: Tar.endOfArchive := by
      rw [hzeros]
      exact not_gzip "" zeros
    unfold archiveItems
    rw [if_neg hplain]
    have hnone : ∀ e ∈ ([] : List TarEntry), e.member.Storable :=
      fun e he => absurd he List.not_mem_nil
    exact (untar_archive hnone).2
  have hload : loadArchive plainTar Tar.endOfArchive emptyDirectory = (emptyDirectory,
      .err (.msg "loaded PGDATA archive did not contain PG_VERSION and global/pg_control")) := by
    unfold loadArchive
    rw [unpackPgdataArchive_of_ok hitems]
    rfl
  intro hall
  have hsame := hall emptyDirectory _ (by
    rw [prepareRoot_eq closed_clusterFiles rfl, Stateful.bind_of_err hload])
  have hversion : emptyDirectory [pgVersionName] = Root.clusterFiles.find [pgVersionName] := by
    rw [hsame]
  cases hversion

end PgliteOxide.Pglite
