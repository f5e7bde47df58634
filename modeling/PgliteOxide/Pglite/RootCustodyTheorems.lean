import PgliteOxide.Pglite.RootCustody

/-!
# Sessions keep to their roots

A session owns a directory from the lock, or from `TempDir::new`, to the drop. A session in an
orderly order works only in a directory it owns, and so does any session in a temporary directory;
no two own one directory, so that no two are at work in one. A session in another order comes to a
state in which it is at work in a root that has been given back, and that another session has
locked; and a session may lock a root that is the temporary directory of another.
-/

namespace PgliteOxide.Pglite.RootUse

open Lib

/-! ## What a session owns -/

/-- What a session has of a directory. -/
inductive Tenure (Dir : Type) where
  | outside
  /-- The lock file is open. -/
  | opened (file : FileHandle) (dir : Dir)
  | locked (file : FileHandle) (dir : Dir)
  | temporary (dir : Dir)
  /-- The directory has been given back. -/
  | left

namespace Tenure

variable {Dir : Type}

/-- The handle of the lock file. -/
def file : Tenure Dir → Option FileHandle
  | opened file _ | locked file _ => some file
  | _ => none

/-- The directory that is owned. -/
def dir : Tenure Dir → Option Dir
  | locked _ dir | temporary dir => some dir
  | _ => none

def isTemporary : Tenure Dir → Bool
  | temporary _ => true
  | _ => false

/-- What is owned after a call. -/
def after (place : HostPath → Dir) : Tenure Dir → (op : CustodyOp) → op.Answer → Tenure Dir
  | outside, .lock _ (.openRootLockFile path), .ok file => opened file (place path.dropLast)
  | outside, .createTempDir, .ok root => temporary (place root)
  | opened _ dir, .lock _ (.tryLock file), .ok () => locked file dir
  | locked _ _, .lock _ (.unlock _), _ => left
  | temporary _, .work _ .removeTempDir, _ => left
  | tenure, _, _ => tenure

/-- Which calls an owner may make; `temps` says whether temporary directories are made at all. -/
def may (place : HostPath → Dir) (IsTemp : Dir → Prop) (temps : Prop) (tenure : Tenure Dir) :
    CustodyOp → Prop
  | .lock _ (.openRootLockFile path) => tenure = outside ∧ ¬ (temps ∧ IsTemp (place path.dropLast))
  | .lock _ (.tryLock file) => ∃ dir, tenure = opened file dir
  | .lock _ (.unlock file) => ∃ dir, tenure = locked file dir
  | .lock _ _ => True
  | .createTempDir => tenure = outside ∧ temps
  | .work root job => tenure.dir = some (place root) ∧
      (job = .removeTempDir → tenure = temporary (place root))

/-- What is owned is there. -/
def Granted (IsTemp : Dir → Prop) (s : RootWorld Dir) : Tenure Dir → Prop
  | opened file dir => s.opened file = some dir ∧ ¬ IsTemp dir
  | locked file dir => s.opened file = some dir ∧ ¬ IsTemp dir ∧ file ∈ s.locks
  | temporary dir => IsTemp dir ∧ dir ∈ s.tempDirs
  | _ => True

/-- Two sessions have nothing in common. -/
def Apart (tenure tenure' : Tenure Dir) : Prop :=
  (∀ file, tenure.file = some file → tenure'.file ≠ some file) ∧
    ∀ dir, tenure.dir = some dir → tenure'.dir ≠ some dir

lemma Apart.symm {tenure tenure' : Tenure Dir} (h : tenure.Apart tenure') :
    tenure'.Apart tenure :=
  ⟨fun file hfile hfile' => h.1 file hfile' hfile, fun dir hdir hdir' => h.2 dir hdir' hdir⟩

/-- Nobody shares what nobody has. -/
lemma apart_of_nothing {tenure tenure' : Tenure Dir} (hfile : tenure.file = none)
    (hdir : tenure.dir = none) : tenure.Apart tenure' :=
  ⟨fun file h => by rw [hfile] at h; simp at h, fun dir h => by rw [hdir] at h; simp at h⟩

end Tenure

section Custody

variable {Dir : Type} (place : HostPath → Dir) (IsTemp : Dir → Prop)

/-- Everything that is owned is there, and owned by one session. -/
def Held (s : RootWorld Dir) (tenures : List (Tenure Dir)) : Prop :=
  (∀ tenure ∈ tenures, tenure.Granted IsTemp s) ∧ tenures.Pairwise Tenure.Apart

def custodyDiscipline (temps : Prop) :
    Discipline CustodyOp CustodyOp.Answer (RootWorld Dir) (Tenure Dir) where
  idle := .outside
  may := Tenure.may place IsTemp temps
  after := Tenure.after place
  done _ := True
  holds := Held fun dir => temps ∧ IsTemp dir

variable {place IsTemp}
variable {s s' : RootWorld Dir} {left right : List (Tenure Dir)} {tenure tenure' : Tenure Dir}

lemma held_middle : Held IsTemp s (left ++ tenure :: right) ↔
    tenure.Granted IsTemp s ∧ (∀ other ∈ left ++ right, tenure.Apart other) ∧
      Held IsTemp s (left ++ right) := by
  unfold Held
  rw [List.pairwise_middle Tenure.Apart.symm, List.pairwise_cons]
  constructor
  · rintro ⟨hgranted, hapart, hrest⟩
    refine ⟨hgranted tenure (by simp), hapart, fun other hother => hgranted other ?_, hrest⟩
    rcases List.mem_append.mp hother with h | h
    · exact List.mem_append_left _ h
    · exact List.mem_append_right _ (List.mem_cons_of_mem _ h)
  · rintro ⟨htenure, hapart, hgranted, hrest⟩
    refine ⟨fun other hother => ?_, hapart, hrest⟩
    rcases List.mem_append.mp hother with h | h
    · exact hgranted other (List.mem_append_left _ h)
    · rcases List.mem_cons.mp h with rfl | h
      · exact htenure
      · exact hgranted other (List.mem_append_right _ h)

/-- A session comes to own something else; what the others own stays there. -/
lemma Held.replace (h : Held IsTemp s (left ++ tenure :: right))
    (hgranted : tenure'.Granted IsTemp s')
    (hothers : ∀ other ∈ left ++ right, tenure.Apart other → other.Granted IsTemp s →
      other.Granted IsTemp s' ∧ tenure'.Apart other) :
    Held IsTemp s' (left ++ tenure' :: right) := by
  obtain ⟨-, hapart, hrest, hpairs⟩ := held_middle.mp h
  refine held_middle.mpr ⟨hgranted, fun other hother => ?_, fun other hother => ?_, hpairs⟩
  · exact (hothers other hother (hapart other hother) (hrest other hother)).2
  · exact (hothers other hother (hapart other hother) (hrest other hother)).1

/-- A session that owns what it owned. -/
lemma Held.same (h : Held IsTemp s (left ++ tenure :: right))
    (hsame : ∀ other : Tenure Dir, other.Granted IsTemp s → other.Granted IsTemp s') :
    Held IsTemp s' (left ++ tenure :: right) :=
  h.replace (hsame tenure (held_middle.mp h).1) fun other _ hapart hgranted =>
    ⟨hsame other hgranted, hapart⟩

/-- The handle of an owner is open. -/
lemma Tenure.Granted.opened_ne_none (h : tenure.Granted IsTemp s) {file : FileHandle}
    (hfile : tenure.file = some file) : s.opened file ≠ none := by
  cases tenure with
  | opened file' dir' =>
    rw [← Option.some.inj hfile, h.1]
    simp
  | locked file' dir' =>
    rw [← Option.some.inj hfile, h.1]
    simp
  | _ => simp [Tenure.file] at hfile

/-- What others own does not depend on the sets of paths. -/
lemma granted_of_paths {other : Tenure Dir} (hopened : s'.opened = s.opened)
    (hlocks : s'.locks = s.locks) (htemp : s'.tempDirs = s.tempDirs) (h : other.Granted IsTemp s) :
    other.Granted IsTemp s' := by
  cases other with
  | opened file dir => exact ⟨hopened ▸ h.1, h.2⟩
  | locked file dir => exact ⟨hopened ▸ h.1, h.2.1, hlocks ▸ h.2.2⟩
  | temporary dir => exact ⟨h.1, htemp ▸ h.2⟩
  | _ => trivial

/-- The lock file is opened. -/
lemma Held.openFile (h : Held IsTemp s (left ++ .outside :: right)) {file : FileHandle} {dir : Dir}
    (hfresh : s.opened file = none) (hdir : ¬ IsTemp dir) :
    Held IsTemp (s.openFile file dir) (left ++ .opened file dir :: right) := by
  have hkept : ∀ {file' : FileHandle} {dir' : Dir}, s.opened file' = some dir' →
      Function.update s.opened file (some dir) file' = some dir' := by
    intro file' dir' hfile'
    have hne : file' ≠ file := by
      rintro rfl
      rw [hfresh] at hfile'
      simp at hfile'
    rw [Function.update_of_ne hne]
    exact hfile'
  refine h.replace ⟨Function.update_self _ _ _, hdir⟩ fun other _ _ hother => ⟨?_, ?_, ?_⟩
  · cases other with
    | opened file' dir' => exact ⟨hkept hother.1, hother.2⟩
    | locked file' dir' => exact ⟨hkept hother.1, hother.2⟩
    | _ => exact hother
  · intro other_file hfile hfile'
    have hsame : file = other_file := Option.some.inj hfile
    exact hother.opened_ne_none hfile' (hsame ▸ hfresh)
  · intro other_dir hdir
    simp [Tenure.dir] at hdir

/-- The lock is taken: nobody else has it, and a temporary directory has no lock. -/
lemma Held.lockFile {file : FileHandle} {dir : Dir}
    (h : Held IsTemp s (left ++ .opened file dir :: right))
    (hfree : ∀ other ∈ s.locks, s.opened other ≠ s.opened file) :
    Held IsTemp (s.take file) (left ++ .locked file dir :: right) := by
  obtain ⟨⟨hopened, hdir⟩, -, -⟩ := held_middle.mp h
  refine h.replace ⟨hopened, hdir, Finset.mem_insert_self _ _⟩ fun other _ hapart hother => ?_
  refine ⟨?_, hapart.1, fun d hd hd' => ?_⟩
  · cases other with
    | locked file' dir' =>
      exact ⟨hother.1, hother.2.1, Finset.mem_insert_of_mem hother.2.2⟩
    | _ => exact hother
  · have hdd : dir = d := Option.some.inj hd
    cases other with
    | locked file' dir' =>
      have hdd' : dir' = d := Option.some.inj hd'
      have hne := hfree file' hother.2.2
      rw [hother.1, hopened, hdd, hdd'] at hne
      exact hne rfl
    | temporary dir' =>
      have hdd' : dir' = d := Option.some.inj hd'
      rw [hdd, ← hdd'] at hdir
      exact hdir hother.1
    | _ => simp [Tenure.dir] at hd'

/-- The lock is given back. -/
lemma Held.unlock {file : FileHandle} {dir : Dir}
    (h : Held IsTemp s (left ++ .locked file dir :: right)) :
    Held IsTemp (s.giveBack file) (left ++ .left :: right) := by
  refine h.replace trivial fun other _ hapart hother => ⟨?_, Tenure.apart_of_nothing rfl rfl⟩
  cases other with
  | locked file' dir' =>
    refine ⟨hother.1, hother.2.1, Finset.mem_erase.mpr ⟨?_, hother.2.2⟩⟩
    rintro rfl
    exact hapart.1 file' rfl rfl
  | _ => exact hother

/-- What was owned is given up. -/
lemma Held.leave (h : Held IsTemp s (left ++ tenure :: right)) :
    Held IsTemp s (left ++ .left :: right) :=
  h.replace trivial fun _ _ _ hother => ⟨hother, Tenure.apart_of_nothing rfl rfl⟩

/-- A temporary directory is made. -/
lemma Held.makeTempDir (h : Held IsTemp s (left ++ .outside :: right)) {dir : Dir}
    (hdir : IsTemp dir) (hfresh : dir ∉ s.tempDirs) :
    Held IsTemp (s.makeTempDir dir) (left ++ .temporary dir :: right) := by
  refine h.replace ⟨hdir, List.mem_cons_self⟩ fun other _ _ hother => ?_
  have hgranted : other.Granted IsTemp (s.makeTempDir dir) := by
    cases other with
    | temporary dir' => exact ⟨hother.1, List.mem_cons_of_mem _ hother.2⟩
    | _ => exact hother
  refine ⟨hgranted, fun g hg => by simp [Tenure.file] at hg, fun d hd hd' => ?_⟩
  have hdd : dir = d := Option.some.inj hd
  cases other with
  | locked file' dir' =>
    have hdd' : dir' = d := Option.some.inj hd'
    rw [hdd, ← hdd'] at hdir
    exact hother.2.1 hdir
  | temporary dir' =>
    have hdd' : dir' = d := Option.some.inj hd'
    rw [hdd, ← hdd'] at hfresh
    exact hfresh hother.2
  | _ => simp [Tenure.dir] at hd'

/-- **Every call keeps what is owned apart.** -/
lemma custodyDiscipline_sound (temps : Prop) :
    (custodyDiscipline place IsTemp temps).Sound (custodyEffects place IsTemp) where
  spawn := by
    intro s tenures h
    have hend : Held (fun dir => temps ∧ IsTemp dir) s (tenures ++ .outside :: []) := by
      refine held_middle.mpr ⟨trivial, fun other _ => Tenure.apart_of_nothing rfl rfl, ?_⟩
      rw [List.append_nil]
      exact h
    exact hend
  call := by
    intro s s' left tenure right op ans h hmay hstep
    -- opening, locking, unlocking and the temporary directories change what is owned; the rest does not
    cases op with
    | lock process op =>
      cases op with
      | openRootLockFile path =>
        obtain ⟨rfl, hdir⟩ := hmay
        cases ans with
        | ok file =>
          obtain ⟨hfresh, rfl⟩ := hstep
          exact h.openFile hfresh hdir
        | error err =>
          obtain rfl : s' = s := hstep
          exact h
      | tryLock file =>
        obtain ⟨dir, rfl⟩ := hmay
        cases ans with
        | ok _ =>
          obtain ⟨hfree, rfl⟩ := hstep
          exact h.lockFile hfree
        | error err =>
          obtain rfl : s' = s := hstep
          exact h
      | unlock file =>
        obtain ⟨dir, rfl⟩ := hmay
        cases ans with
        | ok _ =>
          obtain rfl : s' = _ := hstep
          exact h.unlock
        | error err =>
          obtain rfl : s' = s := hstep
          exact h.leave
      | insert path =>
        obtain ⟨-, rfl⟩ := hstep
        have hafter : Tenure.after place tenure (.lock process (.insert path)) ans = tenure := by
          cases tenure <;> rfl
        show Held _ _ (left ++ Tenure.after place tenure _ _ :: right)
        rw [hafter]
        exact h.same fun other => granted_of_paths rfl rfl rfl
      | releaseRootLockPath path =>
        obtain rfl : s' = _ := hstep
        have hafter : Tenure.after place tenure (.lock process (.releaseRootLockPath path)) ans =
            tenure := by
          cases tenure <;> rfl
        show Held _ _ (left ++ Tenure.after place tenure _ _ :: right)
        rw [hafter]
        exact h.same fun other => granted_of_paths rfl rfl rfl
      | createDirAll root =>
        obtain rfl : s' = s := hstep
        cases tenure <;> exact h
      | canonicalize root =>
        obtain rfl : s' = s := hstep
        cases tenure <;> exact h
      | keep lock =>
        obtain rfl : s' = s := hstep
        cases tenure <;> exact h
    | createTempDir =>
      obtain ⟨rfl, htemps⟩ := hmay
      cases ans with
      | ok root =>
        obtain ⟨hdir, hfresh, rfl⟩ := hstep
        exact h.makeTempDir ⟨htemps, hdir⟩ hfresh
      | error err =>
        obtain rfl : s' = s := hstep
        exact h
    | work root job =>
      obtain rfl : s' = s := hstep
      by_cases hjob : job = .removeTempDir
      · subst hjob
        obtain ⟨-, htemp⟩ := hmay
        rw [htemp rfl] at h ⊢
        exact h.leave
      · have hafter : Tenure.after place tenure (.work root job) ans = tenure := by
          cases tenure with
          | temporary dir =>
            cases job with
            | removeTempDir => exact absurd rfl hjob
            | _ => rfl
          | _ => rfl
        show Held _ _ (left ++ Tenure.after place tenure _ _ :: right)
        rw [hafter]
        exact h
  crash := by
    intro s s' left tenure right op h hmay hcrash
    exact hcrash.elim

end Custody

/-! ## What a program does with what it owns -/

section Obeys

variable {Dir : Type} {place : HostPath → Dir} {IsTemp : Dir → Prop} {temps : Prop}
  {tenure : Tenure Dir}
variable {α : Type} {process : ℕ} {root : HostPath}

/-- The program keeps to what it owns, which is `Q` when it returns. -/
abbrev KeepsTo (place : HostPath → Dir) (IsTemp : Dir → Prop) (temps : Prop)
    (Q : Tenure Dir → α → Prop) (tenure : Tenure Dir) (p : CustodyProg α) : Prop :=
  p.Obeys (custodyDiscipline place IsTemp temps) Q tenure

lemma KeepsTo.bind {β : Type} {p : CustodyProg α} {f : α → CustodyProg β}
    {Q : Tenure Dir → α → Prop} {R : Tenure Dir → β → Prop}
    (hp : KeepsTo place IsTemp temps Q tenure p)
    (hf : ∀ tenure a, Q tenure a → KeepsTo place IsTemp temps R tenure (f a)) :
    KeepsTo place IsTemp temps R tenure (p >>= f) :=
  (Prog.obeys_bind _ _ _ _).mpr (hp.mono hf)

/-- A job in a directory that is owned, and that is not removed. -/
lemma keepsTo_work {job : RootJob} (hdir : tenure.dir = some (place root))
    (hjob : job ≠ .removeTempDir) :
    KeepsTo place IsTemp temps (fun after _ => after = tenure) tenure (work root job) := by
  refine ⟨⟨hdir, fun h => absurd h hjob⟩, fun ans => ?_⟩
  show Tenure.after place tenure (.work root job) ans = tenure
  cases tenure with
  | temporary dir =>
    cases job with
    | removeTempDir => exact absurd rfl hjob
    | _ => rfl
  | _ => rfl

/-- `acquire` ends with the lock of the directory. -/
lemma keepsTo_acquire (hroot : ¬ (temps ∧ IsTemp (place root))) :
    KeepsTo place IsTemp temps (fun tenure lock => tenure = .locked lock.file (place root)) .outside
      (asProcess process (RootLock.acquire root)) := by
  have hplace : place (RootLock.lockFile root).dropLast = place root := by
    rw [RootLock.lockFile, List.dropLast_concat]
  have hcanonical (path : HostPath) :
      KeepsTo place IsTemp temps (fun tenure lock => tenure = .locked lock.file (place root)) .outside
        (asProcess process (RootLock.acquireCanonical root path)) := by
    refine ⟨trivial, fun inserted => ?_⟩
    cases inserted with
    | false => exact trivial
    | true =>
      refine ⟨⟨rfl, by rwa [hplace]⟩, fun opened => ?_⟩
      cases opened with
      | error err => exact ⟨trivial, fun _ => trivial⟩
      | ok file =>
        refine ⟨⟨_, rfl⟩, fun locked => ?_⟩
        cases locked with
        | error err => exact ⟨trivial, fun _ => trivial⟩
        | ok _ =>
          show Tenure.locked file (place (RootLock.lockFile root).dropLast) = _
          rw [hplace]
  refine ⟨trivial, fun created => ?_⟩
  cases created with
  | error err => exact trivial
  | ok _ =>
    refine ⟨trivial, fun path => ?_⟩
    cases path with
    | error err => exact hcanonical root
    | ok path => exact hcanonical path

lemma keepsTo_dropLock {lock : RootLock} {dir : Dir} :
    KeepsTo place IsTemp temps (fun tenure _ => tenure = .left) (.locked lock.file dir)
      (asProcess process lock.drop) :=
  ⟨⟨dir, rfl⟩, fun _ => ⟨trivial, fun _ => rfl⟩⟩

end Obeys

/-! ## Methods -/

/-- What an instance says it holds is what the session owns. -/
inductive Tenant {Dir : Type} (place : HostPath → Dir) (db : OpenDb) : Tenure Dir → Prop
  | locked (lock : RootLock) (hlock : db.lock = some lock) (htemp : db.tempDir = false) :
      Tenant place db (.locked lock.file (place db.root))
  | temporary (hlock : db.lock = none) (htemp : db.tempDir = true) :
      Tenant place db (.temporary (place db.root))
  | left (hlock : db.lock = none) (htemp : db.tempDir = false) (hclosed : db.closed = true)
      (hlisteners : db.notifyListeners = []) : Tenant place db .left

section Methods

variable {Dir : Type} {place : HostPath → Dir} {IsTemp : Dir → Prop} {temps : Prop}
  {tenure : Tenure Dir}
variable {process : ℕ} {db db' : OpenDb}

lemma Tenant.dir (h : Tenant place db tenure) :
    tenure.dir = some (place db.root) ∨
      tenure = .left ∧ db.closed = true ∧ db.notifyListeners = [] := by
  cases h with
  | locked lock hlock htemp => exact .inl rfl
  | temporary hlock htemp => exact .inl rfl
  | left hlock htemp hclosed hlisteners => exact .inr ⟨rfl, hclosed, hlisteners⟩

/-- An instance that is ready has its directory. -/
lemma Tenant.dir_of_ready (h : Tenant place db tenure) (hready : db.checkReady = .ok ()) :
    tenure.dir = some (place db.root) := by
  obtain hdir | ⟨-, hclosed, -⟩ := h.dir
  · exact hdir
  · unfold OpenDb.checkReady at hready
    rw [hclosed] at hready
    split at hready <;> simp at hready

/-- The flags do not matter while the directory is there. -/
lemma Tenant.of_dir (h : Tenant place db tenure) (hdir : tenure.dir = some (place db.root))
    (hroot : db'.root = db.root) (hlock : db'.lock = db.lock) (htemp : db'.tempDir = db.tempDir) :
    Tenant place db' tenure := by
  cases h with
  | locked lock hl ht =>
    rw [← hroot]
    exact .locked lock (hlock.trans hl) (htemp.trans ht)
  | temporary hl ht =>
    rw [← hroot]
    exact .temporary (hlock.trans hl) (htemp.trans ht)
  | left hl ht hclosed hlisteners => simp [Tenure.dir] at hdir

lemma keepsTo_execInternal (hdir : tenure.dir = some (place db.root)) :
    KeepsTo place IsTemp temps (fun after _ => after = tenure) tenure db.execInternal := by
  refine (keepsTo_work hdir (by simp)).bind fun after ok h => ?_
  cases ok <;> exact h

lemma keepsTo_exec (hdir : db.checkReady = .ok () → tenure.dir = some (place db.root)) :
    KeepsTo place IsTemp temps (fun after _ => after = tenure) tenure db.exec := by
  unfold OpenDb.exec
  rcases hready : db.checkReady with err | _
  · exact rfl
  · exact keepsTo_execInternal (hdir hready)

lemma keepsTo_setUp {statements : List String}
    (hdir : db.checkReady = .ok () → tenure.dir = some (place db.root)) :
    KeepsTo place IsTemp temps (fun after _ => after = tenure) tenure (db.setUp statements) := by
  induction statements with
  | nil => exact rfl
  | cons sql statements ih =>
    refine (keepsTo_exec hdir).bind fun after result h => ?_
    obtain rfl := h
    cases result with
    | error err => exact rfl
    | ok _ => exact ih

lemma keepsTo_preloadAndSetUp {statements : List String}
    (hdir : tenure.dir = some (place db.root)) :
    KeepsTo place IsTemp temps (fun after _ => after = tenure) tenure
      (db.preloadAndSetUp statements) := by
  refine (keepsTo_work hdir (by simp)).bind fun after ok h => ?_
  obtain rfl := h
  cases ok with
  | false => exact rfl
  | true => exact keepsTo_setUp fun _ => hdir

lemma keepsTo_enableExtension {extension : Extension} (hdir : tenure.dir = some (place db.root)) :
    KeepsTo place IsTemp temps (fun after _ => after = tenure) tenure
      (db.enableExtension extension) := by
  refine (keepsTo_work hdir (by simp)).bind fun after ok h => ?_
  obtain rfl := h
  cases ok with
  | false => exact rfl
  | true => exact keepsTo_preloadAndSetUp hdir

lemma keepsTo_enable {extension : Extension} {preinstalled : List String}
    (hdir : tenure.dir = some (place db.root)) :
    KeepsTo place IsTemp temps (fun after _ => after = tenure) tenure
      (db.enable preinstalled extension) := by
  unfold OpenDb.enable
  split
  · exact keepsTo_preloadAndSetUp hdir
  · exact keepsTo_enableExtension hdir

/-- A method leaves the instance with what the session owns. -/
abbrev Keeps (place : HostPath → Dir) (tenure after : Tenure Dir) (ended : OpenDb.Ended) : Prop :=
  after = tenure ∧ Tenant place ended.1 tenure

lemma keepsTo_listen {channel : String} (h : Tenant place db tenure) :
    KeepsTo place IsTemp temps (Keeps place tenure) tenure (db.listen channel) := by
  unfold OpenDb.listen
  rcases hready : db.checkReady with err | _
  · exact ⟨rfl, h⟩
  · have hdir := h.dir_of_ready hready
    dsimp only
    split
    · exact ⟨rfl, h.of_dir hdir rfl rfl rfl⟩
    · refine (keepsTo_execInternal hdir).bind fun after result hafter => ?_
      obtain rfl := hafter
      cases result with
      | error err => exact ⟨rfl, h⟩
      | ok _ => exact ⟨rfl, h.of_dir hdir rfl rfl rfl⟩

/-- Where there are listeners, there is the directory. -/
lemma Tenant.dir_of_listeners (h : Tenant place db tenure) {f : ChannelEntry → Bool}
    (hany : db.notifyListeners.any f = true) : tenure.dir = some (place db.root) := by
  obtain hdir | ⟨-, -, hlisteners⟩ := h.dir
  · exact hdir
  · rw [hlisteners] at hany
    simp at hany

lemma keepsTo_unlisten {handle : ChannelEntry} (h : Tenant place db tenure) :
    KeepsTo place IsTemp temps (Keeps place tenure) tenure (db.unlisten handle) := by
  unfold OpenDb.unlisten
  split
  · rename_i hany
    have hdir := h.dir_of_listeners hany
    dsimp only
    split
    · exact ⟨rfl, h.of_dir hdir rfl rfl rfl⟩
    · refine (keepsTo_execInternal hdir).bind fun after result hafter => ?_
      exact ⟨hafter, h.of_dir hdir rfl rfl rfl⟩
  · exact ⟨rfl, h⟩

lemma keepsTo_unlistenChannel {channel : String} (h : Tenant place db tenure) :
    KeepsTo place IsTemp temps (Keeps place tenure) tenure (db.unlistenChannel channel) := by
  unfold OpenDb.unlistenChannel
  split
  · rename_i hany
    have hdir := h.dir_of_listeners hany
    refine (keepsTo_execInternal hdir).bind fun after result hafter => ?_
    exact ⟨hafter, h.of_dir hdir rfl rfl rfl⟩
  · exact ⟨rfl, h⟩

lemma keepsTo_dumpDataDir (h : Tenant place db tenure) :
    KeepsTo place IsTemp temps (Keeps place tenure) tenure db.dumpDataDir := by
  unfold OpenDb.dumpDataDir
  rcases hready : db.checkReady with err | _
  · exact ⟨rfl, h⟩
  · have hdir := h.dir_of_ready hready
    refine (keepsTo_work hdir (by simp)).bind fun after ended hafter => ?_
    cases ended with
    | archived => exact ⟨hafter, h⟩
    | failed => exact ⟨hafter, h⟩
    | notRestarted => exact ⟨hafter, h.of_dir hdir rfl rfl rfl⟩

/-- A successful `close` gives the lock back, and a temporary directory is kept. -/
abbrev Closes (place : HostPath → Dir) (tenure after : Tenure Dir) (ended : OpenDb.Ended) : Prop :=
  Tenant place ended.1 after ∧ (tenure.isTemporary = true → after = tenure)

lemma keepsTo_closeBackend (h : Tenant place db tenure) :
    KeepsTo place IsTemp temps (Closes place tenure) tenure (db.closeBackend process) := by
  unfold OpenDb.closeBackend
  by_cases hclosed : db.closed = true
  · rw [if_pos hclosed]
    exact ⟨h, fun _ => rfl⟩
  · rw [if_neg hclosed]
    -- an instance that is not closed has not given its directory back
    have hdir : tenure.dir = some (place db.root) :=
      h.dir.resolve_right fun hleft => hclosed hleft.2.1
    split
    · exact ⟨h, fun _ => rfl⟩
    · refine (keepsTo_work hdir (by simp)).bind fun after ok hafter => ?_
      obtain rfl := hafter
      cases ok with
      | false => exact ⟨h, fun _ => rfl⟩
      | true =>
        cases h with
        | locked lock hlock htemp =>
          dsimp only [OpenDb.dropLock]
          rw [hlock]
          refine keepsTo_dropLock.bind fun after _ hafter => ?_
          obtain rfl := hafter
          exact ⟨.left rfl htemp rfl rfl, nofun⟩
        | temporary hlock htemp =>
          dsimp only [OpenDb.dropLock]
          rw [hlock]
          exact ⟨.temporary rfl htemp, fun _ => rfl⟩
        | left hlock htemp hc hlisteners => exact absurd hc hclosed

lemma keepsTo_drop (h : Tenant place db tenure) :
    KeepsTo place IsTemp temps (fun _ _ => True) tenure (db.drop process) := by
  have hself : KeepsTo place IsTemp temps (fun after ended => Tenant place ended.1 after) tenure
      (db.dropSelf process) := by
    unfold OpenDb.dropSelf
    split
    · exact h
    · exact (keepsTo_closeBackend h).mono fun _ _ hended => hended.1
  -- the fields are dropped behind `close`, with what it has left of them
  refine hself.bind fun after ended hended => ?_
  obtain ⟨left, result⟩ := ended
  cases hended with
  | locked lock hlock htemp =>
    dsimp only [OpenDb.dropLock] at htemp hlock ⊢
    rw [htemp, hlock]
    exact keepsTo_dropLock.mono fun _ _ _ => trivial
  | temporary hlock htemp =>
    dsimp only [OpenDb.dropLock] at htemp hlock ⊢
    rw [htemp, hlock]
    exact ⟨⟨rfl, fun _ => rfl⟩, fun _ => trivial⟩
  | left hlock htemp _ _ =>
    dsimp only [OpenDb.dropLock] at htemp hlock ⊢
    rw [htemp, hlock]
    exact trivial

/-- A guarded method keeps to what is owned; the others do while the directory is there. -/
lemma keepsTo_call {c : DbCall} (h : Tenant place db tenure)
    (hc : c.guarded = true ∨ tenure.dir = some (place db.root)) :
    KeepsTo place IsTemp temps
      (fun after ended => Tenant place ended.1 after ∧
        (c ≠ .close ∨ tenure.isTemporary = true → after = tenure)) tenure (db.call process c) := by
  have hkeeps {p : CustodyProg OpenDb.Ended} (hp : KeepsTo place IsTemp temps (Keeps place tenure)
      tenure p) : KeepsTo place IsTemp temps (fun after ended => Tenant place ended.1 after ∧
        (c ≠ .close ∨ tenure.isTemporary = true → after = tenure)) tenure p :=
    hp.mono fun after ended ⟨hafter, htenant⟩ => ⟨hafter ▸ htenant, fun _ => hafter⟩
  have hresult {p : CustodyProg (Except CallError Unit)}
      (hp : KeepsTo place IsTemp temps (fun after _ => after = tenure) tenure p) :
      KeepsTo place IsTemp temps (Keeps place tenure) tenure
        (p >>= fun result => pure (db, result)) :=
    hp.bind fun after result hafter => ⟨hafter, h⟩
  cases c with
  | exec => exact hkeeps (hresult (keepsTo_exec h.dir_of_ready))
  | listen channel => exact hkeeps (keepsTo_listen h)
  | unlisten handle => exact hkeeps (keepsTo_unlisten h)
  | unlistenChannel channel => exact hkeeps (keepsTo_unlistenChannel h)
  | dumpDataDir => exact hkeeps (keepsTo_dumpDataDir h)
  | enableExtension extension =>
    exact hkeeps (hresult (keepsTo_enableExtension (hc.resolve_left (by simp [DbCall.guarded]))))
  | execProtocol =>
    exact hkeeps (hresult (keepsTo_execInternal (hc.resolve_left (by simp [DbCall.guarded]))))
  | close =>
    exact (keepsTo_closeBackend h).mono fun after ended ⟨htenant, hkept⟩ =>
      ⟨htenant, fun hc => hkept (hc.resolve_left (by simp))⟩

/-- Guarded methods only. -/
lemma keepsTo_callAll_guarded {calls : List DbCall} (hcalls : ∀ c ∈ calls, c.guarded = true)
    (h : Tenant place db tenure) :
    KeepsTo place IsTemp temps (fun after left => Tenant place left after) tenure
      (callAll process db calls) := by
  induction calls generalizing db tenure with
  | nil => exact h
  | cons c calls ih =>
    obtain ⟨hc, hrest⟩ := List.forall_mem_cons.mp hcalls
    exact (keepsTo_call h (.inl hc)).bind fun after ended hended => ih hrest hended.1

/-- The directory is there as long as the tenure is. -/
lemma Tenant.dir_of_kept (h : Tenant place db' tenure) (hdir : tenure.dir = some (place db.root)) :
    tenure.dir = some (place db'.root) := by
  obtain hdir' | ⟨hleft, -⟩ := h.dir
  · exact hdir'
  · rw [hleft] at hdir
    simp [Tenure.dir] at hdir

/-- **The methods in an orderly order**, or in a temporary directory in any order, on an instance
that has its directory. -/
lemma keepsTo_callAll {calls : List DbCall} (horder : Orderly calls ∨ tenure.isTemporary = true)
    (h : Tenant place db tenure) (hdir : tenure.dir = some (place db.root)) :
    KeepsTo place IsTemp temps (fun after left => Tenant place left after) tenure
      (callAll process db calls) := by
  -- up to the first `close` the directory is there; behind it only guarded methods come
  induction calls generalizing db with
  | nil => exact h
  | cons c calls ih =>
    refine (keepsTo_call h (.inr hdir)).bind fun after ended hended => ?_
    rcases horder with horder | htemporary
    · by_cases hc : c = .close
      · subst hc
        exact keepsTo_callAll_guarded horder hended.1
      · have hrest : Orderly calls := by
          cases c with
          | close => exact absurd rfl hc
          | _ => exact horder
        obtain rfl := hended.2 (.inl hc)
        exact ih (.inl hrest) hended.1 (hended.1.dir_of_kept hdir)
    · obtain rfl := hended.2 (.inr htemporary)
      exact ih (.inr htemporary) hended.1 (hended.1.dir_of_kept hdir)

end Methods

/-! ## Sessions -/

section Sessions

variable {Dir : Type} {place : HostPath → Dir} {IsTemp : Dir → Prop} {temps : Prop}
  {tenure : Tenure Dir}
variable {process : ℕ} {db : OpenDb} {held : HeldRoot} {plan : OpenPlan}

/-- An instance that has neither the lock nor the directory yet leaves them alone. -/
lemma keepsTo_drop_bare (hdir : tenure.dir = some (place db.root)) (hlock : db.lock = none)
    (htemp : db.tempDir = false) :
    KeepsTo place IsTemp temps (fun after _ => after = tenure) tenure (db.drop process) := by
  have hself : KeepsTo place IsTemp temps
      (fun after ended => after = tenure ∧ ended.1.lock = none ∧ ended.1.tempDir = false) tenure
      (db.dropSelf process) := by
    unfold OpenDb.dropSelf OpenDb.closeBackend
    split
    · exact ⟨rfl, hlock, htemp⟩
    · split
      · exact ⟨rfl, hlock, htemp⟩
      · refine (keepsTo_work hdir (by simp)).bind fun after ok hafter => ?_
        obtain rfl := hafter
        cases ok with
        | false => exact ⟨rfl, hlock, htemp⟩
        | true =>
          dsimp only [OpenDb.dropLock]
          rw [hlock]
          exact ⟨rfl, rfl, htemp⟩
  refine hself.bind fun after ended hended => ?_
  obtain ⟨left, result⟩ := ended
  obtain ⟨hafter, hlock', htemp'⟩ := hended
  dsimp only [OpenDb.dropLock] at hlock' htemp' ⊢
  rw [hlock', htemp']
  exact hafter

/-- The instance that is given what is held. -/
abbrev HeldRoot.given (held : HeldRoot) : OpenDb :=
  { OpenDb.opened held.root with lock := held.lock, tempDir := held.tempDir }

/-- What is held is owned; a temporary directory is, where one was asked for. -/
abbrev Opens (place : HostPath → Dir) (target : Target) (tenure : Tenure Dir) (db : OpenDb) : Prop :=
  Tenant place db tenure ∧ tenure.dir = some (place db.root) ∧
    (target = .temporary → tenure.isTemporary = true)

lemma keepsTo_holdRoot {target : Target}
    (htarget : ∀ root, target = .path root → ¬ (temps ∧ IsTemp (place root)))
    (htemps : target = .temporary → temps) :
    KeepsTo place IsTemp temps (fun tenure held => Opens place target tenure held.given) .outside
      (holdRoot process target) := by
  cases target with
  | path root =>
    refine (keepsTo_acquire (htarget root rfl)).bind fun tenure lock h => ?_
    obtain rfl := h
    exact ⟨.locked lock rfl rfl, rfl, nofun⟩
  | temporary =>
    refine ⟨⟨rfl, htemps rfl⟩, fun made => ?_⟩
    cases made with
    | error err => exact trivial
    | ok root => exact ⟨.temporary rfl rfl, rfl, fun _ => rfl⟩

lemma keepsTo_dropHeld (h : Tenant place held.given tenure)
    (hdir : tenure.dir = some (place held.root)) :
    KeepsTo place IsTemp temps (fun _ _ => True) tenure (held.drop process) := by
  unfold HeldRoot.drop
  cases h with
  | locked lock hlock htemp =>
    dsimp only [OpenDb.dropLock] at htemp hlock ⊢
    rw [htemp, hlock]
    exact keepsTo_dropLock.bind fun _ _ _ => trivial
  | temporary hlock htemp =>
    dsimp only [OpenDb.dropLock] at htemp hlock ⊢
    rw [htemp, hlock]
    exact ⟨⟨rfl, fun _ => rfl⟩, fun _ => trivial⟩
  | left => simp [Tenure.dir] at hdir

lemma keepsTo_enableExtensions {preinstalled : List String} {extensions : List Extension}
    (h : Opens place plan.target tenure db) :
    KeepsTo place IsTemp temps (Opens place plan.target) tenure
      (enableExtensions process db preinstalled extensions) := by
  induction extensions with
  | nil => exact h
  | cons extension extensions ih =>
    refine (keepsTo_enable h.2.1).bind fun after result hafter => ?_
    obtain rfl := hafter
    cases result with
    | error err => exact (keepsTo_drop h.1).bind fun _ _ _ => trivial
    | ok _ => exact ih

lemma keepsTo_openPreparedRoot {preinstalled : List String}
    (h : Opens place plan.target tenure held.given) :
    KeepsTo place IsTemp temps (Opens place plan.target) tenure
      (openPreparedRoot process plan held preinstalled) := by
  have hdir : tenure.dir = some (place held.root) := h.2.1
  refine (keepsTo_work hdir (by simp)).bind fun after ok hafter => ?_
  obtain rfl := hafter
  cases ok with
  | false => exact (keepsTo_dropHeld h.1 hdir).bind fun _ _ _ => trivial
  | true =>
    have hrole : KeepsTo place IsTemp temps (fun role _ => role = after) after
        ((OpenDb.opened held.root).setRole plan.setsRole) := by
      unfold OpenDb.setRole
      split
      · exact keepsTo_exec fun _ => hdir
      · exact rfl
    refine hrole.bind fun role result hrole => ?_
    obtain rfl := hrole
    -- the role is set before the instance is given what is held
    cases result with
    | error err =>
      refine (keepsTo_drop_bare hdir rfl rfl).bind fun dropped _ hdropped => ?_
      obtain rfl := hdropped
      exact (keepsTo_dropHeld h.1 hdir).bind fun _ _ _ => trivial
    | ok _ => exact keepsTo_enableExtensions h

lemma keepsTo_openDb
    (htarget : ∀ root, plan.target = .path root → ¬ (temps ∧ IsTemp (place root)))
    (htemps : plan.target = .temporary → temps) :
    KeepsTo place IsTemp temps (Opens place plan.target) .outside (openDb process plan) := by
  refine (keepsTo_holdRoot htarget htemps).bind fun tenure held h => ?_
  refine (keepsTo_work h.2.1 (by simp)).bind fun after prepared hafter => ?_
  obtain rfl := hafter
  cases prepared with
  | none => exact (keepsTo_dropHeld h.1 h.2.1).bind fun _ _ _ => trivial
  | some preinstalled => exact keepsTo_openPreparedRoot h

/-- **A session in an orderly order keeps to what it owns**, and so does one in a temporary
directory. -/
lemma keepsTo_session {calls : List DbCall} (horder : plan.target ≠ .temporary → Orderly calls)
    (htarget : ∀ root, plan.target = .path root → ¬ (temps ∧ IsTemp (place root)))
    (htemps : plan.target = .temporary → temps) :
    KeepsTo place IsTemp temps (fun _ _ => True) .outside (session process plan calls) := by
  refine (keepsTo_openDb htarget htemps).bind fun tenure db ⟨htenant, hdir, htemporary⟩ => ?_
  have hcalls : Orderly calls ∨ tenure.isTemporary = true := by
    by_cases hplan : plan.target = .temporary
    · exact .inr (htemporary hplan)
    · exact .inl (horder hplan)
  exact (keepsTo_callAll hcalls htenant hdir).bind fun after left hleft => keepsTo_drop hleft

/-- Sessions on locked roots in orderly orders, and sessions in temporary directories that are
nobody else's root, are never at work in one directory. -/
lemma exclusive_of_orderly {uses : Set (Target × List DbCall)}
    (horder : ∀ root calls, (.path root, calls) ∈ uses → Orderly calls)
    (hroots : ∀ root calls calls', (.path root, calls) ∈ uses → (.temporary, calls') ∈ uses →
      ¬ IsTemp (place root))
    {pool : SessionPool Dir} (hpool : pool.Reachable place IsTemp uses) : pool.Exclusive place := by
  let temps := ∃ calls, (Target.temporary, calls) ∈ uses
  have hallowed : ∀ p, IsSession uses p →
      p.Obeys (custodyDiscipline place IsTemp temps)
        (fun r _ => (custodyDiscipline place IsTemp temps).done r)
        (custodyDiscipline place IsTemp temps).idle := by
    rintro p ⟨process, plan, calls, rfl, huse⟩
    refine keepsTo_session (fun hplan => ?_) (fun root hplan => ?_) fun hplan => ?_
    · rcases htarget : plan.target with root | _
      · exact horder root calls (htarget ▸ huse)
      · exact absurd htarget hplan
    · rintro ⟨⟨calls', htemps⟩, htemp⟩
      exact hroots root calls calls' (hplan ▸ huse) htemps htemp
    · exact ⟨calls, hplan ▸ huse⟩
  have hinitial : ∀ s, s = RootWorld.initial Dir →
      (custodyDiscipline place IsTemp temps).holds s [] :=
    fun s _ => ⟨by simp, List.Pairwise.nil⟩
  obtain ⟨hobeys, -, hapart⟩ :=
    Pool.Reachable.holds (custodyDiscipline_sound temps) hallowed hinitial hpool
  -- a session at work has a job in a directory that it owns
  intro dir
  have hwork : ∀ run ∈ pool.running, AtWork place run dir →
      ((custodyDiscipline place IsTemp temps).owned run.past).dir = some dir := by
    rintro run hrun ⟨root, job, next, hrest, rfl⟩
    have hrun := hobeys run hrun
    rw [hrest] at hrun
    exact hrun.1.1
  refine (List.pairwise_map.mp hapart).imp_of_mem ?_
  rintro run run' hrun hrun' hne ⟨hwork₁, hwork₂⟩
  exact hne.2 dir (hwork run hrun hwork₁) (hwork run' hrun' hwork₂)

end Sessions

/-! ## A session in another order -/

section Disorder

variable {Dir : Type} {place : HostPath → Dir} {IsTemp : Dir → Prop}
variable {process : ℕ} {db : OpenDb} {s : RootWorld Dir} {root : HostPath}

/-- A job that is done changes nothing that sessions share. -/
lemma runs_work (job : RootJob) (ans : job.Answer) :
    Prog.Runs (custodyEffects place IsTemp) (work root job) s s (.ok ans) :=
  @Prog.Runs.call _ _ _ _ _ (custodyEffects place IsTemp) (.work root job) _ s s s ans _ rfl
    (.ret ans s)

lemma runs_lock {α : Type} {op : LockOp} {next : op.Answer → LockProg α} {s' s'' : RootWorld Dir}
    {result : Except OpenError α} {ans : op.Answer} (hstep : processStep place process op s s' ans)
    (h : Prog.Runs (custodyEffects place IsTemp) (asProcess process (next ans)) s' s'' result) :
    Prog.Runs (custodyEffects place IsTemp) (asProcess process (.call op next)) s s'' result :=
  .call hstep h

/-- Where no lock is taken, `acquire` returns. -/
lemma exists_runs_acquire {file : FileHandle} (hpath : root ∉ s.lockedPaths process)
    (hfile : s.opened file = none) (hlocks : s.locks = ∅) :
    ∃ s', Prog.Runs (custodyEffects place IsTemp) (asProcess process (RootLock.acquire root)) s s'
        (.ok ⟨root, file⟩) ∧
      s'.locks = {file} ∧ (∀ other, other ≠ file → s'.opened other = s.opened other) ∧
      ∀ other, other ≠ process → s'.lockedPaths other = s.lockedPaths other := by
  let entered := s.setPaths process (insert root)
  let opened := entered.openFile file (place (RootLock.lockFile root).dropLast)
  have hcreate : processStep place process (.createDirAll root) s s (.ok ()) := rfl
  have hcanonical : processStep place process (.canonicalize root) s s (.ok root) := rfl
  have hinsert : processStep place process (.insert root) s entered true :=
    ⟨(decide_eq_true hpath).symm, rfl⟩
  have hopen : processStep place process (.openRootLockFile (RootLock.lockFile root)) entered opened
      (.ok file) := ⟨hfile, rfl⟩
  have hlock : processStep place process (.tryLock file) opened (opened.take file) (.ok ()) := by
    refine ⟨fun other hother => ?_, rfl⟩
    have hnone : other ∈ (∅ : Finset FileHandle) := hlocks ▸ hother
    simp at hnone
  refine ⟨opened.take file, ?_, ?_, fun other hother => Function.update_of_ne hother _ _,
    fun other hother => Function.update_of_ne hother _ _⟩
  · exact runs_lock hcreate (runs_lock hcanonical (runs_lock hinsert (runs_lock hopen
      (runs_lock hlock (.ret _ _)))))
  · show insert file s.locks = {file}
    rw [hlocks]
    rfl

/-- The only lock is given back. -/
lemma exists_runs_dropLock {lock : RootLock} (hlocks : s.locks = {lock.file}) :
    ∃ s', Prog.Runs (custodyEffects place IsTemp) (asProcess process lock.drop) s s' (.ok ()) ∧
      s'.locks = ∅ ∧ s'.opened = s.opened ∧
      ∀ other, other ≠ process → s'.lockedPaths other = s.lockedPaths other := by
  let released := (s.giveBack lock.file).setPaths process (·.erase lock.path)
  have hunlock : processStep place process (.unlock lock.file) s (s.giveBack lock.file) (.ok ()) :=
    rfl
  have hrelease : processStep place process (.releaseRootLockPath lock.path)
      (s.giveBack lock.file) released () := rfl
  refine ⟨released, runs_lock hunlock (runs_lock hrelease (.ret _ _)), ?_, rfl,
    fun other hother => Function.update_of_ne hother _ _⟩
  show s.locks.erase lock.file = ∅
  rw [hlocks, Finset.erase_singleton]

/-- An instance that is ready and has the lock. -/
structure Healthy (db : OpenDb) (root : HostPath) (lock : RootLock) : Prop where
  ready : db.ready = true
  closing : db.closing = false
  closed : db.closed = false
  lock : db.lock = some lock
  root : db.root = root

/-- A closed instance. -/
structure Shut (db : OpenDb) (root : HostPath) : Prop where
  closing : db.closing = false
  closed : db.closed = true
  listeners : db.notifyListeners = []
  root : db.root = root

variable {lock : RootLock}

lemma Healthy.checkReady (h : Healthy db root lock) : db.checkReady = .ok () := by
  unfold OpenDb.checkReady
  rw [h.closing, h.closed, h.ready]
  rfl

lemma Shut.checkReady (h : Shut db root) : db.checkReady = .error .isClosed := by
  unfold OpenDb.checkReady
  rw [h.closing, h.closed]
  rfl

/-- The program can run to its end without changing what is shared. -/
abbrev Passes {α : Type} (place : HostPath → Dir) (IsTemp : Dir → Prop) (p : CustodyProg α)
    (s : RootWorld Dir) (a : α) : Prop :=
  Prog.Runs (custodyEffects place IsTemp) p s s (.ok a)

lemma passes_execInternal : Passes place IsTemp db.execInternal s (.ok ()) :=
  (runs_work .exchange true).bind (.ret _ s)

lemma Healthy.passes_exec (h : Healthy db root lock) :
    Passes place IsTemp db.exec s (.ok ()) := by
  unfold OpenDb.exec
  rw [h.checkReady]
  exact passes_execInternal

lemma Healthy.passes_setUp (h : Healthy db root lock) (statements : List String) :
    Passes place IsTemp (db.setUp statements) s (.ok ()) := by
  induction statements with
  | nil => exact .ret _ s
  | cons sql statements ih => exact h.passes_exec.bind ih

lemma Healthy.passes_enableExtension (h : Healthy db root lock) (extension : Extension) :
    Passes place IsTemp (db.enableExtension extension) s (.ok ()) :=
  (runs_work .installExtension true).bind
    ((runs_work .preloadModule true).bind (h.passes_setUp _))

/-- Every method but `close` leaves a healthy instance healthy when all goes well. -/
lemma Healthy.passes_call (h : Healthy db root lock) {c : DbCall} (hc : c ≠ .close) :
    ∃ ended, Passes place IsTemp (db.call process c) s ended ∧ Healthy ended.1 root lock := by
  cases c with
  | exec => exact ⟨_, h.passes_exec.bind (.ret _ s), h⟩
  | enableExtension extension =>
    exact ⟨_, (h.passes_enableExtension extension).bind (.ret _ s), h⟩
  | execProtocol => exact ⟨_, passes_execInternal.bind (.ret _ s), h⟩
  | dumpDataDir =>
    refine ⟨(db, .ok ()), ?_, h⟩
    show Passes place IsTemp db.dumpDataDir s _
    unfold OpenDb.dumpDataDir
    rw [h.checkReady]
    exact (runs_work .dumpDataDir .archived).bind (.ret _ s)
  | listen channel =>
    refine ⟨({ db with
      notifyListeners := db.notifyListeners ++ [⟨db.nextListenerId, channel⟩]
      nextListenerId := db.nextListenerId + 1 }, .ok ()), ?_, { h with }⟩
    show Passes place IsTemp (db.listen channel) s _
    unfold OpenDb.listen
    rw [h.checkReady]
    dsimp only
    split
    · exact .ret _ s
    · exact passes_execInternal.bind (.ret _ s)
  | unlisten handle =>
    show ∃ ended, Passes place IsTemp (db.unlisten handle) s ended ∧ _
    unfold OpenDb.unlisten
    split
    · dsimp only
      split
      · exact ⟨_, .ret _ s, { h with }⟩
      · exact ⟨_, passes_execInternal.bind (.ret _ s), { h with }⟩
    · exact ⟨_, .ret _ s, h⟩
  | unlistenChannel channel =>
    show ∃ ended, Passes place IsTemp (db.unlistenChannel channel) s ended ∧ _
    unfold OpenDb.unlistenChannel
    split
    · exact ⟨_, passes_execInternal.bind (.ret _ s), { h with }⟩
    · exact ⟨_, .ret _ s, h⟩
  | close => exact absurd rfl hc

lemma Healthy.passes_callAll {calls : List DbCall} (h : Healthy db root lock)
    (hcalls : ∀ c ∈ calls, c ≠ .close) :
    ∃ left, Passes place IsTemp (callAll process db calls) s left ∧ Healthy left root lock := by
  induction calls generalizing db with
  | nil => exact ⟨db, .ret _ s, h⟩
  | cons c calls ih =>
    obtain ⟨hc, hrest⟩ := List.forall_mem_cons.mp hcalls
    obtain ⟨ended, hcall, hended⟩ := h.passes_call (s := s) hc
    obtain ⟨left, hleft, hhealthy⟩ := ih hended hrest
    exact ⟨left, hcall.bind hleft, hhealthy⟩

/-- `close` gives the lock back. -/
lemma Healthy.exists_runs_close (h : Healthy db root lock) (hlocks : s.locks = {lock.file}) :
    ∃ s' ended, Prog.Runs (custodyEffects place IsTemp) (db.call process .close) s s' (.ok ended) ∧
      Shut ended.1 root ∧ s'.locks = ∅ ∧ s'.opened = s.opened ∧
      ∀ other, other ≠ process → s'.lockedPaths other = s.lockedPaths other := by
  obtain ⟨s', hdrop, hrest⟩ := exists_runs_dropLock hlocks
  refine ⟨s', ({ db with
    lock := none, ready := false, closed := true, notifyListeners := [] }, .ok ()), ?_,
    ⟨h.closing, rfl, rfl, h.root⟩, hrest⟩
  show Prog.Runs _ (db.closeBackend process) s s' _
  unfold OpenDb.closeBackend
  rw [h.closed, h.closing, h.lock]
  exact (runs_work .shutdown true).bind (hdrop.bind (.ret _ s'))

/-- A guarded method of a closed instance does nothing. -/
lemma Shut.passes_call (h : Shut db root) {c : DbCall} (hc : c.guarded = true) :
    ∃ ended, Passes place IsTemp (db.call process c) s ended ∧ Shut ended.1 root := by
  cases c with
  | exec =>
    refine ⟨(db, .error .isClosed), ?_, h⟩
    show Passes place IsTemp (db.exec >>= fun result => pure (db, result)) s _
    unfold OpenDb.exec
    rw [h.checkReady]
    exact .ret _ s
  | listen channel =>
    refine ⟨(db, .error .isClosed), ?_, h⟩
    show Passes place IsTemp (db.listen channel) s _
    unfold OpenDb.listen
    rw [h.checkReady]
    exact .ret _ s
  | dumpDataDir =>
    refine ⟨(db, .error .isClosed), ?_, h⟩
    show Passes place IsTemp db.dumpDataDir s _
    unfold OpenDb.dumpDataDir
    rw [h.checkReady]
    exact .ret _ s
  | unlisten handle =>
    refine ⟨(db, .ok ()), ?_, h⟩
    show Passes place IsTemp (db.unlisten handle) s _
    unfold OpenDb.unlisten
    rw [h.listeners]
    exact .ret _ s
  | unlistenChannel channel =>
    refine ⟨(db, .ok ()), ?_, h⟩
    show Passes place IsTemp (db.unlistenChannel channel) s _
    unfold OpenDb.unlistenChannel
    rw [h.listeners]
    exact .ret _ s
  | close =>
    refine ⟨(db, .ok ()), ?_, h⟩
    show Passes place IsTemp (db.closeBackend process) s _
    unfold OpenDb.closeBackend
    rw [h.closed]
    exact .ret _ s
  | enableExtension extension => simp [DbCall.guarded] at hc
  | execProtocol => simp [DbCall.guarded] at hc

lemma Shut.passes_callAll {calls : List DbCall} (h : Shut db root)
    (hcalls : ∀ c ∈ calls, c.guarded = true) :
    ∃ left, Passes place IsTemp (callAll process db calls) s left ∧ Shut left root := by
  induction calls generalizing db with
  | nil => exact ⟨db, .ret _ s, h⟩
  | cons c calls ih =>
    obtain ⟨hc, hrest⟩ := List.forall_mem_cons.mp hcalls
    obtain ⟨ended, hcall, hended⟩ := h.passes_call (s := s) hc
    obtain ⟨left, hleft, hshut⟩ := ih hended hrest
    exact ⟨left, hcall.bind hleft, hshut⟩

/-- What an order that is not orderly has: a method that is not guarded behind a `close`. -/
lemma exists_of_not_guarded {calls : List DbCall} (h : ¬ ∀ c ∈ calls, c.guarded = true) :
    ∃ mid c after, calls = mid ++ c :: after ∧ (∀ c ∈ mid, c.guarded = true) ∧
      c.guarded = false := by
  induction calls with
  | nil => simp at h
  | cons c calls ih =>
    by_cases hc : c.guarded = true
    · have hrest : ¬ ∀ c ∈ calls, c.guarded = true := fun hall =>
        h (List.forall_mem_cons.mpr ⟨hc, hall⟩)
      obtain ⟨mid, c', after, hcalls, hmid, hc'⟩ := ih hrest
      exact ⟨c :: mid, c', after, by rw [hcalls]; rfl, List.forall_mem_cons.mpr ⟨hc, hmid⟩, hc'⟩
    · exact ⟨[], c, calls, rfl, by simp, Bool.eq_false_iff.mpr hc⟩

lemma exists_of_not_orderly {calls : List DbCall} (h : ¬ Orderly calls) :
    ∃ before mid c after, calls = before ++ .close :: (mid ++ c :: after) ∧
      (∀ c ∈ before, c ≠ .close) ∧ (∀ c ∈ mid, c.guarded = true) ∧ c.guarded = false := by
  -- the first `close` that has a method behind it that is not guarded
  induction calls with
  | nil => exact absurd trivial h
  | cons c calls ih =>
    by_cases hc : c = .close
    · subst hc
      obtain ⟨mid, c', after, hcalls, hmid, hc'⟩ := exists_of_not_guarded h
      exact ⟨[], mid, c', after, by rw [hcalls]; rfl, by simp, hmid, hc'⟩
    · have hrest : ¬ Orderly calls := by
        cases c with
        | close => exact absurd rfl hc
        | _ => exact h
      obtain ⟨before, mid, c', after, hcalls, hbefore, hmid, hc'⟩ := ih hrest
      exact ⟨c :: before, mid, c', after, by rw [hcalls]; rfl,
        List.forall_mem_cons.mpr ⟨hc, hbefore⟩, hmid, hc'⟩

/-- An unguarded method works in the root before it asks anything. -/
lemma call_unguarded {c : DbCall} (hc : c.guarded = false) {α : Type}
    (f : OpenDb.Ended → CustodyProg α) :
    ∃ job next, (db.call process c >>= f) = .call (.work db.root job) next := by
  cases c with
  | enableExtension extension => exact ⟨.installExtension, _, rfl⟩
  | execProtocol => exact ⟨.exchange, _, rfl⟩
  | _ => simp [DbCall.guarded] at hc

/-- The plan of a session on a root, with nothing to set up. -/
def plainPlan (root : HostPath) : OpenPlan where
  target := .path root
  setsRole := false
  extensions := []

/-- What a session holds behind `acquire`. -/
def heldAt (root : HostPath) (file : FileHandle) : HeldRoot where
  root := root
  lock := some ⟨root, file⟩
  tempDir := false

lemma exists_runs_holdRoot {file : FileHandle} (hpath : root ∉ s.lockedPaths process)
    (hfile : s.opened file = none) (hlocks : s.locks = ∅) :
    ∃ s', Prog.Runs (custodyEffects place IsTemp) (holdRoot process (.path root)) s s'
        (.ok (heldAt root file)) ∧
      s'.locks = {file} ∧ (∀ other, other ≠ file → s'.opened other = s.opened other) ∧
      ∀ other, other ≠ process → s'.lockedPaths other = s.lockedPaths other := by
  obtain ⟨s', hacquire, hrest⟩ := exists_runs_acquire hpath hfile hlocks
  exact ⟨s', hacquire.bind (.ret _ s'), hrest⟩

/-- A database is opened behind the lock. -/
lemma exists_runs_openDb {file : FileHandle} {s' : RootWorld Dir}
    (hhold : Prog.Runs (custodyEffects place IsTemp) (holdRoot process (.path root)) s s'
      (.ok (heldAt root file))) :
    ∃ db, Prog.Runs (custodyEffects place IsTemp) (openDb process (plainPlan root)) s s'
        (.ok db) ∧ Healthy db root ⟨root, file⟩ := by
  have hopen : Passes place IsTemp
      (openPreparedRoot process (plainPlan root) (heldAt root file) []) s' (heldAt root file).given :=
    (runs_work .openBackend true).bind (.ret _ s')
  exact ⟨_, hhold.bind ((runs_work .prepareRoot (some [])).bind hopen), rfl, rfl, rfl, rfl, rfl⟩

/-- A session opens the root, calls methods, closes the instance and calls guarded methods. -/
lemma exists_runs_closed {file : FileHandle} {before mid : List DbCall}
    (hbefore : ∀ c ∈ before, c ≠ .close) (hmid : ∀ c ∈ mid, c.guarded = true)
    (hpath : root ∉ s.lockedPaths process) (hfile : s.opened file = none) (hlocks : s.locks = ∅) :
    ∃ s' db, Prog.Runs (custodyEffects place IsTemp)
        (openDb process (plainPlan root) >>= fun db =>
          callAll process db (before ++ .close :: mid)) s s' (.ok db) ∧
      db.root = root ∧ s'.locks = ∅ ∧ (∀ other, other ≠ file → s'.opened other = s.opened other) ∧
      ∀ other, other ≠ process → s'.lockedPaths other = s.lockedPaths other := by
  obtain ⟨s₁, hhold, hlocks₁, hopened₁, hpaths₁⟩ := exists_runs_holdRoot hpath hfile hlocks
  obtain ⟨db, hopen, hhealthy⟩ := exists_runs_openDb hhold
  obtain ⟨db₁, hcalls, hhealthy₁⟩ := hhealthy.passes_callAll hbefore
  obtain ⟨s₂, ended, hclose, hshut, hlocks₂, hopened₂, hpaths₂⟩ :=
    hhealthy₁.exists_runs_close hlocks₁
  obtain ⟨db₂, hrest, hshut₂⟩ := hshut.passes_callAll hmid
  refine ⟨s₂, db₂, hopen.bind ?_, hshut₂.root, hlocks₂, fun other hother => ?_,
    fun other hother => ?_⟩
  · rw [callAll_append]
    exact hcalls.bind (hclose.bind hrest)
  · rw [hopened₂, hopened₁ other hother]
  · rw [hpaths₂ other hother, hpaths₁ other hother]

/-- A session that holds its root works in it. -/
lemma session_eq (process : ℕ) (plan : OpenPlan) (calls : List DbCall) :
    ∃ f, session process plan calls = holdRoot process plan.target >>= f ∧
      ∀ held, ∃ next, f held = .call (.work held.root .prepareRoot) next := by
  refine ⟨_, Prog.bind_assoc (holdRoot process plan.target) _ _, fun held => ⟨_, rfl⟩⟩

/-- **A session that is not orderly** can be at work in a root that another one has locked. -/
lemma exists_shared_work {uses : Set (Target × List DbCall)} {calls : List DbCall}
    (hcalls : (.path root, calls) ∈ uses) (horder : ¬ Orderly calls) :
    ∃ pool : SessionPool Dir, pool.Reachable place IsTemp uses ∧ ¬ pool.Exclusive place := by
  obtain ⟨before, mid, c, after, rfl, hbefore, hmid, hc⟩ := exists_of_not_orderly horder
  have hsession : ∀ process, IsSession uses
      (session process (plainPlan root) (before ++ .close :: (mid ++ c :: after))) :=
    fun process => ⟨process, _, _, rfl, hcalls⟩
  -- the first session has closed its instance and calls an unguarded method
  obtain ⟨s₁, db, hrun, hdb, hlocks₁, hopened₁, hpaths₁⟩ :=
    exists_runs_closed (s := RootWorld.initial Dir) hbefore hmid
      (show root ∉ (RootWorld.initial Dir).lockedPaths 0 from Finset.notMem_empty root)
      (show (RootWorld.initial Dir).opened 0 = none from rfl) rfl
  have hsplit : session 0 (plainPlan root) (before ++ .close :: (mid ++ c :: after)) =
      (openDb 0 (plainPlan root) >>= fun db => callAll 0 db (before ++ .close :: mid)) >>=
        fun db => callAll 0 db (c :: after) >>= fun left => left.drop 0 := by
    rw [Prog.bind_assoc]
    refine congrArg _ (funext fun db => ?_)
    rw [← Prog.bind_assoc, ← callAll_append, List.append_assoc]
    rfl
  have hstart : SessionPool.Reachable place IsTemp uses
      ⟨RootWorld.initial Dir, [] ++ [⟨session 0 (plainPlan root) _, [],
        session 0 (plainPlan root) _⟩]⟩ :=
    .spawn (.start rfl) (hsession 0)
  rw [hsplit] at hstart
  obtain ⟨past, hfirst⟩ := hrun.advance hstart
  -- the second session has the lock and begins to prepare the root
  obtain ⟨f, hsecond, hprepare⟩ :=
    session_eq 1 (plainPlan root) (before ++ .close :: (mid ++ c :: after))
  have hspawn := Pool.Reachable.spawn hfirst (hsession 1)
  rw [hsecond] at hspawn
  have hpath : root ∉ s₁.lockedPaths 1 := by
    rw [hpaths₁ 1 (by simp)]
    exact Finset.notMem_empty root
  have hfile : s₁.opened 1 = none := hopened₁ 1 (by simp)
  obtain ⟨s₂, hhold, -⟩ := exists_runs_holdRoot hpath hfile hlocks₁
  obtain ⟨past', hboth⟩ := hhold.advance hspawn
  refine ⟨_, hboth, fun hexclusive => ?_⟩
  obtain ⟨job, next, hwork⟩ : ∃ job next, (db.call 0 c >>= fun ended =>
      callAll 0 ended.1 after >>= fun left => left.drop 0) = .call (.work db.root job) next :=
    call_unguarded hc _
  obtain ⟨next', hwork'⟩ := hprepare (heldAt root 1)
  have hpair := List.pairwise_pair.mp (hexclusive (place root))
  refine hpair ⟨⟨root, job, next, ?_, rfl⟩, ⟨root, .prepareRoot, next', hwork', rfl⟩⟩
  rw [← hdb, ← hwork]
  exact Prog.bind_assoc _ _ _

/-- The plan of a session in a temporary directory, with nothing to set up. -/
def temporaryPlan : OpenPlan where
  target := .temporary
  setsRole := false
  extensions := []

/-- **A temporary directory** can be locked as a root by another session. -/
lemma exists_shared_tempDir {uses : Set (Target × List DbCall)} {calls calls' : List DbCall}
    (hpath : (.path root, calls) ∈ uses) (htemporary : (.temporary, calls') ∈ uses)
    (htemp : IsTemp (place root)) :
    ∃ pool : SessionPool Dir, pool.Reachable place IsTemp uses ∧ ¬ pool.Exclusive place := by
  have hpathPlan : IsSession uses (session 1 (plainPlan root) calls) := ⟨1, _, _, rfl, hpath⟩
  have htemporaryPlan : IsSession uses (session 0 temporaryPlan calls') :=
    ⟨0, temporaryPlan, _, rfl, htemporary⟩
  -- the first session has made its directory and begins to prepare it
  obtain ⟨f, hfirst, hprepares⟩ := session_eq 0 temporaryPlan calls'
  have hstart : SessionPool.Reachable place IsTemp uses
      ⟨RootWorld.initial Dir, [] ++ [⟨session 0 temporaryPlan calls', [],
        session 0 temporaryPlan calls'⟩]⟩ :=
    .spawn (.start rfl) htemporaryPlan
  rw [hfirst] at hstart
  have hmade : custodyStep place IsTemp .createTempDir (RootWorld.initial Dir)
      ((RootWorld.initial Dir).makeTempDir (place root)) (.ok root) :=
    ⟨htemp, List.not_mem_nil, rfl⟩
  have hmakes : Prog.Runs (custodyEffects place IsTemp) (holdRoot 0 .temporary)
      (RootWorld.initial Dir) ((RootWorld.initial Dir).makeTempDir (place root))
      (.ok ⟨root, none, true⟩) :=
    @Prog.Runs.call _ _ _ _ _ (custodyEffects place IsTemp) .createTempDir _ _ _ _ (.ok root) _
      hmade (.ret _ _)
  obtain ⟨past, hworking⟩ := hmakes.advance hstart
  -- the second one locks it
  have hspawn := Pool.Reachable.spawn hworking hpathPlan
  obtain ⟨f', hsecond, hprepares'⟩ := session_eq 1 (plainPlan root) calls
  rw [hsecond] at hspawn
  obtain ⟨s', hhold, -⟩ := @exists_runs_holdRoot _ place IsTemp 1
    ((RootWorld.initial Dir).makeTempDir (place root)) root 0 (Finset.notMem_empty root) rfl rfl
  obtain ⟨past', hboth⟩ := hhold.advance hspawn
  refine ⟨_, hboth, fun hexclusive => ?_⟩
  obtain ⟨next, hwork⟩ := hprepares ⟨root, none, true⟩
  obtain ⟨next', hwork'⟩ := hprepares' (heldAt root 0)
  have hpair := List.pairwise_pair.mp (hexclusive (place root))
  exact hpair ⟨⟨root, .prepareRoot, next, hwork, rfl⟩, ⟨root, .prepareRoot, next', hwork', rfl⟩⟩

end Disorder

/-! ## The main result -/

/-- **Who works in a root.** Sessions of any processes are never two at work in one directory if and
only if no order that goes with a path calls `enable_extension` or one of the raw protocol methods
after `close`, and no path leads to where the temporary directories of others are made. -/
theorem work_exclusive_iff {Dir : Type} (place : HostPath → Dir) (IsTemp : Dir → Prop)
    (uses : Set (Target × List DbCall)) :
    (∀ pool : SessionPool Dir, pool.Reachable place IsTemp uses → pool.Exclusive place) ↔
      (∀ root calls, (.path root, calls) ∈ uses → Orderly calls) ∧
      ∀ root calls calls', (.path root, calls) ∈ uses → (.temporary, calls') ∈ uses →
        ¬ IsTemp (place root) := by
  constructor
  · intro hexclusive
    refine ⟨fun root calls hcalls => ?_, fun root calls calls' hpath htemporary htemp => ?_⟩
    · by_contra horder
      obtain ⟨pool, hpool, hshared⟩ := exists_shared_work hcalls horder
      exact hshared (hexclusive pool hpool)
    · obtain ⟨pool, hpool, hshared⟩ := exists_shared_tempDir hpath htemporary htemp
      exact hshared (hexclusive pool hpool)
  · rintro ⟨horder, hroots⟩ pool hpool
    exact exclusive_of_orderly horder hroots hpool

/-- An exchange after `close` is made in a root that may be in use. -/
theorem work_exclusive_not_after_close :
    ¬ ∀ pool : SessionPool HostPath, pool.Reachable id (fun _ => False)
      {(.path rootDb, [.exec, .close, .execProtocol])} → pool.Exclusive id := by
  intro hexclusive
  obtain ⟨horder, -⟩ := (work_exclusive_iff id (fun _ => False)
    {(.path rootDb, [.exec, .close, .execProtocol])}).mp hexclusive
  have hguarded : DbCall.execProtocol.guarded = true :=
    horder rootDb _ rfl _ (List.mem_singleton.mpr rfl)
  simp [DbCall.guarded] at hguarded

end PgliteOxide.Pglite.RootUse
