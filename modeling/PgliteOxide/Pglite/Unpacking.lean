import PgliteOxide.Lib.LinkTree
import PgliteOxide.Lib.PathBuf
import PgliteOxide.Lib.ProgState
import PgliteOxide.Pglite.DataDir
import PgliteOxide.Pglite.RootLock

/-!
# Unpacking on the host

The two loops that unpack a tar archive below a directory of the host: `unpack_pgdata_archive` of
`data_dir.rs` and `unpack_archive_entries_with_path_map` of `base.rs`. They take the paths of the
entries apart by different rules, and both make directories with `create_dir_all` and files with
`Entry::unpack`. Whatever is in the archive, only what is strictly inside the destination changes,
and no links are made.
-/

namespace PgliteOxide.Pglite

open Lib

/-! ## Calls -/

/-- An `io::Error` of a call on the host. -/
inductive HostError where
  | notFound
  | other (text : String)
deriving DecidableEq

/-- The calls of the loops: `mkdir` and `Path::is_dir` of `create_dir_all`, and `Entry::unpack` of
a regular file. -/
inductive UnpackOp where
  | createDir (path : HostPath)
  | isDir (path : HostPath)
  | unpackFile (dest : HostPath) (item : TarItem)

abbrev UnpackOp.Answer : UnpackOp → Type
  | createDir _ => Except HostError Unit
  | isDir _ => Bool
  | unpackFile _ _ => Except String Unit

abbrev UnpackProg (ε α : Type) := Prog UnpackOp UnpackOp.Answer ε α

/-- `Path::parent`. -/
def hostParent (path : HostPath) : Option HostPath :=
  if path = [] ∨ path = [.rootDir] then none else some path.dropLast

/-- What `create_dir_all` does when a directory could not be made: it may be there. -/
def directoryOr (path : HostPath) (err : HostError) : UnpackProg HostError Unit := do
  if ← Prog.perform (UnpackOp.isDir path) then pure () else Prog.fail err

/-- `create_dir_all`: a missing parent is made first. -/
def createDirAllHost (path : HostPath) : UnpackProg HostError Unit :=
  if _hnil : path = [] then pure ()
  else do
    match ← Prog.perform (UnpackOp.createDir path) with
    | .ok () => pure ()
    | .error (.other text) => directoryOr path (.other text)
    | .error .notFound =>
      if path = [.rootDir] then Prog.fail (.other "failed to create whole tree")
      else do
        createDirAllHost path.dropLast
        match ← Prog.perform (UnpackOp.createDir path) with
        | .ok () => pure ()
        | .error err => directoryOr path err
termination_by path.length
decreasing_by
  have hpos := List.length_pos_of_ne_nil _hnil
  rw [List.length_dropLast]
  omega

/-! ## The loops -/

/-- `anyhow::Error` as the loops build it. -/
inductive UnpackError where
  /-- A part of the archive that cannot be read. -/
  | read (text : String) (err : String)
  | unsafePgdataPath (err : DirError)
  | unsafePath (text : String) (path : List Component)
  | unsupportedType (text : String) (path : Bytes) (entryType : EntryType)
  | createDirectory (text : String) (path : HostPath) (err : HostError)
  | unpack (text : String) (path : Bytes) (err : String)

/-- The texts by which the two loops differ. -/
structure UnpackTexts where
  createDirectory : String
  unsupportedType : String
  unpack : String

/-- `create_dir_all` with its context. -/
def makeDirectories (texts : UnpackTexts) (path : HostPath) : UnpackProg UnpackError Unit :=
  (createDirAllHost path).mapErr (.createDirectory texts.createDirectory path)

def makeParent (texts : UnpackTexts) (dest : HostPath) : UnpackProg UnpackError Unit :=
  match hostParent dest with
  | some parent => makeDirectories texts parent
  | none => pure ()

/-- What both loops do with an entry and its destination. -/
def unpackItem (texts : UnpackTexts) (item : TarItem) (path : Bytes) (dest : HostPath) :
    UnpackProg UnpackError Unit :=
  match item.entryType with
  | .directory => makeDirectories texts dest
  | .other code => Prog.fail (.unsupportedType texts.unsupportedType path (.other code))
  | .regular => do
    makeParent texts dest
    match ← Prog.perform (UnpackOp.unpackFile dest item) with
    | .ok () => pure ()
    | .error err => Prog.fail (.unpack texts.unpack path err)

/-- A loop over the entries of an archive, up to the first that cannot be read. -/
def unpackLoop (text : String) (unpack : TarItem → Bytes → UnpackProg UnpackError Unit) :
    List (Except String TarItem) → UnpackProg UnpackError Unit
  | [] => pure ()
  | .error err :: _ => Prog.fail (.read text err)
  | .ok item :: items =>
    match item.path with
    | .error err => Prog.fail (.read (text ++ " path") err)
    | .ok path => do
      unpack item path
      unpackLoop text unpack items

/-! ### `unpack_pgdata_archive` -/

def pgdataTexts : UnpackTexts where
  createDirectory := "create PGDATA directory"
  unsupportedType := "PGDATA archive entry has unsupported type"
  unpack := "unpack PGDATA archive entry"

def unpackPgdataEntry (destination : HostPath) (item : TarItem) (path : Bytes) :
    UnpackProg UnpackError Unit :=
  match normalizeArchivePath path with
  | .error err => Prog.fail (.unsafePgdataPath err)
  | .ok relative =>
    if relative = [] then pure ()
    else if shouldSkipRelative relative then pure ()
    else unpackItem pgdataTexts item path (destination ++ relative.map .normal)

/-- `unpack_pgdata_archive`, from the entries on. -/
def unpackPgdataEntries (destination : HostPath) :
    List (Except String TarItem) → UnpackProg UnpackError Unit :=
  unpackLoop "read PGDATA archive entry" (unpackPgdataEntry destination)

/-! ### `unpack_archive_entries_with_path_map` -/

def archiveTexts : UnpackTexts where
  createDirectory := "create directory"
  unsupportedType := "unsafe archive entry has unsupported type"
  unpack := "unpack archive entry"

/-- `Path::strip_prefix` of one component, if it is there. -/
def stripComponent (c : Component) (path : List Component) : List Component :=
  (path.dropPrefix? [c]).getD path

/-- `runtime_archive_relative_path`. -/
def runtimeArchiveRelativePath (path : List Component) : List Component :=
  stripComponent (.normal (utf8 "tmp")) (stripComponent .curDir path)

/-- The loop of `archive_destination`. -/
def archiveDestinationFrom (archivePath : List Component) :
    HostPath → List Component → Except UnpackError HostPath
  | dest, [] => .ok dest
  | dest, .curDir :: rest => archiveDestinationFrom archivePath dest rest
  | dest, .normal part :: rest =>
    archiveDestinationFrom archivePath (dest ++ [.normal part]) rest
  | _, .rootDir :: _ => .error (.unsafePath "unsafe archive path" archivePath)
  | _, .parentDir :: _ => .error (.unsafePath "unsafe archive path" archivePath)

/-- `archive_destination`. -/
def archiveDestination (root : HostPath) (archivePath : List Component) :
    Except UnpackError HostPath := archiveDestinationFrom archivePath root archivePath

def unpackArchiveEntry (mapPath : List Component → List Component) (destination : HostPath)
    (item : TarItem) (path : Bytes) : UnpackProg UnpackError Unit :=
  match archiveDestination destination (mapPath (pathComponents path)) with
  | .error err => Prog.fail err
  | .ok dest => unpackItem archiveTexts item path dest

/-- `unpack_archive_entries_with_path_map`, from the entries on. -/
def unpackArchiveEntries (mapPath : List Component → List Component) (destination : HostPath) :
    List (Except String TarItem) → UnpackProg UnpackError Unit :=
  unpackLoop "read archive entry" (unpackArchiveEntry mapPath destination)

/-! ## What the calls do -/

abbrev HostTree := LinkTree Bytes

/-- What a call may do and answer; every call may fail. `Entry::unpack` replaces a file at its
destination. A failed one may leave nothing there or a part of the file, and for an entry of an old
format whose path ends with a slash it makes a directory. -/
inductive UnpackStep (start : Location) : (op : UnpackOp) → HostTree → HostTree → op.Answer → Prop
  | created {s : HostTree} {path : HostPath} {loc : Location} (hentry : s.Entry start path loc)
      (hfree : s loc = none) :
      UnpackStep start (.createDir path) s (Function.update s loc (some .dir)) (.ok ())
  | notCreated (s : HostTree) (path : HostPath) (err : HostError) :
      UnpackStep start (.createDir path) s s (.error err)
  | isDir {s : HostTree} {path : HostPath} {loc : Location} (hleads : s.Leads start path loc)
      (hdir : s loc = some .dir) : UnpackStep start (.isDir path) s s true
  | notDir (s : HostTree) (path : HostPath) : UnpackStep start (.isDir path) s s false
  | unpacked {s s' : HostTree} {dest : HostPath} {item : TarItem} {loc : Location}
      (hentry : s.Entry start dest loc) (hother : ∀ loc', loc' ≠ loc → s' loc' = s loc')
      (hdir : s loc = some .dir → s' loc = some .dir)
      (hnode : s' loc = some .dir ∨ s' loc = some (.file item.data)) :
      UnpackStep start (.unpackFile dest item) s s' (.ok ())
  | notUnpacked (s : HostTree) (dest : HostPath) (item : TarItem) (err : String) :
      UnpackStep start (.unpackFile dest item) s s (.error err)
  | partlyUnpacked {s s' : HostTree} {dest : HostPath} {item : TarItem} {loc : Location}
      (hentry : s.Entry start dest loc) (hother : ∀ loc', loc' ≠ loc → s' loc' = s loc')
      (hdir : s loc = some .dir → s' loc = some .dir)
      (hnode : s' loc = none ∨ s' loc = some .dir ∨
        ∃ data, data <+: item.data ∧ s' loc = some (.file data)) (err : String) :
      UnpackStep start (.unpackFile dest item) s s' (.error err)

/-- A loop that is stopped inside a call leaves what the call may do. -/
def unpackEffects (start : Location) : Effects UnpackOp UnpackOp.Answer HostTree where
  step := UnpackStep start
  crash op s c := ∃ ans, UnpackStep start op s c ans

/-! ## Containment -/

section

variable {start base : Location} {destination : HostPath} {s s' : HostTree}

/-- The calls that the loops may make: directories at the destination, below it and on the way to
it, and files at it and below it. -/
def UnpackOp.Below (destination : HostPath) : UnpackOp → Prop
  | createDir path => (∃ names : List Bytes, path = destination ++ names.map .normal) ∨
      ∃ rest, path ++ rest = destination
  | isDir _ => True
  | unpackFile dest _ => ∃ names : List Bytes, dest = destination ++ names.map .normal

/-- A change at the destination or below it, where no directory is replaced and no link is put. -/
lemma within_of_unpack {dest : HostPath} {loc : Location} {names : List Bytes}
    (hdest : s.IsDestination start destination base)
    (hpath : dest = destination ++ names.map .normal) (hentry : s.Entry start dest loc)
    (hother : ∀ loc', loc' ≠ loc → s' loc' = s loc')
    (hdir : s loc = some .dir → s' loc = some .dir)
    (hlink : ∀ target, s' loc ≠ some (.link target)) : LinkTree.Within base s s' := by
  rw [hpath] at hentry
  by_cases hnil : names = []
  · -- the destination itself is a directory, which stays as it is
    rw [hnil, List.map_nil, List.append_nil] at hentry
    have hkept := hdest.real loc hentry
    have hsame : s' = s := by
      funext loc'
      by_cases heq : loc' = loc
      · rw [heq, hkept, hdir hkept]
      · exact hother loc' heq
    rw [hsame]
    exact .refl base s
  · have hloc := hentry.names hdest.leads hdest.noLinks hnil
    rw [hloc] at hother hdir hlink
    exact .of_change hnil hother hdir (hdest.noLinks names hnil) hlink

/-- **A call of the loops** changes only what is strictly inside the destination. -/
lemma UnpackStep.within {op : UnpackOp} {ans : op.Answer} (h : UnpackStep start op s s' ans)
    (hop : op.Below destination) (hdest : s.IsDestination start destination base) :
    LinkTree.Within base s s' := by
  cases h with
  | @created s path loc hentry hfree =>
    rcases hop with ⟨names, hpath⟩ | ⟨rest, hpath⟩
    · refine within_of_unpack hdest hpath hentry ?_ ?_ ?_
      · intro loc' hne
        exact Function.update_of_ne hne _ _
      · intro hdir
        rw [hfree] at hdir
        cases hdir
      · intro target hlink
        rw [Function.update_self] at hlink
        cases hlink
    · have hleads := hdest.leads
      rw [← hpath] at hleads
      exact absurd hfree (hentry.occupied hleads hdest.dir)
  | notCreated => exact .refl base s
  | isDir => exact .refl base s
  | notDir => exact .refl base s
  | unpacked hentry hother hdir hnode =>
    obtain ⟨names, hpath⟩ := hop
    refine within_of_unpack hdest hpath hentry hother hdir fun target hlink => ?_
    rcases hnode with hnode | hnode
    · rw [hnode] at hlink
      cases hlink
    · rw [hnode] at hlink
      cases hlink
  | notUnpacked => exact .refl base s
  | partlyUnpacked hentry hother hdir hnode =>
    obtain ⟨names, hpath⟩ := hop
    refine within_of_unpack hdest hpath hentry hother hdir fun target hlink => ?_
    rcases hnode with hnode | hnode | ⟨data, -, hnode⟩
    · rw [hnode] at hlink
      cases hlink
    · rw [hnode] at hlink
      cases hlink
    · rw [hnode] at hlink
      cases hlink

/-- The parent of such a directory is one. -/
lemma below_dropLast {path : HostPath}
    (h : (UnpackOp.createDir path).Below destination) :
    (UnpackOp.createDir path.dropLast).Below destination := by
  by_cases hnil : path = []
  · rw [hnil]
    exact Or.inr ⟨destination, rfl⟩
  have hlast : path.dropLast ++ [path.getLast hnil] = path := List.dropLast_append_getLast hnil
  rcases h with ⟨names, hpath⟩ | ⟨rest, hpath⟩
  · by_cases hnames : names = []
    · refine Or.inr ⟨[path.getLast hnil], ?_⟩
      rw [hlast, hpath, hnames]
      simp
    · refine Or.inl ⟨names.dropLast, ?_⟩
      rw [hpath, List.dropLast_append_of_ne_nil (by simpa using hnames), List.map_dropLast]
  · refine Or.inr ⟨path.getLast hnil :: rest, ?_⟩
    rw [← hpath]
    conv_rhs => rw [← hlast]
    simp

lemma directoryOr_keepsTo (path : HostPath) (err : HostError) :
    (directoryOr path err).keepsTo (UnpackOp.Below destination) fun _ => True := by
  unfold directoryOr
  refine Prog.keepsTo_seq (Prog.keepsTo_call trivial) fun isDir => ?_
  exact Prog.keepsTo_ite trivial trivial

lemma createDirAllHost_keepsTo {path : HostPath}
    (h : (UnpackOp.createDir path).Below destination) :
    (createDirAllHost path).keepsTo (UnpackOp.Below destination) fun _ => True := by
  induction hlength : path.length using Nat.strong_induction_on generalizing path with
  | _ n ih =>
    unfold createDirAllHost
    by_cases hnil : path = []
    · rw [dif_pos hnil]
      trivial
    · have hpos := List.length_pos_of_ne_nil hnil
      have hparent := ih path.dropLast.length (by rw [List.length_dropLast]; omega)
        (below_dropLast h) rfl
      rw [dif_neg hnil]
      refine Prog.keepsTo_seq (Prog.keepsTo_call h) fun made => ?_
      rcases made with (_ | text) | _
      · refine Prog.keepsTo_ite trivial (Prog.keepsTo_seq hparent fun _ => ?_)
        refine Prog.keepsTo_seq (Prog.keepsTo_call h) fun again => ?_
        rcases again with err | _
        · exact directoryOr_keepsTo path err
        · trivial
      · exact directoryOr_keepsTo path _
      · trivial

lemma makeDirectories_keepsTo {texts : UnpackTexts} {path : HostPath}
    (h : (UnpackOp.createDir path).Below destination) :
    (makeDirectories texts path).keepsTo (UnpackOp.Below destination) fun _ => True :=
  Prog.keepsTo_mapErr (createDirAllHost_keepsTo h)

/-- An entry whose destination is names below the destination directory. -/
lemma unpackItem_keepsTo (texts : UnpackTexts) (item : TarItem) (path : Bytes)
    (names : List Bytes) :
    (unpackItem texts item path (destination ++ names.map .normal)).keepsTo
      (UnpackOp.Below destination) fun _ => True := by
  have hdest : (UnpackOp.createDir (destination ++ names.map .normal)).Below destination :=
    Or.inl ⟨names, rfl⟩
  unfold unpackItem
  rcases item.entryType with _ | _ | code
  · refine Prog.keepsTo_seq ?_ fun _ => ?_
    · unfold makeParent hostParent
      split_ifs
      · trivial
      · exact makeDirectories_keepsTo (below_dropLast hdest)
    · refine Prog.keepsTo_seq (Prog.keepsTo_call ⟨names, rfl⟩) fun unpacked => ?_
      rcases unpacked with err | _
      · trivial
      · trivial
  · exact makeDirectories_keepsTo hdest
  · trivial

lemma unpackLoop_keepsTo {text : String} {unpack : TarItem → Bytes → UnpackProg UnpackError Unit}
    (h : ∀ item path, (unpack item path).keepsTo (UnpackOp.Below destination) fun _ => True)
    (items : List (Except String TarItem)) :
    (unpackLoop text unpack items).keepsTo (UnpackOp.Below destination) fun _ => True := by
  induction items with
  | nil => trivial
  | cons item items ih =>
    rcases item with err | item
    · trivial
    · unfold unpackLoop
      rcases item.path with err | path
      · trivial
      · exact Prog.keepsTo_seq (h item path) fun _ => ih

/-- **A loop that makes such calls** changes only what is strictly inside the destination,
wherever it is stopped. -/
lemma safe_of_below {ε α : Type} {p : UnpackProg ε α} {R : α → Prop}
    (hdest : s.IsDestination start destination base)
    (h : p.keepsTo (UnpackOp.Below destination) R) :
    Prog.safe (unpackEffects start) (LinkTree.Within base s)
      (fun _ r => ∀ a, r = .ok a → R a) p s := by
  refine Prog.safe_of_keepsTo ?_ ?_ h (.refl base s)
  · intro op t c hop hcrash hwithin
    obtain ⟨ans, hstep⟩ := hcrash
    exact hwithin.trans (hstep.within hop (hdest.within hwithin))
  · intro op t t' ans hop hstep hwithin
    exact hwithin.trans (UnpackStep.within hstep hop (hdest.within hwithin))

end

/-! ## Paths -/

lemma parentDir_mem_components {path : Bytes} (h : .parentDir ∈ pathComponents path) :
    .parentDir ∈ components path := by
  unfold pathComponents at h
  split at h
  · rename_i rest hrest
    rw [hrest]
    rcases List.mem_cons.mp h with hcur | hmem
    · cases hcur
    · exact List.mem_cons_of_mem _ (List.mem_of_mem_filter hmem)
  · exact List.mem_of_mem_filter h

lemma foldlM_error {α β ε : Type} {f : β → α → Except ε β} {l : List α} {a : α} (ha : a ∈ l)
    (hf : ∀ b, ∃ err, f b a = .error err) (b : β) : ∃ err, l.foldlM f b = .error err := by
  induction l generalizing b with
  | nil => exact absurd ha List.not_mem_nil
  | cons x l ih =>
    rw [List.foldlM_cons]
    rcases hx : f b x with err | b'
    · exact ⟨err, rfl⟩
    · rcases List.mem_cons.mp ha with heq | hmem
      · obtain ⟨err, herr⟩ := hf b
        rw [heq, hx] at herr
        cases herr
      · exact ih hmem b'

/-- A path with a parent directory is not normalized. -/
lemma normalizeArchivePath_parentDir {path : Bytes} (h : .parentDir ∈ pathComponents path) :
    ∃ err, normalizeArchivePath path = .error err := by
  unfold normalizeArchivePath
  refine foldlM_error (parentDir_mem_components h) (fun dest => ?_) []
  exact ⟨_, rfl⟩

lemma archiveDestinationFrom_parentDir {archivePath rest : List Component}
    (h : .parentDir ∈ rest) (dest : HostPath) :
    ∃ err, archiveDestinationFrom archivePath dest rest = .error err := by
  induction rest generalizing dest with
  | nil => exact absurd h List.not_mem_nil
  | cons c rest ih =>
    rcases c with _ | _ | _ | part
    · exact ⟨_, rfl⟩
    · exact ih ((List.mem_cons.mp h).resolve_left fun hc => by cases hc) dest
    · exact ⟨_, rfl⟩
    · exact ih ((List.mem_cons.mp h).resolve_left fun hc => by cases hc) _

/-- The destination of an entry is names below the root. -/
lemma archiveDestinationFrom_ok {archivePath rest : List Component} {dest dest' : HostPath}
    (h : archiveDestinationFrom archivePath dest rest = .ok dest') :
    ∃ names : List Bytes, dest' = dest ++ names.map .normal := by
  induction rest generalizing dest with
  | nil =>
    cases h
    exact ⟨[], by simp⟩
  | cons c rest ih =>
    rcases c with _ | _ | _ | part
    · cases h
    · exact ih h
    · cases h
    · obtain ⟨names, hnames⟩ := ih h
      exact ⟨part :: names, by rw [hnames, List.map_cons, List.append_assoc]; rfl⟩

lemma parentDir_mem_stripComponent {c : Component} (hc : c ≠ .parentDir) {path : List Component}
    (h : .parentDir ∈ path) : .parentDir ∈ stripComponent c path := by
  unfold stripComponent
  rcases hstrip : path.dropPrefix? [c] with _ | rest
  · exact h
  · obtain ⟨front, hpath, hfront⟩ := List.dropPrefix?_eq_some_iff.mp hstrip
    rw [hpath, eq_of_beq hfront] at h
    rcases List.mem_cons.mp h with heq | hmem
    · exact absurd heq.symm hc
    · exact hmem

/-! ## Both loops -/

/-- The path maps that the callers pass. -/
inductive PathMap where
  | identity
  | runtime

def PathMap.apply : PathMap → List Component → List Component
  | identity => id
  | runtime => runtimeArchiveRelativePath

inductive Unpacker where
  | pgdata
  | archive (map : PathMap)

namespace Unpacker

def unpack (destination : HostPath) : Unpacker → List (Except String TarItem) →
    UnpackProg UnpackError Unit
  | pgdata => unpackPgdataEntries destination
  | archive map => unpackArchiveEntries map.apply destination

def readText : Unpacker → String
  | pgdata => "read PGDATA archive entry"
  | archive _ => "read archive entry"

def unpackEntry (destination : HostPath) : Unpacker → TarItem → Bytes → UnpackProg UnpackError Unit
  | pgdata => unpackPgdataEntry destination
  | archive map => unpackArchiveEntry map.apply destination

/-- The paths that are passed over: those on the skip list, and the path of the destination
itself. -/
def PassesOver : Unpacker → Bytes → Prop
  | pgdata, path => ∃ relative, normalizeArchivePath path = .ok relative ∧
      (relative = [] ∨ shouldSkipRelative relative = true)
  | archive _, _ => False

variable (u : Unpacker) {destination : HostPath} {start base : Location} {s c : HostTree}

lemma unpack_eq (destination : HostPath) :
    u.unpack destination = unpackLoop u.readText (u.unpackEntry destination) := by
  rcases u with _ | map
  · rfl
  · rfl

lemma unpackEntry_keepsTo (item : TarItem) (path : Bytes) :
    (u.unpackEntry destination item path).keepsTo (UnpackOp.Below destination) fun _ => True := by
  rcases u with _ | map
  · show (unpackPgdataEntry destination item path).keepsTo _ _
    unfold unpackPgdataEntry
    rcases normalizeArchivePath path with err | relative
    · trivial
    · refine Prog.keepsTo_ite trivial (Prog.keepsTo_ite trivial ?_)
      exact unpackItem_keepsTo _ _ _ relative
  · show (unpackArchiveEntry map.apply destination item path).keepsTo _ _
    unfold unpackArchiveEntry
    rcases hdest : archiveDestination destination (map.apply (pathComponents path)) with err | dest
    · trivial
    · obtain ⟨names, hnames⟩ := archiveDestinationFrom_ok hdest
      dsimp only
      rw [hnames]
      exact unpackItem_keepsTo _ _ _ names

/-- An entry with a parent directory in its path fails. -/
lemma unpackEntry_parentDir {item : TarItem} {path : Bytes}
    (h : .parentDir ∈ pathComponents path) :
    ∃ err, u.unpackEntry destination item path = Prog.fail err := by
  rcases u with _ | map
  · obtain ⟨err, herr⟩ := normalizeArchivePath_parentDir h
    refine ⟨.unsafePgdataPath err, ?_⟩
    show unpackPgdataEntry destination item path = _
    unfold unpackPgdataEntry
    rw [herr]
  · have hmapped : .parentDir ∈ map.apply (pathComponents path) := by
      rcases map with _ | _
      · exact h
      · exact parentDir_mem_stripComponent (by simp) (parentDir_mem_stripComponent (by simp) h)
    obtain ⟨err, herr⟩ : ∃ err, archiveDestination destination
        (map.apply (pathComponents path)) = .error err :=
      archiveDestinationFrom_parentDir hmapped destination
    refine ⟨err, ?_⟩
    show unpackArchiveEntry map.apply destination item path = _
    unfold unpackArchiveEntry
    rw [herr]

/-- An entry that is neither a directory nor a regular file is passed over or fails. -/
lemma unpackEntry_other {item : TarItem} {code : UInt8} (h : item.entryType = .other code)
    (path : Bytes) :
    (u.PassesOver path ∧ u.unpackEntry destination item path = pure ()) ∨
      ¬ u.PassesOver path ∧ ∃ err, u.unpackEntry destination item path = Prog.fail err := by
  have hitem : ∀ texts dest, ∃ err, unpackItem texts item path dest = Prog.fail err := by
    intro texts dest
    refine ⟨.unsupportedType texts.unsupportedType path (.other code), ?_⟩
    unfold unpackItem
    rw [h]
  rcases u with _ | map
  · show (_ ∧ unpackPgdataEntry destination item path = _) ∨
      _ ∧ ∃ err, unpackPgdataEntry destination item path = _
    unfold unpackPgdataEntry PassesOver
    rcases hnorm : normalizeArchivePath path with err | relative
    · refine Or.inr ⟨fun hpass => ?_, _, rfl⟩
      obtain ⟨relative, hok, -⟩ := hpass
      rw [hok] at hnorm
      cases hnorm
    · dsimp only
      by_cases hnil : relative = []
      · rw [if_pos hnil]
        exact Or.inl ⟨⟨relative, hnorm, Or.inl hnil⟩, rfl⟩
      · rw [if_neg hnil]
        by_cases hskip : shouldSkipRelative relative = true
        · rw [if_pos hskip]
          exact Or.inl ⟨⟨relative, hnorm, Or.inr hskip⟩, rfl⟩
        · rw [if_neg hskip]
          refine Or.inr ⟨fun hpass => ?_, hitem _ _⟩
          obtain ⟨relative', hok, hpass⟩ := hpass
          rw [hnorm] at hok
          rw [← Except.ok.inj hok] at hpass
          rcases hpass with hpass | hpass
          · exact hnil hpass
          · exact hskip hpass
  · refine Or.inr ⟨id, ?_⟩
    show ∃ err, unpackArchiveEntry map.apply destination item path = _
    unfold unpackArchiveEntry
    rcases archiveDestination destination (map.apply (pathComponents path)) with err | dest
    · exact ⟨err, rfl⟩
    · exact hitem _ _

/-! ### Entries one after another -/

lemma unpackLoop_cons {text : String} {unpack : TarItem → Bytes → UnpackProg UnpackError Unit}
    {item : TarItem} {path : Bytes} (h : item.path = .ok path)
    (items : List (Except String TarItem)) :
    unpackLoop text unpack (.ok item :: items)
      = unpack item path >>= fun _ => unpackLoop text unpack items := by
  conv_lhs => unfold unpackLoop
  rw [h]

/-- The entries before one, and that one. -/
lemma unpackLoop_append (text : String) (unpack : TarItem → Bytes → UnpackProg UnpackError Unit)
    (pre items : List (Except String TarItem)) :
    unpackLoop text unpack (pre ++ items)
      = unpackLoop text unpack pre >>= fun _ => unpackLoop text unpack items := by
  induction pre with
  | nil => rfl
  | cons item pre ih =>
    rcases item with err | item
    · rfl
    · rcases hpath : item.path with err | path
      · have hfail : ∀ rest, unpackLoop text unpack (.ok item :: rest)
            = Prog.fail (.read (text ++ " path") err) := by
          intro rest
          conv_lhs => unfold unpackLoop
          rw [hpath]
        rw [List.cons_append, hfail, hfail]
        rfl
      · rw [List.cons_append, unpackLoop_cons hpath, unpackLoop_cons hpath, ih, Prog.bind_assoc]

/-- A loop that ends with a failure ends with an error, after what the entries before did. -/
lemma runs_bind_fail {p : UnpackProg UnpackError Unit} {err : UnpackError}
    {r : Except UnpackError Unit}
    (h : Prog.Runs (unpackEffects start) (p >>= fun _ => Prog.fail err) s c r) :
    (∃ err', r = .error err') ∧ ∃ r', Prog.Runs (unpackEffects start) p s c r' := by
  induction p generalizing s with
  | ret a =>
    cases h
    exact ⟨⟨err, rfl⟩, _, .ret a _⟩
  | fail e =>
    cases h
    exact ⟨⟨e, rfl⟩, _, .fail e _⟩
  | call op next ih =>
    cases h with
    | call hstep h =>
      obtain ⟨herr, r', hr'⟩ := ih _ h
      exact ⟨herr, r', .call hstep hr'⟩

/-- The entries up to one that fails. -/
lemma runs_of_fail {item : TarItem} {path : Bytes} (hpath : item.path = .ok path)
    {err : UnpackError} (hfail : u.unpackEntry destination item path = Prog.fail err)
    {pre post : List (Except String TarItem)} {r : Except UnpackError Unit}
    (h : Prog.Runs (unpackEffects start) (u.unpack destination (pre ++ .ok item :: post)) s c r) :
    (∃ err', r = .error err') ∧
      ∃ r', Prog.Runs (unpackEffects start) (u.unpack destination pre) s c r' := by
  rw [unpack_eq, unpackLoop_append, unpackLoop_cons hpath, hfail] at h
  rw [unpack_eq]
  exact runs_bind_fail h

end Unpacker

/-! ## The property -/

/-- **Containment.** Whatever the entries are and wherever the loop stops, only what is strictly
inside the destination has changed, directories are kept, and no links have been made. An entry
with a parent directory in its path ends the loop with an error, and one that is neither a
directory nor a regular file is passed over or does so too. -/
theorem unpack_within (u : Unpacker) {start base : Location} {destination : HostPath}
    {s : HostTree} (hdest : s.IsDestination start destination base)
    (items : List (Except String TarItem)) :
    (∀ c, ((∃ r, Prog.Runs (unpackEffects start) (u.unpack destination items) s c r) ∨
        Prog.Dies (unpackEffects start) (u.unpack destination items) s c) →
      LinkTree.Within base s c) ∧
    ∀ pre item path post, items = pre ++ .ok item :: post → item.path = .ok path →
      (.parentDir ∈ pathComponents path → ∀ c r,
        Prog.Runs (unpackEffects start) (u.unpack destination items) s c r →
        (∃ err, r = .error err) ∧
          ∃ r', Prog.Runs (unpackEffects start) (u.unpack destination pre) s c r') ∧
      ∀ code, item.entryType = .other code →
        (u.PassesOver path →
          u.unpack destination items = u.unpack destination (pre ++ post)) ∧
        (¬ u.PassesOver path → ∀ c r,
          Prog.Runs (unpackEffects start) (u.unpack destination items) s c r →
          (∃ err, r = .error err) ∧
            ∃ r', Prog.Runs (unpackEffects start) (u.unpack destination pre) s c r') := by
  have hkeeps : (u.unpack destination items).keepsTo (UnpackOp.Below destination)
      fun _ => True := by
    rw [u.unpack_eq]
    exact unpackLoop_keepsTo u.unpackEntry_keepsTo items
  have hsafe := safe_of_below hdest hkeeps
  constructor
  · intro c hc
    rcases hc with ⟨r, hrun⟩ | hdies
    · exact hrun.dies.of_safe hsafe
    · exact hdies.of_safe hsafe
  · intro pre item path post hitems hpath
    rw [hitems]
    constructor
    · intro hparent c r hrun
      obtain ⟨err, herr⟩ := u.unpackEntry_parentDir hparent
      exact u.runs_of_fail hpath herr hrun
    · intro code hother
      rcases u.unpackEntry_other hother path with ⟨hpass, hpure⟩ | ⟨hpass, err, herr⟩
      · refine ⟨fun _ => ?_, fun hnot => absurd hpass hnot⟩
        rw [u.unpack_eq, Unpacker.unpackLoop_append, Unpacker.unpackLoop_append,
          Unpacker.unpackLoop_cons hpath, hpure]
        rfl
      · refine ⟨fun hyes => absurd hyes hpass, fun _ c r hrun => ?_⟩
        exact u.runs_of_fail hpath herr hrun

/-- A host with one directory below the root. -/
def oneDirectory (name : Bytes) : HostTree := fun loc =>
  if loc = [] ∨ loc = [name] then some .dir else none

lemma isDestination_oneDirectory (name : Bytes) :
    (oneDirectory name).IsDestination [] [.rootDir, .normal name] [name] where
  leads := by
    have hroot : oneDirectory name [] = some .dir := if_pos (Or.inl rfl)
    have hname : (oneDirectory name).next [] (.normal name) = ([name], []) := by
      apply LinkTree.next_name
      intro target hlink
      rw [List.nil_append, oneDirectory, if_pos (Or.inr rfl)] at hlink
      cases hlink
    refine .step hroot (.step hroot ?_)
    show (oneDirectory name).Leads ((oneDirectory name).next [] (.normal name)).1
      (((oneDirectory name).next [] (.normal name)).2 ++ []) [name]
    rw [hname]
    exact .here [name]
  dir := if_pos (Or.inr rfl)
  real := by
    intro loc hentry
    obtain ⟨front, last, dir, hpath, hfront, -, hloc⟩ := hentry
    have hconcat : [Component.rootDir] ++ [.normal name] = front ++ [.normal last] := hpath
    obtain ⟨hroot, hlast⟩ := List.append_inj' hconcat rfl
    rw [← hroot] at hfront
    have hdir : dir = [] := by
      cases hfront with
      | step _ h =>
        cases h
        rfl
    rw [hloc, hdir, ← Component.normal.inj (List.cons.inj hlast).1]
    exact if_pos (Or.inr rfl)
  noLinks := by
    intro below hne target hlink
    unfold oneDirectory at hlink
    split_ifs at hlink
    cases hlink

/-- Two entries of which the second leaves the destination. -/
theorem unpack_within_parent :
    (oneDirectory [100]).IsDestination [] [.rootDir, .normal [100]] [[100]] ∧
      ∀ c r, Prog.Runs (unpackEffects []) (Unpacker.pgdata.unpack [.rootDir, .normal [100]]
          [.ok ⟨.ok (utf8 "a"), .regular, [1], none, []⟩, .ok ⟨.ok (utf8 "../b"), .regular, [2], none, []⟩])
          (oneDirectory [100]) c r →
        LinkTree.Within [[100]] (oneDirectory [100]) c ∧ ∃ err, r = .error err := by
  have hdest := isDestination_oneDirectory [100]
  have hparent : Component.parentDir ∈ pathComponents (utf8 "../b") := by decide +kernel
  obtain ⟨hwithin, hentries⟩ := unpack_within .pgdata hdest
    [.ok ⟨.ok (utf8 "a"), .regular, [1], none, []⟩, .ok ⟨.ok (utf8 "../b"), .regular, [2], none, []⟩]
  refine ⟨hdest, fun c r hrun => ⟨hwithin c (Or.inl ⟨r, hrun⟩), ?_⟩⟩
  exact ((hentries [_] _ _ [] rfl rfl).1 hparent c r hrun).1

/-- A link whose path is the destination itself is passed over without an error, and it is not on
the skip list. -/
theorem rootLink_passed_over :
    normalizeArchivePath (utf8 "./") = .ok [] ∧ shouldSkipRelative [] = false ∧
      Prog.Runs (unpackEffects []) (Unpacker.pgdata.unpack [.rootDir, .normal [100]]
          [.ok ⟨.ok (utf8 "./"), .other 50, [], none, []⟩])
        (oneDirectory [100]) (oneDirectory [100]) (.ok ()) := by
  have hnorm : normalizeArchivePath (utf8 "./") = .ok [] := by decide +kernel
  refine ⟨hnorm, by decide +kernel, ?_⟩
  have hentry : Unpacker.pgdata.unpackEntry [.rootDir, .normal [100]]
      ⟨.ok (utf8 "./"), .other 50, [], none, []⟩ (utf8 "./") = pure () := by
    unfold Unpacker.unpackEntry unpackPgdataEntry
    dsimp only
    rw [hnorm]
    exact if_pos rfl
  rw [Unpacker.unpack_eq, Unpacker.unpackLoop_cons rfl, hentry]
  exact .ret () _

end PgliteOxide.Pglite
