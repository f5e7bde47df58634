import PgliteOxide.Lib.PathBuf

/-!
# Guest paths

`SyncHostFileSystem` serves the guest from a directory of the host. Every operation takes its
guest paths through `prepare_path`, which normalizes them and puts them behind the root. The model
is of a Unix host, where a path has no prefix.
-/

namespace PgliteOxide.Pglite

open Lib

inductive GuestError where
  | invalidInput
  | baseNotDirectory
  /-- `FsError::from` an error of the host. -/
  | host
deriving DecidableEq, Repr

/-- The root is canonical: absolute, and without dots. -/
structure SyncHostFileSystem where
  root : Bytes
  canonical : ∃ names : List PathPart, root = cleanText true names

/-- A turn of the loop of `normalize_path`. -/
def normalizeStep (normalized : Bytes) : Component → Bytes
  | .rootDir => pathPush normalized [47]
  | .curDir => normalized
  | .parentDir => pathPop normalized
  | .normal part => pathPush normalized part

/-- `normalize_path`. -/
def normalizePath (path : Bytes) : Bytes := (pathComponents path).foldl normalizeStep []

namespace SyncHostFileSystem

/-- `new`; `dunce::canonicalize` has the names of an absolute path for a root that it resolves. -/
def new (rootExists : Bool) (canonicalize : Except GuestError (List PathPart)) :
    Except GuestError SyncHostFileSystem :=
  if !rootExists then .error .invalidInput
  else canonicalize.map fun names => ⟨cleanText true names, names, rfl⟩

variable (fs : SyncHostFileSystem)

/-- `prepare_path`. -/
def preparePath (path : Bytes) : Except GuestError Bytes :=
  let path := normalizePath path
  if fs.root ≠ [47] ∧ pathStartsWith path fs.root = true then .error .invalidInput
  else .ok (pathPush fs.root ((stripRoot path).getD path))

/-! ## Operations -/

/-- The operations of `FileSystem` and `FileOpener` that take a path. -/
inductive Operation where
  | readlink (path : Bytes)
  | readDir (path : Bytes)
  | createDir (path : Bytes)
  | removeDir (path : Bytes)
  | rename (source target : Bytes)
  | metadata (path : Bytes)
  | symlinkMetadata (path : Bytes)
  | removeFile (path : Bytes)
  | openFile (path : Bytes)
deriving DecidableEq, Repr

/-- The host path of an operation that needs a parent. -/
def withParent (path : Bytes) : Except GuestError (List Bytes) := do
  let path ← fs.preparePath path
  if pathParent path = none then .error .baseNotDirectory else .ok [path]

/-- `rename`: it asks for parents before and after its paths are prepared. -/
def renamePaths (source target : Bytes) : Except GuestError (List Bytes) :=
  if pathParent (normalizePath source) = none ∨ pathParent (normalizePath target) = none then
    .error .baseNotDirectory
  else do
    let source ← fs.preparePath source
    let target ← fs.preparePath target
    return [source, target] ++ (pathParent source).toList ++ (pathParent target).toList

/-- The host paths an operation hands to `std::fs`. `listing` are the names in a host directory,
whose metadata `read_dir` reads. -/
def hostPaths (listing : Bytes → List PathPart) : Operation → Except GuestError (List Bytes)
  | .readlink path | .metadata path | .symlinkMetadata path | .openFile path => do
    return [← fs.preparePath path]
  | .readDir path => do
    let path ← fs.preparePath path
    return path :: (listing path).map fun entry => pathPush path entry.bytes
  | .createDir path | .removeDir path | .removeFile path => fs.withParent path
  | .rename source target => fs.renamePaths source target

/-- The root followed by names only. -/
def Inside (host : Bytes) : Prop :=
  ∃ names : List Bytes, pathComponents host = pathComponents fs.root ++ names.map .normal

end SyncHostFileSystem

/-! ## Normalizing -/

/-- A turn keeps a clean text clean. -/
lemma normalizeStep_clean {c : Component}
    (hc : c = .curDir ∨ c = .parentDir ∨ ∃ name : PathPart, c = .normal name.bytes)
    (absolute : Bool) (names : List PathPart) :
    ∃ names', normalizeStep (cleanText absolute names) c = cleanText absolute names' := by
  rcases hc with hc | hc | ⟨name, hc⟩ <;> rw [hc]
  · exact ⟨names, rfl⟩
  · exact ⟨names.dropLast, pathPop_cleanText absolute names⟩
  · exact ⟨names ++ [name], pathPush_cleanText absolute names name⟩

lemma foldl_normalizeStep_clean {comps : List Component}
    (hcomps : ∀ c ∈ comps,
      c = .curDir ∨ c = .parentDir ∨ ∃ name : PathPart, c = .normal name.bytes)
    (absolute : Bool) (names : List PathPart) :
    ∃ names', comps.foldl normalizeStep (cleanText absolute names)
      = cleanText absolute names' := by
  induction comps generalizing names with
  | nil => exact ⟨names, rfl⟩
  | cons c comps ih =>
    obtain ⟨next, hnext⟩ := normalizeStep_clean (hcomps c List.mem_cons_self) absolute names
    rw [List.foldl_cons, hnext]
    exact ih (fun c' hmem => hcomps c' (List.mem_cons_of_mem c hmem)) next

/-- A normalized path is clean. -/
lemma normalizePath_clean (path : Bytes) :
    ∃ absolute names, normalizePath path = cleanText absolute names := by
  obtain ⟨rest, hcomps, hrest⟩ := pathComponents_cases path
  unfold normalizePath
  rw [hcomps, List.foldl_append]
  by_cases hroot : path.head? = some 47
  · rw [if_pos hroot]
    exact ⟨true, foldl_normalizeStep_clean hrest true []⟩
  · rw [if_neg hroot]
    exact ⟨false, foldl_normalizeStep_clean hrest false []⟩

lemma foldl_names (absolute : Bool) (names names' : List PathPart) :
    (names'.map fun name => Component.normal name.bytes).foldl normalizeStep
      (cleanText absolute names) = cleanText absolute (names ++ names') := by
  induction names' generalizing names with
  | nil => rw [List.append_nil]; rfl
  | cons name names' ih =>
    rw [List.map_cons, List.foldl_cons]
    show (names'.map _).foldl normalizeStep (pathPush (cleanText absolute names) name.bytes) = _
    rw [pathPush_cleanText, ih, List.append_assoc]
    rfl

/-- A clean path is normalized. -/
lemma normalizePath_cleanText (absolute : Bool) (names : List PathPart) :
    normalizePath (cleanText absolute names) = cleanText absolute names := by
  unfold normalizePath
  rw [pathComponents_cleanText, List.foldl_append]
  cases absolute with
  | true => exact foldl_names true [] names
  | false => exact foldl_names false [] names

lemma normalizePath_idem (path : Bytes) :
    normalizePath (normalizePath path) = normalizePath path := by
  obtain ⟨absolute, names, hclean⟩ := normalizePath_clean path
  rw [hclean, normalizePath_cleanText]

/-! ## Containment -/

namespace SyncHostFileSystem

variable (fs : SyncHostFileSystem)

lemma preparePath_normalizePath (path : Bytes) :
    fs.preparePath (normalizePath path) = fs.preparePath path := by
  unfold preparePath
  rw [normalizePath_idem]

/-- A prepared path is the root with the names of a relative path joined to it. -/
lemma preparePath_eq {path host : Bytes} (h : fs.preparePath path = .ok host) :
    ∃ absolute names, normalizePath path = cleanText absolute names ∧
      host = pathPush fs.root (cleanText false names) := by
  obtain ⟨absolute, names, hclean⟩ := normalizePath_clean path
  unfold preparePath at h
  dsimp only at h
  split_ifs at h
  refine ⟨absolute, names, hclean, ?_⟩
  rw [hclean, stripRoot_cleanText] at h
  exact (Except.ok.inj h).symm

lemma inside_join (names : List PathPart) :
    fs.Inside (pathPush fs.root (cleanText false names)) := by
  obtain ⟨base, hroot⟩ := fs.canonical
  refine ⟨names.map PathPart.bytes, ?_⟩
  rw [hroot, pathComponents_join, List.map_map]
  rfl

lemma inside_preparePath {path host : Bytes} (h : fs.preparePath path = .ok host) :
    fs.Inside host := by
  obtain ⟨absolute, names, -, hhost⟩ := fs.preparePath_eq h
  rw [hhost]
  exact fs.inside_join names

/-- An entry of a directory inside is inside. -/
lemma inside_entry {path host : Bytes} (h : fs.preparePath path = .ok host) (entry : PathPart) :
    fs.Inside (pathPush host entry.bytes) := by
  obtain ⟨base, hroot⟩ := fs.canonical
  obtain ⟨absolute, names, -, hhost⟩ := fs.preparePath_eq h
  refine ⟨(names ++ [entry]).map PathPart.bytes, ?_⟩
  rw [hhost, hroot, pathPush_join, pathComponents_cleanText, pathComponents_cleanText]
  simp [List.map_map, Function.comp_def]

/-- A prepared path whose guest path has a parent has its parent inside too. -/
lemma inside_parent {path host parent : Bytes} (h : fs.preparePath path = .ok host)
    (hguest : pathParent (normalizePath path) ≠ none) (hparent : pathParent host = some parent) :
    fs.Inside parent := by
  obtain ⟨base, hroot⟩ := fs.canonical
  obtain ⟨absolute, names, hclean, hhost⟩ := fs.preparePath_eq h
  have hne : names ≠ [] := by
    intro hnil
    apply hguest
    rw [hclean, pathParent_cleanText, if_pos hnil]
  rw [hhost, hroot, pathPush_cleanText_names true base hne, pathParent_cleanText,
    if_neg (by simp [hne]), List.dropLast_append_of_ne_nil hne] at hparent
  refine ⟨names.dropLast.map PathPart.bytes, ?_⟩
  rw [← Option.some.inj hparent, hroot, pathComponents_cleanText, pathComponents_cleanText]
  simp [List.map_map, Function.comp_def]

lemma inside_withParent {path : Bytes} {hosts : List Bytes} (h : fs.withParent path = .ok hosts) :
    ∀ host ∈ hosts, fs.Inside host := by
  unfold withParent at h
  rcases hprepared : fs.preparePath path with e | prepared
  · rw [hprepared] at h
    cases h
  · rw [hprepared] at h
    change (if pathParent prepared = none then _ else _) = _ at h
    split_ifs at h
    · cases h
      intro host hmem
      rw [List.mem_singleton.mp hmem]
      exact fs.inside_preparePath hprepared

lemma inside_one {path : Bytes} {hosts : List Bytes}
    (h : (do return [← fs.preparePath path] : Except GuestError (List Bytes)) = .ok hosts) :
    ∀ host ∈ hosts, fs.Inside host := by
  rcases hprepared : fs.preparePath path with e | prepared
  · rw [hprepared] at h
    cases h
  · rw [hprepared] at h
    cases h
    intro host hmem
    rw [List.mem_singleton.mp hmem]
    exact fs.inside_preparePath hprepared

lemma inside_renamePaths {source target : Bytes} {hosts : List Bytes}
    (h : fs.renamePaths source target = .ok hosts) : ∀ host ∈ hosts, fs.Inside host := by
  unfold renamePaths at h
  by_cases hparents : pathParent (normalizePath source) = none ∨
      pathParent (normalizePath target) = none
  · rw [if_pos hparents] at h
    cases h
  · rw [if_neg hparents] at h
    rw [not_or] at hparents
    rcases hsource : fs.preparePath source with e | preparedSource
    · rw [hsource] at h
      cases h
    · rcases htarget : fs.preparePath target with e | preparedTarget
      · rw [hsource, htarget] at h
        cases h
      · rw [hsource, htarget] at h
        have hhosts := (Except.ok.inj h).symm
        intro host hmem
        rw [hhosts] at hmem
        simp only [List.mem_append, List.mem_cons, List.not_mem_nil, or_false,
          Option.mem_toList] at hmem
        rcases hmem with ((heq | heq) | hparent) | hparent
        · rw [heq]
          exact fs.inside_preparePath hsource
        · rw [heq]
          exact fs.inside_preparePath htarget
        · exact fs.inside_parent hsource hparents.1 hparent
        · exact fs.inside_parent htarget hparents.2 hparent

/-- No operation hands a host path to `std::fs` that is not inside the root. -/
lemma inside_hostPaths {listing : Bytes → List PathPart} {op : Operation} {hosts : List Bytes}
    (h : fs.hostPaths listing op = .ok hosts) : ∀ host ∈ hosts, fs.Inside host := by
  cases op with
  | readlink path => exact fs.inside_one h
  | metadata path => exact fs.inside_one h
  | symlinkMetadata path => exact fs.inside_one h
  | openFile path => exact fs.inside_one h
  | createDir path => exact fs.inside_withParent h
  | removeDir path => exact fs.inside_withParent h
  | removeFile path => exact fs.inside_withParent h
  | rename source target => exact fs.inside_renamePaths h
  | readDir path =>
    change (do
      let path ← fs.preparePath path
      return path :: (listing path).map fun entry : PathPart => pathPush path entry.bytes) = _ at h
    rcases hprepared : fs.preparePath path with e | prepared
    · rw [hprepared] at h
      cases h
    · rw [hprepared] at h
      have hhosts := (Except.ok.inj h).symm
      intro host hmem
      rw [hhosts] at hmem
      rcases List.mem_cons.mp hmem with heq | hentry
      · rw [heq]
        exact fs.inside_preparePath hprepared
      · obtain ⟨entry, -, hentry⟩ := List.mem_map.mp hentry
        rw [← hentry]
        exact fs.inside_entry hprepared entry

/-- **Guest paths stay inside the root.** What `prepare_path` returns is the root followed by
names, so no operation touches a path outside of it; `normalize_path` is idempotent, and
`prepare_path` does not tell a path from its normal form. -/
theorem preparePath_contained (path : Bytes) :
    (∀ host, fs.preparePath path = .ok host → fs.Inside host) ∧
    (∀ listing op hosts, fs.hostPaths listing op = .ok hosts → ∀ host ∈ hosts, fs.Inside host) ∧
    normalizePath (normalizePath path) = normalizePath path ∧
    fs.preparePath (normalizePath path) = fs.preparePath path :=
  ⟨fun _ h => fs.inside_preparePath h, fun _ _ _ h => fs.inside_hostPaths h,
    normalizePath_idem path, fs.preparePath_normalizePath path⟩

/-- `srv`, `pglite`. -/
def srvPgliteNames : List PathPart :=
  [⟨utf8 "srv", by decide +kernel, by decide +kernel⟩,
    ⟨utf8 "pglite", by decide +kernel, by decide +kernel⟩]

/-- The root `/srv/pglite`. -/
def srvPglite : SyncHostFileSystem where
  root := cleanText true srvPgliteNames
  canonical := ⟨srvPgliteNames, rfl⟩

/-- A file system on `/srv/pglite`, a path that climbs, and a directory of two entries. -/
theorem preparePath_contained_srvPglite :
    new true (.ok srvPgliteNames) = .ok srvPglite ∧ srvPglite.root = utf8 "/srv/pglite" ∧
    srvPglite.preparePath (utf8 "/../etc/./passwd") =
      .ok (utf8 "/srv/pglite/etc/passwd") ∧
    srvPglite.Inside (utf8 "/srv/pglite/etc/passwd") ∧
    srvPglite.hostPaths (fun _ => [⟨[97], by decide +kernel, by decide +kernel⟩])
      (.readDir [46, 46]) = .ok [utf8 "/srv/pglite/", utf8 "/srv/pglite/a"] ∧
    ∀ host ∈ [utf8 "/srv/pglite/", utf8 "/srv/pglite/a"],
      srvPglite.Inside host :=
  have hroot : srvPglite.root = utf8 "/srv/pglite" := by decide +kernel
  have hprepared : srvPglite.preparePath (utf8 "/../etc/./passwd") =
      .ok (utf8 "/srv/pglite/etc/passwd") := by decide +kernel
  have hlisted : srvPglite.hostPaths (fun _ => [⟨[97], by decide +kernel, by decide +kernel⟩])
      (.readDir [46, 46]) = .ok [utf8 "/srv/pglite/", utf8 "/srv/pglite/a"] := by
    decide +kernel
  have contained := preparePath_contained srvPglite (utf8 "/../etc/./passwd")
  ⟨rfl, hroot, hprepared, contained.1 _ hprepared, hlisted, contained.2.1 _ _ _ hlisted⟩

end SyncHostFileSystem

end PgliteOxide.Pglite
