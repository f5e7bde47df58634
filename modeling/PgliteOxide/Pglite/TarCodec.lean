import PgliteOxide.Lib.Tar
import PgliteOxide.Pglite.DataDir

/-!
# Plain tar archives

An `ArchiveCodec` for archives that are not compressed and whose paths fit into the headers: the
format of `Lib.Tar`, and `Entry::unpack` for such entries. It meets the rules that the theorems on
archives ask for.
-/

namespace PgliteOxide.Pglite

open Lib

/-- `EntryType::as_byte`. -/
def EntryType.typeFlag : EntryType → UInt8
  | regular => 48
  | directory => 53
  | other code => code

/-- `EntryType::new`. -/
def EntryType.ofTypeFlag (flag : UInt8) : EntryType :=
  if flag = 48 ∨ flag = 0 then .regular
  else if flag = 53 then .directory
  else .other flag

/-- The member for an entry that is appended. -/
def TarEntry.member (e : TarEntry) : Tar.Member where
  name := e.path
  typeFlag := e.entryType.typeFlag
  mode := e.mode
  mtime := e.mtime
  data := e.data

/-- An entry as it is read. -/
def TarItem.ofMember (m : Tar.Entry) : TarItem where
  path := .ok m.name
  entryType := .ofTypeFlag m.typeFlag
  data := m.data
  failure := if m.complete then none else some "failed to write entire file"
  header := m.header

instance (m : Tar.Member) : Decidable m.Storable :=
  decidable_of_iff (0 ∉ m.name ∧ m.name.length ≤ 100 ∧ m.data.length < 8 ^ 11)
    ⟨fun h => ⟨h.1, h.2.1, h.2.2⟩, fun h => ⟨h.noNul, h.name, h.size⟩⟩

/-- `Header::as_ustar`: the mark of the newer format. -/
def isUstar (header : Bytes) : Bool :=
  (header.drop 257).take 8 = [117, 115, 116, 97, 114, 0, 48, 48]

/-- A path that ends with a slash, in a header that has not the newer format. -/
def TarItem.isOldDirectory (item : TarItem) : Bool :=
  match item.path with
  | .ok path => path.getLast? = some 47 && !isUstar item.header
  | .error _ => false

/-- `Entry::unpack` of an entry that is no directory by its type. -/
def TarItem.unpack (item : TarItem) (dest : List Bytes) : Stateful PgFiles String Unit := fun s =>
  match hostPath dest with
  | none => (s, .err "file name contained an unexpected NUL byte")
  | some p =>
    if s p.dropLast ≠ some .dir then (s, .err "No such file or directory")
    else if item.isOldDirectory then
      if s.isFile p then (s, .err "File exists") else (s.makeDirs p, .ok ())
    else if s.isDir p then (s, .err "Is a directory")
    else
      (s.put p item.data,
        match item.failure with
        | none => .ok ()
        | some text => .err text)

/-- Plain tar archives. -/
def plainTar : ArchiveCodec where
  tar entries :=
    if ∀ e ∈ entries, e.member.Storable then .ok (Tar.archive (entries.map TarEntry.member))
    else .error "provided value is too long"
  untar stream :=
    match stream.failure with
    | none => .ok ((Tar.readMembers stream.data).map fun m => m.map TarItem.ofMember)
    | some text => .ok [.error text]
  unpack := TarItem.unpack
  isOldDirectory := TarItem.isOldDirectory
  gzip _ := .error "not compressed"
  gunzip _ := ⟨[], some "not compressed"⟩

/-- The rules of `Entry::unpack`. -/
lemma unpackRules_plainTar : plainTar.UnpackRules where
  file {item p s} hnew hcomplete hparent hdir := by
    show item.unpack (pathParts p) s = _
    have hnew' : item.isOldDirectory = false := hnew
    unfold TarItem.unpack
    rw [hostPath_pathParts]
    dsimp only
    rw [if_neg (not_not.mpr hparent), hnew', hdir, hcomplete]
    rfl
  partly {item p s} hnew hfailure hparent hdir := by
    obtain ⟨text, htext⟩ := Option.ne_none_iff_exists'.mp hfailure
    have hnew' : item.isOldDirectory = false := hnew
    refine ⟨text, ?_⟩
    show item.unpack (pathParts p) s = _
    unfold TarItem.unpack
    rw [hostPath_pathParts]
    dsimp only
    rw [if_neg (not_not.mpr hparent), hnew', hdir, htext]
    rfl
  noFile {item p s} hnew hdir := by
    have hnew' : item.isOldDirectory = false := hnew
    show ∃ text, item.unpack (pathParts p) s = _
    unfold TarItem.unpack
    rw [hostPath_pathParts]
    dsimp only
    by_cases hparent : s p.dropLast = some .dir
    · rw [if_neg (not_not.mpr hparent), hnew', hdir]
      exact ⟨_, rfl⟩
    · rw [if_pos hparent]
      exact ⟨_, rfl⟩
  directory {item p s} hold hparent hfile := by
    show item.unpack (pathParts p) s = _
    have hold' : item.isOldDirectory = true := hold
    unfold TarItem.unpack
    rw [hostPath_pathParts]
    dsimp only
    rw [if_neg (not_not.mpr hparent), hold', hfile]
    rfl
  noDirectory {item p s} hold hfile := by
    have hold' : item.isOldDirectory = true := hold
    show ∃ text, item.unpack (pathParts p) s = _
    unfold TarItem.unpack
    rw [hostPath_pathParts]
    dsimp only
    by_cases hparent : s p.dropLast = some .dir
    · rw [if_neg (not_not.mpr hparent), hold', hfile]
      exact ⟨_, rfl⟩
    · rw [if_pos hparent]
      exact ⟨_, rfl⟩
  noPath {item dest s} hhost := by
    show ∃ text, item.unpack dest s = _
    unfold TarItem.unpack
    rw [hhost]
    exact ⟨_, rfl⟩
  slash {item} hold := by
    have hold' : item.isOldDirectory = true := hold
    unfold TarItem.isOldDirectory at hold'
    split at hold'
    · rename_i path hpath
      rw [Bool.and_eq_true, decide_eq_true_eq] at hold'
      obtain ⟨front, hfront⟩ := List.getLast?_eq_some_iff.mp hold'.1
      exact ⟨path, hpath, front, hfront.symm⟩
    · cases hold'

/-- What is written is read back. -/
lemma untar_archive {entries : List TarEntry} (h : ∀ e ∈ entries, e.member.Storable) :
    plainTar.tar entries = .ok (Tar.archive (entries.map TarEntry.member)) ∧
      plainTar.untar ⟨Tar.archive (entries.map TarEntry.member), none⟩
        = .ok (entries.map fun e => .ok (TarItem.ofMember
          ⟨e.path, e.entryType.typeFlag, e.data, true, Tar.header e.member⟩)) := by
  refine ⟨if_pos h, ?_⟩
  have hstorable : ∀ m ∈ entries.map TarEntry.member, m.Storable :=
    List.forall_mem_map.mpr h
  have hread := Tar.readMembers_archive hstorable
  show Except.ok ((Tar.readMembers (Tar.archive (entries.map TarEntry.member))).map _) = _
  rw [hread, List.map_map, List.map_map]
  rfl

/-- An archive starts with the path of its first entry, which ends with NUL. -/
lemma archive_front {e : TarEntry} (hshort : e.path.length < 100) (entries : List TarEntry) :
    ∃ rest, Tar.archive ((e :: entries).map TarEntry.member) = e.path ++ 0 :: rest := by
  -- the name does not fill its field
  obtain ⟨k, hk⟩ : ∃ k, 100 - e.member.name.length = k + 1 :=
    ⟨99 - e.path.length, by show 100 - e.path.length = _; omega⟩
  unfold Tar.archive
  rw [List.map_cons, List.flatMap_cons]
  unfold Tar.encode Tar.header Tar.front Tar.padTo
  rw [hk, List.replicate_succ]
  simp only [List.append_assoc, List.cons_append]
  exact ⟨_, rfl⟩

end PgliteOxide.Pglite
