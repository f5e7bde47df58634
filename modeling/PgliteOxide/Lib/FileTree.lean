import Mathlib.Data.List.Infix
import Mathlib.Data.List.Sort
import Mathlib.Order.Defs.LinearOrder
import PgliteOxide.Lib.Stateful

/-!
# Files and directories

A file system is what is at each path (`Files`); the calls of `std::fs` are methods on it. A
directory with all that is below it is also a tree (`Dir`), which is how code that walks a
directory sees it: the entries of each directory in the order of their names. `find` connects the
two, and a sorted tree is determined by what it finds.
-/

namespace Lib

variable {N D : Type}

/-- What is at a path. -/
inductive Node (D : Type) where
  | file (data : D)
  | dir
deriving DecidableEq, Repr

/-- What is at each path. -/
abbrev Files (N D : Type) := List N → Option (Node D)

/-- The kinds of `io::Error` the calls below end with. -/
inductive FsError where
  | notFound
  | notADirectory
  | isADirectory
  | invalidInput
deriving DecidableEq, Repr

namespace Files

/-- `Path::is_file`. -/
def isFile (s : Files N D) (p : List N) : Bool :=
  match s p with
  | some (.file _) => true
  | _ => false

/-- `Path::is_dir`. -/
def isDir (s : Files N D) (p : List N) : Bool :=
  match s p with
  | some .dir => true
  | _ => false

/-- `Path::exists`. -/
def exists' (s : Files N D) (p : List N) : Bool := (s p).isSome

lemma isFile_iff {s : Files N D} {p : List N} :
    s.isFile p = true ↔ ∃ data, s p = some (.file data) := by
  unfold isFile
  split <;> simp_all

lemma isFile_congr {s s' : Files N D} {p p' : List N} (h : s' p' = s p) :
    s'.isFile p' = s.isFile p := by
  unfold isFile
  rw [h]

lemma isFile_of_dir {s : Files N D} {p : List N} (h : s p = some .dir) : s.isFile p = false := by
  unfold isFile
  rw [h]

lemma isDir_iff {s : Files N D} {p : List N} : s.isDir p = true ↔ s p = some .dir := by
  unfold isDir
  split <;> simp_all

variable [DecidableEq N]

/-- Nothing at or below `t`. -/
def removeTree (s : Files N D) (t : List N) : Files N D := fun p =>
  if t <+: p then none else s p

/-- Nothing below `t`. -/
def removeBelow (s : Files N D) (t : List N) : Files N D := fun p =>
  if t <+: p ∧ p ≠ t then none else s p

/-- A directory at `d` and above it. -/
def makeDirs (s : Files N D) (d : List N) : Files N D := fun p =>
  if p <+: d then some .dir else s p

/-- A file at `f`. -/
def put (s : Files N D) (f : List N) (data : D) : Files N D := fun p =>
  if p = f then some (.file data) else s p

/-! ### What is a file, and what a directory -/

section Kinds

variable {s : Files N D} {d f p : List N} {data : D}

/-- A directory is made where there is no file on the way, so that files stay. -/
lemma isFile_makeDirs (hfree : ∀ r, r <+: d → s.isFile r = false) (p : List N) :
    (s.makeDirs d).isFile p = s.isFile p := by
  by_cases hp : p <+: d
  · rw [hfree p hp]
    exact isFile_of_dir (if_pos hp)
  · exact isFile_congr (if_neg hp)

lemma isDir_makeDirs : (s.makeDirs d).isDir p = true ↔ p <+: d ∨ s.isDir p = true := by
  rw [isDir_iff, isDir_iff]
  unfold Files.makeDirs
  by_cases hp : p <+: d
  · rw [if_pos hp]
    exact iff_of_true rfl (.inl hp)
  · rw [if_neg hp]
    exact (or_iff_right hp).symm

lemma isFile_put : (s.put f data).isFile p = true ↔ p = f ∨ s.isFile p = true := by
  by_cases hp : p = f
  · have hfile : (s.put f data).isFile p = true := isFile_iff.mpr ⟨data, if_pos hp⟩
    exact iff_of_true hfile (.inl hp)
  · have hsame : (s.put f data).isFile p = s.isFile p := isFile_congr (if_neg hp)
    rw [hsame]
    exact (or_iff_right hp).symm

lemma isDir_put : (s.put f data).isDir p = true ↔ p ≠ f ∧ s.isDir p = true := by
  rw [isDir_iff, isDir_iff]
  unfold Files.put
  by_cases hp : p = f
  · rw [if_pos hp]
    exact iff_of_false nofun fun h => h.1 hp
  · rw [if_neg hp]
    exact (and_iff_right hp).symm

end Kinds

/-! ### Closed states -/

/-- What is above something is a directory. -/
def Closed (s : Files N D) : Prop :=
  ∀ p q : List N, p <+: q → p ≠ q → s q ≠ none → s p = some .dir

variable {s : Files N D}

lemma Closed.removeTree (h : s.Closed) (t : List N) : (s.removeTree t).Closed := by
  intro p q hpq hne hq
  unfold Files.removeTree at hq ⊢
  split at hq
  · exact absurd rfl hq
  · rename_i htq
    rw [if_neg fun htp => htq (htp.trans hpq)]
    exact h p q hpq hne hq

lemma Closed.removeBelow (h : s.Closed) (t : List N) : (s.removeBelow t).Closed := by
  intro p q hpq hne hq
  unfold Files.removeBelow at hq ⊢
  split at hq
  · exact absurd rfl hq
  · rename_i htq
    have hp : ¬ (t <+: p ∧ p ≠ t) := by
      rintro ⟨htp, hpt⟩
      refine htq ⟨htp.trans hpq, fun hqt => ?_⟩
      rw [hqt] at hpq
      exact hpt (hpq.eq_of_length_le htp.length_le)
    rw [if_neg hp]
    exact h p q hpq hne hq

/-- Removing what is not there changes nothing. -/
lemma Closed.removeTree_eq_self (h : s.Closed) {t : List N} (ht : s t = none) :
    s.removeTree t = s := by
  funext p
  unfold Files.removeTree
  split
  · rename_i htp
    by_contra hp
    by_cases hne : t = p
    · exact hp (hne ▸ ht.symm)
    · exact absurd (ht.symm.trans (h t p htp hne (Ne.symm hp))) (by simp)
  · rfl

lemma Closed.makeDirs (h : s.Closed) (d : List N) : (s.makeDirs d).Closed := by
  intro p q hpq hne hq
  unfold Files.makeDirs at hq ⊢
  by_cases hqd : q <+: d
  · rw [if_pos (hpq.trans hqd)]
  · rw [if_neg hqd] at hq
    by_cases hpd : p <+: d
    · rw [if_pos hpd]
    · rw [if_neg hpd]
      exact h p q hpq hne hq

/-- A file can be put into a directory. -/
lemma Closed.put (h : s.Closed) {f : List N} (hdir : ∀ r, r <+: f → r ≠ f → s r = some .dir)
    (hf : s.isDir f = false) (data : D) : (s.put f data).Closed := by
  intro p q hpq hne hq
  unfold Files.put at hq ⊢
  have hpf : p ≠ f := by
    rintro rfl
    rw [if_neg (Ne.symm hne)] at hq
    rw [Files.isDir, h p q hpq hne hq] at hf
    simp at hf
  rw [if_neg hpf]
  by_cases hqf : q = f
  · exact hdir p (hqf ▸ hpq) hpf
  · rw [if_neg hqf] at hq
    exact h p q hpq hne hq

end Files

/-! ## Calls -/

section Calls

variable [DecidableEq N]

/-- `fs::create_dir_all`: fails when there is a file on the way. -/
def createDirAll (d : List N) : Stateful (Files N D) FsError Unit := fun s =>
  if d.inits.any s.isFile then (s, .err .notADirectory) else (s.makeDirs d, .ok ())

/-- `fs::write`, and `fs::copy` of a file with these contents: the directory must be there, and
the path must not be a directory itself. -/
def writeFile (f : List N) (data : D) : Stateful (Files N D) FsError Unit := fun s =>
  match s f.dropLast with
  | none => (s, .err .notFound)
  | some (.file _) => (s, .err .notADirectory)
  | some .dir => if s.isDir f then (s, .err .isADirectory) else (s.put f data, .ok ())

/-- `fs::symlink_metadata`, in a tree without links. -/
def symlinkMetadata (p : List N) : Stateful (Files N D) FsError (Node D) := fun s =>
  match s p with
  | some node => (s, .ok node)
  | none => (s, .err (if p.dropLast.inits.any s.isFile then .notADirectory else .notFound))

/-- `fs::remove_dir_all`. -/
def removeDirAll (t : List N) : Stateful (Files N D) FsError Unit := fun s =>
  match s t with
  | none => (s, .err .notFound)
  | some (.file _) => (s, .err .notADirectory)
  | some .dir => (s.removeTree t, .ok ())

/-- `fs::remove_file`. -/
def removeFile (f : List N) : Stateful (Files N D) FsError Unit := fun s =>
  match s f with
  | none => (s, .err .notFound)
  | some .dir => (s, .err .isADirectory)
  | some (.file _) => (s.removeTree f, .ok ())

end Calls

/-! ## Trees -/

/-- A directory: its entries, each with its name, and with its own entries if it is a
directory. -/
inductive Dir (N D : Type) where
  | nil
  | file (name : N) (data : D) (rest : Dir N D)
  | dir (name : N) (sub : Dir N D) (rest : Dir N D)
deriving DecidableEq, Repr

namespace Dir

/-- The names of the entries. -/
def names : Dir N D → List N
  | nil => []
  | file name _ rest => name :: rest.names
  | dir name _ rest => name :: rest.names

/-- The names of each directory are in order, and no name is there twice. -/
def Sorted [LT N] : Dir N D → Prop
  | nil => True
  | file name _ rest => (∀ m ∈ rest.names, name < m) ∧ rest.Sorted
  | dir name sub rest => (∀ m ∈ rest.names, name < m) ∧ sub.Sorted ∧ rest.Sorted

/-- The directory has a file with this content at the path, below all entries of these names. -/
def HasFile : Dir N D → List N → D → Prop
  | .nil, _, _ => False
  | .file name data rest, p, d => p = [name] ∧ d = data ∨ rest.HasFile p d
  | .dir name sub rest, p, d => (∃ q, p = name :: q ∧ sub.HasFile q d) ∨ rest.HasFile p d

/-- All entries of the tree have such names. -/
def Named (P : N → Prop) : Dir N D → Prop
  | nil => True
  | file name _ rest => P name ∧ rest.Named P
  | dir name sub rest => P name ∧ sub.Named P ∧ rest.Named P

section Find

variable [DecidableEq N]

/-- What is at a path, seen from the directory. -/
def find : Dir N D → Files N D
  | _, [] => some .dir
  | nil, _ :: _ => none
  | file name data rest, x :: p =>
    if x = name then if p = [] then some (.file data) else none else rest.find (x :: p)
  | dir name sub rest, x :: p => if x = name then sub.find p else rest.find (x :: p)

@[simp] lemma find_root (d : Dir N D) : d.find [] = some .dir := by
  cases d <;> rfl

@[simp] lemma find_nil_cons (x : N) (p : List N) : (nil : Dir N D).find (x :: p) = none := rfl

lemma find_file_cons (name x : N) (data : D) (rest : Dir N D) (p : List N) :
    (file name data rest).find (x :: p)
      = if x = name then if p = [] then some (.file data) else none else rest.find (x :: p) := rfl

lemma find_dir_cons (name x : N) (sub rest : Dir N D) (p : List N) :
    (dir name sub rest).find (x :: p) = if x = name then sub.find p else rest.find (x :: p) := rfl

/-- What is found is below an entry. -/
lemma mem_names_of_find {d : Dir N D} {x : N} {p : List N} (h : d.find (x :: p) ≠ none) :
    x ∈ d.names := by
  induction d with
  | nil => simp at h
  | file name data rest ih =>
    rw [find_file_cons] at h
    by_cases hx : x = name
    · simp [names, hx]
    · rw [if_neg hx] at h
      exact List.mem_cons_of_mem _ (ih h)
  | dir name sub rest _ ih =>
    rw [find_dir_cons] at h
    by_cases hx : x = name
    · simp [names, hx]
    · rw [if_neg hx] at h
      exact List.mem_cons_of_mem _ (ih h)

/-- What is found is at a path of names of the tree. -/
lemma Named.of_find {P : N → Prop} {d : Dir N D} (hd : d.Named P) {p : List N}
    (h : d.find p ≠ none) : ∀ name ∈ p, P name := by
  induction d generalizing p with
  | nil =>
    cases p with
    | nil => simp
    | cons x p => simp at h
  | file name data rest ih =>
    cases p with
    | nil => simp
    | cons x p =>
      rw [find_file_cons] at h
      by_cases hx : x = name
      · rw [if_pos hx] at h
        split at h
        · rename_i hp
          rw [hp, hx]
          simpa using hd.1
        · exact absurd rfl h
      · rw [if_neg hx] at h
        exact ih hd.2 h
  | dir name sub rest ihsub ih =>
    cases p with
    | nil => simp
    | cons x p =>
      rw [find_dir_cons] at h
      by_cases hx : x = name
      · rw [if_pos hx] at h
        rw [List.forall_mem_cons, hx]
        exact ⟨hd.1, ihsub hd.2.1 h⟩
      · rw [if_neg hx] at h
        exact ih hd.2.2 h

/-- What is above something that is found is a directory. -/
lemma find_above {d : Dir N D} {p q : List N} (hq : q ≠ []) (h : d.find (p ++ q) ≠ none) :
    d.find p = some .dir := by
  induction d generalizing p with
  | nil =>
    cases p with
    | nil => rfl
    | cons x p => simp at h
  | file name data rest ih =>
    cases p with
    | nil => rfl
    | cons x p =>
      rw [List.cons_append, find_file_cons] at h
      rw [find_file_cons]
      by_cases hx : x = name
      · rw [if_pos hx, if_neg (by simp [hq])] at h
        exact absurd rfl h
      · rw [if_neg hx] at h ⊢
        exact ih h
  | dir name sub rest ihsub ih =>
    cases p with
    | nil => rfl
    | cons x p =>
      rw [List.cons_append, find_dir_cons] at h
      rw [find_dir_cons]
      by_cases hx : x = name
      · rw [if_pos hx] at h ⊢
        exact ihsub h
      · rw [if_neg hx] at h ⊢
        exact ih h

/-- The entries are what is found directly below. -/
lemma mem_names_iff {d : Dir N D} {x : N} : x ∈ d.names ↔ d.find [x] ≠ none := by
  refine ⟨fun h => ?_, mem_names_of_find⟩
  induction d with
  | nil => simp [names] at h
  | file name data rest ih =>
    rw [find_file_cons]
    by_cases hx : x = name
    · simp [hx]
    · rw [if_neg hx]
      exact ih ((List.mem_cons.mp h).resolve_left hx)
  | dir name sub rest _ ih =>
    rw [find_dir_cons]
    by_cases hx : x = name
    · simp [hx]
    · rw [if_neg hx]
      exact ih ((List.mem_cons.mp h).resolve_left hx)

end Find

section Order

variable [Preorder N]

lemma Sorted.names {d : Dir N D} (hd : d.Sorted) : d.names.Pairwise (· < ·) := by
  induction d with
  | nil => exact List.Pairwise.nil
  | file name data rest ih => exact List.pairwise_cons.mpr ⟨hd.1, ih hd.2⟩
  | dir name sub rest _ ih => exact List.pairwise_cons.mpr ⟨hd.1, ih hd.2.2⟩

variable [DecidableEq N]

/-- Nothing else has the name of the first entry. -/
lemma find_eq_none_of_lt {d : Dir N D} {name : N} (h : ∀ m ∈ d.names, name < m) (p : List N) :
    d.find (name :: p) = none := by
  by_contra hp
  exact lt_irrefl name (h name (mem_names_of_find hp))

/-- **A sorted tree is determined by what it finds.** -/
lemma find_injective {d d' : Dir N D} (hd : d.Sorted) (hd' : d'.Sorted) (h : d.find = d'.find) :
    d = d' := by
  have hnames : d.names = d'.names := by
    refine List.Pairwise.eq_of_mem_iff hd.names hd'.names fun x => ?_
    rw [mem_names_iff, mem_names_iff, h]
  induction d generalizing d' with
  | nil =>
    cases d' with
    | nil => rfl
    | file name' data' rest' => simp [names] at hnames
    | dir name' sub' rest' => simp [names] at hnames
  | file name data rest ih =>
    cases d' with
    | nil => simp [names] at hnames
    | file name' data' rest' =>
      obtain ⟨rfl, hrest⟩ := List.cons.inj hnames
      have hdata := congrFun h [name]
      simp only [find_file_cons, if_true, Option.some.injEq, Node.file.injEq] at hdata
      have hfind : rest.find = rest'.find := by
        funext p
        cases p with
        | nil => simp
        | cons x p =>
          by_cases hx : x = name
          · rw [hx, find_eq_none_of_lt hd.1, find_eq_none_of_lt hd'.1]
          · have hp := congrFun h (x :: p)
            rwa [find_file_cons, find_file_cons, if_neg hx, if_neg hx] at hp
      rw [hdata, ih hd.2 hd'.2 hfind hrest]
    | dir name' sub' rest' =>
      obtain ⟨rfl, -⟩ := List.cons.inj hnames
      have hkind := congrFun h [name]
      simp [find_file_cons, find_dir_cons] at hkind
  | dir name sub rest ihsub ih =>
    cases d' with
    | nil => simp [names] at hnames
    | file name' data' rest' =>
      obtain ⟨rfl, -⟩ := List.cons.inj hnames
      have hkind := congrFun h [name]
      simp [find_file_cons, find_dir_cons] at hkind
    | dir name' sub' rest' =>
      obtain ⟨rfl, hrest⟩ := List.cons.inj hnames
      have hbelow : sub.find = sub'.find := by
        funext p
        have hp := congrFun h (name :: p)
        rwa [find_dir_cons, find_dir_cons, if_pos rfl, if_pos rfl] at hp
      have hsubnames : sub.names = sub'.names := by
        refine List.Pairwise.eq_of_mem_iff hd.2.1.names hd'.2.1.names fun x => ?_
        rw [mem_names_iff, mem_names_iff, hbelow]
      have hfind : rest.find = rest'.find := by
        funext p
        cases p with
        | nil => simp
        | cons x p =>
          by_cases hx : x = name
          · rw [hx, find_eq_none_of_lt hd.1, find_eq_none_of_lt hd'.1]
          · have hp := congrFun h (x :: p)
            rwa [find_dir_cons, find_dir_cons, if_neg hx, if_neg hx] at hp
      rw [ihsub hd.2.1 hd'.2.1 hbelow hsubnames, ih hd.2.2 hd'.2.2 hfind hrest]

end Order

end Dir

end Lib
