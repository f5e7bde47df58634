import Mathlib.Logic.Function.Basic
import PgliteOxide.Lib.PathText

/-!
# Directories with symbolic links

A file system is what is at each location. A path leads from a directory to a location: every
link on the way is followed, and every component is looked up in a directory. Inside a directory
without links a path of names leads to the location with these names.
-/

namespace Lib

/-- The names from the root on. -/
abbrev Location := List Bytes

inductive LinkNode (D : Type) where
  | dir
  | file (data : D)
  | link (target : List Component)
deriving DecidableEq

abbrev LinkTree (D : Type) := Location → Option (LinkNode D)

namespace LinkTree

variable {D : Type}

/-- Where a name leads from a directory, and what has to be followed from there first: the target
of a link. -/
def nextName (s : LinkTree D) (dir : Location) (name : Bytes) : Location × List Component :=
  match s (dir ++ [name]) with
  | some (.link target) => (dir, target)
  | _ => (dir ++ [name], [])

def next (s : LinkTree D) (dir : Location) : Component → Location × List Component
  | .rootDir => ([], [])
  | .curDir => (dir, [])
  | .parentDir => (dir.dropLast, [])
  | .normal name => s.nextName dir name

/-- From a directory a path leads to a location, at which there may be nothing. -/
inductive Leads (s : LinkTree D) : Location → List Component → Location → Prop
  | here (loc : Location) : Leads s loc [] loc
  | step {dir loc : Location} {c : Component} {rest : List Component} (hdir : s dir = some .dir)
      (h : Leads s (s.next dir c).1 ((s.next dir c).2 ++ rest) loc) : Leads s dir (c :: rest) loc

/-- The location of the entry that a path names; a link there is not followed. -/
def Entry (s : LinkTree D) (start : Location) (path : List Component) (loc : Location) : Prop :=
  ∃ front name dir, path = front ++ [.normal name] ∧ s.Leads start front dir ∧
    s dir = some .dir ∧ loc = dir ++ [name]

variable {s s' : LinkTree D} {start dir loc loc' mid : Location} {p q : List Component}

lemma next_name {name : Bytes} (h : ∀ target, s (dir ++ [name]) ≠ some (.link target)) :
    s.next dir (.normal name) = (dir ++ [name], []) := by
  show s.nextName dir name = _
  unfold nextName
  split
  · next target heq => exact absurd heq (h target)
  · rfl

lemma next_link {name : Bytes} {target : List Component}
    (h : s (dir ++ [name]) = some (.link target)) : s.next dir (.normal name) = (dir, target) := by
  show s.nextName dir name = _
  unfold nextName
  rw [h]

/-! ## Paths one behind the other -/

lemma Leads.append (hp : s.Leads start p mid) (hq : s.Leads mid q loc) :
    s.Leads start (p ++ q) loc := by
  induction hp with
  | here => exact hq
  | step hdir _ ih =>
    have hrest := ih hq
    rw [List.append_assoc] at hrest
    exact .step hdir hrest

lemma Leads.split (h : s.Leads start (p ++ q) loc) :
    ∃ mid, s.Leads start p mid ∧ s.Leads mid q loc := by
  generalize hpath : p ++ q = path at h
  induction h generalizing p with
  | here loc =>
    rw [List.append_eq_nil_iff] at hpath
    rw [hpath.1, hpath.2]
    exact ⟨loc, .here loc, .here loc⟩
  | @step dir loc c rest hdir h ih =>
    rcases p with _ | ⟨first, p⟩
    · rw [List.nil_append] at hpath
      rw [hpath]
      exact ⟨dir, .here dir, .step hdir h⟩
    · obtain ⟨hfirst, hrest⟩ := List.cons.inj hpath
      have hfollow : (s.next dir c).2 ++ p ++ q = (s.next dir c).2 ++ rest := by
        rw [← hrest]
        exact List.append_assoc _ _ _
      obtain ⟨mid, hmid, hq⟩ := ih hfollow
      rw [hfirst]
      exact ⟨mid, .step hdir hmid, hq⟩

lemma Leads.unique (h : s.Leads start p loc) (h' : s.Leads start p loc') : loc = loc' := by
  induction h with
  | here loc =>
    cases h'
    rfl
  | step hdir _ ih =>
    cases h' with
    | step _ h' => exact ih h'

/-- A path that goes on goes on from a directory. -/
lemma Leads.isDir (h : s.Leads start p loc) (hp : p ≠ []) : s start = some .dir := by
  cases h with
  | here => exact absurd rfl hp
  | step hdir _ => exact hdir

/-! ## Inside a directory without links -/

/-- There is no link below a directory. -/
def NoLinks (s : LinkTree D) (base : Location) : Prop :=
  ∀ below, below ≠ [] → ∀ target, s (base ++ below) ≠ some (.link target)

lemma Leads.names {names : List Bytes} (hlinks : s.NoLinks start)
    (h : s.Leads start (names.map .normal) loc) : loc = start ++ names := by
  induction names generalizing start with
  | nil =>
    cases h
    rw [List.append_nil]
  | cons name names ih =>
    cases h with
    | step hdir h =>
      have hname := next_name (hlinks [name] (List.cons_ne_nil _ _))
      rw [hname] at h
      have hbelow : s.NoLinks (start ++ [name]) := by
        intro below hne target
        rw [List.append_assoc]
        exact hlinks (name :: below) (List.cons_ne_nil _ _) target
      rw [ih hbelow h, List.append_assoc]
      rfl

lemma append_concat_inj {front path : List Component} {name last : Bytes} {names : List Bytes}
    (h : path ++ (names ++ [last]).map .normal = front ++ [.normal name]) :
    front = path ++ names.map .normal ∧ name = last := by
  rw [List.map_append, List.map_singleton, ← List.append_assoc] at h
  obtain ⟨hfront, hname⟩ := List.append_inj' h rfl
  exact ⟨hfront.symm, (Component.normal.inj (List.cons.inj hname).1).symm⟩

/-- The entry of names behind a path to a directory without links. -/
lemma Entry.names {path : List Component} {base : Location} {names : List Bytes}
    (hbase : s.Leads start path base) (hlinks : s.NoLinks base) (hne : names ≠ [])
    (h : s.Entry start (path ++ names.map .normal) loc) : loc = base ++ names := by
  obtain ⟨front, name, dir, hpath, hfront, -, hloc⟩ := h
  obtain ⟨before, last, hnames⟩ := (List.eq_nil_or_concat names).resolve_left hne
  rw [List.concat_eq_append] at hnames
  rw [hnames] at hpath ⊢
  obtain ⟨hsplit, hlast⟩ := append_concat_inj hpath
  rw [hsplit] at hfront
  obtain ⟨mid, hmid, hbefore⟩ := hfront.split
  rw [hmid.unique hbase] at hbefore
  rw [hloc, hbefore.names hlinks, hlast, List.append_assoc]

/-- A path on the way to a directory names no free entry. -/
lemma Entry.occupied {path rest : List Component} {base : Location}
    (hbase : s.Leads start (path ++ rest) base) (hdir : s base = some .dir)
    (h : s.Entry start path loc) : s loc ≠ none := by
  obtain ⟨front, name, dir, hpath, hfront, -, hloc⟩ := h
  rw [hpath, List.append_assoc] at hbase
  obtain ⟨mid, hmid, hname⟩ := hbase.split
  rw [hmid.unique hfront] at hname
  rw [hloc]
  cases hname with
  | step _ hnext =>
    intro hnone
    have hplain : ∀ target, s (dir ++ [name]) ≠ some (.link target) := by
      intro target hlink
      rw [hnone] at hlink
      cases hlink
    rw [next_name hplain] at hnext
    by_cases hrest : rest = []
    · rw [hrest] at hnext
      cases hnext
      rw [hnone] at hdir
      cases hdir
    · have hmiddir := hnext.isDir (by simpa using hrest)
      rw [hnone] at hmiddir
      cases hmiddir

/-! ## Changes -/

/-- Directories are kept, and the links are the same. -/
structure Keeps (s s' : LinkTree D) : Prop where
  dirs : ∀ loc, s loc = some .dir → s' loc = some .dir
  links : ∀ loc target, s' loc = some (.link target) ↔ s loc = some (.link target)

lemma Keeps.next_eq (h : s.Keeps s') (dir : Location) (c : Component) :
    s'.next dir c = s.next dir c := by
  rcases c with _ | _ | _ | name
  · rfl
  · rfl
  · rfl
  · by_cases hlink : ∃ target, s (dir ++ [name]) = some (.link target)
    · obtain ⟨target, htarget⟩ := hlink
      rw [next_link htarget, next_link ((h.links _ _).mpr htarget)]
    · rw [not_exists] at hlink
      have hlink' : ∀ target, s' (dir ++ [name]) ≠ some (.link target) := fun target htarget =>
        hlink target ((h.links _ _).mp htarget)
      rw [next_name hlink, next_name hlink']

lemma Keeps.leads (h : s.Keeps s') (hp : s.Leads start p loc) : s'.Leads start p loc := by
  induction hp with
  | here loc => exact .here loc
  | step hdir _ ih =>
    rw [← h.next_eq] at ih
    exact .step (h.dirs _ hdir) ih

lemma Keeps.refl (s : LinkTree D) : s.Keeps s := ⟨fun _ h => h, fun _ _ => Iff.rfl⟩

lemma Keeps.trans {s'' : LinkTree D} (h : s.Keeps s') (h' : s'.Keeps s'') : s.Keeps s'' :=
  ⟨fun loc hdir => h'.dirs loc (h.dirs loc hdir),
    fun loc target => (h'.links loc target).trans (h.links loc target)⟩

/-! ## A directory that is written to -/

/-- A path leads to a directory without links and is no link itself. -/
structure IsDestination (s : LinkTree D) (start : Location) (path : List Component)
    (base : Location) : Prop where
  leads : s.Leads start path base
  dir : s base = some .dir
  real : ∀ loc, s.Entry start path loc → s loc = some .dir
  noLinks : s.NoLinks base

/-- Only what is strictly inside a directory has changed; directories are kept, and no links are
made or removed. -/
structure Within (base : Location) (s s' : LinkTree D) : Prop where
  keeps : s.Keeps s'
  inside : ∀ loc, s' loc ≠ s loc → ∃ below, below ≠ [] ∧ loc = base ++ below

lemma Within.refl (base : Location) (s : LinkTree D) : Within base s s :=
  ⟨.refl s, fun _ h => absurd rfl h⟩

lemma Within.trans {base : Location} {s'' : LinkTree D} (h : Within base s s')
    (h' : Within base s' s'') : Within base s s'' := by
  refine ⟨h.keeps.trans h'.keeps, fun loc hloc => ?_⟩
  by_cases hfirst : s' loc = s loc
  · apply h'.inside
    rwa [hfirst]
  · exact h.inside loc hfirst

/-- **What is written inside a destination leaves it a destination.** -/
lemma IsDestination.within {base : Location} (h : s.IsDestination start path base)
    (hwithin : Within base s s') : s'.IsDestination start path base where
  leads := hwithin.keeps.leads h.leads
  dir := hwithin.keeps.dirs _ h.dir
  real := by
    intro loc hentry
    obtain ⟨front, name, dir, hpath, hfront, -, hloc⟩ := hentry
    have hleads := h.leads
    rw [hpath] at hleads
    obtain ⟨mid, hmid, hname⟩ := hleads.split
    have hmiddir : s mid = some .dir := hname.isDir (List.cons_ne_nil _ _)
    have hsame : mid = dir := (hwithin.keeps.leads hmid).unique hfront
    rw [hsame] at hmid hmiddir
    rw [hloc]
    exact hwithin.keeps.dirs _ (h.real _ ⟨front, name, dir, hpath, hmid, hmiddir, rfl⟩)
  noLinks := by
    intro below hne target hlink
    exact h.noLinks below hne target ((hwithin.keeps.links _ _).mp hlink)

/-- A change at one location strictly inside, where there was neither a directory nor a link and
no link is put. -/
lemma Within.of_change {base below : Location} (hne : below ≠ [])
    (hother : ∀ loc, loc ≠ base ++ below → s' loc = s loc)
    (hdir : s (base ++ below) = some .dir → s' (base ++ below) = some .dir)
    (hlink : ∀ target, s (base ++ below) ≠ some (.link target))
    (hlink' : ∀ target, s' (base ++ below) ≠ some (.link target)) : Within base s s' where
  keeps := by
    constructor
    · intro loc hloc
      by_cases heq : loc = base ++ below
      · rw [heq] at hloc ⊢
        exact hdir hloc
      · rwa [hother loc heq]
    · intro loc target
      by_cases heq : loc = base ++ below
      · rw [heq]
        exact iff_of_false (hlink' target) (hlink target)
      · rw [hother loc heq]
  inside := by
    intro loc hloc
    by_cases heq : loc = base ++ below
    · exact ⟨below, hne, heq⟩
    · exact absurd (hother loc heq) hloc

end LinkTree

end Lib
