import PgliteOxide.Pglite.Root

/-!
# What the calls of root preparation do

A call of `std::fs` does what it says or fails, and a call that fails may have done a part of its
work. Of the programs that are run it is only known which directory they work in, that `cp` has
made a copy when it reports success, and that `initdb` does not write an overlay manifest.
-/

namespace PgliteOxide.Pglite

open Lib

/-- What is in each place. -/
abbrev RootDisk := Place → PgFiles

namespace RootDisk

def node (s : RootDisk) (loc : Loc) : Option (Node Bytes) := s loc.place loc.path

def isFile (s : RootDisk) (loc : Loc) : Bool := (s loc.place).isFile loc.path

/-- A change of what is in one place. -/
def change (s : RootDisk) (place : Place) (f : PgFiles → PgFiles) : RootDisk := fun q =>
  if q = place then f (s q) else s q

/-- Making PGDATA makes the directory it is in. -/
def makeDirs (s : RootDisk) (loc : Loc) : RootDisk := fun q =>
  if q = loc.place then (s q).makeDirs loc.path
  else if loc.place = .pgdata ∧ q = .runtime then (s q).makeDirs []
  else s q

def put (s : RootDisk) (loc : Loc) (data : Bytes) : RootDisk :=
  s.change loc.place (·.put loc.path data)

/-- Nothing at one path. -/
def erase (s : RootDisk) (loc : Loc) : RootDisk :=
  s.change loc.place fun files p => if p = loc.path then none else files p

def removeTree (s : RootDisk) (loc : Loc) : RootDisk := s.change loc.place (·.removeTree loc.path)

/-- There is no file on the way. -/
def Free (s : RootDisk) (loc : Loc) : Prop := ∀ p, p <+: loc.path → (s loc.place).isFile p = false

/-- A file can be written: its directory is there, and it is no directory itself. -/
def Writable (s : RootDisk) (loc : Loc) : Prop :=
  s loc.place loc.path.dropLast = some .dir ∧ (s loc.place).isDir loc.path = false

lemma change_of_ne {s : RootDisk} {place q : Place} {f : PgFiles → PgFiles} (h : q ≠ place) :
    s.change place f q = s q := if_neg h

end RootDisk

/-- What a read may answer. -/
def rootReadAnswers : Option (Node Bytes) → Except IoError Bytes → Prop
  | some (.file data), ans => ans = .ok data ∨ ∃ text, ans = .error (.other text)
  | some .dir, ans => ∃ text, ans = .error (.other text)
  | none, ans => ans = .error .notFound ∨ ∃ text, ans = .error (.other text)

lemma rootReadAnswers_ok {node : Option (Node Bytes)} {bytes : Bytes}
    (h : rootReadAnswers node (.ok bytes)) : node = some (.file bytes) := by
  cases node with
  | none => rcases h with h | ⟨text, h⟩ <;> cases h
  | some node =>
    cases node with
    | dir =>
      obtain ⟨text, h⟩ := h
      cases h
    | file data =>
      rcases h with h | ⟨text, h⟩
      · cases h
        rfl
      · cases h

lemma rootReadAnswers_notFound {node : Option (Node Bytes)}
    (h : rootReadAnswers node (.error .notFound)) : node = none := by
  cases node with
  | none => rfl
  | some node =>
    cases node with
    | dir =>
      obtain ⟨text, h⟩ := h
      cases h
    | file data => rcases h with h | ⟨text, h⟩ <;> cases h

/-- What a call may do and answer. -/
def rootStep (build : RootBuild) : (op : RootOp) → RootDisk → RootDisk → op.Answer → Prop
  | .pathExists loc, s, s', ans => s' = s ∧ ans = (s.node loc).isSome
  | .isFile loc, s, s', ans => s' = s ∧ ans = s.isFile loc
  | .read loc, s, s', ans => s' = s ∧ rootReadAnswers (s.node loc) ans
  | .readTree loc, s, s', ans =>
    s' = s ∧ ∀ tree, ans = .ok tree →
      ∀ p data, tree.HasFile p data ↔ s.node (loc.join p) = some (.file data)
  | .createDirAll loc, s, s', .ok () => s.Free loc ∧ s' = s.makeDirs loc
  | .createDirAll loc, s, s', .error _ =>
    s' = s ∨ ∃ p, p <+: loc.path ∧ s.Free ⟨loc.place, p⟩ ∧ s' = s.makeDirs ⟨loc.place, p⟩
  | .write loc data, s, s', .ok () => s.Writable loc ∧ s' = s.put loc data
  | .write loc _, s, s', .error _ => s' = s ∨ s.Writable loc ∧ ∃ torn, s' = s.put loc torn
  | .removeFile loc, s, s', .ok () => s.isFile loc = true ∧ s' = s.erase loc
  | .removeFile _, s, s', .error _ => s' = s
  | .removeDirAll loc, s, s', .ok () => s' = s.removeTree loc
  | .removeDirAll loc, s, s', .error _ =>
    ∃ f : PgFiles → PgFiles, s' = s.change loc.place f ∧
      ∀ p, f (s loc.place) p = s loc.place p ∨ loc.path <+: p ∧ f (s loc.place) p = none
  | .rename place src dest, s, s', .ok () =>
    s' = s.change place fun files p =>
      if dest <+: p then files (src ++ p.drop dest.length)
      else if src <+: p then none
      else files p
  | .rename _ _ _, s, s', .error _ => s' = s
  | .cloneDirCommand src dest, s, s', ans =>
    ∃ f : PgFiles → PgFiles, s' = s.change dest.place f ∧
      (∀ p, ¬ dest.path <+: p → f (s dest.place) p = s dest.place p) ∧
      (ans = true → ∀ p, s'.node (dest.join p) = s.node (src.join p)) ∧
      (s'.node dest = none → ∀ p, s'.node (dest.join p) = none)
  | .reflinkCommand loc data, s, s', true => s.Writable loc ∧ s' = s.put loc data
  | .reflinkCommand loc _, s, s', false =>
    s' = s ∨ s.Writable loc ∧ ∃ torn, s' = s.put loc torn
  | .lockCache _, s, s', _ => s' = s
  | .stagingName, s, s', name => s' = s ∧ name ≠ baseName
  | .unpackTemplateArchive archive loc, s, s', ans =>
    ∃ f : PgFiles → PgFiles, s' = s.change loc.place f ∧
      (∀ p, ¬ loc.path <+: p → f (s loc.place) p = s loc.place p) ∧
      (ans = .ok () → ∀ p, s'.node (loc.join p) = build.archiveTree archive p)
  | .runSplitInitdb pgdata _, s, s', _ =>
    (∀ hash, s' (.template hash) = s (.template hash)) ∧
      (s'.isFile (Root.pgdataOverlayManifestPath pgdata) = true →
        s.isFile (Root.pgdataOverlayManifestPath pgdata) = true)

namespace RootOp

/-- The places a call may change. -/
def Touches : RootOp → Place → Prop
  | createDirAll loc, q => q = loc.place ∨ loc.place = .pgdata ∧ q = .runtime
  | write loc _, q => q = loc.place
  | removeFile loc, q => q = loc.place
  | removeDirAll loc, q => q = loc.place
  | rename place _ _, q => q = place
  | cloneDirCommand _ dest, q => q = dest.place
  | reflinkCommand loc _, q => q = loc.place
  | unpackTemplateArchive _ loc, q => q = loc.place
  | runSplitInitdb _ _, q => q = .pgdata ∨ q = .runtime
  | _, _ => False

end RootOp

lemma RootDisk.makeDirs_of_ne {s : RootDisk} {loc : Loc} {q : Place}
    (h : ¬ (q = loc.place ∨ loc.place = .pgdata ∧ q = .runtime)) : s.makeDirs loc q = s q := by
  unfold RootDisk.makeDirs
  rw [if_neg fun hq => h (.inl hq), if_neg fun hq => h (.inr hq)]

/-- A call leaves the other places alone. -/
lemma rootStep_frame {build : RootBuild} {op : RootOp} {s s' : RootDisk} {ans : op.Answer} {q : Place}
    (h : rootStep build op s s' ans) (hq : ¬ op.Touches q) : s' q = s q := by
  cases op with
  | pathExists loc => rw [h.1]
  | isFile loc => rw [h.1]
  | read loc => rw [h.1]
  | readTree loc => rw [h.1]
  | createDirAll loc =>
    cases ans with
    | ok u =>
      rw [h.2]
      exact RootDisk.makeDirs_of_ne hq
    | error err =>
      rcases h with rfl | ⟨p, -, -, rfl⟩
      · rfl
      · exact RootDisk.makeDirs_of_ne hq
  | write loc data =>
    cases ans with
    | ok u =>
      rw [h.2]
      exact RootDisk.change_of_ne hq
    | error err =>
      rcases h with rfl | ⟨-, torn, rfl⟩
      · rfl
      · exact RootDisk.change_of_ne hq
  | removeFile loc =>
    cases ans with
    | ok u =>
      rw [h.2]
      exact RootDisk.change_of_ne hq
    | error err => rw [show s' = s from h]
  | removeDirAll loc =>
    cases ans with
    | ok u =>
      rw [show s' = _ from h]
      exact RootDisk.change_of_ne hq
    | error err =>
      obtain ⟨f, rfl, -⟩ := h
      exact RootDisk.change_of_ne hq
  | rename place src dest =>
    cases ans with
    | ok u =>
      rw [show s' = _ from h]
      exact RootDisk.change_of_ne hq
    | error err => rw [show s' = s from h]
  | cloneDirCommand src dest =>
    obtain ⟨f, rfl, -⟩ := h
    exact RootDisk.change_of_ne hq
  | reflinkCommand loc data =>
    cases ans with
    | true =>
      rw [h.2]
      exact RootDisk.change_of_ne hq
    | false =>
      rcases h with rfl | ⟨-, torn, rfl⟩
      · rfl
      · exact RootDisk.change_of_ne hq
  | lockCache hash => rw [show s' = s from h]
  | stagingName => rw [h.1]
  | unpackTemplateArchive archive loc =>
    obtain ⟨f, rfl, -⟩ := h
    exact RootDisk.change_of_ne hq
  | runSplitInitdb pgdata layout =>
    cases q with
    | pgdata => exact absurd (.inl rfl) hq
    | runtime => exact absurd (.inr rfl) hq
    | template hash => exact h.1 hash

/-- A process that dies inside a call leaves what the call may leave when it ends or fails. -/
def rootEffects (build : RootBuild) : Effects RootOp RootOp.Answer RootDisk where
  step := rootStep build
  crash op s c := ∃ ans, rootStep build op s c ans

end PgliteOxide.Pglite
