import Mathlib.Data.Finset.Card
import Mathlib.Data.String.Basic
import Mathlib.Logic.Relation
import PgliteOxide.Lib.Outcome
import PgliteOxide.Pglite.Wire

/-!
# Extensions

`extensions.rs`: the table of bundled extensions, the order in which a set of them is installed,
and the SQL that sets one up.
-/

namespace PgliteOxide.Pglite

open Lib

structure ExtensionSetup where
  createExtension : Bool
  createSchema : Option String
  loadSql : List String
  postCreateSql : List String
deriving DecidableEq

structure Extension where
  name : String
  sqlName : String
  archiveName : String
  nativeModuleFile : Option String
  aotName : Option String
  dependencies : List String
  setup : ExtensionSetup
deriving DecidableEq

/-! ## Installation order -/

/-- `candidate_by_sql_name`, in a table of candidates. -/
def candidateBySqlName (candidates : List Extension) (sqlName : String) : Option Extension :=
  candidates.find? (·.sqlName = sqlName)

/-- The sets and the list that `resolve_extension_set` passes down. -/
structure VisitState where
  visiting : Finset String
  visited : Finset String
  resolved : List Extension
deriving DecidableEq

/-- `visit_extension`. Recursion that goes deeper than the fuel is a panic; see
`resolveExtensionSet_ne_panic`. -/
def visitExtension (candidates : List Extension) :
    ℕ → VisitState → Extension → Outcome String VisitState
  | 0, _, _ => .panic
  | fuel + 1, s, extension =>
    if extension.sqlName ∈ s.visited then .ok s
    else if extension.sqlName ∈ s.visiting then
      .err s!"cyclic bundled extension dependency involving '{extension.sqlName}'"
    else do
      let s' ← extension.dependencies.foldlM (fun s dependency =>
        match candidateBySqlName candidates dependency with
        | none => .err (s!"bundled extension '{extension.sqlName}' depends on missing packaged "
            ++ s!"extension '{dependency}'")
        | some dependencyExtension => visitExtension candidates fuel s dependencyExtension)
        { s with visiting := insert extension.sqlName s.visiting }
      return {
        visiting := s'.visiting.erase extension.sqlName
        visited := insert extension.sqlName s'.visited
        resolved := s'.resolved ++ [extension] }

/-- `resolve_extension_set`. -/
def resolveExtensionSet (candidates extensions : List Extension) :
    Outcome String (List Extension) := do
  let requested := extensions.mergeSort fun a b => a.sqlName ≤ b.sqlName
  let s ← requested.foldlM (visitExtension candidates (candidates.length + 2)) ⟨∅, ∅, []⟩
  return s.resolved

/-! ## Setup -/

/-- `extension_setup_sql`. -/
def extensionSetupSql (extension : Extension) : List String :=
  let setup := extension.setup
  let create :=
    if setup.createExtension then
      let schema := (setup.createSchema.filter (· ≠ "pg_catalog")).map fun schema =>
        s!"CREATE SCHEMA IF NOT EXISTS {quoteIdentifier schema};"
      let withSchema := setup.createSchema.map fun schema =>
        s!" WITH SCHEMA {quoteIdentifier schema}"
      schema.toList
        ++ [s!"CREATE EXTENSION IF NOT EXISTS {quoteIdentifier extension.sqlName}"
          ++ withSchema.getD "" ++ ";"]
    else []
  create ++ setup.loadSql ++ setup.postCreateSql

/-- `extension_session_setup_sql`. -/
def extensionSessionSetupSql (extension : Extension) : List String :=
  extension.setup.loadSql ++ extension.setup.postCreateSql

/-! ## The bundled extensions -/

namespace Extension

/-- The extensions whose files carry their name and that are created in `pg_catalog`. -/
def packaged (sqlName : String) : Extension where
  name := sqlName
  sqlName := sqlName
  archiveName := s!"extensions/{sqlName}.tar.zst"
  nativeModuleFile := some s!"{sqlName}.so"
  aotName := some s!"extension:{sqlName}"
  dependencies := []
  setup := ⟨true, some "pg_catalog", [], []⟩

def candidateAge : Extension where
  name := "Apache AGE"
  sqlName := "age"
  archiveName := "extensions/age.tar.zst"
  nativeModuleFile := some "age.so"
  aotName := some "extension:age"
  dependencies := []
  setup := ⟨true, some "ag_catalog", ["LOAD 'age';"],
    ["SET search_path = ag_catalog, \"$user\", public;"]⟩

def candidateAutoExplain : Extension :=
  { packaged "auto_explain" with
    setup := ⟨false, none,
      ["LOAD 'auto_explain';",
        "SET auto_explain.log_min_duration = '0';",
        "SET auto_explain.log_analyze = 'true';",
        "SET auto_explain.log_level = 'NOTICE';"], []⟩ }

def candidateEarthdistance : Extension :=
  { packaged "earthdistance" with dependencies := ["cube"] }

def candidateIntarray : Extension :=
  { packaged "intarray" with nativeModuleFile := some "_int.so" }

def candidatePgtap : Extension :=
  { packaged "pgtap" with nativeModuleFile := none, aotName := none }

def candidateVector : Extension := { packaged "vector" with name := "pgvector" }

/-- `CANDIDATES`; `ALL` has the same extensions. -/
def candidates : List Extension :=
  [candidateAge, packaged "amcheck", candidateAutoExplain, packaged "bloom", packaged "btree_gin",
    packaged "btree_gist", packaged "citext", packaged "cube", packaged "dict_int",
    packaged "dict_xsyn", candidateEarthdistance, packaged "file_fdw", packaged "fuzzystrmatch",
    packaged "hstore", candidateIntarray, packaged "isn", packaged "lo", packaged "ltree",
    packaged "pageinspect", packaged "pg_buffercache", packaged "pg_freespacemap",
    packaged "pg_hashids", packaged "pg_ivm", packaged "pg_surgery", packaged "pg_textsearch",
    packaged "pg_trgm", packaged "pg_uuidv7", packaged "pg_visibility", packaged "pg_walinspect",
    candidatePgtap, packaged "seg", packaged "tablefunc", packaged "tcn",
    packaged "tsm_system_rows", packaged "tsm_system_time", packaged "unaccent", candidateVector]

end Extension

/-! ## What a visit does -/

section Visit

variable {candidates : List Extension} {fuel : ℕ} {s s' : VisitState} {extension : Extension}

lemma sqlName_of_candidateBySqlName {name : String}
    (h : candidateBySqlName candidates name = some extension) : extension.sqlName = name := by
  have hfound := List.find?_some h
  simpa using hfound

/-- The turn of the loop for one dependency. -/
def visitDependency (candidates : List Extension) (fuel : ℕ) (extension : Extension)
    (s : VisitState) (dependency : String) : Outcome String VisitState :=
  match candidateBySqlName candidates dependency with
  | none => .err (s!"bundled extension '{extension.sqlName}' depends on missing packaged "
      ++ s!"extension '{dependency}'")
  | some dependencyExtension => visitExtension candidates fuel s dependencyExtension

lemma visitDependency_found {dependency : String} {found : Extension}
    (h : candidateBySqlName candidates dependency = some found) :
    visitDependency candidates fuel extension s dependency
      = visitExtension candidates fuel s found := by
  rw [visitDependency, h]

/-- A visit that enters an extension. -/
lemma visitExtension_enter (hvisited : extension.sqlName ∉ s.visited)
    (hvisiting : extension.sqlName ∉ s.visiting) :
    visitExtension candidates (fuel + 1) s extension
      = (extension.dependencies.foldlM (visitDependency candidates fuel extension)
          { s with visiting := insert extension.sqlName s.visiting } >>= fun s' => pure {
        visiting := s'.visiting.erase extension.sqlName
        visited := insert extension.sqlName s'.visited
        resolved := s'.resolved ++ [extension] }) := by
  rw [visitExtension, if_neg hvisited, if_neg hvisiting]
  rfl

/-- What is being visited is the same after a visit. -/
lemma visitExtension_visiting (h : visitExtension candidates fuel s extension = .ok s') :
    s'.visiting = s.visiting := by
  induction fuel generalizing s s' extension with
  | zero => simp [visitExtension] at h
  | succ fuel ih =>
    by_cases hvisited : extension.sqlName ∈ s.visited
    · rw [visitExtension, if_pos hvisited] at h
      rw [Outcome.ok.inj h]
    by_cases hvisiting : extension.sqlName ∈ s.visiting
    · rw [visitExtension, if_neg hvisited, if_pos hvisiting] at h
      simp at h
    rw [visitExtension_enter hvisited hvisiting, Outcome.bind_eq_ok] at h
    obtain ⟨t, hloop, ht⟩ := h
    have hkeep : t.visiting = insert extension.sqlName s.visiting := by
      refine Outcome.foldlM_invariant
        (I := fun t => t.visiting = insert extension.sqlName s.visiting) ?_ rfl hloop
      intro dependency _ t t' ht hturn
      unfold visitDependency at hturn
      split at hturn
      · simp at hturn
      · exact (ih hturn).trans ht
    have hs' : s'.visiting = t.visiting.erase extension.sqlName := by
      rw [← Outcome.ok.inj ht]
    rw [hs', hkeep, Finset.erase_insert hvisiting]

lemma visitDependency_visiting {dependency : String}
    (h : visitDependency candidates fuel extension s dependency = .ok s') :
    s'.visiting = s.visiting := by
  unfold visitDependency at h
  split at h
  · simp at h
  · exact visitExtension_visiting h

/-- What can be installed: everything it depends on can. -/
inductive Resolves (candidates : List Extension) : String → Prop
  | intro {name : String} {extension : Extension}
      (hfound : candidateBySqlName candidates name = some extension)
      (hdeps : ∀ dependency ∈ extension.dependencies, Resolves candidates dependency) :
      Resolves candidates name

/-- A visit that returns has visited the extension and what it depends on. -/
lemma visitExtension_resolves
    (hfound : candidateBySqlName candidates extension.sqlName = some extension)
    (hs : ∀ name ∈ s.visited, Resolves candidates name)
    (h : visitExtension candidates fuel s extension = .ok s') :
    (∀ name ∈ s'.visited, Resolves candidates name) ∧ extension.sqlName ∈ s'.visited ∧
      s.visited ⊆ s'.visited := by
  induction fuel generalizing s s' extension with
  | zero => simp [visitExtension] at h
  | succ fuel ih =>
    by_cases hvisited : extension.sqlName ∈ s.visited
    · rw [visitExtension, if_pos hvisited] at h
      rw [← Outcome.ok.inj h]
      exact ⟨hs, hvisited, fun _ hname => hname⟩
    by_cases hvisiting : extension.sqlName ∈ s.visiting
    · rw [visitExtension, if_neg hvisited, if_pos hvisiting] at h
      simp at h
    rw [visitExtension_enter hvisited hvisiting, Outcome.bind_eq_ok] at h
    obtain ⟨t, hloop, ht⟩ := h
    have hturn : ∀ dependency ∈ extension.dependencies, ∀ t t' : VisitState,
        (∀ name ∈ t.visited, Resolves candidates name) ∧ s.visited ⊆ t.visited →
        visitDependency candidates fuel extension t dependency = .ok t' →
        ((∀ name ∈ t'.visited, Resolves candidates name) ∧ s.visited ⊆ t'.visited) ∧
          dependency ∈ t'.visited ∧ t.visited ⊆ t'.visited := by
      intro dependency _ t t' ht hturn
      unfold visitDependency at hturn
      split at hturn
      · simp at hturn
      · rename_i found hdep
        have hname := sqlName_of_candidateBySqlName hdep
        obtain ⟨hres, hmem, hsub⟩ := ih (hname.symm ▸ hdep) ht.1 hturn
        exact ⟨⟨hres, ht.2.trans hsub⟩, hname ▸ hmem, hsub⟩
    have hinv := Outcome.foldlM_invariant
      (I := fun t => (∀ name ∈ t.visited, Resolves candidates name) ∧ s.visited ⊆ t.visited)
      (fun d hd t t' ht hd' => (hturn d hd t t' ht hd').1) ⟨hs, fun _ hname => hname⟩ hloop
    have hdeps := Outcome.foldlM_each (P := fun d t => d ∈ t.visited)
      (I := fun t => (∀ name ∈ t.visited, Resolves candidates name) ∧ s.visited ⊆ t.visited)
      (fun d hd t t' ht hd' => ⟨(hturn d hd t t' ht hd').1, (hturn d hd t t' ht hd').2.1⟩)
      (fun d hd y t t' ht hd' hy => (hturn d hd t t' ht hd').2.2 hy) ⟨hs, fun _ hname => hname⟩
      hloop
    have hs' : s'.visited = insert extension.sqlName t.visited := by
      rw [← Outcome.ok.inj ht]
    rw [hs']
    refine ⟨fun name hname => ?_, Finset.mem_insert_self _ _,
      hinv.2.trans (Finset.subset_insert _ _)⟩
    rcases Finset.mem_insert.mp hname with rfl | hname
    · exact .intro hfound fun d hd => hinv.1 d (hdeps d hd)
    · exact hinv.1 name hname

/-- One name is a dependency of another. -/
def Needs (candidates : List Extension) (name dependency : String) : Prop :=
  ∃ extension, candidateBySqlName candidates name = some extension ∧
    dependency ∈ extension.dependencies

/-- A visit that fails has come to a name that is missing, or back to one it came from. -/
lemma visitExtension_err (hfound : candidateBySqlName candidates extension.sqlName = some extension)
    {text : String} (h : visitExtension candidates fuel s extension = .err text) :
    ∃ name, Relation.ReflTransGen (Needs candidates) extension.sqlName name ∧
      (candidateBySqlName candidates name = none ∨ name ∈ s.visiting ∨
        Relation.TransGen (Needs candidates) name name) := by
  induction fuel generalizing s extension with
  | zero => simp [visitExtension] at h
  | succ fuel ih =>
    by_cases hvisited : extension.sqlName ∈ s.visited
    · rw [visitExtension, if_pos hvisited] at h
      simp at h
    by_cases hvisiting : extension.sqlName ∈ s.visiting
    · exact ⟨extension.sqlName, .refl, Or.inr (Or.inl hvisiting)⟩
    rw [visitExtension_enter hvisited hvisiting] at h
    have hloop : extension.dependencies.foldlM (visitDependency candidates fuel extension)
        { s with visiting := insert extension.sqlName s.visiting } = .err text := by
      rcases Outcome.bind_eq_err.mp h with hloop | ⟨t, -, ht⟩
      · exact hloop
      · simp at ht
    obtain ⟨dependency, hdep, t, ht, hturn⟩ := Outcome.foldlM_not_ok
      (I := fun t => t.visiting = insert extension.sqlName s.visiting)
      (fun d _ t t' ht hd => (visitDependency_visiting hd).trans ht) rfl hloop (by simp)
    have hneeds : Needs candidates extension.sqlName dependency := ⟨extension, hfound, hdep⟩
    cases hcand : candidateBySqlName candidates dependency with
    | none => exact ⟨dependency, .single hneeds, Or.inl hcand⟩
    | some found =>
      rw [visitDependency_found hcand] at hturn
      have hname := sqlName_of_candidateBySqlName hcand
      obtain ⟨name, hreach, hbad⟩ := ih (hname.symm ▸ hcand) hturn
      rw [hname] at hreach
      refine ⟨name, .head hneeds hreach, ?_⟩
      rw [ht, Finset.mem_insert] at hbad
      rcases hbad with hmissing | (rfl | hvis) | hcycle
      · exact Or.inl hmissing
      · -- the way leads back to the extension itself
        exact Or.inr (Or.inr (Relation.TransGen.head' hneeds hreach))
      · exact Or.inr (Or.inl hvis)
      · exact Or.inr (Or.inr hcycle)

/-- The fuel is enough: what is being visited are different names of the table, and perhaps the
extension the visit started with. -/
lemma visitExtension_ne_panic {root : String}
    (hroot : extension.sqlName ∈ insert root (candidates.map Extension.sqlName).toFinset)
    (hsub : s.visiting ⊆ insert root (candidates.map Extension.sqlName).toFinset)
    (hfuel : candidates.length + 2 ≤ fuel + s.visiting.card) :
    visitExtension candidates fuel s extension ≠ .panic := by
  induction fuel generalizing s extension with
  | zero =>
    have hcard := Finset.card_le_card hsub
    have hinsert := Finset.card_insert_le root (candidates.map Extension.sqlName).toFinset
    have hnames := List.toFinset_card_le (candidates.map Extension.sqlName)
    rw [List.length_map] at hnames
    omega
  | succ fuel ih =>
    by_cases hvisited : extension.sqlName ∈ s.visited
    · simp [visitExtension, hvisited]
    by_cases hvisiting : extension.sqlName ∈ s.visiting
    · simp [visitExtension, hvisited, hvisiting]
    rw [visitExtension_enter hvisited hvisiting]
    intro h
    rw [Outcome.bind_eq_panic] at h
    rcases h with hloop | ⟨t, -, ht⟩
    · obtain ⟨dependency, hdep, t, ht, hturn⟩ := Outcome.foldlM_not_ok
        (I := fun t => t.visiting = insert extension.sqlName s.visiting)
        (fun d _ t t' ht hd => (visitDependency_visiting hd).trans ht) rfl hloop (by simp)
      unfold visitDependency at hturn
      split at hturn
      · simp at hturn
      · rename_i found hcand
        refine ih ?_ ?_ ?_ hturn
        · refine Finset.mem_insert_of_mem (List.mem_toFinset.mpr ?_)
          exact List.mem_map_of_mem (List.mem_of_find?_eq_some hcand)
        · rw [ht]
          exact Finset.insert_subset hroot hsub
        · rw [ht, Finset.card_insert_of_notMem hvisiting]
          omega
    · simp at ht

end Visit

section Resolve

variable {candidates extensions : List Extension}

/-- Resolving always returns or fails. -/
theorem resolveExtensionSet_ne_panic (candidates extensions : List Extension) :
    resolveExtensionSet candidates extensions ≠ .panic := by
  intro h
  unfold resolveExtensionSet at h
  rw [Outcome.bind_eq_panic] at h
  rcases h with hloop | ⟨t, -, ht⟩
  · obtain ⟨extension, -, s, hs, hvisit⟩ := Outcome.foldlM_not_ok
      (I := fun s => s.visiting = ∅)
      (fun e _ t t' ht he => (visitExtension_visiting he).trans ht) rfl hloop (by simp)
    refine visitExtension_ne_panic (Finset.mem_insert_self _ _) ?_ ?_ hvisit
    · rw [hs]
      exact Finset.empty_subset _
    · omega
  · simp at ht

/-- Resolving fails only when an extension leads to a missing name or to a cycle. -/
lemma resolveExtensionSet_ok
    (hfound : ∀ e ∈ extensions, candidateBySqlName candidates e.sqlName = some e)
    (hgood : ∀ e ∈ extensions, ∀ name,
      Relation.ReflTransGen (Needs candidates) e.sqlName name →
        candidateBySqlName candidates name ≠ none ∧
          ¬ Relation.TransGen (Needs candidates) name name) :
    ∃ resolved, resolveExtensionSet candidates extensions = .ok resolved := by
  cases h : resolveExtensionSet candidates extensions with
  | ok resolved => exact ⟨resolved, rfl⟩
  | panic => exact absurd h (resolveExtensionSet_ne_panic candidates extensions)
  | err text =>
    unfold resolveExtensionSet at h
    rcases Outcome.bind_eq_err.mp h with hloop | ⟨t, -, ht⟩
    · obtain ⟨extension, hmem, s, hs, hvisit⟩ := Outcome.foldlM_not_ok
        (I := fun s => s.visiting = ∅)
        (fun e _ t t' ht he => (visitExtension_visiting he).trans ht) rfl hloop (by simp)
      rw [List.mem_mergeSort] at hmem
      obtain ⟨name, hreach, hbad⟩ := visitExtension_err (hfound extension hmem) hvisit
      obtain ⟨hpresent, hacyclic⟩ := hgood extension hmem name hreach
      rw [hs] at hbad
      rcases hbad with hmissing | hempty | hcycle
      · exact absurd hmissing hpresent
      · simp at hempty
      · exact absurd hcycle hacyclic
    · simp at ht

/-- What resolving returns for, resolves. -/
lemma resolves_of_resolveExtensionSet
    (hfound : ∀ e ∈ extensions, candidateBySqlName candidates e.sqlName = some e)
    {resolved : List Extension} (h : resolveExtensionSet candidates extensions = .ok resolved) :
    ∀ e ∈ extensions, Resolves candidates e.sqlName := by
  unfold resolveExtensionSet at h
  obtain ⟨s, hloop, -⟩ := Outcome.bind_eq_ok.mp h
  have hfound' : ∀ e ∈ extensions.mergeSort fun a b => a.sqlName ≤ b.sqlName,
      candidateBySqlName candidates e.sqlName = some e := fun e he =>
    hfound e (List.mem_mergeSort.mp he)
  have hinv := Outcome.foldlM_invariant
    (I := fun s => ∀ name ∈ s.visited, Resolves candidates name)
    (fun e he t t' ht hvisit => (visitExtension_resolves (hfound' e he) ht hvisit).1) (by simp) hloop
  have hall := Outcome.foldlM_each (P := fun e s => e.sqlName ∈ s.visited)
    (I := fun s => ∀ name ∈ s.visited, Resolves candidates name)
    (fun e he t t' ht hvisit =>
      have hv := visitExtension_resolves (hfound' e he) ht hvisit
      ⟨hv.1, hv.2.1⟩)
    (fun e he y t t' ht hvisit hy => (visitExtension_resolves (hfound' e he) ht hvisit).2.2 hy)
    (by simp) hloop
  intro e he
  exact hinv _ (hall e (List.mem_mergeSort.mpr he))

/-- What resolves leads only to what resolves. -/
lemma Resolves.of_reaches {name name' : String} (h : Resolves candidates name)
    (hreach : Relation.ReflTransGen (Needs candidates) name name') : Resolves candidates name' := by
  induction hreach with
  | refl => exact h
  | tail _ hneeds ih =>
    obtain ⟨extension, hfound, hdep⟩ := hneeds
    cases ih with
    | intro hfound' hdeps =>
      rw [hfound] at hfound'
      rw [Option.some.inj hfound'] at hdep
      exact hdeps _ hdep

/-- What resolves does not lead back to itself. -/
lemma Resolves.acyclic {name : String} (h : Resolves candidates name) :
    ¬ Relation.TransGen (Needs candidates) name name := by
  induction h with
  | @intro name extension hfound hdeps ih =>
    intro hcycle
    -- a cycle through the name is a cycle through the first dependency on it
    obtain ⟨dependency, ⟨extension', hfound', hdep⟩, hback⟩ := Relation.TransGen.head'_iff.mp hcycle
    rw [hfound] at hfound'
    rw [← Option.some.inj hfound'] at hdep
    exact ih dependency hdep (Relation.TransGen.tail' hback ⟨extension, hfound, hdep⟩)

end Resolve

end PgliteOxide.Pglite
