import Mathlib.Data.List.Nodup
import PgliteOxide.Pglite.Extensions

/-!
# The extension catalog

`extension_catalog.rs`: the catalog that is checked at build time, and the tables of extensions
that are generated from it. The check looks up the dependencies one by one, by SQL name or by id;
resolving them at run time looks up SQL names only, and follows them. The two agree exactly when
following them from the promoted extensions finds packaged extensions only and never turns in a
circle.
-/

namespace PgliteOxide.Pglite

open Lib

structure PromotionStatus where
  configured : Bool
  requested : Bool
  packaged : Bool
  promoted : Bool
  stable : Bool
  archive : Option String
  blocker : Option String
deriving DecidableEq

structure ExtensionLifecycle where
  createExtension : Bool
  createSchema : Option String
  loadSql : List String
  postCreateSql : List String
deriving DecidableEq

structure ExtensionCatalogEntry where
  id : String
  sqlName : String
  displayName : String
  sourceKind : String
  dependencies : List String
  lifecycle : ExtensionLifecycle
  tests : List String
  nativeModuleFile : Option String
  promotion : PromotionStatus
deriving DecidableEq

structure ExtensionCatalog where
  formatVersion : ℕ
  extensions : List ExtensionCatalogEntry
deriving DecidableEq

def promotionConfigPath : String := "assets/extensions.promoted.toml"

/-- `runtime_provided_sql_extensions`. -/
def runtimeProvidedSqlExtensions : List String := ["plpgsql"]

/-- `api_dependencies`. -/
def apiDependencies (extension : ExtensionCatalogEntry) : List String :=
  extension.dependencies.filter (· ∉ runtimeProvidedSqlExtensions)

/-! ## The generated tables -/

/-- `promoted_extensions`. -/
def promotedExtensions (catalog : ExtensionCatalog) : List ExtensionCatalogEntry :=
  catalog.extensions.filter (·.promotion.promoted)

/-- `packaged_extensions`. -/
def packagedExtensions (catalog : ExtensionCatalog) : List ExtensionCatalogEntry :=
  catalog.extensions.filter fun extension =>
    extension.promotion.requested && extension.promotion.packaged
      && extension.promotion.archive.isSome

/-- The constant that is generated for a packaged extension. -/
def candidateConst (extension : ExtensionCatalogEntry) : Outcome String Extension :=
  match extension.promotion.archive with
  | none => .err s!"packaged extension {extension.id} is missing archive"
  | some archive => .ok {
      name := extension.displayName
      sqlName := extension.sqlName
      archiveName := archive
      nativeModuleFile := extension.nativeModuleFile
      aotName := extension.nativeModuleFile.map fun _ => s!"extension:{extension.sqlName}"
      dependencies := apiDependencies extension
      setup := {
        createExtension := extension.lifecycle.createExtension
        createSchema := extension.lifecycle.createSchema
        loadSql := extension.lifecycle.loadSql
        postCreateSql := extension.lifecycle.postCreateSql } }

/-- The tables `ALL` and `CANDIDATES`. -/
structure GeneratedExtensions where
  all : List Extension
  candidates : List Extension

/-- `write_generated_extension_api`. A promoted extension is the constant of its candidate. -/
def writeGeneratedExtensionApi (catalog : ExtensionCatalog) : Outcome String GeneratedExtensions := do
  let candidates ← (packagedExtensions catalog).mapM candidateConst
  let all ← (promotedExtensions catalog).mapM candidateConst
  return { all, candidates }

/-! ## The check -/

/-- `ensure!`. -/
def ensure (condition : Bool) (text : String) : Outcome String Unit :=
  if condition then .ok () else .err text

/-- A dependency may be named by the SQL name or by the id. -/
def isCalled (extension : ExtensionCatalogEntry) (dependency : String) : Bool :=
  extension.sqlName = dependency || extension.id = dependency

/-- The check of one dependency in `validate_catalog`. -/
def validateDependency (catalog : ExtensionCatalog) (extension : ExtensionCatalogEntry)
    (dependency : String) : Outcome String Unit :=
  if dependency ∈ runtimeProvidedSqlExtensions then .ok ()
  else do
    ensure (catalog.extensions.any (isCalled · dependency))
      s!"{extension.id} depends on unknown extension {dependency}"
    if extension.promotion.promoted then
      ensure (catalog.extensions.any fun candidate =>
          candidate.promotion.promoted && isCalled candidate dependency)
        s!"promoted extension {extension.id} depends on unpromoted extension {dependency}"
    if extension.promotion.requested then
      ensure (catalog.extensions.any fun candidate =>
          candidate.promotion.requested && isCalled candidate dependency)
        s!"requested extension {extension.id} depends on unrequested extension {dependency}"

/-- The ids and the SQL names seen so far. -/
abbrev SeenNames := Finset String × Finset String

/-- What `validate_catalog` asks of a requested extension. -/
def validateRequested (extension : ExtensionCatalogEntry) : Outcome String Unit :=
  if extension.promotion.requested then do
    ensure extension.promotion.archive.isSome
      s!"requested extension {extension.id} must resolve to an archive path"
    ensure (extension.sourceKind ≠ "pglite-plugin")
      s!"requested extension {extension.id} is not a SQL extension"
    ensure (extension.lifecycle.createExtension || extension.lifecycle.loadSql ≠ [])
      s!"requested extension {extension.id} must declare a lifecycle operation"
  else .ok ()

/-- What `validate_catalog` asks of a promoted extension. -/
def validatePromoted (extension : ExtensionCatalogEntry) : Outcome String Unit :=
  if extension.promotion.promoted then do
    ensure (extension.tests ≠ [])
      s!"promoted extension {extension.id} must have a smoke test source"
    ensure (extension.lifecycle.createExtension || extension.lifecycle.loadSql ≠ [])
      s!"promoted extension {extension.id} must declare a lifecycle operation"
  else .ok ()

/-- The check of one entry in `validate_catalog`. -/
def validateEntry (catalog : ExtensionCatalog) (seen : SeenNames)
    (extension : ExtensionCatalogEntry) : Outcome String SeenNames := do
  let promotion := extension.promotion
  ensure (extension.id ∉ seen.1) s!"duplicate extension id {extension.id}"
  ensure (extension.id ≠ "live") "live must not be included in SQL extension catalog"
  ensure promotion.configured
    (s!"{extension.id} is missing from {promotionConfigPath}; every discovered SQL extension must "
      ++ "be explicitly build-requested or blocked")
  ensure (promotion.requested || promotion.blocker.isSome)
    s!"{extension.id} is not build-requested and has no blocker in {promotionConfigPath}"
  ensure (extension.sqlName ∉ seen.2) s!"duplicate SQL extension name {extension.sqlName}"
  ensure (!promotion.promoted || promotion.stable)
    s!"{extension.id} cannot be promoted without stable=true"
  validateRequested extension
  validatePromoted extension
  extension.dependencies.forM (validateDependency catalog extension)
  return (insert extension.id seen.1, insert extension.sqlName seen.2)

def requiredExtensions : List String :=
  ["vector", "pg_trgm", "hstore", "pgcrypto", "pgtap", "postgis"]

/-- `validate_catalog`. -/
def validateCatalog (catalog : ExtensionCatalog) : Outcome String Unit := do
  ensure (catalog.formatVersion = 1) "extension catalog format must be 1"
  let _ ← catalog.extensions.foldlM (validateEntry catalog) (∅, ∅)
  requiredExtensions.forM fun required =>
    ensure (catalog.extensions.any fun extension =>
        extension.id = required || extension.sqlName = required)
      s!"extension catalog is missing required PGlite extension {required}"

/-! ## What the check is good for -/

section

variable {catalog : ExtensionCatalog}

lemma ensure_eq_ok {condition : Bool} {text : String} :
    ensure condition text = .ok () ↔ condition = true := by
  unfold ensure
  split <;> simp_all

/-- An entry that passes has a new SQL name. -/
lemma validateEntry_ok {seen seen' : SeenNames} {extension : ExtensionCatalogEntry}
    (h : validateEntry catalog seen extension = .ok seen') :
    extension.sqlName ∉ seen.2 ∧ seen'.2 = insert extension.sqlName seen.2 := by
  unfold validateEntry at h
  simp only [Outcome.bind_eq_ok] at h
  obtain ⟨_, -, _, -, _, -, _, -, _, hname, _, -, _, -, _, -, _, -, hseen'⟩ := h
  have hnew := ensure_eq_ok.mp hname
  refine ⟨by simpa using hnew, ?_⟩
  rw [← Outcome.ok.inj hseen']

/-- Different entries have different SQL names. -/
lemma validateEntry_nodup {entries : List ExtensionCatalogEntry} {seen seen' : SeenNames}
    (h : entries.foldlM (validateEntry catalog) seen = .ok seen') :
    (entries.map ExtensionCatalogEntry.sqlName).Nodup ∧
      ∀ extension ∈ entries, extension.sqlName ∉ seen.2 := by
  induction entries generalizing seen with
  | nil => simp
  | cons extension entries ih =>
    rw [List.foldlM_cons, Outcome.bind_eq_ok] at h
    obtain ⟨seen₁, hentry, hrest⟩ := h
    obtain ⟨hnew, hseen₁⟩ := validateEntry_ok hentry
    obtain ⟨hnodup, hfresh⟩ := ih hrest
    rw [hseen₁] at hfresh
    refine ⟨?_, ?_⟩
    · rw [List.map_cons, List.nodup_cons]
      refine ⟨fun hmem => ?_, hnodup⟩
      obtain ⟨other, hother, heq⟩ := List.mem_map.mp hmem
      exact hfresh other hother (heq ▸ Finset.mem_insert_self _ _)
    · intro other hother
      rcases List.mem_cons.mp hother with rfl | hother
      · exact hnew
      · exact fun hmem => hfresh other hother (Finset.mem_insert_of_mem hmem)

lemma nodup_of_validateCatalog (h : validateCatalog catalog = .ok ()) :
    (catalog.extensions.map ExtensionCatalogEntry.sqlName).Nodup := by
  unfold validateCatalog at h
  simp only [Outcome.bind_eq_ok] at h
  obtain ⟨_, -, seen, hentries, -⟩ := h
  exact (validateEntry_nodup hentries).1

/-- The constants of a list of entries. -/
lemma mapM_candidateConst {entries : List ExtensionCatalogEntry}
    (h : ∀ e ∈ entries, e.promotion.archive.isSome) :
    ∃ exts, entries.mapM candidateConst = .ok exts ∧
      List.Forall₂ (fun e ext => candidateConst e = .ok ext) entries exts := by
  induction entries with
  | nil => exact ⟨[], rfl, .nil⟩
  | cons e entries ih =>
    obtain ⟨exts, hexts, hall⟩ := ih fun e' he' => h e' (List.mem_cons_of_mem e he')
    obtain ⟨archive, harchive⟩ := Option.isSome_iff_exists.mp (h e List.mem_cons_self)
    have hconst : ∃ ext, candidateConst e = .ok ext := by
      unfold candidateConst
      rw [harchive]
      exact ⟨_, rfl⟩
    obtain ⟨ext, hext⟩ := hconst
    refine ⟨ext :: exts, ?_, .cons hext hall⟩
    rw [List.mapM_cons, hext, hexts]
    rfl

lemma candidateConst_ok {e : ExtensionCatalogEntry} {ext : Extension}
    (h : candidateConst e = .ok ext) :
    ext.sqlName = e.sqlName ∧ ext.dependencies = apiDependencies e := by
  unfold candidateConst at h
  split at h
  · simp at h
  · rw [← Outcome.ok.inj h]
    exact ⟨rfl, rfl⟩

/-! ### Entries and constants -/

variable {entries : List ExtensionCatalogEntry} {exts : List Extension}

/-- The constant of an entry is found under its name. -/
lemma candidateBySqlName_of_mem
    (hall : List.Forall₂ (fun e ext => candidateConst e = .ok ext) entries exts)
    (hnodup : (entries.map ExtensionCatalogEntry.sqlName).Nodup) {e : ExtensionCatalogEntry}
    (he : e ∈ entries) :
    ∃ ext, candidateBySqlName exts e.sqlName = some ext ∧ candidateConst e = .ok ext := by
  induction hall with
  | nil => simp at he
  | @cons e₀ ext₀ entries exts hext _ ih =>
    rw [List.map_cons, List.nodup_cons] at hnodup
    rcases List.mem_cons.mp he with rfl | he
    · exact ⟨ext₀, by simp [candidateBySqlName, (candidateConst_ok hext).1], hext⟩
    · have hne : ext₀.sqlName ≠ e.sqlName := by
        rw [(candidateConst_ok hext).1]
        exact fun heq => hnodup.1 (heq ▸ List.mem_map_of_mem he)
      obtain ⟨ext, hfound, hconst⟩ := ih hnodup.2 he
      refine ⟨ext, ?_, hconst⟩
      rw [← hfound]
      simp [candidateBySqlName, hne]

lemma exists_entry (hall : List.Forall₂ (fun e ext => candidateConst e = .ok ext) entries exts)
    {ext : Extension} (hext : ext ∈ exts) : ∃ e ∈ entries, candidateConst e = .ok ext := by
  induction hall with
  | nil => simp at hext
  | cons hconst _ ih =>
    rcases List.mem_cons.mp hext with rfl | hext
    · exact ⟨_, List.mem_cons_self, hconst⟩
    · obtain ⟨e, he, hconst⟩ := ih hext
      exact ⟨e, List.mem_cons_of_mem _ he, hconst⟩

lemma exists_entry_of_candidateBySqlName
    (hall : List.Forall₂ (fun e ext => candidateConst e = .ok ext) entries exts) {name : String}
    {ext : Extension} (h : candidateBySqlName exts name = some ext) :
    ∃ e ∈ entries, e.sqlName = name ∧ candidateConst e = .ok ext := by
  obtain ⟨e, he, hconst⟩ := exists_entry hall (List.mem_of_find?_eq_some h)
  refine ⟨e, he, ?_, hconst⟩
  rw [← (candidateConst_ok hconst).1, sqlName_of_candidateBySqlName h]

/-- Following dependencies in the catalog: from the SQL name of a packaged entry to the names its
constant depends on. -/
def CatalogNeeds (catalog : ExtensionCatalog) (name dependency : String) : Prop :=
  ∃ e ∈ packagedExtensions catalog, e.sqlName = name ∧ dependency ∈ apiDependencies e

/-- Following dependencies from the promoted extensions finds SQL names of packaged extensions
only, and never turns in a circle. -/
def DependenciesInOrder (catalog : ExtensionCatalog) : Prop :=
  ∀ e ∈ promotedExtensions catalog, ∀ name,
    Relation.ReflTransGen (CatalogNeeds catalog) e.sqlName name →
      (∃ c ∈ packagedExtensions catalog, c.sqlName = name) ∧
        ¬ Relation.TransGen (CatalogNeeds catalog) name name

/-- The table has the same dependencies as the catalog. -/
lemma needs_eq_catalogNeeds
    (hall : List.Forall₂ (fun e ext => candidateConst e = .ok ext) (packagedExtensions catalog) exts)
    (hnodup : ((packagedExtensions catalog).map ExtensionCatalogEntry.sqlName).Nodup) :
    Needs exts = CatalogNeeds catalog := by
  funext name dependency
  apply propext
  constructor
  · rintro ⟨ext, hfound, hdep⟩
    obtain ⟨e, he, hname, hconst⟩ := exists_entry_of_candidateBySqlName hall hfound
    rw [(candidateConst_ok hconst).2] at hdep
    exact ⟨e, he, hname, hdep⟩
  · rintro ⟨e, he, hname, hdep⟩
    obtain ⟨ext, hfound, hconst⟩ := candidateBySqlName_of_mem hall hnodup he
    rw [← (candidateConst_ok hconst).2] at hdep
    exact ⟨ext, hname ▸ hfound, hdep⟩

lemma candidateBySqlName_ne_none
    (hall : List.Forall₂ (fun e ext => candidateConst e = .ok ext) (packagedExtensions catalog) exts)
    (hnodup : ((packagedExtensions catalog).map ExtensionCatalogEntry.sqlName).Nodup)
    (name : String) :
    candidateBySqlName exts name ≠ none ↔ ∃ c ∈ packagedExtensions catalog, c.sqlName = name := by
  constructor
  · intro h
    obtain ⟨ext, hfound⟩ := Option.ne_none_iff_exists'.mp h
    obtain ⟨e, he, hname, -⟩ := exists_entry_of_candidateBySqlName hall hfound
    exact ⟨e, he, hname⟩
  · rintro ⟨c, hc, rfl⟩
    obtain ⟨ext, hfound, -⟩ := candidateBySqlName_of_mem hall hnodup hc
    rw [hfound]
    exact Option.some_ne_none ext

/-- **Validated catalogs.** For a catalog that passes the check, resolving succeeds for every list
of promoted extensions exactly when following the dependencies of the promoted extensions finds
packaged extensions only, by their SQL names, and never turns in a circle. -/
theorem validated_catalog_resolves_iff {catalog : ExtensionCatalog}
    (hpromoted : ∀ e ∈ catalog.extensions, e.promotion.promoted →
      e.promotion.requested ∧ e.promotion.packaged ∧ e.promotion.archive.isSome)
    (hvalid : validateCatalog catalog = .ok ()) :
    ∃ api, writeGeneratedExtensionApi catalog = .ok api ∧
      ((∀ extensions : List Extension, (∀ e ∈ extensions, e ∈ api.all) →
          ∃ resolved, resolveExtensionSet api.candidates extensions = .ok resolved) ↔
        DependenciesInOrder catalog) := by
  have hsub : ∀ e ∈ promotedExtensions catalog, e ∈ packagedExtensions catalog := by
    intro e he
    obtain ⟨hmem, hprom⟩ := List.mem_filter.mp he
    obtain ⟨hreq, hpack, harchive⟩ := hpromoted e hmem hprom
    exact List.mem_filter.mpr ⟨hmem, by simp [hreq, hpack, harchive]⟩
  have harchive : ∀ e ∈ packagedExtensions catalog, e.promotion.archive.isSome := by
    intro e he
    have hpack := (List.mem_filter.mp he).2
    simp only [Bool.and_eq_true] at hpack
    exact hpack.2
  have hnodup : ((packagedExtensions catalog).map ExtensionCatalogEntry.sqlName).Nodup :=
    (nodup_of_validateCatalog hvalid).sublist (List.filter_sublist.map _)
  have hnodup' : ((promotedExtensions catalog).map ExtensionCatalogEntry.sqlName).Nodup :=
    (nodup_of_validateCatalog hvalid).sublist (List.filter_sublist.map _)
  obtain ⟨candidates, hcandidates, hall⟩ := mapM_candidateConst harchive
  obtain ⟨all, hpub, hallpub⟩ := mapM_candidateConst fun e he => harchive e (hsub e he)
  have hneeds := needs_eq_catalogNeeds hall hnodup
  have hpresent := candidateBySqlName_ne_none hall hnodup
  -- a public constant is the candidate of its name
  have hfound : ∀ ext ∈ all, ∃ e ∈ promotedExtensions catalog, e.sqlName = ext.sqlName ∧
      candidateBySqlName candidates ext.sqlName = some ext := by
    intro ext hext
    obtain ⟨e, he, hconst⟩ := exists_entry hallpub hext
    obtain ⟨ext', hfound', hconst'⟩ := candidateBySqlName_of_mem hall hnodup (hsub e he)
    have heq : ext = ext' := Outcome.ok.inj (hconst.symm.trans hconst')
    rw [← heq, ← (candidateConst_ok hconst).1] at hfound'
    exact ⟨e, he, (candidateConst_ok hconst).1.symm, hfound'⟩
  refine ⟨⟨all, candidates⟩, ?_, ?_, ?_⟩
  · unfold writeGeneratedExtensionApi
    rw [hcandidates, hpub]
    rfl
  · intro hres e he name hreach
    obtain ⟨ext, hpubfound, hconst⟩ := candidateBySqlName_of_mem hallpub hnodup' he
    have hext : ext ∈ all := List.mem_of_find?_eq_some hpubfound
    obtain ⟨resolved, hresolved⟩ := hres [ext] (by simpa using hext)
    obtain ⟨-, -, -, hcand⟩ := hfound ext hext
    have hresolves := resolves_of_resolveExtensionSet (by simpa using hcand) hresolved ext
      List.mem_cons_self
    rw [(candidateConst_ok hconst).1] at hresolves
    rw [← hneeds] at hreach ⊢
    have hname := hresolves.of_reaches hreach
    refine ⟨(hpresent name).mp ?_, hname.acyclic⟩
    cases hname with
    | intro hcandidate _ =>
      rw [hcandidate]
      exact Option.some_ne_none _
  · intro hgood extensions hextensions
    refine resolveExtensionSet_ok (fun ext hext => ?_) fun ext hext name hreach => ?_
    · obtain ⟨e, -, -, h⟩ := hfound ext (hextensions ext hext)
      exact h
    · obtain ⟨e, he, hname, -⟩ := hfound ext (hextensions ext hext)
      rw [hneeds] at hreach ⊢
      rw [hpresent]
      exact hgood e he name (hname ▸ hreach)

end

/-! ### Catalogs -/

/-- A promoted extension. -/
def promotedEntry (id sqlName : String) (dependencies : List String) : ExtensionCatalogEntry where
  id := id
  sqlName := sqlName
  displayName := id
  sourceKind := "postgres-contrib"
  dependencies := dependencies
  lifecycle := { createExtension := true, createSchema := none, loadSql := [], postCreateSql := [] }
  tests := ["tests/extensions.rs"]
  nativeModuleFile := none
  promotion := {
    configured := true
    requested := true
    packaged := true
    promoted := true
    stable := true
    archive := some s!"extensions/{sqlName}.tar.zst"
    blocker := none }

/-- The required extensions, and some more. -/
def catalogWith (more : List ExtensionCatalogEntry) : ExtensionCatalog where
  formatVersion := 1
  extensions := requiredExtensions.map (fun name => promotedEntry name name []) ++ more

/-- An extension that needs another one, and the language the runtime provides. -/
def earthCatalog : ExtensionCatalog :=
  catalogWith [promotedEntry "earthdistance" "earthdistance" ["cube", "plpgsql"],
    promotedEntry "cube" "cube" []]

/-- The only dependency of that catalog. -/
lemma earthCatalog_needs {name dependency : String}
    (h : CatalogNeeds earthCatalog name dependency) :
    name = "earthdistance" ∧ dependency = "cube" := by
  obtain ⟨e, he, hname, hdep⟩ := h
  have hall : ∀ e ∈ packagedExtensions earthCatalog, ∀ dependency ∈ apiDependencies e,
      e.sqlName = "earthdistance" ∧ dependency = "cube" := by
    decide +kernel
  exact hname ▸ hall e he dependency hdep

/-- It is packaged and needs nothing, so everything resolves. -/
theorem earth_catalog_resolves : ∃ api, writeGeneratedExtensionApi earthCatalog = .ok api ∧
    ∀ extensions : List Extension, (∀ e ∈ extensions, e ∈ api.all) →
      ∃ resolved, resolveExtensionSet api.candidates extensions = .ok resolved := by
  obtain ⟨api, hapi, hiff⟩ := @validated_catalog_resolves_iff earthCatalog (by decide +kernel)
    (by decide +kernel)
  refine ⟨api, hapi, hiff.mpr ?_⟩
  have hpackaged : ∀ e ∈ promotedExtensions earthCatalog, e ∈ packagedExtensions earthCatalog := by
    decide +kernel
  have hcube : ∃ c ∈ packagedExtensions earthCatalog, c.sqlName = "cube" := by decide +kernel
  -- nothing is needed by the extension that is needed
  have hlast : ∀ {name}, Relation.ReflTransGen (CatalogNeeds earthCatalog) "cube" name →
      name = "cube" := by
    intro name hreach
    rcases Relation.ReflTransGen.cases_head hreach with h | ⟨dependency, hneeds, -⟩
    · exact h.symm
    · exact absurd (earthCatalog_needs hneeds).1 (by decide)
  intro e he name hreach
  refine ⟨?_, fun hcycle => ?_⟩
  · rcases Relation.ReflTransGen.cases_head hreach with rfl | ⟨dependency, hneeds, hrest⟩
    · exact ⟨e, hpackaged e he, rfl⟩
    · rw [(earthCatalog_needs hneeds).2] at hrest
      rw [hlast hrest]
      exact hcube
  · obtain ⟨dependency, hneeds, hrest⟩ := Relation.TransGen.head'_iff.mp hcycle
    obtain ⟨hname, hdep⟩ := earthCatalog_needs hneeds
    rw [hdep] at hrest
    exact absurd (hname.symm.trans (hlast hrest)) (by decide)

/-- The dependency is named by an id that is not an SQL name. -/
def aliasCatalog : ExtensionCatalog :=
  catalogWith [promotedEntry "uuid_ossp" "uuid-ossp" [], promotedEntry "ids" "ids" ["uuid_ossp"]]

/-- Two extensions depend on each other. -/
def mutualCatalog : ExtensionCatalog :=
  catalogWith [promotedEntry "a" "a" ["b"], promotedEntry "b" "b" ["a"]]

/-- What comes of resolving one promoted extension. -/
def resolveOne (catalog : ExtensionCatalog) (sqlName : String) : Outcome String (List Extension) := do
  let api ← writeGeneratedExtensionApi catalog
  resolveExtensionSet api.candidates (api.all.filter (·.sqlName = sqlName))

/-- Two catalogs pass the check and do not resolve. -/
theorem validated_catalog_does_not_resolve :
    (∀ e ∈ aliasCatalog.extensions ++ mutualCatalog.extensions,
      e.promotion.requested ∧ e.promotion.packaged ∧ e.promotion.archive.isSome) ∧
    (validateCatalog aliasCatalog = .ok () ∧
      resolveOne aliasCatalog "ids"
        = .err "bundled extension 'ids' depends on missing packaged extension 'uuid_ossp'") ∧
    validateCatalog mutualCatalog = .ok () ∧
      resolveOne mutualCatalog "a"
        = .err "cyclic bundled extension dependency involving 'a'" := by
  decide +kernel

end PgliteOxide.Pglite
