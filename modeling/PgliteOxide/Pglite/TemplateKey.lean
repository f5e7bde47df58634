import PgliteOxide.Lib.Lines
import PgliteOxide.Pglite.Root

/-!
# Keys of extension templates

`extension_pgdata_template_manifest` hashes the template, the extensions and the configuration a
cached PGDATA was made with, line by line. A configuration value may have line feeds, and so may
the version: what was hashed is then not always read back in one way only.
-/

namespace PgliteOxide.Pglite

open Lib

/-! ## Configurations -/

/-- `PostgresConfig`. The names of a `BTreeMap` are in order. -/
structure PostgresConfig where
  settings : List (String × String)
  sorted : (settings.map Prod.fst).Pairwise (· < ·)

/-- The loop over the parts of `validate_guc_name`. -/
def validateGucParts (name : String) : List (List Char) → Except String Unit
  | [] => .ok ()
  | [] :: _ => .error s!"Postgres config name '{name}' contains an empty identifier part"
  | (first :: chars) :: parts =>
    if ¬ (first = '_' ∨ first.isAlpha = true) then
      .error s!"Postgres config name '{name}' must start each identifier with a letter or '_'"
    else if (chars.any fun ch => !(ch == '_' || ch.isAlphanum)) = true then
      .error s!"Postgres config name '{name}' may only contain letters, digits, '_', and '.'"
    else validateGucParts name parts

/-- `validate_guc_name`. -/
def validateGucName (name : String) : Except String Unit :=
  if name = "" then .error "Postgres config name must not be empty"
  else if '\x00' ∈ name.toList ∨ '=' ∈ name.toList then
    .error s!"Postgres config name '{name}' must not contain NUL bytes or '='"
  else validateGucParts name (name.toList.splitOn '.')

/-- The loop of `validate`. -/
def validateSettings : List (String × String) → Except String Unit
  | [] => .ok ()
  | (name, value) :: settings => do
    validateGucName name
    if '\x00' ∈ value.toList then
      .error s!"Postgres config value for '{name}' must not contain NUL bytes"
    else validateSettings settings

namespace PostgresConfig

variable (config : PostgresConfig)

/-- `PostgresConfig::validate`. -/
def validate : Except String Unit := validateSettings config.settings

/-- `PostgresConfig::stable_entries`. -/
def stableEntries : List (String × String) := config.settings

end PostgresConfig

/-! ## Manifests -/

structure ExtensionPgDataTemplateManifest where
  version : Nat
  postgresVersion : String
  baseTemplateArchiveSha256 : String
  baseTemplateWasmSha256 : String
  extensionSqlNames : List String
  extensionArchiveSha256s : List String
  postgresConfig : List (String × String)
  cacheKey : String
deriving DecidableEq

/-- `expected_extension_archive_sha256`, over the names and hashes of the asset manifest. -/
def expectedExtensionArchiveSha256 (assets : List (String × String)) (sqlName : String) :
    Except String String :=
  match assets.find? fun extension => extension.1 == sqlName with
  | some extension => .ok extension.2
  | none => .error s!"extension asset '{sqlName}' is missing from asset manifest"

/-- What `hasher` is given. -/
def hasherInput (base : PgDataTemplateManifest) (sqlNames archiveSha256s : List String)
    (entries : List (String × String)) : List Char :=
  "pglite-oxide-extension-pgdata-template-v4-startup-config\n".toList ++
  base.postgresVersion.toList ++ ['\n'] ++
  base.archiveSha256.toList ++ ['\n'] ++
  base.wasmSha256.toList ++ ['\n'] ++
  ((sqlNames.zip archiveSha256s).flatMap fun (sqlName, archiveSha256) =>
    sqlName.toList ++ [':'] ++ archiveSha256.toList ++ ['\n']) ++
  entries.flatMap fun (name, value) => name.toList ++ ['='] ++ value.toList ++ ['\n']

/-- What a template is made from: the base template, the assets of the build, the `sql_name`s of
the extensions, and the configuration. -/
structure TemplateInput where
  base : PgDataTemplateManifest
  assets : List (String × String)
  extensions : List String
  postgresConfig : PostgresConfig

namespace TemplateInput

variable (t : TemplateInput)

def archiveSha256s : Except String (List String) :=
  t.extensions.mapM (expectedExtensionArchiveSha256 t.assets)

/-- The bytes that are hashed. -/
def hashed : Except String Bytes := do
  let archiveSha256s ← t.archiveSha256s
  return utf8 (String.ofList
    (hasherInput t.base t.extensions archiveSha256s t.postgresConfig.stableEntries))

/-- `extension_pgdata_template_manifest`, with the hash in hexadecimal as a parameter. -/
def extensionPgdataTemplateManifest (sha256Hex : Bytes → String) :
    Except String ExtensionPgDataTemplateManifest := do
  let extensionArchiveSha256s ← t.archiveSha256s
  let postgresConfigEntries := t.postgresConfig.stableEntries
  let cacheKey := sha256Hex (utf8 (String.ofList
    (hasherInput t.base t.extensions extensionArchiveSha256s postgresConfigEntries)))
  return {
    version := 3
    postgresVersion := t.base.postgresVersion
    baseTemplateArchiveSha256 := t.base.archiveSha256
    baseTemplateWasmSha256 := t.base.wasmSha256
    extensionSqlNames := t.extensions
    extensionArchiveSha256s
    postgresConfig := postgresConfigEntries
    cacheKey }

end TemplateInput

/-! ## Lines -/

/-- The hash of an archive or a module: 64 hexadecimal digits. -/
def IsSha256 (hash : List Char) : Prop :=
  hash.length = 64 ∧
    ∀ c ∈ hash, c.isDigit = true ∨ ('a' ≤ c ∧ c ≤ 'f') ∨ ('A' ≤ c ∧ c ≤ 'F')

/-- A name that does not end in the line of its extension. -/
def IsExtensionName (name : List Char) : Prop := ':' ∉ name ∧ '\n' ∉ name

/-- A line that starts a setting. -/
def StartsSetting (line : List Char) : Prop :=
  ∃ (name : String) (rest : List Char),
    line = name.toList ++ '=' :: rest ∧ validateGucName name = .ok ()

/-- Lines that may be settings: the first starts one, and the others may belong to its value. -/
def AreSettings (lines : List (List Char)) : Prop :=
  (∀ line ∈ lines.head?, StartsSetting line) ∧ ∀ line ∈ lines, '\x00' ∉ line

/-- Lines that may be extensions: every line has one, with the same hash for the same name. -/
def AreExtensions (lines : List (List Char)) : Prop :=
  ∃ (sha : String → String) (names : List String),
    (∀ name ∈ names, IsExtensionName name.toList ∧ IsSha256 (sha name).toList) ∧
    lines = names.map fun name => name.toList ++ ':' :: (sha name).toList

def splitLines (text : String) : List (List Char) := text.toList.splitOn '\n'

/-- The lines of a setting. -/
def settingLines (setting : String × String) : List (List Char) :=
  splitLines (setting.1 ++ "=" ++ setting.2)

namespace TemplateInput

variable (t : TemplateInput)

/-- The hash of an extension that has one. -/
def sha (name : String) : String :=
  ((t.assets.find? fun extension => extension.1 == name).map Prod.snd).getD ""

/-- The hashes are hexadecimal, the names have no colon and no line feed, and the configuration
is valid. -/
structure Accepted : Prop where
  archive : IsSha256 t.base.archiveSha256.toList
  wasm : IsSha256 t.base.wasmSha256.toList
  extensions : ∀ name ∈ t.extensions, IsExtensionName name.toList ∧
    ∃ hash, expectedExtensionArchiveSha256 t.assets name = .ok hash ∧ IsSha256 hash.toList
  config : t.postgresConfig.validate = .ok ()

def extensionLines : List (List Char) :=
  t.extensions.map fun name => name.toList ++ ':' :: (t.sha name).toList

/-- Template, extensions, archive hashes and configuration are the same. -/
structure Same (t' : TemplateInput) : Prop where
  postgresVersion : t'.base.postgresVersion = t.base.postgresVersion
  archiveSha256 : t'.base.archiveSha256 = t.base.archiveSha256
  wasmSha256 : t'.base.wasmSha256 = t.base.wasmSha256
  extensions : t'.extensions = t.extensions
  archiveSha256s : t'.archiveSha256s = t.archiveSha256s
  settings : t'.postgresConfig.stableEntries = t.postgresConfig.stableEntries

/-- No part of the input can be taken for another one:
there is one setting at most;
no extension has a name that starts a setting;
the version has no two hashes with what can be extensions and a setting behind them;
the value has no line that starts a setting with a larger name, no line that can be one more
extension, and no two hashes with what can be extensions and settings behind them.
What would become the value of a setting has no NUL. -/
structure Unambiguous : Prop where
  one_setting : t.postgresConfig.settings.length ≤ 1
  names : ∀ front name behind, t.extensions = front ++ name :: behind →
    StartsSetting name.toList → ∃ name' ∈ name :: behind, '\x00' ∈ name'.toList
  version : ∀ front archive wasm lines setting behind,
    splitLines t.base.postgresVersion
      = front ++ archive :: wasm :: (lines ++ setting :: behind) → front ≠ [] →
    IsSha256 archive → IsSha256 wasm → AreExtensions lines → AreSettings (setting :: behind) →
    ∃ name ∈ t.extensions, '\x00' ∈ name.toList
  value_start : ∀ name value first rest, (name, value) ∈ t.postgresConfig.settings →
    splitLines value = first :: rest → ∀ line ∈ rest, ∀ (name' : String) (behind : List Char),
      line = name'.toList ++ '=' :: behind → validateGucName name' = .ok () → ¬ name < name'
  value_extension : ∀ name value first rest, (name, value) ∈ t.postgresConfig.settings →
    splitLines value = first :: rest → ∀ more behind, rest = more ++ behind →
      AreSettings behind →
      ¬ AreExtensions (t.extensionLines ++ (name.toList ++ '=' :: first) :: more)
  value_hashes : ∀ name value first rest, (name, value) ∈ t.postgresConfig.settings →
    splitLines value = first :: rest → ∀ front archive wasm lines behind,
      rest = front ++ archive :: wasm :: (lines ++ behind) →
      IsSha256 archive → IsSha256 wasm → AreExtensions lines → ¬ AreSettings behind

end TemplateInput

/-! ## Names and hashes -/

lemma validateGucParts_ok {name : String} {parts : List (List Char)}
    (h : validateGucParts name parts = .ok ()) :
    ∀ part ∈ parts, ∀ c ∈ part, c = '_' ∨ c.isAlphanum = true := by
  induction parts with
  | nil => simp
  | cons part parts ih =>
    rcases part with _ | ⟨first, chars⟩
    · cases h
    · unfold validateGucParts at h
      split_ifs at h with hfirst hchars
      intro part hpart c hc
      rcases List.mem_cons.mp hpart with hpart | hpart
      · rw [hpart] at hc
        rcases List.mem_cons.mp hc with hc | hc
        · rw [hc]
          rcases hfirst with hfirst | hfirst
          · exact Or.inl hfirst
          · exact Or.inr (by simp [Char.isAlphanum, hfirst])
        · rw [Bool.not_eq_true, List.any_eq_false] at hchars
          have hchar := hchars c hc
          by_cases hunder : c = '_'
          · exact Or.inl hunder
          · exact Or.inr (by simpa [hunder] using hchar)
      · exact ih h part hpart c hc

/-- A valid name has no separator of any kind. -/
lemma gucName_chars {name : String} (h : validateGucName name = .ok ()) :
    ∀ c ∈ name.toList, c ≠ '=' ∧ c ≠ ':' ∧ c ≠ '\n' ∧ c ≠ '\x00' := by
  unfold validateGucName at h
  split_ifs at h
  intro c hc
  by_cases hdot : c = '.'
  · rw [hdot]
    decide
  · obtain ⟨part, hpart, hmem⟩ := mem_splitOn_of_mem hc hdot
    rcases validateGucParts_ok h part hpart c hmem with hunder | halnum
    · rw [hunder]
      decide
    · refine ⟨?_, ?_, ?_, ?_⟩ <;> intro heq <;> rw [heq] at halnum <;> revert halnum <;> decide

lemma sha256_chars {hash : List Char} (h : IsSha256 hash) :
    ∀ c ∈ hash, c ≠ '=' ∧ c ≠ ':' ∧ c ≠ '\n' ∧ c ≠ '\x00' := by
  intro c hc
  have hhex := h.2 c hc
  refine ⟨?_, ?_, ?_, ?_⟩ <;> intro heq <;> rw [heq] at hhex <;> revert hhex <;> decide

lemma validateSettings_iff (settings : List (String × String)) :
    validateSettings settings = .ok () ↔
      ∀ setting ∈ settings, validateGucName setting.1 = .ok () ∧ '\x00' ∉ setting.2.toList := by
  induction settings with
  | nil => simp [validateSettings]
  | cons setting settings ih =>
    obtain ⟨name, value⟩ := setting
    rw [List.forall_mem_cons, ← ih]
    show (do
      validateGucName name
      if '\x00' ∈ value.toList then .error _ else validateSettings settings) = _ ↔ _
    rcases validateGucName name with e | ⟨⟩
    · constructor
      · intro h
        cases h
      · intro h
        cases h.1.1
    · show (if '\x00' ∈ value.toList then _ else validateSettings settings) = _ ↔ _
      by_cases hnul : '\x00' ∈ value.toList
      · rw [if_pos hnul]
        constructor
        · intro h
          cases h
        · exact fun h => absurd hnul h.1.2
      · rw [if_neg hnul]
        exact ⟨fun h => ⟨⟨rfl, hnul⟩, h⟩, fun h => h.2⟩

/-- A hash is neither the line of an extension nor the start of a setting. -/
lemma IsSha256.not_extension {hash name rest : List Char} (h : IsSha256 hash) :
    hash ≠ name ++ ':' :: rest := by
  intro heq
  have hmem : ':' ∈ hash := by
    rw [heq]
    simp
  exact (sha256_chars h ':' hmem).2.1 rfl

lemma IsSha256.not_setting {hash : List Char} (h : IsSha256 hash) : ¬ StartsSetting hash := by
  rintro ⟨name, rest, heq, -⟩
  have hmem : '=' ∈ hash := by
    rw [heq]
    simp
  exact (sha256_chars h '=' hmem).1 rfl

/-- Whether the line of an extension starts a setting is a matter of its name. -/
lemma startsSetting_extension (name hash : List Char) :
    StartsSetting (name ++ ':' :: hash) ↔ StartsSetting name := by
  constructor
  · rintro ⟨setting, rest, heq, hvalid⟩
    rcases List.append_eq_append_iff.mp heq with ⟨more, hsetting, hrest⟩ | ⟨more, hname, hrest⟩
    · exfalso
      rcases more with _ | ⟨c, more⟩
      · exact absurd (List.cons.inj hrest).1 (by decide)
      · have hcolon : ':' ∈ setting.toList := by
          rw [hsetting, (List.cons.inj hrest).1]
          simp
        exact (gucName_chars hvalid _ hcolon).2.1 rfl
    · rcases more with _ | ⟨c, more⟩
      · exact absurd (List.cons.inj hrest).1 (by decide)
      · rw [← (List.cons.inj hrest).1] at hname
        exact ⟨setting, more, hname, hvalid⟩
  · rintro ⟨setting, rest, heq, hvalid⟩
    exact ⟨setting, rest ++ ':' :: hash, by rw [heq, List.append_assoc]; rfl, hvalid⟩

/-! ## The lines of an input -/

lemma splitLines_free (text : String) : ∀ line ∈ splitLines text, '\n' ∉ line :=
  fun _ h => not_mem_of_mem_splitOn h

lemma splitLines_injective : Function.Injective splitLines := by
  intro s t h
  exact String.toList_inj.mp (splitOn_injective h)

lemma exists_splitLines (text : String) : ∃ first rest, splitLines text = first :: rest :=
  List.exists_cons_of_ne_nil (List.splitOn_ne_nil _ _)

lemma toList_setting (name value : String) :
    (name ++ "=" ++ value).toList = (name.toList ++ ['=']) ++ value.toList := by
  simp

/-- The first line of a setting has its name. -/
lemma settingLines_eq {name value : String} (hname : validateGucName name = .ok ())
    {first : List Char} {rest : List (List Char)} (hvalue : splitLines value = first :: rest) :
    settingLines (name, value) = (name.toList ++ '=' :: first) :: rest := by
  have hfront : '\n' ∉ name.toList ++ ['='] := by
    rw [List.mem_append, not_or]
    exact ⟨fun h => (gucName_chars hname '\n' h).2.2.1 rfl, by decide⟩
  unfold settingLines
  show (name ++ "=" ++ value).toList.splitOn '\n' = _
  rw [toList_setting, splitOn_append_of_not_mem hfront hvalue, List.append_assoc]
  rfl

namespace TemplateInput

variable {t t' : TemplateInput}

lemma mapM_ok {f : String → Except String String} {g : String → String} {names : List String}
    (h : ∀ name ∈ names, f name = .ok (g name)) : names.mapM f = .ok (names.map g) := by
  induction names with
  | nil => rfl
  | cons name names ih =>
    rw [List.mapM_cons, h name List.mem_cons_self,
      ih fun n hn => h n (List.mem_cons_of_mem name hn)]
    rfl

lemma expected_sha {name hash : String}
    (h : expectedExtensionArchiveSha256 t.assets name = .ok hash) : t.sha name = hash := by
  unfold expectedExtensionArchiveSha256 at h
  unfold sha
  rcases hfind : t.assets.find? fun extension => extension.1 == name with _ | extension
  · rw [hfind] at h
    cases h
  · rw [hfind] at h ⊢
    exact Except.ok.inj h

lemma Accepted.sha (ht : t.Accepted) {name : String} (hname : name ∈ t.extensions) :
    IsExtensionName name.toList ∧ IsSha256 (t.sha name).toList ∧
      expectedExtensionArchiveSha256 t.assets name = .ok (t.sha name) := by
  obtain ⟨hgood, hash, hfound, hhash⟩ := ht.extensions name hname
  rw [expected_sha hfound]
  exact ⟨hgood, hhash, hfound⟩

lemma Accepted.archiveSha256s (ht : t.Accepted) :
    t.archiveSha256s = .ok (t.extensions.map t.sha) :=
  mapM_ok fun _ hname => (ht.sha hname).2.2

lemma Accepted.setting (ht : t.Accepted) {name value : String}
    (h : (name, value) ∈ t.postgresConfig.settings) :
    validateGucName name = .ok () ∧ '\x00' ∉ value.toList :=
  (validateSettings_iff _).mp ht.config (name, value) h

def settingsLines (t : TemplateInput) : List (List Char) :=
  t.postgresConfig.settings.flatMap settingLines

/-- All lines behind the first one. -/
def lines (t : TemplateInput) : List (List Char) :=
  splitLines t.base.postgresVersion ++ t.base.archiveSha256.toList :: t.base.wasmSha256.toList ::
    (t.extensionLines ++ t.settingsLines)

lemma Accepted.areExtensions (ht : t.Accepted) : AreExtensions t.extensionLines :=
  ⟨t.sha, t.extensions, fun _ hname => ⟨(ht.sha hname).1, (ht.sha hname).2.1⟩, rfl⟩

lemma Accepted.areSettings (ht : t.Accepted) : AreSettings t.settingsLines := by
  constructor
  · intro line hline
    unfold settingsLines at hline
    rcases hsettings : t.postgresConfig.settings with _ | ⟨⟨name, value⟩, rest⟩
    · rw [hsettings] at hline
      simp at hline
    · obtain ⟨hname, -⟩ := ht.setting (by rw [hsettings]; exact List.mem_cons_self)
      obtain ⟨first, behind, hvalue⟩ := exists_splitLines value
      rw [hsettings, List.flatMap_cons, settingLines_eq hname hvalue] at hline
      exact ⟨name, first, (Option.some.inj hline).symm, hname⟩
  · intro line hline hnul
    obtain ⟨⟨name, value⟩, hsetting, hline⟩ := List.mem_flatMap.mp hline
    obtain ⟨hname, hvalue⟩ := ht.setting hsetting
    have hmem := mem_of_mem_splitOn hline hnul
    rw [toList_setting] at hmem
    rcases List.mem_append.mp hmem with hmem | hmem
    · rcases List.mem_append.mp hmem with hmem | hmem
      · exact (gucName_chars hname _ hmem).2.2.2 rfl
      · exact absurd hmem (by decide)
    · exact hvalue hmem

lemma flatMap_entries (settings : List (String × String)) :
    (settings.flatMap fun (name, value) => name.toList ++ ['='] ++ value.toList ++ ['\n'])
      = unlines '\n' (settings.flatMap settingLines) := by
  induction settings with
  | nil => rfl
  | cons setting settings ih =>
    obtain ⟨name, value⟩ := setting
    rw [List.flatMap_cons, List.flatMap_cons, unlines_append, ← ih]
    congr 1
    show _ = unlines '\n' ((name ++ "=" ++ value).toList.splitOn '\n')
    rw [unlines_splitOn, toList_setting]

lemma flatMap_extensions (sha : String → String) (names : List String) :
    ((names.zip (names.map sha)).flatMap fun (name, hash) =>
        name.toList ++ [':'] ++ hash.toList ++ ['\n'])
      = unlines '\n' (names.map fun name => name.toList ++ ':' :: (sha name).toList) := by
  induction names with
  | nil => rfl
  | cons name names ih =>
    rw [List.map_cons, List.map_cons, List.zip_cons_cons, List.flatMap_cons, ih, unlines_cons]
    simp

/-- The lines are what is hashed. -/
lemma hasherInput_eq (t : TemplateInput) :
    hasherInput t.base t.extensions (t.extensions.map t.sha) t.postgresConfig.stableEntries
      = "pglite-oxide-extension-pgdata-template-v4-startup-config\n".toList
        ++ unlines '\n' t.lines := by
  unfold hasherInput lines
  rw [unlines_append, unlines_cons, unlines_cons, unlines_append]
  show _ = _ ++ (unlines '\n' (t.base.postgresVersion.toList.splitOn '\n') ++ _)
  rw [unlines_splitOn]
  have hextensions := flatMap_extensions t.sha t.extensions
  have hentries := flatMap_entries t.postgresConfig.settings
  unfold PostgresConfig.stableEntries extensionLines settingsLines
  rw [hextensions, hentries]
  simp only [List.append_assoc, List.cons_append, List.nil_append]

lemma Accepted.lines_free (ht : t.Accepted) : ∀ line ∈ t.lines, '\n' ∉ line := by
  intro line hline
  unfold lines at hline
  rw [List.mem_append, List.mem_cons, List.mem_cons, List.mem_append] at hline
  rcases hline with hline | hline | hline | hline | hline
  · exact splitLines_free _ line hline
  · rw [hline]
    exact fun h => (sha256_chars ht.archive _ h).2.2.1 rfl
  · rw [hline]
    exact fun h => (sha256_chars ht.wasm _ h).2.2.1 rfl
  · obtain ⟨name, hname, heq⟩ := List.mem_map.mp hline
    obtain ⟨hgood, hhash, -⟩ := ht.sha hname
    rw [← heq, List.mem_append, List.mem_cons, not_or, not_or]
    exact ⟨hgood.2, by decide, fun h => (sha256_chars hhash _ h).2.2.1 rfl⟩
  · obtain ⟨setting, -, hmem⟩ := List.mem_flatMap.mp hline
    exact splitLines_free _ line hmem

lemma Accepted.hashed (ht : t.Accepted) :
    t.hashed = .ok (utf8 (String.ofList
      ("pglite-oxide-extension-pgdata-template-v4-startup-config\n".toList
        ++ unlines '\n' t.lines))) := by
  unfold TemplateInput.hashed
  rw [ht.archiveSha256s, ← hasherInput_eq]
  rfl

/-- The bytes are the same when the lines are. -/
lemma hashed_eq_iff (ht : t.Accepted) (ht' : t'.Accepted) :
    t'.hashed = t.hashed ↔ t'.lines = t.lines := by
  rw [ht.hashed, ht'.hashed]
  constructor
  · intro h
    have htext := String.ofList_injective (utf8_injective (Except.ok.inj h))
    exact unlines_inj ht'.lines_free ht.lines_free (List.append_cancel_left htext)
  · intro h
    rw [h]

end TemplateInput

end PgliteOxide.Pglite
