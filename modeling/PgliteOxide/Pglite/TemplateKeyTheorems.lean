import PgliteOxide.Pglite.TemplateKey

/-!
# When a template key is unique

The lines that are hashed are read back as an input. An input is the only one with its lines
exactly when no part of it can be read as another part.
-/

namespace PgliteOxide.Pglite

open Lib

namespace TemplateInput

variable {t t' : TemplateInput}

/-! ## Reading the lines -/

lemma extension_not_sha : ∀ line ∈ t.extensionLines, ¬ IsSha256 line := by
  intro line hline hsha
  obtain ⟨name, -, heq⟩ := List.mem_map.mp hline
  exact hsha.not_extension heq.symm

/-- Behind the hashes stands no further hash. -/
lemma Accepted.head_not_sha (ht : t.Accepted) {line : List Char} {rest : List (List Char)}
    (h : t.extensionLines ++ t.settingsLines = line :: rest) : ¬ IsSha256 line := by
  intro hsha
  rcases hextensions : t.extensionLines with _ | ⟨first, behind⟩
  · rw [hextensions, List.nil_append] at h
    exact hsha.not_setting (ht.areSettings.1 line (by rw [h]; rfl))
  · rw [hextensions] at h
    have hfirst := (List.cons.inj h).1
    exact extension_not_sha line (by rw [hextensions, ← hfirst]; exact List.mem_cons_self) hsha

/-- Hashes further behind stand in the settings, and not at their front. -/
lemma Accepted.hashes_in_settings (ht : t.Accepted) {front rest : List (List Char)}
    {hash : List Char} (h : t.extensionLines ++ t.settingsLines = front ++ hash :: rest)
    (hsha : IsSha256 hash) :
    ∃ setting behind, front = t.extensionLines ++ setting :: behind ∧
      t.settingsLines = setting :: (behind ++ hash :: rest) := by
  rcases List.append_eq_append_iff.mp h with ⟨more, hfront, hsettings⟩ | ⟨more, hextensions, hrest⟩
  · rcases more with _ | ⟨setting, behind⟩
    · exact absurd hsha.not_setting (not_not.mpr (ht.areSettings.1 hash (by rw [hsettings]; rfl)))
    · exact ⟨setting, behind, hfront, hsettings⟩
  · rcases more with _ | ⟨line, more⟩
    · exact absurd hsha.not_setting
        (not_not.mpr (ht.areSettings.1 hash (by rw [← List.nil_append t.settingsLines, ← hrest]; rfl)))
    · have hline := (List.cons.inj hrest).1
      exact absurd hsha (extension_not_sha hash (by rw [hextensions, hline]; simp))

/-- The lines of a single setting are its name with the lines of its value. -/
lemma Accepted.single_setting (ht : t.Accepted) (hone : t.postgresConfig.settings.length ≤ 1)
    {line : List Char} {rest : List (List Char)} (h : t.settingsLines = line :: rest) :
    ∃ name value first, t.postgresConfig.settings = [(name, value)] ∧
      splitLines value = first :: rest ∧ line = name.toList ++ '=' :: first := by
  unfold settingsLines at h
  rcases hsettings : t.postgresConfig.settings with _ | ⟨⟨name, value⟩, more⟩
  · rw [hsettings] at h
    cases h
  · rw [hsettings] at hone h
    have hmore : more = [] := by
      rw [← List.length_eq_zero_iff]
      rw [List.length_cons] at hone
      omega
    obtain ⟨hname, -⟩ := ht.setting (by rw [hsettings]; exact List.mem_cons_self)
    obtain ⟨first, behind, hvalue⟩ := exists_splitLines value
    rw [hmore, List.flatMap_cons, List.flatMap_nil, List.append_nil,
      settingLines_eq hname hvalue] at h
    obtain ⟨hline, hrest⟩ := List.cons.inj h
    rw [hrest] at hvalue
    rw [hmore]
    exact ⟨name, value, first, rfl, hvalue, hline.symm⟩

/-- Hashes behind those of the input are read in its value only. -/
lemma Unambiguous.no_later (u : t.Unambiguous) (ht : t.Accepted) (ht' : t'.Accepted)
    {front : List (List Char)} {archive wasm : List Char} (harchive : IsSha256 archive)
    (hwasm : IsSha256 wasm) :
    t.extensionLines ++ t.settingsLines
      ≠ front ++ archive :: wasm :: (t'.extensionLines ++ t'.settingsLines) := by
  intro h
  obtain ⟨setting, behind, -, hsettings⟩ := ht.hashes_in_settings h harchive
  obtain ⟨name, value, first, hsingle, hvalue, -⟩ := ht.single_setting u.one_setting hsettings
  exact u.value_hashes name value first _ (by rw [hsingle]; exact List.mem_cons_self) hvalue behind
    archive wasm t'.extensionLines t'.settingsLines rfl harchive hwasm ht'.areExtensions
    ht'.areSettings

/-- Hashes before those of the input are read in its version only. -/
lemma Unambiguous.no_earlier (u : t.Unambiguous) (ht : t.Accepted) (ht' : t'.Accepted)
    {more : List (List Char)} {archive wasm : List Char} (harchive : IsSha256 archive)
    (hwasm : IsSha256 wasm)
    (hversion : splitLines t.base.postgresVersion
      = splitLines t'.base.postgresVersion ++ archive :: wasm :: more) :
    t'.extensionLines ++ t'.settingsLines
      ≠ more ++ t.base.archiveSha256.toList :: t.base.wasmSha256.toList ::
        (t.extensionLines ++ t.settingsLines) := by
  intro h
  obtain ⟨setting, behind, hmore, hsettings⟩ := ht'.hashes_in_settings h ht.archive
  have hnul := ht'.areSettings.2
  have hstart := ht'.areSettings.1
  rw [hsettings] at hnul hstart
  have hsetting : AreSettings (setting :: behind) := by
    refine ⟨fun line hline => hstart line hline, fun line hline => hnul line ?_⟩
    rcases List.mem_cons.mp hline with hline | hline
    · rw [hline]
      exact List.mem_cons_self
    · exact List.mem_cons_of_mem _ (List.mem_append_left _ hline)
  obtain ⟨name, hname, hbad⟩ := u.version (splitLines t'.base.postgresVersion) archive wasm
    t'.extensionLines setting behind (by rw [hversion, hmore]) (List.splitOn_ne_nil _ _) harchive
    hwasm ht'.areExtensions hsetting
  refine hnul (name.toList ++ ':' :: (t.sha name).toList) ?_ (List.mem_append_left _ hbad)
  refine List.mem_cons_of_mem _ (List.mem_append_right _ ?_)
  refine List.mem_cons_of_mem _ (List.mem_cons_of_mem _ (List.mem_append_left _ ?_))
  exact List.mem_map.mpr ⟨name, hname, rfl⟩

/-- An unambiguous input is read with its own hashes. -/
lemma Unambiguous.frame (u : t.Unambiguous) (ht : t.Accepted) (ht' : t'.Accepted)
    (h : t'.lines = t.lines) :
    splitLines t'.base.postgresVersion = splitLines t.base.postgresVersion ∧
      t'.base.archiveSha256.toList = t.base.archiveSha256.toList ∧
      t'.base.wasmSha256.toList = t.base.wasmSha256.toList ∧
      t'.extensionLines ++ t'.settingsLines = t.extensionLines ++ t.settingsLines := by
  unfold lines at h
  rcases List.append_eq_append_iff.mp h with ⟨more, hversion, hrest⟩ | ⟨more, hversion, hrest⟩
  · -- the version of `t` goes on
    rcases more with _ | ⟨archive, _ | ⟨wasm, more⟩⟩
    · rw [List.append_nil] at hversion
      obtain ⟨harchive, hrest⟩ := List.cons.inj hrest
      obtain ⟨hwasm, hrest⟩ := List.cons.inj hrest
      exact ⟨hversion.symm, harchive, hwasm, hrest⟩
    · obtain ⟨-, hrest⟩ := List.cons.inj hrest
      obtain ⟨-, hrest⟩ := List.cons.inj hrest
      exact absurd ht.wasm (ht'.head_not_sha hrest)
    · obtain ⟨harchive, hrest⟩ := List.cons.inj hrest
      obtain ⟨hwasm, hrest⟩ := List.cons.inj hrest
      rw [← harchive, ← hwasm] at hversion
      exact absurd hrest (u.no_earlier ht ht' ht'.archive ht'.wasm hversion)
  · -- the version of `t'` goes on
    rcases more with _ | ⟨archive, _ | ⟨wasm, more⟩⟩
    · rw [List.append_nil] at hversion
      obtain ⟨harchive, hrest⟩ := List.cons.inj hrest
      obtain ⟨hwasm, hrest⟩ := List.cons.inj hrest
      exact ⟨hversion, harchive.symm, hwasm.symm, hrest.symm⟩
    · obtain ⟨-, hrest⟩ := List.cons.inj hrest
      obtain ⟨-, hrest⟩ := List.cons.inj hrest
      exact absurd ht'.wasm (ht.head_not_sha hrest)
    · obtain ⟨-, hrest⟩ := List.cons.inj hrest
      obtain ⟨-, hrest⟩ := List.cons.inj hrest
      exact absurd hrest (u.no_later ht ht' ht'.archive ht'.wasm)

/-- It is read with its own extensions. -/
lemma Unambiguous.extensionLines_eq (u : t.Unambiguous) (ht : t.Accepted) (ht' : t'.Accepted)
    (h : t'.extensionLines ++ t'.settingsLines = t.extensionLines ++ t.settingsLines) :
    t'.extensionLines = t.extensionLines ∧ t'.settingsLines = t.settingsLines := by
  rcases List.append_eq_append_iff.mp h with ⟨more, hextensions, hsettings⟩ |
    ⟨more, hextensions, hsettings⟩
  · -- extensions of `t` are settings of `t'`
    rcases more with _ | ⟨line, more⟩
    · rw [List.append_nil] at hextensions
      exact ⟨hextensions.symm, hsettings⟩
    · exfalso
      obtain ⟨front, tail, hnames, hfront, hmore⟩ := List.map_eq_append_iff.mp hextensions
      obtain ⟨name, behind, htail, hline, hbehind⟩ := List.map_eq_cons_iff.mp hmore
      have hareSettings := ht'.areSettings
      rw [hsettings] at hareSettings
      have hstarts : StartsSetting name.toList := by
        rw [← startsSetting_extension name.toList (t.sha name).toList, hline]
        exact hareSettings.1 line rfl
      obtain ⟨name', hmem, hnul⟩ := u.names front name behind (by rw [hnames, htail]) hstarts
      have hmem' : name'.toList ++ ':' :: (t.sha name').toList ∈ line :: more := by
        rw [← hmore, htail]
        exact List.mem_map.mpr ⟨name', hmem, rfl⟩
      exact hareSettings.2 _ (List.mem_append_left _ hmem') (List.mem_append_left _ hnul)
  · -- settings of `t` are extensions of `t'`
    rcases more with _ | ⟨line, more⟩
    · rw [List.append_nil] at hextensions
      exact ⟨hextensions, hsettings.symm⟩
    · exfalso
      obtain ⟨name, value, first, hsingle, hvalue, hline⟩ :=
        ht.single_setting u.one_setting hsettings
      refine u.value_extension name value first _ (by rw [hsingle]; exact List.mem_cons_self)
        hvalue more t'.settingsLines rfl ht'.areSettings ?_
      rw [← hline, ← hextensions]
      exact ht'.areExtensions

/-- The lines of the extensions determine names and hashes. -/
lemma extensions_eq (ht : t.Accepted) (ht' : t'.Accepted)
    (h : t'.extensionLines = t.extensionLines) :
    t'.extensions = t.extensions ∧ t'.extensions.map t'.sha = t.extensions.map t.sha := by
  have hall : ∀ (names' names : List String), (∀ name ∈ names', ':' ∉ name.toList) →
      (∀ name ∈ names, ':' ∉ name.toList) →
      (names'.map fun name => name.toList ++ ':' :: (t'.sha name).toList)
        = (names.map fun name => name.toList ++ ':' :: (t.sha name).toList) →
      names' = names ∧ names'.map t'.sha = names.map t.sha := by
    intro names'
    induction names' with
    | nil =>
      intro names _ _ heq
      rw [List.map_nil] at heq
      rw [List.map_eq_nil_iff.mp heq.symm]
      exact ⟨rfl, rfl⟩
    | cons name' names' ih =>
      intro names hcolon' hcolon heq
      rcases names with _ | ⟨name, names⟩
      · cases heq
      · rw [List.map_cons, List.map_cons] at heq
        obtain ⟨hline, hrest⟩ := List.cons.inj heq
        obtain ⟨hname, hhash⟩ := append_separator_inj (hcolon' name' List.mem_cons_self)
          (hcolon name List.mem_cons_self) hline
        obtain ⟨hnames, hhashes⟩ := ih names
          (fun n hn => hcolon' n (List.mem_cons_of_mem name' hn))
          (fun n hn => hcolon n (List.mem_cons_of_mem name hn)) hrest
        rw [List.map_cons, List.map_cons, hhashes, String.toList_inj.mp hname,
          ← String.toList_inj.mp hhash, hnames, String.toList_inj.mp hname]
        exact ⟨rfl, rfl⟩
  exact hall t'.extensions t.extensions (fun _ hn => (ht'.sha hn).1.1)
    (fun _ hn => (ht.sha hn).1.1) h

/-- A single setting whose value starts no other one is read back. -/
lemma Unambiguous.settings_eq (u : t.Unambiguous) (ht : t.Accepted) (ht' : t'.Accepted)
    (h : t'.settingsLines = t.settingsLines) :
    t'.postgresConfig.settings = t.postgresConfig.settings := by
  rcases hlines : t.settingsLines with _ | ⟨line, rest⟩
  · have hnil : ∀ {i : TemplateInput}, i.settingsLines = [] → i.postgresConfig.settings = [] := by
      intro i hi
      rw [List.eq_nil_iff_forall_not_mem]
      intro setting hsetting
      have hempty := List.flatMap_eq_nil_iff.mp hi setting hsetting
      exact List.splitOn_ne_nil _ _ hempty
    rw [hnil hlines, hnil (h.trans hlines)]
  · obtain ⟨name, value, first, hsingle, hvalue, hline⟩ :=
      ht.single_setting u.one_setting hlines
    rw [hlines] at h
    unfold settingsLines at h
    rcases hsettings : t'.postgresConfig.settings with _ | ⟨⟨name', value'⟩, more⟩
    · rw [hsettings] at h
      cases h
    · have hmem' : (name', value') ∈ t'.postgresConfig.settings := by
        rw [hsettings]
        exact List.mem_cons_self
      obtain ⟨hname', -⟩ := ht'.setting hmem'
      obtain ⟨first', rest', hvalue'⟩ := exists_splitLines value'
      rw [hsettings, List.flatMap_cons, settingLines_eq hname' hvalue', List.cons_append] at h
      obtain ⟨hhead, htail⟩ := List.cons.inj h
      have hmem : (name, value) ∈ t.postgresConfig.settings := by
        rw [hsingle]
        exact List.mem_cons_self
      have hname := (ht.setting hmem).1
      rw [hline] at hhead
      obtain ⟨hsame, hfirst⟩ := append_separator_inj
        (fun hc => (gucName_chars hname' _ hc).1 rfl)
        (fun hc => (gucName_chars hname _ hc).1 rfl) hhead
      have hname_eq := String.toList_inj.mp hsame
      rcases more with _ | ⟨⟨name₂, value₂⟩, more⟩
      · rw [List.flatMap_nil, List.append_nil] at htail
        have hvalues : splitLines value' = splitLines value := by
          rw [hvalue', hvalue, hfirst, htail]
        rw [hsingle, hname_eq, splitLines_injective hvalues]
      · exfalso
        have hmem₂ : (name₂, value₂) ∈ t'.postgresConfig.settings := by
          rw [hsettings]
          exact List.mem_cons_of_mem _ List.mem_cons_self
        have hname₂ := (ht'.setting hmem₂).1
        obtain ⟨first₂, rest₂, hvalue₂⟩ := exists_splitLines value₂
        have hsorted := t'.postgresConfig.sorted
        rw [hsettings, List.map_cons, List.map_cons, List.pairwise_cons] at hsorted
        have hlt := hsorted.1 name₂ List.mem_cons_self
        dsimp only at hlt
        rw [hname_eq] at hlt
        refine u.value_start name value first rest hmem hvalue
          (name₂.toList ++ '=' :: first₂) ?_ name₂ first₂ rfl hname₂ hlt
        rw [← htail, List.flatMap_cons, settingLines_eq hname₂ hvalue₂]
        simp

/-- An unambiguous input is the only one with its lines. -/
lemma Unambiguous.same (u : t.Unambiguous) (ht : t.Accepted) (ht' : t'.Accepted)
    (h : t'.lines = t.lines) : t.Same t' := by
  obtain ⟨hversion, harchive, hwasm, hrest⟩ := u.frame ht ht' h
  obtain ⟨hextensionLines, hsettingsLines⟩ := u.extensionLines_eq ht ht' hrest
  obtain ⟨hextensions, hhashes⟩ := extensions_eq ht ht' hextensionLines
  exact {
    postgresVersion := splitLines_injective hversion
    archiveSha256 := String.toList_inj.mp harchive
    wasmSha256 := String.toList_inj.mp hwasm
    extensions := hextensions
    archiveSha256s := by rw [ht.archiveSha256s, ht'.archiveSha256s, hhashes]
    settings := u.settings_eq ht ht' hsettingsLines }

/-! ## Other readings -/

/-- Lines without NUL are those of a value. -/
lemma exists_value {first : List Char} {rest : List (List Char)}
    (hfree : ∀ line ∈ first :: rest, '\n' ∉ line) (hnul : ∀ line ∈ first :: rest, '\x00' ∉ line) :
    ∃ value : String, splitLines value = first :: rest ∧ '\x00' ∉ value.toList := by
  obtain ⟨text, hlines, hmem⟩ := exists_splitOn_eq (List.cons_ne_nil first rest) hfree
  refine ⟨String.ofList text, ?_, ?_⟩
  · unfold splitLines
    rw [String.toList_ofList, hlines]
  · rw [String.toList_ofList]
    intro h
    rcases hmem _ h with heq | ⟨line, hline, hc⟩
    · exact absurd heq (by decide)
    · exact hnul line hline hc

/-- Lines that may be settings are. -/
lemma exists_config {lines : List (List Char)} (hsettings : AreSettings lines)
    (hfree : ∀ line ∈ lines, '\n' ∉ line) :
    ∃ config : PostgresConfig, config.validate = .ok () ∧
      config.settings.flatMap settingLines = lines := by
  rcases lines with _ | ⟨line, rest⟩
  · exact ⟨⟨[], List.Pairwise.nil⟩, rfl, rfl⟩
  · obtain ⟨name, first, hline, hname⟩ := hsettings.1 line rfl
    have hpart : ∀ c ∈ first, c ∈ line := by
      intro c hc
      rw [hline]
      simp [hc]
    have hall : ∀ c : Char, (∀ l ∈ line :: rest, c ∉ l) → ∀ l ∈ first :: rest, c ∉ l := by
      intro c hlines l hl
      rcases List.mem_cons.mp hl with hl | hl
      · rw [hl]
        exact fun hc => hlines line List.mem_cons_self (hpart c hc)
      · exact hlines l (List.mem_cons_of_mem line hl)
    obtain ⟨value, hvalue, hnul⟩ := exists_value (hall _ hfree) (hall _ hsettings.2)
    refine ⟨⟨[(name, value)], List.pairwise_singleton _ _⟩, ?_, ?_⟩
    · rw [PostgresConfig.validate, validateSettings_iff]
      intro setting hsetting
      rw [List.mem_singleton.mp hsetting]
      exact ⟨hname, hnul⟩
    · rw [List.flatMap_cons, List.flatMap_nil, List.append_nil, settingLines_eq hname hvalue,
        hline]

lemma find_asset {sha : String → String} {names : List String} {name : String}
    (h : name ∈ names) :
    ((names.map fun n => (n, sha n)).find? fun extension => extension.1 == name)
      = some (name, sha name) := by
  induction names with
  | nil => cases h
  | cons n names ih =>
    by_cases hn : n = name
    · rw [List.map_cons, List.find?_cons_of_pos (by simpa using hn), hn]
    · rw [List.map_cons, List.find?_cons_of_neg (by simpa using hn)]
      exact ih ((List.mem_cons.mp h).resolve_left fun heq => hn heq.symm)

/-- Lines that look like an input are those of one. -/
lemma exists_input {front extensions settings : List (List Char)} {archive wasm : List Char}
    (hfront : front ≠ []) (hfree : ∀ line ∈ front, '\n' ∉ line) (harchive : IsSha256 archive)
    (hwasm : IsSha256 wasm) (hextensions : AreExtensions extensions)
    (hsettings : AreSettings settings) (hfree' : ∀ line ∈ settings, '\n' ∉ line) :
    ∃ t' : TemplateInput, t'.Accepted ∧ splitLines t'.base.postgresVersion = front ∧
      t'.extensions.length = extensions.length ∧
      t'.lines = front ++ archive :: wasm :: (extensions ++ settings) := by
  obtain ⟨version, hversion, -⟩ := exists_splitOn_eq hfront hfree
  obtain ⟨sha, names, hnames, hlines⟩ := hextensions
  obtain ⟨config, hvalid, hconfig⟩ := exists_config hsettings hfree'
  have hsplit : splitLines (String.ofList version) = front := by
    unfold splitLines
    rw [String.toList_ofList, hversion]
  have hfound : ∀ name ∈ names, (names.map fun n => (n, sha n)).find?
      (fun extension => extension.1 == name) = some (name, sha name) := fun _ h => find_asset h
  refine ⟨⟨⟨String.ofList version, String.ofList wasm, String.ofList archive, false⟩,
    names.map fun n => (n, sha n), names, config⟩, ?_, hsplit, ?_, ?_⟩
  · refine ⟨?_, ?_, ?_, hvalid⟩
    · dsimp only
      rwa [String.toList_ofList]
    · dsimp only
      rwa [String.toList_ofList]
    · intro name hname
      refine ⟨(hnames name hname).1, sha name, ?_, (hnames name hname).2⟩
      unfold expectedExtensionArchiveSha256
      dsimp only
      rw [hfound name hname]
  · rw [hlines, List.length_map]
  · unfold lines extensionLines settingsLines TemplateInput.sha
    dsimp only
    rw [hsplit, hconfig, String.toList_ofList, String.toList_ofList, hlines]
    congr 4
    apply List.map_congr_left
    intro name hname
    rw [hfound name hname]
    rfl

/-- No other accepted input has the same bytes. -/
def Unique (t : TemplateInput) : Prop :=
  ∀ t' : TemplateInput, t'.Accepted → t'.hashed = t.hashed → t.Same t'

/-- Lines of a unique input are read with its version and its number of extensions. -/
lemma Unique.frame (hunique : t.Unique) (ht : t.Accepted) (front : List (List Char))
    {extensions settings : List (List Char)} {archive wasm : List Char}
    (h : t.lines = front ++ archive :: wasm :: (extensions ++ settings)) (hfront : front ≠ [])
    (harchive : IsSha256 archive) (hwasm : IsSha256 wasm) (hextensions : AreExtensions extensions)
    (hsettings : AreSettings settings) :
    splitLines t.base.postgresVersion = front ∧ t.extensions.length = extensions.length := by
  have hfree := ht.lines_free
  rw [h] at hfree
  obtain ⟨t', ht', hversion, hlength, hlines⟩ := exists_input hfront
    (fun line hline => hfree line (List.mem_append_left _ hline)) harchive hwasm hextensions
    hsettings (fun line hline => hfree line (by simp [hline]))
  have hsame := hunique t' ht' ((hashed_eq_iff ht ht').mpr (hlines.trans h.symm))
  rw [← hsame.postgresVersion, ← hsame.extensions]
  exact ⟨hversion, hlength⟩

/-- A unique input has the only configuration with its lines. -/
lemma Unique.config (hunique : t.Unique) (ht : t.Accepted) (config : PostgresConfig)
    (hvalid : config.validate = .ok ())
    (h : config.settings.flatMap settingLines = t.settingsLines) :
    config.settings = t.postgresConfig.settings := by
  have ht' : ({ t with postgresConfig := config } : TemplateInput).Accepted :=
    ⟨ht.archive, ht.wasm, ht.extensions, hvalid⟩
  refine (hunique _ ht' ((hashed_eq_iff ht ht').mpr ?_)).settings
  show _ ++ _ :: _ :: (_ ++ config.settings.flatMap settingLines) = _
  rw [h]
  rfl

/-- Two settings are one as well: the second is in the value of the first. -/
lemma Unique.one_setting (hunique : t.Unique) (ht : t.Accepted) :
    t.postgresConfig.settings.length ≤ 1 := by
  by_contra hlong
  rcases hsettings : t.postgresConfig.settings with _ | ⟨⟨name, value⟩, _ | ⟨⟨name', value'⟩, more⟩⟩
  · simp [hsettings] at hlong
  · simp [hsettings] at hlong
  · have hvalid := (validateSettings_iff _).mp ht.config
    rw [hsettings, List.forall_mem_cons, List.forall_mem_cons] at hvalid
    obtain ⟨hfirst, hsecond, hmore⟩ := hvalid
    have hsorted := t.postgresConfig.sorted
    rw [hsettings, List.map_cons, List.map_cons, List.pairwise_cons, List.pairwise_cons] at hsorted
    have hmerged : settingLines (name, value ++ "\n" ++ (name' ++ "=" ++ value'))
        = settingLines (name, value) ++ settingLines (name', value') := by
      show List.splitOn '\n' (name ++ "=" ++ (value ++ "\n" ++ (name' ++ "=" ++ value'))).toList
        = List.splitOn '\n' (name ++ "=" ++ value).toList
          ++ List.splitOn '\n' (name' ++ "=" ++ value').toList
      rw [← splitOn_append_separator]
      congr 1
      simp
    have hvalidMerged : validateSettings
        ((name, value ++ "\n" ++ (name' ++ "=" ++ value')) :: more) = .ok () := by
      rw [validateSettings_iff, List.forall_mem_cons]
      refine ⟨⟨hfirst.1, ?_⟩, hmore⟩
      intro hnul
      rw [String.toList_append, String.toList_append, toList_setting] at hnul
      simp only [List.mem_append] at hnul
      rcases hnul with (hnul | hnul) | (hnul | hnul) | hnul
      · exact hfirst.2 hnul
      · exact absurd hnul (by decide)
      · exact (gucName_chars hsecond.1 _ hnul).2.2.2 rfl
      · exact absurd hnul (by decide)
      · exact hsecond.2 hnul
    have hconfig := hunique.config ht
      ⟨(name, value ++ "\n" ++ (name' ++ "=" ++ value')) :: more,
        List.pairwise_cons.mpr
          ⟨fun n hn => hsorted.1 n (List.mem_cons_of_mem name' hn), hsorted.2.2⟩⟩ hvalidMerged (by
        unfold settingsLines
        rw [hsettings, List.flatMap_cons, List.flatMap_cons, List.flatMap_cons, hmerged,
          List.append_assoc])
    rw [hsettings] at hconfig
    have hlength := congrArg List.length hconfig
    simp at hlength

/-- The lines of a single setting. -/
lemma Accepted.settingsLines_eq (ht : t.Accepted) (hone : t.postgresConfig.settings.length ≤ 1)
    {name value : String} (hmem : (name, value) ∈ t.postgresConfig.settings)
    {first : List Char} {rest : List (List Char)} (hvalue : splitLines value = first :: rest) :
    t.settingsLines = (name.toList ++ '=' :: first) :: rest := by
  have hsingle : t.postgresConfig.settings = [(name, value)] := by
    rcases hsettings : t.postgresConfig.settings with _ | ⟨setting, more⟩
    · rw [hsettings] at hmem
      cases hmem
    · rw [hsettings, List.length_cons] at hone
      have hmore : more = [] := List.length_eq_zero_iff.mp (by omega)
      rw [hsettings, hmore, List.mem_singleton] at hmem
      rw [hmore, hmem]
  unfold settingsLines
  rw [hsingle, List.flatMap_cons, List.flatMap_nil, List.append_nil,
    settingLines_eq (ht.setting hmem).1 hvalue]

/-- An extension line has no NUL that is not in its name. -/
lemma Accepted.extension_nul (ht : t.Accepted) {name : String} (hname : name ∈ t.extensions)
    (hnul : '\x00' ∉ name.toList) : '\x00' ∉ name.toList ++ ':' :: (t.sha name).toList := by
  rw [List.mem_append, List.mem_cons, not_or, not_or]
  exact ⟨hnul, by decide, fun h => (sha256_chars (ht.sha hname).2.1 _ h).2.2.2 rfl⟩

lemma Unique.names (hunique : t.Unique) (ht : t.Accepted) {front behind : List String}
    {name : String} (hnames : t.extensions = front ++ name :: behind)
    (hstarts : StartsSetting name.toList) : ∃ name' ∈ name :: behind, '\x00' ∈ name'.toList := by
  by_contra hnul
  push Not at hnul
  have hmem : ∀ n ∈ name :: behind, n ∈ t.extensions := by
    rw [hnames]
    exact fun n hn => List.mem_append_right _ hn
  have hsettings : AreSettings (((name :: behind).map fun n =>
      n.toList ++ ':' :: (t.sha n).toList) ++ t.settingsLines) := by
    constructor
    · intro line hline
      rw [← Option.some.inj hline, startsSetting_extension]
      exact hstarts
    · intro line hline
      rcases List.mem_append.mp hline with hline | hline
      · obtain ⟨n, hn, heq⟩ := List.mem_map.mp hline
        rw [← heq]
        exact ht.extension_nul (hmem n hn) (hnul n hn)
      · exact ht.areSettings.2 line hline
  have hextensions : AreExtensions (front.map fun n => n.toList ++ ':' :: (t.sha n).toList) := by
    refine ⟨t.sha, front, fun n hn => ?_, rfl⟩
    have hn' : n ∈ t.extensions := by
      rw [hnames]
      exact List.mem_append_left _ hn
    exact ⟨(ht.sha hn').1, (ht.sha hn').2.1⟩
  have hlines : t.lines = splitLines t.base.postgresVersion ++ t.base.archiveSha256.toList
      :: t.base.wasmSha256.toList :: ((front.map fun n => n.toList ++ ':' :: (t.sha n).toList)
        ++ (((name :: behind).map fun n => n.toList ++ ':' :: (t.sha n).toList)
          ++ t.settingsLines)) := by
    unfold lines extensionLines
    rw [hnames, List.map_append, List.append_assoc]
  have hlength := (hunique.frame ht _ hlines (List.splitOn_ne_nil _ _) ht.archive ht.wasm
    hextensions hsettings).2
  rw [hnames, List.length_map, List.length_append, List.length_cons] at hlength
  omega

lemma Unique.version (hunique : t.Unique) (ht : t.Accepted)
    {front extensions behind : List (List Char)} {archive wasm setting : List Char}
    (hversion : splitLines t.base.postgresVersion
      = front ++ archive :: wasm :: (extensions ++ setting :: behind))
    (hfront : front ≠ []) (harchive : IsSha256 archive) (hwasm : IsSha256 wasm)
    (hextensions : AreExtensions extensions) (hsettings : AreSettings (setting :: behind)) :
    ∃ name ∈ t.extensions, '\x00' ∈ name.toList := by
  by_contra hnul
  push Not at hnul
  have hall : AreSettings ((setting :: behind) ++ (t.base.archiveSha256.toList
      :: t.base.wasmSha256.toList :: (t.extensionLines ++ t.settingsLines))) := by
    refine ⟨hsettings.1, ?_⟩
    intro line hline
    rcases List.mem_append.mp hline with hline | hline
    · exact hsettings.2 line hline
    · rw [List.mem_cons, List.mem_cons, List.mem_append] at hline
      rcases hline with hline | hline | hline | hline
      · rw [hline]
        exact fun h => (sha256_chars ht.archive _ h).2.2.2 rfl
      · rw [hline]
        exact fun h => (sha256_chars ht.wasm _ h).2.2.2 rfl
      · obtain ⟨n, hn, heq⟩ := List.mem_map.mp hline
        rw [← heq]
        exact ht.extension_nul hn (hnul n hn)
      · exact ht.areSettings.2 line hline
  have hlines : t.lines = front ++ archive :: wasm :: (extensions ++ ((setting :: behind)
      ++ (t.base.archiveSha256.toList :: t.base.wasmSha256.toList
        :: (t.extensionLines ++ t.settingsLines)))) := by
    unfold lines
    rw [hversion]
    simp only [List.append_assoc, List.cons_append]
  have hframe := hunique.frame ht front hlines hfront harchive hwasm hextensions hall
  have hlength := congrArg List.length hframe.1
  rw [hversion, List.length_append, List.length_cons] at hlength
  omega

lemma Unique.value_start (hunique : t.Unique) (ht : t.Accepted) {name value : String}
    (hmem : (name, value) ∈ t.postgresConfig.settings) {first : List Char}
    {rest : List (List Char)} (hvalue : splitLines value = first :: rest) {line : List Char}
    (hline : line ∈ rest) {name' : String} {behind : List Char}
    (heq : line = name'.toList ++ '=' :: behind) (hname' : validateGucName name' = .ok ()) :
    ¬ name < name' := by
  intro hlt
  obtain ⟨front, back, hrest⟩ := List.append_of_mem hline
  have hone := hunique.one_setting ht
  have hname := (ht.setting hmem).1
  have hfree := splitLines_free value
  rw [hvalue] at hfree
  have hnul : ∀ l ∈ first :: rest, '\x00' ∉ l := by
    intro l hl hc
    rw [← hvalue] at hl
    exact (ht.setting hmem).2 (mem_of_mem_splitOn hl hc)
  have hfront : ∀ l ∈ first :: front, l ∈ first :: rest := by
    intro l hl
    rw [hrest, ← List.cons_append]
    exact List.mem_append_left _ hl
  have hback : ∀ c : Char, (∀ l ∈ first :: rest, c ∉ l) → ∀ l ∈ behind :: back, c ∉ l := by
    intro c hc l hl
    rcases List.mem_cons.mp hl with hl | hl
    · rw [hl]
      intro hmem
      refine hc line (List.mem_cons_of_mem _ hline) ?_
      rw [heq]
      simp [hmem]
    · refine hc l (List.mem_cons_of_mem _ ?_)
      rw [hrest]
      exact List.mem_append_right _ (List.mem_cons_of_mem _ hl)
  -- the value up to the line, and the setting of the line
  obtain ⟨value₁, hvalue₁, hnul₁⟩ := exists_value (fun l hl => hfree l (hfront l hl))
    (fun l hl => hnul l (hfront l hl))
  obtain ⟨value₂, hvalue₂, hnul₂⟩ := exists_value (hback _ hfree) (hback _ hnul)
  have hvalid : validateSettings [(name, value₁), (name', value₂)] = .ok () := by
    rw [validateSettings_iff, List.forall_mem_cons, List.forall_mem_singleton]
    exact ⟨⟨hname, hnul₁⟩, hname', hnul₂⟩
  have hlines : [(name, value₁), (name', value₂)].flatMap settingLines = t.settingsLines := by
    rw [ht.settingsLines_eq hone hmem hvalue, List.flatMap_cons, List.flatMap_cons,
      List.flatMap_nil, List.append_nil, settingLines_eq hname hvalue₁,
      settingLines_eq hname' hvalue₂, hrest, heq]
    rfl
  have hconfig := hunique.config ht
    ⟨[(name, value₁), (name', value₂)], List.pairwise_pair.mpr hlt⟩ hvalid hlines
  rw [← hconfig] at hone
  simp at hone

lemma Unique.value_extension (hunique : t.Unique) (ht : t.Accepted) {name value : String}
    (hmem : (name, value) ∈ t.postgresConfig.settings) {first : List Char}
    {more behind : List (List Char)} (hvalue : splitLines value = first :: (more ++ behind))
    (hbehind : AreSettings behind) :
    ¬ AreExtensions (t.extensionLines ++ (name.toList ++ '=' :: first) :: more) := by
  intro hextensions
  have hlines : t.lines = splitLines t.base.postgresVersion ++ t.base.archiveSha256.toList
      :: t.base.wasmSha256.toList
        :: ((t.extensionLines ++ (name.toList ++ '=' :: first) :: more) ++ behind) := by
    unfold lines
    rw [ht.settingsLines_eq (hunique.one_setting ht) hmem hvalue, List.append_assoc]
    rfl
  have hlength := (hunique.frame ht _ hlines (List.splitOn_ne_nil _ _) ht.archive ht.wasm
    hextensions hbehind).2
  unfold extensionLines at hlength
  rw [List.length_append, List.length_map, List.length_cons] at hlength
  omega

lemma Unique.value_hashes (hunique : t.Unique) (ht : t.Accepted) {name value : String}
    (hmem : (name, value) ∈ t.postgresConfig.settings) {first archive wasm : List Char}
    {front extensions behind : List (List Char)}
    (hvalue : splitLines value = first :: (front ++ archive :: wasm :: (extensions ++ behind)))
    (harchive : IsSha256 archive) (hwasm : IsSha256 wasm) (hextensions : AreExtensions extensions) :
    ¬ AreSettings behind := by
  intro hbehind
  have hlines : t.lines = (splitLines t.base.postgresVersion ++ t.base.archiveSha256.toList
      :: t.base.wasmSha256.toList
        :: (t.extensionLines ++ (name.toList ++ '=' :: first) :: front))
      ++ archive :: wasm :: (extensions ++ behind) := by
    unfold lines
    rw [ht.settingsLines_eq (hunique.one_setting ht) hmem hvalue]
    simp only [List.append_assoc, List.cons_append]
  have hframe := hunique.frame ht _ hlines (by simp) harchive hwasm hextensions hbehind
  have hlength := congrArg List.length hframe.1
  rw [List.length_append, List.length_cons] at hlength
  omega

/-- A unique input is not ambiguous. -/
lemma Unique.unambiguous (hunique : t.Unique) (ht : t.Accepted) : t.Unambiguous where
  one_setting := hunique.one_setting ht
  names _ _ _ hnames hstarts := hunique.names ht hnames hstarts
  version _ _ _ _ _ _ hversion hfront harchive hwasm hextensions hsettings :=
    hunique.version ht hversion hfront harchive hwasm hextensions hsettings
  value_start _ _ _ _ hmem hvalue _ hline _ _ heq hname' :=
    hunique.value_start ht hmem hvalue hline heq hname'
  value_extension _ _ _ _ hmem hvalue _ _ hrest hbehind :=
    hunique.value_extension ht hmem (hrest ▸ hvalue) hbehind
  value_hashes _ _ _ _ hmem hvalue _ _ _ _ _ hrest harchive hwasm hextensions :=
    hunique.value_hashes ht hmem (hrest ▸ hvalue) harchive hwasm hextensions

/-- **Template keys are unique for unambiguous inputs.** The cache key is the hash of the bytes,
and no other accepted input has the same bytes exactly when no part of the input can be read as
another part. -/
theorem hashed_unique_iff (ht : t.Accepted) :
    (∀ sha256Hex : Bytes → String, ∃ manifest bytes, t.hashed = .ok bytes ∧
      t.extensionPgdataTemplateManifest sha256Hex = .ok manifest ∧
      manifest.cacheKey = sha256Hex bytes) ∧
    ((∀ t' : TemplateInput, t'.Accepted → t'.hashed = t.hashed → t.Same t') ↔
      t.Unambiguous) := by
  constructor
  · intro sha256Hex
    unfold hashed extensionPgdataTemplateManifest
    rw [ht.archiveSha256s]
    exact ⟨_, _, rfl, rfl, rfl⟩
  · constructor
    · intro h
      have hunique : t.Unique := h
      exact hunique.unambiguous ht
    · intro u t' ht' h
      exact u.same ht ht' ((hashed_eq_iff ht ht').mp h)

/-- An input without extensions. -/
def plain (config : PostgresConfig) : TemplateInput where
  base :=
    { postgresVersion := "17.5"
      wasmSha256 := String.ofList (List.replicate 64 'a')
      archiveSha256 := String.ofList (List.replicate 64 'b')
      architectureIndependent := true }
  assets := []
  extensions := []
  postgresConfig := config

lemma plain_accepted {config : PostgresConfig} (h : config.validate = .ok ()) :
    (plain config).Accepted where
  archive := by
    refine ⟨by simp [plain], fun c hc => ?_⟩
    rw [plain, String.toList_ofList] at hc
    rw [List.eq_of_mem_replicate hc]
    decide
  wasm := by
    refine ⟨by simp [plain], fun c hc => ?_⟩
    rw [plain, String.toList_ofList] at hc
    rw [List.eq_of_mem_replicate hc]
    decide
  extensions := fun _ h => absurd h List.not_mem_nil
  config := h

/-- One setting, with a value of one line. -/
def workMem : PostgresConfig := ⟨[("work_mem", "64MB")], List.pairwise_singleton _ _⟩

lemma plain_unambiguous : (plain workMem).Unambiguous := by
  have hversion : splitLines (plain workMem).base.postgresVersion = ["17.5".toList] := by
    decide +kernel
  have hvalue : splitLines "64MB" = ["64MB".toList] := by decide +kernel
  have hsetting : ∀ {name value first rest},
      (name, value) ∈ (plain workMem).postgresConfig.settings →
      splitLines value = first :: rest → name = "work_mem" ∧ first = "64MB".toList ∧ rest = [] := by
    intro name value first rest hmem hlines
    obtain ⟨hname, hval⟩ := Prod.mk.inj (List.mem_singleton.mp hmem)
    rw [hval, hvalue] at hlines
    obtain ⟨hfirst, hrest⟩ := List.cons.inj hlines
    exact ⟨hname, hfirst.symm, hrest.symm⟩
  constructor
  · decide
  · intro front name behind hnames
    exact absurd hnames (by simp [plain])
  · intro front archive wasm lines setting behind hlines
    rw [hversion] at hlines
    have hlength := congrArg List.length hlines
    simp at hlength
    omega
  · intro name value first rest hmem hlines line hline
    rw [(hsetting hmem hlines).2.2] at hline
    cases hline
  · intro name value first rest hmem hlines more behind hrest _ hextensions
    obtain ⟨hname, hfirst, hnil⟩ := hsetting hmem hlines
    rw [hnil] at hrest
    obtain ⟨hmore, -⟩ := List.append_eq_nil_iff.mp hrest.symm
    rw [hname, hfirst, hmore] at hextensions
    obtain ⟨sha, names, hgood, hall⟩ := hextensions
    have hcolon : ∃ n h : List Char, "work_mem".toList ++ '=' :: "64MB".toList = n ++ ':' :: h := by
      rcases names with _ | ⟨n, names⟩
      · cases hall
      · exact ⟨_, _, (List.cons.inj hall).1⟩
    obtain ⟨n, h, heq⟩ := hcolon
    have hmem : ':' ∈ "work_mem".toList ++ '=' :: "64MB".toList := by
      rw [heq]
      simp
    revert hmem
    decide
  · intro name value first rest hmem hlines front archive wasm lines behind hrest
    rw [(hsetting hmem hlines).2.2] at hrest
    simp at hrest

theorem hashed_unique_workMem :
    (plain workMem).Unambiguous ∧
      ∀ t' : TemplateInput, t'.Accepted → t'.hashed = (plain workMem).hashed →
        (plain workMem).Same t' :=
  ⟨plain_unambiguous,
    (hashed_unique_iff (plain_accepted (by decide))).2.mpr plain_unambiguous⟩

/-- Two settings, and one whose value has the line of the second. -/
def twoSettings : PostgresConfig := ⟨[("a", "1"), ("b", "2")], by decide⟩

def twoLines : PostgresConfig := ⟨[("a", "1\nb=2")], List.pairwise_singleton _ _⟩

theorem hashed_collides :
    (plain twoSettings).Accepted ∧ (plain twoLines).Accepted ∧
      (plain twoSettings).hashed = (plain twoLines).hashed ∧
      ¬ (plain twoLines).Same (plain twoSettings) := by
  have htwo : (plain twoSettings).Accepted := plain_accepted (by decide)
  have hlines : (plain twoLines).Accepted := plain_accepted (by decide)
  refine ⟨htwo, hlines, (hashed_eq_iff hlines htwo).mpr (by decide +kernel), fun h => ?_⟩
  exact absurd h.settings (by decide)

end TemplateInput

end PgliteOxide.Pglite
