import Mathlib.Data.List.DropRight
import PgliteOxide.Lib.Lines
import PgliteOxide.Lib.PathText

/-!
# `PathBuf` on Unix

The text operations of `std::path` without prefixes: `components`, `parent`, `file_name`, `push`,
`pop`, `strip_prefix("/")` and `starts_with`. A text that was put together by pushing names is
clean: it is determined by its names and by whether it is absolute, and every operation on it is
an operation on the list of names.
-/

namespace Lib

/-! ## Operations -/

/-- A part that is no component: empty, or a dot. -/
def isEmptyPart (part : Bytes) : Bool := part == [] || part == [46]

/-- The root, or the dot at the front of a relative path. -/
def pathFront (text : Bytes) : Bytes :=
  if text.head? = some 47 then [47]
  else if text = [46] ∨ [46, 47] <+: text then [46]
  else []

/-- The parts behind the front, without those at the end that are no components. -/
def bodyParts (text : Bytes) : List Bytes :=
  ((text.drop (pathFront text).length).splitOn 47).rdropWhile isEmptyPart

/-- `Path::components`: a dot counts at the front of a relative path only. -/
def pathComponents (text : Bytes) : List Component :=
  match components text with
  | .curDir :: rest => .curDir :: rest.filter (· ≠ .curDir)
  | parts => parts.filter (· ≠ .curDir)

/-- `Path::parent`. -/
def pathParent (text : Bytes) : Option Bytes :=
  if bodyParts text = [] then if pathFront text = [46] then some [] else none
  else some (pathFront text ++ pathText ((bodyParts text).dropLast.rdropWhile isEmptyPart))

/-- `Path::file_name`. -/
def pathFileName (text : Bytes) : Option Bytes :=
  match (pathComponents text).getLast? with
  | some (.normal name) => some name
  | _ => none

/-- `PathBuf::push`. -/
def pathPush (base part : Bytes) : Bytes :=
  if part.head? = some 47 then part
  else if base = [] ∨ base.getLast? = some 47 then base ++ part
  else base ++ 47 :: part

/-- `PathBuf::pop`. -/
def pathPop (base : Bytes) : Bytes := (pathParent base).getD base

/-- `Path::strip_prefix("/")`. -/
def stripRoot (text : Bytes) : Option Bytes :=
  if text.head? = some 47 then some (pathText ((bodyParts text).dropWhile isEmptyPart)) else none

/-- `Path::starts_with`. -/
def pathStartsWith (text base : Bytes) : Bool :=
  (pathComponents base).isPrefixOf (pathComponents text)

/-! ## Parts -/

/-- A part that names something. -/
structure PathPart where
  bytes : Bytes
  normal : componentOf bytes = some (.normal bytes)
  no_slash : 47 ∉ bytes

namespace PathPart

variable (part : PathPart)

lemma not_empty : isEmptyPart part.bytes = false := by
  have h := part.normal
  unfold componentOf at h
  unfold isEmptyPart
  by_cases hnil : part.bytes = []
  · rw [if_pos hnil] at h
    cases h
  · by_cases hdot : part.bytes = [46]
    · rw [if_neg hnil, if_pos hdot] at h
      cases h
    · simp [hnil, hdot]

lemma ne_nil : part.bytes ≠ [] := by
  intro h
  have hempty := part.not_empty
  rw [h] at hempty
  exact absurd hempty (by decide)

lemma ne_dot : part.bytes ≠ [46] := by
  intro h
  have hempty := part.not_empty
  rw [h] at hempty
  exact absurd hempty (by decide)

end PathPart

/-- What `components` gives behind the root are dots, double dots and names. -/
lemma componentOf_cases {text part : Bytes} {c : Component} (hpart : part ∈ text.splitOn 47)
    (h : componentOf part = some c) :
    c = .curDir ∨ c = .parentDir ∨ ∃ name : PathPart, c = .normal name.bytes := by
  have hsame := h
  unfold componentOf at h
  split_ifs at h
  · exact Or.inl (Option.some.inj h).symm
  · exact Or.inr (Or.inl (Option.some.inj h).symm)
  · right
    right
    have hc := (Option.some.inj h).symm
    rw [hc] at hsame
    exact ⟨⟨part, hsame, not_mem_of_mem_splitOn hpart⟩, hc⟩

/-- Behind its root a path has dots, double dots and names. -/
lemma pathComponents_cases (text : Bytes) :
    ∃ rest, pathComponents text = (if text.head? = some 47 then [.rootDir] else []) ++ rest ∧
      ∀ c ∈ rest, c = .curDir ∨ c = .parentDir ∨ ∃ name : PathPart, c = .normal name.bytes := by
  have hparts : ∀ c ∈ (text.splitOn 47).filterMap componentOf,
      c = .curDir ∨ c = .parentDir ∨ ∃ name : PathPart, c = .normal name.bytes := by
    intro c hc
    obtain ⟨part, hpart, hcomponent⟩ := List.mem_filterMap.mp hc
    exact componentOf_cases hpart hcomponent
  unfold pathComponents components
  by_cases hroot : text.head? = some 47
  · rw [if_pos hroot]
    refine ⟨((text.splitOn 47).filterMap componentOf).filter (· ≠ .curDir), ?_, ?_⟩
    · simp
    · exact fun c hc => hparts c (List.mem_of_mem_filter hc)
  · rw [if_neg hroot, List.nil_append]
    split
    · next rest hrest =>
      refine ⟨.curDir :: rest.filter (· ≠ .curDir), rfl, ?_⟩
      rw [hrest] at hparts
      intro c hc
      rcases List.mem_cons.mp hc with hcur | hmem
      · exact Or.inl hcur
      · exact hparts c (List.mem_cons_of_mem _ (List.mem_of_mem_filter hmem))
    · exact ⟨_, rfl, fun c hc => hparts c (List.mem_of_mem_filter hc)⟩

/-! ## Clean texts -/

/-- The text of names, absolute or relative. -/
def cleanText (absolute : Bool) (names : List PathPart) : Bytes :=
  (if absolute then [47] else []) ++ pathText (names.map PathPart.bytes)

section

variable (absolute : Bool) (names : List PathPart)

lemma head_pathText (name : PathPart) : ∃ b rest, b ≠ 47 ∧
    pathText ((name :: names).map PathPart.bytes) = b :: rest ∧
      (b = 46 → ∃ d rest', d ≠ 47 ∧ rest = d :: rest') := by
  obtain ⟨behind, hbehind⟩ := pathText_cons name.bytes (names.map PathPart.bytes)
  have hslash := name.no_slash
  obtain ⟨b, bytes, hb⟩ := List.exists_cons_of_ne_nil name.ne_nil
  rw [hb, List.mem_cons, not_or] at hslash
  refine ⟨b, bytes ++ behind, fun h => hslash.1 h.symm, ?_, fun hdot => ?_⟩
  · rw [List.map_cons, hbehind, hb]
    rfl
  · cases bytes with
    | nil => exact absurd (hb.trans (by rw [hdot])) name.ne_dot
    | cons d bytes =>
      rw [List.mem_cons, not_or] at hslash
      exact ⟨d, bytes ++ behind, fun h => hslash.2.1 h.symm, rfl⟩

lemma head_cleanText : (cleanText absolute names).head? = some 47 ↔ absolute = true := by
  cases absolute with
  | true => exact iff_of_true rfl rfl
  | false =>
    refine iff_of_false ?_ Bool.false_ne_true
    show (pathText (names.map PathPart.bytes)).head? ≠ some 47
    cases names with
    | nil => simp [pathText]
    | cons name names =>
      obtain ⟨b, rest, hb, htext, -⟩ := head_pathText names name
      rw [htext]
      simpa using hb

lemma pathFront_cleanText :
    pathFront (cleanText absolute names) = if absolute then [47] else [] := by
  have hhead := head_cleanText absolute names
  unfold pathFront
  cases absolute with
  | true => exact if_pos (hhead.mpr rfl)
  | false =>
    rw [if_neg fun h => Bool.false_ne_true (hhead.mp h), if_neg Bool.false_ne_true]
    apply if_neg
    show ¬ (pathText (names.map PathPart.bytes) = [46] ∨
      [46, 47] <+: pathText (names.map PathPart.bytes))
    cases names with
    | nil => simp [pathText]
    | cons name names =>
      obtain ⟨b, rest, -, htext, hdot⟩ := head_pathText names name
      rw [htext]
      by_cases h : b = 46
      · obtain ⟨d, rest', hd, hrest⟩ := hdot h
        rw [hrest]
        simp [List.cons_prefix_cons, Ne.symm hd]
      · simp [h, List.cons_prefix_cons, Ne.symm h]

lemma rdropWhile_names : (names.map PathPart.bytes).rdropWhile isEmptyPart
    = names.map PathPart.bytes := by
  rw [List.rdropWhile_eq_self_iff]
  intro hne
  obtain ⟨name, -, hname⟩ := List.mem_map.mp (List.getLast_mem hne)
  rw [← hname, name.not_empty]
  exact Bool.false_ne_true

lemma splitOn_pathText (hne : names ≠ []) :
    (pathText (names.map PathPart.bytes)).splitOn 47 = names.map PathPart.bytes := by
  apply List.splitOn_intercalate
  · intro part hpart
    obtain ⟨name, -, hname⟩ := List.mem_map.mp hpart
    rw [← hname]
    exact name.no_slash
  · simpa using hne

lemma bodyParts_cleanText :
    bodyParts (cleanText absolute names) = names.map PathPart.bytes := by
  have hdrop : (cleanText absolute names).drop (pathFront (cleanText absolute names)).length
      = pathText (names.map PathPart.bytes) := by
    rw [pathFront_cleanText]
    unfold cleanText
    rw [List.drop_left]
  unfold bodyParts
  rw [hdrop]
  by_cases hne : names = []
  · rw [hne]
    rfl
  · rw [splitOn_pathText names hne, rdropWhile_names]

/-- The names behind the root. -/
lemma components_cleanText :
    components (cleanText absolute names)
      = (if absolute then [.rootDir] else []) ++ names.map fun name => .normal name.bytes := by
  have hhead := head_cleanText absolute names
  have hnames : (names.map PathPart.bytes).filterMap componentOf
      = names.map fun name => .normal name.bytes := by
    rw [List.filterMap_map]
    have hparts : componentOf ∘ PathPart.bytes = some ∘ fun name => .normal name.bytes := by
      funext name
      exact name.normal
    rw [hparts, List.filterMap_eq_map]
  have hbody : ((pathText (names.map PathPart.bytes)).splitOn 47).filterMap componentOf
      = names.map fun name => .normal name.bytes := by
    by_cases hne : names = []
    · rw [hne]
      rfl
    · rw [splitOn_pathText names hne, hnames]
  unfold components
  cases absolute with
  | true =>
    have hsplit : (cleanText true names).splitOn 47
        = [] :: (pathText (names.map PathPart.bytes)).splitOn 47 := by
      show (47 :: pathText (names.map PathPart.bytes)).splitOn 47 = _
      rw [List.splitOn_eq_splitOnP, List.splitOnP_cons_eq_if_modifyHead]
      rfl
    rw [if_pos (hhead.mpr rfl), hsplit, List.filterMap_cons, hbody]
    rfl
  | false =>
    rw [if_neg fun h => Bool.false_ne_true (hhead.mp h)]
    exact congrArg ([] ++ ·) hbody

lemma pathComponents_cleanText :
    pathComponents (cleanText absolute names)
      = (if absolute then [.rootDir] else []) ++ names.map fun name => .normal name.bytes := by
  have hfilter : ∀ c ∈ (if absolute then [.rootDir] else [])
      ++ names.map (fun name => Component.normal name.bytes), c ≠ .curDir := by
    intro c hc
    rcases List.mem_append.mp hc with hroot | hname
    · cases absolute with
      | true =>
        rw [List.mem_singleton.mp hroot]
        exact fun h => Component.noConfusion h
      | false => simp at hroot
    · obtain ⟨name, -, hname⟩ := List.mem_map.mp hname
      rw [← hname]
      exact fun h => Component.noConfusion h
  unfold pathComponents
  rw [components_cleanText]
  split
  · next rest hcur => exact absurd rfl (hfilter .curDir (by rw [hcur]; exact List.mem_cons_self))
  · rw [List.filter_eq_self]
    intro c hc
    simpa using hfilter c hc

lemma pathParent_cleanText :
    pathParent (cleanText absolute names)
      = if names = [] then none else some (cleanText absolute names.dropLast) := by
  unfold pathParent
  rw [bodyParts_cleanText, pathFront_cleanText]
  by_cases hne : names = []
  · rw [if_pos hne, hne]
    cases absolute <;> rfl
  · have hmap : names.map PathPart.bytes ≠ [] := by simpa using hne
    rw [if_neg hne, if_neg hmap, ← List.map_dropLast, rdropWhile_names]
    rfl

lemma pathPop_cleanText :
    pathPop (cleanText absolute names) = cleanText absolute names.dropLast := by
  unfold pathPop
  rw [pathParent_cleanText]
  by_cases hne : names = []
  · rw [if_pos hne, hne]
    rfl
  · rw [if_neg hne]
    rfl

end

/-! ## Pushing -/

lemma pathText_append {parts parts' : List Bytes} (hne : parts ≠ []) (hne' : parts' ≠ []) :
    pathText (parts ++ parts') = pathText parts ++ 47 :: pathText parts' := by
  unfold pathText
  induction parts with
  | nil => exact absurd rfl hne
  | cons first parts ih =>
    by_cases hparts : parts = []
    · rw [hparts, List.singleton_append, List.intercalate_cons_of_ne_nil hne',
        List.intercalate_singleton, List.append_assoc]
      rfl
    · rw [List.cons_append, List.intercalate_cons_of_ne_nil (by simp [hparts]), ih hparts,
        List.intercalate_cons_of_ne_nil hparts]
      simp only [List.append_assoc]

lemma cleanText_append (absolute : Bool) {names names' : List PathPart} (hne : names ≠ [])
    (hne' : names' ≠ []) :
    cleanText absolute (names ++ names')
      = cleanText absolute names ++ 47 :: cleanText false names' := by
  unfold cleanText
  rw [List.map_append, pathText_append (by simpa using hne) (by simpa using hne'),
    List.append_assoc]
  rfl

lemma cleanText_singleton (absolute : Bool) (name : PathPart) :
    cleanText absolute [name] = cleanText absolute [] ++ name.bytes := by
  have hone : pathText [name.bytes] = name.bytes := List.intercalate_singleton
  unfold cleanText
  rw [List.map_singleton, hone, List.append_assoc]
  rfl

/-- A clean text ends with a slash only if it is the root. -/
lemma getLast_cleanText {absolute : Bool} {names : List PathPart} (hne : names ≠ []) :
    (cleanText absolute names).getLast? ≠ some 47 := by
  obtain ⟨front, name, hnames⟩ := (List.eq_nil_or_concat names).resolve_left hne
  rw [List.concat_eq_append] at hnames
  have hlast : ∃ text, cleanText absolute names = text ++ name.bytes := by
    rw [hnames]
    by_cases hfront : front = []
    · rw [hfront]
      exact ⟨_, cleanText_singleton absolute name⟩
    · refine ⟨cleanText absolute front ++ [47], ?_⟩
      rw [cleanText_append absolute hfront (List.cons_ne_nil _ _), cleanText_singleton,
        List.append_assoc]
      rfl
  obtain ⟨text, htext⟩ := hlast
  rw [htext, List.getLast?_append_of_ne_nil _ name.ne_nil]
  intro h
  exact name.no_slash (List.mem_of_getLast? h)

/-- What a relative text is put behind. -/
lemma pathPush_relative (absolute : Bool) (names : List PathPart) {part : Bytes}
    (hpart : part.head? ≠ some 47) :
    pathPush (cleanText absolute names) part
      = if names = [] then cleanText absolute [] ++ part
        else cleanText absolute names ++ 47 :: part := by
  unfold pathPush
  rw [if_neg hpart]
  by_cases hne : names = []
  · rw [if_pos hne, hne, if_pos]
    cases absolute with
    | true => exact Or.inr rfl
    | false => exact Or.inl rfl
  · have hnil : cleanText absolute names ≠ [] := by
      obtain ⟨name', names', hnames⟩ := List.exists_cons_of_ne_nil hne
      obtain ⟨b, rest, -, htext, -⟩ := head_pathText names' name'
      unfold cleanText
      rw [hnames, htext]
      simp
    rw [if_neg hne, if_neg (not_or.mpr ⟨hnil, getLast_cleanText hne⟩)]

lemma pathPush_cleanText (absolute : Bool) (names : List PathPart) (name : PathPart) :
    pathPush (cleanText absolute names) name.bytes = cleanText absolute (names ++ [name]) := by
  rw [pathPush_relative absolute names fun h => name.no_slash (List.mem_of_mem_head? h)]
  by_cases hne : names = []
  · rw [if_pos hne, hne]
    exact (cleanText_singleton absolute name).symm
  · rw [if_neg hne, cleanText_append absolute hne (List.cons_ne_nil _ _), cleanText_singleton]
    rfl

/-- A slash at the end does not count. -/
lemma pathComponents_slash (absolute : Bool) {names : List PathPart} (hne : names ≠ []) :
    pathComponents (cleanText absolute names ++ [47])
      = pathComponents (cleanText absolute names) := by
  have hhead : (cleanText absolute names ++ [47]).head? = (cleanText absolute names).head? := by
    obtain ⟨name', names', hnames⟩ := List.exists_cons_of_ne_nil hne
    obtain ⟨b, rest, -, htext, -⟩ := head_pathText names' name'
    unfold cleanText
    rw [hnames, htext]
    cases absolute <;> rfl
  have hsplit : (cleanText absolute names ++ [47]).splitOn 47
      = (cleanText absolute names).splitOn 47 ++ [[]] := by
    rw [List.splitOn_eq_splitOnP, List.splitOnP_append_cons _ _ (by decide)]
    rfl
  have hsame : components (cleanText absolute names ++ [47])
      = components (cleanText absolute names) := by
    unfold components
    rw [hhead, hsplit, List.filterMap_append]
    have hnone : [([] : Bytes)].filterMap componentOf = [] := rfl
    rw [hnone, List.append_nil]
  unfold pathComponents
  rw [hsame]

/-- **A relative path joined to an absolute one** adds its names to the components. -/
lemma pathComponents_join (absolute : Bool) (names names' : List PathPart) :
    pathComponents (pathPush (cleanText absolute names) (cleanText false names'))
      = pathComponents (cleanText absolute names) ++ names'.map fun name => .normal name.bytes := by
  have hrelative : (cleanText false names').head? ≠ some 47 :=
    fun h => Bool.false_ne_true ((head_cleanText false names').mp h)
  rw [pathPush_relative absolute names hrelative]
  by_cases hne : names = []
  · have htext : cleanText absolute [] ++ cleanText false names' = cleanText absolute names' := by
      unfold cleanText
      cases absolute <;> rfl
    rw [if_pos hne, hne, htext, pathComponents_cleanText, pathComponents_cleanText]
    simp
  · rw [if_neg hne]
    by_cases hne' : names' = []
    · rw [hne']
      show pathComponents (cleanText absolute names ++ [47]) = _
      rw [pathComponents_slash absolute hne]
      simp
    · rw [← cleanText_append absolute hne hne', pathComponents_cleanText,
        pathComponents_cleanText, List.map_append, List.append_assoc]

lemma pathPush_cleanText_names (absolute : Bool) (names : List PathPart)
    {names' : List PathPart} (hne' : names' ≠ []) :
    pathPush (cleanText absolute names) (cleanText false names')
      = cleanText absolute (names ++ names') := by
  have hrelative : (cleanText false names').head? ≠ some 47 :=
    fun h => Bool.false_ne_true ((head_cleanText false names').mp h)
  rw [pathPush_relative absolute names hrelative]
  by_cases hne : names = []
  · rw [if_pos hne, hne]
    unfold cleanText
    cases absolute <;> rfl
  · rw [if_neg hne, cleanText_append absolute hne hne']

/-- An entry of a directory that was reached by joining. -/
lemma pathPush_join (absolute : Bool) (names names' : List PathPart) (entry : PathPart) :
    pathPush (pathPush (cleanText absolute names) (cleanText false names')) entry.bytes
      = cleanText absolute (names ++ names' ++ [entry]) := by
  by_cases hne' : names' = []
  · have hentry : entry.bytes.head? ≠ some 47 := fun h => entry.no_slash (List.mem_of_mem_head? h)
    rw [hne', List.append_nil, pathPush_relative absolute names (by simp [cleanText, pathText])]
    by_cases hne : names = []
    · have hsame : cleanText absolute [] ++ cleanText false [] = cleanText absolute [] := by
        cases absolute <;> rfl
      rw [if_pos hne, hne, hsame]
      exact pathPush_cleanText absolute [] entry
    · -- the joined path ends with a slash, so no other is put in
      have hlast : (cleanText absolute names ++ [47]).getLast? = some 47 := by simp
      rw [if_neg hne]
      show pathPush (cleanText absolute names ++ [47]) entry.bytes = _
      unfold pathPush
      rw [if_neg hentry, if_pos (Or.inr hlast), List.append_assoc,
        cleanText_append absolute hne (List.cons_ne_nil _ _), cleanText_singleton]
      rfl
  · rw [pathPush_cleanText_names absolute names hne', pathPush_cleanText]

/-- Without its root an absolute path is relative. -/
lemma stripRoot_cleanText (absolute : Bool) (names : List PathPart) :
    (stripRoot (cleanText absolute names)).getD (cleanText absolute names)
      = cleanText false names := by
  have hhead := head_cleanText absolute names
  unfold stripRoot
  cases absolute with
  | true =>
    have hdrop : (names.map PathPart.bytes).dropWhile isEmptyPart = names.map PathPart.bytes := by
      cases names with
      | nil => rfl
      | cons name names => rw [List.map_cons, List.dropWhile_cons, name.not_empty]; rfl
    rw [if_pos (hhead.mpr rfl), bodyParts_cleanText, hdrop]
    rfl
  | false =>
    rw [if_neg fun h => Bool.false_ne_true (hhead.mp h)]
    rfl

/-! ## File names -/

/-- The components that parts behind the root give. -/
def partComponents (parts : List Bytes) : List Component :=
  (parts.filterMap componentOf).filter (· ≠ .curDir)

lemma partComponents_append (parts parts' : List Bytes) :
    partComponents (parts ++ parts') = partComponents parts ++ partComponents parts' := by
  unfold partComponents
  rw [List.filterMap_append, List.filter_append]

/-- A part that is no component gives none. -/
lemma partComponents_of_empty {part : Bytes} (h : isEmptyPart part = true) :
    partComponents [part] = [] := by
  unfold isEmptyPart at h
  rw [Bool.or_eq_true, beq_iff_eq, beq_iff_eq] at h
  rcases h with h | h
  · rw [h]
    rfl
  · rw [h]
    rfl

/-- Every other part gives one, and a name is its part. -/
lemma partComponents_of_full {part : Bytes} (h : isEmptyPart part = false) :
    ∃ c, partComponents [part] = [c] ∧ ∀ name, c = .normal name → part = name := by
  unfold isEmptyPart at h
  rw [Bool.or_eq_false_iff, beq_eq_false_iff_ne, beq_eq_false_iff_ne] at h
  have hcomponent : componentOf part
      = some (if part = [46, 46] then .parentDir else .normal part) := by
    unfold componentOf
    rw [if_neg h.1, if_neg h.2]
    split_ifs
    · rfl
    · rfl
  refine ⟨if part = [46, 46] then .parentDir else .normal part, ?_, ?_⟩
  · unfold partComponents
    rw [List.filterMap_cons, hcomponent]
    split_ifs
    · rfl
    · rfl
  · intro name hname
    split_ifs at hname
    exact Component.normal.inj hname

lemma partComponents_rdropWhile (parts : List Bytes) :
    partComponents (parts.rdropWhile isEmptyPart) = partComponents parts := by
  induction parts using List.reverseRecOn with
  | nil => rfl
  | append_singleton parts part ih =>
    by_cases h : isEmptyPart part = true
    · rw [List.rdropWhile_concat_pos _ _ _ h, ih, partComponents_append, partComponents_of_empty h,
        List.append_nil]
    · rw [List.rdropWhile_concat_neg _ _ _ h]

lemma PathPart.partComponents (name : PathPart) :
    partComponents [name.bytes] = [.normal name.bytes] := by
  unfold Lib.partComponents
  rw [List.filterMap_cons, name.normal]
  rfl

lemma pathComponents_absolute (rest : Bytes) :
    pathComponents (47 :: rest) = .rootDir :: partComponents (rest.splitOn 47) := by
  have hsplit : (47 :: rest).splitOn 47 = [] :: rest.splitOn 47 := by
    rw [List.splitOn_eq_splitOnP, List.splitOnP_cons_eq_if_modifyHead]
    rfl
  have hcomponents : components (47 :: rest)
      = .rootDir :: (rest.splitOn 47).filterMap componentOf := by
    unfold components
    rw [hsplit]
    rfl
  unfold pathComponents
  rw [hcomponents]
  rfl

/-- A path is absolute if its components start with the root. -/
lemma head_pathComponents (text : Bytes) :
    (pathComponents text).head? = some .rootDir ↔ text.head? = some 47 := by
  obtain ⟨rest, hrest, hcases⟩ := pathComponents_cases text
  rw [hrest]
  by_cases hroot : text.head? = some 47
  · rw [if_pos hroot]
    exact iff_of_true rfl hroot
  · rw [if_neg hroot, List.nil_append]
    refine iff_of_false (fun hhead => ?_) hroot
    rcases hcases _ (List.mem_of_mem_head? hhead) with hc | hc | ⟨name, hc⟩
    · cases hc
    · cases hc
    · cases hc

/-- The components of a directory and of a name in it. -/
lemma pathComponents_concat (rest : Bytes) (name : PathPart) :
    pathComponents (47 :: rest ++ 47 :: name.bytes)
      = pathComponents (47 :: rest) ++ [.normal name.bytes] := by
  rw [List.cons_append, pathComponents_absolute, pathComponents_absolute,
    splitOn_append_separator, partComponents_append, List.splitOn_eq_singleton name.no_slash,
    name.partComponents]
  rfl

lemma pathFileName_concat (rest : Bytes) (name : PathPart) :
    pathFileName (47 :: rest ++ 47 :: name.bytes) = some name.bytes := by
  unfold pathFileName
  rw [pathComponents_concat, List.getLast?_concat]

/-- The parts without those at the end that are no components, and the last one. -/
lemma bodyParts_of_fileName {rest name : Bytes} (h : pathFileName (47 :: rest) = some name) :
    ∃ parts, bodyParts (47 :: rest) = parts ++ [name] := by
  have hbody : bodyParts (47 :: rest) = (rest.splitOn 47).rdropWhile isEmptyPart := rfl
  have hcomponents : pathComponents (47 :: rest)
      = .rootDir :: partComponents (bodyParts (47 :: rest)) := by
    rw [hbody, partComponents_rdropWhile, pathComponents_absolute]
  unfold pathFileName at h
  rw [hcomponents] at h
  rcases List.eq_nil_or_concat (bodyParts (47 :: rest)) with hnil | ⟨parts, last, hlast⟩
  · rw [hnil] at h
    cases h
  · rw [List.concat_eq_append] at hlast
    refine ⟨parts, ?_⟩
    have hfull : isEmptyPart last = false := by
      have hsame : (parts ++ [last]).rdropWhile isEmptyPart = parts ++ [last] := by
        rw [← hlast, hbody, List.rdropWhile_idempotent]
      rw [List.rdropWhile_eq_self_iff] at hsame
      have hlast' := hsame (List.append_ne_nil_of_right_ne_nil _ (List.cons_ne_nil _ _))
      rw [List.getLast_append_singleton] at hlast'
      exact Bool.eq_false_iff.mpr hlast'
    obtain ⟨c, hc, hname⟩ := partComponents_of_full hfull
    rw [hlast, partComponents_append, hc, ← List.cons_append, List.getLast?_concat] at h
    split at h
    · rename_i bytes hbytes
      rw [hname _ (Option.some.inj hbytes), Option.some.inj h] at hlast
      exact hlast
    · cases h

/-! ### Paths that are text -/

lemma text_iff_parts (text : Bytes) :
    (∃ s, utf8 s = text) ↔ ∀ part ∈ text.splitOn 47, ∃ s, utf8 s = part := by
  constructor
  · intro h
    obtain ⟨s, hs⟩ := h
    rw [← hs]
    exact text_of_mem_splitOn (by decide) s
  · intro h
    have htext := pathText_utf8 h
    unfold pathText at htext
    rwa [List.intercalate_splitOn] at htext

/-- A path is text if the names in it are. -/
lemma text_of_names {text : Bytes}
    (h : ∀ name : Bytes, .normal name ∈ pathComponents text → ∃ s, utf8 s = name) :
    ∃ s, utf8 s = text := by
  rw [text_iff_parts]
  intro part hpart
  by_cases hnormal : componentOf part = some (.normal part)
  · apply h
    have hmem : .normal part ∈ components text := by
      unfold components
      exact List.mem_append_right _ (List.mem_filterMap.mpr ⟨part, hpart, hnormal⟩)
    unfold pathComponents
    split
    · rename_i rest hrest
      rw [hrest] at hmem
      rcases List.mem_cons.mp hmem with hcur | hmem
      · cases hcur
      · exact List.mem_cons_of_mem _ (List.mem_filter.mpr ⟨hmem, by simp⟩)
    · exact List.mem_filter.mpr ⟨hmem, by simp⟩
  · unfold componentOf at hnormal
    split_ifs at hnormal with hnil hdot hdots
    · exact ⟨"", hnil.symm⟩
    · exact ⟨".", by rw [hdot]; decide +kernel⟩
    · exact ⟨"..", by rw [hdots]; decide +kernel⟩
    · exact absurd rfl hnormal

lemma text_of_name {text name : Bytes} (htext : ∃ s, utf8 s = text)
    (h : .normal name ∈ pathComponents text) : ∃ s, utf8 s = name := by
  have hmem : .normal name ∈ components text := by
    unfold pathComponents at h
    split at h
    · rename_i rest hrest
      rw [hrest]
      rcases List.mem_cons.mp h with hcur | hmem
      · cases hcur
      · exact List.mem_cons_of_mem _ (List.mem_of_mem_filter hmem)
    · exact List.mem_of_mem_filter h
  unfold components at hmem
  rcases List.mem_append.mp hmem with hroot | hmem
  · split_ifs at hroot
    · cases List.mem_singleton.mp hroot
    · cases hroot
  · obtain ⟨part, hpart, hcomponent⟩ := List.mem_filterMap.mp hmem
    have hname : part = name := by
      unfold componentOf at hcomponent
      split_ifs at hcomponent with hnil hdot hdots
      · cases Option.some.inj hcomponent
      · cases Option.some.inj hcomponent
      · exact Component.normal.inj (Option.some.inj hcomponent)
    rw [← hname]
    exact (text_iff_parts text).mp htext part hpart

/-- **An absolute path is its directory and its file name.** -/
lemma pathComponents_parent {rest : Bytes} {name : PathPart}
    (h : pathFileName (47 :: rest) = some name.bytes) :
    ∃ directory, pathParent (47 :: rest) = some (47 :: directory) ∧
      pathComponents (47 :: directory ++ 47 :: name.bytes) = pathComponents (47 :: rest) := by
  obtain ⟨parts, hparts⟩ := bodyParts_of_fileName h
  have hbody : bodyParts (47 :: rest) = (rest.splitOn 47).rdropWhile isEmptyPart := rfl
  have hcomponents : pathComponents (47 :: rest)
      = .rootDir :: (partComponents parts ++ [.normal name.bytes]) := by
    rw [pathComponents_absolute, ← partComponents_rdropWhile, ← hbody, hparts,
      partComponents_append, name.partComponents]
  have hmem : ∀ part ∈ parts.rdropWhile isEmptyPart, 47 ∉ part := by
    intro part hpart
    have hsub : part ∈ (rest.splitOn 47).rdropWhile isEmptyPart := by
      rw [← hbody, hparts]
      exact List.mem_append_left _ ((List.rdropWhile_prefix _ _).subset hpart)
    exact not_mem_of_mem_splitOn ((List.rdropWhile_prefix _ _).subset hsub)
  refine ⟨pathText (parts.rdropWhile isEmptyPart), ?_, ?_⟩
  · unfold pathParent
    rw [hparts, if_neg (by simp), List.dropLast_concat]
    rfl
  · rw [pathComponents_concat, hcomponents, pathComponents_absolute,
      ← partComponents_rdropWhile parts]
    by_cases hnil : parts.rdropWhile isEmptyPart = []
    · rw [hnil]
      rfl
    · unfold pathText
      rw [List.splitOn_intercalate 47 hmem hnil]
      rfl

end Lib
