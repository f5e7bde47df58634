import PgliteOxide.Lib.FileFill
import PgliteOxide.Pglite.DataDirView
import PgliteOxide.Pglite.TarCodec

/-!
# Archives and back

The dump collects the entries of a tree into a map ordered by path and writes them in this order;
the unpacking takes each path apart again and makes the entry. Both come down to the log of the
tree that `copy_pgdata_tree` makes as well, so what is unpacked is what is copied.
-/

namespace PgliteOxide.Pglite

open Lib

/-! ## The entries of a tree -/

/-- The entries of a tree in the order in which the walk meets them. -/
def treeEntries : RelPath → PgDir → EntryMap
  | _, .nil => []
  | current, .file name data rest =>
    (if shouldSkipRelative (pathParts (current ++ [name])) then []
     else [(current ++ [name], .file data)]) ++ treeEntries current rest
  | current, .dir name sub rest =>
    (if shouldSkipRelative (pathParts (current ++ [name])) then []
     else (current ++ [name], .directory) :: treeEntries (current ++ [name]) sub)
      ++ treeEntries current rest

/-- The last path of a map is inserted at its end. -/
lemma EntryMap.insert_eq_append {entries : EntryMap} {relative : RelPath}
    (h : ∀ e ∈ entries, e.1 < relative) (source : EntrySource) :
    entries.insert relative source = entries ++ [(relative, source)] := by
  induction entries with
  | nil => rfl
  | cons e entries ih =>
    have he : e.1 < relative := h e (by simp)
    unfold EntryMap.insert
    rw [if_neg (lt_asymm he), if_neg (ne_of_gt he), ih fun e he => h e (List.mem_cons_of_mem _ he)]
    rfl

/-- What the walk meets is below the directory. -/
lemma treeEntries_below {d : PgDir} {current : RelPath} {e : RelPath × EntrySource}
    (he : e ∈ treeEntries current d) : ∃ name ∈ d.names, ∃ p, e.1 = current ++ name :: p := by
  induction d generalizing current with
  | nil => simp [treeEntries] at he
  | file name data rest ih =>
    rcases List.mem_append.mp he with he | he
    · split_ifs at he
      · simp at he
      · rw [List.mem_singleton.mp he]
        exact ⟨name, by simp [Dir.names], [], rfl⟩
    · obtain ⟨n, hn, p, hp⟩ := ih he
      exact ⟨n, List.mem_cons_of_mem _ hn, p, hp⟩
  | dir name sub rest ihsub ih =>
    rcases List.mem_append.mp he with he | he
    · split_ifs at he
      · simp at he
      · rcases List.mem_cons.mp he with rfl | he
        · exact ⟨name, by simp [Dir.names], [], rfl⟩
        · obtain ⟨n, -, p, hp⟩ := ihsub he
          exact ⟨name, by simp [Dir.names], n :: p, by rw [hp, ← List.append_cons]⟩
    · obtain ⟨n, hn, p, hp⟩ := ih he
      exact ⟨n, List.mem_cons_of_mem _ hn, p, hp⟩

/-- Paths below one entry come before a later entry. -/
lemma below_lt {current p : RelPath} {name m : FileName} (h : name < m) :
    current ++ name :: p < current ++ [m] :=
  List.append_left_lt (List.cons_lt_cons_iff.mpr (.inl h))

lemma lt_below (current : RelPath) (name m : FileName) :
    current ++ [name] < current ++ [name] ++ [m] := by
  rw [List.append_assoc]
  exact List.append_left_lt (by simp)

/-- **The map is filled at its end**, so that it has the order of the walk. -/
lemma collectPgdataEntries_eq {d : PgDir} (hd : d.Sorted) (current : RelPath)
    {entries : EntryMap} (h : ∀ e ∈ entries, ∀ name ∈ d.names, e.1 < current ++ [name]) :
    collectPgdataEntries current d entries = entries ++ treeEntries current d := by
  induction d generalizing current entries with
  | nil => simp [collectPgdataEntries, treeEntries]
  | file name data rest ih =>
    unfold collectPgdataEntries treeEntries
    have hhead : ∀ e ∈ entries, e.1 < current ++ [name] :=
      fun e he => h e he name (by simp [Dir.names])
    have hrest : ∀ e ∈ entries, ∀ m ∈ rest.names, e.1 < current ++ [m] :=
      fun e he m hm => h e he m (List.mem_cons_of_mem _ hm)
    by_cases hskip : shouldSkipRelative (pathParts (current ++ [name])) = true
    · rw [if_pos hskip, if_pos hskip, ih hd.2 current hrest]
      rfl
    · rw [if_neg hskip, if_neg hskip, EntryMap.insert_eq_append hhead, ih hd.2 current,
        List.append_assoc]
      intro e he m hm
      rcases List.mem_append.mp he with he | he
      · exact hrest e he m hm
      · rw [List.mem_singleton.mp he]
        exact below_lt (hd.1 m hm)
  | dir name sub rest ihsub ih =>
    unfold collectPgdataEntries treeEntries
    have hhead : ∀ e ∈ entries, e.1 < current ++ [name] :=
      fun e he => h e he name (by simp [Dir.names])
    have hrest : ∀ e ∈ entries, ∀ m ∈ rest.names, e.1 < current ++ [m] :=
      fun e he m hm => h e he m (List.mem_cons_of_mem _ hm)
    by_cases hskip : shouldSkipRelative (pathParts (current ++ [name])) = true
    · rw [if_pos hskip, if_pos hskip, ih hd.2.2 current hrest]
      rfl
    · rw [if_neg hskip, if_neg hskip, EntryMap.insert_eq_append hhead]
      have hsub : ∀ e ∈ entries ++ [(current ++ [name], EntrySource.directory)], ∀ m ∈ sub.names,
          e.1 < current ++ [name] ++ [m] := by
        intro e he m _
        rcases List.mem_append.mp he with he | he
        · exact (hhead e he).trans (lt_below current name m)
        · rw [List.mem_singleton.mp he]
          exact lt_below current name m
      rw [ihsub hd.2.1 (current ++ [name]) hsub, ih hd.2.2 current]
      · simp only [List.append_assoc, List.cons_append, List.nil_append]
      · intro e he m hm
        rcases List.mem_append.mp he with he | he
        · rcases List.mem_append.mp he with he | he
          · exact hrest e he m hm
          · rw [List.mem_singleton.mp he]
            exact below_lt (hd.1 m hm)
        · obtain ⟨n, -, p, hp⟩ := treeEntries_below he
          rw [hp, List.append_assoc]
          exact below_lt (hd.1 m hm)

/-- The change an entry of an archive asks for. -/
def entryEvent (e : RelPath × EntrySource) : FsEvent FileName Bytes :=
  match e.2 with
  | .directory => .mkdir e.1
  | .file data => .put e.1 data

/-- The entries of a tree are the log of copying it. -/
lemma map_entryEvent (current : RelPath) (d : PgDir) :
    (treeEntries current d).map entryEvent = treeLog current d := by
  induction d generalizing current with
  | nil => rfl
  | file name data rest ih =>
    unfold treeEntries treeLog
    rw [List.map_append, ih]
    cases shouldSkipRelative (pathParts (current ++ [name])) <;> rfl
  | dir name sub rest ihsub ih =>
    unfold treeEntries treeLog
    rw [List.map_append, ih]
    cases shouldSkipRelative (pathParts (current ++ [name])) with
    | true => rfl
    | false =>
      show entryEvent (current ++ [name], .directory)
          :: (treeEntries (current ++ [name]) sub).map entryEvent ++ _ = _
      rw [ihsub]
      rfl

/-! ## Paths -/

/-- A name that is text, without a backslash. -/
def PlainName (name : FileName) : Prop := (∃ s, utf8 s = name.bytes) ∧ 92 ∉ name.bytes

lemma mem_pathText {parts : List Bytes} {c : UInt8} (h : c ∈ pathText parts) :
    c = 47 ∨ ∃ part ∈ parts, c ∈ part := by
  induction parts with
  | nil => simp [pathText] at h
  | cons part parts ih =>
    unfold pathText at h ih
    cases parts with
    | nil => exact .inr ⟨part, by simp, by simpa using h⟩
    | cons part' parts =>
      rw [List.intercalate_cons_cons, List.mem_append, List.mem_append] at h
      rcases h with (h | h) | h
      · exact .inr ⟨part, by simp, h⟩
      · exact .inl (List.mem_singleton.mp h)
      · rcases ih h with h | ⟨q, hq, hc⟩
        · exact .inl h
        · exact .inr ⟨q, List.mem_cons_of_mem _ hq, hc⟩

/-- The path of an entry is written as it is. -/
lemma archivePath_eq {p : RelPath} (h : ∀ name ∈ p, PlainName name) :
    archivePath p = pathText (pathParts p) := by
  have htext : ∃ s, utf8 s = pathText (pathParts p) := by
    refine pathText_utf8 fun part hpart => ?_
    obtain ⟨name, hname, rfl⟩ := List.mem_map.mp hpart
    exact (h name hname).1
  have hslash : 92 ∉ pathText (pathParts p) := by
    intro hmem
    rcases mem_pathText hmem with h47 | ⟨part, hpart, hc⟩
    · exact absurd h47 (by decide)
    · obtain ⟨name, hname, rfl⟩ := List.mem_map.mp hpart
      exact (h name hname).2 hc
  obtain ⟨s, hs⟩ := htext
  unfold archivePath
  rw [← hs, toStringLossy_utf8, hs]
  refine (List.map_congr_left fun c hc => ?_).trans (List.map_id _)
  have hne : c ≠ 92 := fun h92 => hslash (h92 ▸ hc)
  rw [if_neg hne]
  rfl

/-- The names of a path come back. -/
lemma normalizeArchivePath_pathText (p : RelPath) :
    normalizeArchivePath (pathText (pathParts p)) = .ok (pathParts p) := by
  have hcomponents : components (pathText (pathParts p)) = p.map fun name => .normal name.bytes :=
    components_pathText p
  unfold normalizeArchivePath
  rw [hcomponents]
  -- the names read so far stand before those still to come
  suffices hloop : ∀ (f : List Bytes → Component → Except DirError (List Bytes))
      (dest : List Bytes), (∀ dest part, f dest (.normal part) = .ok (dest ++ [part])) →
        (p.map fun name => Component.normal name.bytes).foldlM f dest
          = .ok (dest ++ pathParts p) from hloop _ [] fun _ _ => rfl
  intro f dest hf
  clear hcomponents
  induction p generalizing dest with
  | nil => simp [pathParts, pure, Except.pure]
  | cons name p ih =>
    rw [List.map_cons, List.foldlM_cons, hf]
    show List.foldlM f (dest ++ [name.bytes]) _ = _
    rw [ih, List.append_assoc]
    rfl

/-! ## Unpacking -/

/-- What unpacking a regular file asks for. -/
def regularEvent (codec : ArchiveCodec) (item : TarItem) (p : RelPath) : FsEvent FileName Bytes :=
  if codec.isOldDirectory item then .mkdir p else .put p item.data

/-- **A regular file is unpacked** into its directory, which is made first. Where this cannot be
done, nothing has changed. -/
lemma unpackRegular_eq {codec : ArchiveCodec} (hunpack : codec.UnpackRules) {p : RelPath}
    (hne : p ≠ []) (item : TarItem) (path : Bytes) {s : PgFiles} (hs : Rooted s) :
    (∀ s', (regularEvent codec item p).apply s = some s' →
      (codec.isOldDirectory item = true ∨ item.failure = none →
        unpackRegular codec item path (pathParts p) s = (s', .ok ())) ∧
      (codec.isOldDirectory item = false → item.failure ≠ none →
        ∃ err, unpackRegular codec item path (pathParts p) s = (s', .err err))) ∧
    ((regularEvent codec item p).apply s = none →
      ∃ err, unpackRegular codec item path (pathParts p) s = (s, .err err)) := by
  have hparent : (pathParts p).dropLast = pathParts p.dropLast := (List.map_dropLast ..).symm
  -- the directory cannot be made, or is there
  have hstop (hfile : p.dropLast.inits.any s.isFile = true) :
      ∃ err, unpackRegular codec item path (pathParts p) s = (s, .err err) := by
    have hdirs : withContext "create PGDATA directory" (pathParts p.dropLast)
        (createDirAll p.dropLast) s = (s, .err (.context "create PGDATA directory"
          (pathParts p.dropLast) (.io .notADirectory))) := by
      unfold withContext Stateful.mapErr createDirAll
      rw [if_pos hfile]
    unfold unpackRegular
    rw [hparent, onHostPath, hostPath_pathParts]
    exact ⟨_, Stateful.bind_of_err hdirs⟩
  have hmade (hfree : ∀ r, r <+: p.dropLast → s.isFile r = false) :
      unpackRegular codec item path (pathParts p) s
        = (codec.unpack item (pathParts p)).mapErr
          (fun text => .context "unpack PGDATA archive entry" [path] (.msg text))
            (s.makeDirs p.dropLast) := by
    have hdirs : withContext "create PGDATA directory" (pathParts p.dropLast)
        (createDirAll p.dropLast) s = (s.makeDirs p.dropLast, .ok ()) := by
      unfold withContext Stateful.mapErr createDirAll
      rw [FsEvent.any_inits_eq_false.mpr hfree]
      rfl
    unfold unpackRegular
    rw [hparent, onHostPath, hostPath_pathParts]
    exact Stateful.bind_of_ok hdirs
  have hthere : s.makeDirs p.dropLast p.dropLast = some .dir := if_pos (List.prefix_refl _)
  have hself : s.makeDirs p.dropLast p = s p := if_neg (not_prefix_dropLast hne)
  -- the directories above what is there are there
  have hkept (hp : s p ≠ none) : s.makeDirs p.dropLast = s := by
    funext q
    by_cases hq : q <+: p.dropLast
    · have hqp : q ≠ p := fun h => not_prefix_dropLast hne (h ▸ hq)
      exact (if_pos hq).trans
        (hs.closed q p (hq.trans (List.dropLast_prefix p)) hqp hp).symm
    · exact if_neg hq
  unfold regularEvent
  cases hold : codec.isOldDirectory item with
  | true =>
    rw [if_pos rfl]
    constructor
    · intro s' happly
      obtain ⟨hfree, rfl⟩ := FsEvent.apply_mkdir_eq_some.mp happly
      refine ⟨fun _ => ?_, fun h => absurd h (by simp)⟩
      have hnofile : (s.makeDirs p.dropLast).isFile p = false := by
        rw [Files.isFile_congr hself]
        exact hfree p (List.prefix_refl p)
      have hboth : Files.makeDirs (s.makeDirs p.dropLast) p = s.makeDirs p := by
        funext q
        by_cases hq : q <+: p
        · exact (if_pos hq).trans (if_pos hq).symm
        · exact (if_neg hq).trans ((if_neg fun h => hq (h.trans (List.dropLast_prefix p))).trans
            (if_neg hq).symm)
      rw [hmade fun r hr => hfree r (hr.trans (List.dropLast_prefix p)), Stateful.mapErr,
        hunpack.directory hold hthere hnofile, hboth]
    · intro hnone
      rw [FsEvent.apply] at hnone
      split at hnone
      · rename_i hfile
        by_cases habove : p.dropLast.inits.any s.isFile = true
        · exact hstop habove
        · -- the file is at the path itself
          have hfree := FsEvent.any_inits_eq_false.mp (Bool.not_eq_true _ ▸ habove)
          obtain ⟨r, hr, hrfile⟩ := List.any_eq_true.mp hfile
          rw [List.mem_inits] at hr
          have hrp : r = p := by
            by_contra hrp
            exact Bool.false_ne_true
              ((hfree r ((prefix_dropLast_iff hrp).mpr hr)).symm.trans hrfile)
          rw [hrp] at hrfile
          obtain ⟨data, hdata⟩ := Files.isFile_iff.mp hrfile
          rw [hmade hfree, hkept (by rw [hdata]; simp)]
          obtain ⟨text, htext⟩ := hunpack.noDirectory hold hrfile
          rw [Stateful.mapErr, htext]
          exact ⟨_, rfl⟩
      · cases hnone
  | false =>
    rw [if_neg Bool.false_ne_true]
    constructor
    · intro s' happly
      obtain ⟨hfree, hdir, rfl⟩ := FsEvent.apply_put_eq_some.mp happly
      have hnodir : (s.makeDirs p.dropLast).isDir p = false := by
        rw [Files.isDir, hself]
        exact hdir
      refine ⟨fun hcomplete => ?_, fun _ hfailure => ?_⟩
      · rw [hmade hfree, Stateful.mapErr,
          hunpack.file hold (hcomplete.resolve_left Bool.false_ne_true) hthere hnodir]
      · obtain ⟨text, htext⟩ := hunpack.partly hold hfailure hthere hnodir
        rw [hmade hfree, Stateful.mapErr, htext]
        exact ⟨_, rfl⟩
    · intro hnone
      rw [FsEvent.apply] at hnone
      split at hnone
      · rename_i hbad
        by_cases habove : p.dropLast.inits.any s.isFile = true
        · exact hstop habove
        · have hfree := FsEvent.any_inits_eq_false.mp (Bool.not_eq_true _ ▸ habove)
          have hdir := hbad.resolve_left habove
          rw [hmade hfree, hkept (by rw [Files.isDir_iff.mp hdir]; simp)]
          obtain ⟨text, htext⟩ := hunpack.noFile hold hdir
          rw [Stateful.mapErr, htext]
          exact ⟨_, rfl⟩
      · cases hnone

lemma regularEvent_makes {codec : ArchiveCodec} {item : TarItem} {p q : RelPath} {node : Node Bytes}
    (h : (regularEvent codec item p).Makes q node) : p = q := by
  unfold regularEvent at h
  split_ifs at h
  · exact h.1
  · exact h.1

/-- A regular file that is complete makes its change. -/
lemma follows_unpackRegular {codec : ArchiveCodec} (hunpack : codec.UnpackRules) {p : RelPath}
    (hne : p ≠ []) {item : TarItem}
    (hcomplete : codec.isOldDirectory item = true ∨ item.failure = none) (path : Bytes) :
    Follows (unpackRegular codec item path (pathParts p)) [regularEvent codec item p] := by
  refine .single ?_ (fun s s' hs h => ?_) fun s hs h => ?_
  · intro q node hmakes
    rw [← regularEvent_makes hmakes]
    exact hne
  · exact (((unpackRegular_eq hunpack hne item path hs).1 s' h).1 hcomplete)
  · obtain ⟨err, herr⟩ := (unpackRegular_eq hunpack hne item path hs).2 h
    exact ⟨s, err, herr⟩

/-- The entry is read back as it was written. -/
structure ReadsBack (item : TarItem) (e : TarEntry) : Prop where
  path : item.path = .ok e.path
  entryType : item.entryType = e.entryType
  data : item.data = e.data
  failure : item.failure = none

/-- A path of names does not end with a slash. -/
lemma not_slash_pathText {p : RelPath} (hne : p ≠ []) : ¬ [47] <:+ pathText (pathParts p) := by
  obtain ⟨front, name, rfl⟩ := (List.eq_nil_or_concat p).resolve_left hne
  obtain ⟨u, hu⟩ := pathText_concat (pathParts front) name.bytes
  have htext : pathText (pathParts (front ++ [name])) = u ++ name.bytes := by
    rw [pathParts, List.map_append]
    exact hu
  rw [List.concat_eq_append, htext]
  rintro ⟨t, ht⟩
  obtain ⟨init, c, hc⟩ := (List.eq_nil_or_concat name.bytes).resolve_left name.ne_nil
  rw [hc, List.concat_eq_append, ← List.append_assoc] at ht
  have hslash : (47 : UInt8) = c := by
    have hlast := List.append_inj_right' ht rfl
    exact (List.cons.inj hlast).1
  refine name.no_slash ?_
  rw [hc, hslash]
  simp

/-- **Unpacking the entries of an archive makes their changes.** -/
lemma follows_unpackEntries {codec : ArchiveCodec} (hunpack : codec.UnpackRules)
    {entries : EntryMap} {items : List TarItem}
    (hitems : List.Forall₂ ReadsBack items (entries.map tarEntry))
    (hplain : ∀ e ∈ entries, ∀ name ∈ e.1, PlainName name)
    (hskip : ∀ e ∈ entries, e.1 ≠ [] ∧ shouldSkipRelative (pathParts e.1) = false) :
    Follows (unpackEntries codec (items.map .ok)) (entries.map entryEvent) := by
  induction entries generalizing items with
  | nil =>
    cases hitems
    exact .nil
  | cons e entries ih =>
    cases hitems with
    | @cons item _ items _ hitem hitems =>
    obtain ⟨p, source⟩ := e
    obtain ⟨hne, hpass⟩ := hskip (p, source) (by simp)
    have hrest := ih hitems (fun e he => hplain e (List.mem_cons_of_mem _ he))
      fun e he => hskip e (List.mem_cons_of_mem _ he)
    have hpath : item.path = .ok (pathText (pathParts p)) := by
      rw [hitem.path, ← archivePath_eq (hplain (p, source) (by simp))]
      cases source <;> rfl
    have hempty : ¬ (pathParts p = [] || shouldSkipRelative (pathParts p)) = true := by
      rw [hpass, Bool.or_false, decide_eq_true_eq]
      exact fun h => hne (List.map_eq_nil_iff.mp h)
    -- the path does not end with a slash
    have hnew : codec.isOldDirectory item = false := by
      rw [← Bool.not_eq_true]
      intro hold
      obtain ⟨path, hpath', hslash⟩ := hunpack.slash hold
      rw [hpath] at hpath'
      cases hpath'
      exact not_slash_pathText hne hslash
    -- the loop goes on after this entry
    have hloop : unpackEntries codec (.ok item :: items.map .ok)
        = (do
          unpackEntry codec item (pathText (pathParts p)) (pathParts p)
          unpackEntries codec (items.map .ok)) := by
      rw [unpackEntries, hpath]
      simp only [normalizeArchivePath_pathText]
    rw [List.map_cons, List.map_cons, hloop]
    have hentry : Follows (unpackEntry codec item (pathText (pathParts p)) (pathParts p))
        [entryEvent (p, source)] := by
      unfold unpackEntry
      rw [if_neg hempty, hitem.entryType]
      cases source with
      | directory =>
        show Follows (withContext _ _ (onHostPath (pathParts p) createDirAll)) [.mkdir p]
        rw [onHostPath, hostPath_pathParts]
        exact follows_createDirAll _ _ hne
      | file data =>
        have hevent : regularEvent codec item p = entryEvent (p, .file data) := by
          unfold regularEvent
          rw [if_neg (by rw [hnew]; exact Bool.false_ne_true), hitem.data]
          rfl
        rw [← hevent]
        exact follows_unpackRegular hunpack hne (.inr hitem.failure) (pathText (pathParts p))
    exact hentry.append hrest

/-! ## What is left of a tree -/

/-- A tree without the entries that are skipped. -/
def withoutSkipped : RelPath → PgDir → PgDir
  | _, .nil => .nil
  | current, .file name data rest =>
    if shouldSkipRelative (pathParts (current ++ [name])) then withoutSkipped current rest
    else .file name data (withoutSkipped current rest)
  | current, .dir name sub rest =>
    if shouldSkipRelative (pathParts (current ++ [name])) then withoutSkipped current rest
    else .dir name (withoutSkipped (current ++ [name]) sub) (withoutSkipped current rest)

lemma names_withoutSkipped {current : RelPath} {d : PgDir} {m : FileName}
    (h : m ∈ (withoutSkipped current d).names) : m ∈ d.names := by
  induction d with
  | nil => exact h
  | file name data rest ih =>
    unfold withoutSkipped at h
    split_ifs at h
    · exact List.mem_cons_of_mem _ (ih h)
    · rcases List.mem_cons.mp h with rfl | h
      · simp [Dir.names]
      · exact List.mem_cons_of_mem _ (ih h)
  | dir name sub rest _ ih =>
    unfold withoutSkipped at h
    split_ifs at h
    · exact List.mem_cons_of_mem _ (ih h)
    · rcases List.mem_cons.mp h with rfl | h
      · simp [Dir.names]
      · exact List.mem_cons_of_mem _ (ih h)

lemma sorted_withoutSkipped {d : PgDir} (hd : d.Sorted) (current : RelPath) :
    (withoutSkipped current d).Sorted := by
  induction d generalizing current with
  | nil => exact hd
  | file name data rest ih =>
    unfold withoutSkipped
    split_ifs
    · exact ih hd.2 current
    · exact ⟨fun m hm => hd.1 m (names_withoutSkipped hm), ih hd.2 current⟩
  | dir name sub rest ihsub ih =>
    unfold withoutSkipped
    split_ifs
    · exact ih hd.2.2 current
    · exact ⟨fun m hm => hd.1 m (names_withoutSkipped hm), ihsub hd.2.1 _, ih hd.2.2 current⟩

/-- The skipped entries are not archived. -/
lemma treeEntries_withoutSkipped (current : RelPath) (d : PgDir) :
    treeEntries current (withoutSkipped current d) = treeEntries current d := by
  induction d generalizing current with
  | nil => rfl
  | file name data rest ih =>
    rw [withoutSkipped]
    cases hskip : shouldSkipRelative (pathParts (current ++ [name])) with
    | true =>
      rw [if_pos rfl, treeEntries, if_pos hskip, ih]
      rfl
    | false =>
      rw [if_neg (by simp), treeEntries, treeEntries, ih]
  | dir name sub rest ihsub ih =>
    rw [withoutSkipped]
    cases hskip : shouldSkipRelative (pathParts (current ++ [name])) with
    | true =>
      rw [if_pos rfl, treeEntries, if_pos hskip, ih]
      rfl
    | false =>
      rw [if_neg (by simp), treeEntries, treeEntries, ih, ihsub]

open Classical in
lemma find_withoutSkipped (current : RelPath) (d : PgDir) (p : RelPath) :
    (withoutSkipped current d).find p = if Passed current p then d.find p else none := by
  induction d generalizing current p with
  | nil =>
    cases p with
    | nil => simp [withoutSkipped, passed_nil]
    | cons x p => simp [withoutSkipped]
  | file name data rest ih =>
    cases p with
    | nil => simp [passed_nil]
    | cons x p =>
      have hrest := ih current (x :: p)
      rw [withoutSkipped, Dir.find_file_cons]
      by_cases hx : x = name
      · rw [if_pos hx]
        cases hskip : shouldSkipRelative (pathParts (current ++ [name])) with
        | true =>
          have hnot : ¬ Passed current (x :: p) := by
            rw [Passed.cons, hx, hskip]
            simp
          rw [if_pos rfl, hrest, if_neg hnot, if_neg hnot]
        | false =>
          rw [if_neg (by simp), Dir.find_file_cons, if_pos hx]
          by_cases hp : p = []
          · have hpassed : Passed current (x :: p) := by
              rw [Passed.cons, hx, hp]
              exact ⟨hskip, passed_nil _⟩
            rw [if_pos hpassed]
          · rw [if_neg hp, ite_self]
      · rw [if_neg hx, ← hrest]
        cases shouldSkipRelative (pathParts (current ++ [name])) with
        | true => rw [if_pos rfl]
        | false => rw [if_neg (by simp), Dir.find_file_cons, if_neg hx]
  | dir name sub rest ihsub ih =>
    cases p with
    | nil => simp [passed_nil]
    | cons x p =>
      have hrest := ih current (x :: p)
      rw [withoutSkipped, Dir.find_dir_cons]
      by_cases hx : x = name
      · rw [if_pos hx]
        cases hskip : shouldSkipRelative (pathParts (current ++ [name])) with
        | true =>
          have hnot : ¬ Passed current (x :: p) := by
            rw [Passed.cons, hx, hskip]
            simp
          rw [if_pos rfl, hrest, if_neg hnot, if_neg hnot]
        | false =>
          rw [if_neg (by simp), Dir.find_dir_cons, if_pos hx, ihsub]
          have hiff : Passed (current ++ [name]) p ↔ Passed current (x :: p) := by
            rw [Passed.cons, hx, hskip]
            simp
          simp only [hiff]
      · rw [if_neg hx, ← hrest]
        cases shouldSkipRelative (pathParts (current ++ [name])) with
        | true => rw [if_pos rfl]
        | false => rw [if_neg (by simp), Dir.find_dir_cons, if_neg hx]

/-! ## The round trip -/

/-- What is relied on of the crates for these entries: they are read back as they are written, and a
tar archive starts with a text that ends with NUL, the name field of its first header or nothing at
all. -/
structure ArchiveCodec.Lossless (codec : ArchiveCodec) (format : DataDirArchiveFormat)
    (entries : List TarEntry) : Prop where
  tar : ∃ text rest items, codec.tar entries = .ok (utf8 text ++ 0 :: rest) ∧
    codec.untar ⟨utf8 text ++ 0 :: rest, none⟩ = .ok (items.map .ok) ∧
      List.Forall₂ ReadsBack items entries
  gzip : format = .tarGz → ∀ bytes, codec.tar entries = .ok bytes →
    ∃ z, codec.gzip bytes = .ok (0x1f :: 0x8b :: z) ∧
      codec.gunzip (0x1f :: 0x8b :: z) = ⟨bytes, none⟩

/-- No text starts with the two bytes of gzip. -/
lemma not_gzip (text : String) (rest : Bytes) : ¬ [0x1f, 0x8b] <+: utf8 text ++ 0 :: rest := by
  rintro ⟨t, ht⟩
  rcases htext : utf8 text with _ | ⟨b, bs⟩
  · rw [htext] at ht
    simp at ht
  · rw [htext] at ht
    obtain ⟨hb, ht⟩ := List.cons.inj ht
    rw [← hb] at htext
    have hone : utf8 text = utf8 (String.singleton '\x1f') ++ bs := by
      rw [htext, utf8_singleton (by decide)]
      rfl
    obtain ⟨text', htext'⟩ := utf8_tail hone
    rcases bs with _ | ⟨b', bs⟩
    · simp at ht
    · -- the second byte would start a character
      rw [← (List.cons.inj ht).1] at htext'
      have hfirst := isUTF8FirstByte_of_utf8 htext'
      revert hfirst
      decide

/-- A dump is read back as the entries that were written, in both formats. -/
lemma ArchiveCodec.Lossless.dump {codec : ArchiveCodec} {format : DataDirArchiveFormat}
    {entries : EntryMap} (h : codec.Lossless format (entries.map tarEntry)) :
    ∃ bytes, (∀ d : PgDir, collectPgdataEntries [] d [] = entries →
        dumpMaterializedPgdataArchive codec format d = .ok bytes) ∧
      ∃ items, List.Forall₂ ReadsBack items (entries.map tarEntry) ∧
        unpackPgdataArchive codec bytes = unpackEntries codec (items.map .ok) := by
  obtain ⟨text, rest, items, htar, huntar, hitems⟩ := h.tar
  cases format with
  | tar =>
    refine ⟨utf8 text ++ 0 :: rest, fun d hd => ?_, items, hitems, ?_⟩
    · unfold dumpMaterializedPgdataArchive
      rw [hd]
      dsimp only
      rw [htar]
      rfl
    · unfold unpackPgdataArchive
      rw [if_neg (not_gzip text rest)]
      dsimp only
      rw [huntar]
  | tarGz =>
    obtain ⟨z, hgzip, hgunzip⟩ := h.gzip rfl _ htar
    refine ⟨0x1f :: 0x8b :: z, fun d hd => ?_, items, hitems, ?_⟩
    · unfold dumpMaterializedPgdataArchive
      rw [hd]
      dsimp only
      rw [htar]
      exact hgzip
    · unfold unpackPgdataArchive
      rw [if_pos (by simp), hgunzip]
      dsimp only
      rw [huntar]

/-- The names of an entry are names of the tree. -/
lemma treeEntries_find {d : PgDir} (hd : d.Sorted) {e : RelPath × EntrySource}
    (he : e ∈ treeEntries [] d) :
    e.1 ≠ [] ∧ d.find e.1 ≠ none ∧ shouldSkipRelative (pathParts e.1) = false := by
  have hevent : entryEvent e ∈ treeLog [] d := by
    rw [← map_entryEvent]
    exact List.mem_map_of_mem he
  have hmakes : ∃ node, (entryEvent e).Makes e.1 node := by
    obtain ⟨p, source⟩ := e
    cases source with
    | directory => exact ⟨.dir, rfl, rfl⟩
    | file data => exact ⟨.file data, rfl, rfl⟩
  obtain ⟨node, hmakes⟩ := hmakes
  obtain ⟨hne, hfind, hpassed⟩ := makes_treeLog hd hevent hmakes
  refine ⟨hne, by simp [hfind], ?_⟩
  exact hpassed e.1 (List.prefix_refl _) hne

open Classical in
/-- **Archives and back.** A tree of plain names is archived; unpacked into an empty directory it
is the tree without what is skipped, and archived again it is the same archive. -/
theorem unpack_dump (codec : ArchiveCodec) (hunpack : codec.UnpackRules)
    (format : DataDirArchiveFormat) (pgdata : PgTree)
    (hlossless : codec.Lossless format ((collectPgdataEntries [] pgdata.1 []).map tarEntry))
    (hnames : ∀ p, pgdata.1.find p ≠ none → ∀ name ∈ p, PlainName name) :
    ∃ bytes, dumpMaterializedPgdataArchive codec format pgdata.1 = .ok bytes ∧
      ∃ unpacked : PgTree,
        unpackPgdataArchive codec bytes emptyDirectory = (unpacked.1.find, .ok ()) ∧
        (∀ p, unpacked.1.find p
          = if ∃ r, r <+: p ∧ IsSkipped r then none else pgdata.1.find p) ∧
        ∀ again : PgTree, again.1.find = unpacked.1.find →
          dumpMaterializedPgdataArchive codec format again.1 = .ok bytes := by
  obtain ⟨d, hd⟩ := pgdata
  have hentries : ∀ e ∈ treeEntries [] d, e.1 ≠ [] ∧ ∀ name ∈ e.1, PlainName name := fun e he =>
    ⟨(treeEntries_find hd he).1, hnames e.1 (treeEntries_find hd he).2.1⟩
  have hleft : (withoutSkipped [] d).Sorted := sorted_withoutSkipped hd []
  have hcollect : ∀ {d' : PgDir}, d'.Sorted → collectPgdataEntries [] d' [] = treeEntries [] d' :=
    fun hd' => (collectPgdataEntries_eq hd' [] (by simp)).trans (List.nil_append _)
  rw [hcollect hd] at hlossless
  obtain ⟨bytes, hdump, items, hitems, hread⟩ := hlossless.dump
  have hfind : (withoutSkipped [] d).find = passedFiles d :=
    funext (find_withoutSkipped [] d)
  refine ⟨bytes, hdump d (hcollect hd), ⟨withoutSkipped [] d, hleft⟩, ?_, ?_, ?_⟩
  · have hfollows := follows_unpackEntries hunpack hitems (fun e he => (hentries e he).2)
      fun e he => ⟨(hentries e he).1, (treeEntries_find hd he).2.2⟩
    rw [map_entryEvent] at hfollows
    rw [hread, hfind]
    exact ((hfollows emptyDirectory rooted_emptyDirectory).1 _ (run_treeLog_empty hd)).1
  · intro p
    rw [hfind, passedFiles]
    by_cases hskip : ∃ r, r <+: p ∧ IsSkipped r
    · rw [if_pos hskip, if_neg ((passed_iff p).not.mpr (not_not.mpr hskip))]
    · rw [if_neg hskip, if_pos ((passed_iff p).mpr hskip)]
  · intro again hagain
    have heq : again.1 = withoutSkipped [] d := Dir.find_injective again.2 hleft hagain
    rw [heq]
    refine hdump _ ?_
    rw [hcollect hleft, treeEntries_withoutSkipped]

/-! ### A dump -/

/-- Entries whose paths and sizes fit into tar headers are read back. -/
lemma lossless_plainTar {e : TarEntry} {entries : List TarEntry}
    (hstorable : ∀ e' ∈ e :: entries, e'.member.Storable) {text : String}
    (hname : utf8 text = e.path) (hshort : e.path.length < 100)
    (htypes : ∀ e' ∈ e :: entries, ∀ code, e'.entryType ≠ .other code) :
    plainTar.Lossless .tar (e :: entries) where
  tar := by
    obtain ⟨htar, huntar⟩ := untar_archive hstorable
    obtain ⟨rest, hrest⟩ := archive_front hshort entries
    rw [← hname] at hrest
    rw [hrest] at htar huntar
    refine ⟨text, rest, (e :: entries).map fun e => TarItem.ofMember
      ⟨e.path, e.entryType.typeFlag, e.data, true, Tar.header e.member⟩, htar, ?_, ?_⟩
    · rw [huntar, List.map_map]
      rfl
    · rw [List.forall₂_map_left_iff, List.forall₂_same]
      intro e' he'
      refine ⟨rfl, ?_, rfl, rfl⟩
      show EntryType.ofTypeFlag e'.entryType.typeFlag = e'.entryType
      cases htype : e'.entryType with
      | regular => rfl
      | directory => rfl
      | other code => exact absurd htype (htypes e' he' code)
  gzip h := nomatch h

/-- `0000`. -/
def nameSegment : FileName := ⟨[48, 48, 48, 48], by decide⟩

/-- `pg_twophase`. -/
def nameTwophase : FileName := ⟨[112, 103, 95, 116, 119, 111, 112, 104, 97, 115, 101], by decide⟩

/-- `pg_xact`. -/
def nameXact : FileName := ⟨[112, 103, 95, 120, 97, 99, 116], by decide⟩

/-- `postmaster.opts`. -/
def nameOpts : FileName :=
  ⟨[112, 111, 115, 116, 109, 97, 115, 116, 101, 114, 46, 111, 112, 116, 115], by decide⟩

/-- A whiteout, an empty directory, a file in a directory and the file of a running server. -/
def dumpedTree : PgTree :=
  ⟨.file ⟨[46, 119, 104, 46, 120], by decide⟩ []
    (.dir nameTwophase .nil
      (.dir nameXact (.file nameSegment [1, 2] .nil)
        (.file nameOpts [52] .nil))),
    by simp only [Dir.Sorted, Dir.names]; decide +kernel⟩

/-- The tree without the whiteout and the file of the server comes back from a tar archive. -/
theorem unpack_dump_sample : plainTar.UnpackRules ∧
    plainTar.Lossless .tar ((collectPgdataEntries [] dumpedTree.1 []).map tarEntry) ∧
    (∀ p, dumpedTree.1.find p ≠ none → ∀ name ∈ p, PlainName name) ∧
    ∃ bytes, dumpMaterializedPgdataArchive plainTar .tar dumpedTree.1 = .ok bytes ∧
      ∃ unpacked : PgTree,
        unpackPgdataArchive plainTar bytes emptyDirectory = (unpacked.1.find, .ok ()) ∧
        unpacked.1.find [nameXact, nameSegment] = some (.file [1, 2]) ∧
        unpacked.1.find [nameTwophase] = some .dir := by
  have hcollect : collectPgdataEntries [] dumpedTree.1 []
      = [([nameTwophase], .directory), ([nameXact], .directory),
        ([nameXact, nameSegment], .file [1, 2])] := by decide +kernel
  have hlossless : plainTar.Lossless .tar
      ((collectPgdataEntries [] dumpedTree.1 []).map tarEntry) := by
    rw [hcollect]
    have hfirst : utf8 "pg_twophase" = nameTwophase.bytes := by decide +kernel
    refine lossless_plainTar ?_ hfirst (by decide +kernel) ?_
    · decide +kernel
    · rw [← List.map_cons, List.forall_mem_map]
      rintro ⟨p, source⟩ - code
      cases source <;> exact nofun
  have hplain : dumpedTree.1.Named PlainName := by
    refine ⟨⟨⟨".wh.x", by decide +kernel⟩, by decide⟩,
      ⟨⟨"pg_twophase", by decide +kernel⟩, by decide⟩, trivial,
      ⟨⟨"pg_xact", by decide +kernel⟩, by decide⟩,
      ⟨⟨⟨"0000", by decide +kernel⟩, by decide⟩, trivial⟩,
      ⟨⟨"postmaster.opts", by decide +kernel⟩, by decide +kernel⟩, trivial⟩
  have hnames : ∀ p, dumpedTree.1.find p ≠ none → ∀ name ∈ p, PlainName name :=
    fun p hp => hplain.of_find hp
  obtain ⟨bytes, hdump, unpacked, hunpack, hfind, -⟩ :=
    unpack_dump plainTar unpackRules_plainTar .tar dumpedTree hlossless hnames
  have hkept : ∀ p, Passed [] p → unpacked.1.find p = dumpedTree.1.find p := fun p hp => by
    rw [hfind, if_neg ((passed_iff p).mp hp)]
  refine ⟨unpackRules_plainTar, hlossless, hnames, bytes, hdump, unpacked, hunpack, ?_, ?_⟩
  · rw [hkept]
    · decide +kernel
    · exact Passed.cons.mpr ⟨by decide +kernel, Passed.cons.mpr ⟨by decide +kernel, passed_nil _⟩⟩
  · rw [hkept]
    · decide +kernel
    · exact Passed.cons.mpr ⟨by decide +kernel, passed_nil _⟩

end PgliteOxide.Pglite
