import Mathlib.Data.List.Nodup
import PgliteOxide.Lib.Utf8
import PgliteOxide.Pglite.AotCache

/-!
# Cached artifacts are complete

A process that materializes an artifact owns the temporary file it is writing, and renames it
only when it has all the bytes; nobody else touches the file. So a file that is in the cache
under the name of an artifact has the bytes of the artifact, at every moment and whichever
processes died where.
-/

namespace PgliteOxide.Pglite

open Lib

/-! ## Names -/

/-- A temporary name. -/
def IsTmp (path : CachePath) : Prop := ".tmp".toList <:+ path.file

lemma isTmp_withExtension (path : CachePath) (kind : String) (pid suffix : ℕ) :
    IsTmp (path.withExtension s!"{kind}.{pid}.{suffix}.tmp") := by
  have hextension : ".tmp".toList <:+ s!"{kind}.{pid}.{suffix}.tmp".toList :=
    ⟨s!"{kind}.{pid}.{suffix}".toList, by rw [← String.toList_append]; rfl⟩
  exact hextension.trans ((List.suffix_cons _ _).trans (List.suffix_append _ _))

/-- A name with another ending is not temporary. -/
lemma not_isTmp_of_suffix {path : CachePath} {ending : List Char} (h : ending <:+ path.file)
    (hlen : 4 ≤ ending.length) (hne : ¬ ".tmp".toList <:+ ending) : ¬ IsTmp path := fun htmp =>
  hne (List.suffix_of_suffix_length_le htmp h hlen)

lemma not_isTmp_artifactPath (triple name hash : String) :
    ¬ IsTmp (artifactPath triple name hash) :=
  not_isTmp_of_suffix (List.suffix_append _ _) (by decide) (by decide)

lemma not_isTmp_receiptPath (path : CachePath) : ¬ IsTmp (receiptPath path) :=
  not_isTmp_of_suffix ((List.suffix_cons _ _).trans (List.suffix_append _ _)) (by decide)
    (by decide)

/-- What follows the last dash is determined. -/
lemma after_dash_inj {a a' h h' : List Char} (hdash : '-' ∉ h) (hdash' : '-' ∉ h')
    (heq : a ++ '-' :: h = a' ++ '-' :: h') : h = h' := by
  have htail (b t : List Char) (ht : '-' ∉ t) :
      (b ++ '-' :: t).reverse.takeWhile (· ≠ '-') = t.reverse := by
    rw [List.reverse_append, List.reverse_cons, List.append_assoc, List.takeWhile_append_of_pos]
    · simp
    · intro c hc
      rw [List.mem_reverse] at hc
      simp only [decide_eq_true_eq]
      exact fun hcd => ht (hcd ▸ hc)
  have hrev : h.reverse = h'.reverse := by rw [← htail a h hdash, heq, htail a' h' hdash']
  exact List.reverse_inj.mp hrev

/-- The hash of an artifact can be read off its path. -/
lemma artifactPath_inj {triple triple' name name' hash hash' : String} (hdash : '-' ∉ hash.toList)
    (hdash' : '-' ∉ hash'.toList)
    (h : artifactPath triple name hash = artifactPath triple' name' hash') : hash = hash' := by
  have hfile := congrArg CachePath.file h
  have hstem := List.append_cancel_right (show (safeName name ++ '-' :: hash.toList) ++ _
    = (safeName name' ++ '-' :: hash'.toList) ++ _ from hfile)
  exact String.toList_injective (after_dash_inj hdash hdash' hstem)

/-! ## Ownership -/

/-- A temporary file, with its contents if they are known. -/
structure Temp where
  path : CachePath
  content : Option Bytes

/-- Files under the name of an artifact have its bytes. -/
def Complete (rawOf : String → Bytes) (s : AotDir) : Prop :=
  ∀ triple name hash bytes, '-' ∉ hash.toList →
    s.files (artifactPath triple name hash) = some bytes → bytes = rawOf hash

/-- The bytes may be put at the path. -/
def Fits (rawOf : String → Bytes) (path : CachePath) (bytes : Bytes) : Prop :=
  ∀ triple name hash, '-' ∉ hash.toList → path = artifactPath triple name hash →
    bytes = rawOf hash

/-- What the owner of a temporary file knows. -/
def Temp.Known (s : AotDir) (t : Temp) : Prop :=
  IsTmp t.path ∧ s.used t.path ∧ ∀ bytes, t.content = some bytes → s.files t.path = some bytes

/-- Every temporary file has one owner, who knows what is in it. -/
structure Held (rawOf : String → Bytes) (s : AotDir) (temps : List (Option Temp)) : Prop where
  complete : Complete rawOf s
  owned : ∀ t, some t ∈ temps → t.Known s
  distinct : (temps.filterMap (Option.map Temp.path)).Nodup

/-- What a process may do with what it owns. -/
def aotDiscipline (rawOf : String → Bytes) :
    Discipline AotOp AotOp.Answer AotDir (Option Temp) where
  idle := none
  may temp
    | .createFile path => temp.map Temp.path = some path
    | .writeAll path _ => temp.map Temp.path = some path
    | .rename src dest =>
      ∃ bytes, temp = some ⟨src, some bytes⟩ ∧ ¬ IsTmp dest ∧ Fits rawOf dest bytes
    | .removeFile path => ¬ IsTmp path ∨ temp.map Temp.path = some path
    | _ => True
  after
    | _, .tmpPath _ _, path => some ⟨path, none⟩
    | _, .createFile path, _ => some ⟨path, none⟩
    | _, .writeAll path bytes, ans => some ⟨path, if ans = .ok () then some bytes else none⟩
    | temp, .rename _ _, ans => if ans = .ok () then none else temp
    | temp, .removeFile path, _ =>
      if temp.map Temp.path = some path then some ⟨path, none⟩ else temp
    | temp, _, _ => temp
  done _ := True
  holds := Held rawOf

@[simp] lemma AotDir.files_put (s : AotDir) (path : CachePath) (bytes : Bytes) :
    (s.put path bytes).files path = some bytes := if_pos rfl

@[simp] lemma AotDir.files_remove (s : AotDir) (path : CachePath) :
    (s.remove path).files path = none := if_pos rfl

lemma AotDir.files_put_of_ne (s : AotDir) (bytes : Bytes) {path q : CachePath} (hq : q ≠ path) :
    (s.put path bytes).files q = s.files q := if_neg hq

lemma AotDir.files_remove_of_ne (s : AotDir) {path q : CachePath} (hq : q ≠ path) :
    (s.remove path).files q = s.files q := if_neg hq

section Held

variable {rawOf : String → Bytes} {s s' : AotDir} {left right : List (Option Temp)}
  {temp temp' : Option Temp} {path : CachePath}

lemma mem_of_mem_others {t : Temp} (ht : some t ∈ left ++ right) :
    some t ∈ left ++ temp :: right := by
  rcases List.mem_append.mp ht with ht | ht
  · exact List.mem_append_left _ ht
  · exact List.mem_append_right _ (List.mem_cons_of_mem _ ht)

/-- What a process no longer knows, nobody needs. -/
lemma Held.drop (h : Held rawOf s (left ++ temp :: right)) : Held rawOf s (left ++ right) where
  complete := h.complete
  owned t ht := h.owned t (mem_of_mem_others ht)
  distinct := by
    have hsub : (left ++ right).Sublist (left ++ temp :: right) :=
      List.Sublist.append_left (List.sublist_cons_self _ _) _
    exact h.distinct.sublist (hsub.filterMap _)

/-- Another file may be owned if nobody else has it. -/
lemma Held.take (h : Held rawOf s (left ++ right)) (hknown : ∀ t, temp = some t → t.Known s)
    (hother : ∀ t, temp = some t → ∀ t', some t' ∈ left ++ right → t'.path ≠ t.path) :
    Held rawOf s (left ++ temp :: right) where
  complete := h.complete
  owned t ht := by
    rcases List.mem_append.mp ht with ht | ht
    · exact h.owned t (List.mem_append_left _ ht)
    rcases List.mem_cons.mp ht with ht | ht
    · exact hknown t ht.symm
    · exact h.owned t (List.mem_append_right _ ht)
  distinct := by
    have hnodup := h.distinct
    rw [List.filterMap_append] at hnodup
    cases htemp : temp with
    | none =>
      rw [List.filterMap_append]
      exact hnodup
    | some t =>
      rw [List.filterMap_append]
      show (_ ++ t.path :: _).Nodup
      rw [List.nodup_middle, List.nodup_cons, ← List.filterMap_append]
      refine ⟨fun hmem => ?_, h.distinct⟩
      obtain ⟨other, hmem, hpath⟩ := List.mem_filterMap.mp hmem
      obtain ⟨t', rfl, ht'⟩ := Option.map_eq_some_iff.mp hpath
      exact hother t htemp t' hmem ht'

/-- Nobody else owns the same file. -/
lemma Held.other_ne {t t' : Temp} (h : Held rawOf s (left ++ some t :: right))
    (ht' : some t' ∈ left ++ right) : t'.path ≠ t.path := by
  have hnodup := h.distinct
  rw [List.filterMap_append] at hnodup
  have hfree := (List.nodup_cons.mp (List.nodup_middle.mp hnodup)).1
  rw [← List.filterMap_append] at hfree
  exact fun hpath => hfree (List.mem_filterMap.mpr ⟨some t', ht', congrArg some hpath⟩)

/-- **The frame rule.** A change of one file that nobody owns. -/
lemma Held.update {temps : List (Option Temp)} (h : Held rawOf s temps)
    (hfiles : ∀ q, q ≠ path → s'.files q = s.files q) (hused : ∀ q, s.used q → s'.used q)
    (hfits : ∀ bytes, s'.files path = some bytes → Fits rawOf path bytes)
    (hother : ∀ t, some t ∈ temps → t.path ≠ path) : Held rawOf s' temps where
  complete := by
    intro triple name hash bytes hdash hbytes
    by_cases hpath : artifactPath triple name hash = path
    · rw [hpath] at hbytes
      exact hfits bytes hbytes triple name hash hdash hpath.symm
    · rw [hfiles _ hpath] at hbytes
      exact h.complete triple name hash bytes hdash hbytes
  owned t ht := by
    obtain ⟨htmp, huse, hcontent⟩ := h.owned t ht
    refine ⟨htmp, hused _ huse, fun bytes hbytes => ?_⟩
    rw [hfiles _ (hother t ht)]
    exact hcontent bytes hbytes
  distinct := h.distinct

/-- The owner may forget what is in the file. -/
lemma Held.forget {t : Temp} (h : Held rawOf s (left ++ some t :: right)) :
    Held rawOf s (left ++ some ⟨t.path, none⟩ :: right) := by
  obtain ⟨htmp, huse, -⟩ := h.owned t (by simp)
  refine h.drop.take ?_ ?_
  · intro t₁ ht₁
    rw [← Option.some.inj ht₁]
    exact ⟨htmp, huse, fun bytes hbytes => by simp at hbytes⟩
  · intro t₁ ht₁ t' ht'
    rw [← Option.some.inj ht₁]
    exact h.other_ne ht'

/-- The owner may change the file. -/
lemma Held.change {t : Temp} (h : Held rawOf s (left ++ some t :: right))
    (hfiles : ∀ q, q ≠ t.path → s'.files q = s.files q) (hused : s'.used = s.used)
    {content : Option Bytes}
    (hcontent : ∀ bytes, content = some bytes → s'.files t.path = some bytes) :
    Held rawOf s' (left ++ some ⟨t.path, content⟩ :: right) := by
  obtain ⟨htmp, huse, -⟩ := h.owned t (by simp)
  have hothers : Held rawOf s' (left ++ right) := by
    refine h.drop.update hfiles (fun q hq => hused ▸ hq) ?_ fun t' ht' => h.other_ne ht'
    intro bytes _ triple name hash _ hpath
    exact absurd (hpath ▸ htmp) (not_isTmp_artifactPath triple name hash)
  refine hothers.take ?_ ?_
  · intro t₁ ht₁
    rw [← Option.some.inj ht₁]
    exact ⟨htmp, hused ▸ huse, hcontent⟩
  · intro t₁ ht₁ t' ht'
    rw [← Option.some.inj ht₁]
    exact h.other_ne ht'

/-- A file that is not temporary may be put or removed. -/
lemma Held.change_public {temps : List (Option Temp)} (h : Held rawOf s temps)
    (hpath : ¬ IsTmp path) (hfiles : ∀ q, q ≠ path → s'.files q = s.files q)
    (hused : s'.used = s.used)
    (hfits : ∀ bytes, s'.files path = some bytes → Fits rawOf path bytes) :
    Held rawOf s' temps := by
  refine h.update hfiles (fun q hq => hused ▸ hq) hfits fun t ht heq => hpath ?_
  rw [← heq]
  exact (h.owned t ht).1

/-- A new temporary name. -/
lemma Held.fresh (h : Held rawOf s (left ++ temp :: right)) (htmp : IsTmp path)
    (hfresh : ¬ s.used path) :
    Held rawOf { s with used := fun q => q = path ∨ s.used q }
      (left ++ some ⟨path, none⟩ :: right) := by
  have hne : ∀ t, some t ∈ left ++ right → t.path ≠ path := fun t ht heq =>
    hfresh (heq ▸ (h.drop.owned t ht).2.1)
  have hothers : Held rawOf { s with used := fun q => q = path ∨ s.used q } (left ++ right) := by
    refine h.drop.update (fun _ _ => rfl) (fun q hq => Or.inr hq) ?_ hne
    intro bytes _ triple name hash _ hpath
    exact absurd (hpath ▸ htmp) (not_isTmp_artifactPath triple name hash)
  refine hothers.take ?_ ?_
  · intro t ht
    rw [← Option.some.inj ht]
    exact ⟨htmp, Or.inl rfl, fun bytes hbytes => by simp at hbytes⟩
  · intro t ht t' ht'
    rw [← Option.some.inj ht]
    exact hne t' ht'

end Held

section Calls

variable {rawOf : String → Bytes} {s s' : AotDir} {left right : List (Option Temp)}
  {temp : Option Temp} {path : CachePath}

/-- The owned file, under its path. -/
lemma exists_of_map_path (hown : temp.map Temp.path = some path) :
    ∃ t : Temp, temp = some t ∧ t.path = path :=
  Option.map_eq_some_iff.mp hown

lemma Held.put (h : Held rawOf s (left ++ temp :: right)) (hown : temp.map Temp.path = some path)
    (bytes : Bytes) {content : Option Bytes} (hcontent : ∀ b, content = some b → b = bytes) :
    Held rawOf (s.put path bytes) (left ++ some ⟨path, content⟩ :: right) := by
  obtain ⟨t, rfl, rfl⟩ := exists_of_map_path hown
  refine h.change (fun q hq => s.files_put_of_ne bytes hq) (by rfl) fun b hb => ?_
  rw [hcontent b hb, AotDir.files_put]

lemma Held.call_removeFile (h : Held rawOf s (left ++ temp :: right))
    (hmay : ¬ IsTmp path ∨ temp.map Temp.path = some path) (hs' : s' = s.remove path ∨ s' = s) :
    Held rawOf s' (left ++ (if temp.map Temp.path = some path then some ⟨path, none⟩ else temp)
      :: right) := by
  have hfiles : ∀ q, q ≠ path → s'.files q = s.files q := by
    intro q hq
    rcases hs' with rfl | rfl
    · exact s.files_remove_of_ne hq
    · rfl
  have hused : s'.used = s.used := by rcases hs' with rfl | rfl <;> rfl
  by_cases hown : temp.map Temp.path = some path
  · rw [if_pos hown]
    obtain ⟨t, rfl, rfl⟩ := exists_of_map_path hown
    exact h.change hfiles hused fun bytes hbytes => by simp at hbytes
  · rw [if_neg hown]
    have hpath : ¬ IsTmp path := hmay.resolve_right hown
    refine h.change_public hpath hfiles hused fun bytes hbytes => ?_
    rcases hs' with rfl | rfl
    · simp at hbytes
    · rintro triple name hash hdash rfl
      exact h.complete triple name hash bytes hdash hbytes

/-- The finished file gets the name of the artifact. -/
lemma Held.call_rename {src dest : CachePath} {bytes : Bytes}
    (h : Held rawOf s (left ++ some ⟨src, some bytes⟩ :: right)) (hdest : ¬ IsTmp dest)
    (hfits : Fits rawOf dest bytes) :
    Held rawOf ((s.remove src).put dest bytes) (left ++ none :: right) := by
  have hgone : Held rawOf (s.remove src) (left ++ some ⟨src, none⟩ :: right) :=
    h.change (fun q hq => s.files_remove_of_ne hq) (by rfl) fun bytes hbytes => by simp at hbytes
  have hpublic : Held rawOf ((s.remove src).put dest bytes) (left ++ right) := by
    refine hgone.drop.change_public hdest (fun q hq => AotDir.files_put_of_ne _ bytes hq) (by rfl)
      fun b hb => ?_
    rw [AotDir.files_put] at hb
    rw [← Option.some.inj hb]
    exact hfits
  exact hpublic.take (fun t ht => by simp at ht) fun t ht => by simp at ht

end Calls

/-- **Every step keeps every artifact complete.** -/
lemma aotDiscipline_sound (rawOf : String → Bytes) :
    (aotDiscipline rawOf).Sound aotEffects where
  spawn := by
    intro s temps h
    have heq : temps ++ [] = temps := List.append_nil temps
    have hheld : Held rawOf s (temps ++ []) := heq.symm ▸ h
    exact hheld.take (fun t ht => by simp [aotDiscipline] at ht)
      fun t ht => by simp [aotDiscipline] at ht
  call := by
    intro s s' left temp right op ans h hmay hstep
    have hheld : Held rawOf s (left ++ temp :: right) := h
    cases op with
    | removeFile path =>
      refine hheld.call_removeFile hmay ?_
      rcases hstep with ⟨-, -, hs'⟩ | ⟨-, -, hs'⟩ | ⟨-, -, hs'⟩
      · exact Or.inl hs'
      · exact Or.inr hs'
      · exact Or.inr hs'
    | tmpPath path kind =>
      obtain ⟨⟨pid, suffix, hans⟩, hfresh, rfl⟩ := hstep
      have htmp : IsTmp ans := hans ▸ isTmp_withExtension path kind pid suffix
      exact hheld.fresh htmp hfresh
    | createFile path =>
      rcases hstep with ⟨rfl, -⟩ | rfl
      · obtain ⟨t, rfl, rfl⟩ := exists_of_map_path hmay
        exact hheld.forget
      · exact hheld.put hmay [] (by simp)
    | writeAll path bytes =>
      rcases hstep with ⟨rfl, rfl⟩ | ⟨part, -, rfl, hans⟩
      · exact hheld.put hmay bytes (by simp)
      · refine hheld.put hmay part fun b hb => ?_
        rw [if_neg hans] at hb
        simp at hb
    | rename src dest =>
      obtain ⟨bytes, rfl, hdest, hfits⟩ := hmay
      rcases hstep with ⟨moved, hmoved, rfl, rfl⟩ | ⟨hans, rfl⟩
      · -- what is moved is what the owner has written
        have hbytes := (hheld.owned ⟨src, some bytes⟩ (by simp)).2.2 bytes rfl
        rw [hmoved] at hbytes
        rw [Option.some.inj hbytes]
        exact hheld.call_rename hdest hfits
      · have hafter : (aotDiscipline rawOf).after (some ⟨src, some bytes⟩) (.rename src dest) ans
            = some ⟨src, some bytes⟩ := if_neg hans
        rw [hafter]
        exact h
    | createDirAll path =>
      have hs' : s' = s := hstep
      rw [hs']
      exact h
    | _ =>
      rw [hstep.1]
      exact h
  crash := by
    intro s s' left temp right op h hmay hcrash
    have hheld : Held rawOf s (left ++ temp :: right) := h
    cases op with
    | writeAll path bytes =>
      rcases hcrash with rfl | ⟨part, -, rfl⟩
      · exact hheld.drop
      · have hput : Held rawOf (s.put path part) (left ++ some ⟨path, none⟩ :: right) :=
          hheld.put hmay part (by simp)
        exact hput.drop
    | _ =>
      rw [show s' = s from hcrash]
      exact hheld.drop

/-! ## The programs -/

section Programs

variable {rawOf : String → Bytes} {path : CachePath}

lemma obeys_removeFileIfExists (hpath : ¬ IsTmp path) :
    (Aot.removeFileIfExists path).Obeys (aotDiscipline rawOf) (fun temp _ => temp = none) none := by
  refine ⟨Or.inl hpath, fun removed => ?_⟩
  cases removed with
  | ok _ => exact rfl
  | error err =>
    cases err with
    | notFound => exact rfl
    | other text => trivial

lemma obeys_removeCachedArtifact (hpath : ¬ IsTmp path) :
    (Aot.removeCachedArtifact path).Obeys (aotDiscipline rawOf) (fun temp _ => temp = none)
      none := by
  unfold Aot.removeCachedArtifact
  rw [Prog.obeys_bind]
  refine (obeys_removeFileIfExists hpath).mono ?_
  rintro temp _ rfl
  exact obeys_removeFileIfExists (not_isTmp_receiptPath path)

/-- A write that succeeds has written everything. -/
lemma obeys_write (text : String) (bytes : Bytes) :
    (Aot.write text path bytes).Obeys (aotDiscipline rawOf)
      (fun temp _ => temp = some ⟨path, some bytes⟩) (some ⟨path, none⟩) := by
  refine ⟨rfl, fun created => ?_⟩
  cases created with
  | error err => trivial
  | ok _ =>
    refine ⟨rfl, fun written => ?_⟩
    cases written with
    | error err => trivial
    | ok _ => exact rfl

/-- Nothing but the artifact goes under its name: a receipt is somewhere else. -/
lemma fits_receiptPath (bytes : Bytes) : Fits rawOf (receiptPath path) bytes := by
  intro triple name hash _ hpath
  have hbin : ".bin".toList <:+ (receiptPath path).file := hpath ▸ List.suffix_append _ _
  have hjson : "json".toList <:+ (receiptPath path).file := by
    refine List.IsSuffix.trans ?_ ((List.suffix_cons _ _).trans (List.suffix_append _ _))
    exact ⟨"receipt.".toList, by decide⟩
  exact absurd (List.suffix_of_suffix_length_le hbin hjson (by decide)) (by decide)

/-- Write under a new temporary name. -/
lemma obeys_writeTmp {α : Type} {Q : Option Temp → α → Prop} (base : CachePath) (kind text : String)
    (bytes : Bytes) {next : CachePath → AotProg α} {temp : Option Temp}
    (hnext : ∀ tmp, (next tmp).Obeys (aotDiscipline rawOf) Q (some ⟨tmp, some bytes⟩)) :
    (Aot.tmpPath base kind >>= fun tmp => Aot.write text tmp bytes >>= fun _ => next tmp).Obeys
      (aotDiscipline rawOf) Q temp := by
  refine ⟨trivial, fun tmp => ?_⟩
  show Prog.Obeys _ _ (some (Temp.mk tmp none)) (Aot.write text tmp bytes >>= _)
  rw [Prog.obeys_bind]
  refine (obeys_write text bytes).mono ?_
  rintro temp _ rfl
  exact hnext tmp

variable (build : AotBuild) (name : String) (art : AotManifestArtifact) (mode : AotVerifyMode)

lemma obeys_writeCacheReceipt (hash : String) :
    (Aot.writeCacheReceipt build name art path hash).Obeys (aotDiscipline rawOf) (fun _ _ => True)
      none := by
  unfold Aot.writeCacheReceipt
  cases art.rawSize with
  | none => trivial
  | some rawSize =>
    refine obeys_writeTmp _ _ _ _ fun tmp => ?_
    refine ⟨⟨_, rfl, not_isTmp_receiptPath path, fits_receiptPath _⟩, fun renamed => ?_⟩
    cases renamed with
    | ok _ => trivial
    | error err =>
      refine ⟨Or.inr rfl, fun removed => ?_⟩
      trivial

/-- The artifact gets its name when all its bytes are there. -/
lemma obeys_materializeAt {raw : Bytes} {hash : String} (hpath : ¬ IsTmp path)
    (hfits : Fits rawOf path raw) :
    (Aot.materializeAt build name art raw hash path).Obeys (aotDiscipline rawOf) (fun _ _ => True)
      none := by
  unfold Aot.materializeAt
  rw [Prog.obeys_bind]
  refine (obeys_removeCachedArtifact hpath).mono ?_
  rintro temp _ rfl
  refine ⟨trivial, fun created => ?_⟩
  cases created with
  | error err => trivial
  | ok _ =>
    refine obeys_writeTmp _ _ _ _ fun tmp => ?_
    refine ⟨⟨raw, rfl, hpath, hfits⟩, fun renamed => ?_⟩
    cases renamed with
    | error err =>
      refine ⟨Or.inr rfl, fun removed => ?_⟩
      trivial
    | ok _ =>
      show Prog.Obeys _ _ none (Aot.writeCacheReceipt build name art path hash >>= _)
      rw [Prog.obeys_bind]
      exact (obeys_writeCacheReceipt build name art hash).mono fun _ _ _ => trivial

/-- The embedded bytes of an artifact are those of its raw hash, which has no dash. -/
def Genuine (rawOf : String → Bytes) (build : AotBuild) (name : String) (art : AotManifestArtifact)
    (mode : AotVerifyMode) : Prop :=
  ∀ raw hash, Aot.artifactRawBytes build name art mode = .ok raw →
    Aot.expectedRawHash build name art mode raw = .ok hash →
      '-' ∉ hash.toList ∧ raw = rawOf hash

lemma obeys_materializeArtifact (hgenuine : Genuine rawOf build name art mode) :
    (Aot.materializeArtifact build name art mode).Obeys (aotDiscipline rawOf) (fun _ _ => True)
      none := by
  unfold Aot.materializeArtifact
  cases hraw : Aot.artifactRawBytes build name art mode with
  | error text => trivial
  | ok raw =>
    cases hhash : Aot.expectedRawHash build name art mode raw with
    | error text => simp only [hhash]; trivial
    | ok hash =>
      obtain ⟨hdash, rfl⟩ := hgenuine raw hash hraw hhash
      simp only [hhash]
      unfold Aot.cachePath
      by_cases hdir : build.hasCacheDir = true
      · rw [if_pos hdir]
        refine obeys_materializeAt build name art (not_isTmp_artifactPath _ _ _) ?_
        intro triple' name' hash' hdash' hpath
        rw [artifactPath_inj hdash hdash' hpath]
      · rw [if_neg hdir]
        trivial

lemma obeys_removeThenNone (hpath : ¬ IsTmp path) :
    (Aot.removeCachedArtifact path >>= fun _ => pure none : AotProg (Option InstalledArtifact)).Obeys
      (aotDiscipline rawOf) (fun _ _ => True) none := by
  rw [Prog.obeys_bind]
  exact (obeys_removeCachedArtifact hpath).mono fun _ _ _ => trivial

lemma obeys_verifyFull (hash : String) (hpath : ¬ IsTmp path) :
    (Aot.verifyFull build name art path hash).Obeys (aotDiscipline rawOf) (fun _ _ => True)
      none := by
  refine ⟨trivial, fun content => ?_⟩
  cases content with
  | error err => cases err <;> trivial
  | ok bytes =>
    show Prog.Obeys _ _ none (if _ then _ else _)
    split
    · exact obeys_removeThenNone hpath
    · cases Aot.wrongSize art bytes.length <;> trivial

lemma obeys_cacheReceiptMatches (hash : String) :
    (Aot.cacheReceiptMatches build name art path hash).Obeys (aotDiscipline rawOf)
      (fun temp _ => temp = none) none := by
  unfold Aot.cacheReceiptMatches
  cases art.rawSize with
  | none => exact rfl
  | some rawSize =>
    refine ⟨trivial, fun found => ?_⟩
    cases found with
    | error err =>
      cases err with
      | notFound => exact rfl
      | other text => trivial
    | ok len =>
      show Prog.Obeys _ _ none (if _ then _ else _)
      split
      · exact rfl
      refine ⟨trivial, fun content => ?_⟩
      cases content with
      | error err =>
        cases err with
        | notFound => exact rfl
        | other text => trivial
      | ok bytes =>
        simp only [Prog.bind]
        cases build.parseReceipt bytes with
        | none => exact rfl
        | some receipt => exact rfl

/-- Reading writes nothing, and removes only artifacts and receipts. -/
lemma obeys_cachedRawArtifact :
    (Aot.cachedRawArtifact build name art mode).Obeys (aotDiscipline rawOf) (fun _ _ => True)
      none := by
  unfold Aot.cachedRawArtifact
  cases art.rawSha256 with
  | none => trivial
  | some hash =>
    show Prog.Obeys _ _ none (Aot.cachePath build name hash >>= _)
    unfold Aot.cachePath
    by_cases hdir : build.hasCacheDir = true
    · rw [if_pos hdir]
      have hpath := not_isTmp_artifactPath build.targetTriple name hash
      refine ⟨trivial, fun found => ?_⟩
      cases found with
      | false => trivial
      | true =>
        cases mode with
        | full => exact obeys_verifyFull build name art hash hpath
        | fast =>
          show Prog.Obeys _ _ none (Aot.cacheReceiptMatches build name art _ hash >>= _)
          rw [Prog.obeys_bind]
          refine (obeys_cacheReceiptMatches build name art hash).mono ?_
          rintro temp fits rfl
          cases fits with
          | false => exact obeys_removeThenNone hpath
          | true => trivial
    · rw [if_neg hdir]
      trivial

/-- What makes the fast check say yes: it has seen the size of the file. -/
lemma wp_cacheReceiptMatches (hash : String) :
    (Aot.cacheReceiptMatches build name art path hash).wp fun tr r => r = .ok true →
      ∃ len, art.rawSize = some len ∧ ⟨AotOp.metadata path, .ok len⟩ ∈ tr := by
  unfold Aot.cacheReceiptMatches
  cases hsize : art.rawSize with
  | none => simp
  | some rawSize =>
    intro found
    cases found with
    | error err => cases err <;> intro h <;> simp at h
    | ok len =>
      by_cases hlen : len = rawSize
      · rw [hlen]
        exact Prog.wp_of_forall fun tr r _ => ⟨rawSize, rfl, by simp⟩
      · show Prog.wp (if len ≠ rawSize then _ else _) _
        rw [if_pos hlen]
        intro h
        simp at h

/-- A file that is returned is under the name of the artifact, and its size has been checked. -/
lemma wp_cachedRawArtifact_fast :
    (Aot.cachedRawArtifact build name art .fast).wp fun tr r => ∀ inst, r = .ok (some inst) →
      ∃ len, art.rawSha256 = some inst.sha256 ∧
        inst.path = artifactPath build.targetTriple name inst.sha256 ∧
        art.rawSize = some len ∧ ⟨AotOp.metadata inst.path, .ok len⟩ ∈ tr := by
  unfold Aot.cachedRawArtifact
  cases hhash : art.rawSha256 with
  | none =>
    intro inst h
    simp at h
  | some hash =>
    show Prog.wp (Aot.cachePath build name hash >>= _) _
    unfold Aot.cachePath
    by_cases hdir : build.hasCacheDir = true
    · rw [if_pos hdir]
      intro found
      cases found with
      | false =>
        intro inst h
        simp at h
      | true =>
        show Prog.wp (Aot.cacheReceiptMatches build name art _ hash >>= _) _
        rw [Prog.wp_bind]
        refine Prog.wp_mono (wp_cacheReceiptMatches build name art hash) fun tr r hr => ?_
        cases r with
        | error e =>
          intro inst h
          simp at h
        | ok fits =>
          cases fits with
          | false =>
            show Prog.wp (Aot.removeCachedArtifact _ >>= fun _ => pure none) _
            rw [Prog.wp_bind]
            refine Prog.wp_of_forall fun tr' r' => ?_
            cases r' with
            | error e =>
              intro inst h
              simp at h
            | ok _ =>
              intro inst h
              simp at h
          | true =>
            obtain ⟨len, hlen, hseen⟩ := hr rfl
            intro inst h
            have hinst : inst = ⟨artifactPath build.targetTriple name hash, hash⟩ := by
              injection h with h
              exact (Option.some.inj h).symm
            rw [hinst]
            exact ⟨len, rfl, rfl, hlen, by simp [hseen]⟩
    · rw [if_neg hdir]
      intro inst h
      simp at h

end Programs

/-! ## The main result -/

/-- What a process does. -/
inductive AotTask where
  | materializeArtifact (build : AotBuild) (name : String) (art : AotManifestArtifact)
      (mode : AotVerifyMode)
  | cachedRawArtifact (build : AotBuild) (name : String) (art : AotManifestArtifact)
      (mode : AotVerifyMode)
  | removeCachedArtifact (triple name hash : String)

def AotTask.prog : AotTask → AotProg (Option InstalledArtifact)
  | materializeArtifact build name art mode =>
    Aot.materializeArtifact build name art mode >>= fun inst => pure (some inst)
  | cachedRawArtifact build name art mode => Aot.cachedRawArtifact build name art mode
  | removeCachedArtifact triple name hash =>
    Aot.removeCachedArtifact (artifactPath triple name hash) >>= fun _ => pure none

/-- What is embedded in the process belongs to its hash. -/
def AotTask.Genuine (rawOf : String → Bytes) : AotTask → Prop
  | materializeArtifact build name art mode => Pglite.Genuine rawOf build name art mode
  | _ => True

lemma AotTask.obeys {rawOf : String → Bytes} {task : AotTask} (h : task.Genuine rawOf) :
    task.prog.Obeys (aotDiscipline rawOf) (fun _ _ => True) none := by
  cases task with
  | materializeArtifact build name art mode =>
    show Prog.Obeys _ _ none (Aot.materializeArtifact build name art mode >>= _)
    rw [Prog.obeys_bind]
    exact (obeys_materializeArtifact build name art mode h).mono fun _ _ _ => trivial
  | cachedRawArtifact build name art mode => exact obeys_cachedRawArtifact build name art mode
  | removeCachedArtifact triple name hash =>
    exact obeys_removeThenNone (not_isTmp_artifactPath triple name hash)

abbrev AotPool := Pool AotOp AotOp.Answer AotError (Option InstalledArtifact) AotDir

/-- What the processes come to, from a cache without torn artifacts. -/
def AotPool.Reachable (rawOf : String → Bytes) (pool : AotPool) : Prop :=
  Pool.Reachable aotEffects (fun p => ∃ task : AotTask, task.Genuine rawOf ∧ p = task.prog)
    (Complete rawOf) pool

/-- Whoever died where, no artifact is torn. -/
lemma AotPool.Reachable.complete {rawOf : String → Bytes} {pool : AotPool}
    (h : pool.Reachable rawOf) : Complete rawOf pool.state := by
  have hheld := Pool.Reachable.holds (aotDiscipline_sound rawOf)
    (by rintro p ⟨task, htask, rfl⟩; exact AotTask.obeys htask)
    (fun s hs => ⟨hs, by simp, by simp⟩) h
  exact hheld.2.complete

/-- **Cached artifacts are complete.** Whichever processes have materialized, looked up and removed
artifacts, in whatever order and wherever some of them died: what the fast lookup returns had, when
its size was checked, all the raw bytes of the artifact. -/
theorem cached_artifact_complete {rawOf : String → Bytes} {pool : AotPool}
    (h : pool.Reachable rawOf)
    {run : Running AotOp AotOp.Answer AotError (Option InstalledArtifact) AotDir}
    (hrun : run ∈ pool.running) {build : AotBuild} {name : String} {art : AotManifestArtifact}
    (hstarted : run.started = Aot.cachedRawArtifact build name art .fast)
    {inst : InstalledArtifact} (hrest : run.rest = .ret (some inst))
    (hdash : '-' ∉ inst.sha256.toList) :
    art.rawSha256 = some inst.sha256 ∧
      inst.path = artifactPath build.targetTriple name inst.sha256 ∧
      ∃ seen, (⟨.metadata inst.path, .ok (rawOf inst.sha256).length⟩, seen) ∈ run.past ∧
        seen.files inst.path = some (rawOf inst.sha256) := by
  obtain ⟨-, hleads, hpast⟩ :=
    Pool.Reachable.past (fun pool h => AotPool.Reachable.complete h) h run hrun
  rw [hrest, hstarted] at hleads
  have hexec := hleads.exec (.ret (some inst))
  rw [List.append_nil] at hexec
  obtain ⟨len, hhash, hpath, -, hmem⟩ :=
    hexec.of_wp (wp_cachedRawArtifact_fast build name art) inst rfl
  refine ⟨hhash, hpath, ?_⟩
  obtain ⟨⟨event, seen⟩, hseen, hevent⟩ := List.mem_map.mp hmem
  dsimp only at hevent
  subst hevent
  obtain ⟨hcomplete, s', -, hanswer⟩ := hpast _ hseen
  obtain ⟨bytes, hbytes, hlen⟩ := Option.map_eq_some_iff.mp
    (show (seen.files inst.path).map List.length = some len from hanswer)
  have hraw : bytes = rawOf inst.sha256 :=
    hcomplete build.targetTriple name inst.sha256 bytes hdash (hpath ▸ hbytes)
  rw [hraw] at hbytes hlen
  refine ⟨seen, ?_, hbytes⟩
  rw [hlen]
  exact hseen

/-! An artifact of one byte, its receipt, and the processes that write and find them. -/

def letterHash : String := "ca978112ca1bbdcafac231b39a23dc4da786eff8147c4e72b9807785afee48bb"

def letterArtifact : AotManifestArtifact where
  name := "a"
  sha256 := letterHash
  moduleSha256 := "e3b0c44298fc1c149afbf4c8996fb92427ae41e4649b934ca495991b7852b855"
  rawSha256 := some letterHash
  rawSize := some 1

def linuxTriple : String := "x86_64-unknown-linux-gnu"

def letterReceipt : AotCacheReceipt where
  formatVersion := cacheReceiptFormatVersion
  artifactName := "a"
  targetTriple := linuxTriple
  engine := expectedAotEngine
  wasmerVersion := expectedWasmerVersion
  wasmerWasixVersion := expectedWasmerWasixVersion
  rawSha256 := letterHash
  rawSize := 1
  compressedSha256 := letterHash
  moduleSha256 := letterArtifact.moduleSha256

/-- The receipt as `serde_json` writes it. -/
def receiptText (receipt : AotCacheReceipt) : Bytes :=
  utf8 ("\x7b\"format-version\":" ++ toString receipt.formatVersion
    ++ ",\"artifact-name\":\"" ++ receipt.artifactName
    ++ "\",\"target-triple\":\"" ++ receipt.targetTriple
    ++ "\",\"engine\":\"" ++ receipt.engine
    ++ "\",\"wasmer-version\":\"" ++ receipt.wasmerVersion
    ++ "\",\"wasmer-wasix-version\":\"" ++ receipt.wasmerWasixVersion
    ++ "\",\"raw-sha256\":\"" ++ receipt.rawSha256
    ++ "\",\"raw-size\":" ++ toString receipt.rawSize
    ++ ",\"compressed-sha256\":\"" ++ receipt.compressedSha256
    ++ "\",\"module-sha256\":\"" ++ receipt.moduleSha256 ++ "\"\x7d")

def letterBuild : AotBuild where
  hasCacheDir := true
  targetTriple := linuxTriple
  targetArtifactBytes name := if name = "a" then some [0x61] else none
  decompress _ := .error .decode
  sha256Hex _ := letterHash
  receiptJson := receiptText
  parseReceipt bytes := if bytes = receiptText letterReceipt then some letterReceipt else none

def letterPath : CachePath := artifactPath linuxTriple "a" letterHash

/-- The temporary names of two processes, and the one of a receipt. -/
def letterTmp (pid : ℕ) : CachePath := letterPath.withExtension s!"bin.{pid}.0.tmp"

def letterReceiptTmp : CachePath := (receiptPath letterPath).withExtension "receipt.2.0.tmp"

/-- An empty cache. -/
def emptyDir : AotDir where
  files _ := none
  used _ := False

def AotDir.give (s : AotDir) (path : CachePath) : AotDir :=
  { s with used := fun q => q = path ∨ s.used q }

/-- The cache behind a process that died while it wrote. -/
def tornDir : AotDir := (emptyDir.give (letterTmp 1)).put (letterTmp 1) []

/-- The cache behind another one that has renamed its artifact. -/
def promotedDir : AotDir :=
  ((((tornDir.give (letterTmp 2)).put (letterTmp 2) []).put (letterTmp 2) [0x61]).remove
    (letterTmp 2)).put letterPath [0x61]

/-- The cache with the receipt. -/
def letterDir : AotDir :=
  ((((promotedDir.give letterReceiptTmp).put letterReceiptTmp []).put letterReceiptTmp
    (receiptText letterReceipt)).remove letterReceiptTmp).put (receiptPath letterPath)
      (receiptText letterReceipt)

/-- What a process has called, with the directories it found. -/
abbrev LetterPast := List (Event AotOp AotOp.Answer × AotDir)

abbrev writes : AotProg (Option InstalledArtifact) :=
  (AotTask.materializeArtifact letterBuild "a" letterArtifact .fast).prog

abbrev looksUp : AotProg (Option InstalledArtifact) :=
  (AotTask.cachedRawArtifact letterBuild "a" letterArtifact .fast).prog

lemma genuine_letter : Genuine (fun _ => [0x61]) letterBuild "a" letterArtifact .fast := by
  intro raw hash hraw hhash
  have hraw' : Aot.artifactRawBytes letterBuild "a" letterArtifact .fast = .ok [0x61] := rfl
  rw [hraw'] at hraw
  cases hraw
  have hhash' : Aot.expectedRawHash letterBuild "a" letterArtifact .fast [0x61] = .ok letterHash :=
    rfl
  rw [hhash'] at hhash
  cases hhash
  exact ⟨by decide +kernel, rfl⟩

/-- A step of one of the processes. -/
lemma AotPool.Reachable.step {rawOf : String → Bytes}
    (left right : List (Running AotOp AotOp.Answer AotError (Option InstalledArtifact) AotDir))
    {s s' : AotDir} {p : AotProg (Option InstalledArtifact)} {past : LetterPast} {op : AotOp}
    {next : op.Answer → AotProg (Option InstalledArtifact)} {ans : op.Answer}
    (h : AotPool.Reachable rawOf ⟨s, left ++ ⟨p, past, .call op next⟩ :: right⟩)
    (hstep : aotStep op s s' ans) :
    AotPool.Reachable rawOf ⟨s', left ++ ⟨p, past ++ [(⟨op, ans⟩, s)], next ans⟩ :: right⟩ :=
  Pool.Reachable.call h hstep

/-- A process that dies while it writes the artifact, in an empty cache. -/
lemma reachable_tornDir : AotPool.Reachable (fun _ => [0x61]) ⟨tornDir, []⟩ := by
  have hempty : AotPool.Reachable (fun _ => [0x61]) ⟨emptyDir, []⟩ :=
    Pool.Reachable.start fun _ _ _ _ _ hfiles => nomatch hfiles
  have hspawn : AotPool.Reachable (fun _ => [0x61]) ⟨emptyDir, [⟨writes, [], writes⟩]⟩ :=
    Pool.Reachable.spawn hempty
      ⟨.materializeArtifact letterBuild "a" letterArtifact .fast, genuine_letter, rfl⟩
  have hgone := AotPool.Reachable.step [] [] hspawn
    (show aotStep (.removeFile letterPath) emptyDir emptyDir (.error .notFound) from
      .inr (.inl ⟨rfl, rfl, rfl⟩))
  have hgone' := AotPool.Reachable.step [] [] hgone
    (show aotStep (.removeFile (receiptPath letterPath)) emptyDir emptyDir (.error .notFound) from
      .inr (.inl ⟨rfl, rfl, rfl⟩))
  have hmade := AotPool.Reachable.step [] [] hgone'
    (show aotStep (.createDirAll letterPath) emptyDir emptyDir (.ok ()) from rfl)
  have hnamed := AotPool.Reachable.step [] [] hmade
    (show aotStep (.tmpPath letterPath "bin") emptyDir (emptyDir.give (letterTmp 1)) (letterTmp 1)
      from ⟨⟨1, 0, rfl⟩, id, rfl⟩)
  have hcreated := AotPool.Reachable.step [] [] hnamed
    (show aotStep (.createFile (letterTmp 1)) (emptyDir.give (letterTmp 1)) tornDir (.ok ()) from
      .inr rfl)
  have hdead : AotPool.Reachable (fun _ => [0x61]) ⟨tornDir, [] ++ []⟩ :=
    Pool.Reachable.crash hcreated (.inl rfl)
  exact hdead

lemma letterTmp_ne : letterTmp 2 ≠ letterTmp 1 ∧ letterReceiptTmp ≠ letterTmp 1 ∧
    letterReceiptTmp ≠ letterTmp 2 := by decide +kernel

/-- What was torn is neither the artifact nor its receipt. -/
lemma tornDir_files : tornDir.files letterPath = none ∧
    tornDir.files (receiptPath letterPath) = none := by
  have hne : letterPath ≠ letterTmp 1 ∧ receiptPath letterPath ≠ letterTmp 1 := by decide +kernel
  exact ⟨AotDir.files_put_of_ne _ _ hne.1, AotDir.files_put_of_ne _ _ hne.2⟩

/-- The lookup sees the artifact of a process that has not written its receipt yet, and finds the
receipt there when it reads it. -/
theorem cached_artifact_letter : ∃ pool : AotPool, pool.Reachable (fun _ => [0x61]) ∧
    ∃ run ∈ pool.running, run.rest = .ret (some ⟨letterPath, letterHash⟩) ∧
      ∃ seen, (⟨.metadata letterPath, .ok 1⟩, seen) ∈ run.past ∧
        seen.files letterPath = some [0x61] := by
  obtain ⟨hne, hneReceipt, hneReceipt'⟩ := letterTmp_ne
  obtain ⟨habsent, habsent'⟩ := tornDir_files
  have hspawn : AotPool.Reachable (fun _ => [0x61]) ⟨tornDir, [⟨writes, [], writes⟩]⟩ :=
    Pool.Reachable.spawn reachable_tornDir
      ⟨.materializeArtifact letterBuild "a" letterArtifact .fast, genuine_letter, rfl⟩
  have hboth : AotPool.Reachable (fun _ => [0x61])
      ⟨tornDir, [⟨writes, [], writes⟩, ⟨looksUp, [], looksUp⟩]⟩ :=
    Pool.Reachable.spawn hspawn
      ⟨.cachedRawArtifact letterBuild "a" letterArtifact .fast, trivial, rfl⟩
  have hgone := AotPool.Reachable.step [] [_] hboth
    (show aotStep (.removeFile letterPath) tornDir tornDir (.error .notFound) from
      .inr (.inl ⟨rfl, habsent, rfl⟩))
  have hgone' := AotPool.Reachable.step [] [_] hgone
    (show aotStep (.removeFile (receiptPath letterPath)) tornDir tornDir (.error .notFound) from
      .inr (.inl ⟨rfl, habsent', rfl⟩))
  have hmade := AotPool.Reachable.step [] [_] hgone'
    (show aotStep (.createDirAll letterPath) tornDir tornDir (.ok ()) from rfl)
  have hnamed := AotPool.Reachable.step [] [_] hmade
    (show aotStep (.tmpPath letterPath "bin") tornDir (tornDir.give (letterTmp 2)) (letterTmp 2)
      from ⟨⟨2, 0, rfl⟩, fun hused => hused.elim hne id, rfl⟩)
  have hcreated := AotPool.Reachable.step [] [_] hnamed
    (show aotStep (.createFile (letterTmp 2)) (tornDir.give (letterTmp 2))
      ((tornDir.give (letterTmp 2)).put (letterTmp 2) []) (.ok ()) from .inr rfl)
  have hwritten := AotPool.Reachable.step [] [_] hcreated
    (show aotStep (.writeAll (letterTmp 2) [0x61]) _
      (((tornDir.give (letterTmp 2)).put (letterTmp 2) []).put (letterTmp 2) [0x61]) (.ok ()) from
      .inl ⟨rfl, rfl⟩)
  have hpromoted := AotPool.Reachable.step [] [_] hwritten
    (show aotStep (.rename (letterTmp 2) letterPath) _ promotedDir (.ok ()) from
      .inl ⟨[0x61], AotDir.files_put .., rfl, rfl⟩)
  -- the lookup, before the receipt is there
  have hartifact : promotedDir.files letterPath = some [0x61] := AotDir.files_put ..
  have hfound := AotPool.Reachable.step [_] [] hpromoted
    (show aotStep (.fileExists letterPath) promotedDir promotedDir true from
      ⟨rfl, by rw [hartifact]; rfl⟩)
  have hsized := AotPool.Reachable.step [_] [] hfound
    (show aotStep (.metadata letterPath) promotedDir promotedDir (.ok 1) from
      ⟨rfl, by show Option.map _ _ = _; rw [hartifact]; rfl⟩)
  -- the receipt
  have hnamed' := AotPool.Reachable.step [] [_] hsized
    (show aotStep (.tmpPath (receiptPath letterPath) "receipt") promotedDir
      (promotedDir.give letterReceiptTmp) letterReceiptTmp from
      ⟨⟨2, 0, rfl⟩, fun hused => hused.elim hneReceipt' fun hused => hused.elim hneReceipt id, rfl⟩)
  have hcreated' := AotPool.Reachable.step [] [_] hnamed'
    (show aotStep (.createFile letterReceiptTmp) _
      ((promotedDir.give letterReceiptTmp).put letterReceiptTmp []) (.ok ()) from .inr rfl)
  have hwritten' := AotPool.Reachable.step [] [_] hcreated'
    (show aotStep (.writeAll letterReceiptTmp (receiptText letterReceipt)) _
      (((promotedDir.give letterReceiptTmp).put letterReceiptTmp []).put letterReceiptTmp
        (receiptText letterReceipt)) (.ok ()) from .inl ⟨rfl, rfl⟩)
  have hpromoted' := AotPool.Reachable.step [] [_] hwritten'
    (show aotStep (.rename letterReceiptTmp (receiptPath letterPath)) _ letterDir (.ok ()) from
      .inl ⟨_, AotDir.files_put .., rfl, rfl⟩)
  -- the rest of the lookup
  have hread := AotPool.Reachable.step [_] [] hpromoted'
    (show aotStep (.read (receiptPath letterPath)) letterDir letterDir
      (.ok (receiptText letterReceipt)) from ⟨rfl, AotDir.files_put ..⟩)
  have hparse : letterBuild.parseReceipt (receiptText letterReceipt) = some letterReceipt := by
    simp only [letterBuild, if_true]
  have hfits :
      Aot.receiptMatches letterBuild "a" letterArtifact letterReceipt letterHash 1 = true := by
    decide +kernel
  simp only [Prog.bind, hparse, hfits] at hread
  refine ⟨_, hread, _, List.mem_cons_of_mem _ (List.mem_singleton.mpr rfl), rfl, ?_⟩
  exact (@cached_artifact_complete _ _ hread _ (List.mem_cons_of_mem _ (List.mem_singleton.mpr rfl))
    letterBuild "a" letterArtifact rfl _ rfl (by decide +kernel)).2.2

end PgliteOxide.Pglite
