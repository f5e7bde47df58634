import PgliteOxide.Lib.DependencyOrder
import PgliteOxide.Pglite.Extensions

/-!
# What a set of extensions resolves to

The visits of `resolve_extension_set` keep the names they have resolved in `DependencyOrder`: a
visit adds an extension only after everything it depends on, so what has been resolved never leads
to a cycle or to a name that is missing. With `visitExtension_err` this says when resolving fails.
-/

namespace PgliteOxide.Pglite

open Lib Relation

/-- What the visits keep about the sets and the list they pass down. -/
structure VisitState.Sound (candidates : List Extension) (s : VisitState) : Prop where
  visited : ∀ name, name ∈ s.visited ↔ name ∈ s.resolved.map Extension.sqlName
  found : ∀ e ∈ s.resolved, candidateBySqlName candidates e.sqlName = some e
  ordered : DependencyOrder (Needs candidates) (s.resolved.map Extension.sqlName)
  apart : Disjoint s.visiting s.visited

section Visit

variable {candidates : List Extension} {fuel : ℕ} {s s' : VisitState} {extension : Extension}

/-- A visit that returns has visited the extension. -/
lemma visitExtension_visited (h : visitExtension candidates fuel s extension = .ok s') :
    extension.sqlName ∈ s'.visited := by
  cases fuel with
  | zero => simp [visitExtension] at h
  | succ fuel =>
    by_cases hvisited : extension.sqlName ∈ s.visited
    · rw [visitExtension, if_pos hvisited] at h
      exact Outcome.ok.inj h ▸ hvisited
    by_cases hvisiting : extension.sqlName ∈ s.visiting
    · rw [visitExtension, if_neg hvisited, if_pos hvisiting] at h
      simp at h
    rw [visitExtension_enter hvisited hvisiting, Outcome.bind_eq_ok] at h
    obtain ⟨t, -, ht⟩ := h
    rw [← Outcome.ok.inj ht]
    exact Finset.mem_insert_self _ _

/-- Visiting an extension again does nothing. -/
lemma visitExtension_again (h : visitExtension candidates fuel s extension = .ok s') :
    visitExtension candidates fuel s' extension = .ok s' := by
  have hvisited := visitExtension_visited h
  cases fuel with
  | zero => simp [visitExtension] at h
  | succ fuel => rw [visitExtension, if_pos hvisited]

/-- A visit from `root` adds only what `root` leads to. -/
structure Grows (candidates : List Extension) (root : String) (s s' : VisitState) : Prop where
  sound : s'.Sound candidates
  visiting : s'.visiting = s.visiting
  keeps : s.visited ⊆ s'.visited
  reached : ∀ name ∈ s'.visited, name ∈ s.visited ∨ ReflTransGen (Needs candidates) root name

lemma Grows.refl {root : String} (hs : s.Sound candidates) : Grows candidates root s s :=
  ⟨hs, rfl, subset_rfl, fun _ hname => .inl hname⟩

/-- What is added after something was added. -/
lemma Grows.trans {root dependency : String} {t : VisitState} (h : Grows candidates root s t)
    (hreach : ReflTransGen (Needs candidates) root dependency)
    (h' : Grows candidates dependency t s') : Grows candidates root s s' := by
  refine ⟨h'.sound, h'.visiting.trans h.visiting, h.keeps.trans h'.keeps, fun name hname => ?_⟩
  rcases h'.reached name hname with hold | hnew
  · exact h.reached name hold
  · exact .inr (hreach.trans hnew)

/-- Entering an extension that is new. -/
lemma VisitState.Sound.enter (hs : s.Sound candidates) (hvisited : extension.sqlName ∉ s.visited) :
    VisitState.Sound candidates { s with visiting := insert extension.sqlName s.visiting } where
  visited := hs.visited
  found := hs.found
  ordered := hs.ordered
  apart := Finset.disjoint_insert_left.mpr ⟨hvisited, hs.apart⟩

/-- Leaving an extension whose dependencies have been visited. -/
lemma VisitState.Sound.leave (hs : s.Sound candidates)
    (hfound : candidateBySqlName candidates extension.sqlName = some extension)
    (hvisiting : extension.sqlName ∈ s.visiting)
    (hdeps : ∀ dependency ∈ extension.dependencies, dependency ∈ s.visited) :
    VisitState.Sound candidates {
      visiting := s.visiting.erase extension.sqlName
      visited := insert extension.sqlName s.visited
      resolved := s.resolved ++ [extension] } where
  visited := by
    intro name
    rw [Finset.mem_insert, hs.visited, List.map_append, List.mem_append, List.map_singleton,
      List.mem_singleton]
    exact or_comm
  found := by
    intro e he
    rcases List.mem_append.mp he with hold | hnew
    · exact hs.found e hold
    · rw [List.mem_singleton.mp hnew]
      exact hfound
  ordered := by
    rw [List.map_append, List.map_singleton]
    have hnew : extension.sqlName ∉ s.visited := Finset.disjoint_left.mp hs.apart hvisiting
    refine hs.ordered.concat (fun hmem => hnew ((hs.visited _).mpr hmem)) ?_
    intro dependency hneeds
    obtain ⟨extension', hfound', hdep⟩ := hneeds
    rw [hfound] at hfound'
    rw [← Option.some.inj hfound'] at hdep
    exact (hs.visited dependency).mp (hdeps dependency hdep)
  apart := by
    rw [Finset.disjoint_insert_right]
    exact ⟨Finset.notMem_erase _ _, hs.apart.mono_left (Finset.erase_subset _ _)⟩

/-- **A visit adds only the extension and what it leads to**, each after what it needs. -/
lemma visitExtension_grows
    (hfound : candidateBySqlName candidates extension.sqlName = some extension)
    (hs : s.Sound candidates) (h : visitExtension candidates fuel s extension = .ok s') :
    Grows candidates extension.sqlName s s' := by
  induction fuel generalizing s s' extension with
  | zero => simp [visitExtension] at h
  | succ fuel ih =>
    by_cases hvisited : extension.sqlName ∈ s.visited
    · rw [visitExtension, if_pos hvisited] at h
      rw [← Outcome.ok.inj h]
      exact .refl hs
    by_cases hvisiting : extension.sqlName ∈ s.visiting
    · rw [visitExtension, if_neg hvisited, if_pos hvisiting] at h
      simp at h
    have hkeep := visitExtension_visiting h
    rw [visitExtension_enter hvisited hvisiting, Outcome.bind_eq_ok] at h
    obtain ⟨t, hloop, ht⟩ := h
    have hturn : ∀ dependency ∈ extension.dependencies, ∀ u u' : VisitState,
        u.Sound candidates → visitDependency candidates fuel extension u dependency = .ok u' →
        Grows candidates dependency u u' ∧ dependency ∈ u'.visited := by
      intro dependency _ u u' hu hvisit
      cases hcand : candidateBySqlName candidates dependency with
      | none => simp [visitDependency, hcand] at hvisit
      | some found =>
        rw [visitDependency_found hcand] at hvisit
        have hname := sqlName_of_candidateBySqlName hcand
        have hgrows := ih (hname.symm ▸ hcand) hu hvisit
        rw [hname] at hgrows
        exact ⟨hgrows, hname ▸ visitExtension_visited hvisit⟩
    have hgrows : Grows candidates extension.sqlName
        { s with visiting := insert extension.sqlName s.visiting } t := by
      refine Outcome.foldlM_invariant (I := Grows candidates extension.sqlName _) ?_
        (.refl (hs.enter hvisited)) hloop
      intro dependency hdep u u' hu hvisit
      exact hu.trans (.single ⟨extension, hfound, hdep⟩)
        (hturn dependency hdep u u' hu.sound hvisit).1
    have hdeps := Outcome.foldlM_each (P := fun dependency u => dependency ∈ u.visited)
      (I := fun u => u.Sound candidates)
      (fun dependency hdep u u' hu hvisit =>
        have hvisit := hturn dependency hdep u u' hu hvisit
        ⟨hvisit.1.sound, hvisit.2⟩)
      (fun dependency hdep _ u u' hu hvisit hmem =>
        (hturn dependency hdep u u' hu hvisit).1.keeps hmem)
      (hs.enter hvisited) hloop
    have hin : extension.sqlName ∈ t.visiting := by
      rw [hgrows.visiting]
      exact Finset.mem_insert_self _ _
    rw [← Outcome.ok.inj ht] at hkeep ⊢
    refine ⟨hgrows.sound.leave hfound hin hdeps, hkeep,
      hgrows.keeps.trans (Finset.subset_insert _ _), fun name hname => ?_⟩
    rcases Finset.mem_insert.mp hname with rfl | hname
    · exact .inr .refl
    · exact hgrows.reached name hname

end Visit

/-! ## The set -/

section Resolve

variable {candidates extensions resolved : List Extension}

/-- What is requested comes from the table, as every `Extension` that a caller can name does. -/
def FromTable (candidates extensions : List Extension) : Prop :=
  ∀ e ∈ extensions, candidateBySqlName candidates e.sqlName = some e

instance : Decidable (FromTable candidates extensions) := by
  unfold FromTable
  infer_instance

/-- The extensions of the shipped table can be requested together. -/
theorem fromTable_candidates (h : ∀ e ∈ extensions, e ∈ Extension.candidates) :
    FromTable Extension.candidates extensions := by
  have htable : FromTable Extension.candidates Extension.candidates := by decide +kernel
  exact fun e he => htable e (h e he)

/-- A name that a request leads to. -/
def Reached (candidates extensions : List Extension) (name : String) : Prop :=
  ∃ e ∈ extensions, ReflTransGen (Needs candidates) e.sqlName name

/-- A name that cannot be resolved: it is missing, or it depends on itself. -/
def Broken (candidates : List Extension) (name : String) : Prop :=
  candidateBySqlName candidates name = none ∨ TransGen (Needs candidates) name name

/-- The empty sets and list that the visits start with. -/
lemma VisitState.Sound.empty : VisitState.Sound candidates ⟨∅, ∅, []⟩ where
  visited := by simp
  found := by simp
  ordered := .nil
  apart := by simp

/-- What the visits of all requests come to. -/
lemma resolveExtensionSet_sound (hfound : FromTable candidates extensions)
    (h : resolveExtensionSet candidates extensions = .ok resolved) :
    ∃ s : VisitState, s.resolved = resolved ∧ s.Sound candidates ∧
      ∀ name, name ∈ s.visited ↔ Reached candidates extensions name := by
  unfold resolveExtensionSet at h
  obtain ⟨s, hloop, hs⟩ := Outcome.bind_eq_ok.mp h
  have hfound' : ∀ e ∈ extensions.mergeSort fun a b => a.sqlName ≤ b.sqlName,
      candidateBySqlName candidates e.sqlName = some e := fun e he =>
    hfound e (List.mem_mergeSort.mp he)
  have hinv := Outcome.foldlM_invariant
    (I := fun s => s.Sound candidates ∧ ∀ name ∈ s.visited, Reached candidates extensions name)
    (by
      intro e he t t' ht hvisit
      have hgrows := visitExtension_grows (hfound' e he) ht.1 hvisit
      refine ⟨hgrows.sound, fun name hname => ?_⟩
      rcases hgrows.reached name hname with hold | hnew
      · exact ht.2 name hold
      · exact ⟨e, List.mem_mergeSort.mp he, hnew⟩)
    ⟨.empty, by simp⟩ hloop
  have hall := Outcome.foldlM_each (P := fun e s => e.sqlName ∈ s.visited)
    (I := fun s => s.Sound candidates)
    (fun e he t t' ht hvisit =>
      ⟨(visitExtension_grows (hfound' e he) ht hvisit).sound, visitExtension_visited hvisit⟩)
    (fun e he _ t t' ht hvisit hmem => (visitExtension_grows (hfound' e he) ht hvisit).keeps hmem)
    .empty hloop
  refine ⟨s, Outcome.ok.inj hs, hinv.1, fun name => ⟨hinv.2 name, ?_⟩⟩
  rintro ⟨e, he, hreach⟩
  rw [hinv.1.visited]
  refine hinv.1.ordered.mem_of_reaches ?_ hreach
  exact (hinv.1.visited _).mp (hall e (List.mem_mergeSort.mpr he))

/-- Resolving fails exactly when a request leads to a name that cannot be resolved. -/
lemma resolveExtensionSet_err_iff (hfound : FromTable candidates extensions) :
    (∃ text, resolveExtensionSet candidates extensions = .err text) ↔
      ∃ name, Reached candidates extensions name ∧ Broken candidates name := by
  constructor
  · rintro ⟨text, h⟩
    by_contra hnone
    obtain ⟨resolved, hok⟩ := resolveExtensionSet_ok hfound fun e he name hreach => by
      have hgood : ¬ Broken candidates name := fun hbad => hnone ⟨name, ⟨e, he, hreach⟩, hbad⟩
      unfold Broken at hgood
      rw [not_or] at hgood
      exact hgood
    rw [hok] at h
    cases h
  · rintro ⟨name, ⟨e, he, hreach⟩, hbad⟩
    cases h : resolveExtensionSet candidates extensions with
    | err text => exact ⟨text, rfl⟩
    | panic => exact absurd h (resolveExtensionSet_ne_panic candidates extensions)
    | ok resolved =>
      have hresolves := (resolves_of_resolveExtensionSet hfound h e he).of_reaches hreach
      rcases hbad with hmissing | hcycle
      · obtain ⟨hname, -⟩ := hresolves
        rw [hmissing] at hname
        cases hname
      · exact absurd hcycle hresolves.acyclic

/-- The order and the number of the requests do not matter. -/
lemma resolveExtensionSet_congr {extensions' : List Extension}
    (hfound : FromTable candidates extensions) (hmem : ∀ e, e ∈ extensions' ↔ e ∈ extensions) :
    resolveExtensionSet candidates extensions' = resolveExtensionSet candidates extensions := by
  have hsorted : ∀ requested : List Extension,
      (requested.mergeSort fun a b => a.sqlName ≤ b.sqlName).Pairwise
        fun a b => a.sqlName ≤ b.sqlName := by
    intro requested
    have htrans : ∀ a b c : Extension, decide (a.sqlName ≤ b.sqlName) = true →
        decide (b.sqlName ≤ c.sqlName) = true → decide (a.sqlName ≤ c.sqlName) = true :=
      fun a b c hab hbc => decide_eq_true
        (le_trans (of_decide_eq_true hab) (of_decide_eq_true hbc))
    have htotal : ∀ a b : Extension,
        (decide (a.sqlName ≤ b.sqlName) || decide (b.sqlName ≤ a.sqlName)) = true := by
      intro a b
      rw [Bool.or_eq_true, decide_eq_true_eq, decide_eq_true_eq]
      exact le_total a.sqlName b.sqlName
    exact (List.pairwise_mergeSort htrans htotal requested).imp fun hab => of_decide_eq_true hab
  have hanti : ∀ a ∈ extensions.mergeSort fun a b => a.sqlName ≤ b.sqlName,
      ∀ b ∈ extensions.mergeSort fun a b => a.sqlName ≤ b.sqlName,
      a.sqlName ≤ b.sqlName → b.sqlName ≤ a.sqlName → a = b := by
    intro a ha b hb hab hba
    have hname := le_antisymm hab hba
    have hfirst := hfound a (List.mem_mergeSort.mp ha)
    rw [hname, hfound b (List.mem_mergeSort.mp hb)] at hfirst
    exact (Option.some.inj hfirst).symm
  have hagain : ∀ e s s', visitExtension candidates (candidates.length + 2) s e = .ok s' →
      visitExtension candidates (candidates.length + 2) s' e = .ok s' :=
    fun e s s' h => visitExtension_again h
  unfold resolveExtensionSet
  simp only
  rw [Outcome.foldlM_congr_of_mem_iff hagain hanti (hsorted extensions) (hsorted extensions')
    fun e => by rw [List.mem_mergeSort, List.mem_mergeSort, hmem]]

/-- **The dependency closure.** Resolving always ends. It fails exactly when the requests lead to a
cycle or to a missing name; otherwise it gives each extension they lead to, once and after
everything that it depends on. Which requests are made is all that matters. -/
theorem resolveExtensionSet_closure (candidates extensions : List Extension)
    (hfound : FromTable candidates extensions) :
    resolveExtensionSet candidates extensions ≠ .panic ∧
    ((∃ text, resolveExtensionSet candidates extensions = .err text) ↔
      ∃ name, Reached candidates extensions name ∧ Broken candidates name) ∧
    (∀ resolved, resolveExtensionSet candidates extensions = .ok resolved →
      (resolved.map Extension.sqlName).Nodup ∧
      (∀ e, e ∈ resolved ↔ candidateBySqlName candidates e.sqlName = some e ∧
        Reached candidates extensions e.sqlName) ∧
      ∀ front e rest, resolved = front ++ e :: rest → ∀ dependency ∈ e.dependencies,
        ∃ e' ∈ front, e'.sqlName = dependency) ∧
    ∀ extensions', (∀ e, e ∈ extensions' ↔ e ∈ extensions) →
      resolveExtensionSet candidates extensions' = resolveExtensionSet candidates extensions := by
  refine ⟨resolveExtensionSet_ne_panic candidates extensions, resolveExtensionSet_err_iff hfound,
    fun resolved h => ?_, fun extensions' hmem => resolveExtensionSet_congr hfound hmem⟩
  obtain ⟨s, rfl, hsound, hreached⟩ := resolveExtensionSet_sound hfound h
  refine ⟨hsound.ordered.nodup, fun e => ⟨fun he => ⟨hsound.found e he, ?_⟩, fun he => ?_⟩, ?_⟩
  · rw [← hreached, hsound.visited]
    exact List.mem_map_of_mem he
  · have hname := (hreached e.sqlName).mpr he.2
    rw [hsound.visited, List.mem_map] at hname
    obtain ⟨e', he', hname⟩ := hname
    have hfirst := hsound.found e' he'
    rw [hname, he.1] at hfirst
    exact Option.some.inj hfirst ▸ he'
  · intro front e rest hlist dependency hdep
    have hmem : e ∈ s.resolved := by
      rw [hlist]
      exact List.mem_append_right _ List.mem_cons_self
    have hneeds : Needs candidates e.sqlName dependency := ⟨e, hsound.found e hmem, hdep⟩
    have hnames : s.resolved.map Extension.sqlName
        = front.map Extension.sqlName ++ e.sqlName :: rest.map Extension.sqlName := by
      rw [hlist, List.map_append, List.map_cons]
    obtain ⟨e', he', hname⟩ := List.mem_map.mp (hsound.ordered.mem_front hnames hneeds)
    exact ⟨e', he', hname⟩

/-- Requests for `earthdistance` and `cube`, in any order and made again, resolve to `cube` and then
`earthdistance`. -/
theorem resolveExtensionSet_closure_earthdistance :
    resolveExtensionSet Extension.candidates
        [Extension.candidateEarthdistance, Extension.packaged "cube",
          Extension.candidateEarthdistance]
      = .ok [Extension.packaged "cube", Extension.candidateEarthdistance] := by
  have hcube : resolveExtensionSet Extension.candidates
      [Extension.packaged "cube", Extension.candidateEarthdistance]
        = .ok [Extension.packaged "cube", Extension.candidateEarthdistance] := by
    unfold resolveExtensionSet
    simp only
    rw [List.mergeSort_of_pairwise (by decide +kernel)]
    decide +kernel
  rw [← hcube]
  refine (resolveExtensionSet_closure Extension.candidates _ ?_).2.2.2 _ fun e => ?_
  · decide +kernel
  · simp [or_comm]

end Resolve

end PgliteOxide.Pglite
