import Mathlib.Data.List.TakeWhile
import Mathlib.Tactic.Common

/-!
# `getopt_long`

Arguments are read one by one: a cluster of short options, a long option or the beginning of one,
an operand, or `--`, behind which everything is an operand. An option that wants a value and has
none takes the next argument, whatever it is. Operands may stand between options. Every argument
carries a tag, so that what was read can be traced back to the arguments.
-/

namespace Lib

inductive Arity where
  | none
  | required
  | optional
deriving DecidableEq, Repr

/-- The options of a program: what a letter and a name stand for. -/
structure OptionTable (κ : Type) where
  short : Char → Option (κ × Arity)
  long : List (List Char × κ × Arity)

/-- An option that was named. It is plain if its letter is the first of the argument, or its name
is not abbreviated. -/
structure Named (κ : Type) where
  key : κ
  plain : Bool
deriving DecidableEq, Repr

/-- What one argument is. -/
inductive ArgReading (κ : Type) where
  | operand
  | terminator
  /-- Options with the values that are written in the argument. -/
  | options (items : List (Named κ × Option (List Char)))
  /-- The last option wants the next argument. -/
  | pending (items : List (Named κ × Option (List Char))) (last : Named κ)
  /-- There is no such option, or it takes no value. -/
  | failed (items : List (Named κ × Option (List Char)))
deriving DecidableEq, Repr

/-- The options an argument names. -/
def ArgReading.named {κ : Type} : ArgReading κ → List (Named κ)
  | .operand | .terminator => []
  | .options items | .failed items => items.map Prod.fst
  | .pending items last => items.map Prod.fst ++ [last]

/-- A long option and the value it is written with. -/
def giveValue {κ : Type} (named : Named κ) : Arity → Option (List Char) → ArgReading κ
  | .none, none => .options [(named, none)]
  | .none, some _ => .failed []
  | .required, none => .pending [] named
  | .required, some value => .options [(named, some value)]
  | .optional, value => .options [(named, value)]

lemma mem_named_giveValue {κ : Type} {n named : Named κ} {arity : Arity}
    {value : Option (List Char)} (h : n ∈ (giveValue named arity value).named) : n = named := by
  cases arity <;> cases value <;> simp_all [giveValue, ArgReading.named]

namespace OptionTable

variable {κ : Type} (t : OptionTable κ)

/-- A name stands for itself, or else for the only name it is the beginning of. -/
def resolve (name : List Char) : Option (Named κ × Arity) :=
  match t.long.find? fun entry => entry.1 == name with
  | some entry => some (⟨entry.2.1, true⟩, entry.2.2)
  | none =>
    match t.long.filter fun entry => name.isPrefixOf entry.1 with
    | [entry] => some (⟨entry.2.1, false⟩, entry.2.2)
    | _ => none

/-- A long option: the name, and a value behind the first `=`. -/
def readLong (text : List Char) : ArgReading κ :=
  match t.resolve (text.takeWhile (· ≠ '=')) with
  | none => .failed []
  | some (named, arity) => giveValue named arity (text.dropWhile (· ≠ '=')).tail?

/-- A cluster of short options. `plain` tells the first letter. -/
def readShort (plain : Bool) (items : List (Named κ × Option (List Char))) :
    List Char → ArgReading κ
  | [] => .options items
  | c :: rest =>
    match t.short c with
    | none => .failed items
    | some (key, .none) => readShort false (items ++ [(⟨key, plain⟩, none)]) rest
    | some (key, .required) =>
      if rest = [] then .pending items ⟨key, plain⟩
      else .options (items ++ [(⟨key, plain⟩, some rest)])
    | some (key, .optional) =>
      .options (items ++ [(⟨key, plain⟩, if rest = [] then none else some rest)])

def readArg : List Char → ArgReading κ
  | '-' :: '-' :: [] => .terminator
  | '-' :: '-' :: text => t.readLong text
  | '-' :: c :: rest => t.readShort true [] (c :: rest)
  | _ => .operand

/-! ## What is plain -/

variable {t}

/-- A long option that is plain is in the table under its name. -/
lemma mem_of_resolve {name : List Char} {named : Named κ} {arity : Arity}
    (h : t.resolve name = some (named, arity)) (hplain : named.plain = true) :
    (name, named.key, arity) ∈ t.long := by
  unfold resolve at h
  rcases hfind : t.long.find? fun entry => entry.1 == name with _ | entry
  · rw [hfind] at h
    rcases hfilter : t.long.filter fun entry => name.isPrefixOf entry.1 with _ | ⟨entry, _ | _⟩
    · rw [hfilter] at h
      cases h
    · rw [hfilter] at h
      have hnamed := congrArg Prod.fst (Option.some.inj h)
      dsimp only at hnamed
      rw [← hnamed] at hplain
      cases hplain
    · rw [hfilter] at h
      cases h
  · rw [hfind] at h
    obtain ⟨hnamed, harity⟩ := Prod.mk.inj (Option.some.inj h)
    have hname : entry.1 = name := by simpa using List.find?_some hfind
    rw [← hnamed, ← harity, ← hname]
    exact List.mem_of_find?_eq_some hfind

/-- The name of a plain long option is the argument up to an `=`. -/
lemma readLong_plain {text : List Char} {named : Named κ} (h : named ∈ (t.readLong text).named)
    (hplain : named.plain = true) :
    ∃ name arity, (name, named.key, arity) ∈ t.long ∧
      (text = name ∨ ∃ value, text = name ++ '=' :: value) := by
  have htext : text = text.takeWhile (· ≠ '=') ++ text.dropWhile (· ≠ '=') :=
    List.takeWhile_append_dropWhile.symm
  have hsplit : text = text.takeWhile (· ≠ '=') ∨
      ∃ value, text = text.takeWhile (· ≠ '=') ++ '=' :: value := by
    rcases hvalue : text.dropWhile (· ≠ '=') with _ | ⟨c, value⟩
    · left
      rw [hvalue, List.append_nil] at htext
      exact htext
    · right
      have hc := List.head?_dropWhile_not (· ≠ '=') text
      rw [hvalue] at hc
      have heq : c = '=' := by simpa using hc
      rw [hvalue, heq] at htext
      exact ⟨value, htext⟩
  unfold readLong at h
  rcases hresolve : t.resolve (text.takeWhile (· ≠ '=')) with _ | ⟨found, arity⟩
  · rw [hresolve] at h
    cases h
  · rw [hresolve] at h
    have hfound := mem_named_giveValue h
    rw [hfound] at hplain ⊢
    exact ⟨_, arity, mem_of_resolve hresolve hplain, hsplit⟩

/-- Behind the first letter nothing is plain. -/
lemma readShort_behind (items : List (Named κ × Option (List Char))) (letters : List Char) :
    ∀ named ∈ (t.readShort false items letters).named,
      named ∈ items.map Prod.fst ∨ named.plain = false := by
  induction letters generalizing items with
  | nil => exact fun named h => Or.inl h
  | cons c rest ih =>
    intro named h
    unfold readShort at h
    rcases hshort : t.short c with _ | ⟨key, _ | _ | _⟩
    · rw [hshort] at h
      exact Or.inl h
    · rw [hshort] at h
      rcases ih _ named h with hmem | hplain
      · rw [List.map_append, List.mem_append] at hmem
        rcases hmem with hmem | hmem
        · exact Or.inl hmem
        · rw [List.mem_singleton.mp hmem]
          exact Or.inr rfl
      · exact Or.inr hplain
    · rw [hshort] at h
      dsimp only at h
      split_ifs at h
      · rcases List.mem_append.mp h with hmem | hmem
        · exact Or.inl hmem
        · rw [List.mem_singleton.mp hmem]
          exact Or.inr rfl
      · unfold ArgReading.named at h
        dsimp only at h
        rw [List.map_append, List.mem_append] at h
        rcases h with hmem | hmem
        · exact Or.inl hmem
        · rw [List.mem_singleton.mp hmem]
          exact Or.inr rfl
    · rw [hshort] at h
      unfold ArgReading.named at h
      dsimp only at h
      rw [List.map_append, List.mem_append] at h
      rcases h with hmem | hmem
      · exact Or.inl hmem
      · rw [List.mem_singleton.mp hmem]
        exact Or.inr rfl

/-- A plain short option is the first letter. -/
lemma readShort_plain {c : Char} {rest : List Char} {named : Named κ}
    (h : named ∈ (t.readShort true [] (c :: rest)).named) (hplain : named.plain = true) :
    ∃ arity, t.short c = some (named.key, arity) := by
  unfold readShort at h
  rcases hshort : t.short c with _ | ⟨key, _ | _ | _⟩
  · rw [hshort] at h
    cases h
  · rw [hshort] at h
    rcases readShort_behind _ rest named h with hmem | hbehind
    · rw [List.mem_singleton.mp hmem]
      exact ⟨.none, rfl⟩
    · rw [hbehind] at hplain
      cases hplain
  · rw [hshort] at h
    dsimp only at h
    split_ifs at h
    · rw [List.mem_singleton.mp h]
      exact ⟨.required, rfl⟩
    · rw [List.mem_singleton.mp h]
      exact ⟨.required, rfl⟩
  · rw [hshort] at h
    rw [List.mem_singleton.mp h]
    exact ⟨.optional, rfl⟩

lemma readArg_long {name : List Char} (hne : name ≠ []) :
    t.readArg ('-' :: '-' :: name) = t.readLong name := by
  rcases name with _ | ⟨c, rest⟩
  · exact absurd rfl hne
  · rfl

lemma readArg_short {c : Char} (hc : c ≠ '-') (rest : List Char) :
    t.readArg ('-' :: c :: rest) = t.readShort true [] (c :: rest) := by
  unfold readArg
  split
  · rename_i heq
    exact absurd (List.cons.inj (List.cons.inj heq).2).1 hc
  · rename_i heq
    exact absurd (List.cons.inj (List.cons.inj heq).2).1 hc
  · rename_i heq
    obtain ⟨hletter, hrest⟩ := List.cons.inj (List.cons.inj heq).2
    rw [hletter, hrest]
  · rename_i heq
    exact absurd rfl (heq c rest)

/-- Options are in arguments with a dash. -/
lemma named_readArg {text : List Char} {named : Named κ} (h : named ∈ (t.readArg text).named) :
    (∃ long, text = '-' :: '-' :: long ∧ named ∈ (t.readLong long).named) ∨
      ∃ c rest, text = '-' :: c :: rest ∧ named ∈ (t.readShort true [] (c :: rest)).named := by
  unfold readArg at h
  split at h
  · cases h
  · exact Or.inl ⟨_, rfl, h⟩
  · exact Or.inr ⟨_, _, rfl, h⟩
  · cases h

end OptionTable

/-! ## Reading all arguments -/

/-- An option that was read, with the tags of the argument it is in and of its value's. -/
structure Item (κ τ : Type) where
  named : Named κ
  value : Option (List Char)
  source : τ
  valueSource : τ
deriving DecidableEq, Repr

inductive ArgMode (κ τ : Type) where
  | normal
  /-- An option of this argument wants a value. -/
  | pending (named : Named κ) (source : τ)
  | terminated
  | failed
deriving DecidableEq, Repr

structure ArgScan (κ τ : Type) where
  items : List (Item κ τ)
  operands : List (τ × List Char)
  mode : ArgMode κ τ
deriving DecidableEq, Repr

namespace ArgScan

variable {κ τ : Type}

def start : ArgScan κ τ := ⟨[], [], .normal⟩

/-- Options whose values are in their argument. -/
def addItems (s : ArgScan κ τ) (source : τ) (items : List (Named κ × Option (List Char))) :
    ArgScan κ τ :=
  { s with items := s.items ++ items.map fun item => ⟨item.1, item.2, source, source⟩ }

/-- An argument that is not a value. -/
def readNext (t : OptionTable κ) (s : ArgScan κ τ) (arg : τ × List Char) : ArgScan κ τ :=
  match t.readArg arg.2 with
  | .operand => { s with operands := s.operands ++ [arg] }
  | .terminator => { s with mode := .terminated }
  | .options items => s.addItems arg.1 items
  | .pending items last => { s.addItems arg.1 items with mode := .pending last arg.1 }
  | .failed items => { s.addItems arg.1 items with mode := .failed }

/-- The next argument. -/
def step (t : OptionTable κ) (s : ArgScan κ τ) (arg : τ × List Char) : ArgScan κ τ :=
  match s.mode with
  | .normal => s.readNext t arg
  | .pending named source =>
    { s with items := s.items ++ [⟨named, some arg.2, source, arg.1⟩], mode := .normal }
  | .terminated => { s with operands := s.operands ++ [arg] }
  | .failed => s

def scan (t : OptionTable κ) (args : List (τ × List Char)) : ArgScan κ τ :=
  args.foldl (step t) start

/-- All arguments were read, and no option wants a value. -/
def succeeded (s : ArgScan κ τ) : Prop := s.mode = .normal ∨ s.mode = .terminated

/-- The last value of an option counts. -/
def lastValue [DecidableEq κ] (s : ArgScan κ τ) (key : κ) : Option (Option (List Char)) :=
  (s.items.reverse.find? fun item => item.named.key == key).map Item.value

/-! ## Tracing what was read -/

/-- All options are of one kind, and all tags of another. -/
structure All (P : Named κ → Prop) (Q : τ → Prop) (s : ArgScan κ τ) : Prop where
  items : ∀ item ∈ s.items, P item.named ∧ Q item.source ∧ Q item.valueSource
  operands : ∀ operand ∈ s.operands, Q operand.1
  pending : ∀ named source, s.mode = .pending named source → P named ∧ Q source

variable {t : OptionTable κ} {P : Named κ → Prop} {Q : τ → Prop} {s : ArgScan κ τ}

lemma All.addItems (h : s.All P Q) {source : τ} (hsource : Q source)
    {items : List (Named κ × Option (List Char))} (hitems : ∀ n ∈ items.map Prod.fst, P n) :
    ∀ item ∈ (s.addItems source items).items,
      P item.named ∧ Q item.source ∧ Q item.valueSource := by
  intro item hitem
  rcases List.mem_append.mp hitem with hitem | hitem
  · exact h.items item hitem
  · obtain ⟨named, hnamed, heq⟩ := List.mem_map.mp hitem
    rw [← heq]
    exact ⟨hitems named.1 (List.mem_map.mpr ⟨named, hnamed, rfl⟩), hsource, hsource⟩

lemma All.readNext (h : s.All P Q) {arg : τ × List Char} (hsource : Q arg.1)
    (hnamed : ∀ n ∈ (t.readArg arg.2).named, P n) (hmode : s.mode = .normal) :
    (s.readNext t arg).All P Q := by
  have hpending : ∀ named source, s.mode = .pending named source → P named ∧ Q source := by
    intro named source heq
    rw [hmode] at heq
    cases heq
  unfold ArgScan.readNext
  rcases hread : t.readArg arg.2 with _ | _ | items | ⟨items, last⟩ | items
  · refine ⟨h.items, ?_, hpending⟩
    intro operand hoperand
    rcases List.mem_append.mp hoperand with hoperand | hoperand
    · exact h.operands operand hoperand
    · rw [List.mem_singleton.mp hoperand]
      exact hsource
  · exact ⟨h.items, h.operands, fun _ _ heq => by cases heq⟩
  · rw [hread] at hnamed
    exact ⟨h.addItems hsource hnamed, h.operands, hpending⟩
  · rw [hread] at hnamed
    refine ⟨h.addItems hsource fun n hn => hnamed n (List.mem_append_left _ hn), h.operands, ?_⟩
    intro named source heq
    obtain ⟨hlast, htag⟩ := ArgMode.pending.inj heq
    rw [← hlast, ← htag]
    exact ⟨hnamed last (List.mem_append_right _ (List.mem_singleton.mpr rfl)), hsource⟩
  · rw [hread] at hnamed
    exact ⟨h.addItems hsource hnamed, h.operands, fun _ _ heq => by cases heq⟩

lemma All.step (h : s.All P Q) {arg : τ × List Char} (hsource : Q arg.1)
    (hnamed : ∀ n ∈ (t.readArg arg.2).named, P n) : (s.step t arg).All P Q := by
  unfold ArgScan.step
  rcases hmode : s.mode with _ | ⟨named, source⟩ | _ | _
  · exact h.readNext hsource hnamed hmode
  · obtain ⟨hP, hQ⟩ := h.pending named source hmode
    refine ⟨?_, h.operands, fun _ _ heq => by cases heq⟩
    intro item hitem
    rcases List.mem_append.mp hitem with hitem | hitem
    · exact h.items item hitem
    · rw [List.mem_singleton.mp hitem]
      exact ⟨hP, hQ, hsource⟩
  · refine ⟨h.items, ?_, fun _ _ heq => by cases heq⟩
    intro operand hoperand
    rcases List.mem_append.mp hoperand with hoperand | hoperand
    · exact h.operands operand hoperand
    · rw [List.mem_singleton.mp hoperand]
      exact hsource
  · exact h

lemma all_scan {args : List (τ × List Char)} (hsource : ∀ arg ∈ args, Q arg.1)
    (hnamed : ∀ arg ∈ args, ∀ n ∈ (t.readArg arg.2).named, P n) : (scan t args).All P Q := by
  have hfold : ∀ (args : List (τ × List Char)) (s : ArgScan κ τ), s.All P Q →
      (∀ arg ∈ args, Q arg.1) → (∀ arg ∈ args, ∀ n ∈ (t.readArg arg.2).named, P n) →
      (args.foldl (ArgScan.step t) s).All P Q := by
    intro args
    induction args with
    | nil => exact fun s h _ _ => h
    | cons arg args ih =>
      intro s h hsource hnamed
      exact ih _ (h.step (hsource arg List.mem_cons_self) (hnamed arg List.mem_cons_self))
        (fun a ha => hsource a (List.mem_cons_of_mem arg ha))
        (fun a ha => hnamed a (List.mem_cons_of_mem arg ha))
  refine hfold args start ⟨?_, ?_, fun _ _ heq => by cases heq⟩ hsource hnamed
  · exact fun item hitem => absurd hitem List.not_mem_nil
  · exact fun operand hoperand => absurd hoperand List.not_mem_nil

/-! ## Running on -/

lemma scan_append (t : OptionTable κ) (a b : List (τ × List Char)) :
    scan t (a ++ b) = b.foldl (step t) (scan t a) :=
  List.foldl_append

lemma step_normal (h : s.mode = .normal) (arg : τ × List Char) :
    s.step t arg = s.readNext t arg := by
  unfold step
  rw [h]

lemma step_pending {named : Named κ} {source : τ} (h : s.mode = .pending named source)
    (arg : τ × List Char) :
    s.step t arg
      = { s with items := s.items ++ [⟨named, some arg.2, source, arg.1⟩], mode := .normal } := by
  unfold step
  rw [h]

/-- What is new comes from the argument. -/
lemma mem_items_readNext {arg : τ × List Char} {item : Item κ τ}
    (h : item ∈ (s.readNext t arg).items) : item ∈ s.items ∨ item.source = arg.1 := by
  have hadd : ∀ items : List (Named κ × Option (List Char)),
      item ∈ (s.addItems arg.1 items).items → item ∈ s.items ∨ item.source = arg.1 := by
    intro items hitem
    rcases List.mem_append.mp hitem with hitem | hitem
    · exact Or.inl hitem
    · obtain ⟨named, -, heq⟩ := List.mem_map.mp hitem
      rw [← heq]
      exact Or.inr rfl
  unfold readNext at h
  rcases hread : t.readArg arg.2 with _ | _ | items | ⟨items, last⟩ | items
  · rw [hread] at h
    exact Or.inl h
  · rw [hread] at h
    exact Or.inl h
  · rw [hread] at h
    exact hadd items h
  · rw [hread] at h
    exact hadd items h
  · rw [hread] at h
    exact hadd items h

/-- What was read stays. -/
lemma mem_items_step {item : Item κ τ} (h : item ∈ s.items) (arg : τ × List Char) :
    item ∈ (s.step t arg).items := by
  unfold step readNext
  rcases s.mode with _ | ⟨named, source⟩ | _ | _
  · dsimp only
    rcases t.readArg arg.2 with _ | _ | items | ⟨items, last⟩ | items
    · exact h
    · exact h
    · exact List.mem_append_left _ h
    · exact List.mem_append_left _ h
    · exact List.mem_append_left _ h
  · exact List.mem_append_left _ h
  · exact h
  · exact h

lemma mem_items_foldl {item : Item κ τ} (h : item ∈ s.items) (args : List (τ × List Char)) :
    item ∈ (args.foldl (step t) s).items := by
  induction args generalizing s with
  | nil => exact h
  | cons arg args ih => exact ih (mem_items_step h arg)

lemma foldl_failed (h : s.mode = .failed) (args : List (τ × List Char)) :
    args.foldl (step t) s = s := by
  induction args with
  | nil => rfl
  | cons arg args ih =>
    have hstep : s.step t arg = s := by
      unfold step
      rw [h]
    rw [List.foldl_cons, hstep, ih]

/-- Behind `--` there are operands only. -/
lemma foldl_terminated (h : s.mode = .terminated) (args : List (τ × List Char)) :
    args.foldl (step t) s = { s with operands := s.operands ++ args } := by
  induction args generalizing s with
  | nil =>
    rw [List.append_nil]
    rfl
  | cons arg args ih =>
    have hstep : s.step t arg = { s with operands := s.operands ++ [arg] } := by
      unfold step
      rw [h]
    rw [List.foldl_cons, hstep, ih (by exact h), List.append_assoc]
    rfl

/-- A short option with its value in the next argument. -/
lemma foldl_short {c : Char} {key : κ} (hc : c ≠ '-') (hshort : t.short c = some (key, .required))
    (h : s.mode = .normal) (tag : τ) (value : List Char) (args : List (τ × List Char)) :
    ((tag, ['-', c]) :: (tag, value) :: args).foldl (step t) s
      = args.foldl (step t)
        { s with items := s.items ++ [⟨⟨key, true⟩, some value, tag, tag⟩] } := by
  have hread : t.readArg ['-', c] = .pending [] ⟨key, true⟩ := by
    rw [OptionTable.readArg_short hc]
    unfold OptionTable.readShort
    rw [hshort]
    rfl
  have hfirst : s.step t (tag, ['-', c]) = { s with mode := .pending ⟨key, true⟩ tag } := by
    rw [step_normal h]
    unfold readNext
    rw [hread]
    show ({ s with items := s.items ++ [], mode := .pending ⟨key, true⟩ tag } : ArgScan κ τ) = _
    rw [List.append_nil]
  rw [List.foldl_cons, List.foldl_cons, hfirst, step_pending rfl, ← h]

/-- A long option without a value, written in full. -/
lemma foldl_long {name : List Char} {named : Named κ} (hname : '=' ∉ name) (hne : name ≠ [])
    (hlong : t.resolve name = some (named, .none)) (h : s.mode = .normal) (tag : τ)
    (args : List (τ × List Char)) :
    ((tag, '-' :: '-' :: name) :: args).foldl (step t) s
      = args.foldl (step t) { s with items := s.items ++ [⟨named, none, tag, tag⟩] } := by
  have hread : t.readArg ('-' :: '-' :: name) = .options [(named, none)] := by
    have hall : ∀ c ∈ name, decide (c ≠ '=') = true := by
      intro c hc
      rw [decide_eq_true_eq]
      exact fun heq => hname (heq ▸ hc)
    rw [OptionTable.readArg_long hne]
    unfold OptionTable.readLong
    rw [List.takeWhile_eq_self_iff.mpr hall, List.dropWhile_eq_nil_iff.mpr hall, hlong]
    rfl
  rw [List.foldl_cons, step_normal h]
  unfold readNext addItems
  rw [hread]
  rfl

section LastValue

variable [DecidableEq κ]

lemma lastValue_eq_none {key : κ} (h : ∀ item ∈ s.items, item.named.key ≠ key) :
    s.lastValue key = none := by
  unfold lastValue
  rw [Option.map_eq_none_iff, List.find?_eq_none]
  intro item hitem
  simpa using h item (List.mem_reverse.mp hitem)

/-- An option among the last items counts. -/
lemma lastValue_append {a b : List (Item κ τ)} (hitems : s.items = a ++ b) {key : κ}
    {value : Option (List Char)} (h : (b.reverse.find? fun item => item.named.key == key).map
      Item.value = some value) : s.lastValue key = some value := by
  unfold lastValue
  rw [hitems, List.reverse_append, List.find?_append]
  rcases hfind : b.reverse.find? fun item => item.named.key == key with _ | item
  · rw [hfind] at h
    cases h
  · rw [hfind] at h
    rw [hfind, Option.some_or]
    exact h

end LastValue

end ArgScan

end Lib
