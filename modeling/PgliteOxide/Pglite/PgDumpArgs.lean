import PgliteOxide.Lib.Getopt

/-!
# Arguments of `pg_dump`

`PgDumpOptions` lets a caller pass arguments through to `pg_dump`, in front of the ones that are
managed. The guard looks at how each argument begins; `pg_dump` reads them with `getopt_long`. Its
option table is a parameter.
-/

namespace PgliteOxide.Pglite

open Lib

/-! ## Options -/

structure PgDumpOptions where
  args : List String
  database : String
  username : String
deriving DecidableEq

/-- `PgDumpOptions::default`. -/
def PgDumpOptions.default : PgDumpOptions :=
  { args := [], database := "template1", username := "postgres" }

/-- `LONG_FLAGS`. -/
def longFlags : List (String × String) :=
  [("--file", "output file"), ("--format", "output format"), ("--host", "host"),
    ("--port", "port"), ("--username", "username"), ("--dbname", "database"),
    ("--jobs", "job count")]

/-- `SHORT_FLAGS`. -/
def shortFlags : List (String × String) :=
  [("-f", "output file"), ("-F", "output format"), ("-h", "host"), ("-p", "port"),
    ("-U", "username"), ("-d", "database"), ("-j", "job count")]

/-- `disallowed_pg_dump_flag`. -/
def disallowedPgDumpFlag (arg : String) : Option String :=
  let long := longFlags.find? fun (flag, _) =>
    arg == flag || (flag.toList ++ ['=']).isPrefixOf arg.toList
  let short := shortFlags.find? fun (flag, _) =>
    arg == flag ||
      flag.toList.isPrefixOf arg.toList && decide (flag.utf8ByteSize < arg.utf8ByteSize)
  (long <|> short).map Prod.snd

/-- `validate_passthrough_arg`. -/
def validatePassthroughArg (arg : String) : Except String Unit :=
  match disallowedPgDumpFlag arg with
  | some flag => .error (s!"pg_dump argument '{arg}' conflicts with pglite-oxide's managed {flag}; "
      ++ "use PgDumpOptions typed setters where available")
  | none => .ok ()

namespace PgDumpOptions

/-- The check of the database and of the username. -/
def validateName (name value : String) : Except String Unit :=
  if value = "" ∨ '\x00' ∈ value.toList then
    .error s!"pg_dump {name} must not be empty or contain NUL bytes"
  else .ok ()

/-- The argument loop of `validate`. -/
def validateArgs : List String → Except String Unit
  | [] => .ok ()
  | arg :: args =>
    if '\x00' ∈ arg.toList then .error "pg_dump argument must not contain NUL bytes"
    else do
      validatePassthroughArg arg
      validateArgs args

variable (options : PgDumpOptions)

/-- `PgDumpOptions::validate`. -/
def validate : Except String Unit := do
  validateName "database" options.database
  validateName "username" options.username
  validateArgs options.args

/-- `output_path`. -/
def outputPath : String := "/host/out.sql"

/-- What `dump_sql_with_networking` adds to the arguments, without the database. -/
def managedArgs (host port : String) : List String :=
  ["-U", options.username, "-h", host, "-p", port, "--inserts", "-j", "1", "-f", outputPath]

/-- The arguments of `dump_sql_with_networking`. -/
def argv (host port : String) : List String :=
  options.args ++ options.managedArgs host port ++ [options.database]

end PgDumpOptions

/-! ## How `pg_dump` reads them -/

/-- What the options of `pg_dump` set, as far as it is managed. -/
inductive DumpKey where
  | file
  | format
  | host
  | port
  | username
  | dbname
  | jobs
  | other (code : Nat)
deriving DecidableEq

def DumpKey.isManaged : DumpKey → Bool
  | .other _ => false
  | _ => true

/-- What `pg_dump` documents of its options. -/
structure IsPgDumpTable (t : OptionTable DumpKey) : Prop where
  username : t.short 'U' = some (.username, .required)
  host : t.short 'h' = some (.host, .required)
  port : t.short 'p' = some (.port, .required)
  jobs : t.short 'j' = some (.jobs, .required)
  file : t.short 'f' = some (.file, .required)
  /-- `--inserts` is an option without a value. -/
  inserts : ∃ code, t.resolve "inserts".toList = some (⟨.other code, true⟩, .none)
  short_managed : ∀ c key arity, t.short c = some (key, arity) → key.isManaged = true →
    c ∈ ['f', 'F', 'h', 'p', 'U', 'd', 'j']
  long_managed : ∀ name key arity, (name, key, arity) ∈ t.long → key.isManaged = true →
    String.ofList name ∈ ["file", "format", "host", "port", "username", "dbname", "jobs"]

/-- Where an argument comes from. -/
inductive Origin where
  | user
  | managed
deriving DecidableEq

namespace PgDumpOptions

variable (options : PgDumpOptions)

def tagged (origin : Origin) (args : List String) : List (Origin × List Char) :=
  args.map fun arg => (origin, arg.toList)

/-- `argv`, with the origin of every argument. -/
def taggedArgv (host port : String) : List (Origin × List Char) :=
  tagged .user options.args ++ tagged .managed (options.managedArgs host port)
    ++ tagged .managed [options.database]

/-- What is in effect is what is managed: no argument of the user sets it or takes a managed
argument for its value, and if all arguments can be read, the last value of every managed option
is the managed one, there is none for the format, and the only operand is the database. -/
structure InEffect (t : OptionTable DumpKey) (host port : String) : Prop where
  user : ∀ item ∈ (ArgScan.scan t (options.taggedArgv host port)).items, item.source = .user →
    item.named.key.isManaged = false ∧ item.valueSource = .user
  managed : (ArgScan.scan t (options.taggedArgv host port)).succeeded →
    (ArgScan.scan t (options.taggedArgv host port)).lastValue .username
      = some (some options.username.toList) ∧
    (ArgScan.scan t (options.taggedArgv host port)).lastValue .host = some (some host.toList) ∧
    (ArgScan.scan t (options.taggedArgv host port)).lastValue .port = some (some port.toList) ∧
    (ArgScan.scan t (options.taggedArgv host port)).lastValue .jobs = some (some ['1']) ∧
    (ArgScan.scan t (options.taggedArgv host port)).lastValue .file
      = some (some outputPath.toList) ∧
    (ArgScan.scan t (options.taggedArgv host port)).lastValue .format = none ∧
    (ArgScan.scan t (options.taggedArgv host port)).lastValue .dbname = none ∧
    (ArgScan.scan t (options.taggedArgv host port)).operands
      = [(.managed, options.database.toList)]

/-- The arguments of the user, read on their own. -/
def userScan (t : OptionTable DumpKey) : ArgScan DumpKey Origin :=
  ArgScan.scan t (tagged .user options.args)

/-- The arguments of the user keep to themselves: they name no managed option, be it bundled or
abbreviated; no option is left without its value; there is no `--`; and unless `pg_dump` refuses
them or the database, there is no operand, and the database is one. -/
structure KeepToThemselves (t : OptionTable DumpKey) : Prop where
  unmanaged : ∀ item ∈ (options.userScan t).items, item.named.plain = false →
    item.named.key.isManaged = false
  complete : ∀ named source, (options.userScan t).mode ≠ .pending named source
  open_ended : (options.userScan t).mode ≠ .terminated
  operand : (options.userScan t).mode = .normal →
    (options.userScan t).operands = [] ∧ t.readArg options.database.toList = .operand ∨
    (∃ items, t.readArg options.database.toList = .failed items) ∨
    ∃ items last, t.readArg options.database.toList = .pending items last

end PgDumpOptions

/-! ## The guard -/

lemma disallowed_of_long {flag label arg : String} (hmem : (flag, label) ∈ longFlags)
    (h : arg = flag ∨ flag.toList ++ ['='] <+: arg.toList) : disallowedPgDumpFlag arg ≠ none := by
  have hfind : (longFlags.find? fun (flag, _) =>
      arg == flag || (flag.toList ++ ['=']).isPrefixOf arg.toList).isSome = true := by
    rw [List.find?_isSome]
    refine ⟨(flag, label), hmem, ?_⟩
    rcases h with h | h
    · simp [h]
    · simp [List.isPrefixOf_iff_prefix.mpr h]
  obtain ⟨found, hfound⟩ := Option.isSome_iff_exists.mp hfind
  unfold disallowedPgDumpFlag
  dsimp only
  rw [hfound]
  simp

lemma disallowed_of_short {flag label arg : String} (hmem : (flag, label) ∈ shortFlags)
    {rest : List Char} (h : arg.toList = flag.toList ++ rest) :
    disallowedPgDumpFlag arg ≠ none := by
  have harg : arg = flag ++ String.ofList rest := by
    apply String.toList_inj.mp
    rw [h, String.toList_append, String.toList_ofList]
  have hmatch : (arg == flag || flag.toList.isPrefixOf arg.toList
      && decide (flag.utf8ByteSize < arg.utf8ByteSize)) = true := by
    by_cases hrest : rest = []
    · rw [hrest, List.append_nil] at h
      simp [String.toList_inj.mp h]
    · have hsize : flag.utf8ByteSize < arg.utf8ByteSize := by
        rw [harg, String.utf8ByteSize_append]
        have hpos : (String.ofList rest).utf8ByteSize ≠ 0 := by
          rw [Ne, String.utf8ByteSize_eq_zero_iff]
          simpa using hrest
        omega
      have hprefix : flag.toList.isPrefixOf arg.toList = true := by
        rw [List.isPrefixOf_iff_prefix, h]
        exact List.prefix_append _ _
      simp [hsize, hprefix]
  have hfind : (shortFlags.find? fun (flag, _) => arg == flag ||
      flag.toList.isPrefixOf arg.toList && decide (flag.utf8ByteSize < arg.utf8ByteSize)).isSome
        = true := by
    rw [List.find?_isSome]
    exact ⟨(flag, label), hmem, hmatch⟩
  obtain ⟨found, hfound⟩ := Option.isSome_iff_exists.mp hfind
  unfold disallowedPgDumpFlag
  dsimp only
  rw [hfound]
  simp

variable {t : OptionTable DumpKey}

/-- A managed option that is spelled plainly is refused. -/
lemma disallowed_of_plain (ht : IsPgDumpTable t) {arg : String} {named : Named DumpKey}
    (h : named ∈ (t.readArg arg.toList).named) (hplain : named.plain = true)
    (hmanaged : named.key.isManaged = true) : disallowedPgDumpFlag arg ≠ none := by
  rcases OptionTable.named_readArg h with ⟨long, harg, hnamed⟩ | ⟨c, rest, harg, hnamed⟩
  · obtain ⟨name, arity, hmem, hsplit⟩ := OptionTable.readLong_plain hnamed hplain
    have hname := ht.long_managed name _ arity hmem hmanaged
    have hflag : ∃ label, ("--" ++ String.ofList name, label) ∈ longFlags := by
      simp only [List.mem_cons, List.not_mem_nil, or_false] at hname
      rcases hname with hname | hname | hname | hname | hname | hname | hname <;> rw [hname] <;>
        simp [longFlags]
    obtain ⟨label, hflag⟩ := hflag
    apply disallowed_of_long hflag
    rcases hsplit with hsplit | ⟨value, hsplit⟩
    · left
      apply String.toList_inj.mp
      rw [harg, hsplit]
      simp
    · right
      rw [harg, hsplit]
      exact ⟨value, by simp⟩
  · obtain ⟨arity, hshort⟩ := OptionTable.readShort_plain hnamed hplain
    have hletter := ht.short_managed c _ arity hshort hmanaged
    have hflag : ∃ label, (String.ofList ['-', c], label) ∈ shortFlags := by
      simp only [List.mem_cons, List.not_mem_nil, or_false] at hletter
      rcases hletter with hc | hc | hc | hc | hc | hc | hc <;> rw [hc] <;> simp [shortFlags]
    obtain ⟨label, hflag⟩ := hflag
    have hletters : arg.toList = (String.ofList ['-', c]).toList ++ rest := by
      rw [harg, String.toList_ofList]
      rfl
    exact disallowed_of_short hflag hletters

namespace PgDumpOptions

variable {options : PgDumpOptions}

lemma allowed_of_validateArgs {args : List String} (h : validateArgs args = .ok ()) :
    ∀ arg ∈ args, disallowedPgDumpFlag arg = none := by
  induction args with
  | nil => simp
  | cons arg args ih =>
    unfold validateArgs at h
    split_ifs at h
    rcases hflag : disallowedPgDumpFlag arg with _ | flag
    · have hpass : validatePassthroughArg arg = .ok () := by
        unfold validatePassthroughArg
        rw [hflag]
      rw [hpass] at h
      exact List.forall_mem_cons.mpr ⟨hflag, ih h⟩
    · have hpass : ∃ e, validatePassthroughArg arg = .error e := by
        unfold validatePassthroughArg
        rw [hflag]
        exact ⟨_, rfl⟩
      obtain ⟨e, hpass⟩ := hpass
      rw [hpass] at h
      cases h

lemma allowed_of_validate (h : options.validate = .ok ()) :
    ∀ arg ∈ options.args, disallowedPgDumpFlag arg = none := by
  unfold validate at h
  rcases hdatabase : validateName "database" options.database with e | ⟨⟩
  · rw [hdatabase] at h
    cases h
  · rcases husername : validateName "username" options.username with e | ⟨⟩
    · rw [hdatabase, husername] at h
      cases h
    · rw [hdatabase, husername] at h
      exact allowed_of_validateArgs h

/-- What the arguments of the user name is theirs, and a managed option is not named plainly. -/
lemma userScan_all (ht : IsPgDumpTable t) (h : options.validate = .ok ()) :
    (options.userScan t).All
      (fun named => named.key.isManaged = true → named.plain = false) (· = .user) := by
  apply ArgScan.all_scan
  · intro arg harg
    obtain ⟨a, -, heq⟩ := List.mem_map.mp harg
    rw [← heq]
  · intro arg harg named hnamed hmanaged
    obtain ⟨a, ha, heq⟩ := List.mem_map.mp harg
    rw [← heq] at hnamed
    by_contra hplain
    rw [Bool.not_eq_false] at hplain
    exact disallowed_of_plain ht hnamed hplain hmanaged (allowed_of_validate h a ha)

/-! ## The managed arguments -/

/-- What the managed arguments set. -/
def managedItems (options : PgDumpOptions) (host port : String) (code : Nat) :
    List (Item DumpKey Origin) :=
  [⟨⟨.username, true⟩, some options.username.toList, .managed, .managed⟩,
    ⟨⟨.host, true⟩, some host.toList, .managed, .managed⟩,
    ⟨⟨.port, true⟩, some port.toList, .managed, .managed⟩,
    ⟨⟨.other code, true⟩, none, .managed, .managed⟩,
    ⟨⟨.jobs, true⟩, some ['1'], .managed, .managed⟩,
    ⟨⟨.file, true⟩, some outputPath.toList, .managed, .managed⟩]

variable {s : ArgScan DumpKey Origin} {host port : String}

/-- Where no option is waiting, every managed argument is read as it is meant. -/
lemma foldl_managed (options : PgDumpOptions) (host port : String) (ht : IsPgDumpTable t)
    (h : s.mode = .normal) :
    ∃ code, (tagged .managed (options.managedArgs host port)).foldl (ArgScan.step t) s
      = { s with items := s.items ++ managedItems options host port code } := by
  obtain ⟨code, hinserts⟩ := ht.inserts
  refine ⟨code, ?_⟩
  show ((Origin.managed, ['-', 'U']) :: (Origin.managed, options.username.toList)
    :: (Origin.managed, ['-', 'h']) :: (Origin.managed, host.toList)
    :: (Origin.managed, ['-', 'p']) :: (Origin.managed, port.toList)
    :: (Origin.managed, '-' :: '-' :: "inserts".toList)
    :: (Origin.managed, ['-', 'j']) :: (Origin.managed, ['1'])
    :: (Origin.managed, ['-', 'f']) :: (Origin.managed, outputPath.toList) :: []).foldl _ _ = _
  rw [ArgScan.foldl_short (by decide) ht.username h,
    ArgScan.foldl_short (by decide) ht.host (by exact h),
    ArgScan.foldl_short (by decide) ht.port (by exact h),
    ArgScan.foldl_long (by decide) (by decide) hinserts (by exact h),
    ArgScan.foldl_short (by decide) ht.jobs (by exact h),
    ArgScan.foldl_short (by decide) ht.file (by exact h)]
  show ({ s with items := _ } : ArgScan DumpKey Origin) = _
  simp only [List.append_assoc, List.cons_append, List.nil_append]
  rfl

/-- The last values of the managed options. -/
lemma lastValue_managed {items : List (Item DumpKey Origin)} {code : Nat}
    (hitems : s.items = items ++ managedItems options host port code)
    (hunmanaged : ∀ item ∈ items, item.named.key.isManaged = false) :
    s.lastValue .username = some (some options.username.toList) ∧
    s.lastValue .host = some (some host.toList) ∧
    s.lastValue .port = some (some port.toList) ∧
    s.lastValue .jobs = some (some ['1']) ∧
    s.lastValue .file = some (some outputPath.toList) ∧
    s.lastValue .format = none ∧
    s.lastValue .dbname = none := by
  have hnone : ∀ key : DumpKey, key.isManaged = true →
      (∀ item ∈ managedItems options host port code, item.named.key ≠ key) →
      s.lastValue key = none := by
    intro key hkey hmanaged
    apply ArgScan.lastValue_eq_none
    intro item hitem heq
    rw [hitems] at hitem
    rcases List.mem_append.mp hitem with hitem | hitem
    · have hfalse := hunmanaged item hitem
      rw [heq, hkey] at hfalse
      cases hfalse
    · exact hmanaged item hitem heq
  exact ⟨ArgScan.lastValue_append hitems rfl, ArgScan.lastValue_append hitems rfl,
    ArgScan.lastValue_append hitems rfl, ArgScan.lastValue_append hitems rfl,
    ArgScan.lastValue_append hitems rfl, hnone .format rfl (by simp [managedItems]),
    hnone .dbname rfl (by simp [managedItems])⟩

/-! ## The arguments together -/

/-- The arguments of the user, then the managed ones, then the database. -/
lemma scan_argv (options : PgDumpOptions) (t : OptionTable DumpKey) (host port : String) :
    ArgScan.scan t (options.taggedArgv host port)
      = ((tagged .managed (options.managedArgs host port)).foldl (ArgScan.step t)
          (options.userScan t)).step t (.managed, options.database.toList) := by
  unfold taggedArgv
  rw [ArgScan.scan_append, ArgScan.scan_append]
  rfl

lemma mem_items_argv {item : Item DumpKey Origin} (h : item ∈ (options.userScan t).items)
    (host port : String) : item ∈ (ArgScan.scan t (options.taggedArgv host port)).items := by
  rw [scan_argv]
  exact ArgScan.mem_items_step (ArgScan.mem_items_foldl h _) _

/-- The options the user names are not managed. -/
def Unmanaged (options : PgDumpOptions) (t : OptionTable DumpKey) : Prop :=
  ∀ item ∈ (options.userScan t).items, item.named.key.isManaged = false

lemma unmanaged_iff (ht : IsPgDumpTable t) (h : options.validate = .ok ()) :
    options.Unmanaged t ↔ ∀ item ∈ (options.userScan t).items, item.named.plain = false →
      item.named.key.isManaged = false := by
  constructor
  · exact fun hall item hitem _ => hall item hitem
  · intro hall item hitem
    by_contra hmanaged
    rw [Bool.not_eq_false] at hmanaged
    have hplain := ((userScan_all ht h).items item hitem).1 hmanaged
    rw [hall item hitem hplain] at hmanaged
    cases hmanaged

lemma InEffect.unmanaged (ht : IsPgDumpTable t) (h : options.validate = .ok ())
    (heffect : options.InEffect t host port) : options.Unmanaged t := by
  intro item hitem
  exact (heffect.user item (mem_items_argv hitem host port)
    ((userScan_all ht h).items item hitem).2.1).1

/-- An option that is left without its value takes a managed argument. -/
lemma not_inEffect_of_pending (ht : IsPgDumpTable t) (h : options.validate = .ok ())
    {named : Named DumpKey} {source : Origin}
    (hmode : (options.userScan t).mode = .pending named source) :
    ¬ options.InEffect t host port := by
  intro heffect
  have hsource := ((userScan_all ht h).pending named source hmode).2
  have hmem : (⟨named, some "-U".toList, source, .managed⟩ : Item DumpKey Origin)
      ∈ (ArgScan.scan t (options.taggedArgv host port)).items := by
    rw [scan_argv]
    apply ArgScan.mem_items_step
    show _ ∈ (List.foldl (ArgScan.step t) ((options.userScan t).step t (.managed, "-U".toList))
      _).items
    apply ArgScan.mem_items_foldl
    rw [ArgScan.step_pending hmode]
    exact List.mem_append_right _ (List.mem_singleton.mpr rfl)
  have hvalue := (heffect.user _ hmem hsource).2
  cases hvalue

/-- Behind `--` the managed arguments are operands. -/
lemma not_inEffect_of_terminated (ht : IsPgDumpTable t) (h : options.validate = .ok ())
    (hmode : (options.userScan t).mode = .terminated) : ¬ options.InEffect t host port := by
  intro heffect
  have hunmanaged := heffect.unmanaged ht h
  have hscan : ∃ operands, ArgScan.scan t (options.taggedArgv host port)
      = { options.userScan t with operands := operands } := by
    unfold taggedArgv
    rw [List.append_assoc, ArgScan.scan_append]
    exact ⟨_, ArgScan.foldl_terminated hmode _⟩
  obtain ⟨operands, hscan⟩ := hscan
  have husername := (heffect.managed (by rw [hscan]; exact Or.inr hmode)).1
  rw [hscan, ArgScan.lastValue_eq_none] at husername
  · cases husername
  · intro item hitem heq
    have hfalse := hunmanaged item hitem
    rw [heq] at hfalse
    cases hfalse

/-- If `pg_dump` refuses an argument of the user, nothing comes into effect. -/
lemma inEffect_iff_of_failed (ht : IsPgDumpTable t) (h : options.validate = .ok ())
    (hmode : (options.userScan t).mode = .failed) :
    options.InEffect t host port ↔ options.Unmanaged t := by
  have hscan : ArgScan.scan t (options.taggedArgv host port) = options.userScan t := by
    unfold taggedArgv
    rw [List.append_assoc, ArgScan.scan_append]
    exact ArgScan.foldl_failed hmode _
  constructor
  · exact fun heffect => heffect.unmanaged ht h
  · intro hunmanaged
    refine ⟨?_, ?_⟩
    · intro item hitem _
      rw [hscan] at hitem
      exact ⟨hunmanaged item hitem, ((userScan_all ht h).items item hitem).2.2⟩
    · intro hsucceeded
      rw [hscan] at hsucceeded
      rcases hsucceeded with hnormal | hterminated
      · rw [hmode] at hnormal
        cases hnormal
      · rw [hmode] at hterminated
        cases hterminated

/-- If all arguments of the user are read, it is the operands and the database that count. -/
lemma inEffect_iff_of_normal (ht : IsPgDumpTable t) (h : options.validate = .ok ())
    (hmode : (options.userScan t).mode = .normal) :
    options.InEffect t host port ↔ options.Unmanaged t ∧
      ((options.userScan t).operands = [] ∧ t.readArg options.database.toList = .operand ∨
        (∃ items, t.readArg options.database.toList = .failed items) ∨
        ∃ items last, t.readArg options.database.toList = .pending items last) := by
  have hall := userScan_all ht h
  obtain ⟨code, hmanaged⟩ := foldl_managed options host port ht hmode
  have hscan := scan_argv options t host port
  rw [hmanaged, ArgScan.step_normal (by exact hmode)] at hscan
  have huser : options.Unmanaged t →
      ∀ item ∈ (ArgScan.scan t (options.taggedArgv host port)).items, item.source = .user →
        item.named.key.isManaged = false ∧ item.valueSource = .user := by
    intro hunmanaged item hitem hsource
    rw [hscan] at hitem
    rcases ArgScan.mem_items_readNext hitem with hitem | hitem
    · rcases List.mem_append.mp hitem with hitem | hitem
      · exact ⟨hunmanaged item hitem, (hall.items item hitem).2.2⟩
      · exfalso
        have hfalse : item.source = .managed := by
          simp only [managedItems, List.mem_cons, List.not_mem_nil, or_false] at hitem
          rcases hitem with hitem | hitem | hitem | hitem | hitem | hitem <;> rw [hitem]
        rw [hfalse] at hsource
        cases hsource
    · rw [hitem] at hsource
      cases hsource
  -- operands of the user are not the database
  have hoperands : (options.userScan t).operands ≠ [(.managed, options.database.toList)] := by
    intro heq
    have htag := hall.operands _ (by rw [heq]; exact List.mem_singleton.mpr rfl)
    cases htag
  have hcannot : (ArgScan.scan t (options.taggedArgv host port)).succeeded →
      (ArgScan.scan t (options.taggedArgv host port)).operands = (options.userScan t).operands →
      ¬ options.InEffect t host port := by
    intro hsucceeded hsame heffect
    obtain ⟨-, -, -, -, -, -, -, hdatabase⟩ := heffect.managed hsucceeded
    exact hoperands (hsame.symm.trans hdatabase)
  have hrefused : ¬ (ArgScan.scan t (options.taggedArgv host port)).succeeded →
      (options.InEffect t host port ↔ options.Unmanaged t) := fun hnot =>
    ⟨fun heffect => heffect.unmanaged ht h,
      fun hunmanaged => ⟨huser hunmanaged, fun hsucceeded => absurd hsucceeded hnot⟩⟩
  unfold ArgScan.readNext at hscan
  rcases hread : t.readArg options.database.toList with _ | _ | items | ⟨items, last⟩ | items
  · -- the database is an operand
    rw [hread] at hscan
    have hsucceeded : (ArgScan.scan t (options.taggedArgv host port)).succeeded := by
      rw [hscan]
      exact Or.inl hmode
    have hscanned : (ArgScan.scan t (options.taggedArgv host port)).operands
        = (options.userScan t).operands ++ [(.managed, options.database.toList)] := by
      rw [hscan]
    constructor
    · intro heffect
      refine ⟨heffect.unmanaged ht h, Or.inl ⟨?_, rfl⟩⟩
      obtain ⟨-, -, -, -, -, -, -, hdatabase⟩ := heffect.managed hsucceeded
      rw [hscanned] at hdatabase
      exact List.append_left_eq_self.mp hdatabase
    · rintro ⟨hunmanaged, ⟨hnil, -⟩ | ⟨items, hfailed⟩ | ⟨items, last, hpending⟩⟩
      · refine ⟨huser hunmanaged, fun _ => ?_⟩
        have hitems : (ArgScan.scan t (options.taggedArgv host port)).items
            = (options.userScan t).items ++ managedItems options host port code := by
          rw [hscan]
        obtain ⟨husername, hhost, hport, hjobs, hfile, hformat, hdbname⟩ :=
          lastValue_managed hitems hunmanaged
        refine ⟨husername, hhost, hport, hjobs, hfile, hformat, hdbname, ?_⟩
        rw [hscanned, hnil, List.nil_append]
      · cases hfailed
      · cases hpending
  · -- the database is `--`
    rw [hread] at hscan
    constructor
    · intro heffect
      exact absurd heffect (hcannot (by rw [hscan]; exact Or.inr rfl) (by rw [hscan]))
    · rintro ⟨-, ⟨-, hoperand⟩ | ⟨items, hfailed⟩ | ⟨items, last, hpending⟩⟩
      · cases hoperand
      · cases hfailed
      · cases hpending
  · -- the database is read as options
    rw [hread] at hscan
    constructor
    · intro heffect
      exact absurd heffect (hcannot (by rw [hscan]; exact Or.inl hmode) (by rw [hscan]; rfl))
    · rintro ⟨-, ⟨-, hoperand⟩ | ⟨items, hfailed⟩ | ⟨items, last, hpending⟩⟩
      · cases hoperand
      · cases hfailed
      · cases hpending
  · -- the database is an option without its value
    rw [hread] at hscan
    have hnot : ¬ (ArgScan.scan t (options.taggedArgv host port)).succeeded := by
      rw [hscan]
      rintro (hnormal | hterminated)
      · cases hnormal
      · cases hterminated
    rw [hrefused hnot]
    exact ⟨fun hunmanaged => ⟨hunmanaged, Or.inr (Or.inr ⟨items, last, rfl⟩)⟩, fun hall => hall.1⟩
  · -- `pg_dump` refuses the database
    rw [hread] at hscan
    have hnot : ¬ (ArgScan.scan t (options.taggedArgv host port)).succeeded := by
      rw [hscan]
      rintro (hnormal | hterminated)
      · cases hnormal
      · cases hterminated
    rw [hrefused hnot]
    exact ⟨fun hunmanaged => ⟨hunmanaged, Or.inr (Or.inl ⟨items, rfl⟩)⟩, fun hall => hall.1⟩

/-- **The managed settings are in effect, if the arguments of the user keep to themselves.** For
options that `validate` accepts it is exactly then that no argument of the user sets a managed
option or takes a managed argument, and that whatever `pg_dump` runs with is what is managed. -/
theorem inEffect_iff (ht : IsPgDumpTable t) (h : options.validate = .ok ()) (host port : String) :
    options.InEffect t host port ↔ options.KeepToThemselves t := by
  have hiff := unmanaged_iff ht h
  rcases hmode : (options.userScan t).mode with _ | ⟨named, source⟩ | _ | _
  · rw [inEffect_iff_of_normal ht h hmode]
    constructor
    · rintro ⟨hunmanaged, hoperand⟩
      refine ⟨hiff.mp hunmanaged, ?_, ?_, fun _ => hoperand⟩
      · intro named source heq
        rw [hmode] at heq
        cases heq
      · intro heq
        rw [hmode] at heq
        cases heq
    · exact fun hkeep => ⟨hiff.mpr hkeep.unmanaged, hkeep.operand hmode⟩
  · constructor
    · exact fun heffect => absurd heffect (not_inEffect_of_pending ht h hmode)
    · exact fun hkeep => absurd hmode (hkeep.complete named source)
  · constructor
    · exact fun heffect => absurd heffect (not_inEffect_of_terminated ht h hmode)
    · exact fun hkeep => absurd hmode hkeep.open_ended
  · rw [inEffect_iff_of_failed ht h hmode]
    constructor
    · intro hunmanaged
      refine ⟨hiff.mp hunmanaged, ?_, ?_, ?_⟩
      · intro named source heq
        rw [hmode] at heq
        cases heq
      · intro heq
        rw [hmode] at heq
        cases heq
      · intro heq
        rw [hmode] at heq
        cases heq
    · exact fun hkeep => hiff.mpr hkeep.unmanaged

/-! ## The table of PostgreSQL 17 -/

/-- The managed options, with their letters and names. -/
def managedOptions : List (Char × String × DumpKey) :=
  [('d', "dbname", .dbname), ('f', "file", .file), ('F', "format", .format),
    ('h', "host", .host), ('j', "jobs", .jobs), ('p', "port", .port),
    ('U', "username", .username)]

def flagLetters : List Char := ['a', 'b', 'B', 'c', 'C', 'O', 'R', 's', 'v', 'w', 'W', 'x', 'X']

def valueLetters : List Char := ['e', 'E', 'n', 'N', 'S', 't', 'T', 'Z']

/-- The short options. The code of an option that is not managed is its letter. -/
def shortOptions : List (Char × DumpKey × Arity) :=
  (managedOptions.map fun option => (option.1, option.2.2, Arity.required)).append
    ((flagLetters.map fun c => (c, DumpKey.other c.toNat, Arity.none)).append
      (valueLetters.map fun c => (c, DumpKey.other c.toNat, Arity.required)))

/-- The long options without a value. -/
def longFlagNames : List String :=
  ["data-only", "blobs", "large-objects", "no-blobs", "no-large-objects", "clean", "create",
    "no-reconnect", "no-owner", "schema-only", "no-password", "password", "verbose",
    "no-privileges", "no-acl", "attribute-inserts", "binary-upgrade", "column-inserts",
    "disable-dollar-quoting", "disable-triggers", "enable-row-security", "if-exists", "inserts",
    "no-table-access-method", "no-tablespaces", "quote-all-identifiers",
    "load-via-partition-root", "serializable-deferrable", "strict-names",
    "use-set-session-authorization", "no-comments", "no-publications", "no-security-labels",
    "no-subscriptions", "no-toast-compression", "no-unlogged-table-data", "no-sync",
    "on-conflict-do-nothing", "help", "version"]

/-- The long options with a value. -/
def longValueNames : List String :=
  ["extension", "schema", "exclude-schema", "superuser", "table", "exclude-table", "compress",
    "encoding", "exclude-table-data", "extra-float-digits", "lock-wait-timeout", "role",
    "section", "snapshot", "rows-per-insert", "include-foreign-data", "table-and-children",
    "exclude-table-and-children", "exclude-table-data-and-children", "sync-method", "filter",
    "exclude-extension"]

def longOptions : List (List Char × DumpKey × Arity) :=
  (managedOptions.map fun option => (option.2.1.toList, option.2.2, Arity.required)).append
    ((longFlagNames.map fun name => (name.toList, DumpKey.other name.length, Arity.none)).append
      (longValueNames.map fun name => (name.toList, DumpKey.other name.length, Arity.required)))

def pgDumpTable : OptionTable DumpKey where
  short c := (shortOptions.find? fun entry => entry.1 == c).map Prod.snd
  long := longOptions

lemma isPgDumpTable_pgDumpTable : IsPgDumpTable pgDumpTable where
  username := by decide
  host := by decide
  port := by decide
  jobs := by decide
  file := by decide
  inserts := ⟨"inserts".length, by decide⟩
  short_managed := by
    have hall : (shortOptions.all fun entry => !entry.2.1.isManaged ||
        ['f', 'F', 'h', 'p', 'U', 'd', 'j'].contains entry.1) = true := by decide
    intro c key arity hshort hmanaged
    obtain ⟨entry, hfind, hentry⟩ := Option.map_eq_some_iff.mp hshort
    have hletter : entry.1 = c := by simpa using List.find?_some hfind
    have hmem := List.all_eq_true.mp hall entry (List.mem_of_find?_eq_some hfind)
    rw [hentry, hletter, hmanaged] at hmem
    simpa using hmem
  long_managed := by
    have hall : (longOptions.all fun entry => !entry.2.1.isManaged ||
        ["file", "format", "host", "port", "username", "dbname", "jobs"].contains
          (String.ofList entry.1)) = true := by decide
    intro name key arity hmem hmanaged
    have hname := List.all_eq_true.mp hall _ hmem
    rw [hmanaged] at hname
    simpa using hname

/-- A dump of the schema `public` without data. -/
def schemaOnly : PgDumpOptions :=
  { PgDumpOptions.default with args := ["--schema-only", "-n", "public"] }

theorem inEffect_schemaOnly : schemaOnly.InEffect pgDumpTable "127.0.0.1" "5432" := by
  have hscan : schemaOnly.userScan pgDumpTable
      = ⟨[⟨⟨.other 11, true⟩, none, .user, .user⟩,
        ⟨⟨.other 110, true⟩, some "public".toList, .user, .user⟩], [], .normal⟩ := by
    decide +kernel
  apply (inEffect_iff isPgDumpTable_pgDumpTable (by decide +kernel) "127.0.0.1" "5432").mpr
  constructor
  · intro item hitem hplain
    rw [hscan] at hitem
    simp only [List.mem_cons, List.not_mem_nil, or_false] at hitem
    rcases hitem with hitem | hitem <;> rw [hitem] <;> rfl
  · intro named source hmode
    rw [hscan] at hmode
    cases hmode
  · intro hmode
    rw [hscan] at hmode
    cases hmode
  · intro _
    rw [hscan]
    exact Or.inl ⟨rfl, by decide +kernel⟩

/-- A bundle passes the guard, and names another user. -/
def bundled : PgDumpOptions := { PgDumpOptions.default with args := ["-sUroot"] }

theorem bundled_sets_username :
    bundled.validate = .ok () ∧ ¬ bundled.InEffect pgDumpTable "127.0.0.1" "5432" := by
  refine ⟨by decide +kernel, fun heffect => ?_⟩
  have hitem : (⟨⟨.username, false⟩, some "root".toList, .user, .user⟩ : Item DumpKey Origin)
      ∈ (ArgScan.scan pgDumpTable (bundled.taggedArgv "127.0.0.1" "5432")).items := by
    decide +kernel
  have hunmanaged := (heffect.user _ hitem rfl).1
  cases hunmanaged

end PgDumpOptions

end PgliteOxide.Pglite
