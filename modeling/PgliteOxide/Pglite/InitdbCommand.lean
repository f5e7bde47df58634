import Mathlib.Data.List.Basic
import Mathlib.Tactic.SplitIfs
import PgliteOxide.Lib.Utf8

/-!
# Commands of `initdb`

`pglite_wasix_initdb_shim.c` runs the commands `initdb` would give to a shell: `parse_command`
cuts a command into tokens, quoted or not, takes redirects out and keeps the rest as `argv`. A
command is a C string, so its bytes up to the terminating NUL; allocations succeed.
-/

namespace PgliteOxide.Pglite

open Lib

namespace InitdbCommand

/-! ## Parsing -/

structure CommandSpec where
  argv : List Bytes
  stdinPath : Option Bytes
  stdoutPath : Option Bytes
  stderrToStdout : Bool
deriving DecidableEq, Repr

/-- `memset(spec, 0, sizeof(*spec))`. -/
def CommandSpec.empty : CommandSpec :=
  { argv := [], stdinPath := none, stdoutPath := none, stderrToStdout := false }

/-- A blank, a tab or a line feed. -/
def isBlank (c : UInt8) : Bool := c == 32 || c == 9 || c == 10

def skipBlanks (p : Bytes) : Bytes := p.dropWhile isBlank

/-- The loop of `read_command_token`: the token, and what is left of the command. -/
def readToken (quote : Option UInt8) : Bytes → Bytes × Bytes
  | [] => ([], [])
  | [c] =>
    if quote = some c then ([], [])
    else if quote = none ∧ isBlank c = true then ([], [c])
    else ([c], [])
  | c :: d :: rest =>
    if quote = some c then ([], d :: rest)
    else if quote = none ∧ isBlank c = true then ([], c :: d :: rest)
    else if c = 92 then
      -- a backslash takes the next byte as it is
      let (token, left) := readToken quote rest
      (d :: token, left)
    else
      let (token, left) := readToken quote (d :: rest)
      (c :: token, left)

/-- `read_command_token`. -/
def readCommandToken (cursor : Bytes) : Option Bytes × Bytes :=
  match skipBlanks cursor with
  | [] => (none, [])
  | c :: rest =>
    let (token, left) :=
      if c = 39 ∨ c = 34 then readToken (some c) rest else readToken none (c :: rest)
    (some token, skipBlanks left)

/-- `set_redirect_path`. -/
def setRedirectPath (input : Bool) (path : Option Bytes) (spec : CommandSpec) :
    Option CommandSpec :=
  match path with
  | none | some [] => none
  | some path =>
    some (if input then { spec with stdinPath := some path }
      else { spec with stdoutPath := some path })

/-- `2>&1`. -/
def stderrToken : Bytes := [50, 62, 38, 49]

/-- The loop of `parse_command`; a turn reads at least one byte, so the bound is not reached. A
command without an argument is refused. -/
def parseCommandFrom : ℕ → Bytes → CommandSpec → Option CommandSpec
  | 0, _, _ => none
  | turns + 1, cursor, spec =>
    match readCommandToken cursor with
    | (none, _) => if spec.argv = [] then none else some spec
    | (some token, cursor) =>
      if token = stderrToken then
        parseCommandFrom turns cursor { spec with stderrToStdout := true }
      else if token = [60] ∨ token = [62] then
        let (path, cursor) := readCommandToken cursor
        (setRedirectPath (token = [60]) path spec).bind (parseCommandFrom turns cursor)
      else if token.head? = some 60 ∨ token.head? = some 62 then
        (setRedirectPath (token.head? = some 60) (some token.tail) spec).bind
          (parseCommandFrom turns cursor)
      else parseCommandFrom turns cursor { spec with argv := spec.argv ++ [token] }

/-- `parse_command`. -/
def parseCommand (command : Bytes) : Option CommandSpec :=
  parseCommandFrom (command.length + 1) command .empty

/-! ## Writing commands -/

/-- A quote mark or a backslash is escaped by a backslash. -/
def escapeByte (c : UInt8) : Bytes := if c = 34 ∨ c = 92 then [92, c] else [c]

/-- An argument between double quotes. -/
def quoteArg (arg : Bytes) : Bytes := 34 :: (arg.flatMap escapeByte ++ [34])

/-- Arguments joined by blanks. -/
def commandText : List Bytes → Bytes
  | [] => []
  | [arg] => quoteArg arg
  | arg :: args => quoteArg arg ++ 32 :: commandText args

/-- ` < "input" > "output" 2>&1`. -/
def redirects (input output : Bytes) : Bytes :=
  [32, 60, 32] ++ quoteArg input ++ [32, 62, 32] ++ quoteArg output ++ 32 :: stderrToken

/-! ## Reading one token -/

lemma skipBlanks_of_not {c : UInt8} (h : isBlank c = false) (rest : Bytes) :
    skipBlanks (c :: rest) = c :: rest := by
  unfold skipBlanks
  rw [List.dropWhile_cons, h, if_neg Bool.false_ne_true]

lemma skipBlanks_blank (rest : Bytes) : skipBlanks (32 :: rest) = skipBlanks rest := rfl

/-- Escaped bytes are read up to the closing quote mark. -/
lemma readToken_escaped (arg rest : Bytes) :
    readToken (some 34) (arg.flatMap escapeByte ++ 34 :: rest) = (arg, rest) := by
  induction arg with
  | nil => cases rest <;> rfl
  | cons c arg ih =>
    rw [List.flatMap_cons, List.append_assoc]
    by_cases hc : c = 34 ∨ c = 92
    · have hescape : escapeByte c = [92, c] := if_pos hc
      rw [hescape]
      show readToken (some 34) (92 :: c :: (arg.flatMap escapeByte ++ 34 :: rest)) = _
      rw [readToken, ih]
      rfl
    · have hescape : escapeByte c = [c] := if_neg hc
      -- at least the closing mark is behind `c`
      obtain ⟨d, behind, hbehind⟩ : ∃ d behind,
          arg.flatMap escapeByte ++ 34 :: rest = d :: behind :=
        List.exists_cons_of_ne_nil (by simp)
      rw [hbehind] at ih
      rw [hescape, hbehind]
      rw [not_or] at hc
      have hquote : ¬ (some 34 : Option UInt8) = some c := fun h => hc.1 (Option.some.inj h).symm
      show readToken (some 34) (c :: d :: behind) = _
      rw [readToken, if_neg hquote, if_neg (by simp), if_neg hc.2, ih]

lemma readCommandToken_quoteArg (arg rest : Bytes) :
    readCommandToken (quoteArg arg ++ rest) = (some arg, skipBlanks rest) := by
  have htext : quoteArg arg ++ rest = 34 :: (arg.flatMap escapeByte ++ 34 :: rest) := by
    unfold quoteArg
    simp
  rw [htext, readCommandToken, skipBlanks_of_not (by decide)]
  dsimp only
  rw [if_pos (Or.inr rfl), readToken_escaped]

lemma skipBlanks_quoteArg (arg rest : Bytes) :
    skipBlanks (quoteArg arg ++ rest) = quoteArg arg ++ rest :=
  skipBlanks_of_not (by decide) _

/-- A redirect sign with a blank behind it is a token. -/
lemma readCommandToken_sign {c : UInt8} (hc : c = 60 ∨ c = 62) (rest : Bytes) :
    readCommandToken (c :: 32 :: rest) = (some [c], skipBlanks rest) := by
  have hread : readToken none (32 :: rest) = ([], 32 :: rest) := by
    cases rest <;> rfl
  rcases hc with h | h <;> rw [h, readCommandToken, skipBlanks_of_not (by decide)]
  · show (some (60 :: (readToken none (32 :: rest)).1),
      skipBlanks (readToken none (32 :: rest)).2) = _
    rw [hread, skipBlanks_blank]
  · show (some (62 :: (readToken none (32 :: rest)).1),
      skipBlanks (readToken none (32 :: rest)).2) = _
    rw [hread, skipBlanks_blank]

/-! ## One turn of `parse_command` -/

/-- A token that is an argument for `parse_command`. -/
def Plain (token : Bytes) : Prop :=
  token ≠ stderrToken ∧ token.head? ≠ some 60 ∧ token.head? ≠ some 62

lemma parse_argument {cursor token left : Bytes}
    (h : readCommandToken cursor = (some token, left)) (htoken : Plain token) (turns : ℕ)
    (spec : CommandSpec) :
    parseCommandFrom (turns + 1) cursor spec
      = parseCommandFrom turns left { spec with argv := spec.argv ++ [token] } := by
  have hsign : ¬ (token = [60] ∨ token = [62]) := by
    rintro (heq | heq)
    · exact htoken.2.1 (by rw [heq]; rfl)
    · exact htoken.2.2 (by rw [heq]; rfl)
  have hhead : ¬ (token.head? = some 60 ∨ token.head? = some 62) :=
    not_or.mpr htoken.2
  rw [parseCommandFrom, h]
  dsimp only
  rw [if_neg htoken.1, if_neg hsign, if_neg hhead]

lemma setRedirectPath_some (input : Bool) {path : Bytes} (hpath : path ≠ [])
    (spec : CommandSpec) :
    setRedirectPath input (some path) spec
      = some (if input then { spec with stdinPath := some path }
        else { spec with stdoutPath := some path }) := by
  cases path with
  | nil => exact absurd rfl hpath
  | cons c path => rfl

lemma parse_input {cursor left path behind : Bytes}
    (h : readCommandToken cursor = (some [60], left))
    (hread : readCommandToken left = (some path, behind)) (hpath : path ≠ []) (turns : ℕ)
    (spec : CommandSpec) :
    parseCommandFrom (turns + 1) cursor spec
      = parseCommandFrom turns behind { spec with stdinPath := some path } := by
  have hset := setRedirectPath_some true hpath spec
  rw [parseCommandFrom, h]
  dsimp only
  rw [hread]
  show (setRedirectPath true (some path) spec).bind _ = _
  rw [hset]
  rfl

lemma parse_output {cursor left path behind : Bytes}
    (h : readCommandToken cursor = (some [62], left))
    (hread : readCommandToken left = (some path, behind)) (hpath : path ≠ []) (turns : ℕ)
    (spec : CommandSpec) :
    parseCommandFrom (turns + 1) cursor spec
      = parseCommandFrom turns behind { spec with stdoutPath := some path } := by
  have hset := setRedirectPath_some false hpath spec
  rw [parseCommandFrom, h]
  dsimp only
  rw [hread]
  show (setRedirectPath false (some path) spec).bind _ = _
  rw [hset]
  rfl

lemma parse_stderr {cursor left : Bytes} (h : readCommandToken cursor = (some stderrToken, left))
    (turns : ℕ) (spec : CommandSpec) :
    parseCommandFrom (turns + 1) cursor spec
      = parseCommandFrom turns left { spec with stderrToStdout := true } := by
  rw [parseCommandFrom, h]
  dsimp only
  rw [if_pos rfl]

lemma parse_end {spec : CommandSpec} (hargv : spec.argv ≠ []) (turns : ℕ) :
    parseCommandFrom (turns + 1) [] spec = some spec := by
  have hnone : readCommandToken [] = (none, []) := rfl
  rw [parseCommandFrom, hnone]
  dsimp only
  rw [if_neg hargv]

/-- Quoted arguments become the argument vector, in order. -/
lemma parse_commandText {args : List Bytes} (hne : args ≠ []) (hargs : ∀ arg ∈ args, Plain arg)
    (tail : Bytes) (turns : ℕ) (spec : CommandSpec) :
    parseCommandFrom (turns + args.length) (commandText args ++ tail) spec
      = parseCommandFrom turns (skipBlanks tail) { spec with argv := spec.argv ++ args } := by
  induction args generalizing spec with
  | nil => exact absurd rfl hne
  | cons arg args ih =>
    have hplain := hargs arg List.mem_cons_self
    rw [List.length_cons, ← Nat.add_assoc]
    cases args with
    | nil => exact parse_argument (readCommandToken_quoteArg arg tail) hplain turns spec
    | cons next args =>
      have hread : readCommandToken (commandText (arg :: next :: args) ++ tail)
          = (some arg, skipBlanks (32 :: (commandText (next :: args) ++ tail))) := by
        have htext : commandText (arg :: next :: args)
            = quoteArg arg ++ 32 :: commandText (next :: args) := rfl
        rw [htext, List.append_assoc, List.cons_append]
        exact readCommandToken_quoteArg arg _
      have hskip : skipBlanks (32 :: (commandText (next :: args) ++ tail))
          = commandText (next :: args) ++ tail := by
        rw [skipBlanks_blank]
        cases args <;> exact skipBlanks_of_not (by decide) _
      rw [hskip] at hread
      rw [parse_argument hread hplain, ih (List.cons_ne_nil _ _)
        fun a ha => hargs a (List.mem_cons_of_mem arg ha), List.append_assoc]
      rfl

/-- The redirects are taken out behind the arguments. -/
lemma parse_redirects {input output : Bytes} (hinput : input ≠ []) (houtput : output ≠ [])
    {spec : CommandSpec} (hargv : spec.argv ≠ []) (turns : ℕ) :
    parseCommandFrom (turns + 4) (skipBlanks (redirects input output)) spec
      = some { spec with
        stdinPath := some input, stdoutPath := some output, stderrToStdout := true } := by
  have htext : skipBlanks (redirects input output)
      = 60 :: 32 :: (quoteArg input
        ++ (32 :: 62 :: 32 :: (quoteArg output ++ 32 :: stderrToken))) := by
    unfold redirects
    simp only [List.append_assoc, List.cons_append, List.nil_append]
    rw [skipBlanks_blank, skipBlanks_of_not (by decide)]
  have hinputRead (rest : Bytes) :
      readCommandToken (skipBlanks (quoteArg input ++ rest)) = (some input, skipBlanks rest) := by
    rw [skipBlanks_quoteArg]
    exact readCommandToken_quoteArg input rest
  have houtputRead (rest : Bytes) :
      readCommandToken (skipBlanks (quoteArg output ++ rest)) = (some output, skipBlanks rest) := by
    rw [skipBlanks_quoteArg]
    exact readCommandToken_quoteArg output rest
  have hlast : readCommandToken (skipBlanks (32 :: stderrToken)) = (some stderrToken, []) := by
    decide
  rw [htext, parse_input (readCommandToken_sign (Or.inl rfl) _) (hinputRead _) hinput,
    skipBlanks_blank, skipBlanks_of_not (by decide),
    parse_output (readCommandToken_sign (Or.inr rfl) _) (houtputRead _) houtput,
    parse_stderr hlast]
  have hend : parseCommandFrom (turns + 1) []
      { spec with stdinPath := some input, stdoutPath := some output, stderrToStdout := true }
        = some { spec with
          stdinPath := some input, stdoutPath := some output, stderrToStdout := true } :=
    parse_end (by exact hargv) turns
  exact hend

/-! ## What can be an argument -/

/-- Redirects leave the arguments alone. -/
lemma setRedirectPath_argv {input : Bool} {path : Option Bytes} {spec spec' : CommandSpec}
    (h : setRedirectPath input path spec = some spec') : spec'.argv = spec.argv := by
  unfold setRedirectPath at h
  split at h
  · cases h
  · cases h
  · rw [← Option.some.inj h]
    cases input <;> rfl

/-- Nothing that looks like a redirect becomes an argument. -/
lemma parse_plain {turns : ℕ} {cursor : Bytes} {spec spec' : CommandSpec}
    (h : parseCommandFrom turns cursor spec = some spec') (hspec : ∀ arg ∈ spec.argv, Plain arg) :
    ∀ arg ∈ spec'.argv, Plain arg := by
  induction turns generalizing cursor spec with
  | zero => cases h
  | succ turns ih =>
    rw [parseCommandFrom] at h
    rcases hread : readCommandToken cursor with ⟨_ | token, left⟩
    · rw [hread] at h
      dsimp only at h
      split_ifs at h
      rw [← Option.some.inj h]
      exact hspec
    · rw [hread] at h
      dsimp only at h
      split_ifs at h with hstderr hsign hhead
      · exact ih h hspec
      · obtain ⟨next, hset, hrest⟩ := Option.bind_eq_some_iff.mp h
        exact ih hrest (by rw [setRedirectPath_argv hset]; exact hspec)
      · obtain ⟨next, hset, hrest⟩ := Option.bind_eq_some_iff.mp h
        exact ih hrest (by rw [setRedirectPath_argv hset]; exact hspec)
      · apply ih h
        intro arg harg
        rcases List.mem_append.mp harg with hold | hnew
        · exact hspec arg hold
        · rw [List.mem_singleton.mp hnew]
          exact ⟨hstderr, not_or.mp hhead⟩

lemma plain_of_parseCommand {command : Bytes} {spec : CommandSpec}
    (h : parseCommand command = some spec) : ∀ arg ∈ spec.argv, Plain arg :=
  parse_plain h (by simp [CommandSpec.empty])

/-! ## Round trip -/

lemma length_le_commandText (args : List Bytes) : args.length ≤ (commandText args).length := by
  induction args with
  | nil => simp
  | cons arg args ih =>
    cases args with
    | nil => simp [commandText, quoteArg]
    | cons next args =>
      have htext : commandText (arg :: next :: args)
          = quoteArg arg ++ 32 :: commandText (next :: args) := rfl
      rw [htext]
      simp only [List.length_append, List.length_cons] at ih ⊢
      omega

lemma parseCommand_commandText {args : List Bytes} (hne : args ≠ [])
    (hargs : ∀ arg ∈ args, Plain arg) :
    parseCommand (commandText args) = some { CommandSpec.empty with argv := args } := by
  have hlen := length_le_commandText args
  obtain ⟨k, hk⟩ : ∃ k, (commandText args).length + 1 = k + 1 + args.length :=
    ⟨(commandText args).length - args.length, by omega⟩
  have hrun := parse_commandText hne hargs [] (k + 1) .empty
  rw [List.append_nil] at hrun
  unfold parseCommand
  rw [hk, hrun]
  exact parse_end hne k

lemma parseCommand_redirects {args : List Bytes} (hne : args ≠ [])
    (hargs : ∀ arg ∈ args, Plain arg) {input output : Bytes} (hinput : input ≠ [])
    (houtput : output ≠ []) :
    parseCommand (commandText args ++ redirects input output)
      = some { argv := args, stdinPath := some input, stdoutPath := some output,
               stderrToStdout := true } := by
  have hlen := length_le_commandText args
  have hredirects : 4 ≤ (redirects input output).length := by
    unfold redirects
    simp only [List.length_append, List.length_cons]
    omega
  obtain ⟨k, hk⟩ : ∃ k, (commandText args ++ redirects input output).length + 1
      = k + 4 + args.length := by
    refine ⟨(commandText args).length - args.length + ((redirects input output).length - 4) + 1, ?_⟩
    rw [List.length_append]
    omega
  unfold parseCommand
  rw [hk, parse_commandText hne hargs]
  exact parse_redirects hinput houtput hne k

/-- **Quoted commands are parsed back** exactly when no argument looks like a redirect: is `2>&1`
or starts with a redirect sign. That it was quoted is forgotten by then. The same with redirects
behind the arguments. -/
theorem parseCommand_quoted_iff {args : List Bytes} (hne : args ≠ []) {input output : Bytes}
    (hinput : input ≠ []) (houtput : output ≠ []) :
    (parseCommand (commandText args) = some { CommandSpec.empty with argv := args }
      ↔ ∀ arg ∈ args, Plain arg) ∧
    (parseCommand (commandText args ++ redirects input output)
        = some { argv := args, stdinPath := some input, stdoutPath := some output,
                 stderrToStdout := true }
      ↔ ∀ arg ∈ args, Plain arg) := by
  refine ⟨⟨?_, ?_⟩, ⟨?_, ?_⟩⟩
  · exact fun h => plain_of_parseCommand h
  · exact parseCommand_commandText hne
  · exact fun h => plain_of_parseCommand h
  · exact fun hargs => parseCommand_redirects hne hargs hinput houtput

/-- `"a" "" "b\"c"`, read from `<` and written to `>`. -/
theorem parseCommand_quoted_hard :
    parseCommand (commandText [[97], [], [98, 34, 99]] ++ redirects [60] [62])
      = some { argv := [[97], [], [98, 34, 99]], stdinPath := some [60], stdoutPath := some [62],
               stderrToStdout := true } :=
  (parseCommand_quoted_iff (by decide) (by decide) (by decide)).2.mpr (by unfold Plain; decide)

/-- `"echo" "<in"`: the second argument becomes a redirect. -/
theorem parseCommand_quoted_redirect :
    parseCommand (commandText [[101, 99, 104, 111], [60, 105, 110]])
      = some { argv := [[101, 99, 104, 111]], stdinPath := some [105, 110], stdoutPath := none,
               stderrToStdout := false } := by
  decide

end InitdbCommand

end PgliteOxide.Pglite
