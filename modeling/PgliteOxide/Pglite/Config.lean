import PgliteOxide.Lib.Outcome

/-!
# `StartupConfig`

The startup settings of `config.rs` and their validation.
-/

namespace PgliteOxide.Pglite

structure StartupConfig where
  username : String
  database : String
  debugLevel : Option UInt8
  relaxedDurability : Bool
  extraArgs : List String
deriving DecidableEq, Repr

/-- `StartupConfig::default`. -/
def StartupConfig.default : StartupConfig :=
  { username := "postgres"
    database := "template1"
    debugLevel := none
    relaxedDurability := false
    extraArgs := [] }

/-- `validate_startup_value`. -/
def validateStartupValue (name value : String) : Except String Unit := do
  if value = "" then
    throw s!"Postgres startup {name} must not be empty"
  if '\x00' ∈ value.toList then
    throw s!"Postgres startup {name} must not contain NUL bytes"

/-- The argument loop of `validate`. -/
def validateExtraArgs : List String → Except String Unit
  | [] => .ok ()
  | arg :: args =>
    if '\x00' ∈ arg.toList then .error "Postgres startup argument must not contain NUL bytes"
    else validateExtraArgs args

/-- `StartupConfig::validate`. -/
def StartupConfig.validate (config : StartupConfig) : Except String Unit := do
  validateStartupValue "username" config.username
  validateStartupValue "database" config.database
  match config.debugLevel with
  | some level =>
    if 5 < level then
      throw s!"Postgres debug level must be between 0 and 5, got {level}"
  | none => pure ()
  validateExtraArgs config.extraArgs

end PgliteOxide.Pglite
