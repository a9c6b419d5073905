import GraphTable.Config.Basic

/-!
# Errors of configuration
-/

namespace GraphTable

/-- Why a text is not the value of a setting. -/
inductive SettingFault where
  | emptyInteger
  | invalidDigit
  | integerTooLarge
  | notBool
  deriving Repr, DecidableEq

def SettingFault.message : SettingFault → String
  | .emptyInteger => "cannot parse integer from empty string"
  | .invalidDigit => "invalid digit found in string"
  | .integerTooLarge => "number too large to fit in target type"
  | .notBool => "provided string was not \x60true\x60 or \x60false\x60"

/-- Why a file has no text. -/
inductive FileFault where
  | notFound
  | notText
  deriving Repr, DecidableEq

def FileFault.message : FileFault → String
  | .notFound => "No such file or directory (os error 2)"
  | .notText => "stream did not contain valid UTF-8"

/-- Why there is no configuration. -/
inductive ConfigError where
  | setting (name : String) (value : String) (fault : SettingFault)
  | file (fault : FileFault)
  | content
  | invalid (violations : List Violation)
  deriving Repr, DecidableEq

/-- A field that could not be read, its value and the cause. -/
def parseMessage (field value cause : String) : String :=
  s!"Parse error for {field}: {value} - {cause}"

namespace Config

def validated (config : Config) : Except ConfigError Config :=
  match config.violations with
  | [] => .ok config
  | violations => .error (.invalid violations)

end Config

end GraphTable
