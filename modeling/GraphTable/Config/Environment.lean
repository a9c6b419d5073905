import GraphTable.Config.Error
import GraphTable.Entries
import GraphTable.Text.Utf8
import GraphTable.Word

/-!
# Configuration from environment variables

A variable that is unset or not text leaves its setting at the default. Numbers
may have a plus sign and leading zeros but neither blanks nor other marks. The
first variable whose value cannot be read is reported; the ranges are checked
only after all variables have been read.
-/

namespace GraphTable

/-- Environment variables: bytes under names. -/
abbrev Environment := Dict (List UInt8)

/-- The text of a variable, if it is set and text. -/
def Environment.text? (environment : Environment) (name : String) :
    Option String :=
  match environment.get? name with
  | some bytes => (Text.decodeUtf8 bytes).toOption
  | none => none

namespace Setting

/-- Read decimal digits after an amount; the result must lie below a limit. -/
def digitsBelow (limit amount : Nat) : List Char → Except SettingFault Nat
  | [] => .ok amount
  | c :: rest =>
      if '0' ≤ c ∧ c ≤ '9' then
        let amount := amount * 10 + (c.toNat - 48)
        if amount < limit then digitsBelow limit amount rest
        else .error .integerTooLarge
      else .error .invalidDigit

def natural (limit : Nat) (text : String) : Except SettingFault Nat :=
  match text.toList with
  | [] => .error .emptyInteger
  | ['+'] => .error .invalidDigit
  | '+' :: digits => digitsBelow limit 0 digits
  | digits => digitsBelow limit 0 digits

def bool (text : String) : Except SettingFault Bool :=
  if text = "true" then .ok true
  else if text = "false" then .ok false
  else .error .notBool

/-- Read a variable, or take the default if it has no text. -/
def read {α : Type} (environment : Environment) (name : String) (default : α)
    (parse : String → Except SettingFault α) : Except ConfigError α :=
  match environment.text? name with
  | none => .ok default
  | some text =>
      match parse text with
      | .ok value => .ok value
      | .error fault => .error (.setting name text fault)

end Setting

namespace Config

/-- Read the settings from variables without checking their ranges. -/
def readEnvironment (environment : Environment) : Except ConfigError Config := do
  let default : Config := {}
  let port ← Setting.read environment "GREMLIN_PORT" default.port
    (Setting.natural (Word.limit 16))
  let timeout ← Setting.read environment "GREMLIN_REQUEST_TIMEOUT_MS"
    default.timeout (Setting.natural (Word.limit 64))
  let maxBlockRows ← Setting.read environment "READER_MAX_BLOCK_ROWS"
    default.maxBlockRows (Setting.natural (Word.limit 64))
  let strict ← Setting.read environment "READER_STRICT_QUERY_KIND"
    default.strict Setting.bool
  return {
    host := (environment.text? "GREMLIN_HOST").getD default.host
    port, timeout, maxBlockRows, strict }

/-- Make a configuration of environment variables. -/
def ofEnvironment (environment : Environment) : Except ConfigError Config := do
  (← readEnvironment environment).validated

end Config

end GraphTable
