import GraphTable.Config.Error
import GraphTable.Shape.FromYaml
import GraphTable.Text.Utf8
import GraphTable.Word

/-!
# Configuration files

A configuration file is a YAML text with a record in it. Fields that are left
out have their defaults.
-/

namespace GraphTable

namespace Config

variable {ν : Type} {m : Type → Type}
variable [Monad m] [MonadExceptOf Fault m] [Medium ν m]

structure Slots where
  host : Option String := none
  port : Option Nat := none
  timeout : Option Nat := none
  maxBlockRows : Option Nat := none
  strict : Option Bool := none

/-- How a configuration is read. A port has sixteen bits, the other numbers
have sixty-four. -/
def shape : RecordShape m ν Slots Config where
  name := "ReaderConfig"
  slots :=
    [⟨"gremlin_host", false, fun slots => slots.host.isSome, fun slots value =>
        return { slots with host := some (← Medium.string value) }⟩,
      ⟨"gremlin_port", false, fun slots => slots.port.isSome, fun slots value =>
        return { slots with
          port := some (← Medium.natural (Word.limit 16) "u16" value) }⟩,
      ⟨"request_timeout_ms", false, fun slots => slots.timeout.isSome,
        fun slots value =>
          return { slots with
            timeout := some (← Medium.natural (Word.limit 64) "u64" value) }⟩,
      ⟨"max_block_rows", false, fun slots => slots.maxBlockRows.isSome,
        fun slots value =>
          return { slots with
            maxBlockRows := some (← Medium.natural (Word.limit 64) "usize" value) }⟩,
      ⟨"strict_query_kind", false, fun slots => slots.strict.isSome,
        fun slots value =>
          return { slots with strict := some (← Medium.bool value) }⟩]
  blank := {}
  build slots :=
    let default : Config := {}
    .ok {
      host := slots.host.getD default.host
      port := slots.port.getD default.port
      timeout := slots.timeout.getD default.timeout
      maxBlockRows := slots.maxBlockRows.getD default.maxBlockRows
      strict := slots.strict.getD default.strict }

/-- Make a configuration of a text in which some decoder finds it. -/
def ofTextBy (decode? : String → Option Config) (text : String) :
    Except ConfigError Config :=
  match decode? text with
  | some config => config.validated
  | none => .error .content

/-- Make a configuration of the bytes of a file, if there is such a file. -/
def ofFileBy (decode? : String → Option Config) :
    Option (List UInt8) → Except ConfigError Config
  | none => .error (.file .notFound)
  | some bytes =>
      match Text.decodeUtf8 bytes with
      | .ok text => ofTextBy decode? text
      | .error _ => .error (.file .notText)

/-- Make a configuration of a file with a YAML text. -/
def ofFile : Option (List UInt8) → Except ConfigError Config :=
  ofFileBy (Yaml.decode? shape.read)

end Config

end GraphTable
