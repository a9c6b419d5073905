/-!
# Configuration of a reader

A configuration says where the graph store is, how long to wait for it, how many
rows a block holds and whether the reader is strict. Not every configuration is
valid; `violations` lists what is wrong with one.
-/

namespace GraphTable

/-- A configuration. Fields that are not given have these values. -/
structure Config where
  host : String := "localhost"
  port : Nat := 8182
  timeout : Nat := 30000
  maxBlockRows : Nat := 1000
  strict : Bool := false
  deriving Repr, DecidableEq

/-- What is wrong with a configuration. -/
inductive Violation where
  | emptyHost
  | portOutOfRange
  | timeoutOutOfRange
  | blockRowsOutOfRange
  deriving Repr, DecidableEq

namespace Violation

def field : Violation → String
  | .emptyHost => "gremlin_host"
  | .portOutOfRange => "gremlin_port"
  | .timeoutOutOfRange => "request_timeout_ms"
  | .blockRowsOutOfRange => "max_block_rows"

def code : Violation → String
  | .emptyHost => "length"
  | _ => "range"

def message : Violation → String
  | .emptyHost => "Gremlin host cannot be empty"
  | .portOutOfRange => "Gremlin port must be between 1 and 65535"
  | .timeoutOutOfRange => "Request timeout must be between 1 and 600000 ms"
  | .blockRowsOutOfRange => "Max block rows must be between 1 and 10000"

end Violation

namespace Config

def endpoint (config : Config) : String :=
  s!"ws://{config.host}:{config.port}/gremlin"

def isWithin (limit n : Nat) : Bool :=
  1 ≤ n && n ≤ limit

def violations (config : Config) : List Violation :=
  (if config.host.isEmpty then [.emptyHost] else []) ++
    (if isWithin 65535 config.port then [] else [.portOutOfRange]) ++
    (if isWithin 600000 config.timeout then [] else [.timeoutOutOfRange]) ++
    (if isWithin 10000 config.maxBlockRows then [] else [.blockRowsOutOfRange])

end Config

end GraphTable
