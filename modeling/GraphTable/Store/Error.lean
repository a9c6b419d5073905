import GraphTable.Shape.Fault

/-!
# Errors of stores
-/

namespace GraphTable

/-- Why a store did not answer. -/
inductive StoreError where
  | connection (endpoint : String) (cause : String)
  | transport (cause : String)
  | remote (code : Nat) (text : String)
  | malformedResponse (text : String)
  | timeout (milliseconds : Nat)
  | unsupportedQuery (text : String)
  /-- A response is not the JSON text of a response. -/
  | json (fault : Fault)

def Fault.message : Fault → String
  | .lapse .stray => "the text is not JSON"
  | .lapse .cut => "the text ends inside a value"
  | .mismatch cause => cause.message

def StoreError.message : StoreError → String
  | .connection endpoint cause =>
      s!"Failed to connect to graph store at {endpoint}: {cause}"
  | .transport cause => s!"WebSocket transport error: {cause}"
  | .remote code text => s!"Graph store returned status {code}: {text}"
  | .malformedResponse text => s!"Malformed response from graph store: {text}"
  | .timeout milliseconds =>
      s!"Timed out after {milliseconds} ms waiting for graph store"
  | .unsupportedQuery text => s!"Query is not supported by this store: {text}"
  | .json fault =>
      s!"Failed to encode or decode graph store message: {fault.message}"

end GraphTable
