import ResourceBroker.Json.Reader
import ResourceBroker.Resource.Codec

/-!
Definition documents as they are written: three nested maps from keys to the description of one
resource. Keys are texts here; what they mean is decided when the objects are built.
-/

namespace ResourceBroker

/-- The description of one resource. An initial value may be any JSON value but null. -/
structure ResourceSpec where
  mode : Mode
  dataType : DataType
  value : Option Json
  operations : List Operation
  observable : Bool

namespace ResourceSpec

/-- Null stands for no value. A value is kept in its sorted form. -/
def readValue : Json.Reader (Option Json)
  | _, .null => some none
  | origin, json => if origin.canHold json then some (some json.sorted) else none

/-- Only the type must be given. -/
def read : Json.Reader ResourceSpec := fun origin json => do
  let r ← Json.Reader.closedRecord ["mode", "type", "value", "operations", "observable"] origin json
  pure {
    mode := ← r.withDefault "mode" .single Mode.read
    dataType := ← r.required "type" DataType.read
    value := ← r.withDefault "value" none readValue
    operations := ← r.withDefault "operations" [] (.list Operation.read)
    observable := ← r.withDefault "observable" false .bool }

end ResourceSpec

/-- By object, instance and resource; each map is sorted by key. -/
abbrev DefinitionDocument := List (String × List (String × List (String × ResourceSpec)))

namespace DefinitionDocument

def read : Json.Reader DefinitionDocument := .map (.map (.map ResourceSpec.read))

def ofText? (text : String) : Option DefinitionDocument := Json.decode? read text.toList

def entryCount (document : DefinitionDocument) : Nat :=
  document.foldl (fun n (_, instances) =>
    instances.foldl (fun n (_, resources) => n + resources.length) n) 0

end DefinitionDocument
end ResourceBroker
