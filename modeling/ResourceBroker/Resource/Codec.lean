import ResourceBroker.Resource.Basic

/-!
The wire form of the resource model.
-/

namespace ResourceBroker

def DataType.tag : DataType → String
  | .string => "string"
  | .integer => "integer"
  | .float => "float"
  | .boolean => "boolean"
  | .bytes => "opaque"
  | .time => "time"
  | .link => "objlink"

def DataType.all : List DataType :=
  [.string, .integer, .float, .boolean, .bytes, .time, .link]

def DataType.toJson (t : DataType) : Json := .ofString t.tag

def DataType.names : List (String × DataType) := all.map fun t => (t.tag, t)

def DataType.read : Json.Reader DataType := .named names

def ResourceValue.content : ResourceValue → Json
  | .string text => .ofString text
  | .integer n => .ofInt n.toInt
  | .float x => .number (.real x)
  | .boolean b => .bool b
  | .bytes content => .array (content.map fun b => .ofNat b.toNat)
  | .time seconds => .ofInt seconds.toInt
  | .link target => .ofString target

def ResourceValue.toJson (value : ResourceValue) : Json :=
  .record [("type", value.dataType.toJson), ("value", value.content)]

def ResourceValue.readAs (t : DataType) : Json.Reader ResourceValue := fun origin content =>
  match t with
  | .string => (Json.Reader.string origin content).map .string
  | .integer => (Json.Reader.int64 origin content).map .integer
  | .float => (Json.Reader.real origin content).map .float
  | .boolean => (Json.Reader.bool origin content).map .boolean
  | .bytes => (Json.Reader.list .uint8 origin content).map .bytes
  | .time => (Json.Reader.int64 origin content).map .time
  | .link => (Json.Reader.string origin content).map .link

def ResourceValue.read : Json.Reader ResourceValue := .besideTag "type" "value" DataType.names readAs

namespace ResourceData

def toJson (data : ResourceData) : Json :=
  .record [("path", .ofString data.path), ("data_type", data.dataType.toJson),
    ("value", match data.value with
      | some value => value.toJson
      | none => .null)]

/-- The declared type and the value are read independently of each other. -/
def read : Json.Reader ResourceData := fun origin json => do
  let r ← Json.Reader.record ["path", "data_type", "value"] origin json
  pure {
    path := ← r.required "path" .string
    dataType := ← r.required "data_type" DataType.read
    value := ← r.optional "value" ResourceValue.read }

end ResourceData

def Operation.tag : Operation → String
  | .get => "get"
  | .put => "put"
  | .post => "post"
  | .delete => "delete"

def Operation.toJson (op : Operation) : Json := .ofString op.tag

def Operation.read : Json.Reader Operation :=
  .named ([get, put, post, delete].map fun op => (op.tag, op))

def Mode.tag : Mode → String
  | .single => "single"
  | .multiple => "multiple"

def Mode.toJson (mode : Mode) : Json := .ofString mode.tag

def Mode.read : Json.Reader Mode := .named ([single, multiple].map fun mode => (mode.tag, mode))

namespace Resource

def toJson (resource : Resource) : Json :=
  .record [("id", .ofNat resource.id.toNat), ("mode", resource.mode.toJson),
    ("data", resource.data.toJson), ("operations", .array (resource.operations.map Operation.toJson)),
    ("observable", .bool resource.observable)]

def read : Json.Reader Resource := fun origin json => do
  let r ← Json.Reader.record ["id", "mode", "data", "operations", "observable"] origin json
  pure {
    id := ← r.required "id" .uint16
    mode := ← r.required "mode" Mode.read
    data := ← r.required "data" ResourceData.read
    operations := ← r.required "operations" (.list Operation.read)
    observable := ← r.required "observable" .bool }

end Resource

namespace ObjectInstance

def toJson (inst : ObjectInstance) : Json :=
  .record [("id", .ofNat inst.id.toNat), ("resources", .array (inst.resources.map Resource.toJson))]

def read : Json.Reader ObjectInstance := fun origin json => do
  let r ← Json.Reader.record ["id", "resources"] origin json
  pure {
    id := ← r.required "id" .uint16
    resources := ← r.required "resources" (.list Resource.read) }

end ObjectInstance

namespace ResourceObject

def toJson (object : ResourceObject) : Json :=
  .record [("id", .ofNat object.id.toNat),
    ("instances", .array (object.instances.map ObjectInstance.toJson))]

def read : Json.Reader ResourceObject := fun origin json => do
  let r ← Json.Reader.record ["id", "instances"] origin json
  pure {
    id := ← r.required "id" .uint16
    instances := ← r.required "instances" (.list ObjectInstance.read) }

end ResourceObject

namespace ValueOperation

/-- Set and get operations differ in the name of the member that holds the data. -/
def toJson (dataKey : String) (op : ValueOperation) : Json :=
  .record [(dataKey, op.data.toJson), ("output_status", op.outcome.toJson)]

def read (dataKey : String) : Json.Reader ValueOperation := fun origin json => do
  let r ← Json.Reader.record [dataKey, "output_status"] origin json
  pure {
    data := ← r.required dataKey ResourceData.read
    outcome := ← r.required "output_status" Status.read }

def setKey : String := "input_data"

def getKey : String := "inout_data"

end ValueOperation
end ResourceBroker
