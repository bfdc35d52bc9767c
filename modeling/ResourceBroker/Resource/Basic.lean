import ResourceBroker.Binary64.Basic
import ResourceBroker.Status

/-!
The resource model: objects hold instances, instances hold resources, and a resource has a path, a
declared type and perhaps a value.
-/

namespace ResourceBroker

inductive DataType where
  | string
  | integer
  | float
  | boolean
  | bytes
  | time
  | link
deriving DecidableEq, Repr

def DataType.name : DataType → String
  | .string => "STRING"
  | .integer => "INTEGER"
  | .float => "FLOAT"
  | .boolean => "BOOLEAN"
  | .bytes => "OPAQUE"
  | .time => "TIME"
  | .link => "OBJLINK"

/-- A typed value. A time counts seconds since 1970; a link names an object and an instance of it,
with a colon between. -/
inductive ResourceValue where
  | string (text : String)
  | integer (n : Int64)
  | float (x : Binary64)
  | boolean (b : Bool)
  | bytes (content : List UInt8)
  | time (seconds : Int64)
  | link (target : String)
deriving DecidableEq

def ResourceValue.dataType : ResourceValue → DataType
  | .string _ => .string
  | .integer _ => .integer
  | .float _ => .float
  | .boolean _ => .boolean
  | .bytes _ => .bytes
  | .time _ => .time
  | .link _ => .link

structure ResourceData where
  path : String
  dataType : DataType
  value : Option ResourceValue
deriving DecidableEq

structure TypeMismatch where
  path : String
  expected : DataType
  actual : DataType
deriving DecidableEq

def TypeMismatch.message (mismatch : TypeMismatch) : String :=
  "Resource " ++ mismatch.path ++ ": expected " ++ mismatch.expected.name ++ ", got " ++
    mismatch.actual.name

namespace ResourceData

def declare (path : String) (dataType : DataType) : ResourceData := ⟨path, dataType, none⟩

def ofValue (path : String) (value : ResourceValue) : ResourceData :=
  ⟨path, value.dataType, some value⟩

def setValue (data : ResourceData) (value : ResourceValue) : Except TypeMismatch ResourceData :=
  if value.dataType = data.dataType then .ok { data with value := some value }
  else .error ⟨data.path, data.dataType, value.dataType⟩

end ResourceData

inductive Operation where
  | get
  | put
  | post
  | delete
deriving DecidableEq, Repr

inductive Mode where
  | single
  | multiple
deriving DecidableEq, Repr

structure Resource where
  id : UInt16
  mode : Mode
  data : ResourceData
  operations : List Operation
  observable : Bool
deriving DecidableEq

structure ObjectInstance where
  id : UInt16
  resources : List Resource
deriving DecidableEq

structure ResourceObject where
  id : UInt16
  instances : List ObjectInstance
deriving DecidableEq

def ResourceObject.resourceCount (object : ResourceObject) : Nat :=
  (object.instances.map (·.resources.length)).foldl (· + ·) 0

structure ValueOperation where
  data : ResourceData
  outcome : Status
deriving DecidableEq

/-- An entry counts as failed until it is carried out. -/
def ValueOperation.ofData (data : ResourceData) : ValueOperation := ⟨data, .failed⟩

end ResourceBroker
