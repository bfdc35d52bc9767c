import ResourceBroker.Definition.Document
import ResourceBroker.Json.Printer
import ResourceBroker.Text.Quoted

/-!
From a definition text to the resource objects that it describes. The document is decoded as a whole
first; then objects, instances and resources are checked depth first, keys in their textual order, and
the first violation is reported. The result is sorted by number at each level.
-/

namespace ResourceBroker

/-- What can be wrong with a definition. Paths name the entry from the object down. -/
inductive DefinitionError where
  | undecodable
  | noObjects
  | invalidId (path key : String)
  | duplicateObject (object : UInt16)
  | noInstances (object : UInt16)
  | duplicateInstance (path : String)
  | noResources (path : String)
  | duplicateResource (path : String)
  | invalidValue (value : Json) (path : String) (dataType : DataType)

def DefinitionError.message : DefinitionError → String
  | .undecodable => "Definition is not a valid document"
  | .noObjects => "Definition contains no objects"
  | .invalidId path key => "Invalid id at /" ++ path ++ ": " ++ Text.quote key
  | .duplicateObject object => "Duplicate object id " ++ toString object.toNat
  | .noInstances object => "Object " ++ toString object.toNat ++ " has no instances"
  | .duplicateInstance path => "Duplicate instance id /" ++ path
  | .noResources path => "Instance /" ++ path ++ " has no resources"
  | .duplicateResource path => "Duplicate resource id /" ++ path
  | .invalidValue value path dataType =>
    "Value " ++ value.print ++ " at " ++ path ++ " is not a valid " ++ dataType.name

def DefinitionError.toBrokerError (error : DefinitionError) : BrokerError :=
  .invalidDefinition error.message

namespace Definition

def isLink (target : List Char) : Bool :=
  match target.dropWhile (· ≠ ':') with
  | ':' :: inst =>
    (Text.idNumeral? (target.takeWhile (· ≠ ':'))).isSome && (Text.idNumeral? inst).isSome
  | _ => false

/-- Reads an initial value as the declared type. A real number may be written as a whole one, but not
the other way round. -/
def valueOf? (dataType : DataType) (json : Json) : Option ResourceValue :=
  match dataType with
  | .string => (Json.Reader.string .held json).map .string
  | .integer => (Json.Reader.int64 .held json).map .integer
  | .float => (Json.Reader.real .held json).map .float
  | .boolean => (Json.Reader.bool .held json).map .boolean
  | .bytes => (Json.Reader.list .uint8 .held json).map .bytes
  | .time => (Json.Reader.int64 .held json).map .time
  | .link => do
    let target ← Json.Reader.string .held json
    if isLink target.toList then some (.link target) else none

theorem dataType_of_valueOf? {t : DataType} {json : Json} {value : ResourceValue}
    (h : valueOf? t json = some value) : value.dataType = t := by
  cases t
  case link =>
    simp only [valueOf?, Option.bind_eq_bind, Option.bind_eq_some_iff] at h
    obtain ⟨target, _, h⟩ := h
    split at h
    · cases h; rfl
    · cases h
  all_goals
    simp only [valueOf?, Option.map_eq_some_iff] at h
    obtain ⟨_, _, rfl⟩ := h
    rfl

/-- Builds the entries of one level in the given order. Each key must denote a number that no earlier
key of the level denotes. -/
def entries {α β : Type} (path : String → String) (duplicate : UInt16 → String → DefinitionError)
    (build : UInt16 → String → α → Except DefinitionError β) :
    List UInt16 → List (String × α) → Except DefinitionError (List β)
  | _, [] => .ok []
  | seen, (key, content) :: rest =>
    match Text.idNumeral? key.toList with
    | none => .error (.invalidId (path key) key)
    | some id =>
      if seen.contains id then .error (duplicate id (path key))
      else do
        let entry ← build id (path key) content
        let more ← entries path duplicate build (id :: seen) rest
        pure (entry :: more)

def numbered (ids : List UInt16) : String :=
  String.join (ids.map fun id => toString id.toNat ++ "/")

def buildResource (object inst id : UInt16) (spec : ResourceSpec) :
    Except DefinitionError Resource := do
  let path := "/" ++ numbered [object, inst] ++ toString id.toNat
  let value ← match spec.value with
    | none => pure none
    | some json => match valueOf? spec.dataType json with
      | some value => pure (some value)
      | none => throw (.invalidValue json path spec.dataType)
  pure ⟨id, spec.mode, ⟨path, spec.dataType, value⟩, spec.operations, spec.observable⟩

def buildInstance (object id : UInt16) (path : String) (specs : List (String × ResourceSpec)) :
    Except DefinitionError ObjectInstance := do
  if specs.isEmpty then throw (.noResources path)
  let resources ← entries (numbered [object, id] ++ ·) (fun _ path => .duplicateResource path)
    (fun resource _ spec => buildResource object id resource spec) [] specs
  pure ⟨id, resources.mergeSort fun a b => a.id ≤ b.id⟩

def buildObject (id : UInt16) (instances : List (String × List (String × ResourceSpec))) :
    Except DefinitionError ResourceObject := do
  if instances.isEmpty then throw (.noInstances id)
  let instances ← entries (numbered [id] ++ ·) (fun _ path => .duplicateInstance path)
    (fun inst path specs => buildInstance id inst path specs) [] instances
  pure ⟨id, instances.mergeSort fun a b => a.id ≤ b.id⟩

def build (document : DefinitionDocument) : Except DefinitionError (List ResourceObject) := do
  if document.isEmpty then throw .noObjects
  let objects ← entries (·) (fun id _ => .duplicateObject id)
    (fun id _ instances => buildObject id instances) [] document
  pure (objects.mergeSort fun a b => a.id ≤ b.id)

def parse (text : String) : Except DefinitionError (List ResourceObject) :=
  match DefinitionDocument.ofText? text with
  | some document => build document
  | none => .error .undecodable

end Definition
end ResourceBroker
