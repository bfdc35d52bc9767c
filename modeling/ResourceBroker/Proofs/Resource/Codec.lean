import ResourceBroker.Proofs.Json.RoundTrip
import ResourceBroker.Resource.Codec

/-!
The resource model is read back as it was written, whatever its texts, numbers and lists hold.
-/

namespace ResourceBroker

open Json (Plain)

variable {depth : Nat}

theorem Status.plain_toJson (status : Status) : Plain depth status.toJson := .ofString _

theorem Status.reads_toJson (status : Status) : Status.read.Reads status.toJson status :=
  Json.Reader.reads_named (by cases status <;> decide)

theorem DataType.lookup_tag (t : DataType) : names.lookup t.tag = some t := by
  cases t <;> decide

theorem DataType.plain_toJson (t : DataType) : Plain depth t.toJson := .ofString _

theorem DataType.reads_toJson (t : DataType) : DataType.read.Reads t.toJson t :=
  Json.Reader.reads_named t.lookup_tag

namespace ResourceValue

theorem plain_content (value : ResourceValue) : Plain (depth + 1) value.content := by
  cases value <;> simp [content]

theorem plain_toJson (value : ResourceValue) : Plain (depth + 2) value.toJson := by
  simp [toJson, DataType.plain_toJson, plain_content]

theorem reads_content (value : ResourceValue) :
    (readAs value.dataType).Reads value.content value := by
  cases value with
  | string text | link target => exact (Json.Reader.reads_string _).map rfl
  | integer n | time seconds => exact (Json.Reader.reads_int64 _).map rfl
  | float x => exact fun _ _ => rfl
  | boolean b => exact (Json.Reader.reads_bool b).map rfl
  | bytes content =>
    exact (Json.Reader.reads_list fun b _ => Json.Reader.reads_uint8 b).map rfl

theorem reads_toJson (value : ResourceValue) : ResourceValue.read.Reads value.toJson value :=
  Json.Reader.reads_besideTag value.dataType.lookup_tag value.reads_content

end ResourceValue

namespace ResourceData

theorem plain_toJson (data : ResourceData) : Plain (depth + 3) data.toJson := by
  obtain ⟨path, t, value⟩ := data
  cases value <;> simp [toJson, DataType.plain_toJson, ResourceValue.plain_toJson]

theorem reads_toJson (data : ResourceData) : ResourceData.read.Reads data.toJson data := by
  intro origin hhold
  obtain ⟨path, t, value⟩ := data
  obtain ⟨r, hrecord, hr⟩ :=
    Json.Reader.record_of_canHold ["path", "data_type", "value"] (by simp) hhold
  have hpath := hr.required "path" rfl (Json.Reader.reads_string path)
  have htype := hr.required "data_type" rfl t.reads_toJson
  have hvalue : r.optional "value" ResourceValue.read = some value := by
    cases value with
    | none => exact hr.optional "value" rfl (Json.Reader.reads_optional_null _)
    | some value => exact hr.optional "value" rfl (value.reads_toJson.optional nofun)
  simp only [read, toJson, hrecord, hpath, htype, hvalue, Option.bind_eq_bind, Option.bind_some]
  rfl

end ResourceData

theorem Operation.plain_toJson (op : Operation) : Plain depth op.toJson := .ofString _

theorem Operation.reads_toJson (op : Operation) : Operation.read.Reads op.toJson op :=
  Json.Reader.reads_named (by cases op <;> decide)

theorem Mode.plain_toJson (mode : Mode) : Plain depth mode.toJson := .ofString _

theorem Mode.reads_toJson (mode : Mode) : Mode.read.Reads mode.toJson mode :=
  Json.Reader.reads_named (by cases mode <;> decide)

namespace Resource

theorem plain_toJson (resource : Resource) : Plain (depth + 4) resource.toJson := by
  simp [toJson, Mode.plain_toJson, ResourceData.plain_toJson, Operation.plain_toJson]

theorem reads_toJson (resource : Resource) : Resource.read.Reads resource.toJson resource := by
  intro origin hhold
  obtain ⟨r, hrecord, hr⟩ := Json.Reader.record_of_canHold
    ["id", "mode", "data", "operations", "observable"] (by simp) hhold
  have hid := hr.required "id" rfl (Json.Reader.reads_uint16 resource.id)
  have hmode := hr.required "mode" rfl resource.mode.reads_toJson
  have hdata := hr.required "data" rfl resource.data.reads_toJson
  have hoperations := hr.required "operations" rfl
    (Json.Reader.reads_list fun op (_ : op ∈ resource.operations) => op.reads_toJson)
  have hobservable := hr.required "observable" rfl (Json.Reader.reads_bool resource.observable)
  simp only [read, toJson, hrecord, hid, hmode, hdata, hoperations, hobservable,
    Option.bind_eq_bind, Option.bind_some]
  rfl

end Resource

namespace ObjectInstance

theorem plain_toJson (inst : ObjectInstance) : Plain (depth + 6) inst.toJson := by
  simp [toJson, Resource.plain_toJson]

theorem reads_toJson (inst : ObjectInstance) : ObjectInstance.read.Reads inst.toJson inst := by
  intro origin hhold
  obtain ⟨r, hrecord, hr⟩ := Json.Reader.record_of_canHold ["id", "resources"] (by simp) hhold
  have hid := hr.required "id" rfl (Json.Reader.reads_uint16 inst.id)
  have hresources := hr.required "resources" rfl
    (Json.Reader.reads_list fun resource (_ : resource ∈ inst.resources) => resource.reads_toJson)
  simp only [read, toJson, hrecord, hid, hresources, Option.bind_eq_bind, Option.bind_some]
  rfl

end ObjectInstance

namespace ResourceObject

theorem plain_toJson (object : ResourceObject) : Plain (depth + 8) object.toJson := by
  simp [toJson, ObjectInstance.plain_toJson]

theorem reads_toJson (object : ResourceObject) :
    ResourceObject.read.Reads object.toJson object := by
  intro origin hhold
  obtain ⟨r, hrecord, hr⟩ := Json.Reader.record_of_canHold ["id", "instances"] (by simp) hhold
  have hid := hr.required "id" rfl (Json.Reader.reads_uint16 object.id)
  have hinstances := hr.required "instances" rfl
    (Json.Reader.reads_list fun inst (_ : inst ∈ object.instances) => inst.reads_toJson)
  simp only [read, toJson, hrecord, hid, hinstances, Option.bind_eq_bind, Option.bind_some]
  rfl

end ResourceObject

namespace ValueOperation

theorem plain_toJson (dataKey : String) (op : ValueOperation) :
    Plain (depth + 4) (op.toJson dataKey) := by
  simp [toJson, ResourceData.plain_toJson, Status.plain_toJson]

theorem reads_toJson {dataKey : String} (hkey : dataKey ≠ "output_status") (op : ValueOperation) :
    (ValueOperation.read dataKey).Reads (op.toJson dataKey) op := by
  intro origin hhold
  obtain ⟨r, hrecord, hr⟩ :=
    Json.Reader.record_of_canHold [dataKey, "output_status"] (by simpa using hkey) hhold
  have hdata := hr.required dataKey (by simp) op.data.reads_toJson
  have hother : ("output_status" == dataKey) = false := by simpa using hkey.symm
  have houtcome := hr.required "output_status" (by simp [List.lookup_cons, hother])
    op.outcome.reads_toJson
  simp only [read, toJson, hrecord, hdata, houtcome, Option.bind_eq_bind, Option.bind_some]
  rfl

end ValueOperation
end ResourceBroker
