import ResourceBroker.Proofs.Definition.Contents
import ResourceBroker.Proofs.Message.Wire

/-!
Values of the declared type. Data that is declared, made of a value or described by a definition has no
value of another type, and no update gives it one. Data that is decoded may have: its text names the type
twice, and the two are not compared.
-/

namespace ResourceBroker

namespace ResourceData

/-- The value, if there is one, is of the declared type. -/
def Typed (data : ResourceData) : Prop :=
  ∀ value, data.value = some value → value.dataType = data.dataType

instance (data : ResourceData) : Decidable data.Typed :=
  decidable_of_iff (data.value.all fun value => value.dataType = data.dataType)
    (by cases h : data.value <;> simp [Typed, h])

def update (data : ResourceData) (value : ResourceValue) : ResourceData :=
  match data.setValue value with
  | .ok updated => updated
  | .error _ => data

/-- Data that the broker or an application made. -/
inductive Made : ResourceData → Prop where
  | declared (path : String) (t : DataType) : Made (declare path t)
  | ofValue (path : String) (value : ResourceValue) : Made (ofValue path value)
  | described {text : String} {objects : List ResourceObject} {o : ResourceObject}
    {i : ObjectInstance} {r : Resource} (parsed : Definition.parse text = .ok objects)
    (object : o ∈ objects) (inst : i ∈ o.instances) (resource : r ∈ i.resources) : Made r.data

theorem setValue_eq_ok_iff {data updated : ResourceData} {value : ResourceValue} :
    data.setValue value = .ok updated ↔
      value.dataType = data.dataType ∧ updated = { data with value := some value } := by
  unfold setValue
  split
  · next h => simp [h, eq_comm]
  · next h => simp [h]

theorem setValue_eq_error_iff {data : ResourceData} {value : ResourceValue} {e : TypeMismatch} :
    data.setValue value = .error e ↔
      value.dataType ≠ data.dataType ∧ e = ⟨data.path, data.dataType, value.dataType⟩ := by
  unfold setValue
  split
  · next h => simp [h]
  · next h => simp [h, eq_comm]

theorem update_of_typed {data : ResourceData} {value : ResourceValue}
    (h : value.dataType = data.dataType) : data.update value = { data with value := some value } := by
  rw [update, setValue_eq_ok_iff.mpr ⟨h, rfl⟩]

theorem update_of_refused {data : ResourceData} {value : ResourceValue} {e : TypeMismatch}
    (h : data.setValue value = .error e) : data.update value = data := by
  rw [update, h]

theorem update_of_untyped {data : ResourceData} {value : ResourceValue}
    (h : value.dataType ≠ data.dataType) : data.update value = data :=
  update_of_refused (setValue_eq_error_iff.mpr ⟨h, rfl⟩)

theorem typed_update_iff {data : ResourceData} {value : ResourceValue} :
    (data.update value).Typed ↔ data.Typed ∨ value.dataType = data.dataType := by
  by_cases h : value.dataType = data.dataType
  · rw [update_of_typed h]
    exact iff_of_true (fun _ hvalue => Option.some.inj hvalue ▸ h) (.inr h)
  · rw [update_of_untyped h]
    exact (or_iff_left h).symm

theorem update_frame (data : ResourceData) (value : ResourceValue) :
    (data.update value).path = data.path ∧ (data.update value).dataType = data.dataType := by
  by_cases h : value.dataType = data.dataType
  · rw [update_of_typed h]
    exact ⟨rfl, rfl⟩
  · rw [update_of_untyped h]
    exact ⟨rfl, rfl⟩

theorem updates_frame (data : ResourceData) (values : List ResourceValue) :
    (values.foldl update data).path = data.path ∧
      (values.foldl update data).dataType = data.dataType := by
  induction values generalizing data with
  | nil => exact ⟨rfl, rfl⟩
  | cons value values ih =>
    rw [List.foldl_cons, (ih _).1, (ih _).2]
    exact data.update_frame value

theorem typed_updates_iff (data : ResourceData) (values : List ResourceValue) :
    (values.foldl update data).Typed ↔
      data.Typed ∨ ∃ value ∈ values, value.dataType = data.dataType := by
  induction values generalizing data with
  | nil => simp
  | cons value values ih =>
    rw [List.foldl_cons, ih, typed_update_iff, (data.update_frame value).2, List.exists_mem_cons_iff,
      or_assoc]

theorem typed_of_describes {spec : ResourceSpec} {r : Resource} (h : spec.Describes r) :
    r.data.Typed := by
  intro value hvalue
  have hread := h.value
  rw [hvalue] at hread
  generalize spec.value = json at hread
  cases hread with
  | some hread => exact hread.1.trans h.dataType.symm

theorem Made.typed {data : ResourceData} (h : data.Made) : data.Typed := by
  cases h with
  | declared path t => exact nofun
  | ofValue path value => exact fun _ hvalue => Option.some.inj hvalue ▸ rfl
  | @described text objects o i r parsed object inst resource =>
    unfold Definition.parse at parsed
    split at parsed
    · have hplaced : (⟨o.id, i.id, r⟩ : PlacedResource) ∈ objects.flatMap ResourceObject.placed :=
        List.mem_flatMap.mpr ⟨o, object, List.mem_flatMap.mpr ⟨i, inst,
          List.mem_map.mpr ⟨r, resource, rfl⟩⟩⟩
      obtain ⟨e, -, hbecomes⟩ := (Definition.oneToOne_of_build parsed).exists_of_mem hplaced
      exact typed_of_describes hbecomes.described
    · cases parsed

end ResourceData

def Command.operations : Command → List ValueOperation
  | .setValues _ operations | .getValues _ operations => operations
  | _ => []

def Payload.operations : Payload → List ValueOperation
  | .values operations => operations
  | _ => []

def Response.operations (response : Response) : List ValueOperation :=
  match response.result with
  | .ok payload => payload.operations
  | .error _ => []

namespace WireType

def resourceData : (t : WireType) → t.Value → List ResourceData
  | .request => fun request => request.command.operations.map (·.data)
  | .command => fun command => command.operations.map (·.data)
  | .response => fun response => response.operations.map (·.data)
  | .payload => fun payload => payload.operations.map (·.data)
  | .outbound => fun message =>
    match message with
    | .response reply => reply.operations.map (·.data)
    | .event _ => []
  | .data => fun data => [data]
  | .resource => fun r => [r.data]
  | .object => fun o => o.instances.flatMap fun i => i.resources.map (·.data)
  | .setOperation | .getOperation => fun operation => [operation.data]
  | .value | .errorInfo | .status | .event | .token | .connection => fun _ => []

end WireType

namespace ResourceData

/-- Data that a text was decoded for, by itself or inside another value. -/
inductive Decoded : ResourceData → Prop where
  | within {t : WireType} {text : String} {x : t.Value} {data : ResourceData}
    (decoded : t.decode? text = some x) (inside : data ∈ t.resourceData x) : Decoded data

/-- Made data always has a value of the declared type, if any, and no update changes path or type. Other
data has one from the first update on that is not refused. What is decoded is not checked: all data
that can be written is read back, of whatever type its value is. -/
theorem typed_unless_decoded (data : ResourceData) (values : List ResourceValue) :
    let after := values.foldl update data
    (data.Made → after.Typed) ∧
    (after.Typed ↔ data.Typed ∨ ∃ value ∈ values, value.dataType = data.dataType) ∧
    after.path = data.path ∧ after.dataType = data.dataType ∧
    (∀ value, (∃ e, after.setValue value = .error e) ↔ value.dataType ≠ data.dataType) ∧
    (∀ value e, after.setValue value = .error e → after.update value = after) ∧
    (WireType.data.Printable data → data.Decoded) := by
  intro after
  have hpath : after.path = data.path := (data.updates_frame values).1
  have htype : after.dataType = data.dataType := (data.updates_frame values).2
  refine ⟨fun hmade => data.typed_updates_iff values |>.mpr (.inl hmade.typed),
    data.typed_updates_iff values, hpath, htype, fun value => ?_, fun _ _ => update_of_refused,
    fun hprintable => .within (WireType.decode?_encode hprintable) List.mem_cons_self⟩
  simp only [setValue_eq_error_iff, htype, exists_and_left, exists_eq, and_true]

def mismatchText : String :=
  "\x7b\"path\":\"/1/0/1\",\"data_type\":\"integer\"," ++
  "\"value\":\x7b\"type\":\"string\",\"value\":\"x\"\x7d\x7d"

theorem decode?_mismatchText :
    WireType.data.decode? mismatchText = some ⟨"/1/0/1", .integer, some (.string "x")⟩ ∧
    Decoded ⟨"/1/0/1", .integer, some (.string "x")⟩ ∧
    ¬ Typed ⟨"/1/0/1", .integer, some (.string "x")⟩ := by
  have hdecoded : WireType.data.decode? mismatchText =
      some ⟨"/1/0/1", .integer, some (.string "x")⟩ := by decide +kernel
  exact ⟨hdecoded, .within hdecoded List.mem_cons_self, by decide⟩

end ResourceData

end ResourceBroker
