import ResourceBroker.Message.Line
import ResourceBroker.Proofs.Identity
import ResourceBroker.Proofs.Resource.Codec
import ResourceBroker.Proofs.Timestamp

/-!
Messages are read back as they were written. What stands beside a tag is read from a copy, where
anything can be held.
-/

namespace ResourceBroker

open Json (Plain)

variable {depth : Nat}

theorem AccessToken.plain_toJson (token : AccessToken) : Plain depth token.toJson := .ofString _

theorem AccessToken.reads_toJson (token : AccessToken) :
    AccessToken.read.Reads token.toJson token :=
  (Json.Reader.reads_string token.text).map rfl

theorem ConnectionId.plain_toJson (c : ConnectionId) : Plain depth c.toJson := .ofString _

theorem ConnectionId.reads_toJson (c : ConnectionId) : ConnectionId.read.Reads c.toJson c :=
  (Json.Reader.reads_string c.render).bind c.ofText?_render

theorem Timestamp.plain_toJson (t : Timestamp) : Plain depth t.toJson := .ofString _

theorem Timestamp.reads_toJson {t : Timestamp} (h : t.IsValid) :
    Timestamp.read.Reads t.toJson t :=
  (Json.Reader.reads_string t.render).bind (ofText?_render h)

theorem reads_operations {dataKey : String} (hkey : dataKey ≠ "output_status")
    (operations : List ValueOperation) :
    (Json.Reader.list (ValueOperation.read dataKey)).Reads
      (.array (operations.map (·.toJson dataKey))) operations :=
  Json.Reader.reads_list fun op _ => op.reads_toJson hkey

namespace Command

theorem plain_toJson (command : Command) : Plain (depth + 6) command.toJson := by
  cases command <;>
    simp [toJson, members, AccessToken.plain_toJson, ValueOperation.plain_toJson]

theorem readInstances_record (token : AccessToken) (path : String) (ids : List UInt16) :
    readInstances (.record [("access_token", token.toJson), ("resource_path", .ofString path),
      ("instance_ids", .array (ids.map fun id => .ofNat id.toNat))]) = some (token, path, ids) := by
  obtain ⟨r, hrecord, hr⟩ := @Json.Reader.record_of_canHold .held
    [("access_token", token.toJson), ("resource_path", .ofString path),
      ("instance_ids", .array (ids.map fun id => .ofNat id.toNat))]
    ["access_token", "resource_path", "instance_ids"] (by simp) rfl
  have htoken := hr.required "access_token" rfl token.reads_toJson
  have hpath := hr.required "resource_path" rfl (Json.Reader.reads_string path)
  have hids := hr.required "instance_ids" rfl
    (Json.Reader.reads_list fun id (_ : id ∈ ids) => Json.Reader.reads_uint16 id)
  simp only [readInstances, hrecord, htoken, hpath, hids, Option.bind_eq_bind, Option.bind_some]
  rfl

theorem readOperations_record {dataKey : String} (hkey : dataKey ≠ "output_status")
    (token : AccessToken) (operations : List ValueOperation) :
    readOperations dataKey (.record [("access_token", token.toJson),
      ("operations", .array (operations.map (·.toJson dataKey)))]) = some (token, operations) := by
  obtain ⟨r, hrecord, hr⟩ := @Json.Reader.record_of_canHold .held
    [("access_token", token.toJson), ("operations", .array (operations.map (·.toJson dataKey)))]
    ["access_token", "operations"] (by simp) rfl
  have htoken := hr.required "access_token" rfl token.reads_toJson
  have hoperations := hr.required "operations" rfl (reads_operations hkey operations)
  simp only [readOperations, hrecord, htoken, hoperations, Option.bind_eq_bind, Option.bind_some]
  rfl

theorem ofMembers_members (command : Command) :
    ofMembers command.tag (.record command.members) = some command := by
  cases command with
  | register definition =>
    obtain ⟨r, hrecord, hr⟩ := @Json.Reader.record_of_canHold .held
      [("app_resource_definition", .ofString definition)] ["app_resource_definition"] (by simp) rfl
    have hdefinition := hr.required "app_resource_definition" rfl
      (Json.Reader.reads_string definition)
    simp only [tag, members, ofMembers, hrecord, hdefinition, Option.bind_eq_bind,
      Option.bind_some, Option.map_some]
  | deregister token =>
    obtain ⟨r, hrecord, hr⟩ := @Json.Reader.record_of_canHold .held
      [("access_token", token.toJson)] ["access_token"] (by simp) rfl
    have htoken := hr.required "access_token" rfl token.reads_toJson
    simp only [tag, members, ofMembers, hrecord, htoken, Option.bind_eq_bind, Option.bind_some,
      Option.map_some]
  | addInstances token path ids | removeInstances token path ids =>
    simp only [tag, members, ofMembers, readInstances_record, Option.map_some]
  | setValues token operations =>
    have hkey : ValueOperation.setKey ≠ "output_status" := by decide
    simp only [tag, members, ofMembers, readOperations_record hkey, Option.map_some]
  | getValues token operations =>
    have hkey : ValueOperation.getKey ≠ "output_status" := by decide
    simp only [tag, members, ofMembers, readOperations_record hkey, Option.map_some]
  | ping => rfl

theorem nodup_members (command : Command) : ("type" :: command.members.map Prod.fst).Nodup := by
  cases command <;> simp [members]

theorem tag_mem (command : Command) : command.tag ∈ tags := by
  cases command <;> simp [tag, tags]

theorem reads_toJson (command : Command) : Command.read.Reads command.toJson command := by
  intro origin hhold
  rw [read, toJson, Json.Reader.tagged_of_canHold hhold command.nodup_members command.tag_mem]
  exact command.ofMembers_members

end Command

namespace Request

theorem plain_toJson (request : Request) : Plain (depth + 7) request.toJson := by
  simp [toJson, Command.plain_toJson]

theorem reads_toJson (request : Request) : Request.read.Reads request.toJson request := by
  intro origin hhold
  obtain ⟨r, hrecord, hr⟩ :=
    Json.Reader.record_of_canHold ["request_id", "api_version", "command"] (by simp) hhold
  have hid := hr.required "request_id" rfl (Json.Reader.reads_uint64 request.id)
  have hversion := hr.required "api_version" rfl (Json.Reader.reads_uint32 request.version)
  have hcommand := hr.required "command" rfl request.command.reads_toJson
  simp only [read, toJson, hrecord, hid, hversion, hcommand, Option.bind_eq_bind, Option.bind_some]
  rfl

end Request

namespace Payload

theorem plain_toJson (payload : Payload) : Plain (depth + 6) payload.toJson := by
  cases payload <;>
    simp [toJson, members, AccessToken.plain_toJson, ValueOperation.plain_toJson]

theorem ofMembers_members (payload : Payload) :
    ofMembers payload.tag (.record payload.members) = some payload := by
  cases payload with
  | registered token =>
    obtain ⟨r, hrecord, hr⟩ := @Json.Reader.record_of_canHold .held
      [("access_token", token.toJson)] ["access_token"] (by simp) rfl
    have htoken := hr.required "access_token" rfl token.reads_toJson
    simp only [tag, members, ofMembers, hrecord, htoken, Option.bind_eq_bind, Option.bind_some,
      Option.map_some]
  | values operations =>
    obtain ⟨r, hrecord, hr⟩ := @Json.Reader.record_of_canHold .held
      [("operations", .array (operations.map (·.toJson ValueOperation.getKey)))] ["operations"]
      (by simp) rfl
    have hoperations := hr.required "operations" rfl
      (reads_operations (show ValueOperation.getKey ≠ "output_status" by decide) operations)
    simp only [tag, members, ofMembers, hrecord, hoperations, Option.bind_eq_bind,
      Option.bind_some, Option.map_some]
  | completed | pong => rfl

theorem nodup_members (payload : Payload) : ("type" :: payload.members.map Prod.fst).Nodup := by
  cases payload <;> simp [members]

theorem tag_mem (payload : Payload) : payload.tag ∈ tags := by
  cases payload <;> simp [tag, tags]

theorem reads_toJson (payload : Payload) : Payload.read.Reads payload.toJson payload := by
  intro origin hhold
  rw [read, toJson, Json.Reader.tagged_of_canHold hhold payload.nodup_members payload.tag_mem]
  exact payload.ofMembers_members

end Payload

namespace ErrorInfo

theorem plain_toJson (error : ErrorInfo) : Plain (depth + 1) error.toJson := by
  simp [toJson, Status.plain_toJson]

theorem reads_toJson (error : ErrorInfo) : ErrorInfo.read.Reads error.toJson error := by
  intro origin hhold
  obtain ⟨r, hrecord, hr⟩ := Json.Reader.record_of_canHold ["code", "message"] (by simp) hhold
  have hcode := hr.required "code" rfl error.code.reads_toJson
  have hmessage := hr.required "message" rfl (Json.Reader.reads_string error.message)
  simp only [read, toJson, hrecord, hcode, hmessage, Option.bind_eq_bind, Option.bind_some]
  rfl

end ErrorInfo

namespace Reply

theorem plain_toJson (reply : Reply) : Plain (depth + 7) reply.toJson := by
  cases reply <;> simp [toJson, Payload.plain_toJson, ErrorInfo.plain_toJson]

theorem reads_toJson (reply : Reply) : Reply.read.Reads reply.toJson reply := by
  cases reply with
  | ok payload => exact Json.Reader.reads_keyedChoice rfl (payload.reads_toJson.map rfl)
  | error info => exact Json.Reader.reads_keyedChoice rfl (info.reads_toJson.map rfl)

end Reply

namespace Response

theorem plain_toJson (response : Response) : Plain (depth + 8) response.toJson := by
  simp [toJson, members, Reply.plain_toJson]

theorem reads_toJson (response : Response) : Response.read.Reads response.toJson response := by
  intro origin hhold
  obtain ⟨r, hrecord, hr⟩ := Json.Reader.record_of_canHold
    ["request_id", "api_version", "result"] (by simp [members]) hhold
  have hid := hr.required "request_id" rfl (Json.Reader.reads_uint64 response.id)
  have hversion := hr.required "api_version" rfl (Json.Reader.reads_uint32 response.version)
  have hresult := hr.required "result" rfl response.result.reads_toJson
  simp only [read, toJson, hrecord, hid, hversion, hresult, Option.bind_eq_bind, Option.bind_some]
  rfl

end Response

namespace Notice

theorem plain_toJson (notice : Notice) : Plain (depth + 1) notice.toJson := by
  cases notice
  simp [toJson, Status.plain_toJson]

theorem reads_toJson (notice : Notice) : Notice.read.Reads notice.toJson notice := by
  intro origin hhold
  obtain ⟨status⟩ := notice
  obtain ⟨r, hrecord, hr⟩ := @Json.Reader.record_of_canHold .held [("status", status.toJson)]
    ["status"] (by simp) rfl
  have hstatus := hr.required "status" rfl status.reads_toJson
  rw [read, toJson, Json.Reader.tagged_of_canHold hhold (by simp) (by simp), Option.bind_eq_bind,
    Option.bind_some]
  simp only [hrecord, hstatus, Option.bind_eq_bind, Option.bind_some, Option.map_some]

end Notice

namespace Event

theorem plain_toJson (event : Event) : Plain (depth + 2) event.toJson := by
  simp [toJson, members, Timestamp.plain_toJson, Notice.plain_toJson]

theorem reads_toJson {event : Event} (h : event.timestamp.IsValid) :
    Event.read.Reads event.toJson event := by
  intro origin hhold
  obtain ⟨r, hrecord, hr⟩ := Json.Reader.record_of_canHold
    ["api_version", "timestamp", "payload"] (by simp [members]) hhold
  have hversion := hr.required "api_version" rfl (Json.Reader.reads_uint32 event.version)
  have htimestamp := hr.required "timestamp" rfl (Timestamp.reads_toJson h)
  have hnotice := hr.required "payload" rfl event.notice.reads_toJson
  simp only [read, toJson, hrecord, hversion, htimestamp, hnotice, Option.bind_eq_bind,
    Option.bind_some]
  rfl

theorem isValid_of_read {origin : Json.Origin} {json : Json} {event : Event}
    (h : Event.read origin json = some event) : event.timestamp.IsValid := by
  simp only [read, Json.Record.required, Timestamp.read, Option.bind_eq_bind,
    Option.bind_eq_some_iff] at h
  obtain ⟨_, -, _, -, timestamp, ⟨_, -, _, -, htext⟩, _, -, heq⟩ := h
  obtain rfl := Option.some.inj heq
  exact Timestamp.isValid_of_ofText? htext

end Event

namespace Outbound

/-- The instants in a message. -/
def timestamps : Outbound → List Timestamp
  | .response _ => []
  | .event e => [e.timestamp]

theorem plain_toJson (message : Outbound) : Plain (depth + 8) message.toJson := by
  cases message <;>
    simp [toJson, Response.members, Event.members, Reply.plain_toJson, Timestamp.plain_toJson,
      Notice.plain_toJson]

theorem reads_toJson {message : Outbound} (h : ∀ t ∈ message.timestamps, t.IsValid) :
    Outbound.read.Reads message.toJson message := by
  intro origin hhold
  cases message with
  | response response =>
    rw [read, toJson, Json.Reader.tagged_of_canHold hhold (by simp [Response.members]) (by simp),
      Option.bind_eq_bind, Option.bind_some]
    exact response.reads_toJson.map rfl .held rfl
  | event e =>
    rw [read, toJson, Json.Reader.tagged_of_canHold hhold (by simp [Event.members]) (by simp),
      Option.bind_eq_bind, Option.bind_some]
    exact (Event.reads_toJson (h _ List.mem_cons_self)).map rfl .held rfl

theorem isValid_of_read {origin : Json.Origin} {json : Json} {message : Outbound}
    (h : Outbound.read origin json = some message) : ∀ t ∈ message.timestamps, t.IsValid := by
  obtain ⟨⟨tag, rest⟩, -, h⟩ := Option.bind_eq_some_iff.mp h
  dsimp only at h
  split at h
  · obtain ⟨response, -, rfl⟩ := Option.map_eq_some_iff.mp h
    exact fun t ht => absurd ht List.not_mem_nil
  · obtain ⟨e, hread, rfl⟩ := Option.map_eq_some_iff.mp h
    exact List.forall_mem_singleton.mpr (Event.isValid_of_read hread)

end Outbound
end ResourceBroker
