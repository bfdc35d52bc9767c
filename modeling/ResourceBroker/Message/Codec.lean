import ResourceBroker.Message.Basic
import ResourceBroker.Resource.Codec

/-!
The wire form of the messages. Commands, payloads, notices and outbound lines carry a tag beside
their members.
-/

namespace ResourceBroker

def AccessToken.toJson (token : AccessToken) : Json := .ofString token.text

def AccessToken.read : Json.Reader AccessToken := fun origin json =>
  (Json.Reader.string origin json).map AccessToken.mk

def ConnectionId.toJson (connection : ConnectionId) : Json := .ofString connection.render

def ConnectionId.read : Json.Reader ConnectionId := fun origin json => do
  ofText? (← Json.Reader.string origin json)

def Timestamp.toJson (timestamp : Timestamp) : Json := .ofString timestamp.render

def Timestamp.read : Json.Reader Timestamp := fun origin json => do
  ofText? (← Json.Reader.string origin json)

namespace Command

def tag : Command → String
  | .register _ => "register_resources"
  | .deregister _ => "deregister_resources"
  | .addInstances .. => "add_resource_instances"
  | .removeInstances .. => "remove_resource_instances"
  | .setValues .. => "set_resources_values"
  | .getValues .. => "get_resources_values"
  | .ping => "ping"

def tags : List String :=
  ["register_resources", "deregister_resources", "add_resource_instances",
    "remove_resource_instances", "set_resources_values", "get_resources_values", "ping"]

def members : Command → List (String × Json)
  | .register definition => [("app_resource_definition", .ofString definition)]
  | .deregister token => [("access_token", token.toJson)]
  | .addInstances token path ids | .removeInstances token path ids =>
    [("access_token", token.toJson), ("resource_path", .ofString path),
      ("instance_ids", .array (ids.map fun id => .ofNat id.toNat))]
  | .setValues token operations =>
    [("access_token", token.toJson),
      ("operations", .array (operations.map (·.toJson ValueOperation.setKey)))]
  | .getValues token operations =>
    [("access_token", token.toJson),
      ("operations", .array (operations.map (·.toJson ValueOperation.getKey)))]
  | .ping => []

def toJson (command : Command) : Json := .record (("type", .ofString command.tag) :: command.members)

def readInstances (json : Json) : Option (AccessToken × String × List UInt16) := do
  let r ← Json.Reader.record ["access_token", "resource_path", "instance_ids"] .held json
  pure (← r.required "access_token" AccessToken.read, ← r.required "resource_path" .string,
    ← r.required "instance_ids" (.list .uint16))

def readOperations (dataKey : String) (json : Json) :
    Option (AccessToken × List ValueOperation) := do
  let r ← Json.Reader.record ["access_token", "operations"] .held json
  pure (← r.required "access_token" AccessToken.read,
    ← r.required "operations" (.list (ValueOperation.read dataKey)))

/-- The members beside a tag, which were held until the tag was known. -/
def ofMembers (tag : String) (json : Json) : Option Command :=
  match tag with
  | "register_resources" => do
    let r ← Json.Reader.record ["app_resource_definition"] .held json
    (r.required "app_resource_definition" .string).map .register
  | "deregister_resources" => do
    let r ← Json.Reader.record ["access_token"] .held json
    (r.required "access_token" AccessToken.read).map .deregister
  | "add_resource_instances" =>
    (readInstances json).map fun (token, path, ids) => .addInstances token path ids
  | "remove_resource_instances" =>
    (readInstances json).map fun (token, path, ids) => .removeInstances token path ids
  | "set_resources_values" =>
    (readOperations ValueOperation.setKey json).map fun (token, operations) =>
      .setValues token operations
  | "get_resources_values" =>
    (readOperations ValueOperation.getKey json).map fun (token, operations) =>
      .getValues token operations
  | "ping" => (Json.Reader.noContent .held json).map fun _ => .ping
  | _ => none

def read : Json.Reader Command := fun origin json => do
  let (tag, rest) ← Json.Reader.tagged "type" tags origin json
  ofMembers tag rest

end Command

namespace Request

def toJson (request : Request) : Json :=
  .record [("request_id", .ofNat request.id.toNat), ("api_version", .ofNat request.version.toNat),
    ("command", request.command.toJson)]

def read : Json.Reader Request := fun origin json => do
  let r ← Json.Reader.record ["request_id", "api_version", "command"] origin json
  pure {
    id := ← r.required "request_id" .uint64
    version := ← r.required "api_version" .uint32
    command := ← r.required "command" Command.read }

end Request

namespace Payload

def tag : Payload → String
  | .registered _ => "registered"
  | .completed => "completed"
  | .values _ => "values"
  | .pong => "pong"

def tags : List String := ["registered", "completed", "values", "pong"]

def members : Payload → List (String × Json)
  | .registered token => [("access_token", token.toJson)]
  | .values operations =>
    [("operations", .array (operations.map (·.toJson ValueOperation.getKey)))]
  | .completed | .pong => []

def toJson (payload : Payload) : Json := .record (("type", .ofString payload.tag) :: payload.members)

def ofMembers (tag : String) (json : Json) : Option Payload :=
  match tag with
  | "registered" => do
    let r ← Json.Reader.record ["access_token"] .held json
    (r.required "access_token" AccessToken.read).map .registered
  | "completed" => (Json.Reader.noContent .held json).map fun _ => .completed
  | "values" => do
    let r ← Json.Reader.record ["operations"] .held json
    (r.required "operations" (.list (ValueOperation.read ValueOperation.getKey))).map .values
  | "pong" => (Json.Reader.noContent .held json).map fun _ => .pong
  | _ => none

def read : Json.Reader Payload := fun origin json => do
  let (tag, rest) ← Json.Reader.tagged "type" tags origin json
  ofMembers tag rest

end Payload

namespace ErrorInfo

def toJson (error : ErrorInfo) : Json :=
  .record [("code", error.code.toJson), ("message", .ofString error.message)]

def read : Json.Reader ErrorInfo := fun origin json => do
  let r ← Json.Reader.record ["code", "message"] origin json
  pure {
    code := ← r.required "code" Status.read
    message := ← r.required "message" .string }

end ErrorInfo

namespace Reply

def toJson : Reply → Json
  | .ok payload => .record [("ok", payload.toJson)]
  | .error info => .record [("err", info.toJson)]

def read : Json.Reader Reply := .keyedChoice fun
  | "ok" => some fun origin json => (Payload.read origin json).map .ok
  | "err" => some fun origin json => (ErrorInfo.read origin json).map .error
  | _ => none

end Reply

namespace Response

def members (response : Response) : List (String × Json) :=
  [("request_id", .ofNat response.id.toNat), ("api_version", .ofNat response.version.toNat),
    ("result", response.result.toJson)]

def toJson (response : Response) : Json := .record response.members

def read : Json.Reader Response := fun origin json => do
  let r ← Json.Reader.record ["request_id", "api_version", "result"] origin json
  pure {
    id := ← r.required "request_id" .uint64
    version := ← r.required "api_version" .uint32
    result := ← r.required "result" Reply.read }

end Response

namespace Notice

def toJson : Notice → Json
  | .registrationUpdated status =>
    .record [("type", .ofString "registration_status_updated"), ("status", status.toJson)]

def read : Json.Reader Notice := fun origin json => do
  let (_, rest) ← Json.Reader.tagged "type" ["registration_status_updated"] origin json
  let r ← Json.Reader.record ["status"] .held rest
  (r.required "status" Status.read).map .registrationUpdated

end Notice

namespace Event

def members (event : Event) : List (String × Json) :=
  [("api_version", .ofNat event.version.toNat), ("timestamp", event.timestamp.toJson),
    ("payload", event.notice.toJson)]

def toJson (event : Event) : Json := .record event.members

def read : Json.Reader Event := fun origin json => do
  let r ← Json.Reader.record ["api_version", "timestamp", "payload"] origin json
  pure {
    version := ← r.required "api_version" .uint32
    timestamp := ← r.required "timestamp" Timestamp.read
    notice := ← r.required "payload" Notice.read }

end Event

namespace Outbound

def toJson : Outbound → Json
  | .response r => .record (("kind", .ofString "response") :: r.members)
  | .event e => .record (("kind", .ofString "event") :: e.members)

def read : Json.Reader Outbound := fun origin json => do
  let (tag, rest) ← Json.Reader.tagged "kind" ["response", "event"] origin json
  if tag = "response" then (Response.read .held rest).map .response
  else (Event.read .held rest).map .event

end Outbound
end ResourceBroker
