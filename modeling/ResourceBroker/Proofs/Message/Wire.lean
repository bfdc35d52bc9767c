import ResourceBroker.Proofs.Message.Codec

/-!
Every type that stands on the wire survives it: decoding undoes encoding. Real numbers are taken to be
read back as they are printed, one by one; for some the reader misses the nearest by a place.
-/

namespace ResourceBroker

inductive WireType where
  | request
  | command
  | response
  | payload
  | errorInfo
  | status
  | event
  | outbound
  | value
  | data
  | resource
  | object
  | setOperation
  | getOperation
  | token
  | connection
deriving DecidableEq, Repr

namespace WireType

abbrev Value : WireType → Type
  | .request => Request
  | .command => Command
  | .response => Response
  | .payload => Payload
  | .errorInfo => ErrorInfo
  | .status => Status
  | .event => Event
  | .outbound => Outbound
  | .value => ResourceValue
  | .data => ResourceData
  | .resource => Resource
  | .object => ResourceObject
  | .setOperation | .getOperation => ValueOperation
  | .token => AccessToken
  | .connection => ConnectionId

def toJson : (t : WireType) → t.Value → Json
  | .request => Request.toJson
  | .command => Command.toJson
  | .response => Response.toJson
  | .payload => Payload.toJson
  | .errorInfo => ErrorInfo.toJson
  | .status => Status.toJson
  | .event => Event.toJson
  | .outbound => Outbound.toJson
  | .value => ResourceValue.toJson
  | .data => ResourceData.toJson
  | .resource => Resource.toJson
  | .object => ResourceObject.toJson
  | .setOperation => ValueOperation.toJson ValueOperation.setKey
  | .getOperation => ValueOperation.toJson ValueOperation.getKey
  | .token => AccessToken.toJson
  | .connection => ConnectionId.toJson

def read : (t : WireType) → Json.Reader t.Value
  | .request => Request.read
  | .command => Command.read
  | .response => Response.read
  | .payload => Payload.read
  | .errorInfo => ErrorInfo.read
  | .status => Status.read
  | .event => Event.read
  | .outbound => Outbound.read
  | .value => ResourceValue.read
  | .data => ResourceData.read
  | .resource => Resource.read
  | .object => ResourceObject.read
  | .setOperation => ValueOperation.read ValueOperation.setKey
  | .getOperation => ValueOperation.read ValueOperation.getKey
  | .token => AccessToken.read
  | .connection => ConnectionId.read

def timestamps : (t : WireType) → t.Value → List Timestamp
  | .event => fun e => [e.timestamp]
  | .outbound => Outbound.timestamps
  | _ => fun _ => []

def encode (t : WireType) (x : t.Value) : String := (t.toJson x).print

def decode? (t : WireType) (s : String) : Option t.Value := Json.decode? t.read s.toList

/-- A value with proper instants, whose real numbers are read back as they are printed. -/
structure Printable (t : WireType) (x : t.Value) : Prop where
  reals : (t.toJson x).RealsReadBack
  timestamps : ∀ i ∈ t.timestamps x, i.IsValid

instance (t : WireType) (x : t.Value) : Decidable (t.Printable x) :=
  decidable_of_iff ((t.toJson x).RealsReadBack ∧ ∀ i ∈ t.timestamps x, i.IsValid)
    ⟨fun h => ⟨h.1, h.2⟩, fun h => ⟨h.1, h.2⟩⟩

theorem plain_toJson (t : WireType) (x : t.Value) : (t.toJson x).Plain 8 := by
  cases t with
  | request => exact Request.plain_toJson x
  | command => exact Command.plain_toJson x
  | response => exact Response.plain_toJson x
  | payload => exact Payload.plain_toJson x
  | errorInfo => exact ErrorInfo.plain_toJson x
  | status => exact Status.plain_toJson x
  | event => exact Event.plain_toJson x
  | outbound => exact Outbound.plain_toJson x
  | value => exact ResourceValue.plain_toJson x
  | data => exact ResourceData.plain_toJson x
  | resource => exact Resource.plain_toJson x
  | object => exact ResourceObject.plain_toJson x
  | setOperation => exact ValueOperation.plain_toJson _ x
  | getOperation => exact ValueOperation.plain_toJson _ x
  | token => exact AccessToken.plain_toJson x
  | connection => exact ConnectionId.plain_toJson x

theorem reads_toJson (t : WireType) {x : t.Value} (h : ∀ i ∈ t.timestamps x, i.IsValid) :
    t.read.Reads (t.toJson x) x := by
  cases t with
  | request => exact Request.reads_toJson x
  | command => exact Command.reads_toJson x
  | response => exact Response.reads_toJson x
  | payload => exact Payload.reads_toJson x
  | errorInfo => exact ErrorInfo.reads_toJson x
  | status => exact Status.reads_toJson x
  | event => exact Event.reads_toJson (h _ List.mem_cons_self)
  | outbound => exact Outbound.reads_toJson h
  | value => exact ResourceValue.reads_toJson x
  | data => exact ResourceData.reads_toJson x
  | resource => exact Resource.reads_toJson x
  | object => exact ResourceObject.reads_toJson x
  | setOperation => exact ValueOperation.reads_toJson (by decide) x
  | getOperation => exact ValueOperation.reads_toJson (by decide) x
  | token => exact AccessToken.reads_toJson x
  | connection => exact ConnectionId.reads_toJson x

theorem isValid_of_decode? {t : WireType} {s : String} {x : t.Value} (h : t.decode? s = some x) :
    ∀ i ∈ t.timestamps x, i.IsValid := by
  obtain ⟨json, -, hread⟩ := Option.bind_eq_some_iff.mp h
  cases t with
  | event => exact List.forall_mem_singleton.mpr (Event.isValid_of_read hread)
  | outbound => exact Outbound.isValid_of_read hread
  | _ => exact fun i hi => absurd hi List.not_mem_nil

theorem decode?_encode {t : WireType} {x : t.Value} (h : t.Printable x) :
    t.decode? (t.encode x) = some x := by
  rw [decode?, encode, Json.print, String.toList_ofList]
  exact (t.reads_toJson h.timestamps).decode? (t.plain_toJson x) (by decide) h.reals

/-- Decoding undoes encoding. So different values have different texts, and a text that is decoded and
encoded again has reached its final form. -/
theorem roundTrip (t : WireType) :
    (∀ x, t.Printable x → t.decode? (t.encode x) = some x) ∧
    (∀ x y, t.Printable x → t.Printable y → t.encode x = t.encode y → x = y) ∧
    ∀ s x, t.decode? s = some x → (t.toJson x).RealsReadBack →
      t.decode? (t.encode x) = t.decode? s ∧
      (t.decode? (t.encode x)).map t.encode = some (t.encode x) := by
  refine ⟨fun x => decode?_encode, fun x y hx hy heq => ?_, fun s x hs hx => ?_⟩
  · refine Option.some.inj ?_
    rw [← decode?_encode hx, ← decode?_encode hy, heq]
  · rw [decode?_encode ⟨hx, isValid_of_decode? hs⟩, hs, Option.map_some]
    exact ⟨rfl, rfl⟩

def sampleReading : Outbound :=
  .response (.success 18446744073709551615 (.values
    [⟨.ofValue "3303/0\n5700" (.float ⟨false, 4626744929681408000, by decide⟩), .success⟩]))

def sampleNotice : Outbound := .event (.new ⟨20000, 3600, 0⟩ (.registrationUpdated .success))

/-- The same notice as others may write it: in another order, with blanks and another offset. -/
def sampleText : String :=
  "\x7b \"payload\": \x7b\"status\": \x7b\"STATUS_SUCCESS\": null\x7d, " ++
  "\"type\": \"registration_status_updated\"\x7d, " ++
  "\"timestamp\": \"2024-10-04T03:00:00+02:00\", \"api_version\": 1, \"kind\": \"event\" \x7d"

theorem roundTrip_sample :
    outbound.decode? (outbound.encode sampleReading) = some sampleReading ∧
    outbound.encode sampleReading ≠ outbound.encode sampleNotice ∧
    outbound.decode? (outbound.encode sampleNotice) = outbound.decode? sampleText := by
  obtain ⟨hdecode, hinjective, hagain⟩ := roundTrip outbound
  have hreading : outbound.Printable sampleReading := by decide +kernel
  have hnotice : outbound.Printable sampleNotice := by decide +kernel
  have htext : outbound.decode? sampleText = some sampleNotice := by decide +kernel
  refine ⟨hdecode sampleReading hreading, fun heq => ?_,
    (hagain sampleText sampleNotice htext hnotice.reals).1⟩
  exact absurd (hinjective _ _ hreading hnotice heq) (by decide)

end WireType
end ResourceBroker
