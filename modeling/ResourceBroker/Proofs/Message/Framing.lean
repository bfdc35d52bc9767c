import ResourceBroker.Client
import ResourceBroker.Proofs.Json.Line
import ResourceBroker.Proofs.Message.Wire
import ResourceBroker.Proofs.Server.Stream

/-!
A stream of messages is cut back into the messages it was made of, whatever their texts hold and in
whatever pieces it arrives. A server also passes over blank lines between requests, and reads a last line
that was not completed.
-/

namespace ResourceBroker

namespace Request

theorem ofText?_render {request : Request} (h : WireType.request.Printable request) :
    ofText? request.toJson.render = some request :=
  request.reads_toJson.decode? request.plain_toJson (show 7 < 128 by decide) h.reals

theorem request?_line {request : Request} (h : WireType.request.Printable request) :
    Server.request? request.toJson.line = some request := by
  rw [Server.request?, toJson, Json.lineText?_line_record, Option.bind_some]
  exact ofText?_render h

end Request

namespace Outbound

theorem ofText?_render {message : Outbound} (h : WireType.outbound.Printable message) :
    ofText? message.toJson.render = some message :=
  (reads_toJson h.timestamps).decode? message.plain_toJson (show 8 < 128 by decide) h.reals

theorem lineText?_line (message : Outbound) :
    Text.lineText? message.toJson.line = some message.toJson.render := by
  cases message <;> exact Json.lineText?_line_record _

theorem readLine_line {message : Outbound} (h : WireType.outbound.Printable message) :
    Client.readLine message.toJson.line = .ok message := by
  simp only [Client.readLine, lineText?_line, ofText?_render h]

end Outbound

/-! Streams without anything between the messages. -/

theorem Json.splitLines_flatMap_toLine {depth : Nat} {values : List Json}
    (h : ∀ v ∈ values, Plain depth v) :
    Text.splitLines (values.flatMap toLine) = (values.map line, []) := by
  induction values with
  | nil => rfl
  | cons v values ih =>
    rw [List.forall_mem_cons] at h
    rw [List.flatMap_cons, toLine_eq, List.append_assoc, List.singleton_append,
      Text.splitLines_line (lineFeed_notMem_line h.1), ih h.2, List.map_cons]

theorem splitLines_requests (requests : List Request) :
    Text.splitLines (requests.flatMap Request.toLine) =
      (requests.map fun r => r.toJson.line, []) := by
  have hplain : ∀ v ∈ requests.map Request.toJson, Json.Plain 7 v :=
    List.forall_mem_map.mpr fun r _ => r.plain_toJson
  have hlines := Json.splitLines_flatMap_toLine hplain
  rwa [List.flatMap_map, List.map_map] at hlines

theorem splitLines_messages (messages : List Outbound) :
    Text.splitLines (messages.flatMap Outbound.toLine) =
      (messages.map fun m => m.toJson.line, []) := by
  have hplain : ∀ v ∈ messages.map Outbound.toJson, Json.Plain 8 v :=
    List.forall_mem_map.mpr fun m _ => m.plain_toJson
  have hlines := Json.splitLines_flatMap_toLine hplain
  rwa [List.flatMap_map, List.map_map] at hlines

theorem Client.foldl_receive {client : Client} (hended : client.ended = false)
    (hunread : Text.lineFeed ∉ client.unread) (chunks : List (List UInt8)) :
    chunks.foldl (fun client bytes => client.receive bytes) client =
      { client with
        lines := client.lines ++ (Text.splitLines (client.unread ++ chunks.flatten)).1
        unread := (Text.splitLines (client.unread ++ chunks.flatten)).2 } := by
  induction chunks generalizing client with
  | nil => simp [Text.splitLines_of_notMem hunread]
  | cons chunk chunks ih =>
    have hreceive : client.receive chunk =
        { client with
          lines := client.lines ++ (Text.splitLines (client.unread ++ chunk)).1
          unread := (Text.splitLines (client.unread ++ chunk)).2 } := by
      simp [receive, hended]
    have hrest := @ih (client.receive chunk) (by simpa [hreceive] using hended)
      (by simpa [hreceive] using Text.lineFeed_notMem_unended _)
    rw [List.foldl_cons, hrest, hreceive, List.flatten_cons, ← List.append_assoc client.unread,
      Text.splitLines_append (client.unread ++ chunk)]
    simp

/-! Streams with blank lines. -/

/-- A stream of requests, with blank lines anywhere between them. -/
inductive Spaced : List Request → List UInt8 → Prop where
  | nil : Spaced [] []
  | blank {requests : List Request} {bytes : List UInt8} {blanks : List Char}
    (blank : ∀ c ∈ blanks, Text.isBlank c) (oneLine : '\n' ∉ blanks)
    (rest : Spaced requests bytes) : Spaced requests (Text.encode (blanks ++ ['\n']) ++ bytes)
  | request {request : Request} {requests : List Request} {bytes : List UInt8}
    (rest : Spaced requests bytes) : Spaced (request :: requests) (request.toLine ++ bytes)

structure Holds (lines : List (List UInt8)) (requests : List Request) : Prop where
  isSome_lineText? : ∀ line ∈ lines, (Text.lineText? line).isSome
  filterMap_request? : lines.filterMap Server.request? = requests

theorem Spaced.splitLines {requests : List Request} {bytes : List UInt8}
    (h : Spaced requests bytes) (hprint : ∀ r ∈ requests, WireType.request.Printable r) :
    Holds (Text.splitLines bytes).1 requests ∧ (Text.splitLines bytes).2 = [] := by
  induction h with
  | nil => exact ⟨⟨nofun, rfl⟩, rfl⟩
  | @blank requests bytes blanks hblank honeLine _ ih =>
    obtain ⟨⟨htext, hrequests⟩, hlast⟩ := ih hprint
    have hline := Text.lineText?_encode blanks
    rw [Text.trim_of_blank hblank] at hline
    have hrequest : Server.request? (Text.encode blanks) = none := by
      rw [Server.request?, hline]
      rfl
    rw [Text.encode_append, Text.encode_lineFeed, List.append_assoc, List.singleton_append,
      Text.splitLines_line (Text.lineFeed_notMem_encode honeLine)]
    refine ⟨⟨List.forall_mem_cons.mpr ⟨by rw [hline]; rfl, htext⟩, ?_⟩, hlast⟩
    rw [List.filterMap_cons_none hrequest, hrequests]
  | @request request requests bytes _ ih =>
    rw [List.forall_mem_cons] at hprint
    obtain ⟨⟨htext, hrequests⟩, hlast⟩ := ih hprint.2
    have hline := Json.lineText?_line_record
      [("request_id", .ofNat request.id.toNat), ("api_version", .ofNat request.version.toNat),
        ("command", request.command.toJson)]
    rw [← Request.toJson] at hline
    rw [Request.toLine, Json.toLine_eq, List.append_assoc, List.singleton_append,
      Text.splitLines_line (Json.lineFeed_notMem_line (@Request.plain_toJson 0 request))]
    refine ⟨⟨List.forall_mem_cons.mpr ⟨by rw [hline]; rfl, htext⟩, ?_⟩, hlast⟩
    rw [List.filterMap_cons_some (Request.request?_line hprint.1), hrequests]

theorem Holds.allLines {requests : List Request} {bytes : List UInt8}
    (h : Holds (Text.splitLines (bytes ++ [Text.lineFeed])).1 requests) :
    Holds (Text.allLines bytes) requests := by
  rw [Text.splitLines_append_lineFeed] at h
  rw [Text.allLines]
  split
  · next hempty =>
    rw [List.isEmpty_iff] at hempty
    refine ⟨fun line hline => h.isSome_lineText? line ?_, ?_⟩
    · exact List.mem_append_left _ (by simpa using hline)
    · have hrequests := h.filterMap_request?
      rw [hempty, List.filterMap_append, List.filterMap_cons_none (by rfl)] at hrequests
      simpa using hrequests
  · exact h

theorem Spaced.allLines {requests : List Request} {bytes : List UInt8}
    (h : Spaced requests bytes ∨ Spaced requests (bytes ++ [Text.lineFeed]))
    (hprint : ∀ r ∈ requests, WireType.request.Printable r) :
    Holds (Text.allLines bytes) requests := by
  rcases h with h | h
  · obtain ⟨hlines, hlast⟩ := h.splitLines hprint
    rwa [Text.allLines, hlast, List.isEmpty_nil, if_pos rfl, List.append_nil]
  · exact (h.splitLines hprint).1.allLines

/-- Framing loses nothing. In both directions a stream is cut into lines that hold its messages in order,
and a client reads them off, whatever pieces the stream arrives in. A server that is given requests, blank
lines among them and perhaps no last line feed, in any pieces until the peer writes no more, serves these
requests in order and then closes the connection. -/
theorem framing :
    (∀ requests : List Request, (∀ r ∈ requests, WireType.request.Printable r) →
      (Text.splitLines (requests.flatMap Request.toLine)).1.map Server.request? =
          requests.map some ∧
        (Text.splitLines (requests.flatMap Request.toLine)).2 = []) ∧
    (∀ (messages : List Outbound) (chunks : List (List UInt8)),
      (∀ m ∈ messages, WireType.outbound.Printable m) →
      chunks.flatten = messages.flatMap Outbound.toLine →
      let client := chunks.foldl (fun client bytes => client.receive bytes) Client.new
      client.lines.map Client.readLine = messages.map .ok ∧ client.unread = []) ∧
    ∀ (requests : List Request) (bytes : List UInt8),
      (∀ r ∈ requests, WireType.request.Printable r) →
      Spaced requests bytes ∨ Spaced requests (bytes ++ [Text.lineFeed]) →
      (Text.allLines bytes).filterMap Server.request? = requests ∧
      ∀ (σ : Type) (handler : TellingHandler σ) (s : Server σ) (connection : ConnectionId)
        (user : Option UInt32) (chunks : List (List UInt8)),
        s.adapter.peer? connection = some ⟨connection, user, []⟩ → chunks.flatten = bytes →
        (chunks.foldl (fun s chunk => s.receive handler connection chunk) s).hangUp
            handler connection =
          (requests.foldl (fun s r => s.serve handler connection r) s).close
            handler connection := by
  refine ⟨fun requests hprint => ?_, fun messages chunks hprint hchunks => ?_,
    fun requests bytes hprint hspaced => ?_⟩
  · rw [splitLines_requests, List.map_map]
    exact ⟨List.map_congr_left fun r hr => Request.request?_line (hprint r hr), rfl⟩
  · intro client
    have hclient : client = _ := Client.foldl_receive rfl List.not_mem_nil chunks
    simp only [Client.new, List.nil_append, hchunks, splitLines_messages] at hclient
    rw [hclient, List.map_map]
    exact ⟨List.map_congr_left fun m hm => Outbound.readLine_line (hprint m hm), rfl⟩
  · have hholds := Spaced.allLines hspaced hprint
    refine ⟨hholds.filterMap_request?, fun σ handler s connection user chunks hpeer hchunks => ?_⟩
    rw [Server.hangUp_foldl_receive hpeer List.not_mem_nil, List.nil_append, hchunks,
      Server.foldl_readLine hholds.isSome_lineText?, hholds.filterMap_request?]

namespace Framing

/-- The definition has line feeds and a line separator in it, and blanks at its ends. -/
def sampleRegistration : Request := .new 1 (.register "\n \x7b\r\n\u2028\x7d\u3000")

def sampleRequests : List Request := [sampleRegistration, .new 2 .ping]

def sampleStream : List UInt8 :=
  Text.encode (['\u2003', '\r'] ++ ['\n']) ++
    (sampleRegistration.toLine ++ (Request.new 2 .ping).toJson.line)

def sampleMessages : List Outbound := [WireType.sampleReading, WireType.sampleNotice]

def sampleServer : Server Unit :=
  ⟨{ SocketAdapter.new .vacant 1 ⟨0, 0, 0⟩ with loop := .running, clients := [⟨⟨7⟩, none, []⟩] }, ()⟩

def sampleHandler : TellingHandler Unit := .registering fun _ _ => pure (.rejected .failed)

theorem spaced_sampleStream : Spaced sampleRequests (sampleStream ++ [Text.lineFeed]) := by
  have hspaced : Spaced sampleRequests (Text.encode (['\u2003', '\r'] ++ ['\n']) ++
      (sampleRegistration.toLine ++ ((Request.new 2 .ping).toLine ++ []))) :=
    .blank (List.all_eq_true.mp rfl) (by decide) (.request (.request .nil))
  simpa [sampleStream, Request.toLine, Json.toLine_eq] using hspaced

end Framing

open Framing in
theorem framing_sample :
    (Text.splitLines (sampleRequests.flatMap Request.toLine)).1.map Server.request? =
      sampleRequests.map some ∧
    ([sampleMessages.flatMap Outbound.toLine].foldl (fun client bytes => client.receive bytes)
      Client.new).lines.map Client.readLine = sampleMessages.map .ok ∧
    ([sampleStream.take 7, sampleStream.drop 7].foldl
        (fun s chunk => s.receive sampleHandler ⟨7⟩ chunk) sampleServer).hangUp sampleHandler ⟨7⟩ =
      (sampleRequests.foldl (fun s r => s.serve sampleHandler ⟨7⟩ r) sampleServer).close
        sampleHandler ⟨7⟩ := by
  obtain ⟨hrequests, hmessages, hserver⟩ := framing
  have hprint : ∀ r ∈ sampleRequests, WireType.request.Printable r := by decide +kernel
  have hprint' : ∀ m ∈ sampleMessages, WireType.outbound.Printable m := by decide +kernel
  have hchunks : [sampleStream.take 7, sampleStream.drop 7].flatten = sampleStream := by simp
  exact ⟨(hrequests _ hprint).1, (hmessages _ _ hprint' (List.append_nil _)).1,
    (hserver _ _ hprint (.inr spaced_sampleStream)).2 Unit sampleHandler sampleServer ⟨7⟩ none _
      rfl hchunks⟩

end ResourceBroker
