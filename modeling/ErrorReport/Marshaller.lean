import ErrorReport.Log
import ErrorReport.Marshaller.Binding
import ErrorReport.Marshaller.Envelope
import ErrorReport.Json.Output
import ErrorReport.Text.Shown

/-!
# Marshalling events

A `Marshaller` writes an event as one JSON document: twelve members for the plain fields, in a fixed
order, and then one member for each payload that has a binding, by name.  A payload without a binding
is skipped with a warning; a payload that its binding refuses makes the whole event fail.

With compression the document is put into an envelope.
-/

set_option autoImplicit false

namespace ErrorReport

open Json (Value)

/-- How events are written. -/
structure Marshaller where
  /-- The bindings by the names of the payloads they are for. -/
  bindings : Dictionary Binding := ∅
  compression : Bool := true

/-- What came of writing an event to a writer. -/
structure Written where
  /-- The bytes that the writer took. -/
  taken : List UInt8
  /-- Why writing stopped, unless it was finished. -/
  error : Option MarshalError

/-- What came of writing that ended in some way. -/
def Written.ofOutcome {ε : Type} (error : ε → MarshalError) : Except ε Unit × List UInt8 → Written
  | (.ok _, taken) => ⟨taken, none⟩
  | (.error failure, taken) => ⟨taken, some (error failure)⟩

namespace Marshaller

/-- A marshaller without bindings. -/
def new : Marshaller := {}

/-- Registers a binding, in place of an earlier one for the same name. -/
def bind (m : Marshaller) (name : String) (binding : Binding) : Marshaller :=
  { m with bindings := m.bindings.insert name binding }

/-- A marshaller for the four payloads that have names of their own. -/
def standard (frames : TraceBinding) : Marshaller :=
  new.bind Payload.exceptionName (.exception frames)
    |>.bind Payload.stackTraceName (.stackTrace frames)
    |>.bind Payload.messageName .message
    |>.bind Payload.httpName .http

/-- Whether payloads of a name have a binding. -/
def hasBinding (m : Marshaller) (name : String) : Bool := m.bindings.contains name

/-- The type of the content that is written. -/
def contentType (m : Marshaller) : String :=
  if m.compression then "application/octet-stream" else "application/json"

/-- The warning for a payload without a binding. -/
def skipWarning (name : String) : LogRecord :=
  ⟨.warn, "no binding registered for interface " ++ name ++ "; skipping it"⟩

/-- The members for some payloads, and the log of writing them.  Writing ends with the first payload
that its binding refuses. -/
def payloadMembers (m : Marshaller) :
    List (String × Payload) → Except MarshalError (List (String × Value)) × List LogRecord
  | [] => (.ok [], [])
  | (name, payload) :: rest =>
    match m.bindings.get? name with
    | none =>
      let (members, log) := m.payloadMembers rest
      (members, skipWarning name :: log)
    | some binding =>
      match binding.write payload with
      | .error e => (.error e, [])
      | .ok value =>
        let (members, log) := m.payloadMembers rest
        (members.map ((name, value) :: ·), log)

/-- The members for the plain fields of an event. -/
def fieldMembers (e : Event) : List (String × Value) := [
  ("event_id", .string e.id.simple),
  ("message", .ofText? e.message),
  ("timestamp", .string e.timestamp.text),
  ("level", .ofText? (e.level.map Level.name)),
  ("logger", .ofText? e.logger),
  ("platform", .string e.platform),
  ("culprit", .ofText? e.culprit),
  ("tags", .ofDictionary (e.tags.mapValues .string)),
  ("server_name", .string e.serverName),
  ("modules", .object []),
  ("extra", .ofDictionary e.extra),
  ("checksum", .ofText? e.checksum)]

/-- The document of an event. -/
def document? (m : Marshaller) (e : Event) : Except MarshalError Value :=
  (m.payloadMembers e.payloads.entries).1.map fun members => .object (fieldMembers e ++ members)

/-- The log of writing an event. -/
def log (m : Marshaller) (e : Event) : List LogRecord := (m.payloadMembers e.payloads.entries).2

/-- The bytes of a document, in an envelope if there is compression. -/
def packed (m : Marshaller) (document : Value) : List UInt8 :=
  let bytes := Text.utf8 document.text
  if m.compression then Envelope.wrap bytes else bytes

/-- All bytes of an event. -/
def bytes? (m : Marshaller) (e : Event) : Except MarshalError (List UInt8) :=
  (m.document? e).map m.packed

/-- Writes an event to a writer.  A failure within the document is one of writing JSON; in an envelope
a failure shows when the envelope is closed, and an envelope without a document is closed all the
same.

Here the whole envelope is written when it is closed.  An encoder writes some of a large document
before that, and a failure then is one of writing JSON too; this is left out. -/
def writeInto (m : Marshaller) (w : Writer) (e : Event) : Written :=
  match m.document? e with
  | .error error =>
    ⟨if m.compression then ((w.put (Envelope.wrap [])).outcome []).2 else [], some error⟩
  | .ok document =>
    if m.compression then .ofOutcome .io ((w.put (m.packed document)).outcome [])
    else .ofOutcome (fun failure => .json failure.message) ((document.write w).outcome [])

/-- Writes an event to a writer that has room for so many bytes. -/
def writeTo (m : Marshaller) (room : Nat) (e : Event) : Written := m.writeInto (.withRoom room) e

/-- The marshaller as a diagnostic shows it. -/
def shown (m : Marshaller) : Text.Shown :=
  .record "JsonMarshaller" [("bindings", .list (m.bindings.keys.map .quote)),
    ("compression", .bool m.compression)] false

end Marshaller

end ErrorReport
