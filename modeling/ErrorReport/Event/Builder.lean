import ErrorReport.Event
import ErrorReport.Grouping
import ErrorReport.Json.Sorted
import ErrorReport.Text.Blank
import ErrorReport.Text.Shown

/-!
# Building events

An `EventBuilder` collects the fields of one event in a draft, step by step.  `EventBuilder.build` fills
in what is missing and gives the event; it does so once, and a builder that has built is spent.

What the surroundings contribute, the time, a fresh identifier and the name of the host, is passed in
as a `Surroundings`.
-/

set_option autoImplicit false

namespace ErrorReport

/-- Why no event can be built. -/
inductive BuilderError where
  | alreadyBuilt
  | emptyId
  | invalidId (text : String)
  deriving DecidableEq, Repr

/-- The reason in words. -/
def BuilderError.message : BuilderError → String
  | alreadyBuilt => "event has already been built"
  | emptyId => "event id must not be empty"
  | invalidId text => "event id is not a valid UUID: " ++ Text.quoted text

/-- What an event takes from its surroundings if nothing else is said. -/
structure Surroundings where
  now : Instant
  freshId : Uuid
  /-- What the cache of the host's name answers. -/
  hostName : String

/-- The fields of an event that are set so far. -/
structure Draft where
  id : Option Uuid := none
  timestamp : Option Instant := none
  message : Option String := none
  level : Option Level := none
  logger : Option String := none
  platform : Option String := none
  culprit : Option String := none
  serverName : Option String := none
  tags : Dictionary String := ∅
  extra : Dictionary Json.Value := ∅
  checksum : Option String := none
  payloads : Dictionary Payload := ∅

/-- One thing to do to a builder. -/
inductive BuilderStep where
  | setMessage (text : String)
  | setTimestamp (time : Instant)
  | setLevel (level : Level)
  | setLogger (name : String)
  | setPlatform (name : String)
  | setCulprit (text : String)
  /-- Holds the location of a frame responsible. -/
  | setCulpritFrame (frame : Frame)
  | setServerName (name : String)
  | addTag (key value : String)
  | addExtra (key : String) (value : Json.Value)
  | attach (payload : Payload)
  | setChecksum (text : String)
  /-- Takes the checksum of a signature. -/
  | generateChecksum (signature : String) (hasher : Hasher)
  /-- Takes the checksum of a chain with a cause, or else of a call site, or else does nothing. -/
  | generateGroupingChecksum (chain : Option Chain) (callSite : Option Frame)
  | build

namespace Draft

/-- The draft with the fields that a step sets. -/
def apply (d : Draft) : BuilderStep → Draft
  | .setMessage text => { d with message := some text }
  | .setTimestamp time => { d with timestamp := some time }
  | .setLevel level => { d with level := some level }
  | .setLogger name => { d with logger := some name }
  | .setPlatform name => { d with platform := some name }
  | .setCulprit text => { d with culprit := some text }
  | .setCulpritFrame frame => { d with culprit := some frame.location }
  | .setServerName name => { d with serverName := some name }
  | .addTag key value => { d with tags := d.tags.insert key value }
  | .addExtra key value => { d with extra := d.extra.insert key value.sorted }
  | .attach payload => { d with payloads := d.payloads.insert payload.name payload }
  | .setChecksum text => { d with checksum := some text }
  | .generateChecksum signature hasher => { d with checksum := some (hasher.checksum signature) }
  | .generateGroupingChecksum chain callSite =>
    match Grouping.signature? chain callSite with
    | some signature => { d with checksum := some (Grouping.checksum signature) }
    | none => d
  | .build => {}

/-- The platform of an event that names none. -/
def standardPlatform : String := "rust"

/-- The event of a draft; what is not set comes from the surroundings or from other fields. -/
def finish (d : Draft) (s : Surroundings) : Event where
  id := d.id.getD s.freshId
  timestamp := d.timestamp.getD s.now
  message := d.message
  level := d.level
  logger := d.logger
  platform := d.platform.getD standardPlatform
  culprit := d.culprit.or d.logger
  serverName := d.serverName.getD s.hostName
  tags := d.tags
  extra := d.extra
  checksum := d.checksum
  payloads := d.payloads

end Draft

/-- A draft, and whether an event was built already. -/
structure EventBuilder where
  draft : Draft := {}
  isBuilt : Bool := false

namespace EventBuilder

/-- A builder for an event with a fresh identifier. -/
def new : EventBuilder := {}

/-- A builder for an event with the given identifier, which may not be all zeros. -/
def withId? (id : Uuid) : Except BuilderError EventBuilder :=
  if id.isNil then .error .emptyId else .ok { draft := { id := some id } }

/-- A builder for an event whose identifier is given as a text. -/
def withIdText? (text : String) : Except BuilderError EventBuilder :=
  let trimmed := Text.trim text
  if trimmed.isEmpty then .error .emptyId
  else
    match Uuid.read? trimmed.toList with
    | some id => withId? id
    | none => .error (.invalidId trimmed)

/-- Builds the event, and leaves an empty draft. -/
def build (b : EventBuilder) (s : Surroundings) : Except BuilderError Event × EventBuilder :=
  if b.isBuilt then (.error .alreadyBuilt, b) else (.ok (b.draft.finish s), ⟨{}, true⟩)

/-- The builder after a step; an event that the step builds is dropped. -/
def apply (b : EventBuilder) (step : BuilderStep) : EventBuilder :=
  match step with
  | .build => if b.isBuilt then b else ⟨{}, true⟩
  | step => { b with draft := b.draft.apply step }

/-- The builder after some steps. -/
def run (b : EventBuilder) (steps : List BuilderStep) : EventBuilder := steps.foldl apply b

/-- The builder as a diagnostic shows it. -/
def shown (b : EventBuilder) : Text.Shown :=
  .record "EventBuilder" [("id", .option (fun id => .plain id.hyphenated) b.draft.id),
    ("built", .bool b.isBuilt)] true

end EventBuilder

end ErrorReport
