import ErrorReport.Proofs.Client.Reporting

/-!
# What becomes of a captured event

A captured event may be lost in many ways: a helper may have spent the builder, the thread may be
reporting, and a transport may fail in several ways.  None of them goes without a record, and none is
recorded twice.

`Fate` lists the ways in which a report may end, and `Fate.Leaves` says of each what is seen of the
client then: the calls of its transport and its own records, in order.

* `leaves_unbuilt_iff`, `leaves_dropped_iff`, `leaves_handed_iff` — what is seen of a client fits one
  way and no other.
* `endsAs_unbuilt`, `endsAs_fate` — so do the effects of a report, less what its transport had reported.
* `captured_event_has_one_fate` — the way in which a captured event ends.
-/

set_option autoImplicit false

namespace ErrorReport

namespace Client

/-- The ways in which a client may end a report. -/
inductive Fate where
  /-- The transport took the event. -/
  | taken
  /-- There is no event, because one was built already. -/
  | unbuilt
  /-- The event was dropped, because the thread was reporting. -/
  | dropped
  /-- The transport had no room in its queue, or was closed. -/
  | notQueued
  /-- The transport failed. -/
  | failed
  deriving DecidableEq, Repr

/-- What is seen of a client when a report ends in some way. -/
def Fate.Leaves (client : Nat) (built : Except BuilderError Event) (outcome : Outcome)
    (own : List ClientEffect) : Fate → Prop
  | taken => ∃ event, built = .ok event ∧
      own = [.asked client event, .handed client event true, .left client event]
  | unbuilt => ∃ reason, built = .error reason ∧
      own = [.logged client ⟨.error, "could not build event: " ++ reason.message⟩]
  | dropped => ∃ event, built = .ok event ∧
      own = [.asked client event,
        .logged client ⟨.debug, "dropping event " ++ event.id.simple ++ " raised while reporting"⟩,
        .left client event]
  | notQueued => ∃ event error, built = .ok event ∧ outcome = .failed error ∧
      own = [.asked client event, .handed client event true,
        .logged client ⟨.debug, "event " ++ event.id.simple ++ " not queued: " ++ error.message⟩,
        .left client event]
  | failed => ∃ event error, built = .ok event ∧ outcome = .failed error ∧
      own = [.asked client event, .handed client event true,
        .logged client ⟨.error,
          "an error occurred while sending event " ++ event.id.simple ++ ": " ++ error.message⟩,
        .left client event]

/-- How a report ends: an event may be missing because the builder `isSpent`, the thread may be
reporting, and the transport answers if it is called. -/
def fate (isSpent isReporting : Bool) (outcome : Outcome) : Fate :=
  if isSpent then .unbuilt
  else if isReporting then .dropped
  else
    match outcome with
    | .done => .taken
    | .failed .queueFull | .failed .closed => .notQueued
    | .failed _ => .failed

/-- The effects of a report show that it ended in one way.  What the transport had reported itself,
which led to no call of a transport, is set apart; what is left is what this way leaves, and no other
way leaves it. -/
def EndsAs (client : Nat) (built : Except BuilderError Event) (nested : List Report)
    (outcome : Outcome) (effects : List ClientEffect) (ending : Fate) : Prop :=
  ∃ opening inner closing, effects = opening ++ inner ++ closing
    ∧ (inner = [] ∨ inner = (Report.runAll true nested).effects)
    ∧ inner.filterMap ClientEffect.handed? = []
    ∧ ∀ other : Fate, other.Leaves client built outcome (opening ++ closing) ↔ other = ending

variable {client : Nat} {nested : List Report} {outcome : Outcome} {event : Event}
  {isReporting : Bool}

/-- Without an event there is one record. -/
theorem leaves_unbuilt_iff {reason : BuilderError} {other : Fate} :
    other.Leaves client (.error reason) outcome [.logged client (unbuiltRecord reason)]
      ↔ other = .unbuilt := by
  cases other <;> simp [Fate.Leaves, unbuiltRecord]

/-- A thread that is reporting drops the event with one record. -/
theorem leaves_dropped_iff {other : Fate} :
    other.Leaves client (.ok event) outcome
      [.asked client event, .logged client (droppedRecord event), .left client event]
      ↔ other = .dropped := by
  cases other <;> simp [Fate.Leaves, droppedRecord]

/-- Otherwise the transport is called once, and there is a record if it does not take the event. -/
theorem leaves_handed_iff {other : Fate} :
    other.Leaves client (.ok event) outcome
      (.asked client event :: .handed client event true
        :: (endingEffects client event (.returned outcome) ++ [.left client event]))
      ↔ other = fate false false outcome := by
  cases outcome with
  | done => cases other <;> simp [Fate.Leaves, fate, endingEffects, outcomeRecord?]
  | failed error =>
    cases error <;> cases other <;> simp [Fate.Leaves, fate, endingEffects, outcomeRecord?]

/-- A report without an event ends at once. -/
theorem endsAs_unbuilt (reason : BuilderError) :
    EndsAs client (.error reason) nested outcome
      ((Report.to client (.error reason) (.does nested (.returned outcome))).run isReporting).effects
      .unbuilt :=
  ⟨[.logged client (unbuiltRecord reason)], [], [], by simp [Report.run], .inl rfl, rfl,
    fun _ => leaves_unbuilt_iff⟩

/-- A report of an event ends with the call of the transport, if the thread is not reporting. -/
theorem endsAs_fate (event : Event) :
    EndsAs client (.ok event) nested outcome
      ((Report.to client (.ok event) (.does nested (.returned outcome))).run isReporting).effects
      (fate false isReporting outcome) := by
  cases isReporting with
  | true =>
    exact ⟨[.asked client event, .logged client (droppedRecord event), .left client event], [], [],
      by simp [Report.run], .inl rfl, rfl, fun _ => leaves_dropped_iff⟩
  | false =>
    refine ⟨[.asked client event, .handed client event true], (Report.runAll true nested).effects,
      endingEffects client event (.returned outcome) ++ [.left client event], ?_, .inr rfl,
      (Report.runAll_true nested).1.handed_eq_nil rfl, fun _ => leaves_handed_iff⟩
    simp [Report.run, Conduct.run_does]

/-- Only a spent builder gives no event. -/
theorem build_eq (b : EventBuilder) (s : Surroundings) :
    (b.isBuilt = true ∧ (b.build s).1 = .error .alreadyBuilt)
      ∨ (b.isBuilt = false ∧ ∃ event, (b.build s).1 = .ok event) := by
  unfold EventBuilder.build
  cases b.isBuilt with
  | true => exact .inl ⟨rfl, rfl⟩
  | false => exact .inr ⟨rfl, _, rfl⟩

/-- **No event disappears without a trace, and none is sent twice.**  A captured event, whatever the
helpers do, whether the thread is reporting, and whatever the transport has reported and answers, ends
in one way: its transport is called once and takes it, with no record of the client, or there is one
record of the client that says what happened.  An event that is given as it is ends in one of these
ways too, and it was built. -/
theorem captured_event_has_one_fate (client : Nat) (helpers : HelperSet)
    (conducts : List (List HelperAct)) (s : Surroundings) (steps : List BuilderStep)
    (isReporting : Bool) (nested : List Report) (outcome : Outcome) :
    EndsAs client (capture helpers conducts s steps).1 nested outcome
        ((Report.to client (capture helpers conducts s steps).1
          (.does nested (.returned outcome))).run isReporting).effects
        (fate (helped helpers conducts steps).builder.isBuilt isReporting outcome)
      ∧ ∀ event, fate false isReporting outcome ≠ .unbuilt
        ∧ EndsAs client (.ok event) nested outcome
          ((Report.to client (.ok event) (.does nested (.returned outcome))).run isReporting).effects
          (fate false isReporting outcome) := by
  refine ⟨?_, fun event => ⟨?_, endsAs_fate event⟩⟩
  · rw [capture]
    rcases build_eq (helped helpers conducts steps).builder s
      with ⟨hspent, hbuilt⟩ | ⟨hspent, event, hbuilt⟩
    · rw [hspent, hbuilt]
      exact endsAs_unbuilt .alreadyBuilt
    · rw [hspent, hbuilt]
      exact endsAs_fate event
  · cases isReporting with
    | true => simp [fate]
    | false =>
      cases outcome with
      | done => simp [fate]
      | failed error => cases error <;> simp [fate]

end Client
end ErrorReport
