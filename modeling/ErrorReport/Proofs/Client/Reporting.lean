import ErrorReport.Client
import ErrorReport.Proofs.Lists
import Mathlib.Algebra.BigOperators.Group.List.Basic
import Mathlib.Algebra.Order.Ring.Int

/-!
# What is reported while a report is under way

A transport that is called with an event may have other events reported, by any client and any number
of them, and transports that take those would report more in their turn.  All of that comes to
nothing but a note for each event, because the thread is marked.

`Lawful` says what may be seen of a thread, by the mark it has when the first event is given to a
client.  It does not speak of the mark after that: whether an event is turned down can be told from
the events that are still under way.

Which events are given to clients at all is a matter of what is reported, and of where a transport
breaks off: `Report.calls` and `Report.made` tell it without following a run.  `Report.Accounts` is
the account of these calls that is read off a run.

* `Lawful.of_asked` — in what is lawful, an event that is given to a client while another one is
  under way is turned down, and any other goes to the client's transport once.
* `lawful_session` — what is seen of a thread is lawful, and the thread has its mark again after it.
* `accounts_session` — every call that is made is seen once, with a call of a transport or a note.
-/

set_option autoImplicit false

namespace ErrorReport

namespace ClientEffect

/-- How the number of events under way changes. -/
def change : ClientEffect → Int
  | asked _ _ => 1
  | left _ _ => -1
  | handed _ _ _ | logged _ _ => 0

/-- The client that is given an event, and the event. -/
def asked? : ClientEffect → Option (Nat × Event)
  | asked client event => some (client, event)
  | handed _ _ _ | logged _ _ | left _ _ => none

/-- The client whose transport is called, and the event. -/
def handed? : ClientEffect → Option (Nat × Event)
  | handed client event _ => some (client, event)
  | asked _ _ | logged _ _ | left _ _ => none

/-- The client that writes a note of a dropped event, and the note; its first words tell it from any
other. -/
def dropNote? : ClientEffect → Option (Nat × LogRecord)
  | logged client record =>
    if record.level = .debug ∧ "dropping event ".toList <+: record.message.toList then
      some (client, record)
    else none
  | asked _ _ | handed _ _ _ | left _ _ => none

end ClientEffect

/-- How many events were given to clients that are not done with them. -/
def underWay (effects : List ClientEffect) : Int := (effects.map ClientEffect.change).sum

@[simp] theorem underWay_nil : underWay [] = 0 := rfl

@[simp] theorem underWay_cons (effect : ClientEffect) (rest : List ClientEffect) :
    underWay (effect :: rest) = effect.change + underWay rest := by
  simp [underWay]

@[simp] theorem underWay_append (s t : List ClientEffect) :
    underWay (s ++ t) = underWay s + underWay t := by
  simp [underWay]

namespace Client

theorem mem_endingEffects {client : Nat} {event : Event} {ending : Ending} {effect : ClientEffect}
    (h : effect ∈ endingEffects client event ending) : ∃ record, effect = .logged client record := by
  cases ending with
  | returned outcome =>
    obtain ⟨record, -, rfl⟩ := List.mem_map.1 h
    exact ⟨record, rfl⟩
  | brokeOff => cases h

@[simp] theorem underWay_endingEffects (client : Nat) (event : Event) (ending : Ending) :
    underWay (endingEffects client event ending) = 0 := by
  refine List.sum_eq_zero fun change hchange => ?_
  obtain ⟨effect, heffect, rfl⟩ := List.mem_map.1 hchange
  obtain ⟨record, rfl⟩ := mem_endingEffects heffect
  rfl

theorem asked_notMem_endingEffects (client other : Nat) (event given : Event) (ending : Ending) :
    .asked other given ∉ endingEffects client event ending := by
  intro h
  obtain ⟨record, hrecord⟩ := mem_endingEffects h
  cases hrecord

end Client

namespace Report

/-! ## What may be seen -/

/-- What may be seen of a thread that is reporting, or is not, when the first event is given to a
client. -/
inductive Lawful : Bool → List ClientEffect → Prop
  | nothing {isReporting : Bool} : Lawful isReporting []
  /-- An event that could not be built is given to nobody. -/
  | unbuilt {isReporting : Bool} {client : Nat} {error : BuilderError} {rest : List ClientEffect}
      (hrest : Lawful isReporting rest) :
      Lawful isReporting (.logged client (Client.unbuiltRecord error) :: rest)
  /-- While the thread is reporting, an event is turned down with a note. -/
  | dropped {client : Nat} {event : Event} {rest : List ClientEffect} (hrest : Lawful true rest) :
      Lawful true (.asked client event :: .logged client (Client.droppedRecord event)
        :: .left client event :: rest)
  /-- Otherwise it goes to the client's transport, and the thread is reporting until that ends. -/
  | sent {client : Nat} {event : Event} {ending : Ending} {inner rest : List ClientEffect}
      (hinner : Lawful true inner) (hrest : Lawful false rest) :
      Lawful false (.asked client event :: .handed client event true
        :: (inner ++ (Client.endingEffects client event ending ++ .left client event :: rest)))

variable {isReporting : Bool} {s t : List ClientEffect}

theorem Lawful.append (hs : Lawful isReporting s) (ht : Lawful isReporting t) :
    Lawful isReporting (s ++ t) := by
  induction hs with
  | nothing => exact ht
  | unbuilt _ ih => exact .unbuilt (ih ht)
  | dropped _ ih => exact .dropped (ih ht)
  | sent hinner _ _ ih => simpa using Lawful.sent hinner (ih ht)

/-- A thread that is reporting calls no transport. -/
theorem Lawful.handed_eq_nil (h : Lawful isReporting s) (hmarked : isReporting = true) :
    s.filterMap ClientEffect.handed? = [] := by
  induction h with
  | nothing => rfl
  | unbuilt _ ih => exact ih hmarked
  | dropped _ ih => exact ih hmarked
  | sent => cases hmarked

/-- Clients are done with all that they were given. -/
theorem Lawful.underWay_eq (h : Lawful isReporting s) : underWay s = 0 := by
  induction h with
  | nothing => rfl
  | unbuilt _ ih => simpa [ClientEffect.change] using ih
  | dropped _ ih => simpa [ClientEffect.change] using ih
  | sent _ _ ihinner ihrest => simp [ClientEffect.change, ihinner, ihrest]

/-! ## What becomes of an event -/

/-- What follows when an event is turned down: one note. -/
def IsTurnedDown (client : Nat) (event : Event) (after : List ClientEffect) : Prop :=
  ∃ rest, after = .logged client (Client.droppedRecord event) :: .left client event :: rest

/-- What follows when an event is taken: the client's transport is called with it, and no transport is
called again before the client is done. -/
def IsCarried (client : Nat) (event : Event) (after : List ClientEffect) : Prop :=
  ∃ inner ending rest, after = .handed client event true
      :: (inner ++ (Client.endingEffects client event ending ++ .left client event :: rest))
    ∧ Lawful true inner ∧ inner.filterMap ClientEffect.handed? = []

theorem IsTurnedDown.append {client : Nat} {event : Event} {after : List ClientEffect}
    (h : IsTurnedDown client event after) (more : List ClientEffect) :
    IsTurnedDown client event (after ++ more) := by
  obtain ⟨rest, rfl⟩ := h
  exact ⟨rest ++ more, rfl⟩

/-- What is known of an event that is given to a client, from the mark of the thread and what went
before. -/
structure IsAnswered (isReporting : Bool) (before : List ClientEffect) (client : Nat) (event : Event)
    (after : List ClientEffect) : Prop where
  nonneg : 0 ≤ underWay before
  turnedDown : isReporting = true ∨ 0 < underWay before → IsTurnedDown client event after
  carried : isReporting = false → underWay before = 0 → IsCarried client event after

/-- Of what went before only the number of events under way matters. -/
theorem IsAnswered.congr {before before' after : List ClientEffect} {client : Nat} {event : Event}
    (h : IsAnswered isReporting before client event after)
    (heq : underWay before' = underWay before) :
    IsAnswered isReporting before' client event after where
  nonneg := heq ▸ h.nonneg
  turnedDown := by rw [heq]; exact h.turnedDown
  carried := by rw [heq]; exact h.carried

/-- **An event is turned down while the thread is reporting, and taken otherwise.** -/
theorem Lawful.of_asked (h : Lawful isReporting s) {before after : List ClientEffect} {client : Nat}
    {event : Event} (hs : s = before ++ .asked client event :: after) :
    IsAnswered isReporting before client event after := by
  induction h generalizing before after with
  | nothing => simp at hs
  | unbuilt _ ih =>
    cases before with
    | nil => cases hs
    | cons first before =>
      obtain ⟨rfl, htail⟩ := List.cons.inj hs
      exact (ih htail).congr (by simp [ClientEffect.change])
  | dropped _ ih =>
    match before, hs with
    | [], hs =>
      obtain ⟨⟨rfl, rfl⟩, rfl⟩ : (_ = client ∧ _ = event) ∧ _ = after := by simpa using hs
      exact ⟨Int.le_refl 0, fun _ => ⟨_, rfl⟩, fun hmark => by cases hmark⟩
    | [_], hs => simp at hs
    | [_, _], hs => simp at hs
    | first :: note :: last :: before, hs =>
      obtain ⟨rfl, rfl, rfl, htail⟩ : _ = first ∧ _ = note ∧ _ = last ∧ _ := by simpa using hs
      exact (ih htail).congr (by simp [ClientEffect.change])
  | @sent given e ending inner rest hinner hrest ihinner ihrest =>
    match before, hs with
    | [], hs =>
      obtain ⟨⟨rfl, rfl⟩, rfl⟩ : (given = client ∧ e = event) ∧ _ = after := by simpa using hs
      exact ⟨Int.le_refl 0, fun hmark => by simp at hmark,
        fun _ _ => ⟨inner, ending, rest, rfl, hinner, hinner.handed_eq_nil rfl⟩⟩
    | [_], hs => simp at hs
    | first :: call :: before, hs =>
      obtain ⟨rfl, rfl, htail⟩ : _ = first ∧ _ = call ∧ _ := by simpa using hs
      rcases append_eq_append_cons htail with ⟨more, hmore, rfl⟩ | ⟨past, rfl, hpast⟩
      · -- the event is given by the transport
        have hnested := ihinner hmore
        have hopen : 0 < underWay (.asked given e :: .handed given e true :: before) := by
          have := hnested.nonneg
          simp [ClientEffect.change]
          omega
        exact ⟨Int.le_of_lt hopen, fun _ => (hnested.turnedDown (.inl rfl)).append _,
          fun _ hnone => absurd hnone (by omega)⟩
      · rcases append_eq_append_cons hpast with ⟨more, hmore, -⟩ | ⟨past, rfl, hpast⟩
        · exact absurd (hmore ▸ by simp) (Client.asked_notMem_endingEffects given client e event ending)
        · cases past with
          | nil => simp at hpast
          | cons last past =>
            obtain ⟨rfl, hlast⟩ : _ = last ∧ _ := by simpa using hpast
            exact (ihrest hlast).congr (by simp [ClientEffect.change, hinner.underWay_eq])

/-! ## What is seen -/

/-- A thread that is reporting notes what it is given, and nothing breaks off. -/
theorem run_true (report : Report) :
    Lawful true (report.run true).effects ∧ (report.run true).isReporting = true
      ∧ (report.run true).isBrokenOff = false := by
  match report with
  | .to _ (.error _) _ =>
    exact ⟨by simpa [run] using Lawful.unbuilt .nothing, by simp [run], by simp [run]⟩
  | .to _ (.ok _) _ =>
    exact ⟨by simpa [run] using Lawful.dropped .nothing, by simp [run], by simp [run]⟩

theorem runAll_true (reports : List Report) :
    Lawful true (runAll true reports).effects ∧ (runAll true reports).isReporting = true
      ∧ (runAll true reports).isBrokenOff = false := by
  induction reports with
  | nil => exact ⟨by simpa [runAll] using Lawful.nothing, by simp [runAll], by simp [runAll]⟩
  | cons report rest ih =>
    obtain ⟨hfirst, hmark, hwhole⟩ := report.run_true
    simp only [runAll, hwhole, hmark, Bool.false_eq_true, if_false]
    exact ⟨hfirst.append ih.1, ih.2⟩

end Report

/-- What the transport has reported in a call comes before the client writes how the call ended. -/
theorem Conduct.run_does (client : Nat) (event : Event) (nested : List Report) (ending : Ending) :
    ((Conduct.does nested ending).run true client event).effects
      = (Report.runAll true nested).effects ++ Client.endingEffects client event ending := by
  simp [Conduct.run, (Report.runAll_true nested).2.2]

namespace Report

/-- A thread that is not reporting is not reporting after a report, also after one that broke off. -/
theorem run_false (report : Report) :
    Lawful false (report.run false).effects ∧ (report.run false).isReporting = false := by
  match report with
  | .to _ (.error _) _ => exact ⟨by simpa [run] using Lawful.unbuilt .nothing, by simp [run]⟩
  | .to _ (.ok _) (.does nested _) =>
    refine ⟨?_, by simp [run]⟩
    simpa [run, Conduct.run_does] using Lawful.sent (runAll_true nested).1 .nothing

theorem lawful_run (isReporting : Bool) (report : Report) :
    Lawful isReporting (report.run isReporting).effects
      ∧ (report.run isReporting).isReporting = isReporting := by
  cases isReporting with
  | false => exact report.run_false
  | true => exact ⟨report.run_true.1, report.run_true.2.1⟩

theorem lawful_runAll (isReporting : Bool) (reports : List Report) :
    Lawful isReporting (runAll isReporting reports).effects
      ∧ (runAll isReporting reports).isReporting = isReporting := by
  induction reports with
  | nil => exact ⟨by simpa [runAll] using Lawful.nothing, by simp [runAll]⟩
  | cons report rest ih =>
    obtain ⟨hfirst, hmark⟩ := lawful_run isReporting report
    rw [runAll]
    split
    · exact ⟨hfirst, hmark⟩
    · rw [hmark]
      exact ⟨hfirst.append ih.1, ih.2⟩

theorem lawful_session (isReporting : Bool) (groups : List (List Report)) :
    Lawful isReporting (session isReporting groups).effects
      ∧ (session isReporting groups).isReporting = isReporting := by
  induction groups with
  | nil => exact ⟨.nothing, rfl⟩
  | cons group rest ih =>
    obtain ⟨hfirst, hmark⟩ := lawful_runAll isReporting group
    simp only [session, hmark]
    exact ⟨hfirst.append ih.1, ih.2⟩

/-! ## Which events are given to clients -/

/-- An event that is given to a client. -/
structure Call where
  client : Nat
  event : Event
  /-- Whether the thread is reporting when it is given. -/
  isWithin : Bool

/-- The client and the event. -/
def Call.given (c : Call) : Nat × Event := (c.client, c.event)

/-- The note of a client that drops the event. -/
def Call.note (c : Call) : Nat × LogRecord :=
  (c.client, ⟨.debug, "dropping event " ++ c.event.id.simple ++ " raised while reporting"⟩)

/-- The call for the event of a report, if the event could be built. -/
def call? (isReporting : Bool) : Report → Option Call
  | .to client (.ok event) _ => some ⟨client, event, isReporting⟩
  | .to _ (.error _) _ => none

/-- What the transport has reported if it is called. -/
def nested : Report → List Report
  | .to _ (.ok _) (.does reports _) => reports
  | .to _ (.error _) _ => []

/-- All calls of a report on a thread.  If the thread is not reporting yet, the transport is called, and
what this has reported comes while it is. -/
def calls (isReporting : Bool) (report : Report) : List Call :=
  (report.call? isReporting).toList ++
    if isReporting then [] else report.nested.filterMap (call? true)

/-- Whether a report breaks off: its transport does, if it is called. -/
def breaksOff (isReporting : Bool) : Report → Bool
  | .to _ (.ok _) (.does _ ending) => !isReporting && ending = .brokeOff
  | .to _ (.error _) _ => false

/-- The reports of a group that are made: none after one that breaks off. -/
def made (isReporting : Bool) : List Report → List Report
  | [] => []
  | report :: rest => report :: if report.breaksOff isReporting then [] else made isReporting rest

/-- All calls of a group. -/
def groupCalls (isReporting : Bool) (group : List Report) : List Call :=
  (made isReporting group).flatMap (calls isReporting)

/-- A transport is called in no nested report, so nothing keeps the next one from being made. -/
theorem groupCalls_true (reports : List Report) :
    groupCalls true reports = reports.filterMap (call? true) := by
  induction reports with
  | nil => rfl
  | cons report rest ih =>
    have hgoesOn : report.breaksOff true = false := by
      obtain ⟨_, _ | _, _, _⟩ := report <;> rfl
    rw [groupCalls, made, hgoesOn, List.filterMap_eq_flatMap_toList, List.flatMap_cons,
      List.flatMap_cons, ← List.filterMap_eq_flatMap_toList, ← ih]
    simp [calls, groupCalls]

/-! ## What calls leave behind -/

/-- **Effects that account for some calls.**  Every call is seen once, in order.  Transports are called
once for each call that was made while the thread was not reporting, and for nothing else; notes are
written once for each other call, and for nothing else. -/
structure Accounts (calls : List Call) (effects : List ClientEffect) : Prop where
  asked : effects.filterMap ClientEffect.asked? = calls.map Call.given
  handed : effects.filterMap ClientEffect.handed? =
    (calls.filter fun c => !c.isWithin).map Call.given
  noted : effects.filterMap ClientEffect.dropNote? = (calls.filter Call.isWithin).map Call.note

theorem Accounts.nil : Accounts [] [] := ⟨rfl, rfl, rfl⟩

theorem Accounts.append {calls more : List Call} {s t : List ClientEffect}
    (hs : Accounts calls s) (ht : Accounts more t) :
    Accounts (calls ++ more) (s ++ t) where
  asked := by rw [List.filterMap_append, List.map_append, hs.asked, ht.asked]
  handed := by rw [List.filterMap_append, List.filter_append, List.map_append, hs.handed, ht.handed]
  noted := by rw [List.filterMap_append, List.filter_append, List.map_append, hs.noted, ht.noted]

/-- No other record is a note of a dropped event. -/
theorem accounts_logged {client : Nat} {record : LogRecord}
    (h : record.level = .debug → record.message.toList.head? ≠ some 'd') :
    Accounts [] [.logged client record] where
  asked := rfl
  handed := rfl
  noted := by
    have hother : ClientEffect.dropNote? (.logged client record) = none := by
      refine if_neg fun ⟨hlevel, words, hmessage⟩ => h hlevel ?_
      rw [← hmessage]
      rfl
    rw [List.filterMap_cons_none hother]
    rfl

theorem accounts_unbuilt (client : Nat) (error : BuilderError) :
    Accounts [] [.logged client (Client.unbuiltRecord error)] :=
  accounts_logged nofun

theorem accounts_endingEffects (client : Nat) (event : Event) (ending : Ending) :
    Accounts [] (Client.endingEffects client event ending) := by
  cases ending with
  | brokeOff => exact .nil
  | returned outcome =>
    rw [Client.endingEffects]
    cases hrecord : Client.outcomeRecord? event outcome with
    | none => exact .nil
    | some record =>
      refine accounts_logged fun hlevel => ?_
      unfold Client.outcomeRecord? at hrecord
      split at hrecord <;> cases hrecord <;> simp at hlevel ⊢

theorem accounts_dropped (client : Nat) (event : Event) :
    Accounts [⟨client, event, true⟩]
      [.asked client event, .logged client (Client.droppedRecord event), .left client event] where
  asked := rfl
  handed := rfl
  noted := by
    have hnote : ClientEffect.dropNote? (.logged client (Client.droppedRecord event)) =
        some (client, Client.droppedRecord event) :=
      if_pos ⟨rfl, event.id.simple.toList ++ " raised while reporting".toList, by
        simp [Client.droppedRecord]⟩
    rw [List.filterMap_cons_none rfl, List.filterMap_cons_some hnote, List.filterMap_cons_none rfl]
    rfl

theorem run_isBrokenOff (isReporting : Bool) (report : Report) :
    (report.run isReporting).isBrokenOff = report.breaksOff isReporting := by
  obtain ⟨client, _ | event, nested, ending⟩ := report
  · cases isReporting <;> simp [run, breaksOff]
  · cases isReporting with
    | true => simp [run, breaksOff]
    | false => simp [run, breaksOff, Conduct.run, (runAll_true nested).2.2]

/-- A group accounts for its calls if its reports do. -/
theorem accounts_runAll {isReporting : Bool} {reports : List Report}
    (h : ∀ report ∈ reports,
      Accounts (report.calls isReporting) (report.run isReporting).effects) :
    Accounts (groupCalls isReporting reports) (runAll isReporting reports).effects := by
  induction reports with
  | nil => simpa [groupCalls, made, runAll] using Accounts.nil
  | cons report rest ih =>
    obtain ⟨hfirst, hrest⟩ := List.forall_mem_cons.1 h
    rw [groupCalls, made, List.flatMap_cons, runAll, run_isBrokenOff,
      (lawful_run isReporting report).2]
    split
    · simpa using hfirst
    · exact hfirst.append (ih hrest)

theorem accounts_run_true (report : Report) :
    Accounts (report.calls true) (report.run true).effects := by
  obtain ⟨client, error | event, nested, ending⟩ := report
  · simpa [run, calls, call?] using accounts_unbuilt client error
  · simpa [run, calls, call?] using accounts_dropped client event

theorem accounts_run (isReporting : Bool) (report : Report) :
    Accounts (report.calls isReporting) (report.run isReporting).effects := by
  cases isReporting with
  | true => exact accounts_run_true report
  | false =>
    obtain ⟨client, error | event, reports, ending⟩ := report
    · simpa [run, calls, call?, nested] using accounts_unbuilt client error
    · have hcall : Accounts [⟨client, event, false⟩]
          [.asked client event, .handed client event true] := ⟨rfl, rfl, rfl⟩
      have hwithin : Accounts (reports.filterMap (call? true)) (runAll true reports).effects :=
        groupCalls_true reports ▸ accounts_runAll fun report _ => accounts_run_true report
      have hleft : Accounts [] [.left client event] := ⟨rfl, rfl, rfl⟩
      simpa [run, calls, call?, nested, Conduct.run_does] using
        hcall.append (hwithin.append ((accounts_endingEffects client event ending).append hleft))

/-- All calls of all groups are accounted for. -/
theorem accounts_session (isReporting : Bool) (groups : List (List Report)) :
    Accounts (groups.flatMap (groupCalls isReporting)) (session isReporting groups).effects := by
  induction groups with
  | nil => exact .nil
  | cons group rest ih =>
    rw [List.flatMap_cons, session, (lawful_runAll isReporting group).2]
    exact (accounts_runAll fun report _ => accounts_run isReporting report).append ih

/-- **What is reported while a report is under way is dropped with a note.**  Every event that is given
to a client on a thread is accounted for: with one call of its own client's transport if the thread is
not reporting, and with one note and nothing else if it is, from the start or because of another event
that is under way.  After each outermost report, and at the end, the thread has the mark that it had,
also if something broke off. -/
theorem reported_once_and_not_within (isReporting : Bool) (groups : List (List Report)) :
    Accounts (groups.flatMap (groupCalls isReporting)) (session isReporting groups).effects
      ∧ (∀ before client event after,
        (session isReporting groups).effects = before ++ .asked client event :: after →
        IsAnswered isReporting before client event after)
      ∧ (session isReporting groups).isReporting = isReporting
      ∧ (∀ report : Report, (report.run isReporting).isReporting = isReporting) :=
  ⟨accounts_session isReporting groups,
    fun _ _ _ _ hsplit => (lawful_session isReporting groups).1.of_asked hsplit,
    (lawful_session isReporting groups).2, fun report => (lawful_run isReporting report).2⟩

/-- An event with one digit all over its identifier. -/
def eventNumbered (n : Nat) : Event where
  id := ⟨List.replicate 32 ⟨n % 16, Nat.mod_lt n (by decide)⟩, rfl⟩
  timestamp := ⟨0, 0⟩
  message := none
  level := none
  logger := none
  platform := "rust"
  culprit := none
  serverName := "host"
  tags := ∅
  extra := ∅
  checksum := none
  payloads := ∅

/-- A transport has another client report an event and breaks off, so that the next event of its group
is not reported.  A later group goes on with an event that another transport refuses. -/
def brokenOffSample : List (List Report) :=
  [[.to 0 (.ok (eventNumbered 1))
      (.does [.to 1 (.ok (eventNumbered 2)) (.does [] .brokeOff)] .brokeOff),
    .to 0 (.ok (eventNumbered 3)) (.does [] (.returned .done))],
   [.to 1 (.ok (eventNumbered 4)) (.does [] (.returned (.failed .closed)))]]

theorem reported_once_after_breaking_off :
    (session false brokenOffSample).effects.filterMap ClientEffect.asked? =
        [(0, eventNumbered 1), (1, eventNumbered 2), (1, eventNumbered 4)] ∧
      (session false brokenOffSample).effects.filterMap ClientEffect.handed? =
        [(0, eventNumbered 1), (1, eventNumbered 4)] ∧
      (session false brokenOffSample).effects.filterMap ClientEffect.dropNote? =
        [(1, ⟨.debug, "dropping event 22222222222222222222222222222222 raised while reporting"⟩)] ∧
      (session false brokenOffSample).isReporting = false := by
  obtain ⟨⟨hasked, hhanded, hnoted⟩, -, hmark, -⟩ :=
    reported_once_and_not_within false brokenOffSample
  exact ⟨hasked.trans rfl, hhanded.trans rfl, hnoted.trans (by decide +kernel), hmark⟩

end Report
end ErrorReport
