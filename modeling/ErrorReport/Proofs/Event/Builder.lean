import ErrorReport.Event.Builder
import ErrorReport.Proofs.Dictionary

/-!
# What a builder makes of its steps

Steps come in any order and builds among them.  `BuilderStep.sets` lists what each step sets, as a
draft with nothing else in it, and `EventBuilder.last?` finds the last of some steps that sets a
field.

* `Draft.apply_over`: a step puts what it sets over the draft and leaves everything else.
* `EventBuilder.run_field`: after some steps, a field holds what the last step to set it put there.
* `EventBuilder.answers_eq`: the first build gives the event of the steps before it, whatever comes
  after, and every later build is refused.
-/

set_option autoImplicit false

namespace ErrorReport

theorem Grouping.signature?_eq_none_iff {chain : Option Chain} {callSite : Option Frame} :
    Grouping.signature? chain callSite = none ↔
      (∀ c ∈ chain, c.exceptions.length ≤ 1) ∧ callSite = none := by
  have hfilter : chain.filter (·.hasCause) = none ↔ ∀ c ∈ chain, c.exceptions.length ≤ 1 := by
    simp [Option.filter_eq_none_iff, Chain.hasCause]
  rw [← hfilter]
  unfold signature?
  split <;> simp_all

/-! ## Steps -/

namespace BuilderStep

/-- Whether a step builds the event. -/
def isBuild : BuilderStep → Bool
  | build => true
  | _ => false

theorem isBuild_iff {step : BuilderStep} : step.isBuild = true ↔ step = build := by
  cases step <;> simp [isBuild]

/-- What a step sets.  The members of an extra value are sorted. -/
def sets : BuilderStep → Draft
  | setMessage text => { message := some text }
  | setTimestamp time => { timestamp := some time }
  | setLevel level => { level := some level }
  | setLogger name => { logger := some name }
  | setPlatform name => { platform := some name }
  | setCulprit text => { culprit := some text }
  | setCulpritFrame frame => { culprit := some frame.location }
  | setServerName name => { serverName := some name }
  | addTag key value => { tags := Dictionary.empty.insert key value }
  | addExtra key value => { extra := Dictionary.empty.insert key value.sorted }
  | attach payload => { payloads := Dictionary.empty.insert payload.name payload }
  | setChecksum text => { checksum := some text }
  | generateChecksum signature hasher => { checksum := some (hasher.checksum signature) }
  | generateGroupingChecksum chain callSite =>
    { checksum := (Grouping.signature? chain callSite).map Grouping.checksum }
  | build => {}

end BuilderStep

/-! ## Drafts -/

namespace Draft

/-- A draft has what is set in a new one, and otherwise what an old one has. -/
structure Over (new old d : Draft) : Prop where
  id : d.id = new.id.or old.id
  timestamp : d.timestamp = new.timestamp.or old.timestamp
  message : d.message = new.message.or old.message
  level : d.level = new.level.or old.level
  logger : d.logger = new.logger.or old.logger
  platform : d.platform = new.platform.or old.platform
  culprit : d.culprit = new.culprit.or old.culprit
  serverName : d.serverName = new.serverName.or old.serverName
  tags (key : String) : d.tags.get? key = (new.tags.get? key).or (old.tags.get? key)
  extra (key : String) : d.extra.get? key = (new.extra.get? key).or (old.extra.get? key)
  checksum : d.checksum = new.checksum.or old.checksum
  payloads (name : String) :
    d.payloads.get? name = (new.payloads.get? name).or (old.payloads.get? name)

/-- A step puts what it sets over the draft. -/
theorem apply_over (d : Draft) {step : BuilderStep} (h : step.isBuild = false) :
    Over step.sets d (d.apply step) := by
  cases step with
  | build => exact absurd h (by decide)
  | addTag key value =>
    constructor
    case tags => exact fun other => Dictionary.get?_insert_or d.tags key other value
    all_goals intros; rfl
  | addExtra key value =>
    constructor
    case extra => exact fun other => Dictionary.get?_insert_or d.extra key other value.sorted
    all_goals intros; rfl
  | attach payload =>
    constructor
    case payloads =>
      exact fun other => Dictionary.get?_insert_or d.payloads payload.name other payload
    all_goals intros; rfl
  | generateGroupingChecksum chain callSite =>
    rw [apply, BuilderStep.sets]
    cases Grouping.signature? chain callSite <;> constructor <;> intros <;> rfl
  | _ => constructor <;> intros <;> rfl

end Draft

/-! ## Builders -/

namespace EventBuilder

variable {b : EventBuilder}

/-- What the last of some steps to set a field puts there. -/
def last? {α : Type} (field : Draft → Option α) (steps : List BuilderStep) : Option α :=
  steps.reverse.findSome? fun step => field step.sets

/-- **After some steps, a field holds what the last step to set it put there**, or what it held
before if no step sets it. -/
theorem run_field {α : Type} (field : Draft → Option α)
    (hfield : ∀ {new old d : Draft}, Draft.Over new old d → field d = (field new).or (field old))
    {steps : List BuilderStep} (h : ∀ step ∈ steps, step.isBuild = false) (d : Draft) :
    field (steps.foldl Draft.apply d) = (last? field steps).or (field d) := by
  induction steps generalizing d with
  | nil => rfl
  | cons step steps ih =>
    obtain ⟨hstep, hsteps⟩ := List.forall_mem_cons.1 h
    rw [List.foldl_cons, ih hsteps, hfield (d.apply_over hstep), last?, last?, List.reverse_cons,
      List.findSome?_append, List.findSome?_singleton, Option.or_assoc]

theorem apply_of_not_build {step : BuilderStep} (h : step.isBuild = false) :
    b.apply step = { b with draft := b.draft.apply step } := by
  cases step with
  | build => exact absurd h (by decide)
  | _ => rfl

theorem run_of_not_build {steps : List BuilderStep} (h : ∀ step ∈ steps, step.isBuild = false) :
    b.run steps = { b with draft := steps.foldl Draft.apply b.draft } := by
  induction steps generalizing b with
  | nil => rfl
  | cons step steps ih =>
    obtain ⟨hstep, hsteps⟩ := List.forall_mem_cons.1 h
    rw [run, List.foldl_cons, apply_of_not_build hstep]
    exact ih hsteps

/-- A call of a builder: a step and the surroundings it is taken in. -/
abbrev Call := BuilderStep × Surroundings

/-- What the builds among some calls answer. -/
def answers (b : EventBuilder) : List Call → List (Except BuilderError Event)
  | [] => []
  | (step, s) :: calls =>
    if step.isBuild then (b.build s).1 :: (b.build s).2.answers calls
    else (b.apply step).answers calls

theorem answers_build (b : EventBuilder) (s : Surroundings) (calls : List Call) :
    b.answers ((.build, s) :: calls) = (b.build s).1 :: (b.build s).2.answers calls := rfl

theorem answers_cons {step : BuilderStep} (h : step.isBuild = false) (b : EventBuilder)
    (s : Surroundings) (calls : List Call) :
    b.answers ((step, s) :: calls) = (b.apply step).answers calls := by
  rw [answers, if_neg (by simp [h])]

/-- A build leaves the builder that its step leaves, in whatever surroundings. -/
theorem build_snd (b : EventBuilder) (s : Surroundings) : (b.build s).2 = b.apply .build := by
  rw [build, apply]
  split <;> rfl

/-- Calls answer on their own, and leave the builder that their steps lead to. -/
theorem answers_append (b : EventBuilder) (calls more : List Call) :
    b.answers (calls ++ more) = b.answers calls ++ (b.run (calls.map (·.1))).answers more := by
  induction calls generalizing b with
  | nil => rfl
  | cons call calls ih =>
    obtain ⟨step, s⟩ := call
    rw [List.cons_append, List.map_cons, run, List.foldl_cons, ← run]
    cases step with
    | build => rw [answers_build, answers_build, ih, build_snd, List.cons_append]
    | _ => rw [answers_cons rfl, answers_cons rfl, ih]

theorem answers_of_not_build {calls : List Call}
    (h : ∀ step ∈ calls.map (·.1), step.isBuild = false) : b.answers calls = [] := by
  induction calls generalizing b with
  | nil => rfl
  | cons call calls ih =>
    obtain ⟨hcall, hcalls⟩ := List.forall_mem_cons.1 h
    rw [answers_cons hcall, ih hcalls]

/-- A builder that has built refuses every build. -/
theorem answers_of_isBuilt (h : b.isBuilt = true) (calls : List Call) :
    b.answers calls =
      List.replicate ((calls.map (·.1)).countP BuilderStep.isBuild) (.error .alreadyBuilt) := by
  induction calls generalizing b with
  | nil => rfl
  | cons call calls ih =>
    obtain ⟨step, s⟩ := call
    rw [List.map_cons]
    by_cases hstep : step.isBuild = true
    · obtain rfl := BuilderStep.isBuild_iff.1 hstep
      rw [answers_build, build, if_pos h, ih h, List.countP_cons_of_pos hstep, List.replicate_succ]
    · rw [List.countP_cons_of_neg hstep]
      rw [Bool.not_eq_true] at hstep
      have hbuilt : (b.apply step).isBuilt = true := by rw [apply_of_not_build hstep]; exact h
      rw [answers_cons hstep, ih hbuilt]

/-! ## Where builders come from -/

/-- A way to get a builder. -/
inductive Creation where
  | fresh
  | ofId (id : Uuid)
  | ofText (text : String)

namespace Creation

/-- The builder that is got. -/
def builder? : Creation → Except BuilderError EventBuilder
  | fresh => .ok new
  | ofId id => withId? id
  | ofText text => withIdText? text

/-- The identifier that is asked for. -/
def id? : Creation → Option Uuid
  | fresh => none
  | ofId id => some id
  | ofText text => Uuid.read? (Text.trim text).toList

theorem eq_of_withId? {id : Uuid} (h : withId? id = .ok b) :
    b = { draft := { id := some id } } := by
  rw [withId?] at h
  split at h
  · exact absurd h (by simp)
  · exact (Except.ok.inj h).symm

/-- A builder that is got has the identifier that was asked for and nothing else. -/
theorem eq_of_builder? {how : Creation} (h : how.builder? = .ok b) :
    b = { draft := { id := how.id? } } := by
  cases how with
  | fresh => exact (Except.ok.inj h).symm
  | ofId id => exact eq_of_withId? h
  | ofText text =>
    rw [builder?, withIdText?] at h
    split at h
    · exact absurd h (by simp)
    · split at h
      · rename_i id hid
        rw [id?, hid]
        exact eq_of_withId? h
      · exact absurd h (by simp)

end Creation

/-! ## The event -/

/-- An event has the identifier that was asked for, and in each field what the last of some steps to
set it put there; what no step set comes from the surroundings or from other fields, or is
absent. -/
structure IsOf (e : Event) (id? : Option Uuid) (steps : List BuilderStep) (s : Surroundings) :
    Prop where
  id : e.id = id?.getD s.freshId
  timestamp : e.timestamp = (last? (·.timestamp) steps).getD s.now
  message : e.message = last? (·.message) steps
  level : e.level = last? (·.level) steps
  logger : e.logger = last? (·.logger) steps
  platform : e.platform = (last? (·.platform) steps).getD "rust"
  culprit : e.culprit = (last? (·.culprit) steps).or (last? (·.logger) steps)
  serverName : e.serverName = (last? (·.serverName) steps).getD s.hostName
  tags (key : String) : e.tags.get? key = last? (·.tags.get? key) steps
  extra (key : String) : e.extra.get? key = last? (·.extra.get? key) steps
  checksum : e.checksum = last? (·.checksum) steps
  payloads (name : String) : e.payloads.get? name = last? (·.payloads.get? name) steps

theorem last?_id (steps : List BuilderStep) : last? (·.id) steps = none := by
  refine List.findSome?_eq_none_iff.2 fun step _ => ?_
  cases step <;> rfl

/-- The event of a draft that had but an identifier before some steps. -/
theorem isOf_finish (id? : Option Uuid) {steps : List BuilderStep}
    (h : ∀ step ∈ steps, step.isBuild = false) (s : Surroundings) :
    IsOf ((steps.foldl Draft.apply { id := id? }).finish s) id? steps s := by
  have hfield : ∀ {α : Type} (field : Draft → Option α),
      (∀ {new old d : Draft}, Draft.Over new old d → field d = (field new).or (field old)) →
      field { id := id? } = none →
      field (steps.foldl Draft.apply { id := id? }) = last? field steps := by
    intro α field hover hnone
    rw [run_field field hover h, hnone, Option.or_none]
  have hid : (steps.foldl Draft.apply { id := id? }).id = id? := by
    rw [run_field (·.id) Draft.Over.id h, last?_id, Option.none_or]
  have hlogger := hfield (·.logger) Draft.Over.logger rfl
  have hculprit := hfield (·.culprit) Draft.Over.culprit rfl
  exact {
    id := congrArg (·.getD s.freshId) hid
    timestamp := congrArg (·.getD s.now) (hfield (·.timestamp) Draft.Over.timestamp rfl)
    message := hfield (·.message) Draft.Over.message rfl
    level := hfield (·.level) Draft.Over.level rfl
    logger := hlogger
    platform := congrArg (·.getD "rust") (hfield (·.platform) Draft.Over.platform rfl)
    culprit := by rw [← hculprit, ← hlogger]; rfl
    serverName := congrArg (·.getD s.hostName) (hfield (·.serverName) Draft.Over.serverName rfl)
    tags := fun key => hfield (·.tags.get? key) (fun hover => hover.tags key) rfl
    extra := fun key => hfield (·.extra.get? key) (fun hover => hover.extra key) rfl
    checksum := hfield (·.checksum) Draft.Over.checksum rfl
    payloads := fun name => hfield (·.payloads.get? name) (fun hover => hover.payloads name) rfl }

/-- A step that finds no signature changes nothing. -/
theorem apply_generateGroupingChecksum {chain : Option Chain} {callSite : Option Frame}
    (h : Grouping.signature? chain callSite = none) :
    b.apply (.generateGroupingChecksum chain callSite) = b := by
  rw [apply_of_not_build rfl, Draft.apply, h]

/-- **The first build gives the event of the steps before it, and every later build is refused.**
Nothing is built before the first build, and nothing that comes after it matters to its event.  A
grouping checksum without a chain that has a cause and without a call site makes no difference. -/
theorem answers_eq {how : Creation} (hhow : how.builder? = .ok b) {before : List Call}
    (hbefore : ∀ step ∈ before.map (·.1), step.isBuild = false) (s : Surroundings) :
    b.answers before = [] ∧
      (∃ e, IsOf e how.id? (before.map (·.1)) s ∧ ∀ after,
        b.answers (before ++ (.build, s) :: after) =
          .ok e :: List.replicate ((after.map (·.1)).countP BuilderStep.isBuild)
            (.error .alreadyBuilt)) ∧
      ∀ calls more chain s', (∀ c ∈ chain, c.exceptions.length ≤ 1) →
        b.answers (calls ++ (.generateGroupingChecksum chain none, s') :: more) =
          b.answers (calls ++ more) := by
  obtain rfl := Creation.eq_of_builder? hhow
  refine ⟨answers_of_not_build hbefore, ⟨_, isOf_finish how.id? hbefore s, fun after => ?_⟩, ?_⟩
  · rw [answers_append, answers_of_not_build hbefore, List.nil_append, run_of_not_build hbefore,
      answers_build, build, if_neg (by simp), answers_of_isBuilt rfl]
  · intro calls more chain s' hchain
    have hsignature := Grouping.signature?_eq_none_iff.2 ⟨hchain, rfl⟩
    rw [answers_append, answers_append, answers_cons rfl,
      apply_generateGroupingChecksum hsignature]

/-- Where the sample below is taken: midnight of the first day, on a host called `web-1`. -/
def sampleSurroundings : Surroundings :=
  ⟨⟨0, 0⟩, ⟨Fin.last 15 :: List.replicate 31 (Fin.last 15).rev, rfl⟩, "web-1"⟩

/-- Steps that set a culprit, a logger twice, a tag twice and a checksum twice, the last of which
finds no signature. -/
def sampleCalls : List Call :=
  [.setLogger "app", .addTag "k" "old", .setCulpritFrame ⟨"app", "run", some "run.rs", some 7⟩,
    .setChecksum "C0FFEE", .addTag "k" "new", .generateGroupingChecksum none none,
    .setLogger "db"].map (·, sampleSurroundings)

/-- A builder with an identifier between blanks, and two builds. -/
theorem answers_eq_sample :
    ∃ b e, (Creation.ofText " 00000000-0000-4000-8000-00000000000A ").builder? = .ok b ∧
      (∀ step ∈ sampleCalls.map (·.1), step.isBuild = false) ∧
      b.answers (sampleCalls ++ [(.build, sampleSurroundings),
        (.setMessage "late", sampleSurroundings), (.build, sampleSurroundings)]) =
          [.ok e, .error .alreadyBuilt] ∧
      e.id.simple = "0000000000004000800000000000000a" ∧ e.message = none ∧
      e.logger = some "db" ∧ e.culprit = some "app.run(run.rs:7)" ∧ e.platform = "rust" ∧
      e.serverName = "web-1" ∧ e.checksum = some "C0FFEE" ∧ e.tags.get? "k" = some "new" ∧
      e.tags.get? "other" = none := by
  obtain ⟨b, hb⟩ :
      ∃ b, (Creation.ofText " 00000000-0000-4000-8000-00000000000A ").builder? = .ok b := by
    have hok : (Creation.ofText " 00000000-0000-4000-8000-00000000000A ").builder?.isOk = true := by
      decide
    cases hhow : (Creation.ofText " 00000000-0000-4000-8000-00000000000A ").builder? with
    | ok b => exact ⟨b, rfl⟩
    | error reason =>
      rw [hhow] at hok
      exact absurd hok Bool.false_ne_true
  have hid : (Creation.ofText " 00000000-0000-4000-8000-00000000000A ").id?.map Uuid.simple =
      some "0000000000004000800000000000000a" := by decide
  have hbefore : ∀ step ∈ sampleCalls.map (·.1), step.isBuild = false := by decide
  obtain ⟨-, ⟨e, he, hanswers⟩, -⟩ := answers_eq hb hbefore sampleSurroundings
  obtain ⟨id, hread, hsimple⟩ := Option.map_eq_some_iff.1 hid
  have heid : e.id = id := by rw [he.id, hread, Option.getD_some]
  exact ⟨b, e, hb, hbefore, hanswers _, heid ▸ hsimple, he.message.trans (by decide),
    he.logger.trans (by decide), he.culprit.trans (by decide), he.platform.trans (by decide),
    he.serverName.trans (by decide), he.checksum.trans (by decide), (he.tags "k").trans (by decide),
    (he.tags "other").trans (by decide)⟩

end EventBuilder

end ErrorReport
