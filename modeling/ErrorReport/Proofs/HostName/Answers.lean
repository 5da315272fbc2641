import ErrorReport.Proofs.HostName.Step
import ErrorReport.Proofs.Lists

/-!
# What callers are told

The name in the cache is the last one that a resolution found (`name_run`): expiring does not take
it away, and neither does a resolution that finds nothing.  So a caller is told that name, and that
the name is unknown only if none was found yet (`Step.answer_eq`).

* `exists_answer_alone` — a caller comes to its answer by its own steps, as time passes.
* `Served` — once a name is there, callers that come later are told a name, and none of them waits.
* `answers_are_latest` — the statement about all runs.
-/

set_option autoImplicit false

namespace ErrorReport

/-- The name that a resolution found. -/
def HostNameAction.found? : HostNameAction → Option String
  | complete found => found
  | tick _ | call | look _ | timeOut _ | take | breakDown => none

/-- Whether nothing but the caller's own steps and the clock are at work. -/
def HostNameAction.isOf (caller : Nat) : HostNameAction → Bool
  | tick _ => true
  | look other | timeOut other => other = caller
  | call | take | complete _ | breakDown => false

/-- Whether a caller had to wait and has no answer yet. -/
def HostNameCaller.isWaiting : HostNameCaller → Bool
  | asleep _ | woken _ => true
  | entered _ | answered _ => false

@[simp] theorem HostNameCaller.isWaiting_wake (c : HostNameCaller) :
    c.wake.isWaiting = c.isWaiting := by
  cases c <;> rfl

namespace HostNameSystem

/-- The names that resolutions found, the last one last. -/
def foundNames (past : List HostNameAction) : List String := past.filterMap HostNameAction.found?

theorem foundNames_append (past later : List HostNameAction) :
    foundNames (past ++ later) = foundNames past ++ foundNames later :=
  List.filterMap_append

/-! ## The name in the cache -/

/-- Only a resolution that finds a name changes the one in the cache. -/
theorem Step.name_eq {s t : HostNameSystem} {action : HostNameAction} (h : Step s action t) :
    t.cache.name = action.found?.or s.cache.name := by
  cases h with
  | look => exact request_name s
  | @complete found => cases found <;> rfl
  | _ => rfl

/-- **The cache holds the last name found.** -/
theorem name_run {isStarted : Bool} {lifetime timeout : Nat} {past : List HostNameAction}
    {s : HostNameSystem} (h : (new isStarted lifetime timeout).run? past = some s) :
    s.cache.name = (foundNames past).getLast? := by
  refine run?_induction_new (motive := fun t before => t.cache.name = (foundNames before).getLast?)
    (fun {t u before action} ht hstep => ?_) rfl h
  rw [hstep.name_eq, ht, foundNames_append, List.getLast?_append]
  cases hfound : action.found? <;> simp [foundNames, hfound]

theorem answer_run {isStarted : Bool} {lifetime timeout : Nat} {past : List HostNameAction}
    {s : HostNameSystem} (h : (new isStarted lifetime timeout).run? past = some s) :
    s.cache.answer = (foundNames past).getLast?.getD HostNameCache.unknown := by
  rw [HostNameCache.answer, name_run h]

/-! ## The answer of a caller -/

/-- **A caller that gets its answer in a step is told what the cache holds before the step.** -/
theorem Step.answer_eq {s t : HostNameSystem} {action : HostNameAction} (h : Step s action t)
    {caller : Nat} {name : String} (hnew : t.callers[caller]? = some (.answered name))
    (hold : s.callers[caller]? ≠ some (.answered name)) : name = s.cache.answer := by
  cases h with
  | call =>
    rw [List.getElem?_append] at hnew
    split at hnew
    · exact absurd hnew hold
    · cases List.mem_singleton.1 (List.mem_of_getElem? hnew)
  | look =>
    rw [settle, request_callers] at hnew
    have hnext := eq_of_getElem?_set hnew hold
    split at hnext <;> cases hnext
    rw [HostNameCache.answer, request_name]
    rfl
  | lookAgain =>
    have hnext := eq_of_getElem?_set hnew hold
    split at hnext <;> cases hnext
    rfl
  | timeOut =>
    cases eq_of_getElem?_set hnew hold
    rfl
  | complete =>
    rw [List.getElem?_map, Option.map_eq_some_iff] at hnew
    obtain ⟨c, hc, hwake⟩ := hnew
    cases c <;> cases hwake
    exact absurd hc hold
  | tick | take | breakDown => exact absurd hnew hold

/-! ## Every caller comes to its answer -/

theorem getElem?_settle {s : HostNameSystem} {caller : Nat} {c : HostNameCaller}
    (hcaller : s.callers[caller]? = some c) (deadline : Nat) :
    (s.settle caller deadline).callers[caller]?
      = some (if s.cache.mustWait then .asleep deadline else .answered s.cache.answer) :=
  getElem?_set_new hcaller _

/-- A caller that sleeps has its answer when its time is up. -/
theorem exists_answer_of_asleep {s : HostNameSystem} {caller deadline : Nat}
    (hcaller : s.callers[caller]? = some (.asleep deadline)) :
    ∃ alone t name, (∀ action ∈ alone, action.isOf caller = true) ∧ s.run? alone = some t
      ∧ t.callers[caller]? = some (.answered name) := by
  have htick : s.step? (.tick (max s.clock deadline))
      = some { s with clock := max s.clock deadline } := by
    rw [step?, if_pos (Nat.le_max_left _ _)]
  have htimeOut : ({ s with clock := max s.clock deadline } : HostNameSystem).step?
      (.timeOut caller) = some { s with
          clock := max s.clock deadline
          callers := s.callers.set caller (.answered s.cache.answer) } := by
    rw [step?, timeOut?, hcaller]
    exact if_pos (Nat.le_max_right _ _)
  refine ⟨[.tick (max s.clock deadline), .timeOut caller], _, s.cache.answer, ?_,
    run?_cons htick (run?_cons htimeOut rfl), ?_⟩
  · simp [HostNameAction.isOf]
  · exact getElem?_set_new hcaller _

/-- A caller that gets the lock has its answer at once, or sleeps. -/
theorem exists_answer_of_look {s : HostNameSystem} (t : HostNameSystem) {caller deadline : Nat}
    {c : HostNameCaller} (hlook : s.step? (.look caller) = some (t.settle caller deadline))
    (hcaller : t.callers[caller]? = some c) :
    ∃ alone u name, (∀ action ∈ alone, action.isOf caller = true) ∧ s.run? alone = some u
      ∧ u.callers[caller]? = some (.answered name) := by
  have hsettled := getElem?_settle hcaller deadline
  split at hsettled
  · obtain ⟨alone, u, name, hown, hrun, hanswered⟩ := exists_answer_of_asleep hsettled
    refine ⟨.look caller :: alone, u, name, ?_, run?_cons hlook hrun, hanswered⟩
    simpa [HostNameAction.isOf] using hown
  · exact ⟨[.look caller], _, _, by simp [HostNameAction.isOf], run?_cons hlook rfl, hsettled⟩

/-- **Every caller comes to its answer by its own steps**, as time passes and whatever the others
did. -/
theorem exists_answer_alone {s : HostNameSystem} {caller : Nat} {c : HostNameCaller}
    (hcaller : s.callers[caller]? = some c) :
    ∃ alone t name, (∀ action ∈ alone, action.isOf caller = true) ∧ s.run? alone = some t
      ∧ t.callers[caller]? = some (.answered name) := by
  cases c with
  | entered deadline =>
    have hlook : s.step? (.look caller) = some (s.request.settle caller deadline) := by
      rw [step?, look?, hcaller]
    exact exists_answer_of_look s.request hlook ((request_callers s).symm ▸ hcaller)
  | woken deadline =>
    have hlook : s.step? (.look caller) = some (s.settle caller deadline) := by
      rw [step?, look?, hcaller]
    exact exists_answer_of_look s hlook hcaller
  | asleep deadline => exact exists_answer_of_asleep hcaller
  | answered name => exact ⟨[], s, name, List.forall_mem_nil _, rfl, hcaller⟩

/-! ## Callers that come after a name was found -/

/-- A name is there, and no caller from `start` on waits. -/
structure Served (start : Nat) (s : HostNameSystem) : Prop where
  known : s.cache.name.isSome = true
  prompt : ∀ {caller : Nat} {c : HostNameCaller}, start ≤ caller → s.callers[caller]? = some c →
    c.isWaiting = false

theorem served_self {s : HostNameSystem} (h : s.cache.name.isSome = true) :
    Served s.callers.length s where
  known := h
  prompt := fun hlate hcaller => by
    rw [List.getElem?_eq_none hlate] at hcaller
    cases hcaller

theorem Served.mustWait_eq {start : Nat} {s : HostNameSystem} (hs : Served start s) :
    s.cache.mustWait = false := by
  obtain ⟨name, hname⟩ := Option.isSome_iff_exists.1 hs.known
  simp [HostNameCache.mustWait, hname]

/-- A step after which one caller has its answer. -/
theorem Served.of_set {start : Nat} {s t : HostNameSystem} (hs : Served start s) {caller : Nat}
    {new : HostNameCaller} (hknown : t.cache.name.isSome = true)
    (hcallers : t.callers = s.callers.set caller new) (hnew : new.isWaiting = false) :
    Served start t where
  known := hknown
  prompt := fun {other c} hlate hother => by
    rw [hcallers, List.getElem?_set] at hother
    split at hother
    · split at hother <;> cases hother
      exact hnew
    · exact hs.prompt hlate hother

theorem Served.request {start : Nat} {s : HostNameSystem} (hs : Served start s) :
    Served start s.request where
  known := (request_name s).symm ▸ hs.known
  prompt := fun hlate hcaller => hs.prompt hlate (request_callers s ▸ hcaller)

theorem Served.settle {start : Nat} {s : HostNameSystem} (hs : Served start s)
    (caller deadline : Nat) : Served start (s.settle caller deadline) :=
  hs.of_set hs.known rfl (by rw [if_neg (by simp [hs.mustWait_eq])]; rfl)

/-- **Once a name is there, callers that come later are served.** -/
theorem Served.step {start : Nat} {s t : HostNameSystem} {action : HostNameAction}
    (hs : Served start s) (h : Step s action t) : Served start t := by
  cases h with
  | call =>
    refine ⟨hs.known, fun {caller c} hlate hcaller => ?_⟩
    rw [List.getElem?_append] at hcaller
    split at hcaller
    · exact hs.prompt hlate hcaller
    · cases List.mem_singleton.1 (List.mem_of_getElem? hcaller)
      rfl
  | look => exact hs.request.settle _ _
  | lookAgain => exact hs.settle _ _
  | timeOut => exact hs.of_set hs.known rfl rfl
  | @complete found =>
    refine ⟨?_, fun {caller c} hlate hcaller => ?_⟩
    · cases found with
      | none => exact hs.known
      | some name => rfl
    · rw [List.getElem?_map, Option.map_eq_some_iff] at hcaller
      obtain ⟨old, hold, rfl⟩ := hcaller
      rw [HostNameCaller.isWaiting_wake]
      exact hs.prompt hlate hold
  | tick | take | breakDown => exact ⟨hs.known, hs.prompt⟩

theorem served_run {start : Nat} {s t : HostNameSystem} {later : List HostNameAction}
    (hs : Served start s) (h : s.run? later = some t) : Served start t :=
  run?_induction (motive := fun u _ => Served start u) (fun hu hstep => hu.step hstep) [] hs h

/-- A caller that comes when a name is there has its answer as soon as it gets the lock. -/
theorem Served.look {start : Nat} {s : HostNameSystem} (hs : Served start s) {caller deadline : Nat}
    (hcaller : s.callers[caller]? = some (.entered deadline)) :
    ∃ t name, s.step? (.look caller) = some t ∧ t.callers[caller]? = some (.answered name) := by
  have hsettled := getElem?_settle ((request_callers s).symm ▸ hcaller) deadline
  rw [if_neg (by simp [hs.request.mustWait_eq])] at hsettled
  exact ⟨_, _, by rw [step?, look?, hcaller], hsettled⟩

/-- **A caller is told the last name found.**  However calls, resolutions, expiries and the patience
of callers mix, after any run:

* a caller that gets its answer in the next step is told the last name that was found before, and
  that the name is unknown only if none was;
* every caller can come to its answer by its own steps, as time passes;
* if a name was found, then in any later run no caller that comes later waits, one that has not got
  the lock yet has its answer as soon as it gets it, and that is the last name found. -/
theorem answers_are_latest {isStarted : Bool} {lifetime timeout : Nat} {past : List HostNameAction}
    {s : HostNameSystem} (h : (new isStarted lifetime timeout).run? past = some s) :
    (∀ {action : HostNameAction} {t : HostNameSystem} {caller : Nat} {name : String},
        s.step? action = some t → t.callers[caller]? = some (.answered name) →
        s.callers[caller]? ≠ some (.answered name) →
        name = (foundNames past).getLast?.getD HostNameCache.unknown)
      ∧ (∀ {caller : Nat} {c : HostNameCaller}, s.callers[caller]? = some c →
          ∃ alone t name, (∀ action ∈ alone, action.isOf caller = true) ∧ s.run? alone = some t
            ∧ t.callers[caller]? = some (.answered name))
      ∧ (foundNames past ≠ [] → ∀ {later : List HostNameAction} {t : HostNameSystem},
          s.run? later = some t → ∀ {caller : Nat}, s.callers.length ≤ caller →
          (∀ {c : HostNameCaller}, t.callers[caller]? = some c → c.isWaiting = false)
            ∧ (∀ {deadline : Nat}, t.callers[caller]? = some (.entered deadline) → ∃ u name,
                t.step? (.look caller) = some u ∧ u.callers[caller]? = some (.answered name))
            ∧ ∀ {action : HostNameAction} {u : HostNameSystem} {name : String},
                t.step? action = some u → u.callers[caller]? = some (.answered name) →
                t.callers[caller]? ≠ some (.answered name) →
                (foundNames (past ++ later)).getLast? = some name) := by
  have told {before : List HostNameAction} {t : HostNameSystem}
      (hrun : (new isStarted lifetime timeout).run? before = some t) {action : HostNameAction}
      {u : HostNameSystem} {caller : Nat} {name : String} (hstep : t.step? action = some u)
      (hnew : u.callers[caller]? = some (.answered name))
      (hold : t.callers[caller]? ≠ some (.answered name)) :
      name = (foundNames before).getLast?.getD HostNameCache.unknown :=
    ((step_of_step? hstep).answer_eq hnew hold).trans (answer_run hrun)
  refine ⟨told h, exists_answer_alone, fun hfound later t hlater caller hlate => ?_⟩
  have hlast (rest : List HostNameAction) : (foundNames (past ++ rest)).getLast?.isSome = true := by
    rw [foundNames_append]
    exact List.getLast?_isSome.2 (List.append_ne_nil_of_left_ne_nil hfound _)
  have hserved : Served s.callers.length t := by
    refine served_run (served_self ?_) hlater
    rw [name_run h, ← List.append_nil past]
    exact hlast []
  refine ⟨hserved.prompt hlate, fun hcaller => ?_, fun {action u name} hstep hnew hold => ?_⟩
  · exact hserved.look hcaller
  · obtain ⟨latest, hlatest⟩ := Option.isSome_iff_exists.1 (hlast later)
    rw [told (run?_append h hlater) hstep hnew hold, hlatest]
    rfl

/-- The first caller loses patience before the name is found. -/
def lateNameActions : List HostNameAction :=
  [.call, .look 0, .take, .tick 5, .timeOut 0, .complete (some "web-1")]

/-- The name is there, and fresh for three more milliseconds. -/
def lateName : HostNameSystem where
  cache := { name := some "web-1", expiry := some 8 }
  callers := [.answered "unavailable"]
  clock := 5
  lifetime := 3
  timeout := 5

/-- The name expires, a refresh that the second caller asks for finds nothing, and a third caller
comes. -/
def staleActions : List HostNameAction :=
  [.tick 9, .call, .look 1, .take, .complete none, .call]

/-- The third caller has not got the lock yet. -/
def stale : HostNameSystem :=
  { lateName with clock := 9, callers := [.answered "unavailable", .answered "web-1", .entered 14] }

theorem answers_are_latest_stale :
    (new true 3 5).run? lateNameActions = some lateName ∧ foundNames lateNameActions ≠ []
      ∧ lateName.run? staleActions = some stale ∧ lateName.callers.length ≤ 2
      ∧ (∃ u name, stale.step? (.look 2) = some u ∧ u.callers[2]? = some (.answered name))
      ∧ (foundNames (lateNameActions ++ staleActions)).getLast? = some "web-1" := by
  have hrun : (new true 3 5).run? lateNameActions = some lateName := rfl
  have hlater : lateName.run? staleActions = some stale := rfl
  have hfound : foundNames lateNameActions ≠ [] := by decide
  obtain ⟨-, -, hserved⟩ := answers_are_latest hrun
  obtain ⟨-, hlook, hlatest⟩ := hserved hfound hlater (Nat.le_succ 1)
  exact ⟨hrun, hfound, hlater, Nat.le_succ 1, hlook rfl,
    hlatest (rfl : stale.step? (.look 2) = some _) rfl nofun⟩

end HostNameSystem
end ErrorReport
