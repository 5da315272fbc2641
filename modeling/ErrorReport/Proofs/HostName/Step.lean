import ErrorReport.HostName.Callers
import Mathlib.Data.List.Basic

/-!
# What one step of callers and resolver can do

`HostNameSystem.Step` has one constructor for each thing that can come of an action, with what must
hold before it.  `step_of_step?` shows that nothing else happens, so what is kept by every step
needs one look at each constructor and none at the code of `step?`.

`run?_induction` is the way from steps to runs: what holds of a system together with all that was
done so far, and survives every step, survives every run.
-/

set_option autoImplicit false

namespace ErrorReport

/-! ## The cache -/

namespace HostNameCache

@[simp] theorem ask_name (c : HostNameCache) (now : Nat) : (c.ask now).name = c.name := by
  rw [ask]
  split <;> rfl

theorem isResolving_of_asks {c : HostNameCache} {now : Nat} (h : c.asks now = true) :
    c.isResolving = false := by
  simp only [asks, Bool.and_eq_true, Bool.not_eq_true'] at h
  exact h.1

theorem mustWait_iff (c : HostNameCache) :
    c.mustWait = true ↔ c.name = none ∧ c.isResolving = true := by
  simp [mustWait]

end HostNameCache

namespace HostNameSystem

/-! ## A request

Sending a request touches the flag and the channel, and nothing else. -/

theorem request_of_not_sends {s : HostNameSystem} (h : s.sends = false) : s.request = s := by
  rw [request, h]
  rfl

@[simp] theorem request_name (s : HostNameSystem) : s.request.cache.name = s.cache.name := by
  rw [request]
  split
  · exact s.cache.ask_name s.clock
  · rfl

@[simp] theorem request_resolver (s : HostNameSystem) : s.request.resolver = s.resolver := by
  rw [request]
  split <;> rfl

@[simp] theorem request_callers (s : HostNameSystem) : s.request.callers = s.callers := by
  rw [request]
  split <;> rfl

@[simp] theorem request_clock (s : HostNameSystem) : s.request.clock = s.clock := by
  rw [request]
  split <;> rfl

theorem isResolving_of_sends {s : HostNameSystem} (h : s.sends = true) :
    s.cache.isResolving = false := by
  simp only [sends, Bool.and_eq_true] at h
  exact HostNameCache.isResolving_of_asks h.2

theorem request_isResolving {s : HostNameSystem} (h : s.sends = true) :
    s.request.cache.isResolving = true := by
  simp only [sends, Bool.and_eq_true] at h
  simp [request, sends, h, HostNameCache.ask]

/-! ## Outcomes of a step -/

/-- `Step s action t`: the action is possible in `s` and leads to `t`. -/
inductive Step (s : HostNameSystem) : HostNameAction → HostNameSystem → Prop
  | tick {time : Nat} (hlater : s.clock ≤ time) : Step s (.tick time) { s with clock := time }
  | call : Step s .call { s with callers := s.callers ++ [.entered (s.clock + s.timeout)] }
  | look {caller deadline : Nat} (hcaller : s.callers[caller]? = some (.entered deadline)) :
      Step s (.look caller) (s.request.settle caller deadline)
  | lookAgain {caller deadline : Nat} (hcaller : s.callers[caller]? = some (.woken deadline)) :
      Step s (.look caller) (s.settle caller deadline)
  | timeOut {caller deadline : Nat} (hcaller : s.callers[caller]? = some (.asleep deadline))
      (hdeadline : deadline ≤ s.clock) :
      Step s (.timeOut caller)
        { s with callers := s.callers.set caller (.answered s.cache.answer) }
  | take {requests : Nat} (hresolver : s.resolver = .idle) (hrequests : s.requests = requests + 1) :
      Step s .take { s with resolver := .working, requests := requests }
  | complete {found : Option String} (hresolver : s.resolver = .working) :
      Step s (.complete found)
        { s with
          resolver := .idle
          cache := s.cache.complete found s.clock s.lifetime
          callers := s.callers.map .wake }
  | breakDown (hresolver : s.resolver = .working) : Step s .breakDown { s with resolver := .gone }

/-- **Every step is one of the listed ones.** -/
theorem step_of_step? {s t : HostNameSystem} {action : HostNameAction}
    (h : s.step? action = some t) : Step s action t := by
  cases action with
  | tick time =>
    simp only [step?] at h
    split at h <;> cases h
    exact .tick ‹_›
  | call => cases h; exact .call
  | look caller =>
    simp only [step?, look?] at h
    split at h <;> cases h
    · exact .look ‹_›
    · exact .lookAgain ‹_›
  | timeOut caller =>
    simp only [step?, timeOut?] at h
    split at h
    · split at h <;> cases h
      exact .timeOut ‹_› ‹_›
    · cases h
  | take =>
    simp only [step?, take?] at h
    split at h <;> cases h
    exact .take ‹_› ‹_›
  | complete found =>
    simp only [step?, complete?] at h
    split at h <;> cases h
    exact .complete ‹_›
  | breakDown =>
    simp only [step?] at h
    split at h <;> cases h
    exact .breakDown ‹_›

/-! ## Runs -/

theorem run?_cons {s t u : HostNameSystem} {action : HostNameAction} {rest : List HostNameAction}
    (h : s.step? action = some t) (hrest : t.run? rest = some u) :
    s.run? (action :: rest) = some u := by
  rw [run?, List.foldlM_cons, h]
  exact hrest

theorem run?_append {s t u : HostNameSystem} {first rest : List HostNameAction}
    (h : s.run? first = some t) (hrest : t.run? rest = some u) :
    s.run? (first ++ rest) = some u := by
  rw [run?, List.foldlM_append]
  exact Option.bind_eq_some_iff.2 ⟨t, h, hrest⟩

/-- **From steps to runs.**  A property of a system and of all that was done so far holds after a
run if it held before and every step keeps it. -/
theorem run?_induction {motive : HostNameSystem → List HostNameAction → Prop}
    (hstep : ∀ {s t : HostNameSystem} {past : List HostNameAction} {action : HostNameAction},
      motive s past → Step s action t → motive t (past ++ [action])) :
    ∀ (past : List HostNameAction) {actions : List HostNameAction} {s t : HostNameSystem},
      motive s past → s.run? actions = some t → motive t (past ++ actions)
  | past, [], s, t, hs, h => by
    cases h
    simpa using hs
  | past, action :: rest, s, t, hs, h => by
    rw [run?, List.foldlM_cons] at h
    obtain ⟨next, hfirst, hrest⟩ := Option.bind_eq_some_iff.1 h
    have hnext := hstep hs (step_of_step? hfirst)
    simpa using run?_induction hstep (past ++ [action]) hnext hrest

/-- The same for the runs of a new system, to which nothing was done. -/
theorem run?_induction_new {motive : HostNameSystem → List HostNameAction → Prop}
    (hstep : ∀ {s t : HostNameSystem} {past : List HostNameAction} {action : HostNameAction},
      motive s past → Step s action t → motive t (past ++ [action]))
    {isStarted : Bool} {lifetime timeout : Nat} (hnew : motive (new isStarted lifetime timeout) [])
    {actions : List HostNameAction} {s : HostNameSystem}
    (h : (new isStarted lifetime timeout).run? actions = some s) : motive s actions := by
  simpa using run?_induction hstep [] hnew h

end HostNameSystem
end ErrorReport
