import ErrorReport.Pool
import Mathlib.Data.List.Basic

/-!
# What one step of a pool can do

`Pool.step?` runs one action of one participant.  `Pool.Step` says what can come of it: one
constructor for each possible outcome, with what must hold before and the pool after it.
`step_of_step?` shows that nothing else happens, so a property of all runs needs one look at each
constructor and none at the code of `step?`.

`run?_induction` is the way from steps to runs: what holds of a pool together with all that was seen
of it, and survives every step, survives every run.
-/

set_option autoImplicit false

namespace ErrorReport
namespace Pool

variable {α : Type}

/-! ## Refusals

A refusal touches the drop counter and its own call, and shows at most a warning. -/

@[simp] theorem refuse_config (p : Pool α) (call now : Nat) (event : α) (reason : Refusal) :
    (p.refuse call now event reason).1.config = p.config := rfl

@[simp] theorem refuse_hasHandle (p : Pool α) (call now : Nat) (event : α) (reason : Refusal) :
    (p.refuse call now event reason).1.hasHandle = p.hasHandle := rfl

@[simp] theorem refuse_isClosed (p : Pool α) (call now : Nat) (event : α) (reason : Refusal) :
    (p.refuse call now event reason).1.isClosed = p.isClosed := rfl

@[simp] theorem refuse_isAbandoned (p : Pool α) (call now : Nat) (event : α) (reason : Refusal) :
    (p.refuse call now event reason).1.isAbandoned = p.isAbandoned := rfl

@[simp] theorem refuse_queue (p : Pool α) (call now : Nat) (event : α) (reason : Refusal) :
    (p.refuse call now event reason).1.queue = p.queue := rfl

@[simp] theorem refuse_workers (p : Pool α) (call now : Nat) (event : α) (reason : Refusal) :
    (p.refuse call now event reason).1.workers = p.workers := rfl

@[simp] theorem refuse_reports (p : Pool α) (call now : Nat) (event : α) (reason : Refusal) :
    (p.refuse call now event reason).1.reports = p.reports := rfl

@[simp] theorem refuse_closes (p : Pool α) (call now : Nat) (event : α) (reason : Refusal) :
    (p.refuse call now event reason).1.closes = p.closes := rfl

@[simp] theorem refuse_sends (p : Pool α) (call now : Nat) (event : α) (reason : Refusal) :
    (p.refuse call now event reason).1.sends = p.sends.set call (.refused event reason.error) := rfl

/-! ## Outcomes of a step -/

/-- `Step p action q seen`: the action is possible in `p`, leads to `q`, and others see `seen`. -/
inductive Step (p : Pool α) : PoolAction α → Pool α → List (PoolEffect α) → Prop
  | beginSend (event : α) :
  Step p (.beginSend event) { p with sends := p.sends ++ [.entered event] } []
  | takeHandle {call now : Nat} {event : α} (hcall : p.sends[call]? = some (.entered event))
      (hopen : p.hasHandle = true) :
      Step p (.takeHandle call now) (p.setSend call (.holding event)) []
  | refuseClosed {call now : Nat} {event : α} (hcall : p.sends[call]? = some (.entered event))
      (hclosed : p.hasHandle = false) :
      Step p (.takeHandle call now) (p.refuse call now event .closed).1
        (p.refuse call now event .closed).2
  | accept {call now : Nat} {event : α} (hcall : p.sends[call]? = some (.holding event))
      (hroom : p.queue.length < p.config.room) :
      Step p (.enqueue call now)
        ({ p with queue := p.queue ++ [event] }.setSend call (.accepted event)) [.accepted event]
  | refuseGone {call now : Nat} {event : α} (hcall : p.sends[call]? = some (.holding event))
      (hgone : p.workersGone = true) :
      Step p (.enqueue call now) (p.refuse call now event .workersGone).1
        (p.refuse call now event .workersGone).2
  | refuseFull {call now : Nat} {event : α} (hcall : p.sends[call]? = some (.holding event))
      (hfull : p.config.room ≤ p.queue.length) :
      Step p (.enqueue call now) (p.refuse call now event .full).1 (p.refuse call now event .full).2
  | receive {worker : Nat} {event : α} {rest : List α}
      (hworker : p.workers[worker]? = some .waiting)
      (hqueue : p.queue = event :: rest) :
      Step p (.receive worker) ({ p with queue := rest }.setWorker worker (.holding event)) []
  | leave {worker : Nat} (hworker : p.workers[worker]? = some .waiting) (hqueue : p.queue = [])
      (hsender : p.hasSender = false) :
      Step p (.receive worker) (p.setWorker worker .leaving) []
  | discard {worker : Nat} {event : α} (hworker : p.workers[worker]? = some (.holding event))
      (habandoned : p.isAbandoned = true) :
      Step p (.dispatch worker) (p.setWorker worker .waiting) [.discarded event]
  | clear {worker : Nat} {event : α} (hworker : p.workers[worker]? = some (.holding event))
      (hkept : p.isAbandoned = false) :
      Step p (.dispatch worker) (p.setWorker worker (.cleared event)) []
  | hand {worker : Nat} {event : α} (hworker : p.workers[worker]? = some (.cleared event)) :
      Step p (.hand worker) (p.setWorker worker (.sending event)) [.handed event]
  | deliver {worker : Nat} {event : α} (outcome : Outcome)
      (hworker : p.workers[worker]? = some (.sending event)) :
      Step p (.deliver worker outcome) (p.setWorker worker .waiting) [.delivered event outcome]
  | crash {worker : Nat} {event : α} (hworker : p.workers[worker]? = some (.sending event)) :
      Step p (.crash worker) (p.setWorker worker .crashed) []
  | report {worker : Nat} (hworker : p.workers[worker]? = some .leaving) :
      Step p (.report worker) ({ p with reports := p.reports + 1 }.setWorker worker .finished) []
  | beginClose : Step p .beginClose { p with closes := p.closes ++ [.entered] } []
  | claimLate {call : Nat} (hcall : p.closes[call]? = some .entered) (hclosed : p.isClosed = true) :
      Step p (.claim call) (p.setClose call (.returned .done)) []
  | claim {call : Nat} (hcall : p.closes[call]? = some .entered) (hopen : p.isClosed = false) :
      Step p (.claim call) ({ p with isClosed := true }.setClose call .won) []
  | dropHandle {call : Nat} (hcall : p.closes[call]? = some .won) :
      Step p (.dropHandle call)
        ({ p with hasHandle := false }.setClose call (.awaiting p.config.threads)) []
  | takeReport {call workers reports : Nat}
      (hcall : p.closes[call]? = some (.awaiting (workers + 1)))
      (hreports : p.reports = reports + 1) :
      Step p (.takeReport call) ({ p with reports := reports }.setClose call (.awaiting workers)) []
  | allReported {call : Nat} (hcall : p.closes[call]? = some (.awaiting 0)) :
      Step p (.giveUp call) (p.setClose call .flushing) []
  | giveUp {call workers : Nat} (hcall : p.closes[call]? = some (.awaiting (workers + 1)))
      (hreports : p.reports = 0) :
      Step p (.giveUp call) (p.setClose call (.gaveUp (workers + 1))) []
  | abandon {call workers : Nat} (hcall : p.closes[call]? = some (.gaveUp workers)) :
      Step p (.abandon call) ({ p with isAbandoned := true }.setClose call .flushing)
        [.warnedOfBusy workers]
  | flush {call now : Nat} (hcall : p.closes[call]? = some .flushing) :
      Step p (.flush call now)
        ({ p with drops := (p.drops.flush now).2 }.setClose call
          (if p.config.propagateClose then .propagating else .returned .done))
        ((p.drops.flush now).1.toList.map .warnedAtEnd)
  | propagate {call : Nat} (hcall : p.closes[call]? = some .propagating) :
      Step p (.propagate call) (p.setClose call .closingWrapped) [.closedWrapped]
  | finish {call : Nat} (outcome : Outcome) (hcall : p.closes[call]? = some .closingWrapped) :
      Step p (.finish call outcome) (p.setClose call (.returned outcome)) []

/-- **Every step is one of the listed ones.** -/
theorem step_of_step? {p q : Pool α} {action : PoolAction α} {seen : List (PoolEffect α)}
    (h : p.step? action = some (q, seen)) : Step p action q seen := by
  cases action with
  | beginSend event => cases h; exact .beginSend event
  | takeHandle call now =>
    simp only [step?, takeHandle?] at h
    split at h
    · rename_i event hcall
      split at h <;> cases h
      · exact .takeHandle hcall ‹_›
      · exact .refuseClosed hcall (by simpa using ‹¬p.hasHandle = true›)
    · cases h
  | enqueue call now =>
    simp only [step?, enqueue?] at h
    split at h
    · rename_i event hcall
      split at h
      · cases h; exact .refuseGone hcall ‹_›
      · split at h <;> cases h
        · exact .refuseFull hcall ‹_›
        · exact .accept hcall (Nat.lt_of_not_le ‹_›)
    · cases h
  | receive worker =>
    simp only [step?, receive?] at h
    split at h
    · cases h; exact .receive ‹_› ‹_›
    · split at h <;> cases h
      exact .leave ‹_› ‹_› (by simpa using ‹¬p.hasSender = true›)
    · cases h
  | dispatch worker =>
    simp only [step?, dispatch?] at h
    split at h
    · split at h <;> cases h
      · exact .discard ‹_› ‹_›
      · exact .clear ‹_› (by simpa using ‹¬p.isAbandoned = true›)
    · cases h
  | hand worker =>
    simp only [step?, hand?] at h
    split at h <;> cases h
    exact .hand ‹_›
  | deliver worker outcome =>
    simp only [step?, deliver?] at h
    split at h <;> cases h
    exact .deliver outcome ‹_›
  | crash worker =>
    simp only [step?, crash?] at h
    split at h <;> cases h
    exact .crash ‹_›
  | report worker =>
    simp only [step?, report?] at h
    split at h <;> cases h
    exact .report ‹_›
  | beginClose => cases h; exact .beginClose
  | claim call =>
    simp only [step?, claim?] at h
    split at h
    · split at h <;> cases h
      · exact .claimLate ‹_› ‹_›
      · exact .claim ‹_› (by simpa using ‹¬p.isClosed = true›)
    · cases h
  | dropHandle call =>
    simp only [step?, dropHandle?] at h
    split at h <;> cases h
    exact .dropHandle ‹_›
  | takeReport call =>
    simp only [step?, takeReport?] at h
    split at h <;> cases h
    exact .takeReport ‹_› ‹_›
  | giveUp call =>
    simp only [step?, giveUp?] at h
    split at h <;> cases h
    · exact .allReported ‹_›
    · exact .giveUp ‹_› ‹_›
  | abandon call =>
    simp only [step?, abandon?] at h
    split at h <;> cases h
    exact .abandon ‹_›
  | flush call now =>
    simp only [step?, flush?] at h
    split at h <;> cases h
    exact .flush ‹_›
  | propagate call =>
    simp only [step?, propagate?] at h
    split at h <;> cases h
    exact .propagate ‹_›
  | finish call outcome =>
    simp only [step?, finish?] at h
    split at h <;> cases h
    exact .finish outcome ‹_›

/-! ## Runs -/

/-- **From steps to runs.**  A property of a pool and of all that was seen of it so far holds after
a run if it held before and every step keeps it. -/
theorem run?_induction {motive : Pool α → List (PoolEffect α) → Prop}
    (hstep : ∀ {p q : Pool α} {past seen : List (PoolEffect α)} {action : PoolAction α},
      motive p past → Step p action q seen → motive q (past ++ seen)) :
    ∀ {actions : List (PoolAction α)} {p q : Pool α} {past seen : List (PoolEffect α)},
      motive p past → p.run? actions = some (q, seen) → motive q (past ++ seen)
  | [], p, q, past, seen, hp, h => by
    cases h
    simpa using hp
  | action :: rest, p, q, past, seen, hp, h => by
    simp only [run?, Option.bind_eq_some_iff, Option.map_eq_some_iff, Prod.exists,
      Prod.mk.injEq] at h
    obtain ⟨next, first, hfirst, last, later, hrest, rfl, rfl⟩ := h
    have hnext := hstep hp (step_of_step? hfirst)
    simpa [List.append_assoc] using run?_induction hstep hnext hrest

/-- The same for the runs of a new pool, of which nothing was seen. -/
theorem run?_induction_new {motive : Pool α → List (PoolEffect α) → Prop}
    (hstep : ∀ {p q : Pool α} {past seen : List (PoolEffect α)} {action : PoolAction α},
      motive p past → Step p action q seen → motive q (past ++ seen))
    {config : PoolConfig} (hnew : motive (new config) []) {actions : List (PoolAction α)}
      {p : Pool α}
    {seen : List (PoolEffect α)} (h : (new config).run? actions = some (p, seen)) :
      motive p seen := by
  simpa using run?_induction hstep hnew h

end Pool
end ErrorReport
