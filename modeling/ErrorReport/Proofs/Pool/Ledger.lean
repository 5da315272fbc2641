import ErrorReport.Proofs.Lists
import ErrorReport.Proofs.Pool.Step
import Mathlib.Data.List.Perm.Basic

/-!
# Where the events of a pool are

Every event that was given to a pool is in one `Place`: its call of sending is still under way, it
was refused, it waits in the queue, a worker holds it, it was handed to the wrapped transport, or it
was discarded.  `Pool.eventsAt` lists the events of each place, the first four read off the pool,
the last two off what was seen of it.

* `balanced_run` — no run loses or doubles an event, whatever takes part in it.
* `queue_le_run` — the queue stays within its bound.
* `inOrder_run` — a single worker takes the events in the order in which they were accepted.
-/

set_option autoImplicit false

namespace ErrorReport

/-! ## Reading events off calls, workers and effects -/

section Views

variable {α : Type}

/-- The event of a call of sending. -/
def SendCall.event : SendCall α → α
  | entered event | holding event | accepted event | refused event _ => event

/-- The event of a call that is still under way. -/
def SendCall.pending? : SendCall α → Option α
  | entered event | holding event => some event
  | accepted _ | refused _ _ => none

/-- The event of a call that was accepted. -/
def SendCall.accepted? : SendCall α → Option α
  | accepted event => some event
  | entered _ | holding _ | refused _ _ => none

/-- The event of a call that was refused. -/
def SendCall.refused? : SendCall α → Option α
  | refused event _ => some event
  | entered _ | holding _ | accepted _ => none

/-- The event that a worker took and has neither handed on nor thrown away. -/
def Worker.held? : Worker α → Option α
  | holding event | cleared event => some event
  | waiting | sending _ | leaving | finished | crashed => none

namespace PoolEffect

/-- The event that was accepted. -/
def accepted? : PoolEffect α → Option α
  | accepted event => some event
  | handed _ | delivered _ _ | discarded _ | warnedOfDrops _ _ | warnedOfBusy _ | warnedAtEnd _
  | closedWrapped => none

/-- The event that the wrapped transport was called with. -/
def handed? : PoolEffect α → Option α
  | handed event => some event
  | accepted _ | delivered _ _ | discarded _ | warnedOfDrops _ _ | warnedOfBusy _ | warnedAtEnd _
  | closedWrapped => none

/-- The event that was thrown away. -/
def discarded? : PoolEffect α → Option α
  | discarded event => some event
  | accepted _ | handed _ | delivered _ _ | warnedOfDrops _ _ | warnedOfBusy _ | warnedAtEnd _
  | closedWrapped => none

/-- The event that a worker was done with, one way or the other. -/
def settled? : PoolEffect α → Option α
  | handed event | discarded event => some event
  | accepted _ | delivered _ _ | warnedOfDrops _ _ | warnedOfBusy _ | warnedAtEnd _
  | closedWrapped => none

end PoolEffect

end Views

namespace Pool

variable {α : Type}

/-- Where an event that was given to a pool may be. -/
inductive Place where
  /-- Its call of sending has not returned. -/
  | calling
  /-- Its call of sending returned an error. -/
  | refused
  /-- It waits in the queue. -/
  | queued
  /-- A worker holds it. -/
  | held
  /-- The wrapped transport was called with it. -/
  | handed
  /-- It was thrown away after closing gave up. -/
  | discarded
  deriving DecidableEq

/-- All places. -/
def Place.all : List Place := [calling, refused, queued, held, handed, discarded]

/-- The events in a place, given all that was seen of the pool so far. -/
def eventsAt (p : Pool α) (seen : List (PoolEffect α)) : Place → List α
  | .calling => p.sends.filterMap SendCall.pending?
  | .refused => p.sends.filterMap SendCall.refused?
  | .queued => p.queue
  | .held => p.workers.filterMap Worker.held?
  | .handed => seen.filterMap PoolEffect.handed?
  | .discarded => seen.filterMap PoolEffect.discarded?

/-- The events whose calls of sending returned without an error. -/
def acceptedEvents (p : Pool α) : List α := p.sends.filterMap SendCall.accepted?

/-- All events that were given to the pool. -/
def givenEvents (p : Pool α) : List α := p.sends.map SendCall.event

/-! ## Nothing is lost, nothing doubled -/

/-- The books: what was accepted is in the queue, with a worker, handed on or discarded. -/
structure Balanced [DecidableEq α] (p : Pool α) (seen : List (PoolEffect α)) : Prop where
  /-- Each accepted event is in one place, as often as it was accepted. -/
  kept : ∀ a, p.acceptedEvents.count a = p.queue.count a + (p.eventsAt seen .held).count a
    + (p.eventsAt seen .handed).count a + (p.eventsAt seen .discarded).count a
  /-- The calls that were accepted are those that were seen to be. -/
  noted : ∀ a, (seen.filterMap PoolEffect.accepted?).count a = p.acceptedEvents.count a

/-- Warnings are not what is looked for. -/
theorem filterMap_map_eq_nil {f : PoolEffect α → Option α} {warning : Nat → PoolEffect α}
    (hf : ∀ count, f (warning count) = none) (counts : List Nat) :
    (counts.map warning).filterMap f = [] := by
  rw [List.filterMap_map, List.filterMap_eq_nil_iff]
  exact fun count _ => hf count

theorem filterMap_refuse (p : Pool α) (call now : Nat) (event : α) (reason : Refusal)
    (f : PoolEffect α → Option α) (hf : ∀ count, f (.warnedOfDrops reason count) = none) :
    (p.refuse call now event reason).2.filterMap f = [] :=
  filterMap_map_eq_nil hf _

/-- A step that moves no event and shows none leaves the books as they are. -/
theorem Balanced.unmoved [DecidableEq α] {p q : Pool α} {past seen : List (PoolEffect α)}
    (hp : Balanced p past) (hsends : ∀ a, q.acceptedEvents.count a = p.acceptedEvents.count a)
    (hqueue : q.queue = p.queue)
    (hworkers : ∀ a, (q.workers.filterMap Worker.held?).count a =
      (p.workers.filterMap Worker.held?).count a)
    (haccepted : seen.filterMap PoolEffect.accepted? = [])
    (hhanded : seen.filterMap PoolEffect.handed? = [])
    (hdiscarded : seen.filterMap PoolEffect.discarded? = []) : Balanced q (past ++ seen) := by
  constructor
  · intro a
    have := hp.kept a
    simp only [eventsAt] at this
    simp only [eventsAt, List.filterMap_append, hsends, hqueue, hworkers, hhanded, hdiscarded,
      List.append_nil]
    exact this
  · intro a
    rw [List.filterMap_append, haccepted, List.append_nil, hsends]
    exact hp.noted a

/-- A call that does not come to be accepted, and was not before. -/
theorem count_acceptedEvents_setSend [DecidableEq α] {p : Pool α} {call : Nat}
    {old new : SendCall α}
    (hcall : p.sends[call]? = some old) (hold : old.accepted? = none) (hnew : new.accepted? = none)
    (a : α) :
    ((p.sends.set call new).filterMap SendCall.accepted?).count a = p.acceptedEvents.count a := by
  have := count_filterMap_set SendCall.accepted? a hcall new
  rw [hold, hnew] at this
  simpa [acceptedEvents] using this

/-- A worker that holds what it held before. -/
theorem count_held_setWorker [DecidableEq α] {p : Pool α} {worker : Nat} {old new : Worker α}
    (hworker : p.workers[worker]? = some old) (hheld : new.held? = old.held?) (a : α) :
    ((p.workers.set worker new).filterMap Worker.held?).count a
      = (p.workers.filterMap Worker.held?).count a := by
  have := count_filterMap_set Worker.held? a hworker new
  rw [hheld] at this
  omega

theorem Balanced.refuse [DecidableEq α] {p : Pool α} {past : List (PoolEffect α)}
    (hp : Balanced p past) {call : Nat} {old : SendCall α} (hcall : p.sends[call]? = some old)
    (hold : old.accepted? = none) (now : Nat) (event : α) (reason : Refusal) :
    Balanced (p.refuse call now event reason).1 (past ++ (p.refuse call now event reason).2) :=
  hp.unmoved (count_acceptedEvents_setSend hcall hold rfl) rfl (fun _ => rfl)
    (filterMap_refuse p call now event reason _ fun _ => rfl)
    (filterMap_refuse p call now event reason _ fun _ => rfl)
    (filterMap_refuse p call now event reason _ fun _ => rfl)

/-- A worker is done with the event that it held: it handed it on, or threw it away. -/
theorem Balanced.settle [DecidableEq α] {p : Pool α} {past : List (PoolEffect α)}
    (hp : Balanced p past) {worker : Nat} {old new : Worker α} {event : α} {effect : PoolEffect α}
    (hworker : p.workers[worker]? = some old) (hold : old.held? = some event)
    (hnew : new.held? = none) (haccepted : effect.accepted? = none)
    (hsettled : effect.handed? = some event ∧ effect.discarded? = none ∨
      effect.handed? = none ∧ effect.discarded? = some event) :
    Balanced (p.setWorker worker new) (past ++ [effect]) := by
  constructor
  · intro a
    have hkept := hp.kept a
    have hheld := count_filterMap_set Worker.held? a hworker new
    rw [hold, hnew, Option.toList_some, Option.toList_none, List.count_nil] at hheld
    simp only [eventsAt] at hkept
    simp only [eventsAt, setWorker, List.filterMap_append, List.count_append, List.filterMap_cons,
      List.filterMap_nil]
    change p.acceptedEvents.count a = _
    rcases hsettled with ⟨hhanded, hdiscarded⟩ | ⟨hhanded, hdiscarded⟩ <;>
      simp only [hhanded, hdiscarded, List.count_nil] <;> omega
  · intro a
    rw [List.filterMap_append, List.filterMap_cons_none haccepted, List.filterMap_nil,
      List.append_nil]
    exact hp.noted a

/-- **Every step keeps the books balanced.** -/
theorem Balanced.step [DecidableEq α] {p q : Pool α} {past seen : List (PoolEffect α)}
    {action : PoolAction α} (hp : Balanced p past) (h : Step p action q seen) :
    Balanced q (past ++ seen) := by
  cases h with
  | beginSend event =>
    refine hp.unmoved (fun a => ?_) rfl (fun _ => rfl) rfl rfl rfl
    simp [acceptedEvents, List.filterMap_cons, SendCall.accepted?]
  | takeHandle hcall =>
    exact hp.unmoved (count_acceptedEvents_setSend hcall rfl rfl) rfl (fun _ => rfl) rfl rfl rfl
  | refuseClosed hcall | refuseGone hcall | refuseFull hcall => exact hp.refuse hcall rfl _ _ _
  | @accept call _ event hcall =>
    have hsends : ∀ a, ((p.sends.set call (.accepted event)).filterMap SendCall.accepted?).count a
        = p.acceptedEvents.count a + [event].count a := by
      intro a
      simpa [SendCall.accepted?, acceptedEvents] using count_filterMap_set SendCall.accepted? a
        hcall (.accepted event)
    constructor
    · intro a
      have := hp.kept a
      simp only [acceptedEvents, eventsAt] at this
      simp only [acceptedEvents, setSend, hsends, eventsAt, List.filterMap_append,
        List.count_append, List.filterMap_cons, List.filterMap_nil, PoolEffect.handed?,
        PoolEffect.discarded?, List.count_nil]
      omega
    · intro a
      have := hp.noted a
      simp only [acceptedEvents] at this
      simp only [acceptedEvents, setSend, hsends, List.filterMap_append, List.count_append,
        List.filterMap_cons, List.filterMap_nil, PoolEffect.accepted?]
      omega
  | @receive worker event rest hworker hqueue =>
    refine ⟨fun a => ?_, fun a => by simpa [acceptedEvents, setWorker] using hp.noted a⟩
    have := hp.kept a
    have hheld := count_filterMap_set Worker.held? a hworker (.holding event)
    simp only [eventsAt, hqueue, List.count_cons] at this
    simp only [Worker.held?, Option.toList_none, Option.toList_some, List.count_nil,
      List.count_singleton]
      at hheld
    simp only [eventsAt, setWorker, List.append_nil]
    change p.acceptedEvents.count a = _
    omega
  | leave hworker | clear hworker | deliver _ hworker | crash hworker | report hworker =>
    exact hp.unmoved (fun _ => rfl) rfl (count_held_setWorker hworker rfl) rfl rfl rfl
  | discard hworker => exact hp.settle hworker rfl rfl rfl (.inr ⟨rfl, rfl⟩)
  | hand hworker => exact hp.settle hworker rfl rfl rfl (.inl ⟨rfl, rfl⟩)
  | flush =>
    exact hp.unmoved (fun _ => rfl) rfl (fun _ => rfl) (filterMap_map_eq_nil (fun _ => rfl) _)
      (filterMap_map_eq_nil (fun _ => rfl) _) (filterMap_map_eq_nil (fun _ => rfl) _)
  | beginClose | claimLate | claim | dropHandle | takeReport | allReported | giveUp | abandon
    | propagate | finish =>
    exact hp.unmoved (fun _ => rfl) rfl (fun _ => rfl) rfl rfl rfl

theorem balanced_new [DecidableEq α] (config : PoolConfig) : Balanced (new (α := α) config) [] := by
  constructor <;> intro a <;>
    simp [new, acceptedEvents, eventsAt, List.filterMap_replicate, Worker.held?]

/-- **No run loses an event or doubles one.** -/
theorem balanced_run [DecidableEq α] {config : PoolConfig} {actions : List (PoolAction α)}
    {p : Pool α} {seen : List (PoolEffect α)} (h : (new config).run? actions = some (p, seen)) :
    Balanced p seen :=
  run?_induction_new (motive := Balanced) Balanced.step (balanced_new config) h

/-- A call is under way, was refused or was accepted. -/
theorem givenEvents_perm (p : Pool α) :
    p.givenEvents.Perm (p.sends.filterMap SendCall.pending? ++ p.sends.filterMap SendCall.refused?
      ++ p.acceptedEvents) := by
  rw [givenEvents, acceptedEvents]
  induction p.sends with
  | nil => rfl
  | cons call rest ih =>
    cases call with
    | entered event | holding event =>
      simpa [List.filterMap_cons, SendCall.event, SendCall.pending?, SendCall.refused?,
        SendCall.accepted?] using ih
    | accepted event =>
      simp only [List.map_cons, List.filterMap_cons, SendCall.event, SendCall.pending?,
        SendCall.refused?, SendCall.accepted?]
      exact (ih.cons event).trans List.perm_middle.symm
    | refused event error =>
      simp only [List.map_cons, List.filterMap_cons, SendCall.event, SendCall.pending?,
        SendCall.refused?, SendCall.accepted?, List.append_assoc]
      rw [List.append_assoc] at ih
      exact (ih.cons event).trans List.perm_middle.symm

theorem Balanced.acceptedEvents_perm [DecidableEq α] {p : Pool α} {seen : List (PoolEffect α)}
    (hp : Balanced p seen) :
    p.acceptedEvents.Perm
      (p.eventsAt seen .queued ++ p.eventsAt seen .held ++ p.eventsAt seen .handed
      ++ p.eventsAt seen .discarded) := by
  rw [List.perm_iff_count]
  intro a
  simp only [List.count_append]
  exact hp.kept a

/-- The places hold what was given to the pool and nothing else. -/
theorem Balanced.givenEvents_perm_places [DecidableEq α] {p : Pool α} {seen : List (PoolEffect α)}
    (hp : Balanced p seen) : p.givenEvents.Perm (Place.all.flatMap (p.eventsAt seen)) := by
  have h := p.givenEvents_perm.trans (hp.acceptedEvents_perm.append_left _)
  simpa [Place.all, eventsAt, List.append_assoc] using h

/-! ## The bound of the queue -/

theorem Step.config_eq {p q : Pool α} {action : PoolAction α} {seen : List (PoolEffect α)}
    (h : Step p action q seen) : q.config = p.config := by
  cases h <;> rfl

theorem config_run {config : PoolConfig} {actions : List (PoolAction α)} {p : Pool α}
    {seen : List (PoolEffect α)} (h : (new config).run? actions = some (p, seen)) :
    p.config = { config with threads := config.workerCount } :=
  run?_induction_new
    (motive := fun (q : Pool α) _ => q.config = { config with threads := config.workerCount })
    (fun hp hstep => hstep.config_eq.trans hp) rfl h

theorem Step.queue_le {p q : Pool α} {action : PoolAction α} {seen : List (PoolEffect α)}
    (h : Step p action q seen) (hp : p.queue.length ≤ p.config.room) :
    q.queue.length ≤ q.config.room := by
  rw [h.config_eq]
  cases h with
  | accept hcall hroom => simpa [setSend, Nat.succ_le_iff] using hroom
  | receive hworker hqueue =>
    rw [hqueue, List.length_cons] at hp
    exact Nat.le_of_succ_le hp
  | _ => exact hp

/-- **The queue stays within its bound.** -/
theorem queue_le_run {config : PoolConfig} {actions : List (PoolAction α)} {p : Pool α}
    {seen : List (PoolEffect α)} (h : (new config).run? actions = some (p, seen)) :
    p.queue.length ≤ config.room := by
  have hbound : p.queue.length ≤ p.config.room :=
    run?_induction_new (motive := fun (q : Pool α) _ => q.queue.length ≤ q.config.room)
      (fun hp hstep => hstep.queue_le hp) (Nat.zero_le _) h
  rw [config_run h] at hbound
  exact hbound

/-- **A call is refused for want of room only if there is none.** -/
theorem Step.full_of_queueFull {p q : Pool α} {action : PoolAction α} {seen : List (PoolEffect α)}
    (h : Step p action q seen) {call : Nat} {event : α}
    (hq : q.sends[call]? = some (.refused event .queueFull))
    (hp : p.sends[call]? ≠ some (.refused event .queueFull)) : p.config.room ≤ p.queue.length := by
  have other {place : Nat} {new : SendCall α} (hnew : new ≠ .refused event .queueFull) :
      (p.sends.set place new)[call]? ≠ some (.refused event .queueFull) := by
    rw [List.getElem?_set]
    split
    · split <;> simp [hnew]
    · exact hp
  cases h with
  | refuseFull hcall hfull => exact hfull
  | beginSend given =>
    refine absurd hq ?_
    rw [List.getElem?_append]
    split
    · exact hp
    · cases call - p.sends.length <;> simp
  | takeHandle => exact absurd hq (other (by simp))
  | refuseClosed => exact absurd hq (other (by simp [Refusal.error]))
  | refuseGone => exact absurd hq (other (by simp [Refusal.error]))
  | accept => exact absurd hq (other (by simp))
  | _ => exact absurd hq hp

/-! ## The order of a single worker -/

/-- The only worker is done with the first events that were accepted, holds the next one if it holds
any, and the others wait in order. -/
structure InOrder (p : Pool α) (seen : List (PoolEffect α)) : Prop where
  single : p.workers.length = 1
  order : seen.filterMap PoolEffect.accepted?
    = seen.filterMap PoolEffect.settled? ++ p.workers.filterMap Worker.held? ++ p.queue

theorem workers_eq_singleton {p : Pool α} (h : p.workers.length = 1) {worker : Nat} {w : Worker α}
    (hworker : p.workers[worker]? = some w) : worker = 0 ∧ p.workers = [w] := by
  obtain ⟨only, honly⟩ := List.length_eq_one_iff.1 h
  rw [honly] at hworker ⊢
  cases worker with
  | zero => simpa using hworker
  | succ n => simp at hworker

/-- A step that moves no event and shows none. -/
theorem InOrder.unmoved {p q : Pool α} {past seen : List (PoolEffect α)} (hp : InOrder p past)
    (hqueue : q.queue = p.queue) (hlength : q.workers.length = p.workers.length)
    (hworkers : q.workers.filterMap Worker.held? = p.workers.filterMap Worker.held?)
    (haccepted : seen.filterMap PoolEffect.accepted? = [])
    (hsettled : seen.filterMap PoolEffect.settled? = []) : InOrder q (past ++ seen) := by
  refine ⟨hlength.trans hp.single, ?_⟩
  rw [List.filterMap_append, List.filterMap_append, haccepted, hsettled, List.append_nil,
    List.append_nil, hqueue, hworkers]
  exact hp.order

theorem InOrder.refuse {p : Pool α} {past : List (PoolEffect α)} (hp : InOrder p past)
    (call now : Nat) (event : α) (reason : Refusal) :
    InOrder (p.refuse call now event reason).1 (past ++ (p.refuse call now event reason).2) :=
  hp.unmoved rfl rfl rfl (filterMap_refuse p call now event reason _ fun _ => rfl)
    (filterMap_refuse p call now event reason _ fun _ => rfl)

theorem InOrder.step {p q : Pool α} {past seen : List (PoolEffect α)} {action : PoolAction α}
    (hp : InOrder p past) (h : Step p action q seen) : InOrder q (past ++ seen) := by
  have horder := hp.order
  -- with one worker, the entry that a step replaces is the whole list
  have alone {worker : Nat} {old : Worker α} (hworker : p.workers[worker]? = some old) :
      p.workers = [old] ∧ ∀ new, p.workers.set worker new = [new] := by
    obtain ⟨rfl, hone⟩ := workers_eq_singleton hp.single hworker
    exact ⟨hone, fun new => by rw [hone]; rfl⟩
  have same {worker : Nat} {old new : Worker α} (hworker : p.workers[worker]? = some old)
      (hheld : new.held? = old.held?) :
      (p.workers.set worker new).filterMap Worker.held? = p.workers.filterMap Worker.held? := by
    rw [(alone hworker).2, (alone hworker).1]
    simp [List.filterMap_cons, hheld]
  cases h with
  | refuseClosed | refuseGone | refuseFull => exact hp.refuse _ _ _ _
  | @accept call _ event hcall =>
    refine ⟨hp.single, ?_⟩
    rw [List.filterMap_append, horder]
    simp [List.filterMap_cons, PoolEffect.accepted?, PoolEffect.settled?, setSend]
  | @receive worker event rest hworker hqueue =>
    obtain ⟨hone, hset⟩ := alone hworker
    refine ⟨(List.length_set ..).trans hp.single, ?_⟩
    show (past ++ []).filterMap PoolEffect.accepted? = (past ++ []).filterMap PoolEffect.settled?
      ++ (p.workers.set worker (.holding event)).filterMap Worker.held? ++ rest
    rw [List.append_nil, hset, horder, hone, hqueue]
    simp [List.filterMap_cons, Worker.held?]
  | discard hworker | hand hworker =>
    obtain ⟨hone, hset⟩ := alone hworker
    refine ⟨(List.length_set ..).trans hp.single, ?_⟩
    rw [setWorker, List.filterMap_append, List.filterMap_append, horder, hset, hone]
    simp [List.filterMap_cons, Worker.held?, PoolEffect.accepted?, PoolEffect.settled?]
  | leave hworker | clear hworker | deliver _ hworker | crash hworker | report hworker =>
    exact hp.unmoved rfl (List.length_set ..) (same hworker rfl) rfl rfl
  | flush =>
    exact hp.unmoved rfl rfl rfl (filterMap_map_eq_nil (fun _ => rfl) _)
      (filterMap_map_eq_nil (fun _ => rfl) _)
  | _ => exact hp.unmoved rfl rfl rfl rfl rfl

/-- **A single worker takes events in the order in which they were accepted.** -/
theorem inOrder_run {config : PoolConfig} (hone : config.workerCount = 1)
    {actions : List (PoolAction α)} {p : Pool α} {seen : List (PoolEffect α)}
    (h : (new config).run? actions = some (p, seen)) : InOrder p seen :=
  run?_induction_new (motive := InOrder) InOrder.step
    ⟨by simp [new, hone], by simp [new, List.filterMap_replicate, Worker.held?]⟩ h

theorem handed_sublist_settled (seen : List (PoolEffect α)) :
    (seen.filterMap PoolEffect.handed?).Sublist (seen.filterMap PoolEffect.settled?) := by
  induction seen with
  | nil => exact List.Sublist.refl _
  | cons effect rest ih =>
    cases effect with
    | handed event => simpa [List.filterMap_cons, PoolEffect.handed?, PoolEffect.settled?] using ih
    | discarded event =>
      simpa [List.filterMap_cons, PoolEffect.handed?, PoolEffect.settled?] using ih.cons event
    | _ => simpa [List.filterMap_cons, PoolEffect.handed?, PoolEffect.settled?] using ih

end Pool
end ErrorReport
