import ErrorReport.Proofs.Pool.Drain
import Mathlib.Data.List.Lattice
import Mathlib.Data.List.Nodup
import Mathlib.Data.List.Pairwise

/-!
# A pool loses no event and doubles none

The statement about all runs of a pool, whatever calls of sending and closing, workers and outcomes
of the wrapped transport take part and in whatever order their steps come.  The pieces are in
`ErrorReport.Proofs.Pool.Ledger` and `ErrorReport.Proofs.Pool.Drain`.
-/

set_option autoImplicit false

namespace ErrorReport
namespace Pool

variable {α : Type}

theorem Place.mem_all (place : Place) : place ∈ Place.all := by cases place <;> decide

/-- Events that differ from each other are in one place each, and there once. -/
theorem Balanced.existsUnique_place [DecidableEq α] {p : Pool α} {seen : List (PoolEffect α)}
    (hp : Balanced p seen) (hnodup : p.givenEvents.Nodup) :
    (∀ place, (p.eventsAt seen place).Nodup)
      ∧ ∀ event ∈ p.givenEvents, ∃! place, event ∈ p.eventsAt seen place := by
  have hperm := hp.givenEvents_perm_places
  have hplaces : (Place.all.flatMap (p.eventsAt seen)).Nodup := hperm.nodup_iff.1 hnodup
  rw [List.nodup_flatMap] at hplaces
  obtain ⟨heach, hdisjoint⟩ := hplaces
  refine ⟨fun place => heach place place.mem_all, fun event hevent => ?_⟩
  obtain ⟨place, -, hplace⟩ := List.mem_flatMap.1 (hperm.subset hevent)
  refine ⟨place, hplace, fun other hother => ?_⟩
  by_contra hne
  have : Std.Symm (Function.onFun List.Disjoint (p.eventsAt seen)) :=
    ⟨fun _ _ h => List.Disjoint.symm h⟩
  exact hdisjoint.forall other.mem_all place.mem_all hne hother hplace

/-- **No event is lost and none is doubled.**  After any run of a pool:

* the places hold what was given to the pool, each event as often as it was given, and what was
  accepted is in the queue, with a worker, handed on or discarded; so if no event was given twice,
  each one is in a single place, and there once;
* the queue is within its bound, and only at the bound is a call refused for want of room;
* if the first call of closing took a report of completion from every worker, what was accepted was
  handed to the wrapped transport, then and at any later time;
* a single worker hands events on in the order in which they were accepted. -/
theorem events_accounted {config : PoolConfig} {actions : List (PoolAction α)} {p : Pool α}
    {seen : List (PoolEffect α)} (h : (new config).run? actions = some (p, seen)) :
    p.givenEvents.Perm (Place.all.flatMap (p.eventsAt seen))
      ∧ p.acceptedEvents.Perm (p.eventsAt seen .queued ++ p.eventsAt seen .held
          ++ p.eventsAt seen .handed ++ p.eventsAt seen .discarded)
      ∧ (p.givenEvents.Nodup → (∀ place, (p.eventsAt seen place).Nodup)
          ∧ ∀ event ∈ p.givenEvents, ∃! place, event ∈ p.eventsAt seen place)
      ∧ p.queue.length ≤ max 1 config.queueCapacity
      ∧ (∀ {action : PoolAction α} {q : Pool α} {effects : List (PoolEffect α)} {call : Nat}
          {event : α},
          p.step? action = some (q, effects) → q.sends[call]? = some (.refused event .queueFull) →
          p.sends[call]? ≠ some (.refused event .queueFull) →
          p.queue.length = max 1 config.queueCapacity)
      ∧ (∀ {later : List (PoolAction α)} {last : Pool α} {effects : List (PoolEffect α)},
          .awaiting 0 ∈ p.closes → p.run? later = some (last, effects) →
          last.acceptedEvents.Perm (last.eventsAt (seen ++ effects) .handed))
      ∧ (max 1 config.threads = 1 →
          (p.eventsAt seen .handed).Sublist (seen.filterMap PoolEffect.accepted?)) := by
  classical
  have hbalanced := balanced_run h
  have hshutdown := shutdown_run h
  have hqueue := queue_le_run h
  refine ⟨hbalanced.givenEvents_perm_places, hbalanced.acceptedEvents_perm,
    hbalanced.existsUnique_place, hqueue, ?_, ?_, ?_⟩
  · intro action q effects call event hstep hq hp
    have hfull := (step_of_step? hstep).full_of_queueFull hq hp
    rw [config_run h] at hfull
    exact Nat.le_antisymm hqueue hfull
  · intro later last effects hreports hlater
    have hlast := run?_induction
      (motive := fun q past => Balanced q past ∧ Shutdown q past ∧ Drained q past)
      (fun hp hstep => ⟨hp.1.step hstep, hp.2.1.step hstep, hp.2.2.step hstep⟩)
      ⟨hbalanced, hshutdown, hshutdown.drained_of_awaiting hreports⟩ hlater
    exact hlast.2.2.acceptedEvents_perm hlast.1 hlast.2.1
  · intro hone
    rw [(inOrder_run hone h).order, List.append_assoc]
    exact (handed_sublist_settled seen).trans (List.sublist_append_left _ _)

/-- Two workers, room for one event, and four calls of sending.  The second takes its handle before
the first call of closing drops that of the pool, and puts its event into the queue after that; the
third finds the queue full and the fourth the pool closed. -/
def raceActions : List (PoolAction Nat) := [
  .beginSend 7, .takeHandle 0 0, .enqueue 0 0, .beginSend 8, .takeHandle 1 0, .beginSend 9,
  .takeHandle 2 0, .enqueue 2 0, .beginClose, .claim 0, .dropHandle 0, .beginSend 10,
  .takeHandle 3 0, .receive 1, .enqueue 1 0, .dispatch 1, .hand 1, .receive 0, .dispatch 0, .hand 0,
  .deliver 0 .done, .receive 0, .report 0, .takeReport 0, .deliver 1 .done, .receive 1, .report 1,
  .takeReport 0]

/-- The pool after these steps. -/
def raceEnd : Pool Nat where
  config := { threads := 2, queueCapacity := 1 }
  hasHandle := false
  isClosed := true
  workers := [.finished, .finished]
  sends := [.accepted 7, .accepted 8, .refused 9 .queueFull, .refused 10 .closed]
  closes := [.awaiting 0]
  drops := { interval := 5000, hasWarned := true, pending := 1, total := 2 }

/-- What was seen of it. -/
def raceSeen : List (PoolEffect Nat) := [
  .accepted 7, .warnedOfDrops .full 1, .accepted 8, .handed 7, .handed 8,
  .delivered 8 .done, .delivered 7 .done]

theorem events_accounted_race :
    (new { threads := 2, queueCapacity := 1 }).run? raceActions = some (raceEnd, raceSeen)
      ∧ .awaiting 0 ∈ raceEnd.closes ∧
      raceEnd.acceptedEvents.Perm (raceEnd.eventsAt raceSeen .handed) := by
  have hrun : (new { threads := 2, queueCapacity := 1 }).run? raceActions =
      some (raceEnd, raceSeen) := by
    decide
  obtain ⟨-, -, -, -, -, hdelivered, -⟩ := events_accounted hrun
  exact ⟨hrun, by decide, by simpa using hdelivered (by decide) (rfl : run? raceEnd [] = some _)⟩

end Pool
end ErrorReport
