import ErrorReport.Proofs.Pool.Refusals
import ErrorReport.Proofs.Pool.WrappedClose

/-!
# Closing is final

The statement about calls of closing, however many there are and however their steps mix with those
of calls of sending and of the workers: `closing_is_final`.  What it needs of the time after the
first call has returned is here, too: a worker of a settled pool hands on at most the event it had
already decided to hand on (`Settled.length_handedBy_le`).
-/

set_option autoImplicit false

namespace ErrorReport

/-- How many events a worker has decided to hand on. -/
def Worker.due {α : Type} : Worker α → Nat
  | cleared _ => 1
  | waiting | holding _ | sending _ | leaving | finished | crashed => 0

/-- The worker that makes a step. -/
def PoolAction.worker? {α : Type} : PoolAction α → Option Nat
  | receive worker | dispatch worker | hand worker | deliver worker _ | crash worker
  | report worker => some worker
  | beginSend _ | takeHandle _ _ | enqueue _ _ | beginClose | claim _ | dropHandle _ | takeReport _
  | giveUp _ | abandon _ | flush _ _ | propagate _ | finish _ _ => none

namespace Pool

variable {α : Type}

/-! ## Runs one after the other -/

theorem run?_cons {p q r : Pool α} {action : PoolAction α} {rest : List (PoolAction α)}
    {seen later : List (PoolEffect α)} (h : p.step? action = some (q, seen))
    (hrest : q.run? rest = some (r, later)) : p.run? (action :: rest) = some (r, seen ++ later) := by
  rw [run?, h]
  simp [hrest]

theorem run?_append {p q r : Pool α} {first rest : List (PoolAction α)}
    {seen later : List (PoolEffect α)} (h : p.run? first = some (q, seen))
    (hrest : q.run? rest = some (r, later)) : p.run? (first ++ rest) = some (r, seen ++ later) := by
  induction first generalizing p seen with
  | nil =>
    cases h
    exact hrest
  | cons action first ih =>
    simp only [run?, Option.bind_eq_some_iff, Option.map_eq_some_iff, Prod.exists,
      Prod.mk.injEq] at h
    obtain ⟨next, shown, hstep, last, shownLater, hfirst, rfl, rfl⟩ := h
    rw [List.cons_append, List.append_assoc]
    exact run?_cons hstep (ih hfirst)

/-! ## What a worker hands on in a run -/

/-- The events with which a worker calls the wrapped transport in a run. -/
def handedBy (worker : Nat) (p : Pool α) : List (PoolAction α) → List α
  | [] => []
  | action :: rest =>
    match p.step? action with
    | none => []
    | some (q, seen) =>
      (if action.worker? = some worker then seen.filterMap PoolEffect.handed? else [])
        ++ handedBy worker q rest

/-- How many events a worker of the pool has decided to hand on. -/
def due (p : Pool α) (worker : Nat) : Nat := (p.workers[worker]?).elim 0 Worker.due

theorem due_le_one (p : Pool α) (worker : Nat) : p.due worker ≤ 1 := by
  rw [due]
  cases p.workers[worker]? with
  | none => exact Nat.zero_le 1
  | some w => cases w <;> simp [Worker.due]

theorem due_setWorker {p : Pool α} {worker : Nat} {old : Worker α}
    (hworker : p.workers[worker]? = some old) (new : Worker α) (other : Nat) :
    (p.setWorker worker new).due other = if worker = other then new.due else p.due other := by
  rw [due, due, setWorker]
  split
  · rename_i heq
    subst heq
    rw [getElem?_set_new hworker]
    rfl
  · rw [List.getElem?_set_ne ‹_›]

/-- **In a settled pool no worker decides to hand anything on**, and it hands on what it had decided
to hand on once. -/
theorem Settled.due_step {p q : Pool α} {action : PoolAction α} {seen : List (PoolEffect α)}
    (hp : Settled p) (h : Step p action q seen) (worker : Nat) :
    (if action.worker? = some worker then (seen.filterMap PoolEffect.handed?).length else 0)
      + q.due worker ≤ p.due worker := by
  -- a step of a worker that hands nothing on
  have idle {w : Nat} {old new : Worker α} {r : Pool α} {shown : List (PoolEffect α)}
      (hw : p.workers[w]? = some old) (hr : r.workers = (p.setWorker w new).workers)
      (hnew : new.due = 0) (hshown : shown.filterMap PoolEffect.handed? = []) :
      (if some w = some worker then (shown.filterMap PoolEffect.handed?).length else 0)
        + r.due worker ≤ p.due worker := by
    have hdue : r.due worker = (p.setWorker w new).due worker := by rw [due, due, hr]
    rw [hshown, List.length_nil, ite_self, Nat.zero_add, hdue, due_setWorker hw]
    split
    · rw [hnew]; exact Nat.zero_le _
    · exact Nat.le_refl _
  cases h with
  | receive hworker | leave hworker | discard hworker | crash hworker | report hworker =>
    exact idle hworker rfl rfl rfl
  | deliver _ hworker => exact idle hworker rfl rfl rfl
  | clear hworker hkept =>
    rcases hp with habandoned | hfinished
    · exact absurd habandoned (by simp [hkept])
    · cases hfinished _ (List.mem_of_getElem? hworker)
  | @hand w event hworker =>
    have hdue : p.due w = 1 := by rw [due, hworker]; rfl
    rw [due_setWorker hworker]
    by_cases heq : w = worker
    · subst heq
      simp [PoolAction.worker?, PoolEffect.handed?, Worker.due, hdue]
    · simp [PoolAction.worker?, heq]
  | _ => exact Nat.le_of_eq (Nat.zero_add _)

/-- The same for a run. -/
theorem Settled.length_handedBy_le {p : Pool α} (hp : Settled p) (worker : Nat)
    (actions : List (PoolAction α)) : (p.handedBy worker actions).length ≤ p.due worker := by
  induction actions generalizing p with
  | nil => exact Nat.zero_le _
  | cons action rest ih =>
    rw [handedBy]
    cases hstep : p.step? action with
    | none => exact Nat.zero_le _
    | some next =>
      obtain ⟨q, seen⟩ := next
      have hlater := ih (hp.step (step_of_step? hstep))
      have hdue := hp.due_step (step_of_step? hstep) worker
      simp only [List.length_append]
      split at hdue <;> simp_all <;> omega

/-! ## The statement -/

theorem led_run {first : Nat} {p q : Pool α} {past seen : List (PoolEffect α)}
    {actions : List (PoolAction α)} (hp : Led first p) (hshutdown : Shutdown p past)
    (h : p.run? actions = some (q, seen)) : Led first q :=
  (run?_induction (motive := fun q past => Led first q ∧ Shutdown q past)
    (fun hp hstep => ⟨hp.1.step hp.2 hstep, hp.2.step hstep⟩) ⟨hp, hshutdown⟩ h).1

theorem late_run {start : Nat} {p q : Pool α} {past seen : List (PoolEffect α)}
    {actions : List (PoolAction α)} (hp : Late start p) (hshutdown : Shutdown p past)
    (h : p.run? actions = some (q, seen)) : Late start q :=
  (run?_induction (motive := fun q past => Late start q ∧ Shutdown q past)
    (fun hp hstep => ⟨hp.1.step hstep, hp.2.step hstep⟩) ⟨hp, hshutdown⟩ h).1

/-- A call of closing that is not the first one returns as soon as it looks, and nothing it does is
seen. -/
theorem Led.claim {first : Nat} {p : Pool α} (hp : Led first p) {call : Nat}
    (hcall : p.closes[call]? = some .entered) :
    p.step? (.claim call) = some (p.setClose call (.returned .done), []) := by
  simp [step?, claim?, hcall, hp.closed]

theorem Led.silent {first : Nat} {p q : Pool α} (hp : Led first p) {call : Nat}
    (hne : call ≠ first) {action : PoolAction α} {seen : List (PoolEffect α)}
    (hcloser : action.closer? = some call) (h : p.step? action = some (q, seen)) : seen = [] := by
  have leads {other : Nat} {c : CloseCall} (hother : p.closes[other]? = some c)
      (hfirst : c.isFirst = true) (hsame : some other = some call) : False :=
    hne (Option.some.inj hsame ▸ hp.eq_first hother (by rintro rfl; cases hfirst)
      (by rintro rfl; cases hfirst))
  cases step_of_step? h with
  | claimLate | claim => rfl
  | dropHandle hcall | takeReport hcall | allReported hcall | giveUp hcall | abandon hcall
  | flush hcall | propagate hcall => exact (leads hcall rfl hcloser).elim
  | finish _ hcall => exact (leads hcall rfl hcloser).elim
  | _ => cases hcloser

/-- **Closing is final.**  Whatever run a pool has had:

* the wrapped transport was closed at most once, and only if it is to be;
* if the first call of closing took a report of completion from every worker, the wrapped transport
  is closed in peace, now or at any later time: before that, every call of it has returned, and
  after it none begins.

From the step with which a call of closing finds the pool open, at any later time:

* every other call of closing has yet to find out that it is late, or returned well; it can return
  as soon as it looks, and nothing that it does is seen.

And from when that first call has returned, at any later time:

* a call of sending that began since then has yet to ask for a handle, or was refused because the
  pool is closed; it can be refused as soon as it asks, and is counted then, as all refused calls
  are;
* what was handed to the wrapped transport was given by calls that began before;
* each worker has called the wrapped transport at most once since then, and not at all if it had
  reported completion. -/
theorem closing_is_final {config : PoolConfig} {actions : List (PoolAction α)} {p : Pool α}
    {seen : List (PoolEffect α)} (h : (new config).run? actions = some (p, seen)) :
    seen.countP PoolEffect.isClosing ≤ 1
      ∧ (.closedWrapped ∈ seen → config.propagateClose = true)
      ∧ (∀ {later : List (PoolAction α)} {last : Pool α} {effects : List (PoolEffect α)},
          .awaiting 0 ∈ p.closes → p.run? later = some (last, effects) → InPeace (seen ++ effects))
      ∧ ∀ {first : Nat} {q : Pool α} {shown : List (PoolEffect α)} {during : List (PoolAction α)}
          {r : Pool α} {effects : List (PoolEffect α)}, p.isClosed = false →
          p.step? (.claim first) = some (q, shown) → q.run? during = some (r, effects) →
          (∀ {call : Nat} {c : CloseCall}, call ≠ first → r.closes[call]? = some c →
              c = .entered ∨ c = .returned .done)
            ∧ (∀ {call : Nat}, r.closes[call]? = some .entered →
              r.step? (.claim call) = some (r.setClose call (.returned .done), []))
            ∧ (∀ {call : Nat} {action : PoolAction α} {next : Pool α} {noted : List (PoolEffect α)},
              call ≠ first → action.closer? = some call → r.step? action = some (next, noted) →
              noted = [])
            ∧ ∀ {outcome : Outcome} {later : List (PoolAction α)} {last : Pool α}
                {after : List (PoolEffect α)}, r.closes[first]? = some (.returned outcome) →
                r.run? later = some (last, after) →
                (∀ {call : Nat} {c : SendCall α}, r.sends.length ≤ call →
                    last.sends[call]? = some c →
                    c = .entered c.event ∨ c = .refused c.event .closed)
                  ∧ (∀ {call : Nat} {event : α} (now : Nat),
                    last.sends[call]? = some (.entered event) →
                    ∃ next noted, last.step? (.takeHandle call now) = some (next, noted)
                      ∧ next.sends[call]? = some (.refused event .closed)
                      ∧ next.drops.total = last.drops.total + 1)
                  ∧ last.drops.total = last.sends.countP SendCall.isRefused
                  ∧ (last.eventsAt (seen ++ (shown ++ effects) ++ after) .handed).Subperm
                    ((last.sends.take r.sends.length).filterMap SendCall.accepted?)
                  ∧ ∀ worker, (r.handedBy worker later).length ≤ 1
                    ∧ (r.workers[worker]? = some .finished → r.handedBy worker later = []) := by
  classical
  have honce := closedOnce_run h
  have hshutdown := shutdown_run h
  refine ⟨Nat.le_trans (Nat.le_add_right _ _) honce.once, fun hclosed => ?_, ?_, ?_⟩
  · have hwanted := honce.wanted
      (.inl (Nat.pos_iff_ne_zero.1 (List.countP_pos_iff.2 ⟨_, hclosed, rfl⟩)))
    rwa [config_run h] at hwanted
  · intro later last effects hreports hlater
    have hnone : seen.countP PoolEffect.isClosing = 0 := by
      have hmay : 0 < p.closes.countP CloseCall.mayClose :=
        List.countP_pos_iff.2 ⟨_, hreports, rfl⟩
      have := honce.once
      omega
    exact (run?_induction
      (motive := fun q past => InPeace past ∧ Drained q past ∧ Matched q past)
      (fun hp hstep =>
        ⟨hp.1.step hp.2.1 hp.2.2 hstep, hp.2.1.step hstep, hp.2.2.step hstep⟩)
      ⟨inPeace_of_countP hnone, hshutdown.drained_of_awaiting hreports, matched_run h⟩ hlater).1
  intro first q shown during r effects hopen hclaim hduring
  have hreached := run?_append h (run?_cons hclaim hduring)
  have hled : Led first r :=
    led_run ((unbegun_run h).led hopen hclaim) (hshutdown.step (step_of_step? hclaim)) hduring
  refine ⟨hled.others, hled.claim, fun hne => hled.silent hne, ?_⟩
  intro outcome later last after hreturned hlater
  have hlate : Late r.sends.length last :=
    late_run (late_self (hled.noHandle (by simp [hreturned]))) (shutdown_run hreached) hlater
  have hrun := run?_append hreached hlater
  have hsettled : Settled r := hled.settled hreturned rfl
  refine ⟨hlate.refused, fun now hcall => hlate.takeHandle hcall now, refusals_run hrun,
    hlate.handed_subperm (balanced_run hrun), fun worker => ⟨?_, fun hfinished => ?_⟩⟩
  · exact Nat.le_trans (hsettled.length_handedBy_le worker later) (r.due_le_one worker)
  · have hnone : r.due worker = 0 := by rw [due, hfinished]; rfl
    have hhanded := hsettled.length_handedBy_le worker later
    exact List.length_eq_zero_iff.1 (Nat.le_zero.1 (hnone ▸ hhanded))

/-- A worker has decided to hand an event on when closing begins. -/
def latePool : Pool Nat where
  config := { threads := 1, queueCapacity := 4 }
  workers := [.cleared 7]
  sends := [.accepted 7]
  closes := [.entered, .entered]
  drops := { interval := 5000 }

/-- The first call of closing has given up and returned. -/
def lateClosed : Pool Nat :=
  { latePool with
    hasHandle := false
    isClosed := true
    isAbandoned := true
    closes := [.entered, .returned .done] }

/-- The worker has handed its event on, and another event was refused. -/
def lateEnd : Pool Nat :=
  { lateClosed with
    workers := [.waiting]
    sends := [.accepted 7, .refused 8 .closed]
    closes := [.returned .done, .returned .done]
    drops := { interval := 5000, hasWarned := true, total := 1 } }

theorem closing_is_final_late :
    (new { threads := 1, queueCapacity := 4 }).run? [.beginSend 7, .takeHandle 0 0, .enqueue 0 0,
        .receive 0, .dispatch 0, .beginClose, .beginClose] = some (latePool, [.accepted 7])
      ∧ lateClosed.run? [.hand 0, .deliver 0 .done, .beginSend 8, .takeHandle 1 0, .claim 0]
        = some (lateEnd, [.handed 7, .delivered 7 .done, .warnedOfDrops .closed 1])
      ∧ (lateClosed.handedBy 0
          [.hand 0, .deliver 0 .done, .beginSend 8, .takeHandle 1 0, .claim 0]).length ≤ 1
      ∧ lateEnd.drops.total = lateEnd.sends.countP SendCall.isRefused := by
  have hrun : (new { threads := 1, queueCapacity := 4 }).run? [.beginSend 7, .takeHandle 0 0,
      .enqueue 0 0, .receive 0, .dispatch 0, .beginClose, .beginClose]
      = some (latePool, [.accepted 7]) := by decide
  have hlater : lateClosed.run? [.hand 0, .deliver 0 .done, .beginSend 8, .takeHandle 1 0, .claim 0]
      = some (lateEnd, [.handed 7, .delivered 7 .done, .warnedOfDrops .closed 1]) := by decide
  have hclaim : latePool.step? (.claim 1)
      = some ({ latePool with isClosed := true, closes := [.entered, .won] }, []) := by decide
  have hduring : ({ latePool with isClosed := true, closes := [.entered, .won] } : Pool Nat).run?
      [.dropHandle 1, .giveUp 1, .abandon 1, .flush 1 0, .propagate 1, .finish 1 .done]
      = some (lateClosed, [.warnedOfBusy 1, .closedWrapped]) := by decide
  obtain ⟨-, -, -, hfinal⟩ := closing_is_final hrun
  obtain ⟨-, -, -, hafter⟩ := hfinal rfl hclaim hduring
  have hreturned : lateClosed.closes[1]? = some (.returned .done) := rfl
  obtain ⟨-, -, hcounted, -, hworker⟩ := hafter hreturned hlater
  exact ⟨hrun, hlater, (hworker 0).1, hcounted⟩

end Pool
end ErrorReport
