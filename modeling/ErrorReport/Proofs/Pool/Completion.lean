import ErrorReport.Proofs.Pool.Close
import Mathlib.Data.List.Induction

/-!
# Reports of completion

The first call of closing counts reports of completion, and takes every worker without one for
busy.  A worker reports when it leaves its loop.  One that the wrapped transport breaks never gets
there: it reports nothing, and counts as busy for good.

So a call that stops waiting is left with the workers still running and those that broke
(`Shutdown.left_behind`).  `completion_reported` says so of whole runs, and that broken workers are
all that keeps the count from being that of the running ones; `completion_missing` is a run with
one.
-/

set_option autoImplicit false

namespace ErrorReport

/-- Whether a worker is still in its loop, or about to report that it is not. -/
def Worker.isRunning {α : Type} : Worker α → Bool
  | waiting | holding _ | cleared _ | sending _ | leaving => true
  | finished | crashed => false

/-- Whether the wrapped transport broke a worker. -/
def Worker.isCrashed {α : Type} : Worker α → Bool
  | crashed => true
  | waiting | holding _ | cleared _ | sending _ | leaving | finished => false

/-- Whether an action is a worker's report of completion. -/
def PoolAction.isReportOf {α : Type} (worker : Nat) : PoolAction α → Bool
  | report other => other == worker
  | _ => false

namespace Pool

variable {α : Type} {p q : Pool α} {action : PoolAction α} {past seen : List (PoolEffect α)}
variable {config : PoolConfig} {actions : List (PoolAction α)}

/-! ## Runs with what was done in them -/

/-- What a run begins with is a step. -/
theorem exists_of_run?_cons {rest : List (PoolAction α)} {r : Pool α}
    (h : p.run? (action :: rest) = some (r, seen)) :
    ∃ q shown later, p.step? action = some (q, shown) ∧ q.run? rest = some (r, later) ∧
      seen = shown ++ later := by
  simp only [run?, Option.bind_eq_some_iff, Option.map_eq_some_iff, Prod.exists, Prod.mk.injEq] at h
  obtain ⟨q, shown, hstep, last, later, hlater, rfl, rfl⟩ := h
  exact ⟨q, shown, later, hstep, hlater, rfl⟩

/-- A run of some actions is a run of the first ones and then one of the others. -/
theorem exists_of_run?_append {first rest : List (PoolAction α)} {r : Pool α}
    (h : p.run? (first ++ rest) = some (r, seen)) :
    ∃ q past later, p.run? first = some (q, past) ∧ q.run? rest = some (r, later) ∧
      seen = past ++ later := by
  induction first generalizing p seen with
  | nil => exact ⟨p, [], seen, rfl, h, rfl⟩
  | cons action first ih =>
    obtain ⟨next, shown, later, hstep, hlater, rfl⟩ := exists_of_run?_cons h
    obtain ⟨q, past, rest, hfirst, hrest, rfl⟩ := ih hlater
    exact ⟨q, shown ++ past, rest, run?_cons hstep hfirst, hrest, (List.append_assoc ..).symm⟩

/-- **From steps to runs**, where it matters what was done before. -/
theorem run?_induction_done
    {motive : List (PoolAction α) → Pool α → List (PoolEffect α) → Prop}
    (hstep : ∀ {done : List (PoolAction α)} {p q : Pool α} {past seen : List (PoolEffect α)}
      {action : PoolAction α}, (new config).run? done = some (p, past) → motive done p past →
        Step p action q seen → motive (done ++ [action]) q (past ++ seen))
    (hnew : motive [] (new config) []) (h : (new config).run? actions = some (p, seen)) :
    motive actions p seen := by
  induction actions using List.reverseRecOn generalizing p seen with
  | nil =>
    cases h
    exact hnew
  | append_singleton done action ih =>
    obtain ⟨q, past, later, hdone, hlast, rfl⟩ := exists_of_run?_append h
    obtain ⟨r, shown, rest, hshown, hnil, rfl⟩ := exists_of_run?_cons hlast
    cases hnil
    rw [List.append_nil]
    exact hstep hdone (ih hdone) (step_of_step? hshown)

/-! ## What a worker has told -/

/-- A step moves at most one worker, and only one that is running. -/
theorem Step.workers_cases (h : Step p action q seen) :
    action.worker? = none ∧ q.workers = p.workers ∨
      ∃ worker old new, action.worker? = some worker ∧ p.workers[worker]? = some old ∧
        q.workers = p.workers.set worker new ∧ old.isRunning = true ∧
        action.isReportOf worker = new.isFinished ∧ (action = .crash worker ↔ new = .crashed) := by
  cases h with
  | receive hworker | leave hworker | discard hworker | clear hworker | hand hworker
  | deliver _ hworker | crash hworker =>
    exact .inr ⟨_, _, _, rfl, hworker, rfl, rfl, rfl, by simp⟩
  | report hworker =>
    exact .inr ⟨_, _, _, rfl, hworker, rfl, rfl, by simp [PoolAction.isReportOf, Worker.isFinished],
      by simp⟩
  | _ => exact .inl ⟨rfl, rfl⟩

/-- What was done by a worker agrees with where it is. -/
structure Told (worker : Nat) (done : List (PoolAction α)) (p : Pool α) : Prop where
  /-- It reported completion once if it finished, and otherwise not at all. -/
  reported : ∀ w, p.workers[worker]? = some w →
    done.countP (PoolAction.isReportOf worker) = if w.isFinished then 1 else 0
  /-- It broke if it was broken. -/
  crashed : p.workers[worker]? = some .crashed ↔ .crash worker ∈ done

theorem told_new (config : PoolConfig) (worker : Nat) : Told worker [] (new (α := α) config) := by
  have hwaiting {w : Worker α} (hw : (new config).workers[worker]? = some w) : w = .waiting := by
    rw [new, List.getElem?_replicate] at hw
    split at hw <;> cases hw
    rfl
  refine ⟨fun w hw => hwaiting hw ▸ rfl, fun h => ?_, fun h => absurd h List.not_mem_nil⟩
  cases hwaiting h

theorem isReportOf_of_worker? {worker : Nat} (h : action.worker? ≠ some worker) :
    action.isReportOf worker = false := by
  cases action with
  | report other => exact beq_false_of_ne fun heq => h (heq ▸ rfl)
  | _ => rfl

/-- A worker that does not move. -/
theorem Told.still {worker : Nat} {done : List (PoolAction α)} (hp : Told worker done p)
    (hother : action.worker? ≠ some worker) (hworker : q.workers[worker]? = p.workers[worker]?) :
    Told worker (done ++ [action]) q where
  reported := by
    rw [hworker, List.countP_append, List.countP_singleton, isReportOf_of_worker? hother]
    exact hp.reported
  crashed := by
    have hne : .crash worker ≠ action := fun heq => hother (heq ▸ rfl)
    rw [hworker, hp.crashed, List.mem_append, List.mem_singleton, or_iff_left hne]

/-- **Every step keeps the agreement.** -/
theorem Told.step {worker : Nat} {done : List (PoolAction α)} (hp : Told worker done p)
    (h : Step p action q seen) : Told worker (done ++ [action]) q := by
  rcases h.workers_cases with
    ⟨hnone, hworkers⟩ | ⟨mover, old, new, hmover, hold, hset, hrunning, hreport, hcrash⟩
  · exact hp.still (by simp [hnone]) (by rw [hworkers])
  · by_cases heq : mover = worker
    · subst heq
      have hnew : q.workers[mover]? = some new := by rw [hset, getElem?_set_new hold]
      -- it was running, so it had reported nothing and was not broken
      have hbefore : done.countP (PoolAction.isReportOf mover) = 0 := by
        rw [hp.reported old hold]
        cases old <;> first | rfl | cases hrunning
      have hsound : .crash mover ∉ done := by
        rw [← hp.crashed, hold, Option.some_inj]
        rintro rfl
        cases hrunning
      constructor
      · intro w hw
        cases hnew.symm.trans hw
        rw [List.countP_append, List.countP_singleton, hbefore, hreport, Nat.zero_add]
      · rw [hnew, Option.some_inj, ← hcrash, List.mem_append, List.mem_singleton,
          or_iff_right hsound, eq_comm]
    · exact hp.still (by simp [hmover, heq]) (by rw [hset, List.getElem?_set_ne heq])

theorem told_run (h : (new config).run? actions = some (p, seen)) (worker : Nat) :
    Told worker actions p :=
  run?_induction_done (motive := fun done p _ => Told worker done p) (fun _ hp => hp.step)
    (told_new config worker) h

/-! ## What closing counts -/

/-- In a run of a new pool, some call of closing stopped waiting when the pool was `q`, with so many
workers that had not reported. -/
def StoppedWaiting (config : PoolConfig) (actions : List (PoolAction α)) (q : Pool α) (n : Nat) :
    Prop :=
  ∃ before call after past, actions = before ++ .giveUp call :: after ∧
    (new config).run? before = some (q, past) ∧ q.closes[call]? = some (.awaiting n)

theorem StoppedWaiting.append {done : List (PoolAction α)} {n : Nat}
    (h : StoppedWaiting config done q n) (more : List (PoolAction α)) :
    StoppedWaiting config (done ++ more) q n := by
  obtain ⟨before, call, after, past, rfl, hbefore, hcall⟩ := h
  exact ⟨before, call, after ++ more, past, by simp, hbefore, hcall⟩

/-- A worker has finished, or broke, or is running. -/
theorem countP_workers (workers : List (Worker α)) :
    workers.length = workers.countP Worker.isFinished +
      (workers.countP Worker.isRunning + workers.countP Worker.isCrashed) := by
  induction workers with
  | nil => rfl
  | cons w workers ih =>
    rw [List.length_cons, List.countP_cons, List.countP_cons, List.countP_cons, ih]
    cases w <;> simp only [Worker.isFinished, Worker.isRunning, Worker.isCrashed] <;> grind

/-- **Closing leaves behind those still running and those that broke**: a call that stops waiting
has counted all others. -/
theorem Shutdown.left_behind (hp : Shutdown q past) {call n : Nat} {r : Pool α}
    (hcall : q.closes[call]? = some (.awaiting n)) (h : Step q (.giveUp call) r seen) :
    n = q.workers.countP Worker.isRunning + q.workers.countP Worker.isCrashed := by
  obtain ⟨-, hcount⟩ := hp.awaiting n (List.mem_of_getElem? hcall)
  have hworkers := countP_workers q.workers
  rw [hp.workers.1] at hworkers
  cases h with
  | allReported hnone =>
    cases hcall.symm.trans hnone
    omega
  | giveUp _ hreports => omega

theorem StoppedWaiting.left_behind {n : Nat} (hq : StoppedWaiting config actions q n)
    (h : (new config).run? actions = some (p, seen)) :
    n = q.workers.countP Worker.isRunning + q.workers.countP Worker.isCrashed := by
  obtain ⟨before, call, after, past, rfl, hbefore, hcall⟩ := hq
  obtain ⟨q', past', later, hbefore', hafter, rfl⟩ := exists_of_run?_append h
  cases hbefore.symm.trans hbefore'
  obtain ⟨r, shown, rest, hstep, -, rfl⟩ := exists_of_run?_cons hafter
  exact (shutdown_run hbefore).left_behind hcall (step_of_step? hstep)

/-- A worker that had broken when a call stopped waiting is broken for good. -/
theorem StoppedWaiting.countP_isCrashed {n : Nat} (hq : StoppedWaiting config actions q n)
    (hsound : ∀ worker, .crash worker ∉ actions) : q.workers.countP Worker.isCrashed = 0 := by
  obtain ⟨before, call, after, past, rfl, hbefore, hcall⟩ := hq
  refine List.countP_eq_zero.2 fun w hw hcrashed => ?_
  obtain ⟨worker, hworker⟩ := List.getElem?_of_mem hw
  cases w <;> cases hcrashed
  exact hsound worker (List.mem_append_left _ ((told_run hbefore worker).crashed.1 hworker))

/-- A call gives up on workers in one kind of step only. -/
theorem Step.gaveUp_cases (h : Step p action q seen) {n : Nat} (hn : .gaveUp n ∈ q.closes) :
    .gaveUp n ∈ p.closes ∨
      ∃ call, action = .giveUp call ∧ p.closes[call]? = some (.awaiting n) ∧ 0 < n := by
  -- a call of closing goes on to a place that is not this one
  have elsewhere {call : Nat} {new : CloseCall} (hset : .gaveUp n ∈ p.closes.set call new)
      (hnew : new ≠ .gaveUp n) : .gaveUp n ∈ p.closes :=
    (List.mem_or_eq_of_mem_set hset).resolve_right hnew.symm
  cases h with
  | beginClose =>
    rcases List.mem_append.1 hn with hn | hn
    · exact .inl hn
    · cases List.mem_singleton.1 hn
  | claimLate | claim | dropHandle | takeReport | allReported | abandon | propagate | finish =>
    exact .inl (elsewhere hn (by simp))
  | flush => exact .inl (elsewhere hn (by split <;> simp))
  | @giveUp call workers hcall =>
    rcases List.mem_or_eq_of_mem_set hn with hn | hn
    · exact .inl hn
    · cases hn
      exact .inr ⟨call, rfl, hcall, Nat.succ_pos _⟩
  | _ => exact .inl hn

/-- Only a call that gave up on workers warns of them. -/
theorem Step.gaveUp_of_warned (h : Step p action q seen) {n : Nat}
    (hn : .warnedOfBusy n ∈ seen) : .gaveUp n ∈ p.closes := by
  have hrefuse (call now : Nat) (event : α) (reason : Refusal) :
      .warnedOfBusy n ∉ (p.refuse call now event reason).2 := fun hmem => by
    obtain ⟨count, -, heq⟩ := List.mem_map.1 hmem
    cases heq
  cases h with
  | refuseClosed | refuseGone | refuseFull => exact absurd hn (hrefuse _ _ _ _)
  | abandon hcall =>
    cases List.mem_singleton.1 hn
    exact List.mem_of_getElem? hcall
  | flush =>
    obtain ⟨count, -, heq⟩ := List.mem_map.1 hn
    cases heq
  | _ => simp at hn

/-- Where a warning of busy workers comes from. -/
structure BusyFrom (config : PoolConfig) (done : List (PoolAction α)) (p : Pool α)
    (past : List (PoolEffect α)) : Prop where
  gaveUp : ∀ n, .gaveUp n ∈ p.closes → 0 < n ∧ ∃ q, StoppedWaiting config done q n
  warned : ∀ n, .warnedOfBusy n ∈ past → 0 < n ∧ ∃ q, StoppedWaiting config done q n

theorem BusyFrom.step {done : List (PoolAction α)} (hrun : (new config).run? done = some (p, past))
    (hp : BusyFrom config done p past) (h : Step p action q seen) :
    BusyFrom config (done ++ [action]) q (past ++ seen) := by
  have later {n : Nat} (hn : 0 < n ∧ ∃ q, StoppedWaiting config done q n) :
      0 < n ∧ ∃ q, StoppedWaiting config (done ++ [action]) q n :=
    hn.imp_right fun ⟨q, hq⟩ => ⟨q, hq.append _⟩
  constructor
  · intro n hn
    rcases h.gaveUp_cases hn with hn | ⟨call, rfl, hcall, hpos⟩
    · exact later (hp.gaveUp n hn)
    · exact ⟨hpos, p, done, call, [], past, rfl, hrun, hcall⟩
  · intro n hn
    rcases List.mem_append.1 hn with hn | hn
    · exact later (hp.warned n hn)
    · exact later (hp.gaveUp n (h.gaveUp_of_warned hn))

theorem busyFrom_run (h : (new config).run? actions = some (p, seen)) :
    BusyFrom config actions p seen :=
  run?_induction_done (motive := BusyFrom config) BusyFrom.step ⟨by simp [new], by simp⟩ h

/-! ## The statement -/

/-- **What is told of the end of workers**, in any run of a pool:

* a worker that finished reported completion once, and any other not at all; those that were broken
  are the ones that have not reported though they do not run any more;
* when a call of closing stops waiting, it is left with the number of those still running and those
  that broke;
* every warning of busy workers is of at least one, and of so many as a call was left with.

So every worker that runs no more has reported once if and only if none was broken.  Then what a
warning counts are the workers still running when the call stopped waiting. -/
theorem completion_reported (h : (new config).run? actions = some (p, seen)) :
    (∀ worker w, p.workers[worker]? = some w →
      actions.countP (PoolAction.isReportOf worker) = if w.isFinished then 1 else 0) ∧
    (∀ worker, p.workers[worker]? = some .crashed ↔ .crash worker ∈ actions) ∧
    (∀ q n, StoppedWaiting config actions q n →
      n = q.workers.countP Worker.isRunning + q.workers.countP Worker.isCrashed) ∧
    (∀ n, .warnedOfBusy n ∈ seen → 0 < n ∧ ∃ q, StoppedWaiting config actions q n) ∧
    ((∀ worker w, p.workers[worker]? = some w → w.isRunning = false →
        actions.countP (PoolAction.isReportOf worker) = 1) ↔
      ∀ worker, .crash worker ∉ actions) ∧
    ((∀ worker, .crash worker ∉ actions) → ∀ n, .warnedOfBusy n ∈ seen →
      ∃ q, StoppedWaiting config actions q n ∧ 0 < n ∧ n = q.workers.countP Worker.isRunning) := by
  have htold := told_run h
  have hbusy := (busyFrom_run h).warned
  refine ⟨fun worker => (htold worker).reported, fun worker => (htold worker).crashed,
    fun q n hq => hq.left_behind h, hbusy, ⟨fun hall worker hcrash => ?_, ?_⟩, ?_⟩
  · have hworker := (htold worker).crashed.2 hcrash
    have hone := hall worker .crashed hworker rfl
    rw [(htold worker).reported _ hworker] at hone
    cases hone
  · intro hsound worker w hworker hstopped
    rw [(htold worker).reported w hworker]
    cases w with
    | finished => rfl
    | crashed => exact absurd ((htold worker).crashed.1 hworker) (hsound worker)
    | _ => cases hstopped
  · intro hsound n hn
    obtain ⟨hpos, q, hq⟩ := hbusy n hn
    have hcount := hq.left_behind h
    rw [hq.countP_isCrashed hsound, Nat.add_zero] at hcount
    exact ⟨q, hq, hpos, hcount⟩

/-- Two workers, one of which is still in the wrapped transport when the call of closing, which has
the other one's report, stops waiting. -/
def busyActions : List (PoolAction Nat) := [
  .beginSend 7, .takeHandle 0 0, .enqueue 0 0, .receive 0, .dispatch 0, .hand 0, .beginClose,
  .claim 0, .dropHandle 0, .receive 1, .report 1, .takeReport 0, .giveUp 0, .abandon 0]

/-- The pool after these steps. -/
def busyEnd : Pool Nat where
  config := { threads := 2 }
  hasHandle := false
  isClosed := true
  isAbandoned := true
  workers := [.sending 7, .finished]
  sends := [.accepted 7]
  closes := [.flushing]
  drops := { interval := 5000 }

theorem completion_reported_busy :
    (new { threads := 2 }).run? busyActions =
        some (busyEnd, [.accepted 7, .handed 7, .warnedOfBusy 1])
      ∧ (∀ worker, .crash worker ∉ busyActions) ∧
      ∃ q, StoppedWaiting { threads := 2 } busyActions q 1 ∧
        1 = q.workers.countP Worker.isRunning := by
  have hrun : (new { threads := 2 }).run? busyActions =
      some (busyEnd, [.accepted 7, .handed 7, .warnedOfBusy 1]) := by decide
  have hsound : ∀ worker, .crash worker ∉ busyActions := by simp [busyActions]
  obtain ⟨-, -, -, -, -, hwarned⟩ := completion_reported hrun
  obtain ⟨q, hq, -, hcount⟩ := hwarned hsound 1 (by decide)
  exact ⟨hrun, hsound, q, hq, hcount⟩

/-- The wrapped transport breaks the only worker. -/
def brokenActions : List (PoolAction Nat) := [
  .beginSend 7, .takeHandle 0 0, .enqueue 0 0, .receive 0, .dispatch 0, .hand 0, .crash 0,
  .beginClose, .claim 0, .dropHandle 0, .giveUp 0, .abandon 0]

/-- The pool after these steps. -/
def brokenEnd : Pool Nat where
  config := { threads := 1 }
  hasHandle := false
  isClosed := true
  isAbandoned := true
  workers := [.crashed]
  sends := [.accepted 7]
  closes := [.flushing]
  drops := { interval := 5000 }

/-- **A broken worker is taken for busy.**  No worker runs any more, none has reported, and closing
warns that one is busy. -/
theorem completion_missing :
    (new { threads := 1 }).run? brokenActions =
        some (brokenEnd, [.accepted 7, .handed 7, .warnedOfBusy 1]) ∧
      (∀ w ∈ brokenEnd.workers, w.isRunning = false) ∧
      brokenActions.countP (PoolAction.isReportOf 0) = 0 := by
  decide

end Pool
end ErrorReport
