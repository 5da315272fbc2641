import ErrorReport.Proofs.Pool.Ledger

/-!
# Closing a pool drains it

The first call of closing drops the pool's handle of the queue and waits for the workers.  A worker
leaves only when the queue is empty and nobody can put anything into it any more, so once all of
them have reported there is nothing left: `drained_of_awaiting`.  `Shutdown` is the invariant behind
it, which also covers calls of sending that took their own handle just before the first call of
closing dropped that of the pool.

`Drained` is what follows for the events, then and at any later time.
-/

set_option autoImplicit false

namespace ErrorReport

/-- Whether a worker found that nothing will come any more. -/
def Worker.hasLeft {α : Type} : Worker α → Bool
  | leaving | finished => true
  | waiting | holding _ | cleared _ | sending _ | crashed => false

/-- Whether a worker reported completion. -/
def Worker.isFinished {α : Type} : Worker α → Bool
  | finished => true
  | waiting | holding _ | cleared _ | sending _ | leaving | crashed => false

/-- Whether a call of closing is the first one, and still under way. -/
def CloseCall.isFirst : CloseCall → Bool
  | won | awaiting _ | gaveUp _ | flushing | propagating | closingWrapped => true
  | entered | returned _ => false

namespace Pool

variable {α : Type}

/-! ## The invariant -/

/-- What closing and the workers know of each other. -/
structure Shutdown (p : Pool α) (seen : List (PoolEffect α)) : Prop where
  /-- There are as many workers as were asked for, and at least one. -/
  workers : p.workers.length = p.config.threads ∧ 0 < p.config.threads
  /-- Nothing happens before closing begins. -/
  unclaimed : p.isClosed = false → p.hasHandle = true ∧ p.isAbandoned = false ∧
    p.closes.countP CloseCall.isFirst = 0
  /-- There is one first call of closing. -/
  first : p.closes.countP CloseCall.isFirst ≤ 1
  /-- It starts out with the handle in place. -/
  won : .won ∈ p.closes → p.hasHandle = true ∧ p.isAbandoned = false
  /-- Nobody reports completion before the handle is dropped. -/
  unreported : p.hasHandle = true → p.reports = 0
  /-- While it waits, every worker that finished is taken note of or still to be. -/
  awaiting : ∀ workers, .awaiting workers ∈ p.closes → p.isAbandoned = false
    ∧ p.workers.countP Worker.isFinished + workers = p.reports + p.config.threads
  /-- When a worker leaves, the queue is empty and will stay so. -/
  left : ∀ w ∈ p.workers, w.hasLeft = true → p.hasSender = false ∧ p.queue = []
  /-- Nothing is discarded unless closing gave up. -/
  kept : p.isAbandoned = false → seen.filterMap PoolEffect.discarded? = []

theorem shutdown_new (config : PoolConfig) : Shutdown (new (α := α) config) [] where
  workers := by
    have : 0 < config.workerCount := Nat.lt_of_lt_of_le Nat.one_pos (Nat.le_max_left _ _)
    exact ⟨List.length_replicate, this⟩
  unclaimed := by simp [new]
  first := by simp [new]
  won := by simp [new]
  unreported := by simp [new]
  awaiting := by simp [new]
  left := by
    intro w hw hleft
    rw [new, List.mem_replicate] at hw
    rw [hw.2] at hleft
    cases hleft
  kept := by simp

theorem hasSender_eq_false_iff {p : Pool α} :
    p.hasSender = false ↔ p.hasHandle = false ∧ ∀ event, .holding event ∉ p.sends := by
  rw [hasSender, Bool.or_eq_false_iff, List.any_eq_false]
  refine and_congr_right fun _ => ⟨fun h event hevent => h _ hevent rfl, fun h call hcall => ?_⟩
  cases call with
  | holding event => exact absurd hcall (h event)
  | _ => simp

/-- A step of a call of sending. -/
theorem Shutdown.of_sends {p q : Pool α} {past seen : List (PoolEffect α)} (hp : Shutdown p past)
    (hconfig : q.config = p.config) (hclosed : q.isClosed = p.isClosed)
    (hhandle : q.hasHandle = p.hasHandle)
    (habandoned : q.isAbandoned = p.isAbandoned) (hcloses : q.closes = p.closes)
    (hworkers : q.workers = p.workers) (hreports : q.reports = p.reports)
    (hleft : p.hasSender = false → p.queue = [] → q.hasSender = false ∧ q.queue = [])
    (hseen : seen.filterMap PoolEffect.discarded? = []) : Shutdown q (past ++ seen) where
  workers := by rw [hworkers, hconfig]; exact hp.workers
  unclaimed := by rw [hclosed, hhandle, habandoned, hcloses]; exact hp.unclaimed
  first := by rw [hcloses]; exact hp.first
  won := by rw [hcloses, hhandle, habandoned]; exact hp.won
  unreported := by rw [hhandle, hreports]; exact hp.unreported
  awaiting := by rw [hcloses, habandoned, hworkers, hreports, hconfig]; exact hp.awaiting
  left := by
    intro w hw hwleft
    rw [hworkers] at hw
    obtain ⟨hsender, hqueue⟩ := hp.left w hw hwleft
    exact hleft hsender hqueue
  kept := by
    intro h
    rw [List.filterMap_append, hseen, List.append_nil]
    exact hp.kept (habandoned ▸ h)

theorem Shutdown.refuse {p : Pool α} {past : List (PoolEffect α)} (hp : Shutdown p past)
    (call now : Nat) (event : α) (reason : Refusal) :
    Shutdown (p.refuse call now event reason).1 (past ++ (p.refuse call now event reason).2) := by
  refine hp.of_sends rfl rfl rfl rfl rfl rfl rfl (fun hsender hqueue => ⟨?_, hqueue⟩)
    (filterMap_refuse p call now event reason _ fun _ => rfl)
  rw [hasSender_eq_false_iff] at hsender ⊢
  refine ⟨hsender.1, fun held hheld => ?_⟩
  rw [refuse_sends] at hheld
  rcases List.mem_or_eq_of_mem_set hheld with hheld | hheld
  · exact hsender.2 held hheld
  · cases hheld

/-- A step of a worker. -/
theorem Shutdown.of_worker {p q : Pool α} {past seen : List (PoolEffect α)} (hp : Shutdown p past)
    {worker : Nat} {old new : Worker α} (hworker : p.workers[worker]? = some old)
    (hworkers : q.workers = p.workers.set worker new)
    (hconfig : q.config = p.config) (hclosed : q.isClosed = p.isClosed)
    (hhandle : q.hasHandle = p.hasHandle)
    (habandoned : q.isAbandoned = p.isAbandoned) (hcloses : q.closes = p.closes)
    (hsends : q.sends = p.sends) (hqueue : p.queue = [] → q.queue = [])
    (hreports : q.reports + (if old.isFinished then 1 else 0) =
      p.reports + (if new.isFinished then 1 else 0))
    (hunreported : p.hasHandle = true → q.reports = 0)
    (hleft : new.hasLeft = true → p.hasSender = false ∧ p.queue = [])
    (hseen : p.isAbandoned = false → seen.filterMap PoolEffect.discarded? = []) :
    Shutdown q (past ++ seen) where
  workers := by rw [hworkers, List.length_set, hconfig]; exact hp.workers
  unclaimed := by rw [hclosed, hhandle, habandoned, hcloses]; exact hp.unclaimed
  first := by rw [hcloses]; exact hp.first
  won := by rw [hcloses, hhandle, habandoned]; exact hp.won
  unreported := by rw [hhandle]; exact hunreported
  awaiting := by
    intro workers hawaiting
    rw [hcloses] at hawaiting
    obtain ⟨hkept, hcount⟩ := hp.awaiting workers hawaiting
    have hset := countP_set Worker.isFinished hworker new
    rw [habandoned, hworkers, hconfig]
    exact ⟨hkept, by omega⟩
  left := by
    have hsender : q.hasSender = p.hasSender := by rw [hasSender, hasSender, hhandle, hsends]
    intro w hw hwleft
    rw [hworkers] at hw
    rw [hsender]
    rcases List.mem_or_eq_of_mem_set hw with hw | rfl
    · exact (hp.left w hw hwleft).imp_right hqueue
    · exact (hleft hwleft).imp_right hqueue
  kept := by
    intro h
    rw [habandoned] at h
    rw [List.filterMap_append, hseen h, hp.kept h, List.append_nil]

/-- A step of the first call of closing. -/
theorem Shutdown.of_first {p q : Pool α} {past seen : List (PoolEffect α)} (hp : Shutdown p past)
    {call : Nat} {old new : CloseCall} (hcall : p.closes[call]? = some old)
    (hold : old.isFirst = true) (hcloses : q.closes = p.closes.set call new) (hnew : new ≠ .won)
    (hconfig : q.config = p.config) (hclosed : q.isClosed = p.isClosed)
    (hworkers : q.workers = p.workers) (hsends : q.sends = p.sends) (hqueue : q.queue = p.queue)
    (hhandle : q.hasHandle = true → p.hasHandle = true) (hreports : p.reports = 0 → q.reports = 0)
    (hawaiting : ∀ workers, new = .awaiting workers → q.isAbandoned = false
      ∧ p.workers.countP Worker.isFinished + workers = q.reports + p.config.threads)
    (habandoned : q.isAbandoned = false → p.isAbandoned = false)
    (hseen : seen.filterMap PoolEffect.discarded? = []) : Shutdown q (past ++ seen) where
  workers := by rw [hworkers, hconfig]; exact hp.workers
  unclaimed := by
    -- a first call is under way, so closing has begun
    intro h
    have hnone := (hp.unclaimed (hclosed ▸ h)).2.2
    rw [List.countP_eq_zero] at hnone
    exact absurd hold (hnone old (List.mem_of_getElem? hcall))
  first := by
    have hset := countP_set CloseCall.isFirst hcall new
    have hfirst := hp.first
    rw [if_pos hold] at hset
    rw [hcloses]
    split at hset <;> omega
  won := by
    intro h
    rw [hcloses] at h
    exact absurd (eq_of_mem_set hcall hold hp.first h rfl).symm hnew
  unreported := fun h => hreports (hp.unreported (hhandle h))
  awaiting := by
    intro workers h
    rw [hcloses] at h
    rw [hworkers, hconfig]
    exact hawaiting workers (eq_of_mem_set hcall hold hp.first h rfl).symm
  left := by
    intro w hw hwleft
    rw [hworkers] at hw
    obtain ⟨hsender, hempty⟩ := hp.left w hw hwleft
    rw [hasSender_eq_false_iff] at hsender ⊢
    rw [hsends, hqueue]
    refine ⟨⟨?_, hsender.2⟩, hempty⟩
    cases h : q.hasHandle with
    | false => rfl
    | true => exact absurd (hhandle h) (by simp [hsender.1])
  kept := by
    intro h
    rw [List.filterMap_append, hseen, List.append_nil]
    exact hp.kept (habandoned h)

/-- A step of a call of closing that is not the first one. -/
theorem Shutdown.of_later {p : Pool α} {past : List (PoolEffect α)} (hp : Shutdown p past)
    {closes : List CloseCall}
    (hcount : closes.countP CloseCall.isFirst = p.closes.countP CloseCall.isFirst)
    (hmem : ∀ c ∈ closes, c.isFirst = true → c ∈ p.closes) :
    Shutdown { p with closes := closes } (past ++ []) where
  workers := hp.workers
  unclaimed := fun h => hcount ▸ hp.unclaimed h
  first := hcount ▸ hp.first
  won := fun h => hp.won (hmem _ h rfl)
  unreported := hp.unreported
  awaiting := fun workers h => hp.awaiting workers (hmem _ h rfl)
  left := hp.left
  kept := by rw [List.append_nil]; exact hp.kept

/-- The step with which closing begins. -/
theorem Shutdown.claim {p : Pool α} {past : List (PoolEffect α)} (hp : Shutdown p past) {call : Nat}
    (hcall : p.closes[call]? = some .entered) (hopen : p.isClosed = false) :
    Shutdown ({ p with isClosed := true }.setClose call .won) (past ++ []) := by
  obtain ⟨hhandle, habandoned, hnone⟩ := hp.unclaimed hopen
  have hset := countP_set CloseCall.isFirst hcall .won
  have hmem : ∀ c ∈ p.closes.set call .won, c.isFirst = true → c = .won := by
    intro c hc hfirst
    rcases List.mem_or_eq_of_mem_set hc with hc | hc
    · exact absurd hfirst (List.countP_eq_zero.1 hnone c hc)
    · exact hc
  exact {
    workers := hp.workers
    unclaimed := fun h => by cases h
    first := by
      show (p.closes.set call .won).countP CloseCall.isFirst ≤ 1
      rw [hnone] at hset
      simpa [CloseCall.isFirst] using Nat.le_of_eq hset
    won := fun _ => ⟨hhandle, habandoned⟩
    unreported := hp.unreported
    awaiting := fun workers h => by cases hmem _ h rfl
    left := hp.left
    kept := by rw [List.append_nil]; exact hp.kept }

/-- **Every step keeps the invariant.** -/
theorem Shutdown.step {p q : Pool α} {past seen : List (PoolEffect α)} {action : PoolAction α}
    (hp : Shutdown p past) (h : Step p action q seen) : Shutdown q (past ++ seen) := by
  -- while somebody can put events into the queue, no worker has left
  have nobody (hsender : p.hasSender = true) {w : Worker α} (hw : w ∈ p.workers) :
      w.hasLeft = false := by
    cases hleft : w.hasLeft with
    | false => rfl
    | true => rw [(hp.left w hw hleft).1] at hsender; cases hsender
  cases h with
  | beginSend event =>
    refine hp.of_sends rfl rfl rfl rfl rfl rfl rfl (fun hsender hqueue => ⟨?_, hqueue⟩) rfl
    rw [hasSender_eq_false_iff] at hsender ⊢
    refine ⟨hsender.1, fun held hheld => ?_⟩
    rcases List.mem_append.1 hheld with hheld | hheld
    · exact hsender.2 held hheld
    · simp at hheld
  | takeHandle hcall hopen =>
    refine hp.of_sends rfl rfl rfl rfl rfl rfl rfl (fun hsender _ => ?_) rfl
    rw [hasSender_eq_false_iff] at hsender
    exact absurd hopen (by simp [hsender.1])
  | refuseClosed | refuseGone | refuseFull => exact hp.refuse _ _ _ _
  | @accept _ _ event hcall hroom =>
    refine hp.of_sends rfl rfl rfl rfl rfl rfl rfl (fun hsender _ => ?_) rfl
    rw [hasSender_eq_false_iff] at hsender
    exact absurd (List.mem_of_getElem? hcall) (hsender.2 event)
  | receive hworker hqueue =>
    exact hp.of_worker hworker rfl rfl rfl rfl rfl rfl rfl
      (fun hempty => by simp [hempty] at hqueue)
      rfl hp.unreported (fun h => by cases h) fun _ => rfl
  | leave hworker hqueue hsender =>
    exact hp.of_worker hworker rfl rfl rfl rfl rfl rfl rfl id rfl hp.unreported
      (fun _ => ⟨hsender, hqueue⟩) fun _ => rfl
  | discard hworker habandoned =>
    exact hp.of_worker hworker rfl rfl rfl rfl rfl rfl rfl id rfl hp.unreported
      (fun h => by cases h)
      fun hkept => by simp [hkept] at habandoned
  | clear hworker | hand hworker | deliver _ hworker | crash hworker =>
    exact hp.of_worker hworker rfl rfl rfl rfl rfl rfl rfl id rfl hp.unreported
      (fun h => by cases h) fun _ => rfl
  | report hworker =>
    have hleft := hp.left _ (List.mem_of_getElem? hworker) rfl
    refine hp.of_worker hworker rfl rfl rfl rfl rfl rfl rfl id rfl (fun hhandle => ?_)
      (fun _ => hleft)
      fun _ => rfl
    exact absurd hhandle (by simp [(hasSender_eq_false_iff.1 hleft.1).1])
  | beginClose =>
    refine hp.of_later (by simp [CloseCall.isFirst]) fun c hc hfirst => ?_
    rcases List.mem_append.1 hc with hc | hc
    · exact hc
    · cases List.mem_singleton.1 hc; cases hfirst
  | claimLate hcall =>
    refine hp.of_later (countP_set CloseCall.isFirst hcall (.returned .done)) fun c hc hfirst => ?_
    rcases List.mem_or_eq_of_mem_set hc with hc | rfl
    · exact hc
    · cases hfirst
  | claim hcall hopen => exact hp.claim hcall hopen
  | dropHandle hcall =>
    obtain ⟨hhandle, habandoned⟩ := hp.won (List.mem_of_getElem? hcall)
    refine hp.of_first hcall rfl rfl (by simp) rfl rfl rfl rfl rfl (fun h => by cases h) id
      (fun workers h => ⟨habandoned, ?_⟩) id rfl
    -- nobody has left yet, so nobody has finished
    have hfinished : p.workers.countP Worker.isFinished = 0 := by
      rw [List.countP_eq_zero]
      intro w hw hfinished
      have := nobody (by rw [hasSender, hhandle, Bool.true_or]) hw
      cases w <;> simp_all [Worker.isFinished, Worker.hasLeft]
    cases h
    have hreports := hp.unreported hhandle
    show p.workers.countP Worker.isFinished + p.config.threads = p.reports + p.config.threads
    omega
  | @takeReport _ workers reports hcall hreports =>
    obtain ⟨habandoned, hcount⟩ := hp.awaiting _ (List.mem_of_getElem? hcall)
    refine hp.of_first hcall rfl rfl (by simp) rfl rfl rfl rfl rfl id (fun h => by omega)
      (fun k h => ⟨habandoned, ?_⟩) id rfl
    cases h
    show p.workers.countP Worker.isFinished + workers = reports + p.config.threads
    omega
  | abandon hcall =>
    exact hp.of_first hcall rfl rfl (by simp) rfl rfl rfl rfl rfl id id (fun k h => by cases h)
      (fun h => by cases h) rfl
  | flush hcall =>
    exact hp.of_first hcall rfl rfl (by split <;> simp) rfl rfl rfl rfl rfl id id
      (fun k h => by split at h <;> cases h) id (filterMap_map_eq_nil (fun _ => rfl) _)
  | allReported hcall | giveUp hcall | propagate hcall | finish _ hcall =>
    exact hp.of_first hcall rfl rfl (by simp) rfl rfl rfl rfl rfl id id (fun k h => by cases h) id
      rfl

theorem shutdown_run {config : PoolConfig} {actions : List (PoolAction α)} {p : Pool α}
    {seen : List (PoolEffect α)} (h : (new config).run? actions = some (p, seen)) :
    Shutdown p seen :=
  run?_induction_new (motive := Shutdown) Shutdown.step (shutdown_new config) h

/-! ## A drained pool -/

/-- Every worker reported completion, and nothing was discarded. -/
structure Drained (p : Pool α) (seen : List (PoolEffect α)) : Prop where
  finished : ∀ w ∈ p.workers, w = .finished
  kept : seen.filterMap PoolEffect.discarded? = []

/-- **Once all reports are taken, the pool is drained.** -/
theorem Shutdown.drained_of_awaiting {p : Pool α} {seen : List (PoolEffect α)}
    (hp : Shutdown p seen) (h : .awaiting 0 ∈ p.closes) : Drained p seen := by
  obtain ⟨habandoned, hcount⟩ := hp.awaiting 0 h
  have hall : p.workers.countP Worker.isFinished = p.workers.length := by
    have := List.countP_le_length (p := Worker.isFinished) (l := p.workers)
    have := hp.workers.1
    omega
  refine ⟨fun w hw => ?_, hp.kept habandoned⟩
  have := List.countP_eq_length.1 hall w hw
  cases w <;> simp_all [Worker.isFinished]

/-- No step undoes it: workers that finished do nothing more. -/
theorem Drained.step {p q : Pool α} {past seen : List (PoolEffect α)} {action : PoolAction α}
    (hp : Drained p past) (h : Step p action q seen) : Drained q (past ++ seen) := by
  have idle {worker : Nat} {w : Worker α} (hworker : p.workers[worker]? = some w) : w = .finished :=
    hp.finished w (List.mem_of_getElem? hworker)
  cases h with
  | receive hworker | leave hworker | discard hworker | clear hworker | hand hworker
    | deliver _ hworker | crash hworker | report hworker => cases idle hworker
  | refuseClosed | refuseGone | refuseFull =>
    refine ⟨hp.finished, ?_⟩
    rw [List.filterMap_append, hp.kept, filterMap_refuse _ _ _ _ _ _ fun _ => rfl, List.append_nil]
  | flush =>
    refine ⟨hp.finished, ?_⟩
    rw [List.filterMap_append, hp.kept, filterMap_map_eq_nil (fun _ => rfl), List.append_nil]
  | _ =>
    refine ⟨hp.finished, ?_⟩
    rw [List.filterMap_append, hp.kept]
    rfl

/-- **In a drained pool, what was accepted was handed on.** -/
theorem Drained.acceptedEvents_perm [DecidableEq α] {p : Pool α} {seen : List (PoolEffect α)}
    (hp : Drained p seen) (hbalanced : Balanced p seen) (hshutdown : Shutdown p seen) :
    p.acceptedEvents.Perm (p.eventsAt seen .handed) := by
  have hqueue : p.queue = [] := by
    obtain ⟨w, hw⟩ := List.exists_mem_of_length_pos (hshutdown.workers.1 ▸ hshutdown.workers.2)
    exact (hshutdown.left w hw (by rw [hp.finished w hw]; rfl)).2
  have hheld : p.eventsAt seen .held = [] := by
    rw [eventsAt, List.filterMap_eq_nil_iff]
    intro w hw
    rw [hp.finished w hw]
    rfl
  have hdiscarded : p.eventsAt seen .discarded = [] := hp.kept
  have h := hbalanced.acceptedEvents_perm
  rw [hheld, hdiscarded, eventsAt, hqueue] at h
  simpa using h

end Pool
end ErrorReport
