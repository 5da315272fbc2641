import ErrorReport.Proofs.Pool.FirstClose

/-!
# How the wrapped transport is closed

It is closed at most once, and only if it is to be: `closedOnce_run`.  If all workers reported
completion to the first call of closing, it is closed in peace, after every call of it has returned
and with none to follow: `InPeace.step`.
-/

set_option autoImplicit false

namespace ErrorReport

/-- Whether the wrapped transport is called to close. -/
def PoolEffect.isClosing {α : Type} : PoolEffect α → Bool
  | closedWrapped => true
  | accepted _ | handed _ | delivered _ _ | discarded _ | warnedOfDrops _ _ | warnedOfBusy _
  | warnedAtEnd _ => false

/-- The event with which the wrapped transport returned. -/
def PoolEffect.delivered? {α : Type} : PoolEffect α → Option α
  | delivered event _ => some event
  | accepted _ | handed _ | discarded _ | warnedOfDrops _ _ | warnedOfBusy _ | warnedAtEnd _
  | closedWrapped => none

/-- The event with which a worker is in the wrapped transport. -/
def Worker.sending? {α : Type} : Worker α → Option α
  | sending event => some event
  | waiting | holding _ | cleared _ | leaving | finished | crashed => none

/-- Whether a call of closing has yet to close the wrapped transport. -/
def CloseCall.mayClose : CloseCall → Bool
  | won | awaiting _ | gaveUp _ | flushing | propagating => true
  | entered | closingWrapped | returned _ => false

namespace Pool

variable {α : Type}

/-- No warning is a call to close. -/
theorem countP_map_isClosing {warning : Nat → PoolEffect α}
    (hwarning : ∀ count, (warning count).isClosing = false) (counts : List Nat) :
    (counts.map warning).countP PoolEffect.isClosing = 0 := by
  rw [List.countP_eq_zero]
  intro effect heffect
  obtain ⟨count, -, rfl⟩ := List.mem_map.1 heffect
  simp [hwarning count]

theorem refuse_isClosing (p : Pool α) (call now : Nat) (event : α) (reason : Refusal) :
    (p.refuse call now event reason).2.countP PoolEffect.isClosing = 0 :=
  countP_map_isClosing (fun _ => rfl) _

/-! ## Once -/

/-- The books of closing the wrapped transport. -/
structure ClosedOnce (p : Pool α) (seen : List (PoolEffect α)) : Prop where
  unclaimed : p.isClosed = false → seen.countP PoolEffect.isClosing = 0
  /-- Either it was closed already, or one call may still come to it. -/
  once : seen.countP PoolEffect.isClosing + p.closes.countP CloseCall.mayClose ≤ 1
  /-- Nobody comes to it if it is to stay open. -/
  wanted : seen.countP PoolEffect.isClosing ≠ 0 ∨ .propagating ∈ p.closes →
    p.config.propagateClose = true

/-- A step that moves no call of closing on. -/
theorem ClosedOnce.unmoved {p q : Pool α} {past seen : List (PoolEffect α)} (hp : ClosedOnce p past)
    (hclosed : q.isClosed = p.isClosed) (hconfig : q.config = p.config)
    (hcloses : q.closes.countP CloseCall.mayClose = p.closes.countP CloseCall.mayClose)
    (hpropagating : .propagating ∈ q.closes → .propagating ∈ p.closes)
    (hseen : seen.countP PoolEffect.isClosing = 0) : ClosedOnce q (past ++ seen) where
  unclaimed := by rw [hclosed, List.countP_append, hseen, Nat.add_zero]; exact hp.unclaimed
  once := by rw [hcloses, List.countP_append, hseen, Nat.add_zero]; exact hp.once
  wanted := by
    rw [hconfig, List.countP_append, hseen, Nat.add_zero]
    exact fun h => hp.wanted (h.imp_right hpropagating)

/-- A step that moves a call of closing on when closing has begun. -/
theorem ClosedOnce.of_set {p q : Pool α} {past seen : List (PoolEffect α)} (hp : ClosedOnce p past)
    {call : Nat} {old new : CloseCall} (hcall : p.closes[call]? = some old)
    (hcloses : q.closes = p.closes.set call new) (hclosed : q.isClosed = true)
    (hconfig : q.config = p.config)
    (hcount : seen.countP PoolEffect.isClosing + (if new.mayClose then 1 else 0)
      ≤ if old.mayClose then 1 else 0)
    (hwanted : seen.countP PoolEffect.isClosing ≠ 0 ∨ new = .propagating →
      p.config.propagateClose = true) : ClosedOnce q (past ++ seen) where
  unclaimed := fun hopen => by rw [hclosed] at hopen; cases hopen
  once := by
    have hset := countP_set CloseCall.mayClose hcall new
    have honce := hp.once
    rw [hcloses, List.countP_append]
    omega
  wanted := by
    rw [hconfig, hcloses, List.countP_append]
    rintro (hseen | hmem)
    · rcases Nat.eq_zero_or_pos (seen.countP PoolEffect.isClosing) with hnone | hsome
      · exact hp.wanted (.inl (by omega))
      · exact hwanted (.inl (Nat.pos_iff_ne_zero.1 hsome))
    · rcases List.mem_or_eq_of_mem_set hmem with hmem | hmem
      · exact hp.wanted (.inr hmem)
      · exact hwanted (.inr hmem.symm)

theorem ClosedOnce.step {p q : Pool α} {past seen : List (PoolEffect α)} {action : PoolAction α}
    (hp : ClosedOnce p past) (hshutdown : Shutdown p past) (h : Step p action q seen) :
    ClosedOnce q (past ++ seen) := by
  cases h with
  | refuseClosed | refuseGone | refuseFull =>
    exact hp.unmoved rfl rfl rfl id (refuse_isClosing ..)
  | beginClose =>
    refine hp.unmoved rfl rfl (by simp [CloseCall.mayClose]) (fun hmem => ?_) rfl
    simpa using hmem
  | claimLate hcall hclosed =>
    exact hp.of_set hcall rfl hclosed rfl (Nat.le_refl 0) (by simp)
  | @claim call hcall hopen =>
    have hnone : p.closes.countP CloseCall.mayClose = 0 := by
      refine List.countP_eq_zero.2 fun c hc hmay => ?_
      have := List.countP_eq_zero.1 (hshutdown.unclaimed hopen).2.2 c hc
      cases c <;> simp_all [CloseCall.mayClose, CloseCall.isFirst]
    have hset := countP_set CloseCall.mayClose hcall .won
    have hseen := hp.unclaimed hopen
    exact {
      unclaimed := fun h => by cases h
      once := by
        show (past ++ []).countP _ + (p.closes.set call .won).countP CloseCall.mayClose ≤ 1
        rw [hnone] at hset
        rw [List.append_nil, hseen]
        exact Nat.le_of_eq (by simpa [CloseCall.mayClose] using hset)
      wanted := by
        rintro (h | h)
        · exact absurd (by simpa using hseen) h
        · rcases List.mem_or_eq_of_mem_set h with h | h
          · exact hp.wanted (.inr h)
          · cases h }
  | dropHandle hcall | takeReport hcall | allReported hcall | giveUp hcall =>
    exact hp.of_set hcall rfl (hshutdown.isClosed hcall rfl) rfl (Nat.le_refl 1) (by simp)
  | abandon hcall =>
    exact hp.of_set hcall rfl (hshutdown.isClosed hcall rfl) rfl (Nat.le_refl 1)
      (by simp [PoolEffect.isClosing])
  | @flush _ now hcall =>
    have hseen : ((p.drops.flush now).1.toList.map (PoolEffect.warnedAtEnd (α := α))).countP
        PoolEffect.isClosing = 0 := countP_map_isClosing (fun _ => rfl) _
    refine hp.of_set hcall rfl (hshutdown.isClosed hcall rfl) rfl ?_ ?_
    · rw [hseen]
      split <;> simp [CloseCall.mayClose]
    · rintro (h | h)
      · exact absurd hseen h
      · split at h
        · assumption
        · cases h
  | propagate hcall =>
    exact hp.of_set hcall rfl (hshutdown.isClosed hcall rfl) rfl (Nat.le_refl 1)
      fun _ => hp.wanted (.inr (List.mem_of_getElem? hcall))
  | finish _ hcall =>
    exact hp.of_set hcall rfl (hshutdown.isClosed hcall rfl) rfl (Nat.le_refl 0) (by simp)
  | _ => exact hp.unmoved rfl rfl rfl id rfl

theorem closedOnce_new (config : PoolConfig) : ClosedOnce (new (α := α) config) [] :=
  ⟨fun _ => rfl, by simp [new], by simp [new]⟩

theorem closedOnce_run {config : PoolConfig} {actions : List (PoolAction α)} {p : Pool α}
    {seen : List (PoolEffect α)} (h : (new config).run? actions = some (p, seen)) :
    ClosedOnce p seen :=
  (run?_induction_new (motive := fun q past => ClosedOnce q past ∧ Shutdown q past)
    (fun hp hstep => ⟨hp.1.step hp.2 hstep, hp.2.step hstep⟩)
    ⟨closedOnce_new config, shutdown_new config⟩ h).1

/-! ## In peace -/

/-- If the wrapped transport broke no worker, each of its calls has returned or is still under
way. -/
def Matched [DecidableEq α] (p : Pool α) (seen : List (PoolEffect α)) : Prop :=
  .crashed ∉ p.workers → ∀ a, (seen.filterMap PoolEffect.handed?).count a
    = (seen.filterMap PoolEffect.delivered?).count a
      + (p.workers.filterMap Worker.sending?).count a

theorem Matched.unmoved [DecidableEq α] {p q : Pool α} {past seen : List (PoolEffect α)}
    (hp : Matched p past) (hworkers : q.workers = p.workers)
    (hhanded : seen.filterMap PoolEffect.handed? = [])
    (hdelivered : seen.filterMap PoolEffect.delivered? = []) : Matched q (past ++ seen) := by
  intro hwhole a
  rw [hworkers] at hwhole ⊢
  rw [List.filterMap_append, List.filterMap_append, hhanded, hdelivered, List.append_nil,
    List.append_nil]
  exact hp hwhole a

/-- A step of a worker that is not broken by it. -/
theorem Matched.of_worker [DecidableEq α] {p q : Pool α} {past seen : List (PoolEffect α)}
    (hp : Matched p past) {worker : Nat} {old new : Worker α}
    (hworker : p.workers[worker]? = some old) (hworkers : q.workers = p.workers.set worker new)
    (hold : old ≠ .crashed)
    (hseen : ∀ a, (seen.filterMap PoolEffect.handed?).count a + old.sending?.toList.count a
      = (seen.filterMap PoolEffect.delivered?).count a + new.sending?.toList.count a) :
    Matched q (past ++ seen) := by
  intro hwhole a
  have hwhole : .crashed ∉ p.workers := by
    obtain ⟨front, back, hp, hset⟩ := exists_set_eq hworker
    rw [hworkers, hset new] at hwhole
    rw [hp]
    simp only [List.mem_append, List.mem_cons, not_or] at hwhole ⊢
    exact ⟨hwhole.1, hold.symm, hwhole.2.2⟩
  have hset := count_filterMap_set Worker.sending? a hworker new
  have hmatched := hp hwhole a
  have hstep := hseen a
  rw [List.filterMap_append, List.filterMap_append, List.count_append, List.count_append, hworkers]
  omega

theorem Matched.step [DecidableEq α] {p q : Pool α} {past seen : List (PoolEffect α)}
    {action : PoolAction α} (hp : Matched p past) (h : Step p action q seen) :
    Matched q (past ++ seen) := by
  cases h with
  | refuseClosed | refuseGone | refuseFull =>
    exact hp.unmoved rfl (filterMap_refuse _ _ _ _ _ _ fun _ => rfl)
      (filterMap_refuse _ _ _ _ _ _ fun _ => rfl)
  | receive hworker | leave hworker | discard hworker | clear hworker | report hworker =>
    exact hp.of_worker hworker rfl (by simp) fun _ => rfl
  | hand hworker | deliver _ hworker =>
    exact hp.of_worker hworker rfl (by simp) fun a => Nat.add_comm _ _
  | crash hworker =>
    intro hwhole
    exact absurd (List.mem_set (List.getElem?_eq_some_iff.1 hworker).1 .crashed) hwhole
  | flush =>
    exact hp.unmoved rfl (filterMap_map_eq_nil (fun _ => rfl) _)
      (filterMap_map_eq_nil (fun _ => rfl) _)
  | _ => exact hp.unmoved rfl rfl rfl

theorem matched_run [DecidableEq α] {config : PoolConfig} {actions : List (PoolAction α)}
    {p : Pool α} {seen : List (PoolEffect α)} (h : (new config).run? actions = some (p, seen)) :
    Matched p seen := by
  refine run?_induction_new (motive := Matched) Matched.step (fun _ a => ?_) h
  simp [new, List.filterMap_replicate, Worker.sending?]

/-- When the wrapped transport is closed, all calls of it have returned, and no other follows. -/
def InPeace (seen : List (PoolEffect α)) : Prop :=
  ∀ before after : List (PoolEffect α), seen = before ++ .closedWrapped :: after →
    (before.filterMap PoolEffect.handed?).Perm (before.filterMap PoolEffect.delivered?)
      ∧ after.filterMap PoolEffect.handed? = []

theorem inPeace_of_countP {seen : List (PoolEffect α)}
    (h : seen.countP PoolEffect.isClosing = 0) : InPeace seen := by
  rintro before after rfl
  exact absurd rfl (List.countP_eq_zero.1 h .closedWrapped (by simp))

/-- The workers of a drained pool hand nothing on. -/
theorem Drained.handed_eq_nil {p q : Pool α} {past seen : List (PoolEffect α)}
    {action : PoolAction α} (hp : Drained p past) (h : Step p action q seen) :
    seen.filterMap PoolEffect.handed? = [] := by
  cases h with
  | hand hworker => cases hp.finished _ (List.mem_of_getElem? hworker)
  | refuseClosed | refuseGone | refuseFull => exact filterMap_refuse _ _ _ _ _ _ fun _ => rfl
  | flush => exact filterMap_map_eq_nil (fun _ => rfl) _
  | _ => rfl

/-- In a drained pool every call of the wrapped transport has returned. -/
theorem Drained.handed_perm [DecidableEq α] {p : Pool α} {seen : List (PoolEffect α)}
    (hp : Drained p seen) (hmatched : Matched p seen) :
    (seen.filterMap PoolEffect.handed?).Perm (seen.filterMap PoolEffect.delivered?) := by
  have hwhole : .crashed ∉ p.workers := fun h => by cases hp.finished _ h
  have hsending : p.workers.filterMap Worker.sending? = [] := by
    rw [List.filterMap_eq_nil_iff]
    intro w hw
    rw [hp.finished w hw]
    rfl
  rw [List.perm_iff_count]
  intro a
  rw [hmatched hwhole a, hsending, List.count_nil, Nat.add_zero]

/-- Only closing the wrapped transport shows that it is closed. -/
theorem Step.isClosing_cases {p q : Pool α} {action : PoolAction α} {seen : List (PoolEffect α)}
    (h : Step p action q seen) : .closedWrapped ∉ seen ∨ seen = [.closedWrapped] := by
  cases h with
  | propagate => exact .inr rfl
  | refuseClosed | refuseGone | refuseFull => left; simp [refuse]
  | flush => left; simp
  | _ => left; simp

theorem InPeace.step [DecidableEq α] {p q : Pool α} {past seen : List (PoolEffect α)}
    {action : PoolAction α} (hp : InPeace past) (hdrained : Drained p past)
    (hmatched : Matched p past) (h : Step p action q seen) : InPeace (past ++ seen) := by
  intro before after hseen
  rcases append_eq_append_cons hseen with ⟨rest, rfl, rfl⟩ | ⟨front, rfl, hfront⟩
  · obtain ⟨hbefore, hafter⟩ := hp _ _ rfl
    exact ⟨hbefore, by rw [List.filterMap_append, hafter, hdrained.handed_eq_nil h]; rfl⟩
  · -- the wrapped transport is closed in this very step
    rcases h.isClosing_cases with hnone | rfl
    · exact absurd (hfront ▸ List.mem_append_right front List.mem_cons_self) hnone
    · obtain ⟨rfl, rfl⟩ : front = [] ∧ after = [] := by
        cases front with
        | nil => simpa using hfront
        | cons => simp at hfront
      rw [List.append_nil]
      exact ⟨hdrained.handed_perm hmatched, rfl⟩

end Pool
end ErrorReport
