import ErrorReport.Proofs.Pool.Drain

/-!
# Refused calls of sending

A call of sending that finds no handle of the queue is refused, and every refusal is counted.

* `refusals_run` — the drop counter counts the calls that were refused, each one once.
* `Late` — once the pool has dropped its handle, calls that begin later come to nothing but a
  refusal, so nothing that is handed on was theirs: `Late.handed_subperm`.
-/

set_option autoImplicit false

namespace ErrorReport

/-- Whether a call of sending was refused. -/
def SendCall.isRefused {α : Type} : SendCall α → Bool
  | refused _ _ => true
  | entered _ | holding _ | accepted _ => false

namespace DropCounter

@[simp] theorem warnIfDue_total (c : DropCounter) (now : Nat) :
    (c.warnIfDue now).2.total = c.total := by
  rw [warnIfDue]
  split <;> rfl

@[simp] theorem flush_total (c : DropCounter) (now : Nat) : (c.flush now).2.total = c.total := by
  rw [flush]
  split <;> rfl

end DropCounter

namespace Pool

variable {α : Type}

@[simp] theorem refuse_total (p : Pool α) (call now : Nat) (event : α) (reason : Refusal) :
    (p.refuse call now event reason).1.drops.total = p.drops.total + 1 :=
  DropCounter.warnIfDue_total p.drops.recordDrop now

/-! ## Every refusal is counted -/

theorem countP_isRefused_refuse {p : Pool α} {call : Nat} {old : SendCall α}
    (hcall : p.sends[call]? = some old) (hold : old.isRefused = false) (now : Nat) (event : α)
    (reason : Refusal) (h : p.drops.total = p.sends.countP SendCall.isRefused) :
    (p.refuse call now event reason).1.drops.total
      = (p.refuse call now event reason).1.sends.countP SendCall.isRefused := by
  have hset := countP_set SendCall.isRefused hcall (.refused event reason.error)
  rw [hold] at hset
  rw [refuse_total, refuse_sends, h]
  exact hset.symm

theorem countP_isRefused_set {p : Pool α} {call : Nat} {old new : SendCall α}
    (hcall : p.sends[call]? = some old) (hold : old.isRefused = false)
    (hnew : new.isRefused = false) :
    (p.sends.set call new).countP SendCall.isRefused = p.sends.countP SendCall.isRefused := by
  have hset := countP_set SendCall.isRefused hcall new
  rw [hold, hnew] at hset
  exact hset

theorem Step.refusals {p q : Pool α} {action : PoolAction α} {seen : List (PoolEffect α)}
    (h : Step p action q seen) (hp : p.drops.total = p.sends.countP SendCall.isRefused) :
    q.drops.total = q.sends.countP SendCall.isRefused := by
  cases h with
  | beginSend event => rw [hp]; simp [SendCall.isRefused]
  | takeHandle hcall | accept hcall =>
    rw [setSend, countP_isRefused_set hcall rfl rfl]
    exact hp
  | refuseClosed hcall | refuseGone hcall | refuseFull hcall =>
    exact countP_isRefused_refuse hcall rfl _ _ _ hp
  | flush => exact (p.drops.flush_total _).trans hp
  | _ => exact hp

/-- **The drop counter counts the refused calls.** -/
theorem refusals_run {config : PoolConfig} {actions : List (PoolAction α)} {p : Pool α}
    {seen : List (PoolEffect α)} (h : (new config).run? actions = some (p, seen)) :
    p.drops.total = p.sends.countP SendCall.isRefused :=
  run?_induction_new
    (motive := fun (q : Pool α) _ => q.drops.total = q.sends.countP SendCall.isRefused)
    (fun hp hstep => hstep.refusals hp) rfl h

/-! ## Calls that come too late -/

/-- The pool has dropped its handle, and no call from `start` on has got anywhere. -/
structure Late (start : Nat) (p : Pool α) : Prop where
  noHandle : p.hasHandle = false
  /-- Such a call has yet to ask for a handle, or was refused. -/
  refused : ∀ {call : Nat} {c : SendCall α}, start ≤ call → p.sends[call]? = some c →
    c = .entered c.event ∨ c = .refused c.event .closed

theorem late_self {p : Pool α} (h : p.hasHandle = false) : Late p.sends.length p where
  noHandle := h
  refused := fun hlate hcall => by
    rw [List.getElem?_eq_none hlate] at hcall
    cases hcall

/-- A step that moves one call of sending on. -/
theorem Late.of_set {start : Nat} {p q : Pool α} (hp : Late start p) {call : Nat} {new : SendCall α}
    (hsends : q.sends = p.sends.set call new) (hhandle : q.hasHandle = p.hasHandle)
    (hnew : start ≤ call → new = .refused new.event .closed) : Late start q where
  noHandle := hhandle.trans hp.noHandle
  refused := fun {other c} hlate hother => by
    rw [hsends, List.getElem?_set] at hother
    split at hother
    · rename_i heq
      split at hother <;> cases hother
      exact .inr (hnew (heq ▸ hlate))
    · exact hp.refused hlate hother

theorem Late.step {start : Nat} {p q : Pool α} {action : PoolAction α} {seen : List (PoolEffect α)}
    (hp : Late start p) (h : Step p action q seen) : Late start q := by
  -- a call with a handle of its own began early enough
  have early {call : Nat} {event : α} (hcall : p.sends[call]? = some (.holding event))
      (hlate : start ≤ call) : False := by
    rcases hp.refused hlate hcall with h | h <;> cases h
  cases h with
  | beginSend event =>
    refine ⟨hp.noHandle, fun {call c} hlate hcall => ?_⟩
    rw [List.getElem?_append] at hcall
    split at hcall
    · exact hp.refused hlate hcall
    · obtain rfl := List.mem_singleton.1 (List.mem_of_getElem? hcall)
      exact .inl rfl
  | takeHandle _ hopen => exact absurd hopen (by simp [hp.noHandle])
  | refuseClosed => exact hp.of_set rfl rfl fun _ => rfl
  | accept hcall | refuseGone hcall | refuseFull hcall =>
    exact hp.of_set rfl rfl fun hlate => (early hcall hlate).elim
  | dropHandle => exact ⟨rfl, hp.refused⟩
  | _ => exact ⟨hp.noHandle, hp.refused⟩

/-- A call that comes too late is refused as soon as it asks for a handle, and counted. -/
theorem Late.takeHandle {start : Nat} {p : Pool α} (hp : Late start p) {call : Nat} {event : α}
    (hcall : p.sends[call]? = some (.entered event)) (now : Nat) :
    ∃ q seen, p.step? (.takeHandle call now) = some (q, seen)
      ∧ q.sends[call]? = some (.refused event .closed) ∧ q.drops.total = p.drops.total + 1 := by
  refine ⟨(p.refuse call now event .closed).1, (p.refuse call now event .closed).2, ?_, ?_,
    refuse_total ..⟩
  · simp [step?, takeHandle?, hcall, hp.noHandle]
  · rw [refuse_sends]
    exact getElem?_set_new hcall _

/-- What is accepted at all is accepted by the calls that began early enough. -/
theorem Late.acceptedEvents_eq {start : Nat} {p : Pool α} (hp : Late start p) :
    p.acceptedEvents = (p.sends.take start).filterMap SendCall.accepted? := by
  have hlate : (p.sends.drop start).filterMap SendCall.accepted? = [] := by
    rw [List.filterMap_eq_nil_iff]
    intro c hc
    obtain ⟨i, hi⟩ := List.getElem?_of_mem hc
    rw [List.getElem?_drop] at hi
    rcases hp.refused (Nat.le_add_right start i) hi with h | h <;> rw [h] <;> rfl
  calc p.acceptedEvents
      = (p.sends.take start ++ p.sends.drop start).filterMap SendCall.accepted? := by
        rw [List.take_append_drop]; rfl
    _ = (p.sends.take start).filterMap SendCall.accepted? := by
        rw [List.filterMap_append, hlate, List.append_nil]

/-- **Nothing that is handed on was given by a call that came too late.** -/
theorem Late.handed_subperm [DecidableEq α] {start : Nat} {p : Pool α}
    {seen : List (PoolEffect α)} (hp : Late start p) (hbalanced : Balanced p seen) :
    (p.eventsAt seen .handed).Subperm ((p.sends.take start).filterMap SendCall.accepted?) := by
  rw [← hp.acceptedEvents_eq]
  refine List.Subperm.trans ?_ hbalanced.acceptedEvents_perm.symm.subperm
  exact ((List.sublist_append_right _ _).trans (List.sublist_append_left _ _)).subperm

end Pool
end ErrorReport
