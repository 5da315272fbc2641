import ErrorReport.Proofs.Pool.Drain

/-!
# The first call of closing

Closing begins with the call that finds the pool open.  `Led` says what that leaves to the others:
they return at once, and do nothing that anybody sees.  The first call waits for the workers, and
when it has done with waiting the pool is `Settled`: the workers reported completion, or they were
told to discard what is left.

* `Settled.step` — a settled pool stays settled.
* `Led.step`, `Unbegun.led` — from the step with which closing begins, one call leads.
-/

set_option autoImplicit false

namespace ErrorReport

/-- Whether a call of closing has not done with the workers. -/
def CloseCall.isWaiting : CloseCall → Bool
  | won | awaiting _ | gaveUp _ => true
  | entered | flushing | propagating | closingWrapped | returned _ => false

/-- The call of closing that makes a step. -/
def PoolAction.closer? {α : Type} : PoolAction α → Option Nat
  | claim call | dropHandle call | takeReport call | giveUp call | abandon call | flush call _
  | propagate call | finish call _ => some call
  | beginSend _ | takeHandle _ _ | enqueue _ _ | receive _ | dispatch _ | hand _ | deliver _ _
  | crash _ | report _ | beginClose => none

namespace Pool

variable {α : Type}

/-- A first call that is under way has begun closing. -/
theorem Shutdown.isClosed {p : Pool α} {seen : List (PoolEffect α)} (hp : Shutdown p seen)
    {call : Nat} {c : CloseCall} (hcall : p.closes[call]? = some c) (hfirst : c.isFirst = true) :
    p.isClosed = true := by
  by_contra hopen
  have hnone := (hp.unclaimed (by simpa using hopen)).2.2
  exact List.countP_eq_zero.1 hnone c (List.mem_of_getElem? hcall) hfirst

/-! ## A settled pool -/

/-- The workers reported completion, or are to discard what they get. -/
def Settled (p : Pool α) : Prop := p.isAbandoned = true ∨ ∀ w ∈ p.workers, w = .finished

/-- **A settled pool stays settled.** -/
theorem Settled.step {p q : Pool α} {action : PoolAction α} {seen : List (PoolEffect α)}
    (hp : Settled p) (h : Step p action q seen) : Settled q := by
  rcases hp with habandoned | hfinished
  · left
    cases h <;> first | rfl | exact habandoned
  · right
    exact (Drained.step ⟨hfinished, List.filterMap_nil⟩ h).finished

/-- No step gives a pool its handle back. -/
theorem Step.noHandle {p q : Pool α} {action : PoolAction α} {seen : List (PoolEffect α)}
    (h : Step p action q seen) (hp : p.hasHandle = false) : q.hasHandle = false := by
  cases h <;> first | rfl | exact hp

/-! ## One call leads -/

/-- Closing has begun, and `first` is the call that began it. -/
structure Led (first : Nat) (p : Pool α) : Prop where
  closed : p.isClosed = true
  /-- The first call is under way or has returned. -/
  begun : ∃ c, p.closes[first]? = some c ∧ c ≠ .entered
  /-- The others have yet to find out that they are late, or returned. -/
  others : ∀ {call : Nat} {c : CloseCall}, call ≠ first → p.closes[call]? = some c →
    c = .entered ∨ c = .returned .done
  /-- The first call drops the handle before anything else. -/
  noHandle : p.closes[first]? ≠ some .won → p.hasHandle = false
  /-- The first call does not go on before the pool is settled. -/
  settled : ∀ {c : CloseCall}, p.closes[first]? = some c → c.isWaiting = false → Settled p

/-- A call that is neither new nor done well is the first one. -/
theorem Led.eq_first {first : Nat} {p : Pool α} (hp : Led first p) {call : Nat} {c : CloseCall}
    (hcall : p.closes[call]? = some c) (hentered : c ≠ .entered) (hdone : c ≠ .returned .done) :
    call = first := by
  by_contra hne
  exact (hp.others hne hcall).elim hentered hdone

/-- A step that touches no call of closing. -/
theorem Led.of_closes {first : Nat} {p q : Pool α} (hp : Led first p)
    (hclosed : q.isClosed = p.isClosed) (hcloses : q.closes = p.closes)
    (hhandle : p.hasHandle = false → q.hasHandle = false) (hsettled : Settled p → Settled q) :
    Led first q where
  closed := hclosed.trans hp.closed
  begun := by rw [hcloses]; exact hp.begun
  others := by rw [hcloses]; exact hp.others
  noHandle := by rw [hcloses]; exact fun h => hhandle (hp.noHandle h)
  settled := by rw [hcloses]; exact fun hfirst hwaiting => hsettled (hp.settled hfirst hwaiting)

/-- A step of the first call of closing. -/
theorem Led.of_first {first : Nat} {p q : Pool α} (hp : Led first p) {call : Nat}
    {old new : CloseCall} (hcall : p.closes[call]? = some old) (hold : old.isFirst = true)
    (hclosed : q.isClosed = p.isClosed) (hcloses : q.closes = p.closes.set call new)
    (hnew : new ≠ .entered) (hhandle : q.hasHandle = false)
    (hsettled : new.isWaiting = false → Settled q) : Led first q := by
  obtain rfl : call = first :=
    hp.eq_first hcall (by rintro rfl; cases hold) (by rintro rfl; cases hold)
  have hself : q.closes[call]? = some new := by
    rw [hcloses]
    exact getElem?_set_new hcall _
  exact {
    closed := hclosed.trans hp.closed
    begun := ⟨new, hself, hnew⟩
    others := fun {other c} hne hother => by
      rw [hcloses, List.getElem?_set_ne hne.symm] at hother
      exact hp.others hne hother
    noHandle := fun _ => hhandle
    settled := fun hfirst hwaiting => by
      rw [hself] at hfirst
      cases hfirst
      exact hsettled hwaiting }

/-- **The call that began closing leads it to the end.** -/
theorem Led.step {first : Nat} {p q : Pool α} {past seen : List (PoolEffect α)}
    {action : PoolAction α} (hp : Led first p) (hshutdown : Shutdown p past)
    (h : Step p action q seen) : Led first q := by
  have hsettled (hp : Settled p) : Settled q := hp.step h
  have hhandle := h.noHandle
  -- a first call that is past its start has dropped the handle
  have dropped {call : Nat} {c : CloseCall} (hcall : p.closes[call]? = some c)
      (hfirst : c.isFirst = true) (hwon : c ≠ .won) : p.hasHandle = false := by
    have := hp.eq_first hcall (by rintro rfl; cases hfirst) (by rintro rfl; cases hfirst)
    subst this
    exact hp.noHandle (by rw [hcall]; simpa using hwon)
  have waited {call : Nat} {c : CloseCall} (hcall : p.closes[call]? = some c)
      (hfirst : c.isFirst = true) (hwaiting : c.isWaiting = false) : Settled p := by
    have := hp.eq_first hcall (by rintro rfl; cases hfirst) (by rintro rfl; cases hfirst)
    subst this
    exact hp.settled hcall hwaiting
  cases h with
  | beginClose =>
    have hlast {call : Nat} {c : CloseCall} (hc : (p.closes ++ [.entered])[call]? = some c) :
        p.closes[call]? = some c ∨ c = .entered := by
      rw [List.getElem?_append] at hc
      split at hc
      · exact .inl hc
      · exact .inr (List.mem_singleton.1 (List.mem_of_getElem? hc))
    obtain ⟨c, hfirst, hbegun⟩ := hp.begun
    have hkept : (p.closes ++ [.entered])[first]? = p.closes[first]? :=
      List.getElem?_append_left (List.getElem?_eq_some_iff.1 hfirst).1
    exact {
      closed := hp.closed
      begun := ⟨c, hkept.trans hfirst, hbegun⟩
      others := fun hne hc => (hlast hc).elim (hp.others hne) .inl
      noHandle := fun hwon => hp.noHandle (by rwa [← hkept])
      settled := fun hc hwaiting => hp.settled (hkept.symm.trans hc) hwaiting }
  | @claimLate call hcall hclosed =>
    have hne : call ≠ first := by
      rintro rfl
      obtain ⟨c, hfirst, hbegun⟩ := hp.begun
      rw [hcall] at hfirst
      cases hfirst
      exact hbegun rfl
    have hkept : (p.closes.set call (.returned .done))[first]? = p.closes[first]? :=
      List.getElem?_set_ne hne
    exact {
      closed := hp.closed
      begun := by rw [setClose, hkept]; exact hp.begun
      others := fun {other c} hother hc => by
        rw [setClose, List.getElem?_set] at hc
        split at hc
        · split at hc <;> cases hc
          exact .inr rfl
        · exact hp.others hother hc
      noHandle := by rw [setClose, hkept]; exact hp.noHandle
      settled := by rw [setClose, hkept]; exact hp.settled }
  | claim _ hopen => exact absurd hp.closed (by simp [hopen])
  | dropHandle hcall =>
    exact hp.of_first hcall rfl rfl rfl (by simp) rfl fun hwaiting => by cases hwaiting
  | takeReport hcall | giveUp hcall =>
    exact hp.of_first hcall rfl rfl rfl (by simp) (dropped hcall rfl (by simp))
      fun hwaiting => by cases hwaiting
  | allReported hcall =>
    refine hp.of_first hcall rfl rfl rfl (by simp) (dropped hcall rfl (by simp)) fun _ => ?_
    exact .inr (hshutdown.drained_of_awaiting (List.mem_of_getElem? hcall)).finished
  | abandon hcall =>
    exact hp.of_first hcall rfl rfl rfl (by simp) (dropped hcall rfl (by simp)) fun _ => .inl rfl
  | flush hcall =>
    exact hp.of_first hcall rfl rfl rfl (by split <;> simp) (dropped hcall rfl (by simp))
      fun _ => waited hcall rfl rfl
  | propagate hcall | finish _ hcall =>
    exact hp.of_first hcall rfl rfl rfl (by simp) (dropped hcall rfl (by simp))
      fun _ => waited hcall rfl rfl
  | _ => exact hp.of_closes rfl rfl hhandle hsettled

/-- While closing has not begun, no call of closing has got anywhere. -/
def Unbegun (p : Pool α) : Prop := p.isClosed = false → ∀ c ∈ p.closes, c = .entered

theorem Unbegun.step {p q : Pool α} {past seen : List (PoolEffect α)} {action : PoolAction α}
    (hp : Unbegun p) (hshutdown : Shutdown p past) (h : Step p action q seen) : Unbegun q := by
  have begun (hclosed : p.isClosed = true) {r : Pool α} (hr : r.isClosed = p.isClosed) :
      Unbegun r := fun hopen => by simp [hr, hclosed] at hopen
  cases h with
  | beginClose =>
    intro hopen c hc
    rcases List.mem_append.1 hc with hc | hc
    · exact hp hopen c hc
    · exact List.mem_singleton.1 hc
  | claimLate _ hclosed => exact begun hclosed rfl
  | claim => exact fun hopen => by cases hopen
  | dropHandle hcall | takeReport hcall | allReported hcall | giveUp hcall | abandon hcall
  | flush hcall | propagate hcall | finish _ hcall =>
    exact begun (hshutdown.isClosed hcall rfl) rfl
  | _ => exact hp

/-- **The call that finds the pool open leads.** -/
theorem Unbegun.led {p q : Pool α} {seen : List (PoolEffect α)} {call : Nat} (hp : Unbegun p)
    (hopen : p.isClosed = false) (h : p.step? (.claim call) = some (q, seen)) : Led call q := by
  cases step_of_step? h with
  | claimLate _ hclosed => exact absurd hopen (by simp [hclosed])
  | claim hcall =>
    have hself : (p.closes.set call .won)[call]? = some .won :=
      getElem?_set_new hcall _
    exact {
      closed := rfl
      begun := ⟨.won, hself, by simp⟩
      others := fun {other c} hne hc => by
        rw [setClose, List.getElem?_set_ne hne.symm] at hc
        exact .inl (hp hopen c (List.mem_of_getElem? hc))
      noHandle := fun hwon => absurd hself hwon
      settled := fun hc hwaiting => by
        rw [setClose, hself] at hc
        cases hc
        cases hwaiting }

theorem unbegun_run {config : PoolConfig} {actions : List (PoolAction α)} {p : Pool α}
    {seen : List (PoolEffect α)} (h : (new config).run? actions = some (p, seen)) : Unbegun p :=
  (run?_induction_new (motive := fun q past => Unbegun q ∧ Shutdown q past)
    (fun hp hstep => ⟨hp.1.step hp.2 hstep, hp.2.step hstep⟩)
    ⟨by simp [Unbegun, new], shutdown_new config⟩ h).1

end Pool
end ErrorReport
