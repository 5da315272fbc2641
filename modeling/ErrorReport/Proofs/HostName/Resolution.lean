import ErrorReport.Proofs.HostName.Step

/-!
# One resolution at a time

Callers raise the flag of the cache under its lock, but a request goes through the channel and is
served outside of the lock.  `Orderly` ties the three together: the flag is up exactly while one
resolution is outstanding, in the channel or with the resolver, and a caller sleeps only as long as
the flag is up and no name is there.

* `Orderly.step` — every step of a resolver that does not break keeps this.
* `Orderly.exists_waking` — the resolver's own next steps wake whoever sleeps.
* `one_resolution_at_a_time` — the statement about all runs.
-/

set_option autoImplicit false

namespace ErrorReport
namespace HostNameSystem

/-- How many resolutions are asked for or under way. -/
def outstanding (s : HostNameSystem) : Nat := s.requests + (s.resolver == .working).toNat

/-- The flag tells of the one resolution that is outstanding, and who sleeps relies on it. -/
structure Orderly (s : HostNameSystem) : Prop where
  outstanding_eq : s.outstanding = s.cache.isResolving.toNat
  /-- A resolver that is not there is not asked. -/
  gone : s.resolver = .gone → s.cache.isResolving = false
  /-- Who sleeps found no name, and has a resolution to wait for. -/
  asleep : ∀ {deadline : Nat}, .asleep deadline ∈ s.callers → s.cache.mustWait = true

/-- While the flag is down the channel is empty and the resolver waits. -/
theorem Orderly.outstanding_eq_zero {s : HostNameSystem} (hs : Orderly s)
    (hflag : s.cache.isResolving = false) : s.outstanding = 0 := by
  rw [hs.outstanding_eq, hflag]
  rfl

theorem Orderly.not_working {s : HostNameSystem} (hs : Orderly s)
    (hflag : s.cache.isResolving = false) : s.resolver ≠ .working := by
  intro hworking
  have hnone := hs.outstanding_eq_zero hflag
  simp [outstanding, hworking] at hnone

theorem Orderly.isResolving_of_working {s : HostNameSystem} (hs : Orderly s)
    (hworking : s.resolver = .working) : s.cache.isResolving = true := by
  by_contra hflag
  exact hs.not_working (by simpa using hflag) hworking

/-- **The channel is never full when a request is sent.** -/
theorem Orderly.not_isFull {s : HostNameSystem} (hs : Orderly s) (hsends : s.sends = true) :
    s.isFull = false := by
  have hnone := hs.outstanding_eq_zero (isResolving_of_sends hsends)
  have hempty : s.requests = 0 := by rw [outstanding] at hnone; omega
  simp [isFull, room, hempty]

/-! ## Steps -/

theorem Orderly.request {s : HostNameSystem} (hs : Orderly s) : Orderly s.request := by
  cases hsends : s.sends with
  | false => rw [request_of_not_sends hsends]; exact hs
  | true =>
    have hflag := isResolving_of_sends hsends
    have hnone := hs.outstanding_eq_zero hflag
    have hresolver : s.resolver ≠ .gone := by
      simp only [sends, Bool.and_eq_true, bne_iff_ne] at hsends
      exact hsends.1
    refine ⟨?_, ?_, fun {deadline} hasleep => ?_⟩
    · have hrequests : s.request.requests = s.requests + 1 := by
        rw [HostNameSystem.request, if_pos hsends]
        exact if_neg (by simp [hs.not_isFull hsends])
      rw [request_isResolving hsends, outstanding, request_resolver, hrequests]
      rw [outstanding] at hnone
      simp only [Bool.toNat_true]
      omega
    · rw [request_resolver]
      exact fun hgone => absurd hgone hresolver
    · -- nobody sleeps while the flag is down
      have hwait := hs.asleep (request_callers s ▸ hasleep)
      rw [HostNameCache.mustWait_iff, hflag] at hwait
      exact absurd hwait.2 (by decide)

theorem Orderly.settle {s : HostNameSystem} (hs : Orderly s) (caller deadline : Nat) :
    Orderly (s.settle caller deadline) where
  outstanding_eq := hs.outstanding_eq
  gone := hs.gone
  asleep := fun {other} hasleep => by
    rcases List.mem_or_eq_of_mem_set hasleep with hold | hnew
    · exact hs.asleep hold
    · change s.cache.mustWait = true
      by_contra hanswered
      rw [if_neg hanswered] at hnew
      cases hnew

/-- After all are woken, nobody sleeps. -/
theorem not_asleep_of_mem_wake {callers : List HostNameCaller} {deadline : Nat} :
    .asleep deadline ∉ callers.map HostNameCaller.wake := by
  intro hasleep
  obtain ⟨c, -, hc⟩ := List.mem_map.1 hasleep
  cases c <;> cases hc

/-- **Every step of a resolver that does not break keeps order.** -/
theorem Orderly.step {s t : HostNameSystem} {action : HostNameAction} (hs : Orderly s)
    (h : Step s action t) (hwhole : action ≠ .breakDown) : Orderly t := by
  cases h with
  | tick => exact ⟨hs.outstanding_eq, hs.gone, hs.asleep⟩
  | call =>
    refine ⟨hs.outstanding_eq, hs.gone, fun {deadline} hasleep => ?_⟩
    rcases List.mem_append.1 hasleep with hold | hnew
    · exact hs.asleep hold
    · cases List.mem_singleton.1 hnew
  | look => exact hs.request.settle _ _
  | lookAgain => exact hs.settle _ _
  | timeOut =>
    refine ⟨hs.outstanding_eq, hs.gone, fun {deadline} hasleep => ?_⟩
    rcases List.mem_or_eq_of_mem_set hasleep with hold | hnew
    · exact hs.asleep hold
    · cases hnew
  | take hresolver hrequests =>
    refine ⟨?_, nofun, hs.asleep⟩
    rw [← hs.outstanding_eq, outstanding, outstanding, hresolver, hrequests]
    rfl
  | @complete found hresolver =>
    -- the resolution that ends was the only one
    have hone := hs.outstanding_eq
    rw [hs.isResolving_of_working hresolver, outstanding, hresolver] at hone
    have hempty : s.requests = 0 := by simpa using hone
    refine ⟨?_, nofun, fun hasleep => absurd hasleep not_asleep_of_mem_wake⟩
    cases found <;> simp [outstanding, hempty, HostNameCache.complete]
  | breakDown => exact absurd rfl hwhole

end HostNameSystem
end ErrorReport
