import ErrorReport.Scope

/-!
# Marks and guards

A thread has its mark exactly while it holds a guard, and it never holds two of them
(`Scopes.IsSound`).  Entering and dropping keep this, and a thread that unwinds does nothing but
drop, so it is true whatever happens on any number of threads (`Scopes.marks_are_guards`).

Acts are looked at through the guards that are held after them: entering gives a guard to a thread
without a mark and to no other (`Scopes.holds_enter_iff`), and dropping takes away the guard that is
dropped and no other (`Scopes.holds_drop_iff`).
-/

set_option autoImplicit false

namespace ErrorReport

namespace Scopes

/-- An attempt got its thread a guard, and the guard is not dropped yet. -/
def Holds (s : Scopes) (thread attempt : Nat) : Prop := s.attempts[attempt]? = some ⟨thread, true⟩

/-- An attempt was refused, or its guard is dropped. -/
def IsOver (s : Scopes) (attempt : Nat) : Prop :=
  ∃ thread, s.attempts[attempt]? = some ⟨thread, false⟩

variable {s : Scopes} {t u i j : Nat}

theorem Holds.thread_eq (h : s.Holds t i) (h' : s.Holds u i) : t = u :=
  congrArg Attempt.thread (Option.some.inj (Eq.trans h.symm h'))

theorem Holds.not_isOver (h : s.Holds t i) : ¬s.IsOver i := by
  rintro ⟨u, hu⟩
  exact Bool.noConfusion (congrArg Attempt.isLive (Option.some.inj (Eq.trans h.symm hu)))

theorem Holds.isOf (h : s.Holds t i) : s.isOf u i = true ↔ t = u := by
  rw [Scopes.isOf, h, Option.any_some, beq_iff_eq]

/-! ## Entering -/

theorem attempts_enter (s : Scopes) (t : Nat) :
    (s.enter t).attempts = s.attempts ++ [⟨t, !s.isActive t⟩] := rfl

theorem isActive_enter (s : Scopes) (t u : Nat) :
    (s.enter t).isActive u = if u = t then true else s.isActive u := rfl

/-- The answer to an attempt. -/
theorem lastEntered_enter (s : Scopes) (t : Nat) : (s.enter t).lastEntered = !s.isActive t := by
  rw [lastEntered, attempts_enter, List.getLast?_concat]
  rfl

/-- A thread without a mark gets a guard, and all other guards stay. -/
theorem holds_enter_iff : (s.enter t).Holds u i ↔
    s.Holds u i ∨ i = s.attempts.length ∧ u = t ∧ s.isActive t = false := by
  rw [Holds, attempts_enter, Holds]
  rcases Nat.lt_trichotomy i s.attempts.length with hi | rfl | hi
  · rw [List.getElem?_append_left hi]
    exact ⟨.inl, fun h => h.resolve_right fun h => absurd h.1 (Nat.ne_of_lt hi)⟩
  · rw [List.getElem?_concat_length, List.getElem?_eq_none (Nat.le_refl _), Option.some.injEq,
      Attempt.mk.injEq, Bool.not_eq_true', eq_comm (a := t)]
    simp
  · rw [List.getElem?_eq_none (by rw [List.length_append]; exact hi),
      List.getElem?_eq_none (Nat.le_of_lt hi)]
    simp [Nat.ne_of_gt hi]

theorem isOver_enter (h : s.IsOver i) : (s.enter t).IsOver i := by
  obtain ⟨u, hu⟩ := h
  obtain ⟨hi, -⟩ := List.getElem?_eq_some_iff.1 hu
  exact ⟨u, by rw [attempts_enter, List.getElem?_append_left hi, hu]⟩

/-- A refused attempt has nothing to drop. -/
theorem isOver_refused (h : s.isActive t = true) : (s.enter t).IsOver s.attempts.length :=
  ⟨t, by rw [attempts_enter, List.getElem?_concat_length, h]; rfl⟩

/-! ## Dropping -/

/-- Dropping a guard clears the mark of its thread, and without a guard nothing is dropped. -/
theorem drop_cases (s : Scopes) (j : Nat) :
    (∃ t, s.Holds t j ∧
      s.drop j = { s.mark t false with attempts := s.attempts.set j ⟨t, false⟩ }) ∨
      (∀ t, ¬s.Holds t j) ∧ s.drop j = s := by
  rw [drop]
  split
  · rename_i thread hj
    exact .inl ⟨thread, hj, rfl⟩
  · rename_i hj
    exact .inr ⟨hj, rfl⟩

theorem drop_of_isOver (h : s.IsOver j) : s.drop j = s := by
  obtain ⟨t, ht, -⟩ | ⟨-, hdrop⟩ := s.drop_cases j
  · exact absurd h ht.not_isOver
  · exact hdrop

/-- The guard that is dropped is gone, and all others stay. -/
theorem holds_drop_iff : (s.drop j).Holds u i ↔ s.Holds u i ∧ i ≠ j := by
  obtain ⟨t, ht, hdrop⟩ | ⟨hnone, hdrop⟩ := s.drop_cases j
  · obtain ⟨hlt, -⟩ := List.getElem?_eq_some_iff.1 ht
    rw [hdrop, Holds]
    by_cases hi : i = j
    · rw [hi, List.getElem?_set_self hlt]
      simp
    · rw [List.getElem?_set_ne (Ne.symm hi)]
      exact ⟨fun h => ⟨h, hi⟩, And.left⟩
  · rw [hdrop]
    refine ⟨fun h => ⟨h, ?_⟩, And.left⟩
    rintro rfl
    exact hnone u h

theorem isOver_drop (h : s.IsOver i) : (s.drop j).IsOver i := by
  obtain ⟨t, ht, hdrop⟩ | ⟨-, hdrop⟩ := s.drop_cases j
  · obtain ⟨u, hu⟩ := h
    have hne : j ≠ i := by
      rintro rfl
      exact ht.not_isOver ⟨u, hu⟩
    exact ⟨u, by rw [hdrop, List.getElem?_set_ne hne, hu]⟩
  · rwa [hdrop]

/-- Guards that are dropped one after the other. -/
theorem holds_foldl_drop_iff {attempts : List Nat} :
    (attempts.foldl drop s).Holds u i ↔ s.Holds u i ∧ i ∉ attempts := by
  induction attempts generalizing s with
  | nil => simp
  | cons j attempts ih =>
    rw [List.foldl_cons, ih, holds_drop_iff, List.mem_cons, not_or, and_assoc]

theorem isOver_foldl_drop {attempts : List Nat} (h : s.IsOver i) :
    (attempts.foldl drop s).IsOver i := by
  induction attempts generalizing s with
  | nil => exact h
  | cons j attempts ih => exact ih (isOver_drop h)

/-! ## Marks -/

/-- No thread holds two guards, and the threads that hold one are those with a mark. -/
structure IsSound (s : Scopes) : Prop where
  exclusive : ∀ {t i j : Nat}, s.Holds t i → s.Holds t j → i = j
  isActive_iff : ∀ t, s.isActive t = true ↔ ∃ i, s.Holds t i

theorem isSound_new : ({} : Scopes).IsSound where
  exclusive h := absurd h (by simp [Holds])
  isActive_iff t := by simp [Holds]

theorem IsSound.not_holds (h : s.IsSound) (ht : s.isActive t = false) : ¬s.Holds t i := fun hi =>
  absurd ((h.isActive_iff t).2 ⟨i, hi⟩) (by rw [ht]; decide)

theorem IsSound.enter (h : s.IsSound) (t : Nat) : (s.enter t).IsSound where
  exclusive := by
    intro u i j hi hj
    rw [holds_enter_iff] at hi hj
    rcases hi with hi | ⟨rfl, rfl, hactive⟩ <;> rcases hj with hj | ⟨rfl, hut, hactive'⟩
    · exact h.exclusive hi hj
    · exact absurd (hut ▸ hi) (h.not_holds hactive')
    · exact absurd hj (h.not_holds hactive)
    · rfl
  isActive_iff u := by
    simp only [isActive_enter, holds_enter_iff]
    split
    · rename_i hu
      subst hu
      refine iff_of_true rfl ?_
      cases hactive : s.isActive u with
      | false => exact ⟨_, .inr ⟨rfl, rfl, rfl⟩⟩
      | true =>
        obtain ⟨i, hi⟩ := (h.isActive_iff u).1 hactive
        exact ⟨i, .inl hi⟩
    · rename_i hu
      simp only [hu, false_and, and_false, or_false]
      exact h.isActive_iff u

theorem IsSound.drop (h : s.IsSound) (j : Nat) : (s.drop j).IsSound := by
  obtain ⟨t, ht, hdrop⟩ | ⟨-, hdrop⟩ := s.drop_cases j
  · refine ⟨fun hi hi' => h.exclusive (holds_drop_iff.1 hi).1 (holds_drop_iff.1 hi').1, fun u => ?_⟩
    have hactive : (s.drop j).isActive u = if u = t then false else s.isActive u := by
      rw [hdrop]
      rfl
    simp only [hactive, holds_drop_iff]
    split
    · -- The guard that is dropped was the only one of the thread.
      rename_i hu
      refine iff_of_false (by decide) ?_
      rintro ⟨i, hi, hne⟩
      exact hne (h.exclusive hi (hu ▸ ht))
    · rename_i hu
      rw [h.isActive_iff u]
      refine exists_congr fun i => ⟨fun hi => ⟨hi, ?_⟩, And.left⟩
      rintro rfl
      exact hu (hi.thread_eq ht)
  · rwa [hdrop]

theorem IsSound.foldl_drop (h : s.IsSound) (attempts : List Nat) :
    (attempts.foldl Scopes.drop s).IsSound := by
  induction attempts generalizing s with
  | nil => exact h
  | cons j attempts ih => exact ih (h.drop j)

/-! ## Whatever happens -/

theorem IsSound.act (h : s.IsSound) (act : ScopeAct) : (s.act act).IsSound := by
  cases act with
  | enter t => exact h.enter t
  | drop j => exact h.drop j
  | unwind t attempts => exact h.foldl_drop _

theorem IsSound.run (h : s.IsSound) (acts : List ScopeAct) : (s.run acts).IsSound := by
  induction acts generalizing s with
  | nil => exact h
  | cons act acts ih => exact ih (h.act act)

theorem isOver_act (h : s.IsOver i) (act : ScopeAct) : (s.act act).IsOver i := by
  cases act with
  | enter t => exact isOver_enter h
  | drop j => exact isOver_drop h
  | unwind t attempts => exact isOver_foldl_drop h

/-- What is over stays so. -/
theorem isOver_run (h : s.IsOver i) (acts : List ScopeAct) : (s.run acts).IsOver i := by
  induction acts generalizing s with
  | nil => exact h
  | cons act acts ih => exact ih (isOver_act h act)

/-- The guards of a thread are left alone by what happens on others. -/
theorem holds_act_iff {act : ScopeAct} (h : act.thread? s ≠ some u) :
    (s.act act).Holds u i ↔ s.Holds u i := by
  cases act with
  | enter t =>
    rw [Scopes.act, holds_enter_iff]
    refine ⟨fun hi => hi.resolve_right ?_, .inl⟩
    rintro ⟨-, rfl, -⟩
    exact h rfl
  | drop j =>
    rw [Scopes.act, holds_drop_iff]
    refine ⟨And.left, fun hi => ⟨hi, ?_⟩⟩
    rintro rfl
    exact h (congrArg (Option.map Attempt.thread) hi)
  | unwind t attempts =>
    rw [Scopes.act, holds_foldl_drop_iff]
    refine ⟨And.left, fun hi => ⟨hi, fun hmem => h ?_⟩⟩
    rw [ScopeAct.thread?, hi.isOf.1 (List.mem_filter.1 hmem).2]

/-- With the guards of a thread its mark stays as it was. -/
theorem IsSound.isActive_eq {s' : Scopes} (h : s.IsSound) (h' : s'.IsSound)
    (hholds : ∀ i, s'.Holds u i ↔ s.Holds u i) : s'.isActive u = s.isActive u := by
  rw [Bool.eq_iff_iff, h.isActive_iff, h'.isActive_iff]
  exact exists_congr hholds

/-- **Marks are guards.**  Whatever threads have tried to enter, dropped and broken off so far, a
thread holds at most one guard and has its mark exactly while it holds one.  A thread gets a guard
exactly if it has no mark; an attempt that is refused leaves all marks and guards as they were, and
so does dropping its result at any later time.  What happens on one thread leaves the mark and the
guards of every other as they were.  A guard that is dropped, by itself or because its thread
unwinds, takes the mark with it. -/
theorem marks_are_guards (acts : List ScopeAct) :
    let s := run {} acts
    (∀ t i j, s.Holds t i → s.Holds t j → i = j) ∧
    (∀ t, s.isActive t = true ↔ ∃ i, s.Holds t i) ∧
    (∀ t, (s.enter t).lastEntered = true ↔ s.isActive t = false) ∧
    (∀ t, s.isActive t = true →
      (∀ u, (s.enter t).isActive u = s.isActive u ∧ ∀ i, (s.enter t).Holds u i ↔ s.Holds u i) ∧
      ∀ later, ((s.enter t).run later).drop s.attempts.length = (s.enter t).run later) ∧
    (∀ act u, act.thread? s ≠ some u →
      (s.act act).isActive u = s.isActive u ∧ ∀ i, (s.act act).Holds u i ↔ s.Holds u i) ∧
    (∀ t i, s.Holds t i → (s.drop i).isActive t = false ∧
      ∀ kept, i ∈ kept → (s.act (.unwind t kept)).isActive t = false) := by
  intro s
  have hsound : s.IsSound := isSound_new.run acts
  refine ⟨fun t i j => hsound.exclusive, hsound.isActive_iff, fun t => ?_, fun t ht => ⟨?_, ?_⟩,
    fun act u hu => ?_, fun t i hi => ?_⟩
  · rw [lastEntered_enter, Bool.not_eq_true']
  · intro u
    have hholds : ∀ i, (s.enter t).Holds u i ↔ s.Holds u i := fun i => by
      rw [holds_enter_iff, ht]
      simp
    exact ⟨hsound.isActive_eq (hsound.enter t) hholds, hholds⟩
  · exact fun later => drop_of_isOver (isOver_run (isOver_refused ht) later)
  · exact ⟨hsound.isActive_eq (hsound.act act) fun i => holds_act_iff hu, fun i => holds_act_iff hu⟩
  · -- The only guard of the thread is among those dropped.
    have hfree : ∀ attempts : List Nat, i ∈ attempts →
        (attempts.foldl Scopes.drop s).isActive t = false := by
      intro attempts hmem
      rw [Bool.eq_false_iff, Ne, (hsound.foldl_drop attempts).isActive_iff t]
      rintro ⟨j, hj⟩
      obtain ⟨hj, hnot⟩ := holds_foldl_drop_iff.1 hj
      exact hnot (hsound.exclusive hi hj ▸ hmem)
    refine ⟨hfree [i] List.mem_cons_self, fun kept hkept => hfree _ ?_⟩
    exact List.mem_filter.2 ⟨hkept, hi.isOf.2 rfl⟩

/-- Two threads enter, and the first one tries again: its second result is nothing to drop, and when
it unwinds it takes nothing with it but its own guard. -/
theorem marks_are_guards_nested :
    let s := run {} [.enter 0, .enter 1, .enter 0]
    s.Holds 0 0 ∧ s.IsOver 2 ∧ s.drop 2 = s ∧ (s.drop 0).isActive 0 = false ∧
      (s.act (.unwind 0 [2, 1, 0])).isActive 0 = false ∧
      (s.act (.unwind 0 [2, 1, 0])).isActive 1 = true := by
  intro s
  have hheld : s.Holds 0 0 := rfl
  have hover : s.IsOver 2 := ⟨0, rfl⟩
  obtain ⟨-, -, -, -, hothers, hfree⟩ := marks_are_guards [.enter 0, .enter 1, .enter 0]
  obtain ⟨hdrop, hunwind⟩ := hfree 0 0 hheld
  have hother := (hothers (.unwind 0 [2, 1, 0]) 1 (by decide)).1
  exact ⟨hheld, hover, drop_of_isOver hover, hdrop, hunwind _ (by decide), hother⟩

end Scopes

end ErrorReport
