import Mathlib.Data.List.Basic
import Mathlib.Data.List.Count

/-!
# Lists with one entry replaced, and lists put together

What statements about runs need of the lists that runs are made of: counting after one participant
has moved on, and finding the place of an entry in what was seen before a step or in it.
-/

set_option autoImplicit false

namespace ErrorReport

/-! ## One entry replaced -/

/-- An entry parts what stands before it from what stands after it. -/
theorem exists_append_of_getElem? {β : Type} {l : List β} {i : Nat} {x : β} (h : l[i]? = some x) :
    ∃ front back, front.length = i ∧ l = front ++ x :: back := by
  obtain ⟨hi, rfl⟩ := List.getElem?_eq_some_iff.1 h
  refine ⟨l.take i, l.drop (i + 1), List.length_take_of_le (Nat.le_of_lt hi), ?_⟩
  rw [List.getElem_cons_drop, List.take_append_drop]

/-- What stands before and after an entry stays when the entry is replaced. -/
theorem exists_set_eq {β : Type} {l : List β} {i : Nat} {old : β} (h : l[i]? = some old) :
    ∃ front back, l = front ++ old :: back ∧ ∀ new, l.set i new = front ++ new :: back := by
  obtain ⟨front, back, rfl, rfl⟩ := exists_append_of_getElem? h
  exact ⟨front, back, rfl, fun new => by simp⟩

theorem count_filterMap_set {α β : Type} [DecidableEq α] (f : β → Option α) (a : α) {l : List β}
    {i : Nat} {old : β} (h : l[i]? = some old) (new : β) :
    ((l.set i new).filterMap f).count a + (f old).toList.count a
      = (l.filterMap f).count a + (f new).toList.count a := by
  obtain ⟨front, back, hl, hset⟩ := exists_set_eq h
  rw [hset new, hl]
  simp only [List.filterMap_eq_flatMap_toList, List.flatMap_append, List.flatMap_cons,
    List.count_append]
  omega

theorem countP_set {β : Type} (f : β → Bool) {l : List β} {i : Nat} {old : β} (h : l[i]? = some old)
    (new : β) :
    (l.set i new).countP f + (if f old then 1 else 0) = l.countP f + (if f new then 1 else 0) := by
  obtain ⟨front, back, hl, hset⟩ := exists_set_eq h
  rw [hset new, hl]
  simp only [List.countP_append, List.countP_cons]
  omega

/-- Where at most one entry has a property, no entry but that one has it. -/
theorem eq_of_mem_set {β : Type} {f : β → Bool} {l : List β} {i : Nat} {old : β}
    (h : l[i]? = some old)
    (hold : f old = true) (hl : l.countP f ≤ 1) {new x : β} (hx : x ∈ l.set i new)
    (hfx : f x = true) :
    x = new := by
  obtain ⟨front, back, rfl, hset⟩ := exists_set_eq h
  rw [hset new] at hx
  rw [List.countP_append, List.countP_cons, if_pos hold] at hl
  have hfront : front.countP f = 0 := by omega
  have hback : back.countP f = 0 := by omega
  rw [List.countP_eq_zero] at hfront hback
  rcases List.mem_append.1 hx with hx | hx
  · exact absurd hfx (hfront x hx)
  · rcases List.mem_cons.1 hx with rfl | hx
    · rfl
    · exact absurd hfx (hback x hx)

/-- Where an entry is replaced, the new one stands in its place. -/
theorem getElem?_set_new {β : Type} {l : List β} {i : Nat} {old : β} (h : l[i]? = some old)
    (new : β) : (l.set i new)[i]? = some new :=
  List.getElem?_set_self (List.getElem?_eq_some_iff.1 h).1

/-- Where one entry is replaced, an entry that was not there before is the one put there. -/
theorem eq_of_getElem?_set {β : Type} {l : List β} {i j : Nat} {new x : β}
    (hx : (l.set i new)[j]? = some x) (hold : l[j]? ≠ some x) : x = new := by
  rw [List.getElem?_set] at hx
  split at hx
  · split at hx <;> cases hx
    rfl
  · exact absurd hx hold

/-! ## Two lists put together -/

/-- An entry of two lists put together stands in the first or in the second. -/
theorem append_eq_append_cons {β : Type} {front back before after : List β} {x : β}
    (h : front ++ back = before ++ x :: after) :
    (∃ rest, front = before ++ x :: rest ∧ after = rest ++ back)
      ∨ ∃ rest, before = front ++ rest ∧ back = rest ++ x :: after := by
  rcases List.append_eq_append_iff.1 h with ⟨rest, hbefore, hback⟩ | ⟨rest, hfront, hcons⟩
  · exact .inr ⟨rest, hbefore, hback⟩
  · rcases List.cons_eq_append_iff.1 hcons with ⟨rfl, hback⟩ | ⟨rest, rfl, hafter⟩
    · exact .inr ⟨[], by simp [hfront], hback⟩
    · exact .inl ⟨rest, hfront, hafter⟩

end ErrorReport
