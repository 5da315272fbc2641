import ErrorReport.Frame
import Mathlib.Data.List.DropRight
import Mathlib.Data.List.Infix
import Mathlib.Order.Bounds.Basic

/-!
# What two stacks share

Two stacks share the longest list of frames that both end in (`IsLongestCommonSuffix`); there is
just one such list, and `sharedFrames` counts its frames (`isLongestCommonSuffix_drop`).  So a frame
is shared if it is among the last frames that are counted (`isShared_iff`), and the count is the
greatest for which the last frames agree (`sharedFrames_isGreatest`).
-/

set_option autoImplicit false

namespace ErrorReport

/-! ## Common ends -/

section CommonEnds

variable {α : Type} {s t a b : List α}

/-- The longest list that two lists end in. -/
structure IsLongestCommonSuffix (s a b : List α) : Prop where
  left : s <:+ a
  right : s <:+ b
  longest : ∀ t, t <:+ a → t <:+ b → t.length ≤ s.length

theorem IsLongestCommonSuffix.eq (hs : IsLongestCommonSuffix s a b)
    (ht : IsLongestCommonSuffix t a b) :
    s = t := by
  have hlength : s.length ≤ t.length := ht.longest s hs.left hs.right
  exact (List.suffix_of_suffix_length_le hs.left ht.left hlength).eq_of_length_le
    (hs.longest t ht.left ht.right)

variable [DecidableEq α]

theorem take_sharedFront_prefix (a b : List α) : a.take (sharedFront a b) <+: b := by
  fun_induction sharedFront a b with
  | case1 x as bs ih => simpa using ih
  | case2 x as y bs hne => simp
  | case3 as bs hne => simp

/-- No common front is longer than the one that is counted. -/
theorem length_le_sharedFront (ha : t <+: a) (hb : t <+: b) : t.length ≤ sharedFront a b := by
  induction t generalizing a b with
  | nil => exact Nat.zero_le _
  | cons x t ih =>
    obtain ⟨as, rfl, has⟩ := List.cons_prefix_iff.1 ha
    obtain ⟨bs, rfl, hbs⟩ := List.cons_prefix_iff.1 hb
    rw [sharedFront, if_pos rfl, List.length_cons]
    exact Nat.succ_le_succ (ih has hbs)

/-- A front that both lists are given is shared as a whole. -/
theorem sharedFront_append (front a b : List α) :
    sharedFront (front ++ a) (front ++ b) = front.length + sharedFront a b := by
  induction front with
  | nil => rw [List.nil_append, List.nil_append, List.length_nil, Nat.zero_add]
  | cons x front ih =>
    rw [List.cons_append, List.cons_append, sharedFront, if_pos rfl, ih, List.length_cons]
    omega

end CommonEnds

/-! ## Stacks -/

/-- **The frames that two stacks share are the longest list that both end in.** -/
theorem isLongestCommonSuffix_drop (frames enclosing : List Frame) :
    IsLongestCommonSuffix (frames.drop (frames.length - sharedFrames frames enclosing)) frames
      enclosing where
  left := List.drop_suffix _ _
  right := by
    have hfront := take_sharedFront_prefix frames.reverse enclosing.reverse
    rw [List.take_reverse] at hfront
    exact List.reverse_prefix.1 hfront
  longest t hframes henclosing := by
    have hlength := length_le_sharedFront (List.reverse_prefix.2 hframes)
      (List.reverse_prefix.2 henclosing)
    have hle := sharedFrames_le frames enclosing
    rw [List.length_reverse, ← sharedFrames] at hlength
    rw [List.length_drop]
    omega

/-- Two stacks have that many frames, and the last ones of them are the same. -/
def EndAlike (n : Nat) (frames enclosing : List Frame) : Prop :=
  n ≤ frames.length ∧ n ≤ enclosing.length ∧ frames.rtake n = enclosing.rtake n

theorem EndAlike.symm {n : Nat} {frames enclosing : List Frame} (h : EndAlike n frames enclosing) :
    EndAlike n enclosing frames :=
  ⟨h.2.1, h.1, h.2.2.symm⟩

/-- A common suffix is one stretch of last frames. -/
theorem endAlike_length {shared frames enclosing : List Frame} (hframes : shared <:+ frames)
    (henclosing : shared <:+ enclosing) : EndAlike shared.length frames enclosing := by
  refine ⟨hframes.length_le, henclosing.length_le, ?_⟩
  rw [List.rtake, List.rtake, ← List.suffix_iff_eq_drop.1 hframes,
    ← List.suffix_iff_eq_drop.1 henclosing]

theorem EndAlike.le_sharedFrames {n : Nat} {frames enclosing : List Frame}
    (h : EndAlike n frames enclosing) : n ≤ sharedFrames frames enclosing := by
  obtain ⟨hframes, henclosing, hsame⟩ := h
  have hle := sharedFrames_le frames enclosing
  have hlongest := (isLongestCommonSuffix_drop frames enclosing).longest (frames.rtake n)
    (List.drop_suffix _ _) (hsame ▸ List.drop_suffix _ _)
  rw [List.rtake, List.length_drop, List.length_drop] at hlongest
  omega

theorem endAlike_sharedFrames (frames enclosing : List Frame) :
    EndAlike (sharedFrames frames enclosing) frames enclosing := by
  have hdrop := isLongestCommonSuffix_drop frames enclosing
  have hlength : (frames.drop (frames.length - sharedFrames frames enclosing)).length =
      sharedFrames frames enclosing := by
    have hle := sharedFrames_le frames enclosing
    rw [List.length_drop]
    omega
  exact hlength ▸ endAlike_length hdrop.left hdrop.right

/-- **The count of shared frames is the greatest for which two stacks end alike.**  So neither stack
comes first, all frames of a stack are shared if the other one ends in it, and outer calls that both
stacks are given are shared on top. -/
theorem sharedFrames_isGreatest (frames enclosing : List Frame) :
    IsGreatest {n | EndAlike n frames enclosing} (sharedFrames frames enclosing) ∧
      sharedFrames enclosing frames = sharedFrames frames enclosing ∧
      (sharedFrames frames enclosing = frames.length ↔ frames <:+ enclosing) ∧
      ∀ outer, sharedFrames (frames ++ outer) (enclosing ++ outer) =
        sharedFrames frames enclosing + outer.length := by
  refine ⟨⟨endAlike_sharedFrames frames enclosing, fun n hn => hn.le_sharedFrames⟩, ?_, ⟨?_, ?_⟩, ?_⟩
  · exact Nat.le_antisymm (endAlike_sharedFrames enclosing frames).symm.le_sharedFrames
      (endAlike_sharedFrames frames enclosing).symm.le_sharedFrames
  · intro hall
    have hright := (isLongestCommonSuffix_drop frames enclosing).right
    rwa [hall, Nat.sub_self, List.drop_zero] at hright
  · intro hsuffix
    exact Nat.le_antisymm (sharedFrames_le frames enclosing)
      (endAlike_length (List.suffix_refl frames) hsuffix).le_sharedFrames
  · intro outer
    rw [sharedFrames, List.reverse_append, List.reverse_append, sharedFront_append,
      List.length_reverse, Nat.add_comm, ← sharedFrames]

/-- The frame at an index stands in the longest common suffix of its stack and another one. -/
def IsShared (frames enclosing : List Frame) (index : Nat) : Prop :=
  ∃ front shared, frames = front ++ shared ∧ IsLongestCommonSuffix shared frames enclosing ∧
    front.length ≤ index

theorem isShared_iff {frames enclosing : List Frame} {index : Nat} :
    IsShared frames enclosing index ↔
      frames.length - sharedFrames frames enclosing ≤ index := by
  have hdrop := isLongestCommonSuffix_drop frames enclosing
  constructor
  · rintro ⟨front, shared, hframes, hshared, hindex⟩
    have hlength := congrArg List.length (hshared.eq hdrop)
    have hle := sharedFrames_le frames enclosing
    rw [List.length_drop] at hlength
    have := congrArg List.length hframes
    rw [List.length_append] at this
    omega
  · intro hindex
    refine ⟨frames.take (frames.length - sharedFrames frames enclosing), _,
      (List.take_append_drop _ _).symm, hdrop, ?_⟩
    rw [List.length_take]
    omega

end ErrorReport
