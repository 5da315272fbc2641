import ErrorReport.Text.Blank
import Mathlib.Data.List.DropRight
import Mathlib.Data.List.TakeWhile

/-!
# Trimming

What is dropped from the start of a text stops at the first element that stays, whatever comes
behind it (`dropWhile_append_of_head`).  A text with such an element in it is therefore trimmed on
each side of it alone (`trimBy_append_cons`).
-/

set_option autoImplicit false

namespace ErrorReport.Text

variable {α : Type} {p : α → Bool}

/-! ## The first element that stays -/

theorem takeWhile_eq_nil {s : List α} (h : ∀ c ∈ s.head?, p c = false) : s.takeWhile p = [] := by
  cases s with
  | nil => rfl
  | cons c s => exact List.takeWhile_cons_of_neg (by rw [h c rfl]; decide)

theorem dropWhile_eq_self {s : List α} (h : ∀ c ∈ s.head?, p c = false) : s.dropWhile p = s := by
  cases s with
  | nil => rfl
  | cons c s => exact List.dropWhile_cons_of_neg (by rw [h c rfl]; decide)

theorem takeWhile_append_of_head (a : List α) {b : List α} (hb : ∀ c ∈ b.head?, p c = false) :
    (a ++ b).takeWhile p = a.takeWhile p := by
  rw [List.takeWhile_append]
  split
  · rename_i hall
    rw [takeWhile_eq_nil hb, List.append_nil]
    exact ((List.takeWhile_prefix p).eq_of_length hall).symm
  · rfl

theorem dropWhile_append_of_head (a : List α) {b : List α} (hb : ∀ c ∈ b.head?, p c = false) :
    (a ++ b).dropWhile p = a.dropWhile p ++ b := by
  rw [List.dropWhile_append]
  split
  · rename_i hnil
    rw [List.isEmpty_iff.1 hnil, dropWhile_eq_self hb, List.nil_append]
  · rfl

theorem takeWhile_append_of_all {a b : List α} (ha : ∀ c ∈ a, p c = true)
    (hb : ∀ c ∈ b.head?, p c = false) : (a ++ b).takeWhile p = a := by
  rw [takeWhile_append_of_head a hb, List.takeWhile_eq_self_iff.2 ha]

theorem dropWhile_append_of_all {a b : List α} (ha : ∀ c ∈ a, p c = true)
    (hb : ∀ c ∈ b.head?, p c = false) : (a ++ b).dropWhile p = b := by
  rw [dropWhile_append_of_head a hb, List.dropWhile_eq_nil_iff.2 ha, List.nil_append]

theorem dropWhile_append_cons (a : List α) {m : α} (b : List α) (hm : p m = false) :
    (a ++ m :: b).dropWhile p = a.dropWhile p ++ m :: b :=
  dropWhile_append_of_head a fun _ hc => Option.some.inj hc ▸ hm

/-! ## Both ends -/

theorem trimBy_eq (p : α → Bool) (s : List α) : trimBy p s = (s.dropWhile p).rdropWhile p := rfl

theorem rdropWhile_append_cons (a : List α) {m : α} (b : List α) (hm : p m = false) :
    (a ++ m :: b).rdropWhile p = a ++ m :: b.rdropWhile p := by
  have hreverse : (a ++ m :: b).reverse = b.reverse ++ m :: a.reverse := by simp
  rw [List.rdropWhile, hreverse, dropWhile_append_cons _ _ hm, List.rdropWhile]
  simp

/-- **An element that stays keeps the ends of a text apart.** -/
theorem trimBy_append_cons (a : List α) {m : α} (b : List α) (hm : p m = false) :
    trimBy p (a ++ m :: b) = a.dropWhile p ++ m :: b.rdropWhile p := by
  rw [trimBy_eq, dropWhile_append_cons a b hm, rdropWhile_append_cons _ b hm]

theorem rdropWhile_eq_self_iff {s : List α} :
    s.rdropWhile p = s ↔ ∀ c ∈ s.getLast?, p c = false := by
  rw [List.rdropWhile_eq_self_iff]
  constructor
  · intro h c hc
    obtain ⟨front, rfl⟩ := List.getLast?_eq_some_iff.1 hc
    simpa using h (by simp)
  · intro h hne
    rw [h _ (List.getLast?_eq_some_getLast hne)]
    decide

theorem rdropWhile_eq_self {s : List α} (h : ∀ c ∈ s.getLast?, p c = false) : s.rdropWhile p = s :=
  rdropWhile_eq_self_iff.2 h

/-- Printable ASCII beyond the space is not blank. -/
theorem not_isBlank_of_printable {c : Char} (hlow : 0x20 < c.toNat) (hhigh : c.toNat < 0x7F) :
    isBlank c = false := by
  simp only [isBlank, Bool.or_eq_false_iff, Bool.and_eq_false_iff, decide_eq_false_iff_not,
    beq_eq_false_iff_ne]
  omega

end ErrorReport.Text
