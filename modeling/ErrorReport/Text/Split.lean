/-!
# Cutting text at separators

The functions here work on lists of characters, which is the form the readers of this library
take their input in.

* `splitOnce?` cuts at the first occurrence of a separator, `splitLast?` at the last one.
* `pieces` cuts at every character of a class.
* `joinWith` is the way back from `pieces` for a single separator.

Both cuts lose nothing but the separator: `splitOnce?_append` and `splitLast?_append`.
-/

set_option autoImplicit false

namespace ErrorReport.Text

/-- What stands before and after the first occurrence of `sep`. -/
def splitOnce? (sep : List Char) : List Char → Option (List Char × List Char)
  | [] => if sep.isEmpty then some ([], []) else none
  | c :: rest =>
    match sep.isPrefixOf? (c :: rest) with
    | some after => some ([], after)
    | none => (splitOnce? sep rest).map fun (before, after) => (c :: before, after)

/-- What stands before and after the last occurrence of `sep`. -/
def splitLast? (sep text : List Char) : Option (List Char × List Char) :=
  (splitOnce? sep.reverse text.reverse).map fun (after, before) => (before.reverse, after.reverse)

/-- The maximal runs free of separators, in order; one more than there are separators. -/
def pieces (isSep : Char → Bool) : List Char → List (List Char)
  | [] => [[]]
  | c :: rest =>
    if isSep c then [] :: pieces isSep rest
    else
      match pieces isSep rest with
      | [] => [[c]]
      | first :: others => (c :: first) :: others

/-- The parts with `sep` between neighbours. -/
def joinWith (sep : List Char) : List (List Char) → List Char
  | [] => []
  | [part] => part
  | part :: next :: others => part ++ sep ++ joinWith sep (next :: others)

theorem isPrefixOf?_cons_cons {α : Type} [BEq α] (a b : α) (p s : List α) :
    (a :: p).isPrefixOf? (b :: s) = if a == b then p.isPrefixOf? s else none := rfl

theorem isPrefixOf?_eq_some {α : Type} [BEq α] [LawfulBEq α] {p s t : List α}
    (h : p.isPrefixOf? s = some t) : s = p ++ t := by
  induction p generalizing s with
  | nil => exact Option.some.inj h
  | cons a p ih =>
    cases s with
    | nil => cases h
    | cons b s =>
      rw [isPrefixOf?_cons_cons] at h
      by_cases hab : a == b
      · rw [if_pos hab] at h
        rw [ih h, eq_of_beq hab, List.cons_append]
      · rw [if_neg hab] at h
        cases h

theorem splitOnce?_append {sep s before after : List Char}
    (h : splitOnce? sep s = some (before, after)) : s = before ++ sep ++ after := by
  induction s generalizing before with
  | nil =>
    unfold splitOnce? at h
    split at h <;> simp_all
  | cons c rest ih =>
    unfold splitOnce? at h
    split at h
    · rename_i t ht
      have := isPrefixOf?_eq_some ht
      simp_all
    · simp only [Option.map_eq_some_iff, Prod.exists, Prod.mk.injEq] at h
      obtain ⟨b, a, hba, rfl, rfl⟩ := h
      simp [ih hba]

theorem splitLast?_append {sep s before after : List Char}
    (h : splitLast? sep s = some (before, after)) : s = before ++ sep ++ after := by
  simp only [splitLast?, Option.map_eq_some_iff, Prod.exists, Prod.mk.injEq] at h
  obtain ⟨a, b, hab, rfl, rfl⟩ := h
  have := congrArg List.reverse (splitOnce?_append hab)
  simpa using this

theorem pieces_ne_nil (isSep : Char → Bool) (s : List Char) : pieces isSep s ≠ [] := by
  cases s with
  | nil => simp [pieces]
  | cons c rest =>
    unfold pieces
    split
    · simp
    · split <;> simp

end ErrorReport.Text
