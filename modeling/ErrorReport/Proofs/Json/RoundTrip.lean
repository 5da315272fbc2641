import ErrorReport.Proofs.Json.Double
import ErrorReport.Proofs.Json.Strings

/-!
# Reading documents back

`read?_text` says that a value is read back from its text, to the last member of the last object.
It needs integers of 64 bits, the only ones a document holds (`Value.Bounded`): a longer run of
digits is a double to the reader.

The induction is over the value, with a text that goes on behind it.  A budget of twice the length
of the text is enough for the nesting of the readers, and what follows a value inside another one is
a comma or a closing bracket, which no number takes for its own.
-/

set_option autoImplicit false

namespace ErrorReport.Json

open Reader

/-- Whether all integers of a value fit 64 bits, signed or unsigned. -/
inductive Value.Bounded : Value → Prop
  | null : Bounded .null
  | bool (b : Bool) : Bounded (.bool b)
  | integer {n : Int} : -2 ^ 63 ≤ n → n < 2 ^ 64 → Bounded (.integer n)
  | real (x : Binary64) : Bounded (.real x)
  | string (s : String) : Bounded (.string s)
  | array {items : List Value} : (∀ item ∈ items, Bounded item) → Bounded (.array items)
  | object {members : List (String × Value)} : (∀ m ∈ members, Bounded m.2) →
      Bounded (.object members)

namespace Reader

variable {rest : List Char}

/-! ## Blanks -/

theorem skip_cons {c : Char} (s : List Char) (h : ¬(c = ' ' ∨ c = '\t' ∨ c = '\n' ∨ c = '\r')) :
    skip (c :: s) = c :: s := by
  have hc : ¬(c == ' ' || c == '\t' || c == '\n' || c == '\r') = true := by
    simp only [Bool.or_eq_true, beq_iff_eq]
    tauto
  rw [skip]
  exact List.dropWhile_cons_of_neg hc

/-- What follows a value: nothing, a comma or a closing bracket. -/
def Closes (rest : List Char) : Prop := ∀ c ∈ rest.head?, c = ',' ∨ c = ']' ∨ c = '\x7d'

theorem Closes.stops (h : Closes rest) : Stops rest := by
  intro c hc
  rcases h c hc with rfl | rfl | rfl <;> decide

theorem closes_cons {c : Char} (s : List Char) (h : c = ',' ∨ c = ']' ∨ c = '\x7d') :
    Closes (c :: s) := by
  intro d hd
  rwa [← Option.some.inj hd]

/-! ## One value -/

/-- A numeral is read as its value. -/
theorem value?_numeral {s : List Char} {v : Value} (hs : IsNumeral s v) (budget : Nat)
    (h : Closes rest) :
    value? (budget + 1) (s ++ rest) = some (v, rest) := by
  obtain ⟨n, rfl, hv⟩ := hs
  have hread : numberAt? (n.text ++ rest) = some (v, rest) := by
    rw [n.numberAt?_text h.stops]
    show (n.value?.map _) = _
    rw [hv]
    rfl
  obtain ⟨c, s, htext, hc⟩ := n.exists_text_eq_cons
  rw [htext, List.cons_append] at hread ⊢
  have hblank : ¬(c = ' ' ∨ c = '\t' ∨ c = '\n' ∨ c = '\r') := by
    rintro (rfl | rfl | rfl | rfl) <;> revert hc <;> decide
  rw [value?, skip_cons _ hblank]
  split
  all_goals first
    | exact hread
    | (rename_i heq
       obtain ⟨rfl, -⟩ := List.cons.inj heq
       exact absurd hc (by decide))

theorem quotedString_append (s : String) (rest : List Char) :
    quotedString s ++ rest = '"' :: (s.toList.flatMap escapedChar ++ '"' :: rest) := by
  simp [quotedString]

theorem value?_string (s : String) (budget : Nat) :
    value? (budget + 1) (quotedString s ++ rest) = some (.string s, rest) := by
  rw [value?, quotedString_append, skip_cons _ (by decide)]
  show ((string? (s.toList.flatMap escapedChar ++ '"' :: rest)).map _) = _
  rw [string?_escaped]
  show some (Value.string (String.ofList s.toList), rest) = _
  rw [String.ofList_toList]

/-- The first character of a value, which no closing bracket is. -/
theorem exists_text_eq_cons (v : Value) (hv : v.Bounded) :
    ∃ c s, v.text = c :: s ∧ ¬(c = ' ' ∨ c = '\t' ∨ c = '\n' ∨ c = '\r') ∧ c ≠ ']' := by
  have hnumeral : ∀ s w, IsNumeral s w →
      ∃ c t, s = c :: t ∧ ¬(c = ' ' ∨ c = '\t' ∨ c = '\n' ∨ c = '\r') ∧ c ≠ ']' := by
    rintro s w ⟨n, rfl, -⟩
    obtain ⟨c, t, htext, hc⟩ := n.exists_text_eq_cons
    refine ⟨c, t, htext, ?_, ?_⟩
    · rintro (rfl | rfl | rfl | rfl) <;> revert hc <;> decide
    · rintro rfl
      revert hc
      decide
  cases hv with
  | null => exact ⟨'n', _, rfl, by decide, by decide⟩
  | bool b =>
    cases b with
    | true => exact ⟨'t', _, rfl, by decide, by decide⟩
    | false => exact ⟨'f', _, rfl, by decide, by decide⟩
  | integer hlow hhigh => exact hnumeral _ _ (isNumeral_integer hlow hhigh)
  | real x => exact hnumeral _ _ (isNumeral_real x)
  | string s => exact ⟨'"', _, rfl, by decide, by decide⟩
  | array h => exact ⟨'[', _, rfl, by decide, by decide⟩
  | object h => exact ⟨'\x7b', _, rfl, by decide, by decide⟩

/-! ## One step into a nested value

The readers of items and members go on at a comma and stop at the closing bracket. -/

theorem items?_last {budget : Nat} {s : List Char} {item : Value}
    (hread : value? budget s = some (item, ']' :: rest)) :
    items? (budget + 1) s = some ([item], rest) := by
  rw [items?, hread]
  simp only
  rw [skip_cons _ (by decide)]
  rfl

theorem items?_comma {budget : Nat} {s : List Char} {item : Value}
    (hread : value? budget s = some (item, ',' :: rest)) :
    items? (budget + 1) s =
      (items? budget rest).map fun (items, rest) => (item :: items, rest) := by
  rw [items?, hread]
  simp only
  rw [skip_cons _ (by decide)]
  rfl

/-- The name of a member and its colon are read; the value behind them decides. -/
theorem members?_name (budget : Nat) (name : String) (s : List Char) :
    members? (budget + 1) (quotedString name ++ ':' :: s) =
      match value? budget s with
      | none => none
      | some (value, rest) =>
        match skip rest with
        | ',' :: rest =>
          (members? budget rest).map fun (members, rest) => ((name, value) :: members, rest)
        | '\x7d' :: rest => some ([(name, value)], rest)
        | _ => none := by
  rw [members?, quotedString_append, skip_cons _ (by decide)]
  simp only
  rw [string?_escaped]
  simp only
  rw [skip_cons _ (by decide), String.ofList_toList]
  rfl

theorem members?_last {budget : Nat} (name : String) {s : List Char} {value : Value}
    (hread : value? budget s = some (value, '\x7d' :: rest)) :
    members? (budget + 1) (quotedString name ++ ':' :: s) = some ([(name, value)], rest) := by
  rw [members?_name, hread]
  simp only
  rw [skip_cons _ (by decide)]
  rfl

theorem members?_comma {budget : Nat} (name : String) {s : List Char} {value : Value}
    (hread : value? budget s = some (value, ',' :: rest)) :
    members? (budget + 1) (quotedString name ++ ':' :: s) =
      (members? budget rest).map fun (members, rest) => ((name, value) :: members, rest) := by
  rw [members?_name, hread]
  simp only
  rw [skip_cons _ (by decide)]
  rfl

/-- Items that do not start with the closing bracket are read by their own reader. -/
theorem value?_array {budget : Nat} {c : Char} {s : List Char} {items : List Value}
    (hblank : ¬(c = ' ' ∨ c = '\t' ∨ c = '\n' ∨ c = '\r')) (hclose : c ≠ ']')
    (hread : items? budget (c :: s) = some (items, rest)) :
    value? (budget + 1) ('[' :: c :: s) = some (.array items, rest) := by
  rw [value?, skip_cons _ (by decide)]
  simp only
  rw [skip_cons _ hblank]
  split
  · rename_i heq
    exact absurd (List.cons.inj heq).1 hclose
  · rw [hread]
    rfl

theorem value?_object {budget : Nat} {s : List Char} {members : List (String × Value)}
    (hread : members? budget ('"' :: s) = some (members, rest)) :
    value? (budget + 1) ('\x7b' :: '"' :: s) = some (.object members, rest) := by
  rw [value?, skip_cons _ (by decide)]
  simp only
  rw [skip_cons _ (by decide)]
  show ((members? budget ('"' :: s)).map _) = _
  rw [hread]
  rfl

/-- Items start with the first of them. -/
theorem exists_itemsText_eq_cons {item : Value} (hitem : item.Bounded) (items : List Value) :
    ∃ c s, Value.itemsText (item :: items) = c :: s ∧
      ¬(c = ' ' ∨ c = '\t' ∨ c = '\n' ∨ c = '\r') ∧ c ≠ ']' := by
  obtain ⟨c, s, htext, hblank, hclose⟩ := exists_text_eq_cons item hitem
  cases items with
  | nil => exact ⟨c, s, htext, hblank, hclose⟩
  | cons next more =>
    exact ⟨c, _, by rw [Value.itemsText, htext, List.cons_append], hblank, hclose⟩

/-- Members start with the quotation mark of a name. -/
theorem exists_membersText_eq_cons (member : String × Value) (members : List (String × Value)) :
    ∃ s, Value.membersText (member :: members) = '"' :: s := by
  cases members with
  | nil => exact ⟨_, by rw [Value.membersText, quotedString_append]⟩
  | cons next more =>
    exact ⟨_, by rw [Value.membersText, List.append_assoc, quotedString_append]⟩

/-! ## Nested values -/

mutual

/-- **A value is read from its text, whatever closes it.** -/
theorem value?_text (v : Value) (hv : v.Bounded) (budget : Nat) (hb : 2 * v.text.length ≤ budget)
    (rest : List Char) (h : Closes rest) : value? budget (v.text ++ rest) = some (v, rest) := by
  obtain ⟨c, s, htext, -, -⟩ := exists_text_eq_cons v hv
  obtain ⟨budget, rfl⟩ : ∃ b, budget = b + 1 := by
    rw [htext, List.length_cons] at hb
    exact ⟨budget - 1, by omega⟩
  match v, hv with
  | .null, _ => rfl
  | .bool true, _ => rfl
  | .bool false, _ => rfl
  | .integer n, .integer hlow hhigh => exact value?_numeral (isNumeral_integer hlow hhigh) budget h
  | .real x, _ => exact value?_numeral (isNumeral_real x) budget h
  | .string s, _ => exact value?_string s budget
  | .array [], _ => rfl
  | .array (item :: items), .array hitems =>
    rw [Value.text, List.length_append, List.length_cons, List.length_singleton] at hb
    have hread := items?_text (item :: items) (by simp) hitems budget (by omega) rest
    obtain ⟨c, t, htext, hblank, hclose⟩ :=
      exists_itemsText_eq_cons (hitems item List.mem_cons_self) items
    rw [htext, List.cons_append] at hread
    rw [Value.text, List.append_assoc, List.cons_append, List.singleton_append, htext,
      List.cons_append]
    exact value?_array hblank hclose hread
  | .object [], _ => rfl
  | .object (member :: members), .object hmembers =>
    rw [Value.text, List.length_append, List.length_cons, List.length_singleton] at hb
    have hread := members?_text (member :: members) (by simp) hmembers budget (by omega) rest
    obtain ⟨t, htext⟩ := exists_membersText_eq_cons member members
    rw [htext, List.cons_append] at hread
    rw [Value.text, List.append_assoc, List.cons_append, List.singleton_append, htext,
      List.cons_append]
    exact value?_object hread

/-- The items of an array, up to its closing bracket. -/
theorem items?_text (items : List Value) (hne : items ≠ []) (hitems : ∀ item ∈ items, item.Bounded)
    (budget : Nat) (hb : 2 * (Value.itemsText items).length + 1 ≤ budget) (rest : List Char) :
    items? budget (Value.itemsText items ++ ']' :: rest) = some (items, rest) := by
  obtain ⟨budget, rfl⟩ : ∃ b, budget = b + 1 := ⟨budget - 1, by omega⟩
  match items with
  | [item] =>
    rw [Value.itemsText] at hb ⊢
    exact items?_last (value?_text item (hitems item List.mem_cons_self) budget (by omega)
      (']' :: rest) (closes_cons rest (by decide)))
  | item :: next :: more =>
    rw [Value.itemsText, List.length_append, List.length_cons] at hb
    have hread := value?_text item (hitems item List.mem_cons_self) budget (by omega)
      (',' :: (Value.itemsText (next :: more) ++ ']' :: rest)) (closes_cons _ (by decide))
    have hmore :=
      items?_text (next :: more) (by simp) (fun i hi => hitems i (List.mem_cons_of_mem _ hi))
      budget (by omega) rest
    rw [Value.itemsText, List.append_assoc, List.cons_append, items?_comma hread, hmore]
    rfl

/-- The members of an object, up to its closing brace. -/
theorem members?_text (members : List (String × Value)) (hne : members ≠ [])
    (hmembers : ∀ m ∈ members, m.2.Bounded) (budget : Nat)
    (hb : 2 * (Value.membersText members).length + 1 ≤ budget) (rest : List Char) :
    members? budget (Value.membersText members ++ '\x7d' :: rest) = some (members, rest) := by
  obtain ⟨budget, rfl⟩ : ∃ b, budget = b + 1 := ⟨budget - 1, by omega⟩
  match members with
  | [(name, value)] =>
    rw [Value.membersText, List.length_append, List.length_cons] at hb
    rw [Value.membersText, List.append_assoc, List.cons_append]
    exact members?_last name (value?_text value (hmembers _ List.mem_cons_self) budget (by omega)
      ('\x7d' :: rest) (closes_cons rest (by decide)))
  | (name, value) :: next :: more =>
    rw [Value.membersText, List.length_append, List.length_append, List.length_cons,
      List.length_cons] at hb
    have hread := value?_text value (hmembers _ List.mem_cons_self) budget (by omega)
      (',' :: (Value.membersText (next :: more) ++ '\x7d' :: rest)) (closes_cons _ (by decide))
    have hmore :=
      members?_text (next :: more) (by simp) (fun m hm => hmembers m (List.mem_cons_of_mem _ hm))
      budget (by omega) rest
    rw [Value.membersText, List.append_assoc, List.append_assoc, List.cons_append,
      List.cons_append, members?_comma name hread, hmore]
    rfl

end

end Reader

/-- **A value is read back from its text.** -/
theorem Value.read?_text {v : Value} (hv : v.Bounded) : Value.read? v.text = some v := by
  have hread :=
    Reader.value?_text v hv (2 * v.text.length + 2) (by omega) [] (by simp [Reader.Closes])
  rw [List.append_nil] at hread
  rw [Value.read?, hread]
  rfl

end ErrorReport.Json
