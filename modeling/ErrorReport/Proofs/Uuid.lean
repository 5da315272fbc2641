import ErrorReport.Proofs.Lists
import ErrorReport.Proofs.Text.Split
import ErrorReport.Uuid

/-!
# Texts of identifiers

An identifier is read from thirty-two digits in a row or in `Groups` between hyphens, and the groups
may stand in braces or behind the name of their namespace (`IsWritten`).  These are all texts that
are read (`read?_eq_some_iff`).  The digits are read in either case and written in lower case, so what
is written is the digits of the text that was read, in lower case (`Denotes.simple_eq`), and is read
as the same identifier (`denotes_simple`).
-/

set_option autoImplicit false

namespace ErrorReport

/-! ## Digits -/

namespace Text.Hex

/-- What is read as a digit. -/
def digits : List Char := "0123456789abcdefABCDEF".toList

/-- A character that is read is one of the two that are written. -/
theorem eq_of_value? {c : Char} {n : Nat} (h : value? c = some n) :
    c = digit n ∨ c = upperDigit n := by
  rw [value?] at h
  split at h
  · obtain rfl := Option.some.inj h
    left
    rw [digit, if_pos (by omega), Nat.add_sub_cancel' (by omega), Char.ofNat_toNat]
  split at h
  · obtain rfl := Option.some.inj h
    left
    rw [digit, if_neg (by omega), Nat.add_sub_cancel' (by omega), Char.ofNat_toNat]
  split at h
  · obtain rfl := Option.some.inj h
    right
    rw [upperDigit, if_neg (by omega), Nat.add_sub_cancel' (by omega), Char.ofNat_toNat]
  · exact absurd h (by simp)

/-- What holds of both ways to write each digit holds of what is read. -/
theorem forall_value? {P : Char → Nat → Prop} (h : ∀ m : Fin 16, P (digit m) m ∧ P (upperDigit m) m)
    {c : Char} {n : Nat} (hread : value? c = some n) : P c n := by
  rcases eq_of_value? hread with rfl | rfl
  · exact (h ⟨n, value?_lt hread⟩).1
  · exact (h ⟨n, value?_lt hread⟩).2

theorem mem_digits_of_value? {c : Char} {n : Nat} : value? c = some n → c ∈ digits :=
  forall_value? (P := fun c _ => c ∈ digits) (by decide)

theorem toLower_of_value? {c : Char} {n : Nat} : value? c = some n → c.toLower = digit n :=
  forall_value? (P := fun c n => c.toLower = digit n) (by decide)

theorem eq_zero_iff_of_value? {c : Char} {n : Nat} : value? c = some n → (n = 0 ↔ c = '0') :=
  forall_value? (P := fun c n => n = 0 ↔ c = '0') (by decide)

end Text.Hex

namespace Uuid

variable {id : Uuid} {s digits : List Char}

theorem digit?_eq_some_iff {c : Char} {d : Fin 16} :
    digit? c = some d ↔ Text.Hex.value? c = some d.val := by
  unfold digit?
  split
  · rename_i n h
    simp [h, Fin.ext_iff]
  · rename_i h
    simp [h]

/-- Thirty-two digits in either case. -/
structure IsDigits (digits : List Char) : Prop where
  length_eq : digits.length = 32
  mem : ∀ c ∈ digits, c ∈ Text.Hex.digits

/-- Digits in a row are read as an identifier. -/
def Denotes (digits : List Char) (id : Uuid) : Prop :=
  List.Forall₂ (fun c d => digit? c = some d) digits id.digits

theorem ofDigits?_eq_some_iff : ofDigits? s = some id ↔ Denotes s id := by
  rw [Denotes, ← Text.mapM_eq_some_iff, ofDigits?]
  split
  · rename_i values hread
    rw [hread, Option.some.injEq]
    split
    · rw [Option.some.injEq, Uuid.mk.injEq]
    · rename_i hlength
      refine iff_of_false (by simp) ?_
      rintro rfl
      exact hlength id.length_eq
  · rename_i hread
    simp [hread]

theorem exists_denotes (h : IsDigits digits) : ∃ id, Denotes digits id := by
  have hread : ∀ c ∈ Text.Hex.digits, (digit? c).isSome = true :=
    List.forall_iff_forall_mem.1 (by decide)
  have hvalues : ∃ values, List.Forall₂ (fun c d => digit? c = some d) digits values := by
    have hall := h.mem
    clear h
    induction digits with
    | nil => exact ⟨[], .nil⟩
    | cons c digits ih =>
      obtain ⟨hc, hdigits⟩ := List.forall_mem_cons.1 hall
      obtain ⟨values, hvalues⟩ := ih hdigits
      obtain ⟨d, hd⟩ := Option.isSome_iff_exists.1 (hread c hc)
      exact ⟨d :: values, .cons hd hvalues⟩
  obtain ⟨values, hvalues⟩ := hvalues
  exact ⟨⟨values, hvalues.length_eq.symm.trans h.length_eq⟩, hvalues⟩

theorem denotes_simple (id : Uuid) : Denotes id.simple.toList id := by
  rw [Denotes, ← Text.mapM_eq_some_iff, simple, String.toList_ofList]
  exact Text.mapM_map_eq_some fun d _ =>
    digit?_eq_some_iff.2 (Text.Hex.value?_digit d.val d.isLt)

namespace Denotes

theorem isDigits (h : Denotes digits id) : IsDigits digits where
  length_eq := h.length_eq.trans id.length_eq
  mem := ((List.forall₂_and_left _ _).1 (List.Forall₂.imp (fun _ _ hread =>
    ⟨Text.Hex.mem_digits_of_value? (digit?_eq_some_iff.1 hread), hread⟩) h)).1

/-- The digits are written in lower case. -/
theorem simple_eq (h : Denotes digits id) : id.simple = String.ofList (digits.map Char.toLower) := by
  have hlower : List.Forall₂ (· = ·) (digits.map Char.toLower)
      (id.digits.map fun d => Text.Hex.digit d.val) :=
    List.rel_map (fun _ _ hread => Text.Hex.toLower_of_value? (digit?_eq_some_iff.1 hread)) h
  rw [List.forall₂_eq_eq_eq] at hlower
  rw [simple, hlower]

/-- An identifier is all zeros if its text is. -/
theorem isNil_iff (h : Denotes digits id) : id.isNil = true ↔ ∀ c ∈ digits, c = '0' := by
  rw [Denotes] at h
  rw [isNil]
  generalize id.digits = values at h
  induction h with
  | nil => simp
  | cons hread _ ih =>
    have hzero := Text.Hex.eq_zero_iff_of_value? (digit?_eq_some_iff.1 hread)
    rw [List.all_cons, Bool.and_eq_true, ih, List.forall_mem_cons, beq_iff_eq, ← hzero,
      Fin.ext_iff]
    rfl

end Denotes

/-! ## Groups -/

/-- Characters in groups of 8, 4, 4, 4 and 12. -/
structure Groups where
  first : List Char
  second : List Char
  third : List Char
  fourth : List Char
  last : List Char
  length_first : first.length = 8
  length_second : second.length = 4
  length_third : third.length = 4
  length_fourth : fourth.length = 4
  length_last : last.length = 12

namespace Groups

/-- The characters in a row. -/
def flat (g : Groups) : List Char := g.first ++ g.second ++ g.third ++ g.fourth ++ g.last

/-- The groups with hyphens between them. -/
def text (g : Groups) : List Char :=
  g.first ++ '-' :: (g.second ++ '-' :: (g.third ++ '-' :: (g.fourth ++ '-' :: g.last)))

theorem length_text (g : Groups) : g.text.length = 36 := by
  simp [text, g.length_first, g.length_second, g.length_third, g.length_fourth, g.length_last]

theorem withoutHyphens?_text (g : Groups) : withoutHyphens? g.text = some g.flat := by
  obtain ⟨a, b, c, d, e, ha, hb, hc, hd, he⟩ := g
  rw [withoutHyphens?, if_pos]
  · simp (disch := omega) [text, flat, List.drop_append, List.drop_of_length_le, ha, hb, hc, hd]
  · exact ⟨length_text _, by simp [text, List.getElem?_append_right, ha, hb, hc, hd]⟩

/-- A text with its hyphens in place is in groups. -/
theorem exists_text_eq (h : withoutHyphens? s = some digits) :
    ∃ g : Groups, g.text = s ∧ g.flat = digits := by
  obtain ⟨g, rfl⟩ : ∃ g : Groups, g.text = s := by
    rw [withoutHyphens?] at h
    obtain ⟨⟨hlength, hhyphens⟩, -⟩ := Option.ite_none_right_eq_some.1 h
    simp only [List.all_cons, List.all_nil, Bool.and_true, Bool.and_eq_true, beq_iff_eq] at hhyphens
    obtain ⟨h₁, h₂, h₃, h₄⟩ := hhyphens
    -- Each hyphen ends a group, and the places of the others are counted behind it.
    obtain ⟨a, r, ha, rfl⟩ := exists_append_of_getElem? h₁
    simp only [List.getElem?_append_right, ha, Nat.reduceLeDiff, Nat.reduceSub,
      List.getElem?_cons_succ] at h₂ h₃ h₄
    obtain ⟨b, r, hb, rfl⟩ := exists_append_of_getElem? h₂
    simp only [List.getElem?_append_right, hb, Nat.reduceLeDiff, Nat.reduceSub,
      List.getElem?_cons_succ] at h₃ h₄
    obtain ⟨c, r, hc, rfl⟩ := exists_append_of_getElem? h₃
    simp only [List.getElem?_append_right, hc, Nat.reduceLeDiff, Nat.reduceSub,
      List.getElem?_cons_succ] at h₄
    obtain ⟨d, e, hd, rfl⟩ := exists_append_of_getElem? h₄
    simp only [List.length_append, List.length_cons, ha, hb, hc, hd] at hlength
    exact ⟨⟨a, b, c, d, e, ha, hb, hc, hd, by omega⟩, rfl⟩
  exact ⟨g, rfl, Option.some.inj (g.withoutHyphens?_text.symm.trans h)⟩

end Groups

/-! ## Layouts -/

/-- The name of the namespace, with its letters in either case. -/
def IsNamespace (lead : List Char) : Prop := lead.map Char.toLower = namespaceText

/-- The ways to write some digits: in a row, in groups with hyphens, and the groups in braces or
behind a lead. -/
inductive IsWritten (IsLead : List Char → Prop) : List Char → List Char → Prop where
  | row (digits : List Char) : IsWritten IsLead digits digits
  | grouped (g : Groups) : IsWritten IsLead g.flat g.text
  | braced (g : Groups) : IsWritten IsLead g.flat ('\x7b' :: (g.text ++ ['\x7d']))
  | behind (lead : List Char) (g : Groups) (h : IsLead lead) :
    IsWritten IsLead g.flat (lead ++ g.text)

/-- A text is that of an identifier with some digits. -/
structure Spells (IsLead : List Char → Prop) (s digits : List Char) : Prop where
  isDigits : IsDigits digits
  isWritten : IsWritten IsLead digits s

/-- What is left of a text once braces or the namespace are taken off. -/
theorem hyphenatedPart?_cases {part : List Char} (h : hyphenatedPart? s = some part) :
    s = '\x7b' :: (part ++ ['\x7d']) ∨ (∃ lead, IsNamespace lead ∧ s = lead ++ part) ∨ s = part := by
  unfold hyphenatedPart? at h
  split at h
  · rename_i rest
    obtain ⟨hlast, hpart⟩ := Option.ite_none_right_eq_some.1 h
    obtain rfl := Option.some.inj hpart
    exact .inl (congrArg _ (List.dropLast_append_getLast? _ hlast).symm)
  · split at h
    · rename_i hlead
      obtain rfl := Option.some.inj h
      exact .inr (.inl ⟨_, hlead, (List.take_append_drop _ _).symm⟩)
    · exact .inr (.inr (Option.some.inj h))

theorem hyphenatedPart?_braced (part : List Char) :
    hyphenatedPart? ('\x7b' :: (part ++ ['\x7d'])) = some part := by
  rw [hyphenatedPart?, if_pos (by simp), List.dropLast_concat]

/-- The namespace starts with a letter that is no digit. -/
theorem head?_of_isNamespace {lead : List Char} (h : IsNamespace lead) :
    lead.head?.map Char.toLower = some 'u' := by
  rw [← List.head?_map, h]
  decide

theorem hyphenatedPart?_behind {lead : List Char} (h : IsNamespace lead) (part : List Char) :
    hyphenatedPart? (lead ++ part) = some part := by
  have hlength : lead.length = namespaceText.length := by rw [← h, List.length_map]
  have hhead := head?_of_isNamespace h
  unfold hyphenatedPart?
  split
  · rename_i rest heq
    cases lead with
    | nil => exact absurd hhead (by simp)
    | cons c lead =>
      obtain ⟨rfl, -⟩ := List.cons.inj heq
      rw [List.head?_cons, Option.map_some] at hhead
      exact absurd hhead (by decide)
  · rw [← hlength, List.take_left, List.drop_left]
    exact if_pos h

theorem hyphenatedPart?_of_digit {c : Char} (hc : c ∈ Text.Hex.digits) (rest : List Char) :
    hyphenatedPart? (c :: rest) = some (c :: rest) := by
  have hall : ∀ c ∈ Text.Hex.digits, c ≠ '\x7b' ∧ some c.toLower ≠ some 'u' :=
    List.forall_iff_forall_mem.1 (by decide)
  obtain ⟨hbrace, hlead⟩ := hall c hc
  unfold hyphenatedPart?
  split
  · rename_i heq
    exact absurd (List.cons.inj heq).1 hbrace
  · refine if_neg fun hnamespace => hlead ?_
    have hhead := head?_of_isNamespace hnamespace
    rwa [List.head?_take, if_neg (by decide)] at hhead

/-- The digits of groups are read from the hyphenated part, however long the text is. -/
theorem read?_of_hyphenatedPart? {g : Groups} (hpart : hyphenatedPart? s = some g.text)
    (hlength : s.length ≠ 32) : read? s = ofDigits? g.flat := by
  rw [read?, if_neg hlength, hpart, Option.bind_some, g.withoutHyphens?_text, Option.bind_some]

/-- **What is read as an identifier is its digits in one of the layouts.** -/
theorem read?_eq_some_iff :
    read? s = some id ↔ ∃ digits, Denotes digits id ∧ IsWritten IsNamespace digits s := by
  constructor
  · intro h
    rw [read?] at h
    split at h
    · exact ⟨s, ofDigits?_eq_some_iff.1 h, .row s⟩
    · simp only [Option.bind_eq_some_iff] at h
      obtain ⟨digits, ⟨part, hpart, hgroups⟩, hread⟩ := h
      obtain ⟨g, rfl, rfl⟩ := Groups.exists_text_eq hgroups
      refine ⟨g.flat, ofDigits?_eq_some_iff.1 hread, ?_⟩
      obtain rfl | ⟨lead, hlead, rfl⟩ | rfl := hyphenatedPart?_cases hpart
      · exact .braced g
      · exact .behind lead g hlead
      · exact .grouped g
  · rintro ⟨digits, hdigits, hwritten⟩
    cases hwritten with
    | row =>
      rw [read?, if_pos hdigits.isDigits.length_eq]
      exact ofDigits?_eq_some_iff.2 hdigits
    | grouped g =>
      have hpart : hyphenatedPart? g.text = some g.text := by
        obtain ⟨c, rest, hfirst⟩ := List.exists_cons_of_length_pos (by rw [g.length_first]; decide)
        have hc : c ∈ Text.Hex.digits := hdigits.isDigits.mem c (by simp [Groups.flat, hfirst])
        rw [Groups.text, hfirst]
        exact hyphenatedPart?_of_digit hc _
      rw [read?_of_hyphenatedPart? hpart (by rw [g.length_text]; decide)]
      exact ofDigits?_eq_some_iff.2 hdigits
    | braced g =>
      rw [read?_of_hyphenatedPart? (hyphenatedPart?_braced g.text) (by simp [g.length_text])]
      exact ofDigits?_eq_some_iff.2 hdigits
    | behind lead g hlead =>
      have hlength : (lead ++ g.text).length ≠ 32 := by
        rw [List.length_append, g.length_text]
        omega
      rw [read?_of_hyphenatedPart? (hyphenatedPart?_behind hlead g.text) hlength]
      exact ofDigits?_eq_some_iff.2 hdigits

theorem Spells.exists_read? (h : Spells IsNamespace s digits) :
    ∃ id, read? s = some id ∧ Denotes digits id := by
  obtain ⟨id, hdigits⟩ := exists_denotes h.isDigits
  exact ⟨id, read?_eq_some_iff.2 ⟨digits, hdigits, h.isWritten⟩, hdigits⟩

theorem exists_spells (h : read? s = some id) :
    ∃ digits, Spells IsNamespace s digits ∧ Denotes digits id := by
  obtain ⟨digits, hdigits, hwritten⟩ := read?_eq_some_iff.1 h
  exact ⟨digits, ⟨hdigits.isDigits, hwritten⟩, hdigits⟩

theorem read?_eq_none_iff : read? s = none ↔ ¬∃ digits, Spells IsNamespace s digits := by
  constructor
  · rintro hnone ⟨digits, hspells⟩
    obtain ⟨id, hread, -⟩ := hspells.exists_read?
    exact absurd (hnone.symm.trans hread) (by simp)
  · intro hnot
    by_contra hsome
    obtain ⟨id, hread⟩ := Option.ne_none_iff_exists'.1 hsome
    obtain ⟨digits, hspells, -⟩ := exists_spells hread
    exact hnot ⟨digits, hspells⟩

/-- What is read as nothing but zeros is a text of nothing but zeros. -/
theorem exists_isNil_iff : (∃ id, read? s = some id ∧ id.isNil = true) ↔
    ∃ digits, Spells IsNamespace s digits ∧ ∀ c ∈ digits, c = '0' := by
  constructor
  · rintro ⟨id, hread, hnil⟩
    obtain ⟨digits, hspells, hdigits⟩ := exists_spells hread
    exact ⟨digits, hspells, hdigits.isNil_iff.1 hnil⟩
  · rintro ⟨digits, hspells, hzeros⟩
    obtain ⟨id, hread, hdigits⟩ := hspells.exists_read?
    exact ⟨id, hread, hdigits.isNil_iff.2 hzeros⟩

/-- What is written is read as the same identifier. -/
theorem read?_simple (id : Uuid) : read? id.simple.toList = some id :=
  read?_eq_some_iff.2 ⟨_, denotes_simple id, .row _⟩

end Uuid

end ErrorReport
