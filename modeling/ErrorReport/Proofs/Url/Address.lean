import ErrorReport.Url.Ipv4
import ErrorReport.Url.Ipv6
import ErrorReport.Proofs.Text.Decimal
import ErrorReport.Proofs.Text.Split
import Mathlib.Algebra.Group.Nat.Defs
import Mathlib.Data.List.TakeWhile

/-!
# Addresses, there and back

A printed address is read as the address it was printed from: `Ipv4.read?_text` for the numbers that
a reader comes up with, which fit 32 bits, and `Ipv6.read?_text` for eight groups of 16 bits.

The double colon of a printed IPv6 address stands for the run that `longestRun` finds, and that run
is all zeros (`Ipv6.longestRun_zeros`), so reading puts back what printing left out.
-/

set_option autoImplicit false

namespace ErrorReport.Url

namespace Ipv4

theorem part?_byte {n : Nat} (h : n < 256) : part? (Nat.toDigits 10 n) = some n := by
  have : ∀ m : Fin 256, part? (Nat.toDigits 10 m) = some m.val := by decide +kernel
  exact this ⟨n, h⟩

/-- What is read fits 32 bits. -/
theorem ofParts?_lt {numbers : List Nat} {address : Nat} (h : ofParts? numbers = some address) :
    address < 2 ^ 32 := by
  rw [ofParts?] at h
  split at h
  · exact absurd h (by simp)
  · rename_i last hlast
    simp only at h
    split at h
    · exact absurd h (by simp)
    · rename_i hbounds
      simp only [not_or, not_lt, not_le, List.any_eq_true, decide_eq_true_eq, not_exists,
        not_and] at hbounds
      obtain ⟨hlength, hlt, hfront⟩ := hbounds
      rw [← Option.some.inj h]
      generalize numbers.dropLast = front at hlength hlt hfront
      match front, hlength with
      | [], _ => simpa using hlt
      | [a], _ =>
        have ha := hfront a (by simp)
        simp at hlt ⊢
        omega
      | [a, b], _ =>
        have ha := hfront a (by simp)
        have hb := hfront b (by simp)
        simp at hlt ⊢
        omega
      | [a, b, c], _ =>
        have ha := hfront a (by simp)
        have hb := hfront b (by simp)
        have hc := hfront c (by simp)
        simp at hlt ⊢
        omega

theorem read?_lt {host : List Char} {address : Nat} (h : read? host = some address) :
    address < 2 ^ 32 := by
  obtain ⟨numbers, -, hnumbers⟩ := Option.bind_eq_some_iff.1 h
  exact ofParts?_lt hnumbers

/-- The bytes of an address, as they are printed. -/
def byteTexts (address : Nat) : List (List Char) :=
  [3, 2, 1, 0].map fun i => Nat.toDigits 10 (address / 256 ^ i % 256)

theorem isDigit_of_mem_byteTexts {address : Nat} {part : List Char} (h : part ∈ byteTexts address) :
    part ≠ [] ∧ ∀ c ∈ part, c.isDigit = true := by
  obtain ⟨i, -, rfl⟩ := List.mem_map.1 h
  exact ⟨Nat.toDigits_ne_nil, fun c hc => Text.isDigit_of_mem_decimal hc⟩

/-- A printed address holds digits and dots only. -/
theorem mem_text {address : Nat} {c : Char} (h : c ∈ text address) :
    c.isDigit = true ∨ c = '.' := by
  rcases Text.mem_joinWith h with h | ⟨part, hpart, hc⟩
  · exact .inr (List.mem_singleton.1 h)
  · exact .inl ((isDigit_of_mem_byteTexts hpart).2 c hc)

theorem parts_text (address : Nat) : parts (text address) = byteTexts address := by
  have hpieces : Text.pieces (· == '.') (text address) = byteTexts address := by
    refine Text.pieces_joinWith (by simp) ?_ (by decide)
    intro part hpart c hc
    have hdigit := (isDigit_of_mem_byteTexts hpart).2 c hc
    have hne : c ≠ '.' := by
      rintro rfl
      exact absurd hdigit (by decide)
    simpa using hne
  rw [parts]
  simp only [hpieces]
  rw [if_neg]
  rintro ⟨-, hlast⟩
  have hmem : [] ∈ byteTexts address := List.mem_of_getLast? hlast
  exact (isDigit_of_mem_byteTexts hmem).1 rfl

theorem endsInNumber_text (address : Nat) : endsInNumber (text address) = true := by
  have hlast : (byteTexts address).getLast? = some (Nat.toDigits 10 (address / 256 ^ 0 % 256)) :=
    rfl
  have hall : (Nat.toDigits 10 (address / 256 ^ 0 % 256)).all Char.isDigit = true :=
    List.all_eq_true.2 fun c hc => Text.isDigit_of_mem_decimal hc
  have hne : (Nat.toDigits 10 (address / 256 ^ 0 % 256)).isEmpty = false := by
    rw [List.isEmpty_eq_false_iff]
    exact Nat.toDigits_ne_nil
  rw [endsInNumber, parts_text, hlast]
  simp only [hall, hne, Bool.not_false, Bool.true_or, Bool.and_self]

/-- **A printed address is read back.** -/
theorem read?_text {address : Nat} (h : address < 2 ^ 32) :
    read? (text address) = some address := by
  have hnumbers : (byteTexts address).mapM part? =
      some ([3, 2, 1, 0].map fun i => address / 256 ^ i % 256) := by
    simp only [byteTexts, List.map_cons, List.map_nil, List.mapM_cons, List.mapM_nil,
      part?_byte (Nat.mod_lt _ (by decide : 0 < 256))]
    rfl
  rw [read?, parts_text, hnumbers]
  simp only [Option.bind_some, List.map_cons, List.map_nil]
  rw [ofParts?]
  simp only [List.getLast?_cons_cons, List.getLast?_singleton, List.dropLast_cons_cons,
    List.dropLast_singleton]
  rw [if_neg]
  · simp only [List.zipIdx_cons, List.zipIdx_nil, List.map_cons, List.map_nil, List.foldr_cons,
      List.foldr_nil, Nat.pow_eq]
    congr 1
    omega
  · simp only [List.length_cons, List.length_nil, List.any_cons, List.any_nil, Bool.or_false,
      Bool.or_eq_true, decide_eq_true_eq, not_or, Nat.pow_eq]
    omega

end Ipv4

namespace Ipv6

/-! ## Groups -/

theorem value?_digitChar {n : Nat} (h : n < 16) : Text.Hex.value? n.digitChar = some n := by
  have : ∀ m : Fin 16, Text.Hex.value? m.val.digitChar = some m.val := by decide
  exact this ⟨n, h⟩

/-- The hexadecimal digits of a number, read from the left. -/
theorem foldlM_minimal (n : Nat) :
    (Text.Hex.minimal n).foldlM (fun n c => (Text.Hex.value? c).map (n * 16 + ·)) 0 = some n := by
  rw [Text.Hex.minimal]
  induction n using Nat.strongRecOn with
  | ind n ih =>
    by_cases hlt : n < 16
    · rw [Nat.toDigits_of_lt_base hlt, List.foldlM_cons, value?_digitChar hlt]
      simp
    · rw [Nat.toDigits_of_base_le (by decide) (by omega), List.foldlM_append,
        ih (n / 16) (by omega)]
      simp only [Option.bind_eq_bind, Option.bind_some, List.foldlM_cons,
        value?_digitChar (Nat.mod_lt n (by decide : 0 < 16)), Option.map_some, List.foldlM_nil]
      show some (n / 16 * 16 + n % 16) = some n
      congr 1
      omega

/-- The digits of a group are hexadecimal ones. -/
theorem mem_minimal {n : Nat} {c : Char} (h : c ∈ Text.Hex.minimal n) :
    (Text.Hex.value? c).isSome := by
  rw [Text.Hex.minimal] at h
  induction n using Nat.strongRecOn with
  | ind n ih =>
    by_cases hlt : n < 16
    · rw [Nat.toDigits_of_lt_base hlt] at h
      rw [List.mem_singleton.1 h, value?_digitChar hlt]
      rfl
    · rw [Nat.toDigits_of_base_le (by decide) (by omega), List.mem_append] at h
      rcases h with h | h
      · exact ih (n / 16) (by omega) h
      · rw [List.mem_singleton.1 h, value?_digitChar (Nat.mod_lt n (by decide))]
        rfl

theorem not_mem_minimal {n : Nat} {c : Char} (hc : Text.Hex.value? c = none) :
    c ∉ Text.Hex.minimal n := by
  intro h
  have := mem_minimal h
  rw [hc] at this
  exact absurd this (by decide)

theorem minimal_ne_nil (n : Nat) : Text.Hex.minimal n ≠ [] := Nat.toDigits_ne_nil

/-- A printed group is read back. -/
theorem group?_minimal {n : Nat} (h : n < 65536) : group? (Text.Hex.minimal n) = some n := by
  have hlength : (Text.Hex.minimal n).length ≤ 4 :=
    (Nat.length_toDigits_le_iff (by decide) (by decide)).2 h
  have hpos : 1 ≤ (Text.Hex.minimal n).length := List.length_pos_of_ne_nil (minimal_ne_nil n)
  rw [group?, if_pos ⟨hpos, hlength⟩]
  exact foldlM_minimal n

theorem groups?_minimal {groups : List Nat} (h : ∀ g ∈ groups, g < 65536) :
    groups? (groups.map Text.Hex.minimal) = some groups := by
  induction groups with
  | nil => rfl
  | cons g groups ih =>
    have hg := group?_minimal (h g List.mem_cons_self)
    have hrest := ih fun n hn => h n (List.mem_cons_of_mem _ hn)
    cases groups with
    | nil =>
      have hdot : (Text.Hex.minimal g).contains '.' = false := by
        rw [List.contains_eq_mem, decide_eq_false_iff_not]
        exact not_mem_minimal (by decide)
      rw [List.map_cons, List.map_nil, groups?, hdot, hg]
      rfl
    | cons next more =>
      rw [List.map_cons, List.map_cons, groups?, hg]
      rw [List.map_cons] at hrest
      rw [Option.bind_some, hrest]
      · rfl
      · simp

theorem groupsText_eq_nil {groups : List Nat} (h : groupsText groups = []) : groups = [] := by
  cases groups with
  | nil => rfl
  | cons g groups =>
    rw [groupsText, List.map_cons] at h
    cases groups with
    | nil => exact absurd h (minimal_ne_nil g)
    | cons next more =>
      rw [List.map_cons, Text.joinWith] at h
      exact absurd h (by simp)

theorem pieces_groupsText {groups : List Nat} (hne : groups ≠ []) :
    Text.pieces (· == ':') (groupsText groups) = groups.map Text.Hex.minimal := by
  refine Text.pieces_joinWith (by simpa using hne) ?_ (by decide)
  intro part hpart c hc
  obtain ⟨g, -, rfl⟩ := List.mem_map.1 hpart
  have hne : c ≠ ':' := by
    rintro rfl
    exact not_mem_minimal (by decide) hc
  simpa using hne

/-- Groups with single colons between them are read back. -/
theorem side?_groupsText {groups : List Nat} (h : ∀ g ∈ groups, g < 65536) :
    side? (groupsText groups) = some groups := by
  by_cases hnil : groups = []
  · rw [hnil]
    rfl
  · have hne : (groupsText groups).isEmpty = false := by
      rw [List.isEmpty_eq_false_iff]
      exact fun h => hnil (groupsText_eq_nil h)
    rw [side?, hne, pieces_groupsText hnil]
    exact groups?_minimal h

/-- No group is printed as nothing, so no colon has another one, or nothing, beside it. -/
theorem groupsText_ne_append {groups : List Nat} (a b : List Char)
    (hb : [] ∈ Text.pieces (· == ':') b) :
    groupsText groups ≠ a ++ ':' :: b := by
  intro heq
  by_cases hnil : groups = []
  · rw [hnil] at heq
    exact absurd heq (by simp [groupsText, Text.joinWith])
  · have hpieces := pieces_groupsText hnil
    rw [heq, Text.pieces_append_sep a b (by decide)] at hpieces
    have hmem : [] ∈ groups.map Text.Hex.minimal := hpieces ▸ List.mem_append_right _ hb
    obtain ⟨g, -, hg⟩ := List.mem_map.1 hmem
    exact minimal_ne_nil g hg

/-! ## The double colon -/

/-- The double colon between two sides. -/
def gap : List Char := [':', ':']

theorem not_infix_gap (groups : List Nat) : ¬gap <:+: groupsText groups := by
  rintro ⟨a, b, hab⟩
  refine groupsText_ne_append a (':' :: b) ?_ (by rw [← hab]; simp [gap])
  rw [Text.pieces, if_pos (by decide)]
  exact List.mem_cons_self

/-- The first double colon is the one that was printed. -/
theorem splitOnce?_gap {w : List Char} (r : List Char) (hfound : ¬gap <:+: w)
    (hlast : w.getLast? ≠ some ':') :
    Text.splitOnce? gap (w ++ gap ++ r) = some (w, r) := by
  induction w with
  | nil => rfl
  | cons c w ih =>
    have hw : ¬gap <:+: w := fun hin => hfound (hin.trans (List.infix_cons (List.infix_refl w)))
    have hno : gap.isPrefixOf? (c :: (w ++ gap ++ r)) = none := by
      by_contra hsome
      obtain ⟨t, ht⟩ := Option.ne_none_iff_exists'.1 hsome
      have heq := Text.isPrefixOf?_eq_some ht
      match w with
      | [] =>
        simp only [gap, List.nil_append, List.cons_append, List.cons.injEq] at heq
        rw [heq.1] at hlast
        exact hlast rfl
      | d :: w =>
        simp only [gap, List.cons_append, List.cons.injEq] at heq
        obtain ⟨rfl, rfl, -⟩ := heq
        exact hfound ⟨[], w, rfl⟩
    have hlast' : w.getLast? ≠ some ':' := by
      cases w with
      | nil => simp
      | cons d w => rwa [List.getLast?_cons_cons] at hlast
    rw [List.cons_append, List.cons_append, Text.splitOnce?, hno]
    simp only
    rw [ih hw hlast']
    rfl

/-- What is left out of the printed form is zeros, and it is within the address. -/
theorem longestRun_zeros (groups : List Nat) :
    groups = groups.take (longestRun groups).1 ++ List.replicate (longestRun groups).2 0 ++
      groups.drop ((longestRun groups).1 + (longestRun groups).2) := by
  have hhead : ∀ gs : List Nat, gs = List.replicate (leadingZeros gs) 0 ++
      gs.drop (leadingZeros gs) := by
    intro gs
    induction gs with
    | nil => rfl
    | cons g gs ih =>
      rw [leadingZeros] at ih ⊢
      by_cases hg : g = 0
      · rw [hg, List.takeWhile_cons_of_pos (by decide), List.length_cons, List.replicate_succ,
          List.drop_succ_cons, List.cons_append, ← ih]
      · rw [List.takeWhile_cons_of_neg (by simpa using hg)]
        rfl
  induction groups with
  | nil => rfl
  | cons g groups ih =>
    rw [longestRun]
    split
    · simp only [List.take_zero, Nat.zero_add, List.nil_append]
      exact hhead _
    · rw [List.take_succ_cons, List.cons_append, List.cons_append,
        show (longestRun groups).1 + 1 + (longestRun groups).2 =
          (longestRun groups).1 + (longestRun groups).2 + 1 by omega, List.drop_succ_cons, ← ih]

/-- **A printed address is read back.** -/
theorem read?_text {groups : List Nat} (hlength : groups.length = 8) (h : ∀ g ∈ groups, g < 65536) :
    read? (text groups) = some groups := by
  have hzeros := longestRun_zeros groups
  rw [text]
  simp only
  generalize (longestRun groups).1 = start at hzeros
  generalize (longestRun groups).2 = count at hzeros
  by_cases hshort : count < 2
  · rw [if_pos hshort, read?, show [':', ':'] = gap from rfl,
      Text.splitOnce?_eq_none_iff.2 (not_infix_gap groups), side?_groupsText h]
    simp only [Option.filter_some, hlength]
    rfl
  · rw [if_neg hshort, read?]
    have hfront : ∀ g ∈ groups.take start, g < 65536 := fun g hg => h g (List.mem_of_mem_take hg)
    have hback : ∀ g ∈ groups.drop (start + count), g < 65536 :=
      fun g hg => h g (List.mem_of_mem_drop hg)
    have hlast : (groupsText (groups.take start)).getLast? ≠ some ':' := by
      intro hsome
      obtain ⟨a, ha⟩ := List.getLast?_eq_some_iff.1 hsome
      exact groupsText_ne_append a [] (by simp [Text.pieces]) ha
    have hdot : (groupsText (groups.take start)).contains '.' = false := by
      rw [List.contains_eq_mem, decide_eq_false_iff_not]
      intro hmem
      rcases Text.mem_joinWith hmem with hmem | ⟨part, hpart, hmem⟩
      · exact absurd hmem (by decide)
      · obtain ⟨g, -, rfl⟩ := List.mem_map.1 hpart
        exact not_mem_minimal (by decide) hmem
    rw [show [':', ':'] = gap from rfl, splitOnce?_gap _ (not_infix_gap _) hlast]
    simp only [hdot, Bool.false_eq_true, if_false]
    rw [side?_groupsText hfront, side?_groupsText hback]
    have hcount : (groups.take start).length + count + (groups.drop (start + count)).length =
        8 := by
      have := congrArg List.length hzeros
      rw [List.length_append, List.length_append, List.length_replicate, hlength] at this
      exact this.symm
    simp only [Option.bind_eq_bind, Option.bind_some]
    rw [if_pos (by omega),
      show 8 - (groups.take start).length - (groups.drop (start + count)).length = count by omega,
      ← hzeros]

/-! ## What is read -/

theorem foldlM_lt {digits : List Char} {a n : Nat}
    (h : digits.foldlM (fun n c => (Text.Hex.value? c).map (n * 16 + ·)) a = some n) :
    n < (a + 1) * 16 ^ digits.length := by
  induction digits generalizing a with
  | nil =>
    obtain rfl := Option.some.inj h
    rw [List.length_nil, Nat.pow_zero]
    omega
  | cons c digits ih =>
    rw [List.foldlM_cons, Option.bind_eq_bind, Option.bind_eq_some_iff] at h
    obtain ⟨b, hb, h⟩ := h
    obtain ⟨d, hd, rfl⟩ := Option.map_eq_some_iff.1 hb
    have hdigit : a * 16 + d + 1 ≤ (a + 1) * 16 := by
      have := Text.Hex.value?_lt hd
      omega
    calc n < (a * 16 + d + 1) * 16 ^ digits.length := ih h
      _ ≤ (a + 1) * 16 * 16 ^ digits.length := Nat.mul_le_mul_right _ hdigit
      _ = (a + 1) * 16 ^ (c :: digits).length := by rw [List.length_cons, Nat.pow_succ',
        Nat.mul_assoc]

theorem group?_lt {digits : List Char} {n : Nat} (h : group? digits = some n) : n < 65536 := by
  rw [group?] at h
  split at h
  · rename_i hlength
    calc n < (0 + 1) * 16 ^ digits.length := foldlM_lt h
      _ ≤ (0 + 1) * 16 ^ 4 := Nat.mul_le_mul_left _ (Nat.pow_le_pow_right (by decide) hlength.2)
  · exact absurd h (by simp)

theorem byte?_le {digits : List Char} {n : Nat} (h : byte? digits = some n) : n ≤ 255 := by
  rw [byte?] at h
  split at h
  · exact absurd h (by simp)
  · simp only at h
    split at h
    · rename_i hle
      rwa [← Option.some.inj h]
    · exact absurd h (by simp)

theorem embedded?_lt {text : List Char} {groups : List Nat} (h : embedded? text = some groups) :
    ∀ g ∈ groups, g < 65536 := by
  rw [embedded?] at h
  split at h
  · rename_i a b c d hbytes
    have hle : ∀ n ∈ [a, b, c, d], n ≤ 255 := by
      intro n hn
      obtain ⟨piece, -, hpiece⟩ := Text.exists_of_mem_mapM hbytes hn
      exact byte?_le hpiece
    rw [← Option.some.inj h]
    have ha := hle a (by simp)
    have hb := hle b (by simp)
    have hc := hle c (by simp)
    have hd := hle d (by simp)
    simp only [List.mem_cons, List.not_mem_nil, or_false, forall_eq_or_imp, forall_eq]
    omega
  · exact absurd h (by simp)

theorem groups?_lt {pieces : List (List Char)} {groups : List Nat}
    (h : groups? pieces = some groups) :
    ∀ g ∈ groups, g < 65536 := by
  induction pieces generalizing groups with
  | nil =>
    obtain rfl := Option.some.inj h
    simp
  | cons first rest ih =>
    cases rest with
    | nil =>
      rw [groups?] at h
      split at h
      · exact embedded?_lt h
      · obtain ⟨n, hn, rfl⟩ := Option.map_eq_some_iff.1 h
        intro g hg
        rw [List.mem_singleton.1 hg]
        exact group?_lt hn
    | cons next more =>
      rw [groups?, Option.bind_eq_some_iff] at h
      · obtain ⟨n, hn, h⟩ := h
        obtain ⟨later, hlater, rfl⟩ := Option.map_eq_some_iff.1 h
        intro g hg
        rcases List.mem_cons.1 hg with rfl | hg
        · exact group?_lt hn
        · exact ih hlater g hg
      · simp

theorem side?_lt {text : List Char} {groups : List Nat} (h : side? text = some groups) :
    ∀ g ∈ groups, g < 65536 := by
  rw [side?] at h
  split at h
  · obtain rfl := Option.some.inj h
    simp
  · exact groups?_lt h

/-- An address that was read has eight groups of 16 bits. -/
theorem read?_bounds {text : List Char} {groups : List Nat} (h : read? text = some groups) :
    groups.length = 8 ∧ ∀ g ∈ groups, g < 65536 := by
  rw [read?] at h
  split at h
  · rename_i before after hcut
    split at h
    · exact absurd h (by simp)
    · simp only [Option.bind_eq_bind, Option.bind_eq_some_iff] at h
      obtain ⟨front, hfront, back, hback, h⟩ := h
      split at h
      · rename_i hle
        rw [← Option.some.inj h]
        constructor
        · simp only [List.length_append, List.length_replicate]
          omega
        · intro g hg
          rcases List.mem_append.1 hg with hg | hg
          · rcases List.mem_append.1 hg with hg | hg
            · exact side?_lt hfront g hg
            · rw [List.eq_of_mem_replicate hg]
              decide
          · exact side?_lt hback g hg
      · exact absurd h (by simp)
  · obtain ⟨hside, hlength⟩ := Option.filter_eq_some_iff.1 h
    exact ⟨by simpa using hlength, side?_lt hside⟩

end Ipv6

end ErrorReport.Url
