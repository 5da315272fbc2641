import ErrorReport.Grouping
import ErrorReport.Proofs.Text.Utf8
import Mathlib.Algebra.Group.Nat.Defs

/-!
# What the check of a text tells apart

The register of the check is shifted through the bytes of a text.  A shift is linear over exclusive
or (`step_xor`) and loses nothing, for the highest bit of the polynomial says afterwards whether the
lowest bit went out (`step_injective`).  So the check of two texts is the same only if the registers
were the same after every byte from their last difference on (`feed_injective`).

Up to four bytes fit into the register.  Feeding them one by one is adding them to it all at once
and shifting then (`feed_eq_steps`), and so they show in it undisturbed.  Hence two texts of one
length that differ only within four bytes in a row have different checks, and the digits of a check
show all of it: `Hasher.crc32_ne_of_differWithin`.
-/

set_option autoImplicit false

namespace ErrorReport

/-! ## Digits -/

namespace Text.Hex

theorem upperDigit_inj {m n : Nat} (hm : m < 16) (hn : n < 16)
    (h : upperDigit m = upperDigit n) : m = n := by
  have hvalue := congrArg value? h
  rwa [value?_upperDigit m hm, value?_upperDigit n hn, Option.some_inj] at hvalue

/-- A number is told by its digits, if there are enough of them. -/
theorem fixed_upperDigit_inj {count m n : Nat} (hm : m < 16 ^ count) (hn : n < 16 ^ count)
    (h : fixed upperDigit count m = fixed upperDigit count n) :
    m = n := by
  induction count generalizing m n with
  | zero => omega
  | succ count ih =>
    rw [Nat.pow_succ] at hm hn
    obtain ⟨hhigh, hlow⟩ := List.append_inj' h rfl
    have hquotient := ih (by omega) (by omega) hhigh
    have hremainder := upperDigit_inj (Nat.mod_lt _ (by decide)) (Nat.mod_lt _ (by decide))
      (List.singleton_inj.1 hlow)
    omega

theorem mem_fixed {write : Nat → Char} {count n : Nat} {c : Char}
    (h : c ∈ fixed write count n) : ∃ k < 16, c = write k := by
  induction count generalizing n with
  | zero => exact absurd h List.not_mem_nil
  | succ count ih =>
    rcases List.mem_append.1 h with h | h
    · exact ih h
    · exact ⟨_, Nat.mod_lt _ (by decide), List.mem_singleton.1 h⟩

end Text.Hex

namespace Checksum.Crc32

/-! ## One shift -/

theorem step_xor (a b : BitVec 32) : step (a ^^^ b) = step a ^^^ step b := by
  have hcancel (x y : BitVec 32) : x ^^^ polynomial ^^^ (y ^^^ polynomial) = x ^^^ y := by
    rw [BitVec.xor_comm y, BitVec.xor_assoc, ← BitVec.xor_assoc polynomial, BitVec.xor_self,
      BitVec.zero_xor]
  unfold step
  rw [BitVec.getLsbD_xor, BitVec.ushiftRight_xor_distrib]
  cases a.getLsbD 0 <;> cases b.getLsbD 0
  · rfl
  · exact BitVec.xor_assoc ..
  · simp only [Bool.xor_false, if_true, Bool.false_eq_true, if_false]
    rw [BitVec.xor_assoc, BitVec.xor_assoc, BitVec.xor_comm polynomial]
  · exact (hcancel _ _).symm

/-- Where the lowest bit is clear, a shift is undone by shifting back. -/
theorem step_shiftLeft_one {register : BitVec 32} (h : register.toNat < 2 ^ 31) :
    step (register <<< 1) = register := by
  have hlow : (register <<< 1).getLsbD 0 = false := by simp
  rw [step, hlow, if_neg Bool.false_ne_true]
  apply BitVec.eq_of_toNat_eq
  rw [BitVec.toNat_ushiftRight, BitVec.toNat_shiftLeft, Nat.shiftLeft_eq, Nat.shiftRight_eq_div_pow]
  omega

/-- Only an empty register is empty after a shift. -/
theorem eq_zero_of_step {register : BitVec 32} (h : step register = 0#32) : register = 0#32 := by
  rw [step] at h
  split at h
  · -- the highest bit of the polynomial has nothing that could clear it
    have hhigh := congrArg BitVec.toNat (BitVec.xor_eq_zero_iff.1 h)
    rw [BitVec.toNat_ushiftRight, Nat.shiftRight_eq_div_pow] at hhigh
    have hpolynomial : 2 ^ 31 ≤ polynomial.toNat := by decide
    have := register.isLt
    omega
  · rename_i hlow
    have hshifted := congrArg BitVec.toNat h
    rw [BitVec.toNat_ushiftRight, Nat.shiftRight_eq_div_pow] at hshifted
    have heven : register.toNat % 2 = 0 := by
      simpa [BitVec.getLsbD, Nat.testBit_zero] using hlow
    apply BitVec.eq_of_toNat_eq
    simp only [BitVec.toNat_ofNat] at hshifted ⊢
    omega

theorem step_injective : Function.Injective step := by
  intro a b h
  refine BitVec.xor_eq_zero_iff.1 (eq_zero_of_step ?_)
  rw [step_xor, h, BitVec.xor_self]

/-! ## Several shifts -/

theorem steps_add (m n : Nat) (register : BitVec 32) :
    steps (m + n) register = steps n (steps m register) := by
  induction m generalizing register with
  | zero => rw [Nat.zero_add, steps]
  | succ m ih => rw [Nat.succ_add, steps, steps, ih]

theorem steps_xor (count : Nat) (a b : BitVec 32) :
    steps count (a ^^^ b) = steps count a ^^^ steps count b := by
  induction count generalizing a b with
  | zero => rfl
  | succ count ih => rw [steps, steps, steps, step_xor, ih]

theorem steps_injective (count : Nat) : Function.Injective (steps count) := by
  induction count with
  | zero => exact fun _ _ h => h
  | succ count ih => exact ih.comp step_injective

/-- What stands above the bits that are shifted out comes down unchanged. -/
theorem steps_shiftLeft {count : Nat} {register : BitVec 32}
    (h : register.toNat * 2 ^ count < 2 ^ 32) : steps count (register <<< count) = register := by
  induction count with
  | zero => rw [steps, BitVec.shiftLeft_zero]
  | succ count ih =>
    have hhalf : register.toNat * 2 ^ count < 2 ^ 31 := by
      rw [Nat.pow_succ, ← Nat.mul_assoc] at h
      omega
    have hlt : (register <<< count).toNat < 2 ^ 31 := by
      rw [BitVec.toNat_shiftLeft, Nat.shiftLeft_eq]
      exact Nat.lt_of_le_of_lt (Nat.mod_le _ _) hhalf
    rw [BitVec.shiftLeft_add, steps, step_shiftLeft_one hlt]
    exact ih (by omega)

/-! ## Bytes -/

theorem feed_append (register : BitVec 32) (a b : List UInt8) :
    feed register (a ++ b) = feed (feed register a) b :=
  List.foldl_append

/-- Whatever bytes are fed, two registers stay apart. -/
theorem feed_injective (bytes : List UInt8) : Function.Injective fun r => feed r bytes := by
  induction bytes with
  | nil => exact fun _ _ h => h
  | cons b bytes ih => exact fun r s h => (BitVec.xor_left_inj _).1 (steps_injective 8 (ih h))

/-- Bytes side by side, the first one lowest; those beyond the fourth are lost. -/
def packed : List UInt8 → BitVec 32
  | [] => 0#32
  | b :: rest => b.toBitVec.setWidth 32 ^^^ packed rest <<< 8

theorem packed_lt (bytes : List UInt8) : (packed bytes).toNat < 2 ^ (8 * bytes.length) := by
  induction bytes with
  | nil => decide
  | cons b rest ih =>
    rw [packed, BitVec.toNat_xor, BitVec.toNat_setWidth, BitVec.toNat_shiftLeft, Nat.shiftLeft_eq,
      List.length_cons]
    have hpow : 2 ^ (8 * (rest.length + 1)) = 2 ^ (8 * rest.length) * 2 ^ 8 := by
      rw [Nat.mul_add, Nat.pow_add]
    have hone : 1 ≤ 2 ^ (8 * rest.length) := Nat.one_le_two_pow
    have hbyte : b.toBitVec.toNat < 2 ^ 8 := b.toBitVec.isLt
    refine Nat.xor_lt_two_pow ?_ ?_
    · exact Nat.lt_of_le_of_lt (Nat.mod_le _ _) (by omega)
    · exact Nat.lt_of_le_of_lt (Nat.mod_le _ _) (by omega)

/-- Up to three bytes leave room for one more below them. -/
theorem steps_packed {bytes : List UInt8} (h : bytes.length ≤ 3) :
    steps 8 (packed bytes <<< 8) = packed bytes := by
  refine steps_shiftLeft (Nat.lt_of_lt_of_le (Nat.mul_lt_mul_of_pos_right (packed_lt bytes)
    (Nat.two_pow_pos 8)) ?_)
  rw [← Nat.pow_add]
  exact Nat.pow_le_pow_right (by decide) (by omega)

/-- **Up to four bytes fed one by one are four bytes added at once**, and shifted through then. -/
theorem feed_eq_steps {bytes : List UInt8} (h : bytes.length ≤ 4) (register : BitVec 32) :
    feed register bytes = steps (8 * bytes.length) (register ^^^ packed bytes) := by
  induction bytes generalizing register with
  | nil => simp [feed, steps, packed]
  | cons b rest ih =>
    have hrest : rest.length ≤ 3 := Nat.le_of_succ_le_succ h
    calc feed register (b :: rest)
        = feed (steps 8 (register ^^^ b.toBitVec.setWidth 32)) rest := rfl
      _ = steps (8 * rest.length)
            (steps 8 (register ^^^ b.toBitVec.setWidth 32) ^^^ steps 8 (packed rest <<< 8)) := by
          rw [ih (by omega), steps_packed hrest]
      _ = steps (8 + 8 * rest.length) (register ^^^ packed (b :: rest)) := by
          rw [← steps_xor, BitVec.xor_assoc, ← packed, steps_add]
      _ = steps (8 * (b :: rest).length) (register ^^^ packed (b :: rest)) := by
          rw [List.length_cons, Nat.mul_add, Nat.add_comm]

/-- The lowest byte is the first one. -/
theorem setWidth_packed (b : UInt8) (rest : List UInt8) :
    (packed (b :: rest)).setWidth 8 = b.toBitVec := by
  rw [packed, BitVec.setWidth_xor]
  ext i hi
  simp

/-- Up to four bytes can be told from what they make side by side. -/
theorem packed_inj {u v : List UInt8} (hlength : u.length = v.length) (h : u.length ≤ 4)
    (hpacked : packed u = packed v) : u = v := by
  induction u generalizing v with
  | nil => exact (List.length_eq_zero_iff.1 hlength.symm).symm
  | cons b u ih =>
    obtain ⟨c, v, rfl⟩ := List.exists_cons_of_length_eq_add_one hlength.symm
    have hu : u.length ≤ 3 := Nat.le_of_succ_le_succ h
    have huv : u.length = v.length := by simpa using hlength
    have hlow := congrArg (BitVec.setWidth 8) hpacked
    rw [setWidth_packed, setWidth_packed] at hlow
    obtain rfl := UInt8.toBitVec_inj.1 hlow
    rw [packed, packed, BitVec.xor_right_inj] at hpacked
    have hrest := congrArg (steps 8) hpacked
    rw [steps_packed hu, steps_packed (huv ▸ hu)] at hrest
    rw [ih huv (by omega) hrest]

/-- **A register tells up to four bytes apart.** -/
theorem feed_inj {u v : List UInt8} (hlength : u.length = v.length) (h : u.length ≤ 4)
    {register : BitVec 32} (hfeed : feed register u = feed register v) : u = v := by
  rw [feed_eq_steps h, feed_eq_steps (hlength ▸ h), hlength] at hfeed
  exact packed_inj hlength h ((BitVec.xor_right_inj _).1 (steps_injective _ hfeed))

/-- The same among other bytes. -/
theorem sum_inj {front u v back : List UInt8} (hlength : u.length = v.length) (h : u.length ≤ 4)
    (hsum : sum (front ++ u ++ back) = sum (front ++ v ++ back)) : u = v := by
  have hfeed := BitVec.not_inj.1 hsum
  rw [feed_append, feed_append, feed_append, feed_append] at hfeed
  exact feed_inj hlength h (feed_injective back hfeed)

/-! ## The digits of a check -/

/-- The characters of a check. -/
def digits : List Char :=
  ['0', '1', '2', '3', '4', '5', '6', '7', '8', '9', 'A', 'B', 'C', 'D', 'E', 'F']

theorem mem_digits_of_mem_text {bytes : List UInt8} {c : Char} (h : c ∈ text bytes) :
    c ∈ digits := by
  obtain ⟨k, hk, rfl⟩ := Text.Hex.mem_fixed h
  have hall : ∀ k : Fin 16, Text.Hex.upperDigit k ∈ digits := by decide
  exact hall ⟨k, hk⟩

/-- The digits show the whole register. -/
theorem sum_eq_of_text {a b : List UInt8} (h : text a = text b) : sum a = sum b :=
  BitVec.eq_of_toNat_eq (Text.Hex.fixed_upperDigit_inj (sum a).isLt (sum b).isLt h)

/-! ## Texts that differ in one place -/

/-- Two texts of one length that are the same but for so many bytes in a row. -/
def DifferWithin (width : Nat) (a b : List UInt8) : Prop :=
  a.length = b.length ∧ ∃ start, ∀ i, i < start ∨ start + width ≤ i → a[i]? = b[i]?

theorem differWithin_iff {width : Nat} {a b : List UInt8} :
    DifferWithin width a b ↔ ∃ front u v back, a = front ++ u ++ back ∧ b = front ++ v ++ back ∧
      u.length = v.length ∧ u.length ≤ width := by
  constructor
  · rintro ⟨hlength, start, hsame⟩
    have hfront : b.take start = a.take start := by
      refine List.ext_getElem? fun i => ?_
      rw [List.getElem?_take, List.getElem?_take]
      split
      · exact (hsame i (.inl ‹_›)).symm
      · rfl
    have hback : b.drop (start + width) = a.drop (start + width) := by
      refine List.ext_getElem? fun i => ?_
      rw [List.getElem?_drop, List.getElem?_drop]
      exact (hsame _ (.inr (Nat.le_add_right ..))).symm
    have hparts (s : List UInt8) :
        s = s.take start ++ (s.drop start).take width ++ s.drop (start + width) := by
      rw [List.append_assoc, ← List.drop_drop, List.take_append_drop, List.take_append_drop]
    refine ⟨a.take start, (a.drop start).take width, (b.drop start).take width,
      a.drop (start + width), hparts a, ?_, ?_, List.length_take_le ..⟩
    · rw [← hfront, ← hback]
      exact hparts b
    · simp only [List.length_take, List.length_drop, hlength]
  · rintro ⟨front, u, v, back, rfl, rfl, hlength, hwidth⟩
    refine ⟨by simp only [List.length_append, hlength], front.length, fun i hi => ?_⟩
    rw [List.append_assoc, List.append_assoc]
    rcases hi with hi | hi
    · rw [List.getElem?_append_left hi, List.getElem?_append_left hi]
    · rw [List.getElem?_append_right (by omega), List.getElem?_append_right (by omega),
        List.getElem?_append_right (by omega), List.getElem?_append_right (by omega), hlength]

/-- The check tells texts apart that differ within four bytes. -/
theorem eq_of_differWithin {a b : List UInt8} (h : DifferWithin 4 a b) (htext : text a = text b) :
    a = b := by
  obtain ⟨front, u, v, back, rfl, rfl, hlength, hwidth⟩ := differWithin_iff.1 h
  rw [sum_inj hlength hwidth (sum_eq_of_text htext)]

end Checksum.Crc32

open Checksum.Crc32 in
/-- **What default checksums tell apart.**  Each has eight digits.  Those of two signatures of one
length that differ within four bytes, such as in the digits of a line number, are different. -/
theorem Hasher.crc32_ne_of_differWithin :
    (∀ signature, (crc32.checksum signature).toList.length = 8 ∧
      ∀ c ∈ (crc32.checksum signature).toList, c ∈ digits) ∧
    ∀ a b : String, a ≠ b → DifferWithin 4 (Text.bytesOf a) (Text.bytesOf b) →
      crc32.checksum a ≠ crc32.checksum b := by
  constructor
  · intro signature
    rw [checksum, String.toList_ofList]
    exact ⟨Text.Hex.length_fixed .., fun c => mem_digits_of_mem_text⟩
  · intro a b hne hwithin heq
    exact hne (Text.bytesOf_inj (eq_of_differWithin hwithin (String.ofList_injective heq)))

/-- Two lines of one file. -/
theorem Hasher.crc32_ne_of_line :
    "app.log(app.rs:9)" ≠ "app.log(app.rs:8)" ∧
      Checksum.Crc32.DifferWithin 4 (Text.bytesOf "app.log(app.rs:9)")
        (Text.bytesOf "app.log(app.rs:8)") ∧
      Grouping.checksum "app.log(app.rs:9)" ≠ Grouping.checksum "app.log(app.rs:8)" := by
  have hne : "app.log(app.rs:9)" ≠ "app.log(app.rs:8)" := by decide
  have hwithin : Checksum.Crc32.DifferWithin 4 (Text.bytesOf "app.log(app.rs:9)")
      (Text.bytesOf "app.log(app.rs:8)") :=
    Checksum.Crc32.differWithin_iff.2
      ⟨Text.bytesOf "app.log(app.rs:", [57], [56], Text.bytesOf ")", by decide, by decide, rfl,
        by decide⟩
  exact ⟨hne, hwithin, crc32_ne_of_differWithin.2 _ _ hne hwithin⟩

/-- Five bytes are too many. -/
example : Grouping.checksum "dvdba" = Grouping.checksum "x98cu" := by decide +kernel

end ErrorReport
