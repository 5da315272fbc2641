/-!
# Hexadecimal digits

`digit` and `upperDigit` write one digit, `value?` reads one in either case; `ofBytes` writes two
digits a byte and `fixed` a number with a set count of digits.
-/

set_option autoImplicit false

namespace ErrorReport.Text.Hex

/-- The digit for a value below sixteen, in lower case. -/
def digit (n : Nat) : Char := if n < 10 then Char.ofNat (48 + n) else Char.ofNat (87 + n)

/-- The digit for a value below sixteen, in upper case. -/
def upperDigit (n : Nat) : Char := if n < 10 then Char.ofNat (48 + n) else Char.ofNat (55 + n)

/-- The value of a digit in either case. -/
def value? (c : Char) : Option Nat :=
  if 48 ≤ c.toNat ∧ c.toNat ≤ 57 then some (c.toNat - 48)
  else if 97 ≤ c.toNat ∧ c.toNat ≤ 102 then some (c.toNat - 87)
  else if 65 ≤ c.toNat ∧ c.toNat ≤ 70 then some (c.toNat - 55)
  else none

theorem value?_digit (n : Nat) (h : n < 16) : value? (digit n) = some n := by
  have : ∀ m : Fin 16, value? (digit m) = some m.val := by decide
  exact this ⟨n, h⟩

theorem value?_upperDigit (n : Nat) (h : n < 16) : value? (upperDigit n) = some n := by
  have : ∀ m : Fin 16, value? (upperDigit m) = some m.val := by decide
  exact this ⟨n, h⟩

theorem value?_lt {c : Char} {n : Nat} (h : value? c = some n) : n < 16 := by
  unfold value? at h
  grind

/-- Two lower-case digits a byte. -/
def ofBytes (bytes : List UInt8) : List Char :=
  bytes.flatMap fun b => [digit (b.toNat / 16), digit (b.toNat % 16)]

@[simp] theorem length_ofBytes (bytes : List UInt8) : (ofBytes bytes).length = 2 * bytes.length := by
  induction bytes with
  | nil => rfl
  | cons b bytes ih =>
    rw [ofBytes, List.flatMap_cons, List.length_append, ← ofBytes, ih, List.length_cons]
    show 2 + 2 * bytes.length = 2 * (bytes.length + 1)
    omega

theorem mem_ofBytes {bytes : List UInt8} {c : Char} (h : c ∈ ofBytes bytes) :
    ∃ n < 16, c = digit n := by
  obtain ⟨b, -, hc⟩ := List.mem_flatMap.1 h
  have hlt : b.toNat < 256 := b.toNat_lt
  rcases List.mem_cons.1 hc with rfl | hc
  · exact ⟨_, by omega, rfl⟩
  · obtain rfl := List.mem_singleton.1 hc
    exact ⟨_, Nat.mod_lt _ (by decide), rfl⟩

theorem mem_lower_of_mem_ofBytes {bytes : List UInt8} {c : Char} (h : c ∈ ofBytes bytes) :
    c.isDigit = true ∨ c ∈ ['a', 'b', 'c', 'd', 'e', 'f'] := by
  obtain ⟨n, hn, rfl⟩ := mem_ofBytes h
  have : ∀ m : Fin 16, (digit m).isDigit = true ∨ digit m ∈ ['a', 'b', 'c', 'd', 'e', 'f'] := by
    decide
  exact this ⟨n, hn⟩

/-- The last `count` digits of a number, the highest first, written by `write`. -/
def fixed (write : Nat → Char) (count n : Nat) : List Char :=
  match count with
  | 0 => []
  | count + 1 => fixed write count (n / 16) ++ [write (n % 16)]

@[simp] theorem length_fixed (write : Nat → Char) (count n : Nat) :
    (fixed write count n).length = count := by
  induction count generalizing n with
  | zero => rfl
  | succ count ih => simp [fixed, ih]

/-- A number without leading zeros, in lower case. -/
def minimal (n : Nat) : List Char := Nat.toDigits 16 n

end ErrorReport.Text.Hex
