/-!
# Punycode

A label of a domain name with characters outside ASCII is written in ASCII: first its ASCII
characters, then a hyphen, then numbers that say which character to insert next and where.  The
numbers are variable-length, in base 36, and the thresholds that end a number adapt to the ones before.

* `Punycode.encode` writes a label, the numbers by recursion on what is left of each of them;
* `Punycode.decode?` reads one, digit by digit.
-/

set_option autoImplicit false

namespace ErrorReport.Url.Punycode

/-- The digit for a value below 36. -/
def digit (n : Nat) : Char := if n < 26 then Char.ofNat (97 + n) else Char.ofNat (22 + n)

/-- The value of a digit in either case. -/
def value? (c : Char) : Option Nat :=
  if 97 ≤ c.toNat ∧ c.toNat ≤ 122 then some (c.toNat - 97)
  else if 65 ≤ c.toNat ∧ c.toNat ≤ 90 then some (c.toNat - 65)
  else if 48 ≤ c.toNat ∧ c.toNat ≤ 57 then some (c.toNat - 22)
  else none

theorem value?_digit (n : Nat) (h : n < 36) : value? (digit n) = some n := by
  have : ∀ m : Fin 36, value? (digit m) = some m.val := by decide
  exact this ⟨n, h⟩

/-- A digit below the threshold of its place is the last one of its number. -/
def threshold (place bias : Nat) : Nat := Nat.min 26 (Nat.max 1 (place - bias))

theorem threshold_bounds (place bias : Nat) :
    1 ≤ threshold place bias ∧ threshold place bias ≤ 26 := by
  simp only [threshold, Nat.min_def, Nat.max_def]
  split <;> split <;> omega

/-- Divides by 35 until at most 455 is left, and adds the bias of that remainder to 36 for each
division. -/
def balance (delta : Nat) : Nat :=
  if 455 < delta then balance (delta / 35) + 36 else 36 * delta / (delta + 38)
termination_by delta

/-- The bias after a number; `size` counts the characters placed so far. -/
def adapt (delta size : Nat) (isFirst : Bool) : Nat :=
  let damped := if isFirst then delta / 700 else delta / 2
  balance (damped + damped / size)

/-! ## Writing -/

/-- The digits of a number, from the given place on. -/
def digits (bias place n : Nat) : List Char :=
  if n < threshold place bias then [digit n]
  else
    digit (threshold place bias + (n - threshold place bias) % (36 - threshold place bias))
      :: digits bias (place + 36) ((n - threshold place bias) / (36 - threshold place bias))
termination_by n
decreasing_by
  have := threshold_bounds place bias
  have := Nat.div_le_self (n - threshold place bias) (36 - threshold place bias)
  omega

/-- How far a label is written. -/
structure Progress where
  /-- The numbers written. -/
  text : List Char
  /-- The number under way. -/
  delta : Nat
  /-- The bias for that number. -/
  bias : Nat
  /-- How many characters are placed. -/
  placed : Nat

/-- Passes one character of the label while the characters `code` are being placed. -/
def Progress.pass (basic code : Nat) (p : Progress) (c : Char) : Progress :=
  if c.toNat < code then { p with delta := p.delta + 1 }
  else if c.toNat = code then
    ⟨p.text ++ digits p.bias 36 p.delta, 0, adapt p.delta (p.placed + 1) (p.placed == basic),
      p.placed + 1⟩
  else p

/-- Places the characters of one code after those of all lower codes. -/
def Progress.place (label : List Char) (basic : Nat) (p : Progress × Nat) (code : Nat) :
    Progress × Nat :=
  let reached := { p.1 with delta := p.1.delta + (code - p.2) * (p.1.placed + 1) }
  let passed := label.foldl (Progress.pass basic code) reached
  ({ passed with delta := passed.delta + 1 }, code + 1)

/-- The codes above ASCII in a label, ascending, each once. -/
def highCodes (label : List Char) : List Nat :=
  (((label.map Char.toNat).filter (128 ≤ ·)).mergeSort (· ≤ ·)).eraseDups

/-- Writes a label, without any mark that it is so written. -/
def encode (label : List Char) : List Char :=
  let basic := label.filter (·.toNat < 128)
  let (progress, _) := (highCodes label).foldl (Progress.place label basic.length)
    (⟨[], 0, 72, basic.length⟩, 128)
  (if basic.isEmpty then [] else basic ++ ['-']) ++ progress.text

/-! ## Reading -/

/-- How far a label is read. -/
structure Reading where
  /-- The characters placed. -/
  label : List Char
  /-- The code to place next. -/
  code : Nat := 128
  /-- Where it goes, as far as the digits read say. -/
  index : Nat := 0
  /-- Where the number under way started from. -/
  start : Nat := 0
  /-- The bias for that number. -/
  bias : Nat := 72
  /-- What the next digit counts. -/
  weight : Nat := 1
  /-- The place of the next digit. -/
  place : Nat := 36

/-- Whether a number is the code point of a character. -/
def isCharacter (n : Nat) : Bool := n < 0xD800 || (0xDFFF < n && n < 0x110000)

/-- Takes one digit; the last one of a number places a character. -/
def Reading.take? (r : Reading) (n : Nat) : Option Reading :=
  let index := r.index + n * r.weight
  let limit := threshold r.place r.bias
  if limit ≤ n then
    some { r with index := index, weight := r.weight * (36 - limit), place := r.place + 36 }
  else
    let size := r.label.length + 1
    let code := r.code + index / size
    let spot := index % size
    if isCharacter code then
      some {
        label := r.label.take spot ++ Char.ofNat code :: r.label.drop spot
        code := code, index := spot + 1, start := spot + 1
        bias := adapt (index - r.start) size (r.start == 0) }
    else none

/-- Takes all digits; the last number must be complete. -/
def Reading.finish? (r : Reading) : List Char → Option (List Char)
  | [] => if r.place = 36 then some r.label else none
  | c :: rest => (value? c).bind fun n => (r.take? n).bind fun next => next.finish? rest

/-- Reads a label. -/
def decode? (text : List Char) : Option (List Char) :=
  let tail := (text.reverse.takeWhile (· != '-')).reverse
  let basic := (text.take (text.length - tail.length)).dropLast
  if text.all (·.toNat < 128) then Reading.finish? { label := basic } tail else none

end ErrorReport.Url.Punycode
