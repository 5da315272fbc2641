/-!
# Bytes of text

`utf8` gives the UTF-8 bytes of a text, `decodeLossy` reads bytes that need not be well formed.
Each maximal run of bytes that starts a character but does not finish one is read as the
replacement character U+FFFD, and so is each byte that can start none.  `decode?` refuses such bytes.
-/

set_option autoImplicit false

namespace ErrorReport.Text

/-- The UTF-8 bytes of a list of characters. -/
def utf8 (s : List Char) : List UInt8 := s.flatMap String.utf8EncodeChar

/-- The UTF-8 bytes of a text. -/
def bytesOf (s : String) : List UInt8 := utf8 s.toList

namespace Utf8

/-- A byte in the given range, with its low six bits as a number, and what follows it. -/
def tail? (lo hi : UInt8) : List UInt8 → Option (Nat × List UInt8)
  | b :: rest => if lo ≤ b && b ≤ hi then some (b.toNat % 64, rest) else none
  | [] => none

theorem tail?_length {lo hi : UInt8} {s rest : List UInt8} {n : Nat}
    (h : tail? lo hi s = some (n, rest)) : rest.length < s.length := by
  cases s with
  | nil => simp [tail?] at h
  | cons b s =>
    unfold tail? at h
    split at h <;> simp_all

/-- Adds `count` more continuation bytes to the value read so far; the bytes after the last good one
remain when one is missing. -/
def more (value : Nat) : Nat → List UInt8 → Option Char × List UInt8
  | 0, rest => (some (Char.ofNat value), rest)
  | count + 1, rest =>
    match tail? 0x80 0xBF rest with
    | some (n, rest) => more (value * 64 + n) count rest
    | none => (none, rest)

theorem more_length (count value : Nat) (s : List UInt8) :
    (more value count s).2.length ≤ s.length := by
  induction count generalizing value s with
  | zero => simp [more]
  | succ count ih =>
    unfold more
    split
    · rename_i n rest h
      exact Nat.le_trans (ih _ _) (Nat.le_of_lt (tail?_length h))
    · simp

/-- A first continuation byte from a narrowed range, then `count` ordinary ones. -/
def narrowed (lo hi : UInt8) (value count : Nat) (s : List UInt8) : Option Char × List UInt8 :=
  match tail? lo hi s with
  | some (n, rest) => more (value * 64 + n) count rest
  | none => (none, s)

theorem narrowed_length (lo hi : UInt8) (value count : Nat) (s : List UInt8) :
    (narrowed lo hi value count s).2.length ≤ s.length := by
  unfold narrowed
  split
  · rename_i n rest h
    exact Nat.le_trans (more_length _ _ _) (Nat.le_of_lt (tail?_length h))
  · simp

/-- Reads one character that starts with byte `b`; `none` where no character is complete. -/
def afterLead (b : UInt8) (rest : List UInt8) : Option Char × List UInt8 :=
  if b < 0x80 then (some (Char.ofNat b.toNat), rest)
  else if b < 0xC2 then (none, rest)
  else if b < 0xE0 then more (b.toNat % 32) 1 rest
  else if b == 0xE0 then narrowed 0xA0 0xBF 0 1 rest
  else if b == 0xED then narrowed 0x80 0x9F 13 1 rest
  else if b < 0xF0 then more (b.toNat % 16) 2 rest
  else if b == 0xF0 then narrowed 0x90 0xBF 0 2 rest
  else if b < 0xF4 then more (b.toNat % 8) 3 rest
  else if b == 0xF4 then narrowed 0x80 0x8F 4 2 rest
  else (none, rest)

theorem afterLead_length (b : UInt8) (s : List UInt8) : (afterLead b s).2.length ≤ s.length := by
  unfold afterLead
  repeat' split
  all_goals first | exact Nat.le_refl _ | exact more_length _ _ _ | exact narrowed_length _ _ _ _ _

/-- The characters of the bytes, `none` for each malformed run. -/
def characters : List UInt8 → List (Option Char)
  | [] => []
  | b :: rest => (afterLead b rest).1 :: characters (afterLead b rest).2
termination_by s => s.length
decreasing_by
  have := afterLead_length b rest
  simp only [List.length_cons]
  omega

end Utf8

/-- Reads bytes as UTF-8, with U+FFFD for whatever is malformed. -/
def decodeLossy (s : List UInt8) : List Char :=
  (Utf8.characters s).map fun c => c.getD '\uFFFD'

/-- Reads bytes as UTF-8 if they are well formed throughout. -/
def decode? (s : List UInt8) : Option (List Char) := (Utf8.characters s).mapM id

end ErrorReport.Text
