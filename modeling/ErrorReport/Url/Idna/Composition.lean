import ErrorReport.Url.Idna.Table.Composition

/-!
# Composed form

Two spellings of a text that differ in how marks are attached to letters have one composed form:
every character is taken apart, marks are put in the order of their classes, and then each mark that
can be is joined to its letter.  Korean syllables are taken apart and joined by arithmetic.
-/

set_option autoImplicit false

namespace ErrorReport.Url.Idna

/-- The class of a mark; zero for what starts a new character. -/
def combiningClass (c : Char) : Nat :=
  match combiningClasses.find? fun r => r.1 ≤ c.toNat && c.toNat ≤ r.2.1 with
  | some (_, _, k) => k
  | none => 0

/-- The two parts of a Korean syllable. -/
def splitSyllable? (n : Nat) : Option (Nat × Nat) :=
  if 0xAC00 ≤ n ∧ n ≤ 0xD7A3 then
    let s := n - 0xAC00
    if s % 28 = 0 then some (0x1100 + s / 588, 0x1161 + s % 588 / 28)
    else some (n - s % 28, 0x11A7 + s % 28)
  else none

/-- The Korean syllable of two parts. -/
def joinSyllable? (a b : Nat) : Option Nat :=
  if 0x1100 ≤ a ∧ a ≤ 0x1112 ∧ 0x1161 ≤ b ∧ b ≤ 0x1175 then
    some (0xAC00 + ((a - 0x1100) * 21 + (b - 0x1161)) * 28)
  else if 0xAC00 ≤ a ∧ a ≤ 0xD7A3 ∧ (a - 0xAC00) % 28 = 0 ∧ 0x11A8 ≤ b ∧ b ≤ 0x11C2 then
    some (a + (b - 0x11A7))
  else none

/-- The two characters that one is composed of. -/
def split? (n : Nat) : Option (Nat × Nat) :=
  match splitSyllable? n with
  | some parts => some parts
  | none =>
    let parts (p : Nat × Nat × Nat) := if p.2.2 = n then some (p.1, p.2.1) else none
    (compositionPairs.findSome? parts).or (morePairs.findSome? parts)

/-- The character composed of two. -/
def join? (a b : Nat) : Option Nat :=
  match joinSyllable? a b with
  | some n => some n
  | none =>
    let whole (p : Nat × Nat × Nat) := if p.1 = a ∧ p.2.1 = b then some p.2.2 else none
    (compositionPairs.findSome? whole).or (morePairs.findSome? whole)

/-- Takes a character apart, at most so many times; no character needs more than three. -/
def takeApart : Nat → Nat → List Nat
  | 0, n => [n]
  | steps + 1, n =>
    match split? n with
    | some (a, b) => takeApart steps a ++ [b]
    | none => [n]

/-- The text with every character taken apart. -/
def decomposed (s : List Char) : List Char :=
  s.flatMap fun c => if c.toNat < 128 then [c] else (takeApart 4 c.toNat).map Char.ofNat

/-- Puts a mark behind the marks at the end of a reversed text that may not come after it. -/
def placeMark (c : Char) : List Char → List Char
  | [] => [c]
  | last :: rest =>
    if combiningClass c < combiningClass last ∧ combiningClass c ≠ 0 then last :: placeMark c rest
    else c :: last :: rest

/-- The text with the marks of each character in the order of their classes. -/
def ordered (s : List Char) : List Char := (s.foldl (fun done c => placeMark c done) []).reverse

/-- A character under composition: the starter, and the marks left over, last one first. -/
structure Cluster where
  starter : Char
  marks : List Char

/-- The characters of a cluster, last one first. -/
def Cluster.reversed (k : Cluster) : List Char := k.marks ++ [k.starter]

/-- Joins a character to a cluster, if the two compose and no mark between them is in the way. -/
def Cluster.join? (k : Cluster) (c : Char) : Option Cluster :=
  let isBlocked := match k.marks with
    | [] => false
    | last :: _ => combiningClass c ≤ combiningClass last
  if isBlocked then none
  else (Idna.join? k.starter.toNat c.toNat).map fun n => { k with starter := Char.ofNat n }

/-- Composes a text from left to right; `done` is what lies behind the cluster, last one first. -/
def composedFrom (done : List Char) (cluster : Option Cluster) : List Char → List Char
  | [] => (((cluster.map Cluster.reversed).getD []) ++ done).reverse
  | c :: rest =>
    match cluster with
    | none =>
      if combiningClass c = 0 then composedFrom done (some ⟨c, []⟩) rest
      else composedFrom (c :: done) none rest
    | some k =>
      match k.join? c with
      | some joined => composedFrom done (some joined) rest
      | none =>
        if combiningClass c = 0 then composedFrom (k.reversed ++ done) (some ⟨c, []⟩) rest
        else composedFrom done (some { k with marks := c :: k.marks }) rest

/-- The composed form of a text. -/
def composed (s : List Char) : List Char := composedFrom [] none (ordered (decomposed s))

end ErrorReport.Url.Idna
