import ErrorReport.Text.Range
import ErrorReport.Url.Idna.Composition
import ErrorReport.Url.Idna.Table.Direction
import ErrorReport.Url.Idna.Table.Joining

/-!
# Labels of a domain name

A label may not start with a mark, may hold a joiner only where the script around it calls for one,
and in a name with right-to-left letters must read unambiguously: `isDirected` is that rule.
-/

set_option autoImplicit false

namespace ErrorReport.Url.Idna

/-- The direction of a character. -/
inductive Direction where
  | left
  | right
  | arabic
  | arabicNumber
  | europeanNumber
  | terminator
  | europeanSeparator
  | commonSeparator
  | neutral
  | boundary
  | nonspacing
  deriving DecidableEq, Repr

/-- The direction of an ASCII character. -/
def asciiDirection (c : Char) : Direction :=
  if c.isDigit then .europeanNumber
  else if c.isAlpha then .left
  else if c == '+' || c == '-' then .europeanSeparator
  else if c == '#' || c == '$' || c == '%' then .terminator
  else if c == ',' || c == '.' || c == '/' || c == ':' then .commonSeparator
  else .neutral

/-- The direction of a character; one that no table lists is written from left to right. -/
def direction (c : Char) : Direction :=
  if c.toNat < 128 then asciiDirection c
  else if Text.inRanges rightRanges c then .right
  else if Text.inRanges arabicRanges c then .arabic
  else if Text.inRanges arabicNumberRanges c then .arabicNumber
  else if c.toNat == 0xB2 || c.toNat == 0xB3 || c.toNat == 0xB9
      || Text.inRanges europeanNumberRanges c then .europeanNumber
  else if Text.inRanges terminatorRanges c then .terminator
  else if Text.inRanges europeanSeparatorRanges c then .europeanSeparator
  else if Text.inRanges commonSeparatorRanges c then .commonSeparator
  else if Text.inRanges neutralRanges c then .neutral
  else if Text.inRanges boundaryRanges c then .boundary
  else if Text.inRanges nonspacingRanges c then .nonspacing
  else .left

/-- Whether a name with this character has right-to-left parts. -/
def isRightToLeft (c : Char) : Bool :=
  c.toNat ≥ 128 && (direction c == .right || direction c == .arabic || direction c == .arabicNumber)

/-- The directions of a label without the marks at its end, last one first. -/
def spacingDirections (label : List Char) : List Direction :=
  (label.map direction).reverse.dropWhile (· == .nonspacing)

/-- Whether a label that starts with a right-to-left letter reads unambiguously. -/
def isRightDirected (label : List Char) : Bool :=
  let all := label.map direction
  all.all (· != .left)
    && (match spacingDirections label with
        | last :: _ => last == .right || last == .arabic || last == .europeanNumber
            || last == .arabicNumber
        | [] => false)
    && !(all.contains .europeanNumber && all.contains .arabicNumber)

/-- Whether a label that starts with a left-to-right letter reads unambiguously. -/
def isLeftDirected (label : List Char) : Bool :=
  (label.map direction).all (fun d => d != .right && d != .arabic && d != .arabicNumber)
    && (match spacingDirections label with
        | last :: _ => last == .left || last == .europeanNumber
        | [] => false)

/-- Whether a label of a name with right-to-left parts reads unambiguously. -/
def isDirected (label : List Char) : Bool :=
  match label with
  | [] => true
  | first :: _ =>
    match direction first with
    | .right | .arabic => isRightDirected label
    | .left => isLeftDirected label
    | _ => false

/-- Whether a character is a sign that kills the vowel of the letter before it. -/
def isVowelKiller (c : Char) : Bool := combiningClass c == 9

/-- Whether the nearest character that joining does not look through is in one of the classes. -/
def joinsNearest (classes : List (List (Nat × Nat))) (s : List Char) : Bool :=
  match s.dropWhile (Text.inRanges transparentRanges) with
  | c :: _ => classes.any fun table => Text.inRanges table c
  | [] => false

/-- Whether every joiner of a label is where it may be; `before` is what precedes, nearest first. -/
def joinersFit (before : List Char) : List Char → Bool
  | [] => true
  | c :: rest =>
    let follows := match before with
      | last :: _ => isVowelKiller last
      | [] => false
    let fits :=
      if c == '\u200D' then follows
      else if c == '\u200C' then
        follows || (joinsNearest [leftJoiningRanges, dualJoiningRanges] before
          && joinsNearest [rightJoiningRanges, dualJoiningRanges] rest)
      else true
    fits && joinersFit (c :: before) rest

/-- Whether a label does not start with a mark. -/
def startsWell (label : List Char) : Bool :=
  match label with
  | first :: _ => !Text.inRanges markRanges first
  | [] => true

/-- Whether a label is in order by itself, whatever the other labels are. -/
def isSound (label : List Char) : Bool := startsWell label && joinersFit [] label

end ErrorReport.Url.Idna
