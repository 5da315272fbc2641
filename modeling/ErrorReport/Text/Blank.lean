/-!
# Blank characters

`isBlank` is the Unicode property White_Space, all 25 code points of it; `trim` removes blanks from
both ends of a text.  A zero-width space and a byte-order mark are no blanks.
-/

set_option autoImplicit false

namespace ErrorReport.Text

/-- Unicode's White_Space. -/
def isBlank (c : Char) : Bool :=
  let n := c.toNat
  (9 ≤ n && n ≤ 13) || n == 0x20 || n == 0x85 || n == 0xA0 || n == 0x1680
    || (0x2000 ≤ n && n ≤ 0x200A) || n == 0x2028 || n == 0x2029 || n == 0x202F
    || n == 0x205F || n == 0x3000

/-- Drops the elements of a class from both ends of a list. -/
def trimBy {α : Type} (p : α → Bool) (s : List α) : List α :=
  ((s.dropWhile p).reverse.dropWhile p).reverse

/-- The text without the blanks at its ends. -/
def trim (s : String) : String := String.ofList (trimBy isBlank s.toList)

end ErrorReport.Text
