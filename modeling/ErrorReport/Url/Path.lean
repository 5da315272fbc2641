import ErrorReport.Text.Split

/-!
# Paths

A path is a list of segments.  A segment `.` stays where it is and `..` goes one segment back, except
over the name of a drive, whatever the scheme; either of them at the end leaves an empty segment.  The
dots may be written as escapes.
-/

set_option autoImplicit false

namespace ErrorReport.Url.Path

/-- A written dot and what follows it. -/
def dot? : List Char → Option (List Char)
  | '.' :: rest => some rest
  | '%' :: '2' :: 'e' :: rest | '%' :: '2' :: 'E' :: rest => some rest
  | _ => none

/-- Whether a segment is one dot. -/
def isHere (segment : List Char) : Bool := dot? segment == some []

/-- Whether a segment is two dots. -/
def isBack (segment : List Char) : Bool := (dot? segment).bind dot? == some []

/-- Whether a segment names a drive: a letter and a colon or bar. -/
def isDrive : List Char → Bool
  | [letter, mark] => letter.isAlpha && (mark == ':' || mark == '|')
  | _ => false

/-- One segment back from the end of a reversed path. -/
def back : List (List Char) → List (List Char)
  | [] => []
  | last :: rest => if isDrive last then last :: rest else rest

/-- Follows the segments from the end of a reversed path. -/
def followFrom (done : List (List Char)) : List (List Char) → List (List Char)
  | [] => done.reverse
  | segment :: rest =>
    let next :=
      if isBack segment then back done
      else if isHere segment then done
      else segment :: done
    if rest.isEmpty && (isBack segment || isHere segment) then ([] :: next).reverse
    else followFrom next rest

/-- The path that written segments lead along. -/
def follow (segments : List (List Char)) : List (List Char) := followFrom [] segments

end ErrorReport.Url.Path
