/-!
# ASCII case

Names are compared and folded in ASCII only: a letter outside A to Z has no other case here.
-/

set_option autoImplicit false

namespace ErrorReport.Text

/-- The text with its ASCII capitals in lower case. -/
def lower (s : String) : String := String.ofList (s.toList.map Char.toLower)

/-- Whether two texts differ in ASCII case only. -/
def sameIgnoringCase (a b : String) : Bool := lower a == lower b

end ErrorReport.Text
