import ErrorReport.Dictionary

/-!
# Sets of texts

A set of texts is a dictionary whose entries carry nothing but their keys, so its members are sorted
and pairwise distinct.
-/

set_option autoImplicit false

namespace ErrorReport

/-- A finite set of texts. -/
abbrev TextSet := Dictionary Unit

namespace TextSet

/-- The set with one more member. -/
def add (s : TextSet) (text : String) : TextSet := s.insert text ()

/-- The members of a list. -/
def ofList (texts : List String) : TextSet := texts.foldl add Dictionary.empty

/-- The members in ascending order. -/
def toList (s : TextSet) : List String := s.keys

end TextSet

end ErrorReport
