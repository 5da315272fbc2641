import ErrorReport.Json.Value

/-!
# Values with sorted members

`Value.sorted` puts the members of every object in ascending order of their names; of members with the
same name the last one stays.
-/

set_option autoImplicit false

namespace ErrorReport.Json.Value

mutual

/-- The value with the members of all objects sorted. -/
def sorted : Value → Value
  | .array items => .array (sortedItems items)
  | .object members => .ofDictionary (Dictionary.ofList (sortedMembers members))
  | other => other

/-- The items, each with sorted members. -/
def sortedItems : List Value → List Value
  | [] => []
  | item :: rest => sorted item :: sortedItems rest

/-- The members, their values with sorted members. -/
def sortedMembers : List (String × Value) → List (String × Value)
  | [] => []
  | (name, value) :: rest => (name, sorted value) :: sortedMembers rest

end

end ErrorReport.Json.Value
