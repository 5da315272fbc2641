import ErrorReport.Dictionary
import ErrorReport.Json.Binary64

/-!
# JSON values

Numbers are of two sorts: integers, and doubles for all that has a fraction, an exponent or too many
digits.  Objects keep their members in the order they were written, repeated names included.
-/

set_option autoImplicit false

namespace ErrorReport.Json

/-- A JSON value. -/
inductive Value where
  | null
  | bool (b : Bool)
  /-- A whole number. -/
  | integer (n : Int)
  /-- Any other number. -/
  | real (x : Binary64)
  | string (s : String)
  | array (items : List Value)
  /-- An object, its members in order. -/
  | object (members : List (String × Value))

namespace Value

instance : Inhabited Value := ⟨null⟩

/-- A text, or null for an absent one. -/
def ofText? : Option String → Value
  | some s => .string s
  | none => .null

/-- A natural number. -/
def nat (n : Nat) : Value := .integer n

/-- The members of a dictionary in the order of their names. -/
def ofDictionary (d : Dictionary Value) : Value := .object d.entries

/-- The first member of a name. -/
def member? (name : String) : Value → Option Value
  | object members => members.lookup name
  | _ => none

end Value

end ErrorReport.Json
