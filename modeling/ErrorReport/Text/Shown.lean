import ErrorReport.Text.Quoted

/-!
# Values shown in diagnostics

`Shown` is the shape of a value as a diagnostic displays it: records with named fields, constructors
with arguments, lists, sets and maps.  `Shown.render` writes the shape on one line.
-/

set_option autoImplicit false

namespace ErrorReport.Text

/-- A value as a diagnostic displays it. -/
inductive Shown where
  /-- A text that is written as it is: a number, a truth value, a name. -/
  | plain (content : String)
  /-- A text between quotes. -/
  | quote (content : String)
  /-- A record; `open_` records have fields that are not shown. -/
  | record (name : String) (fields : List (String × Shown)) (open_ : Bool)
  /-- A constructor with arguments. -/
  | applied (name : String) (arguments : List Shown)
  /-- A list in brackets. -/
  | list (items : List Shown)
  /-- A set in braces. -/
  | set (items : List Shown)
  /-- A map in braces, its keys and values both shown. -/
  | dict (entries : List (Shown × Shown))

namespace Shown

/-- A natural number. -/
def nat (n : Nat) : Shown := .plain (toString n)

/-- A truth value. -/
def bool (b : Bool) : Shown := .plain (if b then "true" else "false")

/-- An optional value. -/
def option {α : Type} (shown : α → Shown) : Option α → Shown
  | some a => .applied "Some" [shown a]
  | none => .plain "None"

mutual

/-- The value on one line. -/
def render : Shown → String
  | .plain content => content
  | .quote content => quoted content
  | .record name fields open_ =>
    match renderFields fields, open_ with
    | "", false => name
    | "", true => name ++ " \x7b .. \x7d"
    | shown, false => name ++ " \x7b " ++ shown ++ " \x7d"
    | shown, true => name ++ " \x7b " ++ shown ++ ", .. \x7d"
  | .applied name arguments => name ++ "(" ++ renderItems arguments ++ ")"
  | .list items => "[" ++ renderItems items ++ "]"
  | .set items => "\x7b" ++ renderItems items ++ "\x7d"
  | .dict entries => "\x7b" ++ renderEntries entries ++ "\x7d"

/-- The values with a comma between neighbours. -/
def renderItems : List Shown → String
  | [] => ""
  | [item] => render item
  | item :: next :: rest => render item ++ ", " ++ renderItems (next :: rest)

/-- The fields with their names. -/
def renderFields : List (String × Shown) → String
  | [] => ""
  | [(name, value)] => name ++ ": " ++ render value
  | (name, value) :: next :: rest =>
    name ++ ": " ++ render value ++ ", " ++ renderFields (next :: rest)

/-- The entries of a map. -/
def renderEntries : List (Shown × Shown) → String
  | [] => ""
  | [(key, value)] => render key ++ ": " ++ render value
  | (key, value) :: next :: rest =>
    render key ++ ": " ++ render value ++ ", " ++ renderEntries (next :: rest)

end

end Shown

end ErrorReport.Text
