import ErrorReport.Json.Output
import ErrorReport.Proofs.Writer
import Mathlib.Data.List.Basic

/-!
# A value written in pieces

Writing a value, piece by piece, is writing the bytes of its text (`Value.delivers_write`), so a
writer that fails, wherever it fails, has taken the beginning of that text.

The induction follows the printer, one piece after the other; only a string needs an argument of its
own, for its runs are put together from characters.
-/

set_option autoImplicit false

namespace ErrorReport.Json

variable {w : Writer}

namespace Output

theorem delivers_put (w : Writer) (s : List Char) : w.Delivers .io (put w s) (Text.utf8 s) :=
  (w.delivers_put (Text.utf8 s)).adapt OutputError.io

theorem utf8_append (s t : List Char) : Text.utf8 (s ++ t) = Text.utf8 s ++ Text.utf8 t :=
  List.flatMap_append

/-- Writing the characters of one text and then those of another. -/
theorem delivers_append {p q : Writing OutputError Unit} {s t : List Char}
    (hp : w.Delivers .io p (Text.utf8 s)) (hq : w.Delivers .io q (Text.utf8 t)) :
    w.Delivers .io (do p; q) (Text.utf8 (s ++ t)) := by
  rw [utf8_append]
  exact hp.seq hq

/-- The run before a character is written as it is, and every escape after it. -/
theorem delivers_putEscaped (w : Writer) (run s : List Char) :
    w.Delivers .io (putEscaped w run s) (Text.utf8 (run ++ s.flatMap escapedChar)) := by
  induction s generalizing run with
  | nil =>
    rw [List.flatMap_nil, List.append_nil]
    exact delivers_put w run
  | cons c s ih =>
    rw [putEscaped, List.flatMap_cons]
    split
    · rename_i hplain
      rw [hplain, ← List.append_assoc]
      exact ih (run ++ [c])
    · exact delivers_append (delivers_put w run) (delivers_append (delivers_put w _) (ih []))

theorem delivers_putString (w : Writer) (s : String) :
    w.Delivers .io (putString w s) (Text.utf8 (quotedString s)) := by
  have h := delivers_append (delivers_put w ['"'])
    (delivers_append (delivers_putEscaped w [] s.toList) (delivers_put w ['"']))
  exact h

end Output

namespace Value

open Output

mutual

/-- **Writing a value in pieces is writing its text.** -/
theorem delivers_write (w : Writer) : ∀ v : Value, w.Delivers .io (v.write w) (Text.utf8 v.text)
  | .null => delivers_put w _
  | .bool true => delivers_put w _
  | .bool false => delivers_put w _
  | .integer _ => delivers_put w _
  | .real _ => delivers_put w _
  | .string s => delivers_putString w s
  | .array items => by
    have h := delivers_append (delivers_put w ['['])
      (delivers_append (delivers_writeItems w items) (delivers_put w [']']))
    rwa [← List.append_assoc] at h
  | .object members => by
    have h := delivers_append (delivers_put w ['\x7b'])
      (delivers_append (delivers_writeMembers w members) (delivers_put w ['\x7d']))
    rwa [← List.append_assoc] at h

/-- The items with their commas. -/
theorem delivers_writeItems (w : Writer) :
    ∀ items : List Value, w.Delivers .io (writeItems w items) (Text.utf8 (itemsText items))
  | [] => Writer.delivers_pure OutputError.io
  | [item] => delivers_write w item
  | item :: next :: rest =>
    delivers_append (delivers_write w item)
      (delivers_append (delivers_put w [',']) (delivers_writeItems w (next :: rest)))

/-- The members with their commas. -/
theorem delivers_writeMembers (w : Writer) : ∀ members : List (String × Value),
    w.Delivers .io (writeMembers w members) (Text.utf8 (membersText members))
  | [] => Writer.delivers_pure OutputError.io
  | [(name, value)] =>
    delivers_append (delivers_putString w name)
      (delivers_append (delivers_put w [':']) (delivers_write w value))
  | (name, value) :: next :: rest => by
    have h := delivers_append (delivers_putString w name) (delivers_append (delivers_put w [':'])
      (delivers_append (delivers_write w value)
        (delivers_append (delivers_put w [',']) (delivers_writeMembers w (next :: rest)))))
    rwa [← List.append_assoc [':'], ← List.append_assoc (quotedString name)] at h

end

end Value

end ErrorReport.Json
