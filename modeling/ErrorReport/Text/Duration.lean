/-!
# Lengths of time

A length of time in whole milliseconds is shown in the largest unit that gives a number of one or more,
with as many decimals as it needs.
-/

set_option autoImplicit false

namespace ErrorReport.Text

/-- Three decimals without zeros at the end. -/
def decimals (thousandths : Nat) : List Char :=
  let digits := [thousandths / 100, thousandths / 10 % 10, thousandths % 10].map Nat.digitChar
  (digits.reverse.dropWhile (· == '0')).reverse

/-- A length of time as a diagnostic shows it. -/
def durationText (milliseconds : Nat) : String :=
  if milliseconds = 0 then "0ns"
  else if milliseconds < 1000 then toString milliseconds ++ "ms"
  else if milliseconds % 1000 = 0 then toString (milliseconds / 1000) ++ "s"
  else toString (milliseconds / 1000) ++ "." ++ String.ofList (decimals (milliseconds % 1000)) ++ "s"

end ErrorReport.Text
