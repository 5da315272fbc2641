import ErrorReport.Text.Hex

/-!
# Event identifiers

An identifier is thirty-two hexadecimal digits.  `Uuid.read?` accepts them in a row, in groups of 8, 4,
4, 4 and 12 between hyphens, and the groups also in braces or after `urn:uuid:`; letters in any case,
those of `urn:uuid:` too.
-/

set_option autoImplicit false

namespace ErrorReport

/-- An identifier. -/
structure Uuid where
  /-- The digits, the first one first. -/
  digits : List (Fin 16)
  /-- There are thirty-two of them. -/
  length_eq : digits.length = 32
  deriving DecidableEq

namespace Uuid

/-- Whether all digits are zero. -/
def isNil (id : Uuid) : Bool := id.digits.all (· == 0)

/-- The digit that a character denotes. -/
def digit? (c : Char) : Option (Fin 16) :=
  match h : Text.Hex.value? c with
  | some n => some ⟨n, Text.Hex.value?_lt h⟩
  | none => none

/-- Reads thirty-two digits in a row. -/
def ofDigits? (text : List Char) : Option Uuid :=
  match text.mapM digit? with
  | some digits => if h : digits.length = 32 then some ⟨digits, h⟩ else none
  | none => none

/-- Where a text has its hyphens, the digits alone. -/
def withoutHyphens? (text : List Char) : Option (List Char) :=
  let groups := [text.take 8, (text.drop 9).take 4, (text.drop 14).take 4, (text.drop 19).take 4, text.drop 24]
  let hyphens := [text[8]?, text[13]?, text[18]?, text[23]?]
  if text.length = 36 ∧ hyphens.all (· == some '-') then some groups.flatten else none

/-- The name of the identifiers' namespace, as it is written before one. -/
def namespaceText : List Char := "urn:uuid:".toList

/-- The hyphenated form within braces, after the namespace, or alone. -/
def hyphenatedPart? (text : List Char) : Option (List Char) :=
  match text with
  | '\x7b' :: rest => if rest.getLast? = some '\x7d' then some rest.dropLast else none
  | _ =>
    if (text.take namespaceText.length).map Char.toLower = namespaceText then
      some (text.drop namespaceText.length)
    else some text

/-- Reads an identifier. -/
def read? (text : List Char) : Option Uuid :=
  if text.length = 32 then ofDigits? text
  else ((hyphenatedPart? text).bind withoutHyphens?).bind ofDigits?

/-- The digits in lower case. -/
def simple (id : Uuid) : String := String.ofList (id.digits.map fun d => Text.Hex.digit d.val)

/-- The digits in lower case with hyphens between the groups. -/
def hyphenated (id : Uuid) : String :=
  let text := id.digits.map fun d => Text.Hex.digit d.val
  String.ofList (text.take 8 ++ '-' :: (text.drop 8).take 4 ++ '-' :: (text.drop 12).take 4
    ++ '-' :: (text.drop 16).take 4 ++ '-' :: text.drop 20)

end Uuid

end ErrorReport
