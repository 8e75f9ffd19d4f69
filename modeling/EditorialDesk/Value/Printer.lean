import EditorialDesk.Text.Quoted
import EditorialDesk.Value.Basic

/-!
# Printing values

Values are exchanged as JSON on one line. Only the quote, the backslash and the
control characters are escaped; everything else is written as it is.
-/
namespace EditorialDesk.Value

/-!
## Labels of values

The text of a value. Columns are compared and ordered by it, and the text of an
error object is what an error is classified by. A text is its own label; inside a
list or an object it is quoted.
-/

mutual

/-- The printed form of a value, texts quoted. -/
def printed : Value → String
  | .null => "None"
  | .bool true => "True"
  | .bool false => "False"
  | .int n => toString n
  | .float x => x.text
  | .text s => Text.quoted s
  | .list items => "[" ++ printedItems items ++ "]"
  | .object fields => "\x7b" ++ printedFields fields ++ "\x7d"

/-- Items with a comma and a space between them. -/
def printedItems : List Value → String
  | [] => ""
  | [x] => printed x
  | x :: rest => printed x ++ ", " ++ printedItems rest

/-- Named values with a comma and a space between them. -/
def printedFields : List (String × Value) → String
  | [] => ""
  | [(name, x)] => Text.quoted name ++ ": " ++ printed x
  | (name, x) :: rest => Text.quoted name ++ ": " ++ printed x ++ ", " ++ printedFields rest

end

/-- The label of a value: a text itself, the printed form of anything else. -/
def label : Value → String
  | .text s => s
  | v => v.printed

/-- The label of a value, empty if it counts as absent. -/
def labelOrEmpty (v : Value) : String := if v.isPresent then v.label else ""

@[simp] theorem label_text (s : String) : label (.text s) = s := rfl

/-! ## The interchange form -/

/-- A character between the double quotes of a text. -/
def interchangeChar (c : Char) : List Char :=
  if c == '"' || c == '\\' then ['\\', c]
  else if c.toNat < 0x20 then '\\' :: 'u' :: Text.hex 4 c.toNat
  else [c]

def interchangeText (s : String) : String :=
  String.ofList ('"' :: s.toList.flatMap interchangeChar ++ ['"'])

/-- A double that is not finite is written as a word. -/
def interchangeFloat : Binary64 → String
  | .infinite false => "Infinity"
  | .infinite true => "-Infinity"
  | .nan => "NaN"
  | x => x.text

mutual

/-- The value as one line of JSON. -/
def toLine : Value → String
  | .null => "null"
  | .bool true => "true"
  | .bool false => "false"
  | .int n => toString n
  | .float x => interchangeFloat x
  | .text s => interchangeText s
  | .list items => "[" ++ lineItems items ++ "]"
  | .object fields => "\x7b" ++ lineFields fields ++ "\x7d"

def lineItems : List Value → String
  | [] => ""
  | [x] => toLine x
  | x :: rest => toLine x ++ "," ++ lineItems rest

def lineFields : List (String × Value) → String
  | [] => ""
  | [(name, x)] => interchangeText name ++ ":" ++ toLine x
  | (name, x) :: rest => interchangeText name ++ ":" ++ toLine x ++ "," ++ lineFields rest

end
end EditorialDesk.Value
