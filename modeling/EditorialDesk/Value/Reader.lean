import EditorialDesk.Text.Whole
import EditorialDesk.Value.Basic

/-!
# The interchange form of values: reading

Reads one value written as JSON. A number written with a point or an exponent is
a float, any other an integer of any size; what is no finite number is written as a
word. Where a name occurs twice in an object
the last value stands, in the place of the first. Each reader returns what it read
and what is left; `fuel` bounds the nesting and is the length of the text.
-/
namespace EditorialDesk.Value

def skipSpace (cs : List Char) : List Char :=
  cs.dropWhile fun c => c == ' ' || c == '\t' || c == '\n' || c == '\r'

def hexValue? (c : Char) : Option Nat :=
  if '0' ≤ c && c ≤ '9' then some (c.toNat - 48)
  else if 'a' ≤ c && c ≤ 'f' then some (c.toNat - 87)
  else if 'A' ≤ c && c ≤ 'F' then some (c.toNat - 55)
  else none

/-- The number written by four hexadecimal digits. -/
def hexUnit? : List Char → Option (Nat × List Char)
  | a :: b :: c :: d :: rest => do
    let digits ← [a, b, c, d].mapM hexValue?
    return (digits.foldl (fun n v => 16 * n + v) 0, rest)
  | _ => none

/-- The character behind an escape's `u`: one unit, or a pair of surrogates. -/
def unicodeEscape? (cs : List Char) : Option (Char × List Char) := do
  let (unit, rest) ← hexUnit? cs
  if 0xD800 ≤ unit && unit < 0xDC00 then
    match rest with
    | '\\' :: 'u' :: more =>
      let (low, rest) ← hexUnit? more
      if 0xDC00 ≤ low && low < 0xE000 then
        return (Char.ofNat (0x10000 + (unit - 0xD800) * 0x400 + (low - 0xDC00)), rest)
      else none
    | _ => none
  else return (Char.ofNat unit, rest)

/-- The character behind a backslash. -/
def escaped? : List Char → Option (Char × List Char)
  | '"' :: rest => some ('"', rest)
  | '\\' :: rest => some ('\\', rest)
  | '/' :: rest => some ('/', rest)
  | 'b' :: rest => some ('\x08', rest)
  | 'f' :: rest => some ('\x0c', rest)
  | 'n' :: rest => some ('\n', rest)
  | 'r' :: rest => some ('\r', rest)
  | 't' :: rest => some ('\t', rest)
  | 'u' :: rest => unicodeEscape? rest
  | _ => none

/-- The rest of a text, up to its closing quote. -/
def readText : (fuel : Nat) → (read : List Char) → List Char → Option (String × List Char)
  | 0, _, _ => none
  | _ + 1, _, [] => none
  | fuel + 1, read, c :: rest =>
    if c == '"' then some (String.ofList read.reverse, rest)
    else if c == '\\' then
      match escaped? rest with
      | some (d, rest) => readText fuel (d :: read) rest
      | none => none
    else if c.toNat < 0x20 then none
    else readText fuel (c :: read) rest

/-- The digits behind a point, if there is a point. -/
def readFraction? : List Char → Option (Option (List Char) × List Char)
  | '.' :: rest =>
    match Text.plainRun rest with
    | ([], _) => none
    | (digits, rest) => some (some digits, rest)
  | cs => some (none, cs)

/-- The number behind an exponent mark, if there is such a mark. -/
def readExponent? : List Char → Option (Option Int × List Char)
  | c :: rest =>
    if c == 'e' || c == 'E' then
      let (negative, body) := Text.splitSign rest
      match Text.plainRun body with
      | ([], _) => none
      | (digits, rest) => some (some (Text.signed negative (Text.plainValue digits)), rest)
    else some (none, c :: rest)
  | [] => some (none, [])

/-- A number; the digits in front of its point start with a zero only if that is all of them. -/
def readNumber? (cs : List Char) : Option (Value × List Char) :=
  let (negative, body) := match cs with
    | '-' :: rest => (true, rest)
    | _ => (false, cs)
  match Text.plainRun body with
  | ([], _) => none
  | ('0' :: _ :: _, _) => none
  | (digits, rest) => do
    let (fraction, rest) ← readFraction? rest
    let (exponent, rest) ← readExponent? rest
    match fraction, exponent with
    | none, none => return (.int (Text.signed negative (Text.plainValue digits)), rest)
    | _, _ =>
      let tail := fraction.getD []
      let power := exponent.getD 0 - tail.length
      return (.float (Binary64.ofDecimal negative (Text.plainValue (digits ++ tail)) power), rest)

/-- The values that are written as words. -/
def words : List (List Char × Value) :=
  [("null".toList, .null), ("true".toList, .bool true), ("false".toList, .bool false),
    ("NaN".toList, .float .nan), ("Infinity".toList, .float (.infinite false)),
    ("-Infinity".toList, .float (.infinite true))]

def readWord? (cs : List Char) : Option (Value × List Char) :=
  (words.find? (·.1.isPrefixOf cs)).map fun (word, v) => (v, cs.drop word.length)

mutual

/-- One value, with nothing in front of it. -/
def readValue : (fuel : Nat) → List Char → Option (Value × List Char)
  | 0, _ => none
  | fuel + 1, cs =>
    match cs with
    | '"' :: rest => (readText (fuel + 1) [] rest).map fun (s, rest) => (.text s, rest)
    | '[' :: rest =>
      match skipSpace rest with
      | ']' :: rest => some (.list [], rest)
      | rest => (readItems fuel rest).map fun (items, rest) => (.list items, rest)
    | '{' :: rest =>
      match skipSpace rest with
      | '}' :: rest => some (.object [], rest)
      | rest => (readFields fuel [] rest).map fun (fields, rest) => (.object fields, rest)
    | cs => readWord? cs <|> readNumber? cs

/-- Values with commas between them, up to the closing bracket. -/
def readItems : (fuel : Nat) → List Char → Option (List Value × List Char)
  | 0, _ => none
  | fuel + 1, cs =>
    match readValue fuel cs with
    | none => none
    | some (x, rest) =>
      match skipSpace rest with
      | ']' :: rest => some ([x], rest)
      | ',' :: rest => (readItems fuel (skipSpace rest)).map fun (xs, rest) => (x :: xs, rest)
      | _ => none

/-- Named values with commas between them, up to the closing brace. -/
def readFields : (fuel : Nat) → (read : Fields) → List Char → Option (Fields × List Char)
  | 0, _, _ => none
  | fuel + 1, read, '"' :: rest =>
    match readText (fuel + 1) [] rest with
    | none => none
    | some (name, rest) =>
      match skipSpace rest with
      | ':' :: rest =>
        match readValue fuel (skipSpace rest) with
        | none => none
        | some (x, rest) =>
          match skipSpace rest with
          | '}' :: rest => some (read.set name x, rest)
          | ',' :: rest => readFields fuel (read.set name x) (skipSpace rest)
          | _ => none
      | _ => none
  | _ + 1, _, _ => none

end

/-- The value that a whole text stands for. -/
def ofLine? (line : String) : Option Value :=
  let cs := skipSpace line.toList
  match readValue (cs.length + 1) cs with
  | some (x, rest) => if (skipSpace rest).isEmpty then some x else none
  | none => none

end EditorialDesk.Value
