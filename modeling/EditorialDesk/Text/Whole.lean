import EditorialDesk.Text.Casing

/-!
# Whole numbers in text

The grammar by which the text of a column is read as a whole number: the digits of
every script, with a sign and with single underscores between them.
-/
namespace EditorialDesk.Text

/-!
## Decimal digits

A decimal digit is a character of the Unicode category Nd. Such digits come in
runs of ten consecutive code points, zero first, so the table lists the zeros. Of
them the plain digits are those from `0` to `9`.
-/

/-- Code points of the digits zero. -/
def digitZeros : List Nat :=
  [0x30, 0x660, 0x6F0, 0x7C0, 0x966, 0x9E6, 0xA66, 0xAE6, 0xB66, 0xBE6, 0xC66, 0xCE6, 0xD66,
    0xDE6, 0xE50, 0xED0, 0xF20, 0x1040, 0x1090, 0x17E0, 0x1810, 0x1946, 0x19D0, 0x1A80, 0x1A90,
    0x1B50, 0x1BB0, 0x1C40, 0x1C50, 0xA620, 0xA8D0, 0xA900, 0xA9D0, 0xA9F0, 0xAA50, 0xABF0,
    0xFF10, 0x104A0, 0x10D30, 0x11066, 0x110F0, 0x11136, 0x111D0, 0x112F0, 0x11450, 0x114D0,
    0x11650, 0x116C0, 0x11730, 0x118E0, 0x11950, 0x11C50, 0x11D50, 0x11DA0, 0x16A60, 0x16AC0,
    0x16B50, 0x1D7CE, 0x1D7D8, 0x1D7E2, 0x1D7EC, 0x1D7F6, 0x1E140, 0x1E2F0, 0x1E950, 0x1FBF0]

/-- The value of a decimal digit of any script. -/
def digitValue? (c : Char) : Option Nat :=
  (digitZeros.find? fun z => z ≤ c.toNat && c.toNat < z + 10).map (c.toNat - ·)

/-- The value of a plain digit. -/
def plainDigit? (c : Char) : Option Nat :=
  if '0' ≤ c && c ≤ '9' then some (c.toNat - 48) else none

/-- The plain digits at the start of a text, and what stands behind them. -/
def plainRun (cs : List Char) : List Char × List Char :=
  (cs.takeWhile fun c => (plainDigit? c).isSome, cs.dropWhile fun c => (plainDigit? c).isSome)

/-- The number that a list of decimal digits stands for, most significant first. -/
def ofDigits (digits : List Nat) : Nat := digits.foldl (fun n d => 10 * n + d) 0

/-- The number that plain digits write. -/
def plainValue (digits : List Char) : Nat := ofDigits (digits.filterMap plainDigit?)

/-! ## Whole numbers in text -/

/-- Digits joined by single underscores, as their values. -/
def digitRun? : List Char → Option (List Nat)
  | [] => none
  | [c] => (digitValue? c).map ([·])
  | c :: '_' :: d :: rest => do
    let v ← digitValue? c
    let vs ← digitRun? (d :: rest)
    return v :: vs
  | c :: d :: rest => do
    let v ← digitValue? c
    let vs ← digitRun? (d :: rest)
    return v :: vs

/-- Splits a sign off; true means negative. -/
def splitSign : List Char → Bool × List Char
  | '-' :: rest => (true, rest)
  | '+' :: rest => (false, rest)
  | cs => (false, cs)

def signed (negative : Bool) (n : Nat) : Int := if negative then -n else n

/-- No whole number is read from more digits than this. -/
def maxDigits : Nat := 4300

/-- The whole number written by `cs`, white space around it allowed, information separators not. -/
def whole? (cs : List Char) : Option Int := do
  let (negative, body) := splitSign (stripBy isSpacing cs)
  let digits ← digitRun? body
  if digits.length ≤ maxDigits then return signed negative (ofDigits digits) else none

/-!
## Whole numbers in fields

The grammar by which the text of a field is read as a whole number. A plain number is
taken as it stands. Any other text is cleaned first: white space around it, a sign,
zeros in front, a fraction of zeros and single underscores are taken off.
-/

/-- What reading the text of a field can end with. -/
inductive StrictWhole where
  | value (n : Int)
  | malformed
  | oversized
deriving DecidableEq, Repr

/-- Reads a plain number: perhaps a minus sign, and digits with a zero in front only if it is alone.
With more than `maxDigits` digits the number is oversized whatever stands behind it. -/
def plainWhole (cs : List Char) : StrictWhole :=
  let (negative, body) := match cs with
    | '-' :: rest => (true, rest)
    | _ => (false, cs)
  let (digits, rest) := plainRun body
  match digits with
  | [] => .malformed
  | '0' :: more => if more.isEmpty && rest.isEmpty then .value 0 else .malformed
  | _ =>
    if maxDigits < digits.length then .oversized
    else if rest.isEmpty then .value (signed negative (plainValue digits))
    else .malformed

/-- Splits a sign off that has no sign of the other kind behind it; true means negative. -/
def splitSoleSign? : List Char → Option (Bool × List Char)
  | '-' :: '+' :: _ | '+' :: '-' :: _ => none
  | cs => some (splitSign cs)

/-- Takes zeros and underscores off behind the character `last`. What stays starts with another
digit or a minus sign, with the character in front of a point, or is the last character. -/
def behindZero? (last : Char) : List Char → Option (List Char)
  | [] => some [last]
  | c :: rest =>
    if c == '0' || c == '_' then behindZero? c rest
    else if c == '.' then some (last :: c :: rest)
    else if ('1' ≤ c && c ≤ '9') || c == '-' then some (c :: rest)
    else none

/-- Takes the zeros in front of a number off, but for one if the number is zero. -/
def dropLeadingZeros? : List Char → Option (List Char)
  | [] => none
  | c :: rest =>
    if c == '0' then behindZero? c rest
    else if ('1' ≤ c && c ≤ '9') || c == '-' then some (c :: rest)
    else none

/-- Drops a decimal point with zeros, at least one, and nothing else behind it. -/
def dropZeroFraction (cs : List Char) : List Char :=
  let zeros := (cs.dropWhile (· != '.')).drop 1
  if !zeros.isEmpty && zeros.all (· == '0') then cs.takeWhile (· != '.') else cs

/-- Whether each underscore stands between two other characters. -/
def hasSingleUnderscores : List Char → Bool
  | [] | ['_'] => false
  | '_' :: '_' :: _ => false
  | [_] => true
  | _ :: d :: rest => hasSingleUnderscores (d :: rest)

/-- Drops the underscores if each is a single one within the text. -/
def dropUnderscores (cs : List Char) : List Char :=
  if cs.head? != some '_' && hasSingleUnderscores cs then cs.filter (· != '_') else cs

/-- The plain number that a text is cleaned to. -/
def cleaned? (cs : List Char) : Option (List Char) := do
  let (negative, body) ← splitSoleSign? (stripBy isSpacing cs)
  let digits ← dropLeadingZeros? body
  let number := dropUnderscores (dropZeroFraction digits)
  return if negative then '-' :: number else number

/-- The whole number that the text of a field writes. A number is oversized only as it stands; one
that is so after cleaning is malformed. -/
def strictWhole (cs : List Char) : StrictWhole :=
  match plainWhole cs with
  | .malformed =>
    match (cleaned? cs).map plainWhole with
    | some (.value n) => .value n
    | _ => .malformed
  | r => r

end EditorialDesk.Text
