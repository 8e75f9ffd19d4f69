import EditorialDesk.Calendar.Moment
import EditorialDesk.Calendar.Reader
import EditorialDesk.Record.Issue
import EditorialDesk.Text.Whole
import EditorialDesk.Value.Basic

/-!
# Fields of a record

The checks from which the checks of whole records are put together: one for each
kind of field, and three for the presence of a field. Unknown fields are ignored.
-/
namespace EditorialDesk.Value

/-!
## Writing fields

How the parts of a record are written as values: what is not set is null, and a
moment is written in the form in which records show it.
-/

def ofMoment (m : Calendar.Moment) : Value := .text m.recordText

def ofMoment? : Option Calendar.Moment → Value
  | some m => ofMoment m
  | none => .null

def ofTexts (ss : List String) : Value := .list (ss.map .text)

end EditorialDesk.Value

/-! ## Fields of a record -/
namespace EditorialDesk.Record

/-- Reads a value of some kind, or says what is wrong with it. -/
abbrev Check (α : Type) := Value → Checked α

def text : Check String
  | .text s => .accepted s
  | _ => .complain .notText

/-- The truth value that a text stands for, in capitals or not. -/
def truthOf? (s : String) : Option Bool :=
  let word := s.toList.map Char.toLower
  if ["1", "true", "t", "yes", "y", "on"].any (·.toList == word) then some true
  else if ["0", "false", "f", "no", "n", "off"].any (·.toList == word) then some false
  else none

/-- A whole float is taken if it lies between the ends of the signed 64-bit words. -/
def wholeOfFloat (x : Binary64) : Checked Int :=
  match x with
  | .infinite _ | .nan => .complain .notFinite
  | x =>
    match x.whole? with
    | none => .complain .fractional
    | some n => if n.natAbs < Binary64.pow2 63 then .accepted n else .complain .oversizedWhole

/-- Whether a number is a signed 64-bit word. -/
def isWord (n : Int) : Bool := -(Binary64.pow2 63) ≤ n && n < Binary64.pow2 63

/-- One is true and zero is false. -/
def truthOfWord (n : Int) : Checked Bool :=
  if n == 1 then .accepted true else if n == 0 then .accepted false else .complain .unreadTruth

def truth : Check Bool
  | .bool b => .accepted b
  | .int n => if isWord n then truthOfWord n else .complain .notTruth
  | .float x =>
    match wholeOfFloat x with
    | .accepted n => truthOfWord n
    | .refused _ => .complain .notTruth
  | .text s =>
    match truthOf? s with
    | some b => .accepted b
    | none => .complain .unreadTruth
  | _ => .complain .notTruth

def whole : Check Int
  | .bool b => .accepted (if b then 1 else 0)
  | .int n => .accepted n
  | .float x => wholeOfFloat x
  | .text s =>
    match Text.strictWhole s.toList with
    | .value n => .accepted n
    | .malformed => .complain .unreadWhole
    | .oversized => .complain .oversizedWhole
  | _ => .complain .notWhole

/-- A member of a list numbered by words; whatever else goes wrong is one complaint. -/
def numbered {α : Type} (member? : Int → Option α) : Check α := fun v =>
  match whole v with
  | .accepted n =>
    if isWord n then
      match member? n with
      | some a => .accepted a
      | none => .complain .notMember
    else .complain .oversizedWhole
  | .refused _ => .complain .notMember

/-- A member of a list of words. -/
def worded {α : Type} (member? : String → Option α) : Check α
  | .text s =>
    match member? s with
    | some a => .accepted a
    | none => .complain .notMember
  | _ => .complain .notMember

/-- A count of seconds or milliseconds within the range of the doubles, or a text. -/
def moment : Check Calendar.Moment
  | .int n =>
    if Binary64.isBeyond n then .complain .notMoment else ofCount (.whole n)
  | .float x => ofCount (.double x)
  | .text s =>
    match Calendar.readMoment s with
    | .moment m => .accepted m
    | .yearZero => .complain .momentRange
    | .malformed => .complain .unreadMoment
  | _ => .complain .notMoment
where
  ofCount (count : Calendar.UnixCount) : Checked Calendar.Moment :=
    match count.moment? with
    | some m => .accepted m
    | none => .complain .momentRange

def list {α : Type} (item : Check α) : Check (List α)
  | .list vs => Checked.items item 0 vs
  | _ => .complain .notList

/-- A list whose order and repeats do not matter. -/
def set {α : Type} (item : Check α) : Check (List α)
  | .list vs => Checked.items item 0 vs
  | _ => .complain .notSet

def object : Check Fields
  | .object fields => .accepted fields
  | _ => .complain .notObject

def orNull {α : Type} (check : Check α) : Check (Option α)
  | .null => .accepted none
  | v => (check v).map some

/-- A record, given as an object. -/
def record {α : Type} (check : Fields → Checked α) : Check α
  | .object fields => check fields
  | _ => .complain .notRecord

/-- A field that has to be there. -/
def required {α : Type} (name : String) (check : Check α) (fields : Fields) : Checked α :=
  (match fields.get? name with
    | some v => check v
    | none => .complain .missing).under (.field name)

/-- A field with a default for its absence. -/
def withDefault {α : Type} (name : String) (default : α) (check : Check α) (fields : Fields) :
    Checked α :=
  match fields.get? name with
  | some v => (check v).under (.field name)
  | none => .accepted default

/-- A field that may be missing or null. -/
def optional {α : Type} (name : String) (check : Check α) (fields : Fields) :
    Checked (Option α) :=
  withDefault name none (orNull check) fields

end EditorialDesk.Record
