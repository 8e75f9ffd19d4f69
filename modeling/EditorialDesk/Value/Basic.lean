import EditorialDesk.Number.Binary64

/-!
# Values

What a column of a table, an error reported by the database or a submitted record
can hold. Fields of an object keep their order, and no two have one name.
-/
namespace EditorialDesk

inductive Value where
  | null
  | bool (b : Bool)
  | int (n : Int)
  | float (x : Binary64)
  | text (s : String)
  | list (items : List Value)
  | object (fields : List (String × Value))
deriving Repr, Inhabited

/-- Named values in order: a table's row, an object's fields. -/
abbrev Fields := List (String × Value)

namespace Value

mutual

/-- Equality of values is decided part by part. -/
def decEq : (a b : Value) → Decidable (a = b)
  | .null, .null => isTrue rfl
  | .bool a, .bool b => decidable_of_iff (a = b) (by simp)
  | .int a, .int b => decidable_of_iff (a = b) (by simp)
  | .float a, .float b => decidable_of_iff (a = b) (by simp)
  | .text a, .text b => decidable_of_iff (a = b) (by simp)
  | .list a, .list b => have := decEqItems a b; decidable_of_iff (a = b) (by simp)
  | .object a, .object b => have := decEqFields a b; decidable_of_iff (a = b) (by simp)
  | .null, .bool _ | .null, .int _ | .null, .float _ | .null, .text _ | .null, .list _
  | .null, .object _ | .bool _, .null | .bool _, .int _ | .bool _, .float _ | .bool _, .text _
  | .bool _, .list _ | .bool _, .object _ | .int _, .null | .int _, .bool _ | .int _, .float _
  | .int _, .text _ | .int _, .list _ | .int _, .object _ | .float _, .null | .float _, .bool _
  | .float _, .int _ | .float _, .text _ | .float _, .list _ | .float _, .object _
  | .text _, .null | .text _, .bool _ | .text _, .int _ | .text _, .float _ | .text _, .list _
  | .text _, .object _ | .list _, .null | .list _, .bool _ | .list _, .int _ | .list _, .float _
  | .list _, .text _ | .list _, .object _ | .object _, .null | .object _, .bool _
  | .object _, .int _ | .object _, .float _ | .object _, .text _ | .object _, .list _ =>
    isFalse nofun

def decEqItems : (a b : List Value) → Decidable (a = b)
  | [], [] => isTrue rfl
  | [], _ :: _ | _ :: _, [] => isFalse nofun
  | x :: xs, y :: ys =>
    have := decEq x y
    have := decEqItems xs ys
    decidable_of_iff (x = y ∧ xs = ys) (by simp)

def decEqFields : (a b : List (String × Value)) → Decidable (a = b)
  | [], [] => isTrue rfl
  | [], _ :: _ | _ :: _, [] => isFalse nofun
  | (n, x) :: xs, (m, y) :: ys =>
    have := decEq x y
    have := decEqFields xs ys
    decidable_of_iff ((n = m ∧ x = y) ∧ xs = ys) (by simp)

end

instance : DecidableEq Value := decEq

/-- Null, false, zero and what is empty count as absent where a value is optional. -/
def isPresent : Value → Bool
  | .null => false
  | .bool b => b
  | .int n => n != 0
  | .float x => !x.isZero
  | .text s => s != ""
  | .list items => !items.isEmpty
  | .object fields => !fields.isEmpty

/-- Whether a value can name something. Lists and objects cannot. -/
def isName : Value → Bool
  | .list _ | .object _ => false
  | _ => true

/-- What can be gone through item by item: a list, a text by its characters, an object by the names
of its fields. -/
def entries? : Value → Option (List Value)
  | .list items => some items
  | .text s => some (s.toList.map fun c => .text (String.singleton c))
  | .object fields => some (fields.map fun f => .text f.1)
  | _ => none

/-- The fields of an object. -/
def fields? : Value → Option (List (String × Value))
  | .object fields => some fields
  | _ => none

/-- The rows of a list of objects. -/
def rows? : Value → Option (List (List (String × Value)))
  | .list items => items.mapM fields?
  | _ => none

/-- A text, or null for none. -/
def ofText? : Option String → Value
  | some s => .text s
  | none => .null

end Value

namespace Fields

/-- The value of a field, if it is there. -/
def get? (fields : Fields) (name : String) : Option Value :=
  (fields.find? (·.1 == name)).map (·.2)

/-- The value of a field, null where it is missing. -/
def get (fields : Fields) (name : String) : Value := (fields.get? name).getD .null

/-- Replaces a field's value in place, or adds the field at the end. -/
def set : Fields → String → Value → Fields
  | [], name, v => [(name, v)]
  | (n, w) :: rest, name, v => if n == name then (n, v) :: rest else (n, w) :: set rest name v

@[simp] theorem get?_set_self (fields : Fields) (name : String) (v : Value) :
    (fields.set name v).get? name = some v := by
  induction fields with
  | nil => simp [set, get?]
  | cons p rest ih =>
    obtain ⟨n, w⟩ := p
    by_cases h : n = name
    · simp [set, get?, h]
    · simpa [set, get?, h] using ih

theorem get?_set_of_ne (fields : Fields) {name other : String} (h : other ≠ name) (v : Value) :
    (fields.set name v).get? other = fields.get? other := by
  induction fields with
  | nil => simp [set, get?, h.symm]
  | cons p rest ih =>
    obtain ⟨n, w⟩ := p
    by_cases hn : n = name
    · simp [set, get?, hn, h.symm]
    · by_cases ho : n = other
      · subst ho
        simp [set, get?, hn]
      · simpa [set, get?, hn, ho] using ih

/-- Takes a field out. -/
def erase (fields : Fields) (name : String) : Fields := fields.filter (·.1 != name)

/-- Sets the fields of `patch`, one after the other. -/
def merge (fields patch : Fields) : Fields := patch.foldl (fun fs p => fs.set p.1 p.2) fields

/-- Adds a field unless one of its name is there. -/
def setDefault (fields : Fields) (name : String) (v : Value) : Fields :=
  match fields.get? name with
  | some _ => fields
  | none => fields ++ [(name, v)]

end Fields
end EditorialDesk

/-!
## Comparing values

Two comparisons of values. Both take objects by name and not by order. Values are
alike if their numbers have one magnitude, whatever the kind, the truth values
counting as one and zero; they are the same if kinds and signs of zero agree too.
-/
namespace EditorialDesk.Value

/-- The exact number that a truth value, an integer or a finite float stands for. -/
def fraction? : Value → Option (Int × Nat)
  | .bool b => some (if b then 1 else 0, 1)
  | .int n => some (n, 1)
  | .float x => x.fraction?.map fun (n, d) => (if x.isNegative then -(n : Int) else n, d)
  | _ => none

/-- Equality that looks at the magnitude of numbers only. -/
def equalInSize (a b : Value) : Bool :=
  match a.fraction?, b.fraction? with
  | some (n, d), some (m, e) => n * e == m * d
  | _, _ => a == b

mutual

/-- Compares two values part by part; `leaf` compares what has no parts, or parts of two kinds. -/
def agreeBy (leaf : Value → Value → Bool) : (a b : Value) → Bool
  | .list xs, .list ys => agreeItemsBy leaf xs ys
  | .object fs, .object gs => fs.length == gs.length && agreeFieldsBy leaf fs gs
  | a, b => leaf a b

def agreeItemsBy (leaf : Value → Value → Bool) : (xs ys : List Value) → Bool
  | [], [] => true
  | x :: xs, y :: ys => agreeBy leaf x y && agreeItemsBy leaf xs ys
  | _, _ => false

/-- Every field of the first agrees with the field of its name in the second. -/
def agreeFieldsBy (leaf : Value → Value → Bool) : (fs gs : List (String × Value)) → Bool
  | [], _ => true
  | (name, x) :: fs, gs =>
    (match Fields.get? gs name with
      | some y => agreeBy leaf x y
      | none => false) && agreeFieldsBy leaf fs gs

end

/-- Likeness of two values. -/
def alike (a b : Value) : Bool := agreeBy equalInSize a b

/-- Likeness of two rows. -/
def alikeRows (row other : Fields) : Bool := alike (.object row) (.object other)

/-- Sameness of two values. -/
def same (a b : Value) : Bool := agreeBy (· == ·) a b

@[simp] theorem alike_text (s t : String) : alike (.text s) (.text t) = (s == t) := by
  rw [Bool.eq_iff_iff]
  simp [alike, agreeBy, equalInSize, fraction?]

end EditorialDesk.Value
