import EditorialDesk.Value.Basic

/-!
# Nesting

How deep the parts of a value lie, and the value with null in place of each number that
is not finite. Records that hold any values are shown in this form, and only down to a
certain depth.
-/
namespace EditorialDesk.Value

mutual

/-- How many lists and objects stand around the part that lies deepest. -/
def depth : Value → Nat
  | .list items => depthOfItems items
  | .object fields => depthOfFields fields
  | _ => 0

def depthOfItems : List Value → Nat
  | [] => 0
  | x :: rest => max (x.depth + 1) (depthOfItems rest)

def depthOfFields : List (String × Value) → Nat
  | [] => 0
  | (_, x) :: rest => max (x.depth + 1) (depthOfFields rest)

end

/-- A double as a value, null if it is not finite. -/
def ofFinite : Binary64 → Value
  | .infinite _ | .nan => .null
  | x => .float x

mutual

/-- The value with null in place of each number that is not finite. -/
def finite : Value → Value
  | .float x => ofFinite x
  | .list items => .list (finiteItems items)
  | .object fields => .object (finiteFields fields)
  | v => v

def finiteItems : List Value → List Value
  | [] => []
  | x :: rest => x.finite :: finiteItems rest

def finiteFields : List (String × Value) → List (String × Value)
  | [] => []
  | (name, x) :: rest => (name, x.finite) :: finiteFields rest

end

@[simp] theorem finite_ofFinite (x : Binary64) : (ofFinite x).finite = ofFinite x := by
  cases x <;> simp [ofFinite, finite]

@[simp] theorem depth_ofFinite (x : Binary64) : (ofFinite x).depth = 0 := by
  cases x <;> simp [ofFinite, depth]

mutual

@[simp] theorem finite_finite : (v : Value) → v.finite.finite = v.finite
  | .null | .bool _ | .int _ | .text _ => by simp [finite]
  | .float _ => by simp [finite]
  | .list items => by simp [finite, finiteItems_finiteItems items]
  | .object fields => by simp [finite, finiteFields_finiteFields fields]

theorem finiteItems_finiteItems :
    (items : List Value) → finiteItems (finiteItems items) = finiteItems items
  | [] => rfl
  | x :: rest => by simp [finiteItems, finite_finite x, finiteItems_finiteItems rest]

theorem finiteFields_finiteFields :
    (fields : List (String × Value)) → finiteFields (finiteFields fields) = finiteFields fields
  | [] => rfl
  | (_, x) :: rest => by simp [finiteFields, finite_finite x, finiteFields_finiteFields rest]

end

mutual

@[simp] theorem depth_finite : (v : Value) → v.finite.depth = v.depth
  | .null | .bool _ | .int _ | .text _ => by simp [finite]
  | .float _ => by simp [finite, depth]
  | .list items => by simp [finite, depth, depthOfItems_finiteItems items]
  | .object fields => by simp [finite, depth, depthOfFields_finiteFields fields]

theorem depthOfItems_finiteItems :
    (items : List Value) → depthOfItems (finiteItems items) = depthOfItems items
  | [] => rfl
  | x :: rest => by
    simp [finiteItems, depthOfItems, depth_finite x, depthOfItems_finiteItems rest]

theorem depthOfFields_finiteFields :
    (fields : List (String × Value)) → depthOfFields (finiteFields fields) = depthOfFields fields
  | [] => rfl
  | (_, x) :: rest => by
    simp [finiteFields, depthOfFields, depth_finite x, depthOfFields_finiteFields rest]

end
end EditorialDesk.Value
