import CodeScan.Json.Basic

/-!
# Equality of values

Whether two values are the same can be decided, so that what is read from a given text can be
checked by evaluation (`eq_ok_of_toOption`).
-/

namespace CodeScan

namespace Json

mutual

/-- Whether two values are the same. -/
def same : Json → Json → Bool
  | .null, .null => true
  | .bool a, .bool b => a = b
  | .int m, .int n => m = n
  | .float x, .float y => x = y
  | .string s, .string t => s = t
  | .array xs, .array ys => sameItems xs ys
  | .object xs, .object ys => sameMembers xs ys
  | _, _ => false

/-- Whether two arrays have the same elements. -/
def sameItems : List Json → List Json → Bool
  | [], [] => true
  | x :: xs, y :: ys => same x y && sameItems xs ys
  | _, _ => false

/-- Whether two objects have the same members in the same order. -/
def sameMembers : List (Text × Json) → List (Text × Json) → Bool
  | [], [] => true
  | (m, x) :: xs, (n, y) :: ys => m = n && (same x y && sameMembers xs ys)
  | _, _ => false

end

mutual

/-- The comparison of values finds just what is equal. -/
theorem same_iff (v w : Json) : same v w = true ↔ v = w := by
  cases v with
  | array xs =>
    cases w with
    | array ys => rw [same, sameItems_iff xs ys, Json.array.injEq]
    | _ => simp [same]
  | object xs =>
    cases w with
    | object ys => rw [same, sameMembers_iff xs ys, Json.object.injEq]
    | _ => simp [same]
  | _ => cases w <;> simp [same]

/-- The comparison of elements finds just what is equal. -/
theorem sameItems_iff (xs ys : List Json) : sameItems xs ys = true ↔ xs = ys := by
  cases xs with
  | nil => cases ys <;> simp [sameItems]
  | cons x xs =>
    cases ys with
    | nil => simp [sameItems]
    | cons y ys =>
      rw [sameItems, Bool.and_eq_true, same_iff x y, sameItems_iff xs ys, List.cons.injEq]

/-- The comparison of members finds just what is equal. -/
theorem sameMembers_iff (xs ys : List (Text × Json)) : sameMembers xs ys = true ↔ xs = ys := by
  cases xs with
  | nil => cases ys <;> simp [sameMembers]
  | cons x xs =>
    obtain ⟨m, x⟩ := x
    cases ys with
    | nil => simp [sameMembers]
    | cons y ys =>
      obtain ⟨n, y⟩ := y
      rw [sameMembers, Bool.and_eq_true, Bool.and_eq_true, same_iff x y, sameMembers_iff xs ys,
        decide_eq_true_iff, List.cons.injEq, Prod.mk.injEq, and_assoc]

end

instance : DecidableEq Json := fun v w => decidable_of_iff _ (same_iff v w)

/-- A result is known if what it is worth is. -/
theorem eq_ok_of_toOption {ε α : Type} {x : Except ε α} {a : α} (h : x.toOption = some a) :
    x = .ok a := by
  cases x with
  | ok b =>
    cases h
    rfl
  | error e => cases h

end Json

end CodeScan
