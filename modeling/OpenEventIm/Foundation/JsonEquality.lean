import OpenEventIm.Foundation.JsonValue
import Mathlib.Data.List.Perm.Subperm

/-!
# Equality of decoded values

The equality that a dynamically typed program computes is reflexive and
symmetric on values whose objects have distinct keys, and transitive.
-/

namespace OpenEventIm.Foundation

namespace Json

/-! ## Objects -/

/-- Equal values under the keys of the left object, in any order. -/
theorem sameFields_iff {left right : JsonObject} :
    sameFields left right = true ↔
      ∀ field ∈ left, ∃ value, Items.get? field.1 right = some value ∧
        field.2.same value = true := by
  induction left with
  | nil => simp [sameFields]
  | cons field rest ih =>
      rw [sameFields, Bool.and_eq_true, ih, List.forall_mem_cons]
      apply and_congr_left'
      cases Items.get? field.1 right with
      | none => simp
      | some value => simp

/-- An object with as many fields has no further keys. -/
theorem keys_subset_of_sameFields {left right : JsonObject}
    (distinct : (left.map Prod.fst).Nodup)
    (length : left.length = right.length)
    (same : sameFields left right = true) :
    right.map Prod.fst ⊆ left.map Prod.fst := by
  have inside : left.map Prod.fst ⊆ right.map Prod.fst := by
    intro key member
    rcases List.mem_map.mp member with ⟨field, present, rfl⟩
    rcases sameFields_iff.mp same field present with ⟨value, found, -⟩
    exact List.mem_map.mpr ⟨_, Items.mem_of_get? found, rfl⟩
  have shorter : (right.map Prod.fst).length ≤ (left.map Prod.fst).length := by
    rw [List.length_map, List.length_map, length]
  exact ((distinct.subperm inside).perm_of_length_le shorter).symm.subset

/-! ## Reflexivity -/

mutual

theorem same_refl : {value : Json} → value.WellFormed →
    value.same value = true
  | .arr _, good => by
      rw [same]
      exact sameItems_refl good
  | .obj _, good => by
      rw [same, Bool.and_eq_true, beq_iff_eq]
      refine ⟨rfl, sameFields_iff.mpr fun field member => ?_⟩
      exact ⟨field.2, Items.get?_of_mem good.1 member,
        sameFields_refl good.2 field member⟩
  | .null, _ => rfl
  | .bool _, _ => by simp [same, number?]
  | .int _, _ => by simp [same, number?]
  | .float _ _, _ => by simp [same, number?]
  | .str _, _ => by simp [same]

theorem sameItems_refl : {items : List Json} → WellFormedItems items →
    sameItems items items = true
  | [], _ => rfl
  | _ :: _, good => by
      rw [sameItems, Bool.and_eq_true]
      exact ⟨same_refl good.1, sameItems_refl good.2⟩

theorem sameFields_refl : {fields : List (String × Json)} →
    WellFormedFields fields → ∀ field ∈ fields,
      field.2.same field.2 = true
  | (_, _) :: _, good, field, member => by
      rcases List.mem_cons.mp member with rfl | inside
      · exact same_refl good.1
      · exact sameFields_refl good.2 field inside

end

/-! ## Numbers -/

theorem same_eq_number {left : Json} {value : ℚ}
    (isNumber : left.number? = some value) (right : Json) :
    left.same right = right.number?.elim false (value == ·) := by
  cases left with
  | bool _ =>
      cases isNumber
      cases right <;> simp [same, number?]
  | int _ =>
      cases isNumber
      cases right <;> simp [same, number?]
  | float _ _ =>
      cases isNumber
      cases right <;> simp [same, number?]
  | _ => cases isNumber

/-- A number equals the numbers of the same value. -/
theorem same_iff_number {left right : Json} {value : ℚ}
    (isNumber : left.number? = some value) :
    left.same right = true ↔ right.number? = some value := by
  rw [same_eq_number isNumber]
  cases right.number? with
  | none => simp
  | some other =>
      rw [Option.elim_some, beq_iff_eq, Option.some.injEq, eq_comm]

theorem same_symm_number {left right : Json} {value : ℚ}
    (isNumber : left.number? = some value)
    (equal : left.same right = true) : right.same left = true := by
  have isRight := (same_iff_number isNumber).mp equal
  exact (same_iff_number isRight).mpr isNumber

theorem same_trans_number {left middle right : Json} {value : ℚ}
    (isNumber : left.number? = some value)
    (first : left.same middle = true) (second : middle.same right = true) :
    left.same right = true := by
  have isMiddle := (same_iff_number isNumber).mp first
  have isRight := (same_iff_number isMiddle).mp second
  exact (same_iff_number isNumber).mpr isRight

/-! ## Symmetry -/

mutual

theorem same_symm : {left right : Json} → left.WellFormed →
    right.WellFormed → left.same right = true → right.same left = true
  | .arr lefts, right, leftGood, rightGood, equal => by
      cases right with
      | arr rights =>
          rw [same] at equal ⊢
          exact sameItems_symm leftGood rightGood equal
      | _ => simp [same, number?] at equal
  | .obj lefts, right, leftGood, rightGood, equal => by
      cases right with
      | obj rights =>
          rw [same, Bool.and_eq_true, beq_iff_eq] at equal ⊢
          have pointwise := sameFields_iff.mp equal.2
          refine ⟨equal.1.symm, sameFields_iff.mpr fun field member => ?_⟩
          have present := keys_subset_of_sameFields leftGood.1 equal.1 equal.2
            (List.mem_map_of_mem member)
          rcases List.mem_map.mp present with ⟨other, otherMember, sameKey⟩
          rcases pointwise other otherMember with ⟨value, found, valueEqual⟩
          have isField := Items.get?_of_mem rightGood.1 member
          rw [← sameKey, found] at isField
          cases isField
          exact ⟨other.2,
            by rw [← sameKey]; exact Items.get?_of_mem leftGood.1 otherMember,
            sameFields_symm leftGood.2 other otherMember
              (wellFormedFields_iff.mp rightGood.2 field member) valueEqual⟩
      | _ => simp [same, number?] at equal
  | .null, right, _, _, equal => by
      cases right with
      | null => rfl
      | _ => simp [same, number?] at equal
  | .bool _, _, _, _, equal => same_symm_number rfl equal
  | .int _, _, _, _, equal => same_symm_number rfl equal
  | .float _ _, _, _, _, equal => same_symm_number rfl equal
  | .str _, right, _, _, equal => by
      cases right with
      | str _ =>
          rw [same, beq_iff_eq] at equal ⊢
          exact equal.symm
      | _ => simp [same, number?] at equal

theorem sameItems_symm : {left right : List Json} → WellFormedItems left →
    WellFormedItems right → sameItems left right = true →
      sameItems right left = true
  | [], right, _, _, equal => by
      cases right with
      | nil => rfl
      | cons => simp [sameItems] at equal
  | left :: lefts, right, leftGood, rightGood, equal => by
      cases right with
      | nil => simp [sameItems] at equal
      | cons right rights =>
          rw [sameItems, Bool.and_eq_true] at equal ⊢
          exact ⟨same_symm leftGood.1 rightGood.1 equal.1,
            sameItems_symm leftGood.2 rightGood.2 equal.2⟩

theorem sameFields_symm : {fields : List (String × Json)} →
    WellFormedFields fields → ∀ field ∈ fields, ∀ {right : Json},
      right.WellFormed → field.2.same right = true →
        right.same field.2 = true
  | (key, value) :: rest, good, field, member, right, rightGood, equal => by
      rcases List.mem_cons.mp member with rfl | inside
      · exact same_symm good.1 rightGood equal
      · exact sameFields_symm good.2 field inside rightGood equal

end

/-! ## Transitivity -/

mutual

theorem same_trans : {left middle right : Json} → left.same middle = true →
    middle.same right = true → left.same right = true
  | .arr lefts, middle, right, first, second => by
      cases middle with
      | arr middles =>
          cases right with
          | arr rights =>
              rw [same] at first second ⊢
              exact sameItems_trans first second
          | _ => simp [same, number?] at second
      | _ => simp [same, number?] at first
  | .obj lefts, middle, right, first, second => by
      cases middle with
      | obj middles =>
          cases right with
          | obj rights =>
              rw [same, Bool.and_eq_true, beq_iff_eq] at first second ⊢
              refine ⟨first.1.trans second.1,
                sameFields_iff.mpr fun field member => ?_⟩
              rcases sameFields_iff.mp first.2 field member
                with ⟨value, found, equal⟩
              rcases sameFields_iff.mp second.2 _ (Items.mem_of_get? found)
                with ⟨other, otherFound, otherEqual⟩
              exact ⟨other, otherFound,
                sameFields_trans field member equal otherEqual⟩
          | _ => simp [same, number?] at second
      | _ => simp [same, number?] at first
  | .null, middle, right, first, second => by
      cases middle with
      | null => exact second
      | _ => simp [same, number?] at first
  | .bool _, _, _, first, second => same_trans_number rfl first second
  | .int _, _, _, first, second => same_trans_number rfl first second
  | .float _ _, _, _, first, second => same_trans_number rfl first second
  | .str _, middle, right, first, second => by
      cases middle with
      | str _ =>
          rw [same, beq_iff_eq] at first
          rwa [first]
      | _ => simp [same, number?] at first

theorem sameItems_trans : {left middle right : List Json} →
    sameItems left middle = true → sameItems middle right = true →
      sameItems left right = true
  | [], middle, right, first, second => by
      cases middle with
      | nil => exact second
      | cons => simp [sameItems] at first
  | left :: lefts, middle, right, first, second => by
      cases middle with
      | nil => simp [sameItems] at first
      | cons middle middles =>
          cases right with
          | nil => simp [sameItems] at second
          | cons right rights =>
              rw [sameItems, Bool.and_eq_true] at first second ⊢
              exact ⟨same_trans first.1 second.1,
                sameItems_trans first.2 second.2⟩

theorem sameFields_trans : {fields : List (String × Json)} →
    ∀ field ∈ fields, ∀ {middle right : Json},
      field.2.same middle = true → middle.same right = true →
        field.2.same right = true
  | (key, value) :: rest, field, member, middle, right, first, second => by
      rcases List.mem_cons.mp member with rfl | inside
      · exact same_trans first second
      · exact sameFields_trans field inside first second

end

end Json

end OpenEventIm.Foundation
