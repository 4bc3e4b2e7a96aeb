import OpenEventIm.Foundation.Dict
import Mathlib.Data.Rat.Defs
import Mathlib.Algebra.Order.Field.Rat

/-!
# JSON values

JSON values as a dynamically typed program sees them after decoding: integers
and floats are different values, booleans are not integers, and an object is an
item list.  `WellFormed` says that every object inside a value has distinct
keys and that every float is the exact value of a finite double in its one
notation without trailing zeros, which every decoded value satisfies.

`Json.same` is the equality such a program computes: numbers compare by value
across their types and objects compare without regard to the order of items.
-/

namespace OpenEventIm.Foundation

inductive Json where
  | null
  | bool (value : Bool)
  | int (value : Int)
  /-- The finite float `mantissa * 10 ^ exponent`. -/
  | float (mantissa exponent : Int)
  | str (value : String)
  | arr (items : List Json)
  | obj (fields : List (String × Json))
deriving Inhabited

/-- The fields of a JSON object. -/
abbrev JsonObject := List (String × Json)

/-! ## Floats -/

/-- The number is a finite double. -/
def IsDouble (value : ℚ) : Prop :=
  ∃ significand exponent : Int,
    significand.natAbs < 2 ^ 53 ∧ -1074 ≤ exponent ∧ exponent ≤ 971 ∧
      value = significand * (2 : ℚ) ^ exponent

/-- One of the doubles' exponents leaves an integral significand. -/
theorem isDouble_iff {value : ℚ} :
    IsDouble value ↔ ∃ step ∈ List.range 2046,
      (value * 2 ^ (1074 - (step : Int))).den = 1 ∧
        (value * 2 ^ (1074 - (step : Int))).num.natAbs < 2 ^ 53 := by
  constructor
  · rintro ⟨significand, exponent, small, lower, upper, rfl⟩
    have step : ((exponent + 1074).toNat : Int) = exponent + 1074 := by omega
    have cancel : exponent + (1074 - ((exponent + 1074).toNat : Int)) = 0 := by
      omega
    have scaled : (significand : ℚ) * 2 ^ exponent *
        2 ^ (1074 - ((exponent + 1074).toNat : Int)) = significand := by
      rw [mul_assoc, ← zpow_add₀ two_ne_zero, cancel, zpow_zero, mul_one]
    refine ⟨(exponent + 1074).toNat, List.mem_range.mpr (by omega), ?_⟩
    rw [scaled]
    exact ⟨Rat.den_intCast _, by rwa [Rat.num_intCast]⟩
  · rintro ⟨step, member, whole, small⟩
    have bound := List.mem_range.mp member
    have cancel : (1074 - (step : Int)) + (step - 1074) = 0 := by omega
    refine ⟨_, (step : Int) - 1074, small, by omega, by omega, ?_⟩
    rw [Rat.coe_int_num_of_den_eq_one whole, mul_assoc,
      ← zpow_add₀ two_ne_zero, cancel, zpow_zero, mul_one]

instance (value : ℚ) : Decidable (IsDouble value) :=
  decidable_of_iff _ isDouble_iff.symm

/-- `mantissa * 10 ^ exponent` is a finite double with the shortest mantissa. -/
def CanonicalFloat (mantissa exponent : Int) : Prop :=
  (if mantissa = 0 then exponent = 0 else ¬10 ∣ mantissa) ∧
    IsDouble (mantissa * (10 : ℚ) ^ exponent)

instance (mantissa exponent : Int) :
    Decidable (CanonicalFloat mantissa exponent) :=
  inferInstanceAs (Decidable (_ ∧ _))

namespace Json

/-! ## Decoded values -/

mutual

/--
Every object inside the value has distinct keys and every float is a double in
its one notation.
-/
def WellFormed : Json → Prop
  | .arr items => WellFormedItems items
  | .obj fields => (fields.map Prod.fst).Nodup ∧ WellFormedFields fields
  | .float mantissa exponent => CanonicalFloat mantissa exponent
  | _ => True

def WellFormedItems : List Json → Prop
  | [] => True
  | item :: rest => item.WellFormed ∧ WellFormedItems rest

def WellFormedFields : List (String × Json) → Prop
  | [] => True
  | field :: rest => field.2.WellFormed ∧ WellFormedFields rest

end

theorem wellFormedItems_iff {items : List Json} :
    WellFormedItems items ↔ ∀ item ∈ items, item.WellFormed := by
  induction items with
  | nil => simp [WellFormedItems]
  | cons item rest ih => simp [WellFormedItems, ih]

theorem wellFormedFields_iff {fields : JsonObject} :
    WellFormedFields fields ↔ ∀ field ∈ fields, field.2.WellFormed := by
  induction fields with
  | nil => simp [WellFormedFields]
  | cons field rest ih => simp [WellFormedFields, ih]

theorem wellFormed_obj_iff {fields : JsonObject} :
    (obj fields).WellFormed ↔
      (fields.map Prod.fst).Nodup ∧
        ∀ field ∈ fields, field.2.WellFormed := by
  rw [WellFormed, wellFormedFields_iff]

@[simp]
theorem wellFormed_int {value : Int} : (int value).WellFormed := True.intro

@[simp]
theorem wellFormed_bool {value : Bool} : (bool value).WellFormed := True.intro

@[simp]
theorem wellFormed_str {value : String} : (str value).WellFormed := True.intro

theorem wellFormed_empty : (obj []).WellFormed :=
  wellFormed_obj_iff.mpr ⟨List.nodup_nil, by simp⟩

/-- Setting a key to a well-formed value keeps an object well formed. -/
theorem WellFormed.set {fields : JsonObject} {key : String} {value : Json}
    (wellFormed : (obj fields).WellFormed) (good : value.WellFormed) :
    (obj (Items.set key value fields)).WellFormed := by
  rw [wellFormed_obj_iff] at wellFormed ⊢
  refine ⟨Items.nodup_keys_set wellFormed.1, fun field member => ?_⟩
  rcases Items.mem_set_cases member with rfl | member
  · exact good
  · exact wellFormed.2 field member

/-! ## Objects inside a value -/

/-- `inner` occurs in a value: as itself, or inside an item or a field. -/
inductive Within (inner : Json) : Json → Prop where
  | here : Within inner inner
  | item {items : List Json} {item : Json} (member : item ∈ items)
      (within : Within inner item) : Within inner (.arr items)
  | field {fields : JsonObject} {field : String × Json}
      (member : field ∈ fields) (within : Within inner field.2) :
      Within inner (.obj fields)

/-- Some object inside the value has the key. -/
def MentionsKey (key : String) (value : Json) : Prop :=
  ∃ fields : JsonObject, Within (.obj fields) value ∧
    key ∈ fields.map Prod.fst

theorem mentionsKey_arr_iff {key : String} {items : List Json} :
    MentionsKey key (.arr items) ↔ ∃ item ∈ items, MentionsKey key item := by
  constructor
  · rintro ⟨fields, within, present⟩
    cases within with
    | item member inner => exact ⟨_, member, fields, inner, present⟩
  · rintro ⟨item, member, fields, within, present⟩
    exact ⟨fields, .item member within, present⟩

theorem mentionsKey_obj_iff {key : String} {fields : JsonObject} :
    MentionsKey key (.obj fields) ↔
      key ∈ fields.map Prod.fst ∨
        ∃ field ∈ fields, MentionsKey key field.2 := by
  constructor
  · rintro ⟨inner, within, present⟩
    cases within with
    | here => exact Or.inl present
    | field member within => exact Or.inr ⟨_, member, inner, within, present⟩
  · rintro (present | ⟨field, member, inner, within, present⟩)
    · exact ⟨fields, .here, present⟩
    · exact ⟨inner, .field member within, present⟩

@[simp]
theorem not_mentionsKey_null {key : String} : ¬MentionsKey key .null := by
  rintro ⟨_, ⟨⟩, _⟩

@[simp]
theorem not_mentionsKey_bool {key : String} {value : Bool} :
    ¬MentionsKey key (.bool value) := by
  rintro ⟨_, ⟨⟩, _⟩

@[simp]
theorem not_mentionsKey_int {key : String} {value : Int} :
    ¬MentionsKey key (.int value) := by
  rintro ⟨_, ⟨⟩, _⟩

@[simp]
theorem not_mentionsKey_float {key : String} {mantissa exponent : Int} :
    ¬MentionsKey key (.float mantissa exponent) := by
  rintro ⟨_, ⟨⟩, _⟩

@[simp]
theorem not_mentionsKey_str {key : String} {value : String} :
    ¬MentionsKey key (.str value) := by
  rintro ⟨_, ⟨⟩, _⟩

/-! ## Equality of decoded values -/

/-- The number a value stands for; a boolean counts as 0 or 1. -/
def number? : Json → Option ℚ
  | .bool value => some (if value then 1 else 0)
  | .int value => some value
  | .float mantissa exponent => some (mantissa * (10 : ℚ) ^ exponent)
  | _ => none

mutual

/-- Equality of decoded values. -/
def same : Json → Json → Bool
  | .null, .null => true
  | .str left, .str right => left == right
  | .arr left, .arr right => sameItems left right
  | .obj left, .obj right =>
      left.length == right.length && sameFields left right
  | left, right =>
      match left.number?, right.number? with
      | some first, some second => first == second
      | _, _ => false

def sameItems : List Json → List Json → Bool
  | [], [] => true
  | left :: lefts, right :: rights => left.same right && sameItems lefts rights
  | _, _ => false

/-- Every field on the left has an equal value under its key on the right. -/
def sameFields : List (String × Json) → List (String × Json) → Bool
  | [], _ => true
  | field :: rest, other =>
      (match Items.get? field.1 other with
        | some value => field.2.same value
        | none => false) && sameFields rest other

end

/-! ## Type tests -/

/-- The string a value is, if it is one. -/
def str? : Json → Option String
  | .str value => some value
  | _ => none

/-- The integer a value is; a boolean is not an integer. -/
def int? : Json → Option Int
  | .int value => some value
  | _ => none

/-- The fields of an object. -/
def obj? : Json → Option JsonObject
  | .obj fields => some fields
  | _ => none

end Json

end OpenEventIm.Foundation
