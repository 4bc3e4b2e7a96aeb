import OpenEventIm.Foundation.JsonValue
import OpenEventIm.Sdk.Errors
import Mathlib.Data.List.Sort
import Mathlib.Data.List.Dedup

/-!
# Field checks of the SDK

Each check takes the value of a field (`none` when `dict.get` finds nothing,
which the code reads as Python's `None`) and returns it at its own type, or
raises with the name of the field.
-/

namespace OpenEventIm.Sdk.Normalizer

open OpenEventIm.Foundation
open OpenEventIm.Sdk.Errors

/-- `UINT64_MAX`. -/
def uint64Max : Int := 2 ^ 64 - 1

def malformed {Result : Type} (message : String) : Except PyError Result :=
  .error (.raised .malformedPayloadError message)

/-- `require_uint64`. -/
def requireUint64 (value : Option Json) (fieldName : String)
    (positive : Bool) : Except PyError Nat :=
  match value with
  | some (.int number) =>
      if number < 0 ∨ number > uint64Max then
        malformed s!"{fieldName} out of uint64 range"
      else if positive ∧ number = 0 then
        malformed s!"{fieldName} must be greater than 0"
      else
        .ok number.toNat
  | _ => malformed s!"{fieldName} must be uint64"

/-- `require_timestamp_ms`. -/
def requireTimestampMs (value : Option Json) (fieldName : String) :
    Except PyError Int :=
  match value with
  | some (.int number) =>
      if number < 0 then
        malformed s!"{fieldName} must be a non-negative timestamp"
      else
        .ok number
  | _ => malformed s!"{fieldName} must be a non-negative timestamp"

/-- `require_non_empty_str`. -/
def requireNonEmptyStr (value : Option Json) (fieldName : String) :
    Except PyError String :=
  match value with
  | some (.str text) =>
      if text = "" then
        malformed s!"{fieldName} must be a non-empty string"
      else
        .ok text
  | _ => malformed s!"{fieldName} must be a non-empty string"

/-- `require_object`. -/
def requireObject (value : Option Json) (fieldName : String) :
    Except PyError JsonObject :=
  match value with
  | some (.obj fields) => .ok fields
  | _ => malformed s!"{fieldName} must be a JSON object"

/-- `sorted(set(values))`. -/
def sortedSet (values : List Nat) : List Nat :=
  values.dedup.mergeSort

/-- `normalize_recipients`; the recipients are `None` or a list. -/
def normalizeRecipients (recipients : Option (List Int))
    (sortUnique : Bool) : Except PyError (List Nat) := do
  match recipients with
  | none => return []
  | some items =>
      let result ← items.mapM fun item =>
        requireUint64 (some (.int item)) "recipients[]" false
      return if sortUnique then sortedSet result else result

mutual

/-- `reject_source_principal`. -/
def rejectSourcePrincipal : Json → Except PyError Unit
  | .obj fields =>
      if (fields.map Prod.fst).contains "source_principal" then
        malformed "source_principal is forbidden"
      else
        rejectSourcePrincipalValues fields
  | .arr items => rejectSourcePrincipalItems items
  | _ => .ok ()

/-- The loop over the values of an object. -/
def rejectSourcePrincipalValues :
    List (String × Json) → Except PyError Unit
  | [] => .ok ()
  | field :: rest =>
      match rejectSourcePrincipal field.2 with
      | .ok () => rejectSourcePrincipalValues rest
      | .error error => .error error

/-- The loop over the items of an array. -/
def rejectSourcePrincipalItems : List Json → Except PyError Unit
  | [] => .ok ()
  | item :: rest =>
      match rejectSourcePrincipal item with
      | .ok () => rejectSourcePrincipalItems rest
      | .error error => .error error

end

/-! ## What an accepted field is -/

theorem requireUint64_eq_ok_iff {value : Option Json} {fieldName : String}
    {positive : Bool} {result : Nat} :
    requireUint64 value fieldName positive = .ok result ↔
      value = some (.int result) ∧ (result : Int) ≤ uint64Max ∧
        (positive = true → 0 < result) := by
  unfold requireUint64
  split
  · rename_i number
    split_ifs with range zero
    · simp only [malformed, reduceCtorEq, Option.some.injEq,
        Json.int.injEq, false_iff, not_and]
      rintro rfl
      omega
    · simp only [malformed, reduceCtorEq, Option.some.injEq,
        Json.int.injEq, false_iff, not_and]
      rintro rfl _ isPositive
      have := isPositive zero.1
      omega
    · simp only [Except.ok.injEq, Option.some.injEq, Json.int.injEq]
      constructor
      · rintro rfl
        refine ⟨by omega, by omega, fun isPositive => ?_⟩
        have : number ≠ 0 := fun isZero => zero ⟨isPositive, isZero⟩
        omega
      · rintro ⟨rfl, -, -⟩
        simp
  · rename_i notInt
    simp only [malformed, reduceCtorEq, false_iff, not_and]
    rintro rfl
    exact absurd rfl (notInt _)

/-- A natural number in range passes the check unchanged. -/
theorem requireUint64_natCast {value : Nat} {fieldName : String}
    {positive : Bool} (small : (value : Int) ≤ uint64Max)
    (isPositive : positive = true → 0 < value) :
    requireUint64 (some (.int value)) fieldName positive = .ok value :=
  requireUint64_eq_ok_iff.mpr ⟨rfl, small, isPositive⟩

theorem requireTimestampMs_eq_ok_iff {value : Option Json}
    {fieldName : String} {result : Int} :
    requireTimestampMs value fieldName = .ok result ↔
      value = some (.int result) ∧ 0 ≤ result := by
  unfold requireTimestampMs
  split
  · rename_i number
    split_ifs with negative
    · simp only [malformed, reduceCtorEq, Option.some.injEq,
        Json.int.injEq, false_iff, not_and]
      rintro rfl
      omega
    · simp only [Except.ok.injEq, Option.some.injEq, Json.int.injEq]
      constructor
      · rintro rfl
        exact ⟨rfl, by omega⟩
      · rintro ⟨rfl, -⟩
        rfl
  · rename_i notInt
    simp only [malformed, reduceCtorEq, false_iff, not_and]
    rintro rfl
    exact absurd rfl (notInt _)

theorem requireNonEmptyStr_eq_ok_iff {value : Option Json}
    {fieldName : String} {result : String} :
    requireNonEmptyStr value fieldName = .ok result ↔
      value = some (.str result) ∧ result ≠ "" := by
  unfold requireNonEmptyStr
  split
  · rename_i text
    split_ifs with isEmpty
    · simp only [malformed, reduceCtorEq, Option.some.injEq,
        Json.str.injEq, false_iff, not_and, not_not]
      rintro rfl
      exact isEmpty
    · simp only [Except.ok.injEq, Option.some.injEq, Json.str.injEq]
      constructor
      · rintro rfl
        exact ⟨rfl, isEmpty⟩
      · rintro ⟨rfl, -⟩
        rfl
  · rename_i notStr
    simp only [malformed, reduceCtorEq, false_iff, not_and]
    rintro rfl
    exact absurd rfl (notStr _)

theorem requireObject_eq_ok_iff {value : Option Json} {fieldName : String}
    {result : JsonObject} :
    requireObject value fieldName = .ok result ↔
      value = some (.obj result) := by
  unfold requireObject
  split
  · simp
  · rename_i notObj
    simp only [malformed, reduceCtorEq, false_iff]
    rintro rfl
    exact absurd rfl (notObj _)

mutual

/-- The recursive check accepts exactly the values without the key. -/
theorem rejectSourcePrincipal_eq_ok_iff (value : Json) :
    rejectSourcePrincipal value = .ok () ↔
      ¬value.MentionsKey "source_principal" := by
  cases value with
  | obj fields =>
      rw [rejectSourcePrincipal, Json.mentionsKey_obj_iff]
      by_cases present : "source_principal" ∈ fields.map Prod.fst
      · have contained :
            (fields.map Prod.fst).contains "source_principal" = true :=
          List.contains_iff_mem.mpr present
        simp only [contained, if_true, malformed, reduceCtorEq, false_iff,
          not_not]
        exact Or.inl present
      · have absent :
            (fields.map Prod.fst).contains "source_principal" = false := by
          rw [← Bool.not_eq_true, List.contains_iff_mem]
          exact present
        simp only [absent, Bool.false_eq_true, if_false]
        rw [rejectSourcePrincipalValues_eq_ok_iff fields]
        constructor
        · rintro clean (mentioned | ⟨field, member, mentioned⟩)
          · exact present mentioned
          · exact clean field member mentioned
        · intro clean field member mentioned
          exact clean (Or.inr ⟨field, member, mentioned⟩)
  | arr items =>
      rw [rejectSourcePrincipal, Json.mentionsKey_arr_iff,
        rejectSourcePrincipalItems_eq_ok_iff items]
      constructor
      · rintro clean ⟨item, member, mentioned⟩
        exact clean item member mentioned
      · intro clean item member mentioned
        exact clean ⟨item, member, mentioned⟩
  | null => simp [rejectSourcePrincipal]
  | bool value => simp [rejectSourcePrincipal]
  | int value => simp [rejectSourcePrincipal]
  | float mantissa exponent => simp [rejectSourcePrincipal]
  | str value => simp [rejectSourcePrincipal]

theorem rejectSourcePrincipalValues_eq_ok_iff (fields : JsonObject) :
    rejectSourcePrincipalValues fields = .ok () ↔
      ∀ field ∈ fields, ¬field.2.MentionsKey "source_principal" := by
  cases fields with
  | nil => simp [rejectSourcePrincipalValues]
  | cons field rest =>
      have head := rejectSourcePrincipal_eq_ok_iff field.2
      have tail := rejectSourcePrincipalValues_eq_ok_iff rest
      rw [rejectSourcePrincipalValues, List.forall_mem_cons, ← head, ← tail]
      cases rejectSourcePrincipal field.2 <;> simp

theorem rejectSourcePrincipalItems_eq_ok_iff (items : List Json) :
    rejectSourcePrincipalItems items = .ok () ↔
      ∀ item ∈ items, ¬item.MentionsKey "source_principal" := by
  cases items with
  | nil => simp [rejectSourcePrincipalItems]
  | cons item rest =>
      have head := rejectSourcePrincipal_eq_ok_iff item
      have tail := rejectSourcePrincipalItems_eq_ok_iff rest
      rw [rejectSourcePrincipalItems, List.forall_mem_cons, ← head, ← tail]
      cases rejectSourcePrincipal item <;> simp

end

/-! ## What a rejected field raises -/

/-- The computation fails, if at all, with a `MalformedPayloadError`. -/
def RaisesMalformed {Result : Type} (check : Except PyError Result) : Prop :=
  ∀ error, check = .error error →
    ∃ message, error = .raised .malformedPayloadError message

section RaisesMalformed

variable {Result Next : Type}

theorem raisesMalformed_ok (result : Result) :
    RaisesMalformed (.ok result) := by
  rintro error ⟨⟩

theorem raisesMalformed_malformed (message : String) :
    RaisesMalformed (malformed message : Except PyError Result) := by
  rintro error ⟨⟩
  exact ⟨message, rfl⟩

theorem RaisesMalformed.bind {check : Except PyError Result}
    {continuation : Result → Except PyError Next}
    (first : RaisesMalformed check)
    (rest : ∀ result, RaisesMalformed (continuation result)) :
    RaisesMalformed (check >>= continuation) := by
  cases check with
  | error error =>
      rintro raised ⟨⟩
      exact first error rfl
  | ok result => exact rest result

theorem RaisesMalformed.map {check : Except PyError Result}
    (first : RaisesMalformed check) (change : Result → Next) :
    RaisesMalformed (check.map change) := by
  cases check with
  | error error =>
      rintro raised ⟨⟩
      exact first error rfl
  | ok result => exact raisesMalformed_ok _

theorem raisesMalformed_requireUint64 (value : Option Json)
    (fieldName : String) (positive : Bool) :
    RaisesMalformed (requireUint64 value fieldName positive) := by
  unfold requireUint64
  split
  · split_ifs
    · exact raisesMalformed_malformed _
    · exact raisesMalformed_malformed _
    · exact raisesMalformed_ok _
  · exact raisesMalformed_malformed _

theorem raisesMalformed_requireTimestampMs (value : Option Json)
    (fieldName : String) :
    RaisesMalformed (requireTimestampMs value fieldName) := by
  unfold requireTimestampMs
  split
  · split_ifs
    · exact raisesMalformed_malformed _
    · exact raisesMalformed_ok _
  · exact raisesMalformed_malformed _

theorem raisesMalformed_requireNonEmptyStr (value : Option Json)
    (fieldName : String) :
    RaisesMalformed (requireNonEmptyStr value fieldName) := by
  unfold requireNonEmptyStr
  split
  · split_ifs
    · exact raisesMalformed_malformed _
    · exact raisesMalformed_ok _
  · exact raisesMalformed_malformed _

theorem raisesMalformed_requireObject (value : Option Json)
    (fieldName : String) : RaisesMalformed (requireObject value fieldName) := by
  unfold requireObject
  split
  · exact raisesMalformed_ok _
  · exact raisesMalformed_malformed _

theorem raisesMalformed_normalizeRecipients (recipients : Option (List Int))
    (sortUnique : Bool) :
    RaisesMalformed (normalizeRecipients recipients sortUnique) := by
  unfold normalizeRecipients
  cases recipients with
  | none => exact raisesMalformed_ok _
  | some items =>
      apply RaisesMalformed.bind
      · induction items with
        | nil => exact raisesMalformed_ok _
        | cons item rest ih =>
            rw [List.mapM_cons]
            apply (raisesMalformed_requireUint64 _ _ _).bind
            intro value
            exact ih.bind fun _ => raisesMalformed_ok _
      · exact fun _ => raisesMalformed_ok _

end RaisesMalformed

/-! ## Recipients -/

@[simp]
theorem sortedSet_nil : sortedSet [] = [] := by
  simp [sortedSet]

@[simp]
theorem sortedSet_singleton (value : Nat) : sortedSet [value] = [value] := by
  simp [sortedSet]

theorem mapM_requireUint64_natCast {values : List Nat}
    (small : ∀ value ∈ values, (value : Int) ≤ uint64Max) :
    (values.map (Nat.cast : Nat → Int)).mapM (fun item =>
      requireUint64 (some (.int item)) "recipients[]" false) =
        .ok values := by
  induction values with
  | nil => rfl
  | cons value rest ih =>
      have head :
          requireUint64 (some (.int (value : Int))) "recipients[]" false =
            .ok value :=
        requireUint64_natCast (small value List.mem_cons_self) (by simp)
      have tail := ih fun other member =>
        small other (List.mem_cons_of_mem value member)
      rw [List.map_cons, List.mapM_cons, head, tail]
      rfl

theorem mem_of_mapM_requireUint64 {items : List Int} {values : List Nat}
    (checked : items.mapM (fun item =>
      requireUint64 (some (.int item)) "recipients[]" false) = .ok values) :
    items = values.map (Nat.cast : Nat → Int) ∧
      ∀ value ∈ values, (value : Int) ≤ uint64Max := by
  induction items generalizing values with
  | nil =>
      cases checked
      simp
  | cons item rest ih =>
      rw [List.mapM_cons] at checked
      cases headChecked :
          requireUint64 (some (.int item)) "recipients[]" false with
      | error error => rw [headChecked] at checked; cases checked
      | ok value =>
          cases tailChecked : rest.mapM (fun item =>
              requireUint64 (some (.int item)) "recipients[]" false) with
          | error error =>
              rw [headChecked, tailChecked] at checked; cases checked
          | ok others =>
              rw [headChecked, tailChecked] at checked
              cases checked
              obtain ⟨restEqual, restSmall⟩ := ih tailChecked
              obtain ⟨headEqual, headSmall, -⟩ :=
                requireUint64_eq_ok_iff.mp headChecked
              simp only [Option.some.injEq, Json.int.injEq] at headEqual
              subst headEqual restEqual
              refine ⟨by simp, ?_⟩
              rintro other (_ | ⟨_, member⟩)
              · exact headSmall
              · exact restSmall other member

end OpenEventIm.Sdk.Normalizer
