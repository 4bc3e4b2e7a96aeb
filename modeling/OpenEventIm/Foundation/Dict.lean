import Mathlib.Data.List.Basic
import Mathlib.Data.List.Nodup
import Mathlib.Data.List.Lookmap
import Mathlib.Tactic.Cases

/-!
# Insertion-ordered dictionaries

A dictionary keeps its items in the order in which their keys were first set;
setting a present key replaces the value in place.  The first part works on
bare item lists, because the objects of a recursive data type can only nest
those; `Dict` packs an item list with the proof that its keys are distinct.
-/

namespace OpenEventIm.Foundation

variable {Key Value Image : Type} [DecidableEq Key]

/-! ## Item lists -/

namespace Items

/-- The value under the first occurrence of a key. -/
def get? (key : Key) : List (Key × Value) → Option Value
  | [] => none
  | item :: rest => if item.1 = key then some item.2 else get? key rest

/-- Replace the value under a key in place, or append a new item. -/
def set (key : Key) (value : Value) : List (Key × Value) → List (Key × Value)
  | [] => [(key, value)]
  | item :: rest =>
      if item.1 = key then (key, value) :: rest
      else item :: set key value rest

/-- Set the items of the second list one after the other. -/
def update (items changes : List (Key × Value)) : List (Key × Value) :=
  changes.foldl (fun acc change => set change.1 change.2 acc) items

@[simp]
theorem get?_nil (key : Key) :
    get? key ([] : List (Key × Value)) = none := rfl

@[simp]
theorem get?_cons (key : Key) (item : Key × Value)
    (rest : List (Key × Value)) :
    get? key (item :: rest) =
      if item.1 = key then some item.2 else get? key rest := rfl

theorem get?_eq_none_iff {key : Key} {items : List (Key × Value)} :
    get? key items = none ↔ key ∉ items.map Prod.fst := by
  induction items with
  | nil => simp
  | cons item rest ih =>
      by_cases same : item.1 = key
      · simp [same]
      · simp [same, ih, Ne.symm same]

theorem mem_of_get? {key : Key} {value : Value}
    {items : List (Key × Value)} (found : get? key items = some value) :
    (key, value) ∈ items := by
  induction items with
  | nil => cases found
  | cons item rest ih =>
      rw [get?_cons] at found
      split_ifs at found with same
      · cases found
        cases same
        exact List.mem_cons_self
      · exact List.mem_cons_of_mem _ (ih found)

theorem get?_of_mem {key : Key} {value : Value}
    {items : List (Key × Value)} (distinct : (items.map Prod.fst).Nodup)
    (member : (key, value) ∈ items) : get? key items = some value := by
  induction items with
  | nil => cases member
  | cons item rest ih =>
      rw [List.map_cons, List.nodup_cons] at distinct
      rcases List.mem_cons.mp member with rfl | member
      · simp
      · have different : item.1 ≠ key := by
          rintro rfl
          exact distinct.1 (List.mem_map.mpr ⟨_, member, rfl⟩)
        simpa [different] using ih distinct.2 member

theorem get?_set (key other : Key) (value : Value)
    (items : List (Key × Value)) :
    get? other (set key value items) =
      if key = other then some value else get? other items := by
  induction items with
  | nil => rfl
  | cons item rest ih =>
      by_cases same : item.1 = key
      · by_cases equal : key = other
        · simp [set, same, equal]
        · simp [set, same, equal]
      · by_cases equal : key = other
        · subst equal
          simp [set, same, ih]
        · simp [set, same, ih, equal]

theorem keys_set (key : Key) (value : Value) (items : List (Key × Value)) :
    (set key value items).map Prod.fst =
      if key ∈ items.map Prod.fst then items.map Prod.fst
      else items.map Prod.fst ++ [key] := by
  induction items with
  | nil => simp [set]
  | cons item rest ih =>
      by_cases same : item.1 = key
      · simp [set, same]
      · simp only [set, same, if_false, List.map_cons, ih, List.mem_cons,
          Ne.symm same, false_or]
        split_ifs <;> rfl

theorem nodup_keys_set {key : Key} {value : Value}
    {items : List (Key × Value)} (distinct : (items.map Prod.fst).Nodup) :
    ((set key value items).map Prod.fst).Nodup := by
  rw [keys_set]
  split_ifs with present
  · exact distinct
  · exact List.nodup_append.mpr
      ⟨distinct, List.nodup_singleton key, by
        rintro left leftMember right rightMember rfl
        exact present (List.mem_singleton.mp rightMember ▸ leftMember)⟩

theorem mem_set_cases {key : Key} {value : Value} {item : Key × Value}
    {items : List (Key × Value)} (member : item ∈ set key value items) :
    item = (key, value) ∨ item ∈ items := by
  induction items with
  | nil => exact Or.inl (List.mem_singleton.mp member)
  | cons head rest ih =>
      by_cases same : head.1 = key
      · simp only [set, same, if_true, List.mem_cons] at member
        rcases member with equal | member
        · exact Or.inl equal
        · exact Or.inr (List.mem_cons_of_mem _ member)
      · simp only [set, same, if_false, List.mem_cons] at member
        rcases member with equal | member
        · exact Or.inr (equal ▸ List.mem_cons_self)
        · exact (ih member).imp id (List.mem_cons_of_mem _)

theorem mem_set_self (key : Key) (value : Value)
    (items : List (Key × Value)) : (key, value) ∈ set key value items := by
  induction items with
  | nil => simp [set]
  | cons head rest ih =>
      by_cases same : head.1 = key
      · simp [set, same]
      · simp [set, same, ih]

/-- Items under other keys stay. -/
theorem mem_set_of_ne {key : Key} {value : Value} {item : Key × Value}
    {items : List (Key × Value)} (different : item.1 ≠ key)
    (member : item ∈ items) : item ∈ set key value items := by
  induction items with
  | nil => cases member
  | cons head rest ih =>
      by_cases same : head.1 = key
      · simp only [set, same, if_true]
        rcases List.mem_cons.mp member with rfl | member
        · exact absurd same different
        · exact List.mem_cons_of_mem _ member
      · simp only [set, same, if_false]
        rcases List.mem_cons.mp member with rfl | member
        · exact List.mem_cons_self
        · exact List.mem_cons_of_mem _ (ih member)

/-- Setting a key that is present replaces its value in place. -/
theorem set_append_cons {key : Key} {value old : Value}
    {first rest : List (Key × Value)} (absent : key ∉ first.map Prod.fst) :
    set key value (first ++ (key, old) :: rest) =
      first ++ (key, value) :: rest := by
  induction first with
  | nil => simp [set]
  | cons head tail ih =>
      rw [List.map_cons, List.mem_cons, not_or] at absent
      rw [List.cons_append, set, if_neg (Ne.symm absent.1), ih absent.2,
        List.cons_append]

omit [DecidableEq Key] in
/-- An item of a dictionary has no item with its key before it. -/
theorem notMem_keys_of_isPrefix {items done : List (Key × Value)}
    {item : Key × Value} (distinct : (items.map Prod.fst).Nodup)
    (isPrefix : done ++ [item] <+: items) : item.1 ∉ done.map Prod.fst := by
  rcases isPrefix with ⟨rest, split⟩
  rw [← split, List.map_append, List.map_append] at distinct
  have disjoint := (List.nodup_append.mp
    (List.nodup_append.mp distinct).1).2.2
  intro earlier
  exact disjoint _ earlier _ (by simp) rfl

end Items

/-! ## Dictionaries -/

/-- An insertion-ordered dictionary with distinct keys. -/
structure Dict (Key Value : Type) where
  items : List (Key × Value)
  distinct : (items.map Prod.fst).Nodup

namespace Dict

/-- The dictionary without items. -/
def empty : Dict Key Value := ⟨[], List.nodup_nil⟩

instance : EmptyCollection (Dict Key Value) := ⟨empty⟩

instance : Inhabited (Dict Key Value) := ⟨∅⟩

instance [DecidableEq Value] : DecidableEq (Dict Key Value) :=
  fun left right =>
    decidable_of_iff (left.items = right.items) (by
      cases left
      cases right
      simp)

def get? (dict : Dict Key Value) (key : Key) : Option Value :=
  Items.get? key dict.items

def contains (dict : Dict Key Value) (key : Key) : Bool :=
  (dict.get? key).isSome

def keys (dict : Dict Key Value) : List Key := dict.items.map Prod.fst

def values (dict : Dict Key Value) : List Value := dict.items.map Prod.snd

def set (dict : Dict Key Value) (key : Key) (value : Value) :
    Dict Key Value :=
  ⟨Items.set key value dict.items, Items.nodup_keys_set dict.distinct⟩

/-- Remove a key, if it is present. -/
def erase (dict : Dict Key Value) (key : Key) : Dict Key Value :=
  ⟨dict.items.filter fun item => decide (item.1 ≠ key),
    dict.distinct.sublist (List.Sublist.map Prod.fst List.filter_sublist)⟩

/-- Apply a function to every value. -/
def mapValues (dict : Dict Key Value) (change : Value → Image) :
    Dict Key Image :=
  ⟨dict.items.map fun item => (item.1, change item.2), by
    simpa [Function.comp_def] using dict.distinct⟩

@[simp]
theorem get?_empty (key : Key) :
    (∅ : Dict Key Value).get? key = none := rfl

theorem get?_set (dict : Dict Key Value) (key other : Key) (value : Value) :
    (dict.set key value).get? other =
      if key = other then some value else dict.get? other :=
  Items.get?_set key other value dict.items

@[simp]
theorem get?_set_self (dict : Dict Key Value) (key : Key) (value : Value) :
    (dict.set key value).get? key = some value := by
  simp [get?_set]

theorem get?_set_of_ne (dict : Dict Key Value) {key other : Key}
    (value : Value) (different : key ≠ other) :
    (dict.set key value).get? other = dict.get? other := by
  simp [get?_set, different]

theorem get?_eq_some_iff {dict : Dict Key Value} {key : Key}
    {value : Value} :
    dict.get? key = some value ↔ (key, value) ∈ dict.items :=
  ⟨Items.mem_of_get?, Items.get?_of_mem dict.distinct⟩

theorem get?_eq_none_iff {dict : Dict Key Value} {key : Key} :
    dict.get? key = none ↔ key ∉ dict.keys :=
  Items.get?_eq_none_iff

theorem get?_erase (dict : Dict Key Value) (key other : Key) :
    (dict.erase key).get? other =
      if key = other then none else dict.get? other := by
  apply Option.ext
  intro value
  simp only [get?_eq_some_iff, erase, List.mem_filter, decide_eq_true_eq]
  split_ifs with same
  · simp [same]
  · simp [get?_eq_some_iff, Ne.symm same]

@[simp]
theorem get?_mapValues (dict : Dict Key Value) (change : Value → Image)
    (key : Key) :
    (dict.mapValues change).get? key = (dict.get? key).map change := by
  rcases dict with ⟨items, distinct⟩
  simp only [get?, mapValues]
  clear distinct
  induction items with
  | nil => rfl
  | cons item rest ih =>
      by_cases same : item.1 = key
      · simp [same]
      · simp [same, ih]

omit [DecidableEq Key] in
@[simp]
theorem keys_mapValues (dict : Dict Key Value) (change : Value → Image) :
    (dict.mapValues change).keys = dict.keys := by
  simp [keys, mapValues, Function.comp_def]

theorem mem_keys_iff {dict : Dict Key Value} {key : Key} :
    key ∈ dict.keys ↔ ∃ value, dict.get? key = some value := by
  rw [← not_iff_not, ← get?_eq_none_iff]
  cases dict.get? key <;> simp

theorem contains_iff {dict : Dict Key Value} {key : Key} :
    dict.contains key = true ↔ key ∈ dict.keys := by
  rw [mem_keys_iff, contains, Option.isSome_iff_exists]

theorem mem_values_iff {dict : Dict Key Value} {value : Value} :
    value ∈ dict.values ↔ ∃ key, dict.get? key = some value := by
  simp only [values, List.mem_map, Prod.exists, exists_eq_right,
    get?_eq_some_iff]

/-- Setting a key that is present keeps the keys. -/
theorem keys_set_of_mem {dict : Dict Key Value} {key : Key} {value : Value}
    (present : key ∈ dict.keys) : (dict.set key value).keys = dict.keys := by
  show (Items.set key value dict.items).map Prod.fst = _
  rw [Items.keys_set]
  exact if_pos present

/-- Two dictionaries with the same value under every key. -/
def Agrees (left right : Dict Key Value) : Prop :=
  ∀ key, left.get? key = right.get? key

theorem Agrees.refl (dict : Dict Key Value) : dict.Agrees dict :=
  fun _ => rfl

theorem Agrees.symm {left right : Dict Key Value}
    (agrees : left.Agrees right) : right.Agrees left :=
  fun key => (agrees key).symm

theorem Agrees.trans {first second third : Dict Key Value}
    (left : first.Agrees second) (right : second.Agrees third) :
    first.Agrees third :=
  fun key => (left key).trans (right key)

theorem Agrees.set {left right : Dict Key Value}
    (agrees : left.Agrees right) (key : Key) (value : Value) :
    (left.set key value).Agrees (right.set key value) := by
  intro other
  rw [get?_set, get?_set, agrees other]

theorem Agrees.erase {left right : Dict Key Value}
    (agrees : left.Agrees right) (key : Key) :
    (left.erase key).Agrees (right.erase key) := by
  intro other
  rw [get?_erase, get?_erase, agrees other]

end Dict

end OpenEventIm.Foundation
