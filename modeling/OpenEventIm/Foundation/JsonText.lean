import OpenEventIm.Foundation.JsonValue

/-!
# JSON texts

`JsonText` is what a program relies on when it uses a JSON library: a printer
and a reader, where the reader inverts the printer on well-formed values and
returns well-formed values only.

`compact` is one such library.  Its printer writes the compact text with
non-ASCII characters kept; its reader accepts exactly the texts of well-formed
values, since it prints what it has read and compares.  The round trip is proved
by induction on the value, the reader's fuel being bounded by the length of the
text.
-/

namespace OpenEventIm.Foundation

/-- A JSON printer and reader that agree on well-formed values. -/
structure JsonText where
  dumps : Json → String
  loads : String → Option Json
  loads_dumps : ∀ value, value.WellFormed → loads (dumps value) = some value
  loads_wellFormed : ∀ text value, loads text = some value → value.WellFormed

namespace JsonText

/-! ## The compact printer -/

def hexDigit (digit : Nat) : Char :=
  if digit < 10 then Char.ofNat (48 + digit) else Char.ofNat (87 + digit)

/-- One character of a string, escaped where JSON requires it. -/
def escapeChar (char : Char) : List Char :=
  if char = '"' then ['\\', '"']
  else if char = '\\' then ['\\', '\\']
  else if char = '\n' then ['\\', 'n']
  else if char = '\r' then ['\\', 'r']
  else if char = '\t' then ['\\', 't']
  else if char.toNat = 8 then ['\\', 'b']
  else if char.toNat = 12 then ['\\', 'f']
  else if char.toNat < 32 then
    ['\\', 'u', '0', '0', hexDigit (char.toNat / 16),
      hexDigit (char.toNat % 16)]
  else [char]

/-- The characters of a string followed by the closing quote. -/
def stringTail (chars : List Char) : List Char :=
  chars.flatMap escapeChar ++ ['"']

def intText (value : Int) : List Char :=
  if value < 0 then '-' :: Nat.toDigits 10 value.natAbs
  else Nat.toDigits 10 value.natAbs

mutual

/-- The compact text of a value. -/
def valueText : Json → List Char
  | .null => ['n', 'u', 'l', 'l']
  | .bool true => ['t', 'r', 'u', 'e']
  | .bool false => ['f', 'a', 'l', 's', 'e']
  | .int value => intText value
  | .float mantissa exponent => intText mantissa ++ 'e' :: intText exponent
  | .str value => '"' :: stringTail value.toList
  | .arr [] => ['[', ']']
  | .arr (item :: rest) => '[' :: (valueText item ++ itemsTail rest)
  | .obj [] => ['\x7b', '\x7d']
  | .obj (field :: rest) =>
      '\x7b' :: '"' ::
        (stringTail field.1.toList ++
          ':' :: (valueText field.2 ++ fieldsTail rest))

/-- The items after the first one, with the closing bracket. -/
def itemsTail : List Json → List Char
  | [] => [']']
  | item :: rest => ',' :: (valueText item ++ itemsTail rest)

/-- The fields after the first one, with the closing brace. -/
def fieldsTail : List (String × Json) → List Char
  | [] => ['\x7d']
  | field :: rest =>
      ',' :: '"' ::
        (stringTail field.1.toList ++
          ':' :: (valueText field.2 ++ fieldsTail rest))

end

/-! ## The reader -/

def hexValue (char : Char) : Nat :=
  if char.toNat < 58 then char.toNat - 48 else char.toNat - 87

/-- The character an escape letter stands for. -/
def unescape (char : Char) : Char :=
  if char = 'n' then '\n'
  else if char = 'r' then '\r'
  else if char = 't' then '\t'
  else if char = 'b' then Char.ofNat 8
  else if char = 'f' then Char.ofNat 12
  else char

/-- Read a string up to its closing quote. -/
def readString : List Char → Option (List Char × List Char)
  | [] => none
  | '"' :: rest => some ([], rest)
  | '\\' :: 'u' :: _ :: _ :: high :: low :: rest =>
      (readString rest).map fun read =>
        (Char.ofNat (16 * hexValue high + hexValue low) :: read.1, read.2)
  | '\\' :: char :: rest =>
      (readString rest).map fun read => (unescape char :: read.1, read.2)
  | char :: rest =>
      (readString rest).map fun read => (char :: read.1, read.2)

def readNat (chars : List Char) : Nat × List Char :=
  (Nat.ofDigitChars 10 (chars.takeWhile Char.isDigit) 0,
    chars.dropWhile Char.isDigit)

def readInt : List Char → Int × List Char
  | '-' :: rest => (-((readNat rest).1 : Int), (readNat rest).2)
  | chars => (((readNat chars).1 : Int), (readNat chars).2)

/-- Read an integer, or a float when an exponent follows. -/
def readNumber (chars : List Char) : Json × List Char :=
  match (readInt chars).2 with
  | 'e' :: rest =>
      (.float (readInt chars).1 (readInt rest).1, (readInt rest).2)
  | rest => (.int (readInt chars).1, rest)

mutual

def readValue : Nat → List Char → Option (Json × List Char)
  | 0, _ => none
  | fuel + 1, chars =>
      match chars with
      | [] => none
      | 'n' :: rest => some (.null, rest.drop 3)
      | 't' :: rest => some (.bool true, rest.drop 3)
      | 'f' :: rest => some (.bool false, rest.drop 4)
      | '"' :: rest =>
          (readString rest).map fun read =>
            (.str (String.ofList read.1), read.2)
      | '[' :: ']' :: rest => some (.arr [], rest)
      | '[' :: rest =>
          match readValue fuel rest with
          | some (item, after) =>
              (readItems fuel after).map fun read =>
                (.arr (item :: read.1), read.2)
          | none => none
      | '\x7b' :: '\x7d' :: rest => some (.obj [], rest)
      | '\x7b' :: '"' :: rest =>
          (readField fuel rest).map fun read => (.obj read.1, read.2)
      | chars => some (readNumber chars)

/-- Read the items after the first one. -/
def readItems : Nat → List Char → Option (List Json × List Char)
  | 0, _ => none
  | fuel + 1, chars =>
      match chars with
      | ']' :: rest => some ([], rest)
      | ',' :: rest =>
          match readValue fuel rest with
          | some (item, after) =>
              (readItems fuel after).map fun read =>
                (item :: read.1, read.2)
          | none => none
      | _ => none

/-- Read a field whose opening quote has been read, and the fields after it. -/
def readField : Nat → List Char → Option (JsonObject × List Char)
  | 0, _ => none
  | fuel + 1, chars =>
      match readString chars with
      | some (key, ':' :: rest) =>
          match readValue fuel rest with
          | some (value, '\x7d' :: after) =>
              some ([(String.ofList key, value)], after)
          | some (value, ',' :: '"' :: after) =>
              (readField fuel after).map fun read =>
                ((String.ofList key, value) :: read.1, read.2)
          | _ => none
      | _ => none

end

/-! ## Strings read back -/

theorem hexValue_hexDigit {digit : Nat} (small : digit < 16) :
    hexValue (hexDigit digit) = digit := by
  revert digit
  decide

private theorem readString_plain {char : Char} (rest : List Char)
    (notQuote : char ≠ '"') (notEscape : char ≠ '\\') :
    readString (char :: rest) =
      (readString rest).map fun read => (char :: read.1, read.2) := by
  rw [readString.eq_def]
  split <;> simp_all

theorem readString_escapeChar (char : Char) (rest : List Char) :
    readString (escapeChar char ++ rest) =
      (readString rest).map fun read => (char :: read.1, read.2) := by
  unfold escapeChar
  split_ifs with quote backslash newline return' tab backspace formfeed control
  · subst quote; simp [readString, unescape]
  · subst backslash; simp [readString, unescape]
  · subst newline; simp [readString, unescape]
  · subst return'; simp [readString, unescape]
  · subst tab; simp [readString, unescape]
  · have equal : Char.ofNat 8 = char := by
      rw [← backspace, Char.ofNat_toNat]
    rw [← equal]
    simp [readString, unescape]
  · have equal : Char.ofNat 12 = char := by
      rw [← formfeed, Char.ofNat_toNat]
    rw [← equal]
    simp [readString, unescape]
  · have high : hexValue (hexDigit (char.toNat / 16)) = char.toNat / 16 :=
      hexValue_hexDigit (by omega)
    have low : hexValue (hexDigit (char.toNat % 16)) = char.toNat % 16 :=
      hexValue_hexDigit (by omega)
    have whole : 16 * (char.toNat / 16) + char.toNat % 16 = char.toNat := by
      omega
    simp [readString, high, low, whole, Char.ofNat_toNat]
  · exact readString_plain rest quote backslash

theorem readString_stringTail (chars rest : List Char) :
    readString (stringTail chars ++ rest) = some (chars, rest) := by
  induction chars with
  | nil => simp [stringTail, readString]
  | cons char chars ih =>
      simp only [stringTail, List.append_assoc] at ih
      simp only [stringTail, List.flatMap_cons, List.append_assoc]
      rw [readString_escapeChar, ih]
      rfl

/-! ## Numbers read back -/

/-- The text after a number does not continue it. -/
def EndsNumber (rest : List Char) : Prop :=
  ∀ char ∈ rest.head?, char.isDigit = false ∧ char ≠ 'e'

theorem readNat_toDigits (value : Nat) (rest : List Char)
    (ends : ∀ char ∈ rest.head?, char.isDigit = false) :
    readNat (Nat.toDigits 10 value ++ rest) = (value, rest) := by
  have digits : ∀ char ∈ Nat.toDigits 10 value, char.isDigit = true :=
    fun char member =>
      Nat.isDigit_of_mem_toDigits (by decide) (by decide) member
  have stop : rest.takeWhile Char.isDigit = [] ∧
      rest.dropWhile Char.isDigit = rest := by
    cases rest with
    | nil => exact ⟨rfl, rfl⟩
    | cons char rest =>
        have notDigit := ends char rfl
        simp [notDigit]
  rw [readNat, List.takeWhile_append_of_pos digits,
    List.dropWhile_append_of_pos digits, stop.1, stop.2,
    List.append_nil, Nat.ofDigitChars_ten_toDigits]

private theorem toDigits_head_ne_minus (value : Nat) (rest tail : List Char) :
    Nat.toDigits 10 value ++ rest ≠ '-' :: tail := by
  intro equal
  cases digits : Nat.toDigits 10 value with
  | nil => exact Nat.toDigits_ne_nil digits
  | cons char chars =>
      have isDigit : char.isDigit = true :=
        Nat.isDigit_of_mem_toDigits (n := value)
          (by decide : 0 < 10) (by decide) (by simp [digits])
      rw [digits, List.cons_append, List.cons.injEq] at equal
      rw [equal.1] at isDigit
      exact absurd isDigit (by decide)

theorem readInt_intText (value : Int) (rest : List Char)
    (ends : ∀ char ∈ rest.head?, char.isDigit = false) :
    readInt (intText value ++ rest) = (value, rest) := by
  unfold intText
  split_ifs with negative
  · rw [List.cons_append, readInt, readNat_toDigits _ _ ends]
    simp only [Prod.mk.injEq, and_true]
    omega
  · rw [readInt, readNat_toDigits _ _ ends]
    · simp only [Prod.mk.injEq, and_true]
      omega
    · exact toDigits_head_ne_minus _ _

theorem readNumber_int (value : Int) (rest : List Char)
    (ends : EndsNumber rest) :
    readNumber (intText value ++ rest) = (.int value, rest) := by
  rw [readNumber, readInt_intText _ _ fun char member => (ends char member).1]
  cases rest with
  | nil => rfl
  | cons char rest =>
      have notExponent := (ends char rfl).2
      split
      · rename_i equal
        simp only [List.cons.injEq] at equal
        exact absurd equal.1 notExponent
      · rfl

theorem readNumber_float (mantissa exponent : Int) (rest : List Char)
    (ends : EndsNumber rest) :
    readNumber (intText mantissa ++ 'e' :: intText exponent ++ rest) =
      (.float mantissa exponent, rest) := by
  have whole : intText mantissa ++ 'e' :: intText exponent ++ rest =
      intText mantissa ++ 'e' :: (intText exponent ++ rest) := by simp
  have head := readInt_intText mantissa ('e' :: (intText exponent ++ rest))
    (by simp)
  rw [whole, readNumber, head]
  simp only
  rw [readInt_intText _ _ fun char member => (ends char member).1]

private theorem intText_head (value : Int) :
    ∃ char rest, intText value = char :: rest ∧
      (char.isDigit = true ∨ char = '-') := by
  unfold intText
  split_ifs
  · exact ⟨_, _, rfl, Or.inr rfl⟩
  · cases digits : Nat.toDigits 10 value.natAbs with
    | nil => exact absurd digits Nat.toDigits_ne_nil
    | cons char chars =>
        exact ⟨char, chars, rfl, Or.inl
          (Nat.isDigit_of_mem_toDigits (n := value.natAbs)
            (by decide : 0 < 10) (by decide) (by simp [digits]))⟩

/-- A text that starts like a number is read as one. -/
private theorem readValue_number {fuel : Nat} {char : Char}
    {chars : List Char} (starts : char.isDigit = true ∨ char = '-') :
    readValue (fuel + 1) (char :: chars) =
      some (readNumber (char :: chars)) := by
  have others : ∀ other : Char,
      other.isDigit = false → other ≠ '-' → char ≠ other := by
    rintro other notDigit notMinus rfl
    rcases starts with isDigit | isMinus
    · rw [notDigit] at isDigit
      cases isDigit
    · exact notMinus isMinus
  have notNull := others 'n' (by decide) (by decide)
  have notTrue := others 't' (by decide) (by decide)
  have notFalse := others 'f' (by decide) (by decide)
  have notQuote := others '"' (by decide) (by decide)
  have notBracket := others '[' (by decide) (by decide)
  have notBrace := others '\x7b' (by decide) (by decide)
  rw [readValue.eq_def]
  simp only
  split <;> simp_all

/-! ## Values read back -/

private theorem endsNumber_itemsTail (items : List Json) (rest : List Char) :
    EndsNumber (itemsTail items ++ rest) := by
  cases items <;> simp [itemsTail, EndsNumber]

private theorem endsNumber_fieldsTail (fields : JsonObject)
    (rest : List Char) : EndsNumber (fieldsTail fields ++ rest) := by
  cases fields <;> simp [fieldsTail, EndsNumber]

/-- No value's text starts with a closing bracket. -/
private theorem valueText_ne_bracket (value : Json) (rest tail : List Char) :
    valueText value ++ rest ≠ ']' :: tail := by
  intro equal
  have number : ∀ (number : Int) (after : List Char),
      intText number ++ after ≠ ']' :: tail := by
    intro number after equal
    obtain ⟨char, chars, text, starts⟩ := intText_head number
    rw [text, List.cons_append, List.cons.injEq] at equal
    rw [equal.1] at starts
    exact absurd starts (by decide)
  cases value with
  | null => simp [valueText] at equal
  | bool value => cases value <;> simp [valueText] at equal
  | int value => exact number _ _ (by simpa [valueText] using equal)
  | float mantissa exponent =>
      exact number mantissa ('e' :: intText exponent ++ rest)
        (by simpa [valueText] using equal)
  | str value => simp [valueText] at equal
  | arr items => cases items <;> simp [valueText] at equal
  | obj fields => cases fields <;> simp [valueText] at equal

theorem valueText_length_pos (value : Json) :
    0 < (valueText value).length := by
  cases value with
  | null => simp [valueText]
  | bool value => cases value <;> simp [valueText]
  | int value =>
      obtain ⟨char, chars, text, -⟩ := intText_head value
      simp [valueText, text]
  | float mantissa exponent => simp [valueText]
  | str value => simp [valueText]
  | arr items => cases items <;> simp [valueText]
  | obj fields => cases fields <;> simp [valueText]

mutual

/--
The reader inverts the printer in front of any text that does not continue a
number; the length of the value's own text is fuel enough.
-/
theorem readValue_valueText (value : Json) (fuel : Nat) (rest : List Char)
    (enough : (valueText value).length ≤ fuel) (ends : EndsNumber rest) :
    readValue fuel (valueText value ++ rest) = some (value, rest) := by
  cases fuel with
  | zero =>
      have impossible := valueText_length_pos value
      omega
  | succ fuel =>
      cases value with
      | null => simp [valueText, readValue]
      | bool value => cases value <;> simp [valueText, readValue]
      | int value =>
          obtain ⟨char, chars, text, starts⟩ := intText_head value
          have read := readNumber_int value rest ends
          rw [valueText]
          rw [text, List.cons_append] at read ⊢
          rw [readValue_number starts, read]
      | float mantissa exponent =>
          obtain ⟨char, chars, text, starts⟩ := intText_head mantissa
          have read := readNumber_float mantissa exponent rest ends
          rw [valueText]
          rw [text] at read ⊢
          simp only [List.cons_append] at read ⊢
          rw [readValue_number starts, read]
      | str value =>
          simp [valueText, readValue, readString_stringTail]
      | arr items =>
          cases items with
          | nil => simp [valueText, readValue]
          | cons item items =>
              simp only [valueText, List.length_cons, List.length_append]
                at enough
              have head := readValue_valueText item fuel
                (itemsTail items ++ rest) (by omega)
                (endsNumber_itemsTail items rest)
              have tail := readItems_itemsTail items fuel rest (by omega)
              have notClosed := valueText_ne_bracket item
                (itemsTail items ++ rest)
              rw [valueText, List.cons_append, List.append_assoc,
                readValue.eq_def]
              simp only
              split <;> simp_all
      | obj fields =>
          cases fields with
          | nil => simp [valueText, readValue]
          | cons field fields =>
              simp only [valueText, List.length_cons, List.length_append]
                at enough
              have read := readField_fieldText field fields fuel rest
                (by simp only [List.length_append, List.length_cons]; omega)
              simp only [valueText, List.cons_append, readValue]
              rw [read]
              rfl
termination_by fuel

theorem readItems_itemsTail (items : List Json) (fuel : Nat)
    (rest : List Char) (enough : (itemsTail items).length ≤ fuel) :
    readItems fuel (itemsTail items ++ rest) = some (items, rest) := by
  cases fuel with
  | zero => cases items <;> simp [itemsTail] at enough
  | succ fuel =>
      cases items with
      | nil => simp [itemsTail, readItems]
      | cons item items =>
          simp only [itemsTail, List.length_cons, List.length_append]
            at enough
          have head := readValue_valueText item fuel
            (itemsTail items ++ rest) (by omega)
            (endsNumber_itemsTail items rest)
          have tail := readItems_itemsTail items fuel rest (by omega)
          simp only [itemsTail, List.cons_append, List.append_assoc,
            readItems, head, tail, Option.map_some]
termination_by fuel

theorem readField_fieldText (field : String × Json) (fields : JsonObject)
    (fuel : Nat) (rest : List Char)
    (enough : (stringTail field.1.toList ++
      ':' :: (valueText field.2 ++ fieldsTail fields)).length ≤ fuel) :
    readField fuel (stringTail field.1.toList ++
        ':' :: (valueText field.2 ++ fieldsTail fields) ++ rest) =
      some (field :: fields, rest) := by
  cases fuel with
  | zero => simp at enough
  | succ fuel =>
      simp only [List.length_append, List.length_cons] at enough
      have head := readValue_valueText field.2 fuel
        (fieldsTail fields ++ rest) (by omega)
        (endsNumber_fieldsTail fields rest)
      simp only [List.append_assoc, List.cons_append, readField,
        readString_stringTail, head]
      cases fields with
      | nil => simp [fieldsTail]
      | cons next fields =>
          have quote : 0 < (stringTail field.1.toList).length := by
            simp [stringTail]
          simp only [fieldsTail, List.length_cons] at enough
          have tail := readField_fieldText next fields fuel rest (by omega)
          simp only [fieldsTail, List.cons_append]
          rw [tail]
          simp
termination_by fuel

end

/-! ## The compact library -/

mutual

/-- Decide that a value is well formed. -/
def wellFormed : Json → Bool
  | .arr items => wellFormedItems items
  | .obj fields =>
      decide (fields.map Prod.fst).Nodup && wellFormedFields fields
  | .float mantissa exponent => decide (CanonicalFloat mantissa exponent)
  | _ => true

def wellFormedItems : List Json → Bool
  | [] => true
  | item :: rest => wellFormed item && wellFormedItems rest

def wellFormedFields : List (String × Json) → Bool
  | [] => true
  | field :: rest => wellFormed field.2 && wellFormedFields rest

end

mutual

theorem wellFormed_iff (value : Json) :
    wellFormed value = true ↔ value.WellFormed := by
  cases value with
  | arr items =>
      rw [wellFormed, Json.WellFormed]
      exact wellFormedItems_iff items
  | obj fields =>
      rw [wellFormed, Json.WellFormed, Bool.and_eq_true, decide_eq_true_eq,
        wellFormedFields_iff fields]
  | null => simp [wellFormed, Json.WellFormed]
  | bool value => simp [wellFormed, Json.WellFormed]
  | int value => simp [wellFormed, Json.WellFormed]
  | float mantissa exponent => simp [wellFormed, Json.WellFormed]
  | str value => simp [wellFormed, Json.WellFormed]

theorem wellFormedItems_iff (items : List Json) :
    wellFormedItems items = true ↔ Json.WellFormedItems items := by
  cases items with
  | nil => simp [wellFormedItems, Json.WellFormedItems]
  | cons item rest =>
      rw [wellFormedItems, Json.WellFormedItems, Bool.and_eq_true,
        wellFormed_iff item, wellFormedItems_iff rest]

theorem wellFormedFields_iff (fields : JsonObject) :
    wellFormedFields fields = true ↔ Json.WellFormedFields fields := by
  cases fields with
  | nil => simp [wellFormedFields, Json.WellFormedFields]
  | cons field rest =>
      rw [wellFormedFields, Json.WellFormedFields, Bool.and_eq_true,
        wellFormed_iff field.2, wellFormedFields_iff rest]

end

instance (value : Json) : Decidable value.WellFormed :=
  decidable_of_iff _ (wellFormed_iff value)

/-- Read a whole text that is the text of one well-formed value. -/
def readText (text : String) : Option Json :=
  match readValue (text.toList.length) text.toList with
  | some (value, []) =>
      if value.WellFormed ∧ valueText value = text.toList then some value
      else none
  | _ => none

/-- The compact printer with its reader. -/
def compact : JsonText where
  dumps value := String.ofList (valueText value)
  loads := readText
  loads_dumps := by
    intro value good
    have read := readValue_valueText value (valueText value).length []
      (Nat.le_refl _) (by simp [EndsNumber])
    rw [List.append_nil] at read
    simp [readText, String.toList_ofList, read, good]
  loads_wellFormed := by
    intro text value loaded
    unfold readText at loaded
    split at loaded
    · split_ifs at loaded with good
      cases loaded
      exact good.1
    · cases loaded

end JsonText

end OpenEventIm.Foundation
