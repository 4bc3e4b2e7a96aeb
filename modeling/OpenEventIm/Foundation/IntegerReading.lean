import OpenEventIm.Foundation.JsonValue

/-!
# Integers read from values

The conversion of a dynamically typed value to an integer, as Python's `int`
makes it: numbers are truncated toward zero, and a string is read as decimal
digits of any script, with white space around them, an optional sign and single
underscores between digits.
-/

namespace OpenEventIm.Foundation.IntegerReading

/-! ## Characters -/

/-- The code points of the digit zero, one for each run of ten decimal digits. -/
def decimalZeros : List Nat := [
  0x30, 0x660, 0x6f0, 0x7c0, 0x966, 0x9e6, 0xa66, 0xae6, 0xb66, 0xbe6, 0xc66,
  0xce6, 0xd66, 0xde6, 0xe50, 0xed0, 0xf20, 0x1040, 0x1090, 0x17e0, 0x1810,
  0x1946, 0x19d0, 0x1a80, 0x1a90, 0x1b50, 0x1bb0, 0x1c40, 0x1c50, 0xa620,
  0xa8d0, 0xa900, 0xa9d0, 0xa9f0, 0xaa50, 0xabf0, 0xff10, 0x104a0, 0x10d30,
  0x11066, 0x110f0, 0x11136, 0x111d0, 0x112f0, 0x11450, 0x114d0, 0x11650,
  0x116c0, 0x11730, 0x118e0, 0x11950, 0x11c50, 0x11d50, 0x11da0, 0x16a60,
  0x16ac0, 0x16b50, 0x1d7ce, 0x1d7d8, 0x1d7e2, 0x1d7ec, 0x1d7f6, 0x1e140,
  0x1e2f0, 0x1e950, 0x1fbf0]

/-- The value of a decimal digit of any script. -/
def digitValue (char : Char) : Option Nat :=
  (decimalZeros.find? fun start =>
    start ≤ char.toNat && char.toNat < start + 10).map (char.toNat - ·)

/-- The white space that is ignored around a number; the separators `0x1c` to
`0x1f` are none of it. -/
def isSpace (char : Char) : Bool :=
  (9 ≤ char.toNat && char.toNat ≤ 13) ||
    (0x2000 ≤ char.toNat && char.toNat ≤ 0x200a) ||
    [0x20, 0x85, 0xa0, 0x1680, 0x2028, 0x2029, 0x202f, 0x205f, 0x3000].contains
      char.toNat

def strip (chars : List Char) : List Char :=
  ((chars.dropWhile isSpace).reverse.dropWhile isSpace).reverse

/-! ## Strings -/

/-- Digits with single underscores between them. -/
def digitsOf : List Char → Option (List Nat)
  | [] => none
  | [char] => (digitValue char).map fun digit => [digit]
  | char :: '_' :: rest => do
      let digit ← digitValue char
      let digits ← digitsOf rest
      return digit :: digits
  | char :: rest => do
      let digit ← digitValue char
      let digits ← digitsOf rest
      return digit :: digits

/-- The largest number of digits that is converted. -/
def maxDigits : Nat := 4300

def naturalOf (chars : List Char) : Option Nat := do
  let digits ← digitsOf chars
  if digits.length > maxDigits then
    none
  else
    return digits.foldl (fun value digit => 10 * value + digit) 0

/-- `int(text)`; absent when it raises `ValueError`. -/
def intOfString (text : String) : Option Int :=
  match strip text.toList with
  | '-' :: rest => (naturalOf rest).map fun value => -Int.ofNat value
  | '+' :: rest => (naturalOf rest).map Int.ofNat
  | chars => (naturalOf chars).map Int.ofNat

/-! ## Values -/

/-- A decimal float, truncated toward zero. -/
def truncated (mantissa exponent : Int) : Int :=
  if 0 ≤ exponent then
    mantissa * 10 ^ exponent.toNat
  else
    mantissa.tdiv (10 ^ (-exponent).toNat)

/-- `int(value)`; absent when it raises `TypeError` or `ValueError`. -/
def intOf : Json → Option Int
  | .bool value => some (if value then 1 else 0)
  | .int value => some value
  | .float mantissa exponent => some (truncated mantissa exponent)
  | .str text => intOfString text
  | .null | .arr _ | .obj _ => none

example : intOfString " -1_700 " = some (-1700) := by decide

end OpenEventIm.Foundation.IntegerReading
