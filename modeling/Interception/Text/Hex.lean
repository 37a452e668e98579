/-
Hexadecimal text: numbers and byte strings in lower-case digits.

* `hex` writes a number behind `0x`, with no padding;
* `hexPadded` does the same with at least a given number of digits;
* `hexOfBytes` writes a byte string as two digits per byte, and `bytesOfHex` reads it.
-/

namespace Interception.Text

/-- The digits of `n` in base sixteen, most significant first; zero has one digit. -/
def hexDigits (n : Nat) : List Char :=
  Nat.toDigits 16 n

/-- A number behind `0x`, without leading zeros. -/
def hex (n : Nat) : String :=
  "0x" ++ String.ofList (hexDigits n)

/-- A number behind `0x`, filled with zeros up to `width` digits. -/
def hexPadded (width n : Nat) : String :=
  let digits := hexDigits n
  "0x" ++ String.ofList (List.replicate (width - digits.length) '0' ++ digits)

/-- The two digits of a byte, high half first. -/
def hexPair (byte : UInt8) : List Char :=
  [Nat.digitChar (byte.toNat / 16), Nat.digitChar (byte.toNat % 16)]

/-- A byte string, two digits per byte. -/
def hexOfBytes (bytes : List UInt8) : String :=
  String.ofList (bytes.flatMap hexPair)

/-- The value of one digit, in either case; none for any other character. -/
def digitValue? (c : Char) : Option Nat :=
  if '0' ≤ c ∧ c ≤ '9' then some (c.toNat - '0'.toNat)
  else if 'a' ≤ c ∧ c ≤ 'f' then some (c.toNat - 'a'.toNat + 10)
  else if 'A' ≤ c ∧ c ≤ 'F' then some (c.toNat - 'A'.toNat + 10)
  else none

/-- The bytes behind pairs of digits; none if a digit is missing or is not one. -/
def bytesOfDigits : List Char → Option (List UInt8)
  | [] => some []
  | [_] => none
  | high :: low :: rest => do
    let h ← digitValue? high
    let l ← digitValue? low
    let bytes ← bytesOfDigits rest
    return UInt8.ofNat (16 * h + l) :: bytes

/-- Reads what `hexOfBytes` writes. -/
def bytesOfHex (text : String) : Option (List UInt8) :=
  bytesOfDigits text.toList

end Interception.Text
