/-!
# Decimal numerals

Integers in decimal text. An unsigned numeral is one or more ASCII digits, after an optional `+`; a
signed numeral may also start with `-`. Leading zeros are allowed and nothing else is: no blanks, no
separators. A reader is given the largest value that it accepts.
-/

namespace ClusterWatch.Text

/-- The ASCII digits. -/
def isDigit (c : Char) : Bool :=
  '0' ≤ c && c ≤ '9'

/-- The value of an ASCII digit. -/
def digitValue (c : Char) : Nat :=
  c.toNat - '0'.toNat

/-- The number that a list of digits denotes, most significant digit first. -/
def digitsValue (cs : List Char) : Nat :=
  cs.foldl (fun n c => 10 * n + digitValue c) 0

/-- The number that a non-empty run of digits denotes, if the whole list is one. -/
def readDigits? (cs : List Char) : Option Nat :=
  if cs.isEmpty || !cs.all isDigit then none else some (digitsValue cs)

/-- An unsigned numeral of value at most `limit`. -/
def readUnsigned? (limit : Nat) (cs : List Char) : Option Nat :=
  let digits :=
    match cs with
    | '+' :: rest => rest
    | _ => cs
  (readDigits? digits).filter (· ≤ limit)

/-- A signed numeral between `-limit - 1` and `limit`. -/
def readSigned? (limit : Nat) (cs : List Char) : Option Int :=
  match cs with
  | '-' :: rest => ((readDigits? rest).filter (· ≤ limit + 1)).map fun n => -(n : Int)
  | _ => (readUnsigned? limit cs).map fun n => (n : Int)

/-- An unsigned numeral that fits 64 bits. -/
def readUInt64? (s : String) : Option UInt64 :=
  (readUnsigned? (UInt64.size - 1) s.toList).map UInt64.ofNat

/-- An unsigned numeral that fits 16 bits. -/
def readUInt16? (s : String) : Option UInt16 :=
  (readUnsigned? (UInt16.size - 1) s.toList).map UInt16.ofNat

/-- A signed numeral that fits 32 bits. -/
def readInt32? (cs : List Char) : Option Int :=
  readSigned? 2147483647 cs

end ClusterWatch.Text
