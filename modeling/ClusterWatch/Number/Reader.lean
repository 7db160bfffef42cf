import ClusterWatch.Number.Binary64
import ClusterWatch.Text.Numeral

/-!
# Reading decimal numbers

A decimal is an optional sign, digits, and at most one point among them; at least one digit is
needed, on either side of the point. It is read as the nearest binary64 number.
-/

namespace ClusterWatch.Binary64

open Text

/-- The digits before and after the point of an unsigned decimal. -/
def splitPoint? (cs : List Char) : Option (List Char × List Char) :=
  let whole := cs.takeWhile isDigit
  match cs.dropWhile isDigit with
  | [] => if whole.isEmpty then none else some (whole, [])
  | c :: fraction =>
    if c = '.' && fraction.all isDigit && !(whole.isEmpty && fraction.isEmpty) then
      some (whole, fraction)
    else none

/-- The sign of a decimal and what follows it. -/
def splitSign : List Char → Bool × List Char
  | '-' :: rest => (true, rest)
  | '+' :: rest => (false, rest)
  | cs => (false, cs)

/-- The number that a decimal denotes, if the characters are one. -/
def read? (cs : List Char) : Option Binary64 :=
  let (negative, body) := splitSign cs
  (splitPoint? body).map fun (whole, fraction) =>
    ofDecimal negative (digitsValue (whole ++ fraction)) (-(fraction.length : Int))

end ClusterWatch.Binary64
