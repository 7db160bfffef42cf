import Std.Data.ExtTreeMap
import ClusterWatch.Number.Reader
import ClusterWatch.Text.Blank

/-!
# Resource quantities

A quantity such as `500m`, `1.5Gi` or `5e-2` is a decimal number followed by a suffix: a
decimal or binary multiple, or an exponent of ten. Amounts of CPU are counted in thousandths
and amounts of memory and storage in bytes, rounded up unless they miss a whole number by no
more than rounding error.
-/

namespace ClusterWatch

/-- Why a text is no quantity. -/
inductive QuantityError where
  /-- Nothing is left of the text after trimming. -/
  | empty
  /-- The numeric part of the quantity is no decimal. -/
  | invalid (quantity : String)
  /-- The rest after the numeric part is no known suffix. -/
  | unknownSuffix (quantity suffix : String)
  /-- The quantity lies below zero. -/
  | negative (quantity : String)
  deriving DecidableEq, Repr

/-- The text that reports an error. -/
def QuantityError.message : QuantityError → String
  | .empty => "empty quantity"
  | .invalid quantity => s!"invalid quantity '{quantity}'"
  | .unknownSuffix quantity suffix => s!"unknown suffix '{suffix}' in quantity '{quantity}'"
  | .negative quantity => s!"negative quantity '{quantity}'"

/-- Quantities by resource name, as an object lists them. -/
abbrev Resources := Std.ExtTreeMap String String

namespace Quantity

/-- The factor that a suffix stands for. -/
def suffixFactor? : List Char → Option Binary64
  | [] => some .one
  | ['n'] => some (.ofDecimal false 1 (-9))
  | ['u'] => some (.ofDecimal false 1 (-6))
  | ['m'] => some (.ofDecimal false 1 (-3))
  | ['k'] => some (.ofNat (Nat.pow 10 3))
  | ['M'] => some (.ofNat (Nat.pow 10 6))
  | ['G'] => some (.ofNat (Nat.pow 10 9))
  | ['T'] => some (.ofNat (Nat.pow 10 12))
  | ['P'] => some (.ofNat (Nat.pow 10 15))
  | ['E'] => some (.ofNat (Nat.pow 10 18))
  | ['K', 'i'] => some (.ofNat 1024)
  | ['M', 'i'] => some (.ofNat (Nat.pow 1024 2))
  | ['G', 'i'] => some (.ofNat (Nat.pow 1024 3))
  | ['T', 'i'] => some (.ofNat (Nat.pow 1024 4))
  | ['P', 'i'] => some (.ofNat (Nat.pow 1024 5))
  | ['E', 'i'] => some (.ofNat (Nat.pow 1024 6))
  | _ => none

/-- The characters that the numeric part of a quantity is cut out by. -/
def isNumeric (c : Char) : Bool :=
  Text.isDigit c || c = '.' || c = '+' || c = '-'

/-- The factor of a suffix, where `e` or `E` with anything behind it starts an exponent of ten. A
lone `E` is a suffix of its own. -/
def factor? : List Char → Option Binary64
  | c :: d :: rest =>
    if c = 'e' || c = 'E' then (Text.readInt32? (d :: rest)).map (Binary64.power (.ofNat 10))
    else suffixFactor? (c :: d :: rest)
  | suffix => suffixFactor? suffix

/-- The number that a quantity denotes. The numeric part is judged before the suffix, and
the sign last. -/
def parse (raw : String) : Except QuantityError Binary64 :=
  let quantity := Text.trimChars raw.toList
  if quantity.isEmpty then .error .empty
  else
    let number := quantity.takeWhile isNumeric
    let suffix := quantity.dropWhile isNumeric
    match Binary64.read? number with
    | none => .error (.invalid (String.ofList quantity))
    | some value =>
      match factor? suffix with
      | none => .error (.unknownSuffix (String.ofList quantity) (String.ofList suffix))
      | some factor =>
        let scaled := value.mul factor
        if scaled.isBelowZero then .error (.negative (String.ofList quantity)) else .ok scaled

/-- The relative error up to which a number counts as the whole number nearest to it. -/
def tolerance : Binary64 := .ofDecimal false 1 (-9)

/-- The number rounded up to a whole one, or to the nearest one if that is within the tolerance. -/
def ceilSnapped (value : Binary64) : UInt64 :=
  let nearest := value.round
  if (value.sub nearest).abs.le (tolerance.mul (value.abs.max .one)) then nearest.toUInt64
  else value.ceil.toUInt64

/-- A quantity of CPU in thousandths. -/
def parseCpuMillis (raw : String) : Except QuantityError UInt64 :=
  (parse raw).map fun value => ceilSnapped (value.mul (.ofNat 1000))

/-- A quantity of memory or storage in bytes. -/
def parseBytes (raw : String) : Except QuantityError UInt64 :=
  (parse raw).map ceilSnapped

/-- The value of a quantity, or zero for a text that is none. -/
def valueOrZero (result : Except QuantityError UInt64) : UInt64 :=
  match result with
  | .ok value => value
  | .error _ => 0

/-- The CPU that a resource list gives under a key, in thousandths; zero if it is missing
or malformed. -/
def cpuMillisOf (resources : Resources) (key : String) : UInt64 :=
  match resources[key]? with
  | some raw => valueOrZero (parseCpuMillis raw)
  | none => 0

/-- The bytes that a resource list gives under a key; zero if they are missing or malformed. -/
def bytesOf (resources : Resources) (key : String) : UInt64 :=
  match resources[key]? with
  | some raw => valueOrZero (parseBytes raw)
  | none => 0

end Quantity

end ClusterWatch
