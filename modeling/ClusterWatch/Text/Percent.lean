import ClusterWatch.Text.Bytes

/-!
# Percent-encoding

In a percent-encoded text a percent sign with two hexadecimal digits stands for a byte. A percent
sign without them stands for itself, and so does every other character. The bytes must be the
UTF-8 form of a text.
-/

namespace ClusterWatch.Text

/-- The bytes that the characters of a percent-encoded text denote. -/
def percentBytes : List Char → Bytes
  | [] => []
  | '%' :: a :: b :: rest =>
    match Bytes.hexValue? a, Bytes.hexValue? b with
    | some high, some low => UInt8.ofNat (16 * high + low) :: percentBytes rest
    | _, _ => 0x25 :: percentBytes (a :: b :: rest)
  | c :: rest => Bytes.ofText (String.singleton c) ++ percentBytes rest

/-- The text that a percent-encoded text denotes. -/
def percentDecode? (s : String) : Option String :=
  Bytes.toText? (percentBytes s.toList)

end ClusterWatch.Text
