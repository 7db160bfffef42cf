/-!
# Blanks

The characters with the Unicode property `White_Space`, and trimming: dropping the blanks at both
ends of a text. Blanks inside a text are kept.
-/

namespace ClusterWatch.Text

/-- The characters with the Unicode property `White_Space`. -/
def isBlank (c : Char) : Bool :=
  let n := c.toNat
  (0x09 ≤ n && n ≤ 0x0D) || n == 0x20 || n == 0x85 || n == 0xA0 || n == 0x1680 ||
    (0x2000 ≤ n && n ≤ 0x200A) || n == 0x2028 || n == 0x2029 || n == 0x202F || n ==
      0x205F || n == 0x3000

/-- The blanks at both ends dropped, on a list of characters. -/
def trimChars (cs : List Char) : List Char :=
  ((cs.dropWhile isBlank).reverse.dropWhile isBlank).reverse

/-- The blanks at both ends dropped. -/
def trim (s : String) : String :=
  String.ofList (trimChars s.toList)

end ClusterWatch.Text
