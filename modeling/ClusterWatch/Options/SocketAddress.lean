import ClusterWatch.Text.Bytes
import ClusterWatch.Text.Numeral

/-!
# Socket addresses

An IP address with a port: `1.2.3.4:80`, or `[2001:db8::1]:80` for the longer addresses, which may
name a scope after a percent sign. Written addresses show the longest run of zero groups as `::` and
an embedded short address in dotted form.
-/

namespace ClusterWatch

/-- An address of the short or the long kind, with a port. -/
inductive SocketAddress where
  /-- Four bytes. -/
  | v4 (octets : List Nat) (port : Nat)
  /-- Eight groups of 16 bits, with a scope. -/
  | v6 (groups : List Nat) (scope port : Nat)
  deriving DecidableEq, Repr, Inhabited

namespace SocketAddress

/-- The rest after an expected character. -/
def expect (c : Char) : List Char → Option (List Char)
  | d :: rest => if d = c then some rest else none
  | [] => none

/-- A decimal number of at most `limit`, with any number of leading zeros. -/
def readNumber (limit : Nat) (cs : List Char) : Option (Nat × List Char) := do
  let digits := cs.takeWhile Text.isDigit
  let n ← Text.readDigits? digits
  if n ≤ limit then some (n, cs.dropWhile Text.isDigit) else none

/-- A byte in at most three digits without leading zeros. -/
def readOctet (cs : List Char) : Option (Nat × List Char) :=
  let digits := cs.takeWhile Text.isDigit
  if 3 < digits.length || (1 < digits.length && digits.head? = some '0') then none
  else readNumber 255 cs

/-- A group of at most four hexadecimal digits. -/
def readGroup (cs : List Char) : Option (Nat × List Char) :=
  let isHex (c : Char) : Bool := (Bytes.hexValue? c).isSome
  let digits := cs.takeWhile isHex
  if digits.isEmpty || 4 < digits.length then none
  else
    some (digits.foldl (fun n c => 16 * n + (Bytes.hexValue? c).getD 0) 0, cs.dropWhile isHex)

/-- Four bytes separated by points. -/
def readOctets (cs : List Char) : Option (List Nat × List Char) := do
  let (a, cs) ← readOctet cs
  let (b, cs) ← readOctet (← expect '.' cs)
  let (c, cs) ← readOctet (← expect '.' cs)
  let (d, cs) ← readOctet (← expect '.' cs)
  return ([a, b, c, d], cs)

/-- The two groups that four bytes make. -/
def groupsOfOctets : List Nat → List Nat
  | [a, b, c, d] => [256 * a + b, 256 * c + d]
  | _ => []

/-- The rest after the separator that stands before every group but the first. -/
def separator (first : Bool) (cs : List Char) : Option (List Char) :=
  if first then some cs else expect ':' cs

/-- Up to `room` groups separated by colons, of which the last two may be four bytes in dotted form;
says also whether they were. What is not part of them is left. -/
def readGroups (room : Nat) (first : Bool) (cs : List Char) : (List Nat × Bool) × List Char :=
  match room with
  | 0 => (([], false), cs)
  | room + 1 =>
    let dotted := if room = 0 then none else (separator first cs).bind readOctets
    match dotted with
    | some (octets, rest) => ((groupsOfOctets octets, true), rest)
    | none =>
      match (separator first cs).bind readGroup with
      | none => (([], false), cs)
      | some (group, rest) =>
        let ((groups, isDotted), left) := readGroups room false rest
        ((group :: groups, isDotted), left)

/-- The eight groups of a long address, of which `::` stands for one or more zeros. -/
def readLong (cs : List Char) : Option (List Nat × List Char) := do
  let ((head, isDotted), rest) := readGroups 8 true cs
  if head.length = 8 then return (head, rest)
  else if isDotted then none
  else
    let rest ← expect ':' (← expect ':' rest)
    let ((tail, _), rest) := readGroups (7 - head.length) true rest
    return (head ++ List.replicate (8 - head.length - tail.length) 0 ++ tail, rest)

/-- The scope after a percent sign, zero where there is none. -/
def readScope (cs : List Char) : Nat × List Char :=
  match (expect '%' cs).bind (readNumber (UInt32.size - 1)) with
  | some (scope, rest) => (scope, rest)
  | none => (0, cs)

/-- The port after a colon, at the end of the text. -/
def readPort (cs : List Char) : Option Nat := do
  let (port, rest) ← readNumber (UInt16.size - 1) (← expect ':' cs)
  if rest.isEmpty then some port else none

/-- The address of the short kind that a text denotes. -/
def readV4 (cs : List Char) : Option SocketAddress := do
  let (octets, rest) ← readOctets cs
  return .v4 octets (← readPort rest)

/-- The address of the long kind that a text denotes. -/
def readV6 (cs : List Char) : Option SocketAddress := do
  let (groups, rest) ← readLong (← expect '[' cs)
  let (scope, rest) := readScope rest
  return .v6 groups scope (← readPort (← expect ']' rest))

/-- The address that a text denotes. -/
def ofText? (text : String) : Option SocketAddress :=
  readV4 text.toList <|> readV6 text.toList

/-- Four bytes in dotted form. -/
def dottedText (octets : List Nat) : String :=
  String.intercalate "." (octets.map toString)

/-- A group in lower-case hexadecimal digits. -/
def groupText (n : Nat) : String :=
  String.ofList (Nat.toDigits 16 n)

/-- Groups separated by colons. -/
def groupsText (groups : List Nat) : String :=
  String.intercalate ":" (groups.map groupText)

/-- The length of the run of zeros at the front. -/
def zeroRun (groups : List Nat) : Nat :=
  (groups.takeWhile (· = 0)).length

/-- The start and the length of the first of the longest runs of zeros. -/
def longestZeroRun (groups : List Nat) : Nat × Nat :=
  (List.range groups.length).foldl (fun (start, length) i =>
    if length < zeroRun (groups.drop i) then (i, zeroRun (groups.drop i))
      else (start, length)) (0, 0)

/-- The text of the groups of a long address. -/
def longText (groups : List Nat) : String :=
  match groups with
  | [0, 0, 0, 0, 0, 0xffff, a, b] => "::ffff:" ++ dottedText [a / 256, a % 256, b / 256, b % 256]
  | _ =>
    let (start, length) := longestZeroRun groups
    if 1 < length then groupsText (groups.take start) ++ "::" ++
      groupsText (groups.drop (start + length))
    else groupsText groups

/-- The text of an address. -/
def text : SocketAddress → String
  | .v4 octets port => dottedText octets ++ ":" ++ toString port
  | .v6 groups scope port =>
    let scopeText := if scope = 0 then "" else "%" ++ toString scope
    "[" ++ longText groups ++ scopeText ++ "]:" ++ toString port

end SocketAddress

end ClusterWatch
