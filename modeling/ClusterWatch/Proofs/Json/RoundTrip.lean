import Mathlib.Tactic.SplitIfs
import ClusterWatch.Json.Reader
import ClusterWatch.Json.Writer

/-!
# Reading written JSON back

The compact text of a value made of strings and objects is read back as that value, whatever
characters stand in the strings and in the names of members. So the text tells the value.

* `IsTextual` — the values made of strings and objects.
* `Piece.Denotes`, `exists_piece` — the escape of a character is read as a piece that
  denotes the character.
* `readQuoted_escapes` — so the escapes of a string are read as the string.
* `IsTextual.readsBack`, `readMembers_charsOfMembers` — so are values and members, whatever
  stands behind them.
* `read?_compress`, `compress_inj` — the text of a value is read as the value, and different
  values have different texts.
-/

namespace ClusterWatch.Json

/-! ### Strings -/

/-- A digit is read back as its value. -/
theorem hexValue?_hexDigit : ∀ n < 16, Bytes.hexValue? (Bytes.hexDigit n) = some n := by
  decide

/-- A piece that stands for a character, whatever pieces follow. -/
def Piece.Denotes (piece : Piece) (c : Char) : Prop :=
  ∀ pieces, pairUnits? (piece :: pieces) = (pairUnits? pieces).map (c :: ·)

/-- A character denotes itself. -/
theorem Piece.denotes_char (c : Char) : (Piece.char c).Denotes c :=
  fun _ => rfl

/-- A code unit that is no surrogate stands for its character. -/
theorem Piece.denotes_unit {u : Nat} (hu : u < 0xD800) : (Piece.unit u).Denotes (Char.ofNat u) := by
  have hhigh : isHighSurrogate u = false := by
    simp only [isHighSurrogate, Bool.and_eq_false_iff, decide_eq_false_iff_not]
    omega
  have hlow : isLowSurrogate u = false := by
    simp only [isLowSurrogate, Bool.and_eq_false_iff, decide_eq_false_iff_not]
    omega
  rintro (_ | ⟨_ | v, rest⟩) <;> simp [pairUnits?, hhigh, hlow]

/-- A further piece read in front of others. -/
def withPiece (piece : Piece) (read : List Piece × List Char) : List Piece × List Char :=
  (piece :: read.1, read.2)

/-- An escape by a letter is read as the character that it stands for. -/
theorem readPieces_letter {letter c : Char} (h : letterEscape? letter = some c)
    (hletter : letter ≠ 'u') (rest : List Char) :
    readPieces ('\\' :: letter :: rest) = (readPieces rest).map (withPiece (.char c)) := by
  rw [readPieces]
  · rw [h]
    cases readPieces rest <;> rfl
  · rintro _ _ _ _ _ rfl
    exact absurd rfl hletter

/-- An escape by a number is read as that unit. -/
theorem readPieces_number {n : Nat} (hn : n < 256) (rest : List Char) :
    readPieces
      ('\\' :: 'u' :: '0' :: '0' :: Bytes.hexDigit (n / 16) :: Bytes.hexDigit (n % 16) :: rest) =
      (readPieces rest).map (withPiece (.unit n)) := by
  have hunit : unit? '0' '0' (Bytes.hexDigit (n / 16)) (Bytes.hexDigit (n % 16)) = some n := by
    rw [unit?, hexValue?_hexDigit (n / 16) (by omega), hexValue?_hexDigit (n % 16) (by omega)]
    refine congrArg some ?_
    change ((0 * 16 + 0) * 16 + n / 16) * 16 + n % 16 = n
    omega
  rw [readPieces, hunit]
  cases readPieces rest <;> rfl

/-- A character that needs no escape is read as itself. -/
theorem readPieces_plain {c : Char} (hquote : c ≠ '"') (hbackslash : c ≠ '\\')
    (hcontrol : ¬ c.toNat < 0x20) (rest : List Char) :
    readPieces (c :: rest) = (readPieces rest).map (withPiece (.char c)) := by
  rw [readPieces]
  · rw [if_neg (by simp [hbackslash, hcontrol])]
    cases readPieces rest <;> rfl
  -- no other form begins with the character
  · exact hquote
  · exact fun _ _ _ _ _ h _ => hbackslash h
  · exact fun _ _ h _ => hbackslash h

/-- The escape of a character is read as a piece that denotes the character. -/
theorem exists_piece (c : Char) :
    ∃ piece : Piece, piece.Denotes c ∧
      ∀ rest, readPieces (escapeChar c ++ rest) = (readPieces rest).map (withPiece piece) := by
  -- all escapes but that of a control character are a backslash and a letter
  have hletter {letter : Char} (h : letterEscape? letter = some c) (hne : letter ≠ 'u') :
      ∃ piece : Piece, piece.Denotes c ∧
        ∀ rest, readPieces (['\\', letter] ++ rest) = (readPieces rest).map (withPiece piece) :=
    ⟨.char c, Piece.denotes_char c, readPieces_letter h hne⟩
  rw [escapeChar]
  split_ifs with hquote hbackslash hbackspace hfeed hline hreturn htab hcontrol
  · exact hletter (by rw [hquote]; rfl) (by decide)
  · exact hletter (by rw [hbackslash]; rfl) (by decide)
  · exact hletter (by rw [hbackspace]; rfl) (by decide)
  · exact hletter (by rw [hfeed]; rfl) (by decide)
  · exact hletter (by rw [hline]; rfl) (by decide)
  · exact hletter (by rw [hreturn]; rfl) (by decide)
  · exact hletter (by rw [htab]; rfl) (by decide)
  · refine ⟨.unit c.toNat, ?_, readPieces_number (by omega)⟩
    have hdenotes := Piece.denotes_unit (u := c.toNat) (by omega)
    rwa [Char.ofNat_toNat] at hdenotes
  · exact ⟨.char c, Piece.denotes_char c, readPieces_plain hquote hbackslash hcontrol⟩

/-- The escapes of several characters are read as pieces that denote them, up to the
closing quote. -/
theorem exists_pieces (cs rest : List Char) :
    ∃ pieces, readPieces (cs.flatMap escapeChar ++ '"' :: rest) = some (pieces, rest) ∧
      pairUnits? pieces = some cs := by
  induction cs with
  | nil => exact ⟨[], rfl, rfl⟩
  | cons c cs ih =>
    obtain ⟨pieces, hread, hpaired⟩ := ih
    obtain ⟨piece, hdenotes, hescape⟩ := exists_piece c
    refine ⟨piece :: pieces, ?_, ?_⟩
    · -- the first escape is read as one piece
      rw [List.flatMap_cons, List.append_assoc, hescape, hread]
      rfl
    · -- and that piece is no half of a pair
      rw [hdenotes, hpaired]
      rfl

/-- A string in quotes is read as the string, after its opening quote. -/
theorem readQuoted_escapes (text : String) (rest : List Char) :
    readQuoted (text.toList.flatMap escapeChar ++ '"' :: rest) = some (some text, rest) := by
  obtain ⟨pieces, hread, hpaired⟩ := exists_pieces text.toList rest
  rw [readQuoted, hread, Option.map_some]
  simp only [hpaired, Option.map_some, String.ofList_toList]

/-- A quoted text is its escapes between quotation marks. -/
theorem quote_append (text : String) (rest : List Char) :
    quote text ++ rest = '"' :: (text.toList.flatMap escapeChar ++ '"' :: rest) := by
  simp [quote]

/-! ### Values -/

/-- A value made of strings and objects. -/
inductive IsTextual : Json → Prop where
  /-- A string. -/
  | str (text : String) : IsTextual (.str text)
  /-- An object whose members are made of strings and objects. -/
  | obj (members : List (String × Json)) (h : ∀ member ∈ members, IsTextual member.2) :
    IsTextual (.obj members)

/-- A value that is read from its characters, whatever stands behind them. A reader needs no more
calls for it than it has characters. -/
def ReadsBack (json : Json) : Prop :=
  ∀ (fuel : Nat) (rest : List Char), json.chars.length ≤ fuel →
    readValue fuel (json.chars ++ rest) = some (json, rest)

/-- A value that begins with a quotation mark is a string. -/
theorem readValue_quote (fuel : Nat) (cs : List Char) :
    readValue (fuel + 1) ('"' :: cs) =
      (readQuoted cs).map fun (text, left) => (ofString text, left) := by
  rw [readValue]
  rfl

/-- Two braces are read as an object without members. -/
theorem readValue_emptyObject (fuel : Nat) (rest : List Char) :
    readValue (fuel + 1) ('\x7b' :: '\x7d' :: rest) = some (.obj [], rest) := by
  rw [readValue]
  rfl

/-- An object with a member is read by its members, for these begin with a quote. -/
theorem readValue_object (fuel : Nat) (member : String × Json) (members : List (String × Json))
    (rest : List Char) :
    readValue (fuel + 1) ('\x7b' :: (charsOfMembers (member :: members) ++ rest)) =
      (readMembers fuel (charsOfMembers (member :: members) ++ rest)).map
        fun (members, left) => (ofMembers members, left) := by
  obtain ⟨cs, hcs⟩ : ∃ cs, charsOfMembers (member :: members) = '"' :: cs := by
    cases members <;> exact ⟨_, rfl⟩
  rw [hcs, readValue]
  rfl

/-- Members whose names are texts make an object. -/
theorem ofMembers_some (members : List (String × Json)) :
    ofMembers (members.map fun member => (some member.1, member.2)) = .obj members := by
  -- a single name that is no text would make the whole object unreadable
  have hnames : (members.map fun member => (some member.1, member.2)).mapM
      (fun member => member.1.map fun name => (name, member.2)) = some members := by
    induction members with
    | nil => rfl
    | cons member rest ih => simp [ih]
  simp only [ofMembers, hnames]

/-- There is no gap before a character that is none. -/
theorem skipGap_cons {c : Char} (h : isGap c = false) (cs : List Char) :
    skipGap (c :: cs) = c :: cs := by
  rw [skipGap, List.dropWhile_cons, h]
  rfl

/-- A member before a comma is read in front of those behind the comma. -/
theorem readMembers_next {fuel : Nat} {name : String} {cs rest left : List Char} {value : Json}
    {members : List (Option String × Json)}
    (hvalue : readValue fuel cs = some (value, ',' :: rest))
    (hrest : readMembers fuel rest = some (members, left)) :
    readMembers (fuel + 1) (quote name ++ ':' :: cs) =
      some ((some name, value) :: members, left) := by
  rw [quote_append, readMembers, skipGap_cons rfl]
  simp only [readQuoted_escapes, skipGap_cons (c := ':') rfl, hvalue,
    skipGap_cons (c := ',') rfl, hrest, Option.bind_eq_bind, Option.bind_some, Option.pure_def]

/-- A member before the closing brace is the last one. -/
theorem readMembers_last {fuel : Nat} {name : String} {cs left : List Char} {value : Json}
    (hvalue : readValue fuel cs = some (value, '\x7d' :: left)) :
    readMembers (fuel + 1) (quote name ++ ':' :: cs) = some ([(some name, value)], left) := by
  rw [quote_append, readMembers, skipGap_cons rfl]
  simp only [readQuoted_escapes, skipGap_cons (c := ':') rfl, hvalue,
    skipGap_cons (c := '\x7d') rfl, Option.bind_eq_bind, Option.bind_some, Option.pure_def]

/-- Members whose values are read back are read back themselves, up to the closing brace. -/
theorem readMembers_charsOfMembers {members : List (String × Json)}
    (hvalues : ∀ member ∈ members, ReadsBack member.2) (hne : members ≠ []) {fuel : Nat}
    (hfuel : (charsOfMembers members).length ≤ fuel) (rest : List Char) :
    readMembers fuel (charsOfMembers members ++ '\x7d' :: rest) =
      some (members.map fun member => (some member.1, member.2), rest) := by
  induction members generalizing fuel with
  | nil => exact absurd rfl hne
  | cons member members ih =>
    obtain ⟨name, value⟩ := member
    have hvalue : ReadsBack value := hvalues _ List.mem_cons_self
    -- a member is followed by the closing brace if it is the last one, or else by a comma
    cases members with
    | nil =>
      simp only [charsOfMembers, List.length_append, List.length_cons] at hfuel
      obtain ⟨fuel, rfl⟩ : ∃ calls, fuel = calls + 1 := ⟨fuel - 1, by omega⟩
      simp only [charsOfMembers, List.append_assoc, List.cons_append]
      exact readMembers_last (hvalue fuel _ (by omega))
    | cons next members =>
      simp only [charsOfMembers, List.length_append, List.length_cons] at hfuel
      obtain ⟨fuel, rfl⟩ : ∃ calls, fuel = calls + 1 := ⟨fuel - 1, by omega⟩
      simp only [charsOfMembers, List.append_assoc, List.cons_append]
      refine readMembers_next (hvalue fuel _ (by omega)) ?_
      exact ih (fun other hother => hvalues other (List.mem_cons_of_mem _ hother))
        (List.cons_ne_nil _ _) (by omega)

/-- Values made of strings and objects are read back. -/
theorem IsTextual.readsBack {json : Json} (h : json.IsTextual) : ReadsBack json := by
  induction h with
  | str text =>
    intro fuel rest hfuel
    simp only [chars, quote, List.length_append, List.length_cons] at hfuel
    obtain ⟨fuel, rfl⟩ : ∃ calls, fuel = calls + 1 := ⟨fuel - 1, by omega⟩
    rw [chars, quote_append, readValue_quote, readQuoted_escapes]
    rfl
  | obj members h ih =>
    intro fuel rest hfuel
    simp only [chars, List.length_append, List.length_cons] at hfuel
    obtain ⟨fuel, rfl⟩ : ∃ calls, fuel = calls + 1 := ⟨fuel - 1, by omega⟩
    -- an object without members has no closing part of its own
    cases members with
    | nil => exact readValue_emptyObject fuel rest
    | cons member members =>
      rw [chars, List.cons_append, List.cons_append, List.append_assoc, List.singleton_append,
        readValue_object, readMembers_charsOfMembers ih (List.cons_ne_nil _ _) (by omega),
        Option.map_some]
      simp only [ofMembers_some]

/-- The text of a value made of strings and objects is read as that value. -/
theorem read?_compress {json : Json} (h : json.IsTextual) : read? json.compress = some json := by
  have hread := h.readsBack (2 * json.chars.length + 2) [] (by omega)
  rw [List.append_nil] at hread
  rw [read?, compress, String.toList_ofList, hread]
  rfl

/-- Different values made of strings and objects have different texts. -/
theorem compress_inj {one other : Json} (hone : one.IsTextual) (hother : other.IsTextual) :
    one.compress = other.compress ↔ one = other := by
  constructor
  · intro htext
    have hread := read?_compress hone
    rw [htext, read?_compress hother] at hread
    exact (Option.some.inj hread).symm
  · rintro rfl
    rfl

end ClusterWatch.Json
