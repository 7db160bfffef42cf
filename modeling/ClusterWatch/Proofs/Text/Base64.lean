import ClusterWatch.Text.Base64

/-!
# Reading base64 back

Four letters hold the bits of three bytes, six to each, so that every byte string can be read back
from its base64 text.

* `letterValue?_letter` — a letter tells its six-bit number.
* `decode?_encode` — the base64 text of a byte string denotes that byte string.
* `encode_injective` — different byte strings have different base64 texts.
-/

namespace ClusterWatch.Base64

theorem letterValue?_letter : ∀ n < 64, letterValue? (letter n) = some n := by
  decide

/-- No letter is the padding sign. -/
theorem letter_ne_padding : ∀ n < 64, letter n ≠ '=' := by
  decide

/-- Four letters, the last of which is no padding, are read as three bytes. -/
theorem decodeChars?_quad {x y z w : Nat} (hx : x < 64) (hy : y < 64) (hz : z < 64) (hw : w < 64)
    (rest : List Char) :
    decodeChars? (letter x :: letter y :: letter z :: letter w :: rest) =
      (decodeChars? rest).map fun tail =>
        UInt8.ofNat (x * 4 + y / 16) :: UInt8.ofNat (y % 16 * 16 + z / 4) ::
          UInt8.ofNat (z % 4 * 64 + w) :: tail := by
  rw [decodeChars?]
  · rw [letterValue?_letter x hx, letterValue?_letter y hy, letterValue?_letter z hz,
      letterValue?_letter w hw]
    cases decodeChars? rest <;> rfl
  -- the forms with padding do not apply
  · exact fun _ hpadding _ => letter_ne_padding w hw hpadding
  · exact fun hpadding _ => letter_ne_padding w hw hpadding

/-- Three letters and a padding sign are read as two bytes, if no bits are left. -/
theorem decodeChars?_triple {x y z : Nat} (hx : x < 64) (hy : y < 64) (hz : z < 64)
    (hunused : z % 4 = 0) :
    decodeChars? [letter x, letter y, letter z, '='] =
      some [UInt8.ofNat (x * 4 + y / 16), UInt8.ofNat (y % 16 * 16 + z / 4)] := by
  rw [decodeChars?]
  · rw [letterValue?_letter x hx, letterValue?_letter y hy, letterValue?_letter z hz]
    exact if_pos hunused
  · exact letter_ne_padding z hz

/-- Two letters and two padding signs are read as one byte, if no bits are left. -/
theorem decodeChars?_pair {x y : Nat} (hx : x < 64) (hy : y < 64) (hunused : y % 16 = 0) :
    decodeChars? [letter x, letter y, '=', '='] = some [UInt8.ofNat (x * 4 + y / 16)] := by
  rw [decodeChars?, letterValue?_letter x hx, letterValue?_letter y hy]
  exact if_pos hunused

/-- The letters of a byte string are read as that byte string, three bytes at a time. -/
theorem decodeChars?_encodeChars (bs : Bytes) : decodeChars? (encodeChars bs) = some bs := by
  -- the six bits of the letters add up to the eight bits of the bytes again
  have hbyte {b : UInt8} {n : Nat} (h : n = b.toNat) : UInt8.ofNat n = b := by
    rw [h, UInt8.ofNat_toNat]
  fun_induction encodeChars bs with
  | case1 => rfl
  | case2 a =>
    have ha := a.toNat_lt
    rw [decodeChars?_pair (by omega) (by omega) (by omega), hbyte (b := a) (by omega)]
  | case3 a b =>
    have ha := a.toNat_lt
    have hb := b.toNat_lt
    rw [decodeChars?_triple (by omega) (by omega) (by omega) (by omega), hbyte (b := a) (by omega),
      hbyte (b := b) (by omega)]
  | case4 a b c rest ih =>
    have ha := a.toNat_lt
    have hb := b.toNat_lt
    have hc := c.toNat_lt
    rw [decodeChars?_quad (by omega) (by omega) (by omega) (by omega), ih, Option.map_some,
      hbyte (b := a) (by omega), hbyte (b := b) (by omega), hbyte (b := c) (by omega)]

/-- The base64 text of a byte string denotes that byte string. -/
theorem decode?_encode (bs : Bytes) : decode? (encode bs) = some bs := by
  rw [decode?, encode, String.toList_ofList, decodeChars?_encodeChars]

/-- Different byte strings have different base64 texts. -/
theorem encode_injective : Function.Injective encode := by
  intro one other h
  have hone := decode?_encode one
  rw [h, decode?_encode] at hone
  exact (Option.some.inj hone).symm

end ClusterWatch.Base64
