import ClusterWatch.Mesh.Frame
import ClusterWatch.Proofs.Mesh.Messages

/-!
# Reading frames back

A frame states the length of its payload first. So a message is read back from its frame, whatever
bytes stand behind it, and a frame of which bytes are missing at the end is refused with the numbers
of bytes that show why.

* `payload_lengthBytes` — what is read behind the four bytes of a length.
* `decode_encode_append`, `decode_take_encode` — a whole frame, and the beginning of one.
* `FramesReadBack`, `frames_read_back` — what holds of the frames of a type of messages, and that
  it does of the requests and replies of the mesh controller.
-/

namespace ClusterWatch.Frame

open Wire

/-! ### Frames of payloads -/

theorem length_lengthBytes (n : Nat) : (lengthBytes n).length = 4 := rfl

/-- Behind the four bytes of a length, as many bytes are read, if there are so many. -/
theorem payload_lengthBytes {n : Nat} (hn : n < UInt32.size) (rest : Bytes) :
    payload (lengthBytes n ++ rest) =
      if rest.length < n then .error (.truncated n rest.length) else .ok (rest.take n) := by
  -- the four bytes are the digits of the length to the base 256
  have hdeclared : (UInt8.ofNat n).toNat + 256 * ((UInt8.ofNat (n / 256)).toNat +
      256 *
        ((UInt8.ofNat (n / 256 / 256)).toNat + 256 * (UInt8.ofNat (n / 256 / 256 / 256)).toNat)) =
          n := by
    change n < 4294967296 at hn
    simp only [UInt8.toNat_ofNat']
    omega
  simp only [lengthBytes, List.cons_append, List.nil_append, payload, hdeclared]

/-- A payload whose length takes 32 bits is framed with this length. -/
theorem ofPayload_eq {bs : Bytes} (hlength : bs.length < UInt32.size) :
    ofPayload bs = lengthBytes bs.length ++ bs := by
  rw [ofPayload, Nat.min_eq_left (by omega)]

/-- The payload of a frame is read, whatever bytes stand behind the frame. -/
theorem payload_ofPayload_append {bs : Bytes} (hlength : bs.length < UInt32.size) (rest : Bytes) :
    payload (ofPayload bs ++ rest) = .ok bs := by
  rw [ofPayload_eq hlength, List.append_assoc, payload_lengthBytes hlength, List.take_left, if_neg]
  rw [List.length_append]
  omega

/-- The beginning of a frame is too short for a length, or lacks bytes of the payload. -/
theorem payload_take_ofPayload {bs : Bytes} (hlength : bs.length < UInt32.size) {k : Nat}
    (hk : k < (ofPayload bs).length) :
    payload ((ofPayload bs).take k) =
      .error (if k < 4 then .tooShort k else .truncated bs.length (k - 4)) := by
  rw [ofPayload_eq hlength] at hk ⊢
  have hframe : k < 4 + bs.length := by
    simpa only [List.length_append, length_lengthBytes] using hk
  split
  next hshort =>
    -- fewer than four bytes are left, one case for each number of them
    rw [List.take_append_of_le_length (by rw [length_lengthBytes]; omega)]
    obtain rfl | rfl | rfl | rfl : k = 0 ∨ k = 1 ∨ k = 2 ∨ k = 3 := by omega
    all_goals rfl
  next hlong =>
    obtain ⟨available, rfl⟩ : ∃ available, k = 4 + available := ⟨k - 4, by omega⟩
    have htake : (bs.take available).length = available := by
      rw [List.length_take]
      omega
    rw [show 4 = (lengthBytes bs.length).length from rfl, List.take_length_add_append,
      payload_lengthBytes hlength, htake, if_pos (by omega), Nat.add_sub_cancel_left]

/-! ### Frames of messages -/

variable {α : Type} [WireMessage α]

/-- A message that is read back from its bytes is read back from its frame, whatever bytes
stand behind it. -/
theorem decode_encode_append {levels : Nat} (h : WireMessage.ReadsBack α levels)
    (hlevels : levels < WireMessage.maxDepth) {message : α}
    (hlength : (WireMessage.encode message).length < UInt32.size) (rest : Bytes) :
    decode (encode message ++ rest) = .ok message := by
  obtain ⟨last, hleads⟩ := h WireMessage.maxDepth hlevels message
  have hmerge := hleads.merge_eq (by decide) (Nat.lt_trans hlength (by decide))
  rw [decode, encode, payload_ofPayload_append hlength]
  simp only [WireMessage.decode?, hmerge]

/-- The beginning of a frame is no frame of any message. -/
theorem decode_take_encode {message : α}
    (hlength : (WireMessage.encode message).length < UInt32.size) {k : Nat}
    (hk : k < (encode message).length) :
    (decode ((encode message).take k) : Except FrameError α) =
      .error (if k < 4 then .tooShort k
        else .truncated (WireMessage.encode message).length (k - 4)) := by
  rw [encode] at hk ⊢
  rw [decode, payload_take_ofPayload hlength hk]

/-- The frames of a type of messages, as long as the length of the payload takes 32 bits. -/
structure FramesReadBack (α : Type) [WireMessage α] : Prop where
  /-- The payload is made of the written forms of fields, in the order of their numbers. -/
  written : ∀ message : α, (WireMessage.encode message).length < UInt32.size →
    ∃ last fields, Written last (WireMessage.encode message) fields
  /-- A message is read back from its frame, whatever bytes stand behind the frame. -/
  whole : ∀ (message : α) (rest : Bytes), (WireMessage.encode message).length < UInt32.size →
    decode (encode message ++ rest) = .ok message
  /-- The beginning of a frame yields no message, but says how many bytes there are. -/
  beginning : ∀ (message : α) (k : Nat), (WireMessage.encode message).length < UInt32.size →
    k < (encode message).length →
    (decode ((encode message).take k) : Except FrameError α) =
      .error (if k < 4 then .tooShort k
        else .truncated (WireMessage.encode message).length (k - 4))

/-- Messages that are read back from their bytes are so from their frames. -/
theorem framesReadBack {levels : Nat} (h : WireMessage.ReadsBack α levels)
    (hlevels : levels < WireMessage.maxDepth) : FramesReadBack α where
  written message hlength := by
    obtain ⟨last, hleads⟩ := h WireMessage.maxDepth hlevels message
    obtain ⟨fields, hwritten, -⟩ := hleads (Nat.lt_trans hlength (by decide))
    exact ⟨last, fields, hwritten⟩
  whole _ rest hlength := decode_encode_append h hlevels hlength rest
  beginning _ _ hlength hk := decode_take_encode hlength hk

/-- The requests to the mesh controller and its replies are read back from their frames. -/
theorem frames_read_back :
    FramesReadBack StatSummaryRequest ∧ FramesReadBack EdgesRequest ∧
      FramesReadBack StatSummaryResponse ∧ FramesReadBack EdgesResponse :=
  ⟨framesReadBack WireMessage.readsBack_statSummaryRequest (by decide),
    framesReadBack WireMessage.readsBack_edgesRequest (by decide),
    framesReadBack WireMessage.readsBack_statSummaryResponse (by decide),
    framesReadBack WireMessage.readsBack_edgesResponse (by decide)⟩

/-- A reply with one table of one row, in which the statistics are there but blank, is read
back from its frame with a byte behind it. Of the first nine bytes of the frame, five are left
of the payload. -/
theorem read_back_nested_reply :
    let row : StatRow := ⟨none, "1m", 300, 0, some ⟨0, 0, 0, 0, 0⟩, 0⟩
    let reply : StatSummaryResponse := ⟨some ⟨[⟨some ⟨[row]⟩⟩]⟩, none⟩
    (WireMessage.encode reply).length < UInt32.size ∧ 9 < (encode reply).length ∧
      decode (encode reply ++ [255]) = .ok reply ∧
      (decode ((encode reply).take 9) : Except FrameError StatSummaryResponse) =
        .error (.truncated 17 5) := by
  intro row reply
  have hsize : (WireMessage.encode reply).length = 17 := by decide +kernel
  have hlength : (WireMessage.encode reply).length < UInt32.size := by
    rw [hsize]
    decide
  have hlong : 9 < (encode reply).length := by decide +kernel
  -- four bytes of the length and five of the payload are there
  have hbeginning := frames_read_back.2.2.1.beginning reply 9 hlength hlong
  rw [hsize] at hbeginning
  exact ⟨hlength, hlong, frames_read_back.2.2.1.whole reply [255] hlength, hbeginning⟩

end ClusterWatch.Frame
