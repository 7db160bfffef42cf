import ClusterWatch.Proofs.Mesh.FieldForms
import ClusterWatch.Proofs.Mesh.Framing

/-!
# Undeclared fields

The mesh controller may write fields that a type of messages does not declare. They make no
difference wherever they stand between others: what is read with them is what is read without them,
or nothing in both cases.

* `WireMessage.Declares` — the numbers of the fields that a type of messages makes use of.
* `WireMessage.merge_append_undeclared` — a field of another number may be left out.
* `Frame.ToleratesUndeclared`, `Frame.tolerates_undeclared` — the same of frames, and that it
  holds of the requests and the replies.
-/

namespace ClusterWatch

open Wire

namespace WireMessage

/-- The numbers of the fields that messages of a type declare. -/
structure Declares (α : Type) [WireMessage α] (declared : List Nat) : Prop where
  /-- Fields with other numbers leave a message as it is, whatever their values are. -/
  ignored : ∀ (depth : Nat) (message : α) (field : Field), field.number ∉ declared →
    mergeField depth message field = some message
  /-- Fields with these numbers are refused where their values are groups, four bytes
  or eight bytes. -/
  used : ∀ (depth : Nat) (message : α), ∀ number ∈ declared,
    mergeField depth message ⟨number, .other⟩ = none

/-- Requests for statistics declare four tags. -/
theorem declares_statSummaryRequest : Declares StatSummaryRequest [1, 2, 6, 7] where
  ignored depth message field hfield := by
    simp only [mergeField]
    split <;> simp_all
  used depth message := by simp [mergeField, Value.message?, Value.text?, Value.truth?]

/-- Requests for connections declare one. -/
theorem declares_edgesRequest : Declares EdgesRequest [1] where
  ignored depth message field hfield := by
    simp only [mergeField]
    split <;> simp_all
  used depth message := by simp [mergeField, Value.message?]

/-- Answers to requests for statistics declare two. -/
theorem declares_statSummaryResponse : Declares StatSummaryResponse [1, 2] where
  ignored depth message field hfield := by
    simp only [mergeField]
    split <;> simp_all
  used depth message := by simp [mergeField, Value.message?]

/-- So do answers to requests for connections. -/
theorem declares_edgesResponse : Declares EdgesResponse [1, 2] where
  ignored depth message field hfield := by
    simp only [mergeField]
    split <;> simp_all
  used depth message := by simp [mergeField, Value.message?]

variable {α : Type} [WireMessage α] {declared : List Nat}

/-- Behind complete fields, a field of an undeclared number may be left out. -/
theorem merge_append_undeclared (h : Declares α declared) {depth : Nat} (message : α)
    {before form : Bytes} {field : Field} (hbefore : (readFields depth before).isSome)
    (hform : IsField depth field form) (hfield : field.number ∉ declared) (rest : Bytes) :
    merge depth message (before ++ form ++ rest) = merge depth message (before ++ rest) := by
  obtain ⟨fields, hfields⟩ := Option.isSome_iff_exists.mp hbefore
  have hread := readFields_append_of_eq_some hfields
  rw [merge, merge, List.append_assoc, hread, hread, readFields_append hform]
  cases readFields depth rest with
  | none => rfl
  | some others =>
    -- the field leaves the message as the fields before it have made it
    have hmerge (before : α) : mergeField depth before field = some before :=
      h.ignored depth before field hfield
    simp only [Option.map_some, Option.bind_some, List.foldlM_append, List.foldlM_cons, hmerge,
      Option.bind_eq_bind]

/-- Bytes from which a message is decoded consist of fields. -/
theorem isSome_readFields {bs : Bytes} (h : (decode? bs : Option α).isSome) :
    (readFields maxDepth bs).isSome := by
  rw [decode?, merge] at h
  exact Option.isSome_of_isSome_bind h

end WireMessage

namespace Frame

/-- The frames of a type of messages that declare fields of some numbers, where there is a field of
another number. -/
structure ToleratesUndeclared (α : Type) [WireMessage α] (declared : List Nat) : Prop where
  /-- The messages make use of these numbers, and of no others. -/
  declares : WireMessage.Declares α declared
  /-- Behind bytes that hold a message, a form of a field that is not declared makes no difference
  to what is read of a frame, whatever bytes come after it: it is the same message, or the payload
  is malformed either way. -/
  tolerated : ∀ (before form rest : Bytes) (field : Field),
    (WireMessage.decode? before : Option α).isSome →
    IsField WireMessage.maxDepth field form → field.number ∉ declared →
    ∀ full bare : Bytes, payload full = .ok (before ++ form ++ rest) →
      payload bare = .ok (before ++ rest) → (decode full : Except FrameError α) = decode bare ∧
        ((∃ message : α, decode bare = .ok message) ∨
          (decode bare : Except FrameError α) = .error .malformed)

variable {α : Type} [WireMessage α]

/-- What is read of a frame is what its payload holds. -/
theorem decode_of_payload {frame bs : Bytes} (h : payload frame = .ok bs) :
    (decode frame : Except FrameError α) =
      (WireMessage.decode? bs).elim (.error .malformed) .ok := by
  simp only [decode, h]
  cases (WireMessage.decode? bs : Option α) <;> rfl

/-- A kind of message that ignores the tags it does not declare is decoded the same with
such a field. -/
theorem toleratesUndeclared {declared : List Nat} (h : WireMessage.Declares α declared) :
    ToleratesUndeclared α declared where
  declares := h
  tolerated before form rest field hbefore hform hfield full bare hfull hbare := by
    -- the field is read in its place and merged into nothing
    have hmerge : (WireMessage.decode? (before ++ form ++ rest) : Option α) =
        WireMessage.decode? (before ++ rest) :=
      WireMessage.merge_append_undeclared h _
        (WireMessage.isSome_readFields hbefore) hform hfield rest
    rw [decode_of_payload hfull, decode_of_payload hbare, hmerge]
    refine ⟨rfl, ?_⟩
    cases (WireMessage.decode? (before ++ rest) : Option α) with
    | some message => exact .inl ⟨message, rfl⟩
    | none => exact .inr rfl

/-- The frames of the requests to the mesh controller and of its replies tolerate the fields that
these do not declare. -/
theorem tolerates_undeclared :
    ToleratesUndeclared StatSummaryRequest [1, 2, 6, 7] ∧ ToleratesUndeclared EdgesRequest [1] ∧
      ToleratesUndeclared StatSummaryResponse [1, 2] ∧ ToleratesUndeclared EdgesResponse [1, 2] :=
  ⟨toleratesUndeclared WireMessage.declares_statSummaryRequest,
    toleratesUndeclared WireMessage.declares_edgesRequest,
    toleratesUndeclared WireMessage.declares_statSummaryResponse,
    toleratesUndeclared WireMessage.declares_edgesResponse⟩

/-- Behind a reply, a group of an undeclared number is ignored in which another group is nested,
which holds a varint that is longer than it need be. -/
theorem tolerates_nested_group :
    let reply : EdgesResponse := ⟨none, some ⟨none, "busy"⟩⟩
    let group : Bytes := [83, 91, 8, 128, 0, 92, 84]
    IsField WireMessage.maxDepth ⟨10, .other⟩ group ∧
      decode (ofPayload (WireMessage.encode reply ++ group)) = .ok reply := by
  intro reply group
  have hkey (number : Nat) (type : WireType) {b : UInt8} (hb : b.toNat = 8 * number + type.code)
      (hpos : 0 < number ∧ number < 15) : IsKey number type [b] := by
    have hcode := type.code_lt
    have hvalue : sevens [b] = 8 * number + type.code := (sevens_singleton (by omega)).trans hb
    have hlt : 8 * number + type.code < UInt32.size :=
      Nat.lt_trans (by omega) (by decide : 128 < UInt32.size)
    exact ⟨⟨.last (by omega), by simp, hvalue, Nat.lt_trans hlt (by decide)⟩, hpos.1, hlt⟩
  -- the varint has a second byte without need
  have hzero : IsVarint 0 [128, 0] :=
    ⟨.more (by decide) (.last (by decide)), by decide, rfl, by decide⟩
  have hnumber : IsField 98 ⟨1, .varint 0⟩ [8, 128, 0] :=
    .varint (hkey 1 .varint rfl (by decide)) hzero
  -- the groups are put together from the innermost one
  have hinner : IsField 99 ⟨11, .other⟩ [91, 8, 128, 0, 92] := by
    have hparts : ∀ part ∈ [((⟨1, .varint 0⟩ : Field), ([8, 128, 0] : Bytes))],
        IsField 98 part.1 part.2 := by
      simpa using hnumber
    exact .group (hkey 11 .groupStart rfl (by decide)) hparts (hkey 11 .groupEnd rfl (by decide))
  have hgroup : IsField WireMessage.maxDepth ⟨10, .other⟩ group := by
    have hparts : ∀ part ∈ [((⟨11, .other⟩ : Field), ([91, 8, 128, 0, 92] : Bytes))],
        IsField 99 part.1 part.2 := by
      simpa using hinner
    exact .group (hkey 10 .groupStart rfl (by decide)) hparts (hkey 10 .groupEnd rfl (by decide))
  have hread : WireMessage.decode? (WireMessage.encode reply) = some reply := by
    obtain ⟨last, hleads⟩ :=
      WireMessage.readsBack_edgesResponse WireMessage.maxDepth (by decide) reply
    exact hleads.merge_eq (by decide) (by decide +kernel)
  have hbefore :
      (WireMessage.decode? (WireMessage.encode reply) : Option EdgesResponse).isSome := by
    rw [hread]
    rfl
  have hbare : payload (encode reply) = .ok (WireMessage.encode reply) := by decide +kernel
  obtain ⟨hsame, -⟩ :=
    tolerates_undeclared.2.2.2.tolerated (WireMessage.encode reply) group [] ⟨10, .other⟩
      hbefore hgroup (by decide) (ofPayload (WireMessage.encode reply ++ group)) (encode reply)
      (by decide +kernel) hbare
  exact ⟨hgroup, by rw [hsame, decode_of_payload hbare, hread]; rfl⟩

end Frame

end ClusterWatch
