import Mathlib.Data.List.Induction
import ClusterWatch.Mesh.Message
import ClusterWatch.Proofs.Mesh.WrittenFields

/-!
# Reading written messages back

The bytes of a message are the written forms of its fields, in the order of their numbers. Merged
one after another into a blank message, the fields make up the message again: every field sets what
is still blank of it.

* `WireMessage.Leads` — bytes hold fields that lead from one message to another.
* `Leads.text`, `Leads.number`, `Leads.truth`, `Leads.option`, `Leads.list` — one more field,
  by what it holds.
* `WireMessage.ReadsBack` — a type of messages that are read back from their bytes.
* `readsBack_statSummaryRequest`, `readsBack_edgesRequest`, `readsBack_statSummaryResponse`,
  `readsBack_edgesResponse` — the requests and the replies are, with all that is nested in them.
-/

namespace ClusterWatch

open Wire

namespace WireMessage

variable {α β : Type} [WireMessage α] [WireMessage β]

/-! ### Bytes that lead from one message to another -/

/-- Bytes, unless there are too many to state their length, hold fields with numbers up to the last
one that lead from a message to another when they are merged into it in order. -/
def Leads (depth last : Nat) (before after : α) (bs : Bytes) : Prop :=
  bs.length < UInt64.size →
    ∃ fields, Written last bs fields ∧ fields.foldlM (mergeField depth) before = some after

/-- Messages of a type, in which messages and groups are nested no deeper than some levels, are read
back from their bytes: these lead to the message from a blank one. -/
def ReadsBack (α : Type) [WireMessage α] (levels : Nat) : Prop :=
  ∀ depth, levels < depth →
    ∀ message : α, ∃ last, Leads depth last blank message (encode message)

/-- Bytes that lead from one message to another are read as the other when they are merged
into the first. -/
theorem Leads.merge_eq {depth last : Nat} (hdepth : depth ≠ 0) {before after : α} {bs : Bytes}
    (h : Leads depth last before after bs) (hlength : bs.length < UInt64.size) :
    merge depth before bs = some after := by
  obtain ⟨fields, hwritten, hfields⟩ := h hlength
  rw [merge, hwritten.readFields hdepth hlength, Option.bind_some, hfields]

/-- No bytes lead to the same message. -/
theorem leads_nil (depth : Nat) (message : α) : Leads depth 0 message message [] :=
  fun _ => ⟨[], written_nil, rfl⟩

variable {depth last : Nat} {before middle after : α} {bs : Bytes}

/-- What is written in the order of tags up to one of them is so up to a greater one. -/
theorem Leads.mono (h : Leads depth last before after bs) {next : Nat} (hnext : last ≤ next) :
    Leads depth next before after bs := by
  intro hlength
  obtain ⟨fields, hwritten, hfields⟩ := h hlength
  exact ⟨fields, hwritten.mono hnext, hfields⟩

/-- A field that is merged leads on. -/
theorem Leads.concat (h : Leads depth last before middle bs) (field : Field)
    (hfield : field.IsWritten) (hlast : last ≤ field.number)
    (hmerge : (bs ++ field.bytes).length < UInt64.size →
      mergeField depth middle field = some after) :
    Leads depth field.number before after (bs ++ field.bytes) := by
  intro hlength
  -- what is written so far is shorter, so that its fields are read
  have hbs : bs.length < UInt64.size := by
    rw [List.length_append] at hlength
    omega
  obtain ⟨fields, hwritten, hfields⟩ := h hbs
  refine ⟨fields ++ [field], hwritten.concat hfield hlast, ?_⟩
  rw [List.foldlM_append, hfields]
  simpa using hmerge hlength

/-! ### One more field -/

section Next

variable (tag : Nat)

/-- The field of a text sets the text. -/
theorem Leads.text (h : Leads depth last before middle bs) (hlast : last < tag) (hlt : tag < 16)
    (set : String → α) (hblank : set "" = middle)
    (hmerge : ∀ text,
      mergeField depth middle ⟨tag, .bytes (Bytes.ofText text)⟩ = some (set text))
    (text : String) : Leads depth tag before (set text) (bs ++ textField tag text) := by
  rw [textField]
  split
  -- an empty text is not written, and is the one that a blank message has
  next hempty =>
    rw [hempty, hblank, List.append_nil]
    exact h.mono (Nat.le_of_lt hlast)
  next =>
    exact h.concat ⟨tag, .bytes (Bytes.ofText text)⟩
      ⟨Nat.zero_lt_of_lt hlast, hlt, by simp, by simp⟩ (Nat.le_of_lt hlast) fun _ => hmerge text

/-- The field of a number sets the number. -/
theorem Leads.number (h : Leads depth last before middle bs) (hlast : last < tag) (hlt : tag < 16)
    (set : UInt64 → α) (hblank : set 0 = middle)
    (hmerge : ∀ n, mergeField depth middle ⟨tag, .varint n⟩ = some (set n)) (n : UInt64) :
    Leads depth tag before (set n) (bs ++ numberField tag n) := by
  rw [numberField]
  split
  -- zero is not written, and is the number that a blank message has
  next hzero =>
    rw [hzero, hblank, List.append_nil]
    exact h.mono (Nat.le_of_lt hlast)
  next hnonzero =>
    exact h.concat ⟨tag, .varint n⟩
      ⟨Nat.zero_lt_of_lt hlast, hlt, by simp, by simpa using hnonzero⟩ (Nat.le_of_lt hlast)
      fun _ => hmerge n

/-- The field of a truth value sets the truth value. -/
theorem Leads.truth (h : Leads depth last before middle bs) (hlast : last < tag) (hlt : tag < 16)
    (set : Bool → α) (hblank : set false = middle)
    (hmerge : mergeField depth middle ⟨tag, .varint 1⟩ = some (set true)) (b : Bool) :
    Leads depth tag before (set b) (bs ++ truthField tag b) := by
  cases b with
  | false =>
    rw [hblank]
    exact (List.append_nil bs).symm ▸ h.mono (Nat.le_of_lt hlast)
  | true =>
    exact h.concat ⟨tag, .varint 1⟩
      ⟨Nat.zero_lt_of_lt hlast, hlt, by simp, by simp⟩ (Nat.le_of_lt hlast) fun _ => hmerge

/-- A message that is nested in readable bytes is read back. -/
theorem ReadsBack.merge_encode {tag levels : Nat} (h : ReadsBack β levels)
    (hdepth : levels + 1 < depth) {nested : β}
    (hlength : (bs ++ Field.bytes ⟨tag, .bytes (encode nested)⟩).length < UInt64.size) :
    merge (depth - 1) blank (encode nested) = some nested := by
  obtain ⟨last, hleads⟩ := h (depth - 1) (by omega) nested
  refine hleads.merge_eq (by omega) (Nat.lt_of_le_of_lt ?_ hlength)
  simp only [Field.bytes, bytesField, List.length_append]
  omega

/-- The field of a nested message sets the message. -/
theorem Leads.option {levels : Nat} (hnested : ReadsBack β levels) (hdepth : levels + 1 < depth)
    (h : Leads depth last before middle bs) (hlast : last < tag) (hlt : tag < 16)
    (set : Option β → α) (hblank : set none = middle)
    (hmerge : ∀ nested : β, merge (depth - 1) blank (encode nested) = some nested →
      mergeField depth middle ⟨tag, .bytes (encode nested)⟩ = some (set (some nested)))
    (nested : Option β) : Leads depth tag before (set nested) (bs ++ optionField tag nested) := by
  cases nested with
  | none =>
    rw [hblank, optionField, List.append_nil]
    exact h.mono (Nat.le_of_lt hlast)
  | some nested =>
    exact h.concat ⟨tag, .bytes (encode nested)⟩
      ⟨Nat.zero_lt_of_lt hlast, hlt, by simp, by simp⟩ (Nat.le_of_lt hlast)
      fun hlength => hmerge nested (hnested.merge_encode hdepth hlength)

/-- The fields of a list of nested messages append the messages one by one. -/
theorem Leads.list {levels : Nat} (hnested : ReadsBack β levels) (hdepth : levels + 1 < depth)
    (h : Leads depth last before middle bs) (hlast : last < tag) (hlt : tag < 16)
    (set : List β → α) (hblank : set [] = middle)
    (hmerge : ∀ (earlier : List β) (nested : β),
      merge (depth - 1) blank (encode nested) = some nested →
      mergeField depth
        (set earlier) ⟨tag, .bytes (encode nested)⟩ = some (set (earlier ++ [nested])))
    (messages : List β) :
    Leads depth tag before (set messages) (bs ++ listField tag messages) := by
  -- one message after another, from the end
  induction messages using List.reverseRecOn with
  | nil =>
    rw [hblank, listField, List.flatMap_nil, List.append_nil]
    exact h.mono (Nat.le_of_lt hlast)
  | append_singleton earlier nested ih =>
    rw [listField, List.flatMap_append, List.flatMap_singleton, ← List.append_assoc]
    exact ih.concat ⟨tag, .bytes (encode nested)⟩
      ⟨Nat.zero_lt_of_lt hlast, hlt, by simp, by simp⟩ (Nat.le_refl _)
      fun hlength => hmerge earlier nested (hnested.merge_encode hdepth hlength)

end Next

/-! ### The messages -/

/-- Resources are read back. -/
theorem readsBack_meshResource : ReadsBack MeshResource 0 := by
  intro depth _ m
  -- one field after another, in the order of the tags, from the blank message on
  have hns := (leads_nil depth ⟨"", "", ""⟩).text 1 (by decide) (by decide)
    (fun ns => (⟨ns, "", ""⟩ : MeshResource)) rfl (by simp [mergeField, Value.text?]) m.ns
  have htype := hns.text 2 (by decide) (by decide)
    (fun type => ⟨m.ns, type, ""⟩) rfl (by simp [mergeField, Value.text?]) m.type
  have hname := htype.text 3 (by decide) (by decide)
    (fun name => ⟨m.ns, m.type, name⟩) rfl (by simp [mergeField, Value.text?]) m.name
  exact ⟨3, hname⟩

/-- Selections are read back, with the resource in them one level down. -/
theorem readsBack_resourceSelection : ReadsBack ResourceSelection 1 := by
  intro depth hdepth m
  -- the resource is a message of its own, one level down
  have hresource := Leads.option 1 readsBack_meshResource hdepth (leads_nil depth ⟨none, ""⟩)
    (by decide) (by decide) (fun resource => (⟨resource, ""⟩ : ResourceSelection)) rfl
    (fun nested hnested => by simp [mergeField, Value.message?, hnested]) m.resource
  have hselector := hresource.text 2 (by decide) (by decide)
    (fun labelSelector => ⟨m.resource, labelSelector⟩) rfl (by simp [mergeField, Value.text?])
    m.labelSelector
  exact ⟨2, hselector⟩

/-- Errors about resources are read back. -/
theorem readsBack_resourceError : ReadsBack ResourceError 1 := by
  intro depth hdepth m
  have hresource := Leads.option 1 readsBack_meshResource hdepth (leads_nil depth ⟨none, ""⟩)
    (by decide) (by decide) (fun resource => (⟨resource, ""⟩ : ResourceError)) rfl
    (fun nested hnested => by simp [mergeField, Value.message?, hnested]) m.resource
  have herror := hresource.text 2 (by decide) (by decide)
    (fun error => ⟨m.resource, error⟩) rfl (by simp [mergeField, Value.text?]) m.error
  exact ⟨2, herror⟩

/-- Requests for statistics are read back. -/
theorem readsBack_statSummaryRequest : ReadsBack StatSummaryRequest 2 := by
  intro depth hdepth m
  -- field by field in the order of the tags, each leading from the message so far to one with
  -- the field set
  have hselector := Leads.option 1 readsBack_resourceSelection hdepth
    (leads_nil depth ⟨none, "", false, false⟩) (by decide) (by decide)
    (fun selector => (⟨selector, "", false, false⟩ : StatSummaryRequest)) rfl
    (fun nested hnested => by simp [mergeField, Value.message?, hnested]) m.selector
  have hwindow := hselector.text 2 (by decide) (by decide)
    (fun timeWindow => ⟨m.selector, timeWindow, false, false⟩) rfl
    (by simp [mergeField, Value.text?]) m.timeWindow
  have hskip := hwindow.truth 6 (by decide) (by decide)
    (fun skipStats => ⟨m.selector, m.timeWindow, skipStats, false⟩) rfl
    (by simp [mergeField, Value.truth?]) m.skipStats
  have htcp := hskip.truth 7 (by decide) (by decide)
    (fun tcpStats => ⟨m.selector, m.timeWindow, m.skipStats, tcpStats⟩) rfl
    (by simp [mergeField, Value.truth?]) m.tcpStats
  exact ⟨7, htcp⟩

/-- Statistics are read back. -/
theorem readsBack_basicStats : ReadsBack BasicStats 0 := by
  intro depth _ m
  have hsuccess := (leads_nil depth ⟨0, 0, 0, 0, 0⟩).number 1 (by decide) (by decide)
    (fun n => (⟨n, 0, 0, 0, 0⟩ : BasicStats)) rfl
    (by simp [mergeField, Value.number?]) m.successCount
  have hfailure := hsuccess.number 2 (by decide) (by decide)
    (fun n => ⟨m.successCount, n, 0, 0, 0⟩) rfl
    (by simp [mergeField, Value.number?]) m.failureCount
  have hp50 := hfailure.number 3 (by decide) (by decide)
    (fun n => ⟨m.successCount, m.failureCount, n, 0, 0⟩) rfl
    (by simp [mergeField, Value.number?]) m.latencyMsP50
  have hp95 := hp50.number 4 (by decide) (by decide)
    (fun n => ⟨m.successCount, m.failureCount, m.latencyMsP50, n, 0⟩) rfl
    (by simp [mergeField, Value.number?]) m.latencyMsP95
  have hp99 := hp95.number 5 (by decide) (by decide)
    (fun n => ⟨m.successCount, m.failureCount, m.latencyMsP50, m.latencyMsP95, n⟩) rfl
    (by simp [mergeField, Value.number?]) m.latencyMsP99
  exact ⟨5, hp99⟩

/-- Rows of statistics are read back. -/
theorem readsBack_statRow : ReadsBack StatRow 1 := by
  intro depth hdepth m
  have hresource := Leads.option 1 readsBack_meshResource hdepth
    (leads_nil depth ⟨none, "", 0, 0, none, 0⟩) (by decide) (by decide)
    (fun resource => (⟨resource, "", 0, 0, none, 0⟩ : StatRow)) rfl
    (fun nested hnested => by simp [mergeField, Value.message?, hnested]) m.resource
  have hwindow := hresource.text 2 (by decide) (by decide)
    (fun timeWindow => ⟨m.resource, timeWindow, 0, 0, none, 0⟩) rfl
    (by simp [mergeField, Value.text?]) m.timeWindow
  have hmeshed := hwindow.number 3 (by decide) (by decide)
    (fun n => ⟨m.resource, m.timeWindow, n, 0, none, 0⟩) rfl
    (by simp [mergeField, Value.number?]) m.meshedPodCount
  have hrunning := hmeshed.number 4 (by decide) (by decide)
    (fun n => ⟨m.resource, m.timeWindow, m.meshedPodCount, n, none, 0⟩) rfl
    (by simp [mergeField, Value.number?]) m.runningPodCount
  -- the statistics are a message of their own, one level down
  have hstats := Leads.option 5 readsBack_basicStats hdepth hrunning (by decide) (by decide)
    (fun stats => ⟨m.resource, m.timeWindow, m.meshedPodCount, m.runningPodCount, stats, 0⟩) rfl
    (fun nested hnested => by simp [mergeField, Value.message?, hnested]) m.stats
  have hfailed := hstats.number 6 (by decide) (by decide)
    (fun n => ⟨m.resource, m.timeWindow, m.meshedPodCount, m.runningPodCount, m.stats, n⟩) rfl
    (by simp [mergeField, Value.number?]) m.failedPodCount
  exact ⟨6, hfailed⟩

/-- Groups of rows are read back, with the rows one level down. -/
theorem readsBack_podGroup : ReadsBack PodGroup 2 := by
  intro depth hdepth m
  exact ⟨1,
    Leads.list 1 readsBack_statRow hdepth (leads_nil depth ⟨[]⟩) (by decide) (by decide)
    PodGroup.mk rfl
      (fun earlier nested hnested => by simp [mergeField, Value.message?, hnested]) m.rows⟩

/-- Tables of statistics are read back. -/
theorem readsBack_statTable : ReadsBack StatTable 3 := by
  intro depth hdepth m
  exact ⟨1,
    Leads.option 1 readsBack_podGroup hdepth (leads_nil depth ⟨none⟩) (by decide) (by decide)
    StatTable.mk rfl
      (fun nested hnested => by simp [mergeField, Value.message?, hnested]) m.podGroup⟩

/-- Successful answers to requests for statistics are read back. -/
theorem readsBack_statSummaryOk : ReadsBack StatSummaryOk 4 := by
  intro depth hdepth m
  exact ⟨1,
    Leads.list 1 readsBack_statTable hdepth (leads_nil depth ⟨[]⟩) (by decide) (by decide)
    StatSummaryOk.mk rfl
      (fun earlier nested hnested => by simp [mergeField, Value.message?, hnested])
    m.statTables⟩

/-- Answers to requests for statistics are read back, also those that report an error. -/
theorem readsBack_statSummaryResponse : ReadsBack StatSummaryResponse 5 := by
  intro depth hdepth m
  have hok := Leads.option 1 readsBack_statSummaryOk hdepth (leads_nil depth ⟨none, none⟩)
    (by decide) (by decide) (fun ok => (⟨ok, none⟩ : StatSummaryResponse)) rfl
    (fun nested hnested => by simp [mergeField, Value.message?, hnested]) m.ok
  have herror := Leads.option 2 readsBack_resourceError (by omega) hok (by decide) (by decide)
    (fun error => ⟨m.ok, error⟩) rfl
    (fun nested hnested => by simp [mergeField, Value.message?, hnested]) m.error
  exact ⟨2, herror⟩

/-- Requests for connections are read back. -/
theorem readsBack_edgesRequest : ReadsBack EdgesRequest 2 := by
  intro depth hdepth m
  exact ⟨1,
    Leads.option 1 readsBack_resourceSelection hdepth (leads_nil depth ⟨none⟩) (by decide)
    (by decide) EdgesRequest.mk rfl
    (fun nested hnested => by simp [mergeField, Value.message?, hnested]) m.selector⟩

/-- Connections are read back. -/
theorem readsBack_edge : ReadsBack Edge 1 := by
  intro depth hdepth m
  have hsrc :=
    Leads.option 1 readsBack_meshResource hdepth (leads_nil depth ⟨none, none, "", "", ""⟩)
      (by decide) (by decide) (fun src => (⟨src, none, "", "", ""⟩ : Edge)) rfl
      (fun nested hnested => by simp [mergeField, Value.message?, hnested]) m.src
  have hdst := Leads.option 2 readsBack_meshResource hdepth hsrc (by decide) (by decide)
    (fun dst => ⟨m.src, dst, "", "", ""⟩) rfl
    (fun nested hnested => by simp [mergeField, Value.message?, hnested]) m.dst
  have hclient := hdst.text 3 (by decide) (by decide)
    (fun clientId => ⟨m.src, m.dst, clientId, "", ""⟩) rfl
    (by simp [mergeField, Value.text?]) m.clientId
  have hserver := hclient.text 4 (by decide) (by decide)
    (fun serverId => ⟨m.src, m.dst, m.clientId, serverId, ""⟩) rfl
    (by simp [mergeField, Value.text?]) m.serverId
  have hmsg := hserver.text 5 (by decide) (by decide)
    (fun noIdentityMsg => ⟨m.src, m.dst, m.clientId, m.serverId, noIdentityMsg⟩) rfl
    (by simp [mergeField, Value.text?]) m.noIdentityMsg
  exact ⟨5, hmsg⟩

/-- Successful answers to requests for connections are read back. -/
theorem readsBack_edgesOk : ReadsBack EdgesOk 2 := by
  intro depth hdepth m
  exact ⟨1, Leads.list 1 readsBack_edge hdepth (leads_nil depth ⟨[]⟩) (by decide) (by decide)
    EdgesOk.mk rfl
      (fun earlier nested hnested => by simp [mergeField, Value.message?, hnested]) m.edges⟩

/-- Answers to requests for connections are read back, also those that report an error. -/
theorem readsBack_edgesResponse : ReadsBack EdgesResponse 3 := by
  intro depth hdepth m
  have hok := Leads.option 1 readsBack_edgesOk hdepth (leads_nil depth ⟨none, none⟩)
    (by decide) (by decide) (fun ok => (⟨ok, none⟩ : EdgesResponse)) rfl
    (fun nested hnested => by simp [mergeField, Value.message?, hnested]) m.ok
  have herror := Leads.option 2 readsBack_resourceError (by omega) hok (by decide) (by decide)
    (fun error => ⟨m.ok, error⟩) rfl
    (fun nested hnested => by simp [mergeField, Value.message?, hnested]) m.error
  exact ⟨2, herror⟩

end WireMessage

end ClusterWatch
