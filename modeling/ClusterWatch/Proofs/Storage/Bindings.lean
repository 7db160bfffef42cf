import Mathlib.Data.List.Nodup
import Mathlib.Data.List.TakeWhile
import Mathlib.Data.UInt
import ClusterWatch.Proofs.Storage.Mounts

/-!
# Bindings of volumes to claims

A volume is bound to a claim by its own deliveries, which may refer to the claim, and by the
deliveries of the claim, which may name the volume. A delivery of a claim takes the claim from all
other volumes. A delivery of a volume asks neither whether another volume is bound to the claim
already nor whether the claim has been deleted.

* `ClusterEvent.Binds`, `ClusterEvent.Revises` — an event binds a volume to a claim, or tells anew
  whether it is bound.
* `StorageIndex.boundClaims_after` — after any history, a volume is bound to a claim exactly if an
  event has bound it and no later one has revised that.
* `StorageIndex.paired_iff` — volumes and claims are paired one to one, unless a delivery of a
  volume has referred to a claim that another volume was bound to, and both still are.
* `StorageIndex.unbound_iff` — a deleted claim has no volume, unless the events since the deletion
  have bound one to it.
-/

namespace ClusterWatch

open ClusterObject (hasSeparator)
open StorageIndex (namedVolume?)

/-! ### Keys of claims -/

/-- The namespace and the name in a key, joined again, are the key. -/
theorem claimKey_split {key : String} (h : hasSeparator key = true) :
    claimKey (claimNamespace key) (claimName key) = key := by
  have hmem : '/' ∈ key.toList := by simpa [hasSeparator] using h
  have hjoined :=
    List.takeWhile_append_dropWhile (p := fun char : Char => decide (char ≠ '/'))
      (l := key.toList)
  have hhead := List.head?_dropWhile_not (fun char : Char => decide (char ≠ '/')) key.toList
  unfold claimNamespace claimName splitClaimKey
  simp only
  split
  next hrest =>
    -- the key would have no separator
    simpa using List.dropWhile_eq_nil_iff.mp hrest '/' hmem
  next separator name hrest =>
    rw [hrest] at hjoined hhead
    have hseparator : separator = '/' := by simpa using hhead
    apply String.toList_inj.mp
    refine Eq.trans ?_ hjoined
    simp [claimKey, hseparator]

theorem hasSeparator_claimKey (ns name : String) : hasSeparator (claimKey ns name) = true := by
  simp [hasSeparator, claimKey]

/-! ### What events make of a binding -/

namespace ClusterEvent

/-- An event binds a volume to a claim: a delivery of the volume that refers to the claim, or one of
the claim that names the volume. -/
def Binds (volume claim : String) : ClusterEvent → Prop
  | .persistentVolumes delivery => ClusterObject.name delivery.object = volume ∧
      delivery.current?.bind PersistentVolume.boundClaim? = some claim
  | .persistentVolumeClaims delivery => ClusterObject.key delivery.object = claim ∧
      delivery.current?.bind namedVolume? = some volume
  | _ => False

/-- An event tells anew whether a volume is bound to a claim: a delivery of either of them, or one
of another claim that names the volume. -/
def Revises (volume claim : String) : ClusterEvent → Prop
  | .persistentVolumes delivery => ClusterObject.name delivery.object = volume
  | .persistentVolumeClaims delivery => ClusterObject.key delivery.object = claim ∨
      delivery.current?.bind namedVolume? = some volume
  | _ => False

/-- The key of a claim that a volume is bound to has a namespace and a name. -/
theorem Binds.hasSeparator {event : ClusterEvent} {volume claim : String}
    (h : event.Binds volume claim) :
    hasSeparator claim = true := by
  cases event with
  | persistentVolumes delivery =>
    obtain ⟨-, hclaim⟩ := h
    obtain ⟨current, -, hcurrent⟩ := Option.bind_eq_some_iff.mp hclaim
    -- a volume that refers to a claim refers to its key
    unfold PersistentVolume.boundClaim? at hcurrent
    split at hcurrent
    next => exact Option.some.inj hcurrent ▸ hasSeparator_claimKey _ _
    next => cases hcurrent
  | persistentVolumeClaims delivery =>
    rw [← h.1]
    exact hasSeparator_claimKey _ _
  | _ => exact h.elim

/-- A delivery of a claim leaves the claim to one volume at most. -/
theorem Binds.cases {event : ClusterEvent} {volume claim : String} (h : event.Binds volume claim)
    (other : String) :
    (∃ delivery,
      event = .persistentVolumes delivery ∧ ClusterObject.name delivery.object = volume ∧
      delivery.current?.bind PersistentVolume.boundClaim? = some claim) ∨
        event.Revises other claim := by
  cases event with
  | persistentVolumes delivery => exact .inl ⟨delivery, rfl, h⟩
  | persistentVolumeClaims delivery => exact .inr (.inl h.1)
  | _ => exact h.elim

/-- No event binds two volumes to one claim. -/
theorem Binds.volume_eq {event : ClusterEvent} {volume other claim : String}
    (h : event.Binds volume claim) (hother : event.Binds other claim) : volume = other := by
  cases event with
  | persistentVolumes delivery => exact h.1.symm.trans hother.1
  | persistentVolumeClaims delivery => exact Option.some.inj (h.2.symm.trans hother.2)
  | _ => exact h.elim

end ClusterEvent

namespace StorageIndex

variable {index : StorageIndex} {events : List ClusterEvent} {volume other claim : String}

/-- After some events a volume is bound to a claim: one of them binds it, and no later one
revises that. -/
def BoundBy (events : List ClusterEvent) (volume claim : String) : Prop :=
  ∃ before event later, events = before ++ event :: later ∧ event.Binds volume claim ∧
    ∀ next ∈ later, ¬ next.Revises volume claim

theorem not_boundBy_nil (volume claim : String) : ¬ BoundBy [] volume claim := by
  rintro ⟨before, event, later, hevents, -⟩
  simp at hevents

/-- The last event binds a volume to a claim, or leaves it bound. -/
theorem boundBy_concat {last : ClusterEvent} :
    BoundBy (events ++ [last]) volume claim ↔
      last.Binds volume claim ∨
        (BoundBy events volume claim ∧ ¬ last.Revises volume claim) := by
  constructor
  · rintro ⟨before, event, later, hevents, hbinds, hlater⟩
    -- the event that binds is the last one, or an earlier one that the last one does not revise
    rcases concat_eq_append_cons hevents with ⟨-, -, rfl⟩ | ⟨rest, rfl, rfl⟩
    · exact .inl hbinds
    · rw [List.forall_mem_append, List.forall_mem_singleton] at hlater
      exact .inr ⟨⟨before, event, rest, rfl, hbinds, hlater.1⟩, hlater.2⟩
  · rintro (hbinds | ⟨⟨before, event, later, rfl, hbinds, hlater⟩, hlast⟩)
    · exact ⟨events, last, [], rfl, hbinds, by simp⟩
    · refine ⟨before, event, later ++ [last], by simp, hbinds, ?_⟩
      rw [List.forall_mem_append, List.forall_mem_singleton]
      exact ⟨hlater, hlast⟩

/-- A volume is bound by the later ones of some events, or it was bound by the earlier ones and the
later ones do not revise that. -/
theorem boundBy_append {later : List ClusterEvent} :
    BoundBy (events ++ later) volume claim ↔
      BoundBy later volume claim ∨
        (BoundBy events volume claim ∧ ∀ event ∈ later, ¬ event.Revises volume claim) := by
  induction later using List.reverseRecOn with
  | nil => simp [not_boundBy_nil]
  | append_singleton later last ih =>
    rw [← List.append_assoc, boundBy_concat, boundBy_concat, ih, List.forall_mem_append,
      List.forall_mem_singleton]
    tauto

/-! ### Bindings after a history -/

/-- A volume is bound to what it refers to once it is delivered, and other bindings stay. -/
theorem getElem?_boundClaims_onVolume (index : StorageIndex) (delivery : Delivery PersistentVolume)
    (volume : String) :
    (index.onVolume delivery).boundClaims[volume]? =
      if ClusterObject.name delivery.object = volume then
        delivery.current?.bind PersistentVolume.boundClaim?
      else index.boundClaims[volume]? := by
  unfold onVolume
  cases delivery.current? with
  | none => simp [Std.ExtTreeMap.getElem?_erase]
  | some current =>
    simp only [Option.bind_some]
    cases current.boundClaim? with
    | none => simp [Std.ExtTreeMap.getElem?_erase]
    | some claim => simp [Std.ExtTreeMap.getElem?_insert]

/-- A claim that is delivered is bound to the volume that it names, and to no other. -/
theorem getElem?_boundClaims_onClaim (index : StorageIndex)
    (delivery : Delivery PersistentVolumeClaim) (volume : String) :
    (index.onClaim delivery).boundClaims[volume]? =
      if delivery.current?.bind namedVolume? = some volume then
        some (ClusterObject.key delivery.object)
      else index.boundClaims[volume]?.filter (· ≠ ClusterObject.key delivery.object) := by
  have hkey : claimKey (ClusterObject.ns delivery.object) (ClusterObject.name delivery.object) =
      ClusterObject.key delivery.object := rfl
  unfold onClaim
  rw [hkey]
  cases delivery.current?.bind namedVolume? with
  | none => simp
  | some named =>
    by_cases hvolume : named = volume
    · simp [hvolume]
    · -- of this claim, the filter keeps only the volume that it names
      simp [Std.ExtTreeMap.getElem?_insert, hvolume]

/-- Handling an event binds a volume to a claim if the event does so, and leaves it bound if it does
not revise that. -/
theorem boundClaims_handle (index : StorageIndex) (event : ClusterEvent) :
    (index.handle event).boundClaims[volume]? = some claim ↔
      event.Binds volume claim ∨
        (index.boundClaims[volume]? = some claim ∧ ¬ event.Revises volume claim) := by
  cases event with
  | persistentVolumes delivery =>
    show (index.onVolume delivery).boundClaims[volume]? = some claim ↔ _
    rw [getElem?_boundClaims_onVolume]
    by_cases hname : ClusterObject.name delivery.object = volume <;>
      simp [ClusterEvent.Binds, ClusterEvent.Revises, hname]
  | persistentVolumeClaims delivery =>
    show (index.onClaim delivery).boundClaims[volume]? = some claim ↔ _
    rw [getElem?_boundClaims_onClaim]
    -- the delivery binds the volume that the claim names, and lets go of the others
    by_cases hnamed : delivery.current?.bind namedVolume? = some volume
    · simp [ClusterEvent.Binds, ClusterEvent.Revises, hnamed]
    · rw [if_neg hnamed, Option.filter_eq_some_iff]
      simp [ClusterEvent.Binds, ClusterEvent.Revises, hnamed, eq_comm (a := claim)]
  | _ => simp [StorageIndex.handle, onPod, ClusterEvent.Binds, ClusterEvent.Revises]

/-- After any history of events a volume is bound to a claim if an event of it has bound the volume
and no later one has revised that. -/
theorem boundClaims_after (events : List ClusterEvent) (volume claim : String) :
    (after events).boundClaims[volume]? = some claim ↔ BoundBy events volume claim := by
  induction events using List.reverseRecOn with
  | nil => simp [after, empty, not_boundBy_nil]
  | append_singleton events event ih => rw [after_concat, boundClaims_handle, boundBy_concat, ih]

/-- Every claim that a volume is bound to has a namespace and a name. -/
theorem hasSeparator_of_boundClaims (h : (after events).boundClaims[volume]? = some claim) :
    hasSeparator claim = true := by
  obtain ⟨_, event, _, _, hbinds, _⟩ := (boundClaims_after events volume claim).mp h
  exact hbinds.hasSeparator

/-! ### One volume to a claim -/

/-- What is used in a namespace is summed over its bindings. -/
theorem namespaceUsed_eq_sum (index : StorageIndex) (sample : UsageSample) (ns : String) :
    index.namespaceUsed sample ns =
      ((index.bindingsWithin ns).map fun binding => sample.usedOf binding.1).sum := by
  rw [List.sum_eq_foldl]
  rfl

/-- Volumes and claims are paired one to one, and counted so. -/
structure Paired (index : StorageIndex) : Prop where
  /-- No two volumes are bound to one claim. -/
  injective : ∀ volume other claim : String, index.boundClaims[volume]? = some claim →
    index.boundClaims[other]? = some claim → volume = other
  /-- The used bytes of a namespace are those of the volumes that are bound to its claims, for
  each claim once. -/
  usedOnce : ∀ (sample : UsageSample) (ns : String),
    index.namespaceUsed sample ns =
      ((index.bindingsWithin ns).map fun binding => sample.usedOf binding.1).sum ∧
      ((index.bindingsWithin ns).map Prod.snd).Nodup
  /-- At most one chain leads from a pod through a claim. -/
  chainOnce : ∀ (sample : UsageSample) (ns : String),
    ((index.volumeChains sample ns).map fun chain => (chain.pod, chain.claim)).Nodup

/-- A delivery of a volume has referred to a claim that another volume was bound to, and neither
binding has been revised since. -/
def Contended (events : List ClusterEvent) (claim volume other : String) : Prop :=
  ∃ before delivery later, events = before ++ .persistentVolumes delivery :: later ∧
    volume ≠ other ∧ ClusterObject.name delivery.object = volume ∧
    delivery.current?.bind PersistentVolume.boundClaim? = some claim ∧
    BoundBy before other claim ∧
    ∀ event ∈ later, ¬ event.Revises volume claim ∧ ¬ event.Revises other claim

/-- What does not revise the bindings leaves the claim contended. -/
theorem Contended.concat (h : Contended events claim volume other) {last : ClusterEvent}
    (hvolume : ¬ last.Revises volume claim) (hother : ¬ last.Revises other claim) :
    Contended (events ++ [last]) claim volume other := by
  obtain ⟨before, delivery, later, rfl, hne, hname, hclaim, hbefore, hlater⟩ := h
  refine ⟨before, delivery, later ++ [last], by simp, hne, hname, hclaim, hbefore, ?_⟩
  rw [List.forall_mem_append, List.forall_mem_singleton]
  exact ⟨hlater, hvolume, hother⟩

/-- Both volumes that contend for a claim are bound to it. -/
theorem Contended.boundBy (h : Contended events claim volume other) :
    BoundBy events volume claim ∧ BoundBy events other claim := by
  obtain ⟨before, delivery, later, rfl, hne, hname, hclaim, hbefore, hlater⟩ := h
  have hown : ∀ event ∈ later, ¬ event.Revises volume claim :=
    fun event hevent => (hlater event hevent).1
  refine ⟨⟨before, _, later, rfl, ⟨hname, hclaim⟩, hown⟩, ?_⟩
  refine boundBy_append.mpr (.inr ⟨hbefore, fun event hevent => ?_⟩)
  rcases List.mem_cons.mp hevent with rfl | hlate
  · -- the delivery is one of the other volume
    exact fun hrevises => hne (hname.symm.trans hrevises)
  · exact (hlater event hlate).2

/-- Of two volumes that are bound to one claim, a delivery of one has referred to the claim while
the other was bound to it. -/
theorem contended_of_boundBy (hne : volume ≠ other) (hvolume : BoundBy events volume claim)
    (hother : BoundBy events other claim) :
    Contended events claim volume other ∨ Contended events claim other volume := by
  induction events using List.reverseRecOn with
  | nil => exact absurd hvolume (not_boundBy_nil volume claim)
  | append_singleton events last ih =>
    rcases boundBy_concat.mp hvolume with hbinds | ⟨hbefore, hkept⟩ <;>
      rcases boundBy_concat.mp hother with hotherBinds | ⟨hotherBefore, hotherKept⟩
    · exact absurd (hbinds.volume_eq hotherBinds) hne
    · -- a delivery of the claim would have taken it from the other volume
      obtain ⟨delivery, rfl, hname, hclaim⟩ := (hbinds.cases other).resolve_right hotherKept
      exact .inl ⟨events, delivery, [], rfl, hne, hname, hclaim, hotherBefore, by simp⟩
    · obtain ⟨delivery, rfl, hname, hclaim⟩ := (hotherBinds.cases volume).resolve_right hkept
      exact .inr ⟨events, delivery, [], rfl, hne.symm, hname, hclaim, hbefore, by simp⟩
    · exact (ih hbefore hotherBefore).imp (·.concat hkept hotherKept) (·.concat hotherKept hkept)

/-- The bindings of a namespace are those of different volumes. -/
theorem pairwise_bindingsWithin (index : StorageIndex) (ns : String) :
    (index.bindingsWithin ns).Pairwise (·.1 ≠ ·.1) :=
  (index.boundClaims.distinct_keys_toList.imp fun hne heq => hne (by simp [heq])).filter _

/-- Where no two volumes are bound to one claim, the bindings of a namespace are to
different claims. -/
theorem pairwise_claims_bindingsWithin
    (h : ∀ volume other claim : String, index.boundClaims[volume]? = some claim →
      index.boundClaims[other]? = some claim → volume = other) (ns : String) :
    (index.bindingsWithin ns).Pairwise (·.2 ≠ ·.2) := by
  refine (index.pairwise_bindingsWithin ns).imp_of_mem
    fun {first second} hfirst hsecond hne heq => hne ?_
  have hsecondBound := (mem_bindingsWithin.mp hsecond).1
  rw [← heq] at hsecondBound
  exact h first.1 second.1 first.2 (mem_bindingsWithin.mp hfirst).1 hsecondBound

/-- Where no two volumes are bound to one claim, volumes and claims are paired. -/
theorem paired_of_injective
    (h : ∀ volume other claim : String, (after events).boundClaims[volume]? = some claim →
      (after events).boundClaims[other]? = some claim → volume = other) :
    (after events).Paired := by
  refine ⟨h, fun sample ns => ⟨namespaceUsed_eq_sum _ sample ns, ?_⟩, fun sample ns => ?_⟩
  · exact List.pairwise_map.mpr (pairwise_claims_bindingsWithin h ns)
  · rw [volumeChains_eq, List.map_flatMap, List.nodup_flatMap]
    constructor
    · -- through one binding, every pod of the claim leads once
      intro binding _
      rw [chainsThrough, List.map_map]
      refine List.pairwise_map.mpr
        (((after events).pairwise_podsOf binding.2).imp fun {first second} hlt heq => ?_)
      have hpods : first = second := congrArg Prod.fst heq
      exact String.lt_irrefl second (hpods ▸ hlt)
    · -- through different bindings, chains lead by claims of different names
      refine (pairwise_claims_bindingsWithin h ns).imp_of_mem
        fun {first second} hfirst hsecond hne => ?_
      rintro ⟨pod, name⟩ hchain hother
      obtain ⟨hbound, rfl⟩ := mem_bindingsWithin.mp hfirst
      obtain ⟨hotherBound, hns⟩ := mem_bindingsWithin.mp hsecond
      simp only [chainsThrough, List.map_map, List.mem_map, Function.comp_apply, Prod.mk.injEq]
        at hchain hother
      obtain ⟨_, _, _, hname⟩ := hchain
      obtain ⟨_, _, _, hotherName⟩ := hother
      apply hne
      calc first.2
        _ = claimKey (claimNamespace first.2) (claimName first.2) :=
          (claimKey_split (hasSeparator_of_boundClaims hbound)).symm
        _ = claimKey (claimNamespace second.2) (claimName second.2) := by
            rw [hns, hname, hotherName]
        _ = second.2 := claimKey_split (hasSeparator_of_boundClaims hotherBound)

/-- After any history, volumes and claims are paired one to one, unless a delivery of a volume has
referred to a claim that another volume was bound to, and both still are. -/
theorem paired_iff (events : List ClusterEvent) :
    (after events).Paired ↔ ¬ ∃ claim volume other, Contended events claim volume other := by
  constructor
  · rintro hpaired ⟨claim, volume, other, hcontended⟩
    obtain ⟨hvolume, hother⟩ := hcontended.boundBy
    obtain ⟨_, _, _, _, hne, _⟩ := hcontended
    exact hne
      (hpaired.injective volume other claim ((boundClaims_after events volume claim).mpr hvolume)
      ((boundClaims_after events other claim).mpr hother))
  · intro hnone
    refine paired_of_injective fun volume other claim hvolume hother => ?_
    -- of two bindings to one claim, the later one was made while the other stood
    by_contra hne
    rcases contended_of_boundBy hne ((boundClaims_after events volume claim).mp hvolume)
      ((boundClaims_after events other claim).mp hother) with hcontended | hcontended
    · exact hnone ⟨claim, volume, other, hcontended⟩
    · exact hnone ⟨claim, other, volume, hcontended⟩

/-- A released volume that still refers to the claim that it has been bound to, and the volume that
the claim has now. -/
def releasedVolumeHistory : List ClusterEvent :=
  let data : PersistentVolumeClaim :=
    ⟨{ Metadata.basic "data" "1" with ns := some "default" }, some "new"⟩
  let volume (name version : String) : PersistentVolume :=
    ⟨.basic name version, ∅, none, some ⟨some "default", some "data"⟩, []⟩
  [.persistentVolumeClaims (.created data), .persistentVolumes (.created (volume "new" "2")),
    .persistentVolumes (.created (volume "old" "3"))]

/-- The released volume shares the claim with the volume that the claim names. -/
theorem claim_shared_with_released_volume : ¬ (after releasedVolumeHistory).Paired := by
  intro hpaired
  have hold : (after releasedVolumeHistory).boundClaims["old"]? = some "default/data" := by
    decide +kernel
  have hnew : (after releasedVolumeHistory).boundClaims["new"]? = some "default/data" := by
    decide +kernel
  exact absurd (hpaired.injective "old" "new" "default/data" hold hnew) (by decide)

/-! ### Deleted claims -/

/-- No volume is bound to a claim, and nothing that is shown or counted knows of it. -/
structure Unbound (index : StorageIndex) (claim : String) : Prop where
  /-- No volume is bound to the claim. -/
  bindings : ∀ volume : String, index.boundClaims[volume]? ≠ some claim
  /-- No volume is shown with the claim. -/
  views : ∀ (sample : UsageSample) (storageClass : String),
    ∀ view ∈ (index.classify sample)[storageClass]?.getD [], view.claim ≠ some claim
  /-- The used bytes of a namespace are those of the volumes that are bound to other claims. -/
  used : ∀ (sample : UsageSample) (ns : String), index.namespaceUsed sample ns =
    (((index.bindingsWithin ns).filter (·.2 ≠ claim)).map fun binding =>
      sample.usedOf binding.1).sum
  /-- No chain leads through the claim. -/
  chains : ∀ (sample : UsageSample) (ns : String), ∀ chain ∈ index.volumeChains sample ns,
    claimKey ns chain.claim ≠ claim

/-- Of a claim that no volume is bound to, nothing is shown or counted. -/
theorem unbound_of_forall_ne
    (h : ∀ volume : String, (after events).boundClaims[volume]? ≠ some claim) :
    (after events).Unbound claim where
  bindings := h
  views sample storageClass view hview := by
    obtain ⟨name, info, -, -, rfl⟩ := mem_classify.mp hview
    exact h name
  used sample ns := by
    rw [namespaceUsed_eq_sum, List.filter_eq_self.mpr]
    rintro ⟨volume, other⟩ hbinding
    have hbound := (mem_bindingsWithin.mp hbinding).1
    simpa using fun heq : other = claim => h volume (heq ▸ hbound)
  chains sample ns chain hchain heq := by
    obtain ⟨other, hbound, rfl, hthrough⟩ := mem_volumeChains.mp hchain
    obtain ⟨pod, -, hpod⟩ := List.mem_map.mp hthrough
    have hname : chain.claim = claimName other := by rw [← hpod]
    -- the chain is through the claim that its volume is bound to
    rw [hname, claimKey_split (hasSeparator_of_boundClaims hbound)] at heq
    exact h chain.volume (heq ▸ hbound)

/-- A deleted claim is bound to no volume but by the events since. -/
theorem boundBy_deleted {later : List ClusterEvent} {gone : PersistentVolumeClaim} :
    BoundBy (events ++ .persistentVolumeClaims (.deleted gone) :: later) volume
      (ClusterObject.key gone) ↔
      BoundBy later volume (ClusterObject.key gone) := by
  rw [List.append_cons, boundBy_append, boundBy_concat]
  simp [ClusterEvent.Binds, ClusterEvent.Revises, Delivery.current?, Delivery.object]

/-- A deleted claim has no volume, unless the events since the deletion have bound one to it. -/
theorem unbound_iff (before later : List ClusterEvent) (gone : PersistentVolumeClaim) :
    (after (before ++ .persistentVolumeClaims (.deleted gone) :: later)).Unbound
      (ClusterObject.key gone) ↔
      ∀ volume, ¬ BoundBy later volume (ClusterObject.key gone) := by
  constructor
  · intro hunbound volume hbound
    exact hunbound.bindings volume ((boundClaims_after _ _ _).mpr (boundBy_deleted.mpr hbound))
  · intro hlater
    refine unbound_of_forall_ne fun volume hbound => hlater volume ?_
    exact boundBy_deleted.mp ((boundClaims_after _ _ _).mp hbound)

/-- A claim is deleted, and then its volume, which still refers to it, is noted to be released. The
volume is bound to the deleted claim again. -/
theorem deleted_claim_bound_again :
    let data : PersistentVolumeClaim :=
      ⟨{ Metadata.basic "data" "1" with ns := some "default" }, some "disk"⟩
    let disk (version : String) : PersistentVolume :=
      ⟨.basic "disk" version, ∅, none, some ⟨some "default", some "data"⟩, []⟩
    ¬ (after
      ([.persistentVolumes (.created (disk "2")), .persistentVolumeClaims (.created data)] ++
      .persistentVolumeClaims (.deleted data) ::
        [.persistentVolumes (.updated (disk "2") (disk "3"))])).Unbound
        (ClusterObject.key data) := by
  intro data disk hunbound
  refine hunbound.bindings "disk" ?_
  decide +kernel

end StorageIndex

end ClusterWatch
