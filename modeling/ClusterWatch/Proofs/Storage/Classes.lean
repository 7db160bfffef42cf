import ClusterWatch.Proofs.Storage.Bindings

/-!
# Classes of storage

The volumes that are there are shown by the class that their last delivered versions belong to, each
of them once. The totals of the classes and the chains of the pods are told by separate walks
through the same indices, and agree with what is shown.

* `StorageIndex.currentVolume?` — the version of a volume that is there after some events;
  `volumes_after` — the index keeps what matters of it.
* `StorageIndex.getElem?_classTotals` — the totals of a class are sums over its volumes.
* `StorageIndex.Classified`, `StorageIndex.classified_after` — after any history, the classes are
  a partition of the volumes, and the totals and the chains agree with them.
-/

namespace ClusterWatch

/-! ### Sums of words -/

/-- The sum of words is that of their values, but for what overflows. -/
theorem toNat_sum (words : List UInt64) :
    words.sum.toNat = (words.map UInt64.toNat).sum % UInt64.size := by
  induction words with
  | nil => rfl
  | cons word rest ih =>
    rw [List.sum_cons, UInt64.toNat_add, ih, List.map_cons, List.sum_cons]
    exact Nat.add_mod_mod _ _ _

/-- A word is the sum of others, provided that this does not overflow. -/
def IsSum (total : UInt64) (parts : List UInt64) : Prop :=
  (parts.map UInt64.toNat).sum < UInt64.size → total.toNat = (parts.map UInt64.toNat).sum

theorem isSum_sum (parts : List UInt64) : IsSum parts.sum parts := by
  intro hroom
  rw [toNat_sum, Nat.mod_eq_of_lt hroom]

namespace StorageIndex

variable {index : StorageIndex} {sample : UsageSample} {events : List ClusterEvent}

/-! ### The volumes after a history -/

/-- The delivery that an event is, if it is one of the volume of a name. -/
def volumeAt? (name : String) (event : ClusterEvent) : Option (Delivery PersistentVolume) :=
  (PublishedKind.persistentVolumes.delivery? event).filter fun delivery =>
    ClusterObject.name delivery.object = name

/-- The version of a volume that is there after the events, none if it was deleted last or
never delivered. -/
def currentVolume? (events : List ClusterEvent) (name : String) : Option PersistentVolume :=
  (events.findSomeRev? (volumeAt? name)).bind Delivery.current?

/-- The current version of a volume is what its last delivery has left. -/
theorem currentVolume?_concat (events : List ClusterEvent) (event : ClusterEvent) (name : String) :
    currentVolume? (events ++ [event]) name =
      match volumeAt? name event with
      | some delivery => delivery.current?
      | none => currentVolume? events name := by
  unfold currentVolume?
  rw [findSomeRev?_concat]
  cases volumeAt? name event <;> rfl

/-- What is kept of a version of a volume. -/
def infoOf (volume : PersistentVolume) : VolumeInfo :=
  ⟨volume.capacityBytes, volume.storageClass.getD "", volume.pinnedNode?⟩

/-- A delivery of a volume replaces what is kept of it, and other events leave that alone. -/
theorem getElem?_volumes_handle (index : StorageIndex) (event : ClusterEvent) (name : String) :
    (index.handle event).volumes[name]? =
      match volumeAt? name event with
      | some delivery => delivery.current?.map infoOf
      | none => index.volumes[name]? := by
  cases event with
  | persistentVolumes delivery =>
    show (index.onVolume delivery).volumes[name]? = _
    unfold onVolume volumeAt?
    simp only [PublishedKind.delivery?, Option.filter_some, decide_eq_true_eq]
    -- a volume is kept under its own name
    by_cases hname : ClusterObject.name delivery.object = name
    · rw [if_pos hname]
      cases hcurrent : delivery.current? <;> simp [hname, hcurrent, infoOf]
    · rw [if_neg hname]
      cases delivery.current? <;>
        simp [hname, Std.ExtTreeMap.getElem?_insert, Std.ExtTreeMap.getElem?_erase]
  | persistentVolumeClaims delivery =>
    show (index.onClaim delivery).volumes[name]? = index.volumes[name]?
    unfold onClaim
    cases delivery.current?.bind namedVolume? <;> rfl
  | _ => rfl

/-- After any history of events, the index keeps of every volume what its last delivered
version declares. -/
theorem volumes_after (events : List ClusterEvent) (name : String) :
    (after events).volumes[name]? = (currentVolume? events name).map infoOf := by
  induction events using List.reverseRecOn with
  | nil => rfl
  | append_singleton events event ih =>
    rw [after_concat, getElem?_volumes_handle, currentVolume?_concat]
    cases volumeAt? name event with
    | none => exact ih
    | some delivery => rfl

/-! ### Buckets and totals -/

/-- The volumes of a class stand in the order of their names. -/
theorem pairwise_volumesOf (index : StorageIndex) (storageClass : String) :
    (index.volumesOf storageClass).Pairwise (·.1 < ·.1) := by
  refine List.Pairwise.filter _ (index.volumes.ordered_keys_toList.imp fun hlt => ?_)
  exact compareOfLessAndEq_eq_lt.mp hlt

/-- The view of a volume shows what is used of it. -/
theorem view_used (index : StorageIndex) (sample : UsageSample) (name : String)
    (info : VolumeInfo) :
    (index.view sample name info).used = sample.usedOf name := by
  unfold view UsageSample.usedOf
  cases sample.volume? name <;> rfl

/-- The used bytes of a volume are the same in its view and in its room. -/
theorem roomOf_used (index : StorageIndex) (sample : UsageSample) (name : String) :
    (index.roomOf sample name).used = sample.usedOf name := by
  unfold roomOf UsageSample.usedOf
  cases sample.volume? name <;> rfl

/-- The totals that are added up over volumes are the sums of what they offer and of what is
used of them. -/
theorem foldl_totals (sample : UsageSample) (volumes : List (String × VolumeInfo)) :
    volumes.foldl (fun (before : StorageTotal) volume =>
        ⟨before.total + volume.2.capacity, before.used + sample.usedOf volume.1⟩) ⟨0, 0⟩ =
      ⟨(volumes.map (·.2.capacity)).sum,
        (volumes.map fun volume => sample.usedOf volume.1).sum⟩ := by
  rw [List.sum_eq_foldl, List.sum_eq_foldl]
  induction volumes using List.reverseRecOn with
  | nil => rfl
  | append_singleton volumes last ih => simp [ih]

/-- A class that has volumes has totals, namely the sums over these. -/
theorem getElem?_classTotals (index : StorageIndex) (sample : UsageSample) (storageClass : String) :
    (index.classTotals sample)[storageClass]? =
      if index.volumesOf storageClass = [] then none
      else some ⟨((index.volumesOf storageClass).map (·.2.capacity)).sum,
        ((index.volumesOf storageClass).map fun volume => sample.usedOf volume.1).sum⟩ := by
  rw [← foldl_totals]
  exact getElem?_foldl_group (fun volume : String × VolumeInfo => volume.2.storageClass)
    (⟨0, 0⟩ : StorageTotal)
    (fun before volume =>
      ⟨before.total + volume.2.capacity, before.used + sample.usedOf volume.1⟩)
    index.volumes.toList storageClass

/-! ### The partition -/

/-- With a usage sample, an index shows the volumes that are there after some events by their
classes, and what it tells of classes and chains agrees with that. -/
structure Classified (index : StorageIndex) (events : List ClusterEvent) (sample : UsageSample) :
    Prop where
  /-- A volume is shown in a class exactly if it is there and its last delivered version belongs
  to the class. -/
  listed : ∀ name storageClass : String,
    (∃ view ∈ (index.classify sample)[storageClass]?.getD [], view.name = name) ↔
      ∃ volume, currentVolume? events name = some volume ∧
        volume.storageClass.getD "" = storageClass
  /-- A volume is shown with its class, with what its last delivered version offers, and with what
  is used of it. -/
  shown : ∀ storageClass : String, ∀ view ∈ (index.classify sample)[storageClass]?.getD [],
    view.storageClass = storageClass ∧ view.used = sample.usedOf view.name ∧
      ∃ volume, currentVolume? events view.name = some volume ∧
        view.total = volume.capacityBytes
  /-- No class is shown without volumes, and those of a class stand in the order of their names,
  each of them once. -/
  buckets : ∀ (storageClass : String) (views : List VolumeView),
    (index.classify sample)[storageClass]? = some views →
      views ≠ [] ∧ views.Pairwise (·.name < ·.name)
  /-- The classes that have totals are those that are shown. -/
  classes : ∀ storageClass : String,
    storageClass ∈ index.classTotals sample ↔ storageClass ∈ index.classify sample
  /-- The totals of a class are the sums of what is shown of its volumes. -/
  totals : ∀ (storageClass : String) (total : StorageTotal) (views : List VolumeView),
    (index.classTotals sample)[storageClass]? = some total →
      (index.classify sample)[storageClass]? = some views →
      IsSum total.total (views.map VolumeView.total) ∧
        IsSum total.used (views.map VolumeView.used)
  /-- A chain leads to a volume that is bound to its claim in the namespace, with the used bytes
  that are shown of the volume wherever it is shown. -/
  chains : ∀ ns : String, ∀ chain ∈ index.volumeChains sample ns,
    index.boundClaims[chain.volume]? = some (claimKey ns chain.claim) ∧
      ∀ storageClass : String, ∀ view ∈ (index.classify sample)[storageClass]?.getD [],
        view.name = chain.volume → view.used = chain.used

/-- What is shown in a class are the volumes that are there and whose last delivered versions
belong to it. -/
theorem mem_classify_after {storageClass : String} {view : VolumeView} :
    view ∈ ((after events).classify sample)[storageClass]?.getD [] ↔
      ∃ name volume, currentVolume? events name = some volume ∧
        volume.storageClass.getD "" = storageClass ∧
        (after events).view sample name (infoOf volume) = view := by
  simp only [mem_classify, volumes_after, Option.map_eq_some_iff]
  constructor
  · rintro ⟨name, info, ⟨volume, hvolume, rfl⟩, hclass, hview⟩
    exact ⟨name, volume, hvolume, hclass, hview⟩
  · rintro ⟨name, volume, hvolume, hclass, hview⟩
    exact ⟨name, infoOf volume, ⟨volume, hvolume, rfl⟩, hclass, hview⟩

/-- The views of a class, where it is shown, are those of its volumes, of which there are some. -/
theorem getElem?_classify_eq_some_iff {storageClass : String} {views : List VolumeView} :
    (index.classify sample)[storageClass]? = some views ↔ index.volumesOf storageClass ≠ [] ∧
      (index.volumesOf storageClass).map
        (fun volume => index.view sample volume.1 volume.2) = views := by
  rw [getElem?_classify, Option.ite_none_left_eq_some, Option.some.injEq]

/-- The totals of a class that is shown are the sums of what is shown of its volumes. -/
theorem isSum_classTotals {storageClass : String} {total : StorageTotal} {views : List VolumeView}
    (htotal : (index.classTotals sample)[storageClass]? = some total)
    (hviews : (index.classify sample)[storageClass]? = some views) :
    IsSum total.total (views.map VolumeView.total) ∧
      IsSum total.used (views.map VolumeView.used) := by
  obtain ⟨hsome, rfl⟩ := getElem?_classify_eq_some_iff.mp hviews
  rw [getElem?_classTotals, if_neg hsome] at htotal
  obtain rfl := Option.some.inj htotal
  simp only [List.map_map, Function.comp_def, view_used]
  exact ⟨isSum_sum _, isSum_sum _⟩

/-- A chain of a namespace leads by a claim of the namespace to a volume that is bound to it. -/
theorem boundClaims_of_mem_volumeChains {ns : String} {chain : VolumeChain}
    (h : chain ∈ (after events).volumeChains sample ns) :
    (after events).boundClaims[chain.volume]? = some (claimKey ns chain.claim) ∧
      chain.used = sample.usedOf chain.volume := by
  obtain ⟨claim, hbound, rfl, hthrough⟩ := mem_volumeChains.mp h
  obtain ⟨pod, -, hchain⟩ := List.mem_map.mp hthrough
  have hname : chain.claim = claimName claim := by rw [← hchain]
  have hused : chain.used = ((after events).roomOf sample chain.volume).used := by rw [← hchain]
  rw [hname, claimKey_split (hasSeparator_of_boundClaims hbound), hused, roomOf_used]
  exact ⟨hbound, rfl⟩

/-- After any history of events and with any usage sample, the classes are a partition of the
volumes that are there, and the totals of the classes and the chains of the pods agree with
what is shown. -/
theorem classified_after (events : List ClusterEvent) (sample : UsageSample) :
    (after events).Classified events sample where
  listed name storageClass := by
    constructor
    · rintro ⟨view, hview, rfl⟩
      obtain ⟨name, volume, hvolume, hclass, rfl⟩ := mem_classify_after.mp hview
      exact ⟨volume, hvolume, hclass⟩
    · rintro ⟨volume, hvolume, hclass⟩
      exact ⟨_, mem_classify_after.mpr ⟨name, volume, hvolume, hclass, rfl⟩, rfl⟩
  shown storageClass view hview := by
    obtain ⟨name, volume, hvolume, hclass, rfl⟩ := mem_classify_after.mp hview
    exact ⟨hclass, view_used _ sample name _, volume, hvolume, rfl⟩
  buckets storageClass views hviews := by
    obtain ⟨hsome, rfl⟩ := getElem?_classify_eq_some_iff.mp hviews
    refine ⟨fun hnone => hsome (List.map_eq_nil_iff.mp hnone), ?_⟩
    exact List.pairwise_map.mpr ((after events).pairwise_volumesOf storageClass)
  classes storageClass := by
    rw [Std.ExtTreeMap.mem_iff_isSome_getElem?, Std.ExtTreeMap.mem_iff_isSome_getElem?,
      getElem?_classTotals, getElem?_classify]
    by_cases hnone : (after events).volumesOf storageClass = [] <;> simp [hnone]
  totals storageClass total views htotal hviews := isSum_classTotals htotal hviews
  chains ns chain hchain := by
    obtain ⟨hbound, hused⟩ := boundClaims_of_mem_volumeChains hchain
    refine ⟨hbound, fun storageClass view hview hname => ?_⟩
    obtain ⟨name, volume, -, -, rfl⟩ := mem_classify_after.mp hview
    -- the view and the chain look for the same volume in the same sample
    calc ((after events).view sample name (infoOf volume)).used
      _ = sample.usedOf name := view_used _ sample name _
      _ = sample.usedOf chain.volume := by rw [← hname]; rfl
      _ = chain.used := hused.symm

end StorageIndex

end ClusterWatch
