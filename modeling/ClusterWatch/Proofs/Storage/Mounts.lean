import ClusterWatch.Proofs.Storage.Queries
import ClusterWatch.Proofs.Watch.KindDeliveries
import ClusterWatch.Proofs.Watch.Tracking

/-!
# Pods and the claims that they mount

The storage projection keeps the claims of every pod, and the pods of every claim. After any history
of events each of the two tells the other, and both tell the last delivered versions of the pods.

* `mountedClaims` — the claims that a pod mounts after a history.
* `StorageIndex.mem_podsAt_foldl_dropPod`, `mem_podsAt_foldl_addPod` — the pods of a claim after a
  pod is taken from some claims and put to others.
* `StorageIndex.Mirrors` — the invariant; `mirrors_after` — it holds after any history.
* `StorageIndex.mounts_after` — what both indices hold, and what is shown of the pods
  of a bound claim.
-/

namespace ClusterWatch

open ClusterObject (hasSeparator joined_inj)

/-! ### The claims of a pod -/

/-- Keys of claims tell the claims apart, as namespaces have no separator in them. -/
theorem claimKey_inj {ns other name otherName : String} (hns : hasSeparator ns = false)
    (hother : hasSeparator other = false) :
    claimKey ns name = claimKey other otherName ↔ ns = other ∧ name = otherName :=
  joined_inj hns hother

/-- A pod mounts the claims of its namespace that it names. -/
theorem Pod.mem_claims {pod : Pod} {claim : String} :
    claim ∈ pod.claims ↔
      ∃ name ∈ pod.claimNames, name ≠ "" ∧
        claimKey (ClusterObject.ns pod) name = claim := by
  rw [Pod.claims, Std.ExtTreeSet.mem_ofList, List.contains_iff_mem]
  simp [and_assoc]

/-- The claims that a pod mounts after the events. -/
def mountedClaims (events : List ClusterEvent) (ns name : String) : Std.ExtTreeSet String :=
  ((PublishedKind.pods.current? events ns name).map Pod.claims).getD ∅

/-- The claims that a pod mounts are those of the version that has been delivered last. -/
theorem mem_mountedClaims {events : List ClusterEvent} {ns name claim : String} :
    claim ∈ mountedClaims events ns name ↔
      ∃ pod, PublishedKind.pods.current? events ns name = some pod ∧ claim ∈ pod.claims := by
  rw [mountedClaims]
  cases PublishedKind.pods.current? events ns name <;> simp

/-- A delivery of a pod replaces the claims that the pod mounts. -/
theorem mountedClaims_concat (events : List ClusterEvent) (delivery : Delivery Pod)
    (ns name : String) :
    mountedClaims (events ++ [.pods delivery]) ns name =
      if ClusterObject.ns delivery.object = ns ∧ ClusterObject.name delivery.object = name then
        (delivery.current?.map Pod.claims).getD ∅
      else mountedClaims events ns name := by
  rw [mountedClaims]
  refine (congrArg (fun pod => (Option.map Pod.claims pod).getD ∅)
    (PublishedKind.pods.current?_concat_wrap events delivery ns name)).trans ?_
  split <;> rfl

/-- The claims that a pod mounts belong to its namespace. -/
theorem exists_of_mem_mountedClaims {events : List ClusterEvent} {ns name claim : String}
    (h : claim ∈ mountedClaims events ns name) : ∃ own, claim = claimKey ns own := by
  obtain ⟨pod, hpod, hclaim⟩ := mem_mountedClaims.mp h
  obtain ⟨own, -, -, rfl⟩ := Pod.mem_claims.mp hclaim
  obtain ⟨_, -, -, rfl, -⟩ := PublishedKind.exists_of_current? hpod
  exact ⟨own, rfl⟩

namespace StorageIndex

/-! ### The pods of a claim -/

/-- No claim is kept without pods. -/
def Occupied (claimPods : ClaimPods) : Prop :=
  ∀ (claim : String) (pods : Std.ExtTreeSet String), claimPods[claim]? =
    some pods → pods ≠ ∅

/-- A pod that is dropped from a claim is gone from that claim only. -/
theorem podsAt_dropPod (claimPods : ClaimPods) (pod claim other : String) :
    podsAt (dropPod claimPods pod claim) other =
      if claim = other then (podsAt claimPods other).erase pod else podsAt claimPods other := by
  rw [dropPod]
  cases hpods : claimPods[claim]? with
  | none =>
    simp only
    split
    next hclaim =>
      subst hclaim
      simp [podsAt, hpods]
    next => rfl
  | some pods =>
    simp only
    split
    next hempty =>
      -- the last pod of the claim is dropped, and with it the claim
      rw [podsAt, Std.ExtTreeMap.getElem?_erase]
      simp only [Std.LawfulEqCmp.compare_eq_iff_eq]
      split
      next hclaim =>
        subst hclaim
        rw [podsAt, hpods, Option.getD_some, Option.getD_none, Std.ExtTreeSet.isEmpty_iff.mp hempty]
      next => rfl
    next =>
      rw [podsAt, Std.ExtTreeMap.getElem?_insert]
      simp only [Std.LawfulEqCmp.compare_eq_iff_eq]
      split
      next hclaim =>
        subst hclaim
        rw [podsAt, hpods, Option.getD_some, Option.getD_some]
      next => rfl

/-- A pod that is added to a claim is there at that claim only. -/
theorem podsAt_addPod (claimPods : ClaimPods) (pod claim other : String) :
    podsAt (addPod claimPods pod claim) other =
      if claim = other then (podsAt claimPods other).insert pod else podsAt claimPods other := by
  rw [addPod, podsAt, Std.ExtTreeMap.getElem?_insert]
  simp only [Std.LawfulEqCmp.compare_eq_iff_eq]
  split
  next hclaim =>
    subst hclaim
    rfl
  next => rfl

/-- Dropping a pod leaves no claim without pods. -/
theorem Occupied.dropPod {claimPods : ClaimPods} (h : Occupied claimPods) (pod claim : String) :
    Occupied (dropPod claimPods pod claim) := by
  rw [StorageIndex.dropPod]
  cases claimPods[claim]? with
  | none => exact h
  | some pods =>
    simp only
    -- a claim that loses its last pod is dropped as well
    split
    next => exact forall_getElem?_erase h claim
    next hpods =>
      exact forall_getElem?_insert h fun hempty => hpods (Std.ExtTreeSet.isEmpty_iff.mpr hempty)

/-- Nor does adding one. -/
theorem Occupied.addPod {claimPods : ClaimPods} (h : Occupied claimPods) (pod claim : String) :
    Occupied (addPod claimPods pod claim) := by
  refine forall_getElem?_insert h fun hempty => ?_
  exact Std.ExtTreeSet.eq_empty_iff_forall_not_mem.mp hempty pod Std.ExtTreeSet.mem_insert_self

section Claims

variable {claimPods : ClaimPods} (pod : String) (claims : List String)

/-- Dropping a pod from several claims leaves none of them without pods. -/
theorem Occupied.foldl_dropPod (h : Occupied claimPods) :
    Occupied (claims.foldl (StorageIndex.dropPod · pod) claimPods) := by
  induction claims generalizing claimPods with
  | nil => exact h
  | cons claim rest ih => exact ih (h.dropPod pod claim)

/-- Nor does adding one to several claims. -/
theorem Occupied.foldl_addPod (h : Occupied claimPods) :
    Occupied (claims.foldl (StorageIndex.addPod · pod) claimPods) := by
  induction claims generalizing claimPods with
  | nil => exact h
  | cons claim rest ih => exact ih (h.addPod pod claim)

/-- Dropping a pod from claims takes its name, and no other, from each of them. -/
theorem mem_podsAt_foldl_dropPod {claim name : String} :
    name ∈ podsAt (claims.foldl (StorageIndex.dropPod · pod) claimPods) claim ↔
      name ∈ podsAt claimPods claim ∧ ¬ (name = pod ∧ claim ∈ claims) := by
  induction claims generalizing claimPods with
  | nil => simp
  | cons first rest ih =>
    rw [List.foldl_cons, ih, podsAt_dropPod]
    -- the first claim loses the pod, and the rest is as by induction
    by_cases hfirst : first = claim
    · subst hfirst
      rw [if_pos rfl, Std.ExtTreeSet.mem_erase]
      simp only [ne_eq, Std.LawfulEqCmp.compare_eq_iff_eq, List.mem_cons, true_or, and_true]
      grind
    · rw [if_neg hfirst, List.mem_cons]
      grind

/-- Adding a pod to claims puts its name, and no other, to each of them. -/
theorem mem_podsAt_foldl_addPod {claim name : String} :
    name ∈ podsAt (claims.foldl (StorageIndex.addPod · pod) claimPods) claim ↔
      name ∈ podsAt claimPods claim ∨ (name = pod ∧ claim ∈ claims) := by
  induction claims generalizing claimPods with
  | nil => simp
  | cons first rest ih =>
    rw [List.foldl_cons, ih, podsAt_addPod]
    by_cases hfirst : first = claim
    · subst hfirst
      rw [if_pos rfl, Std.ExtTreeSet.mem_insert]
      simp only [Std.LawfulEqCmp.compare_eq_iff_eq, List.mem_cons, true_or, and_true]
      grind
    · rw [if_neg hfirst, List.mem_cons]
      grind

end Claims

/-- Keeping claims under a key, unless there are none, replaces what stands under the key. -/
theorem getD_keep (podClaims : Std.ExtTreeMap String (Std.ExtTreeSet String)) (key : String)
    (claims : Std.ExtTreeSet String) (other : String) :
    ((if claims.isEmpty then podClaims.erase key
        else podClaims.insert key claims)[other]?).getD ∅ =
      if key = other then claims else podClaims[other]?.getD ∅ := by
  -- claims that are not kept count as none
  split
  next hempty =>
    simp only [Std.ExtTreeMap.getElem?_erase, Std.LawfulEqCmp.compare_eq_iff_eq]
    split
    next => exact (Std.ExtTreeSet.isEmpty_iff.mp hempty).symm
    next => rfl
  next =>
    simp only [Std.ExtTreeMap.getElem?_insert, Std.LawfulEqCmp.compare_eq_iff_eq]
    split <;> rfl

/-! ### Two indices for one relation -/

/-- The index after events that begin with nothing known. -/
def after (events : List ClusterEvent) : StorageIndex :=
  events.foldl handle empty

/-- The index after a further event is what that event makes of it. -/
theorem after_concat (events : List ClusterEvent) (event : ClusterEvent) :
    after (events ++ [event]) = (after events).handle event := by
  simp [after]

/-- No event is a delivery of a pod whose namespace contains the separator of keys. -/
def PodsAddressable (events : List ClusterEvent) : Prop :=
  ∀ delivery, .pods delivery ∈ events →
    hasSeparator (ClusterObject.ns delivery.object) = false

/-- Both indices tell which pods mount which claims after some events. -/
structure Mirrors (index : StorageIndex) (events : List ClusterEvent) : Prop where
  /-- By the name of a pod stand the claims that it mounts. -/
  claims : ∀ ns name, hasSeparator ns = false →
    index.podClaims[claimKey ns name]?.getD ∅ = mountedClaims events ns name
  /-- A pod that mounts no claim is not kept, and neither is anything else. -/
  kept : ∀ (key : String) (claims : Std.ExtTreeSet String), index.podClaims[key]? =
    some claims →
    claims ≠ ∅ ∧ ∃ ns name, hasSeparator ns = false ∧ key = claimKey ns name
  /-- By a claim stand the names of the pods that mount it. -/
  pods : ∀ claim name, name ∈ podsAt index.claimPods claim ↔
    ∃ ns, hasSeparator ns = false ∧ claim ∈ mountedClaims events ns name
  /-- A claim that no pod mounts is not kept. -/
  occupied : Occupied index.claimPods

/-- An empty index mirrors an empty history. -/
theorem mirrors_empty : empty.Mirrors [] where
  claims _ _ _ := by simp [empty, mountedClaims, PublishedKind.current?, PublishedKind.last?]
  kept _ _ h := by simp [empty] at h
  pods _ _ := by simp [empty, podsAt, mountedClaims, PublishedKind.current?, PublishedKind.last?]
  occupied _ _ h := by simp [empty] at h

variable {index : StorageIndex} {events : List ClusterEvent}

/-- What leaves pods and their claims alone keeps the indices right. -/
theorem Mirrors.congr (h : index.Mirrors events) {next : StorageIndex} {later : List ClusterEvent}
    (hclaims : next.podClaims = index.podClaims) (hpods : next.claimPods = index.claimPods)
    (hevents : ∀ ns name,
      PublishedKind.pods.current? later ns name = PublishedKind.pods.current? events ns name) :
    next.Mirrors later := by
  -- what is mounted is read off the last versions of the pods
  have hmounted (ns name : String) :
      mountedClaims later ns name = mountedClaims events ns name := by
    rw [mountedClaims, mountedClaims, hevents]
  refine ⟨?_, ?_, ?_, ?_⟩
  · simpa only [hclaims, hmounted] using h.claims
  · simpa only [hclaims] using h.kept
  · simpa only [hpods, hmounted] using h.pods
  · simpa only [hpods] using h.occupied

/-- A pod of another namespace mounts none of the claims that a pod mounts. -/
theorem ns_eq_of_mem_mountedClaims {ns other name otherName claim : String}
    (hns : hasSeparator ns = false) (hother : hasSeparator other = false)
    (hclaim : claim ∈ mountedClaims events ns name)
    (hotherClaim : claim ∈ mountedClaims events other otherName) : ns = other := by
  obtain ⟨own, rfl⟩ := exists_of_mem_mountedClaims hclaim
  obtain ⟨own', heq⟩ := exists_of_mem_mountedClaims hotherClaim
  exact ((claimKey_inj hns hother).mp heq).1

/-- Handling a delivery of a pod keeps the indices right. -/
theorem Mirrors.onPod (h : index.Mirrors events) {delivery : Delivery Pod}
    (hns : hasSeparator (ClusterObject.ns delivery.object) = false) :
    (index.onPod delivery).Mirrors (events ++ [.pods delivery]) := by
  obtain ⟨ns, hnsEq⟩ : ∃ ns, ns = ClusterObject.ns delivery.object := ⟨_, rfl⟩
  obtain ⟨pod, hpodEq⟩ : ∃ pod, pod = ClusterObject.name delivery.object := ⟨_, rfl⟩
  obtain ⟨claims, hclaimsEq⟩ :
      ∃ claims, claims = (delivery.current?.map Pod.claims).getD ∅ := ⟨_, rfl⟩
  have hmounted (other name : String) : mountedClaims (events ++ [.pods delivery]) other name =
      if ns = other ∧ pod = name then claims else mountedClaims events other name := by
    rw [mountedClaims_concat, hnsEq, hpodEq, hclaimsEq]
  have hprevious : index.podClaims[claimKey ns pod]?.getD ∅ = mountedClaims events ns pod :=
    h.claims ns pod (hnsEq ▸ hns)
  rw [← hnsEq] at hns
  simp only [StorageIndex.onPod, ← hnsEq, ← hpodEq, ← hclaimsEq, hprevious]
  refine ⟨fun other name hother => ?_, fun key stored hstored => ?_, fun claim name => ?_, ?_⟩
  · rw [getD_keep, hmounted, h.claims other name hother]
    exact if_congr (claimKey_inj hns hother) rfl rfl
  · -- what is kept was kept before, or is this pod with claims to mount
    split at hstored
    next => exact forall_getElem?_erase h.kept _ key stored hstored
    next hclaims =>
      have hne : claims ≠ ∅ := fun hempty => hclaims (Std.ExtTreeSet.isEmpty_iff.mpr hempty)
      exact forall_getElem?_insert h.kept ⟨hne, ns, pod, hns, rfl⟩ key stored hstored
  · rw [mem_podsAt_foldl_addPod, mem_podsAt_foldl_dropPod, h.pods]
    simp only [Std.ExtTreeSet.mem_toList, Std.ExtTreeSet.mem_diff_iff]
    constructor
    · rintro (⟨⟨other, hother, hclaim⟩, hstays⟩ | ⟨rfl, hclaim⟩)
      · refine ⟨other, hother, ?_⟩
        rw [hmounted]
        split
        next hown =>
          -- the pod mounted the claim before, and does not drop it
          obtain ⟨rfl, rfl⟩ := hown
          by_contra hdropped
          exact hstays ⟨rfl, hclaim, hdropped⟩
        next => exact hclaim
      · exact ⟨ns, hns, by rwa [hmounted, if_pos ⟨rfl, rfl⟩]⟩
    · rintro ⟨other, hother, hclaim⟩
      rw [hmounted] at hclaim
      split at hclaim
      next hown => exact Or.inr ⟨hown.2.symm, hclaim⟩
      next hown =>
        refine Or.inl ⟨⟨other, hother, hclaim⟩, ?_⟩
        rintro ⟨rfl, hdropped, -⟩
        -- a pod of the same name drops no claim of another namespace
        exact hown ⟨ns_eq_of_mem_mountedClaims hns hother hdropped hclaim, rfl⟩
  · exact (h.occupied.foldl_dropPod pod _).foldl_addPod pod _

/-- Any event keeps the indices right. -/
theorem Mirrors.handle (h : index.Mirrors events) {event : ClusterEvent}
    (hevent : ∀ delivery, event = .pods delivery →
      hasSeparator (ClusterObject.ns delivery.object) = false) :
    (index.handle event).Mirrors (events ++ [event]) := by
  have hother (hne : ∀ delivery, event ≠ .pods delivery) (ns name : String) :=
    PublishedKind.pods.current?_concat_of_ne hne events ns name
  cases event with
  | pods delivery => exact h.onPod (hevent delivery rfl)
  -- volumes and claims leave what is kept of the pods
  | persistentVolumes delivery =>
    refine h.congr ?_ ?_ (hother fun _ => nofun)
    all_goals
      rw [StorageIndex.handle, onVolume]
      cases delivery.current? <;> rfl
  | persistentVolumeClaims delivery =>
    refine h.congr ?_ ?_ (hother fun _ => nofun)
    all_goals
      rw [StorageIndex.handle, onClaim]
      cases delivery.current?.bind namedVolume? <;> rfl
  | _ => exact h.congr rfl rfl (hother fun _ => nofun)

/-- After any history of events both indices tell which pods mount which claims. -/
theorem mirrors_after (hevents : PodsAddressable events) : (after events).Mirrors events := by
  induction events using List.reverseRecOn with
  | nil => exact mirrors_empty
  | append_singleton events event ih =>
    rw [after_concat]
    refine (ih fun delivery hdelivery => ?_).handle fun delivery hdelivery => ?_
    · exact hevents delivery (List.mem_append_left _ hdelivery)
    · exact hevents delivery (List.mem_append_right _ (List.mem_singleton.mpr hdelivery.symm))

/-! ### What the indices hold, and what is shown of them -/

/-- A pod that is there lives in a namespace without the separator of keys. -/
theorem PodsAddressable.hasSeparator_eq_false (hevents : PodsAddressable events) {ns name : String}
    {pod : Pod} (hpod : PublishedKind.pods.current? events ns name = some pod) :
    hasSeparator ns = false := by
  obtain ⟨delivery, hmem, hcurrent, rfl, -⟩ := PublishedKind.exists_of_current? hpod
  rw [← Delivery.object_of_current? hcurrent]
  exact hevents delivery hmem

/-- Some names are those of the pods that mount a claim after the events, each of them once
and in order. -/
structure ListsUsers (events : List ClusterEvent) (claim : String) (pods : List String) : Prop where
  /-- The names stand in order, each of them once. -/
  order : pods.Pairwise (· < ·)
  /-- They are the names of the pods that are there and mount the claim. -/
  mem_iff : ∀ name, name ∈ pods ↔
    ∃ ns pod, PublishedKind.pods.current? events ns name = some pod ∧ claim ∈ pod.claims

/-- What an index holds of pods and claims after some events, and what is shown of them. -/
structure Mounts (index : StorageIndex) (events : List ClusterEvent) : Prop where
  /-- The pods that are there and mount a claim are kept, each with exactly its claims, and
  nothing else is. -/
  podClaims : ∀ (key : String) (claims : Std.ExtTreeSet String), index.podClaims[key]? =
    some claims ↔
    claims ≠ ∅ ∧ ∃ ns name pod, key = claimKey ns name ∧
      PublishedKind.pods.current? events ns name = some pod ∧ pod.claims = claims
  /-- By a claim stand the names of the pods of its namespace that are kept with the claim. -/
  claimPods : ∀ ns own name, hasSeparator ns = false →
    (name ∈ podsAt index.claimPods (claimKey ns own) ↔
      ∃ claims : Std.ExtTreeSet String, index.podClaims[claimKey ns name]? = some claims ∧
        claimKey ns own ∈ claims)
  /-- Only claims of a namespace are kept, and none of them without pods. -/
  occupied : ∀ (claim : String) (pods : Std.ExtTreeSet String),
    index.claimPods[claim]? = some pods →
    pods ≠ ∅ ∧ ∃ ns own, hasSeparator ns = false ∧ claim = claimKey ns own
  /-- A volume that is bound to a claim is shown in its class, with the claim. -/
  shown : ∀ (sample : UsageSample) (volume claim : String) (info : VolumeInfo),
    index.volumes[volume]? = some info → index.boundClaims[volume]? = some claim →
    ∃ view ∈ (index.classify sample)[info.storageClass]?.getD [], view.name = volume ∧
      view.claim = some claim
  /-- Wherever a volume is shown with a claim, the pods that mount the claim are listed. -/
  views : ∀ (sample : UsageSample) (storageClass : String),
    ∀ view ∈ (index.classify sample)[storageClass]?.getD [], ∀ claim, view.claim =
      some claim → ListsUsers events claim view.pods
  /-- The chains to a volume that is bound to a claim lead from the pods that mount the
  claim, in order. -/
  chains : ∀ (sample : UsageSample) (volume claim : String), index.boundClaims[volume]? =
    some claim → ListsUsers events claim
      (((index.volumeChains sample (claimNamespace claim)).filter (·.volume = volume)).map
        VolumeChain.pod)
  /-- Every chain of a namespace leads by a binding to a claim of it. -/
  bound : ∀ (sample : UsageSample) (ns : String), ∀ chain ∈
    index.volumeChains sample ns, ∃ claim,
    index.boundClaims[chain.volume]? = some claim ∧ claimNamespace claim = ns ∧
      chain.claim = claimName claim

/-- The pods of a claim are listed as those that mount it. -/
theorem Mirrors.listsUsers (h : index.Mirrors events) (hevents : PodsAddressable events)
    (claim : String) :
    ListsUsers events claim (index.podsOf claim) where
  order := index.pairwise_podsOf claim
  mem_iff name := by
    rw [mem_podsOf, h.pods]
    -- the indices know of pods in addressable namespaces, which all of them are
    simp only [mem_mountedClaims]
    constructor
    · rintro ⟨ns, -, hpod⟩
      exact ⟨ns, hpod⟩
    · rintro ⟨ns, pod, hpod, hclaim⟩
      exact ⟨ns, hevents.hasSeparator_eq_false hpod, pod, hpod, hclaim⟩

/-- A pod is kept exactly with the claims that it mounts. -/
theorem Mirrors.podClaims_iff (h : index.Mirrors events) (hevents : PodsAddressable events)
    (key : String) (claims : Std.ExtTreeSet String) :
    index.podClaims[key]? = some claims ↔
      claims ≠ ∅ ∧ ∃ ns name pod, key = claimKey ns name ∧
        PublishedKind.pods.current? events ns name = some pod ∧ pod.claims = claims := by
  constructor
  · intro hkept
    -- the key is that of a pod, whose claims are those that it mounts
    obtain ⟨hne, ns, name, hns, rfl⟩ := h.kept key claims hkept
    have hmounted := h.claims ns name hns
    rw [hkept, Option.getD_some, mountedClaims] at hmounted
    cases hpod : PublishedKind.pods.current? events ns name with
    | none =>
      rw [hpod] at hmounted
      exact absurd hmounted hne
    | some pod =>
      rw [hpod] at hmounted
      exact ⟨hne, ns, name, pod, rfl, hpod, hmounted.symm⟩
  · rintro ⟨hne, ns, name, pod, rfl, hpod, rfl⟩
    -- a pod with claims is kept, as what is not kept mounts none
    have hmounted := h.claims ns name (hevents.hasSeparator_eq_false hpod)
    rw [mountedClaims, hpod, Option.map_some, Option.getD_some] at hmounted
    cases hkept : index.podClaims[claimKey ns name]? with
    | none =>
      rw [hkept] at hmounted
      exact absurd hmounted.symm hne
    | some claims =>
      rw [hkept] at hmounted
      exact congrArg some hmounted

/-- The pods of a claim are those of its namespace that are kept with the claim. -/
theorem Mirrors.mem_podsAt_iff (h : index.Mirrors events) {ns : String}
    (hns : hasSeparator ns = false) (own name : String) :
    name ∈ podsAt index.claimPods (claimKey ns own) ↔
      ∃ claims : Std.ExtTreeSet String, index.podClaims[claimKey ns name]? = some claims ∧
        claimKey ns own ∈ claims := by
  have hkept :
      (∃ claims : Std.ExtTreeSet String, index.podClaims[claimKey ns name]? = some claims ∧
      claimKey ns own ∈ claims) ↔ claimKey ns own ∈ mountedClaims events ns name := by
    rw [← h.claims ns name hns]
    cases index.podClaims[claimKey ns name]? <;> simp
  -- the key of the claim tells the namespace of its pods
  rw [hkept, h.pods]
  constructor
  · rintro ⟨other, hother, hclaim⟩
    obtain ⟨_, heq⟩ := exists_of_mem_mountedClaims hclaim
    obtain rfl := ((claimKey_inj hns hother).mp heq).1
    exact hclaim
  · exact fun hclaim => ⟨ns, hns, hclaim⟩

/-- After any history of events in which the namespaces of pods contain no separator, both
indices hold which pods mount which claims, and the pods that are shown of a bound claim are
those that mount it. -/
theorem mounts_after (hevents : PodsAddressable events) : (after events).Mounts events := by
  have h := mirrors_after hevents
  exact {
    podClaims := h.podClaims_iff hevents
    claimPods := fun ns own name hns => h.mem_podsAt_iff hns own name
    occupied := fun claim pods hpods => by
      have hne := h.occupied claim pods hpods
      obtain ⟨name, hname⟩ : ∃ name, name ∈ pods := by
        simpa [Std.ExtTreeSet.eq_empty_iff_forall_not_mem] using hne
      -- a pod of the claim tells its namespace
      obtain ⟨ns, hns, hclaim⟩ := (h.pods claim name).mp (by rwa [podsAt, hpods])
      obtain ⟨own, rfl⟩ := exists_of_mem_mountedClaims hclaim
      exact ⟨hne, ns, own, hns, rfl⟩
    shown := fun sample volume claim info hvolume hbound =>
      ⟨_, mem_classify.mpr ⟨volume, info, hvolume, rfl, rfl⟩, rfl, hbound⟩
    views := fun sample storageClass view hview claim hclaim => by
      obtain ⟨name, info, -, -, rfl⟩ := mem_classify.mp hview
      rw [view_pods hclaim]
      exact h.listsUsers hevents claim
    chains := fun sample volume claim hbound => by
      rw [filter_volumeChains sample hbound, chainsThrough, List.map_map]
      exact (List.map_id _).symm ▸ h.listsUsers hevents claim
    bound := fun sample ns chain hchain => by
      obtain ⟨claim, hbound, hns, hthrough⟩ := mem_volumeChains.mp hchain
      obtain ⟨pod, -, hpod⟩ := List.mem_map.mp hthrough
      exact ⟨claim, hbound, hns, by rw [← hpod]⟩ }

/-- Two pods of a namespace mount a claim that a volume is bound to, and so does a pod of another
namespace with a claim of the same name. When the first pod moves on to another claim, only the
second one is left to the volume. -/
theorem mounts_after_move :
    let pod (ns name version : String) (claim : String) : Pod :=
      ⟨{ Metadata.basic name version with ns := some ns }, none, [claim], none⟩
    let volume : PersistentVolume :=
      ⟨.basic "disk" "1", ∅, none, some ⟨some "default", some "data"⟩, []⟩
    let history : List ClusterEvent := [
      .pods (.created (pod "default" "db-0" "2" "data")),
      .pods (.created (pod "default" "db-1" "3" "data")),
      .pods (.created (pod "test" "db-0" "4" "data")),
      .persistentVolumes (.created volume),
      .pods (.updated (pod "default" "db-0" "2" "data") (pod "default" "db-0" "5" "logs"))]
    PodsAddressable history ∧ (after history).Mounts history ∧
      ((after history).volumeChains ∅ "default").map VolumeChain.pod = ["db-1"] := by
  intro pod volume history
  have hevents : PodsAddressable history := by
    intro delivery hdelivery
    simp only [history, List.mem_cons, ClusterEvent.pods.injEq, reduceCtorEq,
      List.not_mem_nil, or_false, false_or] at hdelivery
    -- none of the four deliveries of pods names a namespace with a separator
    rcases hdelivery with rfl | rfl | rfl | rfl <;> decide
  exact ⟨hevents, mounts_after hevents, by decide +kernel⟩

end StorageIndex

end ClusterWatch
