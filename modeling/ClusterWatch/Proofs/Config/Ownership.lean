import ClusterWatch.Config.Ownership
import ClusterWatch.Proofs.Collections

/-!
# Looking up the ownership index

What is recorded in the index, read as a relation between workloads and configs, and what the
operations on the index and its reverse questions mean in terms of it.

* `NamespaceIndex.References` — some workload of the namespace is recorded with the config.
* `mem_usersOf`, `isUsed_iff` — the reverse questions answer exactly that relation.
-/

namespace ClusterWatch

namespace NamespaceIndex

variable (index : NamespaceIndex)

/-- Some workload of the namespace is recorded with a config. -/
def References (ref : ConfigRef) : Prop :=
  ∃ (key : WorkloadKey) (refs : ConfigRefs), index.owners[key]? = some refs ∧ ref ∈ refs

/-- A workload refers to what has been recorded for it. -/
theorem mem_refsOf (key : WorkloadKey) (ref : ConfigRef) :
    ref ∈ index.refsOf key ↔ ∃ refs, index.owners[key]? = some refs ∧ ref ∈ refs := by
  rw [refsOf]
  cases index.owners[key]? with
  | none => simp
  | some refs => simp

/-- The users of a config are the workloads that are recorded with it. -/
theorem mem_usersOf (key : WorkloadKey) (ref : ConfigRef) :
    key ∈ index.usersOf ref ↔ ∃ refs, index.owners[key]? = some refs ∧ ref ∈ refs := by
  simp only [usersOf, mem_sortedBy, List.mem_map, List.mem_filter, Prod.exists,
    Std.ExtTreeMap.mem_toList_iff_getElem?_eq_some, Std.ExtTreeSet.contains_iff_mem]
  constructor
  · rintro ⟨_, refs, ⟨hrefs, href⟩, rfl⟩
    exact ⟨refs, hrefs, href⟩
  · rintro ⟨refs, hrefs, href⟩
    exact ⟨key, refs, ⟨hrefs, href⟩, rfl⟩

/-- The users of a config are sorted, and none of them is there twice. -/
theorem pairwise_usersOf (ref : ConfigRef) :
    (index.usersOf ref).Pairwise fun key other => compare key other = .lt := by
  rw [usersOf]
  refine pairwise_sortedBy id ?_ (fun _ _ _ => Std.TransCmp.isLE_trans) ?_ ?_
  · intro key other
    have hswap : compare other key = (compare key other).swap := Std.OrientedCmp.eq_swap
    rw [hswap]
    cases compare key other <;> decide
  · intro key other hle hne
    rcases Ordering.isLE_iff_eq_lt_or_eq_eq.mp hle with hlt | heq
    · exact hlt
    · exact absurd (Std.LawfulEqCmp.eq_of_compare heq) hne
  · -- a workload has one entry in the index
    rw [List.map_id]
    refine List.pairwise_map.mpr (List.Pairwise.filter _ ?_)
    exact index.owners.distinct_keys_toList.imp fun hdiffer heq => hdiffer (by simp [heq])

/-- A config is in use exactly if some workload is recorded with it. -/
theorem isUsed_iff (ref : ConfigRef) : index.isUsed ref = true ↔ index.References ref := by
  simp only [isUsed, References, List.any_eq_true, Prod.exists,
    Std.ExtTreeMap.mem_toList_iff_getElem?_eq_some, Std.ExtTreeSet.contains_iff_mem]

/-- A config has no users exactly if no workload refers to it. -/
theorem usersOf_isEmpty_iff (ref : ConfigRef) :
    (index.usersOf ref).isEmpty = true ↔ ¬ index.References ref := by
  rw [List.isEmpty_iff, List.eq_nil_iff_forall_not_mem]
  constructor
  · rintro h ⟨key, hkey⟩
    exact h key ((index.mem_usersOf key ref).mpr hkey)
  · intro h key hkey
    exact h ⟨key, (index.mem_usersOf key ref).mp hkey⟩

/-- Recording references changes the entry of the workload only. -/
@[simp]
theorem owners_set (key other : WorkloadKey) (refs : ConfigRefs) :
    (index.set key refs).owners[other]? =
      if key = other then some refs else index.owners[other]? := by
  simp only [set, Std.ExtTreeMap.getElem?_insert, Std.LawfulEqCmp.compare_eq_iff_eq]

/-- Removing a workload takes away its entry only. -/
@[simp]
theorem owners_remove (key other : WorkloadKey) :
    (index.remove key).owners[other]? = if key = other then none else index.owners[other]? := by
  simp only [remove, Std.ExtTreeMap.getElem?_erase, Std.LawfulEqCmp.compare_eq_iff_eq]

end NamespaceIndex

namespace OwnershipIndex

/-- Nothing is recorded in an empty index. -/
@[simp]
theorem within_empty (ns : String) : empty.within ns = .empty := by
  simp [empty, within]

/-- An update is about one namespace only. -/
@[simp]
theorem within_update (index : OwnershipIndex) (ns other : String) (inner : NamespaceIndex) :
    (index.update ns inner).within other = if ns = other then inner else index.within other := by
  simp only [update, within, Std.ExtTreeMap.getElem?_insert, Std.LawfulEqCmp.compare_eq_iff_eq]
  split <;> rfl

/-- Of two updates of a namespace the later one counts. -/
theorem update_update (index : OwnershipIndex) (ns : String) (inner other : NamespaceIndex) :
    (index.update ns inner).update ns other = index.update ns other := by
  refine congrArg OwnershipIndex.mk (Std.ExtTreeMap.ext_getElem? fun there => ?_)
  simp only [update, Std.ExtTreeMap.getElem?_insert]
  split <;> rfl

/-- References are recorded within the namespace of the workload. -/
theorem within_set (index : OwnershipIndex) (ns : String) (key : WorkloadKey) (refs : ConfigRefs) :
    (index.set ns key refs).within ns = (index.within ns).set key refs := by
  rw [set, within_update, if_pos rfl]

/-- A workload is removed within its namespace. -/
theorem within_remove (index : OwnershipIndex) (ns : String) (key : WorkloadKey) :
    (index.remove ns key).within ns = (index.within ns).remove key := by
  rw [remove, within_update, if_pos rfl]

end OwnershipIndex

end ClusterWatch
