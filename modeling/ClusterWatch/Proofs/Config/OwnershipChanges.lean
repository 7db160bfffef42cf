import Mathlib.Data.List.Induction
import ClusterWatch.Config.Attempts
import ClusterWatch.Proofs.Collections
import ClusterWatch.Proofs.Config.Ownership

/-!
# The ownership index after a history

The reconciler records what workloads use, and forgets workloads, one change after another. Whatever
the changes and their order, a workload is found as a user of the configs that it was last recorded
with, unless it was forgotten afterwards, and every change is answered with what was recorded for
its workload before. Each namespace is a matter of the changes to its own workloads.

* `OwnershipChange` — what is recorded or forgotten; `made` — changes that a reconciler makes
  one after another.
* `LastSet` — what a workload was last recorded with; `owners_after` — this is
  what the index has.
* `WasRecorded` — what was recorded for a workload, none if it was never recorded
  or was forgotten.
* `AnswersExactly`, `answers_exactly` — the answers to the changes, and to the reverse
  questions in the end.
-/

namespace ClusterWatch

/-- Kinds of workloads stand at different places of their order. -/
theorem WorkloadKind.rank_inj {kind other : WorkloadKind} :
    kind.rank = other.rank ↔ kind = other := by
  cases kind <;> cases other <;> decide

/-- Workloads are ordered by their kinds, and among one kind by their names. -/
theorem WorkloadKey.compare_eq_lt_iff {key other : WorkloadKey} :
    compare key other = .lt ↔
      key.kind.rank < other.kind.rank ∨ (key.kind = other.kind ∧ key.name < other.name) := by
  show (compare key.kind.rank other.kind.rank).then (compare key.name other.name) = .lt ↔ _
  rw [Ordering.then_eq_lt, Std.LawfulEqCmp.compare_eq_iff_eq, WorkloadKind.rank_inj]
  exact or_congr Nat.compare_eq_lt (and_congr_right fun _ => compareOfLessAndEq_eq_lt)

/-- A change to what the ownership index records. -/
inductive OwnershipChange where
  /-- The configs of a workload are recorded in place of the ones before. -/
  | set (ns : String) (key : WorkloadKey) (refs : ConfigRefs)
  /-- A workload is forgotten. -/
  | remove (ns : String) (key : WorkloadKey)

namespace OwnershipChange

/-- The namespace that a change is made in. -/
def ns : OwnershipChange → String
  | .set ns _ _ => ns
  | .remove ns _ => ns

/-- The workload that a change is about. -/
def key : OwnershipChange → WorkloadKey
  | .set _ key _ => key
  | .remove _ key => key

/-- What a change leaves recorded for its workload. -/
def recorded? : OwnershipChange → Option ConfigRefs
  | .set _ _ refs => some refs
  | .remove _ _ => none

/-- A change is about a workload of a namespace. -/
def IsAbout (change : OwnershipChange) (ns : String) (key : WorkloadKey) : Prop :=
  change.ns = ns ∧ change.key = key

instance (change : OwnershipChange) (ns : String) (key : WorkloadKey) :
    Decidable (change.IsAbout ns key) :=
  inferInstanceAs (Decidable (_ ∧ _))

/-- The index with a change made to it. -/
def apply (index : OwnershipIndex) : OwnershipChange → OwnershipIndex
  | .set ns key refs => index.set ns key refs
  | .remove ns key => index.remove ns key

/-- A reconciler makes a change, for what was recorded before. -/
def make : OwnershipChange → ReconcilerM ConfigRefs
  | .set ns key refs => .setRefs ns key refs
  | .remove ns key => .removeRefs ns key

/-- Changes that a reconciler makes one after another, beginning with nothing recorded: what each of
them is answered with, and how far the reconciler has come in the end. -/
def made (run : ReconcilerRun) (changes : List OwnershipChange) :
    List ConfigRefs × ReconcilerRun :=
  (changes.mapM make).run { run with index := .empty }

/-- The index after several changes. -/
def indexAfter (changes : List OwnershipChange) : OwnershipIndex :=
  changes.foldl apply .empty

/-- A workload was recorded with these configs, and was neither recorded again nor
forgotten afterwards. -/
def LastSet (changes : List OwnershipChange) (ns : String) (key : WorkloadKey) (refs : ConfigRefs) :
    Prop :=
  ∃ earlier later, changes = earlier ++ .set ns key refs :: later ∧
    (∀ other, .set ns key other ∉ later) ∧ .remove ns key ∉ later

/-- These configs are recorded for a workload, none if it was never recorded or was
forgotten afterwards. -/
def WasRecorded (changes : List OwnershipChange) (ns : String) (key : WorkloadKey)
    (refs : ConfigRefs) : Prop :=
  LastSet changes ns key refs ∨ (refs = ∅ ∧ ∀ other, ¬ LastSet changes ns key other)

variable {changes : List OwnershipChange} {ns : String} {key : WorkloadKey} {refs : ConfigRefs}

/-! ### One change -/

/-- A change is the only one that is made to its workload. -/
theorem owners_apply (index : OwnershipIndex) (change : OwnershipChange) (ns : String)
    (key : WorkloadKey) :
    ((change.apply index).within ns).owners[key]? =
      if change.IsAbout ns key then change.recorded? else (index.within ns).owners[key]? := by
  -- only the workload itself, in its own namespace, gets or loses an entry
  cases change with
  | set own workload refs =>
    by_cases hns : own = ns
    · subst hns
      simp [apply, OwnershipIndex.within_set, IsAbout, OwnershipChange.ns,
        OwnershipChange.key, recorded?]
    · simp [apply, OwnershipIndex.set, IsAbout, OwnershipChange.ns, hns]
  | remove own workload =>
    by_cases hns : own = ns
    · subst hns
      simp [apply, OwnershipIndex.within_remove, IsAbout, OwnershipChange.ns,
        OwnershipChange.key, recorded?]
    · simp [apply, OwnershipIndex.remove, IsAbout, OwnershipChange.ns, hns]

/-- A change that a reconciler makes after others is answered with what these have left for
its workload. -/
theorem made_concat (run : ReconcilerRun) (changes : List OwnershipChange)
    (change : OwnershipChange) :
    made run (changes ++ [change]) =
      ((made run changes).1 ++ [(made run changes).2.index.refsOf change.ns change.key],
        { (made run changes).2 with index := change.apply (made run changes).2.index }) := by
  rw [made, List.mapM_append]
  cases change <;> rfl

/-- A change is about a workload if it records something for it or removes it. -/
theorem isAbout_iff {change : OwnershipChange} :
    change.IsAbout ns key ↔
      (∃ refs, change = .set ns key refs) ∨ change = .remove ns key := by
  cases change <;> simp [IsAbout, OwnershipChange.ns, OwnershipChange.key]

/-- The last recording of a workload is the last change that is about it. -/
theorem lastSet_iff : LastSet changes ns key refs ↔
    ∃ earlier later, changes = earlier ++ .set ns key refs :: later ∧
      ∀ change ∈ later, ¬ change.IsAbout ns key := by
  -- what is left to compare is that no later change sets or removes the workload
  refine exists_congr fun earlier => exists_congr fun later => and_congr_right fun _ => ?_
  constructor
  · rintro ⟨hset, hremove⟩ change hmem habout
    rcases isAbout_iff.mp habout with ⟨other, rfl⟩ | rfl
    · exact hset other hmem
    · exact hremove hmem
  · intro hlater
    exact ⟨fun other hmem => hlater _ hmem ⟨rfl, rfl⟩, fun hmem => hlater _ hmem ⟨rfl, rfl⟩⟩

/-- One more change is what its own workload was last recorded with, and nothing to the others. -/
theorem lastSet_concat {change : OwnershipChange} :
    LastSet (changes ++ [change]) ns key refs ↔
      if change.IsAbout ns key then change.recorded? = some refs
      else LastSet changes ns key refs := by
  simp only [lastSet_iff]
  constructor
  · rintro ⟨earlier, later, heq, hlater⟩
    rcases concat_eq_append_cons heq with ⟨-, -, rfl⟩ | ⟨rest, rfl, rfl⟩
    · rw [if_pos ⟨rfl, rfl⟩]
      rfl
    · obtain ⟨hrest, hlast⟩ := List.forall_mem_append.mp hlater
      rw [if_neg (hlast change List.mem_cons_self)]
      exact ⟨earlier, rest, rfl, hrest⟩
  · intro h
    split at h
    next habout =>
      -- the change is the recording itself, as a removal leaves nothing recorded
      rcases isAbout_iff.mp habout with ⟨other, rfl⟩ | rfl
      · obtain rfl := Option.some.inj h
        exact ⟨changes, [], rfl, List.forall_mem_nil _⟩
      · cases h
    next hother =>
      obtain ⟨earlier, later, rfl, hlater⟩ := h
      refine ⟨earlier, later ++ [change], by simp, ?_⟩
      exact List.forall_mem_append.mpr ⟨hlater, List.forall_mem_singleton.mpr hother⟩

/-! ### Several changes -/

theorem indexAfter_concat (changes : List OwnershipChange) (change : OwnershipChange) :
    indexAfter (changes ++ [change]) = change.apply (indexAfter changes) :=
  List.foldl_append

/-- Whatever is answered, the index is the one that the changes lead to. -/
theorem index_made (run : ReconcilerRun) (changes : List OwnershipChange) :
    (made run changes).2.index = indexAfter changes := by
  induction changes using List.reverseRecOn with
  | nil => rfl
  | append_singleton changes change ih => rw [made_concat, indexAfter_concat, ← ih]

/-- The index has of every workload what it was last recorded with. -/
theorem owners_after (changes : List OwnershipChange) (ns : String) (key : WorkloadKey)
    (refs : ConfigRefs) :
    ((indexAfter changes).within ns).owners[key]? = some refs ↔ LastSet changes ns key refs := by
  -- from the end of the history, where the last change is about the workload or is not
  induction changes using List.reverseRecOn with
  | nil =>
    have hnone : ¬ LastSet [] ns key refs := fun ⟨earlier, later, heq, _⟩ => by simp at heq
    simp [indexAfter, NamespaceIndex.empty, hnone]
  | append_singleton changes change ih =>
    rw [indexAfter_concat, owners_apply, lastSet_concat]
    split
    · exact Iff.rfl
    · exact ih

/-- The configs that the index has for a workload are those that were recorded for it. -/
theorem wasRecorded_refsOf (changes : List OwnershipChange) (ns : String) (key : WorkloadKey) :
    WasRecorded changes ns key ((indexAfter changes).refsOf ns key) := by
  rw [OwnershipIndex.refsOf, NamespaceIndex.refsOf]
  cases howners : ((indexAfter changes).within ns).owners[key]? with
  | some refs => exact .inl ((owners_after changes ns key refs).mp howners)
  | none =>
    refine .inr ⟨rfl, fun other hother => ?_⟩
    rw [(owners_after changes ns key other).mpr hother] at howners
    cases howners

/-- The index of a namespace is a matter of the changes in the namespace. -/
theorem within_after_filter (changes : List OwnershipChange) (ns : String) :
    (indexAfter (changes.filter (·.ns = ns))).within ns = (indexAfter changes).within ns := by
  -- workload by workload, since only the changes that are about one count for it
  have howners (key : WorkloadKey) :
      ((indexAfter (changes.filter (·.ns = ns))).within ns).owners[key]? =
        ((indexAfter changes).within ns).owners[key]? := by
    induction changes using List.reverseRecOn with
    | nil => rfl
    | append_singleton changes change ih =>
      rw [List.filter_append, indexAfter_concat, owners_apply, ← ih]
      by_cases hns : change.ns = ns
      · rw [List.filter_singleton, decide_eq_true hns, cond_true, indexAfter_concat, owners_apply]
      · have hother : ¬ change.IsAbout ns key := fun habout => hns habout.1
        rw [if_neg hother, List.filter_singleton, decide_eq_false hns, cond_false, List.append_nil]
  exact congrArg NamespaceIndex.mk (Std.ExtTreeMap.ext_getElem? howners)

/-! ### Answers -/

variable (run : ReconcilerRun)

/-- Every change is answered. -/
theorem length_made (changes : List OwnershipChange) :
    (made run changes).1.length = changes.length := by
  induction changes using List.reverseRecOn with
  | nil => rfl
  | append_singleton changes change ih => simp [made_concat, ih]

/-- Further changes leave the answers that there are. -/
theorem made_prefix (earlier later : List OwnershipChange) :
    (made run earlier).1 <+: (made run (earlier ++ later)).1 := by
  induction later using List.reverseRecOn with
  | nil => simp
  | append_singleton later last ih =>
    rw [← List.append_assoc, made_concat]
    exact ih.trans (List.prefix_append _ _)

/-- A change is answered with what the changes before it have left for its workload. -/
theorem getElem?_made (earlier : List OwnershipChange) (change : OwnershipChange)
    (later : List OwnershipChange) :
    (made run (earlier ++ change :: later)).1[earlier.length]? =
      some ((indexAfter earlier).refsOf change.ns change.key) := by
  obtain ⟨rest, hrest⟩ := made_prefix run (earlier ++ [change]) later
  rw [List.append_assoc, List.singleton_append] at hrest
  rw [← hrest, made_concat, index_made, ← length_made run earlier]
  simp

/-- The changes in a namespace are answered as if there were no others. -/
theorem made_filter (changes : List OwnershipChange) (ns : String) :
    ((changes.zip (made run changes).1).filter (·.1.ns = ns)).map (·.2) =
      (made run (changes.filter (·.ns = ns))).1 := by
  induction changes using List.reverseRecOn with
  | nil => rfl
  | append_singleton changes change ih =>
    rw [made_concat, List.zip_append (length_made run changes).symm, List.filter_append,
      List.map_append, ih, List.filter_append, index_made]
    -- a change in the namespace is answered from what the changes there have recorded
    by_cases hns : change.ns = ns
    · have hrefs : (indexAfter (changes.filter (·.ns = ns))).refsOf ns change.key =
          (indexAfter changes).refsOf ns change.key := by
        rw [OwnershipIndex.refsOf, within_after_filter, OwnershipIndex.refsOf]
      rw [List.filter_singleton, decide_eq_true hns, cond_true, made_concat, index_made, hns, hrefs]
      simp [hns]
    · simp [hns]

/-- What a reconciler is answered when it changes the index, and what the index
answers afterwards. -/
structure AnswersExactly (changes : List OwnershipChange) : Prop where
  /-- The users of a config are the workloads that were last recorded with it, and not
  forgotten since. -/
  users : ∀ ns config key, key ∈ (made run changes).2.index.usersOf ns config ↔
    ∃ refs, LastSet changes ns key refs ∧ config ∈ refs
  /-- They stand in the order of their kinds, and among one kind in the order of their names, each
  of them once. -/
  ascending : ∀ ns config,
    ((made run changes).2.index.usersOf ns config).Pairwise fun key other =>
      key.kind.rank < other.kind.rank ∨ (key.kind = other.kind ∧ key.name < other.name)
  /-- A config is in use if and only if it has users. -/
  used : ∀ ns config, (made run changes).2.index.isUsed ns config = true ↔
    (made run changes).2.index.usersOf ns config ≠ []
  /-- Every change is answered. -/
  answered : (made run changes).1.length = changes.length
  /-- The answer is what was recorded for the workload by the changes before. -/
  previous : ∀ earlier change later, changes = earlier ++ change :: later →
    ∃ refs, (made run changes).1[earlier.length]? = some refs ∧
      WasRecorded earlier change.ns change.key refs
  /-- The answers about a namespace are the same as after the changes in the namespace alone. -/
  isolated : ∀ ns config,
    (made run (changes.filter (·.ns = ns))).2.index.usersOf ns config =
        (made run changes).2.index.usersOf ns config ∧
      (made run (changes.filter (·.ns = ns))).2.index.isUsed ns config =
        (made run changes).2.index.isUsed ns config
  /-- So are those to the changes in the namespace. -/
  isolated_previous : ∀ ns, (made run (changes.filter (·.ns = ns))).1 =
    ((changes.zip (made run changes).1).filter (·.1.ns = ns)).map (·.2)

/-- However workloads are recorded and forgotten, the index answers by what each of them was last
recorded with. -/
theorem answers_exactly (changes : List OwnershipChange) : AnswersExactly run changes where
  users ns config key := by
    simp only [index_made, OwnershipIndex.usersOf, NamespaceIndex.mem_usersOf, owners_after]
  ascending ns config := by
    exact (NamespaceIndex.pairwise_usersOf _ config).imp WorkloadKey.compare_eq_lt_iff.mp
  used ns config := by
    rw [OwnershipIndex.isUsed, NamespaceIndex.isUsed_iff, OwnershipIndex.usersOf, ne_eq,
      ← List.isEmpty_iff, NamespaceIndex.usersOf_isEmpty_iff, not_not]
  answered := length_made run changes
  previous earlier change later heq := by
    subst heq
    exact ⟨_, getElem?_made run earlier change later,
      wasRecorded_refsOf earlier change.ns change.key⟩
  isolated ns config := by
    simp only [index_made, OwnershipIndex.usersOf, OwnershipIndex.isUsed,
      within_after_filter, and_self]
  isolated_previous ns := (made_filter run changes ns).symm

end OwnershipChange

end ClusterWatch
