import Mathlib.Data.List.Induction
import ClusterWatch.Proofs.NodeAgent.Join
import ClusterWatch.Proofs.Storage.Mounts

/-!
# Merged usage samples

The reports of all nodes are merged in the order in which they arrive, and of a mount point that
several nodes report the last report counts. So the merged sample depends on the order of arrival as
soon as two nodes tell different things of a mount point that they share, unless the nodes are asked
one after another.

* `UsageSample.getElem?_merge`, `UsageSample.getElem?_merge_congr` — what is merged
  of a mount point.
* `UsageSample.volume?_merge_of_isFirst` — a volume is found at the first mount point with its
  name that is reported.
* `FanOut.sample_alike_iff` — whether a mount point is told alike in all orders of completion.
* `FanOut.sample_run_alike_iff` — whether the sample is the same whatever time the calls take.
* `FanOut.VariesByOrder`, `FanOut.varies_by_order` — what the merged sample and its
  views depend on.
* `FanOut.shared_mountpoint_by_order` — two nodes with a mount point of the same path.
-/

namespace ClusterWatch

namespace UsageSample

variable {reports others : List UsageSample} {mountpoint name : String}

/-! ### What is merged of a mount point -/

/-- A further report is written over the earlier ones. -/
theorem merge_concat (earlier : List UsageSample) (last : UsageSample) :
    merge (earlier ++ [last]) = (merge earlier).insertMany last.toList := by
  rw [merge, List.foldl_append, List.foldl_cons, List.foldl_nil, ← foldl_insert_eq_insertMany]
  rfl

/-- What is found at a mount point is what the last report of it says. -/
theorem getElem?_merge (reports : List UsageSample) (mountpoint : String) :
    (merge reports)[mountpoint]? = reports.findSomeRev? (·[mountpoint]?) := by
  induction reports using List.reverseRecOn with
  | nil => rfl
  | append_singleton earlier last ih =>
    rw [merge_concat, getElem?_insertMany_toList, findSomeRev?_concat, ih]

/-- Some report tells of a mount point. -/
def IsReported (reports : List UsageSample) (mountpoint : String) : Prop :=
  ∃ report ∈ reports, mountpoint ∈ report

/-- All reports that tell of a mount point tell the same. -/
def Agree (reports : List UsageSample) (mountpoint : String) : Prop :=
  ∀ first ∈ reports, ∀ second ∈ reports, ∀ usage otherUsage : BlockUsage,
    first[mountpoint]? = some usage → second[mountpoint]? = some otherUsage → usage = otherUsage

/-- A mount point is in the sample exactly if it is reported. -/
theorem mem_merge : mountpoint ∈ merge reports ↔ IsReported reports mountpoint := by
  rw [Std.ExtTreeMap.mem_iff_isSome_getElem?, getElem?_merge,
    List.findSomeRev?_eq_findSome?_reverse, List.findSome?_isSome_iff]
  simp only [List.mem_reverse, IsReported, Std.ExtTreeMap.mem_iff_isSome_getElem?]

/-- Where the reports agree on a mount point, it is merged as any of them tells. -/
theorem getElem?_merge_eq_some_iff (hagree : Agree reports mountpoint) {usage : BlockUsage} :
    (merge reports)[mountpoint]? = some usage ↔
      ∃ report ∈ reports, report[mountpoint]? = some usage := by
  have hmerged {merged : BlockUsage} (h : (merge reports)[mountpoint]? = some merged) :
      ∃ report ∈ reports, report[mountpoint]? = some merged := by
    rw [getElem?_merge, findSomeRev?_eq_some_iff] at h
    obtain ⟨before, report, after, rfl, hreport, -⟩ := h
    exact ⟨report, List.mem_append_right _ List.mem_cons_self, hreport⟩
  constructor
  · exact hmerged
  · rintro ⟨report, hreport, husage⟩
    -- something is merged of the mount point, and it is what this report tells
    have hmem : mountpoint ∈ merge reports :=
      mem_merge.mpr ⟨report, hreport,
        Std.ExtTreeMap.mem_iff_isSome_getElem?.mpr (husage ▸ rfl)⟩
    obtain ⟨merged, hsome⟩ :=
      Option.isSome_iff_exists.mp (Std.ExtTreeMap.mem_iff_isSome_getElem?.mp hmem)
    obtain ⟨other, hother, hotherUsage⟩ := hmerged hsome
    rw [hsome, hagree report hreport other hother usage merged husage hotherUsage]

/-- Where the reports agree on a mount point, their order does not matter. -/
theorem getElem?_merge_congr (hagree : Agree reports mountpoint) (hsame : others.Perm reports) :
    (merge others)[mountpoint]? = (merge reports)[mountpoint]? := by
  have hother : Agree others mountpoint := fun first hfirst second hsecond =>
    hagree first (hsame.mem_iff.mp hfirst) second (hsame.mem_iff.mp hsecond)
  ext usage
  rw [getElem?_merge_eq_some_iff hagree, getElem?_merge_eq_some_iff hother]
  simp only [hsame.mem_iff]

/-! ### Where a volume is found -/

/-- A mount point is in a sample exactly if there is an entry for it. -/
theorem mem_iff_exists_mem_toList {sample : UsageSample} :
    mountpoint ∈ sample ↔ ∃ usage, (mountpoint, usage) ∈ sample.toList := by
  simp only [Std.ExtTreeMap.mem_toList_iff_getElem?_eq_some, Std.ExtTreeMap.mem_iff_isSome_getElem?,
    Option.isSome_iff_exists]

/-- A volume that is found is found at the first mount point, in the order of the paths, that has
its name in it. -/
theorem exists_of_volume?_eq_some {sample : UsageSample} {usage : BlockUsage}
    (h : sample.volume? name = some usage) :
    ∃ mountpoint, sample[mountpoint]? = some usage ∧ occursIn name.toList mountpoint.toList ∧
      ∀ other ∈ sample, occursIn name.toList other.toList → mountpoint ≤ other := by
  obtain ⟨⟨mountpoint, _⟩, hfind, rfl⟩ := Option.map_eq_some_iff.mp h
  obtain ⟨hnamed, before, after, hentries, hbefore⟩ := List.find?_eq_some_iff_append.mp hfind
  have hsorted := sample.ordered_keys_toList
  rw [hentries, List.pairwise_append, List.pairwise_cons] at hsorted
  refine ⟨mountpoint, ?_, hnamed, fun other hother hoccurs => ?_⟩
  · exact Std.ExtTreeMap.mem_toList_iff_getElem?_eq_some.mp (List.mem_of_find?_eq_some hfind)
  · obtain ⟨otherUsage, hentry⟩ := mem_iff_exists_mem_toList.mp hother
    rw [hentries, List.mem_append, List.mem_cons] at hentry
    rcases hentry with hearlier | heq | hlater
    · -- the name does not occur in what comes earlier
      have hnot : (!occursIn name.toList other.toList) = true := hbefore _ hearlier
      rw [hoccurs] at hnot
      cases hnot
    · obtain ⟨rfl, -⟩ := Prod.mk.inj heq
      exact String.le_refl _
    · exact String.not_lt.mp
        (String.lt_asymm (compareOfLessAndEq_eq_lt.mp (hsorted.2.1.1 _ hlater)))

/-- The first mount point, in the order of the paths, that is reported and has the name of a
volume in it. -/
structure IsFirst (reports : List UsageSample) (name mountpoint : String) : Prop where
  /-- It is reported. -/
  reported : IsReported reports mountpoint
  /-- The name occurs in it. -/
  named : occursIn name.toList mountpoint.toList
  /-- It comes before the others in which the name occurs. -/
  first : ∀ other, IsReported reports other → occursIn name.toList other.toList →
    mountpoint ≤ other

/-- The order of the reports does not matter for which mount point of a volume is first. -/
theorem IsFirst.congr (hsame : others.Perm reports) (h : IsFirst reports name mountpoint) :
    IsFirst others name mountpoint := by
  have hreported (other : String) : IsReported others other ↔ IsReported reports other := by
    simp only [IsReported, hsame.mem_iff]
  refine ⟨(hreported _).mpr h.reported, h.named, fun other hother => ?_⟩
  exact h.first other ((hreported _).mp hother)

/-- What is found of a volume is found at the first mount point with its name. -/
theorem exists_isFirst {usage : BlockUsage} (h : (merge reports).volume? name = some usage) :
    ∃ mountpoint, IsFirst reports name mountpoint ∧
      (merge reports)[mountpoint]? = some usage := by
  obtain ⟨mountpoint, husage, hnamed, hfirst⟩ := exists_of_volume?_eq_some h
  refine ⟨mountpoint,
    ⟨?_, hnamed, fun other hother => hfirst other (mem_merge.mpr hother)⟩, husage⟩
  rw [← mem_merge, Std.ExtTreeMap.mem_iff_isSome_getElem?, husage]
  rfl

/-- A volume is found at the first mount point with its name. -/
theorem volume?_merge_of_isFirst (h : IsFirst reports name mountpoint) :
    (merge reports).volume? name = (merge reports)[mountpoint]? := by
  cases hvolume : (merge reports).volume? name with
  | some usage =>
    obtain ⟨other, hother, husage⟩ := exists_isFirst hvolume
    -- there is only one that is the first
    obtain rfl : mountpoint = other :=
      String.le_antisymm (h.first other hother.reported hother.named)
        (hother.first mountpoint h.reported h.named)
    exact husage.symm
  | none =>
    obtain ⟨usage, hentry⟩ := mem_iff_exists_mem_toList.mp (mem_merge.mpr h.reported)
    exact absurd h.named (List.find?_eq_none.mp (Option.map_eq_none_iff.mp hvolume) _ hentry)

end UsageSample

namespace StorageIndex

/-- An index tells the same with two samples: the volumes by class, the totals of the classes, and
the used bytes and the chains of every namespace. -/
structure TellsAlike (index : StorageIndex) (sample other : UsageSample) : Prop where
  classes : index.classify sample = index.classify other
  totals : index.classTotals sample = index.classTotals other
  used : ∀ ns : String, index.namespaceUsed sample ns = index.namespaceUsed other ns
  chains : ∀ ns : String, index.volumeChains sample ns = index.volumeChains other ns

/-- A volume is there, or bound to a claim. -/
def Concerns (index : StorageIndex) (name : String) : Prop :=
  name ∈ index.volumes ∨ name ∈ index.boundClaims

/-- What an index tells depends on what is found of its volumes alone. -/
theorem tellsAlike_of_volume? {index : StorageIndex} {sample other : UsageSample}
    (h : ∀ name, index.Concerns name → sample.volume? name = other.volume? name) :
    index.TellsAlike sample other := by
  have hused {name : String} (hname : index.Concerns name) :
      sample.usedOf name = other.usedOf name := by
    rw [UsageSample.usedOf, h name hname, UsageSample.usedOf]
  have hvolumes {name : String} {info : VolumeInfo}
      (hentry : (name, info) ∈ index.volumes.toList) :
      index.Concerns name := by
    rw [Std.ExtTreeMap.mem_toList_iff_getElem?_eq_some] at hentry
    exact .inl (Std.ExtTreeMap.mem_iff_isSome_getElem?.mpr (hentry ▸ rfl))
  have hbindings {ns name claim : String} (hbinding : (name, claim) ∈ index.bindingsWithin ns) :
      index.Concerns name := by
    obtain ⟨hbound, -⟩ := mem_bindingsWithin.mp hbinding
    exact .inr (Std.ExtTreeMap.mem_iff_isSome_getElem?.mpr (hbound ▸ rfl))
  -- each of the four is a fold or a map over entries whose volumes are looked up
  constructor
  case classes =>
    apply List.foldl_ext
    rintro classes ⟨name, info⟩ hentry
    simp only [view, h name (hvolumes hentry)]
  case totals =>
    apply List.foldl_ext
    rintro totals ⟨name, info⟩ hentry
    simp only [hused (hvolumes hentry)]
  case used =>
    intro ns
    unfold namespaceUsed
    congr 1
    apply List.map_congr_left
    rintro ⟨name, claim⟩ hbinding
    exact hused (hbindings hbinding)
  case chains =>
    intro ns
    rw [volumeChains_eq, volumeChains_eq]
    apply List.flatMap_congr
    rintro ⟨name, claim⟩ hbinding
    rw [chainsThrough, chainsThrough, roomOf, roomOf, h name (hbindings hbinding)]

end StorageIndex

namespace FanOut

variable {width : Nat} {calls completed other : List (AgentCall UsageSample)}
  {call : AgentCall UsageSample}
  {mountpoint name : String}

/-! ### Samples and orders of completion -/

/-- The reports that calls are answered with. -/
def reports (calls : List (AgentCall UsageSample)) : List UsageSample :=
  calls.filterMap fun call => call.result.toOption.map (·.2)

/-- The sample merges the reports in the order of completion. -/
theorem sample_collect (completed : List (AgentCall UsageSample)) :
    (collect completed).sample = .merge (reports completed) := by
  rw [Outcome.sample, collect, List.map_filterMap]
  rfl

/-- The reports are the same in every order of completion. -/
theorem reports_perm (h : Completes width calls completed) :
    (reports completed).Perm (reports calls) :=
  (perm_of_completes h).filterMap _

/-- What the last call to complete reports of a mount point counts. -/
theorem sample_concat_of_reported {earlier : List (AgentCall UsageSample)} {report : UsageSample}
    {usage : BlockUsage} (hreport : call.result.toOption.map (·.2) = some report)
    (husage : report[mountpoint]? = some usage) :
    (collect (earlier ++ [call])).sample[mountpoint]? = some usage := by
  have hreports : reports (earlier ++ [call]) = reports earlier ++ [report] := by
    simp [reports, List.filterMap_append, hreport]
  rw [sample_collect, hreports, UsageSample.getElem?_merge, findSomeRev?_concat, husage,
    Option.some_or]

/-- A mount point is told alike in all orders of completion exactly if the nodes are asked one after
another or agree on it. -/
theorem sample_alike_iff :
    (∀ completed other, Completes width calls completed → Completes width calls other →
        (collect completed).sample[mountpoint]? = (collect other).sample[mountpoint]?) ↔
      width ≤ 1 ∨ UsageSample.Agree (reports calls) mountpoint := by
  constructor
  · intro halike
    rcases Nat.lt_or_ge 1 width with hwidth | hwidth
    · right
      intro first hfirst second hsecond usage otherUsage husage hotherUsage
      obtain ⟨call, hcall, hreport⟩ := List.mem_filterMap.mp hfirst
      obtain ⟨otherCall, hotherCall, hotherReport⟩ := List.mem_filterMap.mp hsecond
      -- each of the two may be the last to complete
      obtain ⟨earlier, hlast⟩ := exists_completes_last hwidth hcall
      obtain ⟨otherEarlier, hotherLast⟩ := exists_completes_last hwidth hotherCall
      have heq := halike _ _ hlast hotherLast
      rw [sample_concat_of_reported hreport husage,
        sample_concat_of_reported hotherReport hotherUsage] at heq
      exact Option.some.inj heq
    · exact .inl hwidth
  · rintro (hwidth | hagree) completed other hcompleted hother
    · rw [eq_of_completes hwidth hcompleted, eq_of_completes hwidth hother]
    · rw [sample_collect, sample_collect,
        UsageSample.getElem?_merge_congr hagree (reports_perm hcompleted),
        UsageSample.getElem?_merge_congr hagree (reports_perm hother)]

/-- A volume is found alike in all orders of completion exactly if the nodes are asked one after
another or agree on the first mount point with its name. -/
theorem volume?_alike_iff :
    (∀ completed other, Completes width calls completed → Completes width calls other →
        (collect completed).sample.volume? name = (collect other).sample.volume? name) ↔
      width ≤ 1 ∨ ∀ mountpoint, UsageSample.IsFirst (reports calls) name mountpoint →
        UsageSample.Agree (reports calls) mountpoint := by
  have hfound {completed : List (AgentCall UsageSample)} {mountpoint : String}
      (h : Completes width calls completed)
      (hfirst : UsageSample.IsFirst (reports calls) name mountpoint) :
      (collect completed).sample.volume? name = (collect completed).sample[mountpoint]? := by
    rw [sample_collect]
    exact UsageSample.volume?_merge_of_isFirst (hfirst.congr (reports_perm h))
  constructor
  · intro halike
    by_contra hnot
    obtain ⟨hwidth, hnot⟩ := not_or.mp hnot
    apply hnot
    intro mountpoint hfirst
    refine (sample_alike_iff.mp fun completed other hcompleted hother => ?_).resolve_left hwidth
    rw [← hfound hcompleted hfirst, ← hfound hother hfirst]
    exact halike completed other hcompleted hother
  · intro hdecided completed other hcompleted hother
    by_cases hreported : ∃ mountpoint, UsageSample.IsFirst (reports calls) name mountpoint
    · obtain ⟨mountpoint, hfirst⟩ := hreported
      rw [hfound hcompleted hfirst, hfound hother hfirst]
      exact sample_alike_iff.mpr
        (hdecided.imp_right fun hagree => hagree mountpoint hfirst) _ _ hcompleted hother
    · -- the name of the volume is in no mount point that is reported
      have hnone {completed : List (AgentCall UsageSample)} (h : Completes width calls completed) :
          (collect completed).sample.volume? name = none := by
        rw [sample_collect, Option.eq_none_iff_forall_ne_some]
        intro usage husage
        obtain ⟨mountpoint, hfirst, -⟩ := UsageSample.exists_isFirst husage
        exact hreported ⟨mountpoint, hfirst.congr (reports_perm h).symm⟩
      rw [hnone hcompleted, hnone hother]

/-- The sample of a run merges the reports in the order in which the calls end by their times. -/
theorem sample_run (width : Nat) (calls : List (AgentCall UsageSample)) :
    (run width calls).sample = .merge (reports (completionOrder width calls)) :=
  sample_collect _

/-- All calls that come to the same, whatever time they take, make the same sample exactly if the
nodes are asked one after another or agree on every mount point that they share. -/
theorem sample_run_alike_iff :
    (∀ others : List (AgentCall UsageSample),
      others.map AgentCall.result = calls.map AgentCall.result →
        (run width others).sample = (run width calls).sample) ↔
      width ≤ 1 ∨ ∀ mountpoint, UsageSample.Agree (reports calls) mountpoint := by
  constructor
  · intro halike
    rcases Nat.lt_or_ge 1 width with hwidth | hwidth
    · right
      -- with some durations a report is the last one, so that it counts
      have hcounts {report : UsageSample} {mountpoint : String} {usage : BlockUsage}
          (hreport : report ∈ reports calls)
          (husage : report[mountpoint]? = some usage) :
            (run width calls).sample[mountpoint]? = some usage := by
        obtain ⟨call, hcall, hanswer⟩ := List.mem_filterMap.mp hreport
        obtain ⟨others, hresults, earlier, last, horder, hlast⟩ :=
          exists_completionOrder_last hwidth hcall
        rw [← hlast] at hanswer
        rw [← halike others hresults, run, horder]
        exact sample_concat_of_reported hanswer husage
      intro mountpoint first hfirst second hsecond usage otherUsage husage hotherUsage
      have heq := (hcounts hfirst husage).symm.trans (hcounts hsecond hotherUsage)
      exact Option.some.inj heq
    · exact .inl hwidth
  · intro hdecided others hresults
    have hreports : reports others = reports calls := by
      have hmap (calls : List (AgentCall UsageSample)) :
          reports calls = (calls.map AgentCall.result).filterMap fun result =>
            result.toOption.map (·.2) := by
        rw [List.filterMap_map]
        rfl
      rw [hmap, hresults, hmap]
    rw [sample_run, sample_run]
    rcases hdecided with hwidth | hagree
    · rw [eq_of_completes hwidth (completes_completionOrder width others),
        eq_of_completes hwidth (completes_completionOrder width calls), hreports]
    · apply Std.ExtTreeMap.ext_getElem?
      intro mountpoint
      have hothers := hreports ▸ reports_perm (completes_completionOrder width others)
      rw [UsageSample.getElem?_merge_congr (hagree mountpoint) hothers,
        UsageSample.getElem?_merge_congr (hagree mountpoint)
          (reports_perm (completes_completionOrder width calls))]

/-- What the order in which the calls complete makes of the merged sample. -/
structure VariesByOrder (width : Nat) (calls : List (AgentCall UsageSample)) : Prop where
  /-- The sample is the same in all orders exactly if the nodes are asked one after another, or
  those that answer agree on every mount point that they share. -/
  sample_iff :
    (∀ completed other, Completes width calls completed → Completes width calls other →
      (collect completed).sample = (collect other).sample) ↔
    width ≤ 1 ∨ ∀ mountpoint, UsageSample.Agree (reports calls) mountpoint
  /-- What is found of a volume is the same in all orders exactly if the nodes are asked one after
  another, or agree on the first mount point with its name. -/
  volume_iff : ∀ name,
    (∀ completed other, Completes width calls completed → Completes width calls other →
      (collect completed).sample.volume? name = (collect other).sample.volume? name) ↔
    width ≤ 1 ∨ ∀ mountpoint, UsageSample.IsFirst (reports calls) name mountpoint →
      UsageSample.Agree (reports calls) mountpoint
  /-- If that is so for its volumes, an index tells the same in all orders. -/
  tellsAlike : ∀ index : StorageIndex, (width ≤ 1 ∨ ∀ name, index.Concerns name →
      ∀ mountpoint, UsageSample.IsFirst (reports calls) name mountpoint →
        UsageSample.Agree (reports calls) mountpoint) →
    ∀ completed other, Completes width calls completed → Completes width calls other →
      index.TellsAlike (collect completed).sample (collect other).sample
  /-- The order that the durations lead to is one of these orders. -/
  run_eq : ∃ completed, Completes width calls completed ∧ run width calls = collect completed
  /-- If other calls come to the same, but take any other time, the sample is the same in
  exactly these cases. -/
  run_iff :
    (∀ others : List (AgentCall UsageSample),
      others.map AgentCall.result = calls.map AgentCall.result →
      (run width others).sample = (run width calls).sample) ↔
    width ≤ 1 ∨ ∀ mountpoint, UsageSample.Agree (reports calls) mountpoint

/-- The order of completion decides about the sample wherever two reports of one mount point differ,
and about a volume only if they do so on the first mount point with its name. -/
theorem varies_by_order (width : Nat) (calls : List (AgentCall UsageSample)) :
    VariesByOrder width calls where
  sample_iff := by
    constructor
    · intro halike
      -- equal samples agree at every mount point
      by_contra hnot
      obtain ⟨hwidth, hnot⟩ := not_or.mp hnot
      apply hnot
      intro mountpoint
      refine (sample_alike_iff.mp fun completed other hcompleted hother => ?_).resolve_left hwidth
      rw [halike completed other hcompleted hother]
    · intro hdecided completed other hcompleted hother
      apply Std.ExtTreeMap.ext_getElem?
      intro mountpoint
      exact sample_alike_iff.mpr
        (hdecided.imp_right fun hagree => hagree mountpoint) _ _ hcompleted hother
  volume_iff _ := volume?_alike_iff
  tellsAlike index hdecided completed other hcompleted hother := by
    apply StorageIndex.tellsAlike_of_volume?
    intro name hname
    exact volume?_alike_iff.mpr
      (hdecided.imp_right fun hagree => hagree name hname) _ _ hcompleted hother
  run_eq := ⟨_, completes_completionOrder width calls, rfl⟩
  run_iff := sample_run_alike_iff

/-- A call to a node that reports a volume of a hundred bytes at `/mnt/data`. -/
def dataCall (node : String) (used : UInt64) : AgentCall UsageSample :=
  ⟨node, 1, .ok (.ofList [("/mnt/data", BlockUsage.mk 100 used)])⟩

/-- The volume `data`, and no other. -/
def dataIndex : StorageIndex :=
  .after
    [.persistentVolumes
      (.created ⟨.basic "data" "1", .ofList [("storage", "100")], some "fast", none, []⟩)]

/-- Two nodes report a mount point of the same path. The volume is as full as the node says whose
answer comes last. -/
theorem shared_mountpoint_by_order :
    let first := dataCall "n1" 10
    let second := dataCall "n2" 90
    Completes 8 [first, second] [first, second] ∧ Completes 8 [first, second] [second, first] ∧
      (collect [first, second]).sample["/mnt/data"]? = some ⟨100, 90⟩ ∧
      (collect [second, first]).sample["/mnt/data"]? = some ⟨100, 10⟩ ∧
      (dataIndex.classTotals (collect [first, second]).sample)["fast"]? = some ⟨100, 90⟩ ∧
      (dataIndex.classTotals (collect [second, first]).sample)["fast"]? = some ⟨100, 10⟩ := by
  intro first second
  -- with room for both, either of them may come back first
  have hstarted : (Join.start [first, second]).Reaches (max 8 1) ⟨[], [first, second], []⟩ :=
    .head (.start [] [] [second] first (by decide))
      (.single (.start [] [first] [] second (by decide)))
  refine ⟨hstarted.trans ?_, hstarted.trans ?_, ?_⟩
  · exact .head (.complete [] [] [second] [] first (.inr rfl))
      (.single (.complete [first] [] [] [] second (.inr rfl)))
  · exact .head (.complete [] [first] [] [] second (.inr rfl))
      (.single (.complete [second] [] [] [] first (.inr rfl)))
  · decide +kernel

end FanOut

end ClusterWatch
