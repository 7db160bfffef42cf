import Mathlib.Data.List.Basic
import Mathlib.Data.List.Flatten
import Mathlib.Data.List.Induction
import Mathlib.Data.List.Nodup
import Mathlib.Data.List.Sort
import Std.Data.ExtTreeMap
import ClusterWatch.Sorting

/-!
# Lists and maps

Facts on lists and on maps that the theory uses throughout: what comes last in a list with some
property, where the beginning of several lists one after another ends, and what holds of all
entries of a map.

* `findRev?_cons`, `findRev?_concat`, `of_findRev?_eq_some` — the last element of a list
  that has a property.
* `findSomeRev?_concat`, `findSomeRev?_eq_some_iff` — the last hit in a list.
* `concat_eq_append_cons`, `append_cons_cases` — where the elements stand at which
  a list is split.
* `exists_of_concat_prefix_flatMap` — the beginning of several lists ends in one of them.
* `filter_flatMap_of_mem` — one of several lists is found among all of them by its key.
* `flatMap_eq_iff_of_sublist` — where parts of several lists are all of them.
* `perm_of_filter_eq` — lists that agree on the elements of every key.
* `flatMap_filter_perm` — a list taken key by key.
* `sortedBy_eq_insertionSort`, `pairwise_sortedBy` — a list put in order.
* `forall_getElem?_insert`, `forall_getElem?_erase` — what holds of all entries still
  does after a change.
* `map_insert` — what is made of the entries, where one is new.
* `foldl_insert_eq_insertMany`, `getElem?_insertMany_toList` — entries put into a map
  one after another.
* `getElem?_insertMany_eq_some_iff`, `toList_insertMany_perm` — entries of which no two
  have the same key.
* `getElem?_foldl_group` — elements gathered by their keys.
* `getD_insert_succ`, `getD_foldl_count` — elements counted by their keys.
* `of_foldlM_eq_some` — what every step of a walk along a list preserves.
-/

namespace ClusterWatch

/-! ### What comes last in a list -/

section Last

variable {α : Type} (holds : α → Prop) [DecidablePred holds]

/-- The last element with a property is the last one behind the first, or else the first. -/
theorem findRev?_cons (first : α) (rest : List α) :
    (first :: rest).findRev? (holds ·) =
      (rest.findRev? (holds ·)).or (if holds first then some first else none) := by
  simp [List.find?_append, List.find?_singleton]

/-- The last element with a property is the last of all, if that has it. -/
theorem findRev?_concat (earlier : List α) (last : α) :
    (earlier ++ [last]).findRev? (holds ·) =
      if holds last then some last else earlier.findRev? (holds ·) := by
  simp only [List.findRev?_eq_find?_reverse, List.reverse_append, List.reverse_singleton,
    List.singleton_append, List.find?_cons]
  by_cases hlast : holds last <;> simp [hlast]

variable {holds}

/-- The last element with a property is an element, and has the property. -/
theorem of_findRev?_eq_some {list : List α} {last : α}
    (h : list.findRev? (holds ·) = some last) :
    last ∈ list ∧ holds last := by
  rw [List.findRev?_eq_find?_reverse] at h
  exact ⟨List.mem_reverse.mp (List.mem_of_find?_eq_some h), by simpa using List.find?_some h⟩

end Last

/-- The last hit in a list is that of its last element, if that is one. -/
theorem findSomeRev?_concat {α β : Type} (f : α → Option β) (earlier : List α) (last : α) :
    (earlier ++ [last]).findSomeRev? f = (f last).or (earlier.findSomeRev? f) := by
  simp only [List.findSomeRev?_eq_findSome?_reverse, List.reverse_append, List.findSome?_append,
    List.reverse_singleton, List.findSome?_singleton]

/-- The last hit in a list is a hit that no later element of the list is. -/
theorem findSomeRev?_eq_some_iff {α β : Type} {list : List α} {f : α → Option β} {hit : β} :
    list.findSomeRev? f = some hit ↔
      ∃ before element after, list = before ++ element :: after ∧ f element = some hit ∧
        ∀ later ∈ after, f later = none := by
  -- the library says so of the first hit, which is the last one of the reversed list
  rw [List.findSomeRev?_eq_findSome?_reverse, List.findSome?_eq_some_iff]
  constructor
  · rintro ⟨after, element, before, hreverse, hhit, hlater⟩
    refine ⟨before.reverse, element, after.reverse, ?_, hhit, fun later hmem => ?_⟩
    · rw [← List.reverse_reverse list, hreverse]
      simp
    · exact hlater later (List.mem_reverse.mp hmem)
  · rintro ⟨before, element, after, rfl, hhit, hlater⟩
    refine ⟨after.reverse, element, before.reverse, by simp, hhit, fun later hmem => ?_⟩
    exact hlater later (List.mem_reverse.mp hmem)

/-- An element of a list with something at its end is what was put there, or an element of
the list before. -/
theorem concat_eq_append_cons {α : Type} {earlier before after : List α} {last element : α}
    (h : earlier ++ [last] = before ++ element :: after) :
    (after = [] ∧ earlier = before ∧ last = element) ∨
      ∃ rest, after = rest ++ [last] ∧ earlier = before ++ element :: rest := by
  rcases List.eq_nil_or_concat after with rfl | ⟨rest, final, rfl⟩
  · obtain ⟨hbefore, helement⟩ := List.append_inj' h rfl
    exact .inl ⟨rfl, hbefore, (List.cons.inj helement).1⟩
  · rw [List.concat_eq_append, ← List.cons_append, ← List.append_assoc] at h
    obtain ⟨hearlier, hfinal⟩ := List.append_inj' h rfl
    rw [(List.cons.inj hfinal).1]
    exact .inr ⟨rest, List.concat_eq_append, hearlier⟩

/-- Of two elements at which a list is split, the second stands behind the first, or what stands
behind the first stands behind the second too. -/
theorem append_cons_cases {α : Type} {before after earlier later : List α} {first second : α}
    (h : before ++ first :: after = earlier ++ second :: later) :
    (∃ between, after = between ++ second :: later) ∨
      ∀ element ∈ after, element ∈ later := by
  have hafter : after <:+ earlier ++ second :: later := h ▸ ⟨before ++ [first], by simp⟩
  have hsecond : second :: later <:+ earlier ++ second :: later := List.suffix_append _ _
  -- two suffixes of one list are suffixes of each other, the shorter one of the longer
  by_cases hlength : (second :: later).length ≤ after.length
  · obtain ⟨between, hbetween⟩ := List.suffix_of_suffix_length_le hsecond hafter hlength
    exact .inl ⟨between, hbetween.symm⟩
  · rw [List.length_cons, Nat.not_le, Nat.lt_succ_iff] at hlength
    exact .inr (List.suffix_of_suffix_length_le hafter
      ((List.suffix_cons second later).trans hsecond) hlength).subset

/-! ### The beginning of several lists -/

/-- What comes last in the beginning of several lists one after another comes last in the beginning
of one of them, behind all of the lists before. -/
theorem exists_of_concat_prefix_flatMap {α β : Type} {f : α → List β} {list : List α}
    {earlier : List β} {last : β} (h : earlier ++ [last] <+: list.flatMap f) :
    ∃ before current after begun, list = before ++ current :: after ∧
      earlier = before.flatMap f ++ begun ∧ begun ++ [last] <+: f current := by
  induction list generalizing earlier with
  | nil => simp at h
  | cons first rest ih =>
    rw [List.flatMap_cons] at h
    by_cases hlength : (earlier ++ [last]).length ≤ (f first).length
    · exact ⟨[], first, rest, earlier, rfl, rfl,
        List.prefix_of_prefix_length_le h (List.prefix_append _ _) hlength⟩
    · -- the first list is over, and the rest of what came earlier begins the others
      have hfirst : f first <+: earlier := by
        refine List.prefix_of_prefix_length_le (List.prefix_append _ _)
          ((List.prefix_append earlier [last]).trans h) ?_
        simp only [List.length_append, List.length_singleton] at hlength
        omega
      obtain ⟨later, rfl⟩ := hfirst
      rw [List.append_assoc, List.prefix_append_right_inj] at h
      obtain ⟨before, current, after, begun, rfl, rfl, hbegun⟩ := ih h
      exact ⟨first :: before, current, after, begun, rfl, by simp, hbegun⟩

/-- Of several lists one after another, whose elements tell different keys, the elements with the
key of one list are that list. -/
theorem filter_flatMap_of_mem {α β κ : Type} [DecidableEq κ] {f : α → List β}
    {key : α → κ} {tag : β → κ} {list : List α}
    (hdistinct : list.Pairwise (key · ≠ key ·))
    (htag : ∀ element, ∀ piece ∈ f element, tag piece = key element) {element : α}
    (helement : element ∈ list) :
    (list.flatMap f).filter (tag · = key element) = f element := by
  have hself (own : α) : (f own).filter (tag · = key own) = f own :=
    List.filter_eq_self.mpr fun piece hpiece => by simpa using htag own piece hpiece
  have hother {own other : α} (hne : key own ≠ key other) :
      (f own).filter (tag · = key other) = [] := by
    refine List.filter_eq_nil_iff.mpr fun piece hpiece => ?_
    simpa [htag own piece hpiece] using hne
  induction list with
  | nil => cases helement
  | cons first rest ih =>
    rw [List.pairwise_cons] at hdistinct
    rw [List.flatMap_cons, List.filter_append]
    -- the element is the first one, or one of the rest, and the other pieces are not of it
    rcases List.mem_cons.mp helement with rfl | hrest
    · have hlater : (rest.flatMap f).filter (tag · = key element) = [] := by
        rw [List.filter_flatMap, List.flatMap_eq_nil_iff]
        exact fun later hlater => hother (hdistinct.1 later hlater).symm
      rw [hself, hlater, List.append_nil]
    · rw [hother (hdistinct.1 element hrest), ih hdistinct.2 hrest, List.nil_append]

/-- Parts of several lists one after another are all of them if and only if each part is
the whole list. -/
theorem flatMap_eq_iff_of_sublist {α β : Type} {part whole : α → List β} {list : List α}
    (h : ∀ element ∈ list, (part element).Sublist (whole element)) :
    list.flatMap part = list.flatMap whole ↔
      ∀ element ∈ list, part element = whole element := by
  refine ⟨fun heq => ?_, List.flatMap_congr⟩
  induction list with
  | nil => simp
  | cons first rest ih =>
    rw [List.forall_mem_cons] at h ⊢
    have hrest : (rest.flatMap part).length ≤ (rest.flatMap whole).length :=
      (List.Sublist.flatMap_right rest h.2).length_le
    -- where nothing is missing in the end, nothing is missing in the first list
    have hlength : (part first).length = (whole first).length := by
      have htotal := congrArg List.length heq
      have hfirst := h.1.length_le
      simp only [List.flatMap_cons, List.length_append] at htotal
      omega
    have hsame := h.1.eq_of_length hlength
    rw [List.flatMap_cons, List.flatMap_cons, hsame, List.append_cancel_left_eq] at heq
    exact ⟨hsame, ih h.2 heq⟩

/-- Two lists that have the same elements of every key, in the same order, have the
same elements. -/
theorem perm_of_filter_eq {α κ : Type} [DecidableEq κ] (key : α → κ) {list other : List α}
    (h : ∀ wanted, list.filter (key · = wanted) = other.filter (key · = wanted)) :
    list.Perm other := by
  classical
  refine List.perm_iff_count.mpr fun element => ?_
  have hcount (list : List α) :
      list.count element = (list.filter (key · = key element)).count element :=
    (List.count_filter (p := fun other => key other = key element) (decide_eq_true rfl)).symm
  rw [hcount list, h, ← hcount other]

/-- The elements of several keys, taken key by key, are those that have one of the keys. -/
theorem flatMap_filter_perm {α κ : Type} [DecidableEq κ] (key : α → κ) {keys : List κ}
    (hdistinct : keys.Nodup) {list : List α} (hkeys : ∀ element ∈ list, key element ∈ keys) :
    (keys.flatMap fun wanted => list.filter (key · = wanted)).Perm list := by
  have htag (wanted : κ) :
      ∀ element ∈ list.filter (key · = wanted), key element = wanted := by
    intro element helement
    simpa using (List.mem_filter.mp helement).2
  refine perm_of_filter_eq key fun wanted => ?_
  by_cases hwanted : wanted ∈ keys
  · exact filter_flatMap_of_mem hdistinct htag hwanted
  · -- no element has a key that is not among the keys
    have hnone {part : List α} (hpart : ∀ element ∈ part, key element ∈ keys) :
        part.filter (key · = wanted) = [] := by
      refine List.filter_eq_nil_iff.mpr fun element helement heq => hwanted ?_
      exact of_decide_eq_true heq ▸ hpart element helement
    rw [hnone hkeys, hnone]
    intro element helement
    obtain ⟨own, hown, hmem⟩ := List.mem_flatMap.mp helement
    exact htag own element hmem ▸ hown

/-! ### Lists put in order -/

section Sorted

variable {α : Type} {le : α → α → Bool}

/-- A list is sorted as the library does it, by an order that is computed. -/
theorem sortedBy_eq_insertionSort (list : List α) :
    sortedBy le list = list.insertionSort (le · ·) := by
  -- both recursions put the first element into the sorted rest
  have hinsert (element : α) (list : List α) :
      insertSorted le element list = list.orderedInsert (le · ·) element := by
    induction list with
    | nil => rfl
    | cons first rest ih => rw [insertSorted, List.orderedInsert_cons, ih]
  induction list with
  | nil => rfl
  | cons first rest ih => rw [sortedBy, hinsert, ih, List.insertionSort_cons]

/-- Sorting keeps the elements, each as often as it is there. -/
theorem sortedBy_perm (list : List α) : (sortedBy le list).Perm list := by
  rw [sortedBy_eq_insertionSort]
  exact List.perm_insertionSort _ list

theorem mem_sortedBy {list : List α} {element : α} :
    element ∈ sortedBy le list ↔ element ∈ list :=
  (sortedBy_perm list).mem_iff

/-- A sorted list is in order, and in the strict order if no two of its elements have
the same key. -/
theorem pairwise_sortedBy {κ : Type} (key : α → κ) {lt : α → α → Prop}
    (htotal : ∀ one other, le one other = true ∨ le other one = true)
    (htrans : ∀ one other third,
      le one other = true → le other third = true → le one third = true)
    (hstrict : ∀ one other, le one other = true → key one ≠ key other → lt one other)
    {list : List α} (hdistinct : (list.map key).Nodup) : (sortedBy le list).Pairwise lt := by
  -- the library asks for the order as a relation
  have : Std.Total fun one other => le one other = true := ⟨htotal⟩
  have : IsTrans α fun one other => le one other = true := ⟨htrans⟩
  have hle : (sortedBy le list).Pairwise fun one other => le one other = true := by
    rw [sortedBy_eq_insertionSort]
    exact List.pairwise_insertionSort _ list
  have hkeys : ((sortedBy le list).map key).Nodup :=
    ((sortedBy_perm list).map key).nodup_iff.mpr hdistinct
  exact hle.imp₂ (fun one other => hstrict one other) (List.pairwise_map.mp hkeys)

end Sorted

/-! ### Entries of maps -/

section Entries

variable {κ ν : Type} [Ord κ] [Std.TransOrd κ] {map : Std.ExtTreeMap κ ν}
  {holds : κ → ν → Prop}

/-- What holds of all entries of a map and of a new one holds of all entries afterwards. -/
theorem forall_getElem?_insert [Std.LawfulEqOrd κ]
    (h : ∀ key value, map[key]? = some value → holds key value) {new : κ} {newValue : ν}
    (hnew : holds new newValue) (key : κ) (value : ν)
    (hvalue : (map.insert new newValue)[key]? = some value) : holds key value := by
  rw [Std.ExtTreeMap.getElem?_insert] at hvalue
  split at hvalue
  next hkey =>
    rw [← Std.LawfulEqCmp.compare_eq_iff_eq.mp hkey, ← Option.some.inj hvalue]
    exact hnew
  next => exact h key value hvalue

/-- What holds of all entries of a map holds of those that an erasure leaves. -/
theorem forall_getElem?_erase (h : ∀ key value, map[key]? = some value → holds key value)
    (gone key : κ) (value : ν) (hvalue : (map.erase gone)[key]? = some value) :
    holds key value := by
  rw [Std.ExtTreeMap.getElem?_erase] at hvalue
  split at hvalue
  next => cases hvalue
  next => exact h key value hvalue

end Entries

/-- What is made of the entries of a map with a new one is what is made of the earlier ones, with
what is made of the new. -/
theorem map_insert {κ ν μ : Type} [Ord κ] [Std.TransOrd κ] [Std.LawfulEqOrd κ]
    (map : Std.ExtTreeMap κ ν) (key : κ) (value : ν) (f : κ → ν → μ) :
    (map.insert key value).map f = (map.map f).insert key (f key value) := by
  refine Std.ExtTreeMap.ext_getElem? fun wanted => ?_
  simp only [Std.ExtTreeMap.getElem?_map, Std.ExtTreeMap.getElem?_insert]
  split
  next hkey => simp [Std.LawfulEqCmp.compare_eq_iff_eq.mp hkey]
  next => rfl

theorem foldl_insert_eq_insertMany {κ ν : Type} [Ord κ] [Std.TransOrd κ]
    (entries : List (κ × ν)) (map : Std.ExtTreeMap κ ν) :
    entries.foldl (fun map entry => map.insert entry.1 entry.2) map = map.insertMany entries := by
  induction entries generalizing map with
  | nil => rfl
  | cons entry entries ih => rw [List.foldl_cons, ih, Std.ExtTreeMap.insertMany_cons]

section Distinct

variable {ν : Type} {entries : List (String × ν)}

/-- Of entries with different keys, each stands under its key. -/
theorem getElem?_insertMany_eq_some_iff (hdistinct : (entries.map (·.1)).Nodup)
    {key : String} {value : ν} :
    ((∅ : Std.ExtTreeMap String ν).insertMany entries)[key]? = some value ↔
      (key, value) ∈ entries := by
  constructor
  · intro h
    rw [Std.ExtTreeMap.getElem?_insertMany_list, Std.ExtTreeMap.getElem?_empty, Option.or_none,
      findSomeRev?_eq_some_iff] at h
    -- what is found was the last entry with the key, and so is one of the entries
    obtain ⟨before, ⟨other, found⟩, after, hentries, hfound, -⟩ := h
    obtain ⟨hkey, hvalue⟩ := Option.ite_none_right_eq_some.mp hfound
    rw [hentries, ← Std.LawfulEqCmp.compare_eq_iff_eq.mp hkey, ← Option.some.inj hvalue]
    exact List.mem_append_right _ List.mem_cons_self
  · intro h
    refine Std.ExtTreeMap.getElem?_insertMany_list_of_mem Std.ReflCmp.compare_self ?_ h
    exact (List.pairwise_map.mp hdistinct).imp fun hne heq =>
      hne (Std.LawfulEqCmp.compare_eq_iff_eq.mp heq)

/-- A map of entries with different keys has these entries. -/
theorem toList_insertMany_perm (hdistinct : (entries.map (·.1)).Nodup) :
    ((∅ : Std.ExtTreeMap String ν).insertMany entries).toList.Perm entries := by
  have hnodup : ((∅ : Std.ExtTreeMap String ν).insertMany entries).toList.Nodup := by
    apply List.Nodup.of_map (·.1)
    rw [Std.ExtTreeMap.map_fst_toList_eq_keys]
    exact Std.ExtTreeMap.nodup_keys
  rw [List.perm_ext_iff_of_nodup hnodup (List.Nodup.of_map _ hdistinct)]
  rintro ⟨key, value⟩
  rw [Std.ExtTreeMap.mem_toList_iff_getElem?_eq_some, getElem?_insertMany_eq_some_iff hdistinct]

end Distinct

/-- The entries of one map put into another take the place of those under the same keys. -/
theorem getElem?_insertMany_toList {ν : Type}
    (map other : Std.ExtTreeMap String ν) (key : String) :
    (map.insertMany other.toList)[key]? = other[key]?.or map[key]? := by
  -- either the other map has an entry for the key, or none of its entries is about it
  cases hother : other[key]? with
  | some value =>
    refine Std.ExtTreeMap.getElem?_insertMany_list_of_mem Std.ReflCmp.compare_self
      other.distinct_keys_toList ?_
    exact Std.ExtTreeMap.mem_toList_iff_getElem?_eq_some.mpr hother
  | none =>
    apply Std.ExtTreeMap.getElem?_insertMany_list_of_contains_eq_false
    rw [Std.ExtTreeMap.map_fst_toList_eq_keys, ← Bool.not_eq_true, List.contains_iff_mem,
      Std.ExtTreeMap.mem_keys, Std.ExtTreeMap.mem_iff_isSome_getElem?, hother]
    exact Bool.false_ne_true

/-- Where elements are gathered by their keys, each of them added to what stands under its key,
there stands under every key what its own elements come to, and nothing if it has none. -/
theorem getElem?_foldl_group {ε α : Type} (key : ε → String) (init : α)
    (add : α → ε → α) (elements : List ε) (wanted : String) :
    (elements.foldl (fun gathered element =>
        gathered.insert (key element) (add (gathered[key element]?.getD init) element))
        (∅ : Std.ExtTreeMap String α))[wanted]? =
      if elements.filter (key · = wanted) = [] then none
      else some ((elements.filter (key · = wanted)).foldl add init) := by
  induction elements using List.reverseRecOn with
  | nil => rfl
  | append_singleton elements last ih =>
    rw [List.foldl_append, List.foldl_cons, List.foldl_nil, Std.ExtTreeMap.getElem?_insert,
      List.filter_append]
    by_cases hkey : key last = wanted
    · -- what stands under the key so far is what the earlier elements come to
      subst hkey
      rw [ih]
      by_cases hnone : elements.filter (key · = key last) = [] <;> simp [hnone]
    · simpa [hkey] using ih

section Counting

variable {κ : Type} [Ord κ] [Std.TransOrd κ] [Std.LawfulEqOrd κ] [DecidableEq κ]

/-- One more is counted under a key, and as many as before under the others. -/
theorem getD_insert_succ (counts : Std.ExtTreeMap κ Nat) (key wanted : κ) :
    (counts.insert key (counts[key]?.getD 0 + 1))[wanted]?.getD 0 =
      counts[wanted]?.getD 0 + if key = wanted then 1 else 0 := by
  rw [Std.ExtTreeMap.getElem?_insert]
  by_cases hkey : key = wanted
  · simp [hkey]
  · simp [hkey, Std.LawfulEqCmp.compare_eq_iff_eq]

/-- Where elements are counted under their keys, there are as many more under every key as there are
elements of it. -/
theorem getD_foldl_count {ε : Type} (key : ε → κ) (elements : List ε)
    (counts : Std.ExtTreeMap κ Nat) (wanted : κ) :
    (elements.foldl
      (fun counts element => counts.insert (key element) (counts[key element]?.getD 0 + 1))
        counts)[wanted]?.getD 0 = counts[wanted]?.getD 0 + elements.countP (key · = wanted) := by
  induction elements generalizing counts with
  | nil => simp
  | cons element elements ih =>
    rw [List.foldl_cons, ih, getD_insert_succ, List.countP_cons]
    simp only [decide_eq_true_eq]
    omega

end Counting

/-- Where every step along a list that can be taken preserves a property, the whole walk
preserves it. -/
theorem of_foldlM_eq_some {σ α : Type} {step? : σ → α → Option σ} (holds : σ → Prop)
    (hstep : ∀ (element : α) {before after : σ},
      holds before → step? before element = some after → holds after)
    {list : List α} {first last : σ} (hlast : list.foldlM step? first = some last)
    (hfirst : holds first) :
    holds last := by
  induction list generalizing first with
  | nil => exact Option.some.inj hlast ▸ hfirst
  | cons element rest ih =>
    rw [List.foldlM_cons] at hlast
    obtain ⟨next, hnext, hrest⟩ := Option.bind_eq_some_iff.mp hlast
    exact ih hrest (hstep element hfirst hnext)

end ClusterWatch
