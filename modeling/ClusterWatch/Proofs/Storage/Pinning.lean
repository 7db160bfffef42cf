import Mathlib.Algebra.Order.BigOperators.Group.List
import Mathlib.Algebra.Order.Group.Nat
import ClusterWatch.Proofs.Text.Numerals
import ClusterWatch.Storage.Volume

/-!
# The nodes that a volume admits

The required affinity of a volume is a list of alternatives, each a list of conditions that a node
has to meet together by its labels. A volume is reported to be pinned to the only host name of the
first condition that lists host names, wherever it stands. This is the host name of every admitted
node exactly if every alternative that can be met comes down to it.

* `MatchExpression.holds`, `PersistentVolume.Admits` — what the conditions say of the
  labels of a node.
* `PersistentVolume.PinnedOnly` — every admitted node has the reported host name.
* `PinsTo` — alternatives that come down to one host name.
* `MatchExpression.holds_fresh`, `exists_fresh` — conditions that list no host names do
  not single one out.
* `PersistentVolume.pinnedOnly_iff` — where volumes are pinned to what is reported;
  `pinnedOnly_of_single` — volumes with one alternative are.
-/

namespace ClusterWatch

/-! ### What conditions say of nodes -/

/-- The integer that the text of a label is, within 64 bits. -/
def labelInteger? (text : String) : Option Int :=
  Text.readSigned? (2 ^ 63 - 1) text.toList

/-- Whether a label is an integer in some relation to the only value of a condition. -/
def comparesWith (relation : Int → Int → Bool) (values : List String) (label : Option String) :
    Bool :=
  match values with
  | [bound] => (label.bind labelInteger?).any fun n => (labelInteger? bound).any (relation n ·)
  | _ => false

/-- Whether a condition holds of a label, which the node may lack. -/
def MatchExpression.holds (expression : MatchExpression) (label : Option String) : Bool :=
  match expression.operator with
  | "In" => label.any expression.values.contains
  | "NotIn" => !label.any expression.values.contains
  | "Exists" => label.isSome
  | "DoesNotExist" => label.isNone
  | "Gt" => comparesWith (· > ·) expression.values label
  | "Lt" => comparesWith (· < ·) expression.values label
  | _ => false

/-- Whether the labels of a node meet an alternative: all of its conditions. An alternative without
conditions is met by no node. -/
def meetsTerm (term : List MatchExpression) (labels : TextMap) : Bool :=
  !term.isEmpty && term.all fun expression => expression.holds labels[expression.key]?

/-- A node meets an alternative that is not empty if all its expressions hold of its labels. -/
theorem meetsTerm_iff {term : List MatchExpression} {labels : TextMap} :
    meetsTerm term labels = true ↔
      term ≠ [] ∧ ∀ expression ∈ term, expression.holds labels[expression.key]? = true := by
  simp [meetsTerm]

namespace PersistentVolume

/-- The required affinity of a volume admits a node with these labels: the node meets one of the
alternatives. -/
def Admits (volume : PersistentVolume) (labels : TextMap) : Prop :=
  ∃ term ∈ volume.nodeTerms, meetsTerm term labels = true

/-- If a node is reported, every admitted node has its host name. -/
def PinnedOnly (volume : PersistentVolume) : Prop :=
  ∀ host, volume.pinnedNode? = some host → ∀ labels, volume.Admits labels →
    labels[hostnameLabel]? = some host

end PersistentVolume

/-- An alternative comes down to one host name: it lists host names, and its other conditions on the
host name rule out all of them but that one. -/
def PinsTo (term : List MatchExpression) (host : String) : Prop :=
  ∃ expression ∈ term, expression.listsHosts = true ∧
    ∀ text ∈ expression.values, text ≠ host →
    ∃ other ∈ term, other.key = hostnameLabel ∧ other.holds (some text) = false

/-! ### Conditions on host names -/

/-- Comparisons see only the integer that a label is. -/
theorem comparesWith_congr {relation : Int → Int → Bool} {values : List String}
    {text other : String} (h : labelInteger? text = labelInteger? other) :
    comparesWith relation values (some text) = comparesWith relation values (some other) := by
  unfold comparesWith
  rw [Option.bind_some, Option.bind_some, h]

namespace MatchExpression

variable {expression : MatchExpression} {label : Option String}

theorem listsHosts_iff :
    expression.listsHosts = true ↔
      expression.key = hostnameLabel ∧ expression.operator = "In" := by
  simp [listsHosts]

/-- A list of host names holds of those that are listed. -/
theorem holds_of_listsHosts (h : expression.listsHosts = true) :
    expression.holds label = true ↔ ∃ text ∈ expression.values, label = some text := by
  rw [holds, (listsHosts_iff.mp h).2]
  cases label <;> simp

/-- A condition of another kind than a list cannot tell a text from another one that is the same
integer, unless it names it. -/
theorem holds_fresh (hoperator : expression.operator ≠ "In") {text fresh : String}
    (hinteger : labelInteger? fresh = labelInteger? text) (hfresh : fresh ∉ expression.values)
    (h : expression.holds (some text) = true) : expression.holds (some fresh) = true := by
  unfold holds at h ⊢
  split at h
  next heq => exact absurd heq hoperator
  -- of the lists, the one of what is excluded does not have the new text
  next => simpa using hfresh
  next => rfl
  next => cases h
  next => rwa [comparesWith_congr hinteger]
  next => rwa [comparesWith_congr hinteger]
  next => cases h

end MatchExpression

/-- For any text there is another one that is the same integer, or none as well, and
is not listed. -/
theorem exists_fresh (text : String) (listed : List String) :
    ∃ fresh, fresh ∉ listed ∧ labelInteger? fresh = labelInteger? text := by
  -- a text is not listed if it is longer than all that are
  have hlong {cs : List Char} (hlength : (listed.map String.length).sum < cs.length) :
      String.ofList cs ∉ listed := by
    intro hmem
    have hle := List.le_sum_of_mem (List.mem_map_of_mem (f := String.length) hmem)
    rw [String.length_ofList] at hle
    omega
  cases hinteger : labelInteger? text with
  | some n =>
    obtain ⟨hnumeral, hbounds⟩ := Text.readSigned?_eq_some_iff.mp hinteger
    obtain ⟨longer, hlength, hlonger⟩ := hnumeral.exists_longer (listed.map String.length).sum
    refine ⟨String.ofList longer, hlong hlength, ?_⟩
    rw [labelInteger?, String.toList_ofList]
    exact Text.readSigned?_eq_some_iff.mpr ⟨hlonger, hbounds⟩
  | none =>
    refine ⟨String.ofList (List.replicate ((listed.map String.length).sum + 1) 'x'),
      hlong (by simp), ?_⟩
    rw [labelInteger?, String.toList_ofList, Option.eq_none_iff_forall_ne_some]
    intro n hn
    obtain ⟨hnumeral, -⟩ := Text.readSigned?_eq_some_iff.mp hn
    exact absurd (hnumeral.of_mem List.mem_cons_self) (by decide)

namespace PersistentVolume

variable {volume : PersistentVolume} {host : String} {term : List MatchExpression}

/-! ### Pinned volumes -/

/-- An alternative that comes down to a host name is met only by nodes of that name. -/
theorem hostname_of_pinsTo (h : PinsTo term host) {labels : TextMap}
    (hmeets : meetsTerm term labels = true) :
    labels[hostnameLabel]? = some host := by
  obtain ⟨expression, hexpression, hlists, hothers⟩ := h
  have hholds := (meetsTerm_iff.mp hmeets).2
  have hlisted := hholds expression hexpression
  rw [(MatchExpression.listsHosts_iff.mp hlists).1,
    MatchExpression.holds_of_listsHosts hlists] at hlisted
  obtain ⟨text, htext, hlabel⟩ := hlisted
  -- every other host of the list fails some expression
  by_contra hne
  obtain ⟨other, hother, hkey, hfails⟩ := hothers text htext fun heq => hne (heq ▸ hlabel)
  have hheld := hholds other hother
  rw [hkey, hlabel, hfails] at hheld
  cases hheld

/-- An alternative that only nodes of one host name meet comes down to that name, if any node
meets it at all. -/
theorem pinsTo_of_hostname
    (honly : ∀ labels, meetsTerm term labels = true → labels[hostnameLabel]? = some host)
    {labels : TextMap} (hmeets : meetsTerm term labels = true) : PinsTo term host := by
  obtain ⟨hsome, hholds⟩ := meetsTerm_iff.mp hmeets
  -- a node that differs in its host name only meets the other conditions all the same
  have hsame {text : String}
      (htext : ∀ expression ∈ term,
        expression.key = hostnameLabel → expression.holds (some text) = true) :
      text = host := by
    refine Option.some.inj ?_
    rw [← honly (labels.insert hostnameLabel text)
      (meetsTerm_iff.mpr ⟨hsome, fun expression hmem => ?_⟩),
      Std.ExtTreeMap.getElem?_insert_self]
    by_cases hkey : expression.key = hostnameLabel
    · rw [hkey, Std.ExtTreeMap.getElem?_insert_self]
      exact htext expression hmem hkey
    · rw [Std.ExtTreeMap.getElem?_insert,
        if_neg fun heq => hkey (Std.LawfulEqCmp.compare_eq_iff_eq.mp heq).symm]
      exact hholds expression hmem
  by_cases hlists : ∃ expression ∈ term, expression.listsHosts = true
  · obtain ⟨expression, hexpression, hlists⟩ := hlists
    refine ⟨expression, hexpression, hlists, fun text _ hne => ?_⟩
    by_contra hnone
    push Not at hnone
    exact hne (hsame fun other hother hkey => Bool.ne_false_iff.mp (hnone other hother hkey))
  · -- otherwise a host name that nothing mentions would do
    obtain ⟨fresh, hfresh, hinteger⟩ :=
      exists_fresh host (host :: term.flatMap MatchExpression.values)
    obtain ⟨hhost, hlisted⟩ := not_or.mp (mt List.mem_cons.mpr hfresh)
    refine absurd (hsame fun expression hmem hkey => ?_) hhost
    have hheld := hholds expression hmem
    rw [hkey, honly labels hmeets] at hheld
    refine MatchExpression.holds_fresh (fun hin => hlists ?_) hinteger
      (fun hvalue => hlisted ?_) hheld
    · exact ⟨expression, hmem, MatchExpression.listsHosts_iff.mpr ⟨hkey, hin⟩⟩
    · exact List.mem_flatMap.mpr ⟨expression, hmem, hvalue⟩

/-- Every admitted node has the reported host name exactly if every alternative that some node meets
comes down to it. -/
theorem pinnedOnly_iff (volume : PersistentVolume) :
    volume.PinnedOnly ↔ ∀ host, volume.pinnedNode? = some host →
      ∀ term ∈ volume.nodeTerms,
      (∃ labels, meetsTerm term labels = true) → PinsTo term host := by
  constructor
  · rintro hpinned host hhost term hterm ⟨labels, hmeets⟩
    exact pinsTo_of_hostname
      (fun labels hmeets => hpinned host hhost labels ⟨term, hterm, hmeets⟩) hmeets
  · rintro hterms host hhost labels ⟨term, hterm, hmeets⟩
    exact hostname_of_pinsTo (hterms host hhost term hterm ⟨labels, hmeets⟩) hmeets

/-- The alternative that the reported host name is read off comes down to it. -/
theorem exists_pinsTo (h : volume.pinnedNode? = some host) :
    ∃ term ∈ volume.nodeTerms, PinsTo term host := by
  unfold pinnedNode? at h
  split at h
  next expression hfind =>
    split at h
    next only hvalues =>
      obtain rfl := Option.some.inj h
      obtain ⟨term, hterm, hexpression⟩ := List.mem_flatten.mp (List.mem_of_find?_eq_some hfind)
      refine ⟨term, hterm, expression, hexpression, List.find?_some hfind,
        fun text htext hne => ?_⟩
      -- the expression lists this host and no other
      rw [hvalues, List.mem_singleton] at htext
      exact absurd htext hne
    next => cases h
  next => cases h

/-- A volume with one alternative admits no other nodes than those of the reported host name. -/
theorem pinnedOnly_of_single (h : volume.nodeTerms = [term]) : volume.PinnedOnly := by
  rintro host hhost labels ⟨met, hmet, hmeets⟩
  obtain ⟨own, hown, hpins⟩ := exists_pinsTo hhost
  -- what is met is what the host name was read off
  rw [h, List.mem_singleton] at hmet hown
  rw [hmet] at hmeets
  exact hostname_of_pinsTo (hown ▸ hpins) hmeets

/-- A volume that is on either of two nodes, each named by an alternative of its own. -/
def onEitherNode : PersistentVolume where
  metadata := ⟨some "shared", none, none, ∅, none, none, false, [], []⟩
  capacity := (∅ : Resources).insert "storage" "10Gi"
  storageClass := some "fast"
  claimRef := none
  nodeTerms := [[⟨hostnameLabel, "In", ["node-1"]⟩], [⟨hostnameLabel, "In", ["node-2"]⟩]]

/-- It is reported to be pinned to the first node, and the second one is admitted as well. -/
theorem not_pinnedOnly_onEitherNode :
    onEitherNode.pinnedNode? = some "node-1" ∧
      onEitherNode.Admits ((∅ : TextMap).insert hostnameLabel "node-2") ∧
        ¬ onEitherNode.PinnedOnly := by
  have hpinned : onEitherNode.pinnedNode? = some "node-1" := by decide
  -- the second alternative admits the second node
  have hadmits : onEitherNode.Admits ((∅ : TextMap).insert hostnameLabel "node-2") :=
    ⟨[⟨hostnameLabel, "In", ["node-2"]⟩],
      List.mem_cons_of_mem _ List.mem_cons_self, by decide⟩
  refine ⟨hpinned, hadmits, fun honly => ?_⟩
  have hother := honly "node-1" hpinned _ hadmits
  rw [Std.ExtTreeMap.getElem?_insert_self] at hother
  exact absurd hother (by decide)

end PersistentVolume

end ClusterWatch
