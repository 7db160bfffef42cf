import Mathlib.Data.List.Induction
import ClusterWatch.ApiServer.Write
import ClusterWatch.Cluster.Manifest
import ClusterWatch.Proofs.Collections

/-!
# Finalizer patches and other controllers

The agent sets the finalizers of a config as a whole, to those of its cached copy with its own one
added or removed. Other controllers add and remove theirs on the API server meanwhile. The patch
carries no version by which the API server could tell that the copy is an old one, and so it undoes
whatever they have done since the copy was read.

* `Json.merge` — a value with a merge patch applied; `member_merge_self`, `member_merge_of_ne`.
* `HeldObject.receive` — what the API server makes of a patch: it refuses one that carries a
  version other than the current one, and applies every other one.
* `Contention` — the object on the API server and the cached copy, as the agent and other
  controllers take turns.
* `FinalizerWrite.body_of_send` — the patch that the agent sends.
* `Contention.keepsForeign_iff` — the patch leaves the finalizers of others as they are exactly if
  they are those of the cached copy still.
* `Contention.foreign_finalizer_lost` — a finalizer that was added since the copy was read is gone
  after the patch.
-/

namespace ClusterWatch

/-! ### Merge patches -/

namespace Json

mutual

/-- A value with a merge patch applied. A patch that is an object changes members, and any other
patch takes the place of the value. -/
def merge (target : Json) : Json → Json
  | .obj members => .obj (mergeMembers target.membersOrNone members)
  | patch => patch

/-- Members with those of a patch applied, one after another. A member that is `null` in the
patch is removed. -/
def mergeMembers (target : List (String × Json)) : List (String × Json) → List (String × Json)
  | [] => target
  | (name, .null) :: rest => mergeMembers (target.filter (·.1 ≠ name)) rest
  | (name, value) :: rest =>
    mergeMembers
      (target.filter (·.1 ≠ name) ++ [(name, merge ((obj target).member name) value)]) rest

end

/-- What is looked up under one name is found without the entries of another. -/
theorem lookup_filter_of_ne {members : List (String × Json)} {name other : String}
    (hne : other ≠ name) :
    (members.filter (·.1 ≠ name)).lookup other = members.lookup other := by
  induction members with
  | nil => rfl
  | cons member rest ih =>
    obtain ⟨own, value⟩ := member
    -- an entry that is filtered out has a name that is not looked up
    by_cases hname : own = name
    · have hskip : (other == own) = false := by
        rw [hname]
        exact beq_false_of_ne hne
      rw [List.filter_cons_of_neg (by simpa using hname), ih, List.lookup_cons, hskip]
    · rw [List.filter_cons_of_pos (by simpa using hname), List.lookup_cons, List.lookup_cons, ih]

section Merge

variable (target : Json) {value : Json} (hvalue : value ≠ .null)

include hvalue

/-- A patch with one member puts it in the place of the member of that name. -/
theorem merge_single (name : String) :
    target.merge (.obj [(name, value)]) =
      .obj
        (target.membersOrNone.filter (·.1 ≠ name) ++
          [(name, merge (target.member name) value)]) := by
  have hmember : (obj target.membersOrNone).member name = target.member name := by
    cases target <;> rfl
  rw [← hmember]
  cases value <;> first | rfl | exact absurd rfl hvalue

/-- A patch with one member changes the member of that name. -/
theorem member_merge_self (name : String) :
    (target.merge (.obj [(name, value)])).member name = merge (target.member name) value := by
  rw [merge_single target hvalue]
  simp [member, member?, members?]

/-- A patch with one member leaves the members of other names as they are. -/
theorem member_merge_of_ne {name other : String} (hne : other ≠ name) :
    (target.merge (.obj [(name, value)])).member other = target.member other := by
  have hmember : (obj target.membersOrNone).member other = target.member other := by
    cases target <;> rfl
  have hlast : (other == name) = false := beq_false_of_ne hne
  rw [merge_single target hvalue, ← hmember]
  simp only [member, member?, members?, Option.bind_some, List.reverse_append,
    List.reverse_singleton, List.singleton_append, List.lookup_cons, hlast, ← List.filter_reverse]
  rw [lookup_filter_of_ne hne]

end Merge

/-- Strings in an array read back. -/
@[simp]
theorem texts_ofTexts (list : List String) : (ofTexts list).texts = list := by
  simp [texts, ofTexts, itemsOrNone, items?, List.filterMap_map, Function.comp_def, text?]

end Json

/-! ### Finalizer lists -/

namespace Finalizers

variable {existing : List String} {own other : String}

/-- A list to which a finalizer is added, where it is missing, has it besides its own ones. -/
theorem mem_getD_adding? :
    other ∈ (adding? existing own).getD existing ↔ own = other ∨ other ∈ existing := by
  rw [adding?]
  -- where the finalizer is there already, the list stays
  split_ifs with hthere
  · rw [List.contains_iff_mem] at hthere
    simp only [Option.getD_none]
    constructor
    · exact Or.inr
    · rintro (rfl | hother)
      · exact hthere
      · exact hother
  · rw [Option.getD_some, List.mem_append, List.mem_singleton, or_comm, eq_comm]

/-- A list from which a finalizer is removed, where it is there, has its other ones. -/
theorem mem_getD_removing? :
    other ∈ (removing? existing own).getD existing ↔ own ≠ other ∧ other ∈ existing := by
  rw [removing?]
  -- where the finalizer is not there, the list stays
  split_ifs with hthere
  · rw [Option.getD_some, List.mem_filter, decide_eq_true_eq, and_comm, ne_comm]
  · rw [List.contains_iff_mem] at hthere
    simp only [Option.getD_none]
    constructor
    · intro hother
      refine ⟨?_, hother⟩
      rintro rfl
      exact hthere hother
    · exact And.right

end Finalizers

/-! ### The API server -/

/-- The patch that gives an object a version. -/
def versionPatch (version : String) : Json :=
  .obj [("metadata", .obj [("resourceVersion", .str version)])]

/-- An object as the API server holds it. -/
structure HeldObject where
  /-- The object in its JSON form. -/
  object : Json
  /-- How often it has been written, which gives each state its version. -/
  writes : Nat

namespace HeldObject

/-- The finalizers of an object. -/
def finalizers (held : HeldObject) : List String :=
  (held.object.memberAt ["metadata", "finalizers"]).texts

/-- The version of an object. -/
def version? (held : HeldObject) : Option String :=
  (held.object.memberAt ["metadata", "resourceVersion"]).text?

/-- The object written in a new state, to which a new version is given. -/
def write (held : HeldObject) (object : Json) : HeldObject :=
  ⟨object.merge (versionPatch (toString (held.writes + 1))), held.writes + 1⟩

/-- Whether a patch is meant for another version of the object than the current one. -/
def isStale (held : HeldObject) (patch : Json) : Bool :=
  match (patch.memberAt ["metadata", "resourceVersion"]).text? with
  | some version => held.version? ≠ some version
  | none => false

/-- The object after a merge patch, if the patch is not refused as one for another version. -/
def receive (held : HeldObject) (request : ApiRequest) : Option HeldObject :=
  request.body.bind fun patch =>
    if held.isStale patch then none else some (held.write (held.object.merge patch))

/-- The object with other finalizers. -/
def setFinalizers (held : HeldObject) (finalizers : List String) : HeldObject :=
  held.write (held.object.merge (finalizerPatch finalizers))

/-- The object with other finalizers, if there are any that it is to have. -/
def change (held : HeldObject) : Option (List String) → HeldObject
  | some finalizers => held.setFinalizers finalizers
  | none => held

/-- Setting the finalizers sets them. -/
@[simp]
theorem finalizers_setFinalizers (held : HeldObject) (list : List String) :
    (held.setFinalizers list).finalizers = list := by
  have hmetadata (object patch : Json) (hpatch : patch ≠ .null) :
      (object.merge (.obj [("metadata", patch)])).member "metadata" =
        (object.member "metadata").merge patch :=
    object.member_merge_self hpatch "metadata"
  simp only [finalizers, setFinalizers, write, versionPatch, finalizerPatch, Json.memberAt,
    List.foldl_cons, List.foldl_nil]
  -- the version is another member of the metadata than the finalizers
  rw [hmetadata _ _ (by simp), Json.member_merge_of_ne _ (by simp) (by decide),
    hmetadata _ _ (by simp), Json.member_merge_self _ (by simp [Json.ofTexts])]
  exact Json.texts_ofTexts list

theorem finalizers_change (held : HeldObject) (wanted? : Option (List String)) :
    (held.change wanted?).finalizers = wanted?.getD held.finalizers := by
  cases wanted? <;> simp [change]

/-- A patch of the finalizers is never refused, for it carries no version. -/
theorem receive_finalizerPatch (held : HeldObject) {request : ApiRequest} {list : List String}
    (hbody : request.body = some (finalizerPatch list)) :
    held.receive request = some (held.setFinalizers list) := by
  rw [receive, hbody]
  rfl

end HeldObject

/-! ### Patches of the agent -/

/-- What the agent does to the finalizers of a config. -/
inductive FinalizerWrite where
  /-- It makes sure that its own finalizer is there. -/
  | ensure
  /-- It removes its own finalizer. -/
  | remove
  deriving DecidableEq, Repr

namespace FinalizerWrite

/-- The write of a finalizer on a config. -/
def on (write : FinalizerWrite) (config : Config) (finalizer : String) : ConfigWrite :=
  match write with
  | ensure => .addFinalizer config finalizer
  | remove => .removeFinalizer config finalizer

/-- The finalizers that the agent wants a config to have, none if it has them already. -/
def wanted? (write : FinalizerWrite) (existing : List String) (finalizer : String) :
    Option (List String) :=
  match write with
  | ensure => Finalizers.adding? existing finalizer
  | remove => Finalizers.removing? existing finalizer

/-- The wanted finalizers are those that exist, with the own one among them or not. -/
theorem mem_of_wanted? {write : FinalizerWrite} {existing wanted : List String} {own : String}
    (h : write.wanted? existing own = some wanted) :
    (∀ other, other ≠ own → (other ∈ wanted ↔ other ∈ existing)) ∧
      (own ∈ wanted ↔ write = .ensure) := by
  -- so that one membership lemma serves both for a list that changes and for one that does not
  have hwanted : wanted = (write.wanted? existing own).getD existing := by
    rw [h]
    rfl
  rw [hwanted]
  cases write with
  | ensure =>
    simp only [wanted?, Finalizers.mem_getD_adding?]
    exact ⟨fun other hother => by simp [Ne.symm hother], by simp⟩
  | remove =>
    simp only [wanted?, Finalizers.mem_getD_removing?]
    exact ⟨fun other hother => by simp [Ne.symm hother], by simp⟩

/-- A request that the agent sends carries the wanted finalizers, and nothing else. -/
theorem body_of_send {write : FinalizerWrite} {config : Config} {own : String}
    {request : ApiRequest} (h : (write.on config own).submission = .send request) :
    ∃ wanted, write.wanted? config.finalizers own = some wanted ∧
      request.body = some (finalizerPatch wanted) := by
  have hset : (write.on config own).submission =
      ConfigWrite.setFinalizers config (write.wanted? config.finalizers own) := by
    cases write <;> rfl
  rw [hset] at h
  cases hwanted : write.wanted? config.finalizers own with
  | none =>
    rw [hwanted] at h
    cases h
  | some wanted =>
    rw [hwanted, ConfigWrite.setFinalizers, Submission.patch] at h
    -- without a name or with one that no address can hold, nothing is sent
    split at h
    next => cases h
    next =>
      rw [Submission.sendTo] at h
      split at h
      next =>
        obtain rfl := Submission.send.inj h
        exact ⟨wanted, rfl, rfl⟩
      next => cases h

end FinalizerWrite

/-! ### Other controllers -/

/-- What another controller does to the finalizers of an object. -/
structure ForeignChange where
  /-- The finalizer. -/
  finalizer : String
  /-- Whether the controller adds it; otherwise it removes it. -/
  adds : Bool
  deriving DecidableEq, Repr

namespace ForeignChange

/-- The object after a change by another controller, who goes by its current state. -/
def apply (held : HeldObject) (change : ForeignChange) : HeldObject :=
  held.change (if change.adds then Finalizers.adding? held.finalizers change.finalizer
    else Finalizers.removing? held.finalizers change.finalizer)

/-- The last of several changes of a finalizer. -/
def last? (changes : List ForeignChange) (finalizer : String) : Option ForeignChange :=
  changes.findRev? (·.finalizer = finalizer)

/-- A change decides about its own finalizer, and about no other. -/
theorem mem_finalizers_apply (held : HeldObject) (change : ForeignChange) (finalizer : String) :
    finalizer ∈ (change.apply held).finalizers ↔
      if change.finalizer = finalizer then change.adds = true
      else finalizer ∈ held.finalizers := by
  obtain ⟨own, adds⟩ := change
  rw [apply, HeldObject.finalizers_change]
  -- foreign controllers add and remove as the agent does
  cases adds with
  | true =>
    simp only [if_true, Finalizers.mem_getD_adding?]
    split_ifs with hown <;> simp [hown]
  | false =>
    simp only [Bool.false_eq_true, if_false, Finalizers.mem_getD_removing?]
    split_ifs with hown <;> simp [hown]

theorem last?_concat (changes : List ForeignChange) (next : ForeignChange) (finalizer : String) :
    last? (changes ++ [next]) finalizer =
      if next.finalizer = finalizer then some next else last? changes finalizer :=
  findRev?_concat (fun change : ForeignChange => change.finalizer = finalizer) changes next

/-- After several changes, a finalizer is there if its last change has added it, and stays as it was
if there is no change of it. -/
theorem mem_finalizers_foldl_apply (held : HeldObject) (changes : List ForeignChange)
    (finalizer : String) :
    finalizer ∈ (changes.foldl apply held).finalizers ↔
      match last? changes finalizer with
      | some change => change.adds = true
      | none => finalizer ∈ held.finalizers := by
  induction changes using List.reverseRecOn with
  | nil => rfl
  | append_singleton changes next ih =>
    rw [List.foldl_append, List.foldl_cons, List.foldl_nil, mem_finalizers_apply, last?_concat]
    split_ifs with hnext
    · rfl
    · exact ih

end ForeignChange

/-! ### Taking turns -/

/-- A config on the API server, and the copy of it in the cache of the agent. -/
structure Contention where
  /-- The config on the API server. -/
  held : HeldObject
  /-- The cached copy. -/
  cached : Config

namespace Contention

/-- What happens next to the config or to the copy of it. -/
inductive Turn where
  /-- Another controller changes the config. -/
  | foreign (change : ForeignChange)
  /-- The cache of the agent catches up. -/
  | read
  /-- The agent writes its own finalizer, going by the cached copy. -/
  | write (write : FinalizerWrite)

/-- A config of a kind that the agent has just read. -/
def start (kind : ConfigKind) (held : HeldObject) : Contention :=
  ⟨held, .ofJson kind held.object⟩

/-- The contention after a turn, where the agent writes the given finalizer. -/
def step (kind : ConfigKind) (own : String) (contention : Contention) : Turn → Contention
  | .foreign change => { contention with held := change.apply contention.held }
  | .read => start kind contention.held
  | .write write =>
    match (write.on contention.cached own).submission with
    | .send request =>
      { contention with held := (contention.held.receive request).getD contention.held }
    | _ => contention

/-- The contention after several turns. -/
def after (kind : ConfigKind) (own : String) (held : HeldObject) (turns : List Turn) : Contention :=
  turns.foldl (step kind own) (start kind held)

/-- Whenever the API server applies the patch that the agent sends for a write, the config has the
finalizers of others that it had before, and the own one as it is meant to be. -/
def KeepsForeign (contention : Contention) (own : String) (write : FinalizerWrite) : Prop :=
  ∀ request patched, (write.on contention.cached own).submission = .send request →
    contention.held.receive request = some patched →
      (∀ other, other ≠ own →
        (other ∈ patched.finalizers ↔ other ∈ contention.held.finalizers)) ∧
      (own ∈ patched.finalizers ↔ write = .ensure)

/-- A copy that is read has the finalizers of the config. -/
theorem finalizers_cached_start (kind : ConfigKind) (held : HeldObject) :
    (start kind held).cached.finalizers = held.finalizers := by
  cases kind <;> rfl

/-- Changes by others leave the copy as it is. -/
theorem foldl_step_foreign (kind : ConfigKind) (own : String) (contention : Contention)
    (changes : List ForeignChange) :
    (changes.map .foreign).foldl (step kind own) contention =
      ⟨changes.foldl ForeignChange.apply contention.held, contention.cached⟩ := by
  induction changes generalizing contention with
  | nil => rfl
  | cons change rest ih =>
    rw [List.map_cons, List.foldl_cons, List.foldl_cons, ih]
    rfl

/-- What the API server makes of a patch has the finalizers of the cached copy, with the own one
added or removed, whatever finalizers the config had come to have. -/
theorem finalizers_of_send (contention : Contention) {own : String} {write : FinalizerWrite}
    {request : ApiRequest} (hsent : (write.on contention.cached own).submission = .send request) :
    ∃ patched, contention.held.receive request = some patched ∧
      (∀ other, other ≠ own →
        (other ∈ patched.finalizers ↔ other ∈ contention.cached.finalizers)) ∧
      (own ∈ patched.finalizers ↔ write = .ensure) := by
  obtain ⟨wanted, hwanted, hbody⟩ := FinalizerWrite.body_of_send hsent
  refine ⟨_, contention.held.receive_finalizerPatch hbody, ?_⟩
  rw [HeldObject.finalizers_setFinalizers]
  exact FinalizerWrite.mem_of_wanted? hwanted

/-- A patch keeps the finalizers of others exactly if the config has those of the cached copy. -/
theorem keepsForeign_iff_agree (contention : Contention) (own : String) (write : FinalizerWrite) :
    contention.KeepsForeign own write ↔
      ∀ request, (write.on contention.cached own).submission = .send request →
        ∀ other, other ≠ own →
          (other ∈ contention.cached.finalizers ↔ other ∈ contention.held.finalizers) := by
  constructor
  · intro hkeeps request hsent other hother
    -- the patch sets the whole list, and so what the cached copy has of the others
    obtain ⟨patched, hreceived, hforeign, -⟩ := contention.finalizers_of_send hsent
    rw [← hforeign other hother]
    exact (hkeeps request patched hsent hreceived).1 other hother
  · intro hagree request patched hsent hreceived
    obtain ⟨applied, happlied, hforeign, hown⟩ := contention.finalizers_of_send hsent
    obtain rfl : applied = patched := Option.some.inj (happlied.symm.trans hreceived)
    refine ⟨fun other hother => ?_, hown⟩
    exact (hforeign other hother).trans (hagree request hsent other hother)

/-- However the agent and other controllers have taken turns until the agent read the config, and
whatever the others have changed since, a patch that the agent sends then keeps the finalizers of
others exactly if, of each of them, the last change since the reading has brought it back to what
the copy has. -/
theorem keepsForeign_iff (kind : ConfigKind) (own : String) (held : HeldObject)
    (earlier : List Turn) (changes : List ForeignChange) (write : FinalizerWrite) :
    (after kind own held (earlier ++ .read :: changes.map .foreign)).KeepsForeign own write ↔
      ∀ request, (write.on (after kind own held (earlier ++ [.read])).cached own).submission =
        .send request →
        ∀ other, other ≠ own → ∀ change, ForeignChange.last? changes other = some change →
          (change.adds = true ↔
            other ∈ (after kind own held (earlier ++ [.read])).cached.finalizers) := by
  -- the copy is the one that has been read, and the config is what the changes have made of it
  have hread : after kind own held (earlier ++ [.read]) =
      start kind (after kind own held earlier).held := by
    simp [after, step]
  have hcontention : after kind own held (earlier ++ .read :: changes.map .foreign) =
      ⟨changes.foldl ForeignChange.apply (after kind own held earlier).held,
        (after kind own held (earlier ++ [.read])).cached⟩ := by
    rw [hread, after, List.foldl_append, List.foldl_cons, foldl_step_foreign]
    rfl
  rw [hcontention, keepsForeign_iff_agree]
  refine forall₂_congr fun request _ => forall₂_congr fun other _ => ?_
  -- a finalizer that nobody has changed since is in the config exactly if it is in the copy
  rw [ForeignChange.mem_finalizers_foldl_apply, hread, finalizers_cached_start]
  cases ForeignChange.last? changes other with
  | none => simp
  | some change => simp [iff_comm]

/-- A config map without finalizers. -/
def bareConfigMap : Json :=
  .obj [("metadata", .obj [("name", .str "settings"), ("namespace", .str "default"),
    ("resourceVersion", .str "1")])]

/-- After the agent has read a config map, another controller adds its finalizer, and the patch by
which the agent adds its own one takes it away again. -/
theorem foreign_finalizer_lost :
    ¬ (after .configMap configFinalizer ⟨bareConfigMap, 1⟩
      [.read, .foreign ⟨"example.org/keep", true⟩]).KeepsForeign
      configFinalizer .ensure := by
  rw [keepsForeign_iff_agree]
  intro hagree
  have hsame := hagree (.mergePatch "/api/v1/namespaces/default/configmaps/settings"
    (finalizerPatch [configFinalizer])) rfl "example.org/keep" (by decide)
  exact absurd (hsame.mpr (by decide)) (by decide)

end Contention

end ClusterWatch
