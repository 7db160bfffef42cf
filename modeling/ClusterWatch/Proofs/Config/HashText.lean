import Mathlib.Data.List.Induction
import ClusterWatch.Cluster.Stores
import ClusterWatch.Config.Hash
import ClusterWatch.Proofs.Config.Deliveries
import ClusterWatch.Proofs.Json.RoundTrip
import ClusterWatch.Proofs.Text.Base64

/-!
# The text of a config hash

The text that is hashed for the references of a workload tells which config maps and which secrets
have been found and what data they have, and nothing else: neither the order of the references nor
their repetition, and nothing of references that lead nowhere.

* `HashSource.text_inj` — the text of a source tells the source.
* `AnswersByKind` — a lookup that finds texts for config maps and bytes for secrets, as the
  cached configs do.
* `HashSource.data?_ofRefs` — the source has the data of a config exactly if it is
  referenced and found.
* `HashSource.text_ofRefs_eq_iff` — two texts are equal exactly if the same config maps and the
  same secrets have been found with the same data.
-/

namespace ClusterWatch

/-! ### What is found -/

/-- The kind of the configs that hold such data. -/
def ConfigData.kind : ConfigData → ConfigKind
  | .strings _ => .configMap
  | .bytes _ => .secret

/-- A lookup that finds texts for config maps and bytes for secrets. -/
def AnswersByKind (lookup : ConfigRef → Option ConfigData) : Prop :=
  ∀ ref data, lookup ref = some data → data.kind = ref.kind

/-- The data of a config, if it is referenced and found. -/
def foundData? (refs : List ConfigRef) (lookup : ConfigRef → Option ConfigData)
    (ref : ConfigRef) :
    Option ConfigData :=
  if ref ∈ refs then lookup ref else none

/-- The cached configs answer by kind. -/
theorem answersByKind_config? (stores : Stores) (ns : String) :
    AnswersByKind fun ref => (stores.config? ns ref).map Config.data := by
  rintro ⟨kind, name⟩ data hdata
  obtain ⟨config, hconfig, rfl⟩ := Option.map_eq_some_iff.mp hdata
  cases kind with
  | configMap =>
    obtain ⟨object, -, rfl⟩ := Option.map_eq_some_iff.mp hconfig
    rfl
  | secret =>
    obtain ⟨object, -, rfl⟩ := Option.map_eq_some_iff.mp hconfig
    rfl

namespace HashSource

/-! ### The text tells the source -/

/-- The entries that are written for a map tell the map, if each value is told by what is
written for it. -/
theorem map_toList_inj {ν : Type} {write : ν → Json} (hwrite : Function.Injective write)
    {map other : Std.ExtTreeMap String ν} :
    (map.toList.map fun entry => (entry.1, write entry.2)) =
        other.toList.map (fun entry => (entry.1, write entry.2)) ↔
      map = other := by
  have hentry (one two : String × ν) (h : (one.1, write one.2) = (two.1, write two.2)) :
      one = two := by
    obtain ⟨hkey, hvalue⟩ := Prod.mk.inj h
    exact Prod.ext hkey (hwrite hvalue)
  rw [List.map_inj_right hentry, Std.ExtTreeMap.toList_inj]

theorem textMapJson_injective : Function.Injective textMapJson :=
  fun _ _ h => (map_toList_inj fun _ _ => Json.str.inj).mp (Json.obj.inj h)

theorem bytesMapJson_injective : Function.Injective bytesMapJson := by
  have hwrite : Function.Injective fun bytes : Bytes => Json.str (Base64.encode bytes) :=
    fun _ _ h => Base64.encode_injective (Json.str.inj h)
  exact fun _ _ h => (map_toList_inj hwrite).mp (Json.obj.inj h)

/-- Sources with one text are the same. -/
theorem toJson_injective : Function.Injective toJson := by
  rintro ⟨configMaps, secrets⟩ ⟨otherConfigMaps, otherSecrets⟩ h
  simp only [toJson, Json.obj.injEq, List.cons.injEq, Prod.mk.injEq, true_and, and_true] at h
  obtain ⟨hconfigMaps, hsecrets⟩ := h
  rw [(map_toList_inj textMapJson_injective).mp hconfigMaps,
    (map_toList_inj bytesMapJson_injective).mp hsecrets]

/-- The entries of a map make an object of strings and objects, if what is written for each
value is one. -/
theorem isTextual_obj {ν : Type} {write : ν → Json}
    (hwrite : ∀ value, (write value).IsTextual) (map : Std.ExtTreeMap String ν) :
    (Json.obj (map.toList.map fun entry => (entry.1, write entry.2))).IsTextual := by
  refine .obj _ fun member hmember => ?_
  obtain ⟨entry, -, rfl⟩ := List.mem_map.mp hmember
  exact hwrite entry.2

/-- The text of a source is made of strings and objects. -/
theorem isTextual_toJson (source : HashSource) : source.toJson.IsTextual := by
  -- strings in two levels of objects, the data of secrets in Base64
  have hconfigMaps := isTextual_obj (isTextual_obj .str) source.configMaps
  have hsecrets :=
    isTextual_obj (isTextual_obj fun bytes => .str (Base64.encode bytes)) source.secrets
  refine .obj _ fun member hmember => ?_
  rcases List.mem_cons.mp hmember with rfl | hmember
  · exact hconfigMaps
  · obtain rfl := List.mem_singleton.mp hmember
    exact hsecrets

/-- The text of a source tells the source. -/
theorem text_inj {source other : HashSource} : source.text = other.text ↔ source = other := by
  rw [text, text, Json.compress_inj source.isTextual_toJson other.isTextual_toJson,
    toJson_injective.eq_iff]

/-! ### What the source has -/

/-- The data that a source has of a config. -/
def data? (source : HashSource) (ref : ConfigRef) : Option ConfigData :=
  match ref.kind with
  | .configMap => source.configMaps[ref.name]?.map .strings
  | .secret => source.secrets[ref.name]?.map .bytes

/-- Sources that have the same data of every config are the same. -/
theorem ext_data? {source other : HashSource} (h : ∀ ref, source.data? ref = other.data? ref) :
    source = other := by
  obtain ⟨configMaps, secrets⟩ := source
  obtain ⟨otherConfigMaps, otherSecrets⟩ := other
  -- what is looked up under each name of a kind makes up the map of that kind
  have hconfigMaps : configMaps = otherConfigMaps := by
    refine Std.ExtTreeMap.ext_getElem? fun name => ?_
    exact Option.map_injective (fun _ _ => ConfigData.strings.inj) (h ⟨.configMap, name⟩)
  have hsecrets : secrets = otherSecrets := by
    refine Std.ExtTreeMap.ext_getElem? fun name => ?_
    exact Option.map_injective (fun _ _ => ConfigData.bytes.inj) (h ⟨.secret, name⟩)
  rw [hconfigMaps, hsecrets]

/-- What is found of a config is put in the place of the data of this config, and of no other. -/
theorem data?_add (source : HashSource) {own : ConfigRef} {found : Option ConfigData}
    (hkind : ∀ data, found = some data → data.kind = own.kind) (ref : ConfigRef) :
    (source.add own.name found).data? ref =
      if own = ref then found.or (source.data? ref) else source.data? ref := by
  obtain ⟨ownKind, ownName⟩ := own
  obtain ⟨kind, name⟩ := ref
  cases found with
  | none => simp [add]
  | some data =>
    obtain rfl : data.kind = ownKind := hkind data rfl
    -- the data goes to the part of its own kind, under its own name
    by_cases hname : ownName = name
    · cases data <;> cases kind <;> simp [add, data?, ConfigData.kind, hname]
    · cases data <;> cases kind <;>
        simp [add, data?, ConfigData.kind, hname, Std.ExtTreeMap.getElem?_insert]

/-- A source has the data of exactly the configs that are referenced and found. -/
theorem data?_ofRefs {lookup : ConfigRef → Option ConfigData} (h : AnswersByKind lookup)
    (refs : List ConfigRef) (ref : ConfigRef) :
    (ofRefs refs lookup).data? ref = foundData? refs lookup ref := by
  induction refs using List.reverseRecOn with
  | nil => cases hkind : ref.kind <;> simp [ofRefs, empty, data?, foundData?, hkind]
  | append_singleton refs own ih =>
    have hsource : ofRefs (refs ++ [own]) lookup = (ofRefs refs lookup).add own.name (lookup own) :=
      List.foldl_append
    rw [hsource, data?_add _ (h own), ih]
    simp only [foundData?, List.mem_append, List.mem_singleton]
    by_cases hown : own = ref
    · -- what is found again is the same as before
      subst hown
      cases lookup own <;> simp
    · simp [hown, Ne.symm hown]

/-- Two texts are equal exactly if the config maps that are referenced and found have the same data
under the same names, and so have the secrets. -/
theorem text_ofRefs_eq_iff {lookup other : ConfigRef → Option ConfigData}
    (hlookup : AnswersByKind lookup) (hother : AnswersByKind other)
    (refs otherRefs : List ConfigRef) :
    (ofRefs refs lookup).text = (ofRefs otherRefs other).text ↔
      (∀ name, foundData? refs lookup ⟨.configMap, name⟩ =
        foundData? otherRefs other ⟨.configMap, name⟩) ∧
      (∀ name, foundData? refs lookup ⟨.secret, name⟩ =
        foundData? otherRefs other ⟨.secret, name⟩) := by
  -- one text is one source, and the source is what the references lead to
  rw [text_inj]
  constructor
  · intro hsource
    have hfound (ref : ConfigRef) :
        foundData? refs lookup ref = foundData? otherRefs other ref := by
      rw [← data?_ofRefs hlookup, ← data?_ofRefs hother, hsource]
    exact ⟨fun name => hfound ⟨.configMap, name⟩, fun name => hfound ⟨.secret, name⟩⟩
  · rintro ⟨hconfigMaps, hsecrets⟩
    refine ext_data? fun ref => ?_
    rw [data?_ofRefs hlookup, data?_ofRefs hother]
    obtain ⟨kind, name⟩ := ref
    cases kind with
    | configMap => exact hconfigMaps name
    | secret => exact hsecrets name

/-- With one config map and one secret in the cache, the text is the same if the references
come in another order, one of them twice and none that leads nowhere; and it is another text
without the secret. -/
theorem text_ofRefs_cached :
    let stores :=
      (Stores.empty.observe (.configMaps (.apply (.basic "settings" "1" "debug")))).observe
        (.secrets (.apply
          ⟨.basic "login" "2", (∅ : Std.ExtTreeMap String Bytes).insert "password" [0, 255]⟩))
    let lookup (ref : ConfigRef) := (stores.config? "default" ref).map Config.data
    let refs : List ConfigRef :=
      [⟨.secret, "login"⟩, ⟨.configMap, "settings"⟩, ⟨.configMap, "missing"⟩]
    let reordered : List ConfigRef :=
      [⟨.configMap, "settings"⟩, ⟨.secret, "login"⟩, ⟨.configMap, "settings"⟩]
    AnswersByKind lookup ∧
      (ofRefs refs lookup).text = (ofRefs reordered lookup).text ∧
      (ofRefs refs lookup).text ≠ (ofRefs [⟨.configMap, "settings"⟩] lookup).text := by
  intro stores lookup refs reordered
  have hlookup : AnswersByKind lookup := answersByKind_config? stores "default"
  refine ⟨hlookup,
    (text_ofRefs_eq_iff hlookup hlookup refs reordered).mpr
      ⟨fun name => ?_, fun name => ?_⟩, ?_⟩
  · -- among the config maps, only the reference that leads nowhere tells the lists apart
    by_cases hmissing : name = "missing"
    · subst hmissing
      decide
    · simp [foundData?, refs, reordered, hmissing]
  · simp [foundData?, refs, reordered]
  · -- the shorter list has no data of the secret
    intro htext
    have hsecret := ((text_ofRefs_eq_iff hlookup hlookup refs _).mp htext).2 "login"
    exact absurd hsecret (by decide)

end HashSource

end ClusterWatch
