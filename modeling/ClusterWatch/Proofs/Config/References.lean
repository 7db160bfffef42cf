import ClusterWatch.Config.References

/-!
# The configs that a template names

A template refers to a config exactly if it names it in one of six places: a volume, a source of the
environment or an entry of the environment, each of which can name a config map or a secret. It is
all the same in which container this is, and in which order or how often the template does so.

* `PodTemplate.Names` — the places; `mem_referencedConfigs` — what is found there is what the
  template refers to.
* `PodTemplate.Resembles` — templates with the same entries, in whatever order and however often.
* `PodTemplate.append` — two templates in one.
* `PodTemplate.FindsReferences`, `finds_references` — what a template refers to, and what that
  does not depend on.
-/

namespace ClusterWatch

/-- The references of a pair of names are to the config map of the one and to the secret
of the other. -/
theorem mem_namedRefs {configMap secret : Option String} {ref : ConfigRef} :
    ref ∈ namedRefs configMap secret ↔
      (ref.kind = .configMap ∧ configMap = some ref.name) ∨
        (ref.kind = .secret ∧ secret = some ref.name) := by
  obtain ⟨kind, name⟩ := ref
  cases kind <;> simp [namedRefs]

/-- The containers have the same sources and entries of their environments, in whatever order and
however often. -/
structure Container.Resembles (container other : Container) : Prop where
  /-- The sources. -/
  envFrom : ∀ source, source ∈ container.envFrom ↔ source ∈ other.envFrom
  /-- The entries. -/
  env : ∀ entry, entry ∈ container.env ↔ entry ∈ other.env

/-- Resemblance of containers is mutual. -/
theorem Container.Resembles.symm {container other : Container} (h : container.Resembles other) :
    other.Resembles container :=
  ⟨fun source => (h.envFrom source).symm, fun entry => (h.env entry).symm⟩

namespace PodTemplate

/-- The container is one of those of a template, which may run before the others. -/
def HasContainer (template : PodTemplate) (container : Container) : Prop :=
  container ∈ template.containers ∨ container ∈ template.initContainers

/-- The template names a config, by a name that may be empty. -/
inductive Names (template : PodTemplate) : ConfigRef → Prop
  /-- A volume shows the config map. -/
  | configMapVolume {volume : TemplateVolume} {name : String}
    (hvolume : volume ∈ template.volumes)
      (hname : volume.configMap = some name) : Names template ⟨.configMap, name⟩
  /-- A volume shows the secret. -/
  | secretVolume {volume : TemplateVolume} {name : String} (hvolume : volume ∈ template.volumes)
      (hname : volume.secret = some name) : Names template ⟨.secret, name⟩
  /-- The environment of a container takes all keys of the config map. -/
  | configMapSource {container : Container} {source : EnvSource} {name : String}
      (hcontainer : template.HasContainer container) (hsource : source ∈ container.envFrom)
      (hname : source.configMap = some name) : Names template ⟨.configMap, name⟩
  /-- The environment of a container takes all keys of the secret. -/
  | secretSource {container : Container} {source : EnvSource} {name : String}
      (hcontainer : template.HasContainer container) (hsource : source ∈ container.envFrom)
      (hname : source.secret = some name) : Names template ⟨.secret, name⟩
  /-- A variable of a container is a key of the config map. -/
  | configMapKey {container : Container} {entry : EnvVariable} {name : String}
      (hcontainer : template.HasContainer container) (hentry : entry ∈ container.env)
      (hname : entry.configMap = some name) : Names template ⟨.configMap, name⟩
  /-- A variable of a container is a key of the secret. -/
  | secretKey {container : Container} {entry : EnvVariable} {name : String}
      (hcontainer : template.HasContainer container) (hentry : entry ∈ container.env)
      (hname : entry.secret = some name) : Names template ⟨.secret, name⟩

/-- The templates have the same volumes, and containers that resemble each other, in whatever order
and however often. -/
structure Resembles (template other : PodTemplate) : Prop where
  /-- The volumes are the same. -/
  volumes : ∀ volume, volume ∈ template.volumes ↔ volume ∈ other.volumes
  /-- Every container of the first resembles one of the second. -/
  forth : ∀ container, template.HasContainer container →
    ∃ twin, other.HasContainer twin ∧ container.Resembles twin
  /-- Every container of the second resembles one of the first. -/
  back : ∀ twin, other.HasContainer twin →
    ∃ container, template.HasContainer container ∧ container.Resembles twin

/-- Two templates in one: the volumes and containers of the first, followed by those
of the second. -/
def append (template other : PodTemplate) : PodTemplate :=
  { template with
    volumes := template.volumes ++ other.volumes
    containers := template.containers ++ other.containers
    initContainers := template.initContainers ++ other.initContainers }

variable {template other : PodTemplate} {ref : ConfigRef}

/-- The references of a template are those of its volumes and of its containers. -/
theorem mem_refs : ref ∈ template.refs ↔
    (∃ volume ∈ template.volumes, ref ∈ namedRefs volume.configMap volume.secret) ∨
      ∃ container, template.HasContainer container ∧
        ((∃ source ∈ container.envFrom, ref ∈ namedRefs source.configMap source.secret) ∨
          ∃ entry ∈ container.env, ref ∈ namedRefs entry.configMap entry.secret) := by
  simp only [refs, Container.refs, HasContainer, List.mem_append, List.mem_flatMap]

/-- The references of a template are the configs that it names. -/
theorem mem_refs_iff_names : ref ∈ template.refs ↔ template.Names ref := by
  -- six places, each a constructor of the specification
  simp only [mem_refs, mem_namedRefs]
  obtain ⟨kind, name⟩ := ref
  constructor
  · rintro (⟨volume, hvolume, ⟨rfl, hname⟩ | ⟨rfl, hname⟩⟩ | ⟨container, hcontainer,
      ⟨source, hsource, ⟨rfl, hname⟩ | ⟨rfl, hname⟩⟩
        | ⟨entry, hentry, ⟨rfl, hname⟩ | ⟨rfl, hname⟩⟩⟩)
    · exact .configMapVolume hvolume hname
    · exact .secretVolume hvolume hname
    · exact .configMapSource hcontainer hsource hname
    · exact .secretSource hcontainer hsource hname
    · exact .configMapKey hcontainer hentry hname
    · exact .secretKey hcontainer hentry hname
  · intro h
    cases h with
    | configMapVolume hvolume hname => exact .inl ⟨_, hvolume, .inl ⟨rfl, hname⟩⟩
    | secretVolume hvolume hname => exact .inl ⟨_, hvolume, .inr ⟨rfl, hname⟩⟩
    | configMapSource hcontainer hsource hname =>
      exact .inr ⟨_, hcontainer, .inl ⟨_, hsource, .inl ⟨rfl, hname⟩⟩⟩
    | secretSource hcontainer hsource hname =>
      exact .inr ⟨_, hcontainer, .inl ⟨_, hsource, .inr ⟨rfl, hname⟩⟩⟩
    | configMapKey hcontainer hentry hname =>
      exact .inr ⟨_, hcontainer, .inr ⟨_, hentry, .inl ⟨rfl, hname⟩⟩⟩
    | secretKey hcontainer hentry hname =>
      exact .inr ⟨_, hcontainer, .inr ⟨_, hentry, .inr ⟨rfl, hname⟩⟩⟩

/-- A template refers to the configs that it names by a name that is not empty. -/
theorem mem_referencedConfigs :
    ref ∈ template.referencedConfigs ↔ ref.name ≠ "" ∧ template.Names ref := by
  simp only [referencedConfigs, Std.ExtTreeSet.mem_ofList, List.contains_iff_mem, List.mem_filter,
    decide_eq_true_eq, mem_refs_iff_names, and_comm]

/-- What a template names, a template that resembles it names as well. -/
theorem Names.of_resembles (h : template.Names ref) (hresembles : template.Resembles other) :
    other.Names ref := by
  cases h with
  | configMapVolume hvolume hname =>
    exact .configMapVolume ((hresembles.volumes _).mp hvolume) hname
  | secretVolume hvolume hname => exact .secretVolume ((hresembles.volumes _).mp hvolume) hname
  | configMapSource hcontainer hsource hname =>
    -- the other template has a container with the same sources and entries
    obtain ⟨twin, htwin, hsame⟩ := hresembles.forth _ hcontainer
    exact .configMapSource htwin ((hsame.envFrom _).mp hsource) hname
  | secretSource hcontainer hsource hname =>
    obtain ⟨twin, htwin, hsame⟩ := hresembles.forth _ hcontainer
    exact .secretSource htwin ((hsame.envFrom _).mp hsource) hname
  | configMapKey hcontainer hentry hname =>
    obtain ⟨twin, htwin, hsame⟩ := hresembles.forth _ hcontainer
    exact .configMapKey htwin ((hsame.env _).mp hentry) hname
  | secretKey hcontainer hentry hname =>
    obtain ⟨twin, htwin, hsame⟩ := hresembles.forth _ hcontainer
    exact .secretKey htwin ((hsame.env _).mp hentry) hname

/-- Resemblance of templates is mutual. -/
theorem Resembles.symm (h : template.Resembles other) : other.Resembles template where
  volumes volume := (h.volumes volume).symm
  forth container hcontainer :=
    let ⟨twin, htwin, hsame⟩ := h.back container hcontainer
    ⟨twin, htwin, hsame.symm⟩
  back twin htwin :=
    let ⟨container, hcontainer, hsame⟩ := h.forth twin htwin
    ⟨container, hcontainer, hsame.symm⟩

/-- Two templates together have the volumes of both. -/
theorem mem_volumes_append {volume : TemplateVolume} :
    volume ∈ (template.append other).volumes ↔
      volume ∈ template.volumes ∨ volume ∈ other.volumes :=
  List.mem_append

/-- They have the containers of both. -/
theorem hasContainer_append {container : Container} :
    (template.append other).HasContainer container ↔
      template.HasContainer container ∨ other.HasContainer container := by
  simp only [append, HasContainer, List.mem_append]
  exact or_or_or_comm

/-- Two templates in one name what either of them names. -/
theorem names_append :
    (template.append other).Names ref ↔ template.Names ref ∨ other.Names ref := by
  simp only [← mem_refs_iff_names, mem_refs, mem_volumes_append, hasContainer_append,
    or_and_right, exists_or]
  exact or_or_or_comm

/-- What a template refers to. -/
structure FindsReferences (template : PodTemplate) : Prop where
  /-- It refers to the configs that it names by a name that is not empty. -/
  mem_iff : ∀ ref, ref ∈ template.referencedConfigs ↔ ref.name ≠ "" ∧ template.Names ref
  /-- Neither order nor repetition matters, of volumes and containers as well as of what makes up
  the environments. -/
  rearranged : ∀ other, template.Resembles other →
    other.referencedConfigs = template.referencedConfigs
  /-- Together with another template, it refers to what either of the two refers to. -/
  append : ∀ other, (template.append other).referencedConfigs =
    template.referencedConfigs ∪ other.referencedConfigs

/-- Every template refers to what it names, no more and no less. -/
theorem finds_references (template : PodTemplate) : template.FindsReferences where
  mem_iff _ := mem_referencedConfigs
  -- sets are equal if they have the same members
  rearranged other hresembles := by
    refine Std.ExtTreeSet.ext_mem fun ref => ?_
    rw [mem_referencedConfigs, mem_referencedConfigs]
    exact and_congr_right fun _ =>
      ⟨fun h => h.of_resembles hresembles.symm, fun h => h.of_resembles hresembles⟩
  append other := by
    refine Std.ExtTreeSet.ext_mem fun ref => ?_
    rw [Std.ExtTreeSet.mem_union_iff, mem_referencedConfigs, mem_referencedConfigs,
      mem_referencedConfigs, names_append, and_or_left]

end PodTemplate

end ClusterWatch
