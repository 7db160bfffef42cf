import ClusterWatch.Proofs.Topology.TransportText

/-!
# The grammar of transport entries

A key and a value make an entry exactly if the key is a port and the value is a namespace, a slash,
a service, a colon and a port, up to white space at both ends. The namespace ends at the first slash
and the service at the first colon behind it, so the parts of a value are unique. Where the two make
no entry, the error is the first that applies.

* `IsPort` — the texts of a port; `readPort?_eq_some_iff` — they are what is read.
* `Decomposes` — the parts of a value; `Decomposes.unique`.
* `Spells`, `Applies` — a key and a value spell an entry, or an error applies to them;
  `Spells.not_applies` — not both.
* `FirstOf` — the first of several that has a property.
* `outcome_parse` — what is read is what is spelled, or else the first error that applies.
* `Grammar`, `parse_grammar` — when and what is read, for all texts.
-/

namespace ClusterWatch

/-! ### The first of several -/

/-- The first element of a list with a property. -/
def FirstOf {α : Type} (holds : α → Prop) : List α → α → Prop
  | [], _ => False
  | first :: rest, found =>
    (holds first ∧ first = found) ∨ (¬ holds first ∧ FirstOf holds rest found)

namespace FirstOf

variable {α : Type} {holds : α → Prop} {list : List α} {found other : α}

/-- What is found has the property. -/
theorem property (h : FirstOf holds list found) : holds found := by
  induction list with
  | nil => cases h
  | cons first rest ih =>
    rcases h with ⟨hfirst, rfl⟩ | ⟨-, hrest⟩
    · exact hfirst
    · exact ih hrest

/-- What is found is in the list. -/
theorem mem (h : FirstOf holds list found) : found ∈ list := by
  induction list with
  | nil => cases h
  | cons first rest ih =>
    rcases h with ⟨-, rfl⟩ | ⟨-, hrest⟩
    · exact List.mem_cons_self
    · exact List.mem_cons_of_mem _ (ih hrest)

/-- There is no more than one first element with the property. -/
theorem unique (h : FirstOf holds list found) (hother : FirstOf holds list other) :
    found = other := by
  induction list with
  | nil => cases h
  | cons first rest ih =>
    rcases h with ⟨hfirst, rfl⟩ | ⟨hnot, hrest⟩
    · exact (hother.resolve_right fun htail => htail.1 hfirst).2
    · exact ih hrest (hother.resolve_left fun hhead => hnot hhead.1).2

end FirstOf

namespace TransportEntry

/-! ### Ports -/

/-- The texts of a port: ASCII digits, which may follow a plus sign, of the value of the port. -/
def IsPort (cs : List Char) (port : UInt16) : Prop :=
  ∃ sign digits, cs = sign ++ digits ∧ (sign = [] ∨ sign = ['+']) ∧ digits ≠ [] ∧
    (∀ c ∈ digits, c.isDigit = true) ∧ Nat.ofDigitChars 10 digits 0 = port.toNat

/-- A port is read exactly from the texts that stand for it. -/
theorem readPort?_eq_some_iff {cs : List Char} {port : UInt16} :
    readPort? cs = some port ↔ IsPort cs port := by
  simp only [readPort?, Option.map_eq_some_iff, Text.readUnsigned?_eq_some_iff,
    Text.readDigits?_eq_some_iff]
  constructor
  · rintro ⟨_, ⟨sign, digits, rfl, hsign, ⟨hsome, hdigits, rfl⟩, hle⟩, rfl⟩
    exact ⟨sign, digits, rfl, hsign, hsome, hdigits,
      (UInt16.toNat_ofNat_of_lt (Nat.lt_succ_of_le hle)).symm⟩
  · rintro ⟨sign, digits, rfl, hsign, hsome, hdigits, hvalue⟩
    -- a port is a word of sixteen bits, so that its digits are no more than can be read
    have hle : port.toNat ≤ UInt16.size - 1 := Nat.le_pred_of_lt port.toNat_lt_size
    exact ⟨port.toNat, ⟨sign, digits, rfl, hsign, ⟨hsome, hdigits, hvalue⟩, hle⟩,
      UInt16.ofNat_toNat⟩

/-- No port is read exactly from the texts that stand for none. -/
theorem readPort?_eq_none_iff {cs : List Char} :
    readPort? cs = none ↔ ∀ port, ¬ IsPort cs port := by
  simp only [Option.eq_none_iff_forall_ne_some, ne_eq, readPort?_eq_some_iff]

/-- A text stands for at most one port. -/
theorem IsPort.unique {cs : List Char} {port other : UInt16} (h : IsPort cs port)
    (hother : IsPort cs other) :
    port = other :=
  Option.some.inj ((readPort?_eq_some_iff.mpr h).symm.trans (readPort?_eq_some_iff.mpr hother))

/-! ### Keys and values -/

/-- The parts of a value: a namespace that ends at the first slash, a service that ends at the first
colon behind it, and what is to be a port. -/
structure Decomposes (target : String) (ns service port : List Char) : Prop where
  /-- Together with the separators they are the value, but for white space at its ends. -/
  text : Text.trimChars target.toList = ns ++ '/' :: (service ++ ':' :: port)
  /-- The namespace contains no slash. -/
  slash : '/' ∉ ns
  /-- The service contains no colon. -/
  colon : ':' ∉ service

/-- A target decomposes exactly as its trimmed text is split at the first slash, and what follows at
the first colon. -/
theorem decomposes_iff {target : String} {ns service port : List Char} :
    Decomposes target ns service port ↔
      ∃ rest, splitFirst? '/' (Text.trimChars target.toList) = some (ns, rest) ∧
        splitFirst? ':' rest = some (service, port) := by
  simp only [splitFirst?_eq_some_iff]
  constructor
  · rintro ⟨htext, hslash, hcolon⟩
    exact ⟨_, ⟨htext, hslash⟩, rfl, hcolon⟩
  · rintro ⟨_, ⟨htext, hslash⟩, rfl, hcolon⟩
    exact ⟨htext, hslash, hcolon⟩

/-- A value has its parts in one way only. -/
theorem Decomposes.unique {target : String}
    {ns service port otherNs otherService otherPort : List Char}
    (h : Decomposes target ns service port)
    (hother : Decomposes target otherNs otherService otherPort) :
    ns = otherNs ∧ service = otherService ∧ port = otherPort := by
  obtain ⟨rest, hslash, hcolon⟩ := decomposes_iff.mp h
  obtain ⟨otherRest, hotherSlash, hotherColon⟩ := decomposes_iff.mp hother
  obtain ⟨rfl, rfl⟩ := Prod.mk.inj (Option.some.inj (hslash.symm.trans hotherSlash))
  exact ⟨rfl, Prod.mk.inj (Option.some.inj (hcolon.symm.trans hotherColon))⟩

/-- A key and a value spell an entry. -/
structure Spells (listen target : String) (entry : TransportEntry) : Prop where
  /-- The key is the listen port, but for white space at its ends. -/
  port : IsPort (Text.trimChars listen.toList) entry.port
  /-- The parts of the value are the namespace, the service and the port of the service. -/
  parts : ∃ servicePort, Decomposes target entry.ns.toList entry.service.toList servicePort ∧
    IsPort servicePort entry.servicePort
  /-- There is a namespace. -/
  ns_ne : entry.ns ≠ ""
  /-- There is a service. -/
  service_ne : entry.service ≠ ""

/-- An error applies to a key and a value, one of which it quotes. -/
def Applies (listen target : String) : TransportEntryError → Prop
  | .invalidListenPort text =>
    text = listen ∧ ∀ port, ¬ IsPort (Text.trimChars listen.toList) port
  | .missingNamespace text => text = target ∧ '/' ∉ Text.trimChars target.toList
  | .missingPort text => text = target ∧
      ∃ ns rest, Text.trimChars target.toList = ns ++ '/' :: rest ∧ '/' ∉ ns ∧ ':' ∉ rest
  | .emptyName text => text = target ∧
      ∃ ns service port, Decomposes target ns service port ∧ (ns = [] ∨ service = [])
  | .invalidTargetPort text => text = target ∧
      ∃ ns service port, Decomposes target ns service port ∧ ∀ number, ¬ IsPort port number

/-- The errors in the order in which they are judged. -/
def errorsInOrder (listen target : String) : List TransportEntryError :=
  [.invalidListenPort listen, .missingNamespace target, .missingPort target, .emptyName target,
    .invalidTargetPort target]

variable {listen target : String}

section Parts

variable {ns service port : List Char}

/-- A value that has its parts does not lack a separator. -/
theorem Decomposes.separators (h : Decomposes target ns service port) (listen : String) :
    ¬ Applies listen target (.missingNamespace target) ∧
      ¬ Applies listen target (.missingPort target) := by
  constructor
  · rintro ⟨-, hslash⟩
    rw [h.text] at hslash
    exact hslash (List.mem_append_right _ List.mem_cons_self)
  · rintro ⟨-, otherNs, rest, htext, hns, hrest⟩
    -- the value is split at the same slash
    have hsplit := splitFirst?_append hns rest
    rw [← htext, h.text, splitFirst?_append h.slash] at hsplit
    obtain ⟨-, rfl⟩ := Prod.mk.inj (Option.some.inj hsplit)
    exact hrest (List.mem_append_right _ List.mem_cons_self)

/-- The error about empty names applies to a target in three parts if one of its two
names is empty. -/
theorem Decomposes.applies_emptyName_iff (h : Decomposes target ns service port) :
    Applies listen target (.emptyName target) ↔ ns = [] ∨ service = [] := by
  constructor
  · rintro ⟨-, otherNs, otherService, otherPort, hother, hempty⟩
    obtain ⟨rfl, rfl, -⟩ := h.unique hother
    exact hempty
  · exact fun hempty => ⟨rfl, ns, service, port, h, hempty⟩

/-- The error about the port applies to a target in three parts if the last part
stands for no port. -/
theorem Decomposes.applies_invalidTargetPort_iff (h : Decomposes target ns service port) :
    Applies listen target (.invalidTargetPort target) ↔ ∀ number, ¬ IsPort port number := by
  constructor
  · rintro ⟨-, otherNs, otherService, otherPort, hother, hport⟩
    obtain ⟨-, -, rfl⟩ := h.unique hother
    exact hport
  · exact fun hport => ⟨rfl, ns, service, port, h, hport⟩

end Parts

namespace Spells

variable {entry other : TransportEntry}

/-- None of the errors applies to what spells an entry. -/
theorem not_applies (h : Spells listen target entry) :
    ∀ error ∈ errorsInOrder listen target, ¬ Applies listen target error := by
  obtain ⟨servicePort, hparts, hservicePort⟩ := h.parts
  have hns : entry.ns.toList ≠ [] := fun hnil => h.ns_ne (String.toList_eq_nil_iff.mp hnil)
  have hservice : entry.service.toList ≠ [] :=
    fun hnil => h.service_ne (String.toList_eq_nil_iff.mp hnil)
  simp only [errorsInOrder, List.forall_mem_cons]
  -- error by error, in their order
  refine ⟨fun happlies => happlies.2 entry.port h.port, (hparts.separators listen).1,
    (hparts.separators listen).2, ?_, ?_, List.forall_mem_nil _⟩
  · rw [hparts.applies_emptyName_iff]
    exact not_or.mpr ⟨hns, hservice⟩
  · rw [hparts.applies_invalidTargetPort_iff]
    exact fun hnone => hnone entry.servicePort hservicePort

/-- A key and a value spell one entry of a protocol. -/
theorem unique (h : Spells listen target entry) (hother : Spells listen target other)
    (hprotocol : entry.protocol = other.protocol) : entry = other := by
  obtain ⟨servicePort, hparts, hservicePort⟩ := h.parts
  obtain ⟨otherServicePort, hotherParts, hotherServicePort⟩ := hother.parts
  obtain ⟨hns, hservice, rfl⟩ := hparts.unique hotherParts
  cases entry
  cases other
  simp only [TransportEntry.mk.injEq]
  exact ⟨h.port.unique hother.port, String.toList_inj.mp hns, String.toList_inj.mp hservice,
    hservicePort.unique hotherServicePort, hprotocol⟩

end Spells

/-! ### What is read -/

/-- What a key and a value should be read as. -/
inductive Outcome (protocol : Protocol) (listen target : String) :
    Except TransportEntryError TransportEntry → Prop
  /-- The entry of the protocol that they spell. -/
  | entry {entry : TransportEntry} (hspells : Spells listen target entry)
      (hprotocol : entry.protocol = protocol) :
      Outcome protocol listen target (.ok entry)
  /-- The first error that applies to them. -/
  | error {error : TransportEntryError}
      (hfirst : FirstOf (Applies listen target) (errorsInOrder listen target) error) :
      Outcome protocol listen target (.error error)

/-- What is read is an entry that the texts spell, or the first error that applies to them. -/
theorem outcome_parse (protocol : Protocol) (listen target : String) :
    Outcome protocol listen target (parse protocol listen target) := by
  unfold parse
  -- every way out is behind the errors that come before it, none of which applies there
  split
  next hlisten => exact .error (.inl ⟨⟨rfl, readPort?_eq_none_iff.mp hlisten⟩, rfl⟩)
  next port hlisten =>
    have hport := readPort?_eq_some_iff.mp hlisten
    have hkey : ¬ Applies listen target (.invalidListenPort listen) :=
      fun happlies => happlies.2 port hport
    split
    next hslash =>
      exact .error (.inr ⟨hkey, .inl ⟨⟨rfl, splitFirst?_eq_none_iff.mp hslash⟩, rfl⟩⟩)
    next ns rest hslash =>
      obtain ⟨htext, hns⟩ := of_splitFirst?_eq_some hslash
      split
      next hcolon =>
        have hnamespace : ¬ Applies listen target (.missingNamespace target) :=
          fun happlies => happlies.2 (htext ▸ List.mem_append_right _ List.mem_cons_self)
        have hmissing : Applies listen target (.missingPort target) :=
          ⟨rfl, ns, rest, htext, hns, splitFirst?_eq_none_iff.mp hcolon⟩
        exact .error (.inr ⟨hkey, .inr ⟨hnamespace, .inl ⟨hmissing, rfl⟩⟩⟩)
      next service servicePort hcolon =>
        have hparts : Decomposes target ns service servicePort :=
          decomposes_iff.mpr ⟨rest, hslash, hcolon⟩
        obtain ⟨hnamespace, hseparated⟩ := hparts.separators listen
        split
        next hempty =>
          have hnames : Applies listen target (.emptyName target) :=
            hparts.applies_emptyName_iff.mpr (by simpa using hempty)
          exact .error
            (.inr ⟨hkey, .inr ⟨hnamespace, .inr ⟨hseparated, .inl ⟨hnames, rfl⟩⟩⟩⟩)
        next hnonempty =>
          obtain ⟨hnsSome, hserviceSome⟩ : ns ≠ [] ∧ service ≠ [] := by
            simpa using hnonempty
          have hnames : ¬ Applies listen target (.emptyName target) := by
            rw [hparts.applies_emptyName_iff]
            exact not_or.mpr ⟨hnsSome, hserviceSome⟩
          split
          next hservicePort =>
            have hinvalid : Applies listen target (.invalidTargetPort target) :=
              hparts.applies_invalidTargetPort_iff.mpr (readPort?_eq_none_iff.mp hservicePort)
            exact .error
              (.inr
                ⟨hkey,
                  .inr ⟨hnamespace,
                    .inr ⟨hseparated, .inr ⟨hnames, .inl ⟨hinvalid, rfl⟩⟩⟩⟩⟩)
          next number hservicePort =>
            refine .entry
              ⟨hport, ⟨servicePort, ?_, readPort?_eq_some_iff.mp hservicePort⟩, ?_, ?_⟩ rfl
            · simpa using hparts
            · simpa using hnsSome
            · simpa using hserviceSome

end TransportEntry

/-- The text that an error quotes. -/
def TransportEntryError.quoted : TransportEntryError → String
  | .invalidListenPort text | .missingNamespace text | .missingPort text | .invalidTargetPort text
    | .emptyName text => text

/-- The message of an error has its text in quotes. -/
def TransportEntryError.IsQuoted (error : TransportEntryError) : Prop :=
  ∃ before after, error.message = before ++ error.quoted ++ after ∧
    before.toList.getLast? = some '\'' ∧ after.toList.head? = some '\''

/-- Every error says what is wrong and quotes the text. -/
theorem TransportEntryError.isQuoted (error : TransportEntryError) : error.IsQuoted := by
  cases error with
  | invalidListenPort text => exact ⟨"invalid listen port '", "'", rfl, by decide, by decide⟩
  | missingNamespace text =>
    exact ⟨"target '", "' is missing a namespace ('<namespace>/<service>:<port>')", rfl,
      by decide, by decide⟩
  | missingPort text =>
    exact ⟨"target '", "' is missing a port ('<namespace>/<service>:<port>')", rfl,
      by decide, by decide⟩
  | invalidTargetPort text => exact ⟨"invalid target port in '", "'", rfl, by decide, by decide⟩
  | emptyName text => exact ⟨"empty namespace or service in '", "'", rfl, by decide, by decide⟩

namespace TransportEntry

/-- When and what is read of a key and a value. -/
structure Grammar (protocol : Protocol) (listen target : String) : Prop where
  /-- An entry is read exactly if the key is a port and the value can be taken apart. -/
  accepted : (∃ entry, parse protocol listen target = .ok entry) ↔
    (∃ port, IsPort (Text.trimChars listen.toList) port) ∧
      ∃ ns service servicePort, Decomposes target ns service servicePort ∧ ns ≠ [] ∧
        service ≠ [] ∧ ∃ number, IsPort servicePort number
  /-- There is no more than one way to take the value apart. -/
  unique : ∀ ns service port otherNs otherService otherPort, Decomposes target ns service port →
    Decomposes target otherNs otherService otherPort →
      ns = otherNs ∧ service = otherService ∧ port = otherPort
  /-- The entry that is read is made of these parts. -/
  ok : ∀ entry, parse protocol listen target = .ok entry ↔
    Spells listen target entry ∧ entry.protocol = protocol
  /-- Otherwise the error is the first that applies. -/
  error : ∀ error, parse protocol listen target = .error error ↔
    FirstOf (Applies listen target) (errorsInOrder listen target) error
  /-- Its message has the text that it is about in quotes. -/
  quotes : ∀ error, parse protocol listen target = .error error → error.IsQuoted

variable {protocol : Protocol} {listen target : String}

/-- An entry is read exactly from the texts that spell it. -/
theorem parse_eq_ok_iff {entry : TransportEntry} :
    parse protocol listen target = .ok entry ↔
      Spells listen target entry ∧ entry.protocol = protocol := by
  have houtcome := outcome_parse protocol listen target
  constructor
  · intro hparse
    rw [hparse] at houtcome
    cases houtcome with
    | entry hspells hprotocol => exact ⟨hspells, hprotocol⟩
  · rintro ⟨hspells, hprotocol⟩
    -- what is spelled is not refused, and nothing else is read instead
    cases hparse : parse protocol listen target with
    | ok other =>
      rw [hparse] at houtcome
      cases houtcome with
      | entry hother hotherProtocol =>
        rw [hspells.unique hother (hprotocol.trans hotherProtocol.symm)]
    | error error =>
      rw [hparse] at houtcome
      cases houtcome with
      | error hfirst => exact absurd hfirst.property (hspells.not_applies error hfirst.mem)

/-- An error is reported exactly if it is the first one, in their order, that applies. -/
theorem parse_eq_error_iff {error : TransportEntryError} :
    parse protocol listen target = .error error ↔
      FirstOf (Applies listen target) (errorsInOrder listen target) error := by
  have houtcome := outcome_parse protocol listen target
  constructor
  · intro hparse
    rw [hparse] at houtcome
    cases houtcome with
    | error hfirst => exact hfirst
  · intro hfirst
    -- an entry excludes all errors, and two errors cannot both be the first
    cases hparse : parse protocol listen target with
    | ok entry =>
      exact absurd hfirst.property ((parse_eq_ok_iff.mp hparse).1.not_applies error hfirst.mem)
    | error other =>
      rw [hparse] at houtcome
      cases houtcome with
      | error hother => rw [hfirst.unique hother]

/-- Every key and every value are read by the grammar. -/
theorem parse_grammar (protocol : Protocol) (listen target : String) :
    Grammar protocol listen target where
  -- the three parts are the fields of the entry, which has one more port
  accepted := by
    simp only [parse_eq_ok_iff]
    constructor
    · rintro ⟨entry, hspells, -⟩
      obtain ⟨servicePort, hparts, hservicePort⟩ := hspells.parts
      refine ⟨⟨entry.port, hspells.port⟩, entry.ns.toList, entry.service.toList, servicePort,
        hparts, ?_, ?_, entry.servicePort, hservicePort⟩
      · exact fun hnil => hspells.ns_ne (String.toList_eq_nil_iff.mp hnil)
      · exact fun hnil => hspells.service_ne (String.toList_eq_nil_iff.mp hnil)
    · rintro ⟨⟨port, hport⟩, ns, service, servicePort, hparts, hns, hservice,
        number, hnumber⟩
      refine ⟨⟨port, String.ofList ns, String.ofList service, number, protocol⟩,
        ⟨hport, ⟨servicePort, ?_, hnumber⟩, ?_, ?_⟩, rfl⟩
      · simpa using hparts
      · simpa using hns
      · simpa using hservice
  unique _ _ _ _ _ _ hparts hother := hparts.unique hother
  ok _ := parse_eq_ok_iff
  error _ := parse_eq_error_iff
  quotes error _ := error.isQuoted

-- a colon may stand in the namespace, and a slash in the service
example : (parse .tcp " +0080" "a:b/c/d:9 ").toOption = some ⟨80, "a:b", "c/d", 9, .tcp⟩ := by
  decide +kernel

end TransportEntry

end ClusterWatch
