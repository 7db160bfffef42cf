import ClusterWatch.Proofs.Text.Numerals
import ClusterWatch.Proofs.Text.Trimming
import ClusterWatch.Proofs.Topology.Records

/-!
# Transport entries as text

Reading and writing transport entries take the separators differently: a namespace ends at the first
slash, and a service at the first colon behind it, whatever else they contain. So what is written is
read back exactly for entries that can be read from some text.

* `splitFirst?_eq_some_iff`, `splitFirst?_eq_none_iff` — where a text is split, if it is.
* `WellFormed` — entries that a text can stand for; `wellFormed_of_parse` — those
  that are read are.
* `parse_key_value` — the key and the value of such an entry are read as the entry.
* `EntriesReadBack`, `entries_read_back` — all that is read back of a config.
-/

namespace ClusterWatch

/-- A text is split at the first place where the character stands. -/
theorem splitFirst?_append {c : Char} {before : List Char} (h : c ∉ before) (after : List Char) :
    splitFirst? c (before ++ c :: after) = some (before, after) := by
  induction before with
  | nil => simp [splitFirst?]
  | cons d before ih =>
    rw [List.mem_cons, not_or] at h
    rw [List.cons_append, splitFirst?, if_neg (Ne.symm h.1), ih h.2, Option.map_some]

/-- Where a text is split, the character stands between the parts, and not in the first of them. -/
theorem of_splitFirst?_eq_some {c : Char} {cs before after : List Char}
    (h : splitFirst? c cs = some (before, after)) : cs = before ++ c :: after ∧ c ∉ before := by
  induction cs generalizing before with
  | nil => cases h
  | cons d rest ih =>
    rw [splitFirst?] at h
    split at h
    -- either the text begins with the character, or it is split further on
    next hd =>
      cases h
      exact ⟨by simp [hd], List.not_mem_nil⟩
    next hd =>
      obtain ⟨⟨begun, _⟩, hrest, hparts⟩ := Option.map_eq_some_iff.mp h
      cases hparts
      obtain ⟨rfl, hbegun⟩ := ih hrest
      exact ⟨rfl, by simpa using ⟨Ne.symm hd, hbegun⟩⟩

/-- The parts of a text that is split are exactly those around the first place of the character. -/
theorem splitFirst?_eq_some_iff {c : Char} {cs before after : List Char} :
    splitFirst? c cs = some (before, after) ↔ cs = before ++ c :: after ∧ c ∉ before := by
  constructor
  · exact of_splitFirst?_eq_some
  · rintro ⟨rfl, hbefore⟩
    exact splitFirst?_append hbefore after

/-- A text without the character is not split. -/
theorem splitFirst?_eq_none_iff {c : Char} {cs : List Char} :
    splitFirst? c cs = none ↔ c ∉ cs := by
  induction cs with
  | nil => simp [splitFirst?]
  | cons d rest ih =>
    rw [splitFirst?, List.mem_cons, not_or]
    split
    next hd => simp [hd]
    next hd => simp [ih, Ne.symm hd]

namespace TransportEntry

/-! ### Entries and their texts -/

/-- An entry that a key and a value can stand for. -/
structure WellFormed (entry : TransportEntry) : Prop where
  /-- The namespace is not empty. -/
  ns_ne : entry.ns ≠ ""
  /-- It contains no slash. -/
  slash : '/' ∉ entry.ns.toList
  /-- It does not start with white space. -/
  plain : Text.StartsPlain entry.ns.toList
  /-- The service is not empty. -/
  service_ne : entry.service ≠ ""
  /-- It contains no colon. -/
  colon : ':' ∉ entry.service.toList

/-- A port is read back from its digits. -/
theorem readPort?_toDigits (port : UInt16) :
    readPort? (Nat.toDigits 10 port.toNat) = some port := by
  have hport : port.toNat ≤ UInt16.size - 1 := by
    have hlt := port.toNat_lt_size
    omega
  rw [readPort?, Text.readUnsigned?_toDigits hport, Option.map_some, UInt16.ofNat_toNat]

/-- There is no white space among digits. -/
theorem isBlank_of_mem_toDigits {n : Nat} {c : Char} (h : c ∈ Nat.toDigits 10 n) :
    Text.isBlank c = false :=
  Text.isBlank_of_isDigit (Text.isDigit_of_mem_toDigits h)

/-- The key of an entry is made of the digits of its port. -/
theorem toList_key (entry : TransportEntry) :
    entry.key.toList = Nat.toDigits 10 entry.port.toNat := by
  rw [key, Nat.toString_eq_repr, Nat.toList_repr]

/-- The value of an entry has a slash after the namespace and a colon after the service. -/
theorem toList_value (entry : TransportEntry) :
    entry.value.toList =
      entry.ns.toList ++ '/' ::
        (entry.service.toList ++ ':' :: Nat.toDigits 10 entry.servicePort.toNat) := by
  simp [value]

/-- Different listen ports have different keys. -/
theorem key_inj {entry other : TransportEntry} :
    entry.key = other.key ↔ entry.port = other.port := by
  constructor
  · intro hkey
    have hport := readPort?_toDigits entry.port
    rw [← toList_key, hkey, toList_key, readPort?_toDigits] at hport
    exact (Option.some.inj hport).symm
  · intro hport
    rw [key, key, hport]

/-- A text that begins with no blank and ends with digits is left as it is. -/
theorem trimChars_append_toDigits {cs : List Char} (n : Nat)
    (h : Text.StartsPlain (cs ++ Nat.toDigits 10 n)) :
    Text.trimChars (cs ++ Nat.toDigits 10 n) = cs ++ Nat.toDigits 10 n := by
  refine Text.trimChars_eq_self h fun c hc => ?_
  rw [List.getLast?_append_of_ne_nil _ Nat.toDigits_ne_nil] at hc
  exact isBlank_of_mem_toDigits (List.mem_of_getLast? hc)

/-- The port is read back from the key. -/
theorem readPort?_trimChars_key (entry : TransportEntry) :
    readPort? (Text.trimChars entry.key.toList) = some entry.port := by
  have hplain : Text.StartsPlain ([] ++ Nat.toDigits 10 entry.port.toNat) := fun c hc =>
    isBlank_of_mem_toDigits (List.mem_of_head? hc)
  rw [toList_key, ← List.nil_append (Nat.toDigits _ _), trimChars_append_toDigits _ hplain,
    List.nil_append, readPort?_toDigits]

/-- Nothing is trimmed off the value of an entry that a text can stand for. -/
theorem trimChars_value {entry : TransportEntry} (h : entry.WellFormed) :
    Text.trimChars entry.value.toList = entry.value.toList := by
  have hns : entry.ns.toList ≠ [] := by simpa using h.ns_ne
  have hsplit : entry.value.toList =
      (entry.ns.toList ++ '/' :: (entry.service.toList ++ [':'])) ++
        Nat.toDigits 10 entry.servicePort.toNat := by
    simp [toList_value]
  rw [hsplit]
  -- the value ends with the digits of a port, and begins as the namespace does
  refine trimChars_append_toDigits _ ?_
  rw [List.append_assoc, Text.startsPlain_append hns]
  exact h.plain

/-- The key and the value of an entry are read as the entry. -/
theorem parse_key_value {entry : TransportEntry} (h : entry.WellFormed) :
    parse entry.protocol entry.key entry.value = .ok entry := by
  have hnames : (entry.ns.toList.isEmpty || entry.service.toList.isEmpty) = false := by
    simpa using ⟨h.ns_ne, h.service_ne⟩
  rw [parse, readPort?_trimChars_key, trimChars_value h, toList_value]
  simp [splitFirst?_append h.slash, splitFirst?_append h.colon, hnames, readPort?_toDigits]

/-- An entry that is read is one that a key and a value can stand for. -/
theorem wellFormed_of_parse {protocol : Protocol} {listen target : String} {entry : TransportEntry}
    (h : parse protocol listen target = .ok entry) : entry.WellFormed := by
  rw [parse] at h
  -- of all ways through, one ends with an entry
  repeat' split at h
  all_goals cases h
  next ns rest hslash _ service servicePort hcolon hnames _ _ _ =>
  obtain ⟨htarget, hns⟩ := of_splitFirst?_eq_some hslash
  obtain ⟨-, hservice⟩ := of_splitFirst?_eq_some hcolon
  have hne : ns ≠ [] ∧ service ≠ [] := by simpa using hnames
  have hplain : Text.StartsPlain (ns ++ '/' :: rest) := htarget ▸ Text.startsPlain_trimChars _
  refine ⟨?_, ?_, ?_, ?_, ?_⟩
  · simpa using hne.1
  · simpa using hns
  · simpa using (Text.startsPlain_append hne.1 _).mp hplain
  · simpa using hne.2
  · simpa using hservice

/-! ### Configs -/

variable {protocol : Protocol} {entries : List TransportEntry}

/-- A config that holds entries with different listen ports has the key and the value of each of
them, and no other. -/
theorem getElem?_format_eq_some_iff (hports : entries.Pairwise (·.port ≠ ·.port))
    {listen target : String} :
    (format entries)[listen]? = some target ↔
      ∃ entry ∈ entries, entry.key = listen ∧ entry.value = target := by
  induction entries using List.reverseRecOn with
  | nil => simp [format]
  | append_singleton entries last ih =>
    rw [List.pairwise_append] at hports
    obtain ⟨hearlier, -, hlast⟩ := hports
    have hformat : format (entries ++ [last]) = (format entries).insert last.key last.value :=
      List.foldl_append
    rw [hformat, Std.ExtTreeMap.getElem?_insert]
    by_cases hkey : last.key = listen
    · -- under its key, no other entry stands
      have hnone : ¬ ∃ entry ∈ entries, entry.key = listen ∧ entry.value = target := by
        rintro ⟨entry, hentry, hother, -⟩
        exact hlast entry hentry last (by simp) (key_inj.mp (hother.trans hkey.symm))
      simpa [hkey, or_and_right, exists_or] using fun entry hentry hother hvalue =>
        absurd ⟨entry, hentry, hother, hvalue⟩ hnone
    · simp [hkey, ih hearlier, or_and_right, exists_or]

/-- The entries of a config in the order of the texts of their listen ports. -/
structure InOrder (read entries : List TransportEntry) : Prop where
  /-- They are the same entries. -/
  perm : read.Perm entries
  /-- The decimal texts of their listen ports ascend. -/
  ordered : read.Pairwise (·.key < ·.key)

/-- Entries that texts can stand for are read back from the config that holds them, if their listen
ports differ. -/
theorem inOrder_parseAll_format
    (hentries : ∀ entry ∈ entries, entry.WellFormed ∧ entry.protocol = protocol)
    (hports : entries.Pairwise (·.port ≠ ·.port)) :
    InOrder (parseAll protocol (format entries)) entries := by
  -- under the key of an entry, the entry is read
  have hparse : ∀ entry ∈ entries, parse protocol entry.key entry.value = .ok entry := by
    intro entry hentry
    obtain ⟨hwellFormed, rfl⟩ := hentries entry hentry
    exact parse_key_value hwellFormed
  have hread {listen target : String} {entry : TransportEntry}
      (hlisten : (format entries)[listen]? = some target)
      (hentry : parse protocol listen target = .ok entry) : entry ∈ entries ∧
        entry.key = listen := by
    obtain ⟨other, hother, rfl, rfl⟩ := (getElem?_format_eq_some_iff hports).mp hlisten
    rw [hparse other hother] at hentry
    cases hentry
    exact ⟨hother, rfl⟩
  have hordered : (parseAll protocol (format entries)).Pairwise (·.key < ·.key) := by
    rw [parseAll, List.pairwise_filterMap]
    refine (format entries).ordered_keys_toList.imp_of_mem ?_
    rintro ⟨listen, target⟩
      ⟨other, otherTarget⟩ hlisten hother hlt entry hentry otherEntry hotherEntry
    rw [Std.ExtTreeMap.mem_toList_iff_getElem?_eq_some] at hlisten hother
    rw [(hread hlisten (toOption_eq_some_iff.mp hentry)).2,
      (hread hother (toOption_eq_some_iff.mp hotherEntry)).2]
    exact compareOfLessAndEq_eq_lt.mp hlt
  refine ⟨?_, hordered⟩
  have hnodup : entries.Nodup := hports.imp fun hne heq => hne (congrArg port heq)
  have hreadNodup : (parseAll protocol (format entries)).Nodup := by
    refine hordered.imp ?_
    rintro entry _ hlt rfl
    exact String.lt_irrefl entry.key hlt
  refine (List.perm_ext_iff_of_nodup hreadNodup hnodup).mpr fun entry => ?_
  rw [mem_parseAll]
  constructor
  · rintro ⟨listen, target, hlisten, hentry⟩
    exact (hread hlisten hentry).1
  · intro hentry
    exact ⟨entry.key, entry.value,
      (getElem?_format_eq_some_iff hports).mpr ⟨entry, hentry, rfl, rfl⟩, hparse entry hentry⟩

/-- What is read back of the entries of a protocol. -/
structure EntriesReadBack (protocol : Protocol) : Prop where
  /-- The entries of a config are of the protocol, and such that a key and a value can
  stand for them. -/
  accepted : ∀ data : TextMap, ∀ entry ∈ parseAll protocol data, entry.WellFormed ∧
    entry.protocol = protocol
  /-- Such entries with different listen ports are read back from the config that holds them. -/
  readBack : ∀ entries : List TransportEntry,
    (∀ entry ∈ entries, entry.WellFormed ∧ entry.protocol = protocol) →
      entries.Pairwise (·.port ≠ ·.port) →
      InOrder (parseAll protocol (format entries)) entries
  /-- So are the entries of any config, if their listen ports differ. -/
  rewritten : ∀ data : TextMap, (parseAll protocol data).Pairwise (·.port ≠ ·.port) →
    InOrder (parseAll protocol (format (parseAll protocol data))) (parseAll protocol data)

/-- Of every protocol, the entries that are read of a config are read back from the config that
holds them, and so are all others that a key and a value can stand for. -/
theorem entries_read_back (protocol : Protocol) : EntriesReadBack protocol := by
  have haccepted (data : TextMap) :
      ∀ entry ∈ parseAll protocol data, entry.WellFormed ∧ entry.protocol = protocol := by
    intro entry hentry
    obtain ⟨listen, target, -, hparse⟩ := mem_parseAll.mp hentry
    exact ⟨wellFormed_of_parse hparse, protocol_of_mem_parseAll hentry⟩
  exact ⟨haccepted, fun entries => inOrder_parseAll_format,
    fun data => inOrder_parseAll_format (haccepted data)⟩

-- the order is that of the texts, in which "10" comes before "9"
example :
    (parseAll .tcp (format [⟨9, "a", "b", 80, .tcp⟩, ⟨10, "a", "b", 80, .tcp⟩])).map
      port = [10, 9] := by
  decide +kernel

end TransportEntry

end ClusterWatch
