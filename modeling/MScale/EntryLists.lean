import Mathlib.Data.List.AList

/-!
# Association lists filled from a sequence of items

A dict is filled by inserting one entry for each item in turn.  When the keys
of the items are distinct, nothing is overwritten and the dict holds exactly
the entries of the items.  The items themselves may come from a conversion
that refuses some of its inputs.
-/

namespace MScale

namespace EntryLists

variable {Key Value Item : Type*} [DecidableEq Key]

/-- Insert one entry for each item. -/
def fill (key : Item → Key) (value : Item → Value) (items : List Item)
    (dict : AList fun _ : Key => Value) : AList fun _ : Key => Value :=
  items.foldl (fun dict item => dict.insert (key item) (value item)) dict

variable {key : Item → Key} {value : Item → Value} {items : List Item}

theorem fill_entries {dict : AList fun _ : Key => Value}
    (distinct : (items.map key).Nodup)
    (fresh : ∀ item ∈ items, key item ∉ dict) :
    (fill key value items dict).entries =
      (items.map fun item => ⟨key item, value item⟩).reverse ++
        dict.entries := by
  induction items generalizing dict with
  | nil => rfl
  | cons item items ih =>
      rw [List.map_cons, List.nodup_cons] at distinct
      rw [List.forall_mem_cons] at fresh
      have freshLater : ∀ later ∈ items,
          key later ∉ dict.insert (key item) (value item) := by
        intro later member
        rw [AList.mem_insert]
        rintro (same | present)
        · apply distinct.1
          rw [← same]
          exact List.mem_map_of_mem member
        · exact fresh.2 later member present
      have filled := ih distinct.2 freshLater
      rw [AList.entries_insert_of_notMem fresh.1] at filled
      rw [List.map_cons, List.reverse_cons, List.append_assoc,
        List.singleton_append]
      exact filled

/-- Items with distinct keys fill an empty dict with exactly their entries. -/
theorem fill_empty_entries (distinct : (items.map key).Nodup) :
    (fill key value items ∅).entries =
      (items.map fun item => ⟨key item, value item⟩).reverse := by
  rw [fill_entries distinct fun item _ => AList.notMem_empty (key item),
    AList.empty_entries, List.append_nil]

theorem lookup_fill_eq_some_iff (distinct : (items.map key).Nodup)
    {name : Key} {found : Value} :
    (fill key value items ∅).lookup name = some found ↔
      ∃ item ∈ items, key item = name ∧ value item = found := by
  rw [← Option.mem_def, AList.mem_lookup_iff, fill_empty_entries distinct,
    List.mem_reverse, List.mem_map]
  simp only [Sigma.mk.injEq, heq_eq_eq]

theorem keys_fill (distinct : (items.map key).Nodup) :
    (fill key value items ∅).keys = (items.map key).reverse := by
  rw [AList.keys, fill_empty_entries distinct, List.keys, List.map_reverse,
    List.map_map]
  rfl

/-- A sequence is converted exactly if none of its members is refused. -/
theorem mapM_eq_some_iff {Source : Type*} {convert : Source → Option Item}
    (accepts : Source → Prop) (converted : Source → Item)
    {sources : List Source}
    (convert_iff : ∀ source ∈ sources, ∀ item,
      convert source = some item ↔ accepts source ∧ item = converted source) :
    sources.mapM convert = some items ↔
      (∀ source ∈ sources, accepts source) ∧
        items = sources.map converted := by
  induction sources generalizing items with
  | nil => simp [eq_comm]
  | cons source sources ih =>
      rw [List.forall_mem_cons] at convert_iff
      simp only [List.mapM_cons, Option.pure_def, Option.bind_eq_bind,
        Option.bind_eq_some_iff, Option.some.injEq, convert_iff.1,
        ih convert_iff.2, List.forall_mem_cons, List.map_cons]
      constructor
      · rintro ⟨item, ⟨accepted, rfl⟩, rest, ⟨acceptedRest, rfl⟩, rfl⟩
        exact ⟨⟨accepted, acceptedRest⟩, rfl⟩
      · rintro ⟨⟨accepted, acceptedRest⟩, rfl⟩
        exact ⟨_, ⟨accepted, rfl⟩, _, ⟨acceptedRest, rfl⟩, rfl⟩

/-- Erasing a key leaves the other entries in their order. -/
theorem erase_entries (dict : AList fun _ : Key => Value) (name : Key) :
    (dict.erase name).entries =
      dict.entries.filter fun entry => entry.fst ≠ name := by
  obtain ⟨entries, nodup⟩ := dict
  change entries.kerase name = entries.filter fun entry => entry.fst ≠ name
  induction entries with
  | nil => rfl
  | cons entry entries ih =>
      obtain ⟨notLater, nodup⟩ := List.nodupKeys_cons.mp nodup
      by_cases same : name = entry.fst
      · have others : ∀ other ∈ entries, other.fst ≠ name := by
          intro other member otherSame
          apply notLater
          rw [← same, ← otherSame]
          exact List.mem_map_of_mem member
        rw [List.kerase_cons_eq same, List.filter_cons_of_neg (by simp [same])]
        exact (List.filter_eq_self.mpr (by simpa using others)).symm
      · rw [List.kerase_cons_ne same, ih nodup,
          List.filter_cons_of_pos (by simpa using Ne.symm same)]

section Values

variable {Other : Type*}

/-- The values, in the order of their entries. -/
def values (dict : AList fun _ : Key => Value) : List Value :=
  dict.entries.map Sigma.snd

/-- The same keys, each with its changed value. -/
def mapValues (change : Value → Other) (dict : AList fun _ : Key => Value) :
    AList fun _ : Key => Other where
  entries := dict.entries.map fun entry => ⟨entry.fst, change entry.snd⟩
  nodupKeys := by
    rw [List.NodupKeys, List.keys, List.map_map]
    exact dict.nodupKeys

omit [DecidableEq Key] in
theorem values_mapValues (change : Value → Other)
    (dict : AList fun _ : Key => Value) :
    values (mapValues change dict) = (values dict).map change := by
  rw [values, values, mapValues, List.map_map, List.map_map]
  rfl

end Values

/-- Two dicts that differ at one key only. -/
def AgreeExcept (name : Key) (first second : AList fun _ : Key => Value) :
    Prop :=
  ∀ key, key ≠ name → first.lookup key = second.lookup key

section AgreeExcept

variable {name : Key} {first second : AList fun _ : Key => Value}

theorem AgreeExcept.refl (name : Key) (dict : AList fun _ : Key => Value) :
    AgreeExcept name dict dict :=
  fun _ _ => rfl

/-- The same entry may be added to both. -/
theorem AgreeExcept.insert (agree : AgreeExcept name first second)
    (key : Key) (value : Value) :
    AgreeExcept name (first.insert key value) (second.insert key value) := by
  intro other different
  by_cases same : other = key
  · rw [same, AList.lookup_insert, AList.lookup_insert]
  · rw [AList.lookup_insert_ne same, AList.lookup_insert_ne same]
    exact agree other different

theorem AgreeExcept.insert_left (agree : AgreeExcept name first second)
    (value : Value) : AgreeExcept name (first.insert name value) second := by
  intro other different
  rw [AList.lookup_insert_ne different]
  exact agree other different

/-- Dicts with the same lookups have the same values. -/
theorem values_perm (same : ∀ key, first.lookup key = second.lookup key) :
    (values first).Perm (values second) := by
  apply List.Perm.map
  apply List.lookup_ext first.nodupKeys second.nodupKeys
  intro key value
  exact Option.ext_iff.mp (same key) value

/-- The value of one key, and those of the others. -/
theorem values_perm_of_found {value : Value}
    (found : first.lookup name = some value) :
    (values first).Perm (value :: values (first.erase name)) := by
  have same : ∀ key,
      first.lookup key = (first.insert name value).lookup key := by
    intro key
    by_cases here : key = name
    · rw [here, found, AList.lookup_insert]
    · rw [AList.lookup_insert_ne here]
  exact values_perm same

theorem values_perm_of_absent (absent : first.lookup name = none) :
    (values first).Perm (values (first.erase name)) := by
  apply values_perm
  intro key
  by_cases here : key = name
  · rw [here, absent, AList.lookup_erase]
  · rw [AList.lookup_erase_ne here]

theorem AgreeExcept.values_perm (agree : AgreeExcept name first second) :
    (values (first.erase name)).Perm (values (second.erase name)) := by
  apply EntryLists.values_perm
  intro key
  by_cases here : key = name
  · rw [here, AList.lookup_erase, AList.lookup_erase]
  · rw [AList.lookup_erase_ne here, AList.lookup_erase_ne here]
    exact agree key here

end AgreeExcept

end EntryLists

end MScale
