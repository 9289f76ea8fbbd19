import LexMachine.NameMap
import Mathlib.Data.List.Nodup
import Mathlib.Data.List.Perm.Subperm

/-!
# Names and values

What is found under a name in a map is the one entry with that name (`get?_eq_some_iff`), and the
names of a map are those under which something is found (`mem_names_iff`). A list of different names
of a map is no longer than the map (`length_le_size`). One more entry changes what is found under
its own name only (`get?_insert`), and makes the map longer just if nothing was found there
(`size_insert`). Two maps are the same if the same is found in both (`ext_get?`), so a map is made
of its entries (`ofList_entries`).
-/

namespace LexMachine.NameMap

variable {α : Type} {m : NameMap α} {name : String} {value : α}

@[simp] theorem length_names (m : NameMap α) : m.names.length = m.size := List.length_map _

/-- There are no more different names than entries. -/
theorem length_le_size {path : List String} (distinct : path.Nodup) (defined : path ⊆ m.names) :
    path.length ≤ m.size := by
  rw [← length_names]
  exact (List.subperm_of_subset distinct defined).length_le

/-- What is found is the entry with the name. -/
theorem get?_eq_some_iff : m.get? name = some value ↔ (name, value) ∈ m.entries := by
  obtain ⟨entries, increasing⟩ := m
  unfold get?
  induction entries with
  | nil => simp
  | cons e entries ih =>
    obtain ⟨key, first⟩ := e
    have below := (List.pairwise_cons.1 increasing).1
    by_cases hkey : key = name
    · subst hkey
      -- no later entry has the name again
      have absent : (key, value) ∉ entries := fun h => String.lt_irrefl key (below (key, value) h)
      simp [absent, eq_comm]
    · simpa [hkey, Ne.symm hkey] using ih (List.pairwise_cons.1 increasing).2

theorem mem_names_iff : name ∈ m.names ↔ m.contains name = true := by
  unfold contains
  rw [Option.isSome_iff_exists, names, List.mem_map]
  constructor
  · rintro ⟨⟨_, value⟩, h, rfl⟩
    exact ⟨value, get?_eq_some_iff.2 h⟩
  · rintro ⟨value, h⟩
    exact ⟨(name, value), get?_eq_some_iff.1 h, rfl⟩

theorem mem_names_of_get? (h : m.get? name = some value) : name ∈ m.names :=
  List.mem_map_of_mem (get?_eq_some_iff.1 h)

theorem exists_of_contains (h : m.contains name = true) : ∃ value, m.get? name = some value :=
  Option.isSome_iff_exists.1 h

/-! ## More values -/

theorem value_cons (e : String × α) (entries : List (String × α)) (other : String) :
    ((e :: entries).find? (·.1 == other)).map (·.2) =
      if e.1 = other then some e.2 else (entries.find? (·.1 == other)).map (·.2) := by
  by_cases same : e.1 = other
  · rw [List.find?_cons_of_pos (by simpa using same), if_pos same]
    rfl
  · rw [List.find?_cons_of_neg (by simpa using same), if_neg same]

/-- Among entries with one more, its name has its value and every other name the value it had. -/
theorem value_insertEntry (name other : String) (value : α) (entries : List (String × α)) :
    ((insertEntry name value entries).find? (·.1 == other)).map (·.2) =
      if name = other then some value else (entries.find? (·.1 == other)).map (·.2) := by
  induction entries with
  | nil => rw [insertEntry, value_cons]
  | cons e entries ih =>
    unfold insertEntry
    split
    · rw [value_cons]
    · split
      · rename_i less
        rw [value_cons, ih, value_cons]
        by_cases front : e.1 = other
        · -- the entry in front has a lesser name, so it is another one
          have apart : name ≠ other := fun same =>
            String.lt_irrefl other (by rwa [front, same] at less)
          rw [if_pos front, if_neg apart, if_pos front]
        · rw [if_neg front, if_neg front]
      · rename_i notLess notGreater
        have same : name = e.1 :=
          String.le_antisymm (String.not_lt.1 notGreater) (String.not_lt.1 notLess)
        rw [value_cons, value_cons, same]
        by_cases front : e.1 = other
        · rw [if_pos front, if_pos front]
        · rw [if_neg front, if_neg front, if_neg front]

theorem get?_insert (m : NameMap α) (name other : String) (value : α) :
    (m.insert name value).get? other = if name = other then some value else m.get? other :=
  value_insertEntry name other value m.entries

/-- In a map that entries are put into, one after the other, the last one of a name is found. -/
theorem get?_foldl_insert (entries : List (String × α)) (m : NameMap α) (name : String) :
    (entries.foldl (fun m e => m.insert e.1 e.2) m).get? name =
      (entries.reverse.lookup name).or (m.get? name) := by
  induction entries generalizing m with
  | nil => simp
  | cons e entries ih =>
    obtain ⟨key, value⟩ := e
    have first : ([(key, value)].lookup name).or (m.get? name) =
        if key = name then some value else m.get? name := by
      by_cases same : key = name
      · simp [same]
      · simp [List.lookup_cons, beq_false_of_ne (Ne.symm same), same]
    rw [List.foldl_cons, ih, get?_insert, List.reverse_cons, List.lookup_append, Option.or_assoc,
      first]

/-! ## Maps and what is found in them -/

theorem pairwise_names (m : NameMap α) : m.names.Pairwise (· < ·) :=
  List.pairwise_map.2 m.increasing

theorem nodup_names (m : NameMap α) : m.names.Nodup := by
  refine m.pairwise_names.imp fun less => ?_
  rintro rfl
  exact String.lt_irrefl _ less

/-- **Two maps are the same** if the same is found under each name. -/
theorem ext_get? {m' : NameMap α} (h : ∀ name, m.get? name = m'.get? name) : m = m' := by
  have members (e : String × α) : e ∈ m.entries ↔ e ∈ m'.entries := by
    rw [← get?_eq_some_iff, ← get?_eq_some_iff, h]
  have same : m.entries = m'.entries := by
    refine List.Perm.eq_of_pairwise (fun a b _ _ ab ba => ?_) m.increasing m'.increasing
      ((List.perm_ext_iff_of_nodup (.of_map _ m.nodup_names) (.of_map _ m'.nodup_names)).2 members)
    exact absurd (String.lt_trans ab ba) (String.lt_irrefl _)
  cases m
  cases m'
  cases same
  rfl

/-- One more value makes a map longer, unless it takes the place of another one. -/
theorem size_insert (m : NameMap α) (name : String) (value : α) :
    (m.insert name value).size = if m.contains name then m.size else m.size + 1 := by
  -- the names are counted: the new one and those there have been, in whatever order
  have members (other : String) :
      other ∈ (m.insert name value).names ↔ other = name ∨ other ∈ m.names := by
    rw [mem_names_iff, mem_names_iff, contains, contains, get?_insert]
    by_cases same : name = other
    · simp [same]
    · simp [same, Ne.symm same]
  rw [← length_names, ← length_names]
  by_cases there : m.contains name = true
  · rw [if_pos there]
    have named := mem_names_iff.2 there
    refine List.Perm.length_eq ((List.perm_ext_iff_of_nodup (nodup_names _) m.nodup_names).2 ?_)
    intro other
    rw [members, or_iff_right_of_imp]
    rintro rfl
    exact named
  · rw [if_neg there]
    have fresh := mt mem_names_iff.1 there
    have distinct := List.nodup_cons.2 ⟨fresh, m.nodup_names⟩
    refine List.Perm.length_eq ((List.perm_ext_iff_of_nodup (nodup_names _) distinct).2 ?_)
    intro other
    rw [members, List.mem_cons]

/-- A map is made of its entries. -/
theorem ofList_entries (m : NameMap α) : ofList m.entries = m := by
  refine ext_get? fun name => Option.ext fun value => ?_
  -- of entries with one name the last would count, but there is just one
  have found (value : α) (h : m.entries.reverse.lookup name = some value) :
      m.get? name = some value := by
    obtain ⟨before, after, split, -⟩ := List.lookup_eq_some_iff.1 h
    rw [get?_eq_some_iff, ← List.mem_reverse, split]
    simp
  have same : (ofList m.entries).get? name = m.entries.reverse.lookup name := by
    rw [ofList, get?_foldl_insert]
    exact Option.or_none
  rw [same]
  constructor
  · exact found value
  · intro h
    have there : (m.entries.reverse.lookup name).isSome := by
      rw [List.lookup_isSome_iff]
      exact ⟨(name, value), List.mem_reverse.2 (get?_eq_some_iff.1 h), by simp⟩
    obtain ⟨other, hother⟩ := Option.isSome_iff_exists.1 there
    rw [hother, ← found other hother, h]

end LexMachine.NameMap
