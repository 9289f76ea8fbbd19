/-!
# Maps keyed by names

A finite map from strings, kept as the list of its entries in increasing order of the names. Strings
are ordered by code points, which is also the order of their UTF-8 bytes.
-/

namespace LexMachine

/-- A finite map from names. -/
structure NameMap (α : Type) where
  /-- The entries in increasing order of their names. -/
  entries : List (String × α)
  /-- No name occurs twice, and the names increase. -/
  increasing : entries.Pairwise fun a b => a.1 < b.1

namespace NameMap

variable {α β : Type}

/-- The entries with one more, which takes the place of one of its name. -/
def insertEntry (name : String) (value : α) : List (String × α) → List (String × α)
  | [] => [(name, value)]
  | e :: rest =>
    if name < e.1 then (name, value) :: e :: rest
    else if e.1 < name then e :: insertEntry name value rest
    else (name, value) :: rest

theorem name_mem_insertEntry {name : String} {value : α} {entries : List (String × α)}
    {e : String × α} (h : e ∈ insertEntry name value entries) : e.1 = name ∨ e ∈ entries := by
  induction entries with
  | nil => simp [insertEntry] at h; simp [h]
  | cons head rest ih =>
    simp only [insertEntry] at h
    split at h
    · simp only [List.mem_cons] at h ⊢
      rcases h with rfl | rfl | h <;> simp_all
    · split at h
      · simp only [List.mem_cons] at h ⊢
        rcases h with rfl | h
        · simp
        · rcases ih h with h | h <;> simp [h]
      · simp only [List.mem_cons] at h ⊢
        rcases h with rfl | h <;> simp_all

theorem pairwise_insertEntry (name : String) (value : α) {entries : List (String × α)}
    (h : entries.Pairwise fun a b => a.1 < b.1) :
    (insertEntry name value entries).Pairwise fun a b => a.1 < b.1 := by
  induction entries with
  | nil => simp [insertEntry]
  | cons head rest ih =>
    have hrest := (List.pairwise_cons.1 h).2
    have hhead := (List.pairwise_cons.1 h).1
    simp only [insertEntry]
    split
    · rename_i hlt
      refine List.pairwise_cons.2 ⟨?_, h⟩
      intro e he
      rcases List.mem_cons.1 he with rfl | he
      · exact hlt
      · exact String.lt_trans hlt (hhead e he)
    · rename_i hnot
      split
      · rename_i hgt
        refine List.pairwise_cons.2 ⟨?_, ih hrest⟩
        intro e he
        rcases name_mem_insertEntry he with hname | he
        · exact hname ▸ hgt
        · exact hhead e he
      · rename_i hnot'
        have heq : name = head.1 :=
          String.le_antisymm (String.not_lt.1 hnot') (String.not_lt.1 hnot)
        refine List.pairwise_cons.2 ⟨?_, hrest⟩
        intro e he
        exact heq ▸ hhead e he

/-- The map without entries. -/
def empty : NameMap α := ⟨[], List.Pairwise.nil⟩

/-- The value of a name. -/
def get? (m : NameMap α) (name : String) : Option α :=
  (m.entries.find? (·.1 == name)).map (·.2)

/-- Whether a name has a value. -/
def contains (m : NameMap α) (name : String) : Bool := (m.get? name).isSome

/-- The map with a value for a name, in place of the one that it had. -/
def insert (m : NameMap α) (name : String) (value : α) : NameMap α :=
  ⟨insertEntry name value m.entries, pairwise_insertEntry name value m.increasing⟩

/-- The map of a list of entries, where the last of several with one name counts. -/
def ofList (entries : List (String × α)) : NameMap α :=
  entries.foldl (fun m e => m.insert e.1 e.2) empty

/-- The names, increasing. -/
def names (m : NameMap α) : List String := m.entries.map (·.1)

/-- The number of entries. -/
def size (m : NameMap α) : Nat := m.entries.length

/-- Whether there are no entries. -/
def isEmpty (m : NameMap α) : Bool := m.entries.isEmpty

/-- Entries with each value replaced by its image, up to the first that has none. -/
def mapEntriesM {ε : Type} (f : String → α → Except ε β) :
    List (String × α) → Except ε (List (String × β))
  | [] => .ok []
  | (name, value) :: rest => do
    let image ← f name value
    return (name, image) :: (← mapEntriesM f rest)

theorem names_mapEntriesM {ε : Type} {f : String → α → Except ε β} {entries : List (String × α)}
    {images : List (String × β)} (h : mapEntriesM f entries = .ok images) :
    images.map (·.1) = entries.map (·.1) := by
  induction entries generalizing images with
  | nil => cases h; rfl
  | cons e rest ih =>
    obtain ⟨name, value⟩ := e
    simp only [mapEntriesM, bind, Except.bind, pure, Except.pure] at h
    cases hf : f name value with
    | error => simp [hf] at h
    | ok image =>
      cases hr : mapEntriesM f rest with
      | error => simp [hf, hr] at h
      | ok tail =>
        simp only [hf, hr, Except.ok.injEq] at h
        subst h
        simp [ih hr]

/-- The map with each value replaced by its image, up to the first in the order of the names that
has none. -/
def mapValuesM {ε : Type} (f : String → α → Except ε β) (m : NameMap α) : Except ε (NameMap β) :=
  match h : mapEntriesM f m.entries with
  | .error e => .error e
  | .ok entries => .ok ⟨entries, by
      have names : (m.entries.map (·.1)).Pairwise (· < ·) := List.pairwise_map.2 m.increasing
      rw [← names_mapEntriesM h] at names
      exact List.pairwise_map.1 names⟩

instance : Inhabited (NameMap α) := ⟨empty⟩

instance [Repr α] : Repr (NameMap α) := ⟨fun m n => reprPrec m.entries n⟩

instance [DecidableEq α] : DecidableEq (NameMap α) := fun m n =>
  decidable_of_iff (m.entries = n.entries) (by cases m; cases n; simp)

end NameMap

end LexMachine
