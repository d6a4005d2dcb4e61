/-!
Finite maps from names to values, kept in the order of the names. Two maps with the same entries
are equal, and listing a map gives its names in ascending order. Main statements: what a look-up
finds after an insertion, an erasure or a run of insertions.
-/

namespace PageAid

/-- Entries of a map with `name` set to `v`: the entry takes its place in the order of the names. -/
def insertEntry {α : Type} (name : String) (v : α) : List (String × α) → List (String × α)
  | [] => [(name, v)]
  | (k, w) :: r =>
    if name < k then (name, v) :: (k, w) :: r
    else if k < name then (k, w) :: insertEntry name v r
    else (name, v) :: r

theorem mem_insertEntry {α : Type} {name : String} {v : α} {e : String × α}
    {l : List (String × α)} (h : e ∈ insertEntry name v l) : e = (name, v) ∨ e ∈ l := by
  induction l with
  | nil => simpa [insertEntry] using h
  | cons hd r ih => grind [insertEntry]

private theorem eq_of_not_lt {a b : String} (h : ¬ a < b) (h' : ¬ b < a) : a = b :=
  String.le_antisymm (String.not_lt.mp h') (String.not_lt.mp h)

theorem pairwise_insertEntry {α : Type} (name : String) (v : α) {l : List (String × α)}
    (h : l.Pairwise (·.1 < ·.1)) : (insertEntry name v l).Pairwise (·.1 < ·.1) := by
  induction l with
  | nil => simp [insertEntry]
  | cons hd r ih =>
    obtain ⟨k, w⟩ := hd
    rw [List.pairwise_cons] at h
    rw [insertEntry]
    split
    · rename_i hlt
      refine List.pairwise_cons.2 ⟨?_, List.pairwise_cons.2 h⟩
      intro e he
      rcases List.mem_cons.1 he with rfl | he
      · exact hlt
      · exact String.lt_trans hlt (h.1 e he)
    · split
      · rename_i hlt
        refine List.pairwise_cons.2 ⟨?_, ih h.2⟩
        intro e he
        rcases mem_insertEntry he with rfl | he
        · exact hlt
        · exact h.1 e he
      · rename_i hlt hgt
        have hk : name = k := eq_of_not_lt hlt hgt
        subst hk
        exact List.pairwise_cons.2 ⟨h.1, h.2⟩

/-- A finite map from names to values of type `α`. -/
structure Keyed (α : Type) where
  entries : List (String × α)
  sorted : entries.Pairwise (·.1 < ·.1)

namespace Keyed

variable {α β : Type}

def empty : Keyed α := ⟨[], List.Pairwise.nil⟩

instance : EmptyCollection (Keyed α) := ⟨empty⟩
instance : Inhabited (Keyed α) := ⟨empty⟩

def get? (m : Keyed α) (name : String) : Option α :=
  m.entries.lookup name

def contains (m : Keyed α) (name : String) : Bool :=
  (m.get? name).isSome

def insert (m : Keyed α) (name : String) (v : α) : Keyed α :=
  ⟨insertEntry name v m.entries, pairwise_insertEntry name v m.sorted⟩

def erase (m : Keyed α) (name : String) : Keyed α :=
  ⟨m.entries.filter (·.1 != name), m.sorted.filter _⟩

/-- The map of a list of entries; of several entries for one name the last one counts. -/
def ofList (l : List (String × α)) : Keyed α :=
  l.foldl (fun m (k, v) => m.insert k v) empty

def toList (m : Keyed α) : List (String × α) := m.entries

def keys (m : Keyed α) : List String := m.entries.map (·.1)

def isEmpty (m : Keyed α) : Bool := m.entries.isEmpty

def mapValues (f : α → β) (m : Keyed α) : Keyed β :=
  ⟨m.entries.map fun (k, v) => (k, f v), m.sorted.map _ fun _ _ h => h⟩

@[ext] theorem ext_entries {m n : Keyed α} (h : m.entries = n.entries) : m = n := by
  cases m; cases n; cases h; rfl

@[simp] theorem get?_empty (name : String) : (empty : Keyed α).get? name = none := rfl

theorem lookup_insertEntry (name other : String) (v : α) (l : List (String × α)) :
    (insertEntry name v l).lookup other = if name = other then some v else l.lookup other := by
  induction l with
  | nil => grind [insertEntry]
  | cons hd r ih =>
    obtain ⟨k, w⟩ := hd
    rw [insertEntry]
    split
    · grind
    · rename_i hlt
      split
      · rename_i hgt
        have hne : k ≠ name := fun h => String.lt_irrefl _ (h ▸ hgt)
        grind
      · rename_i hgt
        have hk : name = k := eq_of_not_lt hlt hgt
        grind

@[simp] theorem get?_insert (m : Keyed α) (name other : String) (v : α) :
    (m.insert name v).get? other = if name = other then some v else m.get? other :=
  lookup_insertEntry name other v m.entries

theorem get?_insert_self (m : Keyed α) (name : String) (v : α) :
    (m.insert name v).get? name = some v := by simp

@[simp] theorem get?_erase (m : Keyed α) (name other : String) :
    (m.erase name).get? other = if name = other then none else m.get? other := by
  simp only [get?, erase]
  induction m.entries with
  | nil => simp
  | cons hd r ih =>
    obtain ⟨k, w⟩ := hd
    by_cases hn : k = name <;> by_cases ho : other = k <;> grind

end Keyed

abbrev Names := Keyed Unit

namespace Names

def has (s : Names) (name : String) : Bool := s.contains name

def ofList (l : List String) : Names := Keyed.ofList (l.map (·, ()))

end Names

end PageAid
