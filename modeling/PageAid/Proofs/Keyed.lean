import Mathlib.Data.List.Sort
import PageAid.Keyed

/-!
Finite maps as sets of entries: an entry is in a map just when it is found under its name, and two
maps in which every name has the same value are equal.
-/

namespace PageAid

namespace Keyed

variable {α : Type}

theorem get?_of_mem {m : Keyed α} {name : String} {v : α}
    (h : (name, v) ∈ m.entries) : m.get? name = some v := by
  have found : ∀ l : List (String × α), l.Pairwise (·.1 < ·.1) → (name, v) ∈ l →
      l.lookup name = some v := by
    intro l
    induction l with
    | nil => simp
    | cons e r ih =>
        intro sorted h
        obtain ⟨above, rest⟩ := List.pairwise_cons.1 sorted
        rcases List.mem_cons.1 h with rfl | within
        · simp
        · obtain ⟨k, w⟩ := e
          -- the names are in order, so this entry has another one
          have ne : name ≠ k := by
            rintro rfl
            exact String.lt_irrefl name (above _ within)
          rw [List.lookup_cons, beq_false_of_ne ne]
          exact ih rest within
  exact found m.entries m.sorted h

theorem mem_entries_iff {m : Keyed α} {name : String} {v : α} :
    (name, v) ∈ m.entries ↔ m.get? name = some v := by
  refine ⟨get?_of_mem, fun h => ?_⟩
  obtain ⟨l, r, hl, -⟩ := List.lookup_eq_some_iff.1 h
  simp [hl]

theorem ext_get? {m n : Keyed α} (h : ∀ name, m.get? name = n.get? name) : m = n := by
  have : Std.Irrefl fun e e' : String × α => e.1 < e'.1 := ⟨fun _ => String.lt_irrefl _⟩
  have : Std.Antisymm fun e e' : String × α => e.1 < e'.1 :=
    ⟨fun _ _ lt gt => absurd (String.lt_trans lt gt) (String.lt_irrefl _)⟩
  refine ext_entries (m.sorted.eq_of_mem_iff n.sorted fun ⟨name, v⟩ => ?_)
  rw [mem_entries_iff, mem_entries_iff, h]

theorem insert_insert (m : Keyed α) (name : String) (v w : α) :
    (m.insert name v).insert name w = m.insert name w := by
  refine ext_get? fun other => ?_
  by_cases h : name = other <;> simp [h]

theorem insert_comm (m : Keyed α) {name other : String} (h : name ≠ other)
    (v w : α) : (m.insert name v).insert other w = (m.insert other w).insert name v := by
  refine ext_get? fun key => ?_
  by_cases same : name = key
  · subst same
    simp [h.symm]
  · simp [same]

theorem eq_empty {m : Keyed α} (h : m.isEmpty) : {} = m :=
  ext_entries (List.isEmpty_iff.1 h).symm

/-- Entries under distinct names are found in the map of them, whatever their order. -/
theorem get?_ofList {l : List (String × α)} (distinct : (l.map (·.1)).Nodup) (name : String) :
    (ofList l).get? name = l.lookup name := by
  have inserted : ∀ (l : List (String × α)) (m : Keyed α), (l.map (·.1)).Nodup →
      (l.foldl (fun m e => m.insert e.1 e.2) m).get? name =
        (l.lookup name).or (m.get? name) := by
    intro l
    induction l with
    | nil => exact fun m _ => rfl
    | cons e r ih =>
        intro m distinct
        obtain ⟨k, v⟩ := e
        obtain ⟨once, distinct⟩ := List.nodup_cons.1 distinct
        rw [List.foldl_cons, ih _ distinct, get?_insert, List.lookup_cons]
        by_cases same : k = name
        · subst same
          have absent : r.lookup k = none :=
            List.lookup_eq_none_iff.2 fun x hx => by
              simpa using fun same : k = x.1 => once (List.mem_map.2 ⟨x, hx, same.symm⟩)
          simp [absent]
        · simp [same, beq_false_of_ne (Ne.symm same)]
  calc (ofList l).get? name = (l.lookup name).or (empty.get? name) := inserted l empty distinct
    _ = l.lookup name := by rw [get?_empty, Option.or_none]

theorem ofList_of_perm {m : Keyed α} {l : List (String × α)} (order : l.Perm m.entries) :
    ofList l = m := by
  have names : (m.entries.map (·.1)).Nodup := by
    refine List.pairwise_map.2 (m.sorted.imp ?_)
    intro e e' lt same
    rw [same] at lt
    exact String.lt_irrefl _ lt
  have distinct : (l.map (·.1)).Nodup := (order.map _).nodup_iff.2 names
  refine ext_get? fun name => ?_
  rw [get?_ofList distinct]
  cases found : l.lookup name with
  | none =>
      cases held : m.get? name with
      | none => rfl
      | some v =>
          have among := order.mem_iff.2 (mem_entries_iff.2 held)
          have absent := List.lookup_eq_none_iff.1 found _ among
          simp at absent
  | some v =>
      obtain ⟨l₁, l₂, parts, -⟩ := List.lookup_eq_some_iff.1 found
      exact (get?_of_mem (order.mem_iff.1 (by simp [parts]))).symm

theorem get?_mapValues {β : Type} (f : α → β) (m : Keyed α) (name : String) :
    (m.mapValues f).get? name = (m.get? name).map f := by
  simp only [get?, mapValues]
  induction m.entries with
  | nil => rfl
  | cons e r ih =>
      obtain ⟨k, v⟩ := e
      rw [List.map_cons, List.lookup_cons, List.lookup_cons, ih]
      cases name == k <;> rfl

end Keyed

theorem Names.ext_has {m n : Names} (h : ∀ name, m.has name = n.has name) : m = n := by
  refine Keyed.ext_get? fun name => ?_
  have same := h name
  rw [has, has, Keyed.contains, Keyed.contains] at same
  cases hm : m.get? name <;> cases hn : n.get? name <;> simp_all

end PageAid
