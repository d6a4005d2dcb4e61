import PageAid.Proofs.Page.Located

/-!
The first element in document order. An element stands before another one if its path is the lesser
one: before what stands below it, and, of two siblings, the earlier one with all that stands below
it before the later one. The searches of a page find the first element that satisfies what they
ask for (`find?_descendants_eq_some_iff`), and they agree on which element that is.
-/

namespace PageAid.Element

/-- Of the elements below this one that satisfy a predicate, the first one, which stands at a
path. -/
structure First (e : Element) (P : Element → Prop) (p : Path) (x : Element) : Prop where
  ne_nil : p ≠ []
  at?_eq : e.at? p = some x
  holds : P x
  before : ∀ q < p, q ≠ [] → ∀ y, e.at? q = some y → ¬ P y

variable {e x : Element} {p : Path} {P Q : Element → Prop} {f : Element → Bool}

theorem First.congr (h : ∀ y, P y ↔ Q y) : e.First P p x ↔ e.First Q p x := by
  rw [show P = Q from funext fun y => propext (h y)]

theorem First.unique {x' : Element} {p' : Path} (h : e.First P p x) (h' : e.First P p' x') :
    p = p' ∧ x = x' := by
  have same : p = p' := by
    refine List.le_antisymm (List.not_lt.1 fun lt => ?_) (List.not_lt.1 fun lt => ?_)
    · exact h.before p' lt h'.ne_nil x' h'.at?_eq h'.holds
    · exact h'.before p lt h.ne_nil x h.at?_eq h.holds
  subst same
  exact ⟨rfl, Option.some.inj (h.at?_eq.symm.trans h'.at?_eq)⟩

/-! ### Searching -/

theorem map_snd_locatedFrom {cs : List Element}
    (h : ∀ c ∈ cs, c.located.map (·.2) = c.descendants) (k : Nat) :
    (locatedFrom k cs).map (·.2) = descendantsIn cs := by
  induction cs generalizing k with
  | nil => rfl
  | cons c r ih =>
      rw [locatedFrom_cons, descendantsIn_cons, List.map_append, List.map_cons, List.map_map,
        ih (fun x hx => h x (List.mem_cons_of_mem _ hx)), ← h c List.mem_cons_self]
      rfl

theorem map_snd_located (e : Element) : e.located.map (·.2) = e.descendants := by
  induction e using induction_on_children with
  | node m cs ih => exact map_snd_locatedFrom ih 0

theorem mem_descendants_iff_at? : x ∈ e.descendants ↔ ∃ p, p ≠ [] ∧ e.at? p = some x := by
  rw [← map_snd_located, List.mem_map]
  constructor
  · rintro ⟨⟨p, y⟩, mem, rfl⟩
    exact ⟨p, mem_located_iff.1 mem⟩
  · rintro ⟨p, h⟩
    exact ⟨(p, x), mem_located_iff.2 h, rfl⟩

theorem mem_cons_descendants_iff {e x : Element} :
    x ∈ e :: e.descendants ↔ ∃ p, e.at? p = some x := by
  rw [List.mem_cons, mem_descendants_iff_at?]
  constructor
  · rintro (rfl | ⟨p, -, hp⟩)
    · exact ⟨[], rfl⟩
    · exact ⟨p, hp⟩
  · rintro ⟨p, hp⟩
    by_cases root : p = []
    · subst root
      exact .inl (Option.some.inj hp).symm
    · exact .inr ⟨p, root, hp⟩

theorem First.mem_descendants (h : e.First P p x) : x ∈ e.descendants :=
  mem_descendants_iff_at?.2 ⟨p, h.ne_nil, h.at?_eq⟩

theorem find?_located_eq_some_iff :
    e.located.find? (f ·.2) = some (p, x) ↔ e.First (fun y => f y) p x := by
  have ascending := pairwise_located e
  rw [List.find?_eq_some_iff_append]
  constructor
  · rintro ⟨holds, before, after, parts, others⟩
    obtain ⟨ne_nil, here⟩ := mem_located_iff.1
      (parts ▸ List.mem_append_right before List.mem_cons_self : (p, x) ∈ e.located)
    refine ⟨ne_nil, here, holds, fun q lt hq y hy holds => ?_⟩
    rw [parts, List.map_append, List.map_cons, List.pairwise_append,
      List.pairwise_cons] at ascending
    have mem := mem_located_iff.2 ⟨hq, hy⟩
    rw [parts, List.mem_append, List.mem_cons] at mem
    rcases mem with mem | same | mem
    · simpa [holds] using others (q, y) mem
    · obtain ⟨rfl, -⟩ := Prod.mk.inj same
      exact List.lt_irrefl q lt
    · exact List.lt_asymm lt (ascending.2.1.1 q (List.mem_map_of_mem mem))
  · rintro ⟨ne_nil, here, holds, others⟩
    obtain ⟨before, after, parts⟩ := List.append_of_mem (mem_located_iff.2 ⟨ne_nil, here⟩)
    refine ⟨holds, before, after, parts, fun l hl => ?_⟩
    obtain ⟨q, y⟩ := l
    rw [parts, List.map_append, List.map_cons, List.pairwise_append] at ascending
    have lt : q < p := ascending.2.2 q (List.mem_map_of_mem hl) p List.mem_cons_self
    obtain ⟨hq, hy⟩ := mem_located_iff.1
      (parts ▸ List.mem_append_left _ hl : (q, y) ∈ e.located)
    simpa using others q lt hq y hy

/-- A search among the elements below finds the first one. -/
theorem find?_descendants_eq_some_iff :
    e.descendants.find? f = some x ↔ ∃ p, e.First (fun y => f y) p x := by
  rw [← map_snd_located, List.find?_map]
  constructor
  · intro h
    obtain ⟨⟨p, y⟩, found, rfl⟩ := Option.map_eq_some_iff.1 h
    exact ⟨p, find?_located_eq_some_iff.1 found⟩
  · rintro ⟨p, first⟩
    have found : e.located.find? (f ∘ (·.2)) = some (p, x) := find?_located_eq_some_iff.2 first
    rw [found, Option.map_some]

theorem query_eq_some_iff {group : List Selector} :
    e.query group = some x ↔ ∃ p, e.First (fun y => y.fits group) p x :=
  find?_descendants_eq_some_iff

theorem findId_eq_some_iff {id : String} :
    e.findId id = some x ↔ ∃ p, e.First (fun y => y.hasId id) p x :=
  find?_descendants_eq_some_iff

theorem queryPath_eq_some_iff {group : List Selector} :
    e.queryPath group = some p ↔ ∃ x, e.First (fun y => y.fits group) p x := by
  rw [queryPath, Option.map_eq_some_iff]
  constructor
  · rintro ⟨⟨q, x⟩, found, rfl⟩
    exact ⟨x, find?_located_eq_some_iff.1 found⟩
  · rintro ⟨x, first⟩
    exact ⟨(p, x), find?_located_eq_some_iff.2 first, rfl⟩

theorem queryPath_eq_none_iff {group : List Selector} :
    e.queryPath group = none ↔ ∀ x ∈ e.descendants, ¬ x.fits group := by
  rw [queryPath, Option.map_eq_none_iff, List.find?_eq_none, ← map_snd_located,
    List.forall_mem_map]

/-- The only element that carries an identifier is the first one below that does. -/
theorem first_of_bearers_eq_one {id : String} (sole : e.bearers id = 1) (ne_nil : p ≠ [])
    (here : e.at? p = some x) (hid : x.hasId id) : e.First (fun y => y.hasId id) p x := by
  have mem : (p, x) ∈ e.located.filter (·.2.hasId id) :=
    List.mem_filter.2 ⟨mem_located_iff.2 ⟨ne_nil, here⟩, hid⟩
  have length : (e.located.filter (·.2.hasId id)).length = e.countId id := by
    rw [← List.countP_eq_length_filter, countId, ← map_snd_located, List.countP_map]
    rfl
  have once : e.countId id = 1 := by
    have some_below := List.length_pos_of_mem mem
    rw [bearers_eq] at sole
    omega
  obtain ⟨l, only⟩ := List.length_eq_one_iff.1 (length.trans once)
  obtain rfl : (p, x) = l := by simpa [only] using mem
  rw [← find?_located_eq_some_iff, ← List.head?_filter, only, List.head?_cons]

end PageAid.Element
