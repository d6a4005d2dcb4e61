import PageAid.Proofs.Page.Erasure
import PageAid.Proofs.Page.First

/-!
Which element a removal takes. Look-up comes to the first element in document order that carries the
identifier. A removal goes down the same way, but asks all children of an element before it looks
below any of them (`exists_met`). So the two come to the same element just when no child of an
element above its parent carries the identifier (`removeId_eq_first_iff`).
-/

namespace PageAid.Element

/-- A child of an element above the parent of what the path leads to carries the identifier. -/
def Overtaken (e : Element) (id : String) (p : Path) : Prop :=
  ∃ a i x, a <+: p ∧ a.length + 1 < p.length ∧ e.at? (a ++ [i]) = some x ∧ x.hasId id

/-- On the way down the path `p`, the topmost element that has a child with the identifier stands at
`above`, and `y` is the first such child, the one at `position`. -/
structure Met (e : Element) (id : String) (p above : Path) (position : Nat) (y : Element) :
    Prop where
  onTheWay : above <+: p
  short : above.length < p.length
  at?_eq : e.at? (above ++ [position]) = some y
  hasId : y.hasId id
  none_before : ∀ a i z, a <+: above → a ≠ above ∨ i < position →
    e.at? (a ++ [i]) = some z → ¬ z.hasId id

variable {e c x y : Element} {id : String} {p above : Path} {i position : Nat}
  {P : Element → Prop}

/-! ### The first element and its ancestors -/

theorem First.before_sibling (first : e.First P (i :: p) x) {j : Nat} (lt : j < i)
    (hc : e.children[j]? = some c) : ¬ P c ∧ ∀ y ∈ c.descendants, ¬ P y := by
  have sooner : ∀ q : Path, j :: q < i :: p := fun q => List.cons_lt_cons_iff.2 (.inl lt)
  refine ⟨first.before [j] (sooner []) (by simp) c (at?_cons_of_getElem? hc []),
    fun y hy => ?_⟩
  obtain ⟨q, -, hq⟩ := mem_descendants_iff_at?.1 hy
  exact first.before (j :: q) (sooner q) (by simp) y ((at?_cons_of_getElem? hc q).trans hq)

theorem First.below (first : e.First P (i :: p) x) (hc : e.children[i]? = some c)
    (hp : p ≠ []) : c.First P p x := by
  have at?_below := at?_cons_of_getElem? hc
  refine ⟨hp, (at?_below p).symm.trans first.at?_eq, first.holds, fun q lt _ y hy => ?_⟩
  exact first.before (i :: q) (List.cons_lt_cons_iff.2 (.inr ⟨rfl, lt⟩)) (by simp) y
    ((at?_below q).trans hy)

/-! ### One step of a removal -/

theorem removeId_of_child (hi : e.children.findIdx? (·.hasId id) = some i) :
    e.removeId id = (e.children[i]?, e.eraseAt [i]) := by
  cases e with
  | node m cs =>
      rw [children_node] at hi
      rw [removeId, hi]
      rfl

theorem removeIdBelow_of_getElem? {cs : List Element} (hc : cs[i]? = some c)
    (found : ∃ y c', c.removeId id = (some y, c'))
    (before : ∀ j < i, ∀ z, cs[j]? = some z → (z.removeId id).1 = none) :
    removeIdBelow id cs = ((c.removeId id).1, cs.set i (c.removeId id).2) := by
  induction cs generalizing i with
  | nil => simp at hc
  | cons d r ih =>
      rw [removeIdBelow]
      cases i with
      | zero =>
          obtain rfl : d = c := by simpa using hc
          obtain ⟨y, c', h⟩ := found
          simp [h]
      | succ i =>
          have none := before 0 (Nat.succ_pos i) d rfl
          have further := ih (by simpa using hc) fun j lt z hz =>
            before (j + 1) (Nat.succ_lt_succ lt) z (by simpa using hz)
          simp [removeId_of_fst_eq_none none, further]

theorem removeId_of_below (none_here : ∀ z ∈ e.children, ¬ z.hasId id)
    (hc : e.children[i]? = some c) (found : ∃ y c', c.removeId id = (some y, c'))
    (before : ∀ j < i, ∀ z, e.children[j]? = some z → (z.removeId id).1 = none) :
    e.removeId id = ((c.removeId id).1, e.withChildren (e.children.set i (c.removeId id).2)) := by
  cases e with
  | node m cs =>
      have none : cs.findIdx? (·.hasId id) = none :=
        List.findIdx?_eq_none_iff.2 fun z hz => by simpa using none_here z hz
      rw [children_node] at hc before
      rw [removeId, none, removeIdBelow_of_getElem? hc found before]
      rfl

theorem removeId_of_absent (h : ∀ y ∈ e.descendants, ¬ y.hasId id) :
    e.removeId id = (none, e) := by
  have zero : e.countId id = 0 := countId_eq_zero_iff.2 fun y hy => by simpa using h y hy
  rw [removeId_eq, outPath?_eq_none_iff.2 zero]

/-! ### The whole way -/

theorem Met.cons (h : c.Met id p above position y) (hc : e.children[i]? = some c)
    (none_here : ∀ z ∈ e.children, ¬ z.hasId id) :
    e.Met id (i :: p) (i :: above) position y where
  onTheWay := List.cons_prefix_cons.2 ⟨rfl, h.onTheWay⟩
  short := Nat.succ_lt_succ h.short
  at?_eq := by
    rw [List.cons_append, at?_cons_of_getElem? hc]
    exact h.at?_eq
  hasId := h.hasId
  none_before := by
    intro a j z ha other hz
    cases a with
    | nil =>
        rw [List.nil_append, at?_cons] at hz
        obtain ⟨d, hd, hz⟩ := Option.bind_eq_some_iff.1 hz
        obtain rfl := Option.some.inj hz
        exact none_here d (List.mem_of_getElem? hd)
    | cons k a =>
        obtain ⟨rfl, within⟩ := List.cons_prefix_cons.1 ha
        rw [List.cons_append, at?_cons_of_getElem? hc] at hz
        exact h.none_before a j z within (by simpa using other) hz

/-- On the way down to the first element with the identifier, a removal takes the first child with
it of the topmost element that has such a child. What is left is not what would be left if the first
element in document order were taken, unless it is. -/
theorem exists_met (first : e.First (fun y => y.hasId id) p x) :
    ∃ above position y, e.Met id p above position y ∧
      e.removeId id = (some y, e.eraseAt (above ++ [position])) ∧
      (e.eraseAt (above ++ [position]) = e.eraseAt p → above ++ [position] = p) := by
  induction p generalizing e with
  | nil => exact absurd rfl first.ne_nil
  | cons i p ih =>
      obtain ⟨c, hc, below⟩ := Option.bind_eq_some_iff.1 first.at?_eq
      obtain ⟨lt, hi⟩ := List.getElem?_eq_some_iff.1 hc
      -- a child with the identifier is taken at once; otherwise the way goes on below one child
      cases hj : e.children.findIdx? (·.hasId id) with
      | some j =>
          obtain ⟨hlt, hid, earlier⟩ := List.findIdx?_eq_some_iff_getElem.1 hj
          have child : e.children[j]? = some e.children[j] := List.getElem?_eq_getElem hlt
          have here : e.at? [j] = some e.children[j] := at?_cons_of_getElem? child []
          refine ⟨[], j, e.children[j], ⟨List.nil_prefix, Nat.succ_pos _, here, hid, ?_⟩, ?_, ?_⟩
          · intro a k z ha other hz
            obtain rfl := List.prefix_nil.1 ha
            have before : k < j := by simpa using other
            have hz : e.children[k]? = some z := by
              simpa [at?_cons, Option.bind_eq_some_iff] using hz
            obtain ⟨hk, rfl⟩ := List.getElem?_eq_some_iff.1 hz
            simpa using earlier k before
          · rw [removeId_of_child hj, child]
            rfl
          · intro same
            cases p with
            | nil =>
                obtain rfl := Option.some.inj below
                have notLater : ¬ i < j := fun later =>
                  earlier i later (by rw [hi]; exact first.holds)
                have notEarlier : ¬ j < i := fun sooner => (first.before_sibling sooner child).1 hid
                rw [List.nil_append, Nat.le_antisymm (Nat.not_lt.1 notLater)
                  (Nat.not_lt.1 notEarlier)]
            | cons k p =>
                -- one loses a child and the other one does not
                have counted := congrArg (fun e => e.children.length) same
                rw [List.nil_append, eraseAt, eraseAt_cons_cons hc (by simp)] at counted
                simp only [children_withChildren, List.length_eraseIdx, List.length_set,
                  if_pos hlt] at counted
                omega
      | none =>
          have none_here : ∀ z ∈ e.children, ¬ z.hasId id := fun z hz => by
            simpa using List.findIdx?_eq_none_iff.1 hj z hz
          have hp : p ≠ [] := by
            rintro rfl
            obtain rfl := Option.some.inj below
            exact none_here c (List.mem_of_getElem? hc) first.holds
          obtain ⟨above, position, y, met, removed, unlike⟩ := ih (first.below hc hp)
          have step := removeId_of_below none_here hc ⟨y, _, removed⟩ fun j lt z hz => by
            rw [removeId_of_absent (first.before_sibling lt hz).2]
          refine ⟨i :: above, position, y, met.cons hc none_here, ?_, fun same => ?_⟩
          · rw [step, removed, eraseAt_cons_append hc]
          · rw [eraseAt_cons_append hc, eraseAt_cons_cons hc hp] at same
            have children := congrArg (fun e => e.children[i]?) same
            simp only [children_withChildren, List.getElem?_set_self lt,
              Option.some.injEq] at children
            rw [List.cons_append, unlike children]

theorem Met.eq_iff (met : e.Met id p above position y)
    (first : e.First (fun y => y.hasId id) p x) :
    above ++ [position] = p ↔ ¬ e.Overtaken id p := by
  constructor
  · rintro rfl ⟨a, i, z, ha, short, hz, hid⟩
    have length : a.length < above.length := by
      rw [List.length_append, List.length_singleton] at short
      omega
    have shorter : a <+: above :=
      List.prefix_of_prefix_length_le ha (List.prefix_append _ _) (Nat.le_of_lt length)
    exact met.none_before a i z shorter (.inl fun same => by simp [same] at length) hz hid
  · intro free
    obtain ⟨rest, rfl⟩ := met.onTheWay
    have one : rest.length = 1 := by
      have short := met.short
      have parent : ¬ above.length + 1 < (above ++ rest).length := fun longer =>
        free ⟨above, position, y, met.onTheWay, longer, met.at?_eq, met.hasId⟩
      rw [List.length_append] at short parent
      omega
    obtain ⟨k, rfl⟩ := List.length_eq_one_iff.1 one
    have notLater : ¬ k < position := fun sooner =>
      met.none_before above k x List.prefix_rfl (.inr sooner) first.at?_eq first.holds
    have notEarlier : ¬ position < k := fun sooner => by
      refine first.before (above ++ [position]) (List.append_left_lt ?_) (by simp) y met.at?_eq
        met.hasId
      exact List.cons_lt_cons_iff.2 (.inl sooner)
    rw [Nat.le_antisymm (Nat.not_lt.1 notLater) (Nat.not_lt.1 notEarlier)]

/-- A removal finds nothing just when look-up finds nothing, and then leaves the tree as it is.
Where look-up finds the first element `x` in document order, at the path `p`, the removal takes the
first child with the identifier of the topmost element on the way to `p` that has such a child. It
takes `x` from its place, and leaves what is then left, just when no child of an element above the
parent of `x` carries the identifier. -/
theorem removeId_eq_first_iff (e : Element) (id : String) :
    match e.findId id with
    | none => e.removeId id = (none, e)
    | some x => ∃ p, e.First (fun y => y.hasId id) p x ∧
        (∃ above position y, e.Met id p above position y ∧
          e.removeId id = (some y, e.eraseAt (above ++ [position]))) ∧
        (e.removeId id = (some x, e.eraseAt p) ↔ ¬ e.Overtaken id p) := by
  cases found : e.findId id with
  | none =>
      rw [findId, List.find?_eq_none] at found
      exact removeId_of_absent found
  | some x =>
      obtain ⟨p, first⟩ := findId_eq_some_iff.1 found
      obtain ⟨above, position, y, met, removed, unlike⟩ := exists_met first
      refine ⟨p, first, ⟨above, position, y, met, removed⟩, ?_⟩
      rw [← met.eq_iff first, removed]
      constructor
      · intro same
        exact unlike (Prod.mk.inj same).2
      · intro same
        have taken : some y = some x := by rw [← met.at?_eq, same, first.at?_eq]
        rw [taken, same]

/-- A note in a box, and after the box another note of the same name. -/
def twoNotes : Element :=
  node { tag := "body" }
    [node { tag := "div" } [node { tag := "p", id := some "note", text := "inner" } []],
      node { tag := "p", id := some "note", text := "outer" } []]

/-- Look-up finds the note in the box, and a removal takes the other one. -/
theorem removeId_ne_findId_of_twoNotes :
    (twoNotes.findId "note").map text = some "inner" ∧
      (twoNotes.removeId "note").1.map text = some "outer" ∧
      (twoNotes.removeId "note").1 ≠ twoNotes.findId "note" := by
  have found : (twoNotes.findId "note").map text = some "inner" := by decide
  have removed : (twoNotes.removeId "note").1.map text = some "outer" := by decide
  refine ⟨found, removed, fun same => ?_⟩
  rw [same, found] at removed
  exact absurd removed (by decide)

end PageAid.Element
