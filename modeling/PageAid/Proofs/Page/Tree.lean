import PageAid.Page.Document

/-!
The tree of elements as far as the properties of whole runs need it: how many elements carry an
identifier, which markup stands at a path, and what a change at a path or at an identifier does to
both.
-/

namespace PageAid

theorem Markup.setClass_eq (m : Markup) (name : String) (on : Bool) :
    m.setClass name on = { m with classes := (m.setClass name on).classes } := by
  rw [setClass]
  split
  · split <;> rfl
  · rfl

@[simp] theorem Markup.hasId_setClass (m : Markup) (name : String) (on : Bool) (id : String) :
    (m.setClass name on).hasId id = m.hasId id := by
  rw [setClass_eq]
  rfl

namespace Element

/-! ### Elements and their children -/

/-- Induction on elements with one hypothesis for all children. -/
theorem induction_on_children {P : Element → Prop}
    (node : ∀ m cs, (∀ c ∈ cs, P c) → P (node m cs)) (e : Element) : P e := by
  refine @Element.rec P (fun cs => ∀ c ∈ cs, P c) ?_ ?_ ?_ e
  · exact fun m cs ih => node m cs ih
  · simp
  · intro c r hc hr x hx
    rcases List.mem_cons.1 hx with rfl | hx
    · exact hc
    · exact hr x hx

@[simp] theorem markup_node (m : Markup) (cs : List Element) : (node m cs).markup = m := rfl
@[simp] theorem children_node (m : Markup) (cs : List Element) : (node m cs).children = cs := rfl

@[simp] theorem markup_mapMarkup (e : Element) (f : Markup → Markup) :
    (e.mapMarkup f).markup = f e.markup := by cases e; rfl

@[simp] theorem children_mapMarkup (e : Element) (f : Markup → Markup) :
    (e.mapMarkup f).children = e.children := by cases e; rfl

@[simp] theorem markup_withChildren (e : Element) (cs : List Element) :
    (e.withChildren cs).markup = e.markup := by cases e; rfl

@[simp] theorem children_withChildren (e : Element) (cs : List Element) :
    (e.withChildren cs).children = cs := by cases e; rfl

@[simp] theorem markup_withChild (e c : Element) : (e.withChild c).markup = e.markup :=
  markup_withChildren _ _

@[simp] theorem children_withChild (e c : Element) :
    (e.withChild c).children = e.children ++ [c] := children_withChildren _ _

@[simp] theorem markup_prepended (e c : Element) : (e.prepended c).markup = e.markup :=
  markup_withChildren _ _

@[simp] theorem children_prepended (e c : Element) :
    (e.prepended c).children = c :: e.children := children_withChildren _ _

/-! ### Descendants and identifiers -/

theorem descendants_eq (e : Element) : e.descendants = descendantsIn e.children := by
  cases e; rfl

@[simp] theorem descendantsIn_nil : descendantsIn [] = [] := rfl

@[simp] theorem descendantsIn_cons (e : Element) (r : List Element) :
    descendantsIn (e :: r) = e :: (e.descendants ++ descendantsIn r) := rfl

@[simp] theorem descendantsIn_append (a b : List Element) :
    descendantsIn (a ++ b) = descendantsIn a ++ descendantsIn b := by
  induction a with
  | nil => rfl
  | cons e r ih => simp [ih]

@[simp] theorem descendants_mapMarkup (e : Element) (f : Markup → Markup) :
    (e.mapMarkup f).descendants = e.descendants := by
  rw [descendants_eq, children_mapMarkup, ← descendants_eq]

theorem sublist_descendantsIn {e : Element} {cs : List Element} (h : e ∈ cs) :
    (e :: e.descendants).Sublist (descendantsIn cs) := by
  obtain ⟨a, b, rfl⟩ := List.append_of_mem h
  rw [descendantsIn_append, descendantsIn_cons]
  exact (((List.sublist_append_left _ _).cons_cons e)).trans (List.sublist_append_right _ _)

theorem mem_descendants_iff {x e : Element} :
    x ∈ e.descendants ↔ ∃ c ∈ e.children, x = c ∨ x ∈ c.descendants := by
  rw [descendants_eq]
  induction e.children with
  | nil => simp
  | cons c r ih => simp [ih, or_assoc]

theorem descendants_sublist {x e : Element} (h : x ∈ e.descendants) :
    x.descendants.Sublist e.descendants := by
  induction e using induction_on_children with
  | node m cs ih =>
      obtain ⟨c, hc, rfl | hx⟩ := mem_descendants_iff.1 h
      · exact (List.sublist_cons_self _ _).trans (sublist_descendantsIn hc)
      · have below : c.descendants.Sublist (descendantsIn cs) :=
          (List.sublist_cons_self _ _).trans (sublist_descendantsIn hc)
        exact (ih c hc hx).trans below

/-- How many elements carry an identifier, the element itself among them. -/
def bearers (e : Element) (id : String) : Nat := (e :: e.descendants).countP (·.hasId id)

def bearersIn (cs : List Element) (id : String) : Nat := (descendantsIn cs).countP (·.hasId id)

theorem countId_eq_bearersIn (e : Element) (id : String) :
    e.countId id = bearersIn e.children id := by
  rw [countId, bearersIn, descendants_eq]

theorem bearers_eq (e : Element) (id : String) :
    e.bearers id = e.countId id + if e.hasId id then 1 else 0 := by
  rw [bearers, countId, List.countP_cons]

@[simp] theorem bearersIn_nil (id : String) : bearersIn [] id = 0 := rfl

@[simp] theorem bearersIn_cons (e : Element) (r : List Element) (id : String) :
    bearersIn (e :: r) id = e.bearers id + bearersIn r id := by
  rw [bearersIn, bearersIn, bearers, descendantsIn_cons, ← List.cons_append, List.countP_append]

@[simp] theorem bearersIn_append (a b : List Element) (id : String) :
    bearersIn (a ++ b) id = bearersIn a id + bearersIn b id := by
  rw [bearersIn, bearersIn, bearersIn, descendantsIn_append, List.countP_append]

@[simp] theorem countId_mapMarkup (e : Element) (f : Markup → Markup) (id : String) :
    (e.mapMarkup f).countId id = e.countId id := by
  rw [countId, countId, descendants_mapMarkup]

/-- The identifiers that the element and those below it carry, in document order. -/
def ids (e : Element) : List String := (e :: e.descendants).filterMap id

theorem mem_ids {x e : Element} {id : String} (below : x ∈ e.descendants) (h : x.id = some id) :
    id ∈ e.ids :=
  List.mem_filterMap.2 ⟨x, List.mem_cons_of_mem e below, h⟩

theorem count_ids (e : Element) (id : String) : e.ids.count id = e.bearers id := by
  rw [ids, List.count_filterMap]
  rfl

theorem countId_withChild (e c : Element) (id : String) :
    (e.withChild c).countId id = e.countId id + c.bearers id := by
  simp [countId_eq_bearersIn]

theorem bearers_withChild (e c : Element) (id : String) :
    (e.withChild c).bearers id = e.bearers id + c.bearers id := by
  rw [bearers_eq, bearers_eq, countId_withChild, hasId, markup_withChild, ← hasId]
  omega

theorem countId_prepended (e c : Element) (id : String) :
    (e.prepended c).countId id = e.countId id + c.bearers id := by
  simp [countId_eq_bearersIn, Nat.add_comm]

theorem bearers_prepended (e c : Element) (id : String) :
    (e.prepended c).bearers id = e.bearers id + c.bearers id := by
  rw [bearers_eq, bearers_eq, countId_prepended, hasId, markup_prepended, ← hasId]
  omega

theorem countId_le_of_mem {x e : Element} (h : x ∈ e.descendants) (id : String) :
    x.countId id ≤ e.countId id :=
  (descendants_sublist h).countP_le

theorem countId_eq_zero_iff {e : Element} {id : String} :
    e.countId id = 0 ↔ ∀ x ∈ e.descendants, x.hasId id = false := by
  simp [countId, List.countP_eq_zero]

theorem isSome_findId_iff {e : Element} {id : String} :
    (e.findId id).isSome ↔ 0 < e.countId id := by
  simp [findId, countId, List.countP_pos_iff]

theorem countP_children_le (e : Element) (id : String) :
    e.children.countP (·.hasId id) ≤ e.countId id := by
  rw [countId_eq_bearersIn]
  induction e.children with
  | nil => simp
  | cons c r ih =>
      rw [List.countP_cons, bearersIn_cons, bearers_eq]
      omega

end Element

end PageAid
