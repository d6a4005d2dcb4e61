import PageAid.Proofs.Page.Removal

/-!
What a removal leaves of a tree: one child of one element goes, with what stands below it, and all
else keeps its place and its markup (`removeId_erases_child`). If nothing below the root carries the
identifier, nothing goes.
-/

namespace PageAid

/-- Paths that do not lead to the parent of what is taken out, or past it, stay. -/
theorem Path.without_of_not_prefix {q p : Path} (h : ¬ q <+: p) (i : Nat) :
    Path.without (q ++ [i]) p = some p := by
  induction q generalizing p with
  | nil => exact absurd List.nil_prefix h
  | cons j q ih =>
      cases p with
      | nil => cases q <;> rfl
      | cons k p =>
          rw [List.cons_append]
          cases hq : q ++ [i] with
          | nil => simp at hq
          | cons l r =>
              rw [Path.without]
              by_cases same : k = j
              · subst same
                have below : ¬ q <+: p := fun hp => h (List.cons_prefix_cons.2 ⟨rfl, hp⟩)
                rw [if_pos rfl, ← hq, ih below, Option.map_some]
              · rw [if_neg same]

namespace Element

variable {e x parent : Element} {q p : Path} {id : String}

theorem at?_cons_of_getElem? {c : Element} {i : Nat} (hc : e.children[i]? = some c) (p : Path) :
    e.at? (i :: p) = c.at? p := by
  rw [at?_cons, hc, Option.bind_some]

theorem at?_append (e : Element) (p q : Path) : e.at? (p ++ q) = (e.at? p).bind (at? q) := by
  induction p generalizing e with
  | nil => rfl
  | cons i p ih =>
      rw [List.cons_append, at?_cons, at?_cons, Option.bind_assoc]
      exact Option.bind_congr fun c _ => ih c

theorem outPath?_eq_none_iff : outPath? id e = none ↔ e.countId id = 0 := by
  refine ⟨countId_eq_zero_of_outPath?, fun zero => ?_⟩
  cases hp : outPath? id e with
  | none => rfl
  | some p =>
      obtain ⟨x, hx, hid, hne⟩ := hasId_of_outPath? hp
      have one := countId_eraseAt hne hx id
      rw [bearers_eq, if_pos hid] at one
      omega

theorem eraseAt_cons_append {c : Element} {j : Nat} (hc : e.children[j]? = some c) (q : Path)
    (i : Nat) : e.eraseAt (j :: q ++ [i]) =
      e.withChildren (e.children.set j (c.eraseAt (q ++ [i]))) :=
  eraseAt_cons_cons hc (by simp)

theorem at?_eraseAt_parent (h : e.at? q = some parent) (i : Nat) :
    (e.eraseAt (q ++ [i])).at? q = some (parent.withChildren (parent.children.eraseIdx i)) := by
  induction q generalizing e with
  | nil =>
      obtain rfl := Option.some.inj h
      rfl
  | cons j q ih =>
      obtain ⟨c, hc, below⟩ := Option.bind_eq_some_iff.1 h
      obtain ⟨lt, -⟩ := List.getElem?_eq_some_iff.1 hc
      rw [eraseAt_cons_append hc, at?_cons, children_withChildren, List.getElem?_set_self lt]
      exact ih below

theorem markupAt?_eraseAt_of_not_prefix (h : ¬ q <+: p) (e : Element) (i : Nat) :
    (e.eraseAt (q ++ [i])).markupAt? p = e.markupAt? p :=
  markupAt?_eraseAt (Path.without_of_not_prefix h i) e

/-- In document order, what is taken out and what stands below it are consecutive, and the rest is
what is left. -/
theorem markup_descendants_eraseAt (hp : p ≠ []) (hx : e.at? p = some x) :
    ∃ before after,
      e.descendants.map markup = before ++ (x :: x.descendants).map markup ++ after ∧
      (e.eraseAt p).descendants.map markup = before ++ after := by
  induction p generalizing e with
  | nil => exact absurd rfl hp
  | cons i p ih =>
      obtain ⟨c, hc, below⟩ := Option.bind_eq_some_iff.1 hx
      obtain ⟨lt, rfl⟩ := List.getElem?_eq_some_iff.1 hc
      have split : e.children = e.children.take i ++ e.children[i] :: e.children.drop (i + 1) := by
        rw [← List.drop_eq_getElem_cons lt, List.take_append_drop]
      have old : e.descendants = descendantsIn (e.children.take i) ++
          (e.children[i] :: (e.children[i].descendants ++
            descendantsIn (e.children.drop (i + 1)))) := by
        rw [descendants_eq, ← descendantsIn_cons, ← descendantsIn_append, ← split]
      by_cases here : p = []
      · subst here
        obtain rfl := Option.some.inj below
        refine ⟨(descendantsIn (e.children.take i)).map markup,
          (descendantsIn (e.children.drop (i + 1))).map markup, by simp [old], ?_⟩
        rw [eraseAt, descendants_eq, children_withChildren, List.eraseIdx_eq_take_drop_succ,
          descendantsIn_append, List.map_append]
      · obtain ⟨before, after, whole, rest⟩ := ih here below
        refine ⟨(descendantsIn (e.children.take i)).map markup ++ e.children[i].markup :: before,
          after ++ (descendantsIn (e.children.drop (i + 1))).map markup, by simp [old, whole], ?_⟩
        rw [eraseAt_cons_cons hc here, descendants_eq, children_withChildren,
          List.set_eq_take_append_cons_drop, if_pos lt, descendantsIn_append, descendantsIn_cons]
        simp [rest]

/-- A removal either finds nothing with the identifier below the root and leaves the tree as it is,
or takes out one child `x` of one element, the one at the path `q`, where `x` carries the
identifier. That element loses this child and is otherwise as it was, with its other children in
their order; at every path that does not lead to it or past it the markup stays; and the markups of
all elements below the root, in document order, are those of the new tree with those of `x` and of
what stands below it put in at one place. -/
theorem removeId_erases_child (e : Element) (id : String) :
    ((∀ x ∈ e.descendants, x.hasId id = false) ∧ e.removeId id = (none, e)) ∨
      ∃ q parent i x e', e.removeId id = (some x, e') ∧ x.hasId id ∧
        e.at? q = some parent ∧ parent.children[i]? = some x ∧
        e'.at? q = some (parent.withChildren (parent.children.eraseIdx i)) ∧
        (∀ p, ¬ q <+: p → e'.markupAt? p = e.markupAt? p) ∧
        ∃ before after,
          e.descendants.map markup = before ++ (x :: x.descendants).map markup ++ after ∧
          e'.descendants.map markup = before ++ after := by
  rw [removeId_eq]
  cases hp : outPath? id e with
  | none => exact .inl ⟨countId_eq_zero_iff.1 (outPath?_eq_none_iff.1 hp), rfl⟩
  | some p =>
      obtain ⟨x, hx, hid, hne⟩ := hasId_of_outPath? hp
      obtain ⟨q, i, rfl⟩ : ∃ q i, p = q ++ [i] :=
        ⟨p.dropLast, p.getLast hne, (List.dropLast_concat_getLast hne).symm⟩
      have steps := hx
      rw [at?_append] at steps
      obtain ⟨parent, hparent, hchild⟩ := Option.bind_eq_some_iff.1 steps
      have child : parent.children[i]? = some x := by
        simpa [at?_cons, Option.bind_eq_some_iff] using hchild
      refine .inr ⟨q, parent, i, x, e.eraseAt (q ++ [i]), ?_, hid, hparent, child,
        at?_eraseAt_parent hparent i, fun p h => markupAt?_eraseAt_of_not_prefix h e i,
        markup_descendants_eraseAt hne hx⟩
      dsimp only
      rw [hx]

end Element

end PageAid
