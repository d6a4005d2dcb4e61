import PageAid.Proofs.Page.First

/-!
The ways through a tree. A walk that takes one path along, putting steps at its end and taking them
off again, visits the elements below in the order of the list of them, each with the path at which
it is found (`walk_eq`); and the search for a path comes to the element that the search for an
element comes to (`walk_agrees`).
-/

namespace PageAid.Element

section

variable {σ : Type} (visit : Element → Path → σ → σ)

theorem walk_node (m : Markup) (cs : List Element) (reached : Path × σ) :
    (node m cs).walk visit reached = walkIn visit 0 cs reached := rfl

theorem walkIn_cons (position : Nat) (e : Element) (r : List Element) (p : Path) (s : σ) :
    walkIn visit position (e :: r) (p, s) =
      let below := e.walk visit (p ++ [position], visit e (p ++ [position]) s)
      walkIn visit (position + 1) r (below.1.dropLast, below.2) := rfl

def visitAll (p : Path) (s : σ) (l : List (Path × Element)) : σ :=
  l.foldl (fun s x => visit x.2 (p ++ x.1) s) s

theorem visitAll_cons (p : Path) (s : σ) (x : Path × Element) (l : List (Path × Element)) :
    visitAll visit p s (x :: l) = visitAll visit p (visit x.2 (p ++ x.1) s) l := rfl

theorem visitAll_append (p : Path) (s : σ) (l l' : List (Path × Element)) :
    visitAll visit p s (l ++ l') = visitAll visit p (visitAll visit p s l) l' :=
  List.foldl_append

theorem visitAll_map_cons (p : Path) (position : Nat) (s : σ) (l : List (Path × Element)) :
    visitAll visit p s (l.map fun x => (position :: x.1, x.2)) =
      visitAll visit (p ++ [position]) s l := by
  rw [visitAll, List.foldl_map, visitAll]
  simp only [List.append_assoc, List.singleton_append]

theorem walkIn_eq {cs : List Element}
    (h : ∀ c ∈ cs, ∀ p s, c.walk visit (p, s) = (p, visitAll visit p s c.located))
    (position : Nat) (p : Path) (s : σ) :
    walkIn visit position cs (p, s) = (p, visitAll visit p s (locatedFrom position cs)) := by
  induction cs generalizing position s with
  | nil => rfl
  | cons c r ih =>
      -- the step that was put at the end before the child is taken off after it
      rw [walkIn_cons, h c List.mem_cons_self]
      dsimp only
      rw [List.dropLast_concat, ih fun x hx => h x (List.mem_cons_of_mem _ hx), locatedFrom_cons,
        List.cons_append, visitAll_cons, visitAll_append, visitAll_map_cons]

/-- A walk visits the elements below in document order, each with its path from where the walk
started, and ends with the path that it was given. -/
theorem walk_eq (e : Element) (p : Path) (s : σ) :
    e.walk visit (p, s) = (p, visitAll visit p s e.located) := by
  induction e using induction_on_children generalizing p s with
  | node m cs ih => rw [walk_node, walkIn_eq visit ih, located_eq, children_node]

end

/-! ### Searching on a walk -/

/-- What a search for a group on a walk has found after one more visit: the path of the first
element that fits. -/
def keepFirst (group : List Selector) (x : Element) (p : Path) (found : Option Path) :
    Option Path :=
  if found.isNone && x.fits group then some p else found

theorem visitAll_keepFirst (group : List Selector) (l : List (Path × Element))
    (found : Option Path) :
    visitAll (keepFirst group) [] found l =
      found.or ((l.find? (·.2.fits group)).map (·.1)) := by
  induction l generalizing found with
  | nil => simp [visitAll]
  | cons x l ih =>
      rw [visitAll_cons, ih, keepFirst, List.find?_cons]
      cases found <;> cases x.2.fits group <;> rfl

theorem bind_at?_queryPath (e : Element) (group : List Selector) :
    (e.queryPath group).bind (e.at? ·) = e.query group := by
  rw [queryPath, query, ← map_snd_located, List.find?_map]
  simp only [Function.comp_def]
  cases found : e.located.find? (·.2.fits group) with
  | none => rfl
  | some l => exact (mem_located_iff.1 (List.mem_of_find?_eq_some found)).2

/-- A walk that starts with no path behind it visits exactly the elements below, in document order,
and leaves no path behind it either. Each element comes with a path that leads to it; no path comes
twice; and every path that leads below comes. A search for a group that keeps the path of the first
visit that fits finds a path just when a search in the list of the elements finds one of them, and
then the path leads to this one. -/
theorem walk_agrees (e : Element) :
    (∀ {σ : Type} (visit : Element → Path → σ → σ) (s : σ),
      e.walk visit ([], s) = ([], e.located.foldl (fun s l => visit l.2 l.1 s) s)) ∧
    e.located.map (·.2) = e.descendants ∧
    (e.located.map (·.1)).Nodup ∧
    (∀ p x, (p, x) ∈ e.located ↔ p ≠ [] ∧ e.at? p = some x) ∧
    ∀ group, (e.walk (keepFirst group) ([], none)).2 = e.queryPath group ∧
      (e.queryPath group = none ↔ e.query group = none) ∧
      (e.queryPath group).bind (e.at? ·) = e.query group := by
  refine ⟨fun visit s => walk_eq visit e [] s, map_snd_located e, nodup_located e,
    fun p x => mem_located_iff, fun group => ⟨?_, ?_, bind_at?_queryPath e group⟩⟩
  · rw [walk_eq, visitAll_keepFirst, Option.none_or, queryPath]
  · rw [queryPath_eq_none_iff, query, List.find?_eq_none]

end PageAid.Element
