import PageAid.Proofs.Page.Removal

/-!
Sketches of a tree: elements with a hidden markup are left out with all that stands below them, and
of every other element only a part of the markup is kept. What a change leaves alone is said by a
sketch that is the same before and after it. The outline of a tree is the sketch in which every
text is empty.
-/

namespace PageAid.Element

mutual

/-- The tree without the elements whose markup is hidden, and with the markup that is shown of the
others. The element itself is never left out. -/
def sketch (hidden : Markup → Bool) (shown : Markup → Markup) : Element → Element
  | node m cs => node (shown m) (sketchIn hidden shown cs)

def sketchIn (hidden : Markup → Bool) (shown : Markup → Markup) : List Element → List Element
  | [] => []
  | e :: r =>
    if hidden e.markup then sketchIn hidden shown r
    else e.sketch hidden shown :: sketchIn hidden shown r

end

section

variable {hidden : Markup → Bool} {shown : Markup → Markup}

theorem sketch_eq (e : Element) :
    e.sketch hidden shown = node (shown e.markup) (sketchIn hidden shown e.children) := by
  cases e; rfl

@[simp] theorem sketchIn_nil : sketchIn hidden shown [] = [] := rfl

theorem sketchIn_cons (e : Element) (r : List Element) :
    sketchIn hidden shown (e :: r) =
      if hidden e.markup then sketchIn hidden shown r
      else e.sketch hidden shown :: sketchIn hidden shown r := rfl

@[simp] theorem sketchIn_append (a b : List Element) :
    sketchIn hidden shown (a ++ b) = sketchIn hidden shown a ++ sketchIn hidden shown b := by
  induction a with
  | nil => rfl
  | cons e r ih =>
      rw [List.cons_append, sketchIn_cons, sketchIn_cons, ih]
      split <;> rfl

/-! ### Additions and removals of hidden elements -/

theorem sketch_withChild {c : Element} (h : hidden c.markup) (e : Element) :
    (e.withChild c).sketch hidden shown = e.sketch hidden shown := by
  simp [sketch_eq, sketchIn_cons, h]

theorem sketch_prepended {c : Element} (h : hidden c.markup) (e : Element) :
    (e.prepended c).sketch hidden shown = e.sketch hidden shown := by
  simp [sketch_eq, sketchIn_cons, h]

theorem sketchIn_set {cs : List Element} {c c' : Element} {i : Nat} (hc : cs[i]? = some c)
    (same : hidden c'.markup = hidden c.markup)
    (h : hidden c.markup = false → c'.sketch hidden shown = c.sketch hidden shown) :
    sketchIn hidden shown (cs.set i c') = sketchIn hidden shown cs := by
  induction cs generalizing i with
  | nil => rfl
  | cons x r ih =>
      cases i with
      | zero =>
          obtain rfl : x = c := by simpa using hc
          rw [List.set_cons_zero, sketchIn_cons, sketchIn_cons, same]
          split
          · rfl
          · rename_i visible
            rw [h (by simpa using visible)]
      | succ i =>
          rw [List.set_cons_succ, sketchIn_cons, sketchIn_cons, ih (by simpa using hc)]

theorem sketchIn_eraseIdx {cs : List Element} {x : Element} {i : Nat} (hx : cs[i]? = some x)
    (h : hidden x.markup) :
    sketchIn hidden shown (cs.eraseIdx i) = sketchIn hidden shown cs := by
  induction cs generalizing i with
  | nil => rfl
  | cons c r ih =>
      cases i with
      | zero =>
          obtain rfl : c = x := by simpa using hx
          simp [sketchIn_cons, h]
      | succ i => rw [List.eraseIdx_cons_succ, sketchIn_cons, sketchIn_cons, ih (by simpa using hx)]

theorem sketch_eraseAt {e x : Element} {p : Path} (hp : p ≠ []) (hx : e.at? p = some x)
    (h : hidden x.markup) : (e.eraseAt p).sketch hidden shown = e.sketch hidden shown := by
  induction p generalizing e with
  | nil => exact absurd rfl hp
  | cons i p ih =>
      rw [at?_cons] at hx
      obtain ⟨c, hc, hx⟩ := Option.bind_eq_some_iff.1 hx
      by_cases hne : p = []
      · subst hne
        obtain rfl : c = x := by simpa using hx
        simp [sketch_eq, eraseAt, sketchIn_eraseIdx hc h]
      · have same : hidden (c.eraseAt p).markup = hidden c.markup := by rw [markup_eraseAt]
        rw [eraseAt_cons_cons hc hne, sketch_eq, sketch_eq, markup_withChildren,
          children_withChildren, sketchIn_set hc same fun _ => ih hne hx]

/-! ### Changes of one markup -/

theorem sketch_updatedAt {e : Element} {p : Path} {f : Markup → Markup}
    (h : ∀ m, e.markupAt? p = some m → hidden (f m) = hidden m ∧ shown (f m) = shown m) :
    (e.updatedAt p f).sketch hidden shown = e.sketch hidden shown := by
  induction p generalizing e with
  | nil => simp [sketch_eq, (h e.markup rfl).2]
  | cons i p ih =>
      cases hc : e.children[i]? with
      | none => rw [updatedAt_cons_of_none hc]
      | some c =>
          have below : ∀ m, c.markupAt? p = some m →
              hidden (f m) = hidden m ∧ shown (f m) = shown m := by
            intro m hm
            apply h m
            rw [markupAt?_cons, hc]
            exact hm
          have same : hidden (c.updatedAt p f).markup = hidden c.markup := by
            cases p with
            | nil => simpa using (below c.markup rfl).1
            | cons j p => rw [markup_updatedAt_of_ne_nil (List.cons_ne_nil j p)]
          rw [updatedAt_cons_of_getElem? hc, sketch_eq, sketch_eq, markup_withChildren,
            children_withChildren, sketchIn_set hc same fun _ => ih below]

theorem countId_sketch_eq_zero {id : String} {e : Element}
    (h : ∀ x ∈ e.descendants, hidden x.markup = false → (shown x.markup).hasId id = false) :
    (e.sketch hidden shown).countId id = 0 := by
  induction e using induction_on_children with
  | node m cs ih =>
      rw [sketch_eq, countId_eq_bearersIn, children_node, children_node]
      rw [descendants_eq, children_node] at h
      -- within one element the induction goes along its children
      induction cs with
      | nil => rfl
      | cons c r ihr =>
          have rest := ihr (fun x hx => ih x (List.mem_cons_of_mem _ hx))
            fun x hx => h x (by simp [hx])
          rw [sketchIn_cons]
          split
          · exact rest
          · rename_i visible
            have itself := h c (by simp) (by simpa using visible)
            have below := ih c List.mem_cons_self fun x hx => h x (by simp [hx])
            rw [bearersIn_cons, bearers_eq, below, rest, sketch_eq, hasId, markup_node, itself]
            rfl

theorem bearers_sketch_le {cs : List Element} {c : Element} (hc : c ∈ cs)
    (visible : hidden c.markup = false) (id : String) :
    (c.sketch hidden shown).bearers id ≤ bearersIn (sketchIn hidden shown cs) id := by
  obtain ⟨a, b, rfl⟩ := List.append_of_mem hc
  simp only [sketchIn_append, sketchIn_cons, visible, bearersIn_append, Bool.false_eq_true,
    if_false, bearersIn_cons]
  omega

/-- A change of an element with an identifier that the sketch does not have: the element stands
below what is hidden. -/
theorem sketch_updatedAt_of_countId_eq_zero {e x : Element} {p : Path} {f : Markup → Markup}
    {id : String} (hp : p ≠ []) (hx : e.at? p = some x) (hid : x.hasId id)
    (kept : ∀ m : Markup, m.hasId id → (shown m).hasId id)
    (same : hidden (f x.markup) = hidden x.markup)
    (absent : (e.sketch hidden shown).countId id = 0) :
    (e.updatedAt p f).sketch hidden shown = e.sketch hidden shown := by
  induction p generalizing e with
  | nil => exact absurd rfl hp
  | cons i p ih =>
      rw [at?_cons] at hx
      obtain ⟨c, hc, hx⟩ := Option.bind_eq_some_iff.1 hx
      have hmem : c ∈ e.children := List.mem_of_getElem? hc
      rw [sketch_eq, countId_eq_bearersIn, children_node] at absent
      -- a child that shows does not carry the identifier in the sketch, so it is not the end
      have none : hidden c.markup = false → (c.sketch hidden shown).bearers id = 0 := fun visible =>
        Nat.le_zero.1 (absent ▸ bearers_sketch_le hmem visible id)
      rw [updatedAt_cons_of_getElem? hc, sketch_eq, sketch_eq, markup_withChildren,
        children_withChildren]
      by_cases hne : p = []
      · subst hne
        obtain rfl : c = x := by simpa using hx
        rw [updatedAt_nil, sketchIn_set hc (by simpa using same)]
        intro visible
        have := none visible
        rw [bearers_eq, sketch_eq, hasId, markup_node, if_pos (kept _ hid)] at this
        omega
      · rw [sketchIn_set hc (by rw [markup_updatedAt_of_ne_nil hne])]
        intro visible
        refine ih hne hx ?_
        have := none visible
        rw [bearers_eq] at this
        omega

end

/-! ### Changing every markup -/

/-- The tree with the markup of every element changed, the element itself included. -/
def mapMarkups (f : Markup → Markup) (e : Element) : Element := e.sketch (fun _ => false) f

section

variable (f : Markup → Markup) (e : Element)

@[simp] theorem markup_mapMarkups : (e.mapMarkups f).markup = f e.markup := by
  cases e; rfl

@[simp] theorem children_mapMarkups :
    (e.mapMarkups f).children = e.children.map (mapMarkups f) := by
  rw [mapMarkups, sketch_eq, children_node]
  induction e.children with
  | nil => rfl
  | cons c r ih => simp [sketchIn_cons, ih, mapMarkups]

theorem at?_mapMarkups (p : Path) :
    (e.mapMarkups f).at? p = (e.at? p).map (mapMarkups f) := by
  induction p generalizing e with
  | nil => rfl
  | cons i p ih =>
      rw [at?_cons, at?_cons, children_mapMarkups, List.getElem?_map]
      cases e.children[i]? with
      | none => rfl
      | some c => exact ih c

theorem markupAt?_mapMarkups (p : Path) :
    (e.mapMarkups f).markupAt? p = (e.markupAt? p).map f := by
  rw [markupAt?, at?_mapMarkups, markupAt?, Option.map_map, Option.map_map]
  exact Option.map_congr fun x _ => markup_mapMarkups f x

end

/-! ### Outlines -/

/-- The tree with every text emptied. -/
def outline (e : Element) : Element := e.sketch (fun _ => false) ({ · with text := "" })

theorem hasId_outline (e : Element) (id : String) : e.outline.hasId id = e.hasId id := by
  cases e; rfl

theorem children_outline (e : Element) : e.outline.children = e.children.map outline :=
  children_mapMarkups _ e

theorem outline_updatedAt (e : Element) (p : Path) (text : String) :
    (e.updatedAt p ({ · with text := text })).outline = e.outline :=
  sketch_updatedAt fun _ _ => ⟨rfl, rfl⟩

theorem markupAt?_outline (e : Element) (p : Path) :
    e.outline.markupAt? p = (e.markupAt? p).map ({ · with text := "" }) :=
  markupAt?_mapMarkups _ e p

theorem countId_outline (e : Element) (id : String) : e.outline.countId id = e.countId id := by
  induction e using induction_on_children with
  | node m cs ih =>
      rw [countId_eq_bearersIn, countId_eq_bearersIn, children_outline, children_node]
      induction cs with
      | nil => rfl
      | cons c r ihr =>
          have hc : c.outline.bearers id = c.bearers id := by
            rw [bearers_eq, bearers_eq, ih c (List.mem_cons_self ..), hasId_outline]
          rw [List.map_cons, bearersIn_cons, bearersIn_cons, hc,
            ihr fun x hx => ih x (List.mem_cons_of_mem _ hx)]

theorem countId_eq_of_outline_eq {e e' : Element} (h : e'.outline = e.outline) (id : String) :
    e'.countId id = e.countId id := by
  rw [← countId_outline e', h, countId_outline]

theorem countP_children_eq_of_outline_eq {e e' : Element} (h : e'.outline = e.outline)
    (id : String) :
    e'.children.countP (·.hasId id) = e.children.countP (·.hasId id) := by
  have count : ∀ x : Element,
      x.outline.children.countP (·.hasId id) = x.children.countP (·.hasId id) := by
    intro x
    rw [children_outline, List.countP_map]
    exact List.countP_congr fun c _ => by simp [hasId_outline]
  rw [← count e', h, count]

end PageAid.Element
