import PageAid.Proofs.Page.Tree

/-!
Changes of the markup of one element. Every such change is one at a path: an element that is looked
up by its identifier is changed at the path of the first element that carries it. Main statements:
the markup at a path is changed and at no other path (`markupAt?_updatedAt`), and identifiers are
counted as before when the change keeps them (`countId_updatedAt`).
-/

namespace PageAid

/-- The path of an element after another one was put in front of its ancestor's children. -/
def Path.shifted : Path → Path
  | [] => []
  | i :: p => (i + 1) :: p

theorem Path.shifted_ne_nil {p : Path} (h : p ≠ []) : p.shifted ≠ [] := by
  cases p with
  | nil => exact absurd rfl h
  | cons i p => simp [shifted]

namespace Element

/-! ### Markup at a path -/

def markupAt? (e : Element) (p : Path) : Option Markup := (e.at? p).map markup

@[simp] theorem at?_nil (e : Element) : e.at? [] = some e := rfl

theorem at?_cons (e : Element) (i : Nat) (p : Path) :
    e.at? (i :: p) = e.children[i]?.bind (at? p) := rfl

@[simp] theorem markupAt?_nil (e : Element) : e.markupAt? [] = some e.markup := rfl

theorem markupAt?_cons (e : Element) (i : Nat) (p : Path) :
    e.markupAt? (i :: p) = e.children[i]?.bind (markupAt? · p) := by
  rw [markupAt?, at?_cons, Option.map_bind]
  rfl

@[simp] theorem isSome_markupAt? (e : Element) (p : Path) :
    (e.markupAt? p).isSome = (e.at? p).isSome := by
  simp [markupAt?]

theorem at?_shifted (m : Markup) (c : Element) (cs : List Element) {p : Path} (h : p ≠ []) :
    (node m (c :: cs)).at? p.shifted = (node m cs).at? p := by
  cases p with
  | nil => exact absurd rfl h
  | cons i p => simp [Path.shifted, at?_cons]

theorem at?_prepended (e c : Element) {p : Path} (h : p ≠ []) :
    (e.prepended c).at? p.shifted = e.at? p := by
  cases e
  exact at?_shifted _ c _ h

theorem markupAt?_withChild {e : Element} {p : Path} {m : Markup} (c : Element)
    (h : e.markupAt? p = some m) : (e.withChild c).markupAt? p = some m := by
  cases p with
  | nil => simpa using h
  | cons i p =>
      rw [markupAt?_cons] at h ⊢
      obtain ⟨x, hx, hm⟩ := Option.bind_eq_some_iff.1 h
      obtain ⟨hi, -⟩ := List.getElem?_eq_some_iff.1 hx
      rw [children_withChild, List.getElem?_append_left hi, hx]
      exact hm

theorem markupAt?_prepended (e c : Element) (p : Path) :
    (e.prepended c).markupAt? p.shifted = e.markupAt? p := by
  cases p with
  | nil => simp [Path.shifted]
  | cons i p => simp [Path.shifted, markupAt?_cons]

/-! ### Changing the markup at a path -/

/-- The tree with the markup at a path changed; the same tree when the path leads nowhere. -/
def updatedAt (e : Element) (p : Path) (f : Markup → Markup) : Element :=
  (e.updateAt? f p).getD e

@[simp] theorem updatedAt_nil (e : Element) (f : Markup → Markup) :
    e.updatedAt [] f = e.mapMarkup f := rfl

theorem updatedAt_cons_of_getElem? {e c : Element} {i : Nat} (h : e.children[i]? = some c)
    (p : Path) (f : Markup → Markup) :
    e.updatedAt (i :: p) f = e.withChildren (e.children.set i (c.updatedAt p f)) := by
  rw [updatedAt, updateAt?, h, updatedAt]
  cases hc : c.updateAt? f p with
  | none =>
      have same : e.children.set i c = e.children := by
        obtain ⟨hi, rfl⟩ := List.getElem?_eq_some_iff.1 h
        exact List.set_getElem_self hi
      cases e
      simpa [hc, withChildren] using same.symm
  | some c' => simp [hc]

theorem updatedAt_cons_of_none {e : Element} {i : Nat} (h : e.children[i]? = none)
    (p : Path) (f : Markup → Markup) : e.updatedAt (i :: p) f = e := by
  simp [updatedAt, updateAt?, h]

/-- An induction on the path of a change: at the element itself, below one of its children, or
nowhere. -/
theorem updatedAt_induction {f : Markup → Markup} {P : Path → Element → Element → Prop}
    (here : ∀ e, P [] e (e.mapMarkup f))
    (below : ∀ e c i p, e.children[i]? = some c → P p c (c.updatedAt p f) →
      P (i :: p) e (e.withChildren (e.children.set i (c.updatedAt p f))))
    (nowhere : ∀ e i p, e.children[i]? = none → P (i :: p) e e) (p : Path) (e : Element) :
    P p e (e.updatedAt p f) := by
  induction p generalizing e with
  | nil => exact here e
  | cons i p ih =>
      cases h : e.children[i]? with
      | none =>
          rw [updatedAt_cons_of_none h]
          exact nowhere e i p h
      | some c =>
          rw [updatedAt_cons_of_getElem? h]
          exact below e c i p h (ih c)

theorem updatedAt_of_at?_eq_none {e : Element} {p : Path} (h : e.at? p = none)
    (f : Markup → Markup) : e.updatedAt p f = e := by
  induction p, e using updatedAt_induction (f := f) with
  | here e => simp at h
  | below e c i p hc ih =>
      rw [at?_cons, hc] at h
      obtain ⟨hi, rfl⟩ := List.getElem?_eq_some_iff.1 hc
      rw [ih h, List.set_getElem_self hi]
      cases e
      rfl
  | nowhere e i p _ => rfl

/-- The change is made at the path and nowhere else. -/
theorem markupAt?_updatedAt (e : Element) (p q : Path) (f : Markup → Markup) :
    (e.updatedAt p f).markupAt? q = if q = p then (e.markupAt? q).map f else e.markupAt? q := by
  induction p, e using updatedAt_induction (f := f) generalizing q with
  | here e => cases q <;> simp [markupAt?_cons]
  | below e c i p h ih =>
      cases q with
      | nil => simp
      | cons j q =>
          obtain ⟨hi, rfl⟩ := List.getElem?_eq_some_iff.1 h
          by_cases hj : j = i
          · subst hj
            simp [markupAt?_cons, h, ih, List.getElem?_set_self hi]
          · simp [markupAt?_cons, hj, List.getElem?_set_ne (Ne.symm hj)]
  | nowhere e i p h =>
      by_cases hq : q = i :: p
      · subst hq
        simp [markupAt?_cons, h]
      · simp [hq]

theorem at?_updatedAt_self {e x : Element} {p : Path} (h : e.at? p = some x)
    (f : Markup → Markup) : (e.updatedAt p f).at? p = some (x.mapMarkup f) := by
  induction p, e using updatedAt_induction (f := f) generalizing x with
  | here e =>
      obtain rfl : e = x := Option.some.inj h
      rfl
  | below e c i p hc ih =>
      rw [at?_cons, hc] at h
      obtain ⟨hi, -⟩ := List.getElem?_eq_some_iff.1 hc
      rw [at?_cons, children_withChildren, List.getElem?_set_self hi]
      exact ih h
  | nowhere e i p hc => simp [at?_cons, hc] at h

theorem markup_updatedAt_of_ne_nil {p : Path} (h : p ≠ []) (e : Element) (f : Markup → Markup) :
    (e.updatedAt p f).markup = e.markup := by
  have := markupAt?_updatedAt e p [] f
  simpa [h.symm] using this

/-- A change at a path that keeps whether the element there carries an identifier. -/
def KeepsId (e : Element) (p : Path) (f : Markup → Markup) (id : String) : Prop :=
  ∀ m, e.markupAt? p = some m → (f m).hasId id = m.hasId id

theorem KeepsId.below {e c : Element} {i : Nat} {p : Path} {f : Markup → Markup} {id : String}
    (h : e.KeepsId (i :: p) f id) (hc : e.children[i]? = some c) : c.KeepsId p f id := by
  intro m hm
  apply h m
  rw [markupAt?_cons, hc]
  exact hm

theorem hasId_updatedAt {e : Element} {p : Path} {f : Markup → Markup} {id : String}
    (h : e.KeepsId p f id) : (e.updatedAt p f).hasId id = e.hasId id := by
  cases p with
  | nil => simpa [hasId] using h e.markup rfl
  | cons i p => rw [hasId, markup_updatedAt_of_ne_nil (List.cons_ne_nil i p), hasId]

theorem bearersIn_set_add {cs : List Element} {c : Element} {i : Nat} (hc : cs[i]? = some c)
    (c' : Element) (id : String) :
    bearersIn (cs.set i c') id + c.bearers id = bearersIn cs id + c'.bearers id := by
  induction cs generalizing i with
  | nil => simp at hc
  | cons x r ih =>
      cases i with
      | zero =>
          obtain rfl : x = c := by simpa using hc
          simp only [List.set_cons_zero, bearersIn_cons]
          omega
      | succ i =>
          have := ih (i := i) (by simpa using hc)
          simp only [List.set_cons_succ, bearersIn_cons]
          omega

theorem countP_set_of_hasId_eq {cs : List Element} {c c' : Element} {i : Nat} {id : String}
    (hc : cs[i]? = some c) (h : c'.hasId id = c.hasId id) :
    (cs.set i c').countP (·.hasId id) = cs.countP (·.hasId id) := by
  induction cs generalizing i with
  | nil => rfl
  | cons x r ih =>
      cases i with
      | zero =>
          obtain rfl : x = c := by simpa using hc
          rw [List.set_cons_zero, List.countP_cons, List.countP_cons, h]
      | succ i =>
          rw [List.set_cons_succ, List.countP_cons, List.countP_cons, ih (by simpa using hc)]

/-- An identifier is counted once more if the changed element comes to carry it, and once less if
it carried it before. -/
theorem bearers_updatedAt_add {e x : Element} {p : Path} (h : e.at? p = some x)
    (f : Markup → Markup) (id : String) :
    (e.updatedAt p f).bearers id + (if x.hasId id then 1 else 0) =
      e.bearers id + if (f x.markup).hasId id then 1 else 0 := by
  induction p, e using updatedAt_induction (f := f) generalizing x with
  | here e =>
      obtain rfl : e = x := Option.some.inj h
      rw [bearers_eq, bearers_eq, countId_mapMarkup, hasId, markup_mapMarkup, Nat.add_right_comm]
  | below e c i p hc ih =>
      have child := ih (by rwa [at?_cons, hc] at h)
      have children := bearersIn_set_add hc (c.updatedAt p f) id
      rw [bearers_eq, bearers_eq, countId_eq_bearersIn, countId_eq_bearersIn, hasId,
        markup_withChildren, children_withChildren, ← hasId]
      omega
  | nowhere e i p hc => simp [at?_cons, hc] at h

theorem countId_updatedAt {e : Element} {p : Path} {f : Markup → Markup} {id : String}
    (h : e.KeepsId p f id) : (e.updatedAt p f).countId id = e.countId id := by
  cases hx : e.at? p with
  | none => rw [updatedAt_of_at?_eq_none hx]
  | some x =>
      have counted := bearers_updatedAt_add hx f id
      have same : (f x.markup).hasId id = x.hasId id := h x.markup (by rw [markupAt?, hx]; rfl)
      rw [bearers_eq, bearers_eq, hasId_updatedAt h, same] at counted
      omega

theorem countP_children_updatedAt {e : Element} {p : Path} {f : Markup → Markup} {id : String}
    (h : e.KeepsId p f id) :
    (e.updatedAt p f).children.countP (·.hasId id) = e.children.countP (·.hasId id) := by
  cases p with
  | nil => simp
  | cons i p =>
      cases hc : e.children[i]? with
      | none => rw [updatedAt_cons_of_none hc]
      | some c =>
          rw [updatedAt_cons_of_getElem? hc, children_withChildren]
          exact countP_set_of_hasId_eq hc (hasId_updatedAt (h.below hc))

/-! ### Changing the first element with an identifier -/

mutual

/-- The path of the first element below, in document order, that carries an identifier. -/
def idPath? (id : String) : Element → Option Path
  | node _ cs => idPathIn? id cs

def idPathIn? (id : String) : List Element → Option Path
  | [] => none
  | e :: r =>
    if e.hasId id then some [0]
    else
      match idPath? id e with
      | some p => some (0 :: p)
      | none => (idPathIn? id r).map Path.shifted

end

theorem updatedAt_shifted (m : Markup) (c : Element) (cs : List Element) {p : Path}
    (h : p ≠ []) (f : Markup → Markup) :
    ((node m (c :: cs)).updatedAt p.shifted f).children =
      c :: ((node m cs).updatedAt p f).children := by
  cases p with
  | nil => exact absurd rfl h
  | cons i p =>
      rw [Path.shifted]
      cases hc : cs[i]? with
      | none => rw [updatedAt_cons_of_none (by simpa using hc), updatedAt_cons_of_none hc]; rfl
      | some x =>
          rw [updatedAt_cons_of_getElem? (by simpa using hc), updatedAt_cons_of_getElem? hc]
          rfl

mutual

theorem hasId_of_idPath? {id : String} : ∀ {e : Element} {p : Path},
    idPath? id e = some p → ∃ x, e.at? p = some x ∧ x.hasId id ∧ p ≠ []
  | node m _, _, h => hasId_of_idPathIn? m h

theorem hasId_of_idPathIn? {id : String} (m : Markup) : ∀ {cs : List Element} {p : Path},
    idPathIn? id cs = some p → ∃ x, (node m cs).at? p = some x ∧ x.hasId id ∧ p ≠ []
  | [], p, h => by simp [idPathIn?] at h
  | e :: r, p, h => by
      rw [idPathIn?] at h
      split at h
      · rename_i hid
        obtain rfl : [0] = p := by simpa using h
        exact ⟨e, by simp [at?_cons], hid, by simp⟩
      · split at h
        · rename_i q hq
          obtain rfl : 0 :: q = p := by simpa using h
          obtain ⟨x, hx, hid, -⟩ := hasId_of_idPath? hq
          exact ⟨x, by simpa [at?_cons] using hx, hid, by simp⟩
        · obtain ⟨q, hq, rfl⟩ := Option.map_eq_some_iff.1 h
          obtain ⟨x, hx, hid, hne⟩ := hasId_of_idPathIn? m hq
          exact ⟨x, by rw [at?_shifted m e r hne, hx], hid, Path.shifted_ne_nil hne⟩

end

mutual

/-- The first element with an identifier is changed at its path. -/
theorem updateId?_eq (id : String) (f : Markup → Markup) : ∀ e : Element,
    updateId? id f e = (idPath? id e).map (e.updatedAt · f)
  | node m cs => by
      rw [updateId?, idPath?, updateIdIn?_eq id f m cs, Option.map_map]
      refine Option.map_congr fun p hp => ?_
      obtain ⟨-, -, -, hne⟩ := hasId_of_idPathIn? m hp
      have := markup_updatedAt_of_ne_nil hne (node m cs) f
      rw [Function.comp, ← node_markup_children ((node m cs).updatedAt p f), this]
      rfl

theorem updateIdIn?_eq (id : String) (f : Markup → Markup) (m : Markup) :
    ∀ cs : List Element, updateIdIn? id f cs =
      (idPathIn? id cs).map fun p => ((node m cs).updatedAt p f).children
  | [] => rfl
  | e :: r => by
      rw [updateIdIn?, idPathIn?]
      -- the first element carries it, or one below it does, or it is found further on
      split
      · rw [Option.map_some, updatedAt_cons_of_getElem? (c := e) rfl]
        rfl
      · rw [updateId?_eq id f e]
        cases hp : idPath? id e with
        | some p =>
            rw [Option.map_some, Option.map_some, updatedAt_cons_of_getElem? (c := e) rfl]
            rfl
        | none =>
            rw [Option.map_none, updateIdIn?_eq id f m r, Option.map_map, Option.map_map]
            refine Option.map_congr fun p hp => ?_
            obtain ⟨-, -, -, hne⟩ := hasId_of_idPathIn? m hp
            exact (updatedAt_shifted m e r hne f).symm

end

theorem markup_of_updateId? {id : String} {f : Markup → Markup} {e e' : Element}
    (h : updateId? id f e = some e') : e'.markup = e.markup := by
  cases e with
  | node m cs =>
      obtain ⟨cs', -, rfl⟩ := Option.map_eq_some_iff.1 h
      rfl

mutual

/-- An element that is looked up after its markup was changed is found changed, provided that it
keeps its identifier; and there is one to change just when there is one to be found. -/
theorem findId_updateId? {id : String} {f : Markup → Markup}
    (kept : ∀ m : Markup, m.hasId id → (f m).hasId id) : ∀ e : Element,
    (updateId? id f e).map (·.findId id) = (e.findId id).map fun x => some (x.mapMarkup f)
  | node m cs => by
      rw [updateId?, Option.map_map]
      exact find?_updateIdIn? kept cs

theorem find?_updateIdIn? {id : String} {f : Markup → Markup}
    (kept : ∀ m : Markup, m.hasId id → (f m).hasId id) : ∀ cs : List Element,
    (updateIdIn? id f cs).map (fun cs => (descendantsIn cs).find? (·.hasId id)) =
      ((descendantsIn cs).find? (·.hasId id)).map fun x => some (x.mapMarkup f)
  | [] => rfl
  | e :: r => by
      rw [updateIdIn?, descendantsIn_cons]
      cases hid : e.hasId id with
      | true =>
          have changed : (e.mapMarkup f).hasId id := by
            rw [hasId, markup_mapMarkup]
            exact kept _ hid
          simp [hid, changed]
      | false =>
          have below := findId_updateId? kept e
          have further := find?_updateIdIn? kept r
          cases h : updateId? id f e with
          | some e' =>
              -- the first one is below `e`, which keeps its own markup
              have other : e'.hasId id = false := by
                rw [hasId, markup_of_updateId? h, ← hasId, hid]
              rw [h] at below
              obtain ⟨x, hx, found⟩ := Option.map_eq_some_iff.1 below.symm
              have hx : e.descendants.find? (·.hasId id) = some x := hx
              have found : e'.descendants.find? (·.hasId id) = some (x.mapMarkup f) := found.symm
              simp [hid, other, hx, found]
          | none =>
              rw [h] at below
              have none_below : e.descendants.find? (·.hasId id) = none :=
                Option.map_eq_none_iff.1 below.symm
              rw [List.find?_cons_of_neg (by simp [hid]), List.find?_append, none_below,
                Option.none_or, ← further]
              simp [hid, none_below, Function.comp_def]

end

end Element

end PageAid
