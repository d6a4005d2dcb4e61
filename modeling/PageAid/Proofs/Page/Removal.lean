import PageAid.Proofs.Page.Update

/-!
Taking an element out of the tree. The element that is taken out for an identifier stands at a path
(`outPath?`), and nothing happens but that it is erased there (`removeId_eq`). Every other element
keeps its markup and goes to the path that `Path.without` gives it.
-/

namespace PageAid

/-- The path of an element after the one at `q` was taken out; `none` for what was taken out. -/
def Path.without : (q p : Path) → Option Path
  | [], _ => none
  | _ :: _, [] => some []
  | [i], j :: p => if j = i then none else some ((if i < j then j - 1 else j) :: p)
  | i :: k :: q, j :: p =>
    if j = i then (Path.without (k :: q) p).map (j :: ·) else some (j :: p)

theorem countP_eraseIdx_add {α : Type} {l : List α} {x : α} {i : Nat} (hx : l[i]? = some x)
    (p : α → Bool) : (l.eraseIdx i).countP p + (if p x then 1 else 0) = l.countP p := by
  induction l generalizing i with
  | nil => simp at hx
  | cons y r ih =>
      cases i with
      | zero =>
          obtain rfl : y = x := by simpa using hx
          rw [List.eraseIdx_cons_zero, List.countP_cons]
      | succ i =>
          rw [List.eraseIdx_cons_succ, List.countP_cons, List.countP_cons,
            ← ih (by simpa using hx)]
          omega

namespace Element

/-- The tree without the element at a path; the element itself cannot be taken out. -/
def eraseAt : Path → Element → Element
  | [], e => e
  | [i], e => e.withChildren (e.children.eraseIdx i)
  | i :: p, e =>
    match e.children[i]? with
    | some c => e.withChildren (e.children.set i (eraseAt p c))
    | none => e

mutual

/-- The path of the element that is taken out for an identifier. -/
def outPath? (id : String) : Element → Option Path
  | node _ cs =>
    match cs.findIdx? (·.hasId id) with
    | some i => some [i]
    | none => outPathIn? id cs

def outPathIn? (id : String) : List Element → Option Path
  | [] => none
  | e :: r =>
    match outPath? id e with
    | some p => some (0 :: p)
    | none => (outPathIn? id r).map Path.shifted

end

theorem eraseAt_cons_cons {e c : Element} {i : Nat} (h : e.children[i]? = some c) {p : Path}
    (hp : p ≠ []) :
    e.eraseAt (i :: p) = e.withChildren (e.children.set i (c.eraseAt p)) := by
  cases p with
  | nil => exact absurd rfl hp
  | cons j p => simp [eraseAt, h]

@[simp] theorem markup_eraseAt (e : Element) (p : Path) : (e.eraseAt p).markup = e.markup := by
  match p with
  | [] => rfl
  | [i] => simp [eraseAt]
  | i :: j :: p =>
      cases h : e.children[i]? with
      | none => simp [eraseAt, h]
      | some c => simp [eraseAt, h]

@[simp] theorem hasId_eraseAt (e : Element) (p : Path) (id : String) :
    (e.eraseAt p).hasId id = e.hasId id := by
  rw [hasId, markup_eraseAt, hasId]

mutual

theorem hasId_of_outPath? {id : String} : ∀ {e : Element} {p : Path},
    outPath? id e = some p → ∃ x, e.at? p = some x ∧ x.hasId id ∧ p ≠ []
  | node m cs, p, h => by
      rw [outPath?] at h
      split at h
      · rename_i i hi
        obtain rfl := Option.some.inj h
        obtain ⟨hlt, hid, -⟩ := List.findIdx?_eq_some_iff_getElem.1 hi
        exact ⟨cs[i], by simp [at?_cons, hlt], hid, by simp⟩
      · exact hasId_of_outPathIn? m h

theorem hasId_of_outPathIn? {id : String} (m : Markup) : ∀ {cs : List Element} {p : Path},
    outPathIn? id cs = some p → ∃ x, (node m cs).at? p = some x ∧ x.hasId id ∧ p ≠ []
  | [], p, h => by simp [outPathIn?] at h
  | e :: r, p, h => by
      rw [outPathIn?] at h
      split at h
      · rename_i q hq
        obtain rfl := Option.some.inj h
        obtain ⟨x, hx, hid, -⟩ := hasId_of_outPath? hq
        exact ⟨x, by simpa [at?_cons] using hx, hid, by simp⟩
      · obtain ⟨q, hq, rfl⟩ := Option.map_eq_some_iff.1 h
        obtain ⟨x, hx, hid, hne⟩ := hasId_of_outPathIn? m hq
        exact ⟨x, by rw [at?_shifted m e r hne, hx], hid, Path.shifted_ne_nil hne⟩

end

theorem eraseAt_shifted (m : Markup) (c : Element) (cs : List Element) {p : Path}
    (h : p ≠ []) :
    ((node m (c :: cs)).eraseAt p.shifted).children = c :: ((node m cs).eraseAt p).children := by
  match p with
  | [] => exact absurd rfl h
  | [i] => simp [Path.shifted, eraseAt]
  | i :: j :: p =>
      cases hx : cs[i]? with
      | none => simp [Path.shifted, eraseAt, hx]
      | some x => simp [Path.shifted, eraseAt, hx]

mutual

/-- The element that is taken out for an identifier is erased at its path. -/
theorem removeId_eq (id : String) : ∀ e : Element,
    removeId id e =
      match outPath? id e with
      | some p => (e.at? p, e.eraseAt p)
      | none => (none, e)
  | node m cs => by
      rw [removeId, outPath?]
      -- a child that carries the identifier goes before whatever stands deeper
      cases hi : cs.findIdx? (·.hasId id) with
      | some i =>
          have single : cs[i]? = cs[i]?.bind (at? []) := by cases cs[i]? <;> rfl
          simpa [at?_cons, eraseAt, withChildren] using single
      | none =>
          simp only
          rw [removeIdBelow_eq id m cs]
          cases hp : outPathIn? id cs with
          | none => rfl
          | some p =>
              have same := markup_eraseAt (node m cs) p
              simp only [Prod.mk.injEq, true_and]
              rw [← node_markup_children ((node m cs).eraseAt p), same]
              rfl

theorem removeIdBelow_eq (id : String) (m : Markup) : ∀ cs : List Element,
    removeIdBelow id cs =
      match outPathIn? id cs with
      | some p => ((node m cs).at? p, ((node m cs).eraseAt p).children)
      | none => (none, cs)
  | [] => rfl
  | e :: r => by
      rw [removeIdBelow, outPathIn?, removeId_eq id e]
      cases hp : outPath? id e with
      | some p =>
          obtain ⟨x, hx, -, hne⟩ := hasId_of_outPath? hp
          simp only
          rw [at?_cons, eraseAt_cons_cons (c := e) rfl hne]
          simp [hx]
      | none =>
          simp only
          rw [removeIdBelow_eq id m r]
          cases hq : outPathIn? id r with
          | none => rfl
          | some q =>
              obtain ⟨-, -, -, hne⟩ := hasId_of_outPathIn? m hq
              simp [at?_shifted m e r hne, eraseAt_shifted m e r hne]

end

/-- A search that takes nothing out leaves the element as it was. -/
theorem removeId_of_fst_eq_none {id : String} {e : Element} (h : (e.removeId id).1 = none) :
    e.removeId id = (none, e) := by
  rw [removeId_eq] at h ⊢
  cases hp : outPath? id e with
  | none => rfl
  | some p =>
      obtain ⟨x, hx, -, -⟩ := hasId_of_outPath? hp
      simp [hp, hx] at h

/-! ### What a removal leaves -/

/-- Every element but what was taken out has its markup at its new path. -/
theorem markupAt?_eraseAt {q p p' : Path} (h : q.without p = some p') (e : Element) :
    (e.eraseAt q).markupAt? p' = e.markupAt? p := by
  induction q generalizing e p p' with
  | nil => simp [Path.without] at h
  | cons i q ih =>
      cases p with
      | nil =>
          have : p' = [] := by cases q <;> simpa [Path.without] using h.symm
          simp [this]
      | cons j p =>
          cases q with
          | nil =>
              rw [Path.without] at h
              split at h
              · simp at h
              · obtain rfl := Option.some.inj h
                simp only [eraseAt, markupAt?_cons, children_withChildren,
                  List.getElem?_eraseIdx]
                -- positions behind the gap are less by one
                grind
          | cons k q =>
              rw [Path.without] at h
              split at h
              · rename_i hj
                subst hj
                obtain ⟨p'', hp, rfl⟩ := Option.map_eq_some_iff.1 h
                cases hc : e.children[j]? with
                | none => simp [eraseAt, hc, markupAt?_cons]
                | some c =>
                    obtain ⟨hi, -⟩ := List.getElem?_eq_some_iff.1 hc
                    rw [eraseAt_cons_cons hc (by simp)]
                    simpa [markupAt?_cons, hc, List.getElem?_set_self hi] using ih hp c
              · rename_i hj
                obtain rfl := Option.some.inj h
                cases hc : e.children[i]? with
                | none => simp [eraseAt, hc]
                | some c =>
                    rw [eraseAt_cons_cons hc (by simp)]
                    simp [markupAt?_cons, List.getElem?_set_ne (Ne.symm hj)]

theorem bearersIn_eraseIdx {cs : List Element} {x : Element} {i : Nat} (hx : cs[i]? = some x)
    (id : String) : bearersIn cs id = bearersIn (cs.eraseIdx i) id + x.bearers id := by
  induction cs generalizing i with
  | nil => simp at hx
  | cons c r ih =>
      cases i with
      | zero =>
          obtain rfl : c = x := by simpa using hx
          simp [Nat.add_comm]
      | succ i =>
          rw [List.eraseIdx_cons_succ, bearersIn_cons, bearersIn_cons, ih (by simpa using hx)]
          omega

/-- The identifiers in the tree are those that are left and those that were taken out. -/
theorem countId_eraseAt {e x : Element} {p : Path} (hp : p ≠ []) (hx : e.at? p = some x)
    (id : String) : e.countId id = (e.eraseAt p).countId id + x.bearers id := by
  induction p generalizing e with
  | nil => exact absurd rfl hp
  | cons i p ih =>
      rw [at?_cons] at hx
      obtain ⟨c, hc, hx⟩ := Option.bind_eq_some_iff.1 hx
      by_cases hne : p = []
      · subst hne
        obtain rfl : c = x := by simpa using hx
        simpa [countId_eq_bearersIn, eraseAt] using bearersIn_eraseIdx hc id
      · have below : c.bearers id = (c.eraseAt p).bearers id + x.bearers id := by
          have := ih hne hx
          rw [bearers_eq, bearers_eq, hasId_eraseAt]
          omega
        have children := bearersIn_set_add hc (c.eraseAt p) id
        rw [eraseAt_cons_cons hc hne, countId_eq_bearersIn, countId_eq_bearersIn,
          children_withChildren]
        omega

theorem countP_children_eraseAt {e x : Element} {p : Path} {id other : String}
    (hx : e.at? p = some x) (hid : x.hasId id) (hne : id ≠ other) :
    (e.eraseAt p).children.countP (·.hasId other) = e.children.countP (·.hasId other) := by
  match p with
  | [] => rfl
  | [i] =>
      rw [at?_cons] at hx
      obtain ⟨c, hc, hx⟩ := Option.bind_eq_some_iff.1 hx
      obtain rfl : c = x := by simpa using hx
      have not : c.hasId other = false := by
        simp only [hasId, Markup.hasId, beq_iff_eq, beq_eq_false_iff_ne] at hid ⊢
        simp [hid, hne]
      have one := countP_eraseIdx_add hc (·.hasId other)
      rw [not] at one
      simpa [eraseAt] using one
  | i :: j :: p =>
      cases hc : e.children[i]? with
      | none => simp [eraseAt, hc]
      | some c =>
          rw [eraseAt_cons_cons hc (by simp), children_withChildren]
          exact countP_set_of_hasId_eq hc (hasId_eraseAt c _ other)

theorem bearersIn_eq_zero_iff {cs : List Element} {id : String} :
    bearersIn cs id = 0 ↔ ∀ c ∈ cs, c.hasId id = false ∧ c.countId id = 0 := by
  induction cs with
  | nil => simp
  | cons c r ih =>
      rw [bearersIn_cons, bearers_eq, List.forall_mem_cons, ← ih]
      cases c.hasId id <;> simp

mutual

theorem countId_eq_zero_of_outPath? {id : String} : ∀ {e : Element},
    outPath? id e = none → e.countId id = 0
  | node m cs, h => by
      rw [outPath?] at h
      split at h
      · simp at h
      · rename_i none
        rw [countId_eq_bearersIn, bearersIn_eq_zero_iff]
        intro c hc
        refine ⟨?_, countId_eq_zero_of_outPathIn? h c hc⟩
        simpa using List.findIdx?_eq_none_iff.1 none c hc

theorem countId_eq_zero_of_outPathIn? {id : String} : ∀ {cs : List Element},
    outPathIn? id cs = none → ∀ c ∈ cs, c.countId id = 0
  | [], _ => by simp
  | e :: r, h => by
      rw [outPathIn?] at h
      split at h
      · simp at h
      · rename_i he
        rw [List.forall_mem_cons]
        exact ⟨countId_eq_zero_of_outPath? he,
          countId_eq_zero_of_outPathIn? (Option.map_eq_none_iff.1 h)⟩

end

/-- After a removal the identifier is carried by one element less, and by none of what was taken
out along with it. -/
theorem countId_removeId_lt {e : Element} {id : String} (h : 0 < e.countId id) :
    (e.removeId id).2.countId id < e.countId id := by
  rw [removeId_eq]
  cases hp : outPath? id e with
  | none => rw [countId_eq_zero_of_outPath? hp] at h; exact absurd h (Nat.lt_irrefl 0)
  | some p =>
      obtain ⟨x, hx, hid, hne⟩ := hasId_of_outPath? hp
      have := countId_eraseAt hne hx id
      rw [bearers_eq, if_pos hid] at this
      dsimp only
      omega

theorem removeId_of_countId_eq_zero {e : Element} {id : String} (h : e.countId id = 0) :
    (e.removeId id).2 = e := by
  rw [removeId_eq]
  cases hp : outPath? id e with
  | none => rfl
  | some p =>
      obtain ⟨x, hx, hid, hne⟩ := hasId_of_outPath? hp
      have one := countId_eraseAt hne hx id
      rw [bearers_eq, if_pos hid] at one
      omega

theorem countId_removeId_le (e : Element) (id other : String) :
    (e.removeId id).2.countId other ≤ e.countId other := by
  rw [removeId_eq]
  cases hp : outPath? id e with
  | none => exact Nat.le_refl _
  | some p =>
      obtain ⟨x, hx, -, hne⟩ := hasId_of_outPath? hp
      have := countId_eraseAt hne hx other
      dsimp only
      omega

@[simp] theorem markup_removeId (e : Element) (id : String) :
    (e.removeId id).2.markup = e.markup := by
  rw [removeId_eq]
  cases outPath? id e <;> simp

theorem countP_children_removeId {id other : String} (hne : id ≠ other) (e : Element) :
    (e.removeId id).2.children.countP (·.hasId other) = e.children.countP (·.hasId other) := by
  rw [removeId_eq]
  cases hp : outPath? id e with
  | none => rfl
  | some p =>
      obtain ⟨x, hx, hid, -⟩ := hasId_of_outPath? hp
      exact countP_children_eraseAt hx hid hne

end Element

end PageAid
