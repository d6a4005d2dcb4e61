import PageAid.Proofs.Page.First
import PageAid.Proofs.Page.Update

/-!
Changing the element that is found. An element can be changed by its identifier, or at its path,
just when it is found there; the one that is changed is the one that is found (`idPath?_eq`), and no
other place of the tree changes (`changed_as_found`).
-/

namespace PageAid.Element

variable {e x : Element} {id : String} {p : Path} {f : Markup → Markup}

/-! ### The path of an identifier -/

theorem locatedFrom_succ (position : Nat) (cs : List Element) :
    locatedFrom (position + 1) cs = (locatedFrom position cs).map fun l => (l.1.shifted, l.2) := by
  induction cs generalizing position with
  | nil => rfl
  | cons c r ih =>
      rw [locatedFrom_cons, locatedFrom_cons, ih, List.map_append, List.map_cons, List.map_map]
      rfl

mutual

/-- The path at which an identifier is changed is that of the first element below that carries
it. -/
theorem idPath?_eq (id : String) : ∀ e : Element,
    idPath? id e = (e.located.find? (·.2.hasId id)).map (·.1)
  | node _ cs => idPathIn?_eq id cs

theorem idPathIn?_eq (id : String) : ∀ cs : List Element,
    idPathIn? id cs = ((locatedFrom 0 cs).find? (·.2.hasId id)).map (·.1)
  | [] => rfl
  | e :: r => by
      rw [idPathIn?, locatedFrom_cons, List.cons_append, List.find?_cons]
      cases e.hasId id with
      | true => rfl
      | false =>
          -- below the first element, or else further on, where each path is one position greater
          rw [idPath?_eq id e, idPathIn?_eq id r, List.find?_append, List.find?_map,
            locatedFrom_succ, List.find?_map]
          simp only [Function.comp_def]
          cases e.located.find? (·.2.hasId id) with
          | some l => rfl
          | none => cases (locatedFrom 0 r).find? (·.2.hasId id) <;> rfl

end

theorem idPath?_of_first (first : e.First (fun y => y.hasId id) p x) : idPath? id e = some p := by
  rw [idPath?_eq, find?_located_eq_some_iff.2 first, Option.map_some]

theorem idPath?_eq_none_iff : idPath? id e = none ↔ e.findId id = none := by
  rw [idPath?_eq, findId, ← map_snd_located, List.find?_map, Option.map_eq_none_iff,
    Option.map_eq_none_iff]
  rfl

/-! ### Where a change falls -/

theorem isSome_updateAt? (f : Markup → Markup) (p : Path) (e : Element) :
    (e.updateAt? f p).isSome = (e.at? p).isSome := by
  induction p generalizing e with
  | nil => rfl
  | cons i p ih =>
      rw [updateAt?, at?_cons]
      cases e.children[i]? with
      | none => rfl
      | some c =>
          rw [Option.bind_some, ← ih c]
          cases hc : c.updateAt? f p <;> simp [hc]

theorem updateAt?_of_at? (h : e.at? p = some x) (f : Markup → Markup) :
    e.updateAt? f p = some (e.updatedAt p f) := by
  obtain ⟨e', changed⟩ : ∃ e', e.updateAt? f p = some e' := by
    rw [← Option.isSome_iff_exists, isSome_updateAt?, h, Option.isSome_some]
  rw [updatedAt, changed, Option.getD_some]

/-- The tree `e'` is `e` with the markup at one path changed: the element there keeps its children,
every other place keeps its markup, and the same paths lead to elements. -/
structure Changed (e : Element) (p : Path) (f : Markup → Markup) (e' : Element) : Prop where
  here : e'.at? p = (e.at? p).map (mapMarkup f)
  elsewhere : ∀ q, q ≠ p → e'.markupAt? q = e.markupAt? q
  places : ∀ q, (e'.at? q).isSome = (e.at? q).isSome

theorem changed_updatedAt (h : e.at? p = some x) (f : Markup → Markup) :
    e.Changed p f (e.updatedAt p f) where
  here := by rw [at?_updatedAt_self h, h, Option.map_some]
  elsewhere q hq := by rw [markupAt?_updatedAt, if_neg hq]
  places q := by
    rw [← isSome_markupAt?, markupAt?_updatedAt, ← isSome_markupAt?]
    split
    · rw [Option.isSome_map]
    · rfl

/-- There is an element to change for an identifier just when one is found, and it is the one that
is found, the first in document order; there is one to change at a path just when one is found
there. In both cases nothing changes but the markup of this element, so that a change of one field
of it, such as its text or a property of its style, leaves all else in the tree as it was. -/
theorem changed_as_found (e : Element) (f : Markup → Markup) :
    (∀ id, match e.findId id with
      | none => e.updateId? id f = none
      | some x => ∃ p e', e.First (fun y => y.hasId id) p x ∧ e.updateId? id f = some e' ∧
          e.Changed p f e') ∧
    ∀ p, match e.at? p with
      | none => e.updateAt? f p = none
      | some _ => ∃ e', e.updateAt? f p = some e' ∧ e.Changed p f e' := by
  constructor
  · intro id
    rw [updateId?_eq]
    cases found : e.findId id with
    | none =>
        dsimp only
        rw [idPath?_eq_none_iff.2 found, Option.map_none]
    | some x =>
        obtain ⟨p, first⟩ := findId_eq_some_iff.1 found
        refine ⟨p, e.updatedAt p f, first, ?_, changed_updatedAt first.at?_eq f⟩
        rw [idPath?_of_first first, Option.map_some]
  · intro p
    cases found : e.at? p with
    | none =>
        have none := isSome_updateAt? f p e
        rw [found, Option.isSome_none, Option.isSome_eq_false_iff] at none
        exact Option.isNone_iff_eq_none.1 none
    | some x => exact ⟨e.updatedAt p f, updateAt?_of_at? found f, changed_updatedAt found f⟩

end PageAid.Element
