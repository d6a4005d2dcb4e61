import PageAid.Proofs.Page.First
import PageAid.Proofs.Page.Update
import PageAid.Proofs.Text.Words

/-!
What is left of a tree that is pruned: the elements of which neither they nor an ancestor, other
than the root of the tree, fit the group (`Spared`). They stand in the pruned tree in the same order
and as deep as before (`prune_leaves_spared`), so that their words are its words
(`words_texts_prune`).
-/

namespace PageAid.Element

open Text

/-- Neither the element at a path nor one above it fits the group, the root of the tree apart. -/
def Spared (e : Element) (group : List Selector) (p : Path) : Prop :=
  ∀ q, q ≠ [] → q <+: p → ∀ x, e.at? q = some x → ¬ x.fits group

/-- The same, decided on the way down. -/
def spares (group : List Selector) : Path → Element → Bool
  | [], _ => true
  | i :: p, e => e.children[i]?.all fun c => !c.fits group && spares group p c

variable {group : List Selector}

theorem spared_root (e : Element) : e.Spared group [] :=
  fun _ hq within => absurd (List.prefix_nil.1 within) hq

theorem spared_cons_iff {e c : Element} {i : Nat} (hc : e.children[i]? = some c) {p : Path} :
    e.Spared group (i :: p) ↔ ¬ c.fits group ∧ c.Spared group p := by
  have at?_below : ∀ q, e.at? (i :: q) = c.at? q := fun q => by rw [at?_cons, hc]; rfl
  constructor
  · intro h
    refine ⟨h [i] (by simp) (by simp) c (at?_below []), fun q hq below x hx => ?_⟩
    exact h (i :: q) (by simp) (by simpa using below) x ((at?_below q).trans hx)
  · rintro ⟨here, below⟩ q hq within x hx
    obtain rfl | ⟨r, rfl, shorter⟩ := List.prefix_cons_iff.1 within
    · exact absurd rfl hq
    · rw [at?_below] at hx
      cases r with
      | nil =>
          obtain rfl := Option.some.inj hx
          exact here
      | cons j r => exact below (j :: r) (by simp) shorter x hx

theorem spares_iff {e x : Element} {p : Path} (hx : e.at? p = some x) :
    spares group p e ↔ e.Spared group p := by
  induction p generalizing e with
  | nil => exact ⟨fun _ => spared_root e, fun _ => rfl⟩
  | cons i p ih =>
      obtain ⟨c, hc, hx⟩ := Option.bind_eq_some_iff.1 hx
      rw [spared_cons_iff hc, spares, hc, ← ih hx]
      simp

def spared (e : Element) (group : List Selector) : List (Path × Element) :=
  (([], e) :: e.located).filter fun l => spares group l.1 e

def sparedBelow (e : Element) (group : List Selector) : List (Path × Element) :=
  e.located.filter fun l => spares group l.1 e

theorem spared_eq (e : Element) (group : List Selector) :
    e.spared group = ([], e) :: e.sparedBelow group :=
  List.filter_cons_of_pos rfl

theorem mem_sparedBelow_iff {e x : Element} {p : Path} :
    (p, x) ∈ e.sparedBelow group ↔ p ≠ [] ∧ e.at? p = some x ∧ e.Spared group p := by
  rw [sparedBelow, List.mem_filter, mem_located_iff, and_assoc]
  exact and_congr_right fun _ => and_congr_right fun hx => spares_iff hx

theorem mem_spared_iff {e x : Element} {p : Path} :
    (p, x) ∈ e.spared group ↔ e.at? p = some x ∧ e.Spared group p := by
  rw [spared_eq, List.mem_cons, mem_sparedBelow_iff, Prod.mk.injEq]
  by_cases root : p = []
  · subst root
    simp [spared_root, eq_comm]
  · simp [root]

theorem pairwise_sparedBelow (e : Element) :
    ((e.sparedBelow group).map (·.1)).Pairwise (· < ·) :=
  (pairwise_located e).sublist (List.filter_sublist.map _)

theorem pairwise_spared (e : Element) : ((e.spared group).map (·.1)).Pairwise (· < ·) := by
  rw [spared_eq, List.map_cons, List.pairwise_cons]
  refine ⟨fun p hp => ?_, pairwise_sparedBelow e⟩
  obtain ⟨⟨p, x⟩, hx, rfl⟩ := List.mem_map.1 hp
  cases p with
  | nil => exact absurd rfl (mem_sparedBelow_iff.1 hx).1
  | cons i p => exact List.nil_lt_cons i p

/-! ### Child by child -/

theorem locatedFrom_eq_flatMap (k : Nat) (cs : List Element) :
    locatedFrom k cs = (cs.zipIdx k).flatMap fun c =>
      (([], c.1) :: c.1.located).map fun l => (c.2 :: l.1, l.2) := by
  induction cs generalizing k with
  | nil => rfl
  | cons c r ih =>
      rw [locatedFrom_cons, ih, List.zipIdx_cons, List.flatMap_cons]
      rfl

/-- Below a child that fits the group nothing is spared, and below another one what this one
spares. -/
theorem spared_node (m : Markup) (cs : List Element) :
    (node m cs).spared group = ([], node m cs) :: cs.zipIdx.flatMap fun c =>
      (if c.1.fits group then [] else c.1.spared group).map fun l => (c.2 :: l.1, l.2) := by
  rw [spared, located_eq, List.filter_cons_of_pos rfl, locatedFrom_eq_flatMap, List.filter_flatMap]
  refine congrArg _ (List.flatMap_congr fun c hc => ?_)
  have child : (node m cs).children[c.2]? = some c.1 := List.mem_zipIdx_iff_getElem?.1 hc
  have below : ∀ p, spares group (c.2 :: p) (node m cs) =
      (!c.1.fits group && spares group p c.1) := fun p => by
    rw [spares, child]
    rfl
  rw [List.filter_map]
  cases h : c.1.fits group with
  | true => simp [below, h, Function.comp_def]
  | false => simp [below, h, spared, Function.comp_def]

theorem pruneIn_eq (cs : List Element) :
    pruneIn group cs = cs.flatMap fun c => if c.fits group then [] else [c.prune group] := by
  induction cs with
  | nil => rfl
  | cons c r ih =>
      rw [pruneIn, ih, List.flatMap_cons]
      split <;> rfl

/-! ### How the elements stand -/

/-- How far below the root of the tree an element stands, and its markup. -/
def standing (l : Path × Element) : Nat × Markup := (l.1.length, l.2.markup)

def standings (e : Element) : List (Nat × Markup) := (([], e) :: e.located).map standing

/-- What stands below a child stands one step deeper below its parent, whichever child it is. -/
theorem map_standing_flatMap_zipIdx (cs : List Element) (f : Element → List (Path × Element)) :
    (cs.zipIdx.flatMap fun c => (f c.1).map fun l => (c.2 :: l.1, l.2)).map standing =
      cs.flatMap fun c => ((f c).map standing).map fun l => (l.1 + 1, l.2) := by
  conv_rhs => rw [← List.zipIdx_map_fst 0 cs, List.flatMap_map]
  rw [List.map_flatMap]
  simp only [List.map_map]
  rfl

theorem standings_node (m : Markup) (cs : List Element) :
    (node m cs).standings =
      (0, m) :: cs.flatMap fun c => c.standings.map fun l => (l.1 + 1, l.2) := by
  rw [standings, located_eq, children_node, locatedFrom_eq_flatMap, List.map_cons,
    map_standing_flatMap_zipIdx cs fun c => ([], c) :: c.located]
  rfl

theorem standings_prune (e : Element) :
    (e.prune group).standings = (e.spared group).map standing := by
  induction e using induction_on_children with
  | node m cs ih =>
      rw [prune, standings_node, spared_node, pruneIn_eq, List.flatMap_assoc, List.map_cons,
        map_standing_flatMap_zipIdx cs fun c => if c.fits group then [] else c.spared group]
      refine congrArg _ (List.flatMap_congr fun c hc => ?_)
      split
      · rfl
      · rw [List.flatMap_singleton, ih c hc]

theorem map_standing_located_prune (e : Element) :
    (e.prune group).located.map standing = (e.sparedBelow group).map standing := by
  have all : (e.prune group).standings = (e.spared group).map standing := standings_prune e
  rw [standings, spared_eq] at all
  exact (List.cons.inj all).2

/-! ### What a pruning leaves -/

theorem markup_prune (e : Element) : (e.prune group).markup = e.markup := by
  cases e; rfl

theorem not_fits_of_mem_prune {e x : Element} (hx : x ∈ (e.prune group).descendants) :
    ¬ x.fits group := by
  rw [← map_snd_located] at hx
  obtain ⟨l, hl, rfl⟩ := List.mem_map.1 hx
  have mem : standing l ∈ (e.sparedBelow group).map standing :=
    map_standing_located_prune e ▸ List.mem_map_of_mem hl
  -- it stands where an element stood that was spared, and this one has the same markup
  obtain ⟨⟨p, y⟩, hy, same⟩ := List.mem_map.1 mem
  obtain ⟨ne_nil, here, spared⟩ := mem_sparedBelow_iff.1 hy
  have markup : y.markup = l.2.markup := (Prod.mk.inj same).2
  rw [fits, ← markup]
  exact spared p ne_nil List.prefix_rfl y here

theorem prune_of_forall_not {e : Element} (h : ∀ x ∈ e.descendants, ¬ x.fits group) :
    e.prune group = e := by
  induction e using induction_on_children with
  | node m cs ih =>
      rw [prune, pruneIn_eq]
      refine congrArg _ ?_
      calc (cs.flatMap fun c => if c.fits group then [] else [c.prune group])
        _ = cs.flatMap fun c => [c] := by
          refine List.flatMap_congr fun c hc => ?_
          have below := sublist_descendantsIn hc
          have child := h c (below.subset List.mem_cons_self)
          rw [if_neg child, ih c hc fun x hx => h x (below.subset (List.mem_cons_of_mem c hx))]
        _ = cs := List.flatMap_singleton' cs

/-- A pruning leaves the root of the tree as it is, even if this fits the group. Nothing below it
fits the group any more. The elements below it are, in document order, those of the old tree of
which neither they nor an element above them, the root apart, fits the group: each has its markup
and stands as deep as it stood. Pruning the tree once more changes nothing. -/
theorem prune_leaves_spared (e : Element) (group : List Selector) :
    (e.prune group).markup = e.markup ∧
      (∀ x ∈ (e.prune group).descendants, ¬ x.fits group) ∧
      (∃ kept : List (Path × Element), (kept.map (·.1)).Pairwise (· < ·) ∧
        (∀ p x, (p, x) ∈ kept ↔ p ≠ [] ∧ e.at? p = some x ∧ e.Spared group p) ∧
        (e.prune group).located.map standing = kept.map standing) ∧
      (e.prune group).prune group = e.prune group :=
  ⟨markup_prune e, fun _ => not_fits_of_mem_prune,
    ⟨e.sparedBelow group, pairwise_sparedBelow e, fun _ _ => mem_sparedBelow_iff,
      map_standing_located_prune e⟩,
    prune_of_forall_not fun _ => not_fits_of_mem_prune⟩

/-! ### Words -/

theorem textsIn_eq (cs : List Element) : textsIn cs = cs.flatMap texts := by
  induction cs with
  | nil => rfl
  | cons c r ih => rw [textsIn, ih, List.flatMap_cons]

theorem words_texts (e : Element) :
    e.texts.flatMap words = e.standings.flatMap fun l => words l.2.text.toList := by
  induction e using induction_on_children with
  | node m cs ih =>
      have own : (if (trim m.text.toList).isEmpty then [] else [trim m.text.toList]).flatMap words =
          words m.text.toList := by
        rw [← words_trim m.text.toList]
        split
        · rename_i none
          rw [List.isEmpty_iff.1 none]
          rfl
        · exact List.flatMap_singleton ..
      rw [texts, textsIn_eq, List.flatMap_append, own, List.flatMap_assoc, standings_node,
        List.flatMap_cons, List.flatMap_assoc]
      refine congrArg _ (List.flatMap_congr fun c hc => ?_)
      rw [ih c hc, List.flatMap_map]

/-- The words of a pruned tree are the words of the elements that are spared. -/
theorem words_texts_prune (e : Element) :
    (e.prune group).texts.flatMap words =
      (e.spared group).flatMap fun l => words l.2.text.toList := by
  rw [words_texts, standings_prune, List.flatMap_map]
  rfl

end PageAid.Element
