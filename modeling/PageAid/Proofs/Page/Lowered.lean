import Mathlib
import PageAid.Proofs.Page.First
import PageAid.Proofs.Page.Pruning
import PageAid.Proofs.Page.Sketch

/-!
Trees with their tags in lower case. Nothing that a page is searched for tells such a tree from the
one it comes from: its elements stand at the same paths (`located_mapMarkups`), selectors match the
same ones (`fits_lowered`), and what is left after pruning has the same texts
(`texts_prune_lowered`).
-/

namespace PageAid

open Text

@[simp] theorem Text.asciiLower_asciiLower (s : String) :
    asciiLower (asciiLower s) = asciiLower s := by
  rw [asciiLower, asciiLower, String.toList_ofList, List.map_map]
  exact congrArg _ (List.map_congr_left fun c _ => c.toLower_toLower_eq_toLower)

def Markup.lowered (m : Markup) : Markup := { m with tag := asciiLower m.tag }

/-- A selector does not look at the letter case of a tag. -/
theorem Selector.admits_lowered (m : Markup) (s : Selector) : s.admits m.lowered = s.admits m := by
  cases s with
  | tag name => exact congrArg (· == asciiLower name) (asciiLower_asciiLower m.tag)
  | cls name => rfl
  | id name => rfl
  | attr name value => rfl

@[simp] theorem Markup.fits_lowered (m : Markup) (group : List Selector) :
    m.lowered.fits group = m.fits group :=
  List.any_congr rfl fun s => s.admits_lowered m

namespace Element

/-! ### Trees with every markup changed -/

section

variable {f : Markup → Markup}

theorem locatedFrom_map {cs : List Element}
    (h : ∀ c ∈ cs, (c.mapMarkups f).located = c.located.map fun l => (l.1, l.2.mapMarkups f))
    (k : Nat) :
    locatedFrom k (cs.map (mapMarkups f)) =
      (locatedFrom k cs).map fun l => (l.1, l.2.mapMarkups f) := by
  induction cs generalizing k with
  | nil => rfl
  | cons c r ih =>
      rw [List.map_cons, locatedFrom_cons, locatedFrom_cons, h c List.mem_cons_self,
        ih fun x hx => h x (List.mem_cons_of_mem _ hx)]
      simp [Function.comp_def]

theorem located_mapMarkups (f : Markup → Markup) (e : Element) :
    (e.mapMarkups f).located = e.located.map fun l => (l.1, l.2.mapMarkups f) := by
  induction e using induction_on_children with
  | node m cs ih =>
      rw [located_eq, children_mapMarkups, located_eq]
      exact locatedFrom_map ih 0

theorem descendants_mapMarkups (f : Markup → Markup) (e : Element) :
    (e.mapMarkups f).descendants = e.descendants.map (mapMarkups f) := by
  rw [← map_snd_located, located_mapMarkups, ← map_snd_located, List.map_map, List.map_map]
  rfl

theorem texts_mapMarkups (h : ∀ m, (f m).text = m.text) (e : Element) :
    (e.mapMarkups f).texts = e.texts := by
  induction e using induction_on_children with
  | node m cs ih =>
      rw [← node_markup_children ((node m cs).mapMarkups f), markup_mapMarkups,
        children_mapMarkups, texts, texts, textsIn_eq, textsIn_eq, List.flatMap_map]
      simp only [markup_node, children_node, h]
      exact congrArg _ (List.flatMap_congr ih)

/-- A change that keeps what fits the group of a pruning can be made before it or after it. -/
theorem prune_mapMarkups {group : List Selector} (h : ∀ m, (f m).fits group = m.fits group)
    (e : Element) : (e.mapMarkups f).prune group = (e.prune group).mapMarkups f := by
  induction e using induction_on_children with
  | node m cs ih =>
      rw [← node_markup_children ((node m cs).mapMarkups f), markup_mapMarkups,
        children_mapMarkups, prune, pruneIn_eq, prune,
        ← node_markup_children ((node m (pruneIn group cs)).mapMarkups f), markup_mapMarkups,
        children_mapMarkups, markup_node, markup_node, children_node, children_node, pruneIn_eq,
        List.flatMap_map, List.map_flatMap]
      refine congrArg _ (List.flatMap_congr fun c hc => ?_)
      have same : (c.mapMarkups f).fits group = c.fits group := by
        rw [fits, markup_mapMarkups, h, fits]
      rw [same]
      split
      · rfl
      · rw [ih c hc, List.map_singleton]

end

/-! ### Tags in lower case -/

def lowered (e : Element) : Element := e.mapMarkups Markup.lowered

@[simp] theorem tag_lowered (e : Element) : e.lowered.tag = asciiLower e.tag := by
  rw [tag, lowered, markup_mapMarkups]
  rfl

@[simp] theorem label_lowered (e : Element) : e.lowered.label = e.label := by
  rw [label, lowered, markup_mapMarkups]
  rfl

@[simp] theorem fits_lowered (e : Element) (group : List Selector) :
    e.lowered.fits group = e.fits group := by
  rw [fits, lowered, markup_mapMarkups, Markup.fits_lowered, fits]

@[simp] theorem texts_lowered (e : Element) : e.lowered.texts = e.texts :=
  texts_mapMarkups (f := Markup.lowered) (fun _ => rfl) e

theorem at?_lowered (e : Element) (p : Path) : e.lowered.at? p = (e.at? p).map lowered :=
  at?_mapMarkups _ e p

theorem located_lowered (e : Element) :
    e.lowered.located = e.located.map fun l => (l.1, l.2.lowered) :=
  located_mapMarkups _ e

theorem descendants_lowered (e : Element) : e.lowered.descendants = e.descendants.map lowered :=
  descendants_mapMarkups _ e

theorem texts_prune_lowered (e : Element) (group : List Selector) :
    (e.lowered.prune group).texts = (e.prune group).texts := by
  rw [lowered, prune_mapMarkups fun m => m.fits_lowered group]
  exact texts_lowered _

theorem query_lowered (e : Element) (group : List Selector) :
    e.lowered.query group = (e.query group).map lowered := by
  rw [query, descendants_lowered, List.find?_map, query]
  simp only [Function.comp_def, fits_lowered]

/-- Any search finds, with its path, what a search with each tag in lower case finds. -/
theorem find?_located_lowered (e : Element) (f : Element → Bool) :
    e.lowered.located.find? (f ·.2) =
      (e.located.find? (f ·.2.lowered)).map fun l => (l.1, l.2.lowered) := by
  rw [located_lowered, List.find?_map]
  rfl

end Element

end PageAid
