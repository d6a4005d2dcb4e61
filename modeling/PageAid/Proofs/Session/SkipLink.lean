import PageAid.Proofs.Page.First
import PageAid.Proofs.Session.Body
import Mathlib.Data.List.Nodup
import Mathlib.Logic.Function.Iterate

/-!
The link to the main content. On a page that shares no identifier with the program, and on which no
two elements share one, the link stands in front and leads to the first element that is taken for
the main content, however often it was asked for (`iterate_addSkipLink`).
-/

namespace PageAid

open Element Text

def reservedIds : List String :=
  [Guide.nodeId, Focus.overlayId, Focus.contentId, Focus.toolsId, Focus.closeId, Focus.timerId,
    SkipLink.nodeId, SkipLink.mainId]

namespace SkipLink

/-- What is taken for the main content of a page. -/
def IsTarget (x : Element) : Prop :=
  asciiLower x.tag = "main" ∨ x.markup.attrs.get? "role" = some "main" ∨
    asciiLower x.tag = "article" ∨ x.id = some "content" ∨ x.id = some "main"

theorem targets_eq : targets =
    [.tag "main", .attr "role" "main", .tag "article", .id "content", .id "main"] := by
  decide +kernel

theorem fits_targets_iff {x : Element} : x.fits targets ↔ IsTarget x := by
  have lower : asciiLower "main" = "main" ∧ asciiLower "article" = "article" := by decide +kernel
  simp [fits, Markup.fits, targets_eq, Selector.admits, Markup.hasId, IsTarget, lower, tag,
    Element.id]

/-- What became of a body when a link was put in front of it that leads, by an identifier, to the
element at a path. -/
structure Linked (old new : Element) (p : Path) (x : Element) (id : String) : Prop where
  /-- The element keeps its identifier; it is given one only if it has none. -/
  named : x.id = some id ∨ x.id = none ∧ id = mainId
  sole : new.bearers nodeId = 1
  front : ∃ link rest, new.children = link :: rest ∧ link.id = some nodeId ∧
    link.markup.attrs.get? "href" = some ("#" ++ id) ∧ link.children = []
  /-- The element stands where it stood, by one further on if that is at the top. -/
  target : new.at? p.shifted = some (x.withId id)
  found : new.findId id = some (x.withId id)
  others : ∀ q ≠ p, new.markupAt? q.shifted = old.markupAt? q

def linkTo (body : Element) (p : Path) (id : String) : Element :=
  (body.updatedAt p ({ · with id := some id })).prepended (link id)

variable {body x : Element} {p : Path} {id : String}

theorem bearers_eq_zero_of_reserved (foreign : ∀ id ∈ body.ids, id ∉ reservedIds)
    (reserved : id ∈ reservedIds) : body.bearers id = 0 := by
  rw [← count_ids, List.count_eq_zero]
  exact fun mem => foreign id mem reserved

theorem ne_nodeId (foreign : ∀ id ∈ body.ids, id ∉ reservedIds) (below : x ∈ body.descendants)
    (named : x.id = some id ∨ x.id = none ∧ id = mainId) : id ≠ nodeId := by
  rcases named with own | ⟨-, rfl⟩
  · rintro rfl
    exact foreign nodeId (mem_ids below own) (by decide)
  · decide

theorem bearers_nodeId_linkTo (foreign : ∀ id ∈ body.ids, id ∉ reservedIds)
    (here : body.at? p = some x) (other : id ≠ nodeId) :
    (linkTo body p id).bearers nodeId = 1 := by
  have counted := bearers_updatedAt_add here ({ · with id := some id }) nodeId
  have carries_not : ¬ Markup.hasId { x.markup with id := some id } nodeId := by
    simpa [Markup.hasId] using other
  rw [if_neg carries_not, bearers_eq_zero_of_reserved foreign (by decide)] at counted
  rw [linkTo, bearers_prepended, bearers_link, if_pos rfl]
  omega

theorem bearers_linkTo (distinct : body.ids.Nodup) (foreign : ∀ id ∈ body.ids, id ∉ reservedIds)
    (below : x ∈ body.descendants) (here : body.at? p = some x)
    (named : x.id = some id ∨ x.id = none ∧ id = mainId) :
    (linkTo body p id).bearers id = 1 := by
  have counted := bearers_updatedAt_add here ({ · with id := some id }) id
  have carries : Markup.hasId { x.markup with id := some id } id := beq_self_eq_true (some id)
  rw [linkTo, bearers_prepended, bearers_link, if_neg (ne_nodeId foreign below named).symm,
    Nat.add_zero]
  rw [if_pos carries] at counted
  rcases named with own | ⟨unnamed, rfl⟩
  · have carried : x.hasId id := beq_iff_eq.2 own
    rw [if_pos carried, ← count_ids body,
      List.count_eq_one_of_mem distinct (mem_ids below own)] at counted
    exact Nat.add_right_cancel counted
  · have carried_not : ¬ x.hasId mainId := fun carried =>
      Option.some_ne_none mainId ((beq_iff_eq.1 carried).symm.trans unnamed)
    rw [if_neg carried_not, bearers_eq_zero_of_reserved foreign (by decide)] at counted
    exact counted

theorem linked_linkTo (distinct : body.ids.Nodup) (foreign : ∀ id ∈ body.ids, id ∉ reservedIds)
    (ne_nil : p ≠ []) (here : body.at? p = some x)
    (named : x.id = some id ∨ x.id = none ∧ id = mainId) :
    Linked body (linkTo body p id) p x id := by
  have below : x ∈ body.descendants := mem_descendants_iff_at?.2 ⟨p, ne_nil, here⟩
  have sole : (linkTo body p id).bearers id = 1 :=
    bearers_linkTo distinct foreign below here named
  have carries : (x.withId id).hasId id := by
    rw [withId, hasId, markup_mapMarkup]
    exact beq_self_eq_true (some id)
  have target : (linkTo body p id).at? p.shifted = some (x.withId id) := by
    rw [linkTo, at?_prepended _ _ ne_nil, at?_updatedAt_self here]
    rfl
  refine ⟨named, ?_, ⟨link id, _, children_prepended _ _, rfl, ?_, rfl⟩, target, ?_, ?_⟩
  · exact bearers_nodeId_linkTo foreign here (ne_nodeId foreign below named)
  · exact Keyed.get?_insert_self _ _ _
  · exact findId_eq_some_iff.2
      ⟨_, first_of_bearers_eq_one sole (Path.shifted_ne_nil ne_nil) target carries⟩
  · intro q hq
    rw [linkTo, markupAt?_prepended, markupAt?_updatedAt, if_neg hq]

theorem Linked.isSome_findId {old new : Element} (h : Linked old new p x id) :
    (new.findId nodeId).isSome := by
  obtain ⟨link, rest, children, carries, -, -⟩ := h.front
  have mem : link ∈ new.descendants :=
    mem_descendants_iff.2 ⟨link, children ▸ List.mem_cons_self, .inl rfl⟩
  exact List.find?_isSome.2 ⟨link, mem, beq_iff_eq.2 carries⟩

end SkipLink

namespace Session

open SkipLink

theorem addSkipLink_of_isSome {s : Session} (h : (s.document.findId nodeId).isSome) :
    s.addSkipLink = s.onPage (·.focus nodeId) := by
  rw [addSkipLink, if_pos h]

theorem addSkipLink_of_forall_not {s : Session} (absent : s.document.findId nodeId = none)
    (unmatched : ∀ x ∈ s.document.body.descendants, ¬ IsTarget x) :
    s.addSkipLink = s.notify .error notFoundMessage := by
  have nowhere : s.document.body.queryPath targets = none :=
    queryPath_eq_none_iff.2 fun x mem fits => unmatched x mem (fits_targets_iff.1 fits)
  rw [addSkipLink, absent, nowhere]
  rfl

theorem addSkipLink_of_first {s : Session} {p : Path} {x : Element}
    (absent : s.document.findId nodeId = none) (first : s.document.body.First IsTarget p x) :
    s.addSkipLink = { s with document := { s.document with
      body := linkTo s.document.body p (x.id.getD mainId), focused := some nodeId } } := by
  have found : s.document.body.queryPath targets = some p :=
    queryPath_eq_some_iff.2 ⟨x, (First.congr fun _ => fits_targets_iff).2 first⟩
  rw [addSkipLink, absent, found]
  simp only [first.at?_eq]
  rfl

theorem iterate_addSkipLink_of_forall_not {s : Session}
    (absent : s.document.findId nodeId = none)
    (unmatched : ∀ x ∈ s.document.body.descendants, ¬ IsTarget x) (n : Nat) :
    addSkipLink^[n] s = { s with document := { s.document with
      notices := s.document.notices ++ List.replicate n ⟨.error, notFoundMessage⟩ } } := by
  induction n generalizing s with
  | zero => simp
  | succ n ih =>
      rw [Function.iterate_succ_apply, addSkipLink_of_forall_not absent unmatched,
        ih (s := s.notify .error notFoundMessage) absent unmatched, List.replicate_succ]
      simp [notify, onPage, Document.notify]

/-- However often the link is asked for on a page with identifiers of its own, each on one element:
either nothing on the page is taken for the main content, and all that comes of it is a notice each
time; or one link stands in front of the page and is focused, it leads to what was the first such
element, and nothing else on the page has changed. -/
theorem iterate_addSkipLink (s : Session) (distinct : s.document.body.ids.Nodup)
    (foreign : ∀ id ∈ s.document.body.ids, id ∉ reservedIds) (n : Nat) :
    (∀ x ∈ s.document.body.descendants, ¬ IsTarget x) ∧
      addSkipLink^[n + 1] s = { s with document := { s.document with
        notices := s.document.notices ++
          List.replicate (n + 1) ⟨.error, notFoundMessage⟩ } } ∨
    ∃ p x id body, s.document.body.First IsTarget p x ∧ Linked s.document.body body p x id ∧
      addSkipLink^[n + 1] s = { s with document := { s.document with
        body := body, focused := some nodeId } } := by
  have absent : s.document.findId nodeId = none := by
    have none_carries : s.document.body.bearers nodeId = 0 :=
      bearers_eq_zero_of_reserved foreign (by decide)
    have none_below : s.document.body.countId nodeId = 0 := by
      rw [bearers_eq] at none_carries
      omega
    rw [Document.findId, ← Option.not_isSome_iff_eq_none, isSome_findId_iff, none_below]
    exact Nat.lt_irrefl 0
  cases matched : s.document.body.queryPath targets with
  | none =>
      have unmatched : ∀ x ∈ s.document.body.descendants, ¬ IsTarget x := fun x mem target =>
        queryPath_eq_none_iff.1 matched x mem (fits_targets_iff.2 target)
      exact .inl ⟨unmatched, iterate_addSkipLink_of_forall_not absent unmatched (n + 1)⟩
  | some p =>
      obtain ⟨x, first⟩ := queryPath_eq_some_iff.1 matched
      have first := (First.congr fun _ => fits_targets_iff).1 first
      have named : x.id = some (x.id.getD mainId) ∨ x.id = none ∧ x.id.getD mainId = mainId := by
        cases x.id <;> simp
      have linked := linked_linkTo distinct foreign first.ne_nil first.at?_eq named
      refine .inr ⟨p, x, _, _, first, linked, ?_⟩
      rw [Function.iterate_succ_apply, addSkipLink_of_first absent first]
      refine Function.iterate_fixed ?_ n
      -- the link is found from now on, and it is focused already
      exact addSkipLink_of_isSome linked.isSome_findId

/-- The first such element stands in another one, has no identifier and comes before a `main` that
has one. It is given an identifier once, by the first of three requests. -/
theorem iterate_addSkipLink_nested :
    let x := (Element.new "article").withText "One"
    let s : Session := {
      platform := { image := fun _ => .error .missingKey }
      document := { body := ((Element.new "body").withChild (((Element.new "div").withId
        "content-wrapper").withChild x)).withChild ((Element.new "main").withId "main") } }
    s.document.body.ids.Nodup ∧ (∀ id ∈ s.document.body.ids, id ∉ reservedIds) ∧
      s.document.body.First IsTarget [0, 0] x ∧
      ∃ body, Linked s.document.body body [0, 0] x mainId ∧ addSkipLink^[3] s =
        { s with document := { s.document with body := body, focused := some nodeId } } := by
  intro x s
  have distinct : s.document.body.ids.Nodup := by decide +kernel
  have foreign : ∀ id ∈ s.document.body.ids, id ∉ reservedIds := by decide +kernel
  have nested : s.document.body.First IsTarget [0, 0] x := by
    have path : s.document.body.queryPath targets = some [0, 0] := by decide +kernel
    obtain ⟨y, first⟩ := queryPath_eq_some_iff.1 path
    obtain rfl : x = y := Option.some.inj first.at?_eq
    exact (First.congr fun _ => fits_targets_iff).1 first
  refine ⟨distinct, foreign, nested, ?_⟩
  rcases iterate_addSkipLink s distinct foreign 2 with ⟨unmatched, -⟩ | ⟨p, y, id, body, first,
    linked, result⟩
  · exact absurd nested.holds (unmatched x nested.mem_descendants)
  · obtain ⟨rfl, rfl⟩ := nested.unique first
    obtain rfl : id = mainId := by
      rcases linked.named with own | ⟨-, given⟩
      · exact absurd own.symm (Option.some_ne_none id)
      · exact given
    exact ⟨body, linked, result⟩

end Session

end PageAid
