import PageAid.Proofs.MainContent.Article
import PageAid.Proofs.Page.First
import PageAid.Proofs.Page.Removal
import PageAid.Session.Timeline

/-!
What the features of a page do to its body, in terms of additions, removals and changes at paths.
-/

namespace PageAid

open Element

theorem Document.body_updateId (d : Document) (id : String) (f : Markup → Markup) :
    (d.updateId id f).body = d.body ∨
      ∃ p, idPath? id d.body = some p ∧ (d.updateId id f).body = d.body.updatedAt p f := by
  rw [Document.updateId, updateId?_eq]
  cases h : idPath? id d.body with
  | none => exact .inl rfl
  | some p => exact .inr ⟨p, rfl, rfl⟩

/-! ### The reading guide -/

namespace Guide

def band : Element := (Element.new "div").withId nodeId

@[simp] theorem body_detached (g : Guide) (d : Document) : (g.detached d).body = d.body := by
  rw [detached]
  split <;> rfl

@[simp] theorem rootClasses_detached (g : Guide) (d : Document) :
    (g.detached d).rootClasses = d.rootClasses := by
  rw [detached]
  split <;> rfl

theorem body_setEnabled (g : Guide) (d : Document) (on : Bool) :
    (g.setEnabled d on).2.body =
      match on, active d with
      | true, false => d.body.withChild band
      | false, true => (d.body.removeId nodeId).2
      | _, _ => d.body := by
  cases on <;> cases h : active d <;>
    simp [setEnabled, h, Document.append, Document.addListener, Document.removeId, band]

theorem markup_setEnabled (g : Guide) (d : Document) (on : Bool) :
    (g.setEnabled d on).2.body.markup = d.body.markup := by
  rw [body_setEnabled]
  split <;> simp

theorem rootClasses_setEnabled (g : Guide) (d : Document) (on : Bool) :
    (g.setEnabled d on).2.rootClasses = d.rootClasses := by
  cases on <;> cases h : active d <;>
    simp [setEnabled, h, Document.append, Document.addListener, Document.removeId]

theorem body_pointerMoved (g : Guide) (d : Document) (y : Float) :
    (g.pointerMoved d y).body = d.body ∨ ∃ p top, idPath? nodeId d.body = some p ∧
      (g.pointerMoved d y).body =
        d.body.updatedAt p fun m => { m with style := m.style.insert "top" top } := by
  rw [pointerMoved]
  split
  · split
    · rcases d.body_updateId nodeId _ with same | ⟨p, hp, moved⟩
      · exact .inl same
      · exact .inr ⟨p, _, hp, moved⟩
    · exact .inl rfl
  · exact .inl rfl

theorem markup_pointerMoved (g : Guide) (d : Document) (y : Float) :
    (g.pointerMoved d y).body.markup = d.body.markup := by
  rcases g.body_pointerMoved d y with same | ⟨p, top, hp, moved⟩
  · rw [same]
  · obtain ⟨-, -, -, hne⟩ := Element.hasId_of_idPath? hp
    rw [moved, Element.markup_updatedAt_of_ne_nil hne]

theorem rootClasses_pointerMoved (g : Guide) (d : Document) (y : Float) :
    (g.pointerMoved d y).rootClasses = d.rootClasses := by
  rw [pointerMoved]
  split
  · split <;> rfl
  · rfl

end Guide

/-- The overlay for an article carries an identifier as often as an overlay without content, and
once more for each time that an element of the article does. -/
theorem Focus.bearers_overlay (article : Element) (id : String) :
    (overlay article).bearers id =
      (overlay (.node default [])).bearers id + article.countId id := by
  have content : ∀ article : Element, ((((Element.new "div").withId contentId).withText
      article.text).withChildren article.children).bearers id =
        article.countId id + if some contentId == some id then 1 else 0 := by
    intro article
    rw [bearers_eq, countId_eq_bearersIn, children_withChildren, ← countId_eq_bearersIn]
    rfl
  have none : (Element.node default []).countId id = 0 := rfl
  -- apart from the content the two overlays are the same
  obtain ⟨frame, parts⟩ : ∃ frame : Element, ∀ article, overlay article =
      frame.withChild ((((Element.new "div").withId contentId).withText
        article.text).withChildren article.children) := ⟨_, fun _ => rfl⟩
  rw [parts, parts, bearers_withChild, bearers_withChild, content, content, none]
  omega

/-! ### The link to the main content -/

namespace SkipLink

theorem hasId_link (href id : String) : (link href).hasId id = (nodeId == id) := by
  show (some nodeId == some id) = _
  rw [Option.some_beq_some]

theorem bearers_link (href id : String) :
    (link href).bearers id = if nodeId = id then 1 else 0 := by
  have none_below : (link href).countId id = 0 := rfl
  simp [bearers_eq, hasId_link, none_below]

end SkipLink

namespace Session

/-- The link is put in front of the page, and what it leads to gets an identifier unless it has
one; or there is a link or nothing to lead to, and the body stays as it is. -/
theorem body_addSkipLink (s : Session) :
    s.addSkipLink.document.body = s.document.body ∨
      ∃ p m, p ≠ [] ∧ s.document.body.markupAt? p = some m ∧
        s.addSkipLink.document.body =
          (s.document.body.updatedAt p fun m' =>
            { m' with id := some (m.id.getD SkipLink.mainId) }).prepended
              (SkipLink.link (m.id.getD SkipLink.mainId)) := by
  rw [addSkipLink]
  split
  · exact .inl rfl
  · split
    · exact .inl rfl
    · rename_i p hp
      obtain ⟨x, first⟩ := queryPath_eq_some_iff.1 hp
      refine .inr ⟨p, x.markup, first.ne_nil, by rw [markupAt?, first.at?_eq]; rfl, ?_⟩
      simp only [first.at?_eq]
      rfl

theorem markup_addSkipLink (s : Session) :
    s.addSkipLink.document.body.markup = s.document.body.markup := by
  rcases body_addSkipLink s with same | ⟨p, m, hne, -, added⟩
  · rw [same]
  · rw [added, Element.markup_prepended, Element.markup_updatedAt_of_ne_nil hne]

theorem addSkipLink_eq (s : Session) :
    s.addSkipLink = { s with document := s.addSkipLink.document } ∧
      s.addSkipLink.document.rootClasses = s.document.rootClasses := by
  rw [addSkipLink]
  split
  · exact ⟨rfl, rfl⟩
  · split
    · exact ⟨rfl, rfl⟩
    · exact ⟨rfl, rfl⟩

/-- The link and what it leads to are given no identifier but their own two. -/
theorem counts_addSkipLink (s : Session) {id : String} (link : id ≠ SkipLink.nodeId)
    (target : id ≠ SkipLink.mainId) :
    s.addSkipLink.document.body.hasId id = s.document.body.hasId id ∧
      s.addSkipLink.document.body.children.countP (·.hasId id) =
        s.document.body.children.countP (·.hasId id) ∧
      s.addSkipLink.document.body.countId id = s.document.body.countId id := by
  rcases body_addSkipLink s with same | ⟨p, m, -, hm, added⟩
  · rw [same]
    exact ⟨rfl, rfl, rfl⟩
  · have kept : s.document.body.KeepsId p
        (fun m' => { m' with id := some (m.id.getD SkipLink.mainId) }) id := by
      intro m' hm'
      obtain rfl : m = m' := Option.some.inj (hm.symm.trans hm')
      cases h : m.id with
      | none => simp [Markup.hasId, h, Ne.symm target]
      | some id => simp [Markup.hasId, h]
    rw [added]
    refine ⟨?_, ?_, ?_⟩
    · rw [hasId, markup_prepended, ← hasId, hasId_updatedAt kept]
    · rw [children_prepended, List.countP_cons, countP_children_updatedAt kept]
      simp [SkipLink.hasId_link, link.symm]
    · rw [countId_prepended, SkipLink.bearers_link, if_neg link.symm, countId_updatedAt kept,
        Nat.add_zero]

/-! ### Focus mode and its timer -/

theorem document_tick (s : Session) (due : Nat) :
    (s.tick due).document =
      match s.pomodoro with
      | none => s.document
      | some state =>
        s.document.updateId Focus.timerId ({ · with text := state.tick.2.display }) := by
  unfold tick
  cases s.pomodoro with
  | none => rfl
  | some state =>
      dsimp only
      split <;> rfl

theorem body_tick (s : Session) (due : Nat) :
    (s.tick due).document.body = s.document.body ∨
      ∃ p text, idPath? Focus.timerId s.document.body = some p ∧
        (s.tick due).document.body =
          s.document.body.updatedAt p fun m => { m with text := text } := by
  rw [document_tick]
  cases s.pomodoro with
  | none => exact .inl rfl
  | some state =>
      rcases s.document.body_updateId Focus.timerId _ with same | ⟨p, hp, shown⟩
      · exact .inl same
      · exact .inr ⟨p, _, hp, shown⟩

theorem markup_tick (s : Session) (due : Nat) :
    (s.tick due).document.body.markup = s.document.body.markup := by
  rcases body_tick s due with same | ⟨p, text, hp, shown⟩
  · rw [same]
  · obtain ⟨-, -, -, hne⟩ := Element.hasId_of_idPath? hp
    rw [shown, Element.markup_updatedAt_of_ne_nil hne]

theorem rootClasses_tick (s : Session) (due : Nat) :
    (s.tick due).document.rootClasses = s.document.rootClasses := by
  rw [document_tick]
  split <;> rfl

theorem store_tick (s : Session) (due : Nat) : (s.tick due).store = s.store := by
  rw [tick]
  split
  · rfl
  · dsimp only
    split <;> rfl

theorem focus_tick (s : Session) (due : Nat) : (s.tick due).focus = s.focus := by
  rw [tick]
  split
  · rfl
  · dsimp only
    split <;> rfl

theorem body_disableFocus (s : Session) :
    s.disableFocus.document.body =
      (s.document.body.removeId Focus.overlayId).2.mapMarkup
        (·.setClass Focus.noScrollClass false) := rfl

/-- Focus mode is switched on only from where it is off, and only for an article. -/
theorem enableFocus_cases (s : Session) :
    (s.focus.isSome ∧ (s.enableFocus).1.isSome ∧ (s.enableFocus).2 = s) ∨
    (s.focus = none ∧ (s.enableFocus).1.isSome ∧
      (s.enableFocus).2 = (s.notify .error Focus.notFoundMessage).persist .focusMode false) ∨
    ∃ article ∈ s.document.body.descendants, s.focus = none ∧ (s.enableFocus).1 = none ∧
      (s.enableFocus).2 = ({ s.onPage (fun d => (d.append (Focus.overlay article)).setBodyClass
          Focus.noScrollClass true) with
        focus := some ⟨article.tag, MainContent.textSize article⟩ } : Session).startTimer
          s.store.settings.durations := by
  unfold enableFocus
  split
  · rename_i on
    exact .inl ⟨on, rfl, rfl⟩
  · rename_i off
    have off : s.focus = none := by simpa using off
    split
    · exact .inr (.inl ⟨off, rfl, rfl⟩)
    · rename_i article ha
      exact .inr (.inr ⟨article, MainContent.mem_of_article? ha, off, rfl, rfl⟩)

/-- Spoken, the switch is recorded as on only once focus mode has come up. -/
theorem execute_enterFocusMode (s : Session) :
    s.execute .enterFocusMode =
      if s.enableFocus.1.isSome then s.enableFocus.2
      else s.enableFocus.2.persist .focusMode true := by
  rw [execute]
  generalize s.enableFocus = r
  obtain ⟨failure, s'⟩ := r
  cases failure <;> rfl

end Session

end PageAid
