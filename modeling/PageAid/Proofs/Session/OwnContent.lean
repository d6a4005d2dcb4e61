import PageAid.Proofs.Page.Sketch
import PageAid.Proofs.Session.Calm

/-!
A page keeps its own content. Elements are put on it, changed and taken off again by identifier,
among copies of its own elements; but what is left without the added nodes, without the identifier
that the target of the link is given and without the classes of the program on the body is the
same throughout, as long as nothing is translated (`ownContent_untranslated`).
-/

namespace PageAid

def addedIds : List String := [Focus.overlayId, Guide.nodeId, SkipLink.nodeId]

namespace Markup

def isAdded (m : Markup) : Bool := addedIds.any m.hasId

def withoutMainId (m : Markup) : Markup :=
  if m.hasId SkipLink.mainId then { m with id := none } else m

/-- The markup without the classes that start like those of the program. -/
def withoutOwnClasses (m : Markup) : Markup :=
  { m with classes := m.classes.filter fun c => (Text.afterOpening? Toggle.keyStart c).isNone }

theorem isAdded_of_hasId {m : Markup} {id : String} (h : m.hasId id) (added : id ∈ addedIds) :
    m.isAdded := List.any_eq_true.2 ⟨id, added, h⟩

theorem withoutMainId_of_hasId {m : Markup} {id : String} (h : m.hasId id)
    (other : id ≠ SkipLink.mainId) : m.withoutMainId = m := by
  rw [Markup.hasId, beq_iff_eq] at h
  have not_main : m.hasId SkipLink.mainId = false := by
    simp [hasId, h, other]
  rw [withoutMainId, not_main]
  rfl

theorem withoutOwnClasses_setClass {name : String}
    (h : (Text.afterOpening? Toggle.keyStart name).isSome) (m : Markup) (on : Bool) :
    (m.setClass name on).withoutMainId.withoutOwnClasses =
      m.withoutMainId.withoutOwnClasses := by
  have own : (Text.afterOpening? Toggle.keyStart name).isNone = false := by
    simpa using h
  have classes : ((m.setClass name on).classes.filter fun c =>
      (Text.afterOpening? Toggle.keyStart c).isNone) =
        m.classes.filter fun c => (Text.afterOpening? Toggle.keyStart c).isNone := by
    rw [setClass]
    split
    · split
      · rfl
      · simp [own]
    · rw [List.filter_filter]
      refine List.filter_congr fun c _ => ?_
      by_cases same : c = name
      · simp [same, own]
      · simp [same]
  simp only [withoutMainId, hasId_setClass]
  split <;> rw [withoutOwnClasses, withoutOwnClasses, setClass_eq] <;> simp only [classes]

end Markup

namespace Element

/-- What belongs to the page itself: the body without the nodes that were put there, without the
identifier of the target of the link, and without the program's classes on the body. -/
def ownContent (body : Element) : Element :=
  (body.sketch Markup.isAdded Markup.withoutMainId).mapMarkup Markup.withoutOwnClasses

theorem ownContent_withChild {c : Element} (h : c.markup.isAdded) (e : Element) :
    (e.withChild c).ownContent = e.ownContent := by
  rw [ownContent, sketch_withChild h, ownContent]

theorem ownContent_prepended {c : Element} (h : c.markup.isAdded) (e : Element) :
    (e.prepended c).ownContent = e.ownContent := by
  rw [ownContent, sketch_prepended h, ownContent]

theorem ownContent_removeId {id : String} (added : id ∈ addedIds) (e : Element) :
    (e.removeId id).2.ownContent = e.ownContent := by
  rw [removeId_eq]
  cases h : outPath? id e with
  | none => rfl
  | some p =>
      obtain ⟨x, hx, hid, hne⟩ := hasId_of_outPath? h
      show (e.eraseAt p).ownContent = e.ownContent
      rw [ownContent, sketch_eraseAt hne hx (Markup.isAdded_of_hasId hid added), ownContent]

theorem countId_ownContent_eq_zero {e : Element} {id : String}
    (h : ∀ x ∈ e.descendants, x.markup.isAdded = false → x.hasId id = false) :
    e.ownContent.countId id = 0 := by
  rw [ownContent, countId_mapMarkup]
  refine countId_sketch_eq_zero fun x hx visible => ?_
  rw [Markup.withoutMainId]
  split
  · simp [Markup.hasId]
  · exact h x hx visible

theorem ownContent_updatedAt_of_hasId {e x : Element} {p : Path} {f : Markup → Markup}
    {id : String} (hp : p ≠ []) (hx : e.at? p = some x) (hid : x.hasId id)
    (other : id ≠ SkipLink.mainId) (kept : (f x.markup).id = x.markup.id)
    (absent : e.ownContent.countId id = 0) : (e.updatedAt p f).ownContent = e.ownContent := by
  rw [ownContent, countId_mapMarkup] at absent
  have shows : ∀ m : Markup, m.hasId id → m.withoutMainId.hasId id := by
    intro m hm
    rw [Markup.withoutMainId_of_hasId hm other, hm]
  have same : (f x.markup).isAdded = x.markup.isAdded := by
    have ids : (f x.markup).hasId = x.markup.hasId := by
      funext other
      rw [Markup.hasId, kept, Markup.hasId]
    rw [Markup.isAdded, ids, Markup.isAdded]
  rw [ownContent, sketch_updatedAt_of_countId_eq_zero hp hx hid shows same absent, ownContent]

theorem ownContent_setClass {name : String}
    (h : (Text.afterOpening? Toggle.keyStart name).isSome) (e : Element) (on : Bool) :
    (e.mapMarkup (·.setClass name on)).ownContent = e.ownContent := by
  have same := Markup.withoutOwnClasses_setClass h e.markup on
  rw [ownContent, ownContent, sketch_eq, sketch_eq, markup_mapMarkup, children_mapMarkup]
  simp only [mapMarkup, same]

end Element

namespace Session

open Element

/-! ### What the features leave -/

theorem ownContent_setEnabled (g : Guide) (d : Document) (on : Bool) :
    (g.setEnabled d on).2.body.ownContent = d.body.ownContent := by
  rw [Guide.body_setEnabled]
  split
  · exact ownContent_withChild (by decide) _
  · exact ownContent_removeId (by decide) _
  · rfl

theorem ownContent_disableFocus (s : Session) :
    s.disableFocus.document.body.ownContent = s.document.body.ownContent := by
  rw [body_disableFocus, ownContent_setClass (by decide), ownContent_removeId (by decide)]

theorem ownContent_enableFocus (s : Session) :
    s.enableFocus.2.document.body.ownContent = s.document.body.ownContent := by
  obtain ⟨-, -, same⟩ | ⟨-, -, told⟩ | ⟨article, -, -, -, shown⟩ := enableFocus_cases s
  · rw [same]
  · rw [told]
    rfl
  · have overlay : (Focus.overlay article).markup.isAdded := rfl
    rw [shown]
    show ((s.document.body.withChild (Focus.overlay article)).mapMarkup
      (·.setClass Focus.noScrollClass true)).ownContent = _
    rw [ownContent_setClass (by decide), ownContent_withChild overlay]

theorem ownContent_applyToggle (s : Session) (t : Toggle) (on : Bool) :
    (s.applyToggle t on).2.document.body.ownContent = s.document.body.ownContent := by
  unfold applyToggle
  split
  · rfl
  · exact ownContent_setClass (Toggle.isSome_afterOpening?_key t) _ on
  · exact ownContent_setEnabled s.guide s.document on
  · cases on
    · exact ownContent_disableFocus s
    · exact ownContent_enableFocus s
  · cases on
    · rfl
    · simp only [if_true, enableVoice]
      split <;> rfl

theorem ownContent_clearPeers (s : Session) (t : Toggle) :
    (s.clearPeers t).document.body.ownContent = s.document.body.ownContent :=
  clearPeers_induction (P := (·.document.body.ownContent = s.document.body.ownContent)) t rfl
    fun s' u _ hs => (ownContent_applyToggle (s'.persist u false) u false).trans hs

theorem ownContent_setToggle (s : Session) (t : Toggle) (on : Bool) :
    (s.setToggle t on).document.body.ownContent = s.document.body.ownContent := by
  rw [(quiet_setToggle s t on).body, ownContent_applyToggle]
  show (if on then s.clearPeers t else s).document.body.ownContent = _
  cases on
  · rfl
  · exact ownContent_clearPeers s t

/-- The link is an added node, and of what it leads to only the identifier that it may be given is
not shown. -/
theorem ownContent_addSkipLink (s : Session) :
    s.addSkipLink.document.body.ownContent = s.document.body.ownContent := by
  rcases body_addSkipLink s with same | ⟨p, m, -, hm, added⟩
  · rw [same]
  · have link : (SkipLink.link (m.id.getD SkipLink.mainId)).markup.isAdded := rfl
    rw [added, ownContent_prepended link, ownContent, sketch_updatedAt, ownContent]
    intro m' hm'
    obtain rfl : m = m' := Option.some.inj (hm.symm.trans hm')
    -- an identifier that is there stays, and one that is given does not show
    cases h : m.id with
    | some id =>
        have same : { m with id := some id } = m := by rw [← h]
        rw [Option.getD_some, same]
        exact ⟨rfl, rfl⟩
    | none =>
        have same : { m with id := none } = m := by rw [← h]
        have no_id : ∀ id, m.hasId id = false := by simp [Markup.hasId, h]
        have visible : m.isAdded = false := by simp [Markup.isAdded, no_id]
        refine ⟨?_, ?_⟩
        · rw [visible]
          rfl
        · simp [Markup.withoutMainId, Markup.hasId, h, same]

theorem ownContent_pointerMoved (g : Guide) (d : Document) (y : Float) :
    (g.pointerMoved d y).body.ownContent = d.body.ownContent := by
  rcases g.body_pointerMoved d y with same | ⟨p, top, hp, moved⟩
  · rw [same]
  · obtain ⟨x, hx, hid, hne⟩ := hasId_of_idPath? hp
    rw [moved]
    -- whatever carries the identifier of the band counts as added
    refine ownContent_updatedAt_of_hasId hne hx hid (by decide) rfl ?_
    refine countId_ownContent_eq_zero fun x _ visible => ?_
    have added : Guide.nodeId ∈ addedIds := by decide
    cases shown : x.hasId Guide.nodeId with
    | true => rw [Markup.isAdded_of_hasId shown added] at visible; exact visible
    | false => rfl

theorem ownContent_tick {s : Session} (due : Nat)
    (absent : s.document.body.ownContent.countId Focus.timerId = 0) :
    (s.tick due).document.body.ownContent = s.document.body.ownContent := by
  rcases body_tick s due with same | ⟨p, text, hp, shown⟩
  · rw [same]
  · obtain ⟨x, hx, hid, hne⟩ := hasId_of_idPath? hp
    rw [shown]
    exact ownContent_updatedAt_of_hasId hne hx hid (by decide) rfl absent

/-! ### Runs -/

/-- Every kind of change but translations keeps the content of a page that has no place of its own
for the time of the timer. -/
theorem steady_ownContent {own : Element} (absent : own.countId Focus.timerId = 0) :
    Steady (·.document.body.ownContent = own) where
  quiet h hs := by rw [h.body, hs]
  pause _ hs := hs
  setToggle {s t} on _ hs := (ownContent_setToggle s t on).trans hs
  changeFontSize {s} c hs := hs
  addSkipLink {s} hs := (ownContent_addSkipLink s).trans hs
  pointerMoved {s} y hs := (ownContent_pointerMoved s.guide s.document y).trans hs
  scrollTo {s} y hs := hs
  hear _ _ hs := hs
  forgetVoice {s} hs := hs
  enterFocus {s} hs := by
    have entered := (ownContent_enableFocus s).trans hs
    rw [execute_enterFocusMode]
    split <;> exact entered
  disableFocus {s} hs := (ownContent_disableFocus s).trans hs
  tick {s i due} _ hs := (ownContent_tick due (by rw [← absent, ← hs])).trans hs

theorem ownContent_restoreSettings (s : Session) :
    s.restoreSettings.document.body.ownContent = s.document.body.ownContent :=
  restoreSettings_of_kept (P := (·.document.body.ownContent = s.document.body.ownContent)) rfl
    (fun _ _ hs => hs) (fun _ _ hs => hs)
    fun s' t on hs => (ownContent_applyToggle s' t on).trans hs

/-- What the page gets to without being translated: settings are taken over, once or more often,
and whatever else may happen happens, apart from the two messages that ask for a translation. -/
inductive Untranslated (s : Session) : Session → Prop where
  | start : Untranslated s s
  | load {s' : Session} : Untranslated s s' → Untranslated s s'.restoreSettings
  | happen {s' : Session} (x : Happening)
      (h : ∀ language, x ≠ .message (.runTranslatePage language) ∧
        x ≠ .message (.runAITranslatePage language)) :
      Untranslated s s' → Untranslated s (s'.happen x)

theorem translates_eq_false {s : Session}
    (hs : s.agenda.filter (·.step.translates) = []) {x : Happening}
    (h : ∀ language, x ≠ .message (.runTranslatePage language) ∧
      x ≠ .message (.runAITranslatePage language)) : x.translates s = false := by
  cases x with
  | message m =>
      cases m with
      | runTranslatePage language => exact absurd rfl (h language).1
      | runAITranslatePage language => exact absurd rfl (h language).2
      | _ => rfl
  | event e => rfl
  | pause n => rfl
  | step i => exact Happening.translates_step hs i

/-- The page keeps its own content, whatever is done to it short of a translation. Of all
identifiers that the program has for itself, only that of the timer must not be on the page
before. -/
theorem ownContent_untranslated (platform : Platform) (document : Document) (store : Store)
    (medium : Medium) (recognition : Speech.Recognition) {s : Session}
    (clean : document.body.countId Focus.timerId = 0)
    (h : Untranslated (opened platform document store medium recognition) s) :
    s.document.body.ownContent = document.body.ownContent := by
  have absent : document.body.ownContent.countId Focus.timerId = 0 :=
    countId_ownContent_eq_zero fun x hx _ => countId_eq_zero_iff.1 clean x hx
  -- the induction needs that no step of a translation is on the agenda
  have kept : s.document.body.ownContent = document.body.ownContent ∧
      s.agenda.filter (·.step.translates) = [] := by
    induction h with
    | start => exact ⟨rfl, rfl⟩
    | @load s' _ ih =>
        refine ⟨(ownContent_restoreSettings s').trans ih.1, ?_⟩
        exact List.sublist_nil.1 (ih.2 ▸ (calm_restoreSettings s').translations)
    | @happen s' x other _ ih =>
        have calm := translates_eq_false ih.2 other
        refine ⟨(steady_ownContent absent).happen calm ih.1, ?_⟩
        exact List.sublist_nil.1 (ih.2 ▸ (calm_happen calm).translations)
  exact kept.1

/-- The page is loaded, focus mode is entered, and a link is put in front. -/
theorem ownContent_untranslated_of_focusMode :
    let document : Document :=
      { body := (Element.new "body").withChild ((Element.new "article").withText "Text") }
    let start := opened ⟨.unconfigured, fun _ => .error .missingKey, none⟩ document {} none {}
    let s := ((start.restoreSettings.happen (.message (.toggleFeature "lumen-focus-mode" true))
      ).happen (.step 0)).happen (.message .addSkipLink)
    document.body.countId Focus.timerId = 0 ∧ s.document.body.countId Focus.timerId = 1 ∧
      s.document.body.ownContent = document.body.ownContent := by
  intro document start s
  have clean : document.body.countId Focus.timerId = 0 := by decide
  have shown : s.document.body.countId Focus.timerId = 1 := by decide +kernel
  have reached : Untranslated start s :=
    .happen _ (by simp) (.happen _ (by simp) (.happen _ (by simp) (.load .start)))
  exact ⟨clean, shown, ownContent_untranslated _ document {} none {} clean reached⟩

end Session

end PageAid
