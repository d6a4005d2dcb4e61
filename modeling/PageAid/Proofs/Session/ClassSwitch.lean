import Mathlib.Data.List.Induction
import PageAid.Proofs.Session.ColorFilter

/-!
The switches that are nothing but a class, of the root or of the body. Such a switch is shown and
recorded by the same operations, and by these alone: whatever else happens to the page leaves all
of them alone (`sameClasses_happen`). So at the end of a run each of them is as the settings made
since its beginning have left it (`lastSetting_decides`).
-/

namespace PageAid

/-! ### Classes -/

theorem Markup.hasClass_setClass (m : Markup) (name other : String) (on : Bool) :
    (m.setClass name on).hasClass other = if name = other then on else m.hasClass other := by
  rw [setClass]
  by_cases h : name = other
  · subst h
    split
    · rename_i on
      rw [if_pos rfl, on]
      split
      · assumption
      · simp [hasClass]
    · rename_i off
      simp [hasClass, off]
  · rw [if_neg h]
    split
    · split
      · rfl
      · simp [hasClass, Ne.symm h]
    · simp only [hasClass, List.contains_eq_mem, List.mem_filter]
      simp [Ne.symm h]

namespace Document

/-- The root or the body, whichever a kind of switch is applied to, has a class. -/
def hasClass (d : Document) (target : Toggle.Target) (name : String) : Bool :=
  match target with
  | .rootClass => d.hasRootClass name
  | .bodyClass => d.hasBodyClass name
  | _ => false

/-- The class of a switch stands where the switch is applied. -/
def shows (d : Document) (t : Toggle) : Bool := d.hasClass t.target t.key

theorem hasClass_setRootClass (d : Document) (key : String) (on : Bool) (target : Toggle.Target)
    (name : String) :
    (d.setRootClass key on).hasClass target name =
      if target = .rootClass ∧ key = name then on else d.hasClass target name := by
  cases target with
  | rootClass => simpa [hasClass] using hasRootClass_setRootClass d key name on
  | _ => rfl

theorem hasBodyClass_setBodyClass (d : Document) (name other : String) (on : Bool) :
    (d.setBodyClass name on).hasBodyClass other =
      if name = other then on else d.hasBodyClass other := by
  rw [hasBodyClass, setBodyClass, Element.markup_mapMarkup, Markup.hasClass_setClass, hasBodyClass]

theorem hasClass_setBodyClass (d : Document) (key : String) (on : Bool) (target : Toggle.Target)
    (name : String) :
    (d.setBodyClass key on).hasClass target name =
      if target = .bodyClass ∧ key = name then on else d.hasClass target name := by
  cases target with
  | bodyClass => simpa [hasClass] using hasBodyClass_setBodyClass d key name on
  | _ => rfl

theorem hasBodyClass_of_markup_eq {d d' : Document} (h : d'.body.markup = d.body.markup)
    (name : String) : d'.hasBodyClass name = d.hasBodyClass name := by
  rw [hasBodyClass, h, hasBodyClass]

end Document

namespace Toggle

def isClass (t : Toggle) : Bool := t.target == .rootClass || t.target == .bodyClass

theorem isClass_of_mem_colorFilters {t : Toggle} (h : t ∈ colorFilters) : t.isClass := by
  rw [isClass, target_of_mem_colorFilters h]
  rfl

end Toggle

namespace Session

/-! ### Changes that leave the classes alone -/

/-- From `s` to `s'` neither the classes of root and body nor the records of the switches that are
classes change; the class that focus mode puts on the body is not among them. -/
structure SameClasses (s s' : Session) : Prop where
  root : s'.document.rootClasses = s.document.rootClasses
  body : ∀ name, name ≠ Focus.noScrollClass →
    s'.document.hasBodyClass name = s.document.hasBodyClass name
  recorded : ∀ t : Toggle, t.Readable → t.isClass → s'.flag t = s.flag t

namespace SameClasses

variable {s s' s'' : Session}

theorem refl (s : Session) : SameClasses s s := ⟨rfl, fun _ _ => rfl, fun _ _ _ => rfl⟩

theorem trans (h : SameClasses s s') (h' : SameClasses s' s'') : SameClasses s s'' where
  root := h'.root.trans h.root
  body name hn := (h'.body name hn).trans (h.body name hn)
  recorded t ht hc := (h'.recorded t ht hc).trans (h.recorded t ht hc)

theorem of_markup (store : s'.store = s.store)
    (root : s'.document.rootClasses = s.document.rootClasses)
    (body : s'.document.body.markup = s.document.body.markup) : SameClasses s s' where
  root := root
  body name _ := Document.hasBodyClass_of_markup_eq body name
  recorded t _ _ := by rw [flag, store, flag]

theorem of_aside (h : Aside s s') : SameClasses s s' where
  root := h.rootClasses
  body name _ := h.hasBodyClass name
  recorded t _ _ := h.flag t

theorem hasClass (h : SameClasses s s') {target : Toggle.Target} {name : String}
    (other : target = .bodyClass → name ≠ Focus.noScrollClass) :
    s'.document.hasClass target name = s.document.hasClass target name := by
  cases target with
  | rootClass =>
      show s'.document.rootClasses.has name = s.document.rootClasses.has name
      rw [h.root]
  | bodyClass => exact h.body name (other rfl)
  | _ => rfl

end SameClasses

theorem sameClasses_storeValue (s : Session) {key : String} (v : Json)
    (h : ∀ t : Toggle, t.Readable → t.isClass → key ≠ t.key) :
    SameClasses s (s.storeValue .device key v) where
  root := rfl
  body _ _ := rfl
  recorded t ht hc := by rw [flag_storeValue, if_neg (h t ht hc)]

theorem sameClasses_persist (s : Session) {t : Toggle} (ht : t.Readable)
    (h : t.isClass = false) (on : Bool) : SameClasses s (s.persist t on) := by
  refine sameClasses_storeValue s _ fun u hu hc same => ?_
  obtain rfl := (ht.key_eq_iff hu).1 same
  simp [hc] at h

theorem sameClasses_setNoScroll (s : Session) (on : Bool) :
    SameClasses s (s.onPage (·.setBodyClass Focus.noScrollClass on)) where
  root := rfl
  body name hn := by
    rw [onPage, Document.hasBodyClass_setBodyClass, if_neg (Ne.symm hn)]
  recorded _ _ _ := rfl

theorem sameClasses_disableFocus (s : Session) : SameClasses s s.disableFocus := by
  have removed : SameClasses s (s.onPage fun d => (d.removeId Focus.overlayId).2) :=
    SameClasses.of_markup rfl rfl (Element.markup_removeId _ _)
  have page := removed.trans (sameClasses_setNoScroll _ false)
  rw [disableFocus]
  refine SameClasses.trans ?_ (sameClasses_persist _ Toggle.readable_focusMode rfl false)
  exact page.trans (SameClasses.of_markup rfl rfl rfl)

theorem sameClasses_enableFocus (s : Session) : SameClasses s s.enableFocus.2 := by
  obtain ⟨-, -, same⟩ | ⟨-, -, told⟩ | ⟨article, -, -, -, shown⟩ := enableFocus_cases s
  · rw [same]
    exact SameClasses.refl s
  · rw [told]
    exact (SameClasses.of_aside (quiet_notify s _ _).toAside).trans
      (sameClasses_persist _ Toggle.readable_focusMode rfl false)
  · rw [shown]
    have appended : SameClasses s (s.onPage (·.append (Focus.overlay article))) :=
      SameClasses.of_markup rfl rfl (Element.markup_withChild _ _)
    have page := appended.trans (sameClasses_setNoScroll _ true)
    exact page.trans (SameClasses.of_markup rfl rfl rfl)

theorem sameClasses_applyToggle (s : Session) {t : Toggle} (h : t.isClass = false) (on : Bool) :
    SameClasses s (s.applyToggle t on).2 := by
  unfold applyToggle
  split
  · rename_i target
    simp [Toggle.isClass, target] at h
  · rename_i target
    simp [Toggle.isClass, target] at h
  · exact SameClasses.of_markup rfl (Guide.rootClasses_setEnabled _ _ on)
      (Guide.markup_setEnabled _ _ on)
  · cases on
    · exact sameClasses_disableFocus s
    · exact sameClasses_enableFocus s
  · cases on
    · exact SameClasses.of_markup rfl rfl rfl
    · simp only [if_true, enableVoice]
      split
      · exact SameClasses.of_markup rfl rfl rfl
      · exact SameClasses.refl s

theorem sameClasses_setToggle (s : Session) {t : Toggle} (ht : t.Readable)
    (h : t.isClass = false) (on : Bool) : SameClasses s (s.setToggle t on) := by
  have other : t ∉ Toggle.colorFilters := by
    intro filter
    simp [Toggle.isClass_of_mem_colorFilters filter] at h
  refine SameClasses.trans ?_ (SameClasses.of_aside (quiet_setToggle s t on).toAside)
  rw [clearPeers_of_notMem s other, ite_self]
  exact (sameClasses_persist s ht h on).trans (sameClasses_applyToggle _ h on)

theorem sameClasses_addSkipLink (s : Session) : SameClasses s s.addSkipLink := by
  obtain ⟨rest, classes⟩ := addSkipLink_eq s
  exact SameClasses.of_markup (by rw [rest]) classes (markup_addSkipLink s)

theorem sameClasses_pointerMoved (s : Session) (y : Float) :
    SameClasses s (s.pointerMoved y) :=
  SameClasses.of_markup rfl (s.guide.rootClasses_pointerMoved s.document y)
    (s.guide.markup_pointerMoved s.document y)

theorem sameClasses_tick (s : Session) (due : Nat) : SameClasses s (s.tick due) :=
  SameClasses.of_markup (store_tick s due) (rootClasses_tick s due) (markup_tick s due)

theorem sameClasses_changeFontSize (s : Session) (c : FontChange) :
    SameClasses s (s.changeFontSize c).2 := by
  have resized : SameClasses s (s.showFontScale (nextFontScale s.store.settings.fontScale c)) :=
    SameClasses.of_markup rfl rfl rfl
  exact resized.trans
    (sameClasses_storeValue _ _ fun t ht _ => ht.key_ne_fontScaleKey.symm)

theorem sameClasses_execute (s : Session) (c : Speech.Command) :
    SameClasses s (s.execute c) := by
  cases c with
  | enterFocusMode =>
      rw [execute_enterFocusMode]
      split
      · exact sameClasses_enableFocus s
      · exact (sameClasses_enableFocus s).trans
          (sameClasses_persist _ Toggle.readable_focusMode rfl true)
  | exitFocusMode => exact sameClasses_disableFocus s
  | disableVoice =>
      have recorded := sameClasses_persist s Toggle.readable_voiceControl rfl false
      exact recorded.trans (SameClasses.of_markup rfl rfl rfl)
  | _ => exact SameClasses.of_markup rfl rfl rfl

theorem sameClasses_voiceEvent (s : Session) (e : Speech.Event) :
    SameClasses s (s.voiceEvent e).2 := by
  obtain ⟨c, -, hc⟩ | ⟨-, ⟨voice, recognition, hv⟩ | ⟨voice, recognition, hv⟩⟩ :=
    voiceEvent_cases s e
  · rw [hc]
    exact sameClasses_execute s c
  · rw [hv]
    exact SameClasses.of_markup rfl rfl rfl
  · rw [hv]
    have heard : SameClasses s { s with voice := voice, recognition := recognition } :=
      SameClasses.of_markup rfl rfl rfl
    have recorded := sameClasses_persist { s with voice := voice, recognition := recognition }
      Toggle.readable_voiceControl rfl false
    exact (heard.trans recorded).trans (SameClasses.of_aside (quiet_notify _ _ _).toAside)

/-- The switch that a message sets, and how. -/
def Happening.setting? : Happening → Option (Toggle × Bool)
  | .message (.toggleFeature key on) => (Toggle.ofKey? key).map (·, on)
  | _ => none

theorem Happening.setting?_eq_some_iff {x : Happening} {t : Toggle} {on : Bool} :
    x.setting? = some (t, on) ↔ t.Readable ∧ x = .message (.toggleFeature t.key on) := by
  constructor
  · intro h
    unfold setting? at h
    split at h
    · rename_i key on'
      obtain ⟨t', ht, same⟩ := Option.map_eq_some_iff.1 h
      obtain ⟨rfl, rfl⟩ := Prod.mk.inj same
      exact ⟨Toggle.readable_of_ofKey? ht, by rw [Toggle.key_of_ofKey? ht]⟩
    · simp at h
  · rintro ⟨ht, rfl⟩
    rw [setting?, ht]
    rfl

theorem happen_of_setting? (s : Session) {x : Happening} {t : Toggle} {on : Bool}
    (h : x.setting? = some (t, on)) : s.happen x = s.setToggle t on := by
  obtain ⟨ht, rfl⟩ := Happening.setting?_eq_some_iff.1 h
  simp only [happen, receive, task?]
  rw [ht]

theorem sameClasses_happen (s : Session) {x : Happening} (h : x.setting? = none) :
    SameClasses s (s.happen x) := by
  have change := change_happen s x
  generalize s.happen x = s' at change
  cases change with
  | stayed => exact SameClasses.refl s
  | waited n => exact SameClasses.of_markup rfl rfl rfl
  | asked m task _ => exact SameClasses.of_markup rfl rfl rfl
  | toggled key t on ht => simp [Happening.setting?, ht] at h
  | resized c => exact sameClasses_changeFontSize s c
  | linked => exact sameClasses_addSkipLink s
  | pointed y => exact sameClasses_pointerMoved s y
  | heard e => exact sameClasses_voiceEvent s e
  | left => exact sameClasses_disableFocus s
  | spoke success => exact SameClasses.of_aside (quiet_speechFinished s success).toAside
  | ticked i due _ =>
      have taken : SameClasses s { s with agenda := s.agenda.eraseIdx i } :=
        SameClasses.of_markup rfl rfl rfl
      exact taken.trans (sameClasses_tick _ due)
  | performed i e he ht => exact SameClasses.of_aside (aside_performed he ht)

/-! ### Setting a switch that is a class -/

theorem applyToggle_class (s : Session) {t : Toggle} (h : t.isClass) (on : Bool) :
    (s.applyToggle t on).2.store = s.store ∧ ∀ target name,
      (s.applyToggle t on).2.document.hasClass target name =
        if target = t.target ∧ t.key = name then on else s.document.hasClass target name := by
  unfold applyToggle
  split
  · rename_i root
    rw [root]
    exact ⟨rfl, s.document.hasClass_setRootClass t.key on⟩
  · rename_i body
    rw [body]
    exact ⟨rfl, s.document.hasClass_setBodyClass t.key on⟩
  all_goals
    rename_i target
    simp [Toggle.isClass, target] at h

/-- An observation of the page that is set along with the switches in `own`, all of them classes,
and by nothing else. -/
structure SetBy (o : Session → Bool) (own : Toggle → Bool) : Prop where
  isClass {t : Toggle} : own t → t.isClass
  same {s s' : Session} : SameClasses s s' → o s' = o s
  put (s : Session) {t : Toggle} (on : Bool) : t.Readable → t.isClass →
    o ((s.persist t on).applyToggle t on).2 = if own t then on else o s
  apart (s : Session) {t : Toggle} (on : Bool) : t.Readable → t.isClass → own t = false →
    o (s.applyToggle t on).2 = o s

/-- What was observed as `before` is `on` once a switch in `own` is set, and off once a switch is
set on that excludes one in `own`. -/
def Happening.leaves (own : Toggle → Bool) (x : Happening) (before : Bool) : Bool :=
  match x.setting? with
  | some (t, on) => if own t then on else if on && t.peers.any own then false else before
  | none => before

namespace SetBy

variable {o : Session → Bool} {own : Toggle → Bool}

theorem clearPeers (h : SetBy o own) (s : Session) (t : Toggle) :
    o (s.clearPeers t) = if t.peers.any own then false else o s := by
  have filters : ∀ u ∈ t.peers, u ∈ Toggle.colorFilters :=
    fun _ => Toggle.mem_colorFilters_of_mem_peers
  rw [Session.clearPeers]
  generalize t.peers = peers at filters
  induction peers generalizing s with
  | nil => rfl
  | cons u r ih =>
      obtain ⟨hu, hr⟩ := List.forall_mem_cons.1 filters
      have cleared := h.put s false (Toggle.readable_of_mem_colorFilters hu)
        (Toggle.isClass_of_mem_colorFilters hu)
      rw [List.foldl_cons, ih _ hr, cleared, List.any_cons]
      cases own u <;> cases r.any own <;> rfl

theorem setToggle (h : SetBy o own) (s : Session) {t : Toggle} (ht : t.Readable) (on : Bool) :
    o (s.setToggle t on) =
      if own t then on else if on && t.peers.any own then false else o s := by
  cases hc : t.isClass with
  | true =>
      rw [h.same (SameClasses.of_aside (quiet_setToggle s t on).toAside), h.put _ on ht hc]
      cases on with
      | false => rfl
      | true => rw [if_pos rfl, h.clearPeers, Bool.true_and]
  | false =>
      -- it is not in `own` then, and excludes nothing
      have outside : own t = false := by
        cases ho : own t with
        | true => rw [h.isClass ho] at hc; exact hc
        | false => rfl
      have none : t.peers = [] := by
        rw [Toggle.peers, Toggle.isColorFilter, if_neg]
        intro filter
        rw [Toggle.isClass_of_mem_colorFilters (by simpa using filter)] at hc
        simp at hc
      rw [h.same (sameClasses_setToggle s ht hc on), outside, none]
      simp

theorem happen (h : SetBy o own) (s : Session) (x : Happening) :
    o (s.happen x) = x.leaves own (o s) := by
  rw [Happening.leaves]
  cases hx : x.setting? with
  | none => exact h.same (sameClasses_happen s hx)
  | some setting =>
      obtain ⟨t, on⟩ := setting
      rw [happen_of_setting? s hx]
      exact h.setToggle s (Happening.setting?_eq_some_iff.1 hx).1 on

theorem run (h : SetBy o own) (s : Session) (hs : List Happening) :
    o (s.run hs) = hs.foldl (fun before x => x.leaves own before) (o s) := by
  induction hs generalizing s with
  | nil => rfl
  | cons x r ih =>
      rw [List.foldl_cons, ← h.happen]
      exact ih (s.happen x)

end SetBy

theorem setBy_flag {u : Toggle} (hu : u.Readable) (hc : u.isClass) :
    SetBy (·.flag u) (· == u) where
  isClass ho := by rwa [eq_of_beq ho]
  same h := h.recorded u hu hc
  put s t on ht hc' := by
    show Session.flag _ u = _
    rw [flag, (applyToggle_class _ hc' on).1, ← flag, flag_persist ht hu]
    simp
  apart s t on _ hc' _ := by
    show Session.flag _ u = _
    rw [flag, (applyToggle_class _ hc' on).1, flag]

theorem setBy_shows {u : Toggle} (hu : u.Readable) (hc : u.isClass)
    (other : u.key ≠ Focus.noScrollClass) : SetBy (·.document.shows u) (· == u) := by
  have applied : ∀ (s : Session) {t : Toggle} (on : Bool), t.Readable → t.isClass →
      (s.applyToggle t on).2.document.shows u = if t == u then on else s.document.shows u := by
    intro s t on ht hc'
    have same : (u.target = t.target ∧ t.key = u.key) ↔ t = u :=
      ⟨fun h => (ht.key_eq_iff hu).1 h.2, fun h => h ▸ ⟨rfl, rfl⟩⟩
    rw [Document.shows, (applyToggle_class s hc' on).2]
    simp only [same, beq_iff_eq]
    rfl
  refine ⟨fun ho => by rwa [eq_of_beq ho], fun h => h.hasClass fun _ => other, ?_, ?_⟩
  · exact fun s t on => applied (s.persist t on) on
  · intro s t on ht hc' outside
    simpa [outside] using applied s on ht hc'

theorem setBy_none {target : Toggle.Target} {name : String}
    (other : target = .bodyClass → name ≠ Focus.noScrollClass)
    (free : ∀ t : Toggle, t.Readable → t.isClass → t.target = target → t.key ≠ name) :
    SetBy (·.document.hasClass target name) fun _ => false := by
  have applied : ∀ (s : Session) {t : Toggle} (on : Bool), t.Readable → t.isClass →
      (s.applyToggle t on).2.document.hasClass target name =
        s.document.hasClass target name := by
    intro s t on ht hc
    rw [(applyToggle_class s hc on).2, if_neg fun h => free t ht hc h.1.symm h.2]
  refine ⟨fun ho => by simp at ho, fun h => h.hasClass other, ?_, ?_⟩
  · exact fun s t on ht hc => applied (s.persist t on) on ht hc
  · exact fun s t on ht hc _ => applied s on ht hc

/-! ### The last setting -/

/-- The happening neither sets the switch nor, where it is a colour filter, another one on. -/
def Happening.spares (t : Toggle) (x : Happening) : Prop :=
  (∀ on, x ≠ .message (.toggleFeature t.key on)) ∧
    (t ∈ Toggle.colorFilters → ∀ u ∈ Toggle.colorFilters, u ≠ t →
      x ≠ .message (.toggleFeature u.key true))

theorem spares_of_setting?_eq_none {t : Toggle} (ht : t.Readable) {x : Happening}
    (h : x.setting? = none) : x.spares t := by
  have unset : ∀ u : Toggle, u.Readable → ∀ on, x ≠ .message (.toggleFeature u.key on) := by
    intro u hu on same
    rw [Happening.setting?_eq_some_iff.2 ⟨hu, same⟩] at h
    simp at h
  exact ⟨unset t ht, fun _ u hu _ => unset u (Toggle.readable_of_mem_colorFilters hu) true⟩

theorem any_peers_iff {t u : Toggle} :
    u.peers.any (· == t) = true ↔
      u ∈ Toggle.colorFilters ∧ t ∈ Toggle.colorFilters ∧ u ≠ t := by
  rw [List.any_beq', List.contains_iff_mem, Toggle.peers, Toggle.isColorFilter]
  split
  · rename_i filter
    have filter : u ∈ Toggle.colorFilters := by simpa using filter
    rw [List.mem_filter, bne_iff_ne, ne_comm]
    exact (and_iff_right filter).symm
  · rename_i other
    have other : u ∉ Toggle.colorFilters := by simpa using other
    simp [other]

theorem toggleFeature_eq_iff {t u : Toggle} (ht : t.Readable) (hu : u.Readable)
    {on on' : Bool} :
    Happening.message (.toggleFeature u.key on) = .message (.toggleFeature t.key on') ↔
      u = t ∧ on = on' := by
  rw [Happening.message.injEq, Message.toggleFeature.injEq, hu.key_eq_iff ht]

theorem spares_of_ne_iff {t u : Toggle} (ht : t.Readable) (hu : u.Readable) (ne : u ≠ t)
    (on : Bool) :
    (Happening.message (.toggleFeature u.key on)).spares t ↔
      (on && u.peers.any (· == t)) = false := by
  rw [Bool.and_eq_false_iff, ← Bool.not_eq_true (u.peers.any _), any_peers_iff]
  constructor
  · rintro ⟨-, others⟩
    cases on with
    | false => exact .inl rfl
    | true => exact .inr fun ⟨filter, filter', _⟩ => others filter' u filter ne rfl
  · intro h
    refine ⟨fun on' same => ne ((toggleFeature_eq_iff ht hu).1 same).1, ?_⟩
    intro filter w hw _ same
    have readable := Toggle.readable_of_mem_colorFilters hw
    obtain ⟨rfl, rfl⟩ := (toggleFeature_eq_iff readable hu).1 same
    rcases h with h | h
    · simp at h
    · exact h ⟨hw, filter, ne⟩

theorem leaves_eq_true_iff {t : Toggle} (ht : t.Readable) (x : Happening) (before : Bool) :
    x.leaves (· == t) before = true ↔
      x = .message (.toggleFeature t.key true) ∨ x.spares t ∧ before = true := by
  rw [Happening.leaves]
  cases hx : x.setting? with
  | none =>
      have spared := spares_of_setting?_eq_none ht hx
      have unset := spared.1 true
      simp [spared, unset]
  | some setting =>
      obtain ⟨u, on⟩ := setting
      obtain ⟨hu, rfl⟩ := Happening.setting?_eq_some_iff.1 hx
      rw [toggleFeature_eq_iff ht hu]
      by_cases same : u = t
      · subst same
        have not_spared : ¬(Happening.message (.toggleFeature u.key on)).spares u :=
          fun h => h.1 on rfl
        simp [not_spared]
      · rw [spares_of_ne_iff ht hu same]
        dsimp only
        generalize (on && u.peers.any (· == t)) = excluded
        cases excluded <;> simp [same]

/-- In a list with one more entry at its end, that entry is `x`, or it is one of those that may
follow and there is an `x` before. -/
theorem exists_followed_concat_iff {α : Type} {x y : α} {l : List α} {may : α → Prop} :
    (∃ a b, l ++ [y] = a ++ x :: b ∧ ∀ z ∈ b, may z) ↔
      y = x ∨ may y ∧ ∃ a b, l = a ++ x :: b ∧ ∀ z ∈ b, may z := by
  constructor
  · rintro ⟨a, b, h, hb⟩
    rcases List.eq_nil_or_concat b with rfl | ⟨b, z, rfl⟩
    · exact .inl (List.cons.inj (List.append_inj' h rfl).2).1
    · have h : l ++ [y] = (a ++ x :: b) ++ [z] := by simpa using h
      obtain ⟨rfl, last⟩ := List.append_inj' h rfl
      obtain ⟨rfl, -⟩ := List.cons.inj last
      exact .inr ⟨hb y (by simp), a, b, rfl, fun z hz => hb z (by simp [hz])⟩
  · rintro (rfl | ⟨hy, a, b, rfl, hb⟩)
    · exact ⟨l, [], rfl, by simp⟩
    · refine ⟨a, b ++ [y], by simp, fun z hz => ?_⟩
      rcases List.mem_append.1 hz with hz | hz
      · exact hb z hz
      · exact List.mem_singleton.1 hz ▸ hy

/-- After a run a switch that was off is on if the last happening that does not spare it sets it
on. -/
theorem foldl_leaves_iff {t : Toggle} (ht : t.Readable) (hs : List Happening) :
    hs.foldl (fun before x => x.leaves (· == t) before) false = true ↔
      ∃ earlier later, hs = earlier ++ .message (.toggleFeature t.key true) :: later ∧
        ∀ x ∈ later, x.spares t := by
  induction hs using List.reverseRecOn with
  | nil => simp
  | append_singleton l x ih =>
      rw [List.foldl_append, List.foldl_cons, List.foldl_nil, leaves_eq_true_iff ht, ih,
        exists_followed_concat_iff]

/-- On a page without a class of the program and without a record of a switch, whatever happens to
it: a switch that is a class is shown just when it is recorded as on, and it is recorded as on just
when the last message that set it has set it on and, if it is a colour filter, no message after
that one has set another colour filter on. The class that focus mode puts on the body is no
switch's. -/
theorem lastSetting_decides (s : Session) (hs : List Happening)
    (empty : s.store.settings.device.entries = [])
    (clean : ∀ target name, (Text.afterOpening? Toggle.keyStart name).isSome →
      s.document.hasClass target name = false)
    {key : String} {t : Toggle} (ht : Toggle.ofKey? key = some t) (hc : t.isClass)
    (other : key ≠ Focus.noScrollClass) :
    ((s.run hs).document.hasClass t.target key ↔ (s.run hs).flag t) ∧
      ((s.run hs).flag t ↔
        ∃ earlier later, hs = earlier ++ .message (.toggleFeature key true) :: later ∧
          (∀ on, .message (.toggleFeature key on) ∉ later) ∧
          (t ∈ Toggle.colorFilters → ∀ u ∈ Toggle.colorFilters, u ≠ t →
            .message (.toggleFeature u.key true) ∉ later)) := by
  have readable := Toggle.readable_of_ofKey? ht
  obtain rfl := Toggle.key_of_ofKey? ht
  have unset : s.flag t = false := flag_of_notMem (by simp [empty])
  have hidden : s.document.shows t = false :=
    clean t.target t.key (Toggle.isSome_afterOpening?_key t)
  have recorded := (setBy_flag readable hc).run s hs
  have shown := (setBy_shows readable hc other).run s hs
  rw [unset] at recorded
  rw [hidden] at shown
  refine ⟨?_, ?_⟩
  · show (s.run hs).document.shows t = true ↔ _
    rw [shown, recorded]
  · rw [recorded, foldl_leaves_iff readable]
    constructor
    · rintro ⟨earlier, later, same, spared⟩
      exact ⟨earlier, later, same, fun on h => (spared _ h).1 on rfl,
        fun filter u hu ne h => (spared _ h).2 filter u hu ne rfl⟩
    · rintro ⟨earlier, later, same, unset, others⟩
      refine ⟨earlier, later, same, fun x hx => ⟨?_, ?_⟩⟩
      · rintro on rfl
        exact unset on hx
      · rintro filter u hu ne rfl
        exact others filter u hu ne hx

/-- One filter after another on an empty page: the first one goes off with the second. -/
theorem lastSetting_decides_of_filters :
    let s := opened ⟨.unconfigured, fun _ => .error .missingKey, none⟩ {} {} none {}
    let hs := [.message (.toggleFeature "lumen-tritanopia" true),
      .message (.toggleFeature "lumen-protanopia" true)]
    let key := "lumen-protanopia"
    s.store.settings.device.entries = [] ∧
      (∀ target name, (Text.afterOpening? Toggle.keyStart name).isSome →
        s.document.hasClass target name = false) ∧
      Toggle.ofKey? key = some .protanopia ∧ Toggle.protanopia.isClass ∧
      key ≠ Focus.noScrollClass ∧ (s.run hs).flag .tritanopia = false ∧
      ((s.run hs).document.hasClass .rootClass key ↔ (s.run hs).flag .protanopia) ∧
      ((s.run hs).flag .protanopia ↔
        ∃ earlier later, hs = earlier ++ .message (.toggleFeature key true) :: later ∧
          (∀ on, .message (.toggleFeature key on) ∉ later) ∧
          (Toggle.protanopia ∈ Toggle.colorFilters →
            ∀ u ∈ Toggle.colorFilters, u ≠ Toggle.protanopia →
              .message (.toggleFeature u.key true) ∉ later)) := by
  intro s hs key
  have clean : ∀ target name, (Text.afterOpening? Toggle.keyStart name).isSome →
      s.document.hasClass target name = false := by
    intro target name _
    cases target <;> rfl
  have ht : Toggle.ofKey? key = some .protanopia := by decide
  have other : key ≠ Focus.noScrollClass := by decide
  have off : (s.run hs).flag .tritanopia = false := by decide +kernel
  obtain ⟨shown, set⟩ := lastSetting_decides s hs rfl clean ht rfl other
  exact ⟨rfl, clean, ht, rfl, other, off, shown, set⟩

end Session

end PageAid
