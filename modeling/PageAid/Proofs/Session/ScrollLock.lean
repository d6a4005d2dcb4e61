import PageAid.Proofs.Session.ClassSwitch
import PageAid.Proofs.Session.Episode
import PageAid.Proofs.Session.FocusMode

/-!
The class that keeps the page from scrolling. Focus mode puts it on the body and takes it off
again; but it is also the class of a switch, since any key of the program without a meaning of its
own is one, and the switch is set and taken over from the settings like the others. Whatever else
happens, class and focus mode stay in step or come into step. So they are in step all the time just
if the switch is never set to anything but what focus mode is at that time
(`scrollLock_agrees_iff`).
-/

namespace PageAid

namespace Toggle

/-- The switch whose class is that of focus mode. -/
def noScroll : Toggle := .other "no-scroll"

theorem readable_noScroll : noScroll.Readable := by
  rw [Readable]
  decide

theorem key_ne_noScrollClass_of_ne {t : Toggle} (ht : t.Readable) (h : t ≠ noScroll) :
    t.key ≠ Focus.noScrollClass :=
  fun same => h ((ht.key_eq_iff readable_noScroll).1 same)

end Toggle

namespace Session

def scrollLocked (s : Session) : Bool := s.document.hasBodyClass Focus.noScrollClass

/-- The class is there just as long as a session of focus mode is held. -/
def InStep (s : Session) : Prop := s.scrollLocked = s.focus.isSome

def storedLock? (s : Session) : Option Json :=
  s.store.settings.get? .device Focus.noScrollClass

/-- From `s` to `s'` neither the class nor focus mode nor what is stored for the switch changes. -/
structure SameLock (s s' : Session) : Prop where
  entry : s'.storedLock? = s.storedLock?
  locked : s'.scrollLocked = s.scrollLocked
  focus : s'.focus = s.focus

/-- From `s` to `s'` the switch is not set: all stays as it is, or class and focus mode come into
step. -/
inductive Unset (s s' : Session) : Prop where
  | kept (h : SameLock s s')
  | stepped (entry : s'.storedLock? = s.storedLock?) (h : InStep s')

variable {s s' s'' : Session}

namespace SameLock

theorem refl (s : Session) : SameLock s s := ⟨rfl, rfl, rfl⟩

theorem trans (h : SameLock s s') (h' : SameLock s' s'') : SameLock s s'' :=
  ⟨h'.entry.trans h.entry, h'.locked.trans h.locked, h'.focus.trans h.focus⟩

theorem of_markup (store : s'.store = s.store) (focus : s'.focus = s.focus)
    (body : s'.document.body.markup = s.document.body.markup) : SameLock s s' where
  entry := by rw [storedLock?, store, storedLock?]
  locked := Document.hasBodyClass_of_markup_eq body _
  focus := focus

theorem of_aside (h : Aside s s') : SameLock s s' where
  entry := by rw [storedLock?, h.store, storedLock?]
  locked := h.hasBodyClass _
  focus := h.focus

end SameLock

namespace Unset

theorem entry (h : Unset s s') : s'.storedLock? = s.storedLock? := by
  cases h with
  | kept h => exact h.entry
  | stepped entry _ => exact entry

theorem after (h : SameLock s s') (h' : Unset s' s'') : Unset s s'' := by
  cases h' with
  | kept h' => exact .kept (h.trans h')
  | stepped entry h' => exact .stepped (entry.trans h.entry) h'

theorem before (h : Unset s s') (h' : SameLock s' s'') : Unset s s'' := by
  cases h with
  | kept h => exact .kept (h.trans h')
  | stepped entry h =>
      refine .stepped (h'.entry.trans entry) ?_
      rw [InStep, h'.locked, h'.focus, h]

theorem inStep (h : Unset s s') (hs : InStep s) : InStep s' := by
  cases h with
  | kept h => rw [InStep, h.locked, h.focus, hs]
  | stepped _ h => exact h

end Unset

/-! ### Changes that the class has no part in -/

theorem sameLock_storeValue (s : Session) {key : String} (v : Json)
    (h : key ≠ Focus.noScrollClass) : SameLock s (s.storeValue .device key v) where
  entry := by
    rw [storedLock?, settings_storeValue, Settings.get?_insert, if_neg fun same => h same.2,
      storedLock?]
  locked := rfl
  focus := rfl

theorem sameLock_persist (s : Session) {t : Toggle} (ht : t.Readable) (h : t ≠ .noScroll)
    (on : Bool) : SameLock s (s.persist t on) :=
  sameLock_storeValue s _ (Toggle.key_ne_noScrollClass_of_ne ht h)

theorem sameLock_applyToggle (s : Session) {t : Toggle} (ht : t.Readable) (h : t ≠ .noScroll)
    (h' : t ≠ .focusMode) (on : Bool) : SameLock s (s.applyToggle t on).2 := by
  unfold applyToggle
  split
  · exact SameLock.of_markup rfl rfl rfl
  · have locked := Document.hasBodyClass_setBodyClass s.document t.key Focus.noScrollClass on
    rw [if_neg (Toggle.key_ne_noScrollClass_of_ne ht h)] at locked
    exact ⟨rfl, locked, rfl⟩
  · exact SameLock.of_markup rfl rfl (Guide.markup_setEnabled _ _ on)
  · rename_i target
    cases t <;> simp_all [Toggle.target]
  · cases on
    · exact SameLock.of_markup rfl rfl rfl
    · simp only [if_true, enableVoice]
      split
      · exact SameLock.of_markup rfl rfl rfl
      · exact SameLock.refl s

theorem sameLock_clearPeers (s : Session) (t : Toggle) : SameLock s (s.clearPeers t) := by
  refine clearPeers_induction t (SameLock.refl s) fun s' u hu hs => ?_
  have readable := Toggle.readable_of_mem_colorFilters hu
  have other : u ≠ .noScroll := ne_of_mem_of_not_mem hu (by decide)
  have other' : u ≠ .focusMode := ne_of_mem_of_not_mem hu (by decide)
  have recorded := hs.trans (sameLock_persist s' readable other false)
  exact recorded.trans (sameLock_applyToggle _ readable other other' false)

theorem sameLock_addSkipLink (s : Session) : SameLock s s.addSkipLink := by
  have rest := (addSkipLink_eq s).1
  exact SameLock.of_markup (by rw [rest]) (by rw [rest]) (markup_addSkipLink s)

/-! ### Focus mode on and off -/

theorem unset_disableFocus (s : Session) : Unset s s.disableFocus := by
  have recorded := sameLock_persist (s.onPage id) Toggle.readable_focusMode (by decide) false
  refine .stepped recorded.entry ?_
  rw [InStep, scrollLocked, Document.hasBodyClass, body_disableFocus, Element.markup_mapMarkup,
    Markup.hasClass_setClass, if_pos rfl]
  rfl

theorem unset_enableFocus (s : Session) : Unset s s.enableFocus.2 := by
  obtain ⟨-, -, same⟩ | ⟨-, -, told⟩ | ⟨article, -, -, -, shown⟩ := enableFocus_cases s
  · rw [same]
    exact .kept (SameLock.refl s)
  · rw [told]
    exact .kept ((SameLock.of_aside (quiet_notify s _ _).toAside).trans
      (sameLock_persist _ Toggle.readable_focusMode (by decide) false))
  · rw [shown]
    have locked := Document.hasBodyClass_setBodyClass
      (s.document.append (Focus.overlay article)) Focus.noScrollClass Focus.noScrollClass true
    exact .stepped rfl locked

theorem unset_setToggle (s : Session) {t : Toggle} (ht : t.Readable) (h : t ≠ .noScroll)
    (on : Bool) : Unset s (s.setToggle t on) := by
  have cleared : SameLock s (if on then s.clearPeers t else s) := by
    cases on
    · exact SameLock.refl s
    · exact sameLock_clearPeers s t
  have recorded := cleared.trans (sameLock_persist _ ht h on)
  have told := SameLock.of_aside (quiet_setToggle s t on).toAside
  refine (Unset.after recorded ?_).before told
  by_cases focus : t = .focusMode
  · subst focus
    cases on
    · exact unset_disableFocus _
    · exact unset_enableFocus _
  · exact .kept (sameLock_applyToggle _ ht h focus on)

theorem unset_execute (s : Session) (c : Speech.Command) : Unset s (s.execute c) := by
  cases c with
  | enterFocusMode =>
      rw [execute_enterFocusMode]
      split
      · exact unset_enableFocus s
      · exact (unset_enableFocus s).before
          (sameLock_persist _ Toggle.readable_focusMode (by decide) true)
  | exitFocusMode => exact unset_disableFocus s
  | disableVoice =>
      have recorded := sameLock_persist s Toggle.readable_voiceControl (by decide) false
      exact .kept (recorded.trans (SameLock.of_markup rfl rfl rfl))
  | _ => exact .kept (SameLock.of_markup rfl rfl rfl)

theorem unset_voiceEvent (s : Session) (e : Speech.Event) : Unset s (s.voiceEvent e).2 := by
  obtain ⟨c, -, hc⟩ | ⟨-, ⟨voice, recognition, hv⟩ | ⟨voice, recognition, hv⟩⟩ :=
    voiceEvent_cases s e
  · rw [hc]
    exact unset_execute s c
  · rw [hv]
    exact .kept (SameLock.of_markup rfl rfl rfl)
  · rw [hv]
    have heard : SameLock s { s with voice := voice, recognition := recognition } :=
      SameLock.of_markup rfl rfl rfl
    have recorded := sameLock_persist { s with voice := voice, recognition := recognition }
      Toggle.readable_voiceControl (by decide) false
    exact .kept ((heard.trans recorded).trans (SameLock.of_aside (quiet_notify _ _ _).toAside))

theorem unset_happen (s : Session) {x : Happening}
    (h : ∀ on, x ≠ .message (.toggleFeature Focus.noScrollClass on)) : Unset s (s.happen x) := by
  have change := change_happen s x
  generalize s.happen x = s' at change
  cases change with
  | stayed => exact .kept (SameLock.refl s)
  | waited n => exact .kept (SameLock.of_markup rfl rfl rfl)
  | asked m task _ => exact .kept (SameLock.of_markup rfl rfl rfl)
  | toggled key t on ht =>
      obtain rfl := Toggle.key_of_ofKey? ht
      refine unset_setToggle s ht ?_ on
      rintro rfl
      exact h on rfl
  | resized c =>
      have resized : SameLock s (s.showFontScale (nextFontScale s.store.settings.fontScale c)) :=
        SameLock.of_markup rfl rfl rfl
      exact .kept (resized.trans (sameLock_storeValue _ _ (by decide)))
  | linked => exact .kept (sameLock_addSkipLink s)
  | pointed y => exact .kept (SameLock.of_markup rfl rfl (s.guide.markup_pointerMoved _ y))
  | heard e => exact unset_voiceEvent s e
  | left => exact unset_disableFocus s
  | spoke success => exact .kept (SameLock.of_aside (quiet_speechFinished s success).toAside)
  | ticked i due _ =>
      have taken : SameLock s { s with agenda := s.agenda.eraseIdx i } :=
        SameLock.of_markup rfl rfl rfl
      exact .kept (taken.trans
        (SameLock.of_markup (store_tick _ due) (focus_tick _ due) (markup_tick _ due)))
  | performed i e he ht => exact .kept (SameLock.of_aside (aside_performed he ht))

/-! ### The switch itself -/

theorem applyToggle_noScroll (s : Session) (on : Bool) :
    (s.applyToggle .noScroll on).2.scrollLocked = on ∧
      (s.applyToggle .noScroll on).2.focus = s.focus ∧
      (s.applyToggle .noScroll on).2.store = s.store := by
  have locked := Document.hasBodyClass_setBodyClass s.document Focus.noScrollClass
    Focus.noScrollClass on
  rw [if_pos rfl] at locked
  exact ⟨locked, rfl, rfl⟩

theorem setToggle_noScroll (s : Session) (on : Bool) :
    (s.setToggle .noScroll on).scrollLocked = on ∧
      (s.setToggle .noScroll on).focus = s.focus := by
  have told := SameLock.of_aside (quiet_setToggle s .noScroll on).toAside
  have alone : s.clearPeers .noScroll = s := clearPeers_of_notMem s (by decide)
  rw [alone, ite_self] at told
  obtain ⟨locked, focus, -⟩ := applyToggle_noScroll (s.persist .noScroll on) on
  exact ⟨told.locked.trans locked, told.focus.trans focus⟩

theorem happen_noScroll (s : Session) (on : Bool) :
    (s.happen (.message (.toggleFeature Focus.noScrollClass on))).scrollLocked = on ∧
      (s.happen (.message (.toggleFeature Focus.noScrollClass on))).focus = s.focus := by
  have set := happen_of_setting? s
    (Happening.setting?_eq_some_iff.2 ⟨Toggle.readable_noScroll, rfl⟩ :
      Happening.setting? (.message (.toggleFeature Focus.noScrollClass on)) =
        some (.noScroll, on))
  rw [set]
  exact setToggle_noScroll s on

/-! ### Taking over the settings -/

theorem sameLock_restored {kept : Option Toggle} {e : String × Json} (h : Restored kept s e s')
    (other : e.1 ≠ Focus.noScrollClass) : SameLock s s' := by
  have ne : ∀ t : Toggle, e.1 = t.key → t ≠ .noScroll := by
    rintro t same rfl
    exact other same
  cases h with
  | scaled v => exact SameLock.of_markup rfl rfl rfl
  | skipped key v _ => exact SameLock.refl s
  | dropped t v ht _ => exact sameLock_persist s ht (ne t rfl) false
  | cleared t v ht _ _ =>
      have readable := Toggle.readable_of_mem_colorFilters ht
      have other' : t ≠ .focusMode := ne_of_mem_of_not_mem ht (by decide)
      exact (sameLock_persist s readable (ne t rfl) false).trans
        (sameLock_applyToggle _ readable (ne t rfl) other' false)
  | applied t v ht lasting _ =>
      refine sameLock_applyToggle s ht (ne t rfl) ?_ _
      rintro rfl
      simp [Toggle.isSessionScoped] at lasting

/-- The entry of the switch sets it; what is not stored as on is off. -/
theorem restored_noScroll {kept : Option Toggle} {v : Json}
    (h : Restored kept s (Focus.noScrollClass, v) s') :
    s' = (s.applyToggle .noScroll (v.asBool?.getD false)).2 := by
  obtain ⟨passing, -⟩ | ⟨filter, -⟩ | ⟨-, -, applied⟩ :=
    Restored.of_key Toggle.readable_noScroll h
  · simp [Toggle.isSessionScoped, Toggle.noScroll] at passing
  · exact absurd filter (by decide)
  · exact applied

theorem mem_entries_iff_storedLock? {v : Json} :
    (Focus.noScrollClass, v) ∈ s.store.settings.device.entries ↔ s.storedLock? = some v :=
  Keyed.mem_entries_iff

theorem sameLock_restoreSettings (none : s.storedLock? = none) :
    SameLock s s.restoreSettings := by
  refine restoreSettings_of_entry Focus.noScrollClass (SameLock s) (SameLock s)
    (SameLock.refl s) (fun _ => SameLock.refl s) (fun _ other h => ?_) fun among => ?_
  · have same := sameLock_restored h other
    exact ⟨fun hs => hs.trans same, fun hs => hs.trans same⟩
  · rw [mem_entries_iff_storedLock?, none] at among
    simp at among

theorem restoreSettings_noScroll {v : Json} (stored : s.storedLock? = some v) :
    s.restoreSettings.scrollLocked = v.asBool?.getD false ∧
      s.restoreSettings.focus = s.focus := by
  refine restoreSettings_of_entry Focus.noScrollClass (·.focus = s.focus)
    (fun s' => s'.scrollLocked = v.asBool?.getD false ∧ s'.focus = s.focus) rfl ?_ ?_ ?_
  · intro absent
    exact absurd (List.mem_map.2 ⟨_, mem_entries_iff_storedLock?.2 stored, rfl⟩) absent
  · intro e s₁ s₂ _ other h
    have same := sameLock_restored h other
    exact ⟨fun focus => same.focus.trans focus,
      fun ⟨locked, focus⟩ => ⟨same.locked.trans locked, same.focus.trans focus⟩⟩
  · intro w s₁ s₂ among h focus
    rw [mem_entries_iff_storedLock?, stored] at among
    obtain rfl := Option.some.inj among
    obtain ⟨locked, same, -⟩ := applyToggle_noScroll s₁ (v.asBool?.getD false)
    rw [restored_noScroll h]
    exact ⟨locked, same.trans focus⟩

/-! ### Runs with loading in between -/

/-- What the switch is set to in an episode, if it is set there. -/
def Episode.lock? (s : Session) : Episode → Option Bool
  | .load => s.storedLock?.map (·.asBool?.getD false)
  | .occurs (.page (.message (.toggleFeature key on))) =>
    if key = Focus.noScrollClass then some on else none
  | .occurs _ => none

theorem undergo_of_lock? {e : Episode} {on : Bool} (h : e.lock? s = some on) :
    (s.undergo e).scrollLocked = on ∧ (s.undergo e).focus = s.focus := by
  unfold Episode.lock? at h
  split at h
  · obtain ⟨v, stored, rfl⟩ := Option.map_eq_some_iff.1 h
    exact restoreSettings_noScroll stored
  · split at h
    · rename_i key on' same
      obtain rfl := same
      obtain rfl := Option.some.inj h
      exact happen_noScroll s on'
    · simp at h
  · simp at h

theorem unset_undergo {e : Episode} (h : e.lock? s = none) : Unset s (s.undergo e) := by
  cases e with
  | load => exact .kept (sameLock_restoreSettings (Option.map_eq_none_iff.1 h))
  | occurs x =>
      cases x with
      | page x =>
          refine unset_happen s ?_
          rintro on rfl
          simp [Episode.lock?] at h
      | platform running broken => exact .kept ⟨rfl, rfl, rfl⟩

/-- One episode leaves class and focus mode in step just if it does not set the switch, or sets it
to what focus mode is. -/
theorem inStep_undergo_iff (hs : InStep s) (e : Episode) :
    InStep (s.undergo e) ↔ ∀ on, e.lock? s = some on → on = s.focus.isSome := by
  cases h : e.lock? s with
  | none => simpa using (unset_undergo h).inStep hs
  | some on =>
      obtain ⟨locked, focus⟩ := undergo_of_lock? h
      rw [InStep, locked, focus]
      simp

theorem Episode.lock?_eq_none (none : s.storedLock? = none) {e : Episode}
    (h : ∀ on, e ≠ .occurs (.page (.message (.toggleFeature Focus.noScrollClass on)))) :
    e.lock? s = .none := by
  unfold lock?
  split
  · rw [none]
    rfl
  · split
    · rename_i key on same
      exact absurd (same ▸ rfl) (h on)
    · rfl
  · rfl

/-- A page comes without the class of focus mode, its settings are taken over any number of times,
and anything else happens to it. Then the class is there just as long as a session of focus mode is
held, after every episode, if and only if each time that the switch with this class is set, by a
message for it or by an entry of the settings, it is set to whether there is a session at that
time. In particular this is so where there is neither an entry nor such a message. -/
theorem scrollLock_agrees_iff (platform : Platform) (document : Document) (store : Store)
    (medium : Medium) (recognition : Speech.Recognition) (es : List Episode)
    (clean : document.hasBodyClass Focus.noScrollClass = false) :
    let s := (opened platform document store medium recognition).afterEpisodes es
    ((∀ n, (s n).document.hasBodyClass Focus.noScrollClass = (s n).focus.isSome) ↔
      ∀ n e on, es[n]? = some e → e.lock? (s n) = some on → on = (s n).focus.isSome) ∧
    (store.settings.get? .device Focus.noScrollClass = none →
      (∀ on, .occurs (.page (.message (.toggleFeature Focus.noScrollClass on))) ∉ es) →
        ∀ n, (s n).document.hasBodyClass Focus.noScrollClass = (s n).focus.isSome) := by
  intro s
  have start : InStep (opened platform document store medium recognition) := clean
  refine ⟨⟨fun h n e on he => ?_, fun h => ?_⟩, fun unstored unasked n => ?_⟩
  · have next : InStep ((s n).undergo e) := afterEpisodes_succ (s := opened ..) he ▸ h (n + 1)
    exact (inStep_undergo_iff (h n) e).1 next on
  · exact afterEpisodes_induction start fun n e he hs =>
      (inStep_undergo_iff hs e).2 fun on => h n e on he
  · -- it is kept together with that nothing is stored
    have both : (opened platform document store medium recognition).storedLock? = none ∧
      InStep (opened platform document store medium recognition) := ⟨unstored, start⟩
    refine (afterEpisodes_induction (P := fun s => s.storedLock? = none ∧ InStep s) both ?_ n).2
    rintro n e he ⟨none, hs⟩
    have unset := unset_undergo (Episode.lock?_eq_none none fun on same =>
      unasked on (same ▸ List.mem_of_getElem? he))
    exact ⟨unset.entry.trans none, unset.inStep hs⟩

/-- The switch is set on during a session of focus mode, when its class is there already. -/
theorem scrollLock_agrees_iff_of_session :
    let platform : Platform := ⟨.unconfigured, fun _ => .error .missingKey, none⟩
    let document : Document :=
      { body := (Element.new "body").withChild ((Element.new "article").withText "Text") }
    let es : List Episode := [.load,
      .occurs (.page (.message (.toggleFeature "lumen-focus-mode" true))),
      .occurs (.page (.message (.toggleFeature "lumen-no-scroll" true)))]
    let s := (opened platform document {} none {}).afterEpisodes es
    document.hasBodyClass Focus.noScrollClass = false ∧ (s 3).focus.isSome ∧
      ∀ n, (s n).document.hasBodyClass Focus.noScrollClass = (s n).focus.isSome := by
  intro platform document es s
  have clean : document.hasBodyClass Focus.noScrollClass = false := by decide +kernel
  have agrees := (scrollLock_agrees_iff platform document {} none {} es clean).1
  have unstored : (s 0).storedLock? = none := rfl
  have on : (s 2).focus.isSome := by decide +kernel
  refine ⟨clean, by decide +kernel, agrees.2 fun n e value he set => ?_⟩
  match n with
  | 0 =>
      obtain rfl := Option.some.inj he
      rw [Episode.lock?, unstored] at set
      simp at set
  | 1 =>
      obtain rfl := Option.some.inj he
      simp [Episode.lock?, Focus.noScrollClass] at set
  | 2 =>
      obtain rfl := Option.some.inj he
      rw [on, ← Option.some.inj set]
  | n + 3 => simp [es] at he

/-- The switch is set on while focus mode is off, and the class comes without a session. -/
theorem scrollLock_without_session :
    let document : Document := {}
    let s := (opened ⟨.unconfigured, fun _ => .error .missingKey, none⟩ document {} none
      {}).afterEpisodes [.load, .occurs (.page (.message (.toggleFeature "lumen-no-scroll" true)))]
    document.hasBodyClass Focus.noScrollClass = false ∧
      (s 2).document.hasBodyClass Focus.noScrollClass = true ∧ (s 2).focus = none := by
  intro document s
  exact ⟨by decide +kernel, by decide +kernel, by rfl⟩

end Session

end PageAid
