import PageAid.Proofs.Guide
import PageAid.Proofs.Session.Activation
import PageAid.Proofs.Session.Band
import PageAid.Proofs.Session.ClassSwitch
import PageAid.Proofs.Session.Episode
import PageAid.Proofs.Session.FocusMode
import PageAid.Proofs.Speech.Recognizers

/-!
Setting a switch again. A second request for what a switch is set to already is refused, finds
nothing to do, or does over again what leaves no trace, so that in every state a page comes to the
second setting changes nothing but what the user is told and the attempts to start a recognizer
(`setToggle_again`).
-/

namespace PageAid

/-- Steps of which each may be done over, and whose order does not matter, may be done over all
together. -/
theorem foldl_foldl {σ α : Type} {f : σ → α → σ} {l : List α}
    (again : ∀ a ∈ l, ∀ s, f (f s a) a = f s a)
    (comm : l.Pairwise fun a b => ∀ s, f (f s a) b = f (f s b) a) (s : σ) :
    l.foldl f (l.foldl f s) = l.foldl f s := by
  induction l generalizing s with
  | nil => rfl
  | cons a r ih =>
      obtain ⟨first, rest⟩ := List.pairwise_cons.1 comm
      obtain ⟨once, later⟩ := List.forall_mem_cons.1 again
      -- the first step may as well be the last one
      have last : ∀ l : List α, (∀ b ∈ l, b ∈ r) → ∀ s, f (l.foldl f s) a = l.foldl f (f s a) := by
        intro l
        induction l with
        | nil => exact fun _ _ => rfl
        | cons b l ih =>
            intro within s
            obtain ⟨hb, hl⟩ := List.forall_mem_cons.1 within
            rw [List.foldl_cons, List.foldl_cons, ih hl, first b hb]
      rw [List.foldl_cons, List.foldl_cons, last r (fun _ h => h), once, ih later rest]

/-! ### Classes and elements -/

theorem Markup.setClass_setClass (m : Markup) (name : String) (on : Bool) :
    (m.setClass name on).setClass name on = m.setClass name on := by
  cases on with
  | true =>
      have has : (m.setClass name true).hasClass name = true := by
        rw [hasClass_setClass, if_pos rfl]
      rw [setClass, if_pos rfl, if_pos has]
  | false => simp [setClass]

theorem Element.mapMarkup_mapMarkup {f : Markup → Markup} (h : ∀ m, f (f m) = f m) (e : Element) :
    (e.mapMarkup f).mapMarkup f = e.mapMarkup f := by
  obtain ⟨m, cs⟩ := e
  exact congrArg (node · cs) (h m)

namespace Speech

def Request.isAttempt : Request → Bool
  | .started _ | .refused _ => true
  | _ => false

/-- The recognition without the attempts to start a recognizer that its history holds. -/
def Recognition.withoutAttempts (r : Recognition) : Recognition :=
  { r with history := r.history.filter (!·.isAttempt) }

/-- While a start is refused, the attempt is all that comes of it. -/
theorem Recognition.start_start (r : Recognition) (n : Nat) :
    ((r.start n).start n).withoutAttempts = (r.start n).withoutAttempts := by
  have refused : (r.start n).broken || (r.start n).running := by
    rw [start]
    split
    · assumption
    · simp
  rw [start, if_pos refused]
  rfl

/-- Once a recognizer is held, switching voice control on is another attempt to start it. -/
theorem Control.enable?_again {c c' : Control} {r r' : Recognition}
    (h : c.enable? r = some (c', r')) :
    ∃ r'', c'.enable? r' = some (c', r'') ∧ r''.withoutAttempts = r'.withoutAttempts := by
  unfold enable? at h
  split at h
  · next n held =>
      obtain ⟨rfl, rfl⟩ := Prod.mk.inj (Option.some.inj h)
      refine ⟨_, ?_, Recognition.start_start r n⟩
      rw [enable?, held]
  · obtain ⟨⟨n, made⟩, -, h⟩ := Option.map_eq_some_iff.1 h
    obtain ⟨rfl, rfl⟩ := Prod.mk.inj h
    exact ⟨_, rfl, Recognition.start_start made n⟩

theorem Control.disable_disable (c : Control) (r : Recognition) :
    (c.disable r).1.disable (c.disable r).2 = c.disable r := by
  obtain ⟨held⟩ := c
  cases held <;> rfl

end Speech

namespace Document

theorem setBodyClass_setBodyClass (d : Document) (name : String) (on : Bool) :
    (d.setBodyClass name on).setBodyClass name on = d.setBodyClass name on := by
  rw [setBodyClass, setBodyClass]
  exact congrArg (fun body => { d with body })
    (Element.mapMarkup_mapMarkup (f := (·.setClass name on))
      (fun m => m.setClass_setClass name on) d.body)

theorem removeId_of_countId_eq_zero {d : Document} {id : String} (h : d.body.countId id = 0) :
    (d.removeId id).2 = d :=
  congrArg (fun body => { d with body }) (Element.removeId_of_countId_eq_zero h)

theorem rootClasses_ext {d d' : Document} (h : { d with rootClasses := {} } =
    { d' with rootClasses := {} }) (classes : ∀ name, d.hasRootClass name = d'.hasRootClass name) :
    d = d' := by
  have same := Names.ext_has classes
  obtain ⟨⟩ := d
  obtain ⟨⟩ := d'
  simp_all

theorem setRootClass_setRootClass (d : Document) (name : String) (on : Bool) :
    (d.setRootClass name on).setRootClass name on = d.setRootClass name on := by
  refine rootClasses_ext rfl fun other => ?_
  rw [hasRootClass_setRootClass]
  split
  · next same => rw [hasRootClass_setRootClass, if_pos same]
  · rfl

theorem setRootClass_comm (d : Document) {name other : String} (h : name ≠ other)
    (on on' : Bool) : (d.setRootClass name on).setRootClass other on' =
      (d.setRootClass other on').setRootClass name on := by
  refine rootClasses_ext rfl fun key => ?_
  simp only [hasRootClass_setRootClass]
  by_cases same : name = key
  · subst same
    simp [h.symm]
  · simp [same]

end Document

namespace Session

variable {s s' : Session}

/-! ### The record of a switch -/

theorem persist_persist (s : Session) (t : Toggle) (on : Bool) :
    (s.persist t on).persist t on = s.persist t on := storeValue_storeValue s .device _ _ _

theorem persist_comm (s : Session) {t u : Toggle} (h : t.key ≠ u.key) (on on' : Bool) :
    (s.persist t on).persist u on' = (s.persist u on').persist t on := by
  cases hm : s.medium with
  | none => simp [persist, storeValue, Store.set, Store.update, hm, Settings.insert_comm _ _ h]
  | some f =>
      cases hw : f.writable <;>
        simp [persist, storeValue, Store.set, Store.update, SettingsFile.write?, hm, hw,
          Settings.insert_comm _ _ h]

theorem persist_of_recorded (s : Session) {t : Toggle} {on : Bool}
    (store : s'.store = (s.persist t on).store) (medium : s'.medium = (s.persist t on).medium) :
    s'.persist t on = s' := by
  have again := persist_persist s t on
  have stored := congrArg Session.store again
  have filed := congrArg Session.medium again
  rw [persist, storeValue] at stored filed ⊢
  rw [store, medium]
  dsimp only at stored filed ⊢
  rw [stored, filed, ← store, ← medium]

/-! ### Switches that are classes -/

def mark (s : Session) (e : Toggle × Bool) : Session :=
  (s.persist e.1 e.2).onPage (·.setRootClass e.1.key e.2)

theorem mark_mark (s : Session) (e : Toggle × Bool) : (s.mark e).mark e = s.mark e := by
  have recorded : (s.mark e).persist e.1 e.2 = s.mark e :=
    persist_of_recorded s rfl rfl
  rw [mark, recorded]
  exact congrArg (fun d => { s.persist e.1 e.2 with document := d })
    (s.document.setRootClass_setRootClass e.1.key e.2)

theorem mark_comm (s : Session) {e e' : Toggle × Bool} (h : e.1.key ≠ e'.1.key) :
    (s.mark e).mark e' = (s.mark e').mark e := by
  have recorded := persist_comm s h e.2 e'.2
  show { (s.persist e.1 e.2).persist e'.1 e'.2 with
      document := (s.document.setRootClass e.1.key e.2).setRootClass e'.1.key e'.2 } = _
  rw [recorded, s.document.setRootClass_comm h]
  rfl

/-- The classes of the root that go along with the setting of a switch. -/
def marks (t : Toggle) (on : Bool) : List (Toggle × Bool) :=
  (if on then t.peers.map (·, false) else []) ++ [(t, on)]

theorem pairwise_marks (t : Toggle) (on : Bool) :
    (marks t on).Pairwise fun e e' => e.1.key ≠ e'.1.key := by
  by_cases h : t ∈ Toggle.colorFilters
  · have all : ∀ on, ∀ t ∈ Toggle.colorFilters,
        (marks t on).Pairwise fun e e' => e.1.key ≠ e'.1.key := by decide
    exact all on t h
  · have none : t.peers = [] := by
      rw [Toggle.peers, if_neg]
      simpa [Toggle.isColorFilter] using h
    simp [marks, none]

theorem setToggle_rootClass (s : Session) {t : Toggle} (ht : t.target = .rootClass) (on : Bool) :
    s.setToggle t on = (marks t on).foldl mark s := by
  have applied : ∀ (s : Session) {u : Toggle} (on : Bool), u.target = .rootClass →
      (s.persist u on).applyToggle u on = (none, s.mark (u, on)) := by
    intro s u on hu
    rw [applyToggle, hu]
    rfl
  have cleared : s.clearPeers t = (t.peers.map (·, false)).foldl mark s := by
    rw [clearPeers, List.foldl_map]
    refine List.foldl_ext _ _ _ fun s u hu => ?_
    rw [applied s false
      (Toggle.target_of_mem_colorFilters (Toggle.mem_colorFilters_of_mem_peers hu))]
  rw [setToggle, marks, List.foldl_append, applied _ on ht]
  cases on with
  | true =>
      rw [if_pos rfl, if_pos rfl, cleared]
      rfl
  | false => rfl

theorem setToggle_again_of_rootClass (s : Session) {t : Toggle} (ht : t.target = .rootClass)
    (on : Bool) : (s.setToggle t on).setToggle t on = s.setToggle t on := by
  rw [setToggle_rootClass _ ht, setToggle_rootClass s ht]
  exact foldl_foldl (fun e _ s => mark_mark s e)
    ((pairwise_marks t on).imp fun h s => mark_comm s h) s

theorem setToggle_of_applied {t : Toggle} (ht : t.target ≠ .rootClass) {on : Bool}
    (applied : (s.persist t on).applyToggle t on = (none, s')) : s.setToggle t on = s' := by
  have single : t ∉ Toggle.colorFilters := fun h => ht (Toggle.target_of_mem_colorFilters h)
  rw [setToggle, clearPeers_of_notMem s single, ite_self, applied]

theorem setToggle_of_unsupported {t : Toggle} (ht : t.target ≠ .rootClass) {on : Bool}
    {message : String}
    (refused : (s.persist t on).applyToggle t on = (some (.unsupported message), s')) :
    s.setToggle t on = s'.notify .error (Failure.unsupported message).message := by
  have single : t ∉ Toggle.colorFilters := fun h => ht (Toggle.target_of_mem_colorFilters h)
  rw [setToggle, clearPeers_of_notMem s single, ite_self, refused]

theorem stored_applyToggle (s : Session) {t : Toggle} (ht : t.target ≠ .focusMode) (on : Bool) :
    (s.applyToggle t on).2.store = s.store ∧ (s.applyToggle t on).2.medium = s.medium := by
  rw [applyToggle]
  cases h : t.target with
  | rootClass => exact ⟨rfl, rfl⟩
  | bodyClass => exact ⟨rfl, rfl⟩
  | readingGuide => exact ⟨rfl, rfl⟩
  | focusMode => exact absurd h ht
  | voiceControl =>
      cases on with
      | false => exact ⟨rfl, rfl⟩
      | true =>
          rw [if_pos rfl, enableVoice]
          cases s.voice.enable? s.recognition <;> exact ⟨rfl, rfl⟩

theorem persist_setToggle (s : Session) {t : Toggle} (ht : t.target ≠ .rootClass)
    (other : t.target ≠ .focusMode) (on : Bool) :
    (s.setToggle t on).persist t on = s.setToggle t on := by
  obtain ⟨store, medium⟩ := stored_applyToggle (s.persist t on) other on
  have told := (quiet_setToggle s t on).toAside
  have single : t ∉ Toggle.colorFilters := fun h => ht (Toggle.target_of_mem_colorFilters h)
  rw [clearPeers_of_notMem s single, ite_self] at told
  exact persist_of_recorded s (told.store.trans store)
    ((congrArg Session.medium told.still).trans medium)

theorem setToggle_again_of_bodyClass (s : Session) {t : Toggle} (ht : t.target = .bodyClass)
    (on : Bool) : (s.setToggle t on).setToggle t on = s.setToggle t on := by
  have set : ∀ s : Session,
      s.setToggle t on = (s.persist t on).onPage (·.setBodyClass t.key on) := by
    intro s
    refine setToggle_of_applied (by simp [ht]) ?_
    rw [applyToggle, ht]
  have recorded := persist_setToggle s (t := t) (by simp [ht]) (by simp [ht]) on
  rw [set (s.setToggle t on), recorded, set s]
  exact congrArg (fun d => { s.persist t on with document := d })
    (s.document.setBodyClass_setBodyClass t.key on)

/-! ### The guide -/

theorem setToggle_again_of_readingGuide (hs : Lone s) (on : Bool) :
    (s.setToggle .readingGuide on).setToggle .readingGuide on =
      s.setToggle .readingGuide on := by
  have set : ∀ s : Session, s.setToggle .readingGuide on =
      { s.persist .readingGuide on with
        guide := (s.guide.setEnabled s.document on).1
        document := (s.guide.setEnabled s.document on).2 } :=
    fun s => setToggle_of_applied (by decide) rfl
  have recorded := persist_setToggle s (t := .readingGuide) (by decide) (by decide) on
  have switched := s.guide.setEnabled_setEnabled (Nat.le_trans hs.outermost hs.single) on
  rw [set (s.setToggle .readingGuide on), recorded, set s]
  dsimp only
  rw [switched]

/-! ### Focus mode -/

theorem disableFocus_disableFocus
    (left : s.disableFocus.document.body.countId Focus.overlayId = 0) :
    s.disableFocus.disableFocus = s.disableFocus := by
  have document : ((s.disableFocus.document.removeId Focus.overlayId).2).setBodyClass
      Focus.noScrollClass false = s.disableFocus.document := by
    rw [Document.removeId_of_countId_eq_zero left]
    exact Document.setBodyClass_setBodyClass _ Focus.noScrollClass false
  have recorded : s.disableFocus.persist .focusMode false = s.disableFocus :=
    persist_persist _ .focusMode false
  have agenda : s.disableFocus.agenda.filter (!·.step.isTick) = s.disableFocus.agenda := by
    show (s.agenda.filter (!·.step.isTick)).filter (!·.step.isTick) = s.agenda.filter _
    simp
  calc s.disableFocus.disableFocus
      = ({ s.disableFocus with
            document := ((s.disableFocus.document.removeId Focus.overlayId).2).setBodyClass
              Focus.noScrollClass false
            agenda := s.disableFocus.agenda.filter (!·.step.isTick) }).persist .focusMode false :=
        rfl
    _ = s.disableFocus := by
        rw [document, agenda]
        exact recorded

theorem setToggle_focusMode_off (s : Session) :
    s.setToggle .focusMode false = (s.persist .focusMode false).disableFocus :=
  setToggle_of_applied (by decide) rfl

theorem setToggle_again_of_disableFocus (hs : Shown s) :
    (s.setToggle .focusMode false).setToggle .focusMode false = s.setToggle .focusMode false := by
  have agreed := agreed_disableFocus (shown_persist hs .focusMode false)
  have left : (s.persist .focusMode false).disableFocus.document.body.countId
      Focus.overlayId = 0 := by
    have bound := agreed.outermost
    rw [agreed.overlay] at bound
    exact Nat.le_zero.1 bound
  have recorded : (s.persist .focusMode false).disableFocus.persist .focusMode false =
      (s.persist .focusMode false).disableFocus := persist_persist _ .focusMode false
  rw [setToggle_focusMode_off s, setToggle_focusMode_off, recorded,
    disableFocus_disableFocus left]

/-! ### What may differ -/

/-- The page without what the user was told, and without the attempts to start a recognizer. -/
def untold (s : Session) : Session :=
  { s with
    document := { s.document with notices := [] }
    recognition := s.recognition.withoutAttempts }

theorem untold_notify (s : Session) (level : NoticeLevel) (message : String) :
    (s.notify level message).untold = s.untold := rfl

theorem enableFocus_of_on (on : s.focus.isSome) : s.enableFocus.2 = s := by
  rw [enableFocus, if_pos on]

theorem enableFocus_of_noArticle (off : s.focus = none)
    (absent : MainContent.article? s.document.body = none) :
    s.enableFocus.2 = (s.notify .error Focus.notFoundMessage).persist .focusMode false := by
  rw [enableFocus, if_neg (by simp [off]), absent]

theorem noArticle_of_failed (off : s.focus = none) (failed : s.enableFocus.1.isSome) :
    MainContent.article? s.document.body = none := by
  cases h : MainContent.article? s.document.body with
  | none => rfl
  | some article =>
      rw [enableFocus, if_neg (by simp [off]), h] at failed
      simp at failed

/-- Focus mode that is on stays, and where no article is found none is found afterwards. -/
theorem untold_setToggle_enableFocus (s : Session) :
    ((s.setToggle .focusMode true).setToggle .focusMode true).untold =
      (s.setToggle .focusMode true).untold := by
  rw [setToggle_focusMode, setToggle_focusMode]
  obtain ⟨on, -, same⟩ | ⟨off, failed, told⟩ | ⟨article, -, -, -, shown⟩ :=
    enableFocus_cases (s.persist .focusMode true)
  · rw [same, persist_persist, same]
  · have absent := noArticle_of_failed off failed
    generalize s.persist .focusMode true = p at off absent told
    have retold := enableFocus_of_noArticle (s := ((p.notify .error
      Focus.notFoundMessage).persist .focusMode false).persist .focusMode true) off absent
    rw [told, retold]
    -- the record is set to on and back again
    calc (((((p.notify .error Focus.notFoundMessage).persist .focusMode false).persist
            .focusMode true).notify .error Focus.notFoundMessage).persist .focusMode false).untold
        = ((((p.notify .error Focus.notFoundMessage).persist .focusMode false).persist
            .focusMode true).persist .focusMode false).untold := rfl
      _ = (((p.notify .error Focus.notFoundMessage).persist .focusMode false).persist
            .focusMode false).untold := congrArg untold (storeValue_storeValue _ .device _ _ _)
      _ = ((p.notify .error Focus.notFoundMessage).persist .focusMode false).untold := by
          rw [persist_persist]
  · have recorded : (s.persist .focusMode true).enableFocus.2.persist .focusMode true =
        (s.persist .focusMode true).enableFocus.2 := by
      rw [shown]
      exact persist_of_recorded s rfl rfl
    have on : (s.persist .focusMode true).enableFocus.2.focus.isSome := by
      rw [shown]
      rfl
    rw [recorded, enableFocus_of_on on]

/-! ### Voice control -/

theorem setToggle_voiceControl_of_supported {voice : Speech.Control}
    {recognition : Speech.Recognition}
    (held : s.voice.enable? s.recognition = some (voice, recognition)) :
    s.setToggle .voiceControl true =
      { s.persist .voiceControl true with voice := voice, recognition := recognition } := by
  have held : (s.persist .voiceControl true).voice.enable?
      (s.persist .voiceControl true).recognition = some (voice, recognition) := held
  refine setToggle_of_applied (by decide) ?_
  show (s.persist .voiceControl true).enableVoice = _
  rw [enableVoice, held]

theorem setToggle_voiceControl_of_unsupported (unheld : s.voice.enable? s.recognition = none) :
    s.setToggle .voiceControl true = (s.persist .voiceControl true).notify .error
      (Failure.unsupported Speech.Control.unsupportedMessage).message := by
  have unheld : (s.persist .voiceControl true).voice.enable?
      (s.persist .voiceControl true).recognition = none := unheld
  refine setToggle_of_unsupported (by decide) ?_
  show (s.persist .voiceControl true).enableVoice = _
  rw [enableVoice, unheld]

theorem setToggle_voiceControl_off (s : Session) :
    s.setToggle .voiceControl false = (s.persist .voiceControl false).disableVoice :=
  setToggle_of_applied (by decide) rfl

theorem untold_setToggle_enableVoice (s : Session) :
    ((s.setToggle .voiceControl true).setToggle .voiceControl true).untold =
      (s.setToggle .voiceControl true).untold := by
  have recorded := persist_setToggle s (t := .voiceControl) (by decide) (by decide) true
  cases tried : s.voice.enable? s.recognition with
  | none =>
      have again : (s.setToggle .voiceControl true).voice.enable?
          (s.setToggle .voiceControl true).recognition = none := by
        rw [setToggle_voiceControl_of_unsupported tried]
        exact tried
      rw [setToggle_voiceControl_of_unsupported again, recorded, untold_notify]
  | some r =>
      obtain ⟨r', more, same⟩ := Speech.Control.enable?_again tried
      have again : (s.setToggle .voiceControl true).voice.enable?
          (s.setToggle .voiceControl true).recognition = some (r.1, r') := by
        rw [setToggle_voiceControl_of_supported tried]
        exact more
      rw [setToggle_voiceControl_of_supported again, recorded,
        setToggle_voiceControl_of_supported tried]
      exact congrArg (fun q => { untold { s.persist .voiceControl true with voice := r.1 } with
        recognition := q }) same

theorem setToggle_again_of_disableVoice (s : Session) :
    (s.setToggle .voiceControl false).setToggle .voiceControl false =
      s.setToggle .voiceControl false := by
  have recorded := persist_setToggle s (t := .voiceControl) (by decide) (by decide) false
  have released := s.voice.disable_disable s.recognition
  calc (s.setToggle .voiceControl false).setToggle .voiceControl false
      = (s.setToggle .voiceControl false).disableVoice := by
        rw [setToggle_voiceControl_off (s.setToggle .voiceControl false), recorded]
    _ = { s.persist .voiceControl false with
          voice := ((s.voice.disable s.recognition).1.disable (s.voice.disable s.recognition).2).1
          recognition :=
            ((s.voice.disable s.recognition).1.disable (s.voice.disable s.recognition).2).2 } := by
        rw [setToggle_voiceControl_off]
        rfl
    _ = s.setToggle .voiceControl false := by
        rw [released, setToggle_voiceControl_off]
        rfl

/-! ### In every state -/

theorem untold_setToggle_again (shown : Shown s) (lone : Lone s) (t : Toggle) (on : Bool) :
    ((s.setToggle t on).setToggle t on).untold = (s.setToggle t on).untold := by
  cases ht : t.target with
  | rootClass => rw [setToggle_again_of_rootClass s ht]
  | bodyClass => rw [setToggle_again_of_bodyClass s ht]
  | readingGuide =>
      obtain rfl : t = .readingGuide := by cases t <;> simp_all [Toggle.target]
      rw [setToggle_again_of_readingGuide lone]
  | focusMode =>
      obtain rfl : t = .focusMode := by cases t <;> simp_all [Toggle.target]
      cases on with
      | true => exact untold_setToggle_enableFocus s
      | false => rw [setToggle_again_of_disableFocus shown]
  | voiceControl =>
      obtain rfl : t = .voiceControl := by cases t <;> simp_all [Toggle.target]
      cases on with
      | true => exact untold_setToggle_enableVoice s
      | false => rw [setToggle_again_of_disableVoice]

/-- On a page that comes without an overlay and without a band, whatever it goes through, however
often its settings are taken over, and for every switch: to set it twice leaves what setting it once
leaves, but for what the user is told and the attempts to start a recognizer. -/
theorem setToggle_again (platform : Platform) (document : Document) (store : Store)
    (medium : Medium) (recognition : Speech.Recognition) (es : List Episode)
    (noBand : document.body.countId Guide.nodeId = 0)
    (noOverlay : document.body.bearers Focus.overlayId = 0) (t : Toggle) (on : Bool) :
    let s := es.foldl undergo (opened platform document store medium recognition)
    ((s.setToggle t on).setToggle t on).untold = (s.setToggle t on).untold := by
  intro s
  have shown : Shown s := stable_shown.episodes shown_restoreSettings
    (shown_opened noOverlay platform store medium recognition) es
  have lone : Lone s := stable_lone.episodes lone_restoreSettings
    (lone_of_without noBand) es
  exact untold_setToggle_again shown lone t on

/-- Focus mode is entered, the settings are taken over once more, which drops the record of it, and
the platform comes to refuse every start. Then voice control is switched on: one recognizer is
created, and each of the two settings tries in vain to start it. -/
theorem setToggle_again_of_refused :
    let document : Document :=
      { body := (Element.new "body").withChild ((Element.new "article").withText "Text") }
    let es : List Episode := [.load,
      .occurs (.page (.message (.toggleFeature "lumen-focus-mode" true))), .load,
      .occurs (.platform false true)]
    let s := es.foldl undergo
      (opened ⟨.unconfigured, fun _ => .error .missingKey, none⟩ document {} none {})
    document.body.countId Guide.nodeId = 0 ∧ document.body.bearers Focus.overlayId = 0 ∧
      s.focus.isSome ∧ s.flag .focusMode = false ∧
      ((s.setToggle .voiceControl true).setToggle .voiceControl true).recognition.history =
        [.refused 1, .refused 1, .created 1 {}] ∧
      ((s.setToggle .voiceControl true).setToggle .voiceControl true).untold =
        (s.setToggle .voiceControl true).untold := by
  intro document es s
  have noBand : document.body.countId Guide.nodeId = 0 := by decide
  have noOverlay : document.body.bearers Focus.overlayId = 0 := by decide
  exact ⟨noBand, noOverlay, by decide +kernel, by decide +kernel, by decide +kernel,
    setToggle_again _ document {} none {} es noBand noOverlay .voiceControl true⟩

end Session

end PageAid
