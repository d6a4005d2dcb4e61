import PageAid.Proofs.Session.Activation
import PageAid.Proofs.Session.Episode

/-!
A page whose file cannot be written. Every operation that stores something changes the settings in
memory first, and a failed write shows nowhere, so that the page goes through the same states, and
gives the same replies, as one whose settings are kept in memory alone (`unwritable_unseen`).
-/

namespace PageAid

/-- What a store has besides its settings, where nothing is ever written: there is no file, or the
file cannot be written. -/
structure Backing where
  firstRun : Bool
  medium : Medium
  idle : ∀ f ∈ medium, f.writable = false

namespace Store

/-- The change is made in memory, also where it cannot be written. -/
theorem store_update (s : Store) (m : Medium) (change : Settings → Settings) :
    (s.update m change).store = { s with settings := change s.settings } := by
  unfold update
  dsimp only
  split
  · rfl
  · split <;> rfl

theorem medium_update (s : Store) (b : Backing) (change : Settings → Settings) :
    (s.update b.medium change).medium = b.medium := by
  unfold update
  dsimp only
  split
  · next none => exact none.symm
  · next f hf =>
      have refused : f.write? (change s.settings).print = none := by
        rw [SettingsFile.write?, b.idle f hf]
        rfl
      rw [refused, hf]

end Store

namespace Session

/-- The page with the same settings in memory on another backing. -/
def backedBy (s : Session) (b : Backing) : Session :=
  { s with store := { s.store with firstRun := b.firstRun }, medium := b.medium }

variable (s : Session) (b : Backing)

@[simp] theorem platform_backedBy : (s.backedBy b).platform = s.platform := rfl
@[simp] theorem document_backedBy : (s.backedBy b).document = s.document := rfl
@[simp] theorem focus_backedBy : (s.backedBy b).focus = s.focus := rfl
@[simp] theorem pomodoro_backedBy : (s.backedBy b).pomodoro = s.pomodoro := rfl
@[simp] theorem voice_backedBy : (s.backedBy b).voice = s.voice := rfl
@[simp] theorem recognition_backedBy : (s.backedBy b).recognition = s.recognition := rfl
@[simp] theorem translating_backedBy : (s.backedBy b).translating = s.translating := rfl
@[simp] theorem readingAloud_backedBy : (s.backedBy b).readingAloud = s.readingAloud := rfl
@[simp] theorem agenda_backedBy : (s.backedBy b).agenda = s.agenda := rfl
@[simp] theorem journal_backedBy : (s.backedBy b).journal = s.journal := rfl
@[simp] theorem flag_backedBy (t : Toggle) : (s.backedBy b).flag t = s.flag t := rfl

@[simp] theorem backedBy_ite (p : Prop) [Decidable p] (s s' : Session) (b : Backing) :
    (if p then s else s').backedBy b = if p then s.backedBy b else s'.backedBy b :=
  apply_ite (backedBy · b) p s s'

@[simp] theorem backedBy_notify (level : NoticeLevel) (message : String) :
    (s.backedBy b).notify level message = (s.notify level message).backedBy b := rfl

@[simp] theorem backedBy_showModal (title body : String) :
    (s.backedBy b).showModal title body = (s.showModal title body).backedBy b := rfl

@[simp] theorem backedBy_arrange (delay : Nat) (step : Step) :
    (s.backedBy b).arrange delay step = (s.arrange delay step).backedBy b := rfl

/-! ### What is stored -/

@[simp] theorem backedBy_storeValue (a : Area) (key : String) (v : Json) :
    (s.backedBy b).storeValue a key v = (s.storeValue a key v).backedBy b := by
  have medium : ((s.backedBy b).store.set b.medium a key v).medium = b.medium :=
    Store.medium_update _ b _
  rw [storeValue, storeValue]
  show { s.backedBy b with
    store := ((s.backedBy b).store.set b.medium a key v).store
    medium := ((s.backedBy b).store.set b.medium a key v).medium } = _
  rw [medium, Store.set, Store.set, backedBy, backedBy, Store.store_update, Store.store_update]

@[simp] theorem backedBy_persist (t : Toggle) (on : Bool) :
    (s.backedBy b).persist t on = (s.persist t on).backedBy b := s.backedBy_storeValue b _ _ _

theorem backedBy_changeFontSize (c : FontChange) :
    (s.backedBy b).changeFontSize c =
      ((s.changeFontSize c).1, (s.changeFontSize c).2.backedBy b) :=
  congrArg (Prod.mk _) (backedBy_storeValue (s.showFontScale _) b _ _ _)

/-! ### Focus mode, voice control and the switches -/

theorem backedBy_tick (due : Nat) : (s.backedBy b).tick due = (s.tick due).backedBy b := by
  rw [tick, tick, pomodoro_backedBy]
  split
  · rfl
  · dsimp only
    split <;> rfl

theorem backedBy_enableFocus :
    (s.backedBy b).enableFocus = (s.enableFocus.1, s.enableFocus.2.backedBy b) := by
  rw [enableFocus, enableFocus, focus_backedBy, document_backedBy]
  cases s.focus.isSome with
  | true => rfl
  | false =>
      cases MainContent.article? s.document.body with
      | none => simp
      | some article => rfl

theorem backedBy_disableFocus : (s.backedBy b).disableFocus = s.disableFocus.backedBy b := by
  rw [disableFocus, disableFocus, ← backedBy_persist]
  rfl

theorem backedBy_enableVoice :
    (s.backedBy b).enableVoice = (s.enableVoice.1, s.enableVoice.2.backedBy b) := by
  rw [enableVoice, enableVoice, voice_backedBy, recognition_backedBy]
  split <;> rfl

theorem backedBy_applyToggle (t : Toggle) (on : Bool) :
    (s.backedBy b).applyToggle t on =
      ((s.applyToggle t on).1, (s.applyToggle t on).2.backedBy b) := by
  rw [applyToggle, applyToggle]
  cases t.target with
  | rootClass => rfl
  | bodyClass => rfl
  | readingGuide => rfl
  | focusMode =>
      cases on
      · exact congrArg (Prod.mk none) (s.backedBy_disableFocus b)
      · exact s.backedBy_enableFocus b
  | voiceControl =>
      cases on
      · rfl
      · exact s.backedBy_enableVoice b

theorem backedBy_clearPeers (t : Toggle) :
    (s.backedBy b).clearPeers t = (s.clearPeers t).backedBy b := by
  rw [clearPeers, clearPeers]
  induction t.peers generalizing s with
  | nil => rfl
  | cons u r ih =>
      rw [List.foldl_cons, List.foldl_cons, backedBy_persist, backedBy_applyToggle, ih]

theorem backedBy_setToggle (t : Toggle) (on : Bool) :
    (s.backedBy b).setToggle t on = (s.setToggle t on).backedBy b := by
  have cleared : (if on then (s.backedBy b).clearPeers t else s.backedBy b) =
      (if on then s.clearPeers t else s).backedBy b := by
    rw [backedBy_clearPeers, backedBy_ite]
  rw [setToggle, setToggle, cleared, backedBy_persist, backedBy_applyToggle]
  generalize ((if on then s.clearPeers t else s).persist t on).applyToggle t on = r
  obtain ⟨failure, s⟩ := r
  cases failure with
  | none => rfl
  | some e => cases e <;> rfl

theorem backedBy_addSkipLink : (s.backedBy b).addSkipLink = s.addSkipLink.backedBy b := by
  rw [addSkipLink, addSkipLink, document_backedBy, backedBy_ite]
  cases s.document.body.queryPath SkipLink.targets <;> rfl

/-! ### Taking over the settings -/

theorem backedBy_restore (kept : Option Toggle) (e : String × Json) :
    (s.backedBy b).restore kept e = (s.restore kept e).backedBy b := by
  obtain ⟨key, v⟩ := e
  rw [restore, restore]
  dsimp only
  rw [backedBy_ite]
  cases Toggle.ofKey? key with
  | none => rfl
  | some t =>
      dsimp only
      rw [backedBy_persist, backedBy_applyToggle, backedBy_applyToggle, backedBy_ite,
        backedBy_ite]
      rfl

theorem backedBy_restoreSettings :
    (s.backedBy b).restoreSettings = s.restoreSettings.backedBy b := by
  have run : ∀ (kept : Option Toggle) (entries : List (String × Json)) (s : Session),
      entries.foldl (restore kept) (s.backedBy b) =
        (entries.foldl (restore kept) s).backedBy b := by
    intro kept entries
    induction entries with
    | nil => exact fun _ => rfl
    | cons e r ih =>
        intro s
        rw [List.foldl_cons, List.foldl_cons, backedBy_restore, ih]
  exact run _ _ s

/-! ### Spoken commands -/

theorem backedBy_execute (c : Speech.Command) :
    (s.backedBy b).execute c = (s.execute c).backedBy b := by
  cases c with
  | enterFocusMode =>
      rw [execute_enterFocusMode, execute_enterFocusMode, backedBy_enableFocus,
        backedBy_persist, backedBy_ite]
  | exitFocusMode => exact s.backedBy_disableFocus b
  | disableVoice => exact congrArg disableVoice (s.backedBy_persist b .voiceControl false)
  | _ => rfl

theorem backedBy_voiceEvent (e : Speech.Event) :
    (s.backedBy b).voiceEvent e = ((s.voiceEvent e).1, (s.voiceEvent e).2.backedBy b) := by
  rw [voiceEvent, voiceEvent, voice_backedBy, recognition_backedBy, flag_backedBy]
  generalize s.voice.handle s.recognition e (s.flag .voiceControl) = r
  obtain ⟨outcome, voice, recognition⟩ := r
  have heard : { s.backedBy b with voice := voice, recognition := recognition } =
    ({ s with voice := voice, recognition := recognition } : Session).backedBy b := rfl
  dsimp only
  rw [heard]
  cases outcome with
  | command c => exact congrArg (Prod.mk _) (backedBy_execute _ b c)
  | permissionDenied => rw [backedBy_persist, backedBy_notify]
  | _ => rfl

/-! ### Actions of the assistant and of the synthesizer -/

theorem backedBy_ask (q : Query) :
    (s.backedBy b).ask q = ((s.ask q).1, (s.ask q).2.backedBy b) := rfl

theorem backedBy_showReport (r : Report) (result : Except Failure String) :
    (s.backedBy b).showReport r result = (s.showReport r result).backedBy b := by
  cases result <;> rfl

theorem backedBy_showAnswer (r : Report) (result : Except AssistantError String) :
    (s.backedBy b).showAnswer r result = (s.showAnswer r result).backedBy b :=
  s.backedBy_showReport b r _

theorem backedBy_askAndShow (r : Report) (q : Query) :
    (s.backedBy b).askAndShow r q = (s.askAndShow r q).backedBy b := by
  rw [askAndShow, askAndShow, backedBy_ask]
  dsimp only
  rw [backedBy_showAnswer, backedBy_arrange, backedBy_ite]

theorem backedBy_summarize (text : String) :
    (s.backedBy b).summarize text = (s.summarize text).backedBy b :=
  backedBy_askAndShow (s.showModal _ _) b _ _

theorem backedBy_simplify (text : String) :
    (s.backedBy b).simplify text = (s.simplify text).backedBy b :=
  backedBy_askAndShow (s.showModal _ _) b _ _

theorem backedBy_describeImage (url : String) :
    (s.backedBy b).describeImage url = (s.describeImage url).backedBy b := by
  rw [describeImage, describeImage]
  dsimp only
  rw [backedBy_showModal, platform_backedBy, journal_backedBy]
  generalize s.showModal "Lumen: AI Image Description" "Analyzing image..." = s
  generalize s.platform.fetch s.journal url = r
  obtain ⟨fetched, journal⟩ := r
  cases fetched with
  | ok image => exact backedBy_askAndShow { s with journal := journal } b _ _
  | error e => exact backedBy_showAnswer { s with journal := journal } b _ _

theorem backedBy_summarizePage (length : Assistant.SummaryLength) :
    (s.backedBy b).summarizePage length = (s.summarizePage length).backedBy b := by
  rw [summarizePage, summarizePage, backedBy_showModal, document_backedBy,
    backedBy_showReport, backedBy_askAndShow, backedBy_ite]

theorem backedBy_finishTranslation (language : String) (result : Except Failure Nat) :
    (s.backedBy b).finishTranslation language result =
      (s.finishTranslation language result).backedBy b := by
  cases result <;> rfl

theorem backedBy_writeBatch (t : Translation) (result : Except AssistantError String) :
    (s.backedBy b).writeBatch t result = (s.writeBatch t result).backedBy b := by
  cases result with
  | error e => exact s.backedBy_finishTranslation b t.language (.error (.ofAssistant e))
  | ok reply =>
      rw [writeBatch, writeBatch, document_backedBy]
      dsimp only
      generalize (Assistant.readBlocks reply).foldl _ (t.written, s.document) = r
      obtain ⟨written, document⟩ := r
      rw [backedBy_ite]
      cases t.left.isEmpty
      · rfl
      · exact backedBy_finishTranslation { s with document := document } b t.language (.ok written)

theorem backedBy_sendBatch (t : Translation) :
    (s.backedBy b).sendBatch t = (s.sendBatch t).backedBy b := by
  rw [sendBatch, sendBatch]
  dsimp only
  rw [backedBy_notify, backedBy_ask]
  dsimp only
  rw [backedBy_writeBatch, backedBy_arrange, backedBy_ite]

theorem backedBy_sendNext (t : Translation) :
    (s.backedBy b).sendNext t = (s.sendNext t).backedBy b := by
  rw [sendNext, sendNext]
  cases t.left with
  | nil => rfl
  | cons sent left => exact s.backedBy_sendBatch b _

theorem backedBy_translate (language : String) :
    (s.backedBy b).translate language = (s.translate language).backedBy b := by
  rw [translate, translate, translating_backedBy, backedBy_ite]
  refine if_congr Iff.rfl rfl ?_
  dsimp only
  generalize hs' : ({ s with translating := true } : Session).notify .info
    ("Translating page to " ++ language ++ "... This may take a moment.") = s'
  have begun : ({ s.backedBy b with translating := true } : Session).notify .info
      ("Translating page to " ++ language ++ "... This may take a moment.") = s'.backedBy b := by
    rw [← hs']
    rfl
  rw [begun, document_backedBy]
  cases Assistant.batches (Assistant.runs s'.document.body) with
  | nil => exact s'.backedBy_finishTranslation b _ _
  | cons sent left => exact s'.backedBy_sendBatch b _

theorem backedBy_startReading (persona : String) :
    (s.backedBy b).startReading persona =
      ((s.startReading persona).1, (s.startReading persona).2.backedBy b) := by
  rw [startReading, startReading, document_backedBy]
  dsimp only
  split
  · rfl
  · have cancelled : (s.backedBy b).cancelSpeech = s.cancelSpeech.backedBy b := rfl
    rw [cancelled, platform_backedBy, journal_backedBy]
    split <;> rfl

theorem backedBy_readAloud (persona : String) :
    (s.backedBy b).readAloud persona = (s.readAloud persona).backedBy b := by
  rw [readAloud, readAloud, readingAloud_backedBy, backedBy_startReading, backedBy_ite]
  generalize s.startReading persona = r
  obtain ⟨failure, s'⟩ := r
  cases failure <;> rfl

theorem backedBy_speechFinished (success : Bool) :
    (s.backedBy b).speechFinished success = (s.speechFinished success).backedBy b := by
  rw [speechFinished, speechFinished, readingAloud_backedBy, backedBy_ite]
  cases success <;> rfl

theorem backedBy_begin (task : Task) : (s.backedBy b).begin task = (s.begin task).backedBy b := by
  have keyed : ∀ f : Session → Session, f (s.backedBy b) = (f s).backedBy b →
      (if !(s.backedBy b).platform.backend.hasKey then
          (s.backedBy b).notify .error Failure.configuration.message
        else f (s.backedBy b)) =
      (if !s.platform.backend.hasKey then s.notify .error Failure.configuration.message
        else f s).backedBy b := by
    intro f h
    rw [h, backedBy_ite, platform_backedBy, backedBy_notify]
  cases task with
  | readAloud persona => exact s.backedBy_readAloud b persona
  | summarize text => exact keyed (·.summarize text) (s.backedBy_summarize b text)
  | simplify text => exact keyed (·.simplify text) (s.backedBy_simplify b text)
  | describeImage url => exact keyed (·.describeImage url) (s.backedBy_describeImage b url)
  | summarizePage length => exact keyed (·.summarizePage length) (s.backedBy_summarizePage b length)
  | translate language => exact keyed (·.translate language) (s.backedBy_translate b language)

/-! ### What happens to the page -/

theorem backedBy_perform (e : Entry) : (s.backedBy b).perform e = (s.perform e).backedBy b := by
  obtain ⟨due, step⟩ := e
  cases step with
  | tick => exact s.backedBy_tick b due
  | begin task => exact s.backedBy_begin b task
  | report r result => exact s.backedBy_showAnswer b r result
  | write t result => exact s.backedBy_writeBatch b t result
  | send t => exact s.backedBy_sendNext b t

theorem backedBy_receive (m : Message) : (s.backedBy b).receive m = (s.receive m).backedBy b := by
  cases m with
  | toggleFeature key value =>
      rw [receive, receive]
      dsimp only [task?]
      cases Toggle.ofKey? key with
      | none => rfl
      | some t => exact s.backedBy_setToggle b t value
  | adjustFontSize change => exact congrArg Prod.snd (s.backedBy_changeFontSize b change)
  | addSkipLink => exact s.backedBy_addSkipLink b
  | _ => rfl

theorem backedBy_happen (x : Happening) : (s.backedBy b).happen x = (s.happen x).backedBy b := by
  cases x with
  | message m => exact s.backedBy_receive b m
  | event e =>
      cases e with
      | pointerMove y => rfl
      | voice e => exact congrArg Prod.snd (s.backedBy_voiceEvent b e)
      | focusExitClicked => exact s.backedBy_disableFocus b
      | speechFinished success => exact s.backedBy_speechFinished b success
  | pause milliseconds => rfl
  | step i =>
      show (s.backedBy b).performAt i = (s.performAt i).backedBy b
      rw [performAt, performAt, agenda_backedBy]
      cases s.agenda[i]? with
      | none => rfl
      | some e => exact backedBy_perform { s with agenda := s.agenda.eraseIdx i } b e

theorem backedBy_undergo (e : Episode) :
    (s.backedBy b).undergo e = (s.undergo e).backedBy b := by
  cases e with
  | load => exact s.backedBy_restoreSettings b
  | occurs x =>
      cases x with
      | page x => exact s.backedBy_happen b x
      | platform running broken => rfl

theorem backedBy_episodes (es : List Episode) :
    es.foldl undergo (s.backedBy b) = (es.foldl undergo s).backedBy b := by
  induction es generalizing s with
  | nil => rfl
  | cons e r ih => rw [List.foldl_cons, List.foldl_cons, backedBy_undergo, ih]

def reply? (s : Session) : Episode → Option Reply
  | .occurs (.page (.message m)) => some (s.answer m)
  | _ => none

def replies (s : Session) : List Episode → List Reply
  | [] => []
  | e :: r => (s.reply? e).toList ++ replies (s.undergo e) r

theorem reply?_backedBy (e : Episode) : (s.backedBy b).reply? e = s.reply? e := by
  unfold reply?
  split
  · rename_i m
    cases m <;> rfl
  · rfl

theorem replies_backedBy (es : List Episode) : (s.backedBy b).replies es = s.replies es := by
  induction es generalizing s with
  | nil => rfl
  | cons e r ih => rw [replies, replies, reply?_backedBy, backedBy_undergo, ih]

/-- A page with a file that cannot be written, and one with the same settings in memory alone:
whatever both go through, however often the settings are taken over, they give the same replies and
come to the same state, in which the first has its file as it was. -/
theorem unwritable_unseen (platform : Platform) (document : Document) (store memory : Store)
    (file : SettingsFile) (recognition : Speech.Recognition) (es : List Episode)
    (unwritable : file.writable = false) (same : memory.settings = store.settings) :
    let filed := opened platform document store (some file) recognition
    let unfiled := opened platform document memory none recognition
    filed.replies es = unfiled.replies es ∧
      es.foldl undergo filed =
        { es.foldl undergo unfiled with
          store := ⟨(es.foldl undergo unfiled).store.settings, store.firstRun⟩
          medium := some file } := by
  intro filed unfiled
  let b : Backing := ⟨store.firstRun, some file, fun f hf => Option.some.inj hf ▸ unwritable⟩
  have start : filed = unfiled.backedBy b := by
    obtain ⟨settings, firstRun⟩ := memory
    obtain rfl : settings = store.settings := same
    rfl
  rw [start, replies_backedBy, backedBy_episodes]
  exact ⟨rfl, rfl⟩

/-- Two colour filters and voice control are switched on, and the settings are taken over once more;
nothing of that comes to the file. -/
theorem unwritable_unseen_of_switches :
    let platform : Platform := ⟨.unconfigured, fun _ => .error .missingKey, none⟩
    let file : SettingsFile := { contents := .text "{}", writable := false }
    let messages : List Message := [.ping, .toggleFeature "lumen-protanopia" true,
      .toggleFeature "lumen-tritanopia" true, .toggleFeature "lumen-voice-control" true,
      .getVoiceStatus]
    let es := .load :: messages.map (.occurs <| .page <| .message ·) ++ [.load]
    let filed := opened platform {} ⟨{}, false⟩ (some file) {}
    let unfiled := opened platform {} {} none {}
    file.writable = false ∧ ({} : Store).settings = (⟨{}, false⟩ : Store).settings ∧
      unfiled.replies es = [.ready, .received, .received, .received, .voiceStatus true] ∧
      filed.replies es = unfiled.replies es ∧
      (es.foldl undergo filed).document = (es.foldl undergo unfiled).document ∧
      (es.foldl undergo filed).document.hasRootClass "lumen-tritanopia" ∧
      (es.foldl undergo filed).flag .protanopia = false ∧
      (es.foldl undergo filed).medium = some file := by
  intro platform file messages es filed unfiled
  obtain ⟨replies, state⟩ :=
    unwritable_unseen platform {} ⟨{}, false⟩ {} file {} es rfl rfl
  have parts : ∀ u v : Session,
      u = { v with store := ⟨v.store.settings, false⟩, medium := some file } →
      u.document = v.document ∧ u.medium = some file := by
    rintro _ v rfl
    exact ⟨rfl, rfl⟩
  obtain ⟨page, kept⟩ := parts _ _ state
  exact ⟨rfl, rfl, by decide +kernel, replies, page, by decide +kernel, by decide +kernel, kept⟩

end Session

end PageAid
