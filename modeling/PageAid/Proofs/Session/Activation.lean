import PageAid.Proofs.Keyed
import PageAid.Proofs.Session.Body
import PageAid.Proofs.Session.Load

/-!
What remains when a mode of the page cannot be switched on. The switch is recorded before the mode
is tried. Focus mode takes the record back when it finds no article; voice control, where the
platform has no speech recognition, does not (`setToggle_of_inactive`).
-/

namespace PageAid

theorem Settings.insert_insert (s : Settings) (a : Area) (key : String) (v w : Json) :
    (s.insert a key v).insert a key w = s.insert a key w := by
  cases a <;> simp [insert, Keyed.insert_insert]

theorem Settings.insert_comm (s : Settings) (a : Area) {key other : String} (h : key ≠ other)
    (v w : Json) : (s.insert a key v).insert a other w = (s.insert a other w).insert a key v := by
  cases a <;> simp [insert, Keyed.insert_comm _ h]

namespace Session

/-- The mode that a switch stands for is on: focus mode holds a session, voice control a
recognizer. -/
def modeActive (s : Session) (t : Toggle) : Bool :=
  match t.target with
  | .focusMode => s.focus.isSome
  | .voiceControl => s.voice.listening
  | _ => false

theorem storeValue_storeValue (s : Session) (a : Area) (key : String) (v w : Json) :
    (s.storeValue a key v).storeValue a key w = s.storeValue a key w := by
  cases hm : s.medium with
  | none => simp [storeValue, Store.set, Store.update, hm, Settings.insert_insert]
  | some f =>
      cases hw : f.writable <;>
        simp [storeValue, Store.set, Store.update, SettingsFile.write?, hm, hw,
          Settings.insert_insert]

theorem enableFocus_ne_unsupported (s : Session) (message : String) :
    s.enableFocus.1 ≠ some (.unsupported message) := by
  unfold enableFocus
  split
  · simp
  · split <;> simp

theorem setToggle_focusMode (s : Session) :
    s.setToggle .focusMode true = (s.persist .focusMode true).enableFocus.2 := by
  have tried : ((if true then s.clearPeers .focusMode else s).persist .focusMode true).applyToggle
      .focusMode true = (s.persist .focusMode true).enableFocus := rfl
  unfold setToggle
  dsimp only
  rw [tried]
  split
  · rename_i message _ unsupported
    exact absurd (congrArg Prod.fst unsupported) (enableFocus_ne_unsupported _ message)
  · rename_i same
    rw [same]

/-- Focus mode that does not come on finds no article; it takes the record of its switch back. -/
theorem setToggle_focusMode_of_inactive {s : Session}
    (failed : (s.setToggle .focusMode true).focus = none) :
    s.focus = none ∧ s.setToggle .focusMode true =
      (s.persist .focusMode false).notify .error Focus.notFoundMessage := by
  rw [setToggle_focusMode] at failed ⊢
  obtain ⟨active, -, same⟩ | ⟨inactive, -, told⟩ | ⟨article, -, -, -, shown⟩ :=
    enableFocus_cases (s.persist .focusMode true)
  · rw [same] at failed
    simp [failed] at active
  · refine ⟨inactive, ?_⟩
    have taken : (s.persist .focusMode true).persist .focusMode false =
        s.persist .focusMode false := storeValue_storeValue s .device _ _ _
    rw [told, ← taken]
    rfl
  · rw [shown] at failed
    simp [startTimer, arrange, withoutTicks] at failed

theorem setToggle_voiceControl_of_inactive {s : Session}
    (failed : (s.setToggle .voiceControl true).voice.listening = false) :
    s.voice.listening = false ∧ s.setToggle .voiceControl true =
      (s.persist .voiceControl true).notify .error
        (Failure.unsupported Speech.Control.unsupportedMessage).message := by
  have tried : ((if true then s.clearPeers .voiceControl else s).persist .voiceControl
      true).applyToggle .voiceControl true = (s.persist .voiceControl true).enableVoice := rfl
  unfold setToggle at failed ⊢
  dsimp only at failed ⊢
  rw [tried] at failed ⊢
  unfold enableVoice at failed ⊢
  cases hv : (s.persist .voiceControl true).voice.enable?
      (s.persist .voiceControl true).recognition with
  | none =>
      rw [hv] at failed
      exact ⟨failed, rfl⟩
  | some r =>
      -- a recognizer is held then
      obtain ⟨voice, recognition⟩ := r
      have held : voice.held.isSome := by
        unfold Speech.Control.enable? at hv
        split at hv
        · rename_i n hn
          obtain ⟨rfl, -⟩ := Prod.mk.inj (Option.some.inj hv)
          simp [hn]
        · obtain ⟨r, -, made⟩ := Option.map_eq_some_iff.1 hv
          obtain ⟨rfl, -⟩ := Prod.mk.inj made
          rfl
      rw [hv] at failed
      have unheld : voice.held.isSome = false := failed
      simp [held] at unheld

/-- The switch of a mode is set on and the mode does not come on: it was off before, the user is
told, and nothing changes besides but the record of the switch. That of focus mode is off then,
that of voice control on. -/
theorem setToggle_of_inactive (s : Session) {t : Toggle} (ht : t.isSessionScoped)
    (failed : (s.setToggle t true).modeActive t = false) :
    s.modeActive t = false ∧
      (∃ message, s.setToggle t true =
        (s.persist t (t == .voiceControl)).notify .error message) ∧
      (s.setToggle t true).flag t = (t == .voiceControl) := by
  have modes : t = .focusMode ∨ t = .voiceControl := by simpa [Toggle.isSessionScoped] using ht
  rcases modes with rfl | rfl
  · have off : (s.setToggle .focusMode true).focus = none := by
      simpa [modeActive, Toggle.target] using failed
    obtain ⟨inactive, told⟩ := setToggle_focusMode_of_inactive off
    refine ⟨by simp [modeActive, Toggle.target, inactive], ⟨_, told⟩, ?_⟩
    rw [told]
    show (s.persist .focusMode false).flag .focusMode = _
    rw [flag_persist Toggle.readable_focusMode Toggle.readable_focusMode, if_pos rfl]
    rfl
  · obtain ⟨inactive, told⟩ := setToggle_voiceControl_of_inactive failed
    refine ⟨inactive, ⟨_, told⟩, ?_⟩
    rw [told]
    show (s.persist .voiceControl true).flag .voiceControl = _
    rw [flag_persist Toggle.readable_voiceControl Toggle.readable_voiceControl, if_pos rfl]
    rfl

theorem setToggle_of_inactive_of_emptyPage :
    let s := opened ⟨.unconfigured, fun _ => .error .missingKey, none⟩ {} {} none {}
    Toggle.focusMode.isSessionScoped ∧
      (s.setToggle .focusMode true).modeActive .focusMode = false ∧
      s.modeActive .focusMode = false ∧
      (∃ message, s.setToggle .focusMode true =
        (s.persist .focusMode (Toggle.focusMode == .voiceControl)).notify .error message) ∧
      (s.setToggle .focusMode true).flag .focusMode = (Toggle.focusMode == .voiceControl) := by
  intro s
  have failed : (s.setToggle .focusMode true).modeActive .focusMode = false := by decide +kernel
  exact ⟨rfl, failed, setToggle_of_inactive s rfl failed⟩

/-- Without speech recognition voice control stays off, and its switch is recorded as on. -/
theorem voiceControl_recorded_of_unsupported :
    let s := (opened ⟨.unconfigured, fun _ => .error .missingKey, none⟩ {} {} none
      { supported := false }).setToggle .voiceControl true
    s.modeActive .voiceControl = false ∧ s.flag .voiceControl = true := by
  decide +kernel

end Session

end PageAid
