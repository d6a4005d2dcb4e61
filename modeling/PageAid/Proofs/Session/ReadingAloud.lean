import PageAid.Proofs.Session.Dealings
import PageAid.Proofs.Session.Episode

/-!
Reading aloud, with the reports of the synthesizer delivered in any order. A report does not say
which utterance it is about, and the page takes it for one about the utterance that is being read.
The flag is up only while the latest utterance is live; it is up all that time just in case no
utterance that was stopped is reported while a later one is read (`readingAloud_agrees_iff`).
-/

namespace PageAid

open Assistant

namespace Session

/-! ### What leaves reading aloud alone -/

def voicing (s : Session) : Platform × Speech.Log × Bool :=
  (s.platform, s.journal.speech, s.readingAloud)

theorem voicing_of_dealings {s : Session} {d : Dealings} (h : s.dealings = d) :
    s.voicing = (d.platform, d.speech, d.readingAloud) := by
  rw [← h]
  rfl

theorem parts_of_voicing {s : Session} {p : Platform} {log : Speech.Log} {on : Bool}
    (h : s.voicing = (p, log, on)) :
    s.platform = p ∧ s.journal.speech = log ∧ s.readingAloud = on := by
  simpa [voicing] using h

theorem voicing_showReport (s : Session) (r : Report) (result : Except Failure String) :
    (s.showReport r result).voicing = s.voicing := by
  cases result <;> rfl

theorem voicing_askAndShow (s : Session) (r : Report) (q : Query) :
    (s.askAndShow r q).voicing = s.voicing := by
  rw [askAndShow]
  dsimp only
  split
  · exact voicing_showReport _ _ _
  · rfl

theorem voicing_describeImage (s : Session) (url : String) :
    (s.describeImage url).voicing = s.voicing := by
  rw [describeImage]
  dsimp only
  split
  · exact voicing_askAndShow _ _ _
  · exact voicing_showReport _ _ _

theorem voicing_summarizePage (s : Session) (length : SummaryLength) :
    (s.summarizePage length).voicing = s.voicing := by
  rw [summarizePage]
  split
  · exact voicing_showReport _ _ _
  · exact voicing_askAndShow _ _ _

theorem voicing_finishTranslation (s : Session) (language : String)
    (result : Except Failure Nat) : (s.finishTranslation language result).voicing = s.voicing := by
  cases result <;> rfl

theorem voicing_writeBatch (s : Session) (t : Translation)
    (result : Except AssistantError String) : (s.writeBatch t result).voicing = s.voicing := by
  cases result with
  | error e => exact voicing_finishTranslation s _ _
  | ok reply =>
      rw [writeBatch]
      generalize (readBlocks reply).foldl (writeBlock t.sent) (t.written, s.document) = r
      obtain ⟨written, d⟩ := r
      dsimp only
      split
      · exact voicing_finishTranslation { s with document := d } _ _
      · rfl

theorem voicing_sendBatch (s : Session) (t : Translation) :
    (s.sendBatch t).voicing = s.voicing := by
  rw [sendBatch]
  dsimp only
  split
  · exact voicing_writeBatch _ _ _
  · rfl

theorem voicing_sendNext (s : Session) (t : Translation) : (s.sendNext t).voicing = s.voicing := by
  rw [sendNext]
  split
  · rfl
  · exact voicing_sendBatch _ _

theorem voicing_translate (s : Session) (language : String) :
    (s.translate language).voicing = s.voicing := by
  rw [translate]
  split
  · rfl
  · dsimp only
    split
    · exact voicing_finishTranslation _ _ _
    · exact voicing_sendBatch _ _

theorem voicing_begin (s : Session) {task : Task} (h : ∀ persona, task ≠ .readAloud persona) :
    (s.begin task).voicing = s.voicing := by
  unfold begin
  split
  · rename_i persona
    exact absurd rfl (h persona)
  · split
    · rfl
    · cases task with
      | summarize text => exact voicing_askAndShow _ _ _
      | simplify text => exact voicing_askAndShow _ _ _
      | describeImage url => exact voicing_describeImage s url
      | summarizePage length => exact voicing_summarizePage s length
      | translate language => exact voicing_translate s language
      | readAloud persona => exact absurd rfl (h persona)

theorem voicing_perform (s : Session) {e : Entry} (other : e.step.isTick = false)
    (h : ∀ persona, e.step ≠ .begin (.readAloud persona)) :
    (s.perform e).voicing = s.voicing := by
  rw [perform]
  split
  · rename_i ticks
    simp [ticks, Step.isTick] at other
  · rename_i task begins
    exact voicing_begin s fun persona same => h persona (by rw [begins, same])
  · exact voicing_showReport _ _ _
  · exact voicing_writeBatch _ _ _
  · exact voicing_sendNext _ _

def Happening.reports : Happening → Bool
  | .event (.speechFinished _) => true
  | _ => false

/-- What happens to a page leaves reading aloud alone, or tells the synthesizer to stop, or makes
it take one utterance after it was told to stop. -/
theorem voicing_happen (s : Session) {x : Happening} (other : x.reports = false) :
    let stopped := s.journal.speech.cancel s.platform.synthesizer
    (s.happen x).voicing = s.voicing ∨
      (s.happen x).voicing = (s.platform, stopped, false) ∨
      ∃ u, s.platform.synthesizer.isSome ∧ (s.happen x).voicing =
        (s.platform, { stopped with spoken := stopped.spoken ++ [u] }, true) := by
  intro stopped
  cases acts : x.acts s with
  | false => exact .inl (voicing_of_dealings (dealings_happen acts))
  | true =>
      cases x with
      | message m =>
          obtain ⟨task, asked⟩ := Option.isSome_iff_exists.1 acts
          exact .inl (by simp [happen, receive, asked, arrange, voicing])
      | event e =>
          cases e with
          | speechFinished success => simp [Happening.reports] at other
          | _ => simp [Happening.acts] at acts
      | pause n => simp [Happening.acts] at acts
      | step i =>
          obtain ⟨e, he, untimed⟩ := (Option.any_eq_true _ _).1 acts
          have performed : s.happen (.step i) =
              ({ s with agenda := s.agenda.eraseIdx i } : Session).perform e := by
            simp [happen, performAt, he]
          rw [performed]
          by_cases reads : ∃ persona, e.step = .begin (.readAloud persona)
          · obtain ⟨persona, reads⟩ := reads
            have begun : ({ s with agenda := s.agenda.eraseIdx i } : Session).perform e =
                ({ s with agenda := s.agenda.eraseIdx i } : Session).readAloud persona := by
              rw [perform, reads]
              simp only [begin]
            rw [begun]
            obtain ⟨-, same⟩ | ⟨silent, same | same | ⟨u, able, same⟩⟩ :=
              dealings_readAloud { s with agenda := s.agenda.eraseIdx i } persona
            · exact .inr (.inl (voicing_of_dealings same))
            · exact .inl (voicing_of_dealings same)
            · refine .inr (.inl ((voicing_of_dealings same).trans ?_))
              exact congrArg (fun on => (s.platform, stopped, on)) silent
            · exact .inr (.inr ⟨u, able, voicing_of_dealings same⟩)
          · exact .inl (voicing_perform _ (by simpa using untimed) fun persona same =>
              reads ⟨persona, same⟩)

def Episode.reports : Episode → Bool
  | .occurs (.page x) => x.reports
  | _ => false

theorem voicing_undergo (s : Session) {e : Episode} (other : e.reports = false) :
    let stopped := s.journal.speech.cancel s.platform.synthesizer
    (s.undergo e).voicing = s.voicing ∨
      (s.undergo e).voicing = (s.platform, stopped, false) ∨
      ∃ u, s.platform.synthesizer.isSome ∧ (s.undergo e).voicing =
        (s.platform, { stopped with spoken := stopped.spoken ++ [u] }, true) := by
  cases e with
  | load => exact .inl (voicing_of_dealings (dealings_restoreSettings s))
  | occurs x =>
      cases x with
      | page x => exact voicing_happen s other
      | platform running broken => exact .inl rfl

end Session

structure Spoken where
  /-- The synthesizer was told to stop since. -/
  stopped : Bool := false
  reported : Bool := false
deriving DecidableEq

namespace Spoken

def isLive (u : Spoken) : Bool := !u.stopped && !u.reported

def stop (u : Spoken) : Spoken := { u with stopped := true }

end Spoken

/-- A page, and the utterances that its synthesizer took so far. The page does not keep these. -/
structure Recital where
  session : Session
  utterances : List Spoken := []

namespace Recital

open Session

inductive Move where
  /-- The page goes through something. A report comes in no way but as one of an utterance. -/
  | page (e : Episode)
  /-- The end of an utterance is reported, unless it was already. -/
  | finished (i : Nat) (success : Bool)
  /-- The synthesizer, if there is one, comes to refuse or to take utterances. -/
  | synthesizer (refusal : Option String)

/-- The page comes to another state. The log of the synthesizer shows whether it was told to stop
on the way, and what it took after that. -/
def follow (v : Recital) (s : Session) : Recital :=
  let before := v.session.journal.speech
  let after := s.journal.speech
  let kept := if before.cancels < after.cancels then v.utterances.map .stop else v.utterances
  ⟨s, kept ++ List.replicate (after.spoken.length - before.spoken.length) ({} : Spoken)⟩

def move (v : Recital) : Move → Recital
  | .page e => if e.reports then v else v.follow (v.session.undergo e)
  | .finished i success =>
    match v.utterances[i]? with
    | some u =>
      if u.reported then v
      else
        ⟨v.session.happen (.event (.speechFinished success)),
          v.utterances.set i { u with reported := true }⟩
    | none => v
  | .synthesizer refusal =>
    let p := v.session.platform
    let synthesizer := p.synthesizer.map ({ · with refusal := refusal })
    { v with session := { v.session with platform := { p with synthesizer := synthesizer } } }

def after (v : Recital) (moves : List Move) (n : Nat) : Recital := (moves.take n).foldl move v

/-- The utterance that was taken last was neither stopped nor reported. -/
def reading (v : Recital) : Bool := v.utterances.getLast?.any (·.isLive)

/-- The end of an utterance is reported that was stopped before. -/
def Move.isLate (v : Recital) : Move → Bool
  | .finished i _ => v.utterances[i]?.any fun u => u.stopped && !u.reported
  | _ => false

/-- The flag is up only while the latest utterance is live, and no other one is. -/
structure Sound (v : Recital) : Prop where
  flag : v.session.readingAloud → v.reading
  latest : ∀ i u, v.utterances[i]? = some u → u.stopped = false → i + 1 = v.utterances.length
  able : v.utterances ≠ [] → v.session.platform.synthesizer.isSome

/-- The flag is up just as long as the latest utterance is live. -/
def Agreed (v : Recital) : Prop := v.session.readingAloud = v.reading

def hushed (v : Recital) : List Spoken :=
  if v.session.platform.synthesizer.isSome then v.utterances.map .stop else v.utterances

variable {v : Recital}

/-! ### What happens to the page -/

theorem page_cases (v : Recital) (e : Episode) :
    let w := v.move (.page e)
    w.session.platform = v.session.platform ∧
      ((w.session.readingAloud = v.session.readingAloud ∧ w.utterances = v.utterances) ∨
        (w.session.readingAloud = false ∧ w.utterances = v.hushed) ∨
        (v.session.platform.synthesizer.isSome ∧ w.session.readingAloud = true ∧
          w.utterances = v.hushed ++ [({} : Spoken)])) := by
  intro w
  cases other : e.reports with
  | true =>
      have same : w = v := by simp [w, move, other]
      rw [same]
      exact ⟨rfl, .inl ⟨rfl, rfl⟩⟩
  | false =>
      have followed : w = v.follow (v.session.undergo e) := by simp [w, move, other]
      rw [followed]
      obtain same | same | ⟨u, able, same⟩ := voicing_undergo v.session other
      · obtain ⟨platform, log, flag⟩ := parts_of_voicing same
        exact ⟨platform, .inl ⟨flag, by simp [follow, log]⟩⟩
      · obtain ⟨platform, log, flag⟩ := parts_of_voicing same
        refine ⟨platform, .inr (.inl ⟨flag, ?_⟩)⟩
        cases able : v.session.platform.synthesizer.isSome <;>
          simp [follow, log, hushed, Speech.Log.cancel, able]
      · obtain ⟨platform, log, flag⟩ := parts_of_voicing same
        refine ⟨platform, .inr (.inr ⟨able, flag, ?_⟩)⟩
        simp [follow, log, hushed, Speech.Log.cancel, able]

theorem stopped_of_mem_hushed (hv : v.Sound) : ∀ u ∈ v.hushed, u.stopped := by
  intro u hu
  rw [hushed] at hu
  split at hu
  · obtain ⟨u', -, rfl⟩ := List.mem_map.1 hu
    rfl
  · -- without a synthesizer there are no utterances
    rename_i unable
    exact absurd (hv.able (List.ne_nil_of_mem hu)) unable

theorem reading_of_stopped {l : List Spoken} (h : ∀ u ∈ l, u.stopped) :
    l.getLast?.any (·.isLive) = false := by
  cases hl : l.getLast? with
  | none => rfl
  | some u => simp [Spoken.isLive, h u (List.mem_of_getLast? hl)]

theorem sound_page (hv : v.Sound) (e : Episode) : (v.move (.page e)).Sound := by
  have stopped : ∀ (i : Nat) (u : Spoken), v.hushed[i]? = some u → u.stopped = false → False := by
    intro i u hu unstopped
    have stopped := stopped_of_mem_hushed hv u (List.mem_of_getElem? hu)
    exact Bool.false_ne_true (unstopped.symm.trans stopped)
  obtain ⟨platform, ⟨flag, same⟩ | ⟨flag, same⟩ | ⟨able, flag, same⟩⟩ := v.page_cases e
  · refine ⟨?_, ?_, ?_⟩
    · rw [flag, reading, same]
      exact hv.flag
    · rw [same]
      exact hv.latest
    · rw [same, platform]
      exact hv.able
  · refine ⟨?_, ?_, ?_⟩
    · rw [flag]
      exact fun on => absurd on Bool.false_ne_true
    · rw [same]
      exact fun i u hu unstopped => (stopped i u hu unstopped).elim
    · rw [same, platform]
      intro some
      apply hv.able
      rintro none
      exact some (by simp [hushed, none])
  · refine ⟨?_, ?_, ?_⟩
    · rw [reading, same, List.getLast?_concat]
      exact fun _ => rfl
    · rw [same]
      intro i u hu unstopped
      by_cases before : i < v.hushed.length
      · rw [List.getElem?_append_left before] at hu
        exact (stopped i u hu unstopped).elim
      · obtain ⟨inside, -⟩ := List.getElem?_eq_some_iff.1 hu
        rw [List.length_append, List.length_singleton] at inside ⊢
        omega
    · rw [platform]
      exact fun _ => able

theorem agreed_page (hv : v.Sound) (h : v.Agreed) (e : Episode) : (v.move (.page e)).Agreed := by
  obtain ⟨-, ⟨flag, same⟩ | ⟨flag, same⟩ | ⟨-, flag, same⟩⟩ := v.page_cases e
  · rw [Agreed, reading, flag, same]
    exact h
  · rw [Agreed, reading, flag, same, reading_of_stopped (stopped_of_mem_hushed hv)]
  · rw [Agreed, reading, flag, same, List.getLast?_concat]
    rfl

/-! ### Reports -/

section Report

variable {i : Nat} {u : Spoken} (hu : v.utterances[i]? = some u) (unreported : u.reported = false)
  (success : Bool)

include hu unreported

theorem move_finished :
    (v.move (.finished i success)).utterances = v.utterances.set i { u with reported := true } ∧
      (v.move (.finished i success)).session = v.session.speechFinished success := by
  rw [move, hu]
  simp only [unreported]
  exact ⟨rfl, rfl⟩

theorem flag_finished :
    (v.move (.finished i success)).session.readingAloud = false ∧
      (v.move (.finished i success)).session.platform = v.session.platform := by
  have dealings := dealings_speechFinished v.session success
  rw [(move_finished hu unreported success).2]
  exact ⟨congrArg Dealings.readingAloud dealings, congrArg Dealings.platform dealings⟩

theorem reading_finished :
    (v.move (.finished i success)).reading =
      if i + 1 = v.utterances.length then false else v.reading := by
  obtain ⟨inside, -⟩ := List.getElem?_eq_some_iff.1 hu
  rw [reading, (move_finished hu unreported success).1, List.getLast?_eq_getElem?,
    List.length_set, List.getElem?_set]
  split
  · rename_i last
    rw [if_pos (by omega)]
    simp [Spoken.isLive]
  · rename_i last
    rw [if_neg (by omega), reading, List.getLast?_eq_getElem?]

theorem sound_finished (hv : v.Sound) : (v.move (.finished i success)).Sound := by
  obtain ⟨utterances, -⟩ := move_finished hu unreported success
  obtain ⟨flag, platform⟩ := flag_finished hu unreported success
  refine ⟨?_, ?_, ?_⟩
  · rw [flag]
    exact fun on => absurd on Bool.false_ne_true
  · rw [utterances, List.length_set]
    intro j w hw unstopped
    rw [List.getElem?_set] at hw
    split at hw
    · rename_i same
      split at hw
      · obtain rfl := Option.some.inj hw
        exact same ▸ hv.latest i u hu unstopped
      · cases hw
    · exact hv.latest j w hw unstopped
  · rw [utterances, platform]
    intro some
    apply hv.able
    rintro none
    exact some (by rw [none, List.set_nil])

/-- After a report the flag agrees with the utterances, unless it is a report of an utterance that
was stopped, and comes while a later one is read. -/
theorem agreed_finished_iff (hv : v.Sound) :
    (v.move (.finished i success)).Agreed ↔ (u.stopped → v.reading = false) := by
  rw [Agreed, (flag_finished hu unreported success).1, reading_finished hu unreported success]
  cases stopped : u.stopped with
  | false =>
      rw [if_pos (hv.latest i u hu stopped)]
      simp
  | true =>
      split
      · rename_i last
        -- the utterance was stopped, so that it is not read before the report either
        have here : v.utterances.getLast? = some u := by
          rw [List.getLast?_eq_getElem?, ← last, Nat.add_sub_cancel, hu]
        simp [reading, here, Spoken.isLive, stopped]
      · exact ⟨fun same _ => same.symm, fun off => (off rfl).symm⟩

end Report

/-! ### Runs -/

theorem finished_cases (v : Recital) (i : Nat) (success : Bool) :
    (v.move (.finished i success) = v ∧ (Move.finished i success).isLate v = false) ∨
    ∃ u, v.utterances[i]? = some u ∧ u.reported = false ∧
      (Move.finished i success).isLate v = u.stopped := by
  cases hu : v.utterances[i]? with
  | none => exact .inl ⟨by simp [move, hu], by simp [Move.isLate, hu]⟩
  | some u =>
      cases reported : u.reported with
      | true => exact .inl ⟨by simp [move, hu, reported], by simp [Move.isLate, hu, reported]⟩
      | false => exact .inr ⟨u, rfl, reported, by simp [Move.isLate, hu, reported]⟩

theorem sound_move (hv : v.Sound) (m : Move) : (v.move m).Sound := by
  cases m with
  | page e => exact sound_page hv e
  | finished i success =>
      obtain ⟨same, -⟩ | ⟨u, hu, unreported, -⟩ := v.finished_cases i success
      · rw [same]
        exact hv
      · exact sound_finished hu unreported success hv
  | synthesizer refusal =>
      refine ⟨hv.flag, hv.latest, fun some => ?_⟩
      have able := hv.able some
      show (v.session.platform.synthesizer.map _).isSome
      rw [Option.isSome_map]
      exact able

/-- A move keeps the flag at the latest utterance, unless it is a late report and an utterance is
read. -/
theorem agreed_move_iff (hv : v.Sound) (h : v.Agreed) (m : Move) :
    (v.move m).Agreed ↔ (m.isLate v → v.reading = false) := by
  cases m with
  | page e => exact ⟨fun _ late => absurd late Bool.false_ne_true, fun _ => agreed_page hv h e⟩
  | finished i success =>
      obtain ⟨same, timely⟩ | ⟨u, hu, unreported, late⟩ := v.finished_cases i success
      · rw [same, timely]
        exact ⟨fun _ late => absurd late Bool.false_ne_true, fun _ => h⟩
      · rw [late]
        exact agreed_finished_iff hu unreported success hv
  | synthesizer refusal =>
      exact ⟨fun _ late => absurd late Bool.false_ne_true, fun _ => h⟩

theorem session_of_late (hv : v.Sound) {m : Move} (late : m.isLate v) (off : v.reading = false) :
    (v.move m).session = v.session := by
  have silent : v.session.readingAloud = false := by
    cases on : v.session.readingAloud with
    | false => rfl
    | true => exact (off.symm.trans (hv.flag on)).symm
  cases m with
  | page e => exact absurd late Bool.false_ne_true
  | finished i success =>
      obtain ⟨same, -⟩ | ⟨u, hu, unreported, -⟩ := v.finished_cases i success
      · rw [same]
      · rw [(move_finished hu unreported success).2, speechFinished, silent]
        rfl
  | synthesizer refusal => exact absurd late Bool.false_ne_true

theorem after_succ {moves : List Move} {n : Nat} {m : Move} (hm : moves[n]? = some m) :
    v.after moves (n + 1) = (v.after moves n).move m :=
  foldl_take_succ hm

theorem after_induction {P : Recital → Prop} {moves : List Move} (start : P v)
    (step : ∀ n m, moves[n]? = some m → P (v.after moves n) → P ((v.after moves n).move m))
    (n : Nat) : P (v.after moves n) :=
  foldl_take_induction start step n

theorem sound_after (hv : v.Sound) (moves : List Move) (n : Nat) : (v.after moves n).Sound :=
  after_induction hv (fun _ m _ h => sound_move h m) n

def opened (platform : Platform) (document : Document) (store : Store) (medium : Medium)
    (recognition : Speech.Recognition) : Recital :=
  { session := Session.opened platform document store medium recognition }

theorem sound_opened (platform : Platform) (document : Document) (store : Store)
    (medium : Medium) (recognition : Speech.Recognition) :
    (opened platform document store medium recognition).Sound := by
  refine ⟨fun on => absurd on Bool.false_ne_true, ?_, fun some => absurd rfl some⟩
  intro i u hu
  simp [opened] at hu

/-- However requests, all else that a page goes through and the reports of its utterances follow one
another, each utterance being reported at most once and at any time after it was taken: the flag is
up only while the latest utterance was neither stopped nor reported. It is up all that time, and no
report of an utterance that was stopped changes anything, if and only if each report of an
utterance that was stopped comes at a time when none is read. -/
theorem readingAloud_agrees_iff (platform : Platform) (document : Document) (store : Store)
    (medium : Medium) (recognition : Speech.Recognition) (moves : List Move) :
    let v := (opened platform document store medium recognition).after moves
    (∀ n, (v n).session.readingAloud → (v n).reading) ∧
      ((∀ n, (v n).session.readingAloud = (v n).reading ∧
          ∀ m, moves[n]? = some m → m.isLate (v n) → (v (n + 1)).session = (v n).session) ↔
        ∀ n m, moves[n]? = some m → m.isLate (v n) → (v n).reading = false) := by
  intro v
  have sound : ∀ n, (v n).Sound := sound_after (sound_opened ..) moves
  refine ⟨fun n => (sound n).flag, fun h n m hm => ?_, fun h n => ?_⟩
  · have next : (v (n + 1)).Agreed := (h (n + 1)).1
    rw [show v (n + 1) = (v n).move m from after_succ hm] at next
    exact (agreed_move_iff (sound n) (h n).1 m).1 next
  · have start : (opened platform document store medium recognition).Agreed := rfl
    have agreed : (v n).Agreed := by
      apply after_induction start
      intro n m hm agreed
      exact (agreed_move_iff (sound n) agreed m).2 (h n m hm)
    refine ⟨agreed, fun m hm late => ?_⟩
    rw [show v (n + 1) = (v n).move m from after_succ hm]
    exact session_of_late (sound n) late (h n m hm late)

/-- The page is read, this is stopped, and it is read again. Only then is the end of the first
utterance reported, and the flag goes down although the second one is being read; that one is
reported later. -/
theorem unflagged_of_lateReport :
    let platform : Platform := ⟨.unconfigured, fun _ => .error .missingKey, some {}⟩
    let document : Document :=
      { body := (Element.new "body").withText
          "A page is read aloud if it has at least fifty characters." }
    let request : List Move := [.page (.occurs (.page (.message (.runAIReadAloud "Kore")))),
      .page (.occurs (.page (.step 0)))]
    let v := (opened platform document {} none {}).after
      (.page .load :: request ++ request ++ request) 7
    let w := v.move (.finished 0 false)
    (Move.finished 0 false).isLate v = true ∧ v.session.readingAloud = true ∧ v.reading = true ∧
      w.session.readingAloud = false ∧ w.reading = true ∧
      (w.move (.finished 1 true)).utterances = [⟨true, true⟩, ⟨false, true⟩] := by
  intro platform document request v w
  have utterances : v.utterances = [⟨true, false⟩, ⟨false, false⟩] := by decide +kernel
  have on : v.session.readingAloud = true := by decide +kernel
  clear_value v
  have first : v.utterances[0]? = some ⟨true, false⟩ := by rw [utterances]; rfl
  have reported : w.utterances = [⟨true, true⟩, ⟨false, false⟩] := by
    rw [(move_finished first rfl false).1, utterances]
    rfl
  have second : w.utterances[1]? = some ⟨false, false⟩ := by rw [reported]; rfl
  refine ⟨?_, on, ?_, (flag_finished first rfl false).1, ?_, ?_⟩
  · rw [Move.isLate, first]
    rfl
  · rw [reading, utterances]
    rfl
  · rw [reading, reported]
    rfl
  · rw [(move_finished second rfl true).1, reported]
    rfl

end Recital

end PageAid
