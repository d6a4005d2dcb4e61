import PageAid.Proofs.Session.FocusMode

/-!
The Pomodoro timer under any sequence of calls. Its state, its one ticker, the text on the page and
the chimes are changed in different places; together they follow the calls (`timer_follows`): the
state is that of the last start, ticked once for each firing since, the text is that of the last
firing, and the chimes are the changes of phase among all firings.
-/

namespace PageAid

open Pomodoro

/-! ### Firings -/

namespace Pomodoro

def Tick.isChange : Tick → Bool
  | changed _ => true
  | _ => false

def State.trace : Nat → State → List (Tick × State)
  | 0, _ => []
  | n + 1, s => s.tick :: trace n s.tick.2

end Pomodoro

/-- A call of the timer, a firing of the ticker that runs, or a change of the page by something
else. -/
inductive TimerStep where
  | start (d : Durations)
  | cancel
  | fire
  | edit (f : Document → Document)

namespace TimerStep

def isCall : TimerStep → Bool
  | start _ | cancel => true
  | _ => false

def isFiring : TimerStep → Bool
  | fire => true
  | _ => false

def firings : List TimerStep → Nat
  | fire :: r => firings r + 1
  | edit _ :: r => firings r
  | _ => 0

/-- The starts of the timer, and how often the ticker of each one fires. -/
def sittings : List TimerStep → List (Durations × Nat)
  | [] => []
  | start d :: r => (d, firings r) :: sittings r
  | _ :: r => sittings r

def outcomes (steps : List TimerStep) : List (Tick × State) :=
  (sittings steps).flatMap fun (d, n) => (State.start d).trace n

/-- All firings, where at first a timer in this state runs or none does. -/
def outcomesFrom (running : Option State) (steps : List TimerStep) : List (Tick × State) :=
  running.elim [] (State.trace (firings steps)) ++ outcomes steps

@[simp] theorem outcomesFrom_nil (running : Option State) : outcomesFrom running [] = [] := by
  cases running <;> rfl

@[simp] theorem outcomesFrom_start (running : Option State) (d : Durations)
    (r : List TimerStep) :
    outcomesFrom running (start d :: r) = outcomesFrom (some (.start d)) r := by
  cases running <;> rfl

@[simp] theorem outcomesFrom_cancel (running : Option State) (r : List TimerStep) :
    outcomesFrom running (cancel :: r) = outcomesFrom none r := by
  cases running <;> rfl

@[simp] theorem outcomesFrom_fire (running : Option State) (r : List TimerStep) :
    outcomesFrom running (fire :: r) =
      running.toList.map (·.tick) ++ outcomesFrom (running.map (·.tick.2)) r := by
  cases running <;> rfl

@[simp] theorem outcomesFrom_edit (running : Option State) (f : Document → Document)
    (r : List TimerStep) :
    outcomesFrom running (edit f :: r) = outcomesFrom running r := by
  cases running <;> rfl

end TimerStep

def Document.timerText? (d : Document) : Option String :=
  (d.findId Focus.timerId).map (·.text)

theorem Document.timerText?_updateId (d : Document) (text : String) :
    (d.updateId Focus.timerId ({ · with text := text })).timerText? =
      d.timerText?.map fun _ => text := by
  have kept : ∀ m : Markup, m.hasId Focus.timerId →
      ({ m with text := text } : Markup).hasId Focus.timerId := fun _ h => h
  have found := Element.findId_updateId? kept d.body
  rw [timerText?, timerText?, findId, findId, updateId]
  cases h : d.body.updateId? Focus.timerId fun m => { m with text := text } with
  | none =>
      rw [h] at found
      have absent : d.body.findId Focus.timerId = none :=
        Option.map_eq_none_iff.1 found.symm
      simp [absent]
  | some body =>
      rw [h] at found
      obtain ⟨x, hx, changed⟩ := Option.map_eq_some_iff.1 found.symm
      have changed : body.findId Focus.timerId =
        some (x.mapMarkup fun m => { m with text := text }) := changed.symm
      simp [hx, changed, Element.text]

namespace Session

open TimerStep

/-- The page after a step of the timer. A ticker that was replaced or cancelled does not fire. -/
def operate (s : Session) : TimerStep → Session
  | .start d => s.startTimer d
  | .cancel => s.cancelTimer
  | .fire =>
    match s.agenda.findIdx? (·.step.isTick) with
    | some i => s.performAt i
    | none => s
  | .edit f => s.onPage f

def operated (s : Session) (steps : List TimerStep) : Session := steps.foldl operate s

theorem operated_append (s : Session) (a b : List TimerStep) :
    s.operated (a ++ b) = (s.operated a).operated b := List.foldl_append

/-- The timer has a ticker just as long as it has a state. -/
def Ticking (s : Session) : Prop := s.tickers = if s.pomodoro.isSome then 1 else 0

/-! ### One step -/

theorem pomodoro_tick (s : Session) (due : Nat) :
    (s.tick due).pomodoro = s.pomodoro.map (·.tick.2) := by
  cases h : s.pomodoro with
  | none => simp [tick, h]
  | some state => simp [tick, h]

theorem chimes_tick (s : Session) (due : Nat) :
    (s.tick due).journal.chimes =
      s.journal.chimes + (s.pomodoro.toList.map (·.tick)).countP (·.1.isChange) := by
  cases h : s.pomodoro with
  | none => simp [tick, h]
  | some state => cases ht : state.tick.1 <;> simp [tick, h, ht, onPage, Tick.isChange]

theorem timerText?_tick (s : Session) (due : Nat) :
    (s.tick due).document.timerText? = s.document.timerText?.map fun text =>
      ((s.pomodoro.toList.map (·.tick)).getLast?.map (·.2.display)).getD text := by
  rw [document_tick]
  cases s.pomodoro with
  | none => simp
  | some state => simp [Document.timerText?_updateId]

theorem operate_fire {s : Session} (hs : s.Ticking) :
    (s.pomodoro = none ∧ s.operate .fire = s) ∨
      ∃ i due, s.pomodoro.isSome ∧ s.agenda[i]? = some ⟨due, .tick⟩ ∧
        s.operate .fire = { s with agenda := s.agenda.eraseIdx i }.tick due := by
  rw [operate]
  cases hi : s.agenda.findIdx? (·.step.isTick) with
  | none =>
      -- no ticker, hence no state
      have none_due : s.tickers = 0 := by
        rw [tickers, List.countP_eq_zero]
        simpa using List.findIdx?_eq_none_iff.1 hi
      rw [hs] at none_due
      cases h : s.pomodoro with
      | none => exact .inl ⟨rfl, rfl⟩
      | some state => simp [h] at none_due
  | some i =>
      obtain ⟨hlt, isTick, -⟩ := List.findIdx?_eq_some_iff_getElem.1 hi
      have due : 0 < s.tickers := List.countP_pos_iff.2 ⟨_, List.getElem_mem hlt, isTick⟩
      rw [hs] at due
      have running : s.pomodoro.isSome := by
        by_contra none
        simp [none] at due
      obtain ⟨absent, -⟩ | ⟨due, he, ticked⟩ | ⟨e, he, other, -⟩ := performAt_cases s i
      · simp [hlt] at absent
      · exact .inr ⟨i, due, running, he, ticked⟩
      · obtain rfl : s.agenda[i] = e := by simpa [hlt] using he
        simp [other] at isTick

/-- What a firing makes of the state, the chimes and the text. -/
theorem observed_fire {s : Session} (hs : s.Ticking) :
    (s.operate .fire).pomodoro = s.pomodoro.map (·.tick.2) ∧
      (s.operate .fire).journal.chimes =
        s.journal.chimes + (s.pomodoro.toList.map (·.tick)).countP (·.1.isChange) ∧
      (s.operate .fire).document.timerText? = s.document.timerText?.map fun text =>
        ((s.pomodoro.toList.map (·.tick)).getLast?.map (·.2.display)).getD text := by
  obtain ⟨off, same⟩ | ⟨i, due, -, -, ticked⟩ := operate_fire hs
  · rw [same, off]
    exact ⟨rfl, rfl, by simp⟩
  · rw [ticked]
    exact ⟨pomodoro_tick _ due, chimes_tick _ due, timerText?_tick _ due⟩

theorem ticking_operate {s : Session} (hs : s.Ticking) (x : TimerStep) :
    (s.operate x).Ticking := by
  cases x with
  | start d => exact s.tickers_startTimer d
  | cancel => exact s.tickers_withoutTicks
  | fire =>
      obtain ⟨-, same⟩ | ⟨i, due, running, hi, ticked⟩ := operate_fire hs
      · rw [same]
        exact hs
      · have kept := sameFocus_tick hi running
        rw [ticked, Ticking, kept.ticker, kept.timer]
        exact hs
  | edit f => exact hs

/-! ### Runs -/

theorem operated_cons (s : Session) (x : TimerStep) (r : List TimerStep) :
    s.operated (x :: r) = (s.operate x).operated r := rfl

theorem ticking_operated {s : Session} (hs : s.Ticking) (steps : List TimerStep) :
    (s.operated steps).Ticking := by
  induction steps generalizing s with
  | nil => exact hs
  | cons x r ih => exact ih (ticking_operate hs x)

theorem chimes_operated {s : Session} (hs : s.Ticking) (steps : List TimerStep) :
    (s.operated steps).journal.chimes =
      s.journal.chimes + (outcomesFrom s.pomodoro steps).countP (·.1.isChange) := by
  induction steps generalizing s with
  | nil => rw [outcomesFrom_nil]; rfl
  | cons x r ih =>
      rw [operated_cons, ih (ticking_operate hs x)]
      cases x with
      | start d => rw [outcomesFrom_start]; rfl
      | cancel => rw [outcomesFrom_cancel]; rfl
      | fire =>
          obtain ⟨state, chimes, -⟩ := observed_fire hs
          rw [state, chimes, outcomesFrom_fire, List.countP_append, Nat.add_assoc]
      | edit f => rw [outcomesFrom_edit]; rfl

theorem timerText?_operated {s : Session} (hs : s.Ticking) {steps : List TimerStep}
    (spared : ∀ f, .edit f ∈ steps → ∀ d, (f d).timerText? = d.timerText?) :
    (s.operated steps).document.timerText? = s.document.timerText?.map fun text =>
      ((outcomesFrom s.pomodoro steps).getLast?.map (·.2.display)).getD text := by
  induction steps generalizing s with
  | nil => simp [operated]
  | cons x r ih =>
      rw [operated_cons, ih (ticking_operate hs x) fun f hf => spared f (.tail x hf)]
      cases x with
      | start d => rw [outcomesFrom_start]; rfl
      | cancel => rw [outcomesFrom_cancel]; rfl
      | fire =>
          obtain ⟨state, -, text⟩ := observed_fire hs
          rw [state, text, outcomesFrom_fire, List.getLast?_append, Option.map_map]
          -- the later firings count, and this one only if there are none
          cases (outcomesFrom (s.pomodoro.map (·.tick.2)) r).getLast? <;> rfl
      | edit f =>
          rw [outcomesFrom_edit]
          show (f s.document).timerText?.map _ = _
          rw [spared f (.head r)]
          rfl

theorem pomodoro_operated_of_no_call {s : Session} (hs : s.Ticking) {steps : List TimerStep}
    (uncalled : ∀ x ∈ steps, x.isCall = false) :
    (s.operated steps).pomodoro =
      s.pomodoro.map fun state => (state.ticks (steps.countP (·.isFiring))).2 := by
  induction steps generalizing s with
  | nil => exact Option.map_id'.symm
  | cons x r ih =>
      obtain ⟨hx, hr⟩ := List.forall_mem_cons.1 uncalled
      rw [operated_cons, ih (ticking_operate hs x) hr]
      cases x with
      | start d => simp [isCall] at hx
      | cancel => simp [isCall] at hx
      | fire =>
          rw [(observed_fire hs).1, Option.map_map, List.countP_cons_of_pos rfl]
          rfl
      | edit f => rfl

theorem pomodoro_operated_of_no_start {s : Session} (hs : s.Ticking) (off : s.pomodoro = none)
    {steps : List TimerStep} (unstarted : ∀ d, .start d ∉ steps) :
    (s.operated steps).pomodoro = none := by
  induction steps generalizing s with
  | nil => exact off
  | cons x r ih =>
      refine ih (ticking_operate hs x) ?_ fun d hd => unstarted d (.tail x hd)
      cases x with
      | start d => exact absurd (.head r) (unstarted d)
      | cancel => rfl
      | fire => rw [(observed_fire hs).1, off]; rfl
      | edit f => exact off

/-- From a timer that was not started yet, whatever calls come, however often each ticker fires and
whatever becomes of the page: after a start the state is that of a new timer with the durations of
the start, ticked once for each firing since; before any start, and after a cancellation, there is
none. If the page has a place for the timer throughout and the ticker has fired at all, the text
there is that of the state after the last firing. And the chime has sounded as often as the phase
was changed by a firing. -/
theorem timer_follows (s : Session) (steps : List TimerStep) (off : s.pomodoro = none)
    (still : s.tickers = 0) :
    let s' := s.operated steps
    (∀ before d after, steps = before ++ .start d :: after → (∀ x ∈ after, x.isCall = false) →
      s'.pomodoro = some ((State.start d).ticks (after.countP (·.isFiring))).2) ∧
    (∀ before after, steps = before ++ .cancel :: after → (∀ x ∈ after, x.isCall = false) →
      s'.pomodoro = none) ∧
    ((∀ d, .start d ∉ steps) → s'.pomodoro = none) ∧
    (∀ fired : outcomes steps ≠ [], (s.document.findId Focus.timerId).isSome →
      (∀ f, .edit f ∈ steps → ∀ d, (f d).timerText? = d.timerText?) →
      s'.document.timerText? = some ((outcomes steps).getLast fired).2.display) ∧
    s'.journal.chimes = s.journal.chimes + (outcomes steps).countP (·.1.isChange) := by
  intro s'
  have ticking : s.Ticking := by rw [Ticking, still, off]; rfl
  have all : outcomesFrom s.pomodoro steps = outcomes steps := by rw [off]; rfl
  refine ⟨?_, ?_, pomodoro_operated_of_no_start ticking off, ?_, ?_⟩
  · rintro before d after rfl uncalled
    have started := ticking_operate (ticking_operated ticking before) (.start d)
    show (s.operated (before ++ .start d :: after)).pomodoro = _
    rw [operated_append, operated_cons, pomodoro_operated_of_no_call started uncalled]
    rfl
  · rintro before after rfl uncalled
    have cancelled := ticking_operate (ticking_operated ticking before) .cancel
    show (s.operated (before ++ .cancel :: after)).pomodoro = _
    rw [operated_append, operated_cons, pomodoro_operated_of_no_call cancelled uncalled]
    rfl
  · intro fired place spared
    obtain ⟨node, found⟩ := Option.isSome_iff_exists.1 place
    have before : s.document.timerText? = some node.text := congrArg (Option.map _) found
    have text := timerText?_operated ticking spared
    rw [all, List.getLast?_eq_some_getLast fired, before] at text
    exact text
  · rw [← all]
    exact chimes_operated ticking steps

/-- The phase changes with the second firing. The timer is cancelled then, the user is told
something, and the timer is started anew and fires once. -/
theorem timer_follows_of_restart :
    let document : Document :=
      { body := (Element.new "body").withChild ((Element.new "div").withId Focus.timerId) }
    let s := opened ⟨.unconfigured, fun _ => .error .missingKey, none⟩ document {} none {}
    let steps : List TimerStep := [.start ⟨0, 1⟩, .fire, .fire, .cancel, .fire,
      .edit (·.notify .info "Break"), .start {}, .fire]
    let s' := s.operated steps
    s.pomodoro = none ∧ s.tickers = 0 ∧ outcomes steps ≠ [] ∧
      (s.document.findId Focus.timerId).isSome ∧
      (∀ f, .edit f ∈ steps → ∀ d, (f d).timerText? = d.timerText?) ∧
      s'.pomodoro = some ⟨.work, 1500, {}, true⟩ ∧
      s'.document.timerText? = some "Work: 25:00" ∧ s'.journal.chimes = 1 := by
  intro document s steps
  have fired : outcomes steps ≠ [] := by simp [outcomes, sittings, steps, firings, State.trace]
  have place : (s.document.findId Focus.timerId).isSome := by decide
  have spared : ∀ f, .edit f ∈ steps → ∀ d, (f d).timerText? = d.timerText? := by
    intro f hf d
    obtain rfl : f = (·.notify .info "Break") := by simpa [steps] using hf
    rfl
  have last : ((outcomes steps).getLast fired).2 = ⟨.work, 1500, {}, true⟩ := rfl
  have display : (⟨.work, 1500, {}, true⟩ : State).display = "Work: 25:00" := by decide +kernel
  have changes : s.journal.chimes + (outcomes steps).countP (·.1.isChange) = 1 := by
    decide +kernel
  obtain ⟨started, -, -, text, chimes⟩ := timer_follows s steps rfl rfl
  exact ⟨rfl, rfl, fired, place, spared,
    started [.start ⟨0, 1⟩, .fire, .fire, .cancel, .fire, .edit (·.notify .info "Break")] {}
      [.fire] rfl (by decide),
    (text fired place spared).trans (congrArg some (last ▸ display)), chimes.trans changes⟩

end Session

end PageAid
