import PageAid.Host

/-!
What the host writes. Each line of its input that holds a message is answered, at once and in order,
and no other line is; lines that hold neither a message nor an event could as well be left out
(`answers_exact`). Between the lines anything may happen to the page.
-/

namespace PageAid.Host

def input? (line : String) : Option HostInput :=
  if Text.allBlank line then none else HostInput.read? line

/-- The answer to a message in the state that the page is in: whether a recognizer is held for the
state of voice control, and nothing but a receipt for all that has no answer of its own. -/
def answerTo (s : Session) (m : Message) : String :=
  if m = .ping then "\x7b\"status\":\"ready\"\x7d"
  else if m = .getVoiceStatus then
    if s.voice.held.isSome then "\x7b\"listening\":true\x7d" else "\x7b\"listening\":false\x7d"
  else "\x7b\"status\":\"received\"\x7d"

/-- What comes next: a line of the input, or something that happens to the page. -/
inductive Turn where
  | line (text : String)
  | meanwhile (x : Session.Happening)

namespace Turn

def message? : Turn → Option Message
  | line text =>
    match input? text with
    | some (.message m) => some m
    | _ => none
  | meanwhile _ => none

def isIdle : Turn → Bool
  | line text => (input? text).isNone
  | meanwhile _ => false

end Turn

def takeTurn (s : Session) : Turn → Option String × Session
  | .line text => takeLine s text
  | .meanwhile x => (none, s.happen x)

def takeTurns (s : Session) : List Turn → List String × Session
  | [] => ([], s)
  | t :: rest =>
    let (answer, s) := takeTurn s t
    let (answers, s) := takeTurns s rest
    (answer.toList ++ answers, s)

theorem takeTurns_cons (s : Session) (t : Turn) (rest : List Turn) :
    takeTurns s (t :: rest) =
      ((takeTurn s t).1.toList ++ (takeTurns (takeTurn s t).2 rest).1,
        (takeTurns (takeTurn s t).2 rest).2) := rfl

theorem takeLines_eq (s : Session) (lines : List String) :
    takeLines s lines = takeTurns s (lines.map .line) := by
  induction lines generalizing s with
  | nil => rfl
  | cons line rest ih => simp [takeLines, takeTurns, takeTurn, ih]

/-! ### One line -/

theorem takeLine_of_idle {line : String} (h : input? line = none) (s : Session) :
    takeLine s line = (none, s) := by
  rw [input?] at h
  rw [takeLine]
  split
  · rfl
  · rename_i filled
    rw [if_neg filled] at h
    rw [Session.handleLine, h]
    rfl

theorem compact_ready : Reply.ready.toJson.compact = "\x7b\"status\":\"ready\"\x7d" := by
  decide +kernel

theorem compact_received :
    Reply.received.toJson.compact = "\x7b\"status\":\"received\"\x7d" := by
  decide +kernel

theorem compact_voiceStatus (listening : Bool) :
    (Reply.voiceStatus listening).toJson.compact =
      if listening then "\x7b\"listening\":true\x7d" else "\x7b\"listening\":false\x7d" := by
  cases listening <;> decide +kernel

theorem compact_answer (s : Session) (m : Message) :
    (s.answer m).toJson.compact = answerTo s m := by
  cases m with
  | ping => exact compact_ready
  | getVoiceStatus => exact compact_voiceStatus s.voice.held.isSome
  | _ => exact compact_received

/-- The answer to a line is that to the message in it, before anything comes of the message. -/
theorem takeTurn_answer (s : Session) (t : Turn) :
    (takeTurn s t).1 = t.message?.map (answerTo s) := by
  cases t with
  | meanwhile x => rfl
  | line text =>
      rw [takeTurn, Turn.message?]
      cases held : input? text with
      | none =>
          rw [takeLine_of_idle held]
          rfl
      | some input =>
          have filled : Text.allBlank text = false := by
            cases blank : Text.allBlank text with
            | false => rfl
            | true => simp [input?, blank] at held
          have read : HostInput.read? text = some input := by
            simpa [input?, filled] using held
          rw [takeLine, filled, Session.handleLine, read]
          cases input with
          | message m => exact congrArg some (compact_answer s m)
          | event e => rfl

theorem takeTurn_of_idle {t : Turn} (h : t.isIdle) (s : Session) : takeTurn s t = (none, s) := by
  cases t with
  | line text => exact takeLine_of_idle (by simpa [Turn.isIdle] using h) s
  | meanwhile x => exact absurd h Bool.false_ne_true

/-! ### All lines -/

theorem takeTurns_filter (s : Session) (turns : List Turn) :
    takeTurns s (turns.filter (!·.isIdle)) = takeTurns s turns := by
  induction turns generalizing s with
  | nil => rfl
  | cons t rest ih =>
      cases idle : t.isIdle with
      | true =>
          rw [List.filter_cons_of_neg (by simp [idle]), ih, takeTurns_cons, takeTurn_of_idle idle]
          rfl
      | false =>
          rw [List.filter_cons_of_pos (by simp [idle]), takeTurns_cons, takeTurns_cons, ih]

theorem takeTurns_answers (s : Session) (turns : List Turn) :
    (takeTurns s turns).1 = (List.range turns.length).filterMap fun i =>
      (turns[i]?.bind Turn.message?).map (answerTo (takeTurns s (turns.take i)).2) := by
  induction turns generalizing s with
  | nil => rfl
  | cons t rest ih =>
      rw [takeTurns_cons, ih, takeTurn_answer, List.length_cons, List.range_succ_eq_map,
        List.filterMap_cons, List.filterMap_map]
      have first : ((t :: rest)[0]?.bind Turn.message?).map
          (answerTo (takeTurns s ((t :: rest).take 0)).2) = t.message?.map (answerTo s) := rfl
      rw [first]
      cases t.message? <;> rfl

def linesOf (input : String) : List String := (Text.lines input.toList).map String.ofList

/-- Started, the host takes its lines one right after the other, and lets the actions come to their
end after the last one. -/
theorem run_of_started {platform : Platform} {medium written : Medium} {page : PageSource}
    {s : Session} (started : start platform medium page = (written, .ok s)) (input : String) :
    run platform medium page input =
      { status := 0
        output := String.join ((takeTurns s ((linesOf input).map .line)).1.map (· ++ "\n"))
        medium := (takeTurns s ((linesOf input).map .line)).2.drain.medium } := by
  rw [run, started, ← takeLines_eq]
  rfl

theorem run_of_failed {platform : Platform} {medium written : Medium} {page : PageSource}
    {failure : StartFailure} (failed : start platform medium page = (written, .error failure))
    (input : String) : run platform medium page input = { status := 1, medium := written } := by
  rw [run, failed]

theorem run_filter (platform : Platform) (medium : Medium) (page : PageSource)
    {input input' : String}
    (same : linesOf input' = (linesOf input).filter fun line => (input? line).isSome) :
    run platform medium page input' = run platform medium page input := by
  have kept : (linesOf input').map Turn.line =
      ((linesOf input).map Turn.line).filter (!·.isIdle) := by
    rw [same, List.filter_map]
    congr 1
    apply List.filter_congr
    intro line _
    simp [Turn.isIdle, Option.not_isNone]
  cases started : start platform medium page with
  | mk written result =>
      cases result with
      | error failure => rw [run_of_failed started, run_of_failed started]
      | ok s => rw [run_of_started started, run_of_started started, kept, takeTurns_filter]

/-- Whatever lines come, and whatever happens to the page between them: the answers are one for
each line that holds a message and none for any other line, in the order of the lines. To `ping` it
is that the page is ready, to `getVoiceStatus` whether a recognizer is held at that time, and to any
other message, whatever may come of it, that it was received. Without the blank lines and those that
hold neither a message nor an event, the answers and the page are the same. All this goes for the
lines of the host's input: its output is their answers, and both the output and the settings that
are left in the end are the same without those lines. -/
theorem answers_exact (s : Session) (turns : List Turn) :
    ((takeTurns s turns).1 = (List.range turns.length).filterMap fun i =>
      (turns[i]?.bind Turn.message?).map (answerTo (takeTurns s (turns.take i)).2)) ∧
    takeTurns s (turns.filter (!·.isIdle)) = takeTurns s turns ∧
    ∀ platform medium page input,
      (∀ written s, start platform medium page = (written, .ok s) →
        run platform medium page input =
          { status := 0
            output := String.join ((takeTurns s ((linesOf input).map .line)).1.map (· ++ "\n"))
            medium := (takeTurns s ((linesOf input).map .line)).2.drain.medium }) ∧
      ∀ input', linesOf input' = (linesOf input).filter (fun line => (input? line).isSome) →
        run platform medium page input' = run platform medium page input := by
  refine ⟨takeTurns_answers s turns, takeTurns_filter s turns, ?_⟩
  intro platform medium page input
  exact ⟨fun _ _ started => run_of_started started input,
    fun _ same => run_filter platform medium page same⟩

/-- A blank line, noise, and an event between two messages. -/
theorem answers_exact_of_noise :
    let platform : Platform := ⟨.unconfigured, fun _ => .error .missingKey, none⟩
    let first := "\x7b\"action\":\"ping\"\x7d\n"
    let rest := "\x7b\"event\":\"focusExitClicked\"\x7d\n\x7b\"action\":\"getVoiceStatus\"\x7d\n"
    linesOf (first ++ rest) =
        (linesOf (first ++ " \nnoise\n" ++ rest)).filter (fun line => (input? line).isSome) ∧
      run platform none .empty (first ++ rest) =
        run platform none .empty (first ++ " \nnoise\n" ++ rest) ∧
      (run platform none .empty (first ++ rest)).output =
        "\x7b\"status\":\"ready\"\x7d\n\x7b\"listening\":false\x7d\n" := by
  intro platform first rest
  have same : linesOf (first ++ rest) =
      (linesOf (first ++ " \nnoise\n" ++ rest)).filter fun line => (input? line).isSome := by
    decide +kernel
  have answers := answers_exact { platform := platform } []
  exact ⟨same, (answers.2.2 platform none .empty _).2 _ same, by decide +kernel⟩

end PageAid.Host
