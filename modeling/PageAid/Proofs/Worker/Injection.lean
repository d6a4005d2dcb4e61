import PageAid.Worker.Basic

/-!
How content scripts and style sheet come into a tab. They are put there by two calls, of which the
browser may refuse either one, and all that is asked later is whether the scripts answer. So a tab
that answers is styled unless the call for the style sheet was refused (`styled_iff_not_refused`):
that call is made once and never again.
-/

namespace PageAid

namespace Browser

/-- What came of each call to put the style sheet into a tab: `none` where it was put there, and
where that was refused, the reason. -/
def stylings (b : Browser) (tab : TabId) : List (Option String) :=
  (b.calls.zipIdx.filter (·.1 == .insertStyles tab Worker.contentStyles)).map fun (c, n) =>
    b.refusal n c

def Styled (b : Browser) (tab : TabId) : Prop := none ∈ b.stylings tab

def StylesRefused (b : Browser) (tab : TabId) : Prop := ∃ r ∈ b.stylings tab, r ≠ none

/-- The scripts in the tab are asked whether they are there, and the browser lets this through. -/
def Answering (b : Browser) (tab : TabId) : Prop :=
  ∀ n, b.refusal n (.send tab .ping) = none

/-! ### One call -/

section

variable (b : Browser) (c : BrowserCall) (tab : TabId)

/-- A call is recorded, and of the rest of the browser only the scripts may change. -/
theorem snd_call :
    (b.call c).2 = { b with calls := b.calls ++ [c], scripted := (b.call c).2.scripted } := by
  unfold call effect
  cases b.refusal b.calls.length c with
  | some message => rfl
  | none => cases c with
    | send tab m => cases b.scripted <;> simp
    | _ => rfl

theorem stylings_call :
    (b.call c).2.stylings tab = b.stylings tab ++
      if c = .insertStyles tab Worker.contentStyles then [b.refusal b.calls.length c] else [] := by
  rw [snd_call, stylings, stylings, List.zipIdx_append, List.filter_append, List.map_append]
  by_cases h : c = .insertStyles tab Worker.contentStyles <;> simp [h]

theorem call_send {m : Message} (h : b.refusal b.calls.length (.send tab m) = none) :
    (b.call (.send tab m)).1 =
      if b.scripted then .ok (if m = .ping then .ready else .received)
      else .error (.noReceiver tab) := by
  unfold call effect
  rw [h]
  dsimp only
  split <;> rfl

theorem scripted_call (h : ∀ tab files, c ≠ .runScripts tab files) :
    (b.call c).2.scripted = b.scripted := by
  unfold call effect
  cases b.refusal b.calls.length c with
  | some message => rfl
  | none => cases c with
    | send tab m => cases b.scripted <;> simp
    | runScripts tab files => exact absurd rfl (h tab files)
    | _ => rfl

theorem call_insertStyles (files : List String) :
    (b.call (.insertStyles tab files)).1.isOk ↔
      b.refusal b.calls.length (.insertStyles tab files) = none := by
  unfold call effect
  cases b.refusal b.calls.length (.insertStyles tab files) with
  | some message => simp [Except.isOk, Except.toBool]
  | none => simp [Except.isOk, Except.toBool]

theorem call_runScripts (files : List String) :
    ((∃ reply, (b.call (.runScripts tab files)).1 = .ok reply) ∧
        (b.call (.runScripts tab files)).2.scripted) ∨
      (∃ e, (b.call (.runScripts tab files)).1 = .error e) ∧
        (b.call (.runScripts tab files)).2.scripted = b.scripted := by
  unfold call effect
  cases b.refusal b.calls.length (.runScripts tab files) with
  | some message => exact .inr ⟨⟨_, rfl⟩, rfl⟩
  | none => exact .inl ⟨⟨_, rfl⟩, rfl⟩

end

/-! ### What work does to the browser -/

/-- From `b` to `b'` neither scripts nor style sheet were put into the tab. -/
structure Kept (tab : TabId) (b b' : Browser) : Prop where
  refusal : b'.refusal = b.refusal
  scripted : b'.scripted = b.scripted
  stylings : b'.stylings tab = b.stylings tab

/-- From `b` to `b'` scripts were put into a tab without any, and then the style sheet, or that was
refused for a reason. -/
structure Injected (tab : TabId) (b b' : Browser) (reason : Option String) : Prop where
  bare : b.scripted = false
  refusal : b'.refusal = b.refusal
  scripted : b'.scripted = true
  stylings : b'.stylings tab = b.stylings tab ++ [reason]

/-- From `b` to `b'` a tab was looked after; if that went well, it has its scripts, and a style
sheet that was due was not refused. -/
inductive Attempt (tab : TabId) (b b' : Browser) (well : Bool) : Prop where
  | kept (h : Kept tab b b') (there : well → b.scripted)
  | injected (reason : Option String) (h : Injected tab b b' reason) (done : well → reason = none)

/-- The call for the style sheet was made once if there are scripts, and never if there are none. -/
def Settled (b : Browser) (tab : TabId) : Prop :=
  (b.stylings tab).length = if b.scripted then 1 else 0

variable {tab : TabId} {b b' b'' : Browser} {reason : Option String} {well : Bool}

theorem Kept.refl (tab : TabId) (b : Browser) : Kept tab b b := ⟨rfl, rfl, rfl⟩

theorem Kept.trans (h : Kept tab b b') (h' : Kept tab b' b'') : Kept tab b b'' :=
  ⟨h'.refusal.trans h.refusal, h'.scripted.trans h.scripted, h'.stylings.trans h.stylings⟩

theorem Injected.kept (h : Injected tab b b' reason) (h' : Kept tab b' b'') :
    Injected tab b b'' reason :=
  ⟨h.bare, h'.refusal.trans h.refusal, h'.scripted.trans h.scripted,
    h'.stylings.trans h.stylings⟩

theorem kept_send (tab : TabId) (b : Browser) (m : Message) :
    Kept tab b (b.call (.send tab m)).2 where
  refusal := by rw [snd_call]
  scripted := scripted_call b _ (by simp)
  stylings := by rw [stylings_call, if_neg (by simp), List.append_nil]

namespace Attempt

theorem refusal (h : Attempt tab b b' well) : b'.refusal = b.refusal := by
  cases h with
  | kept h => exact h.refusal
  | injected reason h => exact h.refusal

theorem after (h : Kept tab b b') (h' : Attempt tab b' b'' well) : Attempt tab b b'' well := by
  cases h' with
  | kept h' there => exact .kept (h.trans h') fun ok => h.scripted ▸ there ok
  | injected reason h' done =>
      refine .injected reason ?_ done
      exact ⟨h.scripted ▸ h'.bare, h'.refusal.trans h.refusal, h'.scripted,
        h.stylings ▸ h'.stylings⟩

theorem before (h : Attempt tab b b' well) (h' : Kept tab b' b'') : Attempt tab b b'' well := by
  cases h with
  | kept h there => exact .kept (h.trans h') there
  | injected reason h done => exact .injected reason (h.kept h') done

theorem mono {well' : Bool} (h : Attempt tab b b' well) (less : well' → well) :
    Attempt tab b b' well' := by
  cases h with
  | kept h there => exact .kept h fun ok => there (less ok)
  | injected reason h done => exact .injected reason h fun ok => done (less ok)

theorem settled (h : Attempt tab b b' well) (hb : b.Settled tab) : b'.Settled tab := by
  cases h with
  | kept h =>
      rw [Settled, h.stylings, h.scripted]
      exact hb
  | injected reason h =>
      rw [Settled, h.bare] at hb
      rw [Settled, h.stylings, h.scripted, List.length_append, hb]
      rfl

/-- In a tab that was looked after well the style sheet is in place just when it was not refused
before. -/
theorem styled_iff (h : Attempt tab b b' true) (hb : b.Settled tab) :
    b'.Styled tab ↔ ¬b.StylesRefused tab := by
  rw [Settled] at hb
  cases h with
  | kept h there =>
      rw [there rfl] at hb
      obtain ⟨r, hr⟩ := List.length_eq_one_iff.1 hb
      rw [Styled, StylesRefused, h.stylings, hr]
      simp [eq_comm]
  | injected reason h done =>
      rw [h.bare] at hb
      have untried := List.length_eq_zero_iff.1 hb
      rw [Styled, StylesRefused, h.stylings, untried, done rfl]
      simp

end Attempt

end Browser

namespace Worker

variable {α β : Type}

def carryOut (w : Worker) (work : Channel α) : Except ChannelError α × Worker :=
  StateT.run (ExceptT.run work) w

theorem carryOut_bind (w : Worker) (work : Channel α) (next : α → Channel β) :
    w.carryOut (work >>= next) =
      match w.carryOut work with
      | (.ok a, w') => w'.carryOut (next a)
      | (.error e, w') => (.error e, w') := by
  cases h : w.carryOut work with
  | mk result w' =>
      rw [carryOut] at h
      rw [carryOut, ExceptT.run_bind, StateT.run_bind, h]
      cases result <;> rfl

theorem carryOut_call (w : Worker) (c : BrowserCall) :
    w.carryOut (call c) = ((w.browser.call c).1, { w with browser := (w.browser.call c).2 }) := by
  have lifted : w.carryOut (call c) =
    ({ w with browser := (w.browser.call c).2 } : Worker).carryOut
      (call.liftExcept (w.browser.call c).1) := rfl
  rw [lifted]
  cases (w.browser.call c).1 <;> rfl

theorem carryOut_call_bind_ok {w : Worker} {c : BrowserCall} {reply : Reply} {b : Browser}
    (h : w.browser.call c = (.ok reply, b)) (next : Reply → Channel β) :
    w.carryOut (call c >>= next) = ({ w with browser := b } : Worker).carryOut (next reply) := by
  rw [carryOut_bind, carryOut_call, h]

theorem carryOut_call_bind_error {w : Worker} {c : BrowserCall} {e : ChannelError} {b : Browser}
    (h : w.browser.call c = (.error e, b)) (next : Reply → Channel β) :
    w.carryOut (call c >>= next) = (.error e, { w with browser := b }) := by
  rw [carryOut_bind, carryOut_call, h]

theorem carryOut_answers (w : Worker) (tab : TabId) :
    w.carryOut (answers tab) = (.ok (w.browser.call (.send tab .ping)).1.isOk,
      { w with browser := (w.browser.call (.send tab .ping)).2 }) := by
  have got : w.carryOut (get : Channel Worker) = (.ok w, w) := rfl
  rw [answers, carryOut_bind, got]
  dsimp only
  generalize w.browser.call (.send tab .ping) = r
  obtain ⟨result, b⟩ := r
  cases result <;> rfl

theorem browser_speakSelection (w : Worker) (selection : Option String) :
    (w.speakSelection selection).browser = w.browser := by
  unfold speakSelection
  dsimp only
  split <;> rfl

open Browser

/-! ### Looking after a tab -/

variable {tab : TabId}

def putIn (tab : TabId) : Channel Unit := do
  let _ ← call (.runScripts tab contentScripts)
  let _ ← call (.insertStyles tab contentStyles)
  wait (← get).settleTime

theorem ensureInjected_eq (tab : TabId) :
    ensureInjected tab = answers tab >>= fun there => if there then pure () else putIn tab := rfl

theorem attempt_putIn {w : Worker} (bare : w.browser.scripted = false) :
    Attempt tab w.browser (w.carryOut (putIn tab)).2.browser (w.carryOut (putIn tab)).1.isOk := by
  have unstyled := stylings_call w.browser (.runScripts tab contentScripts) tab
  rw [if_neg (by simp), List.append_nil] at unstyled
  have refusal : (w.browser.call (.runScripts tab contentScripts)).2.refusal =
      w.browser.refusal := by rw [snd_call]
  rw [putIn, carryOut_bind, carryOut_call]
  -- the style sheet is asked for only once the scripts are in
  rcases call_runScripts w.browser tab contentScripts with
    ⟨⟨reply, ran⟩, scripted⟩ | ⟨⟨e, refused⟩, scripted⟩
  · rw [ran]
    generalize (w.browser.call (.runScripts tab contentScripts)).2 = b at unstyled refusal scripted
    have styling := stylings_call b (.insertStyles tab contentStyles) tab
    rw [if_pos rfl, unstyled] at styling
    have injected : Injected tab w.browser (b.call (.insertStyles tab contentStyles)).2
        (b.refusal b.calls.length (.insertStyles tab contentStyles)) :=
      ⟨bare, by rw [snd_call]; exact refusal, (scripted_call b _ (by simp)).trans scripted,
        styling⟩
    have done := call_insertStyles b tab contentStyles
    dsimp only
    rw [carryOut_bind, carryOut_call]
    cases h : (b.call (.insertStyles tab contentStyles)).1 with
    | ok reply => exact .injected _ injected fun _ => done.1 (by rw [h]; rfl)
    | error e => exact .injected _ injected fun well => by simp [Except.isOk, Except.toBool] at well
  · rw [refused]
    refine .kept ⟨refusal, scripted, unstyled⟩ fun well => ?_
    simp [Except.isOk, Except.toBool] at well

theorem attempt_ensureInjected {w : Worker} (answering : w.browser.Answering tab) :
    Attempt tab w.browser (w.carryOut (ensureInjected tab)).2.browser
      (w.carryOut (ensureInjected tab)).1.isOk := by
  have asked := kept_send tab w.browser .ping
  have pong := call_send w.browser tab (answering w.browser.calls.length)
  rw [ensureInjected_eq, carryOut_bind, carryOut_answers, pong]
  -- an answer is taken for the whole: nothing is done then
  cases scripted : w.browser.scripted with
  | true => exact .kept asked fun _ => scripted
  | false =>
      have bare := asked.scripted.trans scripted
      have put := @attempt_putIn tab
        { w with browser := (w.browser.call (.send tab .ping)).2 } bare
      exact .after asked put

/-- Work that begins with looking after the tab, and goes on with what leaves it alone. -/
theorem attempt_ensureInjected_bind {w : Worker} (answering : w.browser.Answering tab)
    {next : Unit → Channel α}
    (quiet : ∀ w' : Worker, Kept tab w'.browser (w'.carryOut (next ())).2.browser) :
    Attempt tab w.browser (w.carryOut (ensureInjected tab >>= next)).2.browser
      (w.carryOut (ensureInjected tab >>= next)).1.isOk := by
  have ensured := attempt_ensureInjected answering
  rw [carryOut_bind]
  generalize w.carryOut (ensureInjected tab) = done at ensured
  obtain ⟨result, w'⟩ := done
  cases result with
  | ok _ => exact (ensured.before (quiet w')).mono fun _ => rfl
  | error e => exact ensured

theorem attempt_relay {w : Worker} (answering : w.browser.Answering tab) (m : Message) :
    Attempt tab w.browser (w.carryOut (relay tab m)).2.browser
      (w.carryOut (relay tab m)).1.isOk := by
  refine attempt_ensureInjected_bind answering fun w' => ?_
  rw [carryOut_call]
  exact kept_send tab w'.browser m

def answerClick (c : MenuClick) (id : TabId) : Channel (Option Message) :=
  match clickAction c with
  | .nothing => pure none
  | .speak => do
    modify (·.speakSelection c.selection)
    pure none
  | .send m => do
    let _ ← call (.send id m)
    pure (some m)

theorem menuClicked_eq (c : MenuClick) (id : TabId) (url : String) :
    menuClicked c ⟨some id, url⟩ =
      if protectedStart.toList.isPrefixOf url.toList then pure none
      else ensureInjected id >>= fun _ => answerClick c id := by
  rw [menuClicked]
  dsimp only
  split
  · rfl
  · refine congrArg _ (funext fun _ => ?_)
    unfold answerClick
    cases clickAction c <;> rfl

theorem attempt_menuClicked {w : Worker} (answering : w.browser.Answering tab) (c : MenuClick)
    (url : String) :
    Attempt tab w.browser (w.carryOut (menuClicked c ⟨some tab, url⟩)).2.browser false := by
  rw [menuClicked]
  dsimp only
  split
  · exact .kept (Kept.refl tab _) (by simp)
  · refine (attempt_ensureInjected_bind answering fun w' => ?_).mono (by simp)
    split
    · exact Kept.refl tab _
    · have spoken : Kept tab w'.browser (w'.speakSelection c.selection).browser := by
        rw [browser_speakSelection]
        exact Kept.refl tab _
      exact spoken
    · rename_i m _
      rw [carryOut_bind, carryOut_call]
      have sent := kept_send tab w'.browser m
      cases (w'.browser.call (.send tab m)).1 <;> exact sent

/-! ### Sequences of requests -/

inductive TabRequest where
  | ensure
  | relay (m : Message)
  | click (c : MenuClick) (url : String)

def serve (tab : TabId) (w : Worker) : TabRequest → Worker
  | .ensure => (w.carryOut (ensureInjected tab)).2
  | .relay m => (w.carryOut (Worker.relay tab m)).2
  | .click c url => (w.carryOut (menuClicked c ⟨some tab, url⟩)).2

theorem attempt_serve {w : Worker} (answering : w.browser.Answering tab) (r : TabRequest) :
    Attempt tab w.browser (w.serve tab r).browser false := by
  cases r with
  | ensure => exact (attempt_ensureInjected answering).mono (by simp)
  | relay m => exact (attempt_relay answering m).mono (by simp)
  | click c url => exact attempt_menuClicked answering c url

theorem settled_served {w : Worker} (answering : w.browser.Answering tab)
    (settled : w.browser.Settled tab) (rs : List TabRequest) :
    (rs.foldl (serve tab) w).browser.Answering tab ∧
      (rs.foldl (serve tab) w).browser.Settled tab := by
  induction rs generalizing w with
  | nil => exact ⟨answering, settled⟩
  | cons r rest ih =>
      have served := attempt_serve answering r
      refine ih ?_ (served.settled settled)
      intro n
      rw [served.refusal]
      exact answering n

/-- A tab begins without scripts and style sheet, its scripts answer once they are there, and the
worker is asked to look after it, to relay messages to it and to act on clicks in it any number of
times, whatever the browser refuses. When the tab is then looked after, or a message relayed to it,
and that goes well, it has the style sheet just if no call for it was refused before. -/
theorem styled_iff_not_refused (w : Worker) (tab : TabId) (rs : List TabRequest)
    (bare : w.browser.scripted = false) (unstyled : w.browser.stylings tab = [])
    (answering : w.browser.Answering tab) :
    let w' := rs.foldl (serve tab) w
    ((w'.carryOut (ensureInjected tab)).1 = .ok () →
      ((w'.carryOut (ensureInjected tab)).2.browser.Styled tab ↔
        ¬w'.browser.StylesRefused tab)) ∧
    ∀ m reply, (w'.carryOut (relay tab m)).1 = .ok reply →
      ((w'.carryOut (relay tab m)).2.browser.Styled tab ↔ ¬w'.browser.StylesRefused tab) := by
  intro w'
  have start : w.browser.Settled tab := by rw [Settled, unstyled, bare]; rfl
  obtain ⟨answering', settled⟩ := settled_served answering start rs
  refine ⟨fun well => ?_, fun m reply well => ?_⟩
  · have ensured := attempt_ensureInjected answering'
    rw [well] at ensured
    exact ensured.styled_iff settled
  · have relayed := attempt_relay answering' m
    rw [well] at relayed
    exact relayed.styled_iff settled

/-- A browser that refuses the style sheet as its third call, which is the first time that it is
asked for it, and nothing else. -/
def stylesLate : Browser where
  refusal n c :=
    match c with
    | .insertStyles _ _ => if n = 2 then some "denied" else none
    | _ => none

theorem styled_iff_not_refused_of_stylesLate :
    let w := [TabRequest.ensure].foldl (serve 1) { browser := stylesLate }
    (w.carryOut (relay 1 .addSkipLink)).1 = .ok .received ∧
      ¬(w.carryOut (relay 1 .addSkipLink)).2.browser.Styled 1 := by
  intro w
  have refused : w.browser.StylesRefused 1 := ⟨some "denied", by decide +kernel, by simp⟩
  have reached : (w.carryOut (relay 1 .addSkipLink)).1 = .ok .received := rfl
  have relayed := (styled_iff_not_refused { browser := stylesLate } 1 [.ensure] rfl rfl
    fun _ => rfl).2 .addSkipLink .received reached
  exact ⟨reached, fun styled => relayed.1 styled refused⟩

/-- The style sheet is refused the first time; the second time all goes well, and the tab is still
without it. -/
theorem unstyled_of_stylesLate :
    let w := ({ browser := stylesLate } : Worker).serve 1 .ensure
    (w.carryOut (ensureInjected 1)).1 = .ok () ∧
      ¬(w.carryOut (ensureInjected 1)).2.browser.Styled 1 := by
  refine ⟨rfl, ?_⟩
  rw [Browser.Styled]
  decide +kernel

end Worker

end PageAid
