import PageAid.Proofs.Worker.Injection

/-!
The course of a click in the context menu: the calls that are made one after the other, with what
comes of each, and the outcome. It is told for a host of tabs that lets any call succeed or fail as
it likes (`TabHost.click`), and the worker follows it on its own browser (`carryOut_menuClicked`).
A page gets a message only after it was prepared for messages, a step that fails ends the course,
and the outcome says which message arrived (`Course.Proper`).
-/

namespace PageAid

theorem eq_of_concat_eq {α : Type} {p : α → Prop} {front before after : List α} {x y : α}
    (rest : ∀ z ∈ front, ¬ p z) (h : front ++ [y] = before ++ x :: after) (hx : p x) :
    before = front ∧ x = y := by
  induction front generalizing before with
  | nil =>
      cases before with
      | nil => exact ⟨rfl, (List.cons.inj h).1.symm⟩
      | cons z r => simp at h
  | cons z r ih =>
      cases before with
      | nil =>
          obtain ⟨rfl, -⟩ := List.cons.inj h
          exact absurd hx (rest z List.mem_cons_self)
      | cons z' r' =>
          obtain ⟨rfl, tails⟩ := List.cons.inj h
          obtain ⟨rfl, last⟩ := ih (fun a ha => rest a (List.mem_cons_of_mem _ ha)) tails
          exact ⟨rfl, last⟩

namespace BrowserCall

/-- A message other than the question whether the scripts are there. -/
def isPageMessage : BrowserCall → Bool
  | .send _ m => m ≠ .ping
  | _ => false

def isInjection : BrowserCall → Bool
  | .runScripts _ _ | .insertStyles _ _ => true
  | _ => false

abbrev ping (tab : TabId) : BrowserCall := .send tab .ping
abbrev scripts (tab : TabId) : BrowserCall := .runScripts tab Worker.contentScripts
abbrev styles (tab : TabId) : BrowserCall := .insertStyles tab Worker.contentStyles

end BrowserCall

/-- A call, with what came of it. -/
abbrev Exchange := BrowserCall × Except ChannelError Reply

structure Course where
  result : Except ChannelError (Option Message) := .ok none
  exchanges : List Exchange := []
  spoken : Bool := false

/-- A host of tabs of any kind, by what it answers to a call after all that was exchanged before. -/
structure TabHost where
  answer : List Exchange → BrowserCall → Except ChannelError Reply

namespace TabHost

def ask (host : TabHost) (past : List Exchange) (c : BrowserCall) : Exchange :=
  (c, host.answer past c)

def putIn (host : TabHost) (tab : TabId) (past : List Exchange) :
    Except ChannelError Unit × List Exchange :=
  let ran := host.ask past (.scripts tab)
  match ran.2 with
  | .error e => (.error e, past ++ [ran])
  | .ok _ =>
    let styled := host.ask (past ++ [ran]) (.styles tab)
    (styled.2.map fun _ => (), past ++ [ran] ++ [styled])

def ensure (host : TabHost) (tab : TabId) : Except ChannelError Unit × List Exchange :=
  let asked := host.ask [] (.ping tab)
  match asked.2 with
  | .ok _ => (.ok (), [asked])
  | .error _ => host.putIn tab [asked]

def answerClick (host : TabHost) (c : MenuClick) (id : TabId) (past : List Exchange) : Course :=
  match Worker.clickAction c with
  | .nothing => { exchanges := past }
  | .speak => { exchanges := past, spoken := true }
  | .send m =>
    let sent := host.ask past (.send id m)
    { result := sent.2.map fun _ => some m, exchanges := past ++ [sent] }

def click (host : TabHost) (c : MenuClick) (tab : Tab) : Course :=
  match tab.id with
  | none => {}
  | some id =>
    if Worker.protectedStart.toList <+: tab.url.toList then {}
    else
      match host.ensure id with
      | (.ok _, past) => host.answerClick c id past
      | (.error e, past) => { result := .error e, exchanges := past }

end TabHost

/-- A ping to the tab was answered, or both its scripts and its style sheet were put in. -/
def Prepared (tab : TabId) (past : List Exchange) : Prop :=
  (∃ reply, (.ping tab, .ok reply) ∈ past) ∨
    (∃ reply, (.scripts tab, .ok reply) ∈ past) ∧ ∃ reply, (.styles tab, .ok reply) ∈ past

namespace Course

def calls (k : Course) : List BrowserCall := k.exchanges.map (·.1)

def messages (k : Course) : List Exchange := k.exchanges.filter (·.1.isPageMessage)

/-- What is sent and what is returned in the course of a click agree. -/
structure Proper (tab : Tab) (k : Course) : Prop where
  /-- Nothing happens for a tab without a number or on a protected page. -/
  untouched : tab.id = none ∨ Worker.protectedStart.toList <+: tab.url.toList → k = {}
  /-- A message goes to the page of the tab, after this was prepared. -/
  prepared : ∀ before x after, k.exchanges = before ++ x :: after → x.1.isPageMessage →
    ∃ id m, tab.id = some id ∧ x.1 = .send id m ∧ Prepared id before
  /-- A step of the injection that fails is the end. -/
  broken : ∀ c e, (c, .error e) ∈ k.exchanges → c.isInjection →
    k.result = .error e ∧ k.messages = [] ∧ k.spoken = false
  once : k.messages.length ≤ 1
  /-- A message is returned just when it was the one that was sent, and was accepted. -/
  returned : ∀ m, k.result = .ok (some m) ↔ ∃ id reply, k.messages = [(.send id m, .ok reply)]
  /-- A message that was not accepted is the failure that is returned. -/
  refused : ∀ id m e, k.messages = [(.send id m, .error e)] → k.result = .error e

end Course

/-! ### Looking after a tab, on any host -/

inductive Ensured (tab : TabId) : Except ChannelError Unit → List Exchange → Prop
  | answered (reply : Reply) : Ensured tab (.ok ()) [(.ping tab, .ok reply)]
  | unscripted (silence e : ChannelError) :
      Ensured tab (.error e) [(.ping tab, .error silence), (.scripts tab, .error e)]
  | unstyled (silence : ChannelError) (ran : Reply) (e : ChannelError) :
      Ensured tab (.error e)
        [(.ping tab, .error silence), (.scripts tab, .ok ran), (.styles tab, .error e)]
  | injected (silence : ChannelError) (ran styled : Reply) :
      Ensured tab (.ok ())
        [(.ping tab, .error silence), (.scripts tab, .ok ran), (.styles tab, .ok styled)]

theorem TabHost.ensured (host : TabHost) (tab : TabId) :
    Ensured tab (host.ensure tab).1 (host.ensure tab).2 := by
  unfold ensure putIn ask
  dsimp only
  cases host.answer [] (.ping tab) with
  | ok reply => exact .answered reply
  | error silence =>
      dsimp only
      cases host.answer [(.ping tab, .error silence)] (.scripts tab) with
      | error e => exact .unscripted silence e
      | ok ran =>
          dsimp only
          cases host.answer ([(.ping tab, .error silence)] ++ [(.scripts tab, .ok ran)])
              (.styles tab) with
          | error e => exact .unstyled silence ran e
          | ok styled => exact .injected silence ran styled

namespace Ensured

variable {tab : TabId} {result : Except ChannelError Unit} {past : List Exchange}

theorem not_isPageMessage (h : Ensured tab result past) :
    ∀ x ∈ past, ¬ x.1.isPageMessage := by
  cases h <;> simp [BrowserCall.isPageMessage]

theorem filter_eq_nil (h : Ensured tab result past) : past.filter (·.1.isPageMessage) = [] :=
  List.filter_eq_nil_iff.2 h.not_isPageMessage

theorem prepared (h : Ensured tab (.ok ()) past) : Prepared tab past := by
  cases h with
  | answered reply => exact .inl ⟨reply, by simp⟩
  | injected silence ran styled => exact .inr ⟨⟨ran, by simp⟩, styled, by simp⟩

theorem eq_error_of_mem (h : Ensured tab result past) {c : BrowserCall} {e : ChannelError}
    (failed : (c, .error e) ∈ past) (step : c.isInjection) : result = .error e := by
  cases h with
  | answered reply => simp at failed
  | unscripted silence e' =>
      have : c = .ping tab ∧ e = silence ∨ c = .scripts tab ∧ e = e' := by simpa using failed
      rcases this with ⟨rfl, -⟩ | ⟨-, rfl⟩
      · exact absurd step (by simp [BrowserCall.isInjection])
      · rfl
  | unstyled silence ran e' =>
      have : c = .ping tab ∧ e = silence ∨ c = .styles tab ∧ e = e' := by simpa using failed
      rcases this with ⟨rfl, -⟩ | ⟨-, rfl⟩
      · exact absurd step (by simp [BrowserCall.isInjection])
      · rfl
  | injected silence ran styled =>
      have : c = .ping tab ∧ e = silence := by simpa using failed
      obtain ⟨rfl, -⟩ := this
      exact absurd step (by simp [BrowserCall.isInjection])

end Ensured

/-! ### The courses of clicks -/

theorem Worker.ne_ping_of_clickAction {c : MenuClick} {m : Message}
    (h : clickAction c = .send m) : m ≠ .ping := by
  rintro rfl
  unfold clickAction at h
  split at h
  -- an image is described only where its address is known
  case h_6 => split at h <;> simp at h
  all_goals simp at h

namespace Course

variable {tab : Tab} {id : TabId} {past : List Exchange}

theorem Proper.of_untouched (tab : Tab) : Proper tab {} where
  untouched _ := rfl
  prepared before x after h := by simp at h
  broken c e h := by simp at h
  once := by simp [messages]
  returned m := by simp [messages]
  refused id m e h := by simp [messages] at h

theorem Proper.of_quiet {result : Except ChannelError Unit} {spoken : Bool}
    (there : tab.id = some id)
    (unprotected : ¬ Worker.protectedStart.toList <+: tab.url.toList)
    (ensured : Ensured id result past) (silent : result ≠ .ok () → spoken = false) :
    Proper tab { result := result.map fun _ => none, exchanges := past, spoken } where
  untouched h := by simp [there, unprotected] at h
  prepared before x after h page := by
    have mem : x ∈ past := by
      have h : past = before ++ x :: after := h
      simp [h]
    exact absurd page (ensured.not_isPageMessage x mem)
  broken c e h step := by
    have failed := ensured.eq_error_of_mem h step
    subst failed
    exact ⟨rfl, ensured.filter_eq_nil, silent (by simp)⟩
  once := by simp [messages, ensured.filter_eq_nil]
  returned m := by
    rw [messages, ensured.filter_eq_nil]
    cases result <;> simp [Except.map]
  refused id m e h := by simp [messages, ensured.filter_eq_nil] at h

theorem Proper.of_sent {m : Message} (there : tab.id = some id)
    (unprotected : ¬ Worker.protectedStart.toList <+: tab.url.toList)
    (ensured : Ensured id (.ok ()) past) (page : m ≠ .ping)
    (answer : Except ChannelError Reply) :
    Proper tab
      { result := answer.map fun _ => some m, exchanges := past ++ [(.send id m, answer)] } := by
  have only : messages
      { result := answer.map fun _ => some m, exchanges := past ++ [(.send id m, answer)] } =
        [(.send id m, answer)] := by
    rw [messages, List.filter_append, ensured.filter_eq_nil]
    simp [BrowserCall.isPageMessage, page]
  refine ⟨fun h => by simp [there, unprotected] at h, fun before x after h sent => ?_,
    fun c e failed step => ?_, by simp [only], fun m' => ?_, fun id' m' e h => ?_⟩
  · obtain ⟨rfl, rfl⟩ := eq_of_concat_eq ensured.not_isPageMessage h sent
    exact ⟨id, m, there, rfl, ensured.prepared⟩
  · rcases List.mem_append.1 failed with failed | failed
    · exact absurd (ensured.eq_error_of_mem failed step) (by simp)
    · obtain ⟨rfl, -⟩ : c = .send id m ∧ .error e = answer := by simpa using failed
      exact absurd step (by simp [BrowserCall.isInjection])
  · rw [only]
    cases answer <;> simp [Except.map]
  · rw [only] at h
    obtain ⟨-, rfl⟩ : BrowserCall.send id m = .send id' m' ∧ answer = .error e := by simpa using h
    rfl

end Course

theorem TabHost.proper_click (host : TabHost) (c : MenuClick) (tab : Tab) :
    (host.click c tab).Proper tab := by
  unfold click
  cases there : tab.id with
  | none => exact .of_untouched tab
  | some id =>
      dsimp only
      split
      · exact .of_untouched tab
      · rename_i unprotected
        have ensured := host.ensured id
        split
        · rename_i u past looked
          rw [looked] at ensured
          unfold answerClick ask
          cases act : Worker.clickAction c with
          | nothing => exact .of_quiet there unprotected ensured (by simp)
          | speak => exact .of_quiet there unprotected ensured (by simp)
          | send m =>
              exact .of_sent there unprotected ensured (Worker.ne_ping_of_clickAction act) _
        · rename_i e past looked
          rw [looked] at ensured
          exact .of_quiet there unprotected ensured (by simp)

/-! ### The worker on its own browser -/

namespace Browser

def after (b : Browser) (calls : List BrowserCall) : Browser :=
  calls.foldl (fun b c => (b.call c).2) b

/-- The browser as a host: what it answers to a call after others. -/
def host (b : Browser) : TabHost where
  answer past c := ((b.after (past.map (·.1))).call c).1

theorem call_after (b : Browser) (past : List Exchange) (c : BrowserCall) :
    (b.after (past.map (·.1))).call c =
      ((b.host.ask past c).2, b.after ((past ++ [b.host.ask past c]).map (·.1))) := by
  simp [host, after, TabHost.ask]

theorem calls_after (b : Browser) (calls : List BrowserCall) :
    (b.after calls).calls = b.calls ++ calls := by
  induction calls generalizing b with
  | nil => simp [after]
  | cons c r ih =>
      have next : (b.after (c :: r)).calls = ((b.call c).2.after r).calls := rfl
      rw [next, ih, snd_call]
      simp

end Browser

namespace Worker

theorem carryOut_putIn (w : Worker) (b : Browser) (tab : TabId) (past : List Exchange)
    (now : w.browser = b.after (past.map (·.1))) :
    ∃ waited, w.carryOut (putIn tab) = ((b.host.putIn tab past).1,
      { w with browser := b.after ((b.host.putIn tab past).2.map (·.1)), waited }) := by
  have ran := b.call_after past (.scripts tab)
  rw [← now] at ran
  unfold TabHost.putIn
  generalize b.host.ask past (.scripts tab) = script at ran
  obtain ⟨c, answer⟩ := script
  cases answer with
  | error e => exact ⟨w.waited, carryOut_call_bind_error ran _⟩
  | ok reply =>
      have styled := b.call_after (past ++ [(c, .ok reply)]) (.styles tab)
      dsimp only
      generalize b.host.ask (past ++ [(c, .ok reply)]) (.styles tab) = style at styled
      obtain ⟨d, answer⟩ := style
      have begun := fun next => carryOut_call_bind_ok (β := Unit) ran next
      cases answer with
      | error e =>
          exact ⟨w.waited, (begun _).trans (carryOut_call_bind_error styled _)⟩
      | ok reply =>
          exact ⟨w.waited + w.settleTime, (begun _).trans (carryOut_call_bind_ok styled _)⟩

theorem carryOut_ensureInjected (w : Worker) (tab : TabId) :
    ∃ waited, w.carryOut (ensureInjected tab) = ((w.browser.host.ensure tab).1,
      { w with browser := w.browser.after ((w.browser.host.ensure tab).2.map (·.1)), waited }) := by
  have asked : w.browser.call (.ping tab) = _ := w.browser.call_after [] (.ping tab)
  rw [ensureInjected_eq, carryOut_bind, carryOut_answers, asked]
  unfold TabHost.ensure
  generalize w.browser.host.ask [] (.ping tab) = question
  obtain ⟨c, answer⟩ := question
  cases answer with
  | ok reply => exact ⟨w.waited, rfl⟩
  | error e => exact carryOut_putIn { w with browser := _ } w.browser tab [(c, .error e)] rfl

/-- Speaking a selection changes nothing but what was said, and depends on nothing but this and the
synthesizer. -/
theorem speakSelection_eq (w : Worker) (browser : Browser) (waited : Nat)
    (selection : Option String) :
    speakSelection { w with browser, waited } selection =
      { w with browser, waited, speech := (w.speakSelection selection).speech } := by
  unfold speakSelection
  dsimp only
  split <;> rfl

def followed (w : Worker) (selection : Option String) (k : Course) (waited : Nat) : Worker :=
  { w with
    browser := w.browser.after k.calls
    speech := if k.spoken then (w.speakSelection selection).speech else w.speech
    waited }

theorem carryOut_answerClick (w : Worker) (c : MenuClick) (id : TabId) (past : List Exchange)
    (waited : Nat) :
    let k := w.browser.host.answerClick c id past
    ({ w with browser := w.browser.after (past.map (·.1)), waited } : Worker).carryOut
      (answerClick c id) = (k.result, w.followed c.selection k waited) := by
  rw [answerClick, TabHost.answerClick]
  cases clickAction c with
  | nothing => rfl
  | speak => exact congrArg (Prod.mk _) (speakSelection_eq w _ waited c.selection)
  | send m =>
      have sent := w.browser.call_after past (.send id m)
      dsimp only
      generalize w.browser.host.ask past (.send id m) = message at sent
      obtain ⟨d, answer⟩ := message
      cases answer with
      | ok reply => exact carryOut_call_bind_ok sent _
      | error e => exact carryOut_call_bind_error sent _

theorem carryOut_menuClicked (w : Worker) (c : MenuClick) (tab : Tab) :
    let k := w.browser.host.click c tab
    ∃ waited, w.carryOut (menuClicked c tab) = (k.result, w.followed c.selection k waited) := by
  obtain ⟨_ | id, url⟩ := tab
  · exact ⟨w.waited, rfl⟩
  · rw [menuClicked_eq, TabHost.click]
    simp only [List.isPrefixOf_iff_prefix]
    by_cases guarded : protectedStart.toList <+: url.toList
    · rw [if_pos guarded, if_pos guarded]
      exact ⟨w.waited, rfl⟩
    · obtain ⟨waited, looked⟩ := w.carryOut_ensureInjected id
      rw [if_neg guarded, if_neg guarded, carryOut_bind, looked]
      generalize w.browser.host.ensure id = ensured
      obtain ⟨_ | _, past⟩ := ensured
      · exact ⟨waited, rfl⟩
      · exact ⟨waited, carryOut_answerClick w c id past waited⟩

/-- On any host of tabs, whatever becomes of its calls, what is sent and what is returned in the
course of a click agree. The worker follows this course on its own browser: it returns the outcome
and changes as the course says, and its browser logs the calls. -/
theorem menuClicked_proper (c : MenuClick) (tab : Tab) :
    (∀ host : TabHost, (host.click c tab).Proper tab) ∧
      ∀ w : Worker,
        let k := w.browser.host.click c tab
        (∃ waited, w.carryOut (menuClicked c tab) =
          (k.result, w.followed c.selection k waited)) ∧
        (w.carryOut (menuClicked c tab)).2.browser.calls = w.browser.calls ++ k.calls := by
  refine ⟨fun host => host.proper_click c tab, fun w => ?_⟩
  obtain ⟨waited, done⟩ := w.carryOut_menuClicked c tab
  refine ⟨⟨waited, done⟩, ?_⟩
  rw [done]
  exact w.browser.calls_after _

end Worker

end PageAid
