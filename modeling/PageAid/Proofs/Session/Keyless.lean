import PageAid.Assistant.Gemini
import PageAid.Proofs.Session.Dealings
import PageAid.Proofs.Session.Episode

/-!
A page whose assistant has no key. The actions that need one are arranged like all others, but each
of them ends where it begins, with a reminder that the key is missing: nothing is asked of the
assistant, no image is fetched, the dialogue never opens and no text changes (`keyless_unsent`).
-/

namespace PageAid

/-- Only reading aloud goes without a key. -/
def Task.needsKey : Task → Bool
  | .readAloud _ => false
  | _ => true

def Step.needsKey : Step → Bool
  | .begin task => task.needsKey
  | _ => false

theorem Step.isTick_eq_false_of_needsKey {step : Step} (h : step.needsKey) :
    step.isTick = false := by
  cases step <;> simp_all [needsKey, isTick]

namespace Session

def Happening.needsKey : Happening → Bool
  | .message m => (task? m).any (·.needsKey)
  | _ => false

def Episode.needsKey : Episode → Bool
  | .occurs (.page x) => x.needsKey
  | _ => false

theorem begin_of_keyless {s : Session} {task : Task}
    (keyless : s.platform.backend.hasKey = false) (h : task.needsKey) :
    s.begin task = s.notify .error Failure.configuration.message := by
  cases task <;> simp_all [begin, Task.needsKey]

namespace Dealings

/-- Number of the actions that needed a key: some of them are still to begin, and the user was
reminded at each of the others. -/
def keyed (d : Dealings) : Nat := d.reminders + d.pending.countP (·.step.needsKey)

/-- From `d` to `d'` nothing was asked, fetched or shown, and no action is under way. -/
structure Unasked (d d' : Dealings) : Prop where
  platform : d'.platform = d.platform
  queries : d'.queries = d.queries
  fetched : d'.fetched = d.fetched
  modal : d'.modal = d.modal
  waiting : ∀ e ∈ d'.pending, ∃ task, e.step = .begin task

end Dealings

open Dealings

variable {s : Session} {d : Dealings}

theorem keyed_dealings (s : Session) :
    s.dealings.keyed =
      s.document.notices.count Notice.missingKey + s.agenda.countP (·.step.needsKey) := by
  rw [keyed, dealings, List.countP_filter]
  congr 1
  apply List.countP_congr
  intro e _
  have other := @Step.isTick_eq_false_of_needsKey e.step
  simp only [Bool.and_eq_true, Bool.not_eq_true']
  exact ⟨fun h => h.1, fun h => ⟨h, other h⟩⟩

/-! ### Actions are asked for and begin -/

theorem unasked_arrange (h : Unasked d s.dealings) (task : Task) :
    Unasked d (s.arrange 0 (.begin task)).dealings := by
  refine { h with waiting := ?_ }
  intro e he
  rw [dealings, arrange, List.filter_append] at he
  rcases List.mem_append.1 he with before | new
  · exact h.waiting e before
  · exact ⟨task, by rw [List.mem_singleton.1 (List.mem_filter.1 new).1]⟩

theorem keyed_arrange (s : Session) (task : Task) :
    (s.arrange 0 (.begin task)).dealings.keyed = s.dealings.keyed + task.needsKey.toNat := by
  rw [keyed_dealings, keyed_dealings, arrange, List.countP_append]
  show s.document.notices.count _ + _ = _
  cases needs : task.needsKey <;> simp [Step.needsKey, needs, Nat.add_assoc]

theorem unasked_eraseIdx (h : Unasked d s.dealings) (i : Nat) :
    Unasked d ({ s with agenda := s.agenda.eraseIdx i } : Session).dealings := by
  refine { h with waiting := ?_ }
  intro e he
  apply h.waiting
  exact ((List.eraseIdx_sublist s.agenda i).filter _).subset he

theorem keyed_eraseIdx {i : Nat} {e : Entry} (he : s.agenda[i]? = some e) :
    ({ s with agenda := s.agenda.eraseIdx i } : Session).dealings.keyed + e.step.needsKey.toNat =
      s.dealings.keyed := by
  have one := countP_eraseIdx_add he (·.step.needsKey)
  rw [keyed_dealings, keyed_dealings]
  show s.document.notices.count _ + (s.agenda.eraseIdx i).countP _ + _ = _
  cases needs : e.step.needsKey <;> simp [needs] at one ⊢ <;> omega

/-- Without a key, an action ends with a reminder where it begins, unless it reads aloud. -/
theorem unasked_begin (keyless : d.platform.backend.hasKey = false) (h : Unasked d s.dealings)
    (task : Task) :
    Unasked d (s.begin task).dealings ∧
      (s.begin task).dealings.keyed = s.dealings.keyed + task.needsKey.toNat := by
  cases needs : task.needsKey with
  | true =>
      have unkeyed : s.platform.backend.hasKey = false := by
        rw [← keyless, ← h.platform]
        rfl
      rw [begin_of_keyless unkeyed needs, keyed_dealings, keyed_dealings]
      refine ⟨{ h with }, ?_⟩
      show (s.document.notices ++ [Notice.missingKey]).count _ + s.agenda.countP _ = _
      simp
      omega
  | false =>
      cases task with
      | readAloud persona =>
          rw [begin]
          -- what is read aloud is no part of what is counted
          obtain ⟨-, same⟩ | ⟨-, same | same | ⟨u, -, same⟩⟩ := dealings_readAloud s persona
          · rw [same]
            exact ⟨{ h with }, rfl⟩
          · rw [same]
            exact ⟨h, rfl⟩
          · rw [same]
            exact ⟨{ h with }, rfl⟩
          · rw [same]
            exact ⟨{ h with }, rfl⟩
      | _ => simp [Task.needsKey] at needs

/-! ### Runs -/

theorem unasked_happen (keyless : d.platform.backend.hasKey = false) (h : Unasked d s.dealings)
    (x : Happening) :
    Unasked d (s.happen x).dealings ∧
      (s.happen x).dealings.keyed = s.dealings.keyed + x.needsKey.toNat := by
  cases acts : x.acts s with
  | false =>
      have unasked : x.needsKey = false := by
        cases x with
        | message m =>
            have none : task? m = none := by simpa [Happening.acts] using acts
            simp [Happening.needsKey, none]
        | _ => rfl
      rw [dealings_happen acts, unasked]
      exact ⟨h, rfl⟩
  | true =>
      cases x with
      | message m =>
          obtain ⟨task, asked⟩ := Option.isSome_iff_exists.1 acts
          have arranged : s.happen (.message m) = s.arrange 0 (.begin task) := by
            simp [happen, receive, asked]
          have needs : Happening.needsKey (.message m) = task.needsKey := by
            simp [Happening.needsKey, asked]
          rw [arranged, needs]
          exact ⟨unasked_arrange h task, keyed_arrange s task⟩
      | event e =>
          cases e with
          | speechFinished success =>
              show Unasked d (s.speechFinished success).dealings ∧
                (s.speechFinished success).dealings.keyed = s.dealings.keyed
              rw [dealings_speechFinished]
              exact ⟨{ h with }, rfl⟩
          | _ => simp [Happening.acts] at acts
      | pause n => simp [Happening.acts] at acts
      | step i =>
          obtain ⟨e, he, other⟩ := (Option.any_eq_true _ _).1 acts
          obtain ⟨task, begins⟩ := h.waiting e
            (List.mem_filter.2 ⟨List.mem_of_getElem? he, other⟩)
          obtain ⟨due, step⟩ := e
          obtain rfl : step = .begin task := begins
          have performed : s.happen (.step i) =
              ({ s with agenda := s.agenda.eraseIdx i } : Session).begin task := by
            simp [happen, performAt, he, perform]
          have erased := keyed_eraseIdx he
          obtain ⟨kept, counted⟩ := unasked_begin keyless (unasked_eraseIdx h i) task
          rw [performed]
          refine ⟨kept, ?_⟩
          rw [counted]
          exact erased

theorem unasked_undergo (keyless : d.platform.backend.hasKey = false) (h : Unasked d s.dealings)
    (e : Episode) :
    Unasked d (s.undergo e).dealings ∧
      (s.undergo e).dealings.keyed = s.dealings.keyed + e.needsKey.toNat := by
  cases e with
  | load =>
      rw [undergo, dealings_restoreSettings]
      exact ⟨h, rfl⟩
  | occurs x =>
      cases x with
      | page x => exact unasked_happen keyless h x
      | platform running broken => exact ⟨h, rfl⟩

theorem unasked_episodes (keyless : d.platform.backend.hasKey = false)
    (h : Unasked d s.dealings) (es : List Episode) :
    Unasked d (es.foldl undergo s).dealings ∧
      (es.foldl undergo s).dealings.keyed = s.dealings.keyed + es.countP (·.needsKey) := by
  induction es generalizing s with
  | nil => exact ⟨h, rfl⟩
  | cons e r ih =>
      obtain ⟨kept, counted⟩ := unasked_undergo keyless h e
      obtain ⟨kept', counted'⟩ := ih kept
      refine ⟨kept', ?_⟩
      rw [List.foldl_cons, counted', counted, List.countP_cons]
      cases e.needsKey with
      | false => rfl
      | true =>
          show s.dealings.keyed + 1 + _ = s.dealings.keyed + (_ + 1)
          omega

/-- A step that is still to come is an action that begins. Without a key it leaves the body of the
page as it is, and if it needs one it does nothing but remind the user. -/
theorem performAt_of_unasked (keyless : d.platform.backend.hasKey = false)
    (h : Unasked d s.dealings) {i : Nat} {e : Entry} (he : s.agenda[i]? = some e)
    (other : e.step.isTick = false) :
    (s.performAt i).document.body = s.document.body ∧
      (e.step.needsKey → s.performAt i =
        ({ s with agenda := s.agenda.eraseIdx i } : Session).notify .error
          Failure.configuration.message) := by
  obtain ⟨task, begins⟩ := h.waiting e
    (List.mem_filter.2 ⟨List.mem_of_getElem? he, by simp [other]⟩)
  have performed : s.performAt i =
      ({ s with agenda := s.agenda.eraseIdx i } : Session).begin task := by
    simp [performAt, he, perform, begins]
  have unkeyed : ({ s with agenda := s.agenda.eraseIdx i } : Session).platform.backend.hasKey =
      false := by
    rw [← keyless, ← h.platform]
    rfl
  rw [performed, begins]
  cases needs : task.needsKey with
  | true =>
      rw [begin_of_keyless unkeyed needs]
      exact ⟨rfl, fun _ => rfl⟩
  | false =>
      constructor
      · cases task with
        | readAloud persona =>
            rw [begin]
            exact (quiet_readAloud _ persona).body
        | _ => simp [Task.needsKey] at needs
      · intro needed
        rw [Step.needsKey, needs] at needed
        exact absurd needed Bool.false_ne_true

theorem keyless_ask {client : Assistant.Gemini.Client}
    (keyless : ∀ key ∈ client.key, Text.allBlank key) (net : Web.Network) (q : Query) :
    client.ask net q = (none, .error .missingKey) := by
  have none : client.key? = none := Option.filter_eq_none_iff.2 (by simpa using keyless)
  rw [Assistant.Gemini.Client.ask, none]

/-- A page whose assistant was given no key, or a blank one, whatever the page goes through: nothing
is sent to the assistant, nor is it asked, no image is fetched, and the dialogue stays as it was.
No action changes the body of the page. Each message that asks for an action that needs a key
brings the user one reminder, by which the action ends and which is all that it does; the reminders
and the actions that are still to begin are as many as the messages. -/
theorem keyless_unsent (client : Assistant.Gemini.Client) (net : Web.Network)
    (image : String → Except AssistantError Image) (synthesizer : Option Speech.Synthesizer)
    (document : Document) (store : Store) (medium : Medium) (recognition : Speech.Recognition)
    (es : List Episode) (keyless : ∀ key ∈ client.key, Text.allBlank key) :
    let s := es.foldl undergo
      (opened ⟨client.backend net, image, synthesizer⟩ document store medium recognition)
    (∀ q, client.ask net q = (none, .error .missingKey)) ∧
      s.journal.queries = [] ∧ s.journal.fetched = [] ∧ s.document.modal = document.modal ∧
      (∀ i e, s.agenda[i]? = some e → e.step.isTick = false →
        (s.performAt i).document.body = s.document.body ∧
          (e.step.needsKey → s.performAt i =
            ({ s with agenda := s.agenda.eraseIdx i } : Session).notify .error
              Failure.configuration.message)) ∧
      s.document.notices.count Notice.missingKey + s.agenda.countP (·.step.needsKey) =
        document.notices.count Notice.missingKey + es.countP (·.needsKey) ∧
      (s.agenda.all (·.step.isTick) → s.document.notices.count Notice.missingKey =
        document.notices.count Notice.missingKey + es.countP (·.needsKey)) := by
  intro s
  let start := opened ⟨client.backend net, image, synthesizer⟩ document store medium recognition
  have unkeyed : start.dealings.platform.backend.hasKey = false := by
    have none : client.key? = none := Option.filter_eq_none_iff.2 (by simpa using keyless)
    show client.key?.isSome = false
    rw [none]
    rfl
  obtain ⟨kept, counted⟩ := unasked_episodes (s := start) unkeyed
    ⟨rfl, rfl, rfl, rfl, fun _ h => absurd h List.not_mem_nil⟩ es
  rw [keyed_dealings] at counted
  refine ⟨keyless_ask keyless net, kept.queries, kept.fetched, kept.modal,
    fun i e he other => performAt_of_unasked unkeyed kept he other, ?_, fun done => ?_⟩
  · exact counted
  · have none : s.agenda.countP (·.step.needsKey) = 0 := by
      apply List.countP_eq_zero.2
      intro e he needs
      have ticks := List.all_eq_true.1 done e he
      rw [Step.isTick_eq_false_of_needsKey needs] at ticks
      exact absurd ticks (by decide)
    rw [← Nat.add_zero (s.document.notices.count _), ← none]
    exact counted

/-- A blank key, each of the actions that need one, and focus mode on a page without an article,
with the settings taken over before and after. -/
theorem keyless_unsent_of_each :
    let client : Assistant.Gemini.Client := { key := some " \t" }
    let messages : List Message := [.runSummarize "A text.", .runSimplify "A text.",
      .runTranslatePage "German", .runImageDescription "http://localhost/image.png",
      .toggleFeature "lumen-focus-mode" true, .runAISummarizePage .short, .runAIReadAloud "Kore"]
    let es := .load :: messages.map (.occurs <| .page <| .message ·) ++
      .load :: List.replicate 6 (.occurs (.page (.step 0)))
    let s := es.foldl undergo
      (opened ⟨client.backend .unreachable, fun _ => .error .missingKey, some {}⟩ {} {} none {})
    (∀ key ∈ client.key, Text.allBlank key) ∧ s.agenda.all (·.step.isTick) ∧
      s.journal.queries = [] ∧ s.journal.fetched = [] ∧ s.document.modal = none ∧
      s.document.notices.length = 7 ∧ s.document.notices.count Notice.missingKey = 5 := by
  intro client messages es
  have keyless : ∀ key ∈ client.key, Text.allBlank key := by decide +kernel
  obtain ⟨-, queries, fetched, modal, -, -, reminded⟩ := keyless_unsent client .unreachable
    (fun _ => .error .missingKey) (some {}) {} {} none {} es keyless
  have five : ([] : List Notice).count Notice.missingKey + es.countP (·.needsKey) = 5 := by
    decide +kernel
  have done : (es.foldl undergo (opened ⟨client.backend .unreachable, fun _ => .error .missingKey,
      some {}⟩ {} {} none {})).agenda.all (·.step.isTick) := by
    decide +kernel
  refine ⟨keyless, done, queries, fetched, modal, by decide +kernel, ?_⟩
  rw [← five]
  exact reminded done

end Session

end PageAid
