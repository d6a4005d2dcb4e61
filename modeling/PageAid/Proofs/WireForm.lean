import PageAid.Message
import PageAid.Proofs.Json.Varied

/-!
What goes over the wire comes out as it went in. A message, an event of the recognizer or an event
of the page is read off its JSON form whatever the order of the members, and whatever members are
added that its form does not know; and input is taken for the message or the event that it is
(`wireForms_read`).
-/

namespace PageAid

open Json Assistant

/-! ### Fields -/

theorem FontChange.ofName_name (c : FontChange) : ofName c.name = c := by
  cases c <;> decide

theorem Assistant.SummaryLength.ofName?_name (l : SummaryLength) : ofName? l.name = some l := by
  cases l <;> decide

/-! ### Messages -/

namespace Message

theorem contains_action (m : Message) : actions.contains m.action := by
  cases m <;> simp [actions, action]

theorem nodup_fields (m : Message) : (tagName :: m.fields.map (·.1)).Nodup := by
  cases m <;> simp [fields, tagName]

theorem isSound_of_mem_fields (m : Message) : ∀ x ∈ m.fields, x.2.isSound := by
  cases m <;> simp [fields, isSound]

theorem oneText?_of_sole {members : List (String × Json)} {name text : String}
    (h : Sole members name (.string text)) : oneText? name (.object members) = some text := by
  rw [oneText?, record?_singleton h]
  exact required_of_sole h false asString?

theorem ofFields?_of_sole (m : Message) {rest : List (String × Json)}
    (h : ∀ x ∈ m.fields, Sole rest x.1 x.2) :
    ofFields? m.action (.object rest) = some m := by
  have only : ∀ {name : String} {v : Json}, m.fields = [(name, v)] → Sole rest name v :=
    fun same => h _ (by rw [same]; exact List.mem_singleton_self _)
  cases m with
  | ping | addSkipLink | getVoiceStatus | closeCurrentTab => rfl
  | toggleFeature key value =>
      have hkey : Sole rest "key" (.string key) := h ("key", _) (by simp [fields])
      have hvalue : Sole rest "value" (.bool value) := h ("value", _) (by simp [fields])
      have record : record? ["key", "value"] (.object rest) = some ⟨rest, false⟩ := by
        refine record?_object ?_
        simp only [List.mem_cons, List.not_mem_nil, or_false]
        rintro name (rfl | rfl)
        · exact ⟨_, hkey⟩
        · exact ⟨_, hvalue⟩
      simp only [action, ofFields?, record, Option.bind_eq_bind, Option.bind_some,
        required_of_sole hkey, required_of_sole hvalue, asString?, asBool?]
  | adjustFontSize value =>
      have sole := only rfl
      simp only [action, ofFields?, record?_singleton sole, Option.bind_eq_bind, Option.bind_some,
        required_of_sole sole, alternative?, FontChange.ofName_name]
  | runAISummarizePage length =>
      have sole := only rfl
      simp only [action, ofFields?, record?_singleton sole, Option.bind_eq_bind, Option.bind_some,
        required_of_sole sole, alternative?, SummaryLength.ofName?_name, Option.map_some]
  | _ => exact congrArg (Option.map _) (oneText?_of_sole (only rfl))

theorem ofJson?_of_varied (m : Message) {avoided : List String} {w : Json}
    (h : Varied avoided m.toJson w) (loose : Bool) : ofJson? loose w = some m := by
  obtain ⟨rest, tagged, sole⟩ :=
    tagged?_of_varied h m.contains_action m.nodup_fields m.isSound_of_mem_fields loose
  rw [ofJson?, tagged]
  exact m.ofFields?_of_sole sole

end Message

/-! ### Events of the recognizer -/

namespace Speech

theorem ErrorKind.code_ofCode (code : String) : (ofCode code).code = code := by
  have all : ∀ e ∈ coded, e.2.code = e.1 := by decide
  rw [ofCode]
  cases h : coded.lookup code with
  | none => rfl
  | some kind =>
      obtain ⟨l, r, split, -⟩ := List.lookup_eq_some_iff.1 h
      exact all (code, kind) (by simp [split])

theorem isSound_strings (l : List String) : (strings l).isSound := by
  rw [strings, isSound, soundItems_iff]
  simp [isSound]

theorem Result.isSound_toJson (r : Result) : r.toJson.isSound := by
  rw [toJson, isSound, soundMembers_iff]
  simpa using isSound_strings r.alternatives

theorem Result.ofJson?_toJson (r : Result) : ofJson? r.toJson = some r := by
  have sole : Sole [("alternatives", strings r.alternatives)] "alternatives"
    (strings r.alternatives) := rfl
  rw [ofJson?, toJson, record?_singleton sole]
  simp only [Option.bind_eq_bind, Option.bind_some, required_of_sole sole, list?_strings,
    Option.map_some]

namespace Event

/-- The kind of an error is one that is read off some code. -/
def Coded : Event → Prop
  | error kind => ∃ code, ErrorKind.ofCode code = kind
  | _ => True

theorem isSound_results (results : List Result) :
    (Json.array (results.map Result.toJson)).isSound := by
  rw [isSound, soundItems_iff]
  simp [Result.isSound_toJson]

theorem isSound_toJson (e : Event) : e.toJson.isSound := by
  cases e with
  | result results =>
      rw [toJson, isSound, soundMembers_iff]
      simpa [isSound] using isSound_results results
  | _ => rfl

theorem varied_toJson (e : Event) : Varied [] e.toJson e.toJson := by
  cases e <;> exact Varied.refl [] _

theorem ofJson?_of_varied {e : Event} (coded : e.Coded) {avoided : List String} {w : Json}
    (h : Varied avoided e.toJson w) (loose : Bool) : ofJson? loose w = some e := by
  cases e with
  | result results =>
      have known : names.contains "result" := by decide
      obtain ⟨rest, tagged, sole⟩ :=
        tagged?_of_varied_pair h known (by decide) (isSound_results results) loose
      have read : list? Result.ofJson? (.array (results.map Result.toJson)) = some results :=
        list?_map fun r _ => r.ofJson?_toJson
      simp only [ofJson?, tagged, Option.bind_eq_bind, Option.bind_some, record?_singleton sole,
        required_of_sole sole, read, Option.map_some]
  | error kind =>
      obtain ⟨code, rfl⟩ := coded
      have known : names.contains "error" := by decide
      obtain ⟨rest, tagged, sole⟩ := tagged?_of_varied_pair h known (by decide) rfl loose
      simp only [ofJson?, tagged, Option.bind_eq_bind, Option.bind_some, record?_singleton sole,
        required_of_sole sole, asString?, ErrorKind.code_ofCode, Option.map_some]
  | ended =>
      have known : names.contains "end" := by decide
      obtain ⟨rest, tagged, -⟩ := tagged?_of_varied h known (by simp) (by simp) loose
      rw [ofJson?, tagged]
      rfl

end Event

end Speech

/-! ### Events of the page -/

namespace PageEvent

/-- The event is no move of the pointer, and coded if it comes from the recognizer. -/
def Coded : PageEvent → Prop
  | pointerMove _ => False
  | voice e => e.Coded
  | _ => True

theorem ofJson?_of_varied {e : PageEvent} (coded : e.Coded) {avoided : List String} {w : Json}
    (h : Varied avoided e.toJson w) (loose : Bool) : ofJson? loose w = some e := by
  cases e with
  | pointerMove y => exact coded.elim
  | voice e =>
      have known : names.contains "voice" := by decide
      obtain ⟨rest, tagged, sole⟩ :=
        tagged?_of_varied_pair h known (by decide) e.isSound_toJson loose
      have read : Speech.Event.ofJson? true e.toJson = some e :=
        Speech.Event.ofJson?_of_varied coded e.varied_toJson true
      simp only [ofJson?, tagged, Option.bind_eq_bind, Option.bind_some, ofFields?,
        record?_singleton sole, required_of_sole sole, read, Option.map_some]
  | focusExitClicked =>
      have known : names.contains "focusExitClicked" := by decide
      obtain ⟨rest, tagged, -⟩ := tagged?_of_varied h known (by simp) (by simp) loose
      rw [ofJson?, tagged]
      rfl
  | speechFinished success =>
      have known : names.contains "speechFinished" := by decide
      obtain ⟨rest, tagged, sole⟩ := tagged?_of_varied_pair h known (by decide) rfl loose
      simp only [ofJson?, tagged, Option.bind_eq_bind, Option.bind_some, ofFields?,
        record?_singleton sole, required_of_sole sole, asBool?, Option.map_some]

theorem message_of_varied {e : PageEvent} {w : Json} (h : Varied [Message.tagName] e.toJson w)
    (loose : Bool) : Message.ofJson? loose w = none := by
  have untagged : tagged? loose Message.tagName Message.actions w = none := by
    cases e <;> exact tagged?_of_avoided h (by simp) (by simp [tagName, Message.tagName]) loose _
  rw [Message.ofJson?, untagged]
  rfl

end PageEvent

/-! ### Input -/

/-- Whatever the order of the members of its JSON form, and whatever members are added to it under
names of their own: a message is read off it, and so is an event of the recognizer, and an event of
the page other than a move of the pointer, provided that the kind of an error is one that is read
off a code and that an event of the page gets no action. As input the message and the event of the
page are taken for what they are. -/
theorem wireForms_read :
    (∀ (m : Message) (w : Json), Varied [] m.toJson w →
      Message.ofJson? false w = some m ∧ HostInput.ofJson? w = some (.message m)) ∧
    (∀ (e : Speech.Event) (w : Json), e.Coded → Varied [] e.toJson w →
      Speech.Event.ofJson? false w = some e) ∧
    ∀ (e : PageEvent) (w : Json), e.Coded → Varied [Message.tagName] e.toJson w →
      PageEvent.ofJson? false w = some e ∧ HostInput.ofJson? w = some (.event e) := by
  refine ⟨fun m w h => ⟨m.ofJson?_of_varied h false, ?_⟩,
    fun e w coded h => Speech.Event.ofJson?_of_varied coded h false,
    fun e w coded h => ⟨PageEvent.ofJson?_of_varied coded h false, ?_⟩⟩
  · rw [HostInput.ofJson?, m.ofJson?_of_varied h true]
    rfl
  · rw [HostInput.ofJson?, PageEvent.message_of_varied h true,
      PageEvent.ofJson?_of_varied coded h true]
    rfl

/-- A message with its members in reverse order and one more in front, and an error that comes as
an event of the page with its tag behind. -/
theorem wireForms_read_of_reversed :
    let m : Message := .toggleFeature "lumen-x" true
    let w : Json := .object [("tab", .nat 7), ("value", .bool true), ("key", .string "lumen-x"),
      ("action", .string "toggleFeature")]
    let e : Speech.Event := .error (.ofCode "bad-grammar")
    let w' : Json := .object [("voice", e.toJson), ("event", .string "voice")]
    HostInput.ofJson? w = some (.message m) ∧ Speech.Event.ofJson? false e.toJson = some e ∧
      HostInput.ofJson? w' = some (.event (.voice e)) := by
  intro m w e w'
  obtain ⟨messages, recognized, events⟩ := wireForms_read
  have coded : e.Coded := ⟨"bad-grammar", rfl⟩
  have message : Varied [] m.toJson w := by
    refine .mk _ [("tab", .nat 7)] _ (by decide) (by simp [nat, isSound]) ?_
    exact List.reverse_perm (((Message.tagName, .string m.action) :: m.fields) ++ [("tab", .nat 7)])
  have event : Varied [Message.tagName] (PageEvent.voice e).toJson w' :=
    .mk _ [] _ (by simp) (by simp) (List.Perm.swap _ _ [])
  exact ⟨(messages m w message).2, recognized e _ coded e.varied_toJson,
    (events (.voice e) w' coded event).2⟩

end PageAid
