import PageAid.Proofs.Session.Episode
import PageAid.Proofs.Translation.Request

/-!
Any number of requests for a translation on one page, in any interleaving of their steps and of
whatever else the page goes through. The flag says whether one of them holds it, and no second one
ever does (`Sound`); a request that comes meanwhile is told so and does nothing else
(`translations_oneAtATime`).
-/

namespace PageAid

open Assistant Session Translation

def Session.Happening.language? : Happening → Option String
  | .message m =>
    match task? m with
    | some (.translate language) => some language
    | _ => none
  | _ => none

def Session.Episode.language? : Episode → Option String
  | .occurs (.page x) => x.language?
  | _ => none

/-- A page, and the requests that have come so far. A request is kept here instead of on the page's
agenda. -/
structure Traffic where
  session : Session
  requests : List Request := []

namespace Traffic

inductive Move where
  /-- The page goes through something. A message that asks for a translation is a request. -/
  | page (e : Episode)
  | go (i : Nat)

def Move.isOf (i : Nat) : Move → Bool
  | go j => j == i
  | page _ => false

def move (w : Traffic) : Move → Traffic
  | .page e =>
    match e.language? with
    | some language => { w with requests := w.requests ++ [.waiting language] }
    | none => { w with session := w.session.undergo e }
  | .go i =>
    match w.requests[i]? with
    | some r =>
      let (s, r) := r.advance w.session
      ⟨s, w.requests.set i r⟩
    | none => w

def run (w : Traffic) (moves : List Move) : Traffic := moves.foldl move w

@[simp] theorem run_nil (w : Traffic) : w.run [] = w := rfl

def holding (w : Traffic) : Nat := w.requests.countP (·.within)

end Traffic

/-! ### The flag -/

/-- What a step of a request leaves as it is: the services and the agenda. A request that takes the
flag holds it from then on, and one that gives it back has held it. -/
structure Translation.Request.Stepped (s : Session) (r : Request) (s' : Session) (r' : Request) :
    Prop where
  platform : s'.platform = s.platform
  agenda : s'.agenda = s.agenda
  flag : (r.within → s.translating) →
    s'.translating.toNat + r.within.toNat = s.translating.toNat + r'.within.toNat

theorem Translation.Request.stepped_advance (s : Session) (r : Request) :
    Stepped s r (r.advance s).1 (r.advance s).2 := by
  cases r with
  | waiting language =>
      obtain ⟨-, refused⟩ | ⟨-, -, turned⟩ | ⟨-, free, taken⟩ := advance_waiting s language
      · rw [refused]
        exact ⟨rfl, rfl, fun _ => rfl⟩
      · rw [turned]
        exact ⟨rfl, rfl, fun _ => rfl⟩
      · rw [taken]
        exact ⟨rfl, rfl, fun _ => by simp [within, free]⟩
  | begun language =>
      refine ⟨rfl, rfl, fun _ => ?_⟩
      rw [advance]
      cases Translation.first? language s.document.body <;> rfl
  | sending t => exact ⟨rfl, rfl, fun _ => rfl⟩
  | asking t => exact ⟨rfl, rfl, fun _ => rfl⟩
  | awaiting t result =>
      cases result with
      | error e => exact ⟨rfl, rfl, fun _ => rfl⟩
      | ok reply =>
          rw [advance]
          generalize (readBlocks reply).foldl (writeBlock t.sent) (t.written, s.document) = r
          obtain ⟨written, d⟩ := r
          refine ⟨rfl, rfl, fun _ => ?_⟩
          dsimp only
          split <;> rfl
  | ending language result =>
      refine ⟨rfl, rfl, fun held => ?_⟩
      have on : s.translating = true := held rfl
      simp [advance, within, on]
  | telling n => exact ⟨rfl, rfl, fun _ => rfl⟩
  | done => exact ⟨rfl, rfl, fun _ => rfl⟩

/-- No step of a translation is on the agenda, and the flag is up for the one request that holds
it, or down if there is none. -/
structure Traffic.Sound (p : Platform) (w : Traffic) : Prop where
  platform : w.session.platform = p
  agenda : w.session.agenda.filter (·.step.translates) = []
  flag : w.holding = w.session.translating.toNat

theorem Session.Happening.translates_eq_false {s : Session} {x : Happening}
    (other : x.language? = none) (agenda : s.agenda.filter (·.step.translates) = []) :
    x.translates s = false := by
  cases x with
  | message m =>
      rw [language?] at other
      rw [translates]
      cases asked : task? m with
      | none => rfl
      | some task => cases task <;> simp_all [Step.translates]
  | step i => exact translates_step agenda i
  | event e => rfl
  | pause n => rfl

theorem Session.calm_undergo {s : Session} {e : Episode} (other : e.language? = none)
    (agenda : s.agenda.filter (·.step.translates) = []) :
    Calm s (s.undergo e) ∧ (s.undergo e).platform = s.platform := by
  cases e with
  | load => exact ⟨calm_restoreSettings s, platform_restoreSettings s⟩
  | occurs x =>
      cases x with
      | page x =>
          have calm := Happening.translates_eq_false (x := x) other agenda
          exact ⟨calm_happen calm, platform_happen calm⟩
      | platform running broken => exact ⟨Calm.of_eq rfl rfl rfl, rfl⟩

namespace Traffic

variable {w : Traffic} {p : Platform}

theorem Sound.page (hw : w.Sound p) (e : Episode) : (w.move (.page e)).Sound p := by
  rw [move]
  split
  · refine ⟨hw.platform, hw.agenda, ?_⟩
    rw [← hw.flag]
    simp [holding, Request.within]
  · rename_i other
    obtain ⟨calm, same⟩ := calm_undergo other hw.agenda
    refine ⟨same.trans hw.platform, ?_, ?_⟩
    · exact List.eq_nil_of_sublist_nil (hw.agenda ▸ calm.translations)
    · show w.holding = (w.session.undergo e).translating.toNat
      rw [calm.translating]
      exact hw.flag

theorem Sound.translating (hw : w.Sound p) {r : Request} (hr : r ∈ w.requests)
    (within : r.within) : w.session.translating := by
  have some : 0 < w.holding := List.countP_pos_iff.2 ⟨r, hr, within⟩
  rw [hw.flag] at some
  cases on : w.session.translating with
  | true => rfl
  | false =>
      rw [on] at some
      exact absurd some (by decide)

theorem holding_set {i : Nat} {r : Request} (hr : w.requests[i]? = some r) (r' : Request)
    (s : Session) :
    (Traffic.mk s (w.requests.set i r')).holding + r.within.toNat =
      w.holding + r'.within.toNat := by
  obtain ⟨inside, here⟩ := List.getElem?_eq_some_iff.1 hr
  have counted : r.within.toNat ≤ w.holding := by
    cases held : r.within with
    | false => exact Nat.zero_le _
    | true => exact List.countP_pos_iff.2 ⟨r, List.mem_of_getElem? hr, held⟩
  rw [holding, List.countP_set inside, here, ← holding]
  cases held : r.within <;> cases r'.within <;> simp [held] at counted ⊢
  all_goals omega

theorem Sound.go (hw : w.Sound p) (i : Nat) : (w.move (.go i)).Sound p := by
  rw [move]
  cases hr : w.requests[i]? with
  | none => exact hw
  | some r =>
      have stepped := r.stepped_advance w.session
      have flag := stepped.flag (hw.translating (List.mem_of_getElem? hr))
      have held := hw.flag
      have counted := holding_set hr (r.advance w.session).2 (r.advance w.session).1
      refine ⟨stepped.platform.trans hw.platform, ?_, ?_⟩
      · dsimp only
        rw [stepped.agenda]
        exact hw.agenda
      · dsimp only
        omega

theorem Sound.run (hw : w.Sound p) (moves : List Move) : (w.run moves).Sound p := by
  induction moves generalizing w with
  | nil => exact hw
  | cons m r ih =>
      cases m with
      | page e => exact ih (hw.page e)
      | go i => exact ih (hw.go i)

def opened (platform : Platform) (document : Document) (store : Store) (medium : Medium)
    (recognition : Speech.Recognition) : Traffic :=
  { session := Session.opened platform document store medium recognition }

theorem sound_opened (platform : Platform) (document : Document) (store : Store) (medium : Medium)
    (recognition : Speech.Recognition) :
    (opened platform document store medium recognition).Sound platform := ⟨rfl, rfl, rfl⟩

/-! ### A request that comes meanwhile -/

theorem requests_move_of_not {m : Move} {i : Nat} {r : Request} (other : m.isOf i = false)
    (hr : w.requests[i]? = some r) : (w.move m).requests[i]? = some r := by
  cases m with
  | page e =>
      obtain ⟨inside, -⟩ := List.getElem?_eq_some_iff.1 hr
      rw [move]
      split
      · exact (List.getElem?_append_left inside).trans hr
      · exact hr
  | go j =>
      have ne : j ≠ i := by simpa [Move.isOf] using other
      rw [move]
      split
      · exact (List.getElem?_set_ne ne).trans hr
      · exact hr

theorem move_go {i : Nat} {r : Request} (hr : w.requests[i]? = some r) :
    w.move (.go i) = ⟨(r.advance w.session).1, w.requests.set i (r.advance w.session).2⟩ := by
  rw [move, hr]

theorem requests_move_go {i : Nat} {r : Request} (hr : w.requests[i]? = some r) :
    (w.move (.go i)).requests[i]? = some (r.advance w.session).2 := by
  obtain ⟨inside, -⟩ := List.getElem?_eq_some_iff.1 hr
  rw [move_go hr]
  exact List.getElem?_set_self inside

theorem requests_run_done {i : Nat} (moves : List Move) (hr : w.requests[i]? = some .done) :
    (w.run moves).requests[i]? = some .done := by
  induction moves generalizing w with
  | nil => exact hr
  | cons m r ih =>
      refine ih ?_
      cases own : m.isOf i with
      | false => exact requests_move_of_not own hr
      | true =>
          cases m with
          | page e => exact absurd own (by simp [Move.isOf])
          | go j =>
              obtain rfl : j = i := by simpa [Move.isOf] using own
              exact requests_move_go hr

/-- A request with nothing left but to tell something does so in its next step. -/
theorem requests_run_telling {i : Nat} {n : Notice} (moves : List Move)
    (hr : w.requests[i]? = some (.telling n)) :
    (w.run moves).requests[i]? =
      some (if moves.any (·.isOf i) then .done else .telling n) := by
  induction moves generalizing w with
  | nil => exact hr
  | cons m r ih =>
      cases own : m.isOf i with
      | false =>
          rw [List.any_cons, own]
          exact ih (requests_move_of_not own hr)
      | true =>
          cases m with
          | page e => exact absurd own (by simp [Move.isOf])
          | go j =>
              obtain rfl : j = i := by simpa [Move.isOf] using own
              rw [List.any_cons, own]
              exact requests_run_done r (requests_move_go hr)

/-- From any opening of the page on, through all that it may go through and any number of requests
in any interleaving of their steps: at most one request holds the flag, and the flag is up while one
does and down while none does. A request whose turn comes while another one holds the flag leaves
the page as it is, and of all that it does later only its next step changes anything, namely by the
notice that a translation is in progress. -/
theorem translations_oneAtATime (platform : Platform) (document : Document) (store : Store)
    (medium : Medium) (recognition : Speech.Recognition) (key : platform.backend.hasKey)
    (moves : List Move) :
    let w := (opened platform document store medium recognition).run moves
    w.holding ≤ 1 ∧ w.session.translating = w.requests.any (·.within) ∧
      ∀ i language, w.requests[i]? = some (.waiting language) → w.requests.any (·.within) →
        (w.move (.go i)).session = w.session ∧
          ∀ later, let v := (w.move (.go i)).run later
            (v.move (.go i)).session =
              if later.any (·.isOf i) then v.session
              else v.session.notify .info "Translation already in progress..." := by
  intro w
  have sound : w.Sound platform := (sound_opened ..).run moves
  have flag : w.session.translating = w.requests.any (·.within) := by
    rw [Bool.eq_iff_iff, List.any_eq_true, ← List.countP_pos_iff]
    show _ ↔ 0 < w.holding
    rw [sound.flag]
    cases w.session.translating <;> decide
  refine ⟨?_, flag, fun i language hr held => ?_⟩
  · rw [sound.flag]
    exact Bool.toNat_le _
  · have on : w.session.translating = true := flag.trans held
    have keyed : w.session.platform.backend.hasKey := by
      rw [sound.platform]
      exact key
    have turned : Request.advance w.session (.waiting language) =
        (w.session, .telling inProgress) := by
      simp [Request.advance, keyed, on]
    have told := requests_move_go hr
    rw [turned] at told
    refine ⟨?_, fun later => ?_⟩
    · rw [move_go hr, turned]
    · dsimp only
      rw [move_go (requests_run_telling later told)]
      cases later.any (·.isOf i) <;> rfl

/-- Of two requests the second comes while the first one holds the flag; then the assistant fails,
and the flag is down again. -/
theorem translations_oneAtATime_of_failure :
    let platform : Platform :=
      ⟨⟨true, fun _ _ => ⟨0, .error .emptyResponse⟩⟩, fun _ => .error .missingKey, none⟩
    let document : Document :=
      { body := (Element.new "body").withChild ((Element.new "p").withText "A paragraph") }
    let moves : List Move := [.page .load,
      .page (.occurs (.page (.message (.runTranslatePage "German")))),
      .page (.occurs (.page (.message (.runTranslatePage "French")))), .go 0]
    let w := (opened platform document {} none {}).run moves
    let v := (opened platform document {} none {}).run (moves ++ List.replicate 5 (.go 0))
    platform.backend.hasKey ∧ w.requests[1]? = some (.waiting "French") ∧ w.holding = 1 ∧
      ((w.move (.go 1)).move (.go 1)).session =
        w.session.notify .info "Translation already in progress..." ∧
      v.session.journal.queries.length = 1 ∧ v.session.translating = false := by
  intro platform document moves
  have first : ((opened platform document {} none {}).run moves).requests.any (·.within) = true :=
    by decide +kernel
  have second : ((opened platform document {} none {}).run moves).requests[1]? =
      some (.waiting "French") := by
    have last : (opened platform document {} none {}).run moves =
        ((opened platform document {} none {}).run moves.dropLast).move (.go 0) := rfl
    rw [last]
    exact requests_move_of_not rfl rfl
  have none_left : ((opened platform document {} none {}).run
      (moves ++ List.replicate 5 (.go 0))).requests.any (·.within) = false := by
    decide +kernel
  obtain ⟨-, -, meanwhile⟩ := translations_oneAtATime platform document {} none {} rfl moves
  obtain ⟨-, flag, -⟩ := translations_oneAtATime platform document {} none {} rfl
    (moves ++ List.replicate 5 (.go 0))
  obtain ⟨same, later⟩ := meanwhile 1 "French" second first
  have told := later []
  simp only [run_nil, List.any_nil, Bool.false_eq_true, if_false] at told
  rw [same] at told
  exact ⟨rfl, second, by decide +kernel, told, by decide +kernel, flag.trans none_left⟩

end Traffic

end PageAid
