import PageAid.Proofs.Translation.Move
import PageAid.Proofs.Translation.Progress

/-!
Whether a translation is written to the elements that it was made from. A page is watched from the
beginning of a translation on: what the page was then, and how its elements have moved since. A
reply is written faithfully just if every element that it goes to is where it was in the beginning
(`faithful_iff`); a link that is put in front of the page meanwhile breaks that
(`unfaithful_after_link`).
-/

namespace PageAid

open Assistant Element
open Session (Happening)

def sentAs (body : Element) (batch k : Nat) : Option Run :=
  (batches (runs body))[batch]?.bind (·[k]?)

/-- A page with what is remembered of its last translation. -/
structure Watch where
  session : Session
  origin : Element
  moves : List Move

namespace Watch

def start (s : Session) : Watch := ⟨s, s.document.body, []⟩

/-- Before a happening: a translation that it begins is watched from now on. -/
def mark (w : Watch) (x : Happening) : Watch :=
  if w.session.begins x then { w with origin := w.session.document.body, moves := [] } else w

def happen (w : Watch) (x : Happening) : Watch :=
  { session := w.session.happen x
    origin := (w.mark x).origin
    moves := (w.mark x).moves ++ w.session.moves x }

def run (w : Watch) (hs : List Happening) : Watch := hs.foldl happen w

/-- The texts of a reply go only to elements whose own texts were sent under their numbers. -/
def Faithful (w : Watch) (t : Translation) (reply : String) : Prop :=
  ∀ k text p, Goes t.sent reply k text p → (w.session.document.body.at? p).isSome →
    ∃ r, sentAs w.origin t.batch k = some r ∧ Path.follow w.moves r.path = some p

@[simp] theorem session_mark (w : Watch) (x : Happening) : (w.mark x).session = w.session := by
  rw [mark]
  split <;> rfl

theorem origin_mark (w : Watch) (x : Happening) :
    (w.mark x).origin = if w.session.begins x then w.session.document.body else w.origin := by
  rw [mark]
  split <;> rfl

theorem session_run (w : Watch) (hs : List Happening) :
    (w.run hs).session = w.session.run hs := by
  induction hs generalizing w with
  | nil => rfl
  | cons x r ih => exact ih (w.happen x)

theorem run_induction {P : Watch → Prop} (kept : ∀ w x, P w → P (w.happen x)) {w : Watch}
    (hw : P w) (hs : List Happening) : P (w.run hs) := by
  induction hs generalizing w with
  | nil => exact hw
  | cons x r ih => exact ih (kept w x hw)

/-! ### What is remembered is right -/

/-- The batch under way is one of those of the page that is remembered. -/
def Attributed (w : Watch) : Prop := w.session.Attributed w.origin

theorem attributed_happen (w : Watch) (x : Happening) (hw : w.Attributed) :
    (w.happen x).Attributed := by
  rw [Attributed, happen, origin_mark]
  cases translates : x.translates w.session with
  | true => exact Session.Attributed.progress hw (Session.progress_happen translates)
  | false =>
      have going : w.session.begins x = false := by
        cases h : w.session.begins x with
        | true => rw [← translates, Session.translates_of_begins h]
        | false => rfl
      rw [going]
      exact Session.Attributed.calm hw (Session.calm_happen translates)

/-- The element that was at a path when the translation began is where the moves have taken it. -/
def Tracked (w : Watch) : Prop :=
  ∀ p p' m, w.origin.markupAt? p = some m → Path.follow w.moves p = some p' →
    ∃ m', w.session.document.body.markupAt? p' = some m' ∧ m'.tag = m.tag ∧ m'.attrs = m.attrs

theorem tracked_happen (w : Watch) (x : Happening) (hw : w.Tracked) :
    (w.happen x).Tracked := by
  intro p p' m hm hp
  rw [happen, Path.follow_append] at hp
  obtain ⟨q, hq, hp⟩ := Option.bind_eq_some_iff.1 hp
  simp only [happen, mark] at hm hq
  -- watched anew, or further on from where the moves so far have led
  split at hm
  · rename_i begins
    rw [if_pos begins] at hq
    obtain rfl : p = q := Option.some.inj hq
    exact w.session.carried_happen x hm hp
  · rename_i goes_on
    rw [if_neg goes_on] at hq
    obtain ⟨m₁, hm₁, tag, attrs⟩ := hw p q m hm hq
    obtain ⟨m', hm', tag', attrs'⟩ := w.session.carried_happen x hm₁ hp
    exact ⟨m', hm', tag'.trans tag, attrs'.trans attrs⟩

theorem tracked_mark {w : Watch} (hw : w.Tracked) (x : Happening) : (w.mark x).Tracked := by
  rw [mark]
  split
  · intro p p' m hm hp
    obtain rfl := Option.some.inj hp
    exact ⟨m, hm, rfl, rfl⟩
  · exact hw

/-! ### What is written -/

theorem sentAs_eq {body : Element} {t : Translation} (h : t.PartOf body) (k : Nat) :
    sentAs body t.batch k = t.sent[k]? := by
  rw [sentAs, h.getElem?]
  rfl

/-- A reply is written faithfully just if every element that it goes to is where it was. -/
theorem faithful_iff_of_partOf {w : Watch} {t : Translation} (h : t.PartOf w.origin)
    (reply : String) :
    w.Faithful t reply ↔ ∀ k text p, Goes t.sent reply k text p →
      (w.session.document.body.at? p).isSome → Path.follow w.moves p = some p := by
  constructor
  · intro faithful k text p goes there
    obtain ⟨r, hr, follows⟩ := faithful k text p goes there
    obtain ⟨-, r', hr', rfl⟩ := goes
    rw [sentAs_eq h, hr'] at hr
    obtain rfl := Option.some.inj hr
    exact follows
  · intro still k text p goes there
    have follows := still k text p goes there
    obtain ⟨-, r, hr, rfl⟩ := goes
    exact ⟨r, by rw [sentAs_eq h, hr], follows⟩

theorem faithful_iff_no_link {w : Watch} {t : Translation} (h : t.PartOf w.origin)
    (links : ∀ m ∈ w.moves, m = .link) (reply : String) :
    w.Faithful t reply ↔ w.moves = [] ∨ ∀ k text p, Goes t.sent reply k text p →
      (w.session.document.body.at? p).isSome → p = [] := by
  rw [faithful_iff_of_partOf h]
  simp only [Path.follow_eq_self_iff links]
  by_cases none : w.moves = []
  · simp [none]
  · simp [none]

/-- On every page, in every run, whatever the assistant replies: the elements are where the moves
have taken them; a translation changes no text but by writing the reply to a batch; what is sent
for the batch are texts of the page as it was when the translation began; the texts of the reply,
and no others, go to the paths of the texts that were sent under their numbers; and they go only to
the elements of these texts exactly if every element that they go to is where it was when the
translation began. -/
theorem faithful_iff (s : Session) (idle : s.pending = 0) (hs : List Happening) (x : Happening) :
    let w := ((Watch.start s).run hs).mark x
    let body := w.session.document.body
    let after := (w.session.happen x).document.body
    w.Tracked ∧ (x.translates w.session → w.session.written? x = none → after = body) ∧
      ∀ t reply, w.session.written? x = some (t, reply) →
        t.query ∈ (w.session.happen x).journal.queries ∧
        (∀ k r, t.sent[k]? = some r →
          sentAs w.origin t.batch k = some r ∧ w.origin.textAt? r.path = some r.text) ∧
        (∀ k text p, Goes t.sent reply k text p →
          after.textAt? p = (body.textAt? p).map fun _ => text) ∧
        (∀ p, (∀ k text, ¬ Goes t.sent reply k text p) → after.textAt? p = body.textAt? p) ∧
        (w.Faithful t reply ↔ ∀ k text p, Goes t.sent reply k text p → (body.at? p).isSome →
          Path.follow w.moves p = some p) := by
  intro w body after
  have session : w.session = ((Watch.start s).run hs).session := session_mark _ x
  have attributed : ((Watch.start s).run hs).Attributed :=
    run_induction attributed_happen (Session.attributed_of_pending_eq_zero idle) hs
  have tracked : ((Watch.start s).run hs).Tracked := by
    refine run_induction tracked_happen (fun p p' m hm hp => ?_) hs
    obtain rfl := Option.some.inj hp
    exact ⟨m, hm, rfl, rfl⟩
  refine ⟨tracked_mark tracked x, fun translates none => ?_, fun t reply written => ?_⟩
  · have unchanged := Session.body_happen translates
    rw [none] at unchanged
    exact unchanged
  · have effect := Session.body_happen (Session.translates_of_written (by rw [written]; rfl))
    rw [written] at effect
    have translated : after = withReply t.sent reply body := effect
    obtain ⟨part, asked⟩ := Session.Attributed.written attributed
      (by rw [← session, written])
    have part : t.PartOf w.origin := by
      rw [← origin_mark] at part
      exact part
    rw [← session] at asked
    refine ⟨asked, fun k r hr => ⟨?_, ?_⟩, fun k text p goes => ?_,
      fun p none => ?_, faithful_iff_of_partOf part reply⟩
    · rw [sentAs_eq part, hr]
    · exact text_of_mem_runs (part.sublist.subset (List.mem_of_getElem? hr))
    · rw [translated, textAt?_withReply_of_goes part.nodup_paths goes]
    · rw [translated, textAt?_withReply_of_forall_not none]

/-! ### With and without a link -/

def paragraphs (reply : String) : Session :=
  Session.opened ⟨⟨true, fun _ _ => ⟨100, .ok reply⟩⟩, fun _ => .error .missingKey, none⟩
    { body := ((Element.new "body").withChild ((Element.new "main").withText "First paragraph")
        ).withChild ((Element.new "p").withText "Second paragraph") } {} none {}

theorem faithful_without_link :
    let reply := "[0]:: Erster Absatz\n[1]:: Zweiter Absatz"
    let w := ((start (paragraphs reply)).run
      [.message (.runTranslatePage "German"), .step 0]).mark (.step 0)
    (paragraphs reply).pending = 0 ∧
      ∃ t, w.session.written? (.step 0) = some (t, reply) ∧ w.Faithful t reply := by
  intro reply w
  have idle : (paragraphs reply).pending = 0 := by decide
  have written : w.session.written? (.step 0) = some (⟨"German",
      [⟨[0], "First paragraph"⟩, ⟨[1], "Second paragraph"⟩], [], 0, 1, 0⟩, reply) := by
    decide +kernel
  have moves : w.moves = [] := by decide +kernel
  obtain ⟨-, -, -, -, exact_when⟩ := (faithful_iff (paragraphs reply) idle
    [.message (.runTranslatePage "German"), .step 0] (.step 0)).2.2 _ _ written
  refine ⟨idle, _, written, exact_when.2 fun k text p _ _ => ?_⟩
  show Path.follow w.moves p = some p
  rw [moves]
  rfl

/-- A link that comes while the reply is awaited moves both paragraphs: the reply to the first one
goes to the link, and that to the second one to the first. -/
theorem unfaithful_after_link :
    let reply := "[0]:: Erster Absatz\n[1]:: Zweiter Absatz"
    let w := ((start (paragraphs reply)).run [.message (.runTranslatePage "German"), .step 0,
      .message .addSkipLink]).mark (.step 0)
    (∃ t, w.session.written? (.step 0) = some (t, reply) ∧ ¬ w.Faithful t reply) ∧
      ((w.session.happen (.step 0)).document.body.markupAt? [1]).map
        (fun m => (m.tag, m.text)) = some ("main", "Zweiter Absatz") := by
  intro reply w
  refine ⟨⟨⟨"German", [⟨[0], "First paragraph"⟩, ⟨[1], "Second paragraph"⟩], [], 0, 1, 0⟩,
    by decide +kernel, ?_⟩, by decide +kernel⟩
  intro faithful
  obtain ⟨r, hr, follows⟩ := faithful 0 "Erster Absatz" [0]
    ⟨by decide +kernel, ⟨[0], "First paragraph"⟩, rfl, rfl⟩ (by decide +kernel)
  have first : sentAs w.origin 0 0 = some ⟨[0], "First paragraph"⟩ := by decide +kernel
  obtain rfl := Option.some.inj (hr.symm.trans first)
  have moved : Path.follow w.moves [0] = some [1] := by decide +kernel
  rw [moved] at follows
  simp at follows

end Watch

end PageAid
