import PageAid.Proofs.Session.Body
import PageAid.Proofs.Session.Change

/-!
Where the elements of a page go. A path alone does not tell one element from another over time: a
link that is put in front moves all of them, and a node that is taken out moves those behind it.
`Path.follow` says where the element at a path has gone, and `moved_happen` that it is still the
same element there, with its tag, its attributes and its text.
-/

namespace PageAid

inductive Move where
  /-- A link was put in front of the children of the body. -/
  | link
  | out (q : Path)
deriving DecidableEq, Repr

/-- The path after a move of the element that was at `p`; `none` if it was taken out. -/
def Move.follow : Move → Path → Option Path
  | link, p => some p.shifted
  | out q, p => Path.without q p

def Path.follow : List Move → Path → Option Path
  | [], p => some p
  | m :: r, p => (m.follow p).bind (Path.follow r)

theorem Path.follow_append (a b : List Move) (p : Path) :
    Path.follow (a ++ b) p = (Path.follow a p).bind (Path.follow b) := by
  induction a generalizing p with
  | nil => rfl
  | cons m r ih =>
      rw [List.cons_append, Path.follow, Path.follow, Option.bind_assoc]
      exact Option.bind_congr fun q _ => ih q

theorem Path.follow_of_links {moves : List Move} (h : ∀ m ∈ moves, m = .link) (i : Nat)
    (p : Path) : Path.follow moves (i :: p) = some ((i + moves.length) :: p) := by
  induction moves generalizing i with
  | nil => rfl
  | cons m r ih =>
      obtain ⟨rfl, hr⟩ := List.forall_mem_cons.1 h
      have further : Path.follow (.link :: r) (i :: p) = Path.follow r ((i + 1) :: p) := rfl
      rw [further, ih hr, List.length_cons]
      congr 2
      omega

/-- As long as nothing is taken out, an element stays where it is just if no link comes, the body
itself apart. -/
theorem Path.follow_eq_self_iff {moves : List Move} (h : ∀ m ∈ moves, m = .link) (p : Path) :
    Path.follow moves p = some p ↔ p = [] ∨ moves = [] := by
  cases p with
  | nil =>
      have stays : Path.follow moves [] = some [] := by
        induction moves with
        | nil => rfl
        | cons m r ih =>
            obtain ⟨rfl, hr⟩ := List.forall_mem_cons.1 h
            exact ih hr
      simp [stays]
  | cons i p =>
      rw [Path.follow_of_links h]
      simp

/-- The two are the markup of one element at different times. -/
structure Markup.Kin (m m' : Markup) : Prop where
  tag : m'.tag = m.tag
  attrs : m'.attrs = m.attrs
  text : m'.text = m.text

namespace Markup.Kin

variable {m m' m'' : Markup}

theorem refl (m : Markup) : m.Kin m := ⟨rfl, rfl, rfl⟩

theorem trans (h : m.Kin m') (h' : m'.Kin m'') : m.Kin m'' :=
  ⟨h'.tag.trans h.tag, h'.attrs.trans h.attrs, h'.text.trans h.text⟩

theorem setClass (m : Markup) (name : String) (on : Bool) : m.Kin (m.setClass name on) := by
  rw [Markup.setClass_eq]
  exact ⟨rfl, rfl, rfl⟩

end Markup.Kin

namespace Element

/-- From `e` to `e'` every element goes where the moves take it. -/
def Moved (moves : List Move) (e e' : Element) : Prop :=
  ∀ p p' m, e.markupAt? p = some m → Path.follow moves p = some p' →
    ∃ m', e'.markupAt? p' = some m' ∧ m.Kin m'

theorem Moved.refl (e : Element) : e.Moved [] e := by
  intro p p' m hm hp
  obtain rfl := Option.some.inj hp
  exact ⟨m, hm, Markup.Kin.refl m⟩

theorem Moved.trans {a b : List Move} {e e' e'' : Element} (h : e.Moved a e')
    (h' : e'.Moved b e'') : e.Moved (a ++ b) e'' := by
  intro p p'' m hm hp
  rw [Path.follow_append] at hp
  obtain ⟨p', hp', hp''⟩ := Option.bind_eq_some_iff.1 hp
  obtain ⟨m', hm', kin⟩ := h p p' m hm hp'
  obtain ⟨m'', hm'', kin'⟩ := h' p' p'' m' hm' hp''
  exact ⟨m'', hm'', kin.trans kin'⟩

theorem moved_updatedAt {f : Markup → Markup} (h : ∀ m : Markup, m.Kin (f m)) (e : Element)
    (p : Path) : e.Moved [] (e.updatedAt p f) := by
  intro q q' m hm hq
  obtain rfl := Option.some.inj hq
  rw [markupAt?_updatedAt, hm]
  split
  · exact ⟨f m, rfl, h m⟩
  · exact ⟨m, rfl, Markup.Kin.refl m⟩

theorem moved_withChild (e c : Element) : e.Moved [] (e.withChild c) := by
  intro p p' m hm hp
  obtain rfl := Option.some.inj hp
  exact ⟨m, markupAt?_withChild c hm, Markup.Kin.refl m⟩

theorem moved_prepended (e c : Element) : e.Moved [.link] (e.prepended c) := by
  intro p p' m hm hp
  obtain rfl : p.shifted = p' := by simpa [Path.follow, Move.follow] using hp
  exact ⟨m, by rw [markupAt?_prepended, hm], Markup.Kin.refl m⟩

theorem moved_removeId (e : Element) (id : String) :
    e.Moved ((outPath? id e).map Move.out).toList (e.removeId id).2 := by
  rw [removeId_eq]
  cases h : outPath? id e with
  | none => exact Moved.refl e
  | some q =>
      intro p p' m hm hp
      have without : Path.without q p = some p' := by
        simpa [Path.follow, Move.follow] using hp
      exact ⟨m, by rw [markupAt?_eraseAt without, hm], Markup.Kin.refl m⟩

end Element

namespace Session

open Element

def takenOut (s : Session) (id : String) : List Move :=
  ((outPath? id s.document.body).map Move.out).toList

def movesOf (s : Session) : Toggle → Bool → List Move
  | .readingGuide, false => s.takenOut Guide.nodeId
  | .focusMode, false => s.takenOut Focus.overlayId
  | _, _ => []

/-- How elements move in a happening. -/
def moves (s : Session) : Happening → List Move
  | .message .addSkipLink =>
    if (s.document.findId SkipLink.nodeId).isSome then []
    else ((s.document.body.queryPath SkipLink.targets).map fun _ => .link).toList
  | .message (.toggleFeature key on) =>
    match Toggle.ofKey? key with
    | some t => s.movesOf t on
    | none => []
  | .event .focusExitClicked => s.takenOut Focus.overlayId
  | .event (.voice e) =>
    if (s.voiceEvent e).1 = .command .exitFocusMode then s.takenOut Focus.overlayId else []
  | _ => []

theorem moved_addSkipLink (s : Session) :
    s.document.body.Moved (s.moves (.message .addSkipLink)) s.addSkipLink.document.body := by
  rw [moves, addSkipLink]
  split
  · exact Moved.refl _
  · split
    · rename_i none
      rw [none]
      exact Moved.refl _
    · rename_i path found
      rw [found]
      have named : ∀ id : String, s.document.body.Moved []
          (s.document.body.updatedAt path ({ · with id := some id })) :=
        fun id => moved_updatedAt (f := ({ · with id := some id })) (fun _ => ⟨rfl, rfl, rfl⟩) _ _
      exact (named _).trans (moved_prepended _ (SkipLink.link _))

theorem moved_disableFocus (s : Session) :
    s.document.body.Moved (s.takenOut Focus.overlayId) s.disableFocus.document.body := by
  rw [body_disableFocus]
  have taken := moved_removeId s.document.body Focus.overlayId
  have classes := moved_updatedAt (fun m => Markup.Kin.setClass m Focus.noScrollClass false)
    (s.document.body.removeId Focus.overlayId).2 []
  have both := taken.trans classes
  rw [List.append_nil] at both
  exact both

theorem moved_enableFocus (s : Session) :
    s.document.body.Moved [] s.enableFocus.2.document.body := by
  obtain ⟨-, -, same⟩ | ⟨-, -, told⟩ | ⟨article, -, -, -, shown⟩ := enableFocus_cases s
  · rw [same]
    exact Moved.refl _
  · rw [told]
    exact Moved.refl _
  · rw [shown]
    have appended := moved_withChild s.document.body (Focus.overlay article)
    exact appended.trans (moved_updatedAt
      (fun m => Markup.Kin.setClass m Focus.noScrollClass true) _ [])

theorem takenOut_guide_of_not_active {s : Session} (h : Guide.active s.document = false) :
    s.takenOut Guide.nodeId = [] := by
  rw [takenOut]
  cases hq : outPath? Guide.nodeId s.document.body with
  | none => rfl
  | some q =>
      obtain ⟨x, hx, hid, hne⟩ := hasId_of_outPath? hq
      have count := countId_eraseAt hne hx Guide.nodeId
      have shown : Guide.active s.document := by
        rw [Guide.active, Document.findId, isSome_findId_iff]
        rw [bearers_eq, if_pos hid] at count
        omega
      rw [h] at shown
      simp at shown

theorem moved_setGuide (s : Session) (on : Bool) :
    s.document.body.Moved (s.movesOf .readingGuide on)
      (s.guide.setEnabled s.document on).2.body := by
  rw [Guide.body_setEnabled]
  cases on <;> cases shown : Guide.active s.document
  · rw [movesOf, takenOut_guide_of_not_active shown]
    exact Moved.refl _
  · exact moved_removeId _ _
  · exact moved_withChild _ _
  · exact Moved.refl _

theorem moved_applyToggle (s : Session) (t : Toggle) (on : Bool) :
    s.document.body.Moved (s.movesOf t on) (s.applyToggle t on).2.document.body := by
  have stay : (t.target = .rootClass ∨ t.target = .bodyClass) → s.movesOf t on = [] := by
    intro h
    cases t <;> simp_all [Toggle.target, movesOf]
  unfold applyToggle
  split <;> rename_i target
  · rw [stay (.inl target)]
    exact Moved.refl _
  · rw [stay (.inr target)]
    exact moved_updatedAt (fun m => Markup.Kin.setClass m t.key on) _ []
  · obtain rfl : t = .readingGuide := by cases t <;> simp_all [Toggle.target]
    exact moved_setGuide s on
  · obtain rfl : t = .focusMode := by cases t <;> simp_all [Toggle.target]
    cases on
    · exact moved_disableFocus s
    · exact moved_enableFocus s
  · obtain rfl : t = .voiceControl := by cases t <;> simp_all [Toggle.target]
    cases on
    · exact Moved.refl _
    · simp only [if_true, enableVoice]
      split <;> exact Moved.refl _

theorem body_clearPeers (s : Session) (t : Toggle) :
    (s.clearPeers t).document.body = s.document.body := by
  refine clearPeers_induction (P := (·.document.body = s.document.body)) t rfl ?_
  intro s' u hu hs
  rw [applyToggle, Toggle.target_of_mem_colorFilters hu]
  exact hs

theorem moved_setToggle (s : Session) (t : Toggle) (on : Bool) :
    s.document.body.Moved (s.movesOf t on) (s.setToggle t on).document.body := by
  have before : (if on then s.clearPeers t else s).document.body = s.document.body := by
    cases on
    · rfl
    · exact body_clearPeers s t
  have applied := moved_applyToggle ((if on then s.clearPeers t else s).persist t on) t on
  have same : ∀ s' : Session, s'.document.body = s.document.body →
      s'.movesOf t on = s.movesOf t on := by
    intro s' h
    unfold movesOf takenOut
    rw [h]
  -- how elements move depends on the body alone, which is still the same
  have recorded : ((if on then s.clearPeers t else s).persist t on).movesOf t on =
      s.movesOf t on := same _ before
  have unchanged : ((if on then s.clearPeers t else s).persist t on).document.body =
      s.document.body := before
  rw [recorded, unchanged] at applied
  rw [(quiet_setToggle s t on).body]
  exact applied

theorem moved_execute (s : Session) (c : Speech.Command) :
    s.document.body.Moved (if c = .exitFocusMode then s.takenOut Focus.overlayId else [])
      (s.execute c).document.body := by
  cases c with
  | exitFocusMode => exact moved_disableFocus s
  | enterFocusMode =>
      rw [if_neg (by simp), execute_enterFocusMode]
      split <;> exact moved_enableFocus s
  | _ => exact Moved.refl _

/-- Unless it is a step, a happening takes every element where `moves` says, with its tag, its
attributes and its text. -/
theorem moved_happen (s : Session) {x : Happening} (h : ∀ i, x ≠ .step i) :
    s.document.body.Moved (s.moves x) (s.happen x).document.body := by
  cases x with
  | message m =>
      cases m with
      | toggleFeature key on =>
          have moving : s.moves (.message (.toggleFeature key on)) =
              match Toggle.ofKey? key with
              | some t => s.movesOf t on
              | none => [] := rfl
          have setting : s.receive (.toggleFeature key on) =
              match Toggle.ofKey? key with
              | some t => s.setToggle t on
              | none => s := rfl
          rw [moving, happen, setting]
          cases Toggle.ofKey? key with
          | some t => exact moved_setToggle s t on
          | none => exact Moved.refl _
      | addSkipLink => exact moved_addSkipLink s
      | _ => exact Moved.refl _
  | event e =>
      cases e with
      | pointerMove y =>
          show s.document.body.Moved [] (s.guide.pointerMoved s.document y).body
          rcases s.guide.body_pointerMoved s.document y with same | ⟨p, top, -, moved⟩
          · rw [same]
            exact Moved.refl _
          · rw [moved]
            exact moved_updatedAt (f := fun m => { m with style := m.style.insert "top" top })
              (fun _ => ⟨rfl, rfl, rfl⟩) _ _
      | voice e =>
          show s.document.body.Moved (if (s.voiceEvent e).1 = .command .exitFocusMode then
            s.takenOut Focus.overlayId else []) (s.voiceEvent e).2.document.body
          obtain ⟨c, hc, hs⟩ | ⟨other, ⟨_, _, hs⟩ | ⟨_, _, hs⟩⟩ := voiceEvent_cases s e
          · rw [hc, hs]
            simpa using moved_execute s c
          · rw [if_neg (other _), hs]
            exact Moved.refl _
          · rw [if_neg (other _), hs]
            exact Moved.refl _
      | focusExitClicked => exact moved_disableFocus s
      | speechFinished success =>
          show s.document.body.Moved [] (s.speechFinished success).document.body
          rw [(quiet_speechFinished s success).body]
          exact Moved.refl _
  | pause n => exact Moved.refl _
  | step i => exact absurd rfl (h i)

theorem outline_step (s : Session) (i : Nat) :
    (s.happen (.step i)).document.body.outline = s.document.body.outline := by
  rw [happen]
  obtain ⟨-, same⟩ | ⟨due, -, ticked⟩ | ⟨e, he, ht, performed⟩ := performAt_cases s i
  · rw [same]
  · rw [ticked]
    rcases body_tick { s with agenda := s.agenda.eraseIdx i } due with same | ⟨p, text, -, shown⟩
    · rw [same]
    · rw [shown, outline_updatedAt]
  · rw [performed, (aside_performed he ht).outline]

/-- Whatever happens takes every element where `moves` says, with its tag and its attributes. -/
theorem carried_happen (s : Session) (x : Happening) {p p' : Path} {m : Markup}
    (hm : s.document.body.markupAt? p = some m) (hp : Path.follow (s.moves x) p = some p') :
    ∃ m', (s.happen x).document.body.markupAt? p' = some m' ∧
      m'.tag = m.tag ∧ m'.attrs = m.attrs := by
  by_cases hx : ∃ i, x = .step i
  · obtain ⟨i, rfl⟩ := hx
    obtain rfl : p = p' := Option.some.inj hp
    have same := congrArg (markupAt? · p) (outline_step s i)
    simp only [markupAt?_outline, hm, Option.map_some] at same
    obtain ⟨m', hm', same⟩ := Option.map_eq_some_iff.1 same
    rw [Markup.mk.injEq] at same
    exact ⟨m', hm', same.1, same.2.2.2.1⟩
  · obtain ⟨m', hm', kin⟩ := moved_happen s (fun i hi => hx ⟨i, hi⟩) p p' m hm hp
    exact ⟨m', hm', kin.tag, kin.attrs⟩

end Session

end PageAid
