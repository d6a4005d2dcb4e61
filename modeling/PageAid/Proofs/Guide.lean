import PageAid.Proofs.Session.Body

/-!
The reading guide among others on its page. That the guide is on is known from three things: the
band on the page, the listener among those that are registered, and the number that the guide
keeps. The band may be taken off by others, and the listeners of others come and go. Still there
is never more than one band and one listener of the guide, and the three agree again whenever the
guide is switched (`switched_guide_agrees`).
-/

namespace PageAid

namespace Document

/-- No listener has a number that was not given out. -/
def Numbered (d : Document) : Prop := ∀ e ∈ d.listeners, e.1 ≤ d.lastListener

/-- The numbers that are given out until the page has come to another state. -/
def numbersTo (d d' : Document) : List ListenerId :=
  List.range' (d.lastListener + 1) (d'.lastListener - d.lastListener)

theorem Numbered.addListener {d : Document} (h : d.Numbered) (kind : EventKind) :
    (d.addListener kind).2.Numbered := by
  intro e he
  rcases List.mem_append.1 he with old | new
  · exact Nat.le_succ_of_le (h e old)
  · obtain rfl := List.mem_singleton.1 new
    exact Nat.le_refl _

theorem Numbered.removeListener {d : Document} (h : d.Numbered) (n : ListenerId) :
    (d.removeListener n).Numbered :=
  fun e he => h e (List.mem_filter.1 he).1

theorem Numbered.of_eq {d d' : Document} (h : d.Numbered) (listeners : d'.listeners = d.listeners)
    (last : d'.lastListener = d.lastListener) : d'.Numbered := by
  intro e he
  rw [last]
  exact h e (listeners ▸ he)

end Document

namespace Guide

theorem countId_setEnabled (g : Guide) {d : Document} (h : d.body.countId nodeId ≤ 1)
    (on : Bool) :
    (g.setEnabled d on).2.body.countId nodeId = if on then 1 else 0 := by
  have shown : active d = true ↔ 0 < d.body.countId nodeId := Element.isSome_findId_iff
  have body := g.body_setEnabled d on
  cases on <;> cases ha : active d <;> rw [ha] at body shown <;> rw [body]
  · simpa using shown
  · have fewer := Element.countId_removeId_lt (shown.1 rfl)
    simp only [Bool.false_eq_true, if_false]
    omega
  · have one : band.bearers nodeId = 1 := rfl
    have none : d.body.countId nodeId = 0 := by simpa using shown
    rw [Element.countId_withChild, one, none]
    rfl
  · have some := shown.1 rfl
    simp only [if_true]
    omega

theorem setEnabled_setEnabled (g : Guide) {d : Document} (h : d.body.countId nodeId ≤ 1)
    (on : Bool) :
    (g.setEnabled d on).1.setEnabled (g.setEnabled d on).2 on = g.setEnabled d on := by
  have count := g.countId_setEnabled h on
  have shown : active (g.setEnabled d on).2 = true ↔
      0 < (g.setEnabled d on).2.body.countId nodeId := Element.isSome_findId_iff
  rw [count] at shown
  cases on with
  | true =>
      have active : active (g.setEnabled d true).2 = true := by simpa using shown
      generalize g.setEnabled d true = r at active
      simp only [setEnabled, active]
  | false =>
      have inactive : active (g.setEnabled d false).2 = false := by simpa using shown
      have dropped : (g.setEnabled d false).1 = ⟨none⟩ := rfl
      generalize g.setEnabled d false = r at inactive dropped
      obtain ⟨g', d'⟩ := r
      obtain rfl : g' = ⟨none⟩ := dropped
      simp only [setEnabled, inactive]
      rfl

theorem lastListener_detached (g : Guide) (d : Document) :
    (g.detached d).lastListener = d.lastListener := by
  rw [detached]
  split <;> rfl

theorem numbered_detached (g : Guide) {d : Document} (h : d.Numbered) :
    (g.detached d).Numbered := by
  rw [detached]
  split
  · exact h.removeListener _
  · exact h

theorem listeners_pointerMoved (g : Guide) (d : Document) (y : Float) :
    (g.pointerMoved d y).listeners = d.listeners ∧
      (g.pointerMoved d y).lastListener = d.lastListener := by
  rw [pointerMoved]
  split
  · split <;> exact ⟨rfl, rfl⟩
  · exact ⟨rfl, rfl⟩

theorem countId_pointerMoved (g : Guide) (d : Document) (y : Float) :
    (g.pointerMoved d y).body.countId nodeId = d.body.countId nodeId := by
  rcases g.body_pointerMoved d y with same | ⟨p, top, -, moved⟩
  · rw [same]
  · rw [moved]
    exact Element.countId_updatedAt fun _ _ => rfl

end Guide

/-- The guide on its page, with the numbers of all listeners that were ever registered while it
was being switched. -/
structure Guided where
  guide : Guide := {}
  document : Document
  own : List ListenerId := []

namespace Guided

inductive Act where
  | switch (on : Bool)
  | point (y : Float)
  /-- Somebody else registers a listener. -/
  | register (kind : EventKind)
  /-- Somebody else drops a listener. -/
  | unregister (n : ListenerId)
  /-- Somebody else takes a band off the page. -/
  | takeOff

def bands (s : Guided) : Nat := s.document.body.countId Guide.nodeId

def registrations (s : Guided) : List (ListenerId × EventKind) :=
  s.document.listeners.filter (s.own.contains ·.1)

def switch (s : Guided) (on : Bool) : Guided :=
  let (guide, document) := s.guide.setEnabled s.document on
  { guide, document, own := s.own ++ s.document.numbersTo document }

def onPage (s : Guided) (f : Document → Document) : Guided := { s with document := f s.document }

/-- The guide and its page afterwards; nobody else drops a listener of the guide. -/
def act? (s : Guided) : Act → Option Guided
  | .switch on => some (s.switch on)
  | .point y => some (s.onPage (s.guide.pointerMoved · y))
  | .register kind => some (s.onPage (·.addListener kind |>.2))
  | .unregister n => if s.own.contains n then none else some (s.onPage (·.removeListener n))
  | .takeOff => some (s.onPage (·.removeId Guide.nodeId |>.2))

def run? (s : Guided) (acts : List Act) : Option Guided := acts.foldlM act? s

/-- The listener whose number the guide keeps is the one that is registered for it, and a band is
there only along with it. -/
structure Kept (s : Guided) : Prop where
  numbered : s.document.Numbered
  given : ∀ n ∈ s.own, n ≤ s.document.lastListener
  registered : s.registrations = s.guide.listener.toList.map (·, .pointerMove)
  shown : s.bands ≤ s.guide.listener.toList.length

/-! ### The guide is switched -/

variable {s s' : Guided}

theorem bands_le_one (h : s.Kept) : s.bands ≤ 1 := by
  refine Nat.le_trans h.shown ?_
  cases s.guide.listener <;> simp

theorem filter_listeners_detached (h : s.Kept) :
    (s.guide.detached s.document).listeners.filter (s.own.contains ·.1) = [] := by
  have registered := h.registered
  unfold registrations at registered
  rw [Guide.detached]
  cases held : s.guide.listener with
  | none => simpa [held] using registered
  | some n =>
      rw [held] at registered
      have among : ∀ e ∈ s.document.listeners.filter (s.own.contains ·.1), e.1 = n := by
        rw [registered]
        simp
      refine List.filter_eq_nil_iff.2 fun e he own => ?_
      obtain ⟨here, other⟩ := List.mem_filter.1 he
      exact bne_iff_ne.1 other (among e (List.mem_filter.2 ⟨here, own⟩))

theorem switch_of_active (active : Guide.active s.document = true) : s.switch true = s := by
  simp [switch, Guide.setEnabled, active, Document.numbersTo]

/-- A guide that comes on has its old listener dropped and a new one registered. -/
theorem switch_of_inactive (inactive : Guide.active s.document = false) :
    (s.switch true).guide = ⟨some (s.document.lastListener + 1)⟩ ∧
      (s.switch true).document.listeners = (s.guide.detached s.document).listeners ++
        [(s.document.lastListener + 1, .pointerMove)] ∧
      (s.switch true).document.lastListener = s.document.lastListener + 1 ∧
      (s.switch true).own = s.own ++ [s.document.lastListener + 1] := by
  have last := s.guide.lastListener_detached s.document
  simp [switch, Guide.setEnabled, inactive, Document.append, Document.addListener,
    Document.numbersTo, last]

theorem switch_off (s : Guided) :
    (s.switch false).guide = ⟨none⟩ ∧
      (s.switch false).document.listeners = (s.guide.detached s.document).listeners ∧
      (s.switch false).document.lastListener = s.document.lastListener ∧
      (s.switch false).own = s.own := by
  have last := s.guide.lastListener_detached s.document
  cases h : Guide.active s.document <;>
    simp [switch, Guide.setEnabled, h, Document.removeId, Document.numbersTo, last]

theorem bands_switch (h : s.Kept) (on : Bool) : (s.switch on).bands = if on then 1 else 0 :=
  s.guide.countId_setEnabled (bands_le_one h) on

theorem kept_switch (h : s.Kept) (on : Bool) : (s.switch on).Kept := by
  have bands := bands_switch h on
  have dropped := filter_listeners_detached h
  have numbered := s.guide.numbered_detached h.numbered
  have before := s.guide.lastListener_detached s.document
  cases on with
  | false =>
      obtain ⟨guide, listeners, last, own⟩ := s.switch_off
      refine ⟨?_, ?_, ?_, ?_⟩
      · exact numbered.of_eq listeners (last.trans before.symm)
      · rw [own, last]
        exact h.given
      · rw [registrations, listeners, own, guide]
        exact dropped
      · rw [bands]
        exact Nat.zero_le _
  | true =>
      cases active : Guide.active s.document with
      | true =>
          rw [switch_of_active active]
          exact h
      | false =>
          obtain ⟨guide, listeners, last, own⟩ := switch_of_inactive active
          -- the number is new, so no listener but the new one has it
          have older : ∀ e ∈ (s.guide.detached s.document).listeners,
              (s.own ++ [s.document.lastListener + 1]).contains e.1 = s.own.contains e.1 := by
            intro e he
            have other : e.1 ≠ s.document.lastListener + 1 :=
              Nat.ne_of_lt (Nat.lt_succ_of_le (before ▸ numbered e he))
            simp [other]
          refine ⟨?_, ?_, ?_, ?_⟩
          · refine (numbered.addListener .pointerMove).of_eq ?_ ?_
            · rw [listeners, Document.addListener, before]
            · rw [last, Document.addListener, before]
          · intro n hn
            rw [last]
            rcases List.mem_append.1 (own ▸ hn) with old | new
            · exact Nat.le_succ_of_le (h.given n old)
            · obtain rfl := List.mem_singleton.1 new
              exact Nat.le_refl _
          · rw [registrations, listeners, own, guide, List.filter_append,
              List.filter_congr older, dropped]
            simp
          · rw [bands, guide]
            exact Nat.le_refl _

/-! ### Others change the page -/

theorem Kept.onPage (h : s.Kept) (f : Document → Document)
    (numbered : (f s.document).Numbered)
    (last : s.document.lastListener ≤ (f s.document).lastListener)
    (registered : (s.onPage f).registrations = s.registrations)
    (fewer : (s.onPage f).bands ≤ s.bands) : (s.onPage f).Kept where
  numbered := numbered
  given n hn := Nat.le_trans (h.given n hn) last
  registered := registered.trans h.registered
  shown := Nat.le_trans fewer h.shown

theorem kept_point (h : s.Kept) (y : Float) : (s.onPage (s.guide.pointerMoved · y)).Kept := by
  obtain ⟨listeners, last⟩ := s.guide.listeners_pointerMoved s.document y
  refine h.onPage _ (h.numbered.of_eq listeners last) (Nat.le_of_eq last.symm) ?_ ?_
  · show (s.guide.pointerMoved s.document y).listeners.filter _ = _
    rw [listeners]
    rfl
  · exact Nat.le_of_eq (s.guide.countId_pointerMoved s.document y)

/-- A listener of others gets a number that the guide was not given. -/
theorem kept_register (h : s.Kept) (kind : EventKind) :
    (s.onPage (·.addListener kind |>.2)).Kept := by
  have other : s.document.lastListener + 1 ∉ s.own := fun own =>
    Nat.not_succ_le_self _ (h.given _ own)
  refine h.onPage _ (h.numbered.addListener kind) (Nat.le_succ _) ?_ (Nat.le_refl _)
  show (s.document.listeners ++ [(s.document.lastListener + 1, kind)]).filter
    (s.own.contains ·.1) = _
  rw [List.filter_append]
  simp [other, registrations]

theorem kept_unregister (h : s.Kept) {n : ListenerId} (other : n ∉ s.own) :
    (s.onPage (·.removeListener n)).Kept := by
  refine h.onPage _ (h.numbered.removeListener n) (Nat.le_refl _) ?_ (Nat.le_refl _)
  show (s.document.listeners.filter (·.1 != n)).filter (s.own.contains ·.1) = _
  rw [List.filter_filter]
  refine List.filter_congr fun e _ => ?_
  by_cases own : e.1 ∈ s.own
  · have different : e.1 ≠ n := fun same => other (same ▸ own)
    simp [different]
  · simp [own]

theorem kept_takeOff (h : s.Kept) : (s.onPage (·.removeId Guide.nodeId |>.2)).Kept :=
  h.onPage _ h.numbered (Nat.le_refl _) rfl (Element.countId_removeId_le _ _ _)

theorem kept_act (h : s.Kept) {a : Act} (act : s.act? a = some s') : s'.Kept := by
  cases a with
  | switch on => exact Option.some.inj act ▸ kept_switch h on
  | point y => exact Option.some.inj act ▸ kept_point h y
  | register kind => exact Option.some.inj act ▸ kept_register h kind
  | takeOff => exact Option.some.inj act ▸ kept_takeOff h
  | unregister n =>
      rw [act?] at act
      split at act
      · cases act
      · next other =>
          exact Option.some.inj act ▸ kept_unregister h (by simpa using other)

theorem run?_cons (s : Guided) (a : Act) (acts : List Act) :
    s.run? (a :: acts) = (s.act? a).bind (·.run? acts) := by
  rw [run?, List.foldlM_cons]
  rfl

theorem kept_run (h : s.Kept) {acts : List Act} (run : s.run? acts = some s') : s'.Kept := by
  induction acts generalizing s with
  | nil => exact Option.some.inj run ▸ h
  | cons a acts ih =>
      rw [run?_cons] at run
      obtain ⟨t, act, rest⟩ := Option.bind_eq_some_iff.1 run
      exact ih (kept_act h act) rest

theorem kept_start {d : Document} (numbered : d.Numbered)
    (clean : d.body.countId Guide.nodeId = 0) : Kept { document := d } where
  numbered := numbered
  given _ h := absurd h List.not_mem_nil
  registered := List.filter_eq_nil_iff.2 fun _ _ => by simp
  shown := Nat.le_of_eq clean

/-! ### A guide that is off -/

theorem off_act {a : Act} (off : s.guide.listener = none) (quiet : a ≠ .switch true)
    (act : s.act? a = some s') : s'.guide.listener = none := by
  cases a with
  | switch on =>
      obtain rfl : on = false := by
        cases on
        · rfl
        · exact absurd rfl quiet
      rw [← Option.some.inj act, s.switch_off.1]
  | point y => exact Option.some.inj act ▸ off
  | register kind => exact Option.some.inj act ▸ off
  | takeOff => exact Option.some.inj act ▸ off
  | unregister n =>
      rw [act?] at act
      split at act
      · cases act
      · exact Option.some.inj act ▸ off

theorem off_run {acts : List Act} (off : s.guide.listener = none)
    (quiet : Act.switch true ∉ acts) (run : s.run? acts = some s') :
    s'.guide.listener = none := by
  induction acts generalizing s with
  | nil => exact Option.some.inj run ▸ off
  | cons a acts ih =>
      rw [run?_cons] at run
      obtain ⟨t, act, rest⟩ := Option.bind_eq_some_iff.1 run
      obtain ⟨first, others⟩ := not_or.1 (mt List.mem_cons.2 quiet)
      exact ih (off_act off (Ne.symm first) act) others rest

/-- Without its listener the guide has no band and no registration, and the pointer moves
nothing. -/
theorem Kept.off (h : s.Kept) (off : s.guide.listener = none) :
    s.bands = 0 ∧ s.registrations = [] ∧ ∀ y, s.guide.pointerMoved s.document y = s.document := by
  have shown := h.shown
  have registered := h.registered
  rw [off] at shown registered
  refine ⟨Nat.le_zero.1 shown, registered, fun y => ?_⟩
  rw [Guide.pointerMoved, off]

/-- However a guide on a page without its band is switched, and whatever others register, drop
and take off meanwhile: there is at most one band and at most one listener of the guide. Switching
it on leaves exactly one of each, and the guide keeps the number of that listener; switching it
off leaves neither, and until it is switched on again the pointer moves nothing. -/
theorem switched_guide_agrees {document : Document} (numbered : document.Numbered)
    (clean : document.body.countId Guide.nodeId = 0) {acts : List Act} {s : Guided}
    (run : run? { document } acts = some s) :
    s.bands ≤ 1 ∧ s.registrations.length ≤ 1 ∧
      ((s.switch true).bands = 1 ∧ ∃ n, (s.switch true).guide.listener = some n ∧
        (s.switch true).registrations = [(n, .pointerMove)]) ∧
      ((s.switch false).bands = 0 ∧ (s.switch false).registrations = []) ∧
      ∀ later u, .switch true ∉ later → (s.switch false).run? later = some u →
        u.bands = 0 ∧ u.registrations = [] ∧
          ∀ y, u.guide.pointerMoved u.document y = u.document := by
  have kept := kept_run (kept_start numbered clean) run
  have offKept := kept_switch kept false
  have off : (s.switch false).guide.listener = none := by rw [s.switch_off.1]
  refine ⟨bands_le_one kept, ?_, ⟨bands_switch kept true, ?_⟩,
    ⟨bands_switch kept false, (offKept.off off).2.1⟩, fun later u quiet run =>
      (kept_run offKept run).off (off_run off quiet run)⟩
  · rw [kept.registered]
    cases s.guide.listener <;> simp
  · have onKept := kept_switch kept true
    have shown := onKept.shown
    rw [bands_switch kept true] at shown
    cases held : (s.switch true).guide.listener with
    | none =>
        rw [held] at shown
        exact absurd shown (by decide)
    | some n =>
        refine ⟨n, rfl, ?_⟩
        rw [onKept.registered, held]
        rfl

/-- The band is taken off twice, and others register a listener between the two that the guide
registers. -/
theorem switched_guide_agrees_of_takenOff :
    let acts := [.register .pointerMove, .switch true, .takeOff, .register .click, .switch true,
      .unregister 1, .point 3.5, .takeOff]
    ({} : Document).Numbered ∧ ({} : Document).body.countId Guide.nodeId = 0 ∧
      ∃ s, run? { document := {} } acts = some s ∧
        s.bands = 0 ∧ s.registrations = [(4, .pointerMove)] ∧
        s.document.listeners = [(3, .click), (4, .pointerMove)] ∧
        (s.switch true).bands = 1 ∧ (s.switch true).registrations = [(5, .pointerMove)] ∧
        (s.switch false).bands = 0 ∧ (s.switch false).registrations = [] ∧
        ∀ y, (s.switch false).guide.pointerMoved (s.switch false).document y =
          (s.switch false).document := by
  intro acts
  have numbered : ({} : Document).Numbered := fun _ h => absurd h List.not_mem_nil
  obtain ⟨s, run⟩ : ∃ s, run? { document := {} } acts = some s := ⟨_, rfl⟩
  obtain ⟨-, -, ⟨shown, n, kept, registered⟩, ⟨gone, dropped⟩, later⟩ :=
    switched_guide_agrees numbered rfl run
  refine ⟨numbered, rfl, s, run, ?_, ?_, ?_, shown, ?_, gone, dropped,
    (later [] _ List.not_mem_nil rfl).2.2⟩
  all_goals obtain rfl := Option.some.inj run
  · decide +kernel
  · decide +kernel
  · decide +kernel
  · decide +kernel

end Guided

end PageAid
