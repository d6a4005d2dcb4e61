import Mathlib.Logic.Function.Iterate
import PageAid.Proofs.Guide

/-!
A guide on a page that may have bands of its own, as one that was saved while the guide was on.
Such a band shows the guide as on, yet no listener of the guide comes with it. Only when all of
them have gone, one with each time that the guide is switched off, does a guide that is switched on
follow the pointer (`follows_iff_cleared`).
-/

namespace PageAid.Guided

open Guide

inductive Turn where
  | switch (on : Bool)
  | point (y : Float)

def turn (s : Guided) : Turn → Guided
  | .switch on => s.switch on
  | .point y => s.onPage (s.guide.pointerMoved · y)

def after (s : Guided) (turns : List Turn) : Guided := turns.foldl turn s

def pointed (s : Guided) (ys : List Float) : Guided := s.after (ys.map .point)

def handled (d : Document) (turns : List Turn) : Guided := after { document := d } turns

def Turn.isOff : Turn → Bool
  | .switch false => true
  | _ => false

def offs (turns : List Turn) : Nat := turns.countP Turn.isOff

/-- What remains of a page of which bands were taken off one after another. -/
def stripped (body : Element) (n : Nat) : Element := (fun b => (b.removeId nodeId).2)^[n] body

def HasBand (body : Element) : Prop := (body.findId nodeId).isSome

def topAt (y : Float) (m : Markup) : Markup :=
  { m with style := m.style.insert "top" (Number.plain y ++ "px") }

/-- The pointer takes the first band to its height. -/
def Follows (s : Guided) (y : Float) : Prop :=
  ∃ x, s.document.findId nodeId = some x ∧
    (s.guide.pointerMoved s.document y).findId nodeId = some (x.mapMarkup (topAt y))

/-! ### The stages of a guide -/

/-- A guide on a page of whose own content something is left: while a band is among this, the guide
keeps no listener; once there is none, it has a band and a listener, or neither. -/
inductive Stage (left : Element) (s : Guided) : Prop
  | loaded (own : HasBand left) (body : s.document.body = left) (idle : s.guide.listener = none)
  | off (cleared : ¬ HasBand left) (none : s.bands = 0)
  | on (cleared : ¬ HasBand left) (one : s.bands = 1) (n : ListenerId)
      (held : s.guide.listener = some n) (registered : s.document.hasListener n)

theorem hasBand_iff {body : Element} : HasBand body ↔ 0 < body.countId nodeId :=
  Element.isSome_findId_iff

theorem not_hasBand_iff {body : Element} : ¬ HasBand body ↔ body.countId nodeId = 0 := by
  rw [hasBand_iff, Nat.not_lt, Nat.le_zero_eq]

theorem removeId_of_not_hasBand {body : Element} (h : ¬ HasBand body) :
    (body.removeId nodeId).2 = body :=
  Element.removeId_of_countId_eq_zero (not_hasBand_iff.1 h)

variable {s : Guided} {left : Element}

theorem bands_switch_of_le_one (h : s.bands ≤ 1) (on : Bool) :
    (s.switch on).bands = if on then 1 else 0 :=
  s.guide.countId_setEnabled h on

theorem bands_point (s : Guided) (y : Float) : (s.turn (.point y)).bands = s.bands :=
  s.guide.countId_pointerMoved s.document y

theorem Stage.start (d : Document) : Stage d.body { document := d } := by
  by_cases own : HasBand d.body
  · exact .loaded own rfl rfl
  · exact .off own (not_hasBand_iff.1 own)

theorem pointerMoved_of_idle (idle : s.guide.listener = none) (y : Float) :
    s.guide.pointerMoved s.document y = s.document := by
  rw [pointerMoved, idle]

theorem Stage.point (h : Stage left s) (y : Float) : Stage left (s.turn (.point y)) := by
  cases h with
  | loaded own body idle =>
      refine .loaded own ?_ idle
      exact (congrArg Document.body (pointerMoved_of_idle idle y)).trans body
  | off cleared none => exact .off cleared ((s.bands_point y).trans none)
  | on cleared one n held registered =>
      refine .on cleared ((s.bands_point y).trans one) n held ?_
      show (s.guide.pointerMoved s.document y).hasListener n
      rw [Document.hasListener, (s.guide.listeners_pointerMoved s.document y).1]
      exact registered

/-- A guide that is switched on leaves a page with a band as it is; otherwise it gets a band of its
own and a listener. -/
theorem Stage.switch_on (h : Stage left s) : Stage left (s.turn (.switch true)) := by
  cases h with
  | loaded own body idle =>
      have shown : active s.document := by rw [active, Document.findId, body]; exact own
      rw [turn, switch_of_active shown]
      exact .loaded own body idle
  | off cleared none =>
      have inactive : active s.document = false := Bool.eq_false_iff.2 (not_hasBand_iff.2 none)
      obtain ⟨guide, listeners, -, -⟩ := switch_of_inactive inactive
      refine .on cleared (bands_switch_of_le_one (by omega) true) _
        (congrArg Guide.listener guide) ?_
      show (s.switch true).document.hasListener _
      rw [Document.hasListener, listeners]
      simp
  | on cleared one n held registered =>
      have shown : active s.document := hasBand_iff.2 (Nat.lt_of_lt_of_eq Nat.one_pos one.symm)
      rw [turn, switch_of_active shown]
      exact .on cleared one n held registered

/-- A guide that is switched off takes one band off the page, one of the page's own as long as
there are any. -/
theorem Stage.switch_off (h : Stage left s) :
    Stage (left.removeId nodeId).2 (s.turn (.switch false)) := by
  cases h with
  | loaded own body idle =>
      have removed : (s.turn (.switch false)).document.body = (left.removeId nodeId).2 := by
        have shown : active s.document := by rw [active, Document.findId, body]; exact own
        simp [turn, Guided.switch, setEnabled, shown, detached, idle, Document.removeId, body]
      by_cases more : HasBand (left.removeId nodeId).2
      · exact .loaded more removed rfl
      · exact .off more (not_hasBand_iff.1 (removed ▸ more))
  | off cleared none =>
      rw [removeId_of_not_hasBand cleared]
      exact .off cleared (bands_switch_of_le_one (by omega) false)
  | on cleared one n held registered =>
      rw [removeId_of_not_hasBand cleared]
      exact .off cleared (bands_switch_of_le_one (by omega) false)

theorem Stage.turn (h : Stage left s) (t : Turn) :
    Stage (stripped left (if t.isOff then 1 else 0)) (s.turn t) := by
  cases t with
  | point y => exact h.point y
  | switch on =>
      cases on with
      | true => exact h.switch_on
      | false => exact h.switch_off

theorem Stage.after (h : Stage left s) (turns : List Turn) :
    Stage (stripped left (offs turns)) (s.after turns) := by
  induction turns generalizing s left with
  | nil => exact h
  | cons t turns ih =>
      have step := ih (h.turn t)
      rw [stripped, stripped, ← Function.iterate_add_apply] at step
      rw [offs, List.countP_cons]
      exact step

theorem offs_map_point (ys : List Float) : offs (ys.map .point) = 0 := by
  rw [offs, List.countP_map]
  exact List.countP_eq_zero.2 fun _ _ => Bool.false_ne_true

theorem Stage.pointed (h : Stage left s) (ys : List Float) : Stage left (s.pointed ys) := by
  have done := h.after (ys.map .point)
  rw [offs_map_point] at done
  exact done

/-! ### What the pointer moves -/

theorem follows_of_registered (shown : HasBand s.document.body) {n : ListenerId}
    (held : s.guide.listener = some n) (registered : s.document.hasListener n) (y : Float) :
    Follows s y := by
  obtain ⟨x, hx⟩ := Option.isSome_iff_exists.1 shown
  have moved : s.guide.pointerMoved s.document y = s.document.updateId nodeId (topAt y) := by
    rw [pointerMoved, held]
    exact if_pos registered
  have found : (s.document.body.updateId? nodeId (topAt y)).map (·.findId nodeId) =
      (s.document.body.findId nodeId).map fun x => some (x.mapMarkup (topAt y)) :=
    Element.findId_updateId? (f := topAt y) (fun _ h => h) _
  rw [hx, Option.map_some] at found
  obtain ⟨body, updated, there⟩ := Option.map_eq_some_iff.1 found
  refine ⟨x, hx, ?_⟩
  rw [moved, Document.findId, Document.updateId, updated]
  exact there

theorem Follows.top {y : Float} (h : Follows s y) :
    ((s.guide.pointerMoved s.document y).findId nodeId).bind (·.markup.style.get? "top") =
      some (Number.plain y ++ "px") := by
  obtain ⟨x, -, moved⟩ := h
  rw [moved, Option.bind_some, Element.markup_mapMarkup]
  exact Keyed.get?_insert_self ..

/-- A guide without a listener does not follow the pointer to each of two heights. -/
theorem not_follows_of_idle (idle : s.guide.listener = none) : ¬ ∀ y, Follows s y := by
  intro follows
  have low := (follows 0.0).top
  have high := (follows 1.0).top
  rw [pointerMoved_of_idle idle] at low high
  exact absurd (Option.some.inj (low.symm.trans high)) (by decide +kernel)

theorem pointed_of_idle (idle : s.guide.listener = none) (ys : List Float) : s.pointed ys = s := by
  induction ys with
  | nil => rfl
  | cons y ys ih =>
      have same : s.turn (.point y) = s := by rw [turn, onPage, pointerMoved_of_idle idle]
      show (s.turn (.point y)).pointed ys = s
      rw [same, ih]

theorem hasBand_pointed (ys : List Float) :
    HasBand (s.pointed ys).document.body ↔ HasBand s.document.body := by
  induction ys generalizing s with
  | nil => rfl
  | cons y ys ih =>
      have same : HasBand (s.turn (.point y)).document.body ↔ HasBand s.document.body := by
        rw [hasBand_iff, hasBand_iff]
        exact iff_of_eq (congrArg (0 < ·) (s.bands_point y))
      exact ih.trans same

theorem hasBand_switch_on (s : Guided) : HasBand (s.switch true).document.body := by
  by_cases shown : HasBand s.document.body
  · rw [switch_of_active shown]
    exact shown
  · have none : s.bands = 0 := not_hasBand_iff.1 shown
    have one : (s.switch true).bands = 1 := bands_switch_of_le_one (by omega) true
    exact hasBand_iff.2 (Nat.lt_of_lt_of_eq Nat.one_pos one.symm)

theorem Stage.follows_of_cleared (h : Stage left s) (cleared : ¬ HasBand left)
    (shown : HasBand s.document.body) (y : Float) : Follows s y := by
  cases h with
  | loaded own body idle => exact absurd own cleared
  | off _ none => exact absurd shown (not_hasBand_iff.2 none)
  | on _ one n held registered => exact follows_of_registered shown held registered y

/-- A page with a band of its own keeps the guide from having a listener. -/
theorem Stage.idle (h : Stage left s) (own : HasBand left) : s.guide.listener = none := by
  cases h with
  | loaded own body idle => exact idle
  | off cleared none => exact absurd own cleared
  | on cleared one n held registered => exact absurd own cleared

/-- However a fresh guide on a page is switched and the pointer moves: when the guide is then
switched on, there is a band, and it follows the pointer from then on just when none of the bands
that the page had at first is left. Each time that the guide was switched off took one of these
away. While one is left, the pointer does not move anything. -/
theorem follows_iff_cleared (d : Document) (turns : List Turn) :
    HasBand ((handled d turns).switch true).document.body ∧
      ((∀ ys y, Follows (((handled d turns).switch true).pointed ys) y) ↔
        ¬ HasBand (stripped d.body (offs turns))) ∧
      (HasBand (stripped d.body (offs turns)) →
        ∀ ys, ((handled d turns).switch true).pointed ys = (handled d turns).switch true) := by
  have shown := hasBand_switch_on (handled d turns)
  have stage : Stage (stripped d.body (offs turns)) ((handled d turns).switch true) :=
    ((Stage.start d).after turns).switch_on
  refine ⟨shown, ⟨fun follows own => ?_, fun cleared ys y => ?_⟩, fun own => ?_⟩
  · exact not_follows_of_idle (stage.idle own) (follows [])
  · exact (stage.pointed ys).follows_of_cleared cleared ((hasBand_pointed ys).2 shown) y
  · exact pointed_of_idle (stage.idle own)

/-- A page that was saved while the guide was on. -/
def savedPage : Document := { body := (Element.new "body").withChild band }

/-- The band of the saved page stays where it is. -/
theorem not_follows_of_savedPage :
    HasBand savedPage.body ∧ ¬ Follows ((handled savedPage []).switch true) 212.0 := by
  refine ⟨rfl, fun follows => ?_⟩
  have same : (handled savedPage []).switch true = handled savedPage [] := switch_of_active rfl
  have top := follows.top
  rw [same, pointerMoved_of_idle rfl] at top
  exact absurd top nofun

end PageAid.Guided
