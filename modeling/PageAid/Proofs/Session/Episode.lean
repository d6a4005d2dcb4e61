import PageAid.Proofs.Session.Change
import PageAid.Proofs.Session.Load

/-!
What a page goes through: it takes its settings over, once or at any time again, things happen to
it, and recognition on its platform changes for reasons of its own. What every kind of change and
the taking over of settings keep holds after any number of episodes (`Stable.episodes`).
-/

namespace PageAid

section

variable {α β : Type} {f : α → β → α} {l : List β} {a : α}

theorem foldl_take_succ {n : Nat} {b : β} (hb : l[n]? = some b) :
    (l.take (n + 1)).foldl f a = f ((l.take n).foldl f a) b := by
  rw [List.take_add_one, hb, List.foldl_append]
  rfl

/-- What each step of a fold keeps holds after every one. -/
theorem foldl_take_induction {P : α → Prop} (start : P a)
    (step : ∀ n b, l[n]? = some b → P ((l.take n).foldl f a) → P (f ((l.take n).foldl f a) b))
    (n : Nat) : P ((l.take n).foldl f a) := by
  induction n with
  | zero => exact start
  | succ n ih =>
      cases hb : l[n]? with
      | none =>
          rw [List.take_add_one, hb, Option.toList_none, List.append_nil]
          exact ih
      | some b =>
          rw [foldl_take_succ hb]
          exact step n b hb ih

end

namespace Session

variable {s : Session}

/-- What happens to a page, or on its platform: recognition comes to run there or to a halt, and
comes to refuse or to grant what it is asked. -/
inductive Occurrence where
  | page (x : Happening)
  | platform (running broken : Bool)

def occur (s : Session) : Occurrence → Session
  | .page x => s.happen x
  | .platform running broken =>
    { s with recognition := { s.recognition with running := running, broken := broken } }

inductive Episode where
  | load
  | occurs (x : Occurrence)

def undergo (s : Session) : Episode → Session
  | .load => s.restoreSettings
  | .occurs x => s.occur x

theorem Stable.undergo {P : Session → Prop} (h : Stable P)
    (load : ∀ {s}, P s → P s.restoreSettings) (hs : P s) (e : Episode) : P (s.undergo e) := by
  cases e with
  | load => exact load hs
  | occurs x =>
      cases x with
      | page x => exact h.happen x hs
      | platform running broken => exact h.hear s.voice _ hs

theorem Stable.episodes {P : Session → Prop} (h : Stable P)
    (load : ∀ {s}, P s → P s.restoreSettings) (hs : P s) (es : List Episode) :
    P (es.foldl Session.undergo s) := by
  induction es generalizing s with
  | nil => exact hs
  | cons e r ih => exact ih (h.undergo load hs e)

def afterEpisodes (s : Session) (es : List Episode) (n : Nat) : Session :=
  (es.take n).foldl undergo s

/-- What each episode keeps holds of the page after every one. -/
theorem afterEpisodes_induction {P : Session → Prop} {es : List Episode} (start : P s)
    (step : ∀ n e, es[n]? = some e →
      P (s.afterEpisodes es n) → P ((s.afterEpisodes es n).undergo e))
    (n : Nat) : P (s.afterEpisodes es n) :=
  foldl_take_induction start step n

theorem afterEpisodes_succ {es : List Episode} {n : Nat} {e : Episode} (he : es[n]? = some e) :
    s.afterEpisodes es (n + 1) = (s.afterEpisodes es n).undergo e :=
  foldl_take_succ he

end Session

end PageAid
