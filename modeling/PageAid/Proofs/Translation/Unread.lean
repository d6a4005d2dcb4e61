import PageAid.Proofs.Page.Erasure
import PageAid.Proofs.Page.First
import PageAid.Proofs.Translation.Batch

/-!
Which texts of a page are for reading. Neither a script nor anything within one is, while a text is
left out of a translation only for the tag of its own element. So the texts that are translated are
those for reading just when a script, a style sheet and the like hold no long text but their own
(`translatable_iff_readable_iff`).
-/

namespace PageAid.Assistant

open Element Text

/-- The tag is one of those whose text is not for reading, as it is written or in any letter
case. -/
def IsUnread (anyCase : Bool) (x : Element) : Prop :=
  (if anyCase then asciiLower x.tag else x.tag) ∈ untranslatedTags

def IsLong (x : Element) : Prop := 5 < (trim x.text.toList).length

/-- Neither the element at a path nor one above it has a tag whose text is not for reading. -/
def Readable (anyCase : Bool) (body : Element) (p : Path) : Prop :=
  ∀ q, q <+: p → ∀ x, body.at? q = some x → ¬ IsUnread anyCase x

theorem isTranslatable_iff {x : Element} :
    isTranslatable x.markup ↔ IsLong x ∧ x.tag ∉ untranslatedTags := by
  simp only [isTranslatable, Bool.and_eq_true, decide_eq_true_eq, Bool.not_eq_true',
    List.contains_eq_mem, decide_eq_false_iff_not]
  rfl

theorem isUnread_of_mem {x : Element} (h : x.tag ∈ untranslatedTags) (anyCase : Bool) :
    IsUnread anyCase x := by
  have lower : ∀ tag ∈ untranslatedTags, asciiLower tag ∈ untranslatedTags := by decide +kernel
  cases anyCase with
  | false => exact h
  | true => exact lower x.tag h

/-- The texts that are translated come in document order, each once. They are the long texts of the
elements that do not themselves have a tag whose text is not for reading. They are the long texts
for reading just when every long text in an element with such a tag belongs to an element with such
a tag. This holds for tags as they are written, and also for tags in any letter case. -/
theorem translatable_iff_readable_iff (body : Element) :
    (translatable body).Pairwise (· < ·) ∧
      (∀ p, p ∈ translatable body ↔
        ∃ x, body.at? p = some x ∧ IsLong x ∧ x.tag ∉ untranslatedTags) ∧
      ∀ anyCase,
        (∀ p, p ∈ translatable body ↔
          ∃ x, body.at? p = some x ∧ IsLong x ∧ Readable anyCase body p) ↔
        ∀ x ∈ body :: body.descendants, IsUnread anyCase x →
          ∀ y ∈ x :: x.descendants, IsLong y → y.tag ∈ untranslatedTags := by
  have listed : ∀ p, p ∈ translatable body ↔
      ∃ x, body.at? p = some x ∧ IsLong x ∧ x.tag ∉ untranslatedTags := fun p => by
    simp only [mem_translatable_iff, isTranslatable_iff]
  refine ⟨pairwise_translatable body, listed, fun anyCase => ⟨fun exact x hx unread y hy long => ?_,
    fun own p => ?_⟩⟩
  · obtain ⟨q, hq⟩ := mem_cons_descendants_iff.1 hx
    obtain ⟨r, hr⟩ := mem_cons_descendants_iff.1 hy
    have below : body.at? (q ++ r) = some y := by rw [at?_append, hq, Option.bind_some, hr]
    refine Decidable.byContradiction fun other => ?_
    obtain ⟨-, -, -, readable⟩ := (exact (q ++ r)).1 ((listed _).2 ⟨y, below, long, other⟩)
    exact readable q (List.prefix_append q r) x hq unread
  · rw [listed]
    refine exists_congr fun y => and_congr_right fun hy => and_congr_right fun long =>
      ⟨fun other q within x hq unread => ?_, fun readable mem => ?_⟩
    · obtain ⟨r, rfl⟩ := within
      rw [at?_append, hq, Option.bind_some] at hy
      exact other (own x (mem_cons_descendants_iff.2 ⟨q, hq⟩) unread y
        (mem_cons_descendants_iff.2 ⟨r, hy⟩) long)
    · exact readable p List.prefix_rfl y hy (isUnread_of_mem mem anyCase)

/-- A page with a notice for readers without scripts. -/
def noticePage : Element :=
  node { tag := "body" }
    [node { tag := "noscript" } [node { tag := "p", text := "Please turn on JavaScript." } []]]

/-- The notice is translated, but it is not for reading. -/
theorem translatable_unreadable_of_noticePage :
    translatable noticePage = [[0, 0]] ∧
      ∀ anyCase, ¬ ∀ p, p ∈ translatable noticePage ↔
        ∃ x, noticePage.at? p = some x ∧ IsLong x ∧ Readable anyCase noticePage p := by
  have listed : translatable noticePage = [[0, 0]] := by decide +kernel
  refine ⟨listed, fun anyCase exact => ?_⟩
  obtain ⟨-, -, -, readable⟩ := (exact [0, 0]).1 (listed ▸ List.mem_singleton_self _)
  exact readable [0] (by decide) _ rfl (isUnread_of_mem (by decide) anyCase)

end PageAid.Assistant
