import PageAid.MainContent
import PageAid.Proofs.Page.First

/-!
Which element is taken for the article of a page: the first match of the first selector that matches
anything, and where none does the first of the longest containers (`article?_leading_or_longest`).
-/

namespace PageAid.MainContent

open Element

/-! ### The first selector that matches -/

def Matches (selector : String) (x : Element) : Prop := x.fits [Selector.parse selector.toList]

def Unmatched (selectors : List String) (e : Element) : Prop :=
  ∀ s ∈ selectors, ∀ y ∈ e.descendants, ¬ Matches s y

/-- The first match, in document order, of the first selector that matches anything below. -/
def Leading (selectors : List String) (e : Element) (p : Path) (x : Element) : Prop :=
  ∃ before s after, selectors = before ++ s :: after ∧ Unmatched before e ∧
    e.First (Matches s) p x

theorem query_eq_none_iff {e : Element} {s : String} :
    e.query [Selector.parse s.toList] = none ↔ ∀ y ∈ e.descendants, ¬ Matches s y :=
  List.find?_eq_none

theorem firstMatch_eq_some_iff {selectors : List String} {e x : Element} :
    firstMatch selectors e = some x ↔ ∃ p, Leading selectors e p x := by
  rw [firstMatch, List.findSome?_eq_some_iff]
  constructor
  · rintro ⟨before, s, after, parts, found, others⟩
    obtain ⟨p, first⟩ := query_eq_some_iff.1 found
    exact ⟨p, before, s, after, parts, fun r hr => query_eq_none_iff.1 (others r hr), first⟩
  · rintro ⟨p, before, s, after, parts, others, first⟩
    exact ⟨before, s, after, parts, query_eq_some_iff.2 ⟨p, first⟩,
      fun r hr => query_eq_none_iff.2 (others r hr)⟩

theorem firstMatch_eq_none_iff {selectors : List String} {e : Element} :
    firstMatch selectors e = none ↔ Unmatched selectors e := by
  rw [firstMatch, List.findSome?_eq_none_iff]
  exact forall₂_congr fun s _ => query_eq_none_iff

/-! ### The longest container -/

/-- A division or section with enough text in it and without a mark of the surroundings of an
article. -/
structure Candidate (x : Element) : Prop where
  tag : x.tag = "div" ∨ x.tag = "section"
  unmarked : ∀ marker ∈ chromeMarkers, ¬ marker.toList <:+: x.label.toList
  long : minArticleChars < x.textContent.length

def Longest (e x : Element) : Prop :=
  Candidate x ∧ ∀ y ∈ e.descendants, Candidate y → y.textContent.length ≤ x.textContent.length

theorem length_textContent (x : Element) : x.textContent.length = textSize x := by
  rw [textContent, String.length_ofList, textSize]

theorem isCandidate_iff {x : Element} :
    isCandidate x ↔ (x.tag = "div" ∨ x.tag = "section") ∧
      ∀ marker ∈ chromeMarkers, ¬ marker.toList <:+: x.label.toList := by
  simp [isCandidate, Text.contains, ← Text.occursIn_iff]

theorem candidate_iff {x : Element} :
    Candidate x ↔ isCandidate x ∧ minArticleChars < textSize x := by
  rw [isCandidate_iff, ← length_textContent]
  exact ⟨fun h => ⟨⟨h.tag, h.unmarked⟩, h.long⟩, fun h => ⟨h.1.1, h.1.2, h.2⟩⟩

/-- The best of the elements seen so far, with its size: the first one of the greatest size, if
this is enough. -/
def Best (seen : List Element) : Option (Element × Nat) → Prop
  | none => ∀ y ∈ seen, textSize y ≤ minArticleChars
  | some (x, size) => size = textSize x ∧ minArticleChars < size ∧
    ∃ before after, seen = before ++ x :: after ∧ (∀ y ∈ before, textSize y < size) ∧
      ∀ y ∈ after, textSize y ≤ size

theorem Best.le {seen : List Element} {x : Element} {size : Nat} (h : Best seen (some (x, size)))
    {y : Element} (hy : y ∈ seen) : textSize y ≤ size := by
  obtain ⟨rfl, -, before, after, rfl, less, le⟩ := h
  rcases List.mem_append.1 hy with hy | hy
  · exact Nat.le_of_lt (less y hy)
  · rcases List.mem_cons.1 hy with rfl | hy
    · exact Nat.le_refl _
    · exact le y hy

theorem Best.step {seen : List Element} {best : Option (Element × Nat)} (h : Best seen best)
    (e : Element) :
    Best (seen ++ [e])
      (if minArticleChars < textSize e && best.all (·.2 < textSize e) then some (e, textSize e)
        else best) := by
  split
  · rename_i exceeds
    obtain ⟨enough, exceeds⟩ := Bool.and_eq_true_iff.1 exceeds
    have enough : minArticleChars < textSize e := by simpa using enough
    refine ⟨rfl, enough, seen, [], rfl, fun y hy => ?_, by simp⟩
    cases best with
    | none => exact Nat.lt_of_le_of_lt (h y hy) enough
    | some b =>
        have exceeds : b.2 < textSize e := by simpa using exceeds
        exact Nat.lt_of_le_of_lt (Best.le h hy) exceeds
  · rename_i not_exceeds
    cases best with
    | none =>
        intro y hy
        rcases List.mem_append.1 hy with hy | hy
        · exact h y hy
        · obtain rfl := List.mem_singleton.1 hy
          simpa using not_exceeds
    | some b =>
        obtain ⟨x, size⟩ := b
        obtain ⟨rfl, enough, before, after, rfl, less, le⟩ := h
        refine ⟨rfl, enough, before, after ++ [e], by simp, less, fun y hy => ?_⟩
        rcases List.mem_append.1 hy with hy | hy
        · exact le y hy
        · obtain rfl := List.mem_singleton.1 hy
          simp at not_exceeds
          omega

theorem best_foldl (candidates : List Element) :
    Best candidates (candidates.foldl (fun best e =>
      if minArticleChars < textSize e && best.all (·.2 < textSize e) then some (e, textSize e)
      else best) none) := by
  have all : ∀ (l seen : List Element) (best : Option (Element × Nat)), Best seen best →
      Best (seen ++ l) (l.foldl (fun best e =>
        if minArticleChars < textSize e && best.all (·.2 < textSize e) then some (e, textSize e)
        else best) best) := by
    intro l
    induction l with
    | nil => simp
    | cons e r ih =>
        intro seen best h
        rw [List.append_cons, List.foldl_cons]
        exact ih _ _ (h.step e)
  exact all candidates [] none (by simp [Best])

theorem exists_best (candidates : List Element) :
    ∃ best, Best candidates best ∧ longest candidates = best.map (·.1) :=
  ⟨_, best_foldl candidates, rfl⟩

/-- The one that is kept is the first of those that are long enough and that no other one
exceeds. -/
theorem longest_eq_find? (candidates : List Element) :
    longest candidates = candidates.find? fun x =>
      minArticleChars < textSize x && candidates.all (textSize · ≤ textSize x) := by
  obtain ⟨best, kept, longest_eq⟩ := exists_best candidates
  rw [longest_eq]
  cases best with
  | none =>
      refine (List.find?_eq_none.2 fun x hx => ?_).symm
      simp [Nat.not_lt.2 (kept x hx)]
  | some b =>
      obtain ⟨x, size⟩ := b
      have le := fun y hy => kept.le (y := y) hy
      obtain ⟨rfl, enough, before, after, parts, less, -⟩ := kept
      refine (List.find?_eq_some_iff_append.2 ⟨?_, before, after, parts, fun y hy => ?_⟩).symm
      · simpa [enough] using le
      · -- what stands before it is exceeded by it
        have : textSize y < textSize x := less y hy
        simp only [Bool.not_eq_true', Bool.and_eq_false_iff, List.all_eq_false]
        exact .inr ⟨x, by simp [parts], by simpa using this⟩

theorem longest_eq_none_iff {candidates : List Element} :
    longest candidates = none ↔ ∀ y ∈ candidates, textSize y ≤ minArticleChars := by
  obtain ⟨best, kept, longest_eq⟩ := exists_best candidates
  rw [longest_eq]
  cases best with
  | none => exact ⟨fun _ => kept, fun _ => rfl⟩
  | some b =>
      obtain ⟨x, size⟩ := b
      obtain ⟨rfl, enough, before, after, parts, -⟩ := kept
      refine ⟨fun none => by simp at none, fun short => ?_⟩
      exact absurd enough (Nat.not_lt.2 (short x (by simp [parts])))

theorem longest_iff {e x : Element} :
    Longest e x ↔ isCandidate x ∧ minArticleChars < textSize x ∧
      ∀ y ∈ e.descendants, isCandidate y → textSize y ≤ textSize x := by
  simp only [Longest, candidate_iff, length_textContent]
  constructor
  · rintro ⟨⟨holds, enough⟩, most⟩
    refine ⟨holds, enough, fun y hy candidate => ?_⟩
    rcases Nat.lt_or_ge minArticleChars (textSize y) with long | short
    · exact most y hy ⟨candidate, long⟩
    · exact Nat.le_trans short (Nat.le_of_lt enough)
  · rintro ⟨holds, enough, most⟩
    exact ⟨⟨holds, enough⟩, fun y hy candidate => most y hy candidate.1⟩

theorem longest_eq_some_iff {e x : Element} :
    longest (e.descendants.filter isCandidate) = some x ↔ ∃ p, e.First (Longest e) p x := by
  rw [longest_eq_find?, List.find?_filter, find?_descendants_eq_some_iff]
  refine exists_congr fun p => First.congr fun y => ?_
  simp only [longest_iff, decide_eq_true_eq, Bool.and_eq_true, List.all_eq_true, List.mem_filter,
    and_imp]

theorem longest_eq_none_iff_forall {e : Element} :
    longest (e.descendants.filter isCandidate) = none ↔
      ∀ y ∈ e.descendants, ¬ Candidate y := by
  simp only [longest_eq_none_iff, List.mem_filter, candidate_iff, not_and, Nat.not_lt, and_imp]

theorem mem_of_article? {body x : Element} (h : article? body = some x) :
    x ∈ body.descendants := by
  rw [article?, Option.orElse_eq_orElse, Option.orElse_eq_or, Option.or_eq_some_iff] at h
  rcases h with found | ⟨-, found⟩
  · obtain ⟨p, _, _, _, -, -, first⟩ := firstMatch_eq_some_iff.1 found
    exact first.mem_descendants
  · obtain ⟨p, first⟩ := longest_eq_some_iff.1 found
    exact first.mem_descendants

/-- The article of a page is the first match of the first selector that matches anything below the
body. Where none does, it is the first of the candidates with the most text; and there is no article
only if there is no candidate either. -/
theorem article?_leading_or_longest (body : Element) :
    (∀ x, article? body = some x ↔ ∃ p, Leading articleSelectors body p x ∨
      Unmatched articleSelectors body ∧ body.First (Longest body) p x) ∧
    (article? body = none ↔
      Unmatched articleSelectors body ∧ ∀ y ∈ body.descendants, ¬ Candidate y) := by
  rw [article?]
  cases found : firstMatch articleSelectors body with
  | some x =>
      obtain ⟨p, leading⟩ := firstMatch_eq_some_iff.1 found
      have matched : ¬ Unmatched articleSelectors body := fun none => by
        rw [firstMatch_eq_none_iff.2 none] at found
        simp at found
      simp only [matched, false_and, or_false, ← firstMatch_eq_some_iff, found]
      simp
  | none =>
      have unmatched := firstMatch_eq_none_iff.1 found
      have no_match : ∀ x p, ¬ Leading articleSelectors body p x := fun x p leading => by
        rw [firstMatch_eq_some_iff.2 ⟨p, leading⟩] at found
        simp at found
      simp only [no_match, unmatched, true_and, false_or, Option.orElse_eq_orElse,
        Option.orElse_eq_or, Option.none_or]
      exact ⟨fun x => longest_eq_some_iff, longest_eq_none_iff_forall⟩

end PageAid.MainContent
