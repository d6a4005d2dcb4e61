import PageAid.Proofs.MainContent.AreaText
import PageAid.Proofs.MainContent.Spot
import PageAid.Proofs.Page.Lowered
import PageAid.Proofs.Translation.Unread

/-!
Pages whose tags are written in upper case, and the same pages in lower case. The text of the main
area does not depend on how tags are written. The article that a page falls back on and the texts
that are translated do, as tags are compared there as they stand (`lowered_agrees_iff`).
-/

namespace PageAid

open Element Text

namespace MainContent

/-! ### The main area -/

theorem firstMatch_lowered (selectors : List String) (body : Element) :
    firstMatch selectors body.lowered = (firstMatch selectors body).map lowered := by
  rw [firstMatch, firstMatch, List.map_findSome?]
  simp only [query_lowered]
  rfl

theorem area_lowered (body : Element) : area body.lowered = (area body).lowered := by
  rw [area, firstMatch_lowered, area]
  cases firstMatch areaSelectors body <;> rfl

/-- Letter case does not matter for the text of the main area. -/
theorem text_lowered (body : Element) : text body.lowered = text body := by
  rw [text, area_lowered, textContent, texts_prune_lowered]
  rfl

/-! ### The article in lower case -/

@[simp] theorem textSize_lowered (e : Element) : textSize e.lowered = textSize e := by
  rw [textSize, texts_lowered, textSize]

def isLoweredCandidate (e : Element) : Bool := isCandidate e.lowered

theorem isLoweredCandidate_of_isCandidate (x : Element) (h : isCandidate x) :
    isLoweredCandidate x := by
  rw [isCandidate_iff] at h
  rw [isLoweredCandidate, isCandidate_iff, tag_lowered, label_lowered]
  refine ⟨h.1.imp (fun tag => ?_) (fun tag => ?_), h.2⟩ <;> rw [tag] <;> decide +kernel

theorem isCandidate_iff_of_isLoweredCandidate {x : Element} (h : isLoweredCandidate x) :
    isCandidate x ↔ x.tag = "div" ∨ x.tag = "section" := by
  rw [isLoweredCandidate, isCandidate_iff, label_lowered] at h
  rw [isCandidate_iff]
  exact and_iff_left h.2

theorem matchSpot?_lowered (selectors : List String) (body : Element) :
    matchSpot? selectors body.lowered =
      (matchSpot? selectors body).map fun l => (l.1, l.2.lowered) := by
  rw [matchSpot?, matchSpot?, List.map_findSome?]
  refine congrArg (selectors.findSome? ·) (funext fun s => ?_)
  rw [find?_located_lowered body (·.fits [Selector.parse s.toList])]
  simp only [fits_lowered]
  rfl

theorem isLongest_lowered (candidate : Element → Bool) (body x : Element) :
    isLongest candidate body.lowered x.lowered = isLongest (candidate ·.lowered) body x := by
  rw [isLongest, isLongest, descendants_lowered, List.filter_map, List.all_map]
  simp only [Function.comp_def, textSize_lowered]

theorem longestSpot?_lowered (body : Element) :
    longestSpot? isCandidate body.lowered =
      (longestSpot? isLoweredCandidate body).map fun l => (l.1, l.2.lowered) := by
  rw [longestSpot?, find?_located_lowered body (isLongest isCandidate body.lowered ·)]
  simp only [isLongest_lowered]
  rfl

theorem isLongest_isLoweredCandidate_iff {body x : Element} :
    isLongest isLoweredCandidate body x ↔ Longest body.lowered x.lowered := by
  rw [longest_iff, ← isLongest_iff, isLongest_lowered]
  rfl

theorem articlePath?_lowered (body : Element) :
    articlePath? body.lowered = articlePathAmong? isLoweredCandidate body := by
  rw [articlePath?, articleSpot?, matchSpot?_lowered, longestSpot?_lowered, articlePathAmong?]
  cases matchSpot? articleSelectors body <;> cases longestSpot? isLoweredCandidate body <;> rfl

/-- The article stands at the same place in lower case just when a selector finds it, or it has its
tag in lower case already. -/
theorem articlePath?_lowered_eq_iff (body : Element) :
    articlePath? body.lowered = articlePath? body ↔
      (Unmatched articleSelectors body →
        ∀ p x, body.First (fun y => Longest body.lowered y.lowered) p x →
          x.tag = "div" ∨ x.tag = "section") := by
  rw [articlePath?_lowered, articlePathAmong?_eq_iff isLoweredCandidate_of_isCandidate]
  simp only [isLongest_isLoweredCandidate_iff]
  refine imp_congr_right fun _ => forall₂_congr fun p x => imp_congr_right fun first => ?_
  have longest := isLongest_isLoweredCandidate_iff.2 first.holds
  exact isCandidate_iff_of_isLoweredCandidate (isLongest_iff.1 longest).1

end MainContent

namespace Assistant

/-- The same texts are translated in lower case just when a long one of an element whose tag is to
be left out has this tag in lower case already. -/
theorem translatable_lowered_eq_iff (body : Element) :
    translatable body.lowered = translatable body ↔
      ∀ x ∈ body :: body.descendants, IsLong x → IsUnread true x → x.tag ∈ untranslatedTags := by
  have lowered_iff : ∀ x : Element,
      isTranslatable x.lowered.markup ↔ IsLong x ∧ ¬ IsUnread true x := fun x => by
    rw [isTranslatable_iff, tag_lowered, IsLong, text, lowered, markup_mapMarkups]
    rfl
  constructor
  · intro same x hx long unread
    obtain ⟨p, hp⟩ := mem_cons_descendants_iff.1 hx
    refine Decidable.byContradiction fun other => ?_
    have listed : p ∈ translatable body :=
      mem_translatable_iff.2 ⟨x, hp, isTranslatable_iff.2 ⟨long, other⟩⟩
    rw [← same, mem_translatable_iff, at?_lowered, hp, Option.map_some] at listed
    obtain ⟨_, ⟨⟩, translated⟩ := listed
    exact ((lowered_iff x).1 translated).2 unread
  · intro already
    have same : ∀ x ∈ body :: body.descendants,
        isTranslatable x.lowered.markup = isTranslatable x.markup := fun x hx => by
      rw [Bool.eq_iff_iff, lowered_iff, isTranslatable_iff]
      exact and_congr_right fun long =>
        not_congr ⟨already x hx long, fun mem => isUnread_of_mem mem true⟩
    rw [translatable, translatable, same body List.mem_cons_self, located_lowered, List.filter_map,
      List.map_map]
    refine congrArg _ (congrArg _ (List.filter_congr fun l hl => same l.2 ?_))
    exact List.mem_cons_of_mem _ (map_snd_located body ▸ List.mem_map_of_mem hl)

end Assistant

open MainContent Assistant

/-- Letter case does not matter for the text of the main area. Where the article stands depends on
it only on a page where no selector matches, and there the article is the same just when the first
of the longest containers in lower case is a division or section as its tag is written. The same
texts are translated just when no long one belongs to an element whose tag is left out in lower
case only. -/
theorem lowered_agrees_iff (body : Element) :
    MainContent.text body.lowered = MainContent.text body ∧
      (∀ e, article? e = (articlePath? e).bind (at? · e)) ∧
      (articlePath? body.lowered = articlePath? body ↔
        (Unmatched articleSelectors body →
          ∀ p x, body.First (fun y => Longest body.lowered y.lowered) p x →
            x.tag = "div" ∨ x.tag = "section")) ∧
      (translatable body.lowered = translatable body ↔
        ∀ x ∈ body :: body.descendants,
          IsLong x → IsUnread true x → x.tag ∈ untranslatedTags) :=
  ⟨text_lowered body, article?_eq_bind_at?, articlePath?_lowered_eq_iff body,
    translatable_lowered_eq_iff body⟩

/-- A page with a script and a long division, both with their tags in upper case. -/
def upperPage : Element :=
  node { tag := "body" }
    [node { tag := "SCRIPT", text := "var x = 1;" } [],
      node { tag := "DIV" } (List.replicate 200 (node { tag := "p", text := "words" } []))]

/-- In lower case the division is the article, and the script is not translated. -/
theorem lowered_disagrees_of_upperPage :
    articlePath? upperPage = none ∧ articlePath? upperPage.lowered = some [1] ∧
      [0] ∈ translatable upperPage ∧ [0] ∉ translatable upperPage.lowered := by
  refine ⟨by decide +kernel, by decide +kernel,
    mem_translatable_iff.2 ⟨_, rfl, by decide +kernel⟩, fun listed => ?_⟩
  obtain ⟨_, ⟨⟩, translated⟩ := mem_translatable_iff.1 listed
  exact absurd translated (by decide +kernel)

end PageAid
