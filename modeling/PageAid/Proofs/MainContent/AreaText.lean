import PageAid.Proofs.MainContent.Article
import PageAid.Proofs.Page.Pruning

/-!
The text of the main area of a page: the words of what stands in it, in document order and with
single spaces between them, without the navigation and the advertisements (`text_eq_joined_words`).
-/

namespace PageAid.MainContent

open Element Text

def unwanted : List Selector := unwantedSelectors.map fun s => Selector.parse s.toList

/-- The main area of a page: the first match of the first selector that matches anything below the
body, and the body itself where none does. -/
def IsArea (body main : Element) : Prop :=
  (∃ p, Leading areaSelectors body p main) ∨ Unmatched areaSelectors body ∧ main = body

theorem isArea_iff {body main : Element} : IsArea body main ↔ main = area body := by
  rw [IsArea, area, ← firstMatch_eq_some_iff, ← firstMatch_eq_none_iff]
  cases firstMatch areaSelectors body <;> simp [eq_comm]

theorem toList_text (body : Element) :
    (text body).toList = joined [' '] (((area body).prune unwanted).texts.flatMap words) := by
  rw [text, collapsed, collapse, textContent, String.toList_ofList, String.toList_ofList,
    words_joined]
  rfl

/-- The text of a page is made of the words of its main area and of the elements below this of
which neither they nor an ancestor within the area are left out. They come in document order with
single spaces between them, so that no blank stands at an end of the text or beside another one. -/
theorem text_eq_joined_words (body : Element) :
    (∀ main, IsArea body main ↔ main = area body) ∧
      (∃ shown : List (Path × Element), (shown.map (·.1)).Pairwise (· < ·) ∧
        (∀ p x, (p, x) ∈ shown ↔ (area body).at? p = some x ∧ (area body).Spared unwanted p) ∧
        (text body).toList = joined [' '] (shown.flatMap fun l => words l.2.text.toList)) ∧
      Tidy (text body).toList := by
  refine ⟨fun main => isArea_iff, ⟨(area body).spared unwanted, pairwise_spared _,
    fun p x => mem_spared_iff, ?_⟩, ?_⟩
  · rw [toList_text, words_texts_prune]
  · rw [text, collapsed, String.toList_ofList]
    exact tidy_collapse _

example :
    let e (tag text : String) (cs : List Element) := node { tag := tag, text := text } cs
    text (e "body" "Blog" [e "ARTICLE" " One\n" [e "nav" "Home" [e "p" "Up" []],
      e "div" "" [e "p" "two  three" [], e "Aside" "ad" []], e "p" "four" []]]) =
        "One two three four" := by
  decide +kernel

end PageAid.MainContent
