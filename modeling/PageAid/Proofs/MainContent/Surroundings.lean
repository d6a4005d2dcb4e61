import PageAid.Proofs.MainContent.Spot
import PageAid.Proofs.Text.Lines

/-!
The marks of an article's surroundings. An element is spotted by its label, in which the first class
follows the identifier without a gap. So a marker stands in the label where the identifier or a
class bears it, or where it begins at the end of the identifier and ends at the start of the first
class (`contains_label_iff`); and a container may be passed over that neither its identifier nor a
class marks (`isCandidate_iff_isUnmarked`).
-/

namespace PageAid.MainContent

open Element Text

def Spells (part : List Char) (word : String) : Prop :=
  part.map Char.toLower = word.toList.map Char.toLower

/-- The word stands in the name, up to ASCII letter case. -/
def Bears (name word : String) : Prop := ∃ part, Spells part word ∧ part <:+: name.toList

def Marked (x : Element) (word : String) : Prop :=
  (∃ name ∈ x.id, Bears name word) ∨ ∃ name ∈ x.markup.classes, Bears name word

/-- The word begins at the end of the identifier and ends at the start of the first class. -/
def Straddled (x : Element) (word : String) : Prop :=
  ∃ before after, before ≠ [] ∧ after ≠ [] ∧ Spells (before ++ after) word ∧
    (∃ name ∈ x.id, before <:+ name.toList) ∧
      ∃ name ∈ x.markup.classes.head?, after <+: name.toList

def isMarked (x : Element) (word : String) : Bool :=
  (x.id.toList ++ x.markup.classes).any fun name => contains (asciiLower name) word

def isUnmarked (x : Element) : Bool :=
  (x.tag == "div" || x.tag == "section") && !chromeMarkers.any (isMarked x ·)

/-! ### Markers in a label -/

/-- A word that is not empty, in lower case and without spaces. -/
structure IsMarker (word : String) : Prop where
  ne_nil : word.toList ≠ []
  lower : word.toList.map Char.toLower = word.toList
  unspaced : ' ' ∉ word.toList

theorem isMarker_of_mem : ∀ marker ∈ chromeMarkers, IsMarker marker := by
  have all : ∀ marker ∈ chromeMarkers, marker.toList ≠ [] ∧
      marker.toList.map Char.toLower = marker.toList ∧ ' ' ∉ marker.toList := by
    decide +kernel
  intro marker h
  obtain ⟨ne_nil, lower, unspaced⟩ := all marker h
  exact ⟨ne_nil, lower, unspaced⟩

/-- Where two texts follow each other without a gap, a word stands in one of them or across
them. -/
theorem bears_append_iff (a b word : String) :
    Bears (a ++ b) word ↔ Bears a word ∨ Bears b word ∨
      ∃ before after, before ≠ [] ∧ after ≠ [] ∧ Spells (before ++ after) word ∧
        before <:+ a.toList ∧ after <+: b.toList := by
  constructor
  · rintro ⟨part, spells, within⟩
    rw [String.toList_append, List.infix_append_iff] at within
    rcases within with left | right | ⟨before, after, rfl, ends, opens⟩
    · exact .inl ⟨part, spells, left⟩
    · exact .inr (.inl ⟨part, spells, right⟩)
    · -- across them only if there is a part on either side
      by_cases some_before : before = []
      · subst some_before
        exact .inr (.inl ⟨after, spells, opens.isInfix⟩)
      by_cases some_after : after = []
      · subst some_after
        rw [List.append_nil] at spells
        exact .inl ⟨before, spells, ends.isInfix⟩
      exact .inr (.inr ⟨before, after, some_before, some_after, spells, ends, opens⟩)
  · simp only [Bears, String.toList_append, List.infix_append_iff]
    rintro (⟨part, spells, left⟩ | ⟨part, spells, right⟩ | ⟨before, after, -, -, spells, across⟩)
    · exact ⟨part, spells, .inl left⟩
    · exact ⟨part, spells, .inr (.inl right)⟩
    · exact ⟨_, spells, .inr (.inr ⟨before, after, rfl, across⟩)⟩

section

variable {word : String} (h : IsMarker word)

include h

theorem IsMarker.part {part : List Char} (spells : Spells part word) :
    part ≠ [] ∧ ' ' ∉ part := by
  rw [Spells, h.lower] at spells
  refine ⟨fun none => h.ne_nil ?_, fun space => h.unspaced ?_⟩
  · rw [← spells, none, List.map_nil]
  · exact spells ▸ List.mem_map.2 ⟨' ', space, rfl⟩

theorem contains_asciiLower_iff (name : String) :
    contains (asciiLower name) word ↔ Bears name word := by
  rw [contains, occursIn_iff, asciiLower, String.toList_ofList, List.infix_map_iff]
  refine exists_congr fun part => ?_
  rw [Spells, h.lower, and_comm, eq_comm]

theorem not_bears_empty : ¬ Bears "" word := fun ⟨_, spells, within⟩ =>
  (h.part spells).1 (List.infix_nil.1 within)

theorem bears_intercalate_iff (names : List String) :
    Bears (" ".intercalate names) word ↔ ∃ name ∈ names, Bears name word := by
  have each : ∀ part, Spells part word →
      (part <:+: (" ".intercalate names).toList ↔ ∃ name ∈ names, part <:+: name.toList) :=
    fun _ spells => by
      rw [String.toList_intercalate]
      refine (infix_joined_iff (h.part spells).2 (h.part spells).1 _).trans ?_
      simp
  constructor
  · rintro ⟨part, spells, within⟩
    obtain ⟨name, hname, within⟩ := (each part spells).1 within
    exact ⟨name, hname, part, spells, within⟩
  · rintro ⟨name, hname, part, spells, within⟩
    exact ⟨part, spells, (each part spells).2 ⟨name, hname, within⟩⟩

theorem bears_getD_iff (name : Option String) :
    Bears (name.getD "") word ↔ ∃ n ∈ name, Bears n word := by
  cases name with
  | none => simpa using not_bears_empty h
  | some n => simp

theorem straddled_iff (x : Element) :
    Straddled x word ↔
      ∃ before after, before ≠ [] ∧ after ≠ [] ∧ Spells (before ++ after) word ∧
        before <:+ (x.id.getD "").toList ∧ after <+: (" ".intercalate x.markup.classes).toList := by
  refine exists_congr fun before => exists_congr fun after => and_congr_right fun some_before =>
    and_congr_right fun some_after => and_congr_right fun spells => and_congr ?_ ?_
  · cases x.id with
    | none => simpa using some_before
    | some name => simp
  · have unspaced : ' ' ∉ after := fun space =>
      (h.part spells).2 (List.mem_append_right _ space)
    rw [String.toList_intercalate]
    refine Iff.trans ?_ (prefix_joined_iff unspaced some_after _).symm
    simp

/-- A marker stands in the label of an element where the element is marked by it, or where the
identifier and the first class make it up together. -/
theorem contains_label_iff (x : Element) :
    contains x.label word ↔ Marked x word ∨ Straddled x word := by
  have parts := bears_append_iff (x.id.getD "") (" ".intercalate x.markup.classes) word
  rw [bears_getD_iff h, bears_intercalate_iff h, ← straddled_iff h, ← or_assoc] at parts
  exact (contains_asciiLower_iff h _).trans parts

end

/-! ### Containers that are passed over -/

theorem isMarked_iff {word : String} (h : IsMarker word) (x : Element) :
    isMarked x word ↔ Marked x word := by
  simp only [isMarked, Marked, List.any_append, Bool.or_eq_true, List.any_eq_true,
    Option.mem_toList, Option.mem_def, contains_asciiLower_iff h]

theorem isUnmarked_iff {x : Element} :
    isUnmarked x ↔ (x.tag = "div" ∨ x.tag = "section") ∧
      ∀ marker ∈ chromeMarkers, ¬ Marked x marker := by
  rw [isUnmarked, Bool.and_eq_true, Bool.or_eq_true, beq_iff_eq, beq_iff_eq, Bool.not_eq_true',
    List.any_eq_false]
  refine and_congr_right fun _ => forall₂_congr fun marker hm => ?_
  rw [isMarked_iff (isMarker_of_mem marker hm)]

theorem isCandidate_iff_isUnmarked {x : Element} :
    isCandidate x ↔ isUnmarked x ∧ ∀ marker ∈ chromeMarkers, ¬ Straddled x marker := by
  rw [isCandidate_iff, isUnmarked_iff, and_assoc, ← forall₂_and]
  refine and_congr_right fun _ => forall₂_congr fun marker hm => ?_
  rw [← not_or, ← contains_label_iff (isMarker_of_mem marker hm), contains, occursIn_iff]

/-- A marker is spotted in the label of an element where the identifier or a class bears it, but
also where it begins at the end of the identifier and ends at the start of the first class, and a
container is passed over in both cases. The article stands where it would if only the containers
that are marked were passed over just when a selector finds it, or no marker is straddled in the
container that would then be chosen. -/
theorem surroundings_spotted_iff (body : Element) :
    (∀ x, ∀ marker ∈ chromeMarkers,
        contains x.label marker ↔ Marked x marker ∨ Straddled x marker) ∧
      (∀ x, isCandidate x ↔ isUnmarked x ∧ ∀ marker ∈ chromeMarkers, ¬ Straddled x marker) ∧
      article? body = (articlePath? body).bind (at? · body) ∧
      (articlePathAmong? isUnmarked body = articlePath? body ↔
        (Unmatched articleSelectors body →
          ∀ p x, body.First (fun y => isLongest isUnmarked body y) p x →
            ∀ marker ∈ chromeMarkers, ¬ Straddled x marker)) := by
  refine ⟨fun x marker hm => contains_label_iff (isMarker_of_mem marker hm) x,
    fun x => isCandidate_iff_isUnmarked, article?_eq_bind_at? body, ?_⟩
  rw [articlePathAmong?_eq_iff fun y hy => (isCandidate_iff_isUnmarked.1 hy).1]
  refine imp_congr_right fun _ => forall₂_congr fun p x => imp_congr_right fun first => ?_
  rw [isCandidate_iff_isUnmarked]
  exact and_iff_right (isLongest_iff.1 first.holds).1

/-- A long division whose identifier and class make up a marker together. -/
def straddledDivision : Element :=
  node { tag := "div", id := some "main", classes := ["available"] }
    (List.replicate 200 (node { tag := "p", text := "words" } []))

def straddledPage : Element := node { tag := "body" } [straddledDivision]

/-- The marker is spotted in the label of the division, which no marker marks, and so there is no
article. -/
theorem straddledPage_without_article :
    contains straddledDivision.label "nav" ∧ ¬ Marked straddledDivision "nav" ∧
      articlePath? straddledPage = none ∧
      articlePathAmong? isUnmarked straddledPage = some [0] := by
  refine ⟨by decide +kernel, fun marked => ?_, by decide +kernel, by decide +kernel⟩
  have unmarked : isUnmarked straddledDivision := by decide +kernel
  exact (isUnmarked_iff.1 unmarked).2 "nav" (by decide) marked

end PageAid.MainContent
