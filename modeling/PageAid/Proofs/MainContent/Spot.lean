import PageAid.Proofs.MainContent.Article

/-!
Where the article of a page stands. The article is the element at this place
(`article?_eq_bind_at?`). If more elements were candidates for it, it would stand at the same place
just when a selector finds it, or the candidate that would then be chosen is one without them
(`articlePathAmong?_eq_iff`).
-/

namespace PageAid.MainContent

open Element

/-- The first match of the first selector that matches anything below the body, with its path. -/
def matchSpot? (selectors : List String) (body : Element) : Option (Path × Element) :=
  selectors.findSome? fun s => body.located.find? (·.2.fits [Selector.parse s.toList])

/-- A candidate with enough text in it that no other candidate below the body exceeds. -/
def isLongest (candidate : Element → Bool) (body x : Element) : Bool :=
  candidate x && (minArticleChars < textSize x &&
    (body.descendants.filter candidate).all (textSize · ≤ textSize x))

def longestSpot? (candidate : Element → Bool) (body : Element) : Option (Path × Element) :=
  body.located.find? (isLongest candidate body ·.2)

def articleSpot? (body : Element) : Option (Path × Element) :=
  matchSpot? articleSelectors body <|> longestSpot? isCandidate body

def articlePath? (body : Element) : Option Path := (articleSpot? body).map (·.1)

/-- Where it would stand if other elements were the candidates. -/
def articlePathAmong? (candidate : Element → Bool) (body : Element) : Option Path :=
  (matchSpot? articleSelectors body <|> longestSpot? candidate body).map (·.1)

theorem firstMatch_eq_spot (selectors : List String) (body : Element) :
    firstMatch selectors body = (matchSpot? selectors body).map (·.2) := by
  rw [firstMatch, matchSpot?, List.map_findSome?]
  refine congrArg (selectors.findSome? ·) (funext fun s => ?_)
  rw [query, ← map_snd_located, List.find?_map]
  rfl

theorem longest_eq_spot (candidate : Element → Bool) (body : Element) :
    longest (body.descendants.filter candidate) =
      (longestSpot? candidate body).map (·.2) := by
  rw [longest_eq_find?, List.find?_filter, longestSpot?]
  conv => lhs; arg 2; rw [← map_snd_located]
  rw [List.find?_map]
  simp only [Function.comp_def, Bool.decide_and, Bool.decide_eq_true]
  rfl

theorem article?_eq_spot (body : Element) : article? body = (articleSpot? body).map (·.2) := by
  rw [article?, firstMatch_eq_spot, longest_eq_spot, articleSpot?]
  cases matchSpot? articleSelectors body <;> rfl

theorem matchSpot?_eq_none_iff {selectors : List String} {body : Element} :
    matchSpot? selectors body = none ↔ Unmatched selectors body := by
  rw [← firstMatch_eq_none_iff, firstMatch_eq_spot, Option.map_eq_none_iff]

theorem longestSpot?_mem {candidate : Element → Bool} {body : Element} :
    ∀ l ∈ longestSpot? candidate body, l ∈ body.located :=
  fun _ h => List.mem_of_find?_eq_some h

theorem article?_eq_bind_at? (body : Element) :
    article? body = (articlePath? body).bind (at? · body) := by
  have below : ∀ l ∈ articleSpot? body, l ∈ body.located := fun l h => by
    rw [Option.mem_def, articleSpot?, Option.orElse_eq_orElse, Option.orElse_eq_or,
      Option.or_eq_some_iff] at h
    rcases h with found | ⟨-, found⟩
    · obtain ⟨-, s, -, -, found, -⟩ := List.findSome?_eq_some_iff.1 found
      exact List.mem_of_find?_eq_some found
    · exact longestSpot?_mem l found
  rw [article?_eq_spot, articlePath?]
  cases found : articleSpot? body with
  | none => rfl
  | some l => exact (mem_located_iff.1 (below l found)).2.symm

/-! ### Choosing among more candidates -/

section

variable {candidate more : Element → Bool} {body : Element}

theorem isLongest_iff {x : Element} :
    isLongest candidate body x ↔ candidate x ∧ minArticleChars < textSize x ∧
      ∀ y ∈ body.descendants, candidate y → textSize y ≤ textSize x := by
  simp only [isLongest, Bool.and_eq_true, decide_eq_true_eq, List.all_eq_true, List.mem_filter,
    and_imp]

theorem longestSpot?_eq_none_iff :
    longestSpot? candidate body = none ↔
      ∀ y ∈ body.descendants, candidate y → textSize y ≤ minArticleChars := by
  rw [← Option.map_eq_none_iff (f := (·.2)), ← longest_eq_spot, longest_eq_none_iff]
  simp only [List.mem_filter, and_imp]

theorem longestSpot?_eq_some_iff {p : Path} {x : Element} :
    longestSpot? candidate body = some (p, x) ↔
      body.First (fun y => isLongest candidate body y) p x :=
  find?_located_eq_some_iff

/-- Where there are more candidates, the same one is chosen just when the one that is chosen among
them is one of the fewer. -/
theorem longestSpot?_eq_iff (within : ∀ y, candidate y → more y) :
    longestSpot? more body = longestSpot? candidate body ↔
      ∀ p x, body.First (fun y => isLongest more body y) p x → candidate x := by
  constructor
  · intro same p x first
    rw [← longestSpot?_eq_some_iff, same, longestSpot?_eq_some_iff] at first
    exact (isLongest_iff.1 first.holds).1
  · intro already
    cases chosen : longestSpot? more body with
    | none =>
        rw [longestSpot?_eq_none_iff] at chosen
        exact (longestSpot?_eq_none_iff.2 fun y hy hc => chosen y hy (within y hc)).symm
    | some l =>
        have first := longestSpot?_eq_some_iff.1 chosen
        have own := already l.1 l.2 first
        obtain ⟨-, enough, most⟩ := isLongest_iff.1 first.holds
        refine (longestSpot?_eq_some_iff.2 { first with holds := ?_, before := ?_ }).symm
        · exact isLongest_iff.2 ⟨own, enough, fun y hy hc => most y hy (within y hc)⟩
        · -- one before it that is the longest of the fewer is as long, so the longest of all
          intro q earlier root z hz longest
          obtain ⟨hc, long, exceeds⟩ := isLongest_iff.1 longest
          refine first.before q earlier root z hz (isLongest_iff.2 ⟨within z hc, long, ?_⟩)
          exact fun y hy hm => Nat.le_trans (most y hy hm) (exceeds l.2 first.mem_descendants own)

theorem map_fst_inj_of_mem_located {body : Element} {a b : Option (Path × Element)}
    (ha : ∀ l ∈ a, l ∈ body.located) (hb : ∀ l ∈ b, l ∈ body.located) :
    a.map (·.1) = b.map (·.1) ↔ a = b := by
  refine ⟨fun same => ?_, fun same => same ▸ rfl⟩
  cases a with
  | none => exact (Option.map_eq_none_iff.1 same.symm).symm
  | some l =>
      obtain ⟨k, rfl, path⟩ := Option.map_eq_some_iff.1 same.symm
      have hl := (mem_located_iff.1 (ha l rfl)).2
      have hk := (mem_located_iff.1 (hb k rfl)).2
      rw [path, hl] at hk
      exact congrArg some (Prod.ext path.symm (Option.some.inj hk))

/-- With more candidates the article stands at the same place just when a selector finds it, or the
one of them that is chosen is a candidate anyway. -/
theorem articlePathAmong?_eq_iff (within : ∀ y, isCandidate y → more y) :
    articlePathAmong? more body = articlePath? body ↔
      (Unmatched articleSelectors body →
        ∀ p x, body.First (fun y => isLongest more body y) p x → isCandidate x) := by
  rw [articlePathAmong?, articlePath?, articleSpot?, ← matchSpot?_eq_none_iff]
  cases matchSpot? articleSelectors body with
  | some l => exact iff_of_true rfl nofun
  | none =>
      simp only [Option.orElse_eq_orElse, Option.orElse_eq_or, Option.none_or, true_imp_iff]
      rw [map_fst_inj_of_mem_located longestSpot?_mem longestSpot?_mem,
        longestSpot?_eq_iff within]

end

end PageAid.MainContent
