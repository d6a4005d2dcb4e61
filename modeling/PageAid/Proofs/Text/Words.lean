import Mathlib.Data.List.Chain
import PageAid.Proofs.Text.Lines

/-!
The words of a text. They do not depend on the blanks around them, and a text put together from
words with single spaces between them has no other blanks (`tidy_collapse`).
-/

namespace PageAid.Text

/-! ### What a text is made of -/

theorem words_nil : words [] = [] := rfl

theorem words_append_cons (a : List Char) {c : Char} (hc : isBlank c) (b : List Char) :
    words (a ++ c :: b) = words a ++ words b := by
  rw [words, fields_append_cons a hc, List.filter_append]
  rfl

theorem words_append_of_isBlank {blanks : List Char} (h : ∀ c ∈ blanks, isBlank c)
    (s : List Char) : words (blanks ++ s) = words s := by
  induction blanks with
  | nil => rfl
  | cons c r ih =>
      obtain ⟨hc, hr⟩ := List.forall_mem_cons.1 h
      rw [List.cons_append, ← ih hr]
      exact words_append_cons [] hc (r ++ s)

theorem words_append_blanks {blanks : List Char} (h : ∀ c ∈ blanks, isBlank c)
    (s : List Char) : words (s ++ blanks) = words s := by
  cases blanks with
  | nil => rw [List.append_nil]
  | cons c r =>
      obtain ⟨hc, hr⟩ := List.forall_mem_cons.1 h
      have none := words_append_of_isBlank hr []
      rw [List.append_nil, words_nil] at none
      rw [words_append_cons s hc, none, List.append_nil]

theorem words_trim (s : List Char) : words (trim s) = words s := by
  have left : words s = words (trimLeft s) := by
    have parts := List.takeWhile_append_dropWhile (p := isBlank) (l := s)
    rw [← words_append_of_isBlank (fun c hc => List.mem_takeWhile_imp hc) (trimLeft s)]
    exact congrArg words parts.symm
  have right : ∀ s, words s = words (trimRight s) := fun s => by
    have parts := congrArg List.reverse
      (List.takeWhile_append_dropWhile (p := isBlank) (l := s.reverse))
    rw [List.reverse_append, List.reverse_reverse] at parts
    rw [← words_append_blanks (fun c hc => List.mem_takeWhile_imp (List.mem_reverse.1 hc))
      (trimRight s)]
    exact congrArg words parts.symm
  exact (left.trans (right _)).symm

theorem words_joined (pieces : List (List Char)) :
    words (joined [' '] pieces) = pieces.flatMap words := by
  by_cases none : pieces = []
  · subst none
    rfl
  · rw [words, fields_intercalate (by decide) none, List.filter_flatMap]
    rfl

/-! ### What a word is -/

theorem eq_false_of_mem_fields {p : Char → Bool} {s piece : List Char} (h : piece ∈ fields p s) :
    ∀ c ∈ piece, p c = false := by
  induction s generalizing piece with
  | nil => simp_all [fields]
  | cons x r ih =>
      obtain ⟨first, rest, parts⟩ := exists_fields_eq_cons p r
      rw [fields] at h
      split at h
      · rcases List.mem_cons.1 h with rfl | later
        · simp
        · exact ih later
      · rename_i apart
        rw [parts] at h ih
        rcases List.mem_cons.1 h with rfl | later
        · refine List.forall_mem_cons.2 ⟨by simpa using apart, ih List.mem_cons_self⟩
        · exact ih (List.mem_cons_of_mem _ later)

theorem ne_nil_of_mem_words {s word : List Char} (h : word ∈ words s) : word ≠ [] := by
  simpa using (List.mem_filter.1 h).2

theorem not_isBlank_of_mem_words {s word : List Char} (h : word ∈ words s) :
    ∀ c ∈ word, isBlank c = false :=
  eq_false_of_mem_fields (List.mem_filter.1 h).1

/-! ### Single spaces -/

/-- No blank begins the text or ends it, and no two blanks stand side by side. -/
structure Tidy (s : List Char) : Prop where
  head : ∀ c ∈ s.head?, isBlank c = false
  last : ∀ c ∈ s.getLast?, isBlank c = false
  alone : s.IsChain fun a b => isBlank a = false ∨ isBlank b = false

theorem tidy_of_forall {s : List Char} (h : ∀ c ∈ s, isBlank c = false) : Tidy s where
  head c hc := h c (List.mem_of_head? hc)
  last c hc := h c (List.mem_of_getLast? hc)
  alone := by
    induction s with
    | nil => exact .nil
    | cons x r ih =>
        obtain ⟨hx, hr⟩ := List.forall_mem_cons.1 h
        exact List.isChain_cons.2 ⟨fun _ _ => .inl hx, ih hr⟩

theorem joined_cons_ne_nil {w : List Char} (h : w ≠ []) (r : List (List Char)) :
    joined [' '] (w :: r) ≠ [] := by
  cases r with
  | nil => simpa [joined] using h
  | cons w' r => simp [joined_cons_cons]

theorem Tidy.append_cons {s s' : List Char} {c : Char} (h : Tidy s) (h' : Tidy s')
    (some : s ≠ []) (some' : s' ≠ []) : Tidy (s ++ c :: s') where
  head := by
    rw [List.head?_append_of_ne_nil _ some]
    exact h.head
  last := by
    obtain ⟨x, r, rfl⟩ := List.exists_cons_of_ne_nil some'
    rw [List.getLast?_append_of_ne_nil _ (List.cons_ne_nil c _), List.getLast?_cons_cons]
    exact h'.last
  alone := by
    refine List.isChain_append.2 ⟨h.alone, List.isChain_cons.2 ⟨?_, h'.alone⟩, ?_⟩
    · exact fun y hy => .inr (h'.head y hy)
    · exact fun x hx _ _ => .inl (h.last x hx)

/-- Words with single spaces between them make a tidy text. -/
theorem tidy_joined {ws : List (List Char)}
    (h : ∀ w ∈ ws, w ≠ [] ∧ ∀ c ∈ w, isBlank c = false) : Tidy (joined [' '] ws) := by
  induction ws with
  | nil => exact tidy_of_forall (by simp [joined])
  | cons w r ih =>
      obtain ⟨⟨ne_nil, apart⟩, others⟩ := List.forall_mem_cons.1 h
      cases r with
      | nil => simpa [joined] using tidy_of_forall apart
      | cons w' r =>
          rw [joined_cons_cons]
          exact (tidy_of_forall apart).append_cons (ih others) ne_nil
            (joined_cons_ne_nil (others w' List.mem_cons_self).1 r)

theorem tidy_collapse (s : List Char) : Tidy (collapse s) :=
  tidy_joined fun _ hw => ⟨ne_nil_of_mem_words hw, not_isBlank_of_mem_words hw⟩

end PageAid.Text
