import Mathlib.Data.List.TakeWhile
import PageAid.Text.Blank

/-!
Cutting a text at a separator and joining the pieces again. A text is its pieces with the separators
between them (`joined_fields`), and the lines of a text without carriage returns are its pieces, but
for an empty one at the end (`fields_eq_lines_or`).
-/

namespace PageAid.Text

variable {p : Char → Bool}

/-! ### Pieces -/

theorem exists_fields_eq_cons (p : Char → Bool) (s : List Char) :
    ∃ first rest, fields p s = first :: rest :=
  List.exists_cons_of_ne_nil (fields_ne_nil p s)

theorem fields_of_forall {s : List Char} (h : ∀ c ∈ s, p c = false) : fields p s = [s] := by
  induction s with
  | nil => rfl
  | cons c r ih =>
      obtain ⟨hc, hr⟩ := List.forall_mem_cons.1 h
      rw [fields, hc, ih hr]
      rfl

theorem fields_append_cons (a : List Char) {c : Char} (hc : p c = true) (b : List Char) :
    fields p (a ++ c :: b) = fields p a ++ fields p b := by
  induction a with
  | nil => simp [fields, hc]
  | cons x r ih =>
      rw [List.cons_append, fields, fields, ih]
      split
      · rfl
      · obtain ⟨first, rest, parts⟩ := exists_fields_eq_cons p r
        rw [parts]
        rfl

theorem fields_append_of_forall {a : List Char} (h : ∀ c ∈ a, p c = false) (s : List Char) :
    fields p (a ++ s) = (fields p s).modifyHead (a ++ ·) := by
  induction a with
  | nil =>
      obtain ⟨first, rest, parts⟩ := exists_fields_eq_cons p s
      simp [parts]
  | cons c r ih =>
      obtain ⟨hc, hr⟩ := List.forall_mem_cons.1 h
      obtain ⟨first, rest, parts⟩ := exists_fields_eq_cons p s
      rw [List.cons_append, fields, hc, ih hr, parts]
      rfl

theorem joined_cons_cons (c : Char) (piece piece' : List Char) (r : List (List Char)) :
    joined [c] (piece :: piece' :: r) = piece ++ c :: joined [c] (piece' :: r) := by
  rw [joined, List.intercalate_cons_cons, List.append_assoc]
  rfl

theorem fields_intercalate {c : Char} (hc : p c = true) {pieces : List (List Char)}
    (h : pieces ≠ []) :
    fields p (joined [c] pieces) = pieces.flatMap (fields p) := by
  induction pieces with
  | nil => exact absurd rfl h
  | cons s r ih =>
      cases r with
      | nil => simp [joined]
      | cons s' r =>
          rw [List.flatMap_cons, ← ih (by simp), joined_cons_cons, fields_append_cons _ hc]

theorem joined_modifyHead (sep : List Char) (c : Char) {pieces : List (List Char)}
    (h : pieces ≠ []) :
    joined sep (pieces.modifyHead (c :: ·)) = c :: joined sep pieces := by
  cases pieces with
  | nil => exact absurd rfl h
  | cons s r =>
      cases r with
      | nil => simp [joined]
      | cons s' r => simp [joined, List.intercalate_cons_cons]

theorem joined_fields (c : Char) (s : List Char) : joined [c] (fields (· == c) s) = s := by
  induction s with
  | nil => rfl
  | cons x r ih =>
      rw [fields]
      split
      · rename_i same
        obtain ⟨first, rest, parts⟩ := exists_fields_eq_cons (· == c) r
        obtain rfl : x = c := by simpa using same
        rw [parts] at ih ⊢
        rw [joined_cons_cons, ih]
        rfl
      · rw [joined_modifyHead _ _ (fields_ne_nil _ r), ih]

theorem joined_append_nil (c : Char) {pieces : List (List Char)} (h : pieces ≠ []) :
    joined [c] (pieces ++ [[]]) = joined [c] pieces ++ [c] := by
  induction pieces with
  | nil => exact absurd rfl h
  | cons s r ih =>
      cases r with
      | nil => simp [joined, List.intercalate_cons_cons]
      | cons s' r =>
          have rest := ih (by simp)
          rw [List.cons_append] at rest
          rw [List.cons_append, List.cons_append, joined_cons_cons, joined_cons_cons, rest,
            List.append_assoc]
          rfl

theorem mem_of_mem_fields {s piece : List Char} (h : piece ∈ fields p s) {c : Char}
    (hc : c ∈ piece) : c ∈ s := by
  induction s generalizing piece with
  | nil => simp_all [fields]
  | cons x r ih =>
      obtain ⟨first, rest, parts⟩ := exists_fields_eq_cons p r
      rw [fields] at h
      split at h
      · rcases List.mem_cons.1 h with rfl | later
        · simp at hc
        · exact List.mem_cons_of_mem _ (ih later hc)
      · rw [parts] at h ih
        rcases List.mem_cons.1 h with rfl | later
        · rcases List.mem_cons.1 hc with rfl | hc
          · exact List.mem_cons_self
          · exact List.mem_cons_of_mem _ (ih List.mem_cons_self hc)
        · exact List.mem_cons_of_mem _ (ih (List.mem_cons_of_mem _ later) hc)

/-! ### Texts without the separator -/

/-- What holds no separator and opens a text stands before the first one. -/
theorem prefix_append_cons_iff {t : List Char} {c : Char} (h : c ∉ t) (a b : List Char) :
    t <+: a ++ c :: b ↔ t <+: a := by
  refine ⟨fun opens => ?_, fun opens => opens.trans (List.prefix_append _ _)⟩
  obtain ⟨rest, parts⟩ := opens
  obtain ⟨more, rfl, -⟩ | ⟨more, rfl, behind⟩ := List.append_eq_append_iff.1 parts
  · exact List.prefix_append _ _
  · cases more with
    | nil => simp
    | cons x r =>
        obtain ⟨rfl, -⟩ := List.cons.inj behind
        simp at h

theorem infix_append_cons_iff {t : List Char} {c : Char} (h : c ∉ t) (a b : List Char) :
    t <:+: a ++ c :: b ↔ t <:+: a ∨ t <:+: b := by
  induction a with
  | nil =>
      have opens := prefix_append_cons_iff h [] b
      rw [List.nil_append] at opens ⊢
      rw [List.infix_cons_iff, opens, List.infix_nil, List.prefix_nil]
  | cons x r ih =>
      have opens := prefix_append_cons_iff h (x :: r) b
      rw [List.cons_append] at opens ⊢
      rw [List.infix_cons_iff, List.infix_cons_iff, opens, ih, or_assoc]

theorem prefix_joined_iff {t : List Char} {c : Char} (h : c ∉ t) (ht : t ≠ [])
    (pieces : List (List Char)) :
    t <+: joined [c] pieces ↔ ∃ piece ∈ pieces.head?, t <+: piece := by
  cases pieces with
  | nil => simpa [joined] using ht
  | cons piece r =>
      cases r with
      | nil => simp [joined]
      | cons piece' r => simp [joined_cons_cons, prefix_append_cons_iff h]

/-- What holds no separator stands in what is joined with separators just when it stands in one of
the pieces. -/
theorem infix_joined_iff {t : List Char} {c : Char} (h : c ∉ t) (ht : t ≠ [])
    (pieces : List (List Char)) :
    t <:+: joined [c] pieces ↔ ∃ piece ∈ pieces, t <:+: piece := by
  induction pieces with
  | nil => simpa [joined] using ht
  | cons piece r ih =>
      cases r with
      | nil => simp [joined]
      | cons piece' r =>
          rw [joined_cons_cons, infix_append_cons_iff h, ih]
          simp

/-! ### Lines -/

/-- Where no piece ends in a carriage return, the lines are the pieces between the newlines, but
for an empty one at the end. -/
theorem fields_eq_lines_or {s : List Char}
    (h : ∀ piece ∈ fields (· == '\n') s, piece.getLast? ≠ some '\r') :
    fields (· == '\n') s = lines s ∨ fields (· == '\n') s = lines s ++ [[]] := by
  have kept : (fields (· == '\n') s).dropLast.map dropReturn =
      (fields (· == '\n') s).dropLast := by
    refine (List.map_congr_left fun piece hp => ?_).trans (List.map_id _)
    rw [dropReturn, if_neg (h piece (List.dropLast_subset _ hp))]
    rfl
  obtain ⟨before, last, parts⟩ :=
    (List.eq_nil_or_concat (fields (· == '\n') s)).resolve_left (fields_ne_nil _ s)
  rw [lines, kept, parts]
  cases last with
  | nil => simp
  | cons c r => simp

/-! ### Blanks at the end -/

theorem trimRight_append_of_isBlank (s : List Char) {c : Char} (h : isBlank c = true) :
    trimRight (s ++ [c]) = trimRight s := by
  simp [trimRight, h]

theorem trimRight_joined_append_nil (pieces : List (List Char)) :
    trimRight (joined ['\n'] (pieces ++ [[]])) = trimRight (joined ['\n'] pieces) := by
  by_cases h : pieces = []
  · simp [h, joined]
  · rw [joined_append_nil _ h, trimRight_append_of_isBlank _ (by decide)]

theorem isEmpty_trimRight (s : List Char) : (trimRight s).isEmpty = s.all isBlank := by
  rw [Bool.eq_iff_iff, List.isEmpty_iff, trimRight, List.reverse_eq_nil_iff,
    List.dropWhile_eq_nil_iff]
  simp

end PageAid.Text
