import PageAid.Assistant.Translation
import PageAid.Proofs.Page.Located
import PageAid.Proofs.Page.Update

/-!
What is sent for a translation and what is read back. The texts that are sent are those of the
elements that are translated (`mem_runs_iff`), in document order (`pairwise_paths_runs`), and the
batches are all of the texts in their order; a reply is read as at most one text for each number.
-/

namespace PageAid.Assistant

open Element

/-! ### The texts of a page -/

theorem mem_translatable_iff {body : Element} {p : Path} :
    p ∈ translatable body ↔ ∃ e, body.at? p = some e ∧ isTranslatable e.markup := by
  rw [translatable, List.mem_append]
  constructor
  · rintro (h | h)
    · split at h
      · rename_i translated
        obtain rfl := List.mem_singleton.1 h
        exact ⟨body, rfl, translated⟩
      · exact absurd h List.not_mem_nil
    · obtain ⟨⟨q, e⟩, he, rfl⟩ := List.mem_map.1 h
      obtain ⟨below, translated⟩ := List.mem_filter.1 he
      exact ⟨e, (mem_located_iff.1 below).2, translated⟩
  · rintro ⟨e, he, translated⟩
    by_cases root : p = []
    · subst root
      obtain rfl : body = e := Option.some.inj he
      exact .inl (by simp [translated])
    · refine .inr (List.mem_map.2 ⟨(p, e), List.mem_filter.2 ⟨?_, translated⟩, rfl⟩)
      exact mem_located_iff.2 ⟨root, he⟩

/-- What is sent is the texts of the elements that are translated. -/
theorem mem_runs_iff {body : Element} {r : Run} :
    r ∈ runs body ↔
      ∃ e, body.at? r.path = some e ∧ isTranslatable e.markup ∧ r.text = e.text := by
  constructor
  · intro h
    obtain ⟨p, hp, hr⟩ := List.mem_filterMap.1 h
    obtain ⟨e, he, rfl⟩ := Option.map_eq_some_iff.1 hr
    obtain ⟨e', he', translated⟩ := mem_translatable_iff.1 hp
    obtain rfl : e = e' := Option.some.inj (he.symm.trans he')
    exact ⟨e, he, translated, rfl⟩
  · rintro ⟨e, he, translated, text⟩
    refine List.mem_filterMap.2 ⟨r.path, mem_translatable_iff.2 ⟨e, he, translated⟩, ?_⟩
    rw [he, Option.map_some, ← text]

theorem text_of_mem_runs {body : Element} {r : Run} (h : r ∈ runs body) :
    (body.markupAt? r.path).map (·.text) = some r.text := by
  obtain ⟨e, he, -, text⟩ := mem_runs_iff.1 h
  rw [markupAt?, he, text]
  rfl

theorem pairwise_translatable (body : Element) : (translatable body).Pairwise (· < ·) := by
  have below : ((body.located.filter (isTranslatable ·.2.markup)).map (·.1)).Pairwise (· < ·) :=
    (pairwise_located body).sublist (List.filter_sublist.map _)
  rw [translatable]
  split
  · refine List.pairwise_cons.2 ⟨?_, below⟩
    -- the body itself stands before the elements below it
    intro p h
    obtain ⟨⟨p, x⟩, hx, rfl⟩ := List.mem_map.1 h
    have := (mem_located_iff.1 (List.mem_filter.1 hx).1).1
    cases p with
    | nil => exact absurd rfl this
    | cons i p => exact List.nil_lt_cons i p
  · exact below

theorem paths_runs_sublist (body : Element) :
    ((runs body).map (·.path)).Sublist (translatable body) := by
  rw [runs]
  induction translatable body with
  | nil => exact List.Sublist.slnil
  | cons p r ih =>
      cases h : body.at? p with
      | none => simpa [h] using ih.cons p
      | some e => simpa [h] using ih.cons_cons p

theorem pairwise_paths_runs (body : Element) : ((runs body).map (·.path)).Pairwise (· < ·) :=
  (pairwise_translatable body).sublist (paths_runs_sublist body)

theorem nodup_paths_runs (body : Element) : ((runs body).map (·.path)).Nodup :=
  (pairwise_paths_runs body).imp fun {p q} lt (same : p = q) => List.lt_irrefl q (same ▸ lt)

/-! ### Batches -/

/-- The batches hold all texts in their order. -/
theorem flatten_batches (rs : List Run) : (batches rs).flatten = rs := by
  fun_induction batches rs with
  | case1 rs _ none => simpa using none.symm
  | case2 rs _ _ => simp
  | case3 rs _ ih => rw [List.flatten_cons, ih, List.take_append_drop]

theorem sublist_of_mem_batches {rs batch : List Run} (h : batch ∈ batches rs) :
    batch.Sublist rs := by
  obtain ⟨before, after, split⟩ := List.append_of_mem h
  have all := flatten_batches rs
  rw [split, List.flatten_append, List.flatten_cons] at all
  rw [← all]
  exact (List.sublist_append_left _ _).trans (List.sublist_append_right _ _)

/-! ### Blocks of a reply -/

theorem mem_insertBlock {n : Nat} {text : List Char} {e : Nat × List Char}
    {l : List (Nat × List Char)} (h : e ∈ insertBlock n text l) : e = (n, text) ∨ e ∈ l := by
  induction l with
  | nil => simpa [insertBlock] using h
  | cons b r ih =>
      rw [insertBlock] at h
      split at h
      · exact List.mem_cons.1 h
      · split at h
        · rcases List.mem_cons.1 h with h | h
          · exact .inl h
          · exact .inr (List.mem_cons_of_mem _ h)
        · rcases List.mem_cons.1 h with rfl | h
          · exact .inr List.mem_cons_self
          · exact (ih h).imp id (List.mem_cons_of_mem _)

theorem pairwise_insertBlock (n : Nat) (text : List Char) {l : List (Nat × List Char)}
    (h : l.Pairwise (·.1 < ·.1)) : (insertBlock n text l).Pairwise (·.1 < ·.1) := by
  induction l with
  | nil => simp [insertBlock]
  | cons b r ih =>
      obtain ⟨k, t⟩ := b
      obtain ⟨above, rest⟩ := List.pairwise_cons.1 h
      rw [insertBlock]
      split
      · rename_i lt
        refine List.pairwise_cons.2 ⟨?_, h⟩
        intro e he
        rcases List.mem_cons.1 he with rfl | he
        · exact lt
        · exact Nat.lt_trans lt (above e he)
      · split
        · rename_i eq
          subst eq
          exact List.pairwise_cons.2 ⟨above, rest⟩
        · rename_i ge ne
          refine List.pairwise_cons.2 ⟨?_, ih rest⟩
          intro e he
          rcases mem_insertBlock he with rfl | he
          · show k < n
            omega
          · exact above e he

theorem pairwise_foldl_insertBlock (blocks : List (Nat × List Char))
    {l : List (Nat × List Char)} (h : l.Pairwise (·.1 < ·.1)) :
    (blocks.foldl (fun m b => insertBlock b.1 b.2 m) l).Pairwise (·.1 < ·.1) := by
  induction blocks generalizing l with
  | nil => exact h
  | cons b r ih => exact ih (pairwise_insertBlock b.1 b.2 h)

theorem pairwise_readBlocks (reply : String) : (readBlocks reply).Pairwise (·.1 < ·.1) := by
  -- the order of the numbers does not change when texts are trimmed and empty ones left out
  have sorted := pairwise_foldl_insertBlock (blocksOf none (Text.lines reply.toList))
    List.Pairwise.nil
  rw [readBlocks]
  refine List.Pairwise.map _ (fun _ _ h => h) ?_
  refine List.Pairwise.filter _ ?_
  exact List.Pairwise.map _ (fun _ _ h => h) sorted

theorem mem_iff_lookup_of_pairwise {α : Type} {l : List (Nat × α)}
    (h : l.Pairwise (·.1 < ·.1)) {i : Nat} {x : α} : (i, x) ∈ l ↔ l.lookup i = some x := by
  rw [List.lookup_eq_some_iff]
  constructor
  · intro mem
    obtain ⟨before, after, parts⟩ := List.append_of_mem mem
    refine ⟨before, after, parts, fun b hb => ?_⟩
    rw [parts, List.pairwise_append] at h
    have below := h.2.2 b hb (i, x) List.mem_cons_self
    simpa using Nat.ne_of_gt below
  · rintro ⟨before, after, parts, -⟩
    simp [parts]

/-- The text of a number is the only block with the number. -/
theorem mem_readBlocks_iff {reply text : String} {i : Nat} :
    (i, text) ∈ readBlocks reply ↔ replyText? reply i = some text :=
  mem_iff_lookup_of_pairwise (pairwise_readBlocks reply)

end PageAid.Assistant
