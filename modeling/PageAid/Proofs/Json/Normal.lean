import PageAid.Json.Basic
import PageAid.Proofs.Keyed

/-!
The normal form of an object whose members are in order already: the same members, their values in
normal form.
-/

namespace PageAid.Json

/-- Members in the order of their names are found in the normal form as they stand. -/
theorem get?_normalMembers {l : List (String × Json)} (sorted : l.Pairwise (·.1 < ·.1))
    (name : String) : (normalMembers l).get? name = (l.lookup name).map normal := by
  induction l generalizing name with
  | nil => rfl
  | cons e r ih =>
      obtain ⟨k, v⟩ := e
      obtain ⟨above, rest⟩ := List.pairwise_cons.1 sorted
      have fresh : (normalMembers r).contains k = false := by
        have absent : r.lookup k = none := by
          refine List.lookup_eq_none_iff.2 fun e he => ?_
          exact bne_iff_ne.2 fun same => String.lt_irrefl _ (same ▸ above e he)
        rw [Keyed.contains, ih rest, absent]
        rfl
      rw [normalMembers, fresh, if_neg Bool.false_ne_true, Keyed.get?_insert, ih rest,
        List.lookup_cons]
      by_cases same : k = name
      · simp [same]
      · rw [if_neg same, beq_false_of_ne (Ne.symm same)]

theorem normalMembers_eq {l : List (String × Json)} (sorted : l.Pairwise (·.1 < ·.1)) :
    normalMembers l = Keyed.mapValues normal ⟨l, sorted⟩ := by
  refine Keyed.ext_get? fun name => ?_
  rw [get?_normalMembers sorted, Keyed.get?_mapValues]
  rfl

end PageAid.Json
