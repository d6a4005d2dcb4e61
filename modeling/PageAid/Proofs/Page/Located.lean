import PageAid.Proofs.Page.Tree

/-!
The list of the elements below with their paths. It holds exactly the elements that paths lead to
(`mem_located_iff`), and the paths ascend (`pairwise_located`).
-/

namespace PageAid.Element

theorem located_eq (e : Element) : e.located = locatedFrom 0 e.children := by
  cases e; rfl

theorem locatedFrom_cons (k : Nat) (e : Element) (r : List Element) :
    locatedFrom k (e :: r) =
      ([k], e) :: (e.located.map fun (p, x) => (k :: p, x)) ++ locatedFrom (k + 1) r := rfl

theorem mem_locatedFrom_iff {k : Nat} {cs : List Element} {p : Path} {x : Element} :
    (p, x) ∈ locatedFrom k cs ↔
      ∃ i c q, cs[i]? = some c ∧ p = (k + i) :: q ∧ (q = [] ∧ x = c ∨ (q, x) ∈ c.located) := by
  induction cs generalizing k with
  | nil => simp [locatedFrom]
  | cons e r ih =>
      rw [locatedFrom_cons, List.mem_append, ih]
      constructor
      · rintro (h | ⟨i, c, q, hc, rfl, h⟩)
        · refine ⟨0, e, p.tail, rfl, ?_⟩
          rcases List.mem_cons.1 h with h | h
          · obtain ⟨rfl, rfl⟩ := Prod.mk.inj h
            exact ⟨rfl, .inl ⟨rfl, rfl⟩⟩
          · obtain ⟨⟨q, y⟩, hq, h⟩ := List.mem_map.1 h
            obtain ⟨rfl, rfl⟩ := Prod.mk.inj h
            exact ⟨rfl, .inr hq⟩
        · exact ⟨i + 1, c, q, hc, by rw [Nat.add_right_comm, Nat.add_assoc], h⟩
      · rintro ⟨i, c, q, hc, rfl, h⟩
        cases i with
        | zero =>
            obtain rfl : e = c := by simpa using hc
            refine .inl (List.mem_cons.2 ?_)
            rcases h with ⟨rfl, rfl⟩ | h
            · exact .inl rfl
            · exact .inr (List.mem_map.2 ⟨(q, x), h, rfl⟩)
        | succ i =>
            exact .inr ⟨i, c, q, by simpa using hc, by rw [Nat.add_right_comm, Nat.add_assoc], h⟩

/-- The elements below are those that a path other than the empty one leads to. -/
theorem mem_located_iff {e x : Element} {p : Path} :
    (p, x) ∈ e.located ↔ p ≠ [] ∧ e.at? p = some x := by
  induction e using induction_on_children generalizing p with
  | node m cs ih =>
      rw [located_eq, mem_locatedFrom_iff]
      constructor
      · rintro ⟨i, c, q, hc, rfl, ⟨rfl, rfl⟩ | h⟩
        · exact ⟨by simp, by simpa [at?] using hc⟩
        · have := ((ih c (List.mem_of_getElem? hc)).1 h).2
          refine ⟨by simp, ?_⟩
          rw [children_node] at hc
          simp [at?, hc, this]
      · rintro ⟨hne, h⟩
        cases p with
        | nil => exact absurd rfl hne
        | cons i q =>
            obtain ⟨c, hc, hx⟩ := Option.bind_eq_some_iff.1 h
            refine ⟨i, c, q, hc, by rw [Nat.zero_add], ?_⟩
            cases q with
            | nil => exact .inl ⟨rfl, (Option.some.inj hx).symm⟩
            | cons j q =>
                exact .inr ((ih c (List.mem_of_getElem? hc)).2 ⟨by simp, hx⟩)

theorem pairwise_locatedFrom {cs : List Element} (k : Nat)
    (h : ∀ c ∈ cs, (c.located.map (·.1)).Pairwise (· < ·)) :
    ((locatedFrom k cs).map (·.1)).Pairwise (· < ·) := by
  induction cs generalizing k with
  | nil => simp [locatedFrom]
  | cons e r ih =>
      have first : ([k] :: e.located.map fun (p, _) => k :: p).Pairwise (· < ·) := by
        refine List.pairwise_cons.2 ⟨?_, ?_⟩
        · intro p hp
          obtain ⟨⟨q, y⟩, hq, rfl⟩ := List.mem_map.1 hp
          have below := (mem_located_iff.1 hq).1
          cases q with
          | nil => exact absurd rfl below
          | cons i q => simp
        · have := h e (List.mem_cons_self ..)
          rw [List.pairwise_map] at this ⊢
          exact this.imp fun lt => List.cons_lt_cons_iff.2 (.inr ⟨rfl, lt⟩)
      rw [locatedFrom_cons, List.map_append, List.pairwise_append]
      refine ⟨by simpa [List.map_map, Function.comp_def] using first,
        ih (k + 1) fun c hc => h c (List.mem_cons_of_mem _ hc), ?_⟩
      -- the paths of the first element begin with `k`, all others with a greater position
      intro p hp q hq
      obtain ⟨p, rfl⟩ : ∃ p', p = k :: p' := by
        obtain ⟨⟨p', y⟩, hy, rfl⟩ := List.mem_map.1 hp
        rcases List.mem_cons.1 hy with hy | hy
        · exact ⟨[], (Prod.mk.inj hy).1⟩
        · obtain ⟨⟨q, z⟩, -, hz⟩ := List.mem_map.1 hy
          exact ⟨q, (Prod.mk.inj hz).1.symm⟩
      obtain ⟨⟨q', x⟩, hx, rfl⟩ := List.mem_map.1 hq
      obtain ⟨i, c, q, -, rfl, -⟩ := mem_locatedFrom_iff.1 hx
      exact List.cons_lt_cons_iff.2 (.inl (by omega))

theorem pairwise_located (e : Element) : (e.located.map (·.1)).Pairwise (· < ·) := by
  induction e using induction_on_children with
  | node m cs ih => exact pairwise_locatedFrom 0 ih

theorem nodup_located (e : Element) : (e.located.map (·.1)).Nodup :=
  (pairwise_located e).imp fun {p q} lt (same : p = q) => List.lt_irrefl q (same ▸ lt)

end PageAid.Element
