import PageAid.Proofs.Translation.Write

/-!
The chunks in which the texts of a page are sent, twenty at a time, and the page that their replies
make of it, one after another: each text is the one that the reply to its chunk has under its
number (`textAt?_pageAfter`), and no other text changes (`textAt?_pageAfter_of_forall_ne`).
-/

namespace PageAid

open Assistant

namespace Assistant

/-! ### Chunks -/

def chunk (rs : List Run) (j : Nat) : List Run := (rs.drop (batchSize * j)).take batchSize

def chunkCount (rs : List Run) : Nat := (rs.length + (batchSize - 1)) / batchSize

theorem chunkCount_eq_zero_iff {rs : List Run} : chunkCount rs = 0 ↔ rs = [] := by
  rw [← List.length_eq_zero_iff, chunkCount, batchSize]
  omega

theorem batches_eq (rs : List Run) :
    batches rs = (List.range (chunkCount rs)).map (chunk rs) := by
  fun_induction batches rs with
  | case1 rs _ none =>
      obtain rfl : rs = [] := by simpa using none
      rfl
  | case2 rs few some =>
      have one : chunkCount rs = 1 := by
        have : 0 < rs.length := by simpa [List.length_pos_iff] using some
        simp only [chunkCount, batchSize] at few ⊢
        omega
      simp [one, chunk, List.take_of_length_le few]
  | case3 rs many ih =>
      have more : chunkCount rs = chunkCount (rs.drop batchSize) + 1 := by
        simp only [chunkCount, batchSize, List.length_drop] at many ⊢
        omega
      rw [ih, more, List.range_succ_eq_map, List.map_cons, List.map_map]
      refine List.cons_eq_cons.2 ⟨by simp [chunk], List.map_congr_left fun j _ => ?_⟩
      simp [chunk, List.drop_drop, Nat.mul_succ, Nat.add_comm]

theorem getElem?_chunk (rs : List Run) (j i : Nat) :
    (chunk rs j)[i]? = if i < batchSize then rs[batchSize * j + i]? else none := by
  rw [chunk, List.getElem?_take, List.getElem?_drop]

/-- Texts sent under different numbers, or in different chunks, stand at different paths. -/
theorem chunk_injective {rs : List Run} (distinct : (rs.map (·.path)).Nodup) {j j' i i' : Nat}
    {r r' : Run} (h : (chunk rs j)[i]? = some r) (h' : (chunk rs j')[i']? = some r')
    (same : r.path = r'.path) : j = j' ∧ i = i' := by
  rw [getElem?_chunk] at h h'
  split at h <;> split at h' <;> try simp at h h'
  rename_i small small'
  have paths : (rs.map (·.path))[batchSize * j + i]? = (rs.map (·.path))[batchSize * j' + i']? := by
    rw [List.getElem?_map, List.getElem?_map, h, h', Option.map_some, Option.map_some, same]
  obtain ⟨within, -⟩ := List.getElem?_eq_some_iff.1 h
  have index := (List.getElem?_inj (by simpa using within) distinct).1 paths
  rw [batchSize] at index small small'
  omega

theorem mem_of_getElem?_chunk {rs : List Run} {j i : Nat} {r : Run}
    (h : (chunk rs j)[i]? = some r) : r ∈ rs :=
  List.mem_of_mem_drop (List.mem_of_mem_take (List.mem_of_getElem? h))

end Assistant

theorem Element.isSome_at?_of_outline_eq {e e' : Element} (h : e'.outline = e.outline) (p : Path) :
    (e'.at? p).isSome = (e.at? p).isSome := by
  have same := congrArg (fun x : Element => (x.markupAt? p).isSome) h
  simpa [markupAt?_outline] using same

namespace Session

/-! ### The answers to the chunks -/

def chunkQuery (s : Session) (language : String) (j : Nat) : Query :=
  .generate (batchPrompt language ((chunk (runs s.document.body) j).map (·.text)))

/-- What the assistant answers to a chunk, if it was asked for those before it and nothing else. -/
def chunkAnswer (s : Session) (language : String) (j : Nat) : Except AssistantError String :=
  (s.platform.backend.answer (s.journal.queries.length + j) (s.chunkQuery language j)).result

/-- The page with the replies to the chunks up to a number. -/
def pageAfter (s : Session) (language : String) : Nat → Element
  | 0 => s.document.body
  | k + 1 =>
    match s.chunkAnswer language k with
    | .ok reply => withReply (chunk (runs s.document.body) k) reply (s.pageAfter language k)
    | .error _ => s.pageAfter language k

/-- How many blocks of the replies to the chunks up to a number stand under numbers that were
sent. -/
def blocksAfter (s : Session) (language : String) : Nat → Nat
  | 0 => 0
  | k + 1 => s.blocksAfter language k +
    match s.chunkAnswer language k with
    | .ok reply =>
      (readBlocks reply).countP (·.1 < (chunk (runs s.document.body) k).length)
    | .error _ => 0

variable {s : Session} {language : String}

theorem pageAfter_succ {k : Nat} {reply : String}
    (h : s.chunkAnswer language k = .ok reply) :
    s.pageAfter language (k + 1) =
      withReply (chunk (runs s.document.body) k) reply (s.pageAfter language k) := by
  rw [pageAfter, h]

theorem blocksAfter_succ {k : Nat} {reply : String}
    (h : s.chunkAnswer language k = .ok reply) :
    s.blocksAfter language (k + 1) = s.blocksAfter language k +
      (readBlocks reply).countP (·.1 < (chunk (runs s.document.body) k).length) := by
  rw [blocksAfter, h]

theorem outline_withReply (sent : List Run) (reply : String) (body : Element) :
    (withReply sent reply body).outline = body.outline := by
  rw [withReply]
  induction readBlocks reply generalizing body with
  | nil => rfl
  | cons b r ih =>
      rw [List.foldl_cons, ih, withBlock]
      split
      · exact Element.outline_updatedAt _ _ _
      · rfl

theorem outline_pageAfter (s : Session) (language : String) (k : Nat) :
    (s.pageAfter language k).outline = s.document.body.outline := by
  induction k with
  | zero => rfl
  | succ k ih =>
      rw [pageAfter]
      split
      · rw [outline_withReply, ih]
      · exact ih

theorem textAt?_pageAfter_of_forall_ne {p : Path} {k : Nat}
    (h : ∀ j < k, ∀ r ∈ chunk (runs s.document.body) j, r.path ≠ p) :
    (s.pageAfter language k).textAt? p = s.document.body.textAt? p := by
  induction k with
  | zero => rfl
  | succ k ih =>
      have before := ih fun j hj => h j (Nat.lt_succ_of_lt hj)
      rw [pageAfter]
      split
      · rw [textAt?_withReply_of_forall_not, before]
        rintro i text ⟨-, r, hr, same⟩
        exact h k (Nat.lt_succ_self k) r (List.mem_of_getElem? hr) same
      · exact before

/-- A text of a chunk that was answered is the one that the reply has under its number, if it has
one. -/
theorem textAt?_pageAfter {j k i : Nat} {r : Run} {reply : String} (answered : j < k)
    (hr : (chunk (runs s.document.body) j)[i]? = some r)
    (h : s.chunkAnswer language j = .ok reply) :
    (s.pageAfter language k).textAt? r.path = some ((replyText? reply i).getD r.text) := by
  have distinct := nodup_paths_runs s.document.body
  have old : s.document.body.textAt? r.path = some r.text :=
    text_of_mem_runs (mem_of_getElem?_chunk hr)
  -- no other chunk is sent from the path
  have elsewhere : ∀ j' ≠ j, ∀ r' ∈ chunk (runs s.document.body) j', r'.path ≠ r.path := by
    intro j' ne r' hr' same
    obtain ⟨i', hr'⟩ := List.mem_iff_getElem?.1 hr'
    exact ne (chunk_injective distinct hr' hr same).1
  induction k with
  | zero => exact absurd answered (Nat.not_lt_zero j)
  | succ k ih =>
      by_cases now : j = k
      · subst now
        have before : (s.pageAfter language j).textAt? r.path = s.document.body.textAt? r.path :=
          textAt?_pageAfter_of_forall_ne fun j' hj' => elsewhere j' (Nat.ne_of_lt hj')
        have alone : ((chunk (runs s.document.body) j).map (·.path)).Nodup :=
          distinct.sublist (((List.take_sublist _ _).trans (List.drop_sublist _ _)).map _)
        rw [pageAfter_succ h]
        cases text : replyText? reply i with
        | some t =>
            rw [textAt?_withReply_of_goes alone ⟨mem_readBlocks_iff.2 text, r, hr, rfl⟩,
              before, old]
            rfl
        | none =>
            rw [textAt?_withReply_of_forall_not, before, old]
            · rfl
            · rintro i' t ⟨mem, r', hr', same⟩
              obtain rfl := (chunk_injective distinct hr' hr same).2
              rw [mem_readBlocks_iff.1 mem] at text
              simp at text
      · have before := ih (by omega)
        rw [pageAfter]
        split
        · rw [textAt?_withReply_of_forall_not, before]
          rintro i' t ⟨-, r', hr', same⟩
          exact elsewhere k (Ne.symm now) r' (List.mem_of_getElem? hr') same
        · exact before

/-! ### Counting the texts that are written -/

theorem fst_foldl_writeBlock {sent : List Run} (blocks : List (Nat × String))
    (acc : Nat × Document) (there : ∀ r ∈ sent, (acc.2.body.at? r.path).isSome) :
    (blocks.foldl (writeBlock sent) acc).1 = acc.1 + blocks.countP (·.1 < sent.length) := by
  induction blocks generalizing acc with
  | nil => rfl
  | cons b r ih =>
      have kept : ∀ r ∈ sent, ((writeBlock sent acc b).2.body.at? r.path).isSome := by
        intro r hr
        rw [Element.isSome_at?_of_outline_eq (outline_writeBlock sent acc b)]
        exact there r hr
      rw [List.foldl_cons, ih _ kept, List.countP_cons]
      obtain ⟨n, d⟩ := acc
      simp only [writeBlock]
      cases hb : sent[b.1]? with
      | none =>
          have beyond := List.getElem?_eq_none_iff.1 hb
          have out : ¬ b.1 < sent.length := by omega
          simp [out]
      | some run =>
          obtain ⟨within, -⟩ := List.getElem?_eq_some_iff.1 hb
          dsimp only
          rw [if_pos (there run (List.mem_of_getElem? hb))]
          simp only [within, decide_true, if_true]
          omega

end Session

end PageAid
