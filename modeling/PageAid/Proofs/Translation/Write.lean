import PageAid.Proofs.Session.Aside
import PageAid.Proofs.Translation.Batch

/-!
Writing a reply to the page. The texts of a reply go to the paths of the texts that were sent under
their numbers, and no other text changes.
-/

namespace PageAid

open Assistant

def Element.textAt? (e : Element) (p : Path) : Option String := (e.markupAt? p).map (·.text)

theorem Element.textAt?_updatedAt (e : Element) (p q : Path) (text : String) :
    (e.updatedAt p ({ · with text := text })).textAt? q =
      if q = p then (e.textAt? q).map (fun _ => text) else e.textAt? q := by
  rw [textAt?, markupAt?_updatedAt]
  split
  · rw [textAt?, Option.map_map, Option.map_map]
    rfl
  · rfl

namespace Assistant

/-- A text of a reply goes to a path: it stands under the number under which the text at this path
was sent. -/
def Goes (sent : List Run) (reply : String) (k : Nat) (text : String) (p : Path) : Prop :=
  (k, text) ∈ readBlocks reply ∧ ∃ r, sent[k]? = some r ∧ r.path = p

def withBlock (sent : List Run) (body : Element) (block : Nat × String) : Element :=
  match sent[block.1]? with
  | some r => body.updatedAt r.path ({ · with text := block.2 })
  | none => body

def withReply (sent : List Run) (reply : String) (body : Element) : Element :=
  (readBlocks reply).foldl (withBlock sent) body

theorem textAt?_withBlock (sent : List Run) (body : Element) (block : Nat × String) (p : Path) :
    (withBlock sent body block).textAt? p =
      if sent[block.1]?.any (·.path = p) then (body.textAt? p).map fun _ => block.2
      else body.textAt? p := by
  rw [withBlock]
  split
  · rename_i r hr
    rw [hr, Element.textAt?_updatedAt]
    simp [eq_comm]
  · rename_i none
    simp [none]

theorem textAt?_foldl_of_forall_ne {sent : List Run} {p : Path} {blocks : List (Nat × String)}
    (h : ∀ b ∈ blocks, ∀ r, sent[b.1]? = some r → r.path ≠ p) (body : Element) :
    (blocks.foldl (withBlock sent) body).textAt? p = body.textAt? p := by
  induction blocks generalizing body with
  | nil => rfl
  | cons b r ih =>
      obtain ⟨first, rest⟩ := List.forall_mem_cons.1 h
      have missed : sent[b.1]?.any (·.path = p) = false := by
        cases hr : sent[b.1]? with
        | none => rfl
        | some run => simpa using first run hr
      rw [List.foldl_cons, ih rest, textAt?_withBlock, missed]
      rfl

/-- Of blocks with different numbers and sent from different paths, each one is written to its own
path. -/
theorem textAt?_foldl_of_mem {sent : List Run} (distinct : (sent.map (·.path)).Nodup)
    {blocks : List (Nat × String)} (numbers : blocks.Pairwise (·.1 < ·.1)) {k : Nat}
    {text : String} (h : (k, text) ∈ blocks) {r : Run} (hr : sent[k]? = some r)
    (body : Element) :
    (blocks.foldl (withBlock sent) body).textAt? r.path =
      (body.textAt? r.path).map fun _ => text := by
  obtain ⟨before, after, rfl⟩ := List.append_of_mem h
  -- the blocks before and after it have other numbers, and so other paths
  have alone : ∀ (j : Nat) (other : Run), j ≠ k → sent[j]? = some other →
      other.path ≠ r.path := by
    intro j other ne hother same
    obtain ⟨hj, rfl⟩ := List.getElem?_eq_some_iff.1 hother
    have paths : (sent.map (·.path))[j]? = (sent.map (·.path))[k]? := by
      rw [List.getElem?_map, List.getElem?_map, hother, hr, Option.map_some, Option.map_some, same]
    exact ne ((List.getElem?_inj (by simpa using hj) distinct).1 paths)
  obtain ⟨-, rest, below⟩ := List.pairwise_append.1 numbers
  have above := (List.pairwise_cons.1 rest).1
  have hit : sent[k]?.any (·.path = r.path) = true := by
    rw [hr]
    simp
  rw [List.foldl_append, List.foldl_cons, textAt?_foldl_of_forall_ne, textAt?_withBlock, hit,
    if_pos rfl, textAt?_foldl_of_forall_ne]
  · intro b hb other hother
    exact alone b.1 other (Nat.ne_of_lt (below b hb _ List.mem_cons_self)) hother
  · intro b hb other hother
    exact alone b.1 other (Nat.ne_of_gt (above b hb)) hother

theorem textAt?_withReply_of_goes {sent : List Run} (distinct : (sent.map (·.path)).Nodup)
    {reply text : String} {k : Nat} {p : Path} (h : Goes sent reply k text p)
    (body : Element) :
    (withReply sent reply body).textAt? p = (body.textAt? p).map fun _ => text := by
  obtain ⟨hmem, r, hr, rfl⟩ := h
  exact textAt?_foldl_of_mem distinct (pairwise_readBlocks reply) hmem hr body

theorem textAt?_withReply_of_forall_not {sent : List Run} {reply : String} {p : Path}
    (h : ∀ k text, ¬ Goes sent reply k text p) (body : Element) :
    (withReply sent reply body).textAt? p = body.textAt? p := by
  refine textAt?_foldl_of_forall_ne ?_ body
  intro b hb r hr same
  exact h b.1 b.2 ⟨hb, r, hr, same⟩

end Assistant

namespace Session

/-- Counting the elements that are there does not matter for what is written. -/
theorem body_writeBlock (sent : List Run) (acc : Nat × Document) (block : Nat × String) :
    (writeBlock sent acc block).2.body = withBlock sent acc.2.body block := by
  obtain ⟨n, d⟩ := acc
  simp only [writeBlock, withBlock]
  split
  · rename_i none
    simp [none]
  · rename_i r hr
    rw [hr]
    split
    · rfl
    · rename_i nowhere
      have none : d.body.at? r.path = none := by simpa using nowhere
      exact (Element.updatedAt_of_at?_eq_none none _).symm

theorem body_foldl_writeBlock (sent : List Run) (blocks : List (Nat × String))
    (acc : Nat × Document) :
    (blocks.foldl (writeBlock sent) acc).2.body = blocks.foldl (withBlock sent) acc.2.body := by
  induction blocks generalizing acc with
  | nil => rfl
  | cons b r ih => rw [List.foldl_cons, List.foldl_cons, ih, body_writeBlock]

theorem body_writeBatch (s : Session) (t : Translation)
    (result : Except AssistantError String) :
    (s.writeBatch t result).document.body =
      match result with
      | .ok reply => withReply t.sent reply s.document.body
      | .error _ => s.document.body := by
  have finished : ∀ (s : Session) (r : Except Failure Nat),
      (s.finishTranslation t.language r).document.body = s.document.body := by
    rintro s (e | n) <;> rfl
  cases result with
  | error e => exact finished s _
  | ok reply =>
      have written := body_foldl_writeBlock t.sent (readBlocks reply) (t.written, s.document)
      rw [writeBatch]
      generalize (readBlocks reply).foldl (writeBlock t.sent) (t.written, s.document) = r at written
      obtain ⟨n, d⟩ := r
      dsimp only at written ⊢
      rw [withReply, ← written]
      split
      · exact finished _ _
      · rfl

end Session

end PageAid
