import PageAid.Proofs.Text.Lines
import PageAid.Proofs.Translation.Reply

/-!
How texts are framed as numbered blocks, and that the blocks are read back. A prompt, read as if it
were a reply, gives its own texts under their numbers (`readBlocks_batchPrompt`): so does an
assistant that repeats what it is sent.
-/

namespace PageAid

namespace Text

theorem isDecimalDigit_of_isDigit {c : Char} (h : c.isDigit) : isDecimalDigit c := by
  simp only [Char.isDigit, Bool.and_eq_true, decide_eq_true_eq] at h
  have low : 0x30 ≤ c.toNat := h.1
  have high : c.toNat ≤ 0x39 := h.2
  refine List.any_eq_true.2 ⟨0x30, by decide, ?_⟩
  simp only [Bool.and_eq_true, decide_eq_true_eq]
  omega

theorem readDigits?_toDigits (n : Nat) : readDigits? (Nat.toDigits 10 n) = some n :=
  readDigits?_eq_some_iff.2 ⟨(Json.allDigits_toDigits n).isDigit,
    Nat.ofDigitChars_toDigits (by decide) (by decide)⟩

end Text

namespace Assistant

open Text

/-! ### One block -/

def openingOf (i : Nat) : List Char := '[' :: (Nat.toDigits 10 i ++ [']', ':', ':', ' '])

theorem toList_block (i : Nat) (text : String) :
    (block i text).toList = openingOf i ++ text.toList := by
  simp [block, openingOf, String.toList_append]

theorem notMem_openingOf (i : Nat) {c : Char} (digit : c.isDigit = false)
    (sign : c ∉ ['[', ']', ':', ' ']) : c ∉ openingOf i := by
  intro h
  simp only [openingOf, List.mem_cons, List.mem_append] at h sign
  rcases h with rfl | h | h
  · simp at sign
  · simp [(Json.allDigits_toDigits i).isDigit c h] at digit
  · simp_all

theorem forall_of_notMem {c : Char} {s : List Char} (h : c ∉ s) :
    ∀ x ∈ s, (x == c) = false := by
  intro x hx
  refine beq_eq_false_iff_ne.2 ?_
  rintro rfl
  exact h hx

/-- The opening is read as what it was put together from, whatever follows it in its line. -/
theorem opener?_openingOf (i : Nat) (rest : List Char) :
    opener? (openingOf i ++ rest) = some (Nat.toDigits 10 i, rest) := by
  have line : openingOf i ++ rest =
      '[' :: (Nat.toDigits 10 i ++ ']' :: ':' :: ':' :: ' ' :: rest) := by
    simp [openingOf]
  rw [line]
  exact opener?_bracket (by simp) (fun c hc => isDecimalDigit_of_isDigit
    ((Json.allDigits_toDigits i).isDigit c hc)) _

theorem blockNumber?_toDigits (i : Nat) :
    blockNumber? (Nat.toDigits 10 i) = if i ≤ maxBlock then some i else none := by
  rw [blockNumber?, readDigits?_toDigits]
  by_cases h : i ≤ maxBlock <;> simp [h, Option.filter]

/-! ### Blocks one after another -/

/-- Lines that open no block continue the one that is open. -/
theorem blocksOf_append_of_continued {continued : List (List Char)}
    (h : ∀ line ∈ continued, opener? line = none) (current : Option OpenBlock)
    (r : List (List Char)) :
    blocksOf current (continued ++ r) =
      blocksOf (current.map fun b => { b with lines := continued.reverse ++ b.lines }) r := by
  induction continued generalizing current with
  | nil => cases current <;> rfl
  | cons line rest ih =>
      obtain ⟨first, later⟩ := List.forall_mem_cons.1 h
      rw [List.cons_append, blocksOf, first]
      dsimp only
      rw [ih later]
      cases current <;> simp

/-- The texts that are framed, under their numbers, as far as there are numbers for them. -/
def numbered (i : Nat) (texts : List String) : List (Nat × List Char) :=
  ((texts.zipIdx i).filter (·.2 ≤ maxBlock)).map fun t => (t.2, t.1.toList)

theorem numbered_cons (i : Nat) (t : String) (r : List String) :
    numbered i (t :: r) =
      (if i ≤ maxBlock then [(i, t.toList)] else []) ++ numbered (i + 1) r := by
  by_cases h : i ≤ maxBlock <;> simp [numbered, h]

/-- Framed texts are read as the texts, unless a line of theirs opens a block itself. -/
theorem blocksOf_blocksFrom {texts : List String}
    (h : ∀ t ∈ texts, ∀ line ∈ (fields (· == '\n') t.toList).tail, opener? line = none)
    (i : Nat) (current : Option OpenBlock) :
    blocksOf current ((blocksFrom i texts).flatMap fun b => fields (· == '\n') b.toList) =
      blocksOf.closed current ++ numbered i texts := by
  induction texts generalizing i current with
  | nil => simp [blocksFrom, blocksOf, numbered]
  | cons t r ih =>
      obtain ⟨own, others⟩ := List.forall_mem_cons.1 h
      obtain ⟨first, rest, parts⟩ := exists_fields_eq_cons (· == '\n') t.toList
      rw [parts, List.tail_cons] at own
      have whole := joined_fields '\n' t.toList
      rw [parts] at whole
      have framed : fields (· == '\n') (block i t).toList = (openingOf i ++ first) :: rest := by
        rw [toList_block, fields_append_of_forall
          (forall_of_notMem (notMem_openingOf i (by decide) (by decide))), parts]
        rfl
      rw [blocksFrom, List.flatMap_cons, framed, List.cons_append, blocksOf, opener?_openingOf]
      dsimp only
      rw [blocksOf_append_of_continued own, ih others, blockNumber?_toDigits, numbered_cons]
      by_cases fits : i ≤ maxBlock
      · simp [fits, blocksOf.closed, whole]
      · simp [fits, blocksOf.closed]

/-- An empty line at the end is cut off with the blanks that end the last block. -/
theorem blocksOf_append_empty (current : Option OpenBlock) (rows : List (List Char)) :
    (blocksOf current (rows ++ [[]])).map (fun b => (b.1, trimRight b.2)) =
      (blocksOf current rows).map fun b => (b.1, trimRight b.2) := by
  induction rows generalizing current with
  | nil =>
      cases current with
      | none => rfl
      | some b =>
          obtain ⟨n, lines⟩ := b
          show [(n, trimRight (joined ['\n'] ([] :: lines).reverse))] =
            [(n, trimRight (joined ['\n'] lines.reverse))]
          rw [List.reverse_cons, trimRight_joined_append_nil]
  | cons line r ih =>
      rw [List.cons_append, blocksOf, blocksOf]
      cases opener? line with
      | none => exact ih _
      | some opened => rw [List.map_append, List.map_append, ih]

/-! ### Reading a reply -/

theorem insertBlock_of_forall_lt {n : Nat} {text : List Char} {l : List (Nat × List Char)}
    (h : ∀ b ∈ l, b.1 < n) : insertBlock n text l = l ++ [(n, text)] := by
  induction l with
  | nil => rfl
  | cons b r ih =>
      obtain ⟨k, t⟩ := b
      obtain ⟨below, rest⟩ := List.forall_mem_cons.1 h
      have below : k < n := below
      rw [insertBlock, if_neg (Nat.lt_asymm below), if_neg (Nat.ne_of_gt below), ih rest]
      rfl

theorem foldl_insertBlock_of_pairwise {blocks before : List (Nat × List Char)}
    (h : (before ++ blocks).Pairwise (·.1 < ·.1)) :
    blocks.foldl (fun m b => insertBlock b.1 b.2 m) before = before ++ blocks := by
  induction blocks generalizing before with
  | nil => simp
  | cons b r ih =>
      have above : ∀ e ∈ before, e.1 < b.1 := fun e he =>
        (List.pairwise_append.1 h).2.2 e he b List.mem_cons_self
      rw [List.append_cons] at h ⊢
      rw [List.foldl_cons, insertBlock_of_forall_lt above, ih h]

theorem readBlocks_of_pairwise {reply : String}
    (h : (blocksOf none (lines reply.toList)).Pairwise (·.1 < ·.1)) :
    readBlocks reply = ((((blocksOf none (lines reply.toList)).map
      fun b => (b.1, trimRight b.2)).filter (!·.2.isEmpty)).map
        fun b => (b.1, String.ofList b.2)) := by
  have ascending := @foldl_insertBlock_of_pairwise _ [] h
  rw [List.nil_append] at ascending
  rw [readBlocks]
  exact congrArg _ (congrArg _ (congrArg _ ascending))

theorem pairwise_numbered (i : Nat) (texts : List String) :
    (numbered i texts).Pairwise (·.1 < ·.1) := by
  have above : ∀ (texts : List String) (i : Nat), ∀ b ∈ numbered i texts, i ≤ b.1 := by
    intro texts
    induction texts with
    | nil => simp [numbered]
    | cons t r ih =>
        intro i b hb
        rw [numbered_cons, List.mem_append] at hb
        rcases hb with first | later
        · split at first
          · rw [List.mem_singleton.1 first]
          · simp at first
        · exact Nat.le_of_succ_le (ih (i + 1) b later)
  induction texts generalizing i with
  | nil => exact List.Pairwise.nil
  | cons t r ih =>
      rw [numbered_cons, List.pairwise_append]
      refine ⟨?_, ih (i + 1), fun b hb b' hb' => ?_⟩
      · split
        · exact List.pairwise_singleton _ _
        · exact List.Pairwise.nil
      · have later := above r (i + 1) b' hb'
        split at hb
        · rw [List.mem_singleton.1 hb]
          exact later
        · simp at hb

/-! ### The prompt as a reply -/

theorem opener?_of_head? {line : List Char} {c : Char} (h : line.head? = some c)
    (other : c ≠ '[') : opener? line = none := by
  cases line with
  | nil => rfl
  | cons x r =>
      obtain rfl : x = c := by simpa using h
      rw [opener?]
      simp [other]

/-- The instruction opens no block, for it begins otherwise. -/
theorem opener?_translateInstruction (language : String) :
    opener? (translateInstruction language).toList = none := by
  have begins : ∀ {a : String} (b : String), a.toList.head? = some 'Y' →
      (a ++ b).toList.head? = some 'Y' := by
    intro a b h
    rw [String.toList_append, List.head?_append, h]
    rfl
  refine opener?_of_head? (c := 'Y') ?_ (by decide)
  exact begins _ (begins _ (begins _ (begins _ (by decide +kernel))))

theorem ne_newline_of_mem_translateInstruction {language : String}
    (h : '\n' ∉ language.toList) :
    ∀ c ∈ (translateInstruction language).toList, (c == '\n') = false := by
  have both : ∀ {a b : String}, (∀ c ∈ a.toList, (c == '\n') = false) →
      (∀ c ∈ b.toList, (c == '\n') = false) → ∀ c ∈ (a ++ b).toList, (c == '\n') = false := by
    intro a b ha hb c hc
    rw [String.toList_append, List.mem_append] at hc
    exact hc.elim (ha c) (hb c)
  refine both (both (both (both ?_ (forall_of_notMem h)) ?_) ?_) ?_ <;>
    exact forall_of_notMem (by decide +kernel)

theorem getLast?_translateInstruction (language : String) :
    (translateInstruction language).toList.getLast? = some '.' := by
  have ends : ∀ {b : String} (a : String), b.toList.getLast? = some '.' →
      (a ++ b).toList.getLast? = some '.' := by
    intro b a h
    rw [String.toList_append, List.getLast?_append, h]
    rfl
  exact ends _ (by decide +kernel)

theorem fields_batchPrompt {language : String} (h : '\n' ∉ language.toList)
    (texts : List String) :
    fields (· == '\n') (batchPrompt language texts).toList =
      (translateInstruction language).toList :: [] ::
        fields (· == '\n') (joined ['\n'] ((blocksFrom 0 texts).map String.toList)) := by
  have parts : (batchPrompt language texts).toList = (translateInstruction language).toList ++
      '\n' :: ([] ++ '\n' :: joined ['\n'] ((blocksFrom 0 texts).map String.toList)) := by
    rw [batchPrompt, String.toList_append, String.toList_append, String.toList_intercalate,
      List.append_assoc]
    rfl
  rw [parts, fields_append_cons _ rfl, fields_append_cons _ rfl,
    fields_of_forall (ne_newline_of_mem_translateInstruction h)]
  rfl

theorem fields_joined_blocksFrom (i : Nat) {texts : List String} (some : texts ≠ []) :
    fields (· == '\n') (joined ['\n'] ((blocksFrom i texts).map String.toList)) =
      (blocksFrom i texts).flatMap fun b => fields (· == '\n') b.toList := by
  have framed : (blocksFrom i texts).map String.toList ≠ [] := by
    cases texts with
    | nil => exact absurd rfl some
    | cons t r => simp [blocksFrom]
  rw [fields_intercalate rfl framed, List.flatMap_map]

theorem exists_of_mem_blocksFrom {i : Nat} {texts : List String} {b : String}
    (h : b ∈ blocksFrom i texts) : ∃ j, ∃ t ∈ texts, b = block j t := by
  induction texts generalizing i with
  | nil => simp [blocksFrom] at h
  | cons t r ih =>
      rcases List.mem_cons.1 h with rfl | later
      · exact ⟨i, t, List.mem_cons_self, rfl⟩
      · obtain ⟨j, t', ht', same⟩ := ih later
        exact ⟨j, t', List.mem_cons_of_mem _ ht', same⟩

theorem getLast?_fields_batchPrompt {language : String} (h : '\n' ∉ language.toList)
    {texts : List String} (no_return : ∀ t ∈ texts, '\r' ∉ t.toList) :
    ∀ piece ∈ fields (· == '\n') (batchPrompt language texts).toList,
      piece.getLast? ≠ some '\r' := by
  intro piece hp
  rw [fields_batchPrompt h, List.mem_cons, List.mem_cons] at hp
  rcases hp with rfl | rfl | hp
  · rw [getLast?_translateInstruction]
    decide
  · simp
  · intro last
    have within : '\r' ∈ piece := List.mem_of_getLast? last
    cases texts with
    | nil =>
        have nowhere := mem_of_mem_fields hp within
        simp [blocksFrom, joined] at nowhere
    | cons t r =>
        rw [fields_joined_blocksFrom 0 (by simp)] at hp
        obtain ⟨b, hb, hp⟩ := List.mem_flatMap.1 hp
        obtain ⟨j, t', ht', rfl⟩ := exists_of_mem_blocksFrom hb
        have among := mem_of_mem_fields hp within
        rw [toList_block, List.mem_append] at among
        exact among.elim (notMem_openingOf j (by decide) (by decide)) (no_return t' ht')

theorem blocksOf_batchPrompt {language : String} (h : '\n' ∉ language.toList)
    {texts : List String}
    (continued : ∀ t ∈ texts, ∀ line ∈ (fields (· == '\n') t.toList).tail,
      opener? line = none) :
    blocksOf none (fields (· == '\n') (batchPrompt language texts).toList) =
      numbered 0 texts := by
  rw [fields_batchPrompt h, blocksOf, opener?_translateInstruction]
  show blocksOf none (fields (· == '\n') _) = _
  cases texts with
  | nil => rfl
  | cons t r =>
      rw [fields_joined_blocksFrom 0 (by simp), blocksOf_blocksFrom continued]
      rfl

theorem opener?_of_mem_tail_fields {t : List Char} (no_return : '\r' ∉ t)
    (h : ∀ line ∈ (lines t).tail, opener? line = none) :
    ∀ line ∈ (fields (· == '\n') t).tail, opener? line = none := by
  have ends : ∀ piece ∈ fields (· == '\n') t, piece.getLast? ≠ some '\r' :=
    fun piece hp last => no_return (mem_of_mem_fields hp (List.mem_of_getLast? last))
  rcases fields_eq_lines_or ends with same | same
  · rwa [same]
  · intro line hl
    rw [same] at hl
    cases hlines : lines t with
    | nil => simp [hlines] at hl
    | cons first rest =>
        rw [hlines] at h hl
        rw [List.cons_append, List.tail_cons, List.mem_append, List.mem_singleton] at hl
        rcases hl with hl | rfl
        · exact h line hl
        · rfl

/-- A prompt that is read as a reply gives the texts that it was made of, under their numbers and
without the blanks that end them, and nothing else; blank texts are left out. The language is
written in one line, no text has a carriage return, and none opens a block with a line other than
its first. Only numbers of 64 bits are read, which no list in memory exceeds. -/
theorem readBlocks_batchPrompt (language : String) (texts : List String)
    (one_line : '\n' ∉ language.toList) (no_return : ∀ t ∈ texts, '\r' ∉ t.toList)
    (continued : ∀ t ∈ texts, ∀ line ∈ (lines t.toList).tail, opener? line = none) :
    readBlocks (batchPrompt language texts) =
      (texts.zipIdx.filter fun t => t.2 ≤ maxBlock && !allBlank t.1).map
        fun t => (t.2, String.ofList (trimRight t.1.toList)) := by
  have blocks : blocksOf none (fields (· == '\n') (batchPrompt language texts).toList) =
      numbered 0 texts :=
    blocksOf_batchPrompt one_line fun t ht =>
      opener?_of_mem_tail_fields (no_return t ht) (continued t ht)
  -- whether or not the prompt ends in an empty line, its trimmed blocks are those of its pieces
  have trimmed : (blocksOf none (lines (batchPrompt language texts).toList)).map
      (fun b => (b.1, trimRight b.2)) =
        (numbered 0 texts).map fun b => (b.1, trimRight b.2) := by
    rw [← blocks]
    rcases fields_eq_lines_or (getLast?_fields_batchPrompt one_line no_return) with same | same
    · rw [same]
    · rw [same, blocksOf_append_empty]
  have ascending : (blocksOf none (lines (batchPrompt language texts).toList)).Pairwise
      (·.1 < ·.1) := by
    have numbers : ((numbered 0 texts).map fun b => (b.1, trimRight b.2)).Pairwise
        (·.1 < ·.1) := (pairwise_numbered 0 texts).map _ fun _ _ h => h
    rw [← trimmed, List.pairwise_map] at numbers
    exact numbers
  rw [readBlocks_of_pairwise ascending, trimmed, numbered]
  simp only [List.map_map, List.filter_map, List.filter_filter]
  refine congrArg (List.map _) (List.filter_congr fun t _ => ?_)
  show (!(trimRight t.1.toList).isEmpty && decide (t.2 ≤ maxBlock)) =
    (decide (t.2 ≤ maxBlock) && !allBlank t.1)
  rw [isEmpty_trimRight, Bool.and_comm]
  rfl

/-- A text of one line, one of blanks, and one that begins with blanks, goes on with a line that
only looks like an opening, and ends in empty lines. -/
theorem readBlocks_batchPrompt_of_lines :
    let texts := ["Hello there", " \n ", "  indented\nsee [7]:: below\n\n"]
    '\n' ∉ "French".toList ∧ (∀ t ∈ texts, '\r' ∉ t.toList) ∧
      (∀ t ∈ texts, ∀ line ∈ (lines t.toList).tail, opener? line = none) ∧
      readBlocks (batchPrompt "French" texts) =
        [(0, "Hello there"), (2, "  indented\nsee [7]:: below")] := by
  intro texts
  have one_line : '\n' ∉ "French".toList := by decide +kernel
  have no_return : ∀ t ∈ texts, '\r' ∉ t.toList := by decide +kernel
  have continued : ∀ t ∈ texts, ∀ line ∈ (lines t.toList).tail, opener? line = none := by
    decide +kernel
  have read := readBlocks_batchPrompt "French" texts one_line no_return continued
  exact ⟨one_line, no_return, continued, read.trans (by decide +kernel)⟩

end Assistant

end PageAid
