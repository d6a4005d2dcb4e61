import PageAid.Proofs.Json.Numeral
import PageAid.Proofs.Translation.Batch

/-!
How any reply is read. A line that opens a block ends the block before it, and lines that open none
go on with the one before them; of several blocks under one number the last one counts. So what a
reply has under a number is the last block with this number, without the blanks that end it
(`readBlocks_lastBlock`).
-/

namespace PageAid

namespace Text

/-- A text of ASCII digits is read as the number that it stands for, and no other text is read. -/
theorem readDigits?_eq_some_iff {s : List Char} {n : Nat} :
    readDigits? s = some n ↔ (∀ c ∈ s, c.isDigit) ∧ Nat.ofDigitChars 10 s 0 = n := by
  have read : ∀ (s : List Char) (start : Nat),
      s.foldlM (fun n c => (asciiDigit? c).map (10 * n + ·)) start = some n ↔
        (∀ c ∈ s, c.isDigit) ∧ Nat.ofDigitChars 10 s start = n := by
    intro s
    induction s with
    | nil => simp
    | cons c r ih =>
        intro start
        rw [List.foldlM_cons, Json.asciiDigit?_eq, List.forall_mem_cons, Nat.ofDigitChars_cons]
        by_cases digit : c.isDigit
        · rw [if_pos digit, Option.map_some, Option.bind_eq_bind, Option.bind_some, ih]
          simp only [digit, true_and]
        · simp [digit]
  exact read s 0

end Text

namespace Assistant

open Text

/-! ### Lines that open a block -/

/-- A line opens a block: a number in square brackets, two colons, and the first line of the block
after at most one space. The number is written in decimal digits of any script. -/
structure Opens (number text line : List Char) : Prop where
  ne_nil : number ≠ []
  isDecimalDigit : ∀ c ∈ number, isDecimalDigit c
  line_eq : line = '[' :: (number ++ ']' :: ':' :: ':' :: ' ' :: text) ∨
    line = '[' :: (number ++ ']' :: ':' :: ':' :: text) ∧ text.head? ≠ some ' '

/-- A line opens a block under some number, whether this can be read or not. -/
def IsOpening (line : List Char) : Prop := ∃ number text, Opens number text line

/-- A line opens the block with a number of 64 bits, which is written in ASCII digits. -/
def OpensBlock (i : Nat) (text line : List Char) : Prop :=
  ∃ number, Opens number text line ∧ (∀ c ∈ number, c.isDigit) ∧
    Nat.ofDigitChars 10 number 0 = i ∧ i ≤ maxBlock

theorem OpensBlock.isOpening {i : Nat} {text line : List Char} (h : OpensBlock i text line) :
    IsOpening line := by
  obtain ⟨number, opens, -⟩ := h
  exact ⟨number, text, opens⟩

theorem opener?_bracket {number : List Char} (ne_nil : number ≠ [])
    (digits : ∀ c ∈ number, isDecimalDigit c) (rest : List Char) :
    opener? ('[' :: (number ++ ']' :: ':' :: ':' :: rest)) =
      some (number, match rest with | ' ' :: text => text | text => text) := by
  have stop : isDecimalDigit ']' = false := by decide
  have run : (number ++ ']' :: ':' :: ':' :: rest).takeWhile isDecimalDigit = number := by
    rw [List.takeWhile_append_of_pos digits, List.takeWhile_cons_of_neg (by simp [stop]),
      List.append_nil]
  have some : number.isEmpty = false := by simpa using ne_nil
  rw [opener?]
  simp only [run, List.drop_left, some]
  rfl

theorem opener?_eq_some_iff {number text line : List Char} :
    opener? line = some (number, text) ↔ Opens number text line := by
  constructor
  · intro h
    unfold opener? at h
    split at h
    · rename_i r
      dsimp only at h
      split at h
      · rename_i rest colons
        split at h
        · simp at h
        · rename_i ne_nil
          obtain ⟨rfl, rfl⟩ := Prod.mk.inj (Option.some.inj h)
          have parts := List.prefix_iff_eq_append.1 (List.takeWhile_prefix isDecimalDigit (l := r))
          rw [colons] at parts
          refine ⟨by simpa using ne_nil, fun c hc => List.mem_takeWhile_imp hc, ?_⟩
          split
          · exact .inl (congrArg _ parts.symm)
          · rename_i no_space
            refine .inr ⟨congrArg _ parts.symm, fun space => ?_⟩
            obtain ⟨text, rfl⟩ := List.head?_eq_some_iff.1 space
            exact no_space text rfl
      · simp at h
    · simp at h
  · rintro ⟨ne_nil, digits, rfl | ⟨rfl, no_space⟩⟩
    · exact opener?_bracket ne_nil digits _
    · rw [opener?_bracket ne_nil digits]
      split
      · simp at no_space
      · rfl

theorem isSome_opener?_iff {line : List Char} : (opener? line).isSome ↔ IsOpening line := by
  simp only [Option.isSome_iff_exists, Prod.exists, opener?_eq_some_iff, IsOpening]

def opened? (line : List Char) : Option (Nat × List Char) :=
  (opener? line).bind fun (number, text) => (blockNumber? number).map (·, text)

theorem blockNumber?_eq_some_iff {number : List Char} {i : Nat} :
    blockNumber? number = some i ↔
      (∀ c ∈ number, c.isDigit) ∧ Nat.ofDigitChars 10 number 0 = i ∧ i ≤ maxBlock := by
  rw [blockNumber?, Option.filter_eq_some_iff, readDigits?_eq_some_iff, and_assoc,
    decide_eq_true_iff]

theorem opened?_eq_some_iff {line text : List Char} {i : Nat} :
    opened? line = some (i, text) ↔ OpensBlock i text line := by
  rw [opened?, Option.bind_eq_some_iff]
  constructor
  · rintro ⟨⟨number, first⟩, opens, h⟩
    obtain ⟨j, hj, same⟩ := Option.map_eq_some_iff.1 h
    obtain ⟨rfl, rfl⟩ := Prod.mk.inj same
    exact ⟨number, opener?_eq_some_iff.1 opens, blockNumber?_eq_some_iff.1 hj⟩
  · rintro ⟨number, opens, h⟩
    refine ⟨(number, text), opener?_eq_some_iff.2 opens, ?_⟩
    simp [blockNumber?_eq_some_iff.2 h]

/-! ### The blocks of the lines -/

theorem lookup_cons_eq_ite (n : Nat) (text : List Char) (l : List (Nat × List Char)) (i : Nat) :
    ((n, text) :: l).lookup i = if i = n then some text else l.lookup i := by
  by_cases same : i = n
  · simp [same]
  · rw [List.lookup_cons, beq_false_of_ne same, if_neg same]

def continuation (rows : List (List Char)) : List (List Char) :=
  rows.takeWhile fun line => (opener? line).isNone

/-- The block that is open goes on up to the next opening. What opens after it does not depend on
it. -/
theorem blocksOf_some (b : OpenBlock) (rows : List (List Char)) :
    blocksOf (some b) rows =
      (b.number, joined ['\n'] (b.lines.reverse ++ continuation rows)) :: blocksOf none rows := by
  induction rows generalizing b with
  | nil => simp [blocksOf, blocksOf.closed, continuation]
  | cons line r ih =>
      rw [blocksOf, blocksOf]
      cases h : opener? line with
      | some opened => simp [blocksOf.closed, continuation, h]
      | none => simp [ih, continuation, h]

theorem blocksOf_cons (line : List Char) (r : List (List Char)) :
    blocksOf none (line :: r) =
      ((opened? line).map fun (i, text) =>
        (i, joined ['\n'] (text :: continuation r))).toList ++ blocksOf none r := by
  rw [blocksOf, opened?]
  cases opener? line with
  | none => rfl
  | some opening =>
      obtain ⟨number, text⟩ := opening
      cases h : blockNumber? number with
      | none => simp [h, blocksOf.closed]
      | some i => simp [h, blocksOf.closed, blocksOf_some]

theorem lookup_blocksOf_eq_none_iff {rows : List (List Char)} {i : Nat} :
    (blocksOf none rows).reverse.lookup i = none ↔
      ∀ line ∈ rows, ∀ text, ¬ OpensBlock i text line := by
  simp only [List.lookup_eq_none_iff, List.mem_reverse, bne_iff_ne, ne_eq]
  induction rows with
  | nil => simp [blocksOf, blocksOf.closed]
  | cons line r ih =>
      rw [blocksOf_cons, List.forall_mem_append, ih, List.forall_mem_cons]
      refine and_congr_left fun _ => ?_
      simp only [← opened?_eq_some_iff]
      cases opened? line with
      | none => simp
      | some opened => simp [Prod.ext_iff, eq_comm]

/-! ### The last block with a number -/

/-- The lines of the last block with a number: what its opening begins with and the lines after it
up to the next opening. No line further on opens a block with the number. -/
def LastBlock (rows : List (List Char)) (i : Nat) (block : List (List Char)) : Prop :=
  ∃ before line text continued rest,
    rows = before ++ line :: (continued ++ rest) ∧ block = text :: continued ∧
      OpensBlock i text line ∧ (∀ l ∈ continued, ¬ IsOpening l) ∧
      (∀ l ∈ rest.head?, IsOpening l) ∧ ∀ l ∈ rest, ∀ text, ¬ OpensBlock i text l

theorem continuation_eq_iff {rows continued : List (List Char)} :
    continuation rows = continued ↔
      ∃ rest, rows = continued ++ rest ∧ (∀ l ∈ continued, ¬ IsOpening l) ∧
        ∀ l ∈ rest.head?, IsOpening l := by
  have opening : ∀ l : List Char, (opener? l).isNone = true ↔ ¬ IsOpening l := fun l => by
    rw [← isSome_opener?_iff, Option.isNone_iff_eq_none, Option.not_isSome_iff_eq_none]
  constructor
  · rintro rfl
    refine ⟨rows.dropWhile fun l => (opener? l).isNone, List.takeWhile_append_dropWhile.symm,
      fun l hl => (opening l).1 (List.mem_takeWhile_imp (p := fun l => (opener? l).isNone) hl),
      fun l hl => ?_⟩
    by_contra continues
    have := List.head?_dropWhile_not (fun l : List Char => (opener? l).isNone) rows
    rw [Option.mem_def.1 hl] at this
    simp [(opening l).2 continues] at this
  · rintro ⟨rest, rfl, continues, ends⟩
    rw [continuation, List.takeWhile_append_of_pos fun l hl => (opening l).2 (continues l hl)]
    cases rest with
    | nil => simp
    | cons l r =>
        have opens : ¬ (opener? l).isNone = true := fun h => (opening l).1 h (ends l rfl)
        rw [List.takeWhile_cons_of_neg (by simpa using opens), List.append_nil]

theorem lastBlock_cons_iff {line : List Char} {r : List (List Char)} {i : Nat}
    {block : List (List Char)} :
    LastBlock (line :: r) i block ↔
      LastBlock r i block ∨
        (∀ l ∈ r, ∀ text, ¬ OpensBlock i text l) ∧
          ∃ text, OpensBlock i text line ∧ block = text :: continuation r := by
  constructor
  · rintro ⟨before, l, text, continued, rest, rows, rfl, opens, continues, ends, last⟩
    cases before with
    | nil =>
        obtain ⟨rfl, rfl⟩ := List.cons.inj rows
        refine .inr ⟨?_, text, opens, ?_⟩
        · intro l hl text other
          rcases List.mem_append.1 hl with hl | hl
          · exact continues l hl other.isOpening
          · exact last l hl text other
        · rw [continuation_eq_iff.2 ⟨rest, rfl, continues, ends⟩]
    | cons _ before =>
        obtain ⟨-, rfl⟩ := List.cons.inj rows
        exact .inl ⟨before, l, text, continued, rest, rfl, rfl, opens, continues, ends, last⟩
  · rintro (⟨before, l, text, continued, rest, rfl, further⟩ | ⟨last, text, opens, rfl⟩)
    · exact ⟨line :: before, l, text, continued, rest, rfl, further⟩
    · obtain ⟨rest, parts, continues, ends⟩ := continuation_eq_iff.1 (rfl : continuation r = _)
      refine ⟨[], line, text, continuation r, rest, by rw [← parts]; rfl, rfl, opens, continues,
        ends, fun l hl => last l ?_⟩
      rw [parts]
      exact List.mem_append_right _ hl

theorem LastBlock.exists_opensBlock {rows block : List (List Char)} {i : Nat}
    (h : LastBlock rows i block) : ∃ line ∈ rows, ∃ text, OpensBlock i text line := by
  obtain ⟨before, line, text, continued, rest, rfl, -, opens, -⟩ := h
  exact ⟨line, by simp, text, opens⟩

/-- Of the blocks with a number the one that ends last is found. -/
theorem lookup_blocksOf_eq_some_iff {rows : List (List Char)} {i : Nat} {text : List Char} :
    (blocksOf none rows).reverse.lookup i = some text ↔
      ∃ block, LastBlock rows i block ∧ text = joined ['\n'] block := by
  induction rows with
  | nil => simp [blocksOf, blocksOf.closed, LastBlock]
  | cons line r ih =>
      rw [blocksOf_cons, List.reverse_append, List.lookup_append]
      simp only [lastBlock_cons_iff]
      cases h : (blocksOf none r).reverse.lookup i with
      | some later =>
          have opened_later : ¬ ∀ l ∈ r, ∀ text, ¬ OpensBlock i text l := fun none => by
            rw [lookup_blocksOf_eq_none_iff.2 none] at h
            simp at h
          rw [h] at ih
          rw [Option.some_or, ih]
          simp only [opened_later, false_and, or_false]
      | none =>
          have none_later := lookup_blocksOf_eq_none_iff.1 h
          have no_last : ∀ block, ¬ LastBlock r i block := fun block last => by
            obtain ⟨l, hl, text, opens⟩ := last.exists_opensBlock
            exact none_later l hl text opens
          -- it is the block that the line itself opens, if it opens one with the number
          have own : (∃ block, (LastBlock r i block ∨
              (∀ l ∈ r, ∀ text, ¬ OpensBlock i text l) ∧
                ∃ text, OpensBlock i text line ∧ block = text :: continuation r) ∧
              text = joined ['\n'] block) ↔
                ∃ first, opened? line = some (i, first) ∧
                  text = joined ['\n'] (first :: continuation r) := by
            constructor
            · rintro ⟨block, last | ⟨-, first, opens, rfl⟩, same⟩
              · exact absurd last (no_last block)
              · exact ⟨first, opened?_eq_some_iff.2 opens, same⟩
            · rintro ⟨first, opens, same⟩
              exact ⟨_, .inr ⟨none_later, first, opened?_eq_some_iff.1 opens, rfl⟩, same⟩
          rw [Option.none_or, own]
          cases opened? line with
          | none => simp
          | some opened =>
              by_cases same : i = opened.1
              · subst same
                simp [Prod.ext_iff, eq_comm]
              · simp [lookup_cons_eq_ite, same, Ne.symm same, Prod.ext_iff]

/-! ### The blocks by number -/

theorem lookup_insertBlock (n : Nat) (text : List Char) (l : List (Nat × List Char)) (i : Nat) :
    (insertBlock n text l).lookup i = if i = n then some text else l.lookup i := by
  induction l with
  | nil => exact lookup_cons_eq_ite n text [] i
  | cons b r ih =>
      obtain ⟨k, t⟩ := b
      rw [insertBlock]
      split
      · exact lookup_cons_eq_ite n text _ i
      · split
        · rename_i same
          subst same
          rw [lookup_cons_eq_ite, lookup_cons_eq_ite]
          split <;> rfl
        · rename_i other
          rw [lookup_cons_eq_ite, lookup_cons_eq_ite, ih]
          by_cases same : i = k
          · simp [same, Ne.symm other]
          · simp [same]

theorem lookup_foldl_insertBlock (blocks l : List (Nat × List Char)) (i : Nat) :
    (blocks.foldl (fun m b => insertBlock b.1 b.2 m) l).lookup i =
      (blocks.reverse.lookup i).or (l.lookup i) := by
  induction blocks generalizing l with
  | nil => rfl
  | cons b r ih =>
      rw [List.foldl_cons, ih, lookup_insertBlock, List.reverse_cons, List.lookup_append,
        Option.or_assoc, lookup_cons_eq_ite]
      by_cases same : i = b.1 <;> simp [same]

theorem mem_readBlocks_iff_lookup {reply t : String} {i : Nat} :
    (i, t) ∈ readBlocks reply ↔ t ≠ "" ∧
      ∃ text, (blocksOf none (lines reply.toList)).reverse.lookup i = some text ∧
        t.toList = trimRight text := by
  have sorted := pairwise_foldl_insertBlock (blocksOf none (lines reply.toList)) List.Pairwise.nil
  have found : ∀ text, (i, text) ∈ (blocksOf none (lines reply.toList)).foldl
      (fun m b => insertBlock b.1 b.2 m) [] ↔
        (blocksOf none (lines reply.toList)).reverse.lookup i = some text := fun text => by
    rw [mem_iff_lookup_of_pairwise sorted, lookup_foldl_insertBlock, List.lookup_nil,
      Option.or_none]
  simp only [← found]
  rw [readBlocks]
  constructor
  · intro h
    obtain ⟨⟨n, ended⟩, kept, same⟩ := List.mem_map.1 h
    obtain ⟨rfl, rfl⟩ := Prod.mk.inj same
    obtain ⟨trimmed, some⟩ := List.mem_filter.1 kept
    obtain ⟨⟨n', text⟩, block, same⟩ := List.mem_map.1 trimmed
    obtain ⟨rfl, rfl⟩ := Prod.mk.inj same
    refine ⟨fun none => ?_, text, block, String.toList_ofList⟩
    simp [String.ofList_eq_empty_iff.1 none] at some
  · rintro ⟨some, text, mem, same⟩
    refine List.mem_map.2 ⟨(i, trimRight text), List.mem_filter.2 ⟨?_, ?_⟩, ?_⟩
    · exact List.mem_map.2 ⟨(i, text), mem, rfl⟩
    · rw [← same]
      simpa using some
    · simp [← same]

/-- What is read from a reply, by number: under a number stands the text of the last block with
this number, its lines with newlines between them and without the blanks that end it, unless
nothing is left of it. A line whose number cannot be read ends a block and opens none, and what
stands before the first opening belongs to no block. -/
theorem readBlocks_lastBlock (reply : String) :
    (readBlocks reply).Pairwise (·.1 < ·.1) ∧
      ∀ i t, (i, t) ∈ readBlocks reply ↔
        t ≠ "" ∧ ∃ block, LastBlock (lines reply.toList) i block ∧
          t.toList = trimRight (joined ['\n'] block) := by
  refine ⟨pairwise_readBlocks reply, fun i t => ?_⟩
  rw [mem_readBlocks_iff_lookup]
  refine and_congr_right fun _ => ?_
  simp only [lookup_blocksOf_eq_some_iff]
  constructor
  · rintro ⟨_, ⟨block, last, rfl⟩, same⟩
    exact ⟨block, last, same⟩
  · rintro ⟨block, last, same⟩
    exact ⟨_, ⟨block, last, rfl⟩, same⟩

example :
    readBlocks "Gern:\n[1]:: eins\r\n mehr\n[٢]:: fort\nfort\n[01]::zwei \n\n[0]:: null\n[0]::  " =
      [(1, "zwei")] := by
  decide +kernel

end Assistant

end PageAid
