import PageAid.Proofs.Json.Numeral

/-!
The tokens of a printed value. `tokensOf` reads them off the value, and `tokens?_pretty` finds the
same ones in its text. A piece of text is taken together with what may come after it: a word or a
numeral ends only where something else begins.
-/

namespace PageAid.Json

def numeralTokenOf (n : Numeral) : Token :=
  match NumeralText.of? (numeral n).toList with
  | some t => .number t.value?
  | none => .word .null

mutual

def tokensOf : Json → List Token
  | null => [.word .null]
  | bool b => [.word (.bool b)]
  | number n => [numeralTokenOf n]
  | string s => [.string (some s)]
  | array items => .openArray :: ([.comma].intercalate (itemTokens items) ++ [.closeArray])
  | object members =>
    .openObject :: ([.comma].intercalate (memberTokens members) ++ [.closeObject])
  | unfit => [.word .null]

def itemTokens : List Json → List (List Token)
  | [] => []
  | v :: r => tokensOf v :: itemTokens r

def memberTokens : List (String × Json) → List (List Token)
  | [] => []
  | (k, v) :: r => (.string (some k) :: .colon :: tokensOf v) :: memberTokens r

end

/-! ### Texts and their tokens -/

/-- The text does not go on with a character that could belong to a word or a numeral. -/
def Stops (rest : List Char) : Prop :=
  ∀ c r, rest = c :: r → inNumeral c = false ∧ ¬('a' ≤ c && c ≤ 'z')

/-- In front of `rest` the text consists of these tokens, whatever stands before it. -/
def Lexes (text : List Char) (ts : List Token) (rest : List Char) : Prop :=
  ∀ done, tokensFrom? done .between (text ++ rest) =
    tokensFrom? (ts.reverse ++ done) .between rest

theorem Lexes.append {a b rest : List Char} {ts us : List Token} (ha : Lexes a ts (b ++ rest))
    (hb : Lexes b us rest) : Lexes (a ++ b) (ts ++ us) rest := by
  intro done
  rw [List.append_assoc, ha, hb, List.reverse_append, List.append_assoc]

theorem stops_nil : Stops [] := fun _ _ h => by simp at h

theorem stops_cons {c : Char} (numeral : inNumeral c = false) (word : ¬('a' ≤ c && c ≤ 'z'))
    (r : List Char) : Stops (c :: r) := by
  rintro c' r' h
  obtain ⟨rfl, rfl⟩ := List.cons.inj h
  exact ⟨numeral, word⟩

theorem tokensFrom?_cons {done ts : List Token} {m m' : Mode} {c : Char} {r : List Char}
    (h : step? m c = some (ts, m')) :
    tokensFrom? done m (c :: r) = tokensFrom? (ts.reverse ++ done) m' r := by
  rw [tokensFrom?, h]

theorem tokensFrom?_stops {done : List Token} {m : Mode} {t : Token} {rest : List Char}
    (h : Stops rest) (finish : finish? m = some [t])
    (step : ∀ c, inNumeral c = false → ¬('a' ≤ c && c ≤ 'z') →
      step? m c = (stepBetween? c).map fun (ts, m) => (t :: ts, m)) :
    tokensFrom? done m rest = tokensFrom? (t :: done) .between rest := by
  cases rest with
  | nil =>
      rw [tokensFrom?, tokensFrom?, finish]
      simp [finish?]
  | cons c r =>
      obtain ⟨numeral, word⟩ := h c r rfl
      rw [tokensFrom?, tokensFrom?, step c numeral word, step?]
      cases stepBetween? c with
      | none => rfl
      | some next => simp

/-! ### Words and numerals -/

theorem tokensFrom?_letters {done : List Token} {word : List Char} {t : Token}
    (hw : wordToken? word = some t) {rest : List Char} (h : Stops rest) :
    tokensFrom? done (.letters word) rest = tokensFrom? (t :: done) .between rest := by
  refine tokensFrom?_stops h (by rw [finish?, hw]; rfl) fun c _ other => ?_
  rw [step?, if_neg other, hw]
  cases stepBetween? c <;> rfl

theorem lexes_null {rest : List Char} (h : Stops rest) :
    Lexes "null".toList [.word .null] rest := by
  have word : wordToken? ['l', 'l', 'u', 'n'] = some (.word .null) := rfl
  exact fun done => tokensFrom?_letters word h

theorem lexes_bool (b : Bool) {rest : List Char} (h : Stops rest) :
    Lexes (if b then "true" else "false").toList [.word (.bool b)] rest := by
  have no : wordToken? ['e', 's', 'l', 'a', 'f'] = some (.word (.bool false)) := rfl
  have yes : wordToken? ['e', 'u', 'r', 't'] = some (.word (.bool true)) := rfl
  cases b with
  | false => exact fun done => tokensFrom?_letters no h
  | true => exact fun done => tokensFrom?_letters yes h

theorem stepBetween?_of_isDigit {c : Char} (h : c.isDigit) :
    stepBetween? c = some ([], .numeral [c]) := by
  have ne : ∀ d : Char, d.isDigit = false → (c == d) = false := by
    rintro d hd
    refine beq_false_of_ne ?_
    rintro rfl
    simp [h] at hd
  simp [stepBetween?, isGap, ne ' ' rfl, ne '\n' rfl, ne '\t' rfl, ne '\r' rfl, ne '"' rfl,
    ne '[' rfl, ne ']' rfl, ne '\x7b' rfl, ne '\x7d' rfl, ne ':' rfl, ne ',' rfl, h]

/-- The characters of a numeral are collected, the last one first. -/
theorem tokensFrom?_numeral {l : List Char} (h : ∀ c ∈ l, inNumeral c) (done : List Token)
    (read rest : List Char) :
    tokensFrom? done (.numeral read) (l ++ rest) =
      tokensFrom? done (.numeral (l.reverse ++ read)) rest := by
  induction l generalizing read with
  | nil => rfl
  | cons c r ih =>
      obtain ⟨hc, hr⟩ := List.forall_mem_cons.1 h
      have step : step? (.numeral read) c = some ([], .numeral (c :: read)) := by
        rw [step?, if_pos hc]
      rw [List.cons_append, tokensFrom?_cons step, List.reverse_nil, List.nil_append, ih hr]
      simp

theorem lexes_form {f : NumeralForm} (h : f.Proper) {rest : List Char} (stop : Stops rest) :
    Lexes f.text [.number f.parts.value?] rest := by
  intro done
  obtain ⟨c, r, hf, first⟩ := f.exists_text_eq_cons h
  have numeral : ∀ c ∈ f.text, inNumeral c := fun _ => NumeralForm.inNumeral_of_mem_text h
  have begins : step? .between c = some ([], .numeral [c]) := by
    rcases first with rfl | digit
    · rfl
    · exact stepBetween?_of_isDigit digit
  have token : numeralToken? f.text.reverse = some (.number f.parts.value?) := by
    rw [numeralToken?, List.reverse_reverse, NumeralForm.of?_text h]
    rfl
  have read : tokensFrom? done .between (f.text ++ rest) =
      tokensFrom? done (.numeral f.text.reverse) rest := by
    rw [hf] at numeral ⊢
    rw [List.cons_append, tokensFrom?_cons begins]
    have collected := tokensFrom?_numeral (List.forall_mem_cons.1 numeral).2 done [c] rest
    simpa using collected
  rw [read]
  refine tokensFrom?_stops stop (by rw [finish?, token]; rfl) fun c other _ => ?_
  rw [step?, if_neg (by simp [other]), token]
  cases stepBetween? c <;> rfl

theorem lexes_number (n : Numeral) {rest : List Char} (h : Stops rest) :
    Lexes (numeral n).toList [numeralTokenOf n] rest := by
  rw [numeralTokenOf]
  rcases exists_form_numeral n with ⟨f, proper, same⟩ | null
  · rw [same, NumeralForm.of?_text proper]
    exact lexes_form proper h
  · rw [null]
    exact lexes_null h

/-! ### Strings -/

theorem isHigh_toNat (c : Char) : isHigh c.toNat = false := by
  have valid : c.toNat < 0xD800 ∨ 0xDFFF < c.toNat ∧ c.toNat < 0x110000 := c.valid
  simp only [isHigh, Bool.and_eq_false_iff, decide_eq_false_iff_not]
  omega

theorem isLow_toNat (c : Char) : isLow c.toNat = false := by
  have valid : c.toNat < 0xD800 ∨ 0xDFFF < c.toNat ∧ c.toNat < 0x110000 := c.valid
  simp only [isLow, Bool.and_eq_false_iff, decide_eq_false_iff_not]
  omega

theorem characters?_map_toNat (l : List Char) : characters? (l.map Char.toNat) = some l := by
  induction l with
  | nil => rfl
  | cons c r ih =>
      rw [List.map_cons, characters?.eq_def]
      simp [isHigh_toNat, isLow_toNat, ih]

theorem hexValue?_hexDigit : ∀ n < 16, hexValue? (hexDigit n) = some n := by decide

/-- A character inside quotes is read back, escaped or not. -/
theorem tokensFrom?_quotedChar (c : Char) (done : List Token) (read : List Nat)
    (rest : List Char) :
    tokensFrom? done (.text read) (quotedChar c ++ rest) =
      tokensFrom? done (.text (c.toNat :: read)) rest := by
  unfold quotedChar
  -- first the characters with an escape of their own
  iterate 7
    split
    · rename_i same
      rw [eq_of_beq same]
      rfl
  split
  · rename_i control
    have high := hexValue?_hexDigit (c.toNat / 16) (by omega)
    have low := hexValue?_hexDigit (c.toNat % 16) (by omega)
    have zero : hexValue? '0' = some 0 := rfl
    have same : 16 * (c.toNat / 16) + c.toNat % 16 = c.toNat := Nat.div_add_mod c.toNat 16
    simp [tokensFrom?, step?, zero, high, low, same]
  · rename_i quote backslash _ _ _ _ _ printed
    have step : step? (.text read) c = some ([], .text (c.toNat :: read)) := by
      rw [step?, if_neg quote, if_neg backslash, if_neg printed]
    exact tokensFrom?_cons step

theorem tokensFrom?_quotedChars (l : List Char) (done : List Token) (read : List Nat)
    (rest : List Char) :
    tokensFrom? done (.text read) (l.flatMap quotedChar ++ rest) =
      tokensFrom? done (.text ((l.map Char.toNat).reverse ++ read)) rest := by
  induction l generalizing read with
  | nil => rfl
  | cons c r ih =>
      rw [List.flatMap_cons, List.append_assoc, tokensFrom?_quotedChar, ih]
      simp

theorem lexes_quoted (s : String) (rest : List Char) :
    Lexes (quoted s).toList [.string (some s)] rest := by
  intro done
  have text : (quoted s).toList ++ rest =
      '"' :: (s.toList.flatMap quotedChar ++ '"' :: rest) := by
    simp [quoted, String.toList_append]
  have opens : step? .between '"' = some ([], .text []) := rfl
  have closes : step? (.text (s.toList.map Char.toNat).reverse) '"' =
      some ([.string (some s)], .between) := by
    rw [step?, if_pos (beq_self_eq_true _), stringToken, List.reverse_reverse,
      characters?_map_toNat]
    simp
  rw [text, tokensFrom?_cons opens, List.reverse_nil, List.nil_append, tokensFrom?_quotedChars,
    List.append_nil, tokensFrom?_cons closes]

/-! ### Arrays and objects -/

theorem lexes_mark {c : Char} {t : Token} (h : stepBetween? c = some ([t], .between))
    (rest : List Char) : Lexes [c] [t] rest :=
  fun _ => tokensFrom?_cons h

theorem lexes_gaps {l : List Char} (h : ∀ c ∈ l, isGap c) (rest : List Char) :
    Lexes l [] rest := by
  intro done
  induction l with
  | nil => rfl
  | cons c r ih =>
      obtain ⟨hc, hr⟩ := List.forall_mem_cons.1 h
      have step : step? .between c = some ([], .between) := by
        rw [step?, stepBetween?, if_pos hc]
      rw [List.cons_append, tokensFrom?_cons step]
      exact ih hr

theorem toList_newLine (depth : Nat) :
    (newLine depth).toList = '\n' :: List.replicate (2 * depth) ' ' := by
  simp [newLine, String.toList_append]

theorem lexes_newLine (depth : Nat) (rest : List Char) :
    Lexes (newLine depth).toList [] rest := by
  refine lexes_gaps (fun c hc => ?_) rest
  rw [toList_newLine] at hc
  rcases List.mem_cons.1 hc with rfl | space
  · rfl
  · rw [(List.mem_replicate.1 space).2]
    rfl

theorem stops_newLine (depth : Nat) (rest : List Char) :
    Stops ((newLine depth).toList ++ rest) := by
  rw [toList_newLine]
  exact stops_cons rfl (by decide) _

theorem lexes_separator (depth : Nat) (rest : List Char) :
    Lexes ("," ++ newLine depth).toList [.comma] rest := by
  rw [String.toList_append]
  exact (lexes_mark rfl _).append (lexes_newLine depth rest)

theorem stops_separator (depth : Nat) (rest : List Char) :
    Stops (("," ++ newLine depth).toList ++ rest) := by
  rw [String.toList_append]
  exact stops_cons rfl (by decide) _

/-- The text consists of these tokens wherever it stops. -/
def LexesStopped (text : String) (ts : List Token) : Prop :=
  ∀ rest, Stops rest → Lexes text.toList ts rest

theorem lexes_intercalate (depth : Nat) {parts : List String} {tss : List (List Token)}
    (h : List.Forall₂ LexesStopped parts tss) :
    LexesStopped (("," ++ newLine depth).intercalate parts) ([.comma].intercalate tss) := by
  induction h with
  | nil => exact fun _ _ _ => rfl
  | @cons part ts parts tss hp hr ih =>
      cases hr with
      | nil => simpa using hp
      | cons hp' hr' =>
          intro rest stop
          rw [String.intercalate_cons_cons, List.intercalate_cons_cons, String.toList_append,
            String.toList_append, List.append_assoc, List.append_assoc]
          refine Lexes.append (hp _ ?_) (Lexes.append (lexes_separator depth _) (ih rest stop))
          rw [List.append_assoc]
          exact stops_separator depth _

theorem lexes_block {opening closing : String} {o c : Char} {t u : Token}
    (ho : opening.toList = [o]) (hc : closing.toList = [c])
    (opens : stepBetween? o = some ([t], .between))
    (closes : stepBetween? c = some ([u], .between)) (depth : Nat) {parts : List String}
    {tss : List (List Token)} (h : List.Forall₂ LexesStopped parts tss) (rest : List Char) :
    Lexes (block opening closing depth parts).toList (t :: ([.comma].intercalate tss ++ [u]))
      rest := by
  unfold block
  cases h with
  | nil =>
      rw [List.isEmpty_nil, if_pos rfl, String.toList_append, ho, hc]
      exact (lexes_mark opens _).append (lexes_mark closes rest)
  | cons hp hr =>
      have inner := lexes_intercalate (depth + 1) (.cons hp hr)
      simp only [List.isEmpty_cons, Bool.false_eq_true, if_false, String.toList_append, ho, hc,
        List.append_assoc]
      have last := (lexes_newLine depth ([c] ++ rest)).append (lexes_mark closes rest)
      have stop : Stops ((newLine depth).toList ++ [c] ++ rest) := by
        rw [List.append_assoc]
        exact stops_newLine depth _
      have within := (inner _ stop).append last
      exact (lexes_mark opens _).append ((lexes_newLine (depth + 1) _).append within)

mutual

theorem lexes_prettyAt (depth : Nat) : ∀ v : Json, LexesStopped (v.prettyAt depth) (tokensOf v)
  | .null => fun _ h => lexes_null h
  | .bool b => fun _ h => lexes_bool b h
  | .number n => fun _ h => lexes_number n h
  | .string s => fun rest _ => lexes_quoted s rest
  | .array items => fun rest _ =>
    lexes_block rfl rfl rfl rfl depth (lexes_prettyItems (depth + 1) items) rest
  | .object members => fun rest _ =>
    lexes_block rfl rfl rfl rfl depth (lexes_prettyMembers (depth + 1) members) rest
  | .unfit => fun _ h => lexes_null h

theorem lexes_prettyItems (depth : Nat) :
    ∀ items : List Json, List.Forall₂ LexesStopped (prettyItems depth items) (itemTokens items)
  | [] => .nil
  | v :: r => .cons (lexes_prettyAt depth v) (lexes_prettyItems depth r)

theorem lexes_prettyMembers (depth : Nat) :
    ∀ members : List (String × Json),
      List.Forall₂ LexesStopped (prettyMembers depth members) (memberTokens members)
  | [] => .nil
  | (k, v) :: r => by
    refine .cons (fun rest stop => ?_) (lexes_prettyMembers depth r)
    rw [String.toList_append, String.toList_append, List.append_assoc]
    have colon : Lexes ": ".toList [.colon] ((v.prettyAt depth).toList ++ rest) :=
      (lexes_mark rfl _).append (lexes_gaps (List.forall_mem_singleton.2 rfl) _)
    exact (lexes_quoted k _).append (colon.append (lexes_prettyAt depth v rest stop))

end

/-- The tokens of the text of a value are those of the value. -/
theorem tokens?_pretty (v : Json) : tokens? v.pretty.toList = some (tokensOf v) := by
  have lexes := lexes_prettyAt 0 v [] stops_nil []
  rw [List.append_nil, List.append_nil] at lexes
  rw [tokens?, pretty, lexes, tokensFrom?, finish?]
  simp

end PageAid.Json
