import PageAid.Json.Numeral
import PageAid.Json.Printer
import PageAid.Json.Token
import PageAid.Proofs.Number.Layout

/-!
The numerals that are printed are numerals that can be read. `NumeralForm` is the form that they
share (`exists_form_numeral`), and a text in this form is taken apart into what it was put together
from (`of?_text`). Of the values, whole numbers of 64 bits come back as they were
(`rereadNumeral_whole`).
-/

namespace PageAid.Json

/-! ### Runs of digits -/

theorem asciiDigit?_eq (c : Char) :
    Text.asciiDigit? c = if c.isDigit then some (c.toNat - '0'.toNat) else none := by
  simp only [Text.asciiDigit?, Char.isDigit]
  rfl

def digitValues (l : List Char) : List Nat := l.map fun c => c.toNat - '0'.toNat

structure AllDigits (l : List Char) : Prop where
  ne_nil : l ≠ []
  isDigit : ∀ c ∈ l, c.isDigit

/-- What follows a run of digits: nothing, or something that is no digit. -/
def EndsDigits (rest : List Char) : Prop := ∀ c r, rest = c :: r → c.isDigit = false

theorem digitRun_append {l rest : List Char} (h : ∀ c ∈ l, c.isDigit) (stop : EndsDigits rest) :
    digitRun (l ++ rest) = (digitValues l, rest) := by
  induction l with
  | nil =>
      cases rest with
      | nil => rfl
      | cons c r =>
          rw [List.nil_append, digitRun, asciiDigit?_eq, stop c r rfl]
          rfl
  | cons c r ih =>
      obtain ⟨hc, hr⟩ := List.forall_mem_cons.1 h
      rw [List.cons_append, digitRun, asciiDigit?_eq, if_pos hc, ih hr]
      rfl

theorem digitRun_eq {l : List Char} (h : ∀ c ∈ l, c.isDigit) :
    digitRun l = (digitValues l, []) := by
  have run := digitRun_append h (fun c r none => by simp at none : EndsDigits [])
  rwa [List.append_nil] at run

theorem AllDigits.exists_digitValues {l : List Char} (h : AllDigits l) :
    ∃ d r, digitValues l = d :: r := by
  refine List.exists_cons_of_ne_nil ?_
  simpa [digitValues] using h.ne_nil

/-! ### The form of a numeral -/

/-- The text of a numeral in its parts. The exponent is written with a sign, and `true` stands for
that of a negative one. -/
structure NumeralForm where
  negative : Bool
  whole : List Char
  fraction : Option (List Char)
  exponent : Option (Bool × List Char)

namespace NumeralForm

def pointPart (f : NumeralForm) : List Char :=
  match f.fraction with
  | none => []
  | some ds => '.' :: ds

def exponentPart (f : NumeralForm) : List Char :=
  match f.exponent with
  | none => []
  | some (negative, ds) => 'e' :: (if negative then '-' else '+') :: ds

def text (f : NumeralForm) : List Char :=
  (if f.negative then ['-'] else []) ++ (f.whole ++ (f.pointPart ++ f.exponentPart))

/-- At least one digit in each place, and no zero in front of other digits. -/
structure Proper (f : NumeralForm) : Prop where
  whole : AllDigits f.whole
  leading : f.whole.head? = some '0' → f.whole = ['0']
  fraction : ∀ ds, f.fraction = some ds → AllDigits ds
  exponent : ∀ negative ds, f.exponent = some (negative, ds) → AllDigits ds

def parts (f : NumeralForm) : NumeralText :=
  ⟨f.negative, digitValues f.whole, f.fraction.map digitValues,
    f.exponent.map fun (negative, ds) => (negative, digitValues ds)⟩

variable {f : NumeralForm}

theorem endsDigits_exponentPart (f : NumeralForm) : EndsDigits f.exponentPart := by
  unfold exponentPart
  split
  · simp [EndsDigits]
  · rintro c r h
    obtain ⟨rfl, -⟩ := List.cons.inj h
    rfl

theorem endsDigits_afterWhole (f : NumeralForm) :
    EndsDigits (f.pointPart ++ f.exponentPart) := by
  unfold pointPart
  split
  · exact f.endsDigits_exponentPart
  · rintro c r h
    obtain ⟨rfl, -⟩ := List.cons.inj h
    rfl

theorem exponentOf?_eq {negative : Bool} {ds : List Char} (h : AllDigits ds) :
    exponentOf? ((if negative then '-' else '+') :: ds) = some (negative, digitValues ds) := by
  obtain ⟨d, r, hd⟩ := h.exists_digitValues
  cases negative <;> simp [exponentOf?, digitRun_eq h.isDigit, hd]

theorem fractionOf?_eq (h : f.Proper) :
    fractionOf? (f.pointPart ++ f.exponentPart) =
      some (f.fraction.map digitValues, f.exponentPart) := by
  cases hf : f.fraction with
  | none =>
      -- an exponent does not begin with a point
      cases he : f.exponent <;> simp [pointPart, exponentPart, hf, he, fractionOf?]
  | some ds =>
      obtain ⟨d, r, hd⟩ := (h.fraction ds hf).exists_digitValues
      have run := digitRun_append (h.fraction ds hf).isDigit f.endsDigits_exponentPart
      simp [pointPart, hf, fractionOf?, run, hd]

theorem digitValues_leading {l : List Char} (h : ∀ c ∈ l, c.isDigit)
    (zero : (digitValues l).head? = some 0) : l.head? = some '0' := by
  cases l with
  | nil => simp [digitValues] at zero
  | cons c r =>
      have hc := Char.isDigit_iff_toNat.1 (h c (by simp))
      have value : c.toNat - '0'.toNat = 0 := Option.some.inj zero
      have same : c.toNat = '0'.toNat := Nat.le_antisymm (Nat.sub_eq_zero_iff_le.1 value) hc.1
      rw [List.head?_cons, Char.toNat_inj.1 same]

theorem unsigned?_eq (h : f.Proper) :
    NumeralText.unsigned? f.negative (f.whole ++ (f.pointPart ++ f.exponentPart)) =
      some f.parts := by
  obtain ⟨d, r, hd⟩ := h.whole.exists_digitValues
  have leading : ¬((digitValues f.whole).isEmpty ||
      (1 < (digitValues f.whole).length && (digitValues f.whole).head? == some 0)) := by
    intro bad
    simp only [hd, List.isEmpty_cons, Bool.false_or, Bool.and_eq_true, decide_eq_true_eq,
      beq_iff_eq] at bad
    rw [← hd] at bad
    have alone := h.leading (digitValues_leading h.whole.isDigit bad.2)
    simp [alone, digitValues] at bad
  rw [NumeralText.unsigned?, digitRun_append h.whole.isDigit f.endsDigits_afterWhole]
  dsimp only
  rw [if_neg leading, fractionOf?_eq h, Option.bind_some]
  dsimp only
  cases he : f.exponent with
  | none => simp [exponentPart, parts, he]
  | some e =>
      obtain ⟨negative, ds⟩ := e
      simp [exponentPart, parts, he, exponentOf?_eq (h.exponent negative ds he)]

/-- A text in proper form is taken apart into what it was put together from. -/
theorem of?_text (h : f.Proper) : NumeralText.of? f.text = some f.parts := by
  have unsigned := unsigned?_eq h
  obtain ⟨c, w, hw⟩ := List.exists_cons_of_ne_nil h.whole.ne_nil
  have ne : c ≠ '-' := by
    rintro rfl
    simpa using h.whole.isDigit '-' (by simp [hw])
  rw [text]
  cases hn : f.negative with
  | true =>
      rw [hn] at unsigned
      exact unsigned
  | false =>
      rw [hn, hw] at unsigned
      rw [hw, NumeralText.of?]
      · exact unsigned
      · simpa using ne

theorem inNumeral_of_mem_text (h : f.Proper) {c : Char} (hc : c ∈ f.text) : inNumeral c := by
  have digit : ∀ c : Char, c.isDigit → inNumeral c := by
    intro c hc
    simp [inNumeral, hc]
  rw [text, List.mem_append, List.mem_append, List.mem_append] at hc
  rcases hc with sign | whole | point | exponent
  · split at sign
    · obtain rfl := List.mem_singleton.1 sign
      decide
    · simp at sign
  · exact digit c (h.whole.isDigit c whole)
  · unfold pointPart at point
    split at point
    · simp at point
    · rename_i ds hf
      rcases List.mem_cons.1 point with rfl | within
      · decide
      · exact digit c ((h.fraction ds hf).isDigit c within)
  · unfold exponentPart at exponent
    split at exponent
    · simp at exponent
    · rename_i negative ds he
      rcases List.mem_cons.1 exponent with rfl | within
      · decide
      · rcases List.mem_cons.1 within with rfl | within
        · cases negative <;> decide
        · exact digit c ((h.exponent negative ds he).isDigit c within)

theorem exists_text_eq_cons (h : f.Proper) :
    ∃ c r, f.text = c :: r ∧ (c = '-' ∨ c.isDigit) := by
  obtain ⟨c, w, hw⟩ := List.exists_cons_of_ne_nil h.whole.ne_nil
  rw [text]
  cases f.negative with
  | true => exact ⟨'-', _, rfl, .inl rfl⟩
  | false =>
      refine ⟨c, w ++ (f.pointPart ++ f.exponentPart), by rw [hw]; rfl, .inr ?_⟩
      exact h.whole.isDigit c (by simp [hw])

end NumeralForm

/-! ### Printed numbers -/

def wholeForm (n : Int) : NumeralForm := ⟨decide (n < 0), Nat.toDigits 10 n.natAbs, none, none⟩

theorem text_wholeForm (n : Int) : (wholeForm n).text = (numeral (.whole n)).toList := by
  rw [numeral, Int.toString_eq_repr, Int.repr_eq_if]
  by_cases h : 0 ≤ n
  · have same : n.toNat = n.natAbs := by omega
    have positive : ¬n < 0 := by omega
    simp [NumeralForm.text, wholeForm, NumeralForm.pointPart, NumeralForm.exponentPart, h, same,
      positive]
  · have same : (-n).toNat = n.natAbs := by omega
    have negative : n < 0 := by omega
    simp [NumeralForm.text, wholeForm, NumeralForm.pointPart, NumeralForm.exponentPart, h, same,
      negative, String.toList_append]

theorem allDigits_toDigits (n : Nat) : AllDigits (Nat.toDigits 10 n) :=
  ⟨Nat.toDigits_ne_nil, fun _ hc => Nat.isDigit_of_mem_toDigits (by decide) (by decide) hc⟩

theorem proper_wholeForm (n : Int) : (wholeForm n).Proper where
  whole := allDigits_toDigits n.natAbs
  leading zero := by
    rcases Nat.eq_zero_or_pos n.natAbs with none | pos
    · rw [wholeForm, none, Nat.toDigits_zero]
    · exact absurd zero (Number.head?_toDigits_ne pos)
  fraction _ none := by simp [wholeForm] at none
  exponent _ _ none := by simp [wholeForm] at none

namespace NumeralForm

theorem exists_form_signed {body : List Char}
    (h : ∃ f : NumeralForm, f.Proper ∧ f.negative = false ∧ body = f.text) (negative : Bool) :
    ∃ f : NumeralForm, f.Proper ∧ (if negative then '-' :: body else body) = f.text := by
  obtain ⟨f, proper, sign, rfl⟩ := h
  refine ⟨{ f with negative := negative },
    ⟨proper.whole, proper.leading, proper.fraction, proper.exponent⟩, ?_⟩
  cases negative <;> simp [text, pointPart, exponentPart, sign]

theorem exists_form_positional {d : Number.Digits} (h : d.Proper) :
    ∃ f : NumeralForm, f.Proper ∧ f.negative = false ∧
      (if d.positional.contains '.' then d.positional else d.positional ++ ['.', '0']) =
        f.text := by
  unfold Number.Digits.positional
  split
  · -- all digits stand after the point
    refine ⟨⟨false, ['0'], some (List.replicate (-d.point).toNat '0' ++ d.digits), none⟩,
      ⟨⟨by simp, by simp⟩, fun _ => rfl, ?_, by simp⟩, rfl, ?_⟩
    · rintro ds hds
      obtain rfl := Option.some.inj hds
      refine ⟨by simp [h.ne_nil], fun c hc => ?_⟩
      rcases List.mem_append.1 hc with zero | digit
      · rw [(List.mem_replicate.1 zero).2]
        rfl
      · exact h.isDigit c digit
    · simp [text, pointPart, exponentPart]
  · rename_i positive
    dsimp only
    split
    · -- all digits stand before the point, and perhaps zeros after them
      rename_i short
      have digits : ∀ c ∈ d.digits ++ List.replicate (d.point.toNat - d.digits.length) '0',
          c.isDigit := by
        intro c hc
        rcases List.mem_append.1 hc with digit | zero
        · exact h.isDigit c digit
        · rw [(List.mem_replicate.1 zero).2]
          rfl
      have pointless : (d.digits ++
          List.replicate (d.point.toNat - d.digits.length) '0').contains '.' = false := by
        rw [← Bool.not_eq_true, List.contains_iff_mem]
        intro point
        simpa using digits '.' point
      refine ⟨⟨false, d.digits ++ List.replicate (d.point.toNat - d.digits.length) '0',
        some ['0'], none⟩, ⟨⟨by simp [h.ne_nil], digits⟩, fun zero => ?_, ?_, by simp⟩, rfl, ?_⟩
      · have same := h.leading (by
          rwa [List.head?_append_of_ne_nil _ h.ne_nil] at zero)
        simp [same]
      · rintro ds hds
        obtain rfl := Option.some.inj hds
        exact ⟨by simp, by simp⟩
      · rw [pointless]
        simp [text, pointPart, exponentPart]
    · -- the point stands between the digits
      rename_i long
      have front : d.digits.take d.point.toNat ≠ [] := by
        have := h.ne_nil
        have : d.point.toNat ≠ 0 := by omega
        simp [*]
      refine ⟨⟨false, d.digits.take d.point.toNat, some (d.digits.drop d.point.toNat), none⟩,
        ⟨⟨front, fun c hc => h.isDigit c (List.mem_of_mem_take hc)⟩, fun zero => ?_, ?_, by simp⟩,
        rfl, ?_⟩
      · have same := h.leading (by
          rw [← zero, List.head?_take, if_neg (by omega)])
        rw [same] at long
        simp at long
      · rintro ds hds
        obtain rfl := Option.some.inj hds
        refine ⟨?_, fun c hc => h.isDigit c (List.mem_of_mem_drop hc)⟩
        rw [Ne, List.drop_eq_nil_iff]
        omega
      · simp [text, pointPart, exponentPart]

theorem exists_form_scientific {d : Number.Digits} (h : d.Proper) :
    ∃ f : NumeralForm, f.Proper ∧ f.negative = false ∧ d.scientific = f.text := by
  obtain ⟨c, r, hd⟩ := List.exists_cons_of_ne_nil h.ne_nil
  have digit := h.isDigit c (by simp [hd])
  have rest : ∀ c ∈ r, c.isDigit := fun c hc => h.isDigit c (by simp [hd, hc])
  refine ⟨⟨false, [c], if r = [] then none else some r,
    some (decide (d.point - 1 < 0), Nat.toDigits 10 (d.point - 1).natAbs)⟩,
    ⟨⟨by simp, by simpa using digit⟩, fun zero => ?_, ?_, ?_⟩, rfl, ?_⟩
  · rw [Option.some.inj zero]
  · intro ds hds
    split at hds
    · simp at hds
    · rename_i some
      obtain rfl := Option.some.inj hds
      exact ⟨some, rest⟩
  · intro negative ds hds
    obtain ⟨-, rfl⟩ := Prod.mk.inj (Option.some.inj hds)
    exact allDigits_toDigits _
  · unfold Number.Digits.scientific
    dsimp only
    rw [hd]
    cases r with
    | nil => simp [text, pointPart, exponentPart]
    | cons c' r => simp [text, pointPart, exponentPart]

end NumeralForm

/-- What is printed for a number is in proper form, unless it is not finite. -/
theorem exists_form_documentText (x : Float) :
    (∃ f : NumeralForm, f.Proper ∧ Number.documentText x = f.text) ∨
      Number.documentText x = ['n', 'u', 'l', 'l'] := by
  unfold Number.documentText
  split
  · rename_i negative significand exponent atPower _
    dsimp only
    refine .inl (NumeralForm.exists_form_signed ?_ negative)
    split
    · refine ⟨⟨false, ['0'], some ['0'], none⟩,
        ⟨⟨by simp, by simp⟩, fun _ => rfl, ?_, by simp⟩, rfl, rfl⟩
      rintro ds hds
      obtain rfl := Option.some.inj hds
      exact ⟨by simp, by simp⟩
    · rename_i positive
      have proper := Number.shortest_proper .toEven
        (Nat.pos_of_ne_zero (by simpa using positive)) exponent atPower
      split
      · exact NumeralForm.exists_form_positional proper
      · exact NumeralForm.exists_form_scientific proper
  · exact .inr rfl

theorem exists_form_numeral (n : Numeral) :
    (∃ f : NumeralForm, f.Proper ∧ (numeral n).toList = f.text) ∨
      (numeral n).toList = ['n', 'u', 'l', 'l'] := by
  cases n with
  | whole n => exact .inl ⟨wholeForm n, proper_wholeForm n, (text_wholeForm n).symm⟩
  | real x =>
      rw [numeral, String.toList_ofList]
      exact exists_form_documentText x

/-! ### The values of printed numbers -/

def rereadNumeral (n : Numeral) : Json :=
  match NumeralText.of? (numeral n).toList with
  | some t => (t.value?.map .number).getD .unfit
  | none => .null

theorem le_foldl (l : List Nat) (start : Nat) :
    start ≤ l.foldl (fun n d => 10 * n + d) start := by
  induction l generalizing start with
  | nil => exact Nat.le_refl _
  | cons d r ih => exact Nat.le_trans (by omega) (ih (10 * start + d))

/-- All digits go into the significand as long as their number fits. -/
theorem significandOf_eq (l : List Nat) (start : Nat)
    (h : l.foldl (fun n d => 10 * n + d) start ≤ maxSignificand) :
    significandOf start l = (l.foldl (fun n d => 10 * n + d) start, l.length, 0) := by
  induction l generalizing start with
  | nil => rfl
  | cons d r ih =>
      rw [List.foldl_cons] at h ⊢
      have fits := Nat.le_trans (le_foldl r (10 * start + d)) h
      rw [significandOf, if_pos fits, ih _ h]
      rfl

theorem foldl_digitValues_toDigits (n : Nat) :
    (digitValues (Nat.toDigits 10 n)).foldl (fun n d => 10 * n + d) 0 = n := by
  rw [digitValues, List.foldl_map]
  exact Nat.ofDigitChars_ten_toDigits

/-- Whole numbers of 64 bits, with a sign or without, come back as they were. -/
theorem rereadNumeral_whole {n : Int} (low : -0x8000000000000000 ≤ n)
    (high : n ≤ 0xFFFFFFFFFFFFFFFF) : rereadNumeral (.whole n) = .number (.whole n) := by
  have fits : n.natAbs ≤ maxSignificand := by
    rw [maxSignificand]
    omega
  have digits := foldl_digitValues_toDigits n.natAbs
  have value : (wholeForm n).parts.value? = some (.whole n) := by
    have significand := significandOf_eq (digitValues (Nat.toDigits 10 n.natAbs)) 0
      (by rw [digits]; exact fits)
    rw [digits] at significand
    simp only [NumeralText.value?, NumeralForm.parts, wholeForm, significand, Option.map_none,
      Option.isNone_none, Bool.and_self, beq_self_eq_true, if_true]
    by_cases h : n < 0
    · have small : 0 < n.natAbs ∧ n.natAbs ≤ 0x8000000000000000 := by omega
      have same : -(n.natAbs : Int) = n := by omega
      simp only [decide_eq_true h, decide_eq_true small.1, decide_eq_true small.2, Bool.not_true,
        Bool.false_eq_true, if_false, Bool.and_self, if_true, same]
    · have same : (n.natAbs : Int) = n := by omega
      simp only [decide_eq_false h, Bool.not_false, if_true, same]
  rw [rereadNumeral, ← text_wholeForm, NumeralForm.of?_text (proper_wholeForm n)]
  dsimp only
  rw [value]
  rfl

end PageAid.Json
