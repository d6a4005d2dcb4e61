import PageAid.Json.Reader
import PageAid.Proofs.Json.Lexing

/-!
A printed value that is read again. `rereadAt` says what becomes of a value at a depth of nesting:
a number is what its text says, and an array or an object within too many others cannot be kept.
`read?_pretty` is the main result: this is what reading the text gives. A value in which every
number is kept and nothing is nested too deep comes back as it was, which is shown apart.
-/

namespace PageAid.Json

mutual

/-- The value as it reads back from its text, within a number of arrays and objects. -/
def rereadAt (depth : Nat) : Json → Json
  | null => null
  | bool b => bool b
  | number n => rereadNumeral n
  | string s => string s
  | array items => if depth < maxDepth then array (rereadItems (depth + 1) items) else unfit
  | object members =>
    if depth < maxDepth then object (rereadMembers (depth + 1) members) else unfit
  | unfit => null

def rereadItems (depth : Nat) : List Json → List Json
  | [] => []
  | v :: r => rereadAt depth v :: rereadItems depth r

def rereadMembers (depth : Nat) : List (String × Json) → List (String × Json)
  | [] => []
  | (k, v) :: r => (k, rereadAt depth v) :: rereadMembers depth r

end

/-! ### Reading the tokens of a value -/

def readTokens? (r : Reading) (ts : List Token) : Option Reading := ts.foldlM Reading.step? r

theorem readTokens?_cons {r r' : Reading} {t : Token} (h : r.step? t = some r') (ts : List Token) :
    readTokens? r (t :: ts) = readTokens? r' ts := by
  rw [readTokens?, List.foldlM_cons, h]
  rfl

theorem readTokens?_append {r r' : Reading} {ts : List Token} (h : readTokens? r ts = some r')
    (us : List Token) : readTokens? r (ts ++ us) = readTokens? r' us := by
  rw [readTokens?, List.foldlM_append, ← readTokens?, h]
  rfl

/-- The tokens are those of a value that reads back as `v`, where it stands within the frames. -/
def Reads (frames : List Frame) (ts : List Token) (v : Json) : Prop :=
  readTokens? ⟨.value, frames, .null⟩ ts = some (.gave frames v)

theorem exists_tokensOf_eq_cons (v : Json) :
    ∃ t r, tokensOf v = t :: r ∧ ∀ frames, Reading.closed? frames t = none := by
  cases v with
  | number n =>
      refine ⟨numeralTokenOf n, [], rfl, fun frames => ?_⟩
      unfold numeralTokenOf
      split <;> rfl
  | _ => exact ⟨_, _, rfl, fun _ => rfl⟩

theorem readTokens?_firstItem (frames : List Frame) (v : Json) (us : List Token) :
    readTokens? ⟨.firstItem, frames, .null⟩ (tokensOf v ++ us) =
      readTokens? ⟨.value, frames, .null⟩ (tokensOf v ++ us) := by
  obtain ⟨t, r, hv, opens⟩ := exists_tokensOf_eq_cons v
  have same : Reading.step? ⟨.firstItem, frames, .null⟩ t =
      Reading.step? ⟨.value, frames, .null⟩ t := by
    simp [Reading.step?, opens]
  rw [hv, List.cons_append, readTokens?, List.foldlM_cons, same, readTokens?, List.foldlM_cons]

theorem reads_number (frames : List Frame) (n : Numeral) :
    Reads frames [numeralTokenOf n] (rereadNumeral n) := by
  unfold Reads numeralTokenOf rereadNumeral
  cases NumeralText.of? (numeral n).toList <;> rfl

theorem gaveNested_eq (outer : List Frame) (v : Json) :
    Reading.gaveNested outer v =
      .gave outer (if outer.length < maxDepth then v else .unfit) := rfl

theorem readTokens?_items (frames : List Frame) {items : List Json} (some : items ≠ [])
    (h : ∀ v ∈ items, ∀ frames, Reads frames (tokensOf v) (rereadAt frames.length v))
    (done : List Json) :
    readTokens? ⟨.value, .items done :: frames, .null⟩
        ([.comma].intercalate (itemTokens items) ++ [.closeArray]) =
      .some (.gaveNested frames
        (.array (done.reverse ++ rereadItems (frames.length + 1) items))) := by
  induction items generalizing done with
  | nil => exact absurd rfl some
  | cons v r ih =>
      obtain ⟨hv, hr⟩ := List.forall_mem_cons.1 h
      have first := hv (.items done :: frames)
      cases r with
      | nil =>
          rw [itemTokens, itemTokens, List.intercalate_singleton, readTokens?_append first]
          simp [rereadItems, readTokens?, Reading.step?, Reading.gave, Reading.closed?]
      | cons w r =>
          have rest := ih (by simp) hr (rereadAt (frames.length + 1) v :: done)
          have comma : Reading.step?
              (.gave (.items done :: frames) (rereadAt (frames.length + 1) v)) .comma =
                .some ⟨.value, .items (rereadAt (frames.length + 1) v :: done) :: frames,
                  .null⟩ := rfl
          rw [itemTokens] at rest
          rw [itemTokens, itemTokens, List.intercalate_cons_cons, List.append_assoc,
            List.append_assoc, readTokens?_append first, List.singleton_append, List.length_cons,
            readTokens?_cons comma, rest]
          simp [rereadItems]

theorem readTokens?_members (frames : List Frame) {members : List (String × Json)}
    (some : members ≠ [])
    (h : ∀ e ∈ members, ∀ frames, Reads frames (tokensOf e.2) (rereadAt frames.length e.2))
    (done : List (String × Json)) (name : String) :
    readTokens? ⟨.name, .members done name true :: frames, .null⟩
        ([.comma].intercalate (memberTokens members) ++ [.closeObject]) =
      .some (.gaveNested frames
        (.object (done.reverse ++ rereadMembers (frames.length + 1) members))) := by
  induction members generalizing done name with
  | nil => exact absurd rfl some
  | cons e r ih =>
      obtain ⟨k, v⟩ := e
      obtain ⟨hv, hr⟩ := List.forall_mem_cons.1 h
      have named : Reading.step? ⟨.name, .members done name true :: frames, .null⟩
          (.string (.some k)) = .some ⟨.colon, .members done k true :: frames, .null⟩ := rfl
      have colon : Reading.step? ⟨.colon, .members done k true :: frames, .null⟩ .colon =
          .some ⟨.value, .members done k true :: frames, .null⟩ := rfl
      have first := hv (.members done k true :: frames)
      cases r with
      | nil =>
          rw [memberTokens, memberTokens, List.intercalate_singleton, List.cons_append,
            readTokens?_cons named, List.cons_append, readTokens?_cons colon,
            readTokens?_append first]
          simp [rereadMembers, readTokens?, Reading.step?, Reading.gave, Reading.closed?]
      | cons e r =>
          obtain ⟨k', w⟩ := e
          have rest := ih (by simp) hr ((k, rereadAt (frames.length + 1) v) :: done) k
          have comma : Reading.step?
              (.gave (.members done k true :: frames) (rereadAt (frames.length + 1) v)) .comma =
                .some ⟨.name, .members ((k, rereadAt (frames.length + 1) v) :: done) k true ::
                  frames, .null⟩ := rfl
          rw [memberTokens] at rest
          rw [memberTokens, memberTokens, List.intercalate_cons_cons, List.append_assoc,
            List.append_assoc, List.cons_append, readTokens?_cons named, List.cons_append,
            readTokens?_cons colon, readTokens?_append first, List.singleton_append,
            List.length_cons, readTokens?_cons comma, rest]
          simp [rereadMembers]

theorem reads_array {items : List Json}
    (h : ∀ v ∈ items, ∀ frames, Reads frames (tokensOf v) (rereadAt frames.length v))
    (frames : List Frame) :
    Reads frames (tokensOf (.array items)) (rereadAt frames.length (.array items)) := by
  have opened : Reading.step? ⟨.value, frames, .null⟩ .openArray =
      some ⟨.firstItem, .items [] :: frames, .null⟩ := rfl
  rw [Reads, tokensOf, rereadAt, readTokens?_cons opened, ← gaveNested_eq]
  cases items with
  | nil => rfl
  | cons v r =>
      have items := readTokens?_items frames (by simp) h []
      -- the first token of the items is one of their values
      have first : ∃ us, [.comma].intercalate (itemTokens (v :: r)) ++ [.closeArray] =
          tokensOf v ++ us := by
        cases r with
        | nil => exact ⟨[.closeArray], by simp [itemTokens]⟩
        | cons w r =>
            refine ⟨.comma :: ([.comma].intercalate (itemTokens (w :: r)) ++ [.closeArray]), ?_⟩
            simp [itemTokens]
      obtain ⟨us, same⟩ := first
      rw [same] at items ⊢
      rw [readTokens?_firstItem, items]
      rfl

theorem reads_object {members : List (String × Json)}
    (h : ∀ e ∈ members, ∀ frames, Reads frames (tokensOf e.2) (rereadAt frames.length e.2))
    (frames : List Frame) :
    Reads frames (tokensOf (.object members)) (rereadAt frames.length (.object members)) := by
  have opened : Reading.step? ⟨.value, frames, .null⟩ .openObject =
      some ⟨.firstName, .members [] "" true :: frames, .null⟩ := rfl
  rw [Reads, tokensOf, rereadAt, readTokens?_cons opened, ← gaveNested_eq]
  cases members with
  | nil => rfl
  | cons e r =>
      have members := readTokens?_members frames (by simp) h [] ""
      -- the first token of the members is a name
      have first : ∃ k us, [.comma].intercalate (memberTokens (e :: r)) ++ [.closeObject] =
          .string (some k) :: us := by
        cases r with
        | nil => exact ⟨e.1, _, by simp [memberTokens]; rfl⟩
        | cons e' r => exact ⟨e.1, _, by simp [memberTokens]; rfl⟩
      obtain ⟨k, us, same⟩ := first
      rw [same] at members ⊢
      exact members

mutual

/-- The tokens of a value give the value as it reads back. -/
theorem reads_tokensOf : ∀ (v : Json) (frames : List Frame),
    Reads frames (tokensOf v) (rereadAt frames.length v)
  | .null, _ => rfl
  | .bool _, _ => rfl
  | .number n, frames => reads_number frames n
  | .string _, _ => rfl
  | .array items, frames => reads_array (reads_items items) frames
  | .object members, frames => reads_object (reads_members members) frames
  | .unfit, _ => rfl

theorem reads_items : ∀ items : List Json, ∀ v ∈ items, ∀ frames,
    Reads frames (tokensOf v) (rereadAt frames.length v)
  | [] => by simp
  | v :: r => List.forall_mem_cons.2 ⟨reads_tokensOf v, reads_items r⟩

theorem reads_members : ∀ members : List (String × Json), ∀ e ∈ members, ∀ frames,
    Reads frames (tokensOf e.2) (rereadAt frames.length e.2)
  | [] => by simp
  | (_, v) :: r => List.forall_mem_cons.2 ⟨reads_tokensOf v, reads_members r⟩

end

/-- Reading the text of a value gives the value as it reads back. -/
theorem read?_pretty (v : Json) : read? v.pretty = some (rereadAt 0 v) := by
  have reads := reads_tokensOf v []
  rw [Reads, readTokens?, List.length_nil] at reads
  rw [read?, tokens?_pretty]
  simp only [Option.bind_eq_bind, Option.bind_some, ofTokens?, reads]
  rfl

end PageAid.Json
