import PageAid.Json.Decode

/-!
Objects with their members in another order and with further members. A reader that asks for
members by name, each of which is there once, does not notice either (`record?_object`,
`tagged?_of_varied`).
-/

namespace PageAid.Json

/-- `w` is the object `v` with its members in any order, and with further members of any sound
value, whose names are neither those of members of `v` nor in `avoided`. -/
inductive Varied (avoided : List String) : Json → Json → Prop where
  | mk (fields extras members : List (String × Json))
      (other : ∀ x ∈ extras, x.1 ∉ fields.map (·.1) ∧ x.1 ∉ avoided)
      (sound : ∀ x ∈ extras, x.2.isSound)
      (order : members.Perm (fields ++ extras)) :
      Varied avoided (.object fields) (.object members)

/-- Among the members there is just one of the name, and it is `v`. -/
def Sole (members : List (String × Json)) (name : String) (v : Json) : Prop :=
  members.filter (·.1 == name) = [(name, v)]

/-! ### Members by name -/

theorem lookup_eq_head?_filter (members : List (String × Json)) (name : String) :
    members.lookup name = ((members.filter (·.1 == name)).head?).map (·.2) := by
  induction members with
  | nil => rfl
  | cons x r ih =>
      obtain ⟨k, v⟩ := x
      by_cases h : k = name
      · subst h
        simp
      · have h' : (name == k) = false := by simpa using Ne.symm h
        rw [List.lookup_cons, h', ih]
        simp [h]

theorem filter_eq_singleton_of_nodup {fields : List (String × Json)} {x : String × Json}
    (distinct : (fields.map (·.1)).Nodup) (among : x ∈ fields) :
    fields.filter (·.1 == x.1) = [x] := by
  induction fields with
  | nil => simp at among
  | cons y r ih =>
      obtain ⟨once, distinct⟩ := List.nodup_cons.1 distinct
      rw [List.filter_cons]
      rcases List.mem_cons.1 among with rfl | within
      · have none : r.filter (·.1 == x.1) = [] := by
          refine List.filter_eq_nil_iff.2 fun z hz same => once ?_
          exact List.mem_map.2 ⟨z, hz, eq_of_beq same⟩
        rw [if_pos (beq_self_eq_true _), none]
      · have ne : y.1 ≠ x.1 := fun same => once (List.mem_map.2 ⟨x, within, same.symm⟩)
        rw [if_neg (by simpa using ne), ih distinct within]

namespace Sole

variable {members : List (String × Json)} {name : String} {v : Json}

theorem lookup (h : Sole members name v) : members.lookup name = some v := by
  rw [lookup_eq_head?_filter, h]
  rfl

theorem without {tag : String} (h : Sole members name v) (ne : name ≠ tag) :
    Sole (members.filter (·.1 != tag)) name v := by
  rw [Sole, List.filter_filter, ← h]
  congr 1
  funext x
  by_cases same : x.1 = name <;> simp [same, ne]

end Sole

theorem record?_object {names : List String} {members : List (String × Json)}
    (h : ∀ name ∈ names, ∃ v, Sole members name v) :
    record? names (.object members) = some ⟨members, false⟩ := by
  rw [record?, if_pos]
  refine List.all_eq_true.2 fun name among => ?_
  obtain ⟨v, sole⟩ := h name among
  rw [sole]
  rfl

theorem required_of_sole {α : Type} {members : List (String × Json)} {name : String} {v : Json}
    (h : Sole members name v) (listed : Bool) (decode : Json → Option α) :
    (⟨members, listed⟩ : Record).required name decode = decode v := by
  rw [Record.required, Record.get?, h.lookup]
  rfl

theorem record?_singleton {members : List (String × Json)} {name : String} {v : Json}
    (h : Sole members name v) : record? [name] (.object members) = some ⟨members, false⟩ := by
  refine record?_object fun other among => ?_
  obtain rfl := List.mem_singleton.1 among
  exact ⟨v, h⟩

/-! ### Varied objects -/

theorem soundMembers_iff {members : List (String × Json)} :
    soundMembers members ↔ ∀ x ∈ members, x.2.isSound := by
  induction members with
  | nil => simp [soundMembers]
  | cons x r ih => simp [soundMembers, ih]

namespace Varied

variable {avoided : List String} {fields members : List (String × Json)}

theorem refl (avoided : List String) (fields : List (String × Json)) :
    Varied avoided (.object fields) (.object fields) :=
  .mk fields [] fields (by simp) (by simp) (by simp)

theorem isSound (h : Varied avoided (.object fields) (.object members))
    (sound : ∀ x ∈ fields, x.2.isSound) : (Json.object members).isSound := by
  cases h with
  | mk _ extras _ other extrasSound order =>
      rw [Json.isSound, soundMembers_iff]
      intro x among
      rcases List.mem_append.1 (order.mem_iff.1 among) with among | among
      · exact sound x among
      · exact extrasSound x among

theorem sole (h : Varied avoided (.object fields) (.object members))
    (distinct : (fields.map (·.1)).Nodup) {x : String × Json} (among : x ∈ fields) :
    Sole members x.1 x.2 := by
  cases h with
  | mk _ extras _ other sound order =>
      -- what was added bears other names, so the filtered lists are permutations of one member
      have none : extras.filter (·.1 == x.1) = [] := by
        refine List.filter_eq_nil_iff.2 fun y hy same => (other y hy).1 ?_
        exact List.mem_map.2 ⟨x, among, (eq_of_beq same).symm⟩
      have kept := order.filter (·.1 == x.1)
      rw [List.filter_append, filter_eq_singleton_of_nodup distinct among, none,
        List.append_nil] at kept
      exact List.perm_singleton.1 kept

theorem filter_eq_nil (h : Varied avoided (.object fields) (.object members)) {name : String}
    (avoid : name ∈ avoided) (absent : name ∉ fields.map (·.1)) :
    members.filter (·.1 == name) = [] := by
  cases h with
  | mk _ extras _ other sound order =>
      refine List.filter_eq_nil_iff.2 fun x among same => ?_
      obtain rfl := eq_of_beq same
      rcases List.mem_append.1 (order.mem_iff.1 among) with among | among
      · exact absent (List.mem_map.2 ⟨x, among, rfl⟩)
      · exact (other x among).2 avoid

end Varied

/-- A choice is read off a varied object: its alternative, and what is left for the fields of the
alternative. -/
theorem tagged?_of_varied {avoided : List String} {tag name : String} {names : List String}
    {fields : List (String × Json)} {w : Json}
    (h : Varied avoided (.object ((tag, .string name) :: fields)) w)
    (known : names.contains name) (distinct : (tag :: fields.map (·.1)).Nodup)
    (sound : ∀ x ∈ fields, x.2.isSound) (loose : Bool) :
    ∃ rest, tagged? loose tag names w = some (name, .object rest) ∧
      ∀ x ∈ fields, Sole rest x.1 x.2 := by
  obtain ⟨members, rfl⟩ : ∃ members, w = .object members := by
    cases h with
    | mk => exact ⟨_, rfl⟩
  have whole : (Json.object members).isSound := by
    refine h.isSound fun x among => ?_
    rcases List.mem_cons.1 among with rfl | among
    · rfl
    · exact sound x among
  have tagged : members.filter (·.1 == tag) = [(tag, .string name)] :=
    h.sole distinct List.mem_cons_self
  refine ⟨members.filter (·.1 != tag), ?_, fun x among => ?_⟩
  · rw [tagged?, sound?, if_pos whole]
    simp only [Option.bind_eq_bind, Option.bind_some, tagged, tagName?, known, if_true,
      Option.map_some]
  · have ne : x.1 ≠ tag := by
      rintro same
      exact (List.nodup_cons.1 distinct).1 (List.mem_map.2 ⟨x, among, same⟩)
    exact (h.sole distinct (List.mem_cons_of_mem _ among)).without ne

theorem tagged?_of_varied_pair {avoided : List String} {tag name field : String}
    {names : List String} {v w : Json}
    (h : Varied avoided (.object [(tag, .string name), (field, v)]) w)
    (known : names.contains name) (ne : tag ≠ field) (sound : v.isSound) (loose : Bool) :
    ∃ rest, tagged? loose tag names w = some (name, .object rest) ∧ Sole rest field v := by
  obtain ⟨rest, tagged, sole⟩ :=
    tagged?_of_varied h known (by simpa using ne) (by simpa using sound) loose
  exact ⟨rest, tagged, sole (field, v) (List.mem_singleton_self _)⟩

/-- An object that comes without a tag, and gets none, is no choice by this tag. -/
theorem tagged?_of_avoided {avoided : List String} {tag : String}
    {fields : List (String × Json)} {w : Json} (h : Varied avoided (.object fields) w)
    (avoid : tag ∈ avoided) (absent : tag ∉ fields.map (·.1)) (loose : Bool)
    (names : List String) : tagged? loose tag names w = none := by
  cases h with
  | mk _ extras members other sound order =>
      have untagged : members.filter (·.1 == tag) = [] :=
        (Varied.mk fields extras members other sound order).filter_eq_nil avoid absent
      rw [tagged?, sound?]
      split
      · simp [untagged]
      · rfl

/-! ### Lists -/

theorem list?_map {α : Type} {decode : Json → Option α} {encode : α → Json} {l : List α}
    (h : ∀ a ∈ l, decode (encode a) = some a) :
    list? decode (.array (l.map encode)) = some l := by
  rw [list?]
  induction l with
  | nil => rfl
  | cons a r ih =>
      obtain ⟨first, rest⟩ := List.forall_mem_cons.1 h
      simp [first, ih rest]

theorem list?_strings (l : List String) : list? asString? (strings l) = some l :=
  list?_map fun _ _ => rfl

theorem soundItems_iff {items : List Json} : soundItems items ↔ ∀ v ∈ items, v.isSound := by
  induction items with
  | nil => simp [soundItems]
  | cons v r ih => simp [soundItems, ih]

end PageAid.Json
