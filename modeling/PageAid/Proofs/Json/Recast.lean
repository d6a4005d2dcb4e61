import Mathlib.Data.List.Perm.Basic
import PageAid.Proofs.Json.Varied
import PageAid.Proofs.Keyed

/-!
Trees of objects, written in another way. At every level the fields of an object come in another
order and with further members among them, and the entries of a map in another order. A reader that
asks for known fields finds each of them as it was, or what it was recast to
(`lookup_of_recast`, `record?_of_recast`).
-/

namespace PageAid

namespace Json

mutual

/-- `w` is the object `v` with its fields recast, in any order, and with further members of any
value under names that are not known. -/
inductive Recast (known : List String) : Json → Json → Prop where
  | object {fields members : List (String × Json)} (recast extras : List (String × Json))
      (each : List.Forall₂ (RecastField known) fields recast)
      (unknown : ∀ x ∈ extras, x.1 ∉ known)
      (order : members.Perm (recast ++ extras)) :
      Recast known (.object fields) (.object members)

/-- The field is as it was, or a map with its entries in any order, or a list of objects each of
which is recast. -/
inductive RecastField (known : List String) : String × Json → String × Json → Prop where
  | kept (x : String × Json) : RecastField known x x
  | entries (name : String) {a b : List (String × Json)} (order : b.Perm a) :
      RecastField known (name, .object a) (name, .object b)
  | items (name : String) {vs ws : List Json} (each : List.Forall₂ (Recast known) vs ws) :
      RecastField known (name, .array vs) (name, .array ws)

end

variable {known : List String} {fields members : List (String × Json)}

theorem Recast.refl (known : List String) (fields : List (String × Json)) :
    Recast known (.object fields) (.object fields) := by
  have each : List.Forall₂ (RecastField known) fields fields :=
    List.forall₂_same.2 fun x _ => .kept x
  exact .object fields [] each (by simp) (by simp)

/-! ### Fields by name -/

theorem RecastField.name {x y : String × Json} (h : RecastField known x y) : y.1 = x.1 := by
  cases h <;> rfl

theorem names_of_recastFields {recast : List (String × Json)}
    (each : List.Forall₂ (RecastField known) fields recast) :
    recast.map (·.1) = fields.map (·.1) := by
  induction each with
  | nil => rfl
  | cons first _ ih => rw [List.map_cons, List.map_cons, first.name, ih]

/-- Under a known name there is at most one member, and it is the field of that name. -/
theorem filter_of_recast {recast extras : List (String × Json)}
    (distinct : (recast.map (·.1)).Nodup) (unknown : ∀ x ∈ extras, x.1 ∉ known)
    (order : members.Perm (recast ++ extras)) {name : String} (among : name ∈ known) :
    members.filter (·.1 == name) = recast.filter (·.1 == name) ∧
      (members.filter (·.1 == name)).length ≤ 1 := by
  have none : extras.filter (·.1 == name) = [] :=
    List.filter_eq_nil_iff.2 fun x hx same => unknown x hx (eq_of_beq same ▸ among)
  have kept := order.filter (·.1 == name)
  rw [List.filter_append, none, List.append_nil] at kept
  by_cases there : name ∈ recast.map (·.1)
  · obtain ⟨x, hx, rfl⟩ := List.mem_map.1 there
    rw [filter_eq_singleton_of_nodup distinct hx] at kept ⊢
    rw [List.perm_singleton.1 kept]
    exact ⟨rfl, Nat.le_refl _⟩
  · have absent : recast.filter (·.1 == name) = [] :=
      List.filter_eq_nil_iff.2 fun x hx same =>
        there (List.mem_map.2 ⟨x, hx, eq_of_beq same⟩)
    rw [absent] at kept ⊢
    rw [List.perm_nil.1 kept]
    exact ⟨rfl, Nat.zero_le _⟩

theorem lookup_of_recastFields {recast : List (String × Json)}
    (each : List.Forall₂ (RecastField known) fields recast) (name : String) :
    Option.Rel (fun v w => RecastField known (name, v) (name, w)) (fields.lookup name)
      (recast.lookup name) := by
  induction each with
  | nil => exact .none
  | @cons x y r r' first _ ih =>
      obtain ⟨k, v⟩ := x
      obtain ⟨k', w⟩ := y
      obtain rfl : k' = k := first.name
      rw [List.lookup_cons, List.lookup_cons]
      cases same : name == k' with
      | true =>
          obtain rfl := eq_of_beq same
          exact .some first
      | false => exact ih

theorem lookup_of_recast (h : Recast known (.object fields) (.object members))
    (distinct : (fields.map (·.1)).Nodup) {name : String} (among : name ∈ known) :
    Option.Rel (fun v w => RecastField known (name, v) (name, w)) (fields.lookup name)
      (members.lookup name) := by
  cases h with
  | object _ _ each unknown order =>
      rw [← names_of_recastFields each] at distinct
      have same := (filter_of_recast distinct unknown order among).1
      rw [lookup_eq_head?_filter members, same, ← lookup_eq_head?_filter]
      exact lookup_of_recastFields each name

theorem record?_of_recast (h : Recast known (.object fields) (.object members))
    (distinct : (fields.map (·.1)).Nodup) :
    record? known (.object members) = some ⟨members, false⟩ := by
  cases h with
  | object _ _ each unknown order =>
      rw [← names_of_recastFields each] at distinct
      rw [record?, if_pos]
      refine List.all_eq_true.2 fun name among => ?_
      simpa using (filter_of_recast distinct unknown order among).2

/-! ### Fields that may be left out -/

def present (given : List (String × Option Json)) : List (String × Json) :=
  given.filterMap fun x => x.2.map (x.1, ·)

variable {given : List (String × Option Json)} {name : String}

theorem names_present (given : List (String × Option Json)) :
    ((present given).map (·.1)).Sublist (given.map (·.1)) := by
  induction given with
  | nil => exact List.Sublist.refl []
  | cons x r ih =>
      obtain ⟨name, v⟩ := x
      cases v with
      | none => exact ih.cons name
      | some v => exact ih.cons_cons name

theorem lookup_present (distinct : (given.map (·.1)).Nodup) {v : Option Json}
    (among : (name, v) ∈ given) : (present given).lookup name = v := by
  induction given with
  | nil => simp at among
  | cons x r ih =>
      obtain ⟨once, distinct⟩ := List.nodup_cons.1 distinct
      have parts : present (x :: r) = (x.2.map (x.1, ·)).toList ++ present r := by
        obtain ⟨k, w⟩ := x
        cases w <;> rfl
      rw [parts, List.lookup_append]
      rcases List.mem_cons.1 among with rfl | within
      · cases v with
        | none =>
            refine List.lookup_eq_none_iff.2 fun y hy => ?_
            simpa using fun same : name = y.1 =>
              once ((names_present r).subset (List.mem_map.2 ⟨y, hy, same.symm⟩))
        | some v => simp
      · have ne : name ≠ x.1 := by
          rintro rfl
          exact once (List.mem_map.2 ⟨_, within, rfl⟩)
        have other : (x.2.map (x.1, ·)).toList.lookup name = none := by
          cases x.2 <;> simp [List.lookup_cons, beq_false_of_ne ne]
        rw [other, Option.none_or]
        exact ih distinct within

/-- What is found under the name of a field: the field, recast, unless it is left out. -/
def Found (known : List String) (name : String) : Option Json → Option Json → Prop :=
  Option.Rel fun v w => RecastField known (name, v) (name, w)

theorem found_of_recast (h : Recast known (.object (present given)) (.object members))
    (names : given.map (·.1) = known) (distinct : known.Nodup) :
    record? known (.object members) = some ⟨members, false⟩ ∧
      ∀ x ∈ given, Found known x.1 x.2 (members.lookup x.1) := by
  have once : (given.map (·.1)).Nodup := names ▸ distinct
  have present := (names_present given).nodup once
  refine ⟨record?_of_recast h present, fun x hx => ?_⟩
  have among : x.1 ∈ known := names ▸ List.mem_map_of_mem hx
  have found := lookup_of_recast h present among
  rwa [lookup_present once hx] at found

variable {α : Type} {decode : Json → Option α} {a : α}

theorem required_of_found {v : Json} (found : Found known name (some v) (members.lookup name))
    (read : ∀ w, RecastField known (name, v) (name, w) → decode w = some a) :
    (⟨members, false⟩ : Record).required name decode = some a := by
  rw [Record.required, Record.get?]
  dsimp only
  generalize members.lookup name = w at found ⊢
  cases found with
  | some recast => exact read _ recast

/-- A field with a default may be left out where it has its default. -/
theorem defaulted_of_found {v : Json} {omitted : Bool} (standing : α)
    (found : Found known name (if omitted then none else some v) (members.lookup name))
    (left : omitted → standing = a)
    (read : ∀ w, RecastField known (name, v) (name, w) → decode w = some a) :
    (⟨members, false⟩ : Record).defaulted name standing decode = some a := by
  rw [Record.defaulted, Record.get?]
  dsimp only
  generalize members.lookup name = w at found ⊢
  cases omitted with
  | true =>
      cases found
      exact congrArg some (left rfl)
  | false =>
      cases found with
      | some recast => exact read _ recast

theorem optional_of_found {text : Option String}
    (found : Found known name (text.map .string) (members.lookup name)) :
    (⟨members, false⟩ : Record).optional name asString? = some text := by
  rw [Record.optional, Record.get?]
  dsimp only
  generalize members.lookup name = w at found ⊢
  cases text with
  | none =>
      cases found
      rfl
  | some s =>
      cases found with
      | some recast =>
          cases recast
          rfl

/-! ### Values of fields -/

theorem RecastField.string {s : String} {w : Json}
    (h : RecastField known (name, .string s) (name, w)) : asString? w = some s := by
  cases h
  rfl

theorem RecastField.strings {l : List String} {w : Json}
    (h : RecastField known (name, Json.strings l) (name, w)) :
    list? asString? w = some l := by
  have same : w = Json.strings l := by
    rw [Json.strings] at h ⊢
    cases h with
    | kept => rfl
    | items _ each =>
        cases l with
        | nil => rw [List.forall₂_nil_left_iff.1 each, List.map_nil]
        | cons s r =>
            -- a text is no object
            cases each with
            | cons first _ => cases first
  rw [same, list?_strings]

/-! ### Maps -/

theorem mapM_of_forall₂ {α β : Type} {f : α → Option β} {xs : List α} {ys : List β}
    (each : List.Forall₂ (fun x y => f x = some y) xs ys) : xs.mapM f = some ys := by
  induction each with
  | nil => rfl
  | cons first _ ih =>
      rw [List.mapM_cons, first, ih]
      rfl

/-- A map with texts as values is read off its entries in any order. -/
theorem texts?_of_perm {m : Keyed String} {members : List (String × Json)}
    (order : members.Perm (m.entries.map fun (k, v) => (k, .string v))) :
    texts? (.object members) = some m := by
  -- the members are read as entries, which are in another order than those of the map
  have read : List.Forall₂ (fun (x : String × Json) e => (asString? x.2).map (x.1, ·) = some e)
      (m.entries.map fun (k, v) => (k, .string v)) m.entries :=
    List.forall₂_map_left_iff.2 (List.forall₂_same.2 fun _ _ => rfl)
  obtain ⟨l, each, entries⟩ := List.perm_comp_forall₂ order read
  rw [texts?, keyed?, mapM_of_forall₂ each]
  exact congrArg some (Keyed.ofList_of_perm entries)

end Json

end PageAid
