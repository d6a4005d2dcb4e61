import PageAid.Page.Format
import PageAid.Proofs.Json.Recast
import PageAid.Proofs.Page.Tree

/-!
Elements read off their JSON form. What is left out when an element is written is what stands in
for it when the element is read, so that every tree comes back as it was; and it does so whatever
the order of the fields at every level, and whatever is added to them (`ofJson?_recast`).
-/

namespace PageAid

open Json

theorem Json.RecastField.texts {known : List String} {name : String} {m : Keyed String} {w : Json}
    (h : RecastField known (name, m.toJson) (name, w)) : texts? w = some m := by
  rw [Keyed.toJson] at h
  cases h with
  | kept => exact texts?_of_perm (List.Perm.refl _)
  | entries _ order => exact texts?_of_perm order

namespace Element

/-- The fields of an element, with those that are left out. -/
def given (m : Markup) (cs : List Element) : List (String × Option Json) :=
  [("tag", some (.string m.tag)),
    ("id", m.id.map .string),
    ("classes", if m.classes.isEmpty then none else some (strings m.classes)),
    ("attrs", if m.attrs.isEmpty then none else some m.attrs.toJson),
    ("style", if m.style.isEmpty then none else some m.style.toJson),
    ("text", if m.text == "" then none else some (.string m.text)),
    ("children", if cs.isEmpty then none else some (.array (toJsonList cs)))]

theorem memberUnless_eq (omitted : Bool) (name : String) (v : Json) :
    memberUnless omitted name v =
      ((if omitted then none else some v : Option Json).map (name, ·)).toList := by
  cases omitted <;> rfl

theorem toJson_eq (m : Markup) (cs : List Element) :
    (node m cs).toJson = .object (present (given m cs)) := by
  rw [toJson, present, List.filterMap_eq_flatMap_toList]
  cases hid : m.id <;>
    simp only [hid, Markup.members, memberUnless_eq, given, List.flatMap_cons, List.flatMap_nil,
      List.append_assoc, List.append_nil, List.nil_append, Option.map_some, Option.map_none,
      Option.toList_some, Option.toList_none]

/-! ### Reading -/

theorem childrenNamed?_eq (members : List (String × Json)) :
    childrenNamed? members =
      match members.lookup "children" with
      | none => some []
      | some v => elements? v := by
  induction members with
  | nil => rfl
  | cons x r ih =>
      obtain ⟨name, v⟩ := x
      rw [childrenNamed?, List.lookup_cons, ih]
      by_cases same : name = "children"
      · subst same
        rfl
      · simp [same, beq_false_of_ne (Ne.symm same)]

theorem elementList?_of_forall₂ {cs : List Element} {ws : List Json}
    (each : List.Forall₂ (fun c w => ofJson? w = some c) cs ws) : elementList? ws = some cs := by
  induction each with
  | nil => rw [elementList?]
  | cons first _ ih => rw [elementList?, first, ih]; rfl

theorem toJsonList_eq (cs : List Element) : toJsonList cs = cs.map toJson := by
  induction cs with
  | nil => rw [toJsonList, List.map_nil]
  | cons c r ih => rw [toJsonList, ih, List.map_cons]

theorem recast_toJson (e : Element) : Recast fieldNames e.toJson e.toJson := by
  obtain ⟨m, cs⟩ := e
  rw [toJson_eq]
  exact Recast.refl _ _

theorem elements?_of_recastField {cs : List Element} {name : String} {w : Json}
    (children : ∀ c ∈ cs, ∀ w, Recast fieldNames c.toJson w → ofJson? w = some c)
    (h : RecastField fieldNames (name, .array (toJsonList cs)) (name, w)) :
    elements? w = some cs := by
  rw [toJsonList_eq] at h
  obtain ⟨ws, rfl, each⟩ : ∃ ws, w = .array ws ∧
      List.Forall₂ (fun c w => Recast fieldNames c.toJson w) cs ws := by
    cases h with
    | kept =>
        refine ⟨_, rfl, List.forall₂_map_right_iff.2 (List.forall₂_same.2 fun c _ => ?_)⟩
        exact c.recast_toJson
    | items _ each => exact ⟨_, rfl, List.forall₂_map_left_iff.1 each⟩
  rw [elements?]
  refine elementList?_of_forall₂ ?_
  exact ((List.forall₂_and_left cs ws).2 ⟨children, each⟩).imp fun c w h => h.1 w h.2

theorem ofJson?_of_children {m : Markup} {cs : List Element} {w : Json}
    (children : ∀ c ∈ cs, ∀ w, Recast fieldNames c.toJson w → ofJson? w = some c)
    (h : Recast fieldNames (node m cs).toJson w) : ofJson? w = some (node m cs) := by
  rw [toJson_eq] at h
  obtain ⟨members, rfl⟩ : ∃ members, w = .object members := by
    cases h with
    | object => exact ⟨_, rfl⟩
  obtain ⟨record, found⟩ := found_of_recast h rfl (by decide)
  simp only [given, List.forall_mem_cons] at found
  obtain ⟨tag, id, classes, attrs, style, text, below, -⟩ := found
  have tag := required_of_found tag fun _ h => h.string
  have id := optional_of_found id
  have classes := defaulted_of_found [] classes
    (by simp) fun _ h => h.strings
  have attrs := defaulted_of_found {} attrs Keyed.eq_empty fun _ h => h.texts
  have style := defaulted_of_found {} style Keyed.eq_empty fun _ h => h.texts
  have text := defaulted_of_found "" text
    (fun omitted => (eq_of_beq omitted).symm) fun _ h => h.string
  have markup : markup? ⟨members, false⟩ = some m := by
    simp only [markup?, tag, id, classes, attrs, style, text, Option.bind_eq_bind,
      Option.bind_some]
  have below : childrenNamed? members = some cs := by
    rw [childrenNamed?_eq]
    generalize members.lookup "children" = w at below
    cases none : cs.isEmpty with
    | true =>
        rw [none] at below
        cases below
        rw [List.isEmpty_iff.1 none]
    | false =>
        rw [none] at below
        cases below with
        | some recast => exact elements?_of_recastField children recast
  rw [ofJson?, record]
  simp only [Option.bind_eq_bind, Option.bind_some, markup, below]

/-- An element of any shape and depth comes back as it was when it is read off its JSON form, and
also when at every level the fields of the object are in another order, with others of unknown
names among them, and the entries of a map in another order. -/
theorem ofJson?_recast (e : Element) :
    ofJson? e.toJson = some e ∧ ∀ w, Recast fieldNames e.toJson w → ofJson? w = some e := by
  have read : ∀ w, Recast fieldNames e.toJson w → ofJson? w = some e := by
    induction e using induction_on_children with
    | node m cs ih => exact fun w h => ofJson?_of_children ih h
  exact ⟨read _ e.recast_toJson, read⟩

/-- All fields are reversed at both levels, and so are the attributes; the identifier is the empty
text, and a class stands there twice. -/
theorem ofJson?_recast_of_reversed :
    let p := node { tag := "p", text := "Text" } []
    let e := node
      { tag := "MAIN", id := some "", classes := ["b", "a", "b"]
        attrs := ⟨[("lang", "de"), ("role", "main")], by decide⟩ } [p]
    let w : Json := .object
      [("note", .unfit),
        ("children", .array [.object [("tab", .nat 7), ("text", .string "Text"),
          ("tag", .string "p")]]),
        ("attrs", .object [("role", .string "main"), ("lang", .string "de")]),
        ("classes", strings ["b", "a", "b"]), ("id", .string ""), ("tag", .string "MAIN")]
    Recast fieldNames e.toJson w ∧ ofJson? w = some e := by
  intro p e w
  have below : Recast fieldNames p.toJson (.object [("tab", .nat 7), ("text", .string "Text"),
      ("tag", .string "p")]) := by
    refine .object [("tag", .string "p"), ("text", .string "Text")] [("tab", .nat 7)]
      (List.forall₂_same.2 fun x _ => .kept x) (by decide) ?_
    exact List.reverse_perm
      ([("tag", .string "p"), ("text", .string "Text"), ("tab", .nat 7)] : List (String × Json))
  have recast : Recast fieldNames e.toJson w := by
    refine .object [("tag", .string "MAIN"), ("id", .string ""),
      ("classes", strings ["b", "a", "b"]),
      ("attrs", .object [("role", .string "main"), ("lang", .string "de")]),
      ("children", .array [.object [("tab", .nat 7), ("text", .string "Text"),
        ("tag", .string "p")]])] [("note", .unfit)] ?_ (by decide) ?_
    · refine .cons (.kept _) (.cons (.kept _) (.cons (.kept _) (.cons ?_ (.cons ?_ .nil))))
      · exact .entries "attrs" (List.Perm.swap _ _ [])
      · exact .items "children" (.cons below .nil)
    · exact List.reverse_perm (_ :: _ :: _ :: _ :: _ :: [_])
  exact ⟨recast, (ofJson?_recast e).2 w recast⟩

end Element

end PageAid
