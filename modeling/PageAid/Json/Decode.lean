import PageAid.Json.Basic

/-!
From JSON values to the values of the program. A record is an object with named members or an
array of its fields in order; a choice is an object that names its alternative in one member. A
reader never converts: a number is no text, and a missing member is refused unless it has a
default or may be absent. What a record does not ask for may be unfit, but no part of a choice may.
-/

namespace PageAid.Json

structure Record where
  members : List (String × Json)
  /-- The fields were given by position. -/
  listed : Bool

/-- The fields of a record with the given names. An object may hold other members too, but none of
the names twice; an array may end early, but holds no more items than there are names. -/
def record? (names : List String) : Json → Option Record
  | object members =>
    if names.all fun name => (members.filter (·.1 == name)).length ≤ 1 then
      some ⟨members, false⟩
    else none
  | array items => if items.length ≤ names.length then some ⟨names.zip items, true⟩ else none
  | _ => none

namespace Record

variable {α : Type}

def get? (r : Record) (name : String) : Option Json := r.members.lookup name

def required (r : Record) (name : String) (decode : Json → Option α) : Option α :=
  (r.get? name).bind decode

def defaulted (r : Record) (name : String) (value : α) (decode : Json → Option α) : Option α :=
  match r.get? name with
  | none => some value
  | some v => decode v

/-- A field that may be null, and absent. -/
def optional (r : Record) (name : String) (decode : Json → Option α) : Option (Option α) :=
  match r.get? name with
  | none => some none
  | some null => some none
  | some v => (decode v).map some

/-- A field that may be null, and absent from an object but not from an array. -/
def nullable (r : Record) (name : String) (decode : Json → Option α) : Option (Option α) :=
  if r.listed && (r.get? name).isNone then none else r.optional name decode

end Record

def list? {α : Type} (decode : Json → Option α) : Json → Option (List α)
  | array items => items.mapM decode
  | _ => none

def keyed? {α : Type} (decode : Json → Option α) : Json → Option (Keyed α)
  | object members => do
    let entries ← members.mapM fun (k, v) => (decode v).map (k, ·)
    some (Keyed.ofList entries)
  | _ => none

def texts? : Json → Option (Keyed String) := keyed? asString?

def word32? (v : Json) : Option Nat :=
  v.asNat?.filter (· ≤ 0xFFFFFFFF)

def float32? : Json → Option Float32
  | number (.whole n) =>
    let x := n.natAbs.toUInt64.toFloat32
    some (if n < 0 then -x else x)
  | number (.real x) => some x.toFloat32
  | _ => none

/-- The name of an alternative without fields: a text, or an object with that one name and null
under it. Where `loose` holds, an empty object serves as null. -/
def alternative? (loose : Bool) : Json → Option String
  | string s => some s
  | object [(s, null)] => some s
  | object [(s, object [])] => if loose then some s else none
  | _ => none

/-- The name that a tag stands for. Where `loose` holds, the tag may be the number of the name in
the list of names. -/
def tagName? (loose : Bool) (names : List String) : Json → Option String
  | string s => if names.contains s then some s else none
  | v => if loose then v.asNat?.bind (names[·]?) else none

def sound? (v : Json) : Option Json := if v.isSound then some v else none

/-- A choice among alternatives, named by the member `tag` or by the first item: the alternative's
name and the value without the tag. -/
def tagged? (loose : Bool) (tag : String) (names : List String) (v : Json) :
    Option (String × Json) := do
  match ← v.sound? with
  | object members =>
    match members.filter (·.1 == tag) with
    | [(_, v)] =>
      (tagName? loose names v).map fun name => (name, object (members.filter (·.1 != tag)))
    | _ => none
  | array (v :: items) => (tagName? loose names v).map fun name => (name, array items)
  | _ => none

def isObject : Json → Bool
  | object _ => true
  | _ => false

end PageAid.Json
