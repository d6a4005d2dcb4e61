import PageAid.Keyed

/-!
JSON values. An object keeps its members in the order in which they were written, repetitions
included; `Json.normal` is the value as a store holds it, with each name once and in order.
-/

namespace PageAid

/-- A number: whole numbers of 64 bits are kept exactly, all others as 64-bit binary numbers. -/
inductive Numeral where
  | whole (n : Int)
  | real (x : Float)
deriving DecidableEq

/-- A JSON value. A text may hold values that are in proper form but cannot be kept: a number out
of range, a string or a name with half a character, too deep a nesting. Such a value is `unfit`; it
may stand where nothing looks at it. -/
inductive Json where
  | null
  | bool (b : Bool)
  | number (n : Numeral)
  | string (s : String)
  | array (items : List Json)
  | object (members : List (String × Json))
  | unfit

namespace Json

instance : Inhabited Json := ⟨null⟩

def nat (n : Nat) : Json := number (.whole n)

def strings (l : List String) : Json := array (l.map string)

/-- A computed number as a stored value; one that is not finite is stored as null. -/
def ofFloat (x : Float) : Json := if x.isFinite then number (.real x) else null

def ofKeyed (m : Keyed Json) : Json := object m.entries

mutual

/-- The value with the members of every object in the order of their names; of several members
with one name the last one counts. -/
def normal : Json → Json
  | null => null
  | bool b => bool b
  | number n => number n
  | string s => string s
  | array items => array (normalItems items)
  | object members => object (normalMembers members).entries
  | unfit => unfit

def normalItems : List Json → List Json
  | [] => []
  | v :: r => v.normal :: normalItems r

/-- The members as a map: a later member with the same name takes precedence. -/
def normalMembers : List (String × Json) → Keyed Json
  | [] => Keyed.empty
  | (k, v) :: r =>
    let rest := normalMembers r
    if rest.contains k then rest else rest.insert k v.normal

end

mutual

def isSound : Json → Bool
  | null | bool _ | number _ | string _ => true
  | array items => soundItems items
  | object members => soundMembers members
  | unfit => false

def soundItems : List Json → Bool
  | [] => true
  | v :: r => v.isSound && soundItems r

def soundMembers : List (String × Json) → Bool
  | [] => true
  | (_, v) :: r => v.isSound && soundMembers r

end

def asBool? : Json → Option Bool
  | bool b => some b
  | _ => none

def asString? : Json → Option String
  | string s => some s
  | _ => none

def asNat? : Json → Option Nat
  | number (.whole n) => if 0 ≤ n then some n.toNat else none
  | _ => none

def floatOfInt (n : Int) : Float :=
  if n < 0 then -n.natAbs.toUInt64.toFloat else n.natAbs.toUInt64.toFloat

def asFloat? : Json → Option Float
  | number (.whole n) => some (floatOfInt n)
  | number (.real x) => some x
  | _ => none

def asArray? : Json → Option (List Json)
  | array items => some items
  | _ => none

def asObject? : Json → Option (List (String × Json))
  | object members => some members
  | _ => none

end Json

end PageAid
