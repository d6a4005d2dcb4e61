import PageAid.Proofs.Json.Normal
import PageAid.Proofs.Json.Reread

/-!
Values that come back from their text as they are. What can go wrong is said by `LastsAt`: a real
number may read back as another one, too deep a nesting cannot be kept, and members that are not in
order are put in order.
-/

namespace PageAid.Json

mutual

/-- The value comes back from its text as it is, within a number of arrays and objects. -/
def LastsAt (depth : Nat) : Json → Prop
  | null => True
  | bool _ => True
  | number n => rereadNumeral n = number n
  | string _ => True
  | array items => depth < maxDepth ∧ ItemsLastAt (depth + 1) items
  | object members =>
    depth < maxDepth ∧ members.Pairwise (·.1 < ·.1) ∧ MembersLastAt (depth + 1) members
  | unfit => False

def ItemsLastAt (depth : Nat) : List Json → Prop
  | [] => True
  | v :: r => LastsAt depth v ∧ ItemsLastAt depth r

def MembersLastAt (depth : Nat) : List (String × Json) → Prop
  | [] => True
  | (_, v) :: r => LastsAt depth v ∧ MembersLastAt depth r

end

theorem lastsAt_whole {n : Int} (low : -0x8000000000000000 ≤ n) (high : n ≤ 0xFFFFFFFFFFFFFFFF)
    (depth : Nat) : LastsAt depth (.number (.whole n)) := by
  rw [LastsAt]
  exact rereadNumeral_whole low high

mutual

theorem rereadAt_eq_self : ∀ (v : Json) {depth : Nat}, LastsAt depth v → rereadAt depth v = v
  | .null, _, _ => rfl
  | .bool _, _, _ => rfl
  | .number _, _, h => by
    rw [LastsAt] at h
    rw [rereadAt, h]
  | .string _, _, _ => rfl
  | .array items, _, h => by
    rw [LastsAt] at h
    rw [rereadAt, if_pos h.1, rereadItems_eq_self items h.2]
  | .object members, _, h => by
    rw [LastsAt] at h
    rw [rereadAt, if_pos h.1, rereadMembers_eq_self members h.2.2]
  | .unfit, _, h => by simp [LastsAt] at h

theorem rereadItems_eq_self :
    ∀ (items : List Json) {depth : Nat}, ItemsLastAt depth items → rereadItems depth items = items
  | [], _, _ => rfl
  | v :: r, _, h => by
    rw [ItemsLastAt] at h
    rw [rereadItems, rereadAt_eq_self v h.1, rereadItems_eq_self r h.2]

theorem rereadMembers_eq_self :
    ∀ (members : List (String × Json)) {depth : Nat}, MembersLastAt depth members →
      rereadMembers depth members = members
  | [], _, _ => rfl
  | (k, v) :: r, _, h => by
    rw [MembersLastAt] at h
    rw [rereadMembers, rereadAt_eq_self v h.1, rereadMembers_eq_self r h.2]

end

mutual

theorem normal_eq_self : ∀ (v : Json) {depth : Nat}, LastsAt depth v → v.normal = v
  | .null, _, _ => rfl
  | .bool _, _, _ => rfl
  | .number _, _, _ => rfl
  | .string _, _, _ => rfl
  | .array items, _, h => by
    rw [LastsAt] at h
    rw [normal, normalItems_eq_self items h.2]
  | .object members, _, h => by
    rw [LastsAt] at h
    rw [normal, normalMembers_eq h.2.1, Keyed.mapValues]
    exact congrArg object (map_normal_eq_self members h.2.2)
  | .unfit, _, _ => rfl

theorem normalItems_eq_self :
    ∀ (items : List Json) {depth : Nat}, ItemsLastAt depth items → normalItems items = items
  | [], _, _ => rfl
  | v :: r, _, h => by
    rw [ItemsLastAt] at h
    rw [normalItems, normal_eq_self v h.1, normalItems_eq_self r h.2]

theorem map_normal_eq_self :
    ∀ (members : List (String × Json)) {depth : Nat}, MembersLastAt depth members →
      (members.map fun (k, v) => (k, v.normal)) = members
  | [], _, _ => rfl
  | (k, v) :: r, _, h => by
    rw [MembersLastAt] at h
    show (k, v.normal) :: _ = (k, v) :: r
    rw [normal_eq_self v h.1, map_normal_eq_self r h.2]

end

end PageAid.Json
