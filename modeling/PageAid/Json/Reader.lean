import PageAid.Json.Token

/-!
Reading JSON. A document is exactly one value: nothing but white space may stand around it, and no
comma may be missing or left over. Of arrays and objects within each other only `maxDepth` can be
kept.
-/

namespace PageAid.Json

/-- Greatest number of arrays and objects within each other that can be kept. -/
def maxDepth : Nat := 127

/-- An array or object that is still open, its parts last first. The member that an open object
waits for has its name in the frame; `sound` says that no name held half a character. -/
inductive Frame where
  | items (done : List Json)
  | members (done : List (String × Json)) (name : String) (sound : Bool)

inductive Place where
  | value
  /-- A value or the end of the array just opened. -/
  | firstItem
  /-- A name or the end of the object just opened. -/
  | firstName
  | name
  | colon
  /-- A comma or the end of the innermost array or object. -/
  | more
  | nothing

structure Reading where
  place : Place
  frames : List Frame
  result : Json

def Reading.gave (frames : List Frame) (v : Json) : Reading :=
  match frames with
  | [] => ⟨.nothing, [], v⟩
  | .items done :: outer => ⟨.more, .items (v :: done) :: outer, .null⟩
  | .members done name sound :: outer =>
    ⟨.more, .members ((name, v) :: done) name sound :: outer, .null⟩

/-- The reading after a complete array or object, which stands within those that are open. -/
def Reading.gaveNested (outer : List Frame) (v : Json) : Reading :=
  gave outer (if outer.length < maxDepth then v else .unfit)

def Reading.value? (frames : List Frame) : Token → Option Reading
  | .openArray => some ⟨.firstItem, .items [] :: frames, .null⟩
  | .openObject => some ⟨.firstName, .members [] "" true :: frames, .null⟩
  | .string s => some (gave frames ((s.map .string).getD .unfit))
  | .number n => some (gave frames ((n.map .number).getD .unfit))
  | .word v => some (gave frames v)
  | _ => none

def Reading.name? (frames : List Frame) : Token → Option Reading
  | .string s =>
    match frames with
    | .members done _ sound :: outer =>
      some ⟨.colon, .members done (s.getD "") (sound && s.isSome) :: outer, .null⟩
    | _ => none
  | _ => none

def Reading.closed? (frames : List Frame) : Token → Option Reading
  | .closeArray =>
    match frames with
    | .items done :: outer => some (gaveNested outer (.array done.reverse))
    | _ => none
  | .closeObject =>
    match frames with
    | .members done _ sound :: outer =>
      some (gaveNested outer (if sound then .object done.reverse else .unfit))
    | _ => none
  | _ => none

def Reading.step? (r : Reading) (t : Token) : Option Reading :=
  match r.place with
  | .value => value? r.frames t
  | .firstItem => closed? r.frames t <|> value? r.frames t
  | .firstName => closed? r.frames t <|> name? r.frames t
  | .name => name? r.frames t
  | .colon =>
    match t with
    | .colon => some { r with place := .value }
    | _ => none
  | .more =>
    match t with
    | .comma =>
      match r.frames with
      | .items _ :: _ => some { r with place := .value }
      | .members _ _ _ :: _ => some { r with place := .name }
      | [] => none
    | _ => closed? r.frames t
  | .nothing => none

def ofTokens? (ts : List Token) : Option Json := do
  let r ← ts.foldlM Reading.step? ⟨.value, [], .null⟩
  match r.place with
  | .nothing => some r.result
  | _ => none

def read? (s : String) : Option Json := do
  ofTokens? (← tokens? s.toList)

end PageAid.Json
