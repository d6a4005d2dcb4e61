import PageAid.Json.Decode
import PageAid.Json.Reader
import PageAid.Page.Document
import PageAid.Timestamp

/-!
The JSON form of elements and documents. Whatever is empty is left out when an element is written
and may be missing when it is read.
-/

namespace PageAid

open Json

def Keyed.toJson (m : Keyed String) : Json :=
  .object (m.entries.map fun (k, v) => (k, .string v))

def memberUnless (omitted : Bool) (name : String) (v : Json) : List (String × Json) :=
  if omitted then [] else [(name, v)]

def Markup.members (m : Markup) : List (String × Json) :=
  [("tag", .string m.tag)] ++
    (match m.id with
      | some id => [("id", .string id)]
      | none => []) ++
    memberUnless m.classes.isEmpty "classes" (strings m.classes) ++
    memberUnless m.attrs.isEmpty "attrs" m.attrs.toJson ++
    memberUnless m.style.isEmpty "style" m.style.toJson ++
    memberUnless (m.text == "") "text" (.string m.text)

namespace Element

/-- The fields of an element in the order of its array form. -/
def fieldNames : List String := ["tag", "id", "classes", "attrs", "style", "text", "children"]

mutual

def toJson : Element → Json
  | node m cs => .object (m.members ++ memberUnless cs.isEmpty "children" (.array (toJsonList cs)))

def toJsonList : List Element → List Json
  | [] => []
  | e :: r => e.toJson :: toJsonList r

end

def markup? (r : Record) : Option Markup := do
  let tag ← r.required "tag" asString?
  let id ← r.optional "id" asString?
  let classes ← r.defaulted "classes" [] (list? asString?)
  let attrs ← r.defaulted "attrs" {} texts?
  let style ← r.defaulted "style" {} texts?
  let text ← r.defaulted "text" "" asString?
  some { tag, id, classes, attrs, style, text }

mutual

def ofJson? : Json → Option Element
  | .object members => do
    let r ← record? fieldNames (.object members)
    let m ← markup? r
    let cs ← childrenNamed? members
    some (node m cs)
  | .array items => do
    let r ← record? fieldNames (.array items)
    let m ← markup? r
    let cs ← childrenPast? 6 items
    some (node m cs)
  | _ => none

def childrenNamed? : List (String × Json) → Option (List Element)
  | [] => some []
  | (name, v) :: r => if name == "children" then elements? v else childrenNamed? r

/-- Reads the children given as the item that stands after a number of others. -/
def childrenPast? (skipped : Nat) : List Json → Option (List Element)
  | [] => some []
  | v :: r =>
    match skipped with
    | 0 => elements? v
    | n + 1 => childrenPast? n r

def elements? : Json → Option (List Element)
  | .array items => elementList? items
  | _ => none

def elementList? : List Json → Option (List Element)
  | [] => some []
  | v :: r => do
    let e ← ofJson? v
    let es ← elementList? r
    some (e :: es)

end

end Element

def NoticeLevel.name : NoticeLevel → String
  | .info => "info"
  | .success => "success"
  | .error => "error"

def NoticeLevel.ofJson? (v : Json) : Option NoticeLevel := do
  match ← alternative? false v with
  | "info" => some .info
  | "success" => some .success
  | "error" => some .error
  | _ => none

/-- Reads a notice. The time at which it was shown must be given, and is not kept. -/
def Notice.ofJson? (v : Json) : Option Notice := do
  let r ← record? ["level", "message", "shown_at"] v
  let level ← r.required "level" NoticeLevel.ofJson?
  let message ← r.required "message" asString?
  let shownAt ← r.required "shown_at" asString?
  if Timestamp.valid shownAt then some { level, message } else none

def Modal.ofJson? (v : Json) : Option Modal := do
  let r ← record? ["title", "body", "visible"] v
  let title ← r.required "title" asString?
  let body ← r.required "body" asString?
  let visible ← r.required "visible" asBool?
  some { title, body, visible }

namespace Document

def fieldNames : List String :=
  ["body", "root_classes", "root_style", "scroll_y", "viewport_height", "scroll_height", "notices",
    "modal", "focused"]

def ofJson? (v : Json) : Option Document := do
  let r ← record? fieldNames v
  let body ← r.required "body" Element.ofJson?
  let rootClasses ← r.defaulted "root_classes" [] (list? asString?)
  let rootStyle ← r.defaulted "root_style" {} texts?
  let scrollY ← r.defaulted "scroll_y" 0.0 asFloat?
  let viewportHeight ← r.defaulted "viewport_height" defaultViewport asFloat?
  let scrollHeight ← r.defaulted "scroll_height" 0.0 asFloat?
  let notices ← r.defaulted "notices" [] (list? Notice.ofJson?)
  let modal ← r.optional "modal" Modal.ofJson?
  let focused ← r.optional "focused" asString?
  some
    { body, rootClasses := Names.ofList rootClasses, rootStyle, scrollY, viewportHeight,
      scrollHeight, notices, modal, focused }

def read? (s : String) : Option Document := (Json.read? s).bind ofJson?

end Document

end PageAid
