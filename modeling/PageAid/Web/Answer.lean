import PageAid.Web.Utf8

/-!
What a machine sends in answer to a request, as the bytes on the connection.
-/

namespace PageAid.Web

structure Answer where
  status : Nat
  phrase : String := ""
  headers : List (String × String) := []
  body : Bytes := []
  /-- The connection closes ten bytes before the announced end of the body. -/
  cut : Bool := false
deriving Repr, Inhabited

namespace Answer

def line (s : String) : Bytes := utf8 (s.toList ++ ['\r', '\n'])

def announced (a : Answer) : Nat := a.body.length + (if a.cut then 10 else 0)

/-- The headers of an answer: its own ones, the length of the body, and that the connection closes
after it. -/
def allHeaders (a : Answer) : List (String × String) :=
  a.headers ++ [("content-length", toString a.announced), ("connection", "close")]

def bytes (a : Answer) : Bytes :=
  line ("HTTP/1.1 " ++ toString a.status ++ " " ++ a.phrase) ++
    a.allHeaders.flatMap (fun (name, value) => line (name ++ ": " ++ value)) ++
    line "" ++ a.body

end Answer

end PageAid.Web
