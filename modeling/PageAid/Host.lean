import PageAid.Json.Printer
import PageAid.Page.Format
import PageAid.Session.Timeline

/-!
The host of a page: it opens the settings, loads the page, and answers the lines of its input one
after another.
-/

namespace PageAid.Host

inductive StartFailure where
  | settings (failure : StoreFailure)
  | page
deriving DecidableEq, Repr

inductive PageSource where
  /-- No document is named: the page is empty. -/
  | empty
  | text (contents : String)
  | unreadable
deriving DecidableEq, Repr

def PageSource.document? : PageSource → Option Document
  | empty => some {}
  | text contents => Document.read? contents
  | unreadable => none

/-- Starts a page, without speech recognition. In the first run the defaults are installed, even
when the page turns out not to load. -/
def start (platform : Platform) (medium : Medium) (page : PageSource) :
    Medium × Except StartFailure Session :=
  match Store.openOn medium with
  | .error failure => (medium, .error (.settings failure))
  | .ok store =>
    let w := if store.firstRun then store.installDefaults medium else ⟨store, medium, none⟩
    (w.medium,
      match w.failure, page.document? with
      | some failure, _ => .error (.settings failure)
      | none, none => .error .page
      | none, some document =>
        let s : Session :=
          { platform, document, store := w.store, medium := w.medium
            recognition := { supported := false } }
        .ok s.restoreSettings.settle)

/-- Takes a line in: the answer, if there is one. Blank lines and lines that hold no message and
no event are skipped. -/
def takeLine (s : Session) (line : String) : Option String × Session :=
  if Text.allBlank line then (none, s)
  else match s.handleLine line with
    | none => (none, s)
    | some (reply, s) => (reply.map (·.toJson.compact), s.settle)

def takeLines (s : Session) : List String → List String × Session
  | [] => ([], s)
  | line :: rest =>
    let (answer, s) := takeLine s line
    let (answers, s) := takeLines s rest
    (answer.toList ++ answers, s)

structure Run where
  status : Nat
  output : String := ""
  medium : Medium

def run (platform : Platform) (medium : Medium) (page : PageSource) (input : String) : Run :=
  match start platform medium page with
  | (medium, .error _) => { status := 1, medium }
  | (_, .ok s) =>
    let lines := (Text.lines input.toList).map String.ofList
    let (answers, s) := takeLines s lines
    { status := 0
      output := String.join (answers.map (· ++ "\n"))
      medium := s.drain.medium }

end PageAid.Host
