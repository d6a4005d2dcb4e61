import PageAid.Message

/-!
The browser as the background worker sees it: calls about tabs, which the browser records and may
refuse. A message to a tab arrives only if the content scripts are in place there.
-/

namespace PageAid

abbrev TabId := Nat

structure MenuItem where
  id : String
  title : String
  contexts : List String
deriving DecidableEq, Repr

inductive BrowserCall where
  | send (tab : TabId) (m : Message)
  | runScripts (tab : TabId) (files : List String)
  | insertStyles (tab : TabId) (files : List String)
  | openTab (url : String)
  | updateTab (tab : TabId) (url : String)
  | removeTab (tab : TabId)
  | replaceMenu (items : List MenuItem)
deriving DecidableEq

inductive ChannelError where
  | noReceiver (tab : TabId)
  | host (message : String)
deriving DecidableEq, Repr

def ChannelError.message : ChannelError → String
  | noReceiver tab => "no content script is listening in tab " ++ toString tab
  | host message => "tab host error: " ++ message

structure Browser where
  /-- The message with which a call is refused that so many calls precede, if it is. -/
  refusal : Nat → BrowserCall → Option String := fun _ _ => none
  /-- The content scripts are in place. -/
  scripted : Bool := false
  calls : List BrowserCall := []

namespace Browser

instance : Inhabited Browser := ⟨{}⟩

def ownUrl (path : String) : String := "chrome-extension://lumen/" ++ path

def effect (b : Browser) : BrowserCall → Except ChannelError Reply × Browser
  | .send tab m =>
    if b.scripted then (.ok (if m = .ping then .ready else .received), b)
    else (.error (.noReceiver tab), b)
  | .runScripts _ _ => (.ok .received, { b with scripted := true })
  | _ => (.ok .received, b)

def call (b : Browser) (c : BrowserCall) : Except ChannelError Reply × Browser :=
  let refusal := b.refusal b.calls.length c
  let b := { b with calls := b.calls ++ [c] }
  match refusal with
  | some message => (.error (.host message), b)
  | none => b.effect c

end Browser

end PageAid
