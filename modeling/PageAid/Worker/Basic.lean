import PageAid.Settings.Store
import PageAid.Speech.Synthesizer
import PageAid.Web.Blocking
import PageAid.Worker.Browser

/-!
The background worker: what it does when the program is installed, when an entry of the context
menu is clicked, when a message comes in and when a tab loads a page. A page gets the content
scripts and the style sheet before the first message is sent to it.
-/

namespace PageAid

inductive InstallReason where
  | install
  | update
  | browserUpdate
  | sharedModuleUpdate
deriving DecidableEq, Repr

structure MenuClick where
  item : String
  selection : Option String := none
  imageUrl : Option String := none
deriving DecidableEq, Repr

structure Tab where
  id : Option TabId
  url : String
deriving DecidableEq, Repr

structure Worker where
  browser : Browser := {}
  store : Store := {}
  medium : Medium := none
  synthesizer : Option Speech.Synthesizer := none
  speech : Speech.Log := {}
  /-- Milliseconds given to scripts that have just been put in place. -/
  settleTime : Nat := 500
  waited : Nat := 0

namespace Worker

def contentScripts : List String := ["gemini-api.js", "content.js"]
def contentStyles : List String := ["assets/css/lumen-inject.css"]
def onboardingPage : String := "onboarding/onboarding.html"
def blockedPage : String := "blocked.html"

def protectedStart : String := "chrome://"

def noSelection : String := "No text selected."

def menu : List MenuItem :=
  [⟨"lumen-describe-image", "Lumen: Describe this image (AI)", ["image"]⟩,
    ⟨"lumen-summarize", "Lumen: Summarize selected text (AI)", ["selection"]⟩,
    ⟨"lumen-simplify", "Lumen: Simplify selected text (AI)", ["selection"]⟩,
    ⟨"lumen-translate-page-es", "Lumen: Translate entire page to Spanish (AI)", ["all"]⟩,
    ⟨"lumen-translate-page-fr", "Lumen: Translate entire page to French (AI)", ["all"]⟩,
    ⟨"lumen-tts", "Lumen: Read selected text (Browser TTS)", ["selection"]⟩]

/-- Work on the browser that a failure breaks off; what was done before it remains. -/
abbrev Channel := ExceptT ChannelError (StateM Worker)

def call (c : BrowserCall) : Channel Reply := do
  let w ← get
  let (result, browser) := w.browser.call c
  set { w with browser := browser }
  liftExcept result
where
  liftExcept (r : Except ChannelError Reply) : Channel Reply :=
    match r with
    | .ok reply => pure reply
    | .error e => throw e

def callQuietly (w : Worker) (c : BrowserCall) : Worker :=
  { w with browser := (w.browser.call c).2 }

def wait (milliseconds : Nat) : Channel Unit :=
  modify fun w => { w with waited := w.waited + milliseconds }

def answers (tab : TabId) : Channel Bool := do
  let w ← get
  let (result, browser) := w.browser.call (.send tab .ping)
  set { w with browser := browser }
  pure (match result with | .ok _ => true | .error _ => false)

def ensureInjected (tab : TabId) : Channel Unit := do
  if ← answers tab then pure ()
  else
    let _ ← call (.runScripts tab contentScripts)
    let _ ← call (.insertStyles tab contentStyles)
    wait (← get).settleTime

def relay (tab : TabId) (m : Message) : Channel Reply := do
  ensureInjected tab
  call (.send tab m)

/-- The first installation opens the page that welcomes the user and sets the defaults; each one
builds the context menu. -/
def installed (w : Worker) (reason : InstallReason) : Option StoreFailure × Worker :=
  if reason = .install then
    let w := w.callQuietly (.openTab onboardingPage)
    let written := w.store.installDefaults w.medium
    let w := { w with store := written.store, medium := written.medium }
    match written.failure with
    | some failure => (some failure, w)
    | none => (none, w.callQuietly (.replaceMenu menu))
  else (none, w.callQuietly (.replaceMenu menu))

/-- Speaks the selected text; that the synthesizer refuses it shows nowhere. -/
def speakSelection (w : Worker) (selection : Option String) : Worker :=
  let speech := w.speech.cancel w.synthesizer
  let u : Speech.Utterance := { text := selection.getD noSelection, rate := 1.0 }
  match speech.speak w.synthesizer u with
  | .ok speech => { w with speech := speech }
  | .error _ => { w with speech := speech }

inductive ClickAction where
  | speak
  | send (m : Message)
  | nothing
deriving DecidableEq

def clickAction (c : MenuClick) : ClickAction :=
  match c.item with
  | "lumen-tts" => .speak
  | "lumen-summarize" => .send (.runSummarize (c.selection.getD ""))
  | "lumen-simplify" => .send (.runSimplify (c.selection.getD ""))
  | "lumen-translate-page-es" => .send (.runTranslatePage "Spanish")
  | "lumen-translate-page-fr" => .send (.runTranslatePage "French")
  | "lumen-describe-image" =>
    match c.imageUrl with
    | some url => .send (.runImageDescription url)
    | none => .nothing
  | _ => .nothing

/-- Acts on a click; the result is the message that was sent, if one was. -/
def menuClicked (c : MenuClick) (tab : Tab) : Channel (Option Message) := do
  match tab.id with
  | none => pure none
  | some id =>
    if protectedStart.toList.isPrefixOf tab.url.toList then pure none
    else
      ensureInjected id
      match clickAction c with
      | .nothing => pure none
      | .speak =>
        modify (·.speakSelection c.selection)
        pure none
      | .send m =>
        let _ ← call (.send id m)
        pure (some m)

def received (w : Worker) (m : Message) (sender : Option TabId) : Worker :=
  match m, sender with
  | .closeCurrentTab, some tab => w.callQuietly (.removeTab tab)
  | _, _ => w

/-- A tab loads a page: one whose host is on the list of blocked sites is sent elsewhere. The result
says whether it was. -/
def tabUpdated (tab : TabId) (loading : Bool) (url : Option String) : Channel Bool := do
  match url with
  | none => pure false
  | some url =>
    let sites := (← get).store.settings.blockedSites
    if loading && Web.isBlocked url sites then
      let _ ← call (.updateTab tab (Browser.ownUrl blockedPage))
      pure true
    else pure false

end Worker

end PageAid
