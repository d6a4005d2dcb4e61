import PageAid.Message
import PageAid.Number.Fixed
import PageAid.Session.Focus

/-!
The switches of a page, its font size and the link to its main content; and what a page that has
just been loaded takes over from the settings.
-/

namespace PageAid

def fontScaleProperty : String := "--lumen-font-scale"

def fontScaleStep : Float := 0.1
def minFontScale : Float := 0.8
def maxFontScale : Float := 2.0

namespace SkipLink

def nodeId : String := "lumen-skip-link"

def mainId : String := "lumen-main-content"

def targets : List Selector :=
  Selector.parseGroup "main, [role=\"main\"], article, #content, #main"

def notFoundMessage : String :=
  "Lumen could not find a \"main\" content area on this page."

def link (id : String) : Element :=
  (((Element.new "a").withId nodeId).withAttr "href" ("#" ++ id)).withText "Skip to Main Content"

end SkipLink

namespace Session

def enableVoice (s : Session) : Option Failure × Session :=
  match s.voice.enable? s.recognition with
  | some (voice, recognition) => (none, { s with voice := voice, recognition := recognition })
  | none => (some (.unsupported Speech.Control.unsupportedMessage), s)

def disableVoice (s : Session) : Session :=
  let (voice, recognition) := s.voice.disable s.recognition
  { s with voice := voice, recognition := recognition }

/-- Applies a switch to the page; the settings stay as they are. -/
def applyToggle (s : Session) (t : Toggle) (on : Bool) : Option Failure × Session :=
  match t.target with
  | .rootClass => (none, s.onPage (·.setRootClass t.key on))
  | .bodyClass => (none, s.onPage (·.setBodyClass t.key on))
  | .readingGuide =>
    let (guide, document) := s.guide.setEnabled s.document on
    (none, { s with guide := guide, document := document })
  | .focusMode => if on then s.enableFocus else (none, s.disableFocus)
  | .voiceControl => if on then s.enableVoice else (none, s.disableVoice)

def clearPeers (s : Session) (t : Toggle) : Session :=
  t.peers.foldl (fun s peer => ((s.persist peer false).applyToggle peer false).2) s

/-- Sets a switch for the user: what excludes it goes off, the switch is recorded and applied. The
user is told what the platform does not support. -/
def setToggle (s : Session) (t : Toggle) (on : Bool) : Session :=
  let s := if on then s.clearPeers t else s
  match (s.persist t on).applyToggle t on with
  | (some (.unsupported message), s) => s.notify .error (Failure.unsupported message).message
  | (_, s) => s

/-! ### Font size -/

def nextFontScale (current : Float) (change : FontChange) : Float :=
  let next := match change with
    | .increase =>
      let more := current + fontScaleStep
      if more < maxFontScale then more else maxFontScale
    | .decrease =>
      let less := current - fontScaleStep
      if less > minFontScale then less else minFontScale
    | .reset => Settings.defaultFontScale
  Number.roundHalfAway (next * 100.0) / 100.0

def showFontScale (s : Session) (scale : Float) : Session :=
  s.onPage (·.setRootStyle fontScaleProperty (Number.twoPlaces scale))

def changeFontSize (s : Session) (change : FontChange) : Float × Session :=
  let next := nextFontScale s.store.settings.fontScale change
  (next, (s.showFontScale next).storeValue .device Settings.fontScaleKey (.ofFloat next))

/-! ### The link to the main content -/

/-- Puts a link to the main content in front of the page, or goes to the one that is there. -/
def addSkipLink (s : Session) : Session :=
  if (s.document.findId SkipLink.nodeId).isSome then s.onPage (·.focus SkipLink.nodeId)
  else
    match s.document.body.queryPath SkipLink.targets with
    | none => s.notify .error SkipLink.notFoundMessage
    | some path =>
      let id := ((s.document.body.at? path).bind (·.id)).getD SkipLink.mainId
      s.onPage fun d => ((d.updateAt path ({ · with id := some id })).prepend
        (SkipLink.link id)).focus SkipLink.nodeId

/-! ### Taking over the settings -/

/-- Takes one stored value over. Switches of a session are recorded as off instead, and so is a
colour filter besides the one that is kept. -/
def restore (kept : Option Toggle) (s : Session) (entry : String × Json) : Session :=
  let (key, value) := entry
  if key == Settings.fontScaleKey then
    s.showFontScale (value.asFloat?.getD Settings.defaultFontScale)
  else
    match Toggle.ofKey? key with
    | none => s
    | some t =>
      if t.isSessionScoped then s.persist t false
      else
        let on := value.asBool?.getD false
        if on && t.isColorFilter && kept.any (· != t) then
          ((s.persist t false).applyToggle t false).2
        else (s.applyToggle t on).2

/-- Takes the settings of this installation over. Of several colour filters the first one is
kept. -/
def restoreSettings (s : Session) : Session :=
  let kept := Toggle.colorFilters.find? s.flag
  s.store.settings.device.entries.foldl (restore kept) s

end Session

end PageAid
