import PageAid.MainContent
import PageAid.Session.Basic

/-!
The actions of the assistant and the synthesizer, as steps that run to the next wait. Every action
tells the user its outcome on the page: in the modal dialogue for a result that was asked for, in
notices for a translation and for reading aloud.
-/

namespace PageAid.Session

open Assistant

def errorTitle : String := "Lumen AI Error"

def minSummaryChars : Nat := 100

def minReadingChars : Nat := 50

/-- Milliseconds between two batches of a translation. -/
def batchPause : Nat := 500

def ask (s : Session) (q : Query) : Answer × Session :=
  let (answer, journal) := s.platform.ask s.journal q
  (answer, { s with journal := journal })

def cancelSpeech (s : Session) : Session :=
  { s with
    journal := { s.journal with speech := s.journal.speech.cancel s.platform.synthesizer } }

/-! ### Results in the dialogue -/

def showReport (s : Session) (r : Report) (result : Except Failure String) : Session :=
  match result with
  | .ok text => s.showModal r.title text
  | .error e => s.showModal errorTitle (r.before ++ e.message ++ r.after)

def showAnswer (s : Session) (r : Report) (result : Except AssistantError String) : Session :=
  s.showReport r (result.mapError .ofAssistant)

def askAndShow (s : Session) (r : Report) (q : Query) : Session :=
  let (answer, s) := s.ask q
  if answer.delay == 0 then s.showAnswer r answer.result
  else s.arrange answer.delay (.report r answer.result)

def summarize (s : Session) (text : String) : Session :=
  let s := s.showModal "Lumen: AI Summary" "Generating summary..."
  s.askAndShow ⟨"Lumen: AI Summary", "Failed to generate summary. ", ""⟩
    (.generate (summarizePrompt text))

def simplify (s : Session) (text : String) : Session :=
  let s := s.showModal "Lumen: AI Simplification" "Simplifying text..."
  s.askAndShow ⟨"Lumen: AI Simplification", "Failed to simplify text. ", ""⟩
    (.generate (simplifyPrompt text))

def describeImage (s : Session) (url : String) : Session :=
  let s := s.showModal "Lumen: AI Image Description" "Analyzing image..."
  let report : Report :=
    ⟨"Lumen: AI Image Description", "Failed to describe image. ",
      ". This is often a CORS issue on the source image."⟩
  let (fetched, journal) := s.platform.fetch s.journal url
  let s := { s with journal := journal }
  match fetched with
  | .ok image => s.askAndShow report (.describe imagePrompt image.kind image.data)
  | .error e => s.showAnswer report (.error e)

def summarizePage (s : Session) (length : SummaryLength) : Session :=
  let s := s.showModal "Lumen: AI Summarizer" "Generating summary... This may take a moment."
  let report : Report := ⟨"Lumen: Summary Generated", "Failed to generate summary: ", ""⟩
  let content := MainContent.text s.document.body
  if content.length < minSummaryChars then
    s.showReport report
      (.error (.contentNotFound "Not enough content found on this page to summarize."))
  else s.askAndShow report (.generate (pageSummaryPrompt length content))

/-! ### Translation -/

/-- The end of a translation: the user is told how many texts were translated, or what failed. -/
def finishTranslation (s : Session) (language : String) (result : Except Failure Nat) : Session :=
  let s := { s with translating := false }
  match result with
  | .ok n =>
    s.notify .success
      ("Page translated to " ++ language ++ "! (" ++ toString n ++ " elements translated)")
  | .error e => s.notify .error ("Translation failed: " ++ e.message)

/-- Writes one block of a reply to the element that its number stands for, if that element is
there; also counts the elements written. -/
def writeBlock (sent : List Run) (acc : Nat × Document) (block : Nat × String) :
    Nat × Document :=
  let (n, d) := acc
  match sent[block.1]? with
  | none => (n, d)
  | some run =>
    if (d.body.at? run.path).isSome then
      (n + 1, d.updateAt run.path ({ · with text := block.2 }))
    else (n, d)

def writeBatch (s : Session) (t : Translation) (result : Except AssistantError String) :
    Session :=
  match result with
  | .error e => s.finishTranslation t.language (.error (.ofAssistant e))
  | .ok reply =>
    let (written, document) := (readBlocks reply).foldl (writeBlock t.sent) (t.written, s.document)
    let s := { s with document := document }
    if t.left.isEmpty then s.finishTranslation t.language (.ok written)
    else s.arrange batchPause (.send { t with written := written })

def sendBatch (s : Session) (t : Translation) : Session :=
  let s := s.notify .info ("Translating page to " ++ t.language ++ "... (" ++
    toString (t.batch * 100 / t.batches) ++ "%)")
  let (answer, s) := s.ask (.generate (batchPrompt t.language (t.sent.map (·.text))))
  if answer.delay == 0 then s.writeBatch t answer.result
  else s.arrange answer.delay (.write t answer.result)

def sendNext (s : Session) (t : Translation) : Session :=
  match t.left with
  | [] => s
  | sent :: left => s.sendBatch { t with sent := sent, left := left, batch := t.batch + 1 }

/-- Translates the page, unless a translation is under way. -/
def translate (s : Session) (language : String) : Session :=
  if s.translating then s.notify .info "Translation already in progress..."
  else
    let s := { s with translating := true }
    let s := s.notify .info
      ("Translating page to " ++ language ++ "... This may take a moment.")
    match batches (runs s.document.body) with
    | [] =>
      s.finishTranslation language
        (.error (.contentNotFound "No translatable text found on this page."))
    | sent :: left =>
      s.sendBatch
        { language, sent, left, batch := 0, batches := left.length + 1, written := 0 }

/-! ### Reading aloud -/

def startReading (s : Session) (persona : String) : Option Failure × Session :=
  let content := MainContent.text s.document.body
  if content.length < minReadingChars then
    (some (.contentNotFound "Not enough content found on this page to read aloud."), s)
  else
    let s := s.cancelSpeech
    let u := Speech.reading content persona (Speech.voicesOf s.platform.synthesizer)
    match s.journal.speech.speak s.platform.synthesizer u with
    | .error message => (some (.unsupported message), s)
    | .ok speech =>
      (none, { s with journal := { s.journal with speech := speech }, readingAloud := true })

def readAloud (s : Session) (persona : String) : Session :=
  if s.readingAloud then
    ({ s with readingAloud := false }.cancelSpeech).notify .info "Reading stopped"
  else
    match s.startReading persona with
    | (none, s) =>
      s.notify .info
        ("Reading page content with " ++ persona ++ " voice... Click stop in popup to cancel.")
    | (some e, s) => s.notify .error ("Failed to read aloud: " ++ e.message)

def speechFinished (s : Session) (success : Bool) : Session :=
  if s.readingAloud then
    let s := { s with readingAloud := false }
    if success then s.notify .success "Finished reading page content"
    else s.notify .error "Error reading aloud"
  else s

/-! ### Beginning an action -/

/-- Begins an action. Without a key, the user is told so and nothing else happens, except that
reading aloud needs no key. -/
def begin (s : Session) (task : Task) : Session :=
  match task with
  | .readAloud persona => s.readAloud persona
  | _ =>
    if !s.platform.backend.hasKey then s.notify .error Failure.configuration.message
    else
      match task with
      | .summarize text => s.summarize text
      | .simplify text => s.simplify text
      | .describeImage url => s.describeImage url
      | .summarizePage length => s.summarizePage length
      | .translate language => s.translate language
      | .readAloud _ => s

end PageAid.Session
