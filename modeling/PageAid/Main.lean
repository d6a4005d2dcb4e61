import PageAid.Assistant.Gemini
import PageAid.Assistant.ImageFetch
import PageAid.Environment
import PageAid.Host

/-!
The host as a program: lines come from standard input, answers go to standard output, and time
passes between the lines. No machine can be reached from here.
-/

namespace PageAid.Main

def readSettings (path : String) : IO SettingsFile := do
  try
    return { contents := .text (← IO.FS.readFile path) }
  catch
    | .noFileOrDirectory .. => return {}
    | _ => return { contents := .unreadable }

def readPage (path : String) : IO Host.PageSource := do
  try
    return .text (← IO.FS.readFile path)
  catch _ => return .unreadable

/-- Writes the settings file if its text has changed; the result tells whether it could be
written. -/
def save (path : Option String) (before after : Medium) : IO Bool := do
  match path, after.bind (·.text?) with
  | some path, some text =>
    if before.bind (·.text?) == some text then return true
    try
      IO.FS.writeFile path text
      return true
    catch _ => return false
  | _, _ => return true

def platform (e : Environment) : Platform :=
  let client : Assistant.Gemini.Client := { key := e.key }
  { backend := client.backend .unreachable
    image := fun url =>
      (Assistant.ImageFetch.fetch .unreachable (some Assistant.ImageFetch.proxyStart) url).2 }

partial def serve (path : Option String) (s : Session) (now : Nat) : IO Session := do
  let line ← (← IO.getStdin).getLine
  if line.isEmpty then return s
  let later ← IO.monoMsNow
  let before := s.medium
  let text := String.ofList ((Text.lines line.toList).headD [])
  let (answer, s) := Host.takeLine (s.advance (later - now)) text
  if let some answer := answer then
    let out ← IO.getStdout
    out.putStrLn answer
    out.flush
  let _ ← save path before s.medium
  serve path s later

end PageAid.Main

open PageAid in
def main : IO UInt32 := do
  let names := [Environment.settingsVariable, Environment.pageVariable, Environment.keyVariable,
    Environment.debugVariable]
  let values ← names.mapM fun name => return (name, ← IO.getEnv name)
  let e := Environment.ofVariables fun name => (values.lookup name).join
  let medium ← e.settingsPath.mapM Main.readSettings
  let page ← match e.pagePath with
    | some path => Main.readPage path
    | none => pure .empty
  let (written, started) := Host.start (Main.platform e) medium page
  let saved ← Main.save e.settingsPath medium written
  match started, saved with
  | .ok s, true =>
    let s ← Main.serve e.settingsPath s (← IO.monoMsNow)
    let _ ← Main.save e.settingsPath s.medium s.drain.medium
    return 0
  | _, _ =>
    IO.eprintln "the host could not start"
    return 1
