import PageAid.Text.Blank
import PageAid.Text.Find

/-!
The settings of the host that its environment gives. A blank variable counts as unset.
-/

namespace PageAid

inductive LogLevel where
  | info
  | debug
deriving DecidableEq, Repr

def LogLevel.name : LogLevel → String
  | info => "INFO"
  | debug => "DEBUG"

structure Environment where
  /-- The settings file; without one the settings stay in memory. -/
  settingsPath : Option String := none
  /-- The page's document; without one the page is empty. -/
  pagePath : Option String := none
  key : Option String := none
  debug : Bool := false
deriving DecidableEq, Repr

namespace Environment

def settingsVariable : String := "LUMEN_SETTINGS_PATH"
def pageVariable : String := "LUMEN_PAGE"
def keyVariable : String := "GEMINI_API_KEY"
def debugVariable : String := "LUMEN_DEBUG"

def ofVariables (lookup : String → Option String) : Environment :=
  let given (name : String) : Option String := (lookup name).filter (!Text.allBlank ·)
  { settingsPath := given settingsVariable
    pagePath := given pageVariable
    key := given keyVariable
    debug := (given debugVariable).any fun value =>
      ["1", "true"].contains (Text.asciiLower (Text.trimmed value)) }

def logLevel (e : Environment) : LogLevel := if e.debug then .debug else .info

end Environment

end PageAid
