import PageAid.Page.Element
import PageAid.Text.Digit

/-!
Translating a page in batches: which texts are sent, how they are framed as numbered blocks, and
how the numbered blocks are read back out of a reply. A line `[i]:: text` opens block `i`; the
lines after it continue the block.
-/

namespace PageAid.Assistant

open Text

/-- Texts no longer than this are left as they are. -/
def minTranslatedChars : Nat := 5

def untranslatedTags : List String := ["script", "style", "noscript", "textarea"]

def isTranslatable (m : Markup) : Bool :=
  decide (minTranslatedChars < (trim m.text.toList).length) && !untranslatedTags.contains m.tag

/-- Paths, from the body, of the elements whose own text is translated, in document order. -/
def translatable (body : Element) : List Path :=
  (if isTranslatable body.markup then [[]] else []) ++
    (body.located.filter (isTranslatable ·.2.markup)).map (·.1)

structure Run where
  path : Path
  text : String
deriving DecidableEq, Repr

def runs (body : Element) : List Run :=
  (translatable body).filterMap fun p => (body.at? p).map fun e => ⟨p, e.text⟩

def batchSize : Nat := 20

def batches (rs : List Run) : List (List Run) :=
  if rs.length ≤ batchSize then if rs.isEmpty then [] else [rs]
  else rs.take batchSize :: batches (rs.drop batchSize)
termination_by rs.length
decreasing_by
  simp only [List.length_drop, batchSize] at *
  omega

/-! ### Framing -/

def block (i : Nat) (text : String) : String := "[" ++ toString i ++ "]:: " ++ text

def blocksFrom (i : Nat) : List String → List String
  | [] => []
  | t :: r => block i t :: blocksFrom (i + 1) r

def translateInstruction (language : String) : String :=
  "You are a professional translator. Translate the following text blocks into " ++ language ++
    ". Maintain the exact block structure (e.g., \"[0]:: ...\", \"[1]:: ...\") " ++
    "in your response. Only return the translated text for each block. " ++
    "If a block is just a number or symbol, return it unchanged."

def batchPrompt (language : String) (texts : List String) : String :=
  translateInstruction language ++ "\n\n" ++ "\n".intercalate (blocksFrom 0 texts)

/-! ### Reading the reply -/

def maxBlock : Nat := 0xFFFFFFFFFFFFFFFF

/-- A line that opens a block: its number as written, and the first line of its text. -/
def opener? (line : List Char) : Option (List Char × List Char) :=
  match line with
  | '[' :: r =>
    let number := r.takeWhile isDecimalDigit
    match r.drop number.length with
    | ']' :: ':' :: ':' :: rest =>
      if number.isEmpty then none
      else some (number, match rest with | ' ' :: text => text | text => text)
    | _ => none
  | _ => none

/-- The number of a block; `none` if it is not written in ASCII or too great. -/
def blockNumber? (number : List Char) : Option Nat :=
  (readDigits? number).filter (· ≤ maxBlock)

/-- A block that lines are added to: its number and its lines, the last one first. -/
structure OpenBlock where
  number : Nat
  lines : List (List Char)

/-- The blocks of the lines of a reply, in the order in which they end. -/
def blocksOf (current : Option OpenBlock) : List (List Char) → List (Nat × List Char)
  | [] => closed current
  | line :: r =>
    match opener? line with
    | some (number, text) =>
      closed current ++ blocksOf ((blockNumber? number).map fun n => ⟨n, [text]⟩) r
    | none => blocksOf (current.map fun b => { b with lines := line :: b.lines }) r
where
  closed (b : Option OpenBlock) : List (Nat × List Char) :=
    match b with
    | some b => [(b.number, joined ['\n'] b.lines.reverse)]
    | none => []

/-- Blocks by number, in ascending order; of two with the same number the later one counts. -/
def insertBlock (n : Nat) (text : List Char) : List (Nat × List Char) → List (Nat × List Char)
  | [] => [(n, text)]
  | (k, t) :: r =>
    if n < k then (n, text) :: (k, t) :: r
    else if n = k then (n, text) :: r
    else (k, t) :: insertBlock n text r

/-- Reads a reply: the texts by number in ascending order, without the blanks that end them; an
empty text is left out. -/
def readBlocks (reply : String) : List (Nat × String) :=
  let all := (blocksOf none (lines reply.toList)).foldl (fun m (n, t) => insertBlock n t m) []
  let ended := all.map fun (n, t) => (n, trimRight t)
  (ended.filter (!·.2.isEmpty)).map fun (n, t) => (n, String.ofList t)

def replyText? (reply : String) (i : Nat) : Option String :=
  (readBlocks reply).lookup i

end PageAid.Assistant
