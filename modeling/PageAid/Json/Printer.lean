import PageAid.Json.Basic
import PageAid.Number.Shortest

/-!
Text of JSON values: without any white space, and laid out with an indent of two spaces. What
cannot be kept is written as null.
-/

namespace PageAid.Json

def hexDigit (n : Nat) : Char :=
  if n < 10 then Char.ofNat (0x30 + n) else Char.ofNat (0x61 + n - 10)

/-- A character inside quotes: quotes, backslashes and control characters are escaped. -/
def quotedChar (c : Char) : List Char :=
  if c == '"' then ['\\', '"']
  else if c == '\\' then ['\\', '\\']
  else if c == '\n' then ['\\', 'n']
  else if c == '\r' then ['\\', 'r']
  else if c == '\t' then ['\\', 't']
  else if c == '\x08' then ['\\', 'b']
  else if c == '\x0c' then ['\\', 'f']
  else if c.toNat < 0x20 then
    ['\\', 'u', '0', '0', hexDigit (c.toNat / 16), hexDigit (c.toNat % 16)]
  else [c]

def quoted (s : String) : String :=
  "\"" ++ String.ofList (s.toList.flatMap quotedChar) ++ "\""

def numeral : Numeral → String
  | .whole n => toString n
  | .real x => String.ofList (Number.documentText x)

mutual

def compact : Json → String
  | null => "null"
  | bool b => if b then "true" else "false"
  | number n => numeral n
  | string s => quoted s
  | array items => "[" ++ ",".intercalate (compactItems items) ++ "]"
  | object members => "\x7b" ++ ",".intercalate (compactMembers members) ++ "\x7d"
  | unfit => "null"

def compactItems : List Json → List String
  | [] => []
  | v :: r => v.compact :: compactItems r

def compactMembers : List (String × Json) → List String
  | [] => []
  | (k, v) :: r => (quoted k ++ ":" ++ v.compact) :: compactMembers r

end

def newLine (depth : Nat) : String :=
  "\n" ++ String.ofList (List.replicate (2 * depth) ' ')

/-- Parts between brackets, each on a line of its own one level deeper. -/
def block (opening closing : String) (depth : Nat) (parts : List String) : String :=
  if parts.isEmpty then opening ++ closing
  else
    let inner := newLine (depth + 1)
    opening ++ inner ++ ("," ++ inner).intercalate parts ++ newLine depth ++ closing

mutual

def prettyAt (depth : Nat) : Json → String
  | null => "null"
  | bool b => if b then "true" else "false"
  | number n => numeral n
  | string s => quoted s
  | array items => block "[" "]" depth (prettyItems (depth + 1) items)
  | object members => block "\x7b" "\x7d" depth (prettyMembers (depth + 1) members)
  | unfit => "null"

def prettyItems (depth : Nat) : List Json → List String
  | [] => []
  | v :: r => v.prettyAt depth :: prettyItems depth r

def prettyMembers (depth : Nat) : List (String × Json) → List String
  | [] => []
  | (k, v) :: r => (quoted k ++ ": " ++ v.prettyAt depth) :: prettyMembers depth r

end

def pretty (v : Json) : String := v.prettyAt 0

end PageAid.Json
