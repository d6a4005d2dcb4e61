import PageAid.Json.Numeral

/-!
The lexical level of JSON: a text becomes a list of tokens, one character at a time. A string or
a numeral in proper form is a token even if its value cannot be kept.
-/

namespace PageAid.Json

inductive Token where
  | openArray
  | closeArray
  | openObject
  | closeObject
  | colon
  | comma
  /-- A string; `none` if it holds half a character. -/
  | string (s : Option String)
  /-- A number; `none` if it is out of range. -/
  | number (n : Option Numeral)
  | word (v : Json)

/-- What has been read of the token that the next character may belong to. Characters already read
stand last first; those of a string are given by their codes, and halves of characters too. -/
inductive Mode where
  | between
  | text (done : List Nat)
  | escape (done : List Nat)
  /-- In a `\u` escape, `left` hexadecimal digits before its end. -/
  | code (done : List Nat) (left value : Nat)
  | numeral (done : List Char)
  | letters (done : List Char)

def hexValue? (c : Char) : Option Nat :=
  if '0' ≤ c && c ≤ '9' then some (c.toNat - '0'.toNat)
  else if 'a' ≤ c && c ≤ 'f' then some (c.toNat - 'a'.toNat + 10)
  else if 'A' ≤ c && c ≤ 'F' then some (c.toNat - 'A'.toNat + 10)
  else none

def escaped? (c : Char) : Option Char :=
  if c == '"' || c == '\\' || c == '/' then some c
  else if c == 'b' then some '\x08'
  else if c == 'f' then some '\x0c'
  else if c == 'n' then some '\n'
  else if c == 'r' then some '\r'
  else if c == 't' then some '\t'
  else none

/-- The first half of a character beyond 16 bits. -/
def isHigh (n : Nat) : Bool := 0xD800 ≤ n && n < 0xDC00

def isLow (n : Nat) : Bool := 0xDC00 ≤ n && n < 0xE000

/-- The characters with the given codes, where a first half and a second half make one character;
`none` if a half stands alone. -/
def characters? : List Nat → Option (List Char)
  | [] => some []
  | n :: r =>
    if isHigh n then
      match r with
      | m :: r =>
        if isLow m then
          (characters? r).map (Char.ofNat (0x10000 + (n - 0xD800) * 0x400 + (m - 0xDC00)) :: ·)
        else none
      | [] => none
    else if isLow n then none
    else (characters? r).map (Char.ofNat n :: ·)

def isGap (c : Char) : Bool := c == ' ' || c == '\n' || c == '\t' || c == '\r'

def inNumeral (c : Char) : Bool :=
  c.isDigit || c == '-' || c == '+' || c == '.' || c == 'e' || c == 'E'

def stringToken (done : List Nat) : Token :=
  .string ((characters? done.reverse).map String.ofList)

def numeralToken? (done : List Char) : Option Token :=
  (NumeralText.of? done.reverse).map fun t => .number t.value?

def wordToken? (done : List Char) : Option Token :=
  match done.reverse with
  | ['t', 'r', 'u', 'e'] => some (.word (.bool true))
  | ['f', 'a', 'l', 's', 'e'] => some (.word (.bool false))
  | ['n', 'u', 'l', 'l'] => some (.word .null)
  | _ => none

def stepBetween? (c : Char) : Option (List Token × Mode) :=
  if isGap c then some ([], .between)
  else if c == '"' then some ([], .text [])
  else if c == '[' then some ([.openArray], .between)
  else if c == ']' then some ([.closeArray], .between)
  else if c == '\x7b' then some ([.openObject], .between)
  else if c == '\x7d' then some ([.closeObject], .between)
  else if c == ':' then some ([.colon], .between)
  else if c == ',' then some ([.comma], .between)
  else if c == '-' || c.isDigit then some ([], .numeral [c])
  else if 'a' ≤ c && c ≤ 'z' then some ([], .letters [c])
  else none

def step? : Mode → Char → Option (List Token × Mode)
  | .between, c => stepBetween? c
  | .text done, c =>
    if c == '"' then some ([stringToken done], .between)
    else if c == '\\' then some ([], .escape done)
    else if c.toNat < 0x20 then none
    else some ([], .text (c.toNat :: done))
  | .escape done, c =>
    if c == 'u' then some ([], .code done 4 0)
    else (escaped? c).map fun e => ([], .text (e.toNat :: done))
  | .code done left value, c => do
    let d ← hexValue? c
    let value := 16 * value + d
    if left ≤ 1 then some ([], .text (value :: done))
    else some ([], .code done (left - 1) value)
  | .numeral done, c =>
    if inNumeral c then some ([], .numeral (c :: done))
    else do
      let t ← numeralToken? done
      let (ts, mode) ← stepBetween? c
      some (t :: ts, mode)
  | .letters done, c =>
    if 'a' ≤ c && c ≤ 'z' then some ([], .letters (c :: done))
    else do
      let t ← wordToken? done
      let (ts, mode) ← stepBetween? c
      some (t :: ts, mode)

def finish? : Mode → Option (List Token)
  | .between => some []
  | .numeral done => (numeralToken? done).map ([·])
  | .letters done => (wordToken? done).map ([·])
  | _ => none

/-- The tokens of a text; `done` holds those before it, the last one first. -/
def tokensFrom? (done : List Token) (mode : Mode) : List Char → Option (List Token)
  | [] => (finish? mode).map fun ts => done.reverse ++ ts
  | c :: r =>
    match step? mode c with
    | none => none
    | some (ts, mode) => tokensFrom? (ts.reverse ++ done) mode r

def tokens? (s : List Char) : Option (List Token) := tokensFrom? [] .between s

end PageAid.Json
