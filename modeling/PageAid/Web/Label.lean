import PageAid.Text.Packed
import PageAid.Web.LabelTable

/-!
The parts of a host's name between dots: how the letters of a part must join, and which directions
of writing it may mix.
-/

namespace PageAid.Web

open Text

/-! ### Properties of characters -/

def markRuns : List (Nat × Nat) := Packed.runs 0 (Packed.numbers markText)

def directionSteps : List (Nat × Nat) := Packed.steps 0 (Packed.numbers directionText)

def joiningSteps : List (Nat × Nat) := Packed.steps 0 (Packed.numbers joiningText)

def isMark (c : Char) : Bool := Packed.inRuns markRuns c.toNat

inductive Direction where
  | left
  | right
  | arabic
  | arabicNumber
  | europeanNumber
  | numberSign
  | separator
  | terminator
  | neutral
  | boundary
  | mark
  | other
deriving DecidableEq, Repr, Inhabited

/-- The directions in the order of their numbers in the table. -/
def Direction.all : List Direction :=
  [left, right, arabic, arabicNumber, europeanNumber, numberSign, separator, terminator, neutral,
    boundary, mark, other]

def direction (c : Char) : Direction :=
  (Direction.all[Packed.valueAt 0 directionSteps c.toNat]?).getD .other

inductive Joining where
  | none
  | right
  | left
  | dual
  | transparent
  | causing
deriving DecidableEq, Repr, Inhabited

def Joining.all : List Joining := [none, right, left, dual, transparent, causing]

def joining (c : Char) : Joining :=
  (Joining.all[Packed.valueAt 0 joiningSteps c.toNat]?).getD .none

/-! ### Joiners -/

/-- Joins the letters around it, and keeps them apart. -/
def joiner : Char := '\u200d'
def nonJoiner : Char := '\u200c'

/-- A mark that drops the vowel of a letter. -/
def isVirama (virama : Char → Bool) (before : List Char) : Bool := before.head?.any virama

def standsBetweenJoining (before after : List Char) : Bool :=
  let next (s : List Char) : Option Joining :=
    (s.map joining).find? (· != .transparent)
  [some .left, some .dual].contains (next before) &&
    [some .right, some .dual].contains (next after)

/-- Every joiner stands where it makes a difference. `before` holds the characters that precede
the text, the nearest one first. -/
def joinersInPlace (virama : Char → Bool) (before : List Char) : List Char → Bool
  | [] => true
  | c :: r =>
    (if c == joiner then isVirama virama before
      else if c == nonJoiner then isVirama virama before || standsBetweenJoining before r
      else true) && joinersInPlace virama (c :: before) r

/-! ### Directions -/

def isRightToLeft (c : Char) : Bool :=
  [Direction.right, .arabic, .arabicNumber].contains (direction c)

def lastDirection? (directions : List Direction) : Option Direction :=
  directions.reverse.find? (· != .mark)

/-- A part of a name written from right to left mixes no directions that could be mistaken. -/
def directionsInPlace (label : List Char) : Bool :=
  let directions := label.map direction
  match directions.head? with
  | none => true
  | some .left =>
    directions.all ([.left, .europeanNumber, .numberSign, .separator, .terminator, .neutral,
      .boundary, .mark].contains ·) &&
    [some Direction.left, some .europeanNumber].contains (lastDirection? directions)
  | some .right | some .arabic =>
    directions.all ([.right, .arabic, .arabicNumber, .europeanNumber, .numberSign, .separator,
      .terminator, .neutral, .boundary, .mark].contains ·) &&
    [some Direction.right, some .arabic, some .europeanNumber, some .arabicNumber].contains
      (lastDirection? directions) &&
    !(directions.contains .europeanNumber && directions.contains .arabicNumber)
  | some _ => false

end PageAid.Web
