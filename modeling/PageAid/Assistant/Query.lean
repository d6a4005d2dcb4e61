import PageAid.Failure

/-!
What an assistant is asked and what it answers.
-/

namespace PageAid

structure Image where
  kind : String
  data : String
deriving DecidableEq, Repr

inductive Query where
  | generate (prompt : String)
  | describe (prompt kind data : String)
deriving DecidableEq, Repr

structure Answer where
  delay : Nat := 0
  result : Except AssistantError String

/-- An assistant: whether it has a key, and the answer to a query that so many queries precede. -/
structure Backend where
  hasKey : Bool
  answer : Nat → Query → Answer

def Backend.unconfigured : Backend :=
  ⟨false, fun _ _ => { result := .error .missingKey }⟩

end PageAid
