import PageAid.Json.Decode

/-!
The prompts for the assistant that ask for something other than a translation.
-/

namespace PageAid.Assistant

inductive SummaryLength where
  | short
  | medium
  | bullet
deriving DecidableEq, Repr

namespace SummaryLength

def name : SummaryLength → String
  | short => "short"
  | medium => "medium"
  | bullet => "bullet"

def ofName? (s : String) : Option SummaryLength := [short, medium, bullet].find? (·.name == s)

def instruction : SummaryLength → String
  | short => "Provide a very concise summary in 2-3 sentences."
  | medium => "Provide a comprehensive summary in one paragraph (4-6 sentences)."
  | bullet => "Provide the key points as a bulleted list (3-5 main points)."

end SummaryLength

def withText (instruction text : String) : String :=
  instruction ++ "\n\nTEXT:\n\"\"\"" ++ text ++ "\"\"\""

def summarizePrompt (text : String) : String :=
  withText "Summarize the following text into 3 key bullet points. Be concise and clear." text

def simplifyPrompt (text : String) : String :=
  withText ("Rewrite the following text in simple English suitable for a 5th grader. " ++
    "Use short sentences.") text

def imagePrompt : String :=
  "You are an expert in accessibility. Describe this image for a visually impaired user. " ++
    "Be descriptive but concise. Start with 'Image of...'"

def pageSummaryPrompt (length : SummaryLength) (content : String) : String :=
  "You are an expert summarizer. " ++ length.instruction ++
    " Focus on the main ideas and key information. Return only the summary.\n\n" ++
    "CONTENT TO SUMMARIZE:\n" ++ content

end PageAid.Assistant
