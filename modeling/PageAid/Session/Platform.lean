import PageAid.Assistant.Query
import PageAid.Speech.Recognition
import PageAid.Speech.Synthesizer

/-!
The services that a page runs on: the assistant, the fetching of images, speech synthesis and
speech recognition; and the journal of what has been asked of them. The services are given by
their answers, so that a run of the page is a function of them.
-/

namespace PageAid

structure Platform where
  backend : Backend := .unconfigured
  image : String → Except AssistantError Image
  synthesizer : Option Speech.Synthesizer := none

/-- What has been asked of the services so far. -/
structure Journal where
  queries : List Query := []
  fetched : List String := []
  speech : Speech.Log := {}
  chimes : Nat := 0

instance : Inhabited Journal := ⟨{}⟩

namespace Platform

def ask (p : Platform) (j : Journal) (q : Query) : Answer × Journal :=
  (p.backend.answer j.queries.length q, { j with queries := j.queries ++ [q] })

def fetch (p : Platform) (j : Journal) (url : String) : Except AssistantError Image × Journal :=
  (p.image url, { j with fetched := j.fetched ++ [url] })

end Platform

end PageAid
