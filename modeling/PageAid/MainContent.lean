import PageAid.Page.Element

/-!
Finding the readable part of a page, and the text of its main area without navigation,
advertisements and the like.
-/

namespace PageAid.MainContent

open Element

def articleSelectors : List String :=
  ["article", "main", ".post-content", ".entry-content", "#main-content", "#content", ".main"]

/-- A container that is only assumed to be an article needs more text than this. -/
def minArticleChars : Nat := 1000

def chromeMarkers : List String := ["nav", "footer", "header", "sidebar"]

def areaSelectors : List String :=
  ["main", "article", ".content", "#content", ".post-content", ".entry-content", ".story-content",
    ".article-content", ".page-content"]

def unwantedSelectors : List String :=
  ["nav", "header", "footer", "aside", ".navigation", ".menu", ".sidebar", ".ad",
    ".advertisement", "script", "style", ".social", ".comments", ".related", ".share",
    ".newsletter", ".popup"]

/-- The first match of the first selector that matches anything below the body. -/
def firstMatch (selectors : List String) (body : Element) : Option Element :=
  selectors.findSome? fun s => body.query [Selector.parse s.toList]

def textSize (e : Element) : Nat := (Text.joined [' '] e.texts).length

/-- A container that may hold the article: a division or section that is not marked as part of the
surroundings. -/
def isCandidate (e : Element) : Bool :=
  (e.tag == "div" || e.tag == "section") && !chromeMarkers.any (Text.contains e.label ·)

/-- The first of the candidates with the most text, among those with enough of it. -/
def longest (candidates : List Element) : Option Element :=
  let best := candidates.foldl (fun (best : Option (Element × Nat)) e =>
    let size := textSize e
    if minArticleChars < size && best.all (·.2 < size) then some (e, size) else best) none
  best.map (·.1)

def article? (body : Element) : Option Element :=
  firstMatch articleSelectors body <|> longest (body.descendants.filter isCandidate)

/-- The main area of a page: the whole body when no selector matches. -/
def area (body : Element) : Element := (firstMatch areaSelectors body).getD body

def text (body : Element) : String :=
  let group := unwantedSelectors.map fun s => Selector.parse s.toList
  Text.collapsed ((area body).prune group).textContent

end PageAid.MainContent
