import PageAid.Text.Find
import PageAid.Web.Url

/-!
Which addresses a list of distracting sites covers.
-/

namespace PageAid.Web

def siteName (host : String) : String :=
  (Text.afterOpening? "www." host).getD host

/-- Some entry of the list that is not empty stands in the name of the address's host. -/
def isBlocked (url : String) (sites : List String) : Bool :=
  match (Url.parse? url).bind (·.host) with
  | some host =>
    let site := siteName (String.ofList host.text)
    sites.any fun entry => entry != "" && Text.contains site entry
  | none => false

end PageAid.Web
