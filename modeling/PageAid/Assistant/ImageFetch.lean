import PageAid.Assistant.Query
import PageAid.Web.Base64
import PageAid.Web.Network
import PageAid.Web.Status

/-!
Fetching an image for the assistant: first through a service that passes on images of any site,
then from the site itself.
-/

namespace PageAid.Assistant.ImageFetch

/-- The service that passes images on; the address of the image follows. -/
def proxyStart : String := "https://api.allorigins.win/raw?url="

/-- An answer that fulfils a request, and the lines that were sent. -/
def get (net : Web.Network) (url : String) :
    List String × Except AssistantError Web.Response :=
  match Web.Url.parse? url with
  | none => ([], .error (.imageFetch ""))
  | some url =>
    let exchange := net.exchange .get url
    (exchange.sent.map (·.line), match exchange.response with
      | none => .error (.imageFetch "")
      | some response =>
        if response.isSuccess then .ok response
        else .error (.imageFetch ("status " ++ Web.statusText response.status)))

/-- The media type that an answer names, without its parameters. -/
def mediaType (response : Web.Response) : String :=
  let named := (response.contentType?.getD "").toList.takeWhile (· != ';')
  Text.trimmed (String.ofList named)

def imageOf (response : Web.Response) : Except AssistantError Image :=
  let kind := mediaType response
  if (Text.afterOpening? "image/" kind).isNone then .error (.notAnImage kind)
  else match response.body? with
    | none => .error (.imageFetch "")
    | some bytes => .ok ⟨kind, String.ofList (Web.base64 bytes)⟩

def fetch (net : Web.Network) (proxy : Option String) (source : String) :
    List String × Except AssistantError Image :=
  let (first, proxied) : List String × Except AssistantError Web.Response := match proxy with
    | some start => get net (start ++ Web.formEncode source)
    | none => ([], .error (.imageFetch ""))
  match proxied with
  | .ok response => (first, imageOf response)
  | .error _ =>
    let (second, direct) := get net source
    (first ++ second, direct.bind imageOf)

end PageAid.Assistant.ImageFetch
