import PageAid.Worker.Basic

/-!
The JSON forms of what reaches the background worker.
-/

namespace PageAid

open Json

def InstallReason.ofJson? (v : Json) : Option InstallReason := do
  match ← alternative? false v with
  | "install" => some .install
  | "update" => some .update
  | "chrome_update" => some .browserUpdate
  | "shared_module_update" => some .sharedModuleUpdate
  | _ => none

def MenuClick.ofJson? (v : Json) : Option MenuClick := do
  let r ← record? ["menuItemId", "selectionText", "srcUrl"] v
  let item ← r.required "menuItemId" asString?
  let selection ← r.optional "selectionText" asString?
  let imageUrl ← r.optional "srcUrl" asString?
  some { item, selection, imageUrl }

def Tab.ofJson? (v : Json) : Option Tab := do
  let r ← record? ["id", "url"] v
  let id ← r.nullable "id" word32?
  let url ← r.required "url" asString?
  some { id, url }

end PageAid
