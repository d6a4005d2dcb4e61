import PageAid.Web.Blocking

/-!
Which hosts a list of distracting sites covers. The name of a host is compared without the `www.` at
its start, and the entries of the list as they are (`isBlocked_iff`). So a host that is on the list
under its own name is covered, unless this name starts with `www.`: then it takes another entry
(`isBlocked_iff_of_own_name`).
-/

namespace PageAid.Web

def idleStart : List Char := "www.".toList

def comparedName (name : List Char) : List Char :=
  if idleStart <+: name then name.drop idleStart.length else name

theorem toList_siteName (host : String) : (siteName host).toList = comparedName host.toList := by
  unfold siteName Text.afterOpening? comparedName
  by_cases opens : idleStart <+: host.toList
  · have opened : "www.".toList.isPrefixOf host.toList := List.isPrefixOf_iff_prefix.2 opens
    rw [if_pos opens, if_pos opened, Option.getD_some, String.toList_ofList]
    rfl
  · have closed : ¬ "www.".toList.isPrefixOf host.toList :=
      fun opened => opens (List.isPrefixOf_iff_prefix.1 opened)
    rw [if_neg opens, if_neg closed, Option.getD_none]

/-- An address is covered just when it has a host and an entry that is not empty stands in the part
of the host's name that is compared. -/
theorem isBlocked_iff {url : String} {sites : List String} :
    isBlocked url sites ↔
      ∃ host, (Url.parse? url).bind (·.host) = some host ∧
        ∃ entry ∈ sites, entry ≠ "" ∧ entry.toList <:+: comparedName host.text := by
  unfold isBlocked
  cases (Url.parse? url).bind (·.host) with
  | none => simp
  | some host =>
      simp only [List.any_eq_true, Bool.and_eq_true, bne_iff_ne, Text.contains, Text.occursIn_iff,
        toList_siteName, String.toList_ofList, Option.some.injEq, exists_eq_left']

/-- The host of an address is on the list under the name that the address shows. The address is
covered just when this name does not start with `www.`, or an entry that is not empty stands in what
follows this start. -/
theorem isBlocked_iff_of_own_name (url : String) (sites : List String) (host : Host)
    (parsed : (Url.parse? url).bind (·.host) = some host) (named : host.text ≠ [])
    (listed : String.ofList host.text ∈ sites) :
    isBlocked url sites ↔
      ¬ idleStart <+: host.text ∨
        ∃ entry ∈ sites, entry ≠ "" ∧ entry.toList <:+: host.text.drop idleStart.length := by
  have covered : isBlocked url sites ↔
      ∃ entry ∈ sites, entry ≠ "" ∧ entry.toList <:+: comparedName host.text := by
    simp [isBlocked_iff, parsed]
  rw [covered, comparedName]
  by_cases opens : idleStart <+: host.text
  · rw [if_pos opens]
    exact (or_iff_right (not_not_intro opens)).symm
  · rw [if_neg opens]
    refine iff_of_true ⟨_, listed, fun empty => ?_, ?_⟩ (.inl opens)
    · have none := congrArg String.toList empty
      rw [String.toList_ofList] at none
      exact named none
    · simp only [String.toList_ofList, List.infix_rfl]

/-- A host whose own entry does not count, and a part of its name that does. -/
theorem isBlocked_iff_of_own_name_with_part :
    let url := "git://www.example.com/"
    let sites := ["www.example.com", "example"]
    let host := Host.named "www.example.com".toList
    (Url.parse? url).bind (·.host) = some host ∧ host.text ≠ [] ∧
      String.ofList host.text ∈ sites ∧ isBlocked url sites := by
  intro url sites host
  have parsed : (Url.parse? url).bind (·.host) = some host := by decide +kernel
  have named : host.text ≠ [] := by decide
  have listed : String.ofList host.text ∈ sites := by decide
  have part : "example".toList <:+: host.text.drop idleStart.length :=
    ⟨[], ".com".toList, by decide⟩
  exact ⟨parsed, named, listed, (isBlocked_iff_of_own_name url sites host parsed named listed).2
    (.inr ⟨"example", by decide, by decide, part⟩)⟩

/-- The list holds the host just as the address shows it, and the address is not covered. -/
theorem isBlocked_eq_false_of_own_name :
    ((Url.parse? "git://www.example.com/").bind (·.host)).map (fun h => String.ofList h.text) =
        some "www.example.com" ∧
      "www.example.com" ∈ ["www.example.com"] ∧
      isBlocked "git://www.example.com/" ["www.example.com"] = false := by
  decide +kernel

end PageAid.Web
