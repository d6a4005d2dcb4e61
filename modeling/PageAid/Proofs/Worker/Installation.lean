import PageAid.Worker.Basic

/-!
What an installation does to the settings. The first one writes the defaults over whatever is held
under their keys, and it does so in memory before anything is written to a file; so every value is
kept just when no key of a default held anything but this default (`installed_keeps_iff`).
-/

namespace PageAid

namespace Settings

/-- The settings of a new installation, each with its partition and key. -/
def defaults : List (Area × String × Json) :=
  [(.synced, blockedSitesKey, Json.strings defaultBlockedSites),
    (.synced, workKey, .nat defaultWork),
    (.synced, breakKey, .nat defaultBreak),
    (.device, fontScaleKey, .ofFloat defaultFontScale)]

def default? (a : Area) (key : String) : Option Json :=
  (defaults.find? fun d => d.1 = a ∧ d.2.1 = key).map (·.2.2)

theorem withDefaults_eq (s : Settings) :
    s.withDefaults = defaults.foldl (fun s d => s.insert d.1 d.2.1 d.2.2) s := rfl

theorem get?_foldl_insert (l : List (Area × String × Json))
    (distinct : l.Pairwise fun d e => ¬(d.1 = e.1 ∧ d.2.1 = e.2.1))
    (s : Settings) (a : Area) (key : String) :
    (l.foldl (fun s d => s.insert d.1 d.2.1 d.2.2) s).get? a key =
      ((l.find? fun d => d.1 = a ∧ d.2.1 = key).map (·.2.2)).or (s.get? a key) := by
  induction l generalizing s with
  | nil => rfl
  | cons d rest ih =>
      obtain ⟨apart, distinct⟩ := List.pairwise_cons.1 distinct
      rw [List.foldl_cons, ih distinct, get?_insert, List.find?_cons]
      by_cases here : d.1 = a ∧ d.2.1 = key
      · have later : rest.find? (fun e => e.1 = a ∧ e.2.1 = key) = none := by
          rw [List.find?_eq_none]
          intro e he found
          obtain ⟨area, name⟩ := of_decide_eq_true found
          exact apart e he ⟨here.1.trans area.symm, here.2.trans name.symm⟩
        rw [later, if_pos here, decide_eq_true here]
        rfl
      · rw [if_neg here, decide_eq_false here]

theorem get?_withDefaults (s : Settings) (a : Area) (key : String) :
    s.withDefaults.get? a key = (default? a key).or (s.get? a key) := by
  rw [withDefaults_eq, get?_foldl_insert defaults (by decide)]
  rfl

end Settings

namespace Worker

theorem settings_installDefaults (s : Store) (m : Medium) :
    (s.installDefaults m).store.settings = s.settings.withDefaults := by
  unfold Store.installDefaults Store.update
  cases m with
  | none => rfl
  | some f => dsimp only; split <;> rfl

theorem settings_installed (w : Worker) (reason : InstallReason) :
    (w.installed reason).2.store.settings =
      if reason = .install then w.store.settings.withDefaults else w.store.settings := by
  unfold installed
  by_cases first : reason = .install
  · rw [if_pos first, if_pos first, ← settings_installDefaults w.store w.medium]
    dsimp only
    split <;> rfl
  · rw [if_neg first, if_neg first]
    rfl

/-- An installation, of whatever kind and whatever the browser and the file let happen, keeps every
value that the settings hold just when it is not the first one or they hold nothing but the default
under the key of a default. It sets the keys that have no value to their defaults if it is the first
one, and leaves all other keys alone. -/
theorem installed_keeps_iff (w : Worker) (reason : InstallReason) :
    let s := w.store.settings
    let s' := (w.installed reason).2.store.settings
    ((∀ a key v, s.get? a key = some v → s'.get? a key = some v) ↔
      (reason = .install → ∀ a key v d,
        s.get? a key = some v → Settings.default? a key = some d → v = d)) ∧
    (∀ a key, s.get? a key = none →
      s'.get? a key = if reason = .install then Settings.default? a key else none) ∧
    ∀ a key, Settings.default? a key = none → s'.get? a key = s.get? a key := by
  intro s s'
  have after : s' = if reason = .install then s.withDefaults else s := settings_installed w reason
  by_cases first : reason = .install
  · have found : ∀ a key, s'.get? a key = (Settings.default? a key).or (s.get? a key) := by
      intro a key
      rw [after, if_pos first, Settings.get?_withDefaults]
    refine ⟨⟨fun kept _ a key v d held seeded => ?_, fun same a key v held => ?_⟩,
      fun a key missing => ?_, fun a key unseeded => ?_⟩
    · have still := kept a key v held
      rw [found, seeded] at still
      exact (Option.some.inj still).symm
    · rw [found]
      cases seeded : Settings.default? a key with
      | none => exact held
      | some d => rw [same first a key v d held seeded]; rfl
    · rw [found, missing, Option.or_none, if_pos first]
    · rw [found, unseeded, Option.none_or]
  · have unchanged : s' = s := by rw [after, if_neg first]
    refine ⟨⟨fun _ again => absurd again first, fun _ a key v held => ?_⟩,
      fun a key missing => ?_, fun a key _ => ?_⟩
    · rw [unchanged, held]
    · rw [unchanged, missing, if_neg first]
    · rw [unchanged]

def syncedBefore : Worker where
  store.settings := ({} : Settings).insert .synced Settings.blockedSitesKey
    (Json.strings ["news.ycombinator.com"])

/-- The first installation replaces the list of blocked sites that came from another device. -/
theorem blockedSites_replaced_of_syncedBefore :
    syncedBefore.store.settings.get? .synced Settings.blockedSitesKey =
        some (Json.strings ["news.ycombinator.com"]) ∧
      (syncedBefore.installed .install).2.store.settings.get? .synced Settings.blockedSitesKey =
        some (Json.strings Settings.defaultBlockedSites) ∧
      ¬∀ a key v, syncedBefore.store.settings.get? a key = some v →
        (syncedBefore.installed .install).2.store.settings.get? a key = some v := by
  have held : syncedBefore.store.settings.get? .synced Settings.blockedSitesKey =
      some (Json.strings ["news.ycombinator.com"]) := by
    rw [syncedBefore, Settings.get?_insert, if_pos ⟨rfl, rfl⟩]
  have replaced : (syncedBefore.installed .install).2.store.settings.get? .synced
      Settings.blockedSitesKey = some (Json.strings Settings.defaultBlockedSites) := by
    rw [settings_installed, if_pos rfl, Settings.get?_withDefaults]
    rfl
  refine ⟨held, replaced, fun kept => ?_⟩
  have still := kept _ _ _ held
  rw [replaced] at still
  simp [Json.strings, Settings.defaultBlockedSites] at still

end Worker

end PageAid
