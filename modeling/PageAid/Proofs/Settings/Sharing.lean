import Mathlib.Logic.Function.Iterate
import PageAid.Proofs.Json.Lasting
import PageAid.Proofs.Settings.Text
import PageAid.Settings.Store

/-!
Several stores on one file. A store takes the file over when it is opened or reloaded and at no
other time, and every write puts all that the store holds in the file. So a write is in the file
for as long as those who write there have it in memory, `carried`: then a store that is opened
later reads it (`lastWrite_read`), and else it leaves no trace there (`file_eq_of_not_carried`).
-/

namespace PageAid

inductive Access where
  | set (a : Area) (key : String) (v : Json)
  | setFlag (key : String) (on : Bool)
  | reload

namespace Access

def run (x : Access) (s : Store) (f : SettingsFile) : Store.Written :=
  match x with
  | set a key v => s.set (some f) a key v
  | setFlag key on => s.setFlag (some f) key on
  | reload => s.reload (some f)

def written? : Access → Option (Area × String × Json)
  | set a key v => some (a, key, v)
  | setFlag key on => some (.device, key, .bool on)
  | reload => none

def target? (x : Access) : Option (Area × String) := x.written?.map fun (a, key, _) => (a, key)

end Access

/-- Stores that share one file. -/
structure Shared (ι : Type) where
  stores : ι → Store
  file : SettingsFile

namespace Shared

variable {ι : Type} {s : Shared ι}

def held (s : Shared ι) (i : ι) : Settings := (s.stores i).settings

/-- The file is what a write of the settings leaves behind. -/
def Printed (s : Shared ι) (settings : Settings) : Prop :=
  s.file = { contents := .text settings.print, writable := true }

theorem eq_reread_of_printed {settings loaded : Settings} {text : String}
    (printed : s.Printed settings) (is_text : s.file.text? = some text)
    (read : Settings.read? text = some loaded) : loaded = settings.reread := by
  rw [Printed] at printed
  have same : settings.print = text := by simpa [printed, SettingsFile.text?] using is_text
  rw [← same] at read
  exact Settings.eq_reread_of_read? read

end Shared

/-- Where one write is to be found: in the file, and in the memory of which stores. -/
structure Spread (ι : Type) where
  file : Bool
  memory : ι → Bool

variable {ι : Type} [DecidableEq ι]

namespace Spread

/-- A write takes over what the memory of its store has, and a reload what the file has. -/
def after (p : Spread ι) (e : ι × Access) : Spread ι :=
  if e.2.written?.isSome then { p with file := p.memory e.1 }
  else { p with memory := Function.update p.memory e.1 p.file }

def start (i : ι) : Spread ι where
  file := true
  memory := Function.update (fun _ => false) i true

theorem after_of_written? {x : Access} {e : Area × String × Json} (h : x.written? = some e)
    (p : Spread ι) (i : ι) : p.after (i, x) = { p with file := p.memory i } :=
  if_pos (by rw [h]; rfl)

theorem after_reload (p : Spread ι) (i : ι) :
    p.after (i, .reload) = { p with memory := Function.update p.memory i p.file } := rfl

end Spread

/-- After the later accesses a write of the store is still in the file. -/
def carried (i : ι) (later : List (ι × Access)) : Bool :=
  (later.foldl Spread.after (Spread.start i)).file

namespace Shared

def access? (s : Shared ι) (i : ι) (x : Access) : Option (Shared ι) :=
  match x.run (s.stores i) s.file with
  | ⟨store, some file, none⟩ => some ⟨Function.update s.stores i store, file⟩
  | _ => none

def run? (s : Shared ι) (accesses : List (ι × Access)) : Option (Shared ι) :=
  accesses.foldlM (fun s (i, x) => s.access? i x) s

end Shared

/-! ### One access -/

theorem Access.run_of_written? {x : Access} {a : Area} {key : String} {v : Json}
    (h : x.written? = some (a, key, v)) (s : Store) (f : SettingsFile) :
    x.run s f = s.update (some f) (·.insert a key v) := by
  cases x with
  | set => cases h; rfl
  | setFlag => cases h; rfl
  | reload => cases h

namespace Shared

variable {s s' t t' : Shared ι} {i : ι} {x y : Access} {a : Area} {key : String} {v w : Json}

theorem held_update (stores : ι → Store) (i : ι) (store : Store) (f : SettingsFile) :
    held ⟨Function.update stores i store, f⟩ =
      Function.update (fun j => (stores j).settings) i store.settings := by
  funext j
  by_cases at_i : j = i
  · subst at_i
    simp [held]
  · simp [held, at_i]

/-- A write goes to the memory of its store, and all that it holds then goes to the file. -/
theorem held_of_written (run : s.access? i x = some s') (h : x.written? = some (a, key, v)) :
    s'.held = Function.update s.held i ((s.held i).insert a key v) ∧
      s'.Printed ((s.held i).insert a key v) := by
  rw [access?, Access.run_of_written? h, Store.update, SettingsFile.write?] at run
  cases writable : s.file.writable with
  | false => simp [writable] at run
  | true =>
      simp only [writable, if_true, Option.some.injEq] at run
      subst run
      exact ⟨held_update .., by simp [Printed, held]⟩

theorem held_of_reload (run : s.access? i .reload = some s') :
    ∃ text settings, s.file.text? = some text ∧ Settings.read? text = some settings ∧
      s'.held = Function.update s.held i settings ∧ s'.file = s.file := by
  simp only [access?, Access.run, Store.reload] at run
  cases contents : s.file.contents with
  | missing => simp [contents] at run
  | unreadable => simp [contents] at run
  | text text =>
      cases read : Settings.read? text with
      | none => simp [contents, read] at run
      | some settings =>
          simp only [contents, read, Option.some.injEq] at run
          subst run
          exact ⟨text, settings, by rw [SettingsFile.text?, contents], read, held_update .., rfl⟩

theorem run?_append (s : Shared ι) (l r : List (ι × Access)) :
    s.run? (l ++ r) = (s.run? l).bind (·.run? r) := by
  simp [run?, List.foldlM_append]

theorem run?_cons {r : List (ι × Access)} (run : s.run? ((i, x) :: r) = some s') :
    ∃ u, s.access? i x = some u ∧ u.run? r = some s' := by
  simpa [run?, Option.bind_eq_some_iff] using run

theorem eq_reload_of_written? (h : x.written? = none) : x = .reload := by
  cases x <;> simp_all [Access.written?]

end Shared

/-! ### Where a write is found -/

/-- The settings have a value under a key, as it reads back after some turns through the file. -/
def Settings.Keeps (a : Area) (key : String) (v : Json) (s : Settings) : Prop :=
  ∃ n, s.get? a key = some (Json.reread^[n] v)

section Keeps

variable {a b : Area} {key other : String} {v w : Json} {s : Settings}

theorem Settings.keeps_insert (s : Settings) : (s.insert a key v).Keeps a key v :=
  ⟨0, by simp [Settings.get?_insert]⟩

theorem Settings.Keeps.insert (h : s.Keeps a key v) (ne : (b, other) ≠ (a, key)) :
    (s.insert b other w).Keeps a key v := by
  obtain ⟨n, h⟩ := h
  refine ⟨n, ?_⟩
  rw [Settings.get?_insert, if_neg (by simpa using ne), h]

theorem Settings.Keeps.reread (h : s.Keeps a key v) :
    ∃ n, s.reread.get? a key = some (Json.reread^[n + 1] v) := by
  obtain ⟨n, h⟩ := h
  exact ⟨n, by rw [Settings.get?_reread, h, Function.iterate_succ_apply', Option.map_some]⟩

end Keeps

namespace Shared

variable {s s' t t' : Shared ι} {i : ι} {x y : Access} {a : Area} {key : String} {v w : Json}

/-- Wherever a write is to be found, there is its value. -/
structure Traced (a : Area) (key : String) (v : Json) (p : Spread ι) (s : Shared ι) : Prop where
  memory : ∀ i, p.memory i = true → (s.held i).Keeps a key v
  file : p.file = true → ∃ settings, s.Printed settings ∧ settings.Keeps a key v

theorem keeps_update {here : ι → Bool} {held : ι → Settings} {b : Bool} {settings : Settings}
    (new : b = true → settings.Keeps a key v) (h : ∀ j, here j = true → (held j).Keeps a key v)
    (i j : ι) (at_j : Function.update here i b j = true) :
    (Function.update held i settings j).Keeps a key v := by
  by_cases at_i : j = i
  · subst at_i
    rw [Function.update_self] at at_j ⊢
    exact new at_j
  · rw [Function.update_of_ne at_i] at at_j ⊢
    exact h j at_j

theorem traced_start (run : s.access? i x = some s') (h : x.written? = some (a, key, v)) :
    s'.Traced a key v (Spread.start i) := by
  obtain ⟨held, printed⟩ := held_of_written run h
  refine ⟨?_, fun _ => ⟨_, printed, Settings.keeps_insert _⟩⟩
  rw [held]
  -- no other store has it yet
  exact keeps_update (fun _ => Settings.keeps_insert _) (fun _ off => absurd off (by simp)) i

theorem Traced.after {p : Spread ι} (h : s.Traced a key v p) (run : s.access? i x = some s')
    (other : x.target? ≠ some (a, key)) : s'.Traced a key v (p.after (i, x)) := by
  cases written : x.written? with
  | some e =>
      obtain ⟨b, k, w⟩ := e
      obtain ⟨held, printed⟩ := held_of_written run written
      have ne : (b, k) ≠ (a, key) := by simpa [Access.target?, written] using other
      rw [Spread.after_of_written? written]
      have keeps : p.memory i = true → ((s.held i).insert b k w).Keeps a key v :=
        fun at_i => (h.memory i at_i).insert ne
      refine ⟨fun j at_j => ?_, fun at_i => ⟨_, printed, keeps at_i⟩⟩
      rw [held]
      exact keeps_update keeps h.memory i j (by rwa [Function.update_eq_self])
  | none =>
      obtain rfl := eq_reload_of_written? written
      rw [Spread.after_reload]
      obtain ⟨text, loaded, is_text, read, held, file⟩ := held_of_reload run
      have keeps : p.file = true → loaded.Keeps a key v := fun at_file => by
        obtain ⟨settings, printed, keeps⟩ := h.file at_file
        obtain ⟨n, found⟩ := keeps.reread
        rw [eq_reread_of_printed printed is_text read]
        exact ⟨n + 1, found⟩
      refine ⟨?_, fun at_file => ?_⟩
      · rw [held]
        exact keeps_update keeps h.memory i
      · obtain ⟨settings, printed, keeps⟩ := h.file at_file
        exact ⟨settings, file.trans printed, keeps⟩

theorem Traced.run {later : List (ι × Access)} {p : Spread ι} (h : s.Traced a key v p)
    (run : s.run? later = some s') (other : ∀ e ∈ later, e.2.target? ≠ some (a, key)) :
    s'.Traced a key v (later.foldl Spread.after p) := by
  induction later generalizing s p with
  | nil =>
      obtain rfl : s = s' := by simpa [run?] using run
      exact h
  | cons e r ih =>
      obtain ⟨i, x⟩ := e
      obtain ⟨u, first, rest⟩ := run?_cons run
      refine ih (h.after first (other _ List.mem_cons_self)) rest fun e mem => other e ?_
      exact List.mem_cons_of_mem _ mem

end Shared

/-! ### What a write that is not found leaves behind -/

/-- The settings have the same values, but perhaps for the one under a key. -/
def Settings.Alike (apart : Bool) (a : Area) (key : String) (s t : Settings) : Prop :=
  ∀ b other, (apart = true → (b, other) ≠ (a, key)) → s.get? b other = t.get? b other

section Alike

variable {a b : Area} {key other : String} {v w : Json} {s t : Settings} {apart : Bool}

theorem Settings.alike_insert (s : Settings) :
    Alike true a key (s.insert a key v) (s.insert a key w) := by
  intro c k ne
  have ne : ¬(a = c ∧ key = k) := fun h => ne rfl (by rw [h.1, h.2])
  rw [Settings.get?_insert, Settings.get?_insert, if_neg ne, if_neg ne]

theorem Settings.Alike.insert (h : Alike apart a key s t) :
    Alike apart a key (s.insert b other v) (t.insert b other v) := by
  intro c k ne
  rw [Settings.get?_insert, Settings.get?_insert, h c k ne]

theorem Settings.Alike.reread (h : Alike apart a key s t) :
    Alike apart a key s.reread t.reread := by
  intro c k ne
  rw [Settings.get?_reread, Settings.get?_reread, h c k ne]

theorem Settings.Alike.eq (h : Alike false a key s t) : s = t := by
  have same : ∀ c k, s.get? c k = t.get? c k := fun c k => h c k (by simp)
  have synced : s.synced = t.synced := Keyed.ext_get? (same .synced)
  have device : s.device = t.device := Keyed.ext_get? (same .device)
  cases s
  cases t
  rw [Settings.mk.injEq]
  exact ⟨synced, device⟩

end Alike

namespace Shared

variable {s s' t t' : Shared ι} {i : ι} {x y : Access} {a : Area} {key : String} {v w : Json}

/-- Wherever one write is not to be found, two systems have the same values. -/
structure Alike (a : Area) (key : String) (p : Spread ι) (s t : Shared ι) : Prop where
  memory : ∀ i, Settings.Alike (p.memory i) a key (s.held i) (t.held i)
  file : ∃ mine yours, s.Printed mine ∧ t.Printed yours ∧ Settings.Alike p.file a key mine yours

theorem alike_update {apart : ι → Bool} {mine yours : ι → Settings} {b : Bool}
    {settings settings' : Settings} (new : Settings.Alike b a key settings settings')
    (h : ∀ j, Settings.Alike (apart j) a key (mine j) (yours j)) (i j : ι) :
    Settings.Alike (Function.update apart i b j) a key (Function.update mine i settings j)
      (Function.update yours i settings' j) := by
  by_cases at_i : j = i
  · subst at_i
    rw [Function.update_self, Function.update_self, Function.update_self]
    exact new
  · rw [Function.update_of_ne at_i, Function.update_of_ne at_i, Function.update_of_ne at_i]
    exact h j

theorem alike_start (run : s.access? i x = some s') (run' : s.access? i y = some t')
    (h : x.written? = some (a, key, v)) (h' : y.written? = some (a, key, w)) :
    Alike a key (Spread.start i) s' t' := by
  obtain ⟨held, printed⟩ := held_of_written run h
  obtain ⟨held', printed'⟩ := held_of_written run' h'
  refine ⟨?_, _, _, printed, printed', Settings.alike_insert _⟩
  rw [held, held']
  exact alike_update (Settings.alike_insert _) (fun _ _ _ _ => rfl) i

theorem Alike.after {p : Spread ι} (h : Alike a key p s t) (run : s.access? i x = some s')
    (run' : t.access? i x = some t') : Alike a key (p.after (i, x)) s' t' := by
  cases written : x.written? with
  | some e =>
      obtain ⟨b, k, w⟩ := e
      obtain ⟨held, printed⟩ := held_of_written run written
      obtain ⟨held', printed'⟩ := held_of_written run' written
      rw [Spread.after_of_written? written]
      have inserted : Settings.Alike (p.memory i) a key ((s.held i).insert b k w)
          ((t.held i).insert b k w) := (h.memory i).insert
      refine ⟨fun j => ?_, _, _, printed, printed', inserted⟩
      have alike := alike_update inserted h.memory i j
      rwa [Function.update_eq_self, ← held, ← held'] at alike
  | none =>
      obtain rfl := eq_reload_of_written? written
      obtain ⟨mine, yours, printed, printed', alike⟩ := h.file
      obtain ⟨text, loaded, is_text, read, held, file⟩ := held_of_reload run
      obtain ⟨text', loaded', is_text', read', held', file'⟩ := held_of_reload run'
      have reloaded : Settings.Alike p.file a key loaded loaded' := by
        rw [eq_reread_of_printed printed is_text read, eq_reread_of_printed printed' is_text' read']
        exact alike.reread
      rw [Spread.after_reload]
      refine ⟨?_, mine, yours, file.trans printed, file'.trans printed', alike⟩
      rw [held, held']
      exact alike_update reloaded h.memory i

theorem Alike.run {later : List (ι × Access)} {p : Spread ι} (h : Alike a key p s t)
    (run : s.run? later = some s') (run' : t.run? later = some t') :
    Alike a key (later.foldl Spread.after p) s' t' := by
  induction later generalizing s t p with
  | nil =>
      obtain rfl : s = s' := by simpa [run?] using run
      obtain rfl : t = t' := by simpa [run?] using run'
      exact h
  | cons e r ih =>
      obtain ⟨u, first, rest⟩ := run?_cons run
      obtain ⟨u', first', rest'⟩ := run?_cons run'
      exact ih (h.after first first') rest rest'

/-! ### What a store reads that is opened later -/

theorem exists_of_run?_append {earlier later : List (ι × Access)}
    (run : s.run? (earlier ++ (i, x) :: later) = some s') :
    ∃ t u, s.run? earlier = some t ∧ t.access? i x = some u ∧ u.run? later = some s' := by
  rw [run?_append, Option.bind_eq_some_iff] at run
  obtain ⟨t, before, run⟩ := run
  obtain ⟨u, first, rest⟩ := run?_cons run
  exact ⟨t, u, before, first, rest⟩

/-- A write that is not in the file any more leaves nothing there: had the same store written
another value in its place, the file would be the same. -/
theorem file_eq_of_not_carried {earlier later : List (ι × Access)}
    (run : s.run? (earlier ++ (i, x) :: later) = some s')
    (run' : s.run? (earlier ++ (i, y) :: later) = some t')
    (writes : x.written? = some (a, key, v)) (writes' : y.written? = some (a, key, w))
    (lost : carried i later = false) : s'.file = t'.file := by
  obtain ⟨m, u, before, first, rest⟩ := exists_of_run?_append run
  obtain ⟨m', u', before', first', rest'⟩ := exists_of_run?_append run'
  obtain rfl : m = m' := Option.some.inj (before.symm.trans before')
  obtain ⟨mine, yours, printed, printed', alike⟩ :=
    ((alike_start first first' writes writes').run rest rest').file
  rw [show (later.foldl Spread.after (Spread.start i)).file = false from lost] at alike
  rw [Printed, alike.eq] at printed
  exact printed.trans printed'.symm

/-- The last write to a key is what a store reads that is opened later on the file, as the value
reads back from its text, if that write is still in the file. -/
theorem lastWrite_read {earlier later : List (ι × Access)}
    (run : s.run? (earlier ++ (i, x) :: later) = some s')
    (writes : x.written? = some (a, key, v))
    (last : ∀ e ∈ later, e.2.target? ≠ some (a, key)) (kept : carried i later = true)
    (readable : (s'.file.text?.bind Settings.read?).isSome = true) :
    ∃ third, Store.openOn (some s'.file) = .ok third ∧
      (∃ n, third.settings.get? a key = some (Json.reread^[n + 1] v)) ∧
      (v.LastsAt 2 → third.settings.get? a key = some v) := by
  obtain ⟨m, u, -, first, rest⟩ := exists_of_run?_append run
  obtain ⟨settings, printed, keeps⟩ := ((traced_start first writes).run rest last).file kept
  obtain ⟨loaded, readable⟩ := Option.isSome_iff_exists.1 readable
  obtain ⟨text, is_text, read⟩ := Option.bind_eq_some_iff.1 readable
  rw [eq_reread_of_printed printed is_text read] at read
  have opened : Store.openOn (some s'.file) =
      .ok { settings := settings.reread, firstRun := false } := by
    rw [Printed] at printed
    obtain rfl : settings.print = text := by simpa [printed, SettingsFile.text?] using is_text
    simp [Store.openOn, printed, read]
  obtain ⟨n, found⟩ := keeps.reread
  refine ⟨_, opened, ⟨n, found⟩, fun lasts => ?_⟩
  rw [found, Function.iterate_fixed (Json.reread_eq_self lasts)]

/-- One store sets the minutes of work, and the other one reloads before it writes a switch. -/
theorem lastWrite_read_of_reload :
    ∃ s third, run? ⟨fun _ : Bool => {}, {}⟩ [(false, .set .synced "pomodoroWork" (.nat 40)),
        (true, .reload), (true, .setFlag "lumen-dyslexia" true)] = some s ∧
      Store.openOn (some s.file) = .ok third ∧
      third.settings.get? .synced "pomodoroWork" = some (.nat 40) := by
  have runs : ((run? ⟨fun _ : Bool => {}, {}⟩ [(false, .set .synced "pomodoroWork" (.nat 40)),
      (true, .reload), (true, .setFlag "lumen-dyslexia" true)]).bind
        fun s => s.file.text?.bind Settings.read?).isSome = true := by decide +kernel
  obtain ⟨settings, runs⟩ := Option.isSome_iff_exists.1 runs
  obtain ⟨s, run, readable⟩ := Option.bind_eq_some_iff.1 runs
  have lasts : (Json.nat 40).LastsAt 2 := Json.lastsAt_whole (by decide) (by decide) 2
  obtain ⟨third, opened, -, exactly⟩ :=
    lastWrite_read (show run? _ ([] ++ _ :: _) = _ from run) rfl (by decide) (by decide)
      (by rw [readable]; rfl)
  exact ⟨s, third, run, opened, exactly lasts⟩

/-- Not every last write is read: a store that has not reloaded since then writes its own settings
over it. -/
theorem lastWrite_unread_of_stale :
    ¬ ∀ (f : SettingsFile) (store third : Store) (s : Shared Bool)
        (earlier later : List (Bool × Access)) (i : Bool) (x : Access) (a : Area) (key : String)
        (v : Json),
        Store.openOn (some f) = .ok store →
        run? ⟨fun _ => store, f⟩ (earlier ++ (i, x) :: later) = some s →
        x.written? = some (a, key, v) →
        (∀ e ∈ later, e.2.target? ≠ some (a, key)) →
        Store.openOn (some s.file) = .ok third → third.settings.get? a key = some v := by
  intro kept
  have runs : ((run? ⟨fun _ : Bool => {}, {}⟩ [(false, .set .synced "pomodoroWork" (.nat 40)),
      (true, .setFlag "lumen-dyslexia" true)]).bind fun s =>
        (Store.openOn (some s.file)).toOption.map fun third =>
          third.settings.get? .synced "pomodoroWork" |>.isSome) = some false := by decide +kernel
  obtain ⟨s, run, read⟩ := Option.bind_eq_some_iff.1 runs
  obtain ⟨third, opened, unread⟩ := Option.map_eq_some_iff.1 read
  have opened : Store.openOn (some s.file) = .ok third := by
    cases reads : Store.openOn (some s.file) with
    | error e =>
        rw [reads] at opened
        cases opened
    | ok t =>
        rw [reads] at opened
        exact congrArg Except.ok (Option.some.inj opened)
  have found := kept {} {} third s [] _ false _ .synced "pomodoroWork" (.nat 40) rfl run rfl
    (by decide) opened
  rw [found] at unread
  cases unread

end Shared

end PageAid
