import MarkupLint.Proofs.Settings.Alike
import MarkupLint.Proofs.Settings.Loading
import MarkupLint.Server.State

/-! Loading the config file again. Whatever the stage at which that fails, the settings stay; a file
that was found and is gone takes its settings with it. -/
namespace MarkupLint.Server

def srvWorkspace (name content : String) : Workspace where
  files := .directory [(Text.utf8 "srv", .directory [(Text.utf8 name, .file (Text.utf8 content))])]
  directory := .ofText "/srv"

def strictConfig : String := "\x7b\"extend\":\"strict\"\x7d"

namespace State

open Settings (Loads Unloadable)

variable {s : State} {w : Workspace} {p : Path} {t : Settings}

/-- The config file is the one that was named, or else the one found in the root. -/
def InUse (s : State) (w : Workspace) (p : Path) : Prop :=
  s.configPath = some p ∨
    s.configPath = none ∧ ∃ root, s.root = some root ∧ Settings.discover w root = some p

def Nowhere (s : State) : Prop := s.configPath = none ∧ s.root = none

def NotFound (s : State) (w : Workspace) : Prop :=
  s.configPath = none ∧ ∃ root, s.root = some root ∧
    ∀ name ∈ Settings.fileNames, w.isFile (root.join (.ofText name)) = false

theorem Nowhere.configFile? (h : s.Nowhere) (w : Workspace) : s.configFile? w = none := by
  rw [State.configFile?, h.1, h.2]
  rfl

theorem NotFound.configFile? (h : s.NotFound w) : s.configFile? w = some none := by
  obtain ⟨unnamed, root, rooted, absent⟩ := h
  rw [State.configFile?, unnamed, rooted]
  exact congrArg some ((Settings.discover_eq_none w root).mpr absent)

theorem InUse.configFile? (h : s.InUse w p) : s.configFile? w = some (some p) := by
  rcases h with named | ⟨unnamed, root, rooted, found⟩
  · rw [State.configFile?, named]
  · rw [State.configFile?, unnamed, rooted]
    exact congrArg some found

theorem nowhere_or_notFound_or_inUse (s : State) (w : Workspace) :
    s.Nowhere ∨ s.NotFound w ∨ ∃ p, s.InUse w p := by
  cases named : s.configPath with
  | some p => exact .inr (.inr ⟨p, .inl named⟩)
  | none =>
    cases rooted : s.root with
    | none => exact .inl ⟨named, rooted⟩
    | some root =>
      cases found : Settings.discover w root with
      | none =>
        exact .inr (.inl ⟨named, root, rooted, (Settings.discover_eq_none w root).mp found⟩)
      | some p => exact .inr (.inr ⟨p, .inr ⟨named, root, rooted, found⟩⟩)

/-- Settings that are taken over count as new unless they were alike before. -/
theorem adopt_some (s : State) (t : Settings) :
    (s.adopt (some t)).2 = true ↔ ¬ ∃ old, s.fileSettings = some old ∧ old.Alike t := by
  cases before : s.fileSettings with
  | none => simp [adopt, before]
  | some old => simp [adopt, before, ← Settings.beq_iff]

theorem adopt_none (s : State) : (s.adopt none).2 = true ↔ s.fileSettings ≠ none := by
  cases before : s.fileSettings <;> simp [adopt, before]

theorem adopt_again (s : State) (loaded : Option Settings) :
    (s.adopt loaded).1.adopt loaded = ((s.adopt loaded).1, false) := by
  have same : (loaded == loaded) = true := by
    cases loaded with
    | none => rfl
    | some t => exact (Settings.beq_iff t t).mpr (.refl t)
  simp [adopt, same]

theorem reload_of_nowhere (h : s.Nowhere) (w : Workspace) : s.reload w = (s, false) := by
  rw [reload, h.configFile?]

theorem reload_of_notFound (h : s.NotFound w) : s.reload w = s.adopt none := by
  rw [reload, h.configFile?]

theorem reload_of_unloadable (used : s.InUse w p) (h : Unloadable w p) :
    s.reload w = (s, false) := by
  obtain ⟨e, failed⟩ := Settings.load_of_unloadable h
  simp only [reload, used.configFile?, failed]

theorem reload_of_loads (used : s.InUse w p) (h : Loads w p t) :
    s.reload w = s.adopt (some t) := by
  simp only [reload, used.configFile?, Settings.load_of_loads h]

/-- What is taken over does not change where the next reload looks. -/
theorem reload_again (s : State) (w : Workspace) :
    (s.reload w).1.reload w = ((s.reload w).1, false) := by
  rcases s.nowhere_or_notFound_or_inUse w with nowhere | absent | ⟨p, used⟩
  · rw [reload_of_nowhere nowhere, reload_of_nowhere nowhere]
  · have still : (s.adopt none).1.NotFound w := absent
    rw [reload_of_notFound absent, reload_of_notFound still, adopt_again]
  · rcases Settings.loads_or_unloadable w p with ⟨t, loads⟩ | unloadable
    · have still : (s.adopt (some t)).1.InUse w p := used
      rw [reload_of_loads used loads, reload_of_loads still loads, adopt_again]
    · rw [reload_of_unloadable used unloadable, reload_of_unloadable used unloadable]

/-- A reload takes over all that the file in use says, or nothing where there is no place to look or
the file cannot be loaded. One of the cases arises, and a second reload changes nothing. -/
theorem reload_atomic (s : State) (w : Workspace) :
    (s.Nowhere → s.reload w = (s, false)) ∧
    (∀ p, s.InUse w p → Unloadable w p → s.reload w = (s, false)) ∧
    (∀ p t, s.InUse w p → Loads w p t →
      (s.reload w).1 = { s with fileSettings := some t } ∧
        ((s.reload w).2 = true ↔ ¬ ∃ old, s.fileSettings = some old ∧ old.Alike t)) ∧
    (s.NotFound w →
      (s.reload w).1 = { s with fileSettings := none } ∧
        ((s.reload w).2 = true ↔ s.fileSettings ≠ none)) ∧
    (s.Nowhere ∨ s.NotFound w ∨
      ∃ p, s.InUse w p ∧ (Unloadable w p ∨ ∃ t, Loads w p t)) ∧
    (s.reload w).1.reload w = ((s.reload w).1, false) := by
  refine ⟨fun h => reload_of_nowhere h w, fun p => reload_of_unloadable, ?loaded, ?cleared,
    ?cases, s.reload_again w⟩
  case loaded =>
    intro p t used loads
    rw [reload_of_loads used loads]
    exact ⟨rfl, s.adopt_some t⟩
  case cleared =>
    intro absent
    rw [reload_of_notFound absent]
    exact ⟨rfl, s.adopt_none⟩
  case cases =>
    refine (s.nowhere_or_notFound_or_inUse w).imp_right (Or.imp_right ?_)
    rintro ⟨p, used⟩
    exact ⟨p, used, (Settings.loads_or_unloadable w p).symm⟩

def namedState : State := .initial (some (.ofText "/srv/lint.json"))

theorem named_file_reloaded :
    (∃ t, Loads (srvWorkspace "lint.json" strictConfig) (.ofText "/srv/lint.json") t ∧
      t.base = some "strict" ∧ t.baseDir = some (.ofText "/srv") ∧
      (namedState.reload (srvWorkspace "lint.json" strictConfig)).1 =
        { namedState with fileSettings := some t } ∧
      (namedState.reload (srvWorkspace "lint.json" strictConfig)).2 = true) ∧
    Unloadable (srvWorkspace "lint.json" "strict") (.ofText "/srv/lint.json") ∧
      namedState.reload (srvWorkspace "lint.json" "strict") = (namedState, false) := by
  have used (w : Workspace) : namedState.InUse w (.ofText "/srv/lint.json") := .inl rfl
  constructor
  · have said : ((Settings.load (srvWorkspace "lint.json" strictConfig)
        (.ofText "/srv/lint.json")).toOption.map fun t => (t.base, t.baseDir)) =
          some (some "strict", some (.ofText "/srv")) := by decide +kernel
    cases read : Settings.load (srvWorkspace "lint.json" strictConfig)
        (.ofText "/srv/lint.json") with
    | error e => simp [read, Except.toOption] at said
    | ok t =>
      rw [read] at said
      obtain ⟨base, dir⟩ := Prod.mk.inj (Option.some.inj said)
      have loads := Settings.loads_of_load read
      obtain ⟨state, news⟩ := (namedState.reload_atomic _).2.2.1 _ t (used _) loads
      refine ⟨t, loads, base, dir, state, news.mpr ?_⟩
      rintro ⟨old, before, -⟩
      cases before
  · have said : (Settings.load (srvWorkspace "lint.json" "strict")
        (.ofText "/srv/lint.json")).toOption.isNone = true := by decide +kernel
    cases read : Settings.load (srvWorkspace "lint.json" "strict") (.ofText "/srv/lint.json") with
    | error e =>
      have unloadable := Settings.unloadable_of_load read
      exact ⟨unloadable, (namedState.reload_atomic _).2.1 _ (used _) unloadable⟩
    | ok t => simp [read, Except.toOption] at said

end State

end MarkupLint.Server
