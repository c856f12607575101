import MarkupLint.CommandLine.Lint
import MarkupLint.Document.Config
import MarkupLint.Proofs.Glob.Spelling
import MarkupLint.Proofs.Url.FilePath
import MarkupLint.Server.Backend

/-! Which files the command line and the server leave alone. The command line matches a file as it
was named, the server the whole path of its URL. They agree on patterns that ask for a name. What
the command line leaves out under patterns with a recursive start the server leaves out as well.
Patterns that start with a directory of the workspace exclude nothing from the server, and absolute
ones nothing from the command line. -/
namespace MarkupLint

open CommandLine (lint lintSettings lintFiles Examiner)
open Server (State)

/-- Linting the file alone does not even read it. -/
def CommandLine.Skips (launch : Launch) (w : Workspace) (config : Option Path) (file : Path) :
    Prop :=
  (lint launch w config [file]).map (fun r => r.tally.deeds) = .ok []

def Server.State.excludes (st : State) (answered : Option (List Json)) (u : Url) : Bool :=
  (DocumentConfig.resolve (st.settings answered) u).excluded

/-- A file below an absolute root that the command line is given by a relative path and the server
by a URL. Both have read the same exclusions, and the editor says nothing. -/
structure SharedFile (w : Workspace) (config : Option Path) (st : State)
    (answered : Option (List Json)) (root p : Path) (u : Url) (patterns : List Glob) : Prop where
  read : ∃ exclude, (lintSettings w config).toOption.map Settings.exclude = some exclude ∧
    st.fileSettings.map Settings.exclude = some exclude ∧
    exclude.mapM Settings.compilePattern = .ok patterns
  silent : st.editorValue answered = .null
  rooted : root.isAbsolute = true
  relative : p.isAbsolute = false
  place : u.filePath? = some (root.join p)

variable {w : Workspace} {config : Option Path} {st : State} {answered : Option (List Json)}
  {root p : Path} {u : Url} {patterns : List Glob} (launch : Launch)

namespace CommandLine

theorem lint_files_deeds (x : Examiner) (file : Path) :
    (lintFiles x [file]).tally.deeds = x.deeds file := by
  simp only [lintFiles, lintFrom, Tally.empty, List.nil_append]
  cases x.examine file <;> rfl

theorem deeds_eq_nil {x : Examiner} {file : Path} : x.deeds file = [] ↔ x.excludes file = true := by
  rw [Examiner.deeds]
  split
  · rename_i excluded
    simp [excluded]
  · rename_i included
    cases x.read file <;> simp [included]

theorem lint_eq {s : Settings} {patterns : Option (List Glob)}
    (settings : lintSettings w config = .ok s) (compiled : s.excludeSet = .ok patterns)
    (files : List Path) :
    lint launch w config files = .ok (lintFiles (.ofSettings launch w s patterns) files) := by
  rw [lint, settings]
  simp only [bind, Except.bind, compiled]
  rfl

theorem skips_iff {s : Settings} {patterns : Option (List Glob)}
    (settings : lintSettings w config = .ok s) (compiled : s.excludeSet = .ok patterns) :
    Skips launch w config p ↔ (patterns.any fun set => Settings.matchesAny set p) = true := by
  rw [Skips, lint_eq launch settings compiled, Except.map, lint_files_deeds, Except.ok.injEq,
    deeds_eq_nil]
  rfl

end CommandLine

theorem Settings.exclude_set_of_patterns {s : Settings}
    (compiled : s.exclude.mapM compilePattern = .ok patterns) :
    ∃ set, s.excludeSet = .ok set ∧ set.getD [] = patterns := by
  rw [excludeSet, compiled]
  split
  · rename_i empty
    rw [List.isEmpty_iff.mp empty] at compiled
    exact ⟨none, rfl, Except.ok.inj compiled⟩
  · exact ⟨some patterns, rfl, rfl⟩

/-- An editor that says nothing adds no exclusions. -/
theorem Server.State.settings_exclude {exclude : List String}
    (file : st.fileSettings.map Settings.exclude = some exclude)
    (silent : st.editorValue answered = .null) : (st.settings answered).exclude = exclude := by
  obtain ⟨t, loaded, rfl⟩ := Option.map_eq_some_iff.mp file
  have none : State.readEditor .null = .default := rfl
  rw [State.settings, silent, none, State.layered, loaded]
  exact List.append_nil t.exclude

namespace SharedFile

theorem skips_iff (h : SharedFile w config st answered root p u patterns) :
    CommandLine.Skips launch w config p ↔ ∃ g ∈ patterns, g.isMatch p = true := by
  obtain ⟨exclude, named, _, compiled⟩ := h.read
  obtain ⟨s, read, rfl⟩ := Option.map_eq_some_iff.mp named
  have settings : lintSettings w config = .ok s := by
    cases all : lintSettings w config with
    | error e => simp [all, Except.toOption] at read
    | ok t => simpa [all, Except.toOption] using read
  obtain ⟨set, whole, rfl⟩ := Settings.exclude_set_of_patterns compiled
  rw [CommandLine.skips_iff launch settings whole]
  cases set with
  | none => simp
  | some set => simp [Settings.matchesAny]

theorem excludes_iff (h : SharedFile w config st answered root p u patterns) :
    st.excludes answered u = true ↔ ∃ g ∈ patterns, g.isMatch (root.join p) = true := by
  obtain ⟨exclude, _, loaded, compiled⟩ := h.read
  rw [← State.settings_exclude loaded h.silent] at compiled
  obtain ⟨set, whole, rfl⟩ := Settings.exclude_set_of_patterns compiled
  rw [State.excludes, DocumentConfig.resolve, whole, h.place]
  cases set with
  | none => simp
  | some set => simp [Settings.matchesAny]

theorem same_name (h : SharedFile w config st answered root p u patterns) :
    Glob.lastPart (root.join p).bytes = Glob.lastPart p.bytes := by
  obtain ⟨d, below⟩ := Path.join_below h.rooted h.relative
  rw [below, Glob.lastPart_below]

end SharedFile

/-- The command line goes by the path as named and the server by the whole path. They agree under
patterns that ask for a name; under patterns with a recursive start the server leaves out what the
command line does; under patterns that start with a directory of the root the server leaves out
nothing, and under absolute patterns the command line skips nothing. -/
theorem exclusions_compared (h : SharedFile w config st answered root p u patterns) :
    (CommandLine.Skips launch w config p ↔ ∃ g ∈ patterns, g.isMatch p = true) ∧
      (st.excludes answered u = true ↔ ∃ g ∈ patterns, g.isMatch (root.join p) = true) ∧
      ((∀ g ∈ patterns, g.byName = true) →
        (CommandLine.Skips launch w config p ↔ st.excludes answered u = true)) ∧
      ((∀ g ∈ patterns, g.startsAnywhere = true) →
        CommandLine.Skips launch w config p → st.excludes answered u = true) ∧
      ((∀ g ∈ patterns, g.startsRelative = true) → st.excludes answered u = false) ∧
      ((∀ g ∈ patterns, g.startsAbsolute = true) → ¬ CommandLine.Skips launch w config p) := by
  refine ⟨h.skips_iff launch, h.excludes_iff, fun named => ?_, fun anywhere skipped => ?_,
    fun relative => ?_, fun absolute skipped => ?_⟩
  · have same : ∀ g ∈ patterns, g.isMatch p = g.isMatch (root.join p) :=
      fun g hg => Glob.isMatch_byName (named g hg) h.same_name.symm
    rw [h.skips_iff launch, h.excludes_iff]
    exact exists_congr fun g => and_congr_right fun hg => by rw [same g hg]
  · obtain ⟨g, hg, fits⟩ := (h.skips_iff launch).mp skipped
    obtain ⟨d, below⟩ := Path.join_below h.rooted h.relative
    exact h.excludes_iff.mpr ⟨g, hg, Glob.isMatch_below (anywhere g hg) below fits⟩
  · rw [Bool.eq_false_iff, ne_eq, h.excludes_iff]
    rintro ⟨g, hg, fits⟩
    rw [Glob.isMatch_absolute (relative g hg) (Path.join_absolute h.rooted h.relative)] at fits
    contradiction
  · obtain ⟨g, hg, fits⟩ := (h.skips_iff launch).mp skipped
    rw [Glob.isMatch_relative (absolute g hg) h.relative] at fits
    contradiction

def distWorkspace (config : String) : Workspace where
  files := .directory [(Text.utf8 "srv", .directory
    [(Text.utf8 ".htmllinterrc.json", .file (Text.utf8 config)),
      (Text.utf8 "dist", .directory [(Text.utf8 "a.html", .file (Text.utf8 "<p>"))])])]
  directory := .ofText "/srv"

def distServer (config : String) : State :=
  ((Server.Backend.initial none).introduce (distWorkspace config)
    ⟨true, none, some (fileUrl "/srv")⟩).state

def distPage : Path := .ofText "dist/a.html"

def distPageUrl : Url := fileUrl "/srv/dist/a.html"

def DistPageShared (config : String) (patterns : List Glob) : Prop :=
  SharedFile (distWorkspace config) none (distServer config) (some [.null]) (.ofText "/srv")
    distPage distPageUrl patterns

def recursiveConfig : String := "\x7b\"exclude\":[\"**/dist/**\"]\x7d"

theorem page_left_out :
    DistPageShared recursiveConfig [⟨.leading :: "dist".toList.map .literal ++ [.trailing]⟩] ∧
      (∀ launch, CommandLine.Skips launch (distWorkspace recursiveConfig) none distPage) ∧
      (distServer recursiveConfig).excludes (some [.null]) distPageUrl = true := by
  have shared : DistPageShared recursiveConfig
      [⟨.leading :: "dist".toList.map .literal ++ [.trailing]⟩] := by
    refine ⟨⟨["**/dist/**"], ?_, ?_, rfl⟩, rfl, ?_, ?_, ?_⟩
    all_goals decide +kernel
  have compared (launch : Launch) := exclusions_compared launch shared
  have skipped (launch : Launch) :
      CommandLine.Skips launch (distWorkspace recursiveConfig) none distPage :=
    (compared launch).1.mpr ⟨_, List.mem_singleton_self _, by decide +kernel⟩
  obtain ⟨_, _, _, below, _⟩ := compared fun _ _ => .error .notFound
  exact ⟨shared, skipped, below (by decide) (skipped _)⟩

def distConfig : String := "\x7b\"exclude\":[\"dist/**\"]\x7d"

/-- The command line skips the page, and the server does not leave it out. -/
theorem exclusions_differ :
    DistPageShared distConfig [⟨"dist".toList.map .literal ++ [.trailing]⟩] ∧
      (∀ launch, CommandLine.Skips launch (distWorkspace distConfig) none distPage) ∧
      (distServer distConfig).excludes (some [.null]) distPageUrl = false := by
  have shared : DistPageShared distConfig [⟨"dist".toList.map .literal ++ [.trailing]⟩] := by
    refine ⟨⟨["dist/**"], ?_, ?_, rfl⟩, rfl, ?_, ?_, ?_⟩
    all_goals decide +kernel
  have skipped (launch : Launch) :
      CommandLine.Skips launch (distWorkspace distConfig) none distPage :=
    (shared.skips_iff launch).mpr ⟨_, List.mem_singleton_self _, by decide +kernel⟩
  exact ⟨shared, skipped, by decide +kernel⟩

end MarkupLint
