import MarkupLint.CommandLine.Run
import MarkupLint.Proofs.Settings.Exclusion

/-! What linting files prints and returns, against the files themselves: the lines of what was found
before the first file that cannot be read or linted, and the summary only if there is none. -/
namespace MarkupLint.CommandLine

def Deed.file : Deed → Path
  | .read file => file
  | .lint file => file

namespace FileResult

def stops : FileResult → Bool
  | .unreadable _ => true
  | .failed _ => true
  | _ => false

def findings : FileResult → List Finding
  | .linted findings => findings
  | _ => []

def deeds (file : Path) : FileResult → List Deed
  | .excluded => []
  | .unreadable _ => [.read file]
  | .failed _ => [.read file, .lint file]
  | .linted _ => [.read file, .lint file]

end FileResult

namespace Examiner

variable (x : Examiner)

inductive Meets (file : Path) : FileResult → Prop where
  | excluded (left : x.excludes file = true) : Meets file .excluded
  | unreadable {e : SystemError} (kept : x.excludes file = false) (read : x.read file = .error e) :
      Meets file (.unreadable e)
  | failed {text : String} {e : LintError} (kept : x.excludes file = false)
      (read : x.read file = .ok text) (said : x.lint text = .error e) : Meets file (.failed e)
  | linted {text : String} {findings : List Finding} (kept : x.excludes file = false)
      (read : x.read file = .ok text) (said : x.lint text = .ok findings) :
      Meets file (.linted findings)

def findings (files : List Path) : List Finding :=
  files.flatMap fun file => (x.examine file).findings

def findingLines (files : List Path) : List String :=
  files.flatMap fun file => (x.examine file).findings.map (findingLine file)

/-- One line for each finding, `path:line:column kind message`. -/
def report (files : List Path) : String :=
  String.join (files.flatMap fun file => (x.examine file).findings.map fun f =>
    file.text ++ ":" ++ toString f.line ++ ":" ++ toString f.column ++ " " ++
      (if f.kind = .error then "error" else "warn") ++ " htmllinter/" ++ f.ruleName ++ ": " ++
      f.message ++ " [" ++ toString f.line ++ ":" ++ toString f.column ++ "]\n")

def included (files : List Path) : List Path := files.filter fun file => !x.excludes file

theorem examine_meets (file : Path) : x.Meets file (x.examine file) := by
  unfold examine
  cases out : x.excludes file with
  | true => exact .excluded out
  | false =>
    cases read : x.read file with
    | error e => exact .unreadable out read
    | ok text =>
      cases said : x.lint text with
      | error e => simpa [said] using Meets.failed out read said
      | ok findings => simpa [said] using Meets.linted out read said

theorem deeds_eq : x.deeds = fun file => (x.examine file).deeds file := by
  funext file
  have met := x.examine_meets file
  generalize x.examine file = result at met
  cases met with
  | excluded left => simp [deeds, left, FileResult.deeds]
  | unreadable kept read => simp [deeds, kept, read, FileResult.deeds]
  | failed kept read => simp [deeds, kept, read, FileResult.deeds]
  | linted kept read => simp [deeds, kept, read, FileResult.deeds]

theorem printed_findingLines (files : List Path) :
    printed (x.findingLines files) = x.report files := by
  have line (file : Path) (f : Finding) : findingLine file f ++ "\n" =
      file.text ++ ":" ++ toString f.line ++ ":" ++ toString f.column ++ " " ++
        (if f.kind = .error then "error" else "warn") ++ " htmllinter/" ++ f.ruleName ++ ": " ++
        f.message ++ " [" ++ toString f.line ++ ":" ++ toString f.column ++ "]\n" := by
    have name : f.kind.name = if f.kind = .error then "error" else "warn" := by
      cases f.kind <;> rfl
    rw [findingLine, Finding.display, name]
    apply String.toList_inj.mp
    simp [pluginName]
  simp only [printed, report, findingLines, List.map_flatMap, List.map_map, Function.comp_def, line]

theorem examine_excluded {file : Path} : x.examine file = .excluded ↔ x.excludes file = true := by
  unfold examine
  cases out : x.excludes file with
  | true => simp
  | false =>
    cases x.read file with
    | error e => simp
    | ok text => cases said : x.lint text <;> simp [said]

/-- What an examiner finds out depends on what it reads of the files that are not excluded, and on
what the linter says of that. -/
theorem examine_congr {y : Examiner} (excludes : y.excludes = x.excludes)
    (read : ∀ file, x.excludes file = false → y.read file = x.read file)
    (lint : ∀ file text, x.excludes file = false → x.read file = .ok text →
      y.lint text = x.lint text) : y.examine = x.examine ∧ y.deeds = x.deeds := by
  have same : y.examine = x.examine := by
    funext file
    cases out : x.excludes file with
    | true => simp [examine, excludes, out]
    | false =>
      cases found : x.read file with
      | error e => simp [examine, excludes, out, read file out, found]
      | ok text => simp [examine, excludes, out, read file out, found, lint file text out found]
  exact ⟨same, by rw [deeds_eq, deeds_eq, same]⟩

end Examiner

section Realize

/-- A text for a path that tells it from every other one. -/
def markOf (file : Path) : String := String.ofList (file.bytes.map fun b => Char.ofNat b.toNat)

def pathOf (text : String) : Path := ⟨text.toList.map fun c => UInt8.ofNat c.toNat⟩

theorem pathOf_markOf (file : Path) : pathOf (markOf file) = file := by
  have back : ∀ b : UInt8, UInt8.ofNat (Char.ofNat b.toNat).toNat = b := by
    intro b
    have valid : b.toNat.isValidChar := .inl (Nat.lt_trans b.toNat_lt (by decide))
    have kept : (Char.ofNat b.toNat).toNat = b.toNat := by
      rw [Char.ofNat, dif_pos valid]
      rfl
    rw [kept, UInt8.ofNat_toNat]
  simp [pathOf, markOf, Function.comp_def, back]

/-- Files may be excluded, unreadable, or linted with any result, each as it likes. -/
theorem Examiner.exists_examine (result : Path → FileResult) :
    ∃ x : Examiner, x.examine = result := by
  refine ⟨⟨fun file => result file matches .excluded, fun file =>
    match result file with
    | .unreadable e => .error e
    | _ => .ok (markOf file), fun text =>
    match result (pathOf text) with
    | .failed e => .error e
    | .linted findings => .ok findings
    | _ => .ok []⟩, funext fun file => ?_⟩
  cases is : result file <;> simp [examine, is, pathOf_markOf]

end Realize

def Tally.after (t : Tally) (x : Examiner) (files : List Path) : Tally where
  lines := t.lines ++ x.findingLines files
  checked := t.checked + (x.included files).length
  issues := t.issues + (x.findings files).length
  hasErrors := t.hasErrors || (x.findings files).any Finding.isError
  deeds := t.deeds ++ files.flatMap x.deeds

section Run

variable (x : Examiner) (t : Tally)

theorem Tally.after_append (files more : List Path) :
    (t.after x files).after x more = t.after x (files ++ more) := by
  simp [Tally.after, Examiner.findingLines, Examiner.findings, Examiner.included, Nat.add_assoc,
    Bool.or_assoc]

theorem lint_from_cons {file : Path} (rest : List Path)
    (passes : (x.examine file).stops = false) :
    lintFrom x t (file :: rest) = lintFrom x (t.after x [file]) rest := by
  rw [lintFrom]
  cases is : x.examine file with
  | excluded =>
    have out : x.excludes file = true := x.examine_excluded.mp is
    simp [Tally.after, Examiner.findingLines, Examiner.findings, Examiner.included, is, out,
      FileResult.findings]
  | linted findings =>
    have included : x.excludes file = false := by
      rw [← Bool.not_eq_true, ← x.examine_excluded, is]
      simp
    simp [Tally.after, Tally.add, Examiner.findingLines, Examiner.findings, Examiner.included, is,
      included, FileResult.findings]
  | unreadable => simp [is, FileResult.stops] at passes
  | failed => simp [is, FileResult.stops] at passes

theorem lint_from_append {before : List Path} (rest : List Path)
    (passes : ∀ file ∈ before, (x.examine file).stops = false) :
    lintFrom x t (before ++ rest) = lintFrom x (t.after x before) rest := by
  induction before generalizing t with
  | nil => simp [Tally.after, Examiner.findingLines, Examiner.findings, Examiner.included]
  | cons file before ih =>
    obtain ⟨first, later⟩ := List.forall_mem_cons.mp passes
    rw [List.cons_append, lint_from_cons x t _ first, ih _ later, Tally.after_append]
    rfl

theorem lint_from_stop {file : Path} (rest : List Path) (stops : (x.examine file).stops = true) :
    lintFrom x t (file :: rest) = ⟨{ t with deeds := t.deeds ++ x.deeds file }, false⟩ := by
  rw [lintFrom]
  cases is : x.examine file <;> simp [is, FileResult.stops] at stops ⊢

end Run

theorem printed_append (lines more : List String) :
    printed (lines ++ more) = printed lines ++ printed more := by
  simp [printed]

/-- No file ends the run, and all that was found is printed with the summary. -/
structure Completes (x : Examiner) (files : List Path) (r : LintRun) : Prop where
  passes : ∀ file ∈ files, (x.examine file).stops = false
  stdout : r.exit.stdout = x.report files ++ "\nChecked " ++
    toString (x.included files).length ++ " files, found " ++
    toString (x.findings files).length ++ " issues\n"
  status : r.exit.status = if ∃ f ∈ x.findings files, f.kind = .error then 1 else 0
  deeds : r.tally.deeds = files.flatMap fun file => (x.examine file).deeds file

/-- A file ends the run; what was found before it is printed, and nothing else. -/
structure Breaks (x : Examiner) (before : List Path) (file : Path) (r : LintRun) : Prop where
  passes : ∀ other ∈ before, (x.examine other).stops = false
  stops : (x.examine file).stops = true
  stdout : r.exit.stdout = x.report before
  status : r.exit.status = 2
  deeds : r.tally.deeds = (before ++ [file]).flatMap fun file => (x.examine file).deeds file

theorem lint_files_completes (x : Examiner) {files : List Path}
    (passes : ∀ file ∈ files, (x.examine file).stops = false) :
    Completes x files (lintFiles x files) := by
  have run : lintFiles x files = ⟨Tally.empty.after x files, true⟩ := by
    have whole := lint_from_append x .empty [] passes
    rwa [List.append_nil] at whole
  have lines : (lintFiles x files).lines = x.findingLines files ++
      ["", summary (Tally.empty.after x files)] := by
    simp [run, LintRun.lines, Tally.after, Tally.empty]
  constructor
  · exact passes
  · have last (t : String) : "\n" ++ ("Checked " ++ t) = "\nChecked " ++ t := by
      rw [← String.append_assoc]
      rfl
    rw [LintRun.exit, lines, printed_append, x.printed_findingLines]
    simp [printed, summary, Tally.after, Tally.empty, String.append_assoc, last]
  · simp [run, LintRun.exit, LintRun.status, Tally.after, Tally.empty, Finding.isError]
  · simp [run, Tally.after, Tally.empty, x.deeds_eq]

theorem lint_files_breaks (x : Examiner) {before : List Path} {file : Path} (rest : List Path)
    (passes : ∀ other ∈ before, (x.examine other).stops = false)
    (stops : (x.examine file).stops = true) :
    Breaks x before file (lintFiles x (before ++ file :: rest)) := by
  have run : lintFiles x (before ++ file :: rest) = _ :=
    (lint_from_append x .empty (file :: rest) passes).trans (lint_from_stop x _ rest stops)
  have lines : (lintFiles x (before ++ file :: rest)).lines = x.findingLines before := by
    simp [run, LintRun.lines, Tally.after, Tally.empty]
  constructor
  · exact passes
  · exact stops
  · rw [LintRun.exit, lines, x.printed_findingLines]
  · simp [run, LintRun.exit, LintRun.status]
  · simp [run, Tally.after, Tally.empty, x.deeds_eq]

theorem lint_files_cases (x : Examiner) (files : List Path) :
    Completes x files (lintFiles x files) ∨
      ∃ before file rest, files = before ++ file :: rest ∧
        Breaks x before file (lintFiles x files) := by
  cases first : files.find? fun file => (x.examine file).stops with
  | none => exact .inl (lint_files_completes x (by simpa using List.find?_eq_none.mp first))
  | some file =>
    obtain ⟨stops, before, rest, rfl, passes⟩ := List.find?_eq_some_iff_append.mp first
    exact .inr ⟨before, file, rest, rfl,
      lint_files_breaks x rest (by simpa using passes) stops⟩

theorem lint_from_congr {x y : Examiner} (examine : y.examine = x.examine)
    (deeds : y.deeds = x.deeds) (t : Tally) (files : List Path) :
    lintFrom y t files = lintFrom x t files := by
  induction files generalizing t with
  | nil => rfl
  | cons file files ih => simp only [lintFrom, examine, deeds, ih]

theorem deed_included (x : Examiner) {files : List Path} {d : Deed}
    (done : d ∈ (lintFiles x files).tally.deeds) : x.excludes d.file = false := by
  obtain ⟨file, there⟩ : ∃ file, d ∈ (x.examine file).deeds file := by
    rcases lint_files_cases x files with whole | ⟨before, file, _, _, broken⟩
    · obtain ⟨file, _, there⟩ := List.mem_flatMap.mp (whole.deeds ▸ done)
      exact ⟨file, there⟩
    · obtain ⟨file, _, there⟩ := List.mem_flatMap.mp (broken.deeds ▸ done)
      exact ⟨file, there⟩
  have met := x.examine_meets file
  generalize x.examine file = result at met there
  cases met with
  | excluded => simp [FileResult.deeds] at there
  | unreadable kept =>
    obtain rfl : d = .read file := by simpa [FileResult.deeds] using there
    exact kept
  | failed kept =>
    have either : d = .read file ∨ d = .lint file := by simpa [FileResult.deeds] using there
    rcases either with rfl | rfl <;> exact kept
  | linted kept =>
    have either : d = .read file ∨ d = .lint file := by simpa [FileResult.deeds] using there
    rcases either with rfl | rfl <;> exact kept

/-- Linting files reports what came of each, whatever that is: excluded files are left alone, the
others are taken in order up to the first that cannot be read or linted, every finding before it is
printed in a line of its own, and the summary and the status tell whether there was such a file and
what was found. Whatever the programs of the system do, this is what the program prints and returns
for the files that the settings do not exclude, what can be read of them, and what the linter of the
settings replies. -/
theorem lint_reports :
    (∀ result : Path → FileResult, ∃ x : Examiner, x.examine = result) ∧
    (∀ (x : Examiner) (files : List Path),
      (∀ file, x.Meets file (x.examine file)) ∧
      (Completes x files (lintFiles x files) ∨
        ∃ before file rest, files = before ++ file :: rest ∧
          Breaks x before file (lintFiles x files)) ∧
      (∀ d ∈ (lintFiles x files).tally.deeds, x.excludes d.file = false) ∧
      ∀ y : Examiner, y.excludes = x.excludes →
        (∀ file, x.excludes file = false → y.read file = x.read file) →
        (∀ file text, x.excludes file = false → x.read file = .ok text →
          y.lint text = x.lint text) →
        lintFiles y files = lintFiles x files) ∧
    ∀ (launch : Launch) {w : Workspace} {config : Option String} {s : Settings}
      {set : Option (List Glob)},
      lintSettings w (config.map Path.ofText) = .ok s → s.excludeSet = .ok set →
      ∃ x : Examiner,
        (∀ file, x.excludes file = set.any fun globs => globs.any fun g => g.isMatch file) ∧
        (∀ file, x.read file = w.readText file) ∧
        (∀ text, x.lint text = LinterProgram.reply
          ⟨s.linterCommand.command, s.linterCommand.args, none⟩
          (launch ⟨s.linterCommand.command, s.linterCommand.args, none⟩
            (LinterProgram.request text s.configuration))) ∧
        ∀ files : List String,
          runLint launch w config files = (lintFiles x (files.map Path.ofText)).exit := by
  refine ⟨Examiner.exists_examine, fun x files => ⟨x.examine_meets, lint_files_cases x files,
    fun d done => deed_included x done, ?_⟩, ?_⟩
  · intro y excludes read lint
    obtain ⟨examine, deeds⟩ := x.examine_congr excludes read lint
    exact lint_from_congr examine deeds .empty files
  · intro launch w config s set loaded compiled
    refine ⟨.ofSettings launch w s set, fun _ => rfl, fun _ => rfl, fun _ => rfl, fun files => ?_⟩
    rw [runLint, lint_eq launch loaded compiled]

def catConfig : String :=
  "\x7b\"exclude\":[\"dist/**\"],\"linter\":\x7b\"command\":\"cat\",\"args\":[\"out\"]\x7d\x7d"

def catOutput : String :=
  "[\x7b\"ruleName\":\"tag-close\",\"type\":\"error\",\"message\":\"Tag is not closed\"," ++
    "\"node\":\x7b\"location\":\x7b\"line\":2,\"col\":3\x7d\x7d\x7d]"

def catWorkspace : Workspace where
  files := ((distWorkspace catConfig).files.write (.ofText "/srv/out") (Text.utf8 catOutput)).write
    (.ofText "/srv/a.html") (Text.utf8 "<p>")
  directory := .ofText "/srv"

def catLaunch : Launch := fun l input =>
  match l.args with
  | [] => .ok ⟨input, [], .code 0⟩
  | name :: _ =>
    match catWorkspace.readBytes (.ofText name) with
    | .ok content => .ok ⟨content, [], .code 0⟩
    | .error _ => .ok ⟨[], [], .code 1⟩

def catFiles : List String := ["dist/a.html", "a.html", "missing.html", "a.html"]

theorem cat_files_reported :
    ∃ s set x before file rest, lintSettings catWorkspace none = .ok s ∧ s.excludeSet = .ok set ∧
      (∀ text, x.lint text = LinterProgram.reply
        ⟨s.linterCommand.command, s.linterCommand.args, none⟩
        (catLaunch ⟨s.linterCommand.command, s.linterCommand.args, none⟩
          (LinterProgram.request text s.configuration))) ∧
      catFiles.map .ofText = before ++ file :: rest ∧
      Breaks x before file (lintFiles x (catFiles.map .ofText)) ∧
      (lintFiles x (catFiles.map .ofText)).exit =
        ⟨"a.html:2:3 error htmllinter/tag-close: Tag is not closed [2:3]\n", 2⟩ := by
  have ready : ((lintSettings catWorkspace none).bind Settings.excludeSet).toOption.isSome := by
    decide +kernel
  have exit : runLint catLaunch catWorkspace none catFiles =
      ⟨"a.html:2:3 error htmllinter/tag-close: Tag is not closed [2:3]\n", 2⟩ := by decide +kernel
  generalize catWorkspace = w at ready exit ⊢
  generalize catLaunch = launch at exit ⊢
  generalize catFiles = files at exit ⊢
  obtain ⟨s, set, loaded, compiled⟩ : ∃ s set, lintSettings w none = .ok s ∧
      s.excludeSet = .ok set := by
    cases loaded : lintSettings w none with
    | error e => simp [loaded, Except.bind, Except.toOption] at ready
    | ok s =>
      cases compiled : s.excludeSet with
      | error e => simp [loaded, compiled, Except.bind, Except.toOption] at ready
      | ok set => exact ⟨s, set, rfl, compiled⟩
  obtain ⟨_, results, runs⟩ := lint_reports
  obtain ⟨x, _, _, lints, run⟩ := @runs launch w none s set loaded compiled
  rw [run files] at exit
  rcases (results x (files.map .ofText)).2.1 with all | ⟨before, file, rest, cut, breaks⟩
  · have few := all.status
    rw [exit] at few
    split at few <;> contradiction
  · exact ⟨s, set, x, before, file, rest, loaded, compiled, lints, cut, breaks, exit⟩

end MarkupLint.CommandLine
