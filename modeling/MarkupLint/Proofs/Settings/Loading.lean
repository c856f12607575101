import MarkupLint.Proofs.Path.Parts
import MarkupLint.Proofs.Schema.Acceptance
import MarkupLint.Settings.Load

/-! What a config file says when it is loaded, and the stages at which it cannot be: it is missing,
it cannot be read, it is no value, the schema refuses the value, or the value is no settings. -/
namespace MarkupLint

variable {w : Workspace} {p : Path} {s : Settings}

namespace FileTree

variable {root t : FileTree}

theorem follow_idle {es : List (FileName × FileTree)} {above : List FileTree}
    {parts : List FileName} (idle : ∀ part ∈ parts, Path.isIdle part = true) :
    follow (.directory es :: above) parts = .ok (.directory es) := by
  induction parts with
  | nil => rw [follow]
  | cons part parts ih =>
    have more := ih fun q hq => idle q (.tail _ hq)
    simp only [follow, idle part (.head _), if_true, more]

theorem find_idle (idle : ∀ part ∈ Path.splitParts p.bytes, Path.isIdle part = true)
    (found : root.find p = .ok t) : ∃ es, t = .directory es := by
  obtain ⟨first, parts, cut⟩ := List.exists_cons_of_ne_nil (Path.splitParts_ne_nil p.bytes)
  have followed : follow [root] (Path.splitParts p.bytes) = .ok t := by
    rw [find] at found
    split at found
    · cases found
    · split at found
      · cases found
      · split at found
        · cases found
        · exact found
  cases root with
  | directory es =>
    rw [follow_idle idle] at followed
    exact ⟨es, (Except.ok.inj followed).symm⟩
  | file content => simp [cut, follow] at followed
  | sealed => simp [cut, follow] at followed

end FileTree

namespace Workspace

theorem read_text_of_find {e : SystemError} (missing : w.find p = .error e) :
    w.readText p = .error e := by
  have bytes : w.files.readBytes (w.locate p) = .error e := by
    rw [FileTree.readBytes, show w.files.find (w.locate p) = .error e from missing]
  rw [readText, FileTree.readText, bytes]
  rfl

/-- What can be read is in a directory. -/
theorem parent_of_read {text : String} (read : w.readText p = .ok text) :
    ∃ dir, p.parent? = some dir := by
  by_contra none
  have parentless : p.parent? = .none := by simpa [Option.eq_none_iff_forall_ne_some] using none
  obtain ⟨start, idle⟩ := Path.of_parent?_eq_none parentless
  have here : w.locate p = p := by
    rw [locate]
    split
    · rfl
    · rename_i used
      rcases start with empty | absolute
      · simp [empty] at used
      · rw [Path.join, if_pos absolute]
  cases found : w.find p with
  | error e =>
    rw [read_text_of_find found] at read
    cases read
  | ok t =>
    have whole := found
    rw [find, here] at found
    obtain ⟨es, rfl⟩ := FileTree.find_idle idle found
    have tree : w.files.find (w.locate p) = .ok (.directory es) := whole
    rw [readText, FileTree.readText, FileTree.readBytes, tree] at read
    cases read

end Workspace

namespace Settings

/-- The stages at which the settings in a file cannot be loaded. -/
inductive Unloadable (w : Workspace) (p : Path) : Prop where
  | missing {e : SystemError} (absent : w.find p = .error e)
  | unreadable {t : FileTree} {e : SystemError} (present : w.find p = .ok t)
      (read : w.readText p = .error e)
  | malformed {text : String} {f : Commented.Fault} (read : w.readText p = .ok text)
      (parse : Commented.parse text = .error f)
  | refused {text : String} {v : Option Json} (read : w.readText p = .ok text)
      (parse : Commented.parse text = .ok v) (check : schema.accepts (v.getD .emptyObject) = false)
  | misread {text : String} {v : Option Json} {m : Json.Mismatch} (read : w.readText p = .ok text)
      (parse : Commented.parse text = .ok v) (check : schema.accepts (v.getD .emptyObject) = true)
      (decode : ofJson (v.getD .emptyObject) = .error m)

/-- The settings that a file says, with the directory that it is in. -/
inductive Loads (w : Workspace) (p : Path) : Settings → Prop where
  | intro {text : String} {v : Option Json} {t : Settings} {dir : Path}
      (read : w.readText p = .ok text) (parse : Commented.parse text = .ok v)
      (check : schema.accepts (v.getD .emptyObject) = true)
      (decode : ofJson (v.getD .emptyObject) = .ok t) (parent : p.parent? = some dir) :
      Loads w p { t with baseDir := some dir }

theorem loads_or_unloadable (w : Workspace) (p : Path) :
    (∃ s, Loads w p s) ∨ Unloadable w p := by
  cases read : w.readText p with
  | error e =>
    cases found : w.find p with
    | error e => exact .inr (.missing found)
    | ok t => exact .inr (.unreadable found read)
  | ok text =>
    obtain ⟨dir, parent⟩ := Workspace.parent_of_read read
    cases parse : Commented.parse text with
    | error f => exact .inr (.malformed read parse)
    | ok v =>
      cases check : schema.accepts (v.getD .emptyObject) with
      | false => exact .inr (.refused read parse check)
      | true =>
        cases decode : ofJson (v.getD .emptyObject) with
        | error m => exact .inr (.misread read parse check decode)
        | ok t => exact .inl ⟨_, .intro read parse check decode parent⟩

theorem load_of_unread {e : SystemError} (read : w.readText p = .error e) :
    ∃ e, load w p = .error e := by
  rw [load, read]
  exact ⟨_, rfl⟩

theorem load_of_read {text : String} (read : w.readText p = .ok text) :
    load w p = (ofText text).map fun s => { s with baseDir := p.parent?.or s.baseDir } := by
  rw [load, read]
  change (ofText text).bind _ = _
  cases ofText text <;> rfl

theorem load_of_fault {text : String} {f : Fault} (read : w.readText p = .ok text)
    (fault : ofText? text = .error f) : ∃ e, load w p = .error e := by
  rw [load_of_read read, ofText, fault]
  exact ⟨_, rfl⟩

theorem ofText?_of_parse {text : String} {v : Option Json} (parse : Commented.parse text = .ok v) :
    ofText? text = ofChecked (v.getD .emptyObject) := by rw [ofText?, parse]

theorem ofChecked_of_accepts {v : Json} (check : schema.accepts v = true) :
    ofChecked v = (ofJson v).mapError .mismatch := by
  rw [ofChecked, (Schema.accepts_iff _ _).mp check]

theorem load_of_loads (h : Loads w p s) : load w p = .ok s := by
  obtain ⟨read, parse, check, decode, parent⟩ := h
  rw [load_of_read read, ofText, ofText?_of_parse parse, ofChecked_of_accepts check, decode, parent]
  rfl

theorem load_of_unloadable (h : Unloadable w p) : ∃ e, load w p = .error e := by
  cases h with
  | missing absent => exact load_of_unread (Workspace.read_text_of_find absent)
  | unreadable present read => exact load_of_unread read
  | malformed read parse => exact load_of_fault read (by rw [ofText?, parse])
  | refused read parse check =>
    obtain ⟨violation, first⟩ : ∃ violation, schema.check _ = some violation :=
      Option.ne_none_iff_exists'.mp fun none =>
        Bool.eq_false_iff.mp check ((Schema.accepts_iff _ _).mpr none)
    exact load_of_fault read (by rw [ofText?_of_parse parse, ofChecked, first])
  | @misread _ _ m read parse check decode =>
    refine load_of_fault read (f := .mismatch m) ?_
    rw [ofText?_of_parse parse, ofChecked_of_accepts check, decode]
    rfl

theorem loads_of_load (h : load w p = .ok s) : Loads w p s := by
  rcases loads_or_unloadable w p with ⟨t, loads⟩ | unloadable
  · obtain rfl : t = s := Except.ok.inj ((load_of_loads loads).symm.trans h)
    exact loads
  · obtain ⟨e, failed⟩ := load_of_unloadable unloadable
    rw [failed] at h
    contradiction

theorem unloadable_of_load {e : LintError} (h : load w p = .error e) : Unloadable w p := by
  rcases loads_or_unloadable w p with ⟨t, loads⟩ | unloadable
  · rw [load_of_loads loads] at h
    contradiction
  · exact unloadable

theorem discover_eq_none (w : Workspace) (root : Path) :
    discover w root = none ↔ ∀ name ∈ fileNames, w.isFile (root.join (.ofText name)) = false := by
  simp [discover, List.find?_eq_none]

end Settings

end MarkupLint
