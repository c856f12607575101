import MarkupLint.Proofs.Path.Parts
import MarkupLint.Proofs.Server.Reload
import MarkupLint.Proofs.Server.SettingsReach
import MarkupLint.Proofs.Url.FilePath

/-! Changes of files. A named config file is known by its path, which has to be absolute for that,
and any other one by its name at the end of the URL, which has to be spelled without escapes. -/
namespace MarkupLint

open Text (bytesOf utf8)

/-- The path of the URL ends in a part that is not idle and has no escapes in it. -/
def Url.SpellsName (u : Url) : Prop :=
  ∃ d e, u.path.toList = d ++ '/' :: e ∧ '/' ∉ e ∧ '%' ∉ e ∧ e ≠ [] ∧ e ≠ ['.']

/-- What is spelled comes last in the file path. -/
theorem Url.SpellsName.last {u : Url} {q : Path} (spelled : u.SpellsName)
    (file : u.filePath? = some q) : ∃ d e, u.path.toList = d ++ '/' :: e ∧
      q.components.getLast? = some (Path.componentOf (bytesOf e)) := by
  obtain ⟨d, e, path, free, plain, part, other⟩ := spelled
  have free : Path.slash ∉ bytesOf e :=
    Text.byte_not_mem_bytesOf (a := '/') (by decide) fun c hc slash => free (slash ▸ hc)
  have active : Path.isIdle (bytesOf e) = false := by
    have none : bytesOf e ≠ bytesOf [] := fun eq => part (Text.bytesOf_inj.mp eq)
    have dot : bytesOf e ≠ bytesOf ['.'] := fun eq => other (Text.bytesOf_inj.mp eq)
    rw [Path.isIdle, Bool.or_eq_false_iff, decide_eq_false_iff_not, decide_eq_false_iff_not]
    exact ⟨none, dot⟩
  obtain ⟨_, bytes⟩ := Url.filePath?_behind file path plain
  exact ⟨d, e, path, Path.last_behind free active bytes⟩

theorem Settings.fileName_last {name : String} (config : name ∈ fileNames) (w : Workspace)
    (root : Path) : (w.locate (root.join (.ofText name))).components.getLast? =
      some (Path.componentOf (utf8 name)) := by
  have named : Path.slash ∉ utf8 name ∧ Path.isIdle (utf8 name) = false := by
    simp only [fileNames, List.mem_cons, List.not_mem_nil, or_false] at config
    rcases config with rfl | rfl <;> decide
  have below : (root.join (.ofText name)).EndsIn (utf8 name) := Path.EndsIn.join (.inl rfl) root
  have ends : (w.locate (root.join (.ofText name))).EndsIn (utf8 name) := by
    rw [Workspace.locate]
    split
    · exact below
    · exact below.join w.directory
  exact ends.last named.1 named.2

namespace Server

namespace State

variable {s : State} {w : Workspace} {p q : Path} {u : Url}

theorem InUse.mem_configFiles (h : s.InUse w p) : p ∈ s.configFiles := by
  rcases h with named | ⟨unnamed, root, rooted, found⟩
  · simp [configFiles, named]
  · simp only [configFiles, unnamed, rooted]
    exact List.mem_of_find?_eq_some found

theorem concerns_relative (named : s.configPath = some p) (relative : p.isAbsolute = false)
    (u : Url) : s.concerns u = false := by
  simp only [concerns, named]
  cases file : u.filePath? with
  | none => rfl
  | some q =>
    rw [Option.any_some, Bool.eq_false_iff]
    intro same
    rw [Path.isAbsolute_of_same same, Url.filePath?_absolute file] at relative
    contradiction

theorem concerns_named (named : s.configPath = some p) (absolute : p.isAbsolute = true)
    (file : u.filePath? = some q) (same : q.same (w.locate p) = true) : s.concerns u = true := by
  have used : p.bytes.isEmpty = false := by
    cases empty : p.bytes with
    | nil => simp [Path.isAbsolute, empty] at absolute
    | cons => rfl
  have here : w.locate p = p := by
    rw [Workspace.locate, used, if_neg (by decide), Path.join, if_pos absolute]
  rw [here] at same
  simp only [concerns, named, file, Option.any_some, Path.same, beq_iff_eq]
  exact (eq_of_beq same).symm

/-- A file with a config file's name is known by that name. -/
theorem concerns_found {root : Path} {name : String} (unnamed : s.configPath = none)
    (config : name ∈ Settings.fileNames) (file : u.filePath? = some q) (spelled : u.SpellsName)
    (same : q.same (w.locate (root.join (.ofText name))) = true) : s.concerns u = true := by
  obtain ⟨d, e, path, last⟩ := spelled.last file
  rw [eq_of_beq same, Settings.fileName_last config] at last
  have spelled : name.toList = e :=
    Text.bytesOf_inj.mp (Path.componentOf_inj (Option.some.inj last))
  simp only [concerns, unnamed, List.any_eq_true]
  refine ⟨name, config, List.isSuffixOf_iff_suffix.mpr ⟨d ++ ['/'], ?_⟩⟩
  rw [path, spelled, List.append_assoc]
  rfl

theorem concerns_of_same (known : p ∈ s.configFiles) (file : u.filePath? = some q)
    (same : q.same (w.locate p) = true) (spelled : s.configPath = none → u.SpellsName)
    (absolute : s.configPath ≠ none → p.isAbsolute = true) : s.concerns u = true := by
  rw [configFiles] at known
  split at known
  · rename_i named
    obtain rfl := List.mem_singleton.mp known
    exact concerns_named named (absolute (by simp [named])) file same
  · rename_i unnamed _
    obtain ⟨name, config, rfl⟩ := List.mem_map.mp known
    exact concerns_found unnamed config file (spelled unnamed) same
  · cases known

end State

namespace Backend

open History

variable {b : Backend} {w : Workspace} {uris : List Url}

/-- The config file is loaded again, each open HTML document gets one pass and no other document
gets any. -/
structure TakesUp (b : Backend) (w : Workspace) (uris : List Url) : Prop where
  noticed : b.state.filesChanged w uris = ((b.state.reload w).1, true)
  state : (b.apply (.notify w (.filesChanged uris))).state = (b.state.reload w).1
  passes : ∃ new, (b.apply (.notify w (.filesChanged uris))).history = new ++ b.history ∧
    ∀ u, ((issuedPasses new).filter fun p => p.url = u).map Pass.document =
      (b.state.documents.get? u).toList.filter Document.isHtml

theorem takes_up_of_concerns {config : Option Path} (h : Reachable (initial config) b)
    (w : Workspace) {u : Url} (changed : u ∈ uris) (concerned : b.state.concerns u = true) :
    TakesUp b w uris := by
  have any : uris.any b.state.concerns = true := List.any_eq_true.mpr ⟨u, changed, concerned⟩
  have step : b.apply (.notify w (.filesChanged uris)) = b.renew (b.state.reload w).1 := by
    simp [apply, notify, State.filesChanged, any, renew]
  refine ⟨by rw [State.filesChanged, if_pos any], ?_, ?_⟩
  · rw [step]
    exact (renew_issues b _).state
  · rw [step]
    exact renew_passes (reachable_sound h) (b.state.reload_documents w)

/-- A change of a config file is taken up, if the file was named by an absolute path, or if it was
not named and the URL spells its name. If it was named by a relative path, no change is. -/
theorem config_change_taken_up {config : Option Path} (h : Reachable (initial config) b)
    (w : Workspace) (uris : List Url) :
    (∀ p, b.state.InUse w p → p ∈ b.state.configFiles) ∧
    (∀ p u q, p ∈ b.state.configFiles → u ∈ uris → u.filePath? = some q →
      q.same (w.locate p) = true → (b.state.configPath = none → u.SpellsName) →
      (b.state.configPath ≠ none → p.isAbsolute = true) → TakesUp b w uris) ∧
    ∀ p, b.state.configPath = some p → p.isAbsolute = false →
      b.state.filesChanged w uris = (b.state, false) := by
  refine ⟨fun p used => used.mem_configFiles, ?_, ?_⟩
  · intro p u q known changed file same spelled absolute
    exact takes_up_of_concerns h w changed
      (State.concerns_of_same known file same spelled absolute)
  · intro p named relative
    have none : uris.any b.state.concerns = false :=
      List.any_eq_false.mpr fun u _ => by simp [State.concerns_relative named relative u]
    rw [State.filesChanged, none, if_neg (by decide)]

def srvServer (config : Option Path) (name : String) : Backend :=
  (initial config).introduce (srvWorkspace name "\x7b\x7d") ⟨true, none, some (fileUrl "/srv")⟩

theorem srv_server_reachable (config : Option Path) (name : String) :
    Reachable (initial config) (srvServer config name) := .step .refl (.introduce _ _)

theorem plain_change_taken_up :
    (srvServer none ".htmllinterrc.json").state.InUse
        (srvWorkspace ".htmllinterrc.json" strictConfig) (.ofText "/srv/.htmllinterrc.json") ∧
      TakesUp (srvServer none ".htmllinterrc.json") (srvWorkspace ".htmllinterrc.json" strictConfig)
        [fileUrl "/srv/.htmllinterrc.json"] ∧
      TakesUp (srvServer (some (.ofText "/srv/lint.json")) "lint.json")
        (srvWorkspace "lint.json" strictConfig) [fileUrl "/srv/lint.json"] := by
  have used : (srvServer none ".htmllinterrc.json").state.InUse
      (srvWorkspace ".htmllinterrc.json" strictConfig) (.ofText "/srv/.htmllinterrc.json") :=
    .inr ⟨rfl, .ofText "/srv", by decide +kernel, by decide +kernel⟩
  have spelled : (fileUrl "/srv/.htmllinterrc.json").SpellsName :=
    ⟨"/srv".toList, ".htmllinterrc.json".toList, by decide, by decide, by decide, by decide,
      by decide⟩
  obtain ⟨known, found, _⟩ := config_change_taken_up
    (srv_server_reachable none ".htmllinterrc.json")
    (srvWorkspace ".htmllinterrc.json" strictConfig) [fileUrl "/srv/.htmllinterrc.json"]
  obtain ⟨_, named, _⟩ := config_change_taken_up
    (srv_server_reachable (some (.ofText "/srv/lint.json")) "lint.json")
    (srvWorkspace "lint.json" strictConfig) [fileUrl "/srv/lint.json"]
  refine ⟨used, ?_, ?_⟩
  · refine found _ _ (.ofText "/srv/.htmllinterrc.json") (known _ used) (.head _) ?_ ?_
      (fun _ => spelled) (fun other => absurd rfl other)
    · decide +kernel
    · decide +kernel
  · refine named (.ofText "/srv/lint.json") _ (.ofText "/srv/lint.json") ?_ (.head _) ?_ ?_
      (fun none => by cases none) (fun _ => by decide +kernel)
    · decide +kernel
    · decide +kernel
    · decide +kernel

/-- The config file in use says something else now, and its URL is among those of the changed files,
and nothing is done. -/
structure Misses (b : Backend) (w : Workspace) (p : Path) (u : Url) : Prop where
  used : b.state.InUse w p
  leads : ∃ q, u.filePath? = some q ∧ q.same (w.locate p) = true
  news : (b.state.reload w).2 = true
  unnoticed : (b.state.filesChanged w [u]).2 = false

theorem config_change_missed :
    (Reachable (initial (some (.ofText "lint.json")))
        (srvServer (some (.ofText "lint.json")) "lint.json") ∧
      ∃ u, Url.parse "file:///srv/lint.json" = .ok u ∧
        Misses (srvServer (some (.ofText "lint.json")) "lint.json")
          (srvWorkspace "lint.json" strictConfig) (.ofText "lint.json") u) ∧
    Reachable (initial none) (srvServer none ".htmllinterrc.json") ∧
      ∃ u, Url.parse "file:///srv/%2Ehtmllinterrc.json" = .ok u ∧
        Misses (srvServer none ".htmllinterrc.json")
          (srvWorkspace ".htmllinterrc.json" strictConfig)
          (.ofText "/srv/.htmllinterrc.json") u := by
  refine ⟨⟨srv_server_reachable _ _, fileUrl "/srv/lint.json", by decide +kernel, ?_⟩,
    srv_server_reachable _ _, fileUrl "/srv/%2Ehtmllinterrc.json", by decide +kernel, ?_⟩
  · refine ⟨.inl rfl, ⟨.ofText "/srv/lint.json", ?_, ?_⟩, ?_, ?_⟩
    all_goals decide +kernel
  · refine ⟨.inr ⟨rfl, .ofText "/srv", ?_, ?_⟩, ⟨.ofText "/srv/.htmllinterrc.json", ?_, ?_⟩, ?_, ?_⟩
    all_goals decide +kernel

end Backend

end Server

end MarkupLint
