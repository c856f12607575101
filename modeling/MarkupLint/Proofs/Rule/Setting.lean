import MarkupLint.Rule.Setting

/-! What a value says about a rule, and what is read from it. A setting that is written as a value
is read back. -/
namespace MarkupLint.Rule

inductive Names : Json → Level → Prop where
  | off : Names (.text "off") .off
  | warn : Names (.text "warn") .warn
  | warning : Names (.text "warning") .warn
  | error : Names (.text "error") .error
  | disabled : Names (.boolean false) .off
  | enabled : Names (.boolean true) .error
  | pair {name : String} {l : Level} (options : Json) (named : Names (.text name) l) :
    Names (.array [.text name, options]) l

def namedOptions? : Json → Option Json
  | .array [_, options] => some options
  | _ => none

def Setting.options? : Setting → Option Json
  | .withOptions _ options => some options
  | _ => none

/-- What a value says about a rule. -/
structure Setting.Mirrors (v : Json) (r : Setting) : Prop where
  level : Names v r.effective
  options : r.options? = namedOptions? v

theorem namedOptions_eq_some {v o : Json} (h : namedOptions? v = some o) :
    ∃ named, v = .array [named, o] := by
  unfold namedOptions? at h
  split at h
  · rename_i named options
    exact ⟨named, by rw [Option.some.inj h]⟩
  · cases h

theorem named_of_name {name : String} (known : name ∈ Level.names.map Prod.fst) :
    ∃ l, Names (.text name) l := by
  simp only [Level.names, List.map_cons, List.map_nil, List.mem_cons, List.not_mem_nil,
    or_false] at known
  rcases known with rfl | rfl | rfl | rfl
  · exact ⟨_, .off⟩
  · exact ⟨_, .warn⟩
  · exact ⟨_, .warning⟩
  · exact ⟨_, .error⟩

theorem ofName_of_named {name : String} {l : Level} (named : Names (.text name) l) :
    Level.ofName? name = some l := by
  cases named <;> rfl

theorem ofName_name (l : Level) : Level.ofName? l.name = some l := by
  cases l <;> rfl

/-- A rule's value is read as what it says, with the options in canonical form. -/
theorem Setting.read_named {v : Json} {l : Level} (named : Names v l)
    (plain : ∀ o, namedOptions? v = some o → o.canonical? = some o) :
    ∃ r, Setting.ofJson v = .ok r ∧ r.Mirrors v := by
  cases named with
  | off => exact ⟨.level .off, rfl, .off, rfl⟩
  | warn => exact ⟨.level .warn, rfl, .warn, rfl⟩
  | warning => exact ⟨.level .warn, rfl, .warning, rfl⟩
  | error => exact ⟨.level .error, rfl, .error, rfl⟩
  | disabled => exact ⟨.enabled false, rfl, .disabled, rfl⟩
  | enabled => exact ⟨.enabled true, rfl, .enabled, rfl⟩
  | pair options named =>
    refine ⟨.withOptions l options, ?_, .pair options named, rfl⟩
    simp [Setting.ofJson, Setting.ofJson?, Level.ofJson?, ofName_of_named named, plain options rfl]

theorem Setting.ofJson_toJson (r : Setting)
    (plain : ∀ o, r.options? = some o → o.canonical? = some o) :
    Setting.ofJson? r.toJson = some r := by
  cases r with
  | level l => cases l <;> rfl
  | enabled on => rfl
  | withOptions l options =>
    simp [Setting.ofJson?, Setting.toJson, Level.ofJson?, ofName_name, plain options rfl]

theorem Setting.read_written (r : Setting)
    (plain : ∀ o, r.options? = some o → o.canonical? = some o) :
    Setting.ofJson r.toJson = .ok r := by
  rw [Setting.ofJson, r.ofJson_toJson plain]

end MarkupLint.Rule
