import MarkupLint.Proofs.Json.Values
import MarkupLint.Proofs.Rule.Setting
import MarkupLint.Proofs.Schema.Acceptance
import MarkupLint.Settings.File

/-! One format of settings, described twice: by the schema of config files, and by how values are
read. Every value that the schema accepts is read, as what it says, and is written so that the
schema accepts it again and it reads back as the same settings. -/
namespace MarkupLint

open Map (Dict Entries)
open Json (Mismatch)

namespace Json

theorem asTexts_map (texts : List String) : asTexts (.array (texts.map .text)) = .ok texts := by
  have each : (texts.map Json.text).mapM asText = .ok texts := by
    induction texts with
    | nil => rfl
    | cons t rest ih =>
      rw [List.map_cons, List.mapM_cons, ih]
      rfl
  exact each

theorem texts_of_items {items : List Json} (each : ∀ v ∈ items, ∃ t, v = .text t) :
    ∃ texts : List String, items = texts.map .text := by
  induction items with
  | nil => exact ⟨[], rfl⟩
  | cons v rest ih =>
    obtain ⟨t, rfl⟩ := each v (.head _)
    obtain ⟨texts, rfl⟩ := ih fun w hw => each w (.tail _ hw)
    exact ⟨t :: texts, rfl⟩

end Json

namespace Schema

theorem accepts_texts (v : Json) :
    accepts (.arrayOf (.text 0)) v = true ↔
      ∃ texts : List String, v = .array (texts.map .text) := by
  rw [accepts_arrayOf]
  constructor
  · rintro ⟨items, rfl, each⟩
    obtain ⟨texts, rfl⟩ := Json.texts_of_items fun w hw =>
      ((accepts_text 0 w).mp (each w hw)).imp fun _ h => h.1
    exact ⟨texts, rfl⟩
  · rintro ⟨texts, rfl⟩
    refine ⟨_, rfl, fun w hw => ?_⟩
    obtain ⟨t, _, rfl⟩ := List.mem_map.mp hw
    exact (accepts_text 0 _).mpr ⟨t, rfl, Nat.zero_le _⟩

end Schema

namespace LinterCommand

/-- What a value says about the linter. -/
structure Mirrors (v : Json) (c : LinterCommand) : Prop where
  command : v.member? "command" = some (.text c.command)
  args : (v.member? "args").getD (.array []) = .array (c.args.map .text)

theorem member_cases {f g : Fields} {key : String} {v : Json} (h : f.member key v = .ok g) :
    (key = "command" ∧ ∃ t, v.asText = .ok t ∧ g = { f with command := some t }) ∨
    (key = "args" ∧ ∃ ts, v.asTexts = .ok ts ∧ g = { f with args := some ts }) ∨
    (key ≠ "command" ∧ key ≠ "args" ∧ g = f) := by
  unfold Fields.member at h
  split at h
  · obtain ⟨t, read, made⟩ := Map.ok_of_bind h
    exact .inl ⟨rfl, t, read, (Except.ok.inj made).symm⟩
  · obtain ⟨ts, read, made⟩ := Map.ok_of_bind h
    exact .inr (.inl ⟨rfl, ts, read, (Except.ok.inj made).symm⟩)
  · rename_i other next
    exact .inr (.inr ⟨other, next, (Except.ok.inj h).symm⟩)

section Fold

variable {members : List (String × Json)} {f : Fields} (sorted : Entries.Sorted members)
  (run : members.foldlM (fun f m => f.member m.1 m.2) (Fields.mk none none) = .ok f)

include sorted run

theorem command_read :
    (Entries.get? members "command").elim (.ok none) (fun v => v.asText.map some) =
      .ok f.command := by
  refine sorted.foldlM_field Fields.command (fun f m g h => ?_) run
  rcases member_cases h with ⟨key, t, read, rfl⟩ | ⟨key, _, _, rfl⟩ | ⟨key, _, rfl⟩
  · simp [key, read, Except.map]
  · simp [key]
  · simp [key]

theorem args_read :
    (Entries.get? members "args").elim (.ok none) (fun v => v.asTexts.map some) =
      .ok f.args := by
  refine sorted.foldlM_field Fields.args (fun f m g h => ?_) run
  rcases member_cases h with ⟨key, _, _, rfl⟩ | ⟨key, ts, read, rfl⟩ | ⟨_, key, rfl⟩
  · simp [key]
  · simp [key, read, Except.map]
  · simp [key]

end Fold

section Accepted

variable {members : List (String × Json)}
  (accepted : Settings.linterSchema.accepts (.object members) = true)

include accepted

theorem member_accepted : ∀ m ∈ members, ∀ f : Fields, ∃ g, f.member m.1 m.2 = .ok g := by
  rintro ⟨key, w⟩ hm f
  obtain ⟨_, whole, known, _⟩ := (Schema.accepts_record _ _ _).mp accepted
  cases whole
  obtain ⟨s, named, fits⟩ := known _ hm
  have listed := Entries.mem_of_get? named
  simp only [List.mem_cons, List.not_mem_nil, or_false, Prod.mk.injEq] at listed
  rcases listed with ⟨rfl, rfl⟩ | ⟨rfl, rfl⟩
  · obtain ⟨t, rfl, _⟩ := (Schema.accepts_text 1 w).mp fits
    exact ⟨{ f with command := some t }, rfl⟩
  · obtain ⟨ts, rfl⟩ := (Schema.accepts_texts w).mp fits
    exact ⟨{ f with args := some ts }, by simp [Fields.member, Json.asTexts_map]⟩

theorem command_accepted :
    ∃ t, Entries.get? members "command" = some (.text t) ∧ 1 ≤ t.length := by
  obtain ⟨_, whole, _, required⟩ := (Schema.accepts_record _ _ _).mp accepted
  cases whole
  obtain ⟨w, found⟩ : ∃ w, Entries.get? members "command" = some w := by
    refine Option.ne_none_iff_exists'.mp fun missing => ?_
    exact (Entries.get?_eq_none_iff members "command").mp missing (required _ (.head _))
  obtain ⟨t, rfl, long⟩ := (Schema.accepts_text 1 w).mp (Schema.accepts_field accepted found rfl)
  exact ⟨t, found, long⟩

theorem args_accepted {f : Fields} (sorted : Entries.Sorted members)
    (run : members.foldlM (fun f m => f.member m.1 m.2) (Fields.mk none none) = .ok f) :
    (Entries.get? members "args").getD (.array []) = .array ((f.args.getD []).map .text) := by
  refine Map.of_elim (fun o args => o.getD (.array []) = .array ((args.getD []).map .text))
    (args_read sorted run) rfl fun w found => ?_
  obtain ⟨ts, rfl⟩ := (Schema.accepts_texts w).mp (Schema.accepts_field accepted found rfl)
  exact ⟨some ts, by rw [Json.asTexts_map]; rfl, rfl⟩

end Accepted

/-- A value that the schema accepts is read as what it says. -/
theorem read_accepted {v : Json} (ordered : v.isOrdered = true)
    (accepted : Settings.linterSchema.accepts v = true) :
    ∃ c, ofJson v = .ok c ∧ c.Mirrors v ∧ 1 ≤ c.command.length := by
  obtain ⟨members, rfl, _⟩ := (Schema.accepts_record _ _ v).mp accepted
  have sorted := ((Json.isOrdered_object members).mp ordered).1
  obtain ⟨f, run⟩ := Entries.foldlM_ok (member_accepted accepted) ⟨none, none⟩
  obtain ⟨command, found, long⟩ := command_accepted accepted
  have commanded : f.command = some command := by
    have read := command_read sorted run
    rw [found] at read
    exact (Except.ok.inj read).symm
  refine ⟨⟨command, f.args.getD []⟩, ?_, ⟨found, args_accepted accepted sorted run⟩, long⟩
  simp only [ofJson, run, bind, Except.bind, commanded]

theorem written_accepted (c : LinterCommand) (long : 1 ≤ c.command.length) :
    Settings.linterSchema.accepts c.toJson = true := by
  refine (Schema.accepts_record _ _ _).mpr ⟨_, rfl, fun m hm => ?_, by simp [Entries.keys]⟩
  simp only [List.mem_cons, List.not_mem_nil, or_false] at hm
  rcases hm with rfl | rfl
  · exact ⟨_, rfl, (Schema.accepts_texts _).mpr ⟨c.args, rfl⟩⟩
  · exact ⟨_, rfl, (Schema.accepts_text 1 _).mpr ⟨c.command, rfl, long⟩⟩

theorem read_written (c : LinterCommand) : ofJson c.toJson = .ok c := by
  simp [ofJson, toJson, Fields.member, Json.asTexts_map, Json.asText, bind, Except.bind, pure,
    Except.pure]

end LinterCommand

namespace Rule

theorem named_of_accepted {v : Json} (accepted : Settings.ruleSchema.accepts v = true) :
    ∃ l, Names v l := by
  have one := (Schema.accepts_oneOf _ v).mp accepted
  obtain ⟨s, hs, fits⟩ := List.countP_pos_iff.mp (one ▸ Nat.one_pos)
  simp only [List.mem_cons, List.not_mem_nil, or_false] at hs
  rcases hs with rfl | rfl | rfl
  · obtain ⟨name, known, rfl⟩ := (Schema.accepts_choice _ v).mp fits
    exact named_of_name known
  · obtain ⟨on, rfl⟩ := (Schema.accepts_boolean v).mp fits
    cases on with
    | false => exact ⟨_, .disabled⟩
    | true => exact ⟨_, .enabled⟩
  · obtain ⟨items, rfl, pair⟩ := (Schema.accepts_tuple _ v).mp fits
    obtain ⟨first, _, named, second, rfl⟩ := List.forall₂_cons_left_iff.mp pair
    obtain ⟨options, _, _, rest, rfl⟩ := List.forall₂_cons_left_iff.mp second
    obtain rfl := List.forall₂_nil_left_iff.mp rest
    obtain ⟨name, known, rfl⟩ := (Schema.accepts_choice _ first).mp named
    obtain ⟨l, named⟩ := named_of_name known
    exact ⟨l, .pair options named⟩

theorem Setting.written_accepted (r : Setting) : Settings.ruleSchema.accepts r.toJson = true := by
  rw [Settings.ruleSchema, Schema.accepts_oneOf]
  cases r with
  | level l => cases l <;> decide
  | enabled on => cases on <;> decide
  | withOptions l options =>
    have named : Settings.levelSchema.accepts (.text l.name) = true := by cases l <;> decide
    have pair : Schema.accepts (.tuple [Settings.levelSchema, .anything])
        (.array [.text l.name, options]) = true :=
      (Schema.accepts_tuple _ _).mpr ⟨_, rfl, .cons named (.cons (Schema.accepts_anything _) .nil)⟩
    have choice : Settings.levelSchema.accepts (.array [.text l.name, options]) = false := rfl
    have boolean : Schema.boolean.accepts (.array [.text l.name, options]) = false := rfl
    simp [Setting.toJson, choice, boolean, pair]

end Rule

namespace Settings

def ruleOptions (v : Json) : List Json :=
  match v.member? "rules" with
  | some (.object rules) => rules.filterMap fun m => Rule.namedOptions? m.2
  | _ => []

/-- What a value says: it has the settings' base, exclusions in their order, linter and rules, and
no other rules. -/
structure Mirrors (v : Json) (s : Settings) : Prop where
  base : v.member? "extend" = s.base.map .text
  exclude : (v.member? "exclude").getD (.array []) = .array (s.exclude.map .text)
  linter : Option.Rel LinterCommand.Mirrors (v.member? "linter") s.linter
  rules : ∀ name, Option.Rel Rule.Setting.Mirrors
    ((v.member? "rules").bind (Json.member? name)) (s.rules.get? name)
  baseDir : s.baseDir = none

theorem member_cases {s t : Settings} {key : String} {v : Json} (h : s.member key v = .ok t) :
    (key = "extend" ∧ ∃ b, v.asOption Json.asText = .ok b ∧ t = { s with base := b }) ∨
    (key = "rules" ∧ ∃ d, rulesOfJson v = .ok d ∧ t = { s with rules := d }) ∨
    (key = "linter" ∧ ∃ c, v.asOption LinterCommand.ofJson = .ok c ∧ t = { s with linter := c }) ∨
    (key = "exclude" ∧ ∃ ts, v.asTexts = .ok ts ∧ t = { s with exclude := ts }) ∨
    (key ≠ "extend" ∧ key ≠ "rules" ∧ key ≠ "linter" ∧ key ≠ "exclude" ∧ t = s) := by
  unfold member at h
  split at h
  · obtain ⟨b, read, made⟩ := Map.ok_of_bind h
    exact .inl ⟨rfl, b, read, (Except.ok.inj made).symm⟩
  · obtain ⟨d, read, made⟩ := Map.ok_of_bind h
    exact .inr (.inl ⟨rfl, d, read, (Except.ok.inj made).symm⟩)
  · obtain ⟨c, read, made⟩ := Map.ok_of_bind h
    exact .inr (.inr (.inl ⟨rfl, c, read, (Except.ok.inj made).symm⟩))
  · obtain ⟨ts, read, made⟩ := Map.ok_of_bind h
    exact .inr (.inr (.inr (.inl ⟨rfl, ts, read, (Except.ok.inj made).symm⟩)))
  · rename_i extend rules linter exclude
    exact .inr (.inr (.inr (.inr ⟨extend, rules, linter, exclude, (Except.ok.inj h).symm⟩)))

theorem rule_read {members : List (String × Json)} (sorted : Entries.Sorted members)
    {d : Dict Rule.Setting} (read : rulesOfJson (.object members) = .ok d) (name : String) :
    (Entries.get? members name).elim (.ok none) (fun v => (Rule.Setting.ofJson v).map some) =
      .ok (d.get? name) := by
  refine sorted.foldlM_field (fun d : Dict Rule.Setting => d.get? name) (fun d m t h => ?_) read
  obtain ⟨r, read, made⟩ := Map.ok_of_bind h
  obtain rfl := Except.ok.inj made
  simp only [read, Except.map, Dict.get?_insert]
  split <;> rfl

theorem rules_readable {members : List (String × Json)}
    (each : ∀ m ∈ members, ∃ r, Rule.Setting.ofJson m.2 = .ok r) :
    ∃ d, rulesOfJson (.object members) = .ok d := by
  refine Entries.foldlM_ok (fun m hm d => ?_) ∅
  obtain ⟨r, read⟩ := each m hm
  exact ⟨d.insert m.1 r, by simp only [read]; rfl⟩

section Fold

variable {members : List (String × Json)} {s : Settings} (sorted : Entries.Sorted members)
  (run : members.foldlM (fun s m => s.member m.1 m.2) default = .ok s)

include sorted run

theorem base_read :
    (Entries.get? members "extend").elim (.ok none) (fun v => v.asOption Json.asText) =
      .ok s.base := by
  refine sorted.foldlM_field Settings.base (fun s m t h => ?_) run
  rcases member_cases h with ⟨key, b, read, rfl⟩ | ⟨key, _, _, rfl⟩ | ⟨key, _, _, rfl⟩ |
    ⟨key, _, _, rfl⟩ | ⟨key, _, _, _, rfl⟩ <;> simp [*]

theorem rules_read :
    (Entries.get? members "rules").elim (.ok ∅) rulesOfJson = .ok s.rules := by
  refine sorted.foldlM_field Settings.rules (fun s m t h => ?_) run
  rcases member_cases h with ⟨key, _, _, rfl⟩ | ⟨key, d, read, rfl⟩ | ⟨key, _, _, rfl⟩ |
    ⟨key, _, _, rfl⟩ | ⟨_, key, _, _, rfl⟩ <;> simp [*]

theorem linter_read :
    (Entries.get? members "linter").elim (.ok none) (fun v => v.asOption LinterCommand.ofJson) =
      .ok s.linter := by
  refine sorted.foldlM_field Settings.linter (fun s m t h => ?_) run
  rcases member_cases h with ⟨key, _, _, rfl⟩ | ⟨key, _, _, rfl⟩ | ⟨key, c, read, rfl⟩ |
    ⟨key, _, _, rfl⟩ | ⟨_, _, key, _, rfl⟩ <;> simp [*]

theorem exclude_read :
    (Entries.get? members "exclude").elim (.ok []) Json.asTexts = .ok s.exclude := by
  refine sorted.foldlM_field Settings.exclude (fun s m t h => ?_) run
  rcases member_cases h with ⟨key, _, _, rfl⟩ | ⟨key, _, _, rfl⟩ | ⟨key, _, _, rfl⟩ |
    ⟨key, ts, read, rfl⟩ | ⟨_, _, _, key, rfl⟩ <;> simp [*]

end Fold

theorem base_dir_read {members : List (String × Json)} {s : Settings}
    (run : members.foldlM (fun s m => s.member m.1 m.2) default = .ok s) : s.baseDir = none := by
  refine Entries.foldlM_keeps (fun s : Settings => s.baseDir = none) (fun s m t unset h => ?_) rfl
    run
  rcases member_cases h with ⟨_, _, _, rfl⟩ | ⟨_, _, _, rfl⟩ | ⟨_, _, _, rfl⟩ | ⟨_, _, _, rfl⟩ |
    ⟨_, _, _, _, rfl⟩ <;> exact unset

/-- A value of rules that the schema accepts is read, each rule as what it says. -/
theorem rules_accepted {rules : List (String × Json)} (sorted : Entries.Sorted rules)
    (fits : ∀ m ∈ rules, ruleSchema.accepts m.2 = true)
    (plain : ∀ m ∈ rules, ∀ o, Rule.namedOptions? m.2 = some o → o.canonical? = some o) :
    ∃ d, rulesOfJson (.object rules) = .ok d ∧
      ∀ name, Option.Rel Rule.Setting.Mirrors (Entries.get? rules name) (d.get? name) := by
  have each : ∀ m ∈ rules, ∃ r, Rule.Setting.ofJson m.2 = .ok r ∧ r.Mirrors m.2 := by
    intro m hm
    obtain ⟨l, named⟩ := Rule.named_of_accepted (fits m hm)
    exact Rule.Setting.read_named named (plain m hm)
  obtain ⟨d, read⟩ := rules_readable fun m hm => (each m hm).imp fun _ h => h.1
  refine ⟨d, read, fun name => ?_⟩
  refine Map.of_elim (Option.Rel Rule.Setting.Mirrors) (rule_read sorted read name) .none
    fun w found => ?_
  obtain ⟨r, first, mirrors⟩ := each _ ((sorted.mem_iff name w).mpr found)
  exact ⟨some r, by rw [first]; rfl, .some mirrors⟩

/-- Settings that can be written: the linter has a command, options are in canonical form, and no
directory is known. -/
structure Writable (s : Settings) : Prop where
  command : ∀ c, s.linter = some c → 1 ≤ c.command.length
  options : ∀ name r, s.rules.get? name = some r → ∀ o, r.options? = some o → o.canonical? = some o
  baseDir : s.baseDir = none

theorem Writable.accepted {s : Settings} (h : s.Writable) : schema.accepts s.toJson = true := by
  refine (Schema.accepts_record _ _ _).mpr ⟨_, rfl, fun m hm => ?_, by simp⟩
  simp only [List.mem_append, List.mem_singleton, Option.mem_toList, Option.map_eq_some_iff] at hm
  rcases hm with ((rfl | ⟨b, _, rfl⟩) | ⟨c, linter, rfl⟩) | rfl
  · exact ⟨_, rfl, (Schema.accepts_texts _).mpr ⟨s.exclude, rfl⟩⟩
  · exact ⟨_, rfl, (Schema.accepts_text 0 _).mpr ⟨b, rfl, Nat.zero_le _⟩⟩
  · exact ⟨_, rfl, c.written_accepted (h.command c linter)⟩
  · refine ⟨_, rfl, (Schema.accepts_mapOf _ _).mpr ⟨_, rfl, fun m hm => ?_⟩⟩
    obtain ⟨e, _, rfl⟩ := List.mem_map.mp hm
    exact e.2.written_accepted

theorem rules_read_written {d : Dict Rule.Setting}
    (plain : ∀ name r, d.get? name = some r → ∀ o, r.options? = some o → o.canonical? = some o) :
    rulesOfJson (Rule.rulesJson d) = .ok d := by
  have sorted := d.sorted.map Rule.Setting.toJson
  have each : ∀ m ∈ d.entries.map fun e => (e.1, e.2.toJson),
      ∃ r, Rule.Setting.ofJson m.2 = .ok r := by
    intro m hm
    obtain ⟨e, he, rfl⟩ := List.mem_map.mp hm
    exact ⟨e.2, e.2.read_written (plain e.1 e.2 ((d.mem_entries_iff e.1 e.2).mp he))⟩
  obtain ⟨t, read⟩ := rules_readable each
  rw [Rule.rulesJson, read]
  refine congrArg _ (Dict.ext_get? fun name => ?_)
  have ruled := rule_read sorted read name
  rw [Entries.get?_map] at ruled
  cases found : d.get? name with
  | none =>
    rw [show d.entries.get? name = none from found] at ruled
    exact (Except.ok.inj ruled).symm
  | some r =>
    rw [show d.entries.get? name = some r from found, Option.map_some, Option.elim_some,
      r.read_written (plain name r found)] at ruled
    exact (Except.ok.inj ruled).symm

theorem Writable.read_written {s : Settings} (h : s.Writable) : ofValue s.toJson = .ok s := by
  have rules : rulesOfJson (Rule.rulesJson s.rules) = .ok s.rules := rules_read_written h.options
  have unset : s.baseDir = none := h.baseDir
  have linted (c : LinterCommand) : c.toJson.asOption LinterCommand.ofJson = .ok (some c) :=
    congrArg (Except.map some) c.read_written
  have read : ofJson s.toJson = .ok s := by
    obtain ⟨base, d, linter, exclude, baseDir⟩ := s
    cases unset
    cases base <;> cases linter <;>
      (simp [ofJson, toJson, member, Json.asTexts_map, rules, linted]; rfl)
  exact congrArg (Except.mapError _) read

section Accepted

variable {members : List (String × Json)} (ordered : (Json.object members).isOrdered = true)
  (accepted : schema.accepts (.object members) = true)
  (unmarked : ∀ o ∈ ruleOptions (.object members), o.isUnmarked = true)

include ordered in
include unmarked in
theorem options_plain {rules : List (String × Json)}
    (found : Entries.get? members "rules" = some (.object rules)) :
    ∀ m ∈ rules, ∀ o, Rule.namedOptions? m.2 = some o → o.canonical? = some o := by
  intro m hm o named
  have inner := ((Json.isOrdered_object members).mp ordered).2 _ (Entries.mem_of_get? found)
  have rule := ((Json.isOrdered_object rules).mp inner).2 m hm
  obtain ⟨_, pair⟩ := Rule.namedOptions_eq_some named
  rw [pair, Json.isOrdered_array] at rule
  have listed : o ∈ ruleOptions (.object members) := by
    simp only [ruleOptions, Json.member?, found, List.mem_filterMap]
    exact ⟨m, hm, named⟩
  exact Json.canonical_self (rule o (by simp)) (unmarked o listed)

include accepted in
theorem base_accepted {v : Json} (found : Entries.get? members "extend" = some v) :
    ∃ b, v = .text b := by
  obtain ⟨b, text, _⟩ := (Schema.accepts_text 0 v).mp (Schema.accepts_field accepted found rfl)
  exact ⟨b, text⟩

include accepted in
theorem exclude_accepted {v : Json} (found : Entries.get? members "exclude" = some v) :
    ∃ texts : List String, v = .array (texts.map .text) :=
  (Schema.accepts_texts v).mp (Schema.accepts_field accepted found rfl)

include ordered accepted in
theorem linter_accepted {v : Json} (found : Entries.get? members "linter" = some v) :
    ∃ c, v.asOption LinterCommand.ofJson = .ok (some c) ∧ c.Mirrors v ∧ 1 ≤ c.command.length := by
  have inner := ((Json.isOrdered_object members).mp ordered).2 _ (Entries.mem_of_get? found)
  have fits := Schema.accepts_field accepted found rfl
  obtain ⟨c, read, mirrors, long⟩ := LinterCommand.read_accepted inner fits
  obtain ⟨fields, rfl, _⟩ := (Schema.accepts_record _ _ v).mp fits
  exact ⟨c, congrArg (Except.map some) read, mirrors, long⟩

include ordered accepted unmarked in
theorem rules_field_accepted {v : Json} (found : Entries.get? members "rules" = some v) :
    ∃ d, rulesOfJson v = .ok d ∧
      (∀ name, Option.Rel Rule.Setting.Mirrors (v.member? name) (d.get? name)) ∧
      ∀ name r, d.get? name = some r → ∀ o, r.options? = some o → o.canonical? = some o := by
  have inner := ((Json.isOrdered_object members).mp ordered).2 _ (Entries.mem_of_get? found)
  have map := Schema.accepts_field accepted found rfl
  obtain ⟨rules, rfl, fits⟩ := (Schema.accepts_mapOf _ v).mp map
  have plain := options_plain ordered unmarked found
  obtain ⟨d, read, mirrors⟩ := rules_accepted ((Json.isOrdered_object rules).mp inner).1 fits plain
  refine ⟨d, read, mirrors, fun name r set o given => ?_⟩
  have rule := mirrors name
  rw [set] at rule
  cases named : Entries.get? rules name with
  | none =>
    rw [named] at rule
    cases rule
  | some w =>
    rw [named] at rule
    cases rule with
    | some same => exact plain _ (Entries.mem_of_get? named) o (same.options ▸ given)

include ordered accepted unmarked in
theorem member_accepted : ∀ m ∈ members, ∀ s : Settings, ∃ t, s.member m.1 m.2 = .ok t := by
  rintro ⟨key, v⟩ hm s
  have found := (((Json.isOrdered_object members).mp ordered).1.mem_iff key v).mp hm
  obtain ⟨_, whole, known, _⟩ := (Schema.accepts_record _ _ _).mp accepted
  cases whole
  obtain ⟨_, named, _⟩ := known _ hm
  have listed := Entries.mem_of_get? named
  simp only [List.mem_cons, List.not_mem_nil, or_false, Prod.mk.injEq] at listed
  rcases listed with ⟨rfl, _⟩ | ⟨rfl, _⟩ | ⟨rfl, _⟩ | ⟨rfl, _⟩ | ⟨rfl, _⟩
  · exact ⟨s, rfl⟩
  · obtain ⟨b, rfl⟩ := base_accepted accepted found
    exact ⟨{ s with base := some b }, rfl⟩
  · obtain ⟨d, read, _⟩ := rules_field_accepted ordered accepted unmarked found
    exact ⟨{ s with rules := d }, by simp only [member, read]; rfl⟩
  · obtain ⟨c, read, _⟩ := linter_accepted ordered accepted found
    exact ⟨{ s with linter := some c }, by simp only [member, read]; rfl⟩
  · obtain ⟨texts, rfl⟩ := exclude_accepted accepted found
    exact ⟨{ s with exclude := texts }, by simp only [member, Json.asTexts_map]; rfl⟩

section Read

variable {s : Settings} (run : members.foldlM (fun s m => s.member m.1 m.2) default = .ok s)

include ordered accepted run

theorem base_mirrored : Entries.get? members "extend" = s.base.map .text := by
  refine Map.of_elim (fun o (base : Option String) => o = base.map .text)
    (base_read ((Json.isOrdered_object members).mp ordered).1 run) rfl fun v found => ?_
  obtain ⟨b, rfl⟩ := base_accepted accepted found
  exact ⟨some b, rfl, rfl⟩

theorem exclude_mirrored :
    (Entries.get? members "exclude").getD (.array []) = .array (s.exclude.map .text) := by
  refine Map.of_elim
    (fun o (exclude : List String) => o.getD (.array []) = .array (exclude.map .text))
    (exclude_read ((Json.isOrdered_object members).mp ordered).1 run) rfl fun v found => ?_
  obtain ⟨texts, rfl⟩ := exclude_accepted accepted found
  exact ⟨texts, Json.asTexts_map texts, rfl⟩

theorem linter_mirrored :
    Option.Rel LinterCommand.Mirrors (Entries.get? members "linter") s.linter ∧
      ∀ c, s.linter = some c → 1 ≤ c.command.length := by
  refine Map.of_elim (fun o linter => Option.Rel LinterCommand.Mirrors o linter ∧
      ∀ c, linter = some c → 1 ≤ c.command.length)
    (linter_read ((Json.isOrdered_object members).mp ordered).1 run) ⟨.none, by simp⟩
    fun v found => ?_
  obtain ⟨c, read, mirrors, long⟩ := linter_accepted ordered accepted found
  exact ⟨some c, read, .some mirrors, by simpa using long⟩

include unmarked in
theorem rules_mirrored :
    (∀ name, Option.Rel Rule.Setting.Mirrors
      ((Entries.get? members "rules").bind (Json.member? name)) (s.rules.get? name)) ∧
      ∀ name r, s.rules.get? name = some r → ∀ o, r.options? = some o → o.canonical? = some o := by
  refine Map.of_elim (fun o (rules : Dict Rule.Setting) =>
      (∀ name, Option.Rel Rule.Setting.Mirrors (o.bind (Json.member? name)) (rules.get? name)) ∧
        ∀ name r, rules.get? name = some r → ∀ o, r.options? = some o → o.canonical? = some o)
    (rules_read ((Json.isOrdered_object members).mp ordered).1 run) ⟨fun _ => .none, by simp⟩
    fun v found => ?_
  exact rules_field_accepted ordered accepted unmarked found

end Read

end Accepted

/-- A value that the schema accepts is read, as what it says, and can be written. -/
theorem read_accepted {v : Json} (ordered : v.isOrdered = true) (accepted : schema.accepts v = true)
    (unmarked : ∀ o ∈ ruleOptions v, o.isUnmarked = true) :
    ∃ s, ofJson v = .ok s ∧ s.Mirrors v ∧ s.Writable := by
  obtain ⟨members, rfl, _⟩ := (Schema.accepts_record _ _ v).mp accepted
  obtain ⟨s, run⟩ := Entries.foldlM_ok (member_accepted ordered accepted unmarked) default
  have base := base_mirrored ordered accepted run
  have exclude := exclude_mirrored ordered accepted run
  obtain ⟨linter, commanded⟩ := linter_mirrored ordered accepted run
  obtain ⟨rules, plain⟩ := rules_mirrored ordered accepted unmarked run
  have unset := base_dir_read run
  exact ⟨s, run, ⟨base, exclude, linter, rules, unset⟩, commanded, plain, unset⟩

theorem checked_of_read {v : Json} (accepted : schema.accepts v = true) {s : Settings}
    (read : ofJson v = .ok s) : ofChecked v = .ok s := by
  rw [ofChecked, (Schema.accepts_iff _ v).mp accepted]
  exact congrArg (Except.mapError _) read

/-- The schema and the reader describe one format. -/
theorem formats_agree {v : Json} (ordered : v.isOrdered = true) (accepted : schema.accepts v = true)
    (unmarked : ∀ o ∈ ruleOptions v, o.isUnmarked = true) :
    ∃ s, ofChecked v = .ok s ∧ (∀ text, Commented.parse text = .ok (some v) → ofText text = .ok s) ∧
      s.Mirrors v ∧ schema.accepts s.toJson = true ∧ ofValue s.toJson = .ok s := by
  obtain ⟨s, read, mirrors, writable⟩ := read_accepted ordered accepted unmarked
  have checked := checked_of_read accepted read
  refine ⟨s, checked, fun text parsed => ?_, mirrors, writable.accepted, writable.read_written⟩
  simp only [ofText, ofText?, parsed, Option.getD_some, checked]
  rfl

def sampleValue : Json := .object [
  ("exclude", .array [.text "dist/**"]),
  ("linter", .object [("command", .text "markup")]),
  ("rules", .object [
    ("alt-text", .array [.text "warning", .object [("ignore", .array [.text "svg", .natural 3])]]),
    ("title", .boolean true),
    ("wrap", .text "off")])]

theorem sample_formats_agree :
    sampleValue.isOrdered = true ∧ schema.accepts sampleValue = true ∧
    (∀ o ∈ ruleOptions sampleValue, o.isUnmarked = true) ∧
    ∃ s, ofChecked sampleValue = .ok s ∧
      (∀ text, Commented.parse text = .ok (some sampleValue) → ofText text = .ok s) ∧
      s.Mirrors sampleValue ∧ schema.accepts s.toJson = true ∧ ofValue s.toJson = .ok s := by
  have ordered : sampleValue.isOrdered = true := by decide
  have accepted : schema.accepts sampleValue = true := by decide
  have unmarked : ∀ o ∈ ruleOptions sampleValue, o.isUnmarked = true := by decide
  exact ⟨ordered, accepted, unmarked, formats_agree ordered accepted unmarked⟩

end Settings

end MarkupLint
