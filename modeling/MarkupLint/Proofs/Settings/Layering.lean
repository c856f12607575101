import Mathlib.Data.List.Induction
import MarkupLint.Proofs.Map.Folds
import MarkupLint.Settings.Basic

/-! Layers of settings. To lay settings on top of others is associative, and the default ones change
nothing on either side. So each field is known from the layers alone: the last layer that sets it
decides, rule by rule for the rules, and the exclusions of all layers follow each other. -/
namespace MarkupLint.Settings

open Map (Dict)

variable {α : Type} {s : Settings} {ls : List Settings}

theorem layer_assoc (a b c : Settings) : (a.layer b).layer c = a.layer (b.layer c) := by
  have rules : (a.rules.override b.rules).override c.rules =
      a.rules.override (b.rules.override c.rules) := by
    apply Dict.ext_get?
    intro r
    simp only [Dict.get?_override, Option.or_assoc]
  simp only [layer, rules, Option.or_assoc, List.append_assoc]

theorem default_layer (s : Settings) : default.layer s = s := by
  have rules : (∅ : Dict Rule.Setting).override s.rules = s.rules := by
    apply Dict.ext_get?
    intro r
    rw [Dict.get?_override, Dict.get?_empty, Option.or_none]
  simp only [layer, default, rules, Option.or_none, List.nil_append]

theorem layer_default (s : Settings) : s.layer default = s := by
  have rules : s.rules.override ∅ = s.rules := rfl
  simp only [layer, default, rules, Option.none_or, List.append_nil]

theorem layers_snoc (ls : List Settings) (s : Settings) :
    layers (ls ++ [s]) = (layers ls).layer s := List.foldl_append

theorem layers_cons (s : Settings) (ls : List Settings) : layers (s :: ls) = ls.foldl layer s := by
  rw [layers, List.foldl_cons, default_layer]

/-- The last layer that sets a field sets it to this. -/
def LastSets (field : Settings → Option α) (ls : List Settings) (x : α) : Prop :=
  ∃ below s above, ls = below ++ s :: above ∧ field s = some x ∧ ∀ t ∈ above, field t = none

theorem not_lastSets_nil (field : Settings → Option α) (x : α) : ¬ LastSets field [] x := by
  rintro ⟨below, s, above, cut, -⟩
  simp at cut

theorem lastSets_snoc (field : Settings → Option α) (x : α) :
    LastSets field (ls ++ [s]) x ↔ field s = some x ∨ field s = none ∧ LastSets field ls x := by
  constructor
  · rintro ⟨below, t, above, cut, here, later⟩
    rcases List.eq_nil_or_concat' above with rfl | ⟨above, u, rfl⟩
    · obtain ⟨rfl, last⟩ := List.append_inj' cut rfl
      obtain rfl : s = t := List.singleton_inj.mp last
      exact .inl here
    · rw [← List.cons_append, ← List.append_assoc] at cut
      obtain ⟨rfl, last⟩ := List.append_inj' cut rfl
      obtain rfl : s = u := List.singleton_inj.mp last
      refine .inr ⟨later s (by simp), below, t, above, rfl, here, fun v hv => ?_⟩
      exact later v (by simp [hv])
  · rintro (here | ⟨unset, below, t, above, rfl, set, later⟩)
    · exact ⟨ls, s, [], rfl, here, by simp⟩
    · refine ⟨below, t, above ++ [s], by simp, set, fun v hv => ?_⟩
      rcases List.mem_append.mp hv with old | new
      · exact later v old
      · rw [List.mem_singleton.mp new]
        exact unset

theorem exists_lastSets (field : Settings → Option α) (ls : List Settings) :
    (∃ x, LastSets field ls x) ↔ ∃ s ∈ ls, (field s).isSome = true := by
  induction ls using List.reverseRecOn with
  | nil => simp [not_lastSets_nil]
  | append_singleton ls s ih =>
    simp only [lastSets_snoc, List.mem_append, List.mem_singleton, or_and_right, exists_or,
      exists_eq_left, ← ih]
    cases here : field s with
    | none => simp
    | some x => simp

/-- A field that is taken from the upper layer where that sets it is the one of the last layer. -/
theorem layers_field (field : Settings → Option α) (unset : field default = none)
    (upper : ∀ under top, field (layer under top) = (field top).or (field under))
    (ls : List Settings) (x : α) : field (layers ls) = some x ↔ LastSets field ls x := by
  induction ls using List.reverseRecOn with
  | nil => simp [layers, unset, not_lastSets_nil]
  | append_singleton ls s ih =>
    rw [layers_snoc, upper, Option.or_eq_some_iff, ih, lastSets_snoc]

theorem layers_rule (r : String) (ls : List Settings) (v : Rule.Setting) :
    (layers ls).rules.get? r = some v ↔ LastSets (fun s => s.rules.get? r) ls v :=
  layers_field (fun s => s.rules.get? r) rfl
    (fun under top => Dict.get?_override under.rules top.rules r) ls v

theorem layers_exclude (ls : List Settings) : (layers ls).exclude = ls.flatMap exclude := by
  induction ls using List.reverseRecOn with
  | nil => rfl
  | append_singleton ls s ih =>
    rw [layers_snoc, List.flatMap_append, ← ih, List.flatMap_singleton]
    rfl

theorem mem_enabledRules (c : Rule.Configuration) (r : String) (v : Rule.Setting) :
    (r, v) ∈ c.enabledRules ↔ c.rules.get? r = some v ∧ v.effective ≠ .off := by
  rw [Rule.Configuration.enabledRules, List.mem_filter, Dict.mem_entries_iff]
  simp [Rule.Setting.isEnabled]

theorem enabledRules_sorted (c : Rule.Configuration) :
    c.enabledRules.Pairwise fun x y => x.1 < y.1 := c.rules.sorted.filter _

/-- A configuration extends what the last layer that names a base names, or the default base. -/
theorem layers_extends (ls : List Settings) :
    (∀ x, LastSets base ls x → (layers ls).configuration.base = x) ∧
      ((∀ s ∈ ls, s.base = none) → (layers ls).configuration.base = Rule.defaultBase) := by
  have last := layers_field base rfl (fun _ _ => rfl) ls
  constructor
  · intro x set
    rw [configuration, (last x).mpr set, Option.getD_some]
  · intro unset
    have none : (layers ls).base = none := by
      refine Option.eq_none_iff_forall_ne_some.mpr fun x here => ?_
      obtain ⟨_, s, _, rfl, set, _⟩ := (last x).mp here
      rw [unset s (by simp)] at set
      contradiction
    rw [configuration, none, Option.getD_none]

/-- Laying settings on top of others is associative and has the default ones as its unit. Of any
layers, the last one that mentions a rule has the say about it, the rules that this leaves on are
listed in name order, the last one that sets any other field decides that field, and all exclusions
stay in order. -/
theorem layering_lawful :
    (∀ a b c : Settings, (a.layer b).layer c = a.layer (b.layer c)) ∧
    (∀ s : Settings, default.layer s = s ∧ s.layer default = s) ∧
    ∀ ls : List Settings,
      (∀ s rest, ls = s :: rest → layers ls = rest.foldl layer s) ∧
      (∀ r, (∃ v, (layers ls).configuration.rules.get? r = some v) ↔
        ∃ s ∈ ls, (s.rules.get? r).isSome = true) ∧
      (∀ r v, (layers ls).configuration.rules.get? r = some v ↔
        LastSets (fun s => s.rules.get? r) ls v) ∧
      (∀ r v, (r, v) ∈ (layers ls).configuration.enabledRules ↔
        LastSets (fun s => s.rules.get? r) ls v ∧ v.effective ≠ .off) ∧
      (layers ls).configuration.enabledRules.Pairwise (fun x y => x.1 < y.1) ∧
      (∀ x, (layers ls).base = some x ↔ LastSets base ls x) ∧
      ((∀ x, LastSets base ls x → (layers ls).configuration.base = x) ∧
        ((∀ s ∈ ls, s.base = none) → (layers ls).configuration.base = Rule.defaultBase)) ∧
      (∀ x, (layers ls).linter = some x ↔ LastSets linter ls x) ∧
      (∀ x, (layers ls).baseDir = some x ↔ LastSets baseDir ls x) ∧
      (layers ls).exclude = ls.flatMap exclude := by
  refine ⟨layer_assoc, fun s => ⟨default_layer s, layer_default s⟩, fun ls => ?_⟩
  refine ⟨?first, ?mentioned, fun r v => layers_rule r ls v, ?enabled, enabledRules_sorted _,
    layers_field base rfl (fun _ _ => rfl) ls, layers_extends ls,
    layers_field linter rfl (fun _ _ => rfl) ls, layers_field baseDir rfl (fun _ _ => rfl) ls,
    layers_exclude ls⟩
  case first =>
    rintro s rest rfl
    exact layers_cons s rest
  case mentioned =>
    intro r
    rw [← exists_lastSets (fun s => s.rules.get? r) ls]
    exact exists_congr fun v => layers_rule r ls v
  case enabled =>
    intro r v
    rw [mem_enabledRules]
    exact and_congr_left fun _ => layers_rule r ls v

def lowerLayer : Settings :=
  { default with
    base := some "strict"
    rules := ⟨[("alt-text", .level .warn), ("title", .enabled true)], by decide⟩
    exclude := ["dist/**"] }

def upperLayer : Settings :=
  { default with
    rules := ⟨[("alt-text", .enabled false)], by decide⟩
    exclude := ["tmp/**"] }

theorem disabled_rule_layered :
    (layers [lowerLayer, upperLayer]).configuration.rules.get? "alt-text" =
        some (.enabled false) ∧
      (∀ v, ("alt-text", v) ∉ (layers [lowerLayer, upperLayer]).configuration.enabledRules) ∧
      ("title", .enabled true) ∈ (layers [lowerLayer, upperLayer]).configuration.enabledRules ∧
      (layers [lowerLayer, upperLayer]).configuration.base = "strict" ∧
      (layers [lowerLayer, upperLayer]).exclude = ["dist/**", "tmp/**"] := by
  obtain ⟨-, -, laws⟩ := layering_lawful
  obtain ⟨-, -, rule, enabled, -, -, extends_, -, -, exclude⟩ := laws [lowerLayer, upperLayer]
  have off : LastSets (fun s => s.rules.get? "alt-text") [lowerLayer, upperLayer]
      (.enabled false) := ⟨[lowerLayer], upperLayer, [], rfl, rfl, by simp⟩
  have title : LastSets (fun s => s.rules.get? "title") [lowerLayer, upperLayer]
      (.enabled true) := ⟨[], lowerLayer, [upperLayer], rfl, rfl, by simp; rfl⟩
  have strict : LastSets Settings.base [lowerLayer, upperLayer] "strict" :=
    ⟨[], lowerLayer, [upperLayer], rfl, rfl, by simp; rfl⟩
  have decided := (rule "alt-text" (.enabled false)).mpr off
  refine ⟨decided, fun v listed => ?_, (enabled _ _).mpr ⟨title, by decide⟩,
    extends_.1 _ strict, exclude⟩
  obtain ⟨last, on⟩ := (enabled "alt-text" v).mp listed
  obtain rfl : Rule.Setting.enabled false = v :=
    Option.some.inj (decided.symm.trans ((rule "alt-text" v).mpr last))
  exact on rfl

end MarkupLint.Settings
