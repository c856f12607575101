import MarkupLint.Proofs.Json.ReadBack
import MarkupLint.Proofs.Rule.Setting
import MarkupLint.Rule.Configuration

/-! A configuration that is written is read back, where its options are plain enough for a text. -/
namespace MarkupLint.Rule

open Json (Reader Spells Reads Stops)
open Json.Reads
open Map (Dict Entries)

/-- Options that a text gives back: members in order, integers of 64 bits only, no mark of an
embedded document, and no more than a hundred levels. -/
structure Setting.Sendable (r : Setting) : Prop where
  ordered : ∀ o, r.options? = some o → o.isOrdered = true
  integral : ∀ o, r.options? = some o → o.isIntegral = true
  unmarked : ∀ o, r.options? = some o → o.isUnmarked = true
  nesting : ∀ o, r.options? = some o → o.nesting ≤ 100

structure Configuration.Sendable (c : Configuration) : Prop where
  settings : ∀ e ∈ c.rules.entries, e.2.Sendable
  names : ∀ e ∈ c.rules.entries, e.1 ≠ Json.embeddedKey

namespace Setting

variable {r : Setting} {depth : Nat}

theorem toJson_ordered (h : r.Sendable) : r.toJson.isOrdered = true := by
  cases r with
  | withOptions l o =>
    rw [toJson, Json.isOrdered_array]
    simpa using ⟨rfl, h.ordered o rfl⟩
  | _ => rfl

theorem toJson_integral (h : r.Sendable) : r.toJson.isIntegral = true := by
  cases r with
  | withOptions l o =>
    rw [toJson, Json.isIntegral_array]
    simpa using ⟨rfl, h.integral o rfl⟩
  | _ => rfl

theorem toJson_unmarked (h : r.Sendable) : r.toJson.isUnmarked = true := by
  cases r with
  | withOptions l o =>
    rw [toJson, Json.isUnmarked_array]
    simpa using ⟨rfl, h.unmarked o rfl⟩
  | _ => rfl

theorem toJson_nesting (h : r.Sendable) : r.toJson.nesting ≤ 101 := by
  cases r with
  | withOptions l o =>
    have inner := h.nesting o rfl
    simp only [toJson, Json.nesting, Json.itemNesting]
    omega
  | _ => simp [toJson, Json.nesting]

theorem spelled (h : r.Sendable) (deep : 101 < depth) :
    Spells (Setting.read depth) r.toJson.chars r := by
  have value : Spells (Json.Reader.value none depth) r.toJson.chars r.toJson :=
    Reads.value (toJson_integral h) (toJson_ordered h) (toJson_unmarked h)
      (Nat.lt_of_le_of_lt (toJson_nesting h) deep)
  have read : Setting.ofJson? r.toJson = some r :=
    r.ofJson_toJson fun o given => Json.canonical_self (h.ordered o given) (h.unmarked o given)
  refine ⟨value.starts, fun rest stops => (value.reads rest stops).bind ?_⟩
  rw [read]
  exact pure r rest

end Setting

namespace Configuration

variable {c : Configuration} {depth : Nat}

theorem sendable_rule (h : c.Sendable) {m : String × Json}
    (listed : m ∈ c.rules.entries.map fun e => (e.1, e.2.toJson)) :
    m.1 ≠ Json.embeddedKey ∧ ∃ r : Setting, r.Sendable ∧ m.2 = r.toJson := by
  obtain ⟨e, he, rfl⟩ := List.mem_map.mp listed
  exact ⟨h.names e he, e.2, h.settings e he, rfl⟩

theorem rulesJson_ordered (h : c.Sendable) : (rulesJson c.rules).isOrdered = true := by
  refine (Json.isOrdered_object _).mpr ⟨c.rules.sorted.map Setting.toJson, fun m hm => ?_⟩
  obtain ⟨_, r, sendable, same⟩ := sendable_rule h hm
  rw [same]
  exact Setting.toJson_ordered sendable

theorem rulesJson_integral (h : c.Sendable) : (rulesJson c.rules).isIntegral = true := by
  refine (Json.isIntegral_object _).mpr fun m hm => ?_
  obtain ⟨_, r, sendable, same⟩ := sendable_rule h hm
  rw [same]
  exact Setting.toJson_integral sendable

theorem rulesJson_unmarked (h : c.Sendable) : (rulesJson c.rules).isUnmarked = true := by
  refine (Json.isUnmarked_object _).mpr ⟨fun m hm => (sendable_rule h hm).1, fun m hm => ?_⟩
  obtain ⟨_, r, sendable, same⟩ := sendable_rule h hm
  rw [same]
  exact Setting.toJson_unmarked sendable

theorem rulesJson_nesting (h : c.Sendable) : (rulesJson c.rules).nesting ≤ 102 := by
  have inner : Json.memberNesting (c.rules.entries.map fun e => (e.1, e.2.toJson)) ≤ 101 := by
    refine Json.memberNesting_le fun m hm => ?_
    obtain ⟨_, r, sendable, same⟩ := sendable_rule h hm
    rw [same]
    exact Setting.toJson_nesting sendable
  rw [rulesJson, Json.nesting]
  omega

theorem toJson_ordered (h : c.Sendable) : c.toJson.isOrdered = true := by
  have keys : "extend" < "rules" := by decide
  refine (Json.isOrdered_object _).mpr ⟨List.pairwise_pair.mpr keys, ?_⟩
  simpa using ⟨rfl, rulesJson_ordered h⟩

theorem toJson_integral (h : c.Sendable) : c.toJson.isIntegral = true := by
  refine (Json.isIntegral_object _).mpr ?_
  simpa using ⟨rfl, rulesJson_integral h⟩

theorem toJson_unmarked (h : c.Sendable) : c.toJson.isUnmarked = true := by
  refine (Json.isUnmarked_object _).mpr ⟨by simp [Json.embeddedKey], ?_⟩
  simpa using ⟨rfl, rulesJson_unmarked h⟩

theorem toJson_nesting (h : c.Sendable) : c.toJson.nesting ≤ 103 := by
  have rules := rulesJson_nesting h
  simp only [toJson, Json.nesting, Json.memberNesting]
  omega

def readRule (depth : Nat) (name : String) (read : Dict Setting) : Reader (Dict Setting) := do
  Json.Reader.colon
  return read.insert name (← Setting.read depth)

theorem read_rule {r : Setting} (h : r.Sendable) (deep : 101 < depth) (name : String)
    (read : Dict Setting) {mid : List Char} (stops : Stops mid) :
    Reads (readRule depth name read) (':' :: (r.toJson.chars ++ mid)) (read.insert name r) mid :=
  (colon _).bind (((Setting.spelled h deep).reads mid stops).bind (pure _ _))

theorem rules_spelled (h : c.Sendable) (deep : 102 < depth) :
    Spells (readRules depth) (rulesJson c.rules).chars c.rules := by
  have all (rest : List Char) : Reads (Reader.members ∅ (readRule (depth - 1)))
      (Json.listed (Json.entry fun r => r.toJson.chars) c.rules.entries ++ '}' :: rest)
      (Dict.ofList c.rules.entries) ('}' :: rest) :=
    Reads.members (fun e he read mid stops =>
      read_rule (h.settings e he) (by omega) e.1 read stops) ∅ rest
  have shape (rest : List Char) : (rulesJson c.rules).chars ++ rest =
      '{' :: (Json.listed (Json.entry fun r => r.toJson.chars) c.rules.entries ++ '}' :: rest) := by
    rw [rulesJson, Json.object_chars, Json.listed_map]
    rfl
  refine ⟨⟨'{', _, rfl, rfl, by decide⟩, fun rest _ => placed ?_⟩
  rw [shape]
  have inside := all rest
  rw [c.rules.ofList_entries] at inside
  refine (peekToken (bare_cons rfl _)).bind ?_
  exact enclosed (by omega) inside (object_end rest)

theorem field_once {α : Type} {one : Reader α} {input rest : List Char} {a : α} (name : String)
    (read : Reads one input a rest) :
    Reads (Reader.fieldOnce name none one) (':' :: input) (some a) rest :=
  (colon _).bind (read.bind (pure _ _))

theorem text_value (s : String) (rest : List Char) :
    Reads Reader.textValue (Json.textChars s ++ rest) s rest := by
  rw [textChars_append]
  exact placed ((peekToken (bare_cons rfl _)).bind ((skip _ _).bind (text s rest)))

def readField (depth : Nat) (name : String) (p : Partial) : Reader Partial :=
  match name with
  | "extend" => do return { p with base := ← Reader.fieldOnce name p.base Reader.textValue }
  | "rules" => do return { p with rules := ← Reader.fieldOnce name p.rules (readRules depth) }
  | _ => do Reader.ignoredField; return p

theorem read_base (base : String) (rest : List Char) :
    Reads (readField depth "extend" ⟨none, none⟩) (':' :: (Json.textChars base ++ rest))
      ⟨some base, none⟩ rest :=
  (field_once "extend" (text_value base rest)).bind (pure _ _)

theorem read_rules (h : c.Sendable) (deep : 102 < depth) (base : String) {rest : List Char}
    (stops : Stops rest) :
    Reads (readField depth "rules" ⟨some base, none⟩) (':' :: ((rulesJson c.rules).chars ++ rest))
      ⟨some base, some c.rules⟩ rest :=
  (field_once "rules" ((rules_spelled h deep).reads rest stops)).bind (pure _ _)

theorem spelled (h : c.Sendable) (deep : 103 < depth) :
    Spells (Configuration.read depth) c.toJson.chars c := by
  refine ⟨⟨'{', _, rfl, rfl, by decide⟩, fun rest _ => placed ?_⟩
  let last := ':' :: ((rulesJson c.rules).chars ++ '}' :: rest)
  let after := ',' :: (Json.textChars "rules" ++ last)
  let input := Json.textChars "extend" ++ ':' :: (Json.textChars c.base ++ after)
  have shape : c.toJson.chars ++ rest = '{' :: input := by
    rw [toJson, Json.object_chars]
    simp [Json.listed, Json.entry, Json.chars, input, after, last]
  have rules := read_rules h (show 102 < depth - 1 by omega) c.base (stops_brace rest)
  have all : Reads (Reader.members ⟨none, none⟩ (readField (depth - 1))) input
      ⟨some c.base, some c.rules⟩ ('}' :: rest) := two_members (read_base c.base after) rules
  rw [shape]
  refine (peekToken (bare_cons rfl _)).bind (enclosed (by omega) ?_ (object_end rest))
  exact all.bind ((pure c.base _).bind (pure _ _))

theorem parse_compact (h : c.Sendable) : Configuration.parse c.toJson.compact = .ok c := by
  have allowed : 103 < Json.depthLimit := by decide
  have read := (spelled h allowed).reads [] (by simp [Stops])
  rw [List.append_nil] at read
  rw [Configuration.parse, Json.compact, String.toList_ofList]
  exact read.run

end Configuration

end MarkupLint.Rule
