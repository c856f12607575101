import MarkupLint.Linter.Program
import MarkupLint.Proofs.Rule.Configuration
import MarkupLint.Proofs.Text.Encoding

/-! What a linter is sent: the source and the rules can be read from it, and nothing else is. -/
namespace MarkupLint

open Json (Reader)
open Json.Reads
open Map (Dict)
open Rule (Configuration)

structure Received where
  source : Option String
  config : Option Configuration

def Received.member (depth : Nat) (name : String) (r : Received) : Reader Received :=
  match name with
  | "source" => do return { r with source := ← Reader.fieldOnce name r.source Reader.textValue }
  | "config" => do
    return { r with config := ← Reader.fieldOnce name r.config (Configuration.read depth) }
  | _ => do Reader.ignoredField; return r

/-- Reads a request, its configuration by the reader of configurations. -/
def Received.read (text : String) : Except Json.Fault (String × Configuration) :=
  Reader.run (Reader.mapValue Json.depthLimit fun inner => do
    let r ← Reader.members ⟨none, none⟩ (Received.member inner)
    return (← Reader.required "source" r.source, ← Reader.required "config" r.config)) text.toList

namespace LinterProgram

variable {rules : Configuration}

theorem request_text (source : String) (rules : Configuration) :
    Text.text? (request source rules) = some (requestJson source rules).compact.toList := by
  rw [request, Text.text_bytesOf, Json.compact, String.toList_ofList]

theorem request_parsed (source : String) (sendable : rules.Sendable) :
    Json.parse (requestJson source rules).compact =
      .ok (.object [("config", rules.toJson), ("source", .text source)]) := by
  let parse := Json.parseNested (requestJson source rules).compact.length
  have unmarked : ∀ m ∈ [("source", Json.text source), ("config", rules.toJson)],
      m.1 ≠ Json.embeddedKey := by
    simp [Json.embeddedKey]
  have deep : rules.toJson.nesting < 127 :=
    Nat.lt_of_le_of_lt (Configuration.toJson_nesting sendable) (by decide)
  have each : ∀ m ∈ [("source", Json.text source), ("config", rules.toJson)],
      Json.Spells (Json.Reader.value (some parse) 127) m.2.chars m.2 := by
    simp only [List.mem_cons, List.not_mem_nil, or_false, forall_eq_or_imp, forall_eq]
    constructor
    · exact Json.Reads.value_text source
    · exact Json.Reads.value (Configuration.toJson_integral sendable)
        (Configuration.toJson_ordered sendable) (Configuration.toJson_unmarked sendable) deep
  have keys : "config" < "source" := by decide
  have sorted : Json.ofMembers [("source", .text source), ("config", rules.toJson)] =
      .object [("config", rules.toJson), ("source", .text source)] := by
    simp [Json.ofMembers, Map.Entries.ofList, Map.Entries.insert, keys]
  have read := Json.Reads.value_members unmarked each (by decide) []
  rw [sorted, List.append_nil] at read
  exact Json.parse_of_reads read

theorem request_received (source : String) (sendable : rules.Sendable) :
    Received.read (requestJson source rules).compact = .ok (source, rules) := by
  let body := ':' :: (rules.toJson.chars ++ ['}'])
  have shape : (requestJson source rules).chars = '{' :: (Json.textChars "source" ++
      ':' :: (Json.textChars source ++ ',' :: (Json.textChars "config" ++ body))) := by
    rw [← List.append_nil (Json.chars _), requestJson, Json.object_chars]
    simp [Json.listed, Json.entry, Json.chars, body]
  have config : Json.Reads (Configuration.read 127) (rules.toJson.chars ++ ['}']) rules ['}'] :=
    (Configuration.spelled sendable (by decide)).reads ['}'] (stops_brace [])
  have second : Json.Reads (Received.member 127 "config" ⟨some source, none⟩) body
      ⟨some source, some rules⟩ ['}'] :=
    (Configuration.field_once "config" config).bind (pure _ _)
  have first : Json.Reads (Received.member 127 "source" ⟨none, none⟩)
      (':' :: (Json.textChars source ++ ',' :: (Json.textChars "config" ++ body)))
      ⟨some source, none⟩ (',' :: (Json.textChars "config" ++ body)) :=
    (Configuration.field_once "source" (Configuration.text_value source _)).bind (pure _ _)
  rw [Received.read, Json.compact, String.toList_ofList, shape]
  refine Json.Reads.run (placed ((peekToken (bare_cons rfl _)).bind ?_))
  refine enclosed (by decide) ?_ (object_end [])
  exact (two_members first second).bind ((pure source _).bind ((pure rules _).bind (pure _ _)))

/-- The input of the program for a source and rules, for every program and whatever comes of it. -/
def Sends (source : String) (rules : Configuration) (bytes : List UInt8) : Prop :=
  ∀ (launch : Launch) (l : LinterProgram), l.lint launch source rules = l.reply (launch l bytes)

theorem Sends.request {source : String} {bytes : List UInt8} (sends : Sends source rules bytes) :
    LinterProgram.request source rules = bytes := by
  by_contra other
  -- A program that ends well on these bytes alone tells them from the request.
  have same := sends
    (fun _ input => if input = bytes then .ok ⟨[], [], .code 0⟩ else .error .notFound) ⟨"", [], none⟩
  simp only [lint, if_neg other, if_true] at same
  exact absurd same (by decide)

/-- A linter is sent bytes that are a text of which the parser of documents makes an object with two
members, the source and a configuration; a reader of such objects takes from it the source and the
configuration that it was made for. So two sources and configurations for which the same is sent are
the same. -/
theorem requests_faithful (source : String) (sendable : rules.Sendable) :
    ∃ bytes, Sends source rules bytes ∧
      (∃ (text : String) (config : Json), Text.text? bytes = some text.toList ∧
        Json.parse text = .ok (.object [("config", config), ("source", .text source)]) ∧
        Configuration.parse config.compact = .ok rules ∧
        Received.read text = .ok (source, rules)) ∧
      ∀ (other : String) (others : Configuration), others.Sendable →
        Sends other others bytes → other = source ∧ others = rules := by
  have received := request_received source sendable
  refine ⟨request source rules, fun _ _ => rfl, ⟨_, rules.toJson, request_text source rules,
    request_parsed source sendable, Configuration.parse_compact sendable, received⟩, ?_⟩
  intro other others sent sends
  have texts : (requestJson other others).compact = (requestJson source rules).compact := by
    have both := request_text other others
    rw [sends.request, request_text source rules] at both
    exact (String.toList_inj.mp (Option.some.inj both)).symm
  have back := request_received other sent
  rw [texts, received] at back
  simpa [eq_comm] using back

def sampleSource : String := "<p title=\"a\\b\">\u0001\n"

def sampleRules : Configuration where
  base := "\"strict\""
  rules := ⟨[
    ("alt-text", .withOptions .warn (.object [("ignore", .array [.text "\\", .integer (-3)])])),
    ("title", .enabled true)], by decide⟩

theorem sample_rules_sendable : sampleRules.Sendable := by
  have options : (Rule.Setting.withOptions .warn
      (.object [("ignore", .array [.text "\\", .integer (-3)])])).Sendable := by
    constructor <;> rintro o ⟨⟩ <;> decide
  have switch : (Rule.Setting.enabled true).Sendable := by
    constructor <;> rintro o ⟨⟩
  constructor
  · simp only [sampleRules, List.mem_cons, List.not_mem_nil, or_false, forall_eq_or_imp, forall_eq]
    exact ⟨options, switch⟩
  · simp [sampleRules, Json.embeddedKey]

theorem sample_request_faithful :
    sampleRules.Sendable ∧ ∃ bytes, Sends sampleSource sampleRules bytes ∧
      (∃ (text : String) (config : Json), Text.text? bytes = some text.toList ∧
        Json.parse text = .ok (.object [("config", config), ("source", .text sampleSource)]) ∧
        Configuration.parse config.compact = .ok sampleRules ∧
        Received.read text = .ok (sampleSource, sampleRules)) ∧
      ∀ (other : String) (others : Configuration), others.Sendable →
        Sends other others bytes → other = sampleSource ∧ others = sampleRules :=
  ⟨sample_rules_sendable, requests_faithful _ sample_rules_sendable⟩

end LinterProgram

end MarkupLint
