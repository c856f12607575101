import MarkupLint.Proofs.Finding.Output
import MarkupLint.Proofs.Json.Compact

/-! Findings that are written are read back. -/
namespace MarkupLint.Finding

open Json
open Json.Reader (natural32 textValue variant)

variable {depth : Nat}

theorem text_settles (s : String) : Settles textValue (textChars s) (some s) := by
  intro blank rest blanks follows
  rw [Reads.textChars_append]
  exact Reads.placed ((Reads.token blanks rfl _).bind ((Reads.skip _ _).bind (Reads.text s rest)))

theorem word_range (n : UInt32) : Json.Number.leastInteger ≤ n.toNat ∧
    (n.toNat : Int) ≤ Json.Number.greatestInteger := by
  have small := n.toNat_lt
  unfold Json.Number.leastInteger Json.Number.greatestInteger
  omega

theorem natural_settles (n : UInt32) :
    Settles natural32 (Json.natural n.toNat).chars (some n) := by
  intro blank rest blanks follows
  have shape : (Json.natural n.toNat).chars = (Json.Number.integer n.toNat).text.toList := rfl
  obtain ⟨least, greatest⟩ := word_range n
  have number := Reads.integer least greatest follows.stops
  obtain ⟨c, run, digits, numeric⟩ := Reads.integer_head n.toNat
  rw [shape]
  rw [digits] at number ⊢
  refine Reads.placed ((Reads.token blanks (numeric_bare numeric) _).bind ?_)
  simp only [numeric]
  refine number.bind ?_
  have range : (0 : Int) ≤ n.toNat ∧ (n.toNat : Int) ≤ 0xFFFFFFFF := by
    have small := n.toNat_lt
    omega
  simp only [if_pos range, Int.toNat_natCast, UInt32.ofNat_toNat]
  exact Reads.pure n rest

theorem kind_settles (kind : Kind) :
    Settles (variant depth Kind.names) (textChars kind.name) (some kind) := by
  intro blank rest blanks follows
  rw [Reads.textChars_append]
  refine (Reads.token blanks rfl _).bind (Reads.placed ((Reads.skip _ _).bind ?_))
  refine (Reads.text kind.name rest).bind ?_
  cases kind <;> exact Reads.pure _ _

def written (name : String) (v : Json) : Member := .tight (name, v.chars)

theorem written_holds {v : Json} (name : String) (integral : v.isIntegral = true) :
    (written name v).Holds :=
  Member.tight_holds (chars_written integral)

theorem written_named (name : String) (v : Json) : Named (written name v) (some name) :=
  (quoted_spelled name).reads

def locationJson (l : Location) : Json :=
  .object [("line", .natural l.line.toNat), ("col", .natural l.column.toNat)]

def nodeJson (l : Location) : Json := .object [("location", locationJson l)]

theorem toJson_eq (f : Finding) : f.toJson = .object [("ruleName", .text f.ruleName),
    ("type", .text f.kind.name), ("message", .text f.message),
    ("node", nodeJson ⟨f.line, f.column⟩)] :=
  rfl

theorem natural_integral (n : UInt32) : (Json.natural n.toNat).isIntegral = true :=
  decide_eq_true (word_range n)

theorem location_integral (l : Location) : (locationJson l).isIntegral = true := by
  refine (isIntegral_object _).mpr ?_
  simpa using ⟨natural_integral l.line, natural_integral l.column⟩

theorem node_integral (l : Location) : (nodeJson l).isIntegral = true := by
  refine (isIntegral_object _).mpr ?_
  simpa using location_integral l

theorem toJson_integral (f : Finding) : f.toJson.isIntegral = true := by
  refine (isIntegral_object _).mpr ?_
  simpa using ⟨rfl, rfl, rfl, node_integral ⟨f.line, f.column⟩⟩

theorem location_settles (deep : 2 ≤ depth) (l : Location) :
    Settles (Location.read depth) (locationJson l).chars (some l) := by
  have line := written_holds "line" (natural_integral l.line)
  have column := written_holds "col" (natural_integral l.column)
  have folds : Folds Location.field ⟨none, none⟩
      [written "line" (.natural l.line.toNat), written "col" (.natural l.column.toNat)]
      (some ⟨some l.line, some l.column⟩) := by
    refine .step (written_named _ _) (t := ⟨some l.line, none⟩) (fun rest follows => ?_) ?_
    · exact .map _ (field_once_yields line (natural_settles _) follows)
    refine .step (written_named _ _) (fun rest follows => ?_) .done
    exact .map _ (field_once_yields column (natural_settles _) follows)
  have made := of_members folds (by simpa using ⟨line, column⟩) Location.finish
  rw [locationJson, object_tight]
  exact record_object deep .nil made

theorem node_settles (deep : 3 ≤ depth) (l : Location) :
    Settles (readNode depth) (nodeJson l).chars (some l) := by
  have location := written_holds "location" (location_integral l)
  have folds : Folds (nodeField (depth - 1)) none [written "location" (locationJson l)]
      (some (some l)) := by
    refine .step (written_named _ _) (fun rest follows => ?_) .done
    show Yields (Json.Reader.fieldOnce "location" none (Location.read (depth - 1))) _ _ rest
    exact field_once_yields location (location_settles (by omega) l) follows
  have made := of_members folds (by simpa using location) node_finish
  rw [nodeJson, object_tight]
  exact record_object (by omega) .nil made

theorem settles (deep : 4 ≤ depth) (f : Finding) :
    Settles (Finding.read depth) f.toJson.chars (some f) := by
  have ruleName := written_holds "ruleName" (v := .text f.ruleName) rfl
  have kind := written_holds "type" (v := .text f.kind.name) rfl
  have message := written_holds "message" (v := .text f.message) rfl
  have node := written_holds "node" (node_integral ⟨f.line, f.column⟩)
  have folds : Folds (field (depth - 1)) ⟨none, none, none, none⟩
      [written "ruleName" (.text f.ruleName), written "type" (.text f.kind.name),
        written "message" (.text f.message), written "node" (nodeJson ⟨f.line, f.column⟩)]
      (some ⟨some f.ruleName, some f.kind, some f.message, some ⟨f.line, f.column⟩⟩) := by
    refine .step (written_named _ _) (t := ⟨some f.ruleName, none, none, none⟩)
      (fun rest follows => ?_) ?_
    · exact .map _ (field_once_yields ruleName (text_settles _) follows)
    refine .step (written_named _ _) (t := ⟨some f.ruleName, some f.kind, none, none⟩)
      (fun rest follows => ?_) ?_
    · exact .map _ (field_once_yields kind (kind_settles _) follows)
    refine .step (written_named _ _) (t := ⟨some f.ruleName, some f.kind, some f.message, none⟩)
      (fun rest follows => ?_) ?_
    · exact .map _ (field_once_yields message (text_settles _) follows)
    refine .step (written_named _ _) (fun rest follows => ?_) .done
    exact .map _ (field_once_yields node (node_settles (by omega) _) follows)
  have made := of_members folds (by simpa using ⟨ruleName, kind, message, node⟩) finish
  rw [toJson_eq, object_tight]
  exact record_object (by omega) .nil made

theorem listJson_chars (fs : List Finding) :
    (listJson fs).chars = bracketed (fs.map fun f => f.toJson.chars) := by
  rw [listJson, chars, itemChars_eq, bracketed, listed_map, listed_map]
  rfl

theorem outcomes (fs : List Finding) :
    List.Forall₂ Outcome (fs.map fun f => f.toJson.chars) (fs.map some) := by
  have deep : 4 ≤ depthLimit - 1 := by decide
  induction fs with
  | nil => exact .nil
  | cons f fs ih =>
    have holds := Slot.tight_holds (chars_written (toJson_integral f))
    exact .cons ⟨_, holds, Slot.tight_chars _, settles deep f⟩ ih

/-- Findings are read back from what they are written as, whatever white space is around it, and
white space alone is no finding. -/
theorem findings_read_back (fs : List Finding) {a b : List Char}
    (before : ∀ w ∈ a, Text.isBlank w = true) (after : ∀ w ∈ b, Text.isBlank w = true) :
    ofOutput (a ++ (listJson fs).compact.toList ++ b) = .ok fs ∧ ofOutput a = .ok [] := by
  constructor
  · have all : (fs.map some).mapM id = some fs := mapM_eq_some.mpr rfl
    rw [compact, String.toList_ofList, listJson_chars]
    rcases output_yields before after (outcomes fs) with ⟨gs, same, run⟩ | ⟨message, refused, run⟩
    · rw [all] at same
      cases same
      exact run
    · rw [all] at refused
      cases refused
  · simp only [ofOutput, trim_blank before]

theorem accented_finding_read_back :
    (∀ w ∈ ['\u00a0', '\n'], Text.isBlank w = true) ∧ (∀ w ∈ ['\u3000'], Text.isBlank w = true) ∧
    ofOutput (['\u00a0', '\n'] ++
      (listJson [⟨"tag-close", .warn, "\"é\"\n", 0, 4294967295⟩]).compact.toList ++ ['\u3000']) =
        .ok [⟨"tag-close", .warn, "\"é\"\n", 0, 4294967295⟩] ∧
    ofOutput ['\u00a0', '\n'] = .ok [] := by
  have before : ∀ w ∈ ['\u00a0', '\n'], Text.isBlank w = true :=
    List.all_eq_true.mp rfl
  have after : ∀ w ∈ ['\u3000'], Text.isBlank w = true :=
    List.all_eq_true.mp rfl
  exact ⟨before, after, findings_read_back _ before after⟩

end MarkupLint.Finding
