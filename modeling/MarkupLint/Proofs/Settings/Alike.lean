import MarkupLint.Proofs.Json.Values
import MarkupLint.Settings.Basic

/-! Which settings the program takes for the same. Zero has no sign in them, and directories are
known by their components; all else has to be equal. -/
namespace MarkupLint

open Map (Dict Entries)
open MarkupLint.Number (Binary64)

namespace Json

def Number.unsigned : Json.Number → Json.Number
  | .integer n => .integer n
  | .real x => .real (if x.isZero then .zero false else x)

mutual

def unsigned : Json → Json
  | .number n => .number n.unsigned
  | .array items => .array (unsignedItems items)
  | .object members => .object (unsignedMembers members)
  | v => v

def unsignedItems : List Json → List Json
  | [] => []
  | v :: rest => unsigned v :: unsignedItems rest

def unsignedMembers : List (String × Json) → List (String × Json)
  | [] => []
  | (key, v) :: rest => (key, unsigned v) :: unsignedMembers rest

end

theorem Number.beq_iff (m n : Json.Number) : (m == n) = true ↔ m.unsigned = n.unsigned := by
  cases m with
  | integer m =>
    cases n with
    | integer n => simp [BEq.beq, unsigned]
    | real y => simp [BEq.beq, unsigned]
  | real x =>
    cases n with
    | integer n => simp [BEq.beq, unsigned]
    | real y =>
      have zeros : (Json.Number.real x == .real y) =
          (decide (x = y) || (x.isZero && y.isZero)) := rfl
      simp only [zeros, unsigned, Number.real.injEq, Bool.or_eq_true, decide_eq_true_eq,
        Bool.and_eq_true]
      by_cases left : x.isZero = true <;> by_cases right : y.isZero = true
      · simp [left, right]
      · have other : x ≠ y := fun eq => right (eq ▸ left)
        have signed : Binary64.zero false ≠ y := fun eq => right (eq ▸ rfl)
        simp [left, right, other, signed]
      · have other : x ≠ y := fun eq => left (eq ▸ right)
        have signed : x ≠ Binary64.zero false := fun eq => left (eq ▸ rfl)
        simp [left, right, other, signed]
      · simp [left, right]

theorem sameItems_iff {items : List Json}
    (each : ∀ v ∈ items, ∀ w, same v w = true ↔ v.unsigned = w.unsigned) (others : List Json) :
    sameItems items others = true ↔ unsignedItems items = unsignedItems others := by
  induction items generalizing others with
  | nil => cases others <;> simp [sameItems, unsignedItems]
  | cons v items ih =>
    cases others with
    | nil => simp [sameItems, unsignedItems]
    | cons w others =>
      simp only [sameItems, unsignedItems, Bool.and_eq_true, List.cons.injEq]
      rw [each v (.head _) w, ih (fun u hu => each u (.tail _ hu)) others]

theorem sameMembers_iff {members : List (String × Json)}
    (each : ∀ m ∈ members, ∀ w, same m.2 w = true ↔ m.2.unsigned = w.unsigned)
    (others : List (String × Json)) :
    sameMembers members others = true ↔ unsignedMembers members = unsignedMembers others := by
  induction members generalizing others with
  | nil => cases others <;> simp [sameMembers, unsignedMembers]
  | cons m members ih =>
    cases others with
    | nil => simp [sameMembers, unsignedMembers]
    | cons n others =>
      simp only [sameMembers, unsignedMembers, Bool.and_eq_true, beq_iff_eq, List.cons.injEq,
        Prod.mk.injEq]
      rw [each m (.head _) n.2, ih (fun u hu => each u (.tail _ hu)) others]

theorem beq_iff (v w : Json) : (v == w) = true ↔ v.unsigned = w.unsigned := by
  change same v w = true ↔ v.unsigned = w.unsigned
  induction v using induct generalizing w with
  | null => cases w <;> simp [same, unsigned]
  | boolean b => cases w <;> simp [same, unsigned]
  | text s => cases w <;> simp [same, unsigned]
  | number n =>
    cases w with
    | number m => simp only [same, unsigned, Number.beq_iff, number.injEq]
    | _ => simp [same, unsigned]
  | array items each =>
    cases w with
    | array others => simp only [same, unsigned, array.injEq, sameItems_iff each others]
    | _ => simp [same, unsigned]
  | object members each =>
    cases w with
    | object others => simp only [same, unsigned, object.injEq, sameMembers_iff each others]
    | _ => simp [same, unsigned]

end Json

def Rule.Setting.unsigned : Rule.Setting → Rule.Setting
  | .withOptions l options => .withOptions l options.unsigned
  | s => s

theorem Rule.Setting.beq_iff (s t : Rule.Setting) : (s == t) = true ↔ s.unsigned = t.unsigned := by
  cases s with
  | withOptions l x =>
    cases t with
    | withOptions k y =>
      have parts : (Setting.withOptions l x == .withOptions k y) = (l == k && x == y) := rfl
      simp only [parts, unsigned, Bool.and_eq_true, beq_iff_eq, Json.beq_iff,
        Setting.withOptions.injEq]
    | _ => simp [BEq.beq, unsigned]
  | level l =>
    cases t with
    | level k =>
      have parts : (Setting.level l == .level k) = (l == k) := rfl
      simp only [parts, unsigned, beq_iff_eq, Setting.level.injEq]
    | _ => simp [BEq.beq, unsigned]
  | enabled b =>
    cases t with
    | enabled c =>
      have parts : (Setting.enabled b == .enabled c) = (b == c) := rfl
      simp only [parts, unsigned, beq_iff_eq, Setting.enabled.injEq]
    | _ => simp [BEq.beq, unsigned]

namespace Settings

structure Alike (s t : Settings) : Prop where
  base : s.base = t.base
  rules : ∀ r,
    (s.rules.get? r).map Rule.Setting.unsigned = (t.rules.get? r).map Rule.Setting.unsigned
  linter : s.linter = t.linter
  exclude : s.exclude = t.exclude
  baseDir : s.baseDir.map Path.components = t.baseDir.map Path.components

theorem Alike.refl (s : Settings) : s.Alike s := ⟨rfl, fun _ => rfl, rfl, rfl, rfl⟩

theorem beq_entries_iff (es fs : Entries Rule.Setting) : (es == fs) = true ↔
    (es.map fun e => (e.1, e.2.unsigned)) = fs.map fun e => (e.1, e.2.unsigned) := by
  induction es generalizing fs with
  | nil => cases fs <;> simp
  | cons e es ih =>
    cases fs with
    | nil => simp
    | cons f fs =>
      have pair : (e == f) = (e.1 == f.1 && e.2 == f.2) := rfl
      rw [List.cons_beq_cons, Bool.and_eq_true, ih, pair]
      simp only [List.map_cons, List.cons.injEq, Prod.mk.injEq, Bool.and_eq_true, beq_iff_eq,
        Rule.Setting.beq_iff]

theorem beq_rules_iff (d e : Dict Rule.Setting) : (d == e) = true ↔
    ∀ r, (d.get? r).map Rule.Setting.unsigned = (e.get? r).map Rule.Setting.unsigned := by
  have entries : (d == e) = (d.entries == e.entries) := rfl
  rw [entries, beq_entries_iff]
  constructor
  · intro same r
    rw [Dict.get?, Dict.get?, ← Entries.get?_map, ← Entries.get?_map, same]
  · intro each
    refine (d.sorted.map Rule.Setting.unsigned).ext (e.sorted.map Rule.Setting.unsigned) fun r => ?_
    rw [Entries.get?_map, Entries.get?_map]
    exact each r

theorem beq_iff (s t : Settings) : (s == t) = true ↔ s.Alike t := by
  have parts : (s == t) = (s.base == t.base && s.rules == t.rules && s.linter == t.linter &&
      s.exclude == t.exclude &&
      s.baseDir.map Path.components == t.baseDir.map Path.components) := rfl
  rw [parts]
  simp only [Bool.and_eq_true, beq_iff_eq, beq_rules_iff]
  constructor
  · rintro ⟨⟨⟨⟨base, rules⟩, linter⟩, exclude⟩, dir⟩
    exact ⟨base, rules, linter, exclude, dir⟩
  · rintro ⟨base, rules, linter, exclude, dir⟩
    exact ⟨⟨⟨⟨base, rules⟩, linter⟩, exclude⟩, dir⟩

end Settings

end MarkupLint
