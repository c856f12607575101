import Mathlib.Data.List.Forall2
import MarkupLint.Proofs.Map.Folds
import MarkupLint.Schema.Basic

/-! Which values each kind of schema accepts. -/
namespace MarkupLint.Schema

open MarkupLint.Map (Entries)

theorem accepts_iff (s : Schema) (v : Json) : s.accepts v = true ↔ s.check v = none := by
  simp [accepts]

theorem firstInItems_eq_none (check : Json → Option Violation) (n : Nat) (items : List Json) :
    firstInItems check n items = none ↔ ∀ v ∈ items, check v = none := by
  induction items generalizing n with
  | nil => simp [firstInItems]
  | cons v rest ih => simp [firstInItems, ih]

theorem firstInMembers_eq_none (check : String → Json → Option Violation)
    (members : List (String × Json)) :
    firstInMembers check members = none ↔ ∀ m ∈ members, check m.1 m.2 = none := by
  induction members with
  | nil => simp [firstInMembers]
  | cons m rest ih => simp [firstInMembers, ih]

theorem firstMissing_eq_none (members : List (String × Json)) (required : List String) :
    firstMissing members required = none ↔ ∀ name ∈ required, name ∈ Entries.keys members := by
  simp [firstMissing, Entries.keys]

theorem checkTuple_eq_none (schemas : List Schema) (n : Nat) (items : List Json)
    (length : items.length = schemas.length) :
    checkTuple schemas n items = none ↔
      List.Forall₂ (fun s v => accepts s v = true) schemas items := by
  induction schemas generalizing n items with
  | nil =>
    obtain rfl := List.length_eq_zero_iff.mp length
    exact ⟨fun _ => .nil, fun _ => rfl⟩
  | cons s schemas ih =>
    cases items with
    | nil => cases length
    | cons v items =>
      have later := ih (n + 1) items (Nat.succ.inj length)
      show ((s.check v).map (·.under (.index n))).or (checkTuple schemas (n + 1) items) = none ↔ _
      rw [Option.or_eq_none_iff, Option.map_eq_none_iff, later, List.forall₂_cons, accepts_iff]

theorem checkMember_eq_none (known : List (String × Schema)) (key : String) (v : Json) :
    checkMember known key v = none ↔
      ∃ s, Entries.get? known key = some s ∧ accepts s v = true := by
  induction known with
  | nil =>
    constructor
    · intro h
      cases h
    · rintro ⟨_, ⟨⟩, _⟩
  | cons e known ih =>
    obtain ⟨name, s⟩ := e
    show (if key = name then (s.check v).map (·.under (.key key)) else
      checkMember known key v) = none ↔ _
    rw [Entries.get?_cons]
    by_cases same : key = name
    · simp [same, accepts_iff]
    · simp [same, Ne.symm same, ih]

theorem countValid_eq (options : List Schema) (v : Json) :
    countValid options v = options.countP fun s => accepts s v := by
  induction options with
  | nil => rfl
  | cons s options ih =>
    show (if (s.check v).isNone then 1 else 0) + countValid options v = _
    rw [List.countP_cons, ih, accepts, Nat.add_comm]

theorem accepts_anything (v : Json) : accepts .anything v = true := rfl

theorem accepts_boolean (v : Json) : accepts .boolean v = true ↔ ∃ b, v = .boolean b := by
  cases v with
  | boolean b => exact ⟨fun _ => ⟨b, rfl⟩, fun _ => rfl⟩
  | _ => exact iff_of_false Bool.false_ne_true (by rintro ⟨_, ⟨⟩⟩)

theorem accepts_text (least : Nat) (v : Json) :
    accepts (.text least) v = true ↔ ∃ s, v = .text s ∧ least ≤ s.length := by
  cases v with
  | text s =>
    rw [accepts_iff]
    show (if s.length < least then violated (.tooShort (.text s) least) else none) = none ↔ _
    simp [violated]
  | _ => exact iff_of_false Bool.false_ne_true (by rintro ⟨_, ⟨⟩, _⟩)

theorem accepts_choice (names : List String) (v : Json) :
    accepts (.choice names) v = true ↔ ∃ s ∈ names, v = .text s := by
  cases v with
  | text s =>
    rw [accepts_iff]
    show (if names.contains s then none else violated (.notListed (.text s))) = none ↔ _
    simp [violated]
  | _ => exact iff_of_false Bool.false_ne_true (by rintro ⟨_, _, ⟨⟩⟩)

theorem accepts_arrayOf (item : Schema) (v : Json) :
    accepts (.arrayOf item) v = true ↔
      ∃ items, v = .array items ∧ ∀ w ∈ items, accepts item w = true := by
  cases v with
  | array items =>
    rw [accepts_iff]
    show firstInItems (check item) 0 items = none ↔ _
    simp [firstInItems_eq_none, accepts_iff]
  | _ => exact iff_of_false Bool.false_ne_true (by rintro ⟨_, ⟨⟩, _⟩)

theorem accepts_tuple (schemas : List Schema) (v : Json) :
    accepts (.tuple schemas) v = true ↔
      ∃ items, v = .array items ∧ List.Forall₂ (fun s w => accepts s w = true) schemas items := by
  cases v with
  | array items =>
    rw [accepts_iff]
    show (if items.length = schemas.length then checkTuple schemas 0 items
      else violated (.wrongLength (.array items))) = none ↔ _
    by_cases length : items.length = schemas.length
    · simp [length, checkTuple_eq_none]
    · have apart : ¬ List.Forall₂ (fun s w => accepts s w = true) schemas items :=
        fun both => length both.length_eq.symm
      simp [length, violated, apart]
  | _ => exact iff_of_false Bool.false_ne_true (by rintro ⟨_, ⟨⟩, _⟩)

theorem accepts_mapOf (value : Schema) (v : Json) :
    accepts (.mapOf value) v = true ↔
      ∃ members, v = .object members ∧ ∀ m ∈ members, accepts value m.2 = true := by
  cases v with
  | object members =>
    rw [accepts_iff]
    show firstInMembers (fun key w => (value.check w).map (·.under (.key key))) members = none ↔ _
    simp [firstInMembers_eq_none, accepts_iff]
  | _ => exact iff_of_false Bool.false_ne_true (by rintro ⟨_, ⟨⟩, _⟩)

theorem accepts_record (known : List (String × Schema)) (required : List String) (v : Json) :
    accepts (.record known required) v = true ↔
      ∃ members, v = .object members ∧
        (∀ m ∈ members, ∃ s, Entries.get? known m.1 = some s ∧ accepts s m.2 = true) ∧
        ∀ name ∈ required, name ∈ Entries.keys members := by
  cases v with
  | object members =>
    rw [accepts_iff]
    show (firstInMembers (checkMember known) members).or (firstMissing members required) = none ↔ _
    simp [firstInMembers_eq_none, checkMember_eq_none, firstMissing_eq_none]
  | _ => exact iff_of_false Bool.false_ne_true (by rintro ⟨_, ⟨⟩, _⟩)

theorem accepts_oneOf (options : List Schema) (v : Json) :
    accepts (.oneOf options) v = true ↔ (options.countP fun s => accepts s v) = 1 := by
  rw [accepts_iff, ← countValid_eq, check]
  split <;> simp_all [violated]

/-- What a record that is accepted has under a known name is accepted by the schema of the name. -/
theorem accepts_field {known : List (String × Schema)} {required : List String}
    {members : List (String × Json)}
    (accepted : accepts (.record known required) (.object members) = true) {key : String}
    {v : Json} (found : Entries.get? members key = some v) {s : Schema}
    (named : Entries.get? known key = some s) : accepts s v = true := by
  obtain ⟨_, whole, fits, _⟩ := (accepts_record known required _).mp accepted
  cases whole
  obtain ⟨t, same, fit⟩ := fits _ (Entries.mem_of_get? found)
  obtain rfl : s = t := Option.some.inj (named.symm.trans same)
  exact fit

end MarkupLint.Schema
