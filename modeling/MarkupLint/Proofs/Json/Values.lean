import MarkupLint.Json.Canonical
import MarkupLint.Proofs.Map.Folds

/-! Properties that a value has when it and all values in it pass a test. The values a program holds
are ordered: the members of every object are in key order, each key once. -/
namespace MarkupLint.Json

open MarkupLint.Map (Entries)

mutual

def every (p : Json → Bool) : Json → Bool
  | .array items => p (.array items) && everyItem p items
  | .object members => p (.object members) && everyMember p members
  | v => p v

def everyItem (p : Json → Bool) : List Json → Bool
  | [] => true
  | v :: rest => every p v && everyItem p rest

def everyMember (p : Json → Bool) : List (String × Json) → Bool
  | [] => true
  | (_, v) :: rest => every p v && everyMember p rest

end

def inOrder : Json → Bool
  | .object members => decide (Entries.Sorted members)
  | _ => true

def isOrdered : Json → Bool := every inOrder

def noMark : Json → Bool
  | .object members => members.all fun m => m.1 != embeddedKey
  | _ => true

def isUnmarked : Json → Bool := every noMark

theorem sizeOf_item {v : Json} {items : List Json} (h : v ∈ items) :
    sizeOf v < sizeOf (array items) := by
  have := List.sizeOf_lt_of_mem h
  simp only [array.sizeOf_spec]
  omega

theorem sizeOf_member {m : String × Json} {members : List (String × Json)} (h : m ∈ members) :
    sizeOf m.2 < sizeOf (object members) := by
  have := List.sizeOf_lt_of_mem h
  obtain ⟨key, v⟩ := m
  simp only [object.sizeOf_spec, Prod.mk.sizeOf_spec] at this ⊢
  omega

/-- What holds of an array if it holds of its items, and of an object if it holds of the values of
its members, holds of all values. -/
@[elab_as_elim]
theorem induct {motive : Json → Prop} (null : motive .null) (boolean : ∀ b, motive (.boolean b))
    (number : ∀ n, motive (.number n)) (text : ∀ s, motive (.text s))
    (array : ∀ items, (∀ v ∈ items, motive v) → motive (.array items))
    (object : ∀ members, (∀ m ∈ members, motive m.2) → motive (.object members)) (v : Json) :
    motive v := by
  match v with
  | .null => exact null
  | .boolean b => exact boolean b
  | .number n => exact number n
  | .text s => exact text s
  | .array items => exact array items fun w _ => induct null boolean number text array object w
  | .object members =>
    exact object members fun m _ => induct null boolean number text array object m.2
termination_by sizeOf v
decreasing_by
  · exact sizeOf_item ‹_›
  · exact sizeOf_member ‹_›

variable {p : Json → Bool}

theorem everyItem_iff (items : List Json) :
    everyItem p items = true ↔ ∀ v ∈ items, every p v = true := by
  induction items with
  | nil => simp [everyItem]
  | cons v rest ih => simp [everyItem, ih]

theorem everyMember_iff (members : List (String × Json)) :
    everyMember p members = true ↔ ∀ m ∈ members, every p m.2 = true := by
  induction members with
  | nil => simp [everyMember]
  | cons m rest ih => simp [everyMember, ih]

theorem every_array (items : List Json) :
    every p (.array items) = true ↔
      p (.array items) = true ∧ ∀ v ∈ items, every p v = true := by
  simp [every, everyItem_iff]

theorem every_object (members : List (String × Json)) :
    every p (.object members) = true ↔
      p (.object members) = true ∧ ∀ m ∈ members, every p m.2 = true := by
  simp [every, everyMember_iff]

theorem isOrdered_array (items : List Json) :
    isOrdered (.array items) = true ↔ ∀ v ∈ items, v.isOrdered = true := by
  simp [isOrdered, every_array, inOrder]

theorem isOrdered_object (members : List (String × Json)) :
    isOrdered (.object members) = true ↔
      Entries.Sorted members ∧ ∀ m ∈ members, m.2.isOrdered = true := by
  simp [isOrdered, every_object, inOrder]

theorem isUnmarked_array (items : List Json) :
    isUnmarked (.array items) = true ↔ ∀ v ∈ items, v.isUnmarked = true := by
  simp [isUnmarked, every_array, noMark]

theorem isUnmarked_object (members : List (String × Json)) :
    isUnmarked (.object members) = true ↔
      (∀ m ∈ members, m.1 ≠ embeddedKey) ∧ ∀ m ∈ members, m.2.isUnmarked = true := by
  simp [isUnmarked, every_object, noMark]

theorem canonicalItems_self {items : List Json} (h : ∀ v ∈ items, v.canonical? = some v) :
    canonicalItems? items = some items := by
  induction items with
  | nil => rfl
  | cons v rest ih =>
    have first := h v (.head _)
    have later := ih fun w hw => h w (.tail _ hw)
    simp [canonicalItems?, first, later]

theorem canonicalMembers_self {members : List (String × Json)}
    (h : ∀ m ∈ members, m.2.canonical? = some m.2) :
    canonicalMembers? members = some members := by
  induction members with
  | nil => rfl
  | cons m rest ih =>
    have first := h m (.head _)
    have later := ih fun x hx => h x (.tail _ hx)
    simp [canonicalMembers?, first, later]

theorem canonical_object {m : String × Json} {rest : List (String × Json)}
    (unmarked : m.1 ≠ embeddedKey) {v : Json} (first : m.2.canonical? = some v)
    {read : List (String × Json)} (later : canonicalMembers? rest = some read) :
    canonical? (.object (m :: rest)) = some (.ofMembers ((m.1, v) :: read)) := by
  obtain ⟨key, w⟩ := m
  cases w with
  | text s =>
    obtain rfl : Json.text s = v := by simpa [canonical?] using first
    simp only [canonical?, if_neg unmarked, later, Option.map_some]
  | _ =>
    rw [canonical?, if_neg unmarked, first, later]
    · rfl
    · simp

/-- A value in order in which no document is embedded is its own canonical form. -/
theorem canonical_self {v : Json} (ordered : v.isOrdered = true) (unmarked : v.isUnmarked = true) :
    v.canonical? = some v := by
  induction v using induct with
  | null => rfl
  | boolean b => rfl
  | number n => rfl
  | text s => rfl
  | array items ih =>
    rw [isOrdered_array] at ordered
    rw [isUnmarked_array] at unmarked
    have read := canonicalItems_self fun w hw => ih w hw (ordered w hw) (unmarked w hw)
    simp [canonical?, read]
  | object members ih =>
    rw [isOrdered_object] at ordered
    rw [isUnmarked_object] at unmarked
    have each : ∀ m ∈ members, m.2.canonical? = some m.2 := fun m hm =>
      ih m hm (ordered.2 m hm) (unmarked.2 m hm)
    cases members with
    | nil => rfl
    | cons m rest =>
      have later := canonicalMembers_self fun x hx => each x (.tail _ hx)
      rw [canonical_object (unmarked.1 m (.head _)) (each m (.head _)) later]
      rw [ofMembers, Entries.Sorted.ofList_eq ordered.1]

end MarkupLint.Json
