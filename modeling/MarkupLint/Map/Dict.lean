import MarkupLint.Map.Entries

/-! Finite maps from texts, in key order. Two maps with the same look-ups are equal. -/
namespace MarkupLint.Map

structure Dict (α : Type u) where
  entries : Entries α
  sorted : entries.Sorted

namespace Dict

variable {α : Type u}

@[ext] theorem ext {d e : Dict α} (h : d.entries = e.entries) : d = e := by
  cases d; cases e; cases h; rfl

instance [DecidableEq α] : DecidableEq (Dict α) := fun d e =>
  if h : d.entries = e.entries then isTrue (ext h) else isFalse fun k => h (k ▸ rfl)

instance [BEq α] : BEq (Dict α) := ⟨fun d e => d.entries == e.entries⟩

def empty : Dict α := ⟨[], .nil⟩

instance : EmptyCollection (Dict α) := ⟨empty⟩

instance : Inhabited (Dict α) := ⟨empty⟩

def get? (d : Dict α) (key : String) : Option α := d.entries.get? key

def keys (d : Dict α) : List String := d.entries.keys

def size (d : Dict α) : Nat := d.entries.length

def insert (d : Dict α) (key : String) (value : α) : Dict α :=
  ⟨d.entries.insert key value, d.sorted.insert key value⟩

def erase (d : Dict α) (key : String) : Dict α :=
  ⟨d.entries.filter fun e => e.1 != key, d.sorted.filter _⟩

def ofList (es : List (String × α)) : Dict α :=
  es.foldl (fun d e => d.insert e.1 e.2) empty

def override (under top : Dict α) : Dict α :=
  top.entries.foldl (fun d e => d.insert e.1 e.2) under

@[simp] theorem get?_empty (key : String) : (∅ : Dict α).get? key = none := rfl

@[simp] theorem get?_insert (d : Dict α) (k : String) (value : α) (key : String) :
    (d.insert k value).get? key = if k = key then some value else d.get? key :=
  d.entries.get?_insert k value key

@[simp] theorem get?_erase (d : Dict α) (k key : String) :
    (d.erase k).get? key = if k = key then none else d.get? key :=
  d.entries.get?_filter k key

theorem mem_entries_iff (d : Dict α) (key : String) (value : α) :
    (key, value) ∈ d.entries ↔ d.get? key = some value := by
  have only := d.sorted.filter_key key
  calc (key, value) ∈ d.entries
      ↔ (key, value) ∈ d.entries.filter (fun e => e.1 == key) := by simp
    _ ↔ d.get? key = some value := by simp [only, get?]

end Dict

end MarkupLint.Map
