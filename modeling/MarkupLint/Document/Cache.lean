import MarkupLint.Document.Config
import MarkupLint.Map.Dict

/-! Configurations kept by document. Each invalidation starts a new generation, and a configuration
that was read in an earlier one is refused. -/
namespace MarkupLint

open Map (Dict)

structure ConfigCache where
  entries : Dict DocumentConfig
  generation : Nat

namespace ConfigCache

def empty : ConfigCache := ⟨∅, 0⟩

instance : Inhabited ConfigCache := ⟨empty⟩

def get? (c : ConfigCache) (key : String) : Option DocumentConfig := c.entries.get? key

def contains (c : ConfigCache) (key : String) : Bool := (c.get? key).isSome

/-- Keeps a configuration read in `generation`, unless that is over. -/
def insertIfCurrent (c : ConfigCache) (key : String) (config : DocumentConfig)
    (generation : Nat) : ConfigCache × Bool :=
  if c.generation = generation then ({ c with entries := c.entries.insert key config }, true)
  else (c, false)

/-- Drops the entry of a key and tells whether there was one. -/
def invalidate (c : ConfigCache) (key : String) : ConfigCache × Bool :=
  (⟨c.entries.erase key, c.generation + 1⟩, c.contains key)

def clear (c : ConfigCache) : ConfigCache := ⟨∅, c.generation + 1⟩

@[simp] theorem insertIfCurrent_generation (c : ConfigCache) (key : String)
    (config : DocumentConfig) (generation : Nat) :
    (c.insertIfCurrent key config generation).1.generation = c.generation := by
  unfold insertIfCurrent
  split <;> rfl

/-- What is kept was kept before, or came in the present generation. -/
theorem get?_insertIfCurrent {c : ConfigCache} {key other : String} {config kept : DocumentConfig}
    {generation : Nat} (h : (c.insertIfCurrent key config generation).1.get? other = some kept) :
    c.generation = generation ∧ key = other ∧ config = kept ∨ c.get? other = some kept := by
  unfold insertIfCurrent at h
  split at h
  · rename_i current
    simp only [get?, Dict.get?_insert] at h
    split at h
    · rename_i same
      exact .inl ⟨current, same, Option.some.inj h⟩
    · exact .inr h
  · exact .inr h

end ConfigCache

end MarkupLint
