/-! Association lists kept in strictly increasing key order. -/
namespace MarkupLint.Map

abbrev Entries (α : Type u) := List (String × α)

namespace Entries

variable {α : Type u} {β : Type v}

def keys (es : Entries α) : List String := es.map Prod.fst

def Sorted (es : Entries α) : Prop := es.Pairwise fun x y => x.1 < y.1

def get? (es : Entries α) (key : String) : Option α :=
  (es.find? fun e => e.1 == key).map Prod.snd

def insert (key : String) (value : α) : Entries α → Entries α
  | [] => [(key, value)]
  | (k, v) :: rest =>
    if key < k then (key, value) :: (k, v) :: rest
    else if k < key then (k, v) :: insert key value rest
    else (key, value) :: rest

/-- Of several entries of one key the last one counts. -/
def ofList (es : List (String × α)) : Entries α :=
  es.foldl (fun acc e => acc.insert e.1 e.2) []

theorem mem_keys_insert {key k : String} {value : α} {es : Entries α}
    (h : k ∈ (es.insert key value).keys) : k = key ∨ k ∈ es.keys := by
  induction es with
  | nil => simpa [insert, keys] using h
  | cons e rest ih =>
    obtain ⟨k', v'⟩ := e
    unfold insert at h
    split at h
    · simpa [keys] using h
    · split at h
      · simp only [keys, List.map_cons, List.mem_cons] at h ih ⊢
        rcases h with h | h
        · exact .inr (.inl h)
        · exact (ih h).imp id .inr
      · simp only [keys, List.map_cons, List.mem_cons] at h ⊢
        exact h.imp id .inr

theorem eq_of_not_lt {a b : String} (h : ¬ a < b) (k : ¬ b < a) : a = b :=
  String.le_antisymm (String.not_lt.mp k) (String.not_lt.mp h)

theorem Sorted.insert {es : Entries α} (h : es.Sorted) (key : String) (value : α) :
    (es.insert key value).Sorted := by
  induction es with
  | nil => simp [Entries.insert, Sorted]
  | cons e rest ih =>
    obtain ⟨k, v⟩ := e
    obtain ⟨first, later⟩ := List.pairwise_cons.mp h
    unfold Entries.insert
    split
    · rename_i below
      refine List.pairwise_cons.mpr ⟨fun x hx => ?_, h⟩
      rcases List.mem_cons.mp hx with rfl | hx
      · exact below
      · exact String.lt_trans below (first x hx)
    · split
      · rename_i above
        refine List.pairwise_cons.mpr ⟨fun x hx => ?_, ih later⟩
        rcases mem_keys_insert (List.mem_map_of_mem hx) with eq | old
        · exact eq ▸ above
        · obtain ⟨y, hy, eq⟩ := List.mem_map.mp old
          exact eq ▸ first y hy
      · rename_i left right
        have same : key = k := eq_of_not_lt left right
        refine List.pairwise_cons.mpr ⟨fun x hx => ?_, later⟩
        exact same ▸ first x hx

theorem get?_cons (e : String × α) (es : Entries α) (key : String) :
    Entries.get? (e :: es) key = if e.1 = key then some e.2 else es.get? key := by
  by_cases h : e.1 = key <;> simp [get?, h]

theorem get?_insert (es : Entries α) (k : String) (value : α) (key : String) :
    (es.insert k value).get? key = if k = key then some value else es.get? key := by
  induction es with
  | nil => simp [insert, get?]
  | cons e rest ih =>
    obtain ⟨k', v'⟩ := e
    unfold insert
    split
    · rw [get?_cons]
    · rename_i left
      split
      · rename_i right
        have hne : k' ≠ k := fun eq => by simp [eq] at right
        by_cases h : k = key
        · subst h
          simp [get?_cons, hne, ih]
        · simp [get?_cons, h, ih]
      · rename_i right
        simp only [get?_cons, ← eq_of_not_lt left right]
        by_cases h : k = key <;> simp [h]

theorem get?_filter (es : Entries α) (k key : String) :
    Entries.get? (es.filter fun e => e.1 != k) key = if k = key then none else es.get? key := by
  induction es with
  | nil => simp [get?]
  | cons e rest ih =>
    by_cases h : e.1 = k
    · rw [List.filter_cons_of_neg (by simp [h]), ih, get?_cons, h]
      by_cases hk : k = key <;> simp [hk]
    · rw [List.filter_cons_of_pos (by simp [h]), get?_cons, ih, get?_cons]
      by_cases hk : k = key
      · subst hk
        simp [h]
      · simp [hk]

/-- In order, a key has one entry at most, and it is the one that is looked up. -/
theorem Sorted.filter_key {es : Entries α} (h : es.Sorted) (key : String) :
    es.filter (fun e => e.1 == key) = (es.get? key).toList.map fun v => (key, v) := by
  induction es with
  | nil => rfl
  | cons e rest ih =>
    obtain ⟨k, v⟩ := e
    obtain ⟨above, later⟩ := List.pairwise_cons.mp h
    rw [get?_cons]
    by_cases same : k = key
    · subst same
      have none : rest.filter (fun e => e.1 == k) = [] := by
        refine List.filter_eq_nil_iff.mpr fun x hx eq => ?_
        have less := above x hx
        rw [eq_of_beq eq] at less
        exact String.lt_irrefl _ less
      simp [none]
    · simp [same, ih later]

end Entries

end MarkupLint.Map
