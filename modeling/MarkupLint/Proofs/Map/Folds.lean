import Mathlib.Data.List.Sort
import MarkupLint.Map.Dict

/-! Entries in key order are known by their look-ups. A fold that may fail and sets one field of its
state for each key sets every field at most once over such entries. -/
namespace MarkupLint.Map

theorem ok_of_bind {ε : Type u} {α β : Type v} {x : Except ε α} {f : α → Except ε β} {b : β}
    (h : x >>= f = .ok b) : ∃ a, x = .ok a ∧ f a = .ok b := by
  cases x with
  | error e => cases h
  | ok a => exact ⟨a, rfl, h⟩

theorem of_elim {ε : Type u} {α : Type v} {β : Type w} {o : Option α} {read : α → Except ε β}
    {missing result : β} (P : Option α → β → Prop) (h : o.elim (.ok missing) read = .ok result)
    (none : P none missing) (some : ∀ a, o = some a → ∃ b, read a = .ok b ∧ P (some a) b) :
    P o result := by
  cases o with
  | none =>
    obtain rfl := Except.ok.inj h
    exact none
  | some a =>
    obtain ⟨b, given, holds⟩ := some a rfl
    obtain rfl := Except.ok.inj (given.symm.trans h)
    exact holds

namespace Entries

variable {α : Type u}

instance (es : Entries α) : Decidable es.Sorted :=
  inferInstanceAs (Decidable (List.Pairwise _ _))

instance : Std.Irrefl fun x y : String × α => x.1 < y.1 :=
  ⟨fun x => String.lt_irrefl x.1⟩

instance : Std.Antisymm fun x y : String × α => x.1 < y.1 :=
  ⟨fun _ _ h k => absurd (String.lt_trans h k) (String.lt_irrefl _)⟩

theorem get?_eq_none_iff (es : Entries α) (key : String) :
    es.get? key = none ↔ key ∉ es.keys := by
  induction es with
  | nil => simp [get?, keys]
  | cons e rest ih =>
    rw [get?_cons]
    by_cases same : e.1 = key
    · simp [keys, same]
    · simp [keys, same, Ne.symm same, ih]

theorem mem_of_get? {es : Entries α} {key : String} {value : α}
    (h : es.get? key = some value) : (key, value) ∈ es := by
  obtain ⟨e, found, rfl⟩ := Option.map_eq_some_iff.mp h
  have same : e.1 = key := eq_of_beq (List.find?_some (p := fun e : String × α => e.1 == key) found)
  exact same ▸ List.mem_of_find?_eq_some found

theorem Sorted.get?_later {e : String × α} {es : Entries α} (h : Sorted (e :: es)) :
    es.get? e.1 = none := by
  refine (get?_eq_none_iff es e.1).mpr fun again => ?_
  obtain ⟨x, hx, same⟩ := List.mem_map.mp again
  have above := (List.pairwise_cons.mp h).1 x hx
  exact String.lt_irrefl _ (same ▸ above)

theorem Sorted.mem_iff {es : Entries α} (h : es.Sorted) (key : String) (value : α) :
    (key, value) ∈ es ↔ es.get? key = some value :=
  Dict.mem_entries_iff ⟨es, h⟩ key value

theorem Sorted.ext {es fs : Entries α} (h : es.Sorted) (k : fs.Sorted)
    (same : ∀ key, es.get? key = fs.get? key) : es = fs := by
  refine List.Pairwise.eq_of_mem_iff h k fun e => ?_
  rw [h.mem_iff, k.mem_iff, same]

theorem Sorted.foldl_insert {acc : Entries α} (h : acc.Sorted) (es : Entries α) :
    (es.foldl (fun acc e => acc.insert e.1 e.2) acc).Sorted := by
  induction es generalizing acc with
  | nil => exact h
  | cons e rest ih => exact ih (h.insert e.1 e.2)

theorem ofList_sorted (es : Entries α) : (ofList es).Sorted :=
  Sorted.foldl_insert .nil es

theorem Sorted.get?_foldl_insert {es : Entries α} (h : es.Sorted) (acc : Entries α)
    (key : String) :
    (es.foldl (fun acc e => acc.insert e.1 e.2) acc).get? key =
      (es.get? key).or (acc.get? key) := by
  induction es generalizing acc with
  | nil => rfl
  | cons e rest ih =>
    rw [List.foldl_cons, ih (List.pairwise_cons.mp h).2, get?_insert, get?_cons]
    by_cases same : e.1 = key
    · have gone : Entries.get? rest key = none := same ▸ h.get?_later
      simp [same, gone]
    · simp [same]

theorem get?_map {β : Type v} (f : α → β) (es : Entries α) (key : String) :
    Entries.get? (es.map fun e => (e.1, f e.2)) key = (es.get? key).map f := by
  induction es with
  | nil => rfl
  | cons e rest ih =>
    rw [List.map_cons, get?_cons, get?_cons, ih]
    by_cases same : e.1 = key <;> simp [same]

theorem Sorted.map {β : Type v} {es : Entries α} (h : es.Sorted) (f : α → β) :
    Sorted (es.map fun e => (e.1, f e.2)) :=
  List.pairwise_map.mpr h

theorem Sorted.ofList_eq {es : Entries α} (h : es.Sorted) : ofList es = es := by
  refine Sorted.ext (ofList_sorted es) h fun key => ?_
  rw [ofList, h.get?_foldl_insert]
  simp [get?]

variable {β : Type v} {σ : Type w} {ε : Type x} {step : σ → String × α → Except ε σ}

theorem foldlM_ok {es : Entries α} (each : ∀ e ∈ es, ∀ s, ∃ t, step s e = .ok t) (s : σ) :
    ∃ t, es.foldlM step s = .ok t := by
  induction es generalizing s with
  | nil => exact ⟨s, rfl⟩
  | cons e rest ih =>
    obtain ⟨m, first⟩ := each e (.head _) s
    obtain ⟨t, later⟩ := ih (fun x hx => each x (.tail _ hx)) m
    refine ⟨t, ?_⟩
    rw [List.foldlM_cons, first]
    exact later

/-- What every step keeps, a fold that succeeds keeps. -/
theorem foldlM_keeps {es : Entries α} (holds : σ → Prop)
    (each : ∀ s e t, holds s → step s e = .ok t → holds t) {s t : σ} (start : holds s)
    (run : es.foldlM step s = .ok t) : holds t := by
  induction es generalizing s with
  | nil =>
    cases run
    exact start
  | cons e rest ih =>
    rw [List.foldlM_cons] at run
    obtain ⟨m, first, later⟩ := ok_of_bind run
    exact ih (each s e m start first) later

/-- A field that is set by one key only has in the end what is read under the key, or what it had
where the key is missing. -/
theorem Sorted.foldlM_field {es : Entries α} (h : es.Sorted) (field : σ → β) {key : String}
    {read : α → Except ε β}
    (each : ∀ s e t, step s e = .ok t →
      (if e.1 = key then read e.2 else .ok (field s)) = .ok (field t))
    {s t : σ} (run : es.foldlM step s = .ok t) :
    (es.get? key).elim (.ok (field s)) read = .ok (field t) := by
  induction es generalizing s with
  | nil =>
    cases run
    rfl
  | cons e rest ih =>
    rw [List.foldlM_cons] at run
    obtain ⟨m, first, later⟩ := ok_of_bind run
    have made := each s e m first
    have ends := ih (List.pairwise_cons.mp h).2 later
    rw [get?_cons]
    by_cases same : e.1 = key
    · have gone : Entries.get? rest key = none := same ▸ h.get?_later
      rw [gone] at ends
      have kept : field m = field t := Except.ok.inj ends
      rw [if_pos same] at made ⊢
      rw [← kept]
      exact made
    · rw [if_neg same] at made ⊢
      rw [made]
      exact ends

end Entries

namespace Dict

variable {α : Type u}

theorem entries_foldl_insert (es : List (String × α)) (d : Dict α) :
    (es.foldl (fun d e => d.insert e.1 e.2) d).entries =
      es.foldl (fun acc e => acc.insert e.1 e.2) d.entries := by
  induction es generalizing d with
  | nil => rfl
  | cons e rest ih => exact ih (d.insert e.1 e.2)

theorem ofList_entries (d : Dict α) : Dict.ofList d.entries = d :=
  ext ((entries_foldl_insert d.entries ∅).trans d.sorted.ofList_eq)

theorem ext_get? {d e : Dict α} (same : ∀ key, d.get? key = e.get? key) : d = e :=
  ext (d.sorted.ext e.sorted same)

theorem get?_override (under top : Dict α) (key : String) :
    (under.override top).get? key = (top.get? key).or (under.get? key) := by
  rw [get?, override, entries_foldl_insert]
  exact top.sorted.get?_foldl_insert under.entries key

end Dict

end MarkupLint.Map
