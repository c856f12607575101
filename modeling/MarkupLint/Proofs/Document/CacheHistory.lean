import MarkupLint.Document.Cache

/-! A cache of configurations is what its calls made of it. Its generation counts the drops, and
what it keeps for a key was stored there last, in the generation of that time, and not dropped
since. -/
namespace MarkupLint.ConfigCache

open Map (Dict)

inductive Call where
  | get (key : String)
  | contains (key : String)
  | generation
  | insert (key : String) (config : DocumentConfig) (generation : Nat)
  | invalidate (key : String)
  | clear

namespace Call

def drops : Call → Bool
  | .invalidate _ => true
  | .clear => true
  | _ => false

def dropsKey (key : String) : Call → Bool
  | .invalidate k => k = key
  | .clear => true
  | _ => false

end Call

def call (c : ConfigCache) : Call → ConfigCache
  | .insert key config generation => (c.insertIfCurrent key config generation).1
  | .invalidate key => (c.invalidate key).1
  | .clear => c.clear
  | _ => c

def after (h : List Call) : ConfigCache := h.foldr (fun e c => c.call e) empty

@[simp] theorem after_cons (e : Call) (h : List Call) : after (e :: h) = (after h).call e := rfl

def dropCount (h : List Call) : Nat := h.countP Call.drops

theorem dropCount_cons (e : Call) (h : List Call) :
    dropCount (e :: h) = dropCount h + if e.drops then 1 else 0 := List.countP_cons

theorem generation_after (h : List Call) : (after h).generation = dropCount h := by
  induction h with
  | nil => rfl
  | cons e h ih =>
    rw [after_cons, dropCount_cons, ← ih]
    cases e with
    | insert key config generation => simp [call, Call.drops]
    | _ => rfl

def Stored (key : String) (config : DocumentConfig) (older h : List Call) : Prop :=
  ∃ newer, h = newer ++ .insert key config (dropCount older) :: older

/-- A configuration is the one that was stored last for a key, and the key was not dropped since. -/
def Stands (key : String) (config : DocumentConfig) (h : List Call) : Prop :=
  ∃ newer older, h = newer ++ .insert key config (dropCount older) :: older ∧
    (∀ e ∈ newer, e.dropsKey key = false) ∧
    ∀ {other before}, Stored key other before h → before.length ≤ older.length

section Stands

variable {key : String} {config other : DocumentConfig} {e : Call} {h older : List Call}

theorem stored_cons : Stored key config older (e :: h) ↔
    e = .insert key config (dropCount older) ∧ h = older ∨ Stored key config older h := by
  constructor
  · rintro ⟨newer, cut⟩
    rcases List.cons_eq_append_iff.mp cut with ⟨_, eq⟩ | ⟨newer, _, rest⟩
    · exact .inl (by simpa [eq_comm] using eq)
    · exact .inr ⟨newer, rest⟩
  · rintro (⟨rfl, rfl⟩ | ⟨newer, rfl⟩)
    · exact ⟨[], rfl⟩
    · exact ⟨e :: newer, rfl⟩

theorem Stored.earlier (s : Stored key config older h) : older.length < h.length := by
  obtain ⟨newer, rfl⟩ := s
  simp only [List.length_append, List.length_cons]
  omega

theorem stands_stored :
    Stands key other (.insert key config (dropCount h) :: h) ↔ other = config := by
  constructor
  · rintro ⟨newer, older, cut, _, last⟩
    have late : h.length ≤ older.length := last (stored_cons.mpr (.inl ⟨rfl, rfl⟩))
    rcases List.cons_eq_append_iff.mp cut with ⟨_, eq⟩ | ⟨newer, _, rest⟩
    · simp only [List.cons.injEq, Call.insert.injEq] at eq
      exact eq.1.2.1
    · have early := Stored.earlier ⟨newer, rest⟩
      omega
  · rintro rfl
    refine ⟨[], h, rfl, by simp, ?_⟩
    intro other before stored
    have := stored.earlier
    simp only [List.length_cons] at this
    omega

theorem stands_spared (spared : e.dropsKey key = false)
    (unstored : ∀ c, e ≠ .insert key c (dropCount h)) :
    Stands key config (e :: h) ↔ Stands key config h := by
  have same : ∀ {other before}, Stored key other before (e :: h) ↔ Stored key other before h := by
    intro other before
    rw [stored_cons, or_iff_right]
    rintro ⟨rfl, rfl⟩
    exact unstored other rfl
  constructor
  · rintro ⟨newer, older, cut, kept, last⟩
    rcases List.cons_eq_append_iff.mp cut with ⟨_, eq⟩ | ⟨newer, rfl, rest⟩
    · simp only [List.cons.injEq] at eq
      obtain ⟨rfl, rfl⟩ := eq
      exact absurd rfl (unstored config)
    · exact ⟨newer, older, rest, (List.forall_mem_cons.mp kept).2, fun s => last (same.mpr s)⟩
  · rintro ⟨newer, older, cut, kept, last⟩
    refine ⟨e :: newer, older, by rw [cut]; rfl, ?_, fun s => last (same.mp s)⟩
    exact List.forall_mem_cons.mpr ⟨spared, kept⟩

theorem not_stands_dropped (dropped : e.dropsKey key = true) : ¬ Stands key config (e :: h) := by
  rintro ⟨newer, older, cut, kept, _⟩
  rcases List.cons_eq_append_iff.mp cut with ⟨_, eq⟩ | ⟨newer, rfl, _⟩
  · obtain ⟨rfl, _⟩ := List.cons.inj eq
    simp [Call.dropsKey] at dropped
  · simp [kept e List.mem_cons_self] at dropped

end Stands

theorem get?_after (key : String) (config : DocumentConfig) (h : List Call) :
    (after h).get? key = some config ↔ Stands key config h := by
  induction h with
  | nil => simp [after, empty, get?, Stands]
  | cons e h ih =>
    cases e with
    | insert k c generation =>
      by_cases current : generation = dropCount h
      · subst current
        by_cases same : k = key
        · subst same
          rw [stands_stored]
          simp [call, insertIfCurrent, generation_after, get?, eq_comm]
        · rw [stands_spared rfl (by simp [same]), ← ih]
          simp [call, insertIfCurrent, generation_after, get?, same]
      · rw [stands_spared rfl (by simp [current]), ← ih]
        simp [call, insertIfCurrent, generation_after, Ne.symm current]
    | invalidate k =>
      by_cases same : k = key
      · subst same
        have none : ¬ Stands k config (.invalidate k :: h) :=
          not_stands_dropped (by simp [Call.dropsKey])
        simpa [call, invalidate, get?] using none
      · rw [stands_spared (by simpa [Call.dropsKey] using same) (by simp), ← ih]
        simp [call, invalidate, get?, same]
    | clear =>
      have none : ¬ Stands key config (.clear :: h) := not_stands_dropped rfl
      simpa [call, clear, get?] using none
    | _ => exact ih.trans (stands_spared rfl (by simp)).symm

/-- Whatever was called before, the generation is the number of drops; a configuration is stored
just when it comes in that generation, and changes nothing otherwise; what is there for a key is
what was stored last since its last drop; and a drop of a key tells whether anything was there and
leaves the others alone. -/
theorem calls_accounted (h : List Call) (key : String) (config : DocumentConfig)
    (generation : Nat) :
    ((after h).generation = dropCount h ∧ dropCount h ≤ h.length) ∧
    (((after h).insertIfCurrent key config generation).2 = true ↔ generation = dropCount h) ∧
    (((after h).insertIfCurrent key config generation).2 = false →
      ((after h).insertIfCurrent key config generation).1 = after h) ∧
    ((after h).get? key = some config ↔ Stands key config h) ∧
    ((after h).get? key = none ↔ ∀ c, ¬ Stands key c h) ∧
    ((after h).contains key = true ↔ ∃ c, (after h).get? key = some c) ∧
    (((after h).invalidate key).2 = true ↔ ∃ c, (after h).get? key = some c) ∧
    ∀ other, other ≠ key → ((after h).invalidate key).1.get? other = (after h).get? other := by
  refine ⟨⟨generation_after h, List.countP_le_length⟩, ?_, ?_, get?_after key config h, ?_,
    Option.isSome_iff_exists, Option.isSome_iff_exists, ?_⟩
  · have current : ((after h).insertIfCurrent key config generation).2 = true ↔
        (after h).generation = generation := by
      unfold insertIfCurrent
      split <;> simp [*]
    rw [current, generation_after, eq_comm]
  · unfold insertIfCurrent
    split <;> simp
  · rw [Option.eq_none_iff_forall_ne_some]
    exact forall_congr' fun c => not_congr (get?_after key c h)
  · intro other ne
    simp [invalidate, get?, Ne.symm ne]

def strictConfig : DocumentConfig := ⟨⟨"strict", ∅⟩, false⟩

def strictCalls : List Call :=
  [.invalidate "/b.html", .get "/a.html", .insert "/a.html" strictConfig 1, .clear]

/-- What was read before the last drop is refused, even for another key; what stood there stands. -/
theorem overtaken_insertion_refused :
    ((after strictCalls).insertIfCurrent "/a.html" strictConfig 1).2 = false ∧
    ((after strictCalls).insertIfCurrent "/a.html" strictConfig 1).1 = after strictCalls ∧
    Stands "/a.html" strictConfig strictCalls ∧ "/b.html" ≠ "/a.html" ∧
    ((after strictCalls).invalidate "/a.html").1.get? "/b.html" =
      (after strictCalls).get? "/b.html" := by
  have refused : ((after strictCalls).insertIfCurrent "/a.html" strictConfig 1).2 = false := rfl
  have kept : (after strictCalls).get? "/a.html" = some strictConfig := rfl
  have apart : "/b.html" ≠ "/a.html" := by decide
  obtain ⟨_, _, unchanged, stands, _, _, _, others⟩ :=
    calls_accounted strictCalls "/a.html" strictConfig 1
  exact ⟨refused, unchanged refused, stands.mp kept, apart, others "/b.html" apart⟩

end MarkupLint.ConfigCache
