import Mathlib.Data.List.Basic
import MarkupLint.Adapter.TaskPool

/-! Histories of an adapter, the last event first: the order of events, the turns that a document
takes, the content that updates leave in the sink, and the trail of one pass. -/
namespace MarkupLint

variable {L : Type}

def Pass.url (p : Pass) : String := p.document.uri.text

namespace Event

def turns (u : String) : Event L → Bool
  | .issued p => p.url = u
  | .forgotten _ uri => uri.text = u
  | _ => false

def updates (u : String) : Event L → Bool
  | .set _ update _ => update.uri.text = u
  | .deleted _ uri => uri.text = u
  | _ => false

def concerns (p : Pass) : Event L → Bool
  | .issued q => q = p
  | .lintCalled _ _ call _ => call.toPass = p
  | .replied _ q _ => q = p
  | .checked _ q _ _ => q = p
  | .set _ update _ => update.toPass = p
  | .ended q _ => q = p
  | _ => false

def guarded : Event L → Bool
  | .checked _ _ locked _ => locked
  | .set _ _ _ => true
  | .deleted _ _ => true
  | _ => false

def issued? : Event L → Option Pass
  | .issued p => some p
  | _ => none

/-- The task that did it. Calls that never wait are no task's, and the end of a pass is its own. -/
def task? : Event L → Option TaskId
  | .forgotten id _ => some id
  | .resolving id _ => some id
  | .settingsRead id _ => some id
  | .settingsGiven id _ _ => some id
  | .resolved id _ _ => some id
  | .logged id _ => some id
  | .shown id _ => some id
  | .lintCalled id _ _ _ => some id
  | .replied id _ _ => some id
  | .checked id _ _ _ => some id
  | .set id _ _ => some id
  | .deleted id _ => some id
  | .finished id _ => some id
  | .issued _ => none
  | .cleared => none
  | .linterSet _ => none
  | .ended _ _ => none

/-- Another pass for the address of `p`, or the close of its document. -/
def Supersedes (p : Pass) : Event L → Prop
  | .issued q => q ≠ p ∧ q.url = p.url
  | .forgotten _ uri => uri.text = p.url
  | _ => False

end Event

namespace History

/-- `x` happened at some time, and `y` later. -/
def Before (h : List (Event L)) (x y : Event L) : Prop := [y, x].Sublist h

def Precedes (h : List (Event L)) (x y : Event L) : Prop := Before h x y ∧ ¬ Before h y x

@[simp] theorem before_nil (x y : Event L) : ¬ Before [] x y := by simp [Before]

@[simp] theorem before_cons (e : Event L) (h : List (Event L)) (x y : Event L) :
    Before (e :: h) x y ↔ Before h x y ∨ y = e ∧ x ∈ h := by
  simp [Before, List.cons_sublist_cons']

theorem Before.mem {h : List (Event L)} {x y : Event L} (b : Before h x y) : x ∈ h ∧ y ∈ h :=
  ⟨b.subset (by simp), b.subset (by simp)⟩

theorem before_append_left {newer older : List (Event L)} {x y : Event L} (b : Before older x y) :
    Before (newer ++ older) x y := b.trans (List.sublist_append_right _ _)

theorem before_at {newer older : List (Event L)} {x y : Event L} (hx : x ∈ older) :
    Before (newer ++ y :: older) x y :=
  before_append_left ((before_cons _ _ _ _).mpr (.inr ⟨rfl, hx⟩))

theorem before_of_mem {newer older : List (Event L)} {x y : Event L} (hy : y ∈ newer)
    (hx : x ∈ older) : Before (newer ++ older) x y := by
  induction newer with
  | nil => simp at hy
  | cons e newer ih =>
    rcases List.mem_cons.mp hy with rfl | hy
    · exact (before_cons _ _ _ _).mpr (.inr ⟨rfl, List.mem_append_right _ hx⟩)
    · exact (before_cons _ _ _ _).mpr (.inl (ih hy))

theorem before_of_not_mem {newer older : List (Event L)} {x y : Event L}
    (b : Before (newer ++ older) x y) (hy : y ∉ newer) : Before older x y := by
  induction newer with
  | nil => exact b
  | cons e newer ih =>
    obtain ⟨ne, hy⟩ := List.ne_and_not_mem_of_not_mem_cons hy
    rcases (before_cons _ _ _ _).mp b with b | ⟨eq, _⟩
    · exact ih b hy
    · exact absurd eq ne

theorem Before.split {h : List (Event L)} {x y : Event L} (b : Before h x y) :
    ∃ newer older, h = newer ++ y :: older ∧ x ∈ older := by
  induction h with
  | nil => simp at b
  | cons e h ih =>
    rcases (before_cons _ _ _ _).mp b with b | ⟨rfl, hx⟩
    · obtain ⟨newer, older, rfl, hx⟩ := ih b
      exact ⟨e :: newer, older, rfl, hx⟩
    · exact ⟨[], h, rfl, hx⟩

theorem before_of_getElem? {h : List (Event L)} {i j : Nat} {x y : Event L} (lt : i < j)
    (hy : h[i]? = some y) (hx : h[j]? = some x) : Before h x y := by
  obtain ⟨hi, at_i⟩ := List.getElem?_eq_some_iff.mp hy
  have cut : h.take i ++ y :: h.drop (i + 1) = h := by
    rw [← at_i, ← List.drop_eq_getElem_cons hi, List.take_append_drop]
  have later : x ∈ h.drop (i + 1) := by
    refine List.mem_of_getElem? (i := j - (i + 1)) ?_
    rw [List.getElem?_drop, ← hx]
    congr 1
    omega
  exact cut ▸ before_at later

theorem before_total {h : List (Event L)} {x y : Event L} (hx : x ∈ h) (hy : y ∈ h) (ne : x ≠ y) :
    Before h x y ∨ Before h y x := by
  obtain ⟨newer, older, rfl⟩ := List.append_of_mem hx
  rcases List.mem_append.mp hy with hy | hy
  · exact .inl (before_of_mem hy List.mem_cons_self)
  · rcases List.mem_cons.mp hy with rfl | hy
    · exact absurd rfl ne
    · exact .inr (before_at hy)

theorem before_twice {h : List (Event L)} {x y : Event L} (b : Before h x y) (c : Before h y x) :
    Before h x x ∨ Before h y y := by
  induction h with
  | nil => simp at b
  | cons e h ih =>
    simp only [before_cons] at b c ⊢
    rcases b with b | ⟨rfl, hx⟩ <;> rcases c with c | ⟨rfl, hy⟩
    · exact (ih b c).imp .inl .inl
    · exact .inl (.inr ⟨rfl, b.mem.1⟩)
    · exact .inr (.inr ⟨rfl, c.mem.1⟩)
    · exact .inr (.inr ⟨rfl, hy⟩)

theorem Before.precedes {h : List (Event L)} {x y : Event L} (b : Before h x y)
    (hx : ¬ Before h x x) (hy : ¬ Before h y y) : Precedes h x y :=
  ⟨b, fun c => (before_twice b c).elim hx hy⟩

theorem Precedes.older {newer older : List (Event L)} {x y : Event L}
    (order : Precedes (newer ++ older) x y) (hy : y ∈ older) (ne : x ≠ y) : Before older x y := by
  have hx : x ∈ older := by
    rcases List.mem_append.mp order.1.mem.1 with new | old
    · exact absurd (before_of_mem new hy) order.2
    · exact old
  rcases before_total hx hy ne with before | after
  · exact before
  · exact absurd (before_append_left after) order.2

theorem before_find {ok : Event L → Bool} {h : List (Event L)} {e x : Event L}
    (last : h.find? ok = some e) (hx : x ∈ h) (fits : ok x = true) : x = e ∨ Before h x e := by
  obtain ⟨_, newer, older, rfl, none⟩ := List.find?_eq_some_iff_append.mp last
  rcases List.mem_append.mp hx with new | old
  · exact absurd fits (by simpa using none _ new)
  · rcases List.mem_cons.mp old with eq | old
    · exact .inl eq
    · exact .inr (before_at old)

def lastTurn (u : String) (h : List (Event L)) : Option (Event L) := h.find? (Event.turns u)

def lastUpdate (u : String) (h : List (Event L)) : Option (Event L) := h.find? (Event.updates u)

def trail (p : Pass) (h : List (Event L)) : List (Event L) := h.filter (Event.concerns p)

def issuedPasses (h : List (Event L)) : List Pass := h.filterMap Event.issued?

def Superseded (p : Pass) (h : List (Event L)) : Prop :=
  ∃ e, e.Supersedes p ∧ Before h (.issued p) e

theorem Superseded.issued {p : Pass} {h : List (Event L)} (s : Superseded p h) : .issued p ∈ h := by
  obtain ⟨e, _, before⟩ := s
  exact before.mem.1

theorem Superseded.later {p : Pass} {h : List (Event L)} (s : Superseded p h)
    (es : List (Event L)) : Superseded p (es ++ h) := by
  obtain ⟨e, supersedes, before⟩ := s
  exact ⟨e, supersedes, before_append_left before⟩

/-- Each event of a history fits what happened before it. -/
def Justified (ok : Event L → List (Event L) → Prop) : List (Event L) → Prop
  | [] => True
  | e :: older => ok e older ∧ Justified ok older

theorem Justified.at {ok : Event L → List (Event L) → Prop} {newer older : List (Event L)}
    {e : Event L} (j : Justified ok (newer ++ e :: older)) : ok e older := by
  induction newer with
  | nil => exact j.1
  | cons _ _ ih => exact ih j.2

theorem Justified.append {ok : Event L → List (Event L) → Prop} {es h : List (Event L)}
    (j : Justified ok h) (fits : ∀ e ∈ es, ∀ older, ok e older) : Justified ok (es ++ h) := by
  induction es with
  | nil => exact j
  | cons e es ih =>
    have rest := ih fun e he => fits e (List.mem_cons_of_mem _ he)
    exact ⟨fits e List.mem_cons_self _, rest⟩

@[simp] theorem mem_issuedPasses {p : Pass} {h : List (Event L)} :
    p ∈ issuedPasses h ↔ .issued p ∈ h := by
  simp only [issuedPasses, List.mem_filterMap]
  constructor
  · rintro ⟨e, he, eq⟩
    cases e <;> simp only [Event.issued?, reduceCtorEq, Option.some.injEq] at eq
    exact eq ▸ he
  · exact fun hp => ⟨_, hp, rfl⟩

end History

end MarkupLint
