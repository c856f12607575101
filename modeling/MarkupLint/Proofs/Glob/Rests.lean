import Mathlib.Data.List.Infix
import MarkupLint.Glob.Match

/-! What the tokens of a pattern leave of a text are ends of it, and a list of tokens leaves what
its rest leaves of what its first token leaves. So a pattern is understood token by token. -/
namespace MarkupLint.Glob

open Text (charBytes bytesOf)

variable {r s : List UInt8} {rests : List (List UInt8)}

theorem mem_suffixes : r ∈ suffixes s ↔ r <:+ s := by
  induction s with
  | nil => simp [suffixes]
  | cons b s ih => rw [suffixes, List.mem_cons, ih, List.suffix_cons_iff]

theorem mem_behindSlashes : r ∈ behindSlashes s ↔ Path.slash :: r <:+ s := by
  rw [behindSlashes, List.mem_filterMap]
  constructor
  · rintro ⟨q, hq, eq⟩
    cases q with
    | nil => simp at eq
    | cons b q =>
      by_cases slash : b = Path.slash
      · simp only [slash, ↓reduceIte, Option.some.injEq] at eq
        rw [← slash, ← eq]
        exact mem_suffixes.mp hq
      · simp [slash] at eq
  · intro h
    exact ⟨_, mem_suffixes.mpr h, by simp⟩

theorem dropStart?_eq_some {start : List UInt8} : dropStart? start s = some r ↔ s = start ++ r := by
  induction start generalizing s with
  | nil => simp [dropStart?]
  | cons a start ih =>
    cases s with
    | nil => simp [dropStart?]
    | cons b s =>
      rw [dropStart?]
      split
      · rename_i same
        rw [ih, same, List.cons_append, List.cons.injEq]
        simp
      · rename_i other
        simp [Ne.symm other]

def keepRest (kept : List (List UInt8)) (q : List UInt8) : List (List UInt8) :=
  if kept.any (·.length = q.length) then kept else kept ++ [q]

theorem mem_keepRest {kept : List (List UInt8)} {q : List UInt8} :
    r ∈ keepRest kept q ↔ r ∈ kept ∨ (r = q ∧ ∀ k ∈ kept, k.length ≠ q.length) := by
  rw [keepRest]
  split
  · rename_i taken
    obtain ⟨k, hk, length⟩ := List.any_eq_true.mp taken
    refine ⟨.inl, ?_⟩
    rintro (kept | ⟨-, free⟩)
    · exact kept
    · exact absurd (of_decide_eq_true length) (free k hk)
  · rename_i free
    simp only [List.any_eq_true, decide_eq_true_eq, not_exists, not_and] at free
    simp only [List.mem_append, List.mem_singleton]
    exact or_congr_right ⟨fun eq => ⟨eq, free⟩, And.left⟩

theorem foldl_keepRest_sublist (kept rests : List (List UInt8)) :
    (rests.foldl keepRest kept).Sublist (kept ++ rests) := by
  induction rests generalizing kept with
  | nil => simp
  | cons q rests ih =>
    refine (ih _).trans ?_
    rw [keepRest]
    split
    · exact (List.sublist_cons_self q rests).append_left kept
    · simp

theorem distinct_subset : distinct rests ⊆ rests := (foldl_keepRest_sublist [] rests).subset

/-- Two ends of one text that are equally long are the same, so none is lost. -/
theorem mem_foldl_keepRest (ends : ∀ q ∈ rests, q <:+ s) {kept : List (List UInt8)}
    (earlier : ∀ k ∈ kept, k <:+ s) :
    r ∈ rests.foldl keepRest kept ↔ r ∈ kept ∨ r ∈ rests := by
  induction rests generalizing kept with
  | nil => simp
  | cons q rests ih =>
    have first : q <:+ s := ends q List.mem_cons_self
    have same : ∀ k ∈ kept, k.length = q.length → k = q := fun k hk length =>
      (List.suffix_of_suffix_length_le (earlier k hk) first length.le).eq_of_length length
    have keep : r ∈ keepRest kept q ↔ r ∈ kept ∨ r = q := by
      rw [mem_keepRest]
      grind
    have below : ∀ k ∈ keepRest kept q, k <:+ s := by
      intro k hk
      rcases mem_keepRest.mp hk with hk | ⟨rfl, -⟩
      · exact earlier k hk
      · exact first
    rw [List.foldl_cons, ih (fun q hq => ends q (List.mem_cons_of_mem _ hq)) below, keep,
      List.mem_cons, or_assoc]

theorem mem_distinct (ends : ∀ q ∈ rests, q <:+ s) : r ∈ distinct rests ↔ r ∈ rests :=
  (mem_foldl_keepRest ends (by simp)).trans (by simp)

theorem suffix_of_behindSlashes (h : r ∈ behindSlashes s) : r <:+ s :=
  (List.suffix_cons _ _).trans (mem_behindSlashes.mp h)

mutual

theorem Token.rests_suffix : ∀ (t : Token) {s r : List UInt8}, r ∈ t.rests s → r <:+ s
  | .literal c, s, r, h => by
    rw [Token.rests, Option.mem_toList] at h
    exact ⟨charBytes c, (dropStart?_eq_some.mp h).symm⟩
  | .anyOne, s, r, h => by
    cases s with
    | nil => simp [Token.rests] at h
    | cons b s =>
      have last : r = s := by simpa [Token.rests] using h
      rw [last]
      exact List.suffix_cons b s
  | .anyRun, s, r, h => by
    rw [Token.rests] at h
    exact mem_suffixes.mp h
  | .leading, s, r, h => by
    rw [Token.rests] at h
    rcases List.mem_cons.mp h with rfl | h
    · exact List.suffix_rfl
    · exact suffix_of_behindSlashes h
  | .trailing, s, r, h => by
    cases s with
    | nil => simp [Token.rests] at h
    | cons b s =>
      rw [Token.rests] at h
      split at h
      · exact (mem_suffixes.mp h).trans (List.suffix_cons b s)
      · simp at h
  | .between, s, r, h => by
    cases s with
    | nil => simp [Token.rests] at h
    | cons b s =>
      rw [Token.rests] at h
      split at h
      · rcases List.mem_cons.mp h with rfl | h
        · exact List.suffix_cons b r
        · exact (suffix_of_behindSlashes h).trans (List.suffix_cons b s)
      · simp at h
  | .oneOf negated ranges, s, r, h => by
    cases s with
    | nil => simp [Token.rests] at h
    | cons b s =>
      rw [Token.rests] at h
      split at h
      · rw [List.mem_singleton.mp h]
        exact List.suffix_cons b s
      · simp at h
  | .alternatives branches, s, r, h => by
    rw [Token.rests] at h
    split at h
    · rw [List.mem_singleton.mp h]
    · exact restsOfBranches_suffix branches (distinct_subset h)

theorem restsOfAll_suffix : ∀ (ts : List Token) {rests : List (List UInt8)} {s r : List UInt8},
    (∀ q ∈ rests, q <:+ s) → r ∈ restsOfAll ts rests → r <:+ s
  | [], rests, s, r, ends, h => by
    rw [restsOfAll] at h
    exact ends r h
  | t :: ts, rests, s, r, ends, h => by
    rw [restsOfAll] at h
    refine restsOfAll_suffix ts (fun q hq => ?_) h
    obtain ⟨p, hp, left⟩ := List.mem_flatMap.mp (distinct_subset hq)
    exact (t.rests_suffix left).trans (ends p hp)

theorem restsOfBranches_suffix : ∀ (branches : List (List Token)) {s r : List UInt8},
    r ∈ restsOfBranches branches s → r <:+ s
  | [], s, r, h => by simp [restsOfBranches] at h
  | branch :: branches, s, r, h => by
    rw [restsOfBranches] at h
    rcases List.mem_append.mp h with h | h
    · split at h
      · simp at h
      · exact restsOfAll_suffix branch (by simp) h
    · exact restsOfBranches_suffix branches h

end

theorem ends_of_rests {t : Token} (ends : ∀ q ∈ rests, q <:+ s) :
    ∀ q ∈ rests.flatMap t.rests, q <:+ s := by
  intro q hq
  obtain ⟨p, hp, left⟩ := List.mem_flatMap.mp hq
  exact (t.rests_suffix left).trans (ends p hp)

/-- What is left of several ends of a text is what is left of each. -/
theorem mem_restsOfAll (ts : List Token) (ends : ∀ q ∈ rests, q <:+ s) :
    r ∈ restsOfAll ts rests ↔ ∃ q ∈ rests, r ∈ restsOfAll ts [q] := by
  induction ts generalizing rests s with
  | nil => simp [restsOfAll]
  | cons t ts ih =>
    have each : ∀ q, r ∈ restsOfAll (t :: ts) [q] ↔ ∃ p ∈ t.rests q, r ∈ restsOfAll ts [p] := by
      intro q
      have below : ∀ p ∈ [q].flatMap t.rests, p <:+ q := ends_of_rests (by simp)
      rw [restsOfAll, ih fun p hp => below p (distinct_subset hp)]
      simp only [mem_distinct below]
      simp only [List.flatMap_singleton]
    have below := ends_of_rests (t := t) ends
    rw [restsOfAll, ih fun p hp => below p (distinct_subset hp)]
    simp only [mem_distinct below, List.mem_flatMap, each]
    constructor
    · rintro ⟨p, ⟨q, hq, left⟩, hr⟩
      exact ⟨q, hq, p, left, hr⟩
    · rintro ⟨q, hq, p, left, hr⟩
      exact ⟨p, ⟨q, hq, left⟩, hr⟩

theorem mem_restsOfAll_cons {t : Token} {ts : List Token} :
    r ∈ restsOfAll (t :: ts) [s] ↔ ∃ q ∈ t.rests s, r ∈ restsOfAll ts [q] := by
  have below : ∀ q ∈ [s].flatMap t.rests, q <:+ s := ends_of_rests (by simp)
  rw [restsOfAll, mem_restsOfAll ts fun q hq => below q (distinct_subset hq)]
  simp only [mem_distinct below]
  simp only [List.flatMap_singleton]

theorem mem_restsOfAll_literals {cs : List Char} :
    r ∈ restsOfAll (cs.map .literal) [s] ↔ s = bytesOf cs ++ r := by
  induction cs generalizing s with
  | nil =>
    rw [List.map_nil, restsOfAll, List.mem_singleton]
    exact eq_comm
  | cons c cs ih =>
    have first : ∀ q, q ∈ Token.rests (.literal c) s ↔ s = charBytes c ++ q := by
      intro q
      rw [Token.rests, Option.mem_toList, dropStart?_eq_some]
    rw [List.map_cons, mem_restsOfAll_cons]
    simp only [first, ih]
    simp [bytesOf]

end MarkupLint.Glob
