import MarkupLint.Path

/-! The parts of a path between its slashes. What stands behind the last slash comes last, unless it
names nothing, and a path without a parent names nothing at all. -/
namespace MarkupLint.Path

variable {p q : Path} {d e bytes : List UInt8}

theorem splitParts_ne_nil (bytes : List UInt8) : splitParts bytes ≠ [] := by
  cases bytes with
  | nil => simp [splitParts]
  | cons b bytes =>
    rw [splitParts]
    split
    · simp
    · split <;> simp

theorem splitParts_slash (bytes : List UInt8) :
    splitParts (slash :: bytes) = [] :: splitParts bytes := by simp [splitParts]

theorem splitParts_other {b : UInt8} (other : b ≠ slash) {part : List UInt8}
    {parts : List (List UInt8)} (rest : splitParts bytes = part :: parts) :
    splitParts (b :: bytes) = (b :: part) :: parts := by simp [splitParts, other, rest]

theorem splitParts_append (d e : List UInt8) :
    splitParts (d ++ slash :: e) = splitParts d ++ splitParts e := by
  induction d with
  | nil => rw [List.nil_append, splitParts_slash, splitParts, List.singleton_append]
  | cons b d ih =>
    by_cases here : b = slash
    · subst here
      rw [List.cons_append, splitParts_slash, ih, splitParts_slash, List.cons_append]
    · obtain ⟨part, parts, cut⟩ := List.exists_cons_of_ne_nil (splitParts_ne_nil d)
      rw [cut, List.cons_append] at ih
      rw [List.cons_append, splitParts_other here ih, splitParts_other here cut, List.cons_append]

theorem splitParts_of_free (free : slash ∉ e) : splitParts e = [e] := by
  induction e with
  | nil => rfl
  | cons b e ih =>
    rw [List.mem_cons, not_or] at free
    exact splitParts_other (Ne.symm free.1) (ih free.2)

def named (parts : List (List UInt8)) : List Component :=
  (parts.filter fun part => !isIdle part).map componentOf

theorem components_behind (bytes : p.bytes = d ++ slash :: e) :
    ∃ cs, p.components = cs ++ named (splitParts e) := by
  obtain ⟨first, parts, cut⟩ := List.exists_cons_of_ne_nil (splitParts_ne_nil d)
  have split : splitParts p.bytes = first :: (parts ++ splitParts e) := by
    rw [bytes, splitParts_append, cut, List.cons_append]
  have behind : named (parts ++ splitParts e) = named parts ++ named (splitParts e) := by
    rw [named, List.filter_append, List.map_append]
    rfl
  have behindAll : named (first :: (parts ++ splitParts e)) =
      named (first :: parts) ++ named (splitParts e) := by
    rw [named, ← List.cons_append, List.filter_append, List.map_append]
    rfl
  simp only [components, split]
  split
  · exact ⟨.root :: named parts, congrArg (.root :: ·) behind⟩
  · split
    · exact ⟨.current :: named parts, congrArg (.current :: ·) behind⟩
    · exact ⟨named (first :: parts), behindAll⟩

theorem head?_components (p : Path) : p.components.head? = some .root ↔ p.isAbsolute = true := by
  have other (parts : List (List UInt8)) : (named parts).head? ≠ some .root := by
    intro first
    obtain ⟨part, _, root⟩ := List.mem_map.mp (List.mem_of_head? first)
    rw [componentOf] at root
    split at root <;> cases root
  obtain ⟨first, parts, cut⟩ := List.exists_cons_of_ne_nil (splitParts_ne_nil p.bytes)
  simp only [components, cut]
  split
  · rename_i absolute
    simp [absolute]
  · rename_i relative
    refine iff_of_false ?_ relative
    split
    · simp
    · exact other (first :: parts)

theorem isAbsolute_of_same (same : p.same q = true) : p.isAbsolute = q.isAbsolute := by
  rw [Bool.eq_iff_iff, ← head?_components, ← head?_components, eq_of_beq same]

theorem componentOf_inj (h : componentOf d = componentOf e) : d = e := by
  unfold componentOf at h
  split at h <;> split at h
  · rename_i left right
    rw [left, right]
  · cases h
  · cases h
  · exact Component.name.inj h

def EndsIn (p : Path) (e : List UInt8) : Prop := p.bytes = e ∨ ∃ d, p.bytes = d ++ slash :: e

theorem EndsIn.join (ends : q.EndsIn e) (p : Path) : (p.join q).EndsIn e := by
  by_cases absolute : q.isAbsolute = true
  · rwa [Path.join, if_pos absolute]
  · rw [Path.join, if_neg absolute]
    split
    · exact ends
    · rename_i b last
      obtain ⟨front, whole⟩ := List.getLast?_eq_some_iff.mp last
      rcases ends with only | ⟨d, behind⟩
      · split
        · rename_i slashed
          exact .inr ⟨front, by simp [whole, slashed, only]⟩
        · exact .inr ⟨p.bytes, by simp [only]⟩
      · split
        · exact .inr ⟨p.bytes ++ d, by simp [behind]⟩
        · exact .inr ⟨p.bytes ++ slash :: d, by simp [behind]⟩

section Last

variable (free : slash ∉ e) (active : isIdle e = false)

include active in
theorem named_active : named [e] = [componentOf e] := by simp [named, active]

include free active

/-- What is behind the last slash comes last. A slash at the end changes nothing. -/
theorem last_behind
    (bytes : p.bytes = d ++ slash :: e ∨ p.bytes = d ++ slash :: e ++ [slash]) :
    p.components.getLast? = some (componentOf e) := by
  obtain ⟨cs, components⟩ : ∃ cs, p.components = cs ++ [componentOf e] := by
    rcases bytes with bytes | bytes
    · obtain ⟨cs, components⟩ := components_behind bytes
      rw [splitParts_of_free free, named_active active] at components
      exact ⟨cs, components⟩
    · obtain ⟨cs, components⟩ := components_behind (e := e ++ slash :: []) (by simpa using bytes)
      rw [splitParts_append, splitParts_of_free free, splitParts_of_free (by simp)] at components
      have none : [[]].filter (fun part => !isIdle part) = [] := rfl
      have idle : named ([e] ++ [[]]) = named [e] := by
        rw [named, List.filter_append, none, List.append_nil]
        rfl
      rw [idle, named_active active] at components
      exact ⟨cs, components⟩
  rw [components, List.getLast?_concat]

theorem EndsIn.last (ends : p.EndsIn e) : p.components.getLast? = some (componentOf e) := by
  rcases ends with only | ⟨d, behind⟩
  · have relative : p.isAbsolute = false := by
      rw [isAbsolute, only, decide_eq_false_iff_not]
      exact fun first => free (List.mem_of_head? first)
    have here : e ≠ [dot] := fun eq => by simp [isIdle, eq] at active
    have components : p.components = [componentOf e] := by
      simp only [Path.components, only, splitParts_of_free free, relative, here]
      exact named_active active
    rw [components, List.getLast?_singleton]
  · exact last_behind free active (.inl behind)

end Last

theorem dropIdle_ne_nil {parts : List (List UInt8)} (h : parts ≠ []) : dropIdle parts ≠ [] := by
  fun_induction dropIdle parts with
  | case1 => contradiction
  | case2 => simp
  | case3 _ _ _ _ ih => exact ih (by assumption)
  | case4 => simp

theorem dropIdle_cut (parts : List (List UInt8)) :
    ∃ front, parts = front ++ dropIdle parts ∧ ∀ x ∈ front, isIdle x = true := by
  fun_induction dropIdle parts with
  | case1 => exact ⟨[], rfl, by simp⟩
  | case2 => exact ⟨[], rfl, by simp⟩
  | case3 part parts _ idle ih =>
    obtain ⟨front, cut, all⟩ := ih
    refine ⟨part :: front, by rw [List.cons_append, ← cut], fun x hx => ?_⟩
    rcases List.mem_cons.mp hx with rfl | hx
    · exact idle
    · exact all x hx
  | case4 => exact ⟨[], rfl, by simp⟩

theorem head_of_splitParts {parts : List (List UInt8)} (h : splitParts bytes = [] :: parts) :
    bytes = [] ∨ bytes.head? = some slash := by
  cases bytes with
  | nil => exact .inl rfl
  | cons b bytes =>
    by_cases here : b = slash
    · exact .inr (congrArg some here)
    · obtain ⟨part, parts, cut⟩ := List.exists_cons_of_ne_nil (splitParts_ne_nil bytes)
      simp [splitParts_other here cut] at h

/-- Only the empty path and the root have no parent, however the root is spelled. -/
theorem of_parent?_eq_none (h : p.parent? = none) :
    (p.bytes = [] ∨ p.isAbsolute = true) ∧ ∀ part ∈ splitParts p.bytes, isIdle part = true := by
  have some_part : dropIdle (splitParts p.bytes).reverse ≠ [] :=
    dropIdle_ne_nil (by simpa using splitParts_ne_nil p.bytes)
  have last : dropIdle (splitParts p.bytes).reverse = [[]] := by
    rw [parent?] at h
    split at h
    · contradiction
    · assumption
    · simp at h
    · split at h <;> simp at h
  obtain ⟨front, cut, idle⟩ := dropIdle_cut (splitParts p.bytes).reverse
  rw [last, List.reverse_eq_iff, List.reverse_append] at cut
  refine ⟨(head_of_splitParts cut).imp id decide_eq_true, fun part hp => ?_⟩
  rw [cut] at hp
  rcases List.mem_cons.mp hp with rfl | hp
  · rfl
  · exact idle part (List.mem_reverse.mp hp)

end MarkupLint.Path
