import MarkupLint.Json.Field
import MarkupLint.Proofs.Json.Outcomes

/-! A value of no interest is skipped, whatever it is and however deep it nests. -/
namespace MarkupLint.Json

variable {u v rest : List Char}

theorem digits_skipped (all : DigitRun u) (ended : Ended rest) :
    Reads Reader.digitsSkipped (u ++ rest) true rest := by
  refine (Reads.digits all.digits ended).bind ?_
  obtain ⟨c, run, rfl⟩ := List.exists_cons_of_ne_nil all.some
  exact Reads.pure _ _

theorem exponent_skipped {sign : List Char} (signed : sign ∈ [[], ['+'], ['-']])
    (all : DigitRun u) (ended : Ended rest) :
    Reads Reader.exponentSkipped (sign ++ (u ++ rest)) () rest := by
  obtain ⟨below, signs⟩ := sign_read signed
  obtain ⟨c, later, rfl⟩ := List.exists_cons_of_ne_nil all.some
  have digit : c.isDigit = true := all.digits c (.head _)
  exact (signs c _ digit).bind ((digits_skipped all ended).bind (Reads.pure _ _))

def scaleSkipped : Reader Unit := do
  match ← Reader.peek with
  | some c => if Reader.isExponentLetter c then do Reader.skip; Reader.exponentSkipped
  | none => return ()

def partsSkipped : Reader Unit := do
  match ← Reader.peek with
  | some '.' =>
    Reader.skip
    if !(← Reader.digitsSkipped) then Reader.failAhead .invalidNumber
    scaleSkipped
  | some c => if Reader.isExponentLetter c then do Reader.skip; Reader.exponentSkipped
  | none => return ()

theorem scale_skipped (scaled : ExponentPart u) (stops : Stops rest) :
    Reads scaleSkipped (u ++ rest) () rest := by
  cases scaled with
  | none =>
    refine (Reads.peek _).bind ?_
    cases rest with
    | nil => exact Reads.pure _ _
    | cons c rest =>
      simp only [List.nil_append, List.head?_cons, (stops c rfl).2.2]
      exact Reads.pure _ _
  | digits lettered signed all =>
    refine (Reads.peek _).bind ?_
    simp only [List.cons_append, List.head?_cons, lettered, List.append_assoc]
    exact (Reads.skip _ _).bind (exponent_skipped signed all stops.ended)

theorem parts_skipped {fraction exponent : List Char} (fractional : FractionPart fraction)
    (scaled : ExponentPart exponent) (stops : Stops rest) :
    Reads partsSkipped (fraction ++ (exponent ++ rest)) () rest := by
  refine (Reads.peek _).bind ?_
  cases fractional with
  | none =>
    cases scaled with
    | none =>
      cases rest with
      | nil => exact Reads.pure _ _
      | cons c rest =>
        obtain ⟨_, point, letter⟩ := stops c rfl
        simp only [List.nil_append, List.head?_cons, letter]
        exact Reads.pure _ _
    | @digits letter sign run lettered signed all =>
      have point : letter ≠ '.' := by
        rintro rfl
        cases lettered
      simp only [List.nil_append, List.cons_append, List.head?_cons, lettered, List.append_assoc]
      exact (Reads.skip _ _).bind (exponent_skipped signed all stops.ended)
  | digits all =>
    refine (Reads.skip _ _).bind ((digits_skipped all (scaled.ended stops)).bind ?_)
    exact scale_skipped scaled stops

theorem number_skipped (size : Magnitude u) (stops : Stops rest) :
    Reads Reader.numberSkipped (u ++ rest) () rest := by
  obtain @⟨whole, fraction, exponent, wholly, fractional, scaled⟩ := size
  have parts := parts_skipped fractional scaled stops
  have ended := fractional.ended (scaled.ended stops)
  rw [List.append_assoc, List.append_assoc]
  refine (Reads.peek _).bind ?_
  cases wholly with
  | zero =>
    refine (Reads.skip _ _).bind ((Reads.peek _).bind ?_)
    split
    · rename_i c first
      have other : c.isDigit = false := ended c first
      simp only [other]
      exact parts
    · rename_i first
      have empty : fraction ++ (exponent ++ rest) = [] := List.head?_eq_none_iff.mp first
      simp only [List.append_eq_nil_iff] at empty
      obtain ⟨rfl, rfl, rfl⟩ := empty
      exact Reads.pure _ _
  | @digits c run all apart =>
    simp only [List.cons_append, List.head?_cons]
    split
    · exact absurd (Option.some.inj ‹_›) apart
    · exact (digits_skipped all ended).bind parts

theorem text_skipped (tail : TextTail u) {fuel : Nat} (enough : u.length ≤ fuel) :
    Reads (Reader.textSkipped fuel) (u ++ rest) () rest := by
  induction tail generalizing fuel with
  | close =>
    obtain ⟨fuel, rfl⟩ := Nat.exists_eq_add_one.mpr enough
    exact (Reads.peek _).bind (Reads.skip _ _)
  | @plain c more quote backslash visible tail ih =>
    rw [List.length_cons] at enough
    obtain ⟨fuel, rfl⟩ := Nat.exists_eq_add_one.mpr (Nat.zero_lt_of_lt enough)
    refine (Reads.peek _).bind ?_
    simp only [List.cons_append, List.head?_cons, if_neg (Nat.not_lt.mpr visible)]
    exact (Reads.skip _ _).bind (ih (by omega))
  | @escape c more known tail ih =>
    simp only [List.length_cons] at enough
    obtain ⟨fuel, rfl⟩ := Nat.exists_eq_add_one.mpr (Nat.zero_lt_of_lt enough)
    obtain ⟨d, simple⟩ := simple_escape known
    have other : c ≠ 'u' := by
      rintro rfl
      simp at known
    simp only [List.cons_append]
    refine (Reads.peek _).bind ((Reads.skip _ _).bind ((Reads.peek _).bind ?_))
    simp only [List.head?_cons, simple]
    exact (Reads.skip _ _).bind (ih (by omega))
  | @unicode a b c d more hex tail ih =>
    simp only [List.length_cons] at enough
    obtain ⟨fuel, rfl⟩ := Nat.exists_eq_add_one.mpr (Nat.zero_lt_of_lt enough)
    obtain ⟨n, number⟩ := hex_escape hex
    refine (Reads.peek _).bind ((Reads.skip _ _).bind ((Reads.peek _).bind ?_))
    exact (Reads.skip _ _).bind ((number _).bind (ih (by omega)))

theorem key_skipped {m : Member} (formed : m.Formed) {blank : List Char} (blanks : Blanks blank) :
    Reads Reader.keySkipped (blank ++ '"' :: (m.key ++ (m.between ++ ':' :: rest))) () rest := by
  have enough : m.key.length ≤ (m.key ++ (m.between ++ ':' :: rest)).length + 1 := by
    rw [List.length_append]
    omega
  have key : Reads (Reader.textSkipped _) (m.key ++ (m.between ++ ':' :: rest)) () _ :=
    text_skipped formed.key enough
  refine (Reads.token blanks rfl _).bind ((Reads.skip _ _).bind ((Reads.remaining _).bind ?_))
  exact key.bind ((Reads.token formed.between rfl _).bind (Reads.skip _ _))

/-- From one state of the skipping to another in some steps. -/
inductive Skips : Nat → Reader.Skipping → List Char → Option Reader.Skipping → List Char →
    Prop where
  | refl {s : Reader.Skipping} {input : List Char} : Skips 0 s input (some s) input
  | last {s : Reader.Skipping} {input rest : List Char}
      (one : Reads (Reader.skipStep s) input none rest) : Skips 1 s input none rest
  | step {n : Nat} {s t : Reader.Skipping} {o : Option Reader.Skipping} {input mid rest : List Char}
      (one : Reads (Reader.skipStep s) input (some t) mid) (later : Skips n t mid o rest) :
      Skips (n + 1) s input o rest

namespace Skips

variable {s t : Reader.Skipping} {o : Option Reader.Skipping} {input mid : List Char} {m n : Nat}

theorem single (one : Reads (Reader.skipStep s) input o rest) : Skips 1 s input o rest := by
  cases o with
  | none => exact .last one
  | some t => exact .step one .refl

theorem append (h : Skips m s input (some t) mid) (k : Skips n t mid o rest) :
    Skips (n + m) s input o rest := by
  generalize same : some t = p at h
  induction h with
  | refl =>
    cases same
    exact k
  | last one => cases same
  | step one later ih => exact .step one (ih k same)

theorem read (h : Skips n s input none rest) {fuel : Nat} (enough : n ≤ fuel) :
    Reads (Reader.skipFrom s fuel) input () rest := by
  generalize same : none = p at h
  induction h generalizing fuel with
  | refl => cases same
  | last one =>
    obtain ⟨fuel, rfl⟩ := Nat.exists_eq_add_one.mpr enough
    exact one.bind (Reads.pure _ _)
  | step one later ih =>
    obtain ⟨fuel, rfl⟩ := Nat.exists_eq_add_one.mpr (Nat.zero_lt_of_lt enough)
    exact one.bind (ih (Nat.le_of_succ_le_succ enough) same)

end Skips

section Entries

variable {bracket : Reader.Bracket} {opened : List Reader.Bracket} {blank tail mid : List Char}

/-- Before an entry the blanks are passed, and the comma unless it is the first one. -/
theorem entry_step {next : Option Reader.Skipping} {before : List Char} {c : Char} (first : Bool)
    (blanks : Blanks blank) (padded : Blanks before) (bare : Reader.isBlank c = false)
    (inside : c ∉ [',', ']', '}'])
    (entry : ∀ blank, Blanks blank → ∃ pad, Blanks pad ∧
      Reads (Reader.entrySkipped bracket opened) (blank ++ c :: tail) next (pad ++ mid)) :
    ∃ pad, Blanks pad ∧ Reads (Reader.skipStep (.after (!first) bracket opened))
      (blank ++ (Reads.comma first ++ (before ++ c :: tail))) next (pad ++ mid) := by
  cases first with
  | true =>
    obtain ⟨pad, pads, read⟩ := entry [] .nil
    have token := Reads.token (blanks.append padded) bare tail
    rw [List.append_assoc] at token
    simp only [List.mem_cons, List.not_mem_nil, or_false, not_or] at inside
    obtain ⟨_, square, curly⟩ := inside
    refine ⟨pad, pads, token.bind ?_⟩
    split
    · exact absurd (Option.some.inj ‹_›) square
    · exact absurd (Option.some.inj ‹_›) curly
    · exact read
    · cases ‹some c = none›
    · cases ‹some c = none›
  | false =>
    obtain ⟨pad, pads, read⟩ := entry before padded
    refine ⟨pad, pads, (Reads.token blanks rfl _).bind ?_⟩
    cases bracket <;> exact (Reads.skip _ _).bind read

def EntrySkips (bracket : Reader.Bracket) (n : Nat) (text : List Char) : Prop :=
  ∀ first opened blank rest, Blanks blank → Follows rest →
    ∃ behind, Blanks behind ∧ Skips n (.after (!first) bracket opened)
      (blank ++ (Reads.comma first ++ (text ++ rest))) (some (.after true bracket opened))
      (behind ++ rest)

def ValueSkips (n : Nat) (v : List Char) : Prop :=
  ∀ opened blank rest, Blanks blank → Follows rest →
    Skips n (.value opened) (blank ++ (v ++ rest)) (Reader.Skipping.done opened) rest

theorem item_skips {s : Slot} {n : Nat} (padded : s.Padded) (written : Written s.value)
    (value : ValueSkips n s.value) : EntrySkips .list (n + 1) s.chars := by
  intro first opened blank rest blanks follows
  obtain ⟨c, tail, shape, opening⟩ := written.opened
  have entry (blank : List Char) (blanks : Blanks blank) : ∃ pad, Blanks pad ∧
      Reads (Reader.entrySkipped .list opened) (blank ++ c :: (tail ++ (s.behind ++ rest)))
        (some (.value (.list :: opened))) (pad ++ c :: (tail ++ (s.behind ++ rest))) :=
    ⟨blank, blanks, Reads.pure _ _⟩
  obtain ⟨pad, pads, one⟩ :=
    entry_step first blanks padded.before opening.bare opening.inside entry
  have later := value (.list :: opened) pad _ pads (follows.pad padded.behind)
  refine ⟨s.behind, padded.behind, .step ?_ later⟩
  simpa [Slot.chars, shape] using one

theorem member_skips {m : Member} {n : Nat} (formed : m.Formed)
    (value : ValueSkips n m.slot.value) : EntrySkips .object (n + 1) m.chars := by
  intro first opened blank rest blanks follows
  have entry (blank : List Char) (blanks : Blanks blank) : ∃ pad, Blanks pad ∧
      Reads (Reader.entrySkipped .object opened)
        (blank ++ '"' :: (m.key ++ (m.between ++ ':' :: (m.slot.chars ++ rest))))
        (some (.value (.object :: opened))) (pad ++ (m.slot.value ++ (m.slot.behind ++ rest))) := by
    refine ⟨m.slot.before, formed.slot.before, (key_skipped formed blanks).bind ?_⟩
    simpa [Slot.chars] using Reads.pure _ _
  obtain ⟨pad, pads, one⟩ := entry_step first blanks formed.before rfl (by decide) entry
  have later := value (.object :: opened) pad _ pads (follows.pad formed.slot.behind)
  refine ⟨m.slot.behind, formed.slot.behind, .step ?_ later⟩
  simpa [Member.chars, Slot.chars] using one

theorem close_step {close : Char} (comma : Bool) (blanks : Blanks blank)
    (closing : (bracket = .list ∧ close = ']') ∨ (bracket = .object ∧ close = '}'))
    (rest : List Char) :
    Reads (Reader.skipStep (.after comma bracket opened)) (blank ++ close :: rest)
      (Reader.Skipping.done opened) rest := by
  rcases closing with ⟨rfl, rfl⟩ | ⟨rfl, rfl⟩
  · exact (Reads.token blanks rfl _).bind ((Reads.skip _ _).bind (Reads.pure _ _))
  · exact (Reads.token blanks rfl _).bind ((Reads.skip _ _).bind (Reads.pure _ _))

theorem entries_skip {α : Type} {write : α → List Char} {close : Char}
    (closing : (bracket = .list ∧ close = ']') ∨ (bracket = .object ∧ close = '}'))
    {as : List α}
    (each : ∀ a ∈ as, ∃ n, n ≤ 2 * (write a).length ∧ EntrySkips bracket n (write a))
    (first : Bool) :
    ∃ n, n ≤ 2 * (upcoming write first as).length + 1 ∧ ∀ opened blank rest, Blanks blank →
      Skips n (.after (!first) bracket opened) (blank ++ (upcoming write first as ++ close :: rest))
        (Reader.Skipping.done opened) rest := by
  have ends : close ∈ [']', '}'] := by
    rcases closing with ⟨_, rfl⟩ | ⟨_, rfl⟩ <;> decide
  induction as generalizing first with
  | nil =>
    refine ⟨1, by omega, fun opened blank rest blanks => .single ?_⟩
    exact close_step _ blanks closing rest
  | cons a as ih =>
    obtain ⟨n, short, entry⟩ := each a (.head _)
    obtain ⟨k, others, later⟩ := ih (fun b hb => each b (.tail _ hb)) false
    refine ⟨k + n, ?_, fun opened blank rest blanks => ?_⟩
    · simp only [upcoming, List.length_append]
      omega
    · obtain ⟨behind, padded, here⟩ := entry first opened blank
        (upcoming write false as ++ close :: rest) blanks (follows_upcoming write as ends rest)
      have all := here.append (later opened behind rest padded)
      simpa [upcoming] using all

end Entries

theorem positive_skips (size : Magnitude u) : ValueSkips 1 u := by
  intro opened blank rest blanks follows
  have read := number_skipped size follows.stops
  obtain ⟨c, run, rfl, digit⟩ := size.opening
  have numeric : (c = '-' || c.isDigit) = true := by simp [digit]
  refine .single ((Reads.token blanks (numeric_bare numeric) _).bind ?_)
  split
  · rename_i none
    cases none
  all_goals try exact absurd (Option.some.inj ‹_›) (numeric_ne numeric rfl)
  · rename_i first
    cases Option.some.inj first
    cases digit
  · rename_i first
    cases Option.some.inj first
    rw [if_pos digit]
    exact read.bind (Reads.pure _ _)

theorem array_skips {inside : List Char} {items : List Slot} (blank : Blanks inside)
    (each : ∀ s ∈ items, ∃ n, n ≤ 2 * s.chars.length ∧ EntrySkips .list n s.chars) :
    ∃ n, n + 1 ≤ 2 * ('[' :: arrayTail inside items).length ∧
      ValueSkips n ('[' :: arrayTail inside items) := by
  obtain ⟨n, short, later⟩ := entries_skip (.inl ⟨rfl, rfl⟩) each true
  refine ⟨n + 1, ?_, fun opened before rest blanks _ => .step ?_ (later opened inside rest blank)⟩
  · simp only [List.length_cons, arrayTail, List.length_append, listed_upcoming]
    omega
  · rw [List.cons_append, arrayTail_append]
    exact (Reads.token blanks rfl _).bind ((Reads.skip _ _).bind (Reads.pure _ _))

theorem object_skips {inside : List Char} {members : List Member} (blank : Blanks inside)
    (each : ∀ m ∈ members, ∃ n, n ≤ 2 * m.chars.length ∧ EntrySkips .object n m.chars) :
    ∃ n, n + 1 ≤ 2 * ('{' :: objectTail inside members).length ∧
      ValueSkips n ('{' :: objectTail inside members) := by
  obtain ⟨n, short, later⟩ := entries_skip (.inr ⟨rfl, rfl⟩) each true
  refine ⟨n + 1, ?_, fun opened before rest blanks _ => .step ?_ (later opened inside rest blank)⟩
  · simp only [List.length_cons, objectTail, List.length_append, listed_upcoming]
    omega
  · rw [List.cons_append, objectTail_append]
    exact (Reads.token blanks rfl _).bind ((Reads.skip _ _).bind (Reads.pure _ _))

/-- Every value is skipped, in fewer steps than twice its characters. -/
theorem value_skips (h : Written v) : ∃ n, n + 1 ≤ 2 * v.length ∧ ValueSkips n v := by
  induction h with
  | null =>
    refine ⟨1, by decide, fun opened blank rest blanks _ => .single ?_⟩
    exact (Reads.token blanks rfl _).bind
      ((Reads.skip _ _).bind ((Reads.word ['u', 'l', 'l'] rest).bind (Reads.pure _ _)))
  | yes =>
    refine ⟨1, by decide, fun opened blank rest blanks _ => .single ?_⟩
    exact (Reads.token blanks rfl _).bind
      ((Reads.skip _ _).bind ((Reads.word ['r', 'u', 'e'] rest).bind (Reads.pure _ _)))
  | no =>
    refine ⟨1, by decide, fun opened blank rest blanks _ => .single ?_⟩
    exact (Reads.token blanks rfl _).bind
      ((Reads.skip _ _).bind ((Reads.word ['a', 'l', 's', 'e'] rest).bind (Reads.pure _ _)))
  | number size =>
    have some := (Written.number size).some
    refine ⟨1, by omega, ?_⟩
    cases size with
    | positive size => exact positive_skips size
    | negative size =>
      intro opened blank rest blanks follows
      refine .single ((Reads.token blanks rfl _).bind ((Reads.skip _ _).bind ?_))
      exact (number_skipped size follows.stops).bind (Reads.pure _ _)
  | @text u tail =>
    have some := (Written.text tail).some
    refine ⟨1, by omega, fun opened blank rest blanks _ => .single ?_⟩
    refine (Reads.token blanks rfl _).bind ((Reads.skip _ _).bind ((Reads.remaining _).bind ?_))
    have enough : u.length ≤ (u ++ rest).length + 1 := by
      rw [List.length_append]
      omega
    exact (text_skipped tail enough).bind (Reads.pure _ _)
  | array blank padded each ih =>
    refine array_skips blank fun s hs => ?_
    obtain ⟨n, short, value⟩ := ih s hs
    refine ⟨n + 1, ?_, item_skips (padded s hs) (each s hs) value⟩
    simp only [Slot.chars, List.length_append]
    omega
  | object blank formed each ih =>
    refine object_skips blank fun m hm => ?_
    obtain ⟨n, short, value⟩ := ih m hm
    refine ⟨n + 1, ?_, member_skips (formed m hm) value⟩
    simp only [Member.chars, Slot.chars, List.length_append, List.length_cons]
    omega

/-- A field that is not known is passed, whatever its value. -/
theorem ignored_field (h : Written v) {between before : List Char} (betweens : Blanks between)
    (befores : Blanks before) (follows : Follows rest) :
    Reads Reader.ignoredField (between ++ ':' :: (before ++ (v ++ rest))) () rest := by
  obtain ⟨n, short, value⟩ := value_skips h
  have enough : n ≤ 2 * (before ++ (v ++ rest)).length + 2 := by
    simp only [List.length_append]
    omega
  refine (Reads.colon_behind betweens _).bind (Reads.placed ?_)
  exact (Reads.remaining _).bind ((value [] before rest befores follows).read enough)

end MarkupLint.Json
