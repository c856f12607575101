import MarkupLint.Proofs.Json.Grammar

/-! What a reader makes of the front of a text: it reads a value and leaves a rest, or it fails.
What it makes of a string or a number does not depend on what follows. -/
namespace MarkupLint.Json

variable {α β : Type} {input mid rest : List Char} {a : α}

def Fails (r : Reader α) (input : List Char) : Prop :=
  ∀ place, ∃ fault after, r ⟨place, input⟩ = (.error fault, after)

/-- The reader reads a value and leaves `rest`, or it fails where the outcome is none. -/
def Yields (r : Reader α) (input : List Char) (outcome : Option α) (rest : List Char) : Prop :=
  match outcome with
  | some a => Reads r input a rest
  | none => Fails r input

namespace Fails

variable {r : Reader α} {f : α → Reader β}

theorem here (cause : Cause) (input : List Char) : Fails (Reader.failHere cause : Reader α) input :=
  fun _ => ⟨_, _, rfl⟩

theorem ahead (cause : Cause) (input : List Char) :
    Fails (Reader.failAhead cause : Reader α) input :=
  fun _ => ⟨_, _, rfl⟩

theorem mismatch (m : Mismatch) (input : List Char) :
    Fails (Reader.mismatch m : Reader α) input :=
  fun _ => ⟨_, _, rfl⟩

theorem bind_first (h : Fails r input) : Fails (r >>= f) input := by
  intro place
  obtain ⟨fault, after, run⟩ := h place
  refine ⟨fault, after, ?_⟩
  simp only [Bind.bind, ExceptT.bind, ExceptT.mk, StateT.bind, run]
  rfl

theorem bind (h : Reads r input a mid) (k : Fails (f a) mid) : Fails (r >>= f) input := by
  intro place
  obtain ⟨between, first⟩ := h place
  obtain ⟨fault, after, second⟩ := k between
  refine ⟨fault, after, ?_⟩
  simp only [Bind.bind, ExceptT.bind, ExceptT.mk, StateT.bind, first]
  exact second

theorem bind_always (k : ∀ a mid, Fails (f a) mid) : Fails (r >>= f) input := by
  intro place
  rcases run : r ⟨place, input⟩ with ⟨fault | a, after⟩
  · refine ⟨fault, after, ?_⟩
    simp only [Bind.bind, ExceptT.bind, ExceptT.mk, StateT.bind, run]
    rfl
  · obtain ⟨fault, last, second⟩ := k a after.rest after.place
    refine ⟨fault, last, ?_⟩
    simp only [Bind.bind, ExceptT.bind, ExceptT.mk, StateT.bind, run]
    exact second

theorem placed (h : Fails r input) : Fails (Reader.placed r) input := by
  intro place
  obtain ⟨fault, after, run⟩ := h place
  refine ⟨⟨fault.cause, fault.place.or (some after.place)⟩, after, ?_⟩
  simp only [Reader.placed, run]

theorem raise (fault : Fault) (input : List Char) : Fails (throw fault : Reader α) input :=
  fun _ => ⟨_, _, rfl⟩

theorem attempt_bind {f : Except Fault α → Reader β} (h : Fails r input)
    (k : ∀ fault mid, Fails (f (.error fault)) mid) : Fails (Reader.attempt r >>= f) input := by
  intro place
  obtain ⟨fault, between, first⟩ := h place
  obtain ⟨last, after, second⟩ := k fault between.rest between.place
  refine ⟨last, after, ?_⟩
  simp only [Bind.bind, ExceptT.bind, ExceptT.mk, StateT.bind, Reader.attempt, first]
  exact second

/-- A value of another type is complained about, or it is not read at all. -/
theorem wrong_type (c : Char) (expected : String) (input : List Char) :
    Fails (Reader.wrongTypeAt c expected : Reader α) input :=
  bind_always fun _ _ => mismatch _ _

end Fails

namespace Yields

variable {r : Reader α} {f : α → Reader β} {o : Option α} {p : Option β}

theorem after (h : Reads r input a mid) (k : Yields (f a) mid p rest) :
    Yields (r >>= f) input p rest := by
  cases p with
  | some b => exact Reads.bind h k
  | none => exact Fails.bind h k

theorem bind (g : α → Option β) (h : Yields r input o mid)
    (k : ∀ a, o = some a → Yields (f a) mid (g a) rest) :
    Yields (r >>= f) input (o.bind g) rest := by
  cases o with
  | some a => exact after h (k a rfl)
  | none => exact Fails.bind_first h

theorem map (g : α → β) (h : Yields r input o rest) :
    Yields (r >>= fun a => return g a) input (o.map g) rest := by
  cases o with
  | some a => exact Reads.bind h (Reads.pure (g a) rest)
  | none => exact Fails.bind_first h

theorem placed (h : Yields r input o rest) : Yields (Reader.placed r) input o rest := by
  cases o with
  | some a => exact Reads.placed h
  | none => exact Fails.placed h

end Yields

theorem Reads.token {blank : List Char} (blanks : Blanks blank) {c : Char}
    (bare : Reader.isBlank c = false) (tail : List Char) :
    Reads Reader.peekToken (blank ++ c :: tail) (some c) (c :: tail) := by
  intro place
  refine ⟨blank.foldl Place.after place, ?_⟩
  simp [Reader.peekToken, Reader.Cursor.dropBlanks, List.takeWhile_append_of_pos blanks,
    List.dropWhile_append_of_pos blanks, bare]

theorem Reads.colon_behind {blank : List Char} (blanks : Blanks blank) (rest : List Char) :
    Reads Reader.colon (blank ++ ':' :: rest) () rest :=
  (token blanks rfl rest).bind (skip _ _)

section Numbers

variable {u : List Char}

def Ended (rest : List Char) : Prop := ∀ c ∈ rest.head?, c.isDigit = false

theorem Stops.ended (h : Stops rest) : Ended rest := fun c hc => (h c hc).1

theorem ended_cons {c : Char} (other : c.isDigit = false) (tail : List Char) :
    Ended (c :: tail) := by
  rintro d ⟨⟩
  exact other

theorem letter_ended {c : Char} (letter : Reader.isExponentLetter c = true) :
    c.isDigit = false := by
  simp only [Reader.isExponentLetter, Bool.or_eq_true, decide_eq_true_eq] at letter
  rcases letter with rfl | rfl <;> rfl

theorem real_number (negative : Bool) (d : Digits) :
    ∃ o, ∀ input, Yields (Reader.realNumber negative d) input o input := by
  unfold Reader.realNumber
  cases realOfParts negative d.significand d.exponent with
  | some x => exact ⟨some (.real x), fun input => Reads.pure _ input⟩
  | none => exact ⟨none, fun input => Fails.here _ input⟩

/-- The digits of an exponent are read up to their end, or up to where they pass the limit. -/
theorem exponent_digits {run : List Char} (all : ∀ c ∈ run, c.isDigit = true) (acc : Nat) :
    (∃ e, ∀ fuel rest, run.length < fuel → Ended rest →
      Reads (Reader.exponentDigits acc fuel) (run ++ rest) (some e) rest) ∨
    ∃ left, (∀ c ∈ left, c.isDigit = true) ∧ ∀ fuel rest, run.length < fuel →
      Reads (Reader.exponentDigits acc fuel) (run ++ rest) none (left ++ rest) := by
  induction run generalizing acc with
  | nil =>
    refine .inl ⟨acc, fun fuel rest enough ended => ?_⟩
    obtain ⟨fuel, rfl⟩ := Nat.exists_eq_add_one.mpr enough
    refine (Reads.peek _).bind ?_
    cases rest with
    | nil => exact Reads.pure _ _
    | cons c rest =>
      have other : c.isDigit = false := ended c rfl
      simp only [List.nil_append, List.head?_cons, other]
      exact Reads.pure _ _
  | cons c run ih =>
    have digit : c.isDigit = true := all c (.head _)
    have others : ∀ d ∈ run, d.isDigit = true := fun d hd => all d (.tail _ hd)
    have step {fuel : Nat} {rest left : List Char} {e : Option Nat}
        (later : Reads (if Reader.greatestExponent < acc * 10 + digitValue c then return none
          else Reader.exponentDigits (acc * 10 + digitValue c) fuel) (run ++ rest) e left) :
        Reads (Reader.exponentDigits acc (fuel + 1)) (c :: run ++ rest) e left := by
      refine (Reads.peek _).bind ?_
      simp only [List.cons_append, List.head?_cons, digit]
      exact (Reads.skip c _).bind later
    by_cases past : Reader.greatestExponent < acc * 10 + digitValue c
    · refine .inr ⟨run, others, fun fuel rest enough => ?_⟩
      obtain ⟨fuel, rfl⟩ := Nat.exists_eq_add_one.mpr (Nat.zero_lt_of_lt enough)
      refine step ?_
      rw [if_pos past]
      exact Reads.pure _ _
    · rcases ih others (acc * 10 + digitValue c) with ⟨e, read⟩ | ⟨left, digits, read⟩
      · refine .inl ⟨e, fun fuel rest enough ended => ?_⟩
        obtain ⟨fuel, rfl⟩ := Nat.exists_eq_add_one.mpr (Nat.zero_lt_of_lt enough)
        refine step ?_
        rw [if_neg past]
        exact read fuel rest (Nat.lt_of_succ_lt_succ enough) ended
      · refine .inr ⟨left, digits, fun fuel rest enough => ?_⟩
        obtain ⟨fuel, rfl⟩ := Nat.exists_eq_add_one.mpr (Nat.zero_lt_of_lt enough)
        refine step ?_
        rw [if_neg past]
        exact read fuel rest (Nat.lt_of_succ_lt_succ enough)

theorem sign_read {sign : List Char} (signed : sign ∈ [[], ['+'], ['-']]) :
    ∃ below, ∀ c tail, c.isDigit = true →
      Reads Reader.sign (sign ++ c :: tail) below (c :: tail) := by
  simp only [List.mem_cons, List.not_mem_nil, or_false] at signed
  rcases signed with rfl | rfl | rfl
  · refine ⟨false, fun c tail digit => (Reads.peek _).bind ?_⟩
    have apart {d : Char} (other : d.isDigit = false) : c ≠ d := by
      rintro rfl
      rw [digit] at other
      cases other
    simp only [List.nil_append, List.head?_cons]
    split
    · exact absurd (Option.some.inj ‹_›) (apart rfl)
    · exact absurd (Option.some.inj ‹_›) (apart rfl)
    · exact Reads.pure _ _
  · exact ⟨false, fun c tail _ =>
      (Reads.peek _).bind ((Reads.skip _ _).bind (Reads.pure _ _))⟩
  · exact ⟨true, fun c tail _ =>
      (Reads.peek _).bind ((Reads.skip _ _).bind (Reads.pure _ _))⟩

theorem exponent_yields {sign run : List Char} (signed : sign ∈ [[], ['+'], ['-']])
    (all : DigitRun run) (negative : Bool) (d : Digits) :
    ∃ o, ∀ rest, Ended rest →
      Yields (Reader.exponent negative d) (sign ++ (run ++ rest)) o rest := by
  obtain ⟨below, signs⟩ := sign_read signed
  obtain ⟨c, later, rfl⟩ := List.exists_cons_of_ne_nil all.some
  have digit : c.isDigit = true := all.digits c (.head _)
  have enough (rest : List Char) : (c :: later).length < (c :: later ++ rest).length + 1 := by
    rw [List.length_append]
    omega
  rcases exponent_digits all.digits 0 with ⟨e, read⟩ | ⟨left, digits, read⟩
  · obtain ⟨o, real⟩ := real_number negative
      { d with exponent := if below then d.exponent - e else d.exponent + e }
    refine ⟨o, fun rest ended => ?_⟩
    refine .after (signs c _ digit) (.after (Reads.peek _) ?_)
    simp only [List.head?_cons, digit]
    exact .after (Reads.remaining _) (.after (read _ rest (enough rest) ended) (real rest))
  · -- An exponent past the limit makes zero of the number, or it is out of range.
    by_cases large : (d.significand ≠ 0 && !below) = true
    · refine ⟨none, fun rest ended => ?_⟩
      refine .after (signs c _ digit) (.after (Reads.peek _) ?_)
      simp only [List.head?_cons, digit]
      refine .after (Reads.remaining _) (.after (read _ rest (enough rest)) ?_)
      simp only [if_pos large]
      exact Fails.here _ _
    · refine ⟨some (.real (Number.Binary64.zero negative)), fun rest ended => ?_⟩
      refine .after (signs c _ digit) (.after (Reads.peek _) ?_)
      simp only [List.head?_cons, digit]
      refine .after (Reads.remaining _) (.after (read _ rest (enough rest)) ?_)
      simp only [if_neg large]
      exact (Reads.digits digits ended).bind (Reads.pure _ rest)

/-- The exponent with its letter, if there is one, and otherwise the given end of the number. -/
theorem scaled_yields {exponent : List Char} (scaled : ExponentPart exponent) (negative : Bool)
    (d : Digits) {plain : Reader Number} {o : Option Number}
    (unscaled : ∀ rest, Yields plain rest o rest) :
    ∃ o, ∀ rest, Stops rest → Yields (do
      match ← Reader.peek with
      | some c =>
        if Reader.isExponentLetter c then do Reader.skip; Reader.exponent negative d else plain
      | none => plain) (exponent ++ rest) o rest := by
  cases scaled with
  | none =>
    refine ⟨o, fun rest stops => .after (Reads.peek _) ?_⟩
    cases rest with
    | nil => exact unscaled []
    | cons c rest =>
      simp only [List.nil_append, List.head?_cons, (stops c rfl).2.2]
      exact unscaled (c :: rest)
  | digits lettered signed all =>
    obtain ⟨o, read⟩ := exponent_yields signed all negative d
    refine ⟨o, fun rest stops => .after (Reads.peek _) ?_⟩
    simp only [List.cons_append, List.head?_cons, lettered, List.append_assoc]
    exact .after (Reads.skip _ _) (read rest stops.ended)

theorem ExponentPart.ended {exponent rest : List Char} (scaled : ExponentPart exponent)
    (stops : Stops rest) : Ended (exponent ++ rest) := by
  cases scaled with
  | none => exact stops.ended
  | digits lettered signed all => exact ended_cons (letter_ended lettered) _

theorem number_of_digits (negative : Bool) (d : Digits) :
    ∃ o, ∀ input, Yields (match numberOfDigits negative d with
      | some n => (return n : Reader Number)
      | none => Reader.failHere .numberOutOfRange) input o input := by
  cases numberOfDigits negative d with
  | some n => exact ⟨some n, fun input => Reads.pure _ input⟩
  | none => exact ⟨none, fun input => Fails.here _ input⟩

/-- A number ends here, and its digits are made a number. -/
theorem whole_yields (negative : Bool) (d : Digits) :
    ∃ o, ∀ rest, Stops rest → Yields (Reader.numberTail negative d) rest o rest := by
  obtain ⟨o, made⟩ := number_of_digits negative d
  refine ⟨o, fun rest stops => .after (Reads.peek _) ?_⟩
  cases rest with
  | nil => exact made []
  | cons c rest =>
    obtain ⟨_, point, letter⟩ := stops c rfl
    simp only [List.head?_cons, letter]
    exact made (c :: rest)

theorem number_tail_yields {fraction exponent : List Char} (fractional : FractionPart fraction)
    (scaled : ExponentPart exponent) (negative : Bool) (d : Digits) :
    ∃ o, ∀ rest, Stops rest →
      Yields (Reader.numberTail negative d) (fraction ++ (exponent ++ rest)) o rest := by
  cases fractional with
  | none =>
    cases scaled with
    | none => exact whole_yields negative d
    | @digits letter sign run lettered signed all =>
      obtain ⟨o, read⟩ := exponent_yields signed all negative d
      refine ⟨o, fun rest stops => .after (Reads.peek _) ?_⟩
      have point : letter ≠ '.' := by
        rintro rfl
        cases lettered
      simp only [List.nil_append, List.cons_append, List.head?_cons, lettered, List.append_assoc]
      exact .after (Reads.skip _ _) (read rest stops.ended)
  | @digits run all =>
    let behind := (run.map digitValue).foldl Digits.fraction { d with full := false }
    obtain ⟨o, real⟩ := real_number negative behind
    obtain ⟨o, read⟩ := scaled_yields scaled negative behind real
    refine ⟨o, fun rest stops => .after (Reads.peek _) (.after (Reads.skip _ _) ?_)⟩
    refine .after (Reads.digits all.digits (scaled.ended stops)) ?_
    obtain ⟨c, later, rfl⟩ := List.exists_cons_of_ne_nil all.some
    exact read rest stops

theorem FractionPart.ended {fraction rest : List Char} (fractional : FractionPart fraction)
    (ended : Ended rest) : Ended (fraction ++ rest) := by
  cases fractional with
  | none => exact ended
  | digits all => exact ended_cons rfl _

theorem unsigned_yields (size : Magnitude u) (negative : Bool) :
    ∃ o, ∀ rest, Stops rest → Yields (Reader.unsignedNumber negative) (u ++ rest) o rest := by
  obtain ⟨wholly, fractional, scaled⟩ := size
  cases wholly with
  | zero =>
    obtain ⟨o, read⟩ := number_tail_yields fractional scaled negative ⟨0, 0, false⟩
    refine ⟨o, fun rest stops => ?_⟩
    have ended := fractional.ended (scaled.ended stops)
    have later := read rest stops
    rw [List.append_assoc, List.append_assoc]
    refine .after (Reads.peek _) (.after (Reads.skip _ _) (.after (Reads.peek _) ?_))
    split
    · rename_i c first
      have other : c.isDigit = false := ended c first
      simp only [other]
      exact later
    · exact later
  | @digits c run all apart =>
    have digit : c.isDigit = true := all.digits c (.head _)
    obtain ⟨o, read⟩ := number_tail_yields fractional scaled negative
      (((c :: run).map digitValue).foldl Digits.whole ⟨0, 0, false⟩)
    refine ⟨o, fun rest stops => ?_⟩
    have ended := fractional.ended (scaled.ended stops)
    rw [List.append_assoc, List.append_assoc]
    refine .after (Reads.peek _) ?_
    simp only [List.cons_append, List.head?_cons, digit]
    exact .after (Reads.digits all.digits ended) (read rest stops)

/-- What a number is read as, and whether it is in range, depends on its own characters alone. -/
theorem number_yields (h : Numeral u) :
    ∃ o, ∀ rest, Stops rest → Yields Reader.number (u ++ rest) o rest := by
  cases h with
  | positive size =>
    obtain ⟨o, read⟩ := unsigned_yields size false
    obtain ⟨c, run, rfl, digit⟩ := size.opening
    refine ⟨o, fun rest stops => .after (Reads.peek _) ?_⟩
    have apart : c ≠ '-' := by
      rintro rfl
      cases digit
    simp only [List.cons_append, List.head?_cons]
    split
    · exact absurd (Option.some.inj ‹_›) apart
    · exact read rest stops
  | negative size =>
    obtain ⟨o, read⟩ := unsigned_yields size true
    exact ⟨o, fun rest stops => .after (Reads.peek _) (.after (Reads.skip _ _) (read rest stops))⟩

end Numbers

section Texts

variable {u : List Char}

theorem hex_value {c : Char} (hex : isHexDigit c = true) : ∃ n, Reader.hexValue? c = some n := by
  simp only [isHexDigit, Bool.or_eq_true, Bool.and_eq_true, decide_eq_true_eq] at hex
  unfold Reader.hexValue?
  rcases hex with (digit | lower) | upper
  · exact ⟨_, if_pos digit⟩
  · by_cases digit : c.isDigit = true
    · exact ⟨_, if_pos digit⟩
    · exact ⟨_, by rw [if_neg digit, if_pos lower]⟩
  · by_cases digit : c.isDigit = true
    · exact ⟨_, if_pos digit⟩
    · by_cases lower : 'a' ≤ c ∧ c ≤ 'f'
      · exact ⟨_, by rw [if_neg digit, if_pos lower]⟩
      · exact ⟨_, by rw [if_neg digit, if_neg lower, if_pos upper]⟩

theorem hex_number {a b c d : Char} {n : Nat} (hex : hexNumber? a b c d = some n)
    (rest : List Char) : Reads Reader.hexEscape (a :: b :: c :: d :: rest) n rest := by
  simp only [hexNumber?, Option.bind_eq_bind, Option.bind_eq_some_iff, Option.pure_def,
    Option.some.injEq] at hex
  obtain ⟨i, ha, j, hb, k, hc, l, hd, rfl⟩ := hex
  intro place
  refine ⟨(((place.after a).after b).after c).after d, ?_⟩
  simp [Reader.hexEscape, ha, hb, hc, hd, Cursor.next]

theorem hex_escape {a b c d : Char} (hex : ∀ x ∈ [a, b, c, d], isHexDigit x = true) :
    ∃ n, ∀ rest, Reads Reader.hexEscape (a :: b :: c :: d :: rest) n rest := by
  obtain ⟨i, ha⟩ := hex_value (hex a (by simp))
  obtain ⟨j, hb⟩ := hex_value (hex b (by simp))
  obtain ⟨k, hc⟩ := hex_value (hex c (by simp))
  obtain ⟨l, hd⟩ := hex_value (hex d (by simp))
  exact ⟨i * 4096 + j * 256 + k * 16 + l, hex_number (by simp [hexNumber?, ha, hb, hc, hd])⟩

theorem simple_escape {c : Char} (known : c ∈ ['"', '\\', '/', 'b', 'f', 'n', 'r', 't']) :
    ∃ d, Reader.simpleEscape? c = some d := by
  simp only [List.mem_cons, List.not_mem_nil, or_false] at known
  rcases known with rfl | rfl | rfl | rfl | rfl | rfl | rfl | rfl <;> exact ⟨_, rfl⟩

/-- Behind an escaped leading surrogate another escape by number must stand. -/
theorem unpaired {more : List Char} (tail : TextTail more)
    (alone : ∀ v, more ≠ '\\' :: 'u' :: v) (rest : List Char) (k : Unit → Reader α) :
    Fails (Reader.escapePart '\\' >>= fun _ => Reader.escapePart 'u' >>= k) (more ++ rest) := by
  cases tail with
  | close => exact .bind_first (.bind (Reads.peek _) (Fails.ahead _ _))
  | @plain c v quote backslash visible tail =>
    refine .bind_first (.bind (Reads.peek _) ?_)
    simp only [List.cons_append, List.head?_cons, if_neg backslash]
    exact Fails.ahead _ _
  | @escape c v known tail =>
    have other : c ≠ 'u' := fun same => alone v (by rw [same])
    have first : Reads (Reader.escapePart '\\') ('\\' :: c :: (v ++ rest)) () (c :: (v ++ rest)) :=
      (Reads.peek _).bind (Reads.skip _ _)
    refine .bind first (.bind_first (.bind (Reads.peek _) ?_))
    simp only [List.head?_cons, if_neg other]
    exact Fails.ahead _ _
  | unicode hex tail => exact absurd rfl (alone _)

/-- Behind a leading surrogate another escape by number is read; it should be a trailing one. -/
theorem surrogate_pair {a b c d e f g h : Char} {m l : Nat}
    (first : ∀ rest, Reads Reader.hexEscape (a :: b :: c :: d :: rest) m rest)
    (second : ∀ rest, Reads Reader.hexEscape (e :: f :: g :: h :: rest) l rest)
    (trailing : ¬ (0xDC00 ≤ m ∧ m ≤ 0xDFFF)) (single : ¬ (m < 0xD800 ∨ 0xDBFF < m))
    (rest : List Char) :
    Yields Reader.unicodeEscape (a :: b :: c :: d :: '\\' :: 'u' :: e :: f :: g :: h :: rest)
      (if l < 0xDC00 ∨ 0xDFFF < l then none
        else some (Char.ofNat ((m - 0xD800) * 1024 + (l - 0xDC00) + 0x10000))) rest := by
  refine .after (first _) ?_
  rw [if_neg trailing, if_neg single]
  refine .after ((Reads.peek _).bind (Reads.skip _ _)) ?_
  refine .after ((Reads.peek _).bind (Reads.skip _ _)) (.after (second rest) ?_)
  split
  · exact Fails.here _ _
  · exact Reads.pure _ _

theorem unicode_escape {a b c d : Char} {more : List Char}
    (hex : ∀ x ∈ [a, b, c, d], isHexDigit x = true) (tail : TextTail more) :
    (∀ rest, Fails Reader.unicodeEscape (a :: b :: c :: d :: (more ++ rest))) ∨
    ∃ e later, TextTail later ∧ later.length ≤ more.length ∧ ∀ rest,
      Reads Reader.unicodeEscape (a :: b :: c :: d :: (more ++ rest)) e (later ++ rest) := by
  obtain ⟨m, number⟩ := hex_escape hex
  by_cases trailing : 0xDC00 ≤ m ∧ m ≤ 0xDFFF
  · refine .inl fun rest => .bind (number _) ?_
    rw [if_pos trailing]
    exact Fails.here _ _
  by_cases single : m < 0xD800 ∨ 0xDBFF < m
  · refine .inr ⟨Char.ofNat m, more, tail, Nat.le_refl _, fun rest => (number _).bind ?_⟩
    rw [if_neg trailing, if_pos single]
    exact Reads.pure _ _
  by_cases paired : ∃ v, more = '\\' :: 'u' :: v
  · obtain ⟨v, rfl⟩ := paired
    cases tail with
    | plain quote backslash visible tail => exact absurd rfl backslash
    | escape known tail => simp at known
    | @unicode e f g h later digits tail =>
      obtain ⟨l, second⟩ := hex_escape digits
      have pair (rest : List Char) := surrogate_pair number second trailing single (later ++ rest)
      by_cases lone : l < 0xDC00 ∨ 0xDFFF < l
      · simp only [if_pos lone] at pair
        exact .inl pair
      · simp only [if_neg lone] at pair
        refine .inr ⟨_, later, tail, ?_, pair⟩
        simp only [List.length_cons]
        omega
  · refine .inl fun rest => .bind (number _) ?_
    rw [if_neg trailing, if_neg single]
    exact unpaired tail (fun v same => paired ⟨v, same⟩) rest _

theorem escape_yields {v : List Char} (tail : TextTail ('\\' :: v)) :
    (∀ rest, Fails Reader.escape (v ++ rest)) ∨
    ∃ e later, TextTail later ∧ later.length < v.length ∧
      ∀ rest, Reads Reader.escape (v ++ rest) e (later ++ rest) := by
  cases tail with
  | plain quote backslash visible tail => exact absurd rfl backslash
  | @escape c more known tail =>
    obtain ⟨d, simple⟩ := simple_escape known
    exact .inr ⟨d, more, tail, Nat.lt_succ_self _, fun rest => Reads.simpleEscape simple _⟩
  | @unicode a b c d more hex tail =>
    rcases unicode_escape hex tail with fails | ⟨e, later, tail, shorter, reads⟩
    · exact .inl fun rest => .bind (Reads.peek _) (.bind (Reads.skip _ _) (fails rest))
    · refine .inr ⟨e, later, tail, ?_, fun rest =>
        (Reads.peek _).bind ((Reads.skip _ _).bind (reads rest))⟩
      simp only [List.length_cons]
      omega

theorem TextTail.split {v : List Char} (tail : TextTail v) : v = ['"'] ∨
    (∃ c more, v = c :: more ∧ c ≠ '"' ∧ c ≠ '\\' ∧ 0x20 ≤ c.toNat ∧ TextTail more) ∨
    ∃ w, v = '\\' :: w := by
  cases tail with
  | close => exact .inl rfl
  | plain quote backslash visible tail =>
    exact .inr (.inl ⟨_, _, rfl, quote, backslash, visible, tail⟩)
  | escape known tail => exact .inr (.inr ⟨_, rfl⟩)
  | unicode hex tail => exact .inr (.inr ⟨_, rfl⟩)

theorem TextTail.some (tail : TextTail u) : 1 ≤ u.length := by
  rcases tail.split with rfl | ⟨c, more, rfl, _⟩ | ⟨v, rfl⟩
  · exact Nat.le_refl 1
  · exact Nat.le_add_left 1 _
  · exact Nat.le_add_left 1 _

theorem text_tail_yields {n : Nat} (tail : TextTail u) (read : List Char) (within : u.length ≤ n) :
    ∃ o, ∀ fuel rest, u.length ≤ fuel →
      Yields (Reader.textTail read fuel) (u ++ rest) o rest := by
  -- Two escaped surrogates are one character, so the induction is on the length.
  induction n generalizing u read with
  | zero =>
    have some := tail.some
    omega
  | succ n ih =>
    rcases tail.split with rfl | ⟨c, more, rfl, quote, backslash, visible, later⟩ | ⟨v, rfl⟩
    · refine ⟨some (String.ofList read.reverse), fun fuel rest enough => ?_⟩
      obtain ⟨fuel, rfl⟩ := Nat.exists_eq_add_one.mpr enough
      exact (Reads.peek _).bind ((Reads.skip _ _).bind (Reads.pure _ _))
    · obtain ⟨o, read_later⟩ := ih later (c :: read) (Nat.le_of_succ_le_succ within)
      refine ⟨o, fun fuel rest enough => ?_⟩
      obtain ⟨fuel, rfl⟩ := Nat.exists_eq_add_one.mpr (Nat.zero_lt_of_lt enough)
      refine .after (Reads.peek _) ?_
      simp only [List.cons_append, List.head?_cons, if_neg (Nat.not_lt.mpr visible)]
      exact .after (Reads.skip _ _) (read_later fuel rest (Nat.le_of_succ_le_succ enough))
    · rcases escape_yields tail with fails | ⟨e, later, tail, shorter, reads⟩
      · refine ⟨none, fun fuel rest enough => ?_⟩
        obtain ⟨fuel, rfl⟩ := Nat.exists_eq_add_one.mpr (Nat.zero_lt_of_lt enough)
        exact Fails.bind (Reads.peek _) (.bind (Reads.skip _ _) (.bind_first (fails rest)))
      · rw [List.length_cons] at within
        obtain ⟨o, read_later⟩ := ih tail (e :: read) (by omega)
        refine ⟨o, fun fuel rest enough => ?_⟩
        rw [List.length_cons] at enough
        obtain ⟨fuel, rfl⟩ := Nat.exists_eq_add_one.mpr (Nat.zero_lt_of_lt enough)
        exact .after (Reads.peek _) (.after (Reads.skip _ _)
          (.after (reads rest) (read_later fuel rest (by omega))))

theorem Spelled.tail_reads {cs : List Char} (h : Spelled u cs) (read : List Char) {fuel : Nat}
    (enough : u.length ≤ fuel) :
    Reads (Reader.textTail read fuel) (u ++ rest) (String.ofList (read.reverse ++ cs)) rest := by
  induction h generalizing read fuel with
  | close =>
    obtain ⟨fuel, rfl⟩ := Nat.exists_eq_add_one.mpr enough
    rw [List.append_nil]
    exact (Reads.peek _).bind ((Reads.skip _ _).bind (Reads.pure _ _))
  | @plain c more cs quote backslash visible tail ih =>
    rw [List.length_cons] at enough
    obtain ⟨fuel, rfl⟩ := Nat.exists_eq_add_one.mpr (Nat.zero_lt_of_lt enough)
    have within : more.length ≤ fuel := by omega
    have later := ih (c :: read) within
    rw [List.reverse_cons, List.append_assoc, List.singleton_append] at later
    exact Reads.text_plain quote backslash (Nat.not_lt.mpr visible) later
  | @escape c d more cs known tail ih =>
    simp only [List.length_cons] at enough
    obtain ⟨fuel, rfl⟩ := Nat.exists_eq_add_one.mpr (Nat.zero_lt_of_lt enough)
    have within : more.length ≤ fuel := by omega
    have later := ih (d :: read) within
    rw [List.reverse_cons, List.append_assoc, List.singleton_append] at later
    exact Reads.text_escape (Reads.simpleEscape known _) later
  | @unicode a b c d more cs n hex single tail ih =>
    simp only [List.length_cons] at enough
    obtain ⟨fuel, rfl⟩ := Nat.exists_eq_add_one.mpr (Nat.zero_lt_of_lt enough)
    have within : more.length ≤ fuel := by omega
    have later := ih (Char.ofNat n :: read) within
    rw [List.reverse_cons, List.append_assoc, List.singleton_append] at later
    have lone : ¬ (0xDC00 ≤ n ∧ n ≤ 0xDFFF) := by omega
    have apart : n < 0xD800 ∨ 0xDBFF < n := by omega
    refine Reads.text_escape ((Reads.peek _).bind ((Reads.skip _ _).bind ?_)) later
    refine (hex_number hex _).bind ?_
    rw [if_neg lone, if_pos apart]
    exact Reads.pure _ _
  | @pair a b c d e f g h more cs m n leading high trailing low tail ih =>
    simp only [List.length_cons] at enough
    obtain ⟨fuel, rfl⟩ := Nat.exists_eq_add_one.mpr (Nat.zero_lt_of_lt enough)
    have within : more.length ≤ fuel := by omega
    have later := ih (Char.ofNat ((m - 0xD800) * 1024 + (n - 0xDC00) + 0x10000) :: read) within
    rw [List.reverse_cons, List.append_assoc, List.singleton_append] at later
    have pair := surrogate_pair (hex_number leading) (hex_number trailing) (by omega) (by omega)
      (more ++ rest)
    rw [if_neg (by omega)] at pair
    exact Reads.text_escape ((Reads.peek _).bind ((Reads.skip _ _).bind pair)) later

theorem Spelled.reads {s : String} (h : Spelled u s.toList) (rest : List Char) :
    Reads Reader.text (u ++ rest) s rest := by
  have enough : u.length ≤ (u ++ rest).length + 1 := by
    rw [List.length_append]
    omega
  have read : Reads (Reader.textTail [] _) (u ++ rest) _ rest := h.tail_reads [] enough
  rw [List.reverse_nil, List.nil_append, String.ofList_toList] at read
  exact (Reads.remaining _).bind read

/-- What a string is read as depends on its own characters alone. -/
theorem text_yields (tail : TextTail u) : ∃ o, ∀ rest, Yields Reader.text (u ++ rest) o rest := by
  obtain ⟨o, read⟩ := text_tail_yields tail [] (Nat.le_refl _)
  refine ⟨o, fun rest => .after (Reads.remaining _) (read _ rest ?_)⟩
  rw [List.length_append]
  omega

end Texts

end MarkupLint.Json
