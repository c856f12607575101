import MarkupLint.Json.Printer
import MarkupLint.Json.Reader

/-! Readers that succeed: what they read at the front of a text, and what they leave of it. Places
do not matter for that. -/
namespace MarkupLint.Json

/-- At the front of `input`, wherever that is, the reader reads `a`, and it leaves `rest`. -/
def Reads (r : Reader α) (input : List Char) (a : α) (rest : List Char) : Prop :=
  ∀ place, ∃ after, r ⟨place, input⟩ = (.ok a, ⟨after, rest⟩)

def Bare (input : List Char) : Prop := ∀ c ∈ input.head?, Reader.isBlank c = false

/-- A number that was read ends here. -/
def Stops (rest : List Char) : Prop :=
  ∀ c ∈ rest.head?, c.isDigit = false ∧ c ≠ '.' ∧ Reader.isExponentLetter c = false

theorem length_le_flatMap {α β : Type} {f : α → List β} {as : List α}
    (some : ∀ a ∈ as, 1 ≤ (f a).length) : as.length ≤ (as.flatMap f).length := by
  induction as with
  | nil => exact Nat.le_refl 0
  | cons a as ih =>
    have first := some a (.head _)
    have later := ih fun b hb => some b (.tail _ hb)
    rw [List.flatMap_cons, List.length_append, List.length_cons]
    omega

namespace Reads

variable {α β : Type} {input mid rest : List Char} {a : α} {b : β}

theorem pure (a : α) (input : List Char) : Reads (Pure.pure a) input a input :=
  fun place => ⟨place, rfl⟩

theorem bind {r : Reader α} {f : α → Reader β} (h : Reads r input a mid)
    (k : Reads (f a) mid b rest) : Reads (r >>= f) input b rest := by
  intro place
  obtain ⟨between, first⟩ := h place
  obtain ⟨after, second⟩ := k between
  refine ⟨after, ?_⟩
  simp only [Bind.bind, ExceptT.bind, ExceptT.mk, StateT.bind, first]
  exact second

theorem attempt {r : Reader α} (h : Reads r input a rest) :
    Reads (Reader.attempt r) input (.ok a) rest := by
  intro place
  obtain ⟨after, run⟩ := h place
  exact ⟨after, by simp only [Reader.attempt, run]⟩

theorem placed {r : Reader α} (h : Reads r input a rest) :
    Reads (Reader.placed r) input a rest := by
  intro place
  obtain ⟨after, run⟩ := h place
  exact ⟨after, by simp only [Reader.placed, run]⟩

theorem skip (c : Char) (rest : List Char) : Reads Reader.skip (c :: rest) () rest :=
  fun place => ⟨place.after c, rfl⟩

theorem peek (input : List Char) : Reads Reader.peek input input.head? input :=
  fun place => ⟨place, rfl⟩

theorem remaining (input : List Char) : Reads Reader.remaining input input.length input :=
  fun place => ⟨place, rfl⟩

theorem peekToken (bare : Bare input) : Reads Reader.peekToken input input.head? input := by
  intro place
  cases input with
  | nil => exact ⟨place, rfl⟩
  | cons c rest =>
    have first : Reader.isBlank c = false := bare c rfl
    exact ⟨place, by simp [Reader.peekToken, Reader.Cursor.dropBlanks, first]⟩

theorem run {r : Reader α} (h : Reads r input a []) : Reader.run r input = .ok a := by
  obtain ⟨_, read⟩ := h ⟨1, 0⟩
  simp only [Reader.run, Cursor.start, Bind.bind, ExceptT.bind, ExceptT.mk, StateT.bind,
    read]
  rfl

theorem word (letters rest : List Char) :
    Reads (Reader.word letters) (letters ++ rest) () rest := by
  induction letters with
  | nil => exact pure () rest
  | cons c letters ih =>
    refine (peek _).bind ?_
    simpa using (skip c _).bind ih

theorem simpleEscape {c d : Char} (known : Reader.simpleEscape? d = some c) (rest : List Char) :
    Reads Reader.escape (d :: rest) c rest := by
  unfold Reader.simpleEscape? at known
  split at known <;> cases known <;> exact (peek _).bind ((skip _ _).bind (pure _ _))

theorem hexValue_hexDigit : ∀ n < 16, Reader.hexValue? (hexDigit n) = some n := by
  decide

theorem controlEscape {c : Char} (control : c.toNat < 0x20) (rest : List Char) :
    Reads Reader.escape
      ('u' :: '0' :: '0' :: hexDigit (c.toNat / 16) :: hexDigit (c.toNat % 16) :: rest) c rest := by
  have zero : Reader.hexValue? '0' = some 0 := rfl
  have high := hexValue_hexDigit (c.toNat / 16) (by omega)
  have low := hexValue_hexDigit (c.toNat % 16) (by omega)
  have whole : c.toNat / 16 * 16 + c.toNat % 16 = c.toNat := by omega
  have number : Reads Reader.hexEscape
      ('0' :: '0' :: hexDigit (c.toNat / 16) :: hexDigit (c.toNat % 16) :: rest) c.toNat rest := by
    intro place
    refine ⟨(((place.after '0').after '0').after (hexDigit (c.toNat / 16))).after
      (hexDigit (c.toNat % 16)), ?_⟩
    simp [Reader.hexEscape, zero, high, low, whole, Cursor.next]
  refine (peek _).bind ((skip _ _).bind (number.bind ?_))
  have single : ¬ (0xDC00 ≤ c.toNat ∧ c.toNat ≤ 0xDFFF) := by omega
  have apart : c.toNat < 0xD800 ∨ 0xDBFF < c.toNat := by omega
  rw [if_neg single, if_pos apart, Char.ofNat_toNat]
  exact pure c rest

section Text

variable {read : List Char} {fuel : Nat} {s : String}

theorem text_escape {c : Char} (escaped : Reads Reader.escape input c mid)
    (later : Reads (Reader.textTail (c :: read) fuel) mid s rest) :
    Reads (Reader.textTail read (fuel + 1)) ('\\' :: input) s rest :=
  (peek _).bind ((skip _ _).bind (escaped.bind later))

theorem text_plain {c : Char} (quote : c ≠ '"') (backslash : c ≠ '\\') (plain : ¬ c.toNat < 0x20)
    (later : Reads (Reader.textTail (c :: read) fuel) mid s rest) :
    Reads (Reader.textTail read (fuel + 1)) (c :: mid) s rest := by
  refine (peek _).bind ?_
  simp only [List.head?_cons, if_neg plain]
  exact (skip c mid).bind later

theorem text_char {c : Char} (later : Reads (Reader.textTail (c :: read) fuel) mid s rest) :
    Reads (Reader.textTail read (fuel + 1)) (escapeChar c ++ mid) s rest := by
  unfold escapeChar
  split
  · exact text_escape (simpleEscape rfl mid) later
  · exact text_escape (simpleEscape rfl mid) later
  · exact text_escape (simpleEscape rfl mid) later
  · exact text_escape (simpleEscape rfl mid) later
  · exact text_escape (simpleEscape rfl mid) later
  · exact text_escape (simpleEscape rfl mid) later
  · exact text_escape (simpleEscape rfl mid) later
  · rename_i quote backslash _ _ _ _ _
    split
    · rename_i control
      exact text_escape (controlEscape control mid) later
    · rename_i plain
      exact text_plain quote backslash plain later

theorem text_tail (read cs : List Char) (enough : cs.length < fuel) :
    Reads (Reader.textTail read fuel) (cs.flatMap escapeChar ++ '"' :: rest)
      (String.ofList (read.reverse ++ cs)) rest := by
  induction cs generalizing read fuel with
  | nil =>
    cases fuel with
    | zero => cases enough
    | succ fuel =>
      rw [List.append_nil]
      exact (peek _).bind ((skip _ _).bind (pure (String.ofList read.reverse) rest))
  | cons c cs ih =>
    cases fuel with
    | zero => cases enough
    | succ fuel =>
      have later := ih (c :: read) (Nat.lt_of_succ_lt_succ enough)
      rw [List.reverse_cons, List.append_assoc, List.singleton_append] at later
      rw [List.flatMap_cons, List.append_assoc]
      exact text_char later

theorem escaped_length (c : Char) : 1 ≤ (escapeChar c).length := by
  unfold escapeChar
  split <;> first | simp | (split <;> simp)

theorem textChars_append (s : String) (rest : List Char) :
    textChars s ++ rest = '"' :: (s.toList.flatMap escapeChar ++ '"' :: rest) := by
  simp [textChars]

theorem text (s : String) (rest : List Char) :
    Reads Reader.text (s.toList.flatMap escapeChar ++ '"' :: rest) s rest := by
  have enough : s.toList.length <
      (s.toList.flatMap escapeChar ++ '"' :: rest).length + 1 := by
    have : s.toList.length ≤ _ := length_le_flatMap fun c _ => escaped_length c
    rw [List.length_append]
    omega
  have tail : Reads (Reader.textTail [] _) _ _ rest := text_tail [] s.toList enough
  rw [List.reverse_nil, List.nil_append, String.ofList_toList] at tail
  exact (remaining _).bind tail

end Text

section Number

variable {negative : Bool} {n : Nat} {x : Json.Number}

theorem digits {run : List Char} (all : ∀ c ∈ run, c.isDigit = true)
    (ended : ∀ c ∈ rest.head?, c.isDigit = false) :
    Reads Reader.digits (run ++ rest) (run.map digitValue) rest := by
  have stop : rest.takeWhile Char.isDigit = [] ∧ rest.dropWhile Char.isDigit = rest := by
    cases rest with
    | nil => exact ⟨rfl, rfl⟩
    | cons c rest =>
      have first : c.isDigit = false := ended c rfl
      simp [first]
  intro place
  refine ⟨run.foldl Place.after place, ?_⟩
  simp [Reader.digits, List.takeWhile_append_of_pos all, List.dropWhile_append_of_pos all, stop]

theorem digitValue_digitChar (small : n < 10) : digitValue n.digitChar = n :=
  Nat.toNat_digitChar_sub_48_of_lt_ten small

theorem foldl_whole (fits : n ≤ greatestSignificand) :
    ((Nat.toDigits 10 n).map digitValue).foldl Digits.whole ⟨0, 0, false⟩ = ⟨n, 0, false⟩ := by
  -- The digits of `n / 10` come first, and neither they nor the last digit overflow.
  induction n using Nat.strongRecOn with
  | ind n ih =>
    by_cases small : n < 10
    · have below : ¬ greatestSignificand < n := by omega
      rw [Nat.toDigits_of_lt_base small]
      simp [Digits.whole, digitValue_digitChar small, below]
    · have large : 10 ≤ n := by omega
      have before := ih (n / 10) (by omega) (by omega)
      have last : n % 10 < 10 := Nat.mod_lt n (by decide)
      have whole : n / 10 * 10 + n % 10 = n := by omega
      have below : ¬ greatestSignificand < n := by omega
      rw [Nat.toDigits_of_base_le (by decide) large, List.map_append, List.foldl_append, before]
      simp [Digits.whole, digitValue_digitChar last, whole, below]

theorem toDigits_head (n : Nat) :
    ∃ c run, Nat.toDigits 10 n = c :: run ∧ (c = '0' ↔ n = 0) := by
  induction n using Nat.strongRecOn with
  | ind n ih =>
    by_cases small : n < 10
    · exact ⟨_, [], Nat.toDigits_of_lt_base small, Nat.digitChar_eq_zero⟩
    · have large : 10 ≤ n := by omega
      obtain ⟨c, run, before, zero⟩ := ih (n / 10) (by omega)
      refine ⟨c, run ++ [(n % 10).digitChar], ?_, ?_⟩
      · rw [Nat.toDigits_of_base_le (by decide) large, before, List.cons_append]
      · rw [zero]
        omega

theorem toDigits_first (n : Nat) :
    ∃ c run, Nat.toDigits 10 n = c :: run ∧ c.isDigit = true := by
  obtain ⟨c, run, shape, _⟩ := toDigits_head n
  have there : c ∈ Nat.toDigits 10 n := by simp [shape]
  exact ⟨c, run, shape, Nat.isDigit_of_mem_toDigits (by decide) (by decide) there⟩

theorem natural_text (n : Nat) :
    (Json.Number.integer (.ofNat n)).text.toList = Nat.toDigits 10 n := Nat.toList_repr

theorem negative_text (n : Nat) :
    (Json.Number.integer (.negSucc n)).text.toList = '-' :: Nat.toDigits 10 (n + 1) := by
  show ("-" ++ (n + 1).repr).toList = _
  simp [String.toList_append, Nat.toList_repr]

theorem number_tail {d : Digits} (made : numberOfDigits negative d = some x)
    (stops : Stops rest) : Reads (Reader.numberTail negative d) rest x rest := by
  refine (peek _).bind ?_
  cases rest with
  | nil =>
    simp only [List.head?_nil, made]
    exact pure x []
  | cons c rest =>
    obtain ⟨_, point, letter⟩ := stops c rfl
    simp only [List.head?_cons, letter, made]
    exact pure x (c :: rest)

theorem unsigned (negative : Bool) (fits : n ≤ greatestSignificand)
    (made : numberOfDigits negative ⟨n, 0, false⟩ = some x) (stops : Stops rest) :
    Reads (Reader.unsignedNumber negative) (Nat.toDigits 10 n ++ rest) x rest := by
  have tail : Reads (Reader.numberTail negative ⟨n, 0, false⟩) rest x rest :=
    number_tail made stops
  by_cases zero : n = 0
  · subst zero
    rw [Nat.toDigits_zero]
    refine (peek _).bind ((skip '0' rest).bind ((peek rest).bind ?_))
    cases rest with
    | nil => exact tail
    | cons c rest =>
      have first : c.isDigit = false := (stops c rfl).1
      simpa [first] using tail
  · obtain ⟨c, run, shape, first⟩ := toDigits_head n
    have all : ∀ d ∈ Nat.toDigits 10 n, d.isDigit = true := fun d hd =>
      Nat.isDigit_of_mem_toDigits (by decide) (by decide) hd
    have digit : c.isDigit = true := all c (by simp [shape])
    have apart : c ≠ '0' := fun same => zero (first.mp same)
    have read := (digits all fun c hc => (stops c hc).1).bind (f := fun ds =>
      Reader.numberTail negative (ds.foldl Digits.whole ⟨0, 0, false⟩)) (by rwa [foldl_whole fits])
    rw [shape] at read ⊢
    refine (peek _).bind ?_
    simp only [List.cons_append, List.head?_cons, digit]
    exact read

theorem natural (fits : n ≤ greatestSignificand) (stops : Stops rest) :
    Reads Reader.number (Nat.toDigits 10 n ++ rest) (.integer n) rest := by
  have read := unsigned false fits rfl stops
  obtain ⟨c, run, shape, digit⟩ := toDigits_first n
  have apart : c ≠ '-' := by
    rintro rfl
    cases digit
  rw [shape] at read ⊢
  refine (peek _).bind ?_
  simp only [List.cons_append, List.head?_cons]
  split
  · simp_all
  · exact read

theorem below_zero (positive : 0 < n) (fits : n ≤ 0x8000000000000000) (stops : Stops rest) :
    Reads Reader.number ('-' :: Nat.toDigits 10 n ++ rest) (.integer (-(n : Int))) rest := by
  have range : ¬ (n = 0 ∨ 0x8000000000000000 < n) := by omega
  have made : numberOfDigits true ⟨n, 0, false⟩ = some (.integer (-(n : Int))) := by
    simp only [numberOfDigits, if_neg range]
    rfl
  have small : n ≤ greatestSignificand := by
    unfold greatestSignificand
    omega
  exact (peek _).bind ((skip _ _).bind (unsigned true small made stops))

/-- An integer of 64 bits, signed or not, is read back from its digits. -/
theorem integer {n : Int} (least : Number.leastInteger ≤ n) (greatest : n ≤ Number.greatestInteger)
    (stops : Stops rest) :
    Reads Reader.number ((Json.Number.integer n).text.toList ++ rest) (.integer n) rest := by
  unfold Number.leastInteger at least
  unfold Number.greatestInteger at greatest
  cases n with
  | ofNat n =>
    have fits : n ≤ greatestSignificand := by
      rw [Int.ofNat_eq_natCast] at greatest
      unfold greatestSignificand
      omega
    rw [natural_text]
    exact natural fits stops
  | negSucc n =>
    rw [negative_text]
    exact below_zero (Nat.succ_pos n) (by omega) stops

theorem integer_head (n : Int) : ∃ c run, (Json.Number.integer n).text.toList = c :: run ∧
    (c = '-' || c.isDigit) = true := by
  cases n with
  | ofNat n =>
    obtain ⟨c, run, shape, digit⟩ := toDigits_first n
    exact ⟨c, run, (natural_text n).trans shape, by simp [digit]⟩
  | negSucc n => exact ⟨'-', Nat.toDigits 10 (n + 1), negative_text n, rfl⟩

end Number

end Reads

end MarkupLint.Json
