import MarkupLint.Proofs.Json.ReadBack

/-! Which texts are JSON values, whatever a reader makes of them. -/
namespace MarkupLint.Json

def Blanks (cs : List Char) : Prop := ∀ c ∈ cs, Reader.isBlank c = true

def isHexDigit (c : Char) : Bool := c.isDigit || ('a' ≤ c && c ≤ 'f') || ('A' ≤ c && c ≤ 'F')

/-- A string behind its opening quote. Escaped surrogates need no partner. -/
inductive TextTail : List Char → Prop where
  | close : TextTail ['"']
  | plain {c : Char} {more : List Char} (quote : c ≠ '"') (backslash : c ≠ '\\')
      (visible : 0x20 ≤ c.toNat) (tail : TextTail more) : TextTail (c :: more)
  | escape {c : Char} {more : List Char} (known : c ∈ ['"', '\\', '/', 'b', 'f', 'n', 'r', 't'])
      (tail : TextTail more) : TextTail ('\\' :: c :: more)
  | unicode {a b c d : Char} {more : List Char} (hex : ∀ x ∈ [a, b, c, d], isHexDigit x = true)
      (tail : TextTail more) : TextTail ('\\' :: 'u' :: a :: b :: c :: d :: more)

def hexNumber? (a b c d : Char) : Option Nat := do
  return (← Reader.hexValue? a) * 4096 + (← Reader.hexValue? b) * 256 +
    (← Reader.hexValue? c) * 16 + (← Reader.hexValue? d)

/-- The characters that a string stands for. A surrogate alone stands for none. -/
inductive Spelled : List Char → List Char → Prop where
  | close : Spelled ['"'] []
  | plain {c : Char} {more cs : List Char} (quote : c ≠ '"') (backslash : c ≠ '\\')
      (visible : 0x20 ≤ c.toNat) (tail : Spelled more cs) : Spelled (c :: more) (c :: cs)
  | escape {c d : Char} {more cs : List Char} (known : Reader.simpleEscape? c = some d)
      (tail : Spelled more cs) : Spelled ('\\' :: c :: more) (d :: cs)
  | unicode {a b c d : Char} {more cs : List Char} {n : Nat} (hex : hexNumber? a b c d = some n)
      (single : n < 0xD800 ∨ 0xDFFF < n) (tail : Spelled more cs) :
      Spelled ('\\' :: 'u' :: a :: b :: c :: d :: more) (Char.ofNat n :: cs)
  | pair {a b c d e f g h : Char} {more cs : List Char} {m n : Nat}
      (leading : hexNumber? a b c d = some m) (high : 0xD800 ≤ m ∧ m ≤ 0xDBFF)
      (trailing : hexNumber? e f g h = some n) (low : 0xDC00 ≤ n ∧ n ≤ 0xDFFF)
      (tail : Spelled more cs) :
      Spelled ('\\' :: 'u' :: a :: b :: c :: d :: '\\' :: 'u' :: e :: f :: g :: h :: more)
        (Char.ofNat ((m - 0xD800) * 1024 + (n - 0xDC00) + 0x10000) :: cs)

structure DigitRun (run : List Char) : Prop where
  digits : ∀ c ∈ run, c.isDigit = true
  some : run ≠ []

inductive WholePart : List Char → Prop where
  | zero : WholePart ['0']
  | digits {c : Char} {run : List Char} (all : DigitRun (c :: run)) (apart : c ≠ '0') :
      WholePart (c :: run)

inductive FractionPart : List Char → Prop where
  | none : FractionPart []
  | digits {run : List Char} (all : DigitRun run) : FractionPart ('.' :: run)

inductive ExponentPart : List Char → Prop where
  | none : ExponentPart []
  | digits {letter : Char} {sign run : List Char}
      (lettered : Reader.isExponentLetter letter = true) (signed : sign ∈ [[], ['+'], ['-']])
      (all : DigitRun run) : ExponentPart (letter :: (sign ++ run))

inductive Magnitude : List Char → Prop where
  | mk {whole fraction exponent : List Char} (wholly : WholePart whole)
      (fractional : FractionPart fraction) (scaled : ExponentPart exponent) :
      Magnitude (whole ++ (fraction ++ exponent))

inductive Numeral : List Char → Prop where
  | positive {u : List Char} (size : Magnitude u) : Numeral u
  | negative {u : List Char} (size : Magnitude u) : Numeral ('-' :: u)

structure Slot where
  before : List Char
  value : List Char
  behind : List Char

structure Member where
  before : List Char
  key : List Char
  between : List Char
  slot : Slot

def Slot.chars (s : Slot) : List Char := s.before ++ (s.value ++ s.behind)

def Member.chars (m : Member) : List Char :=
  m.before ++ '"' :: (m.key ++ (m.between ++ ':' :: m.slot.chars))

structure Slot.Padded (s : Slot) : Prop where
  before : Blanks s.before
  behind : Blanks s.behind

structure Member.Formed (m : Member) : Prop where
  before : Blanks m.before
  key : TextTail m.key
  between : Blanks m.between
  slot : m.slot.Padded

def arrayTail (inside : List Char) (items : List Slot) : List Char :=
  inside ++ (listed Slot.chars items ++ [']'])

def objectTail (inside : List Char) (members : List Member) : List Char :=
  inside ++ (listed Member.chars members ++ ['}'])

/-- A JSON value, without blanks around it. -/
inductive Written : List Char → Prop where
  | null : Written ['n', 'u', 'l', 'l']
  | yes : Written ['t', 'r', 'u', 'e']
  | no : Written ['f', 'a', 'l', 's', 'e']
  | number {u : List Char} (size : Numeral u) : Written u
  | text {u : List Char} (tail : TextTail u) : Written ('"' :: u)
  | array {inside : List Char} {items : List Slot} (blank : Blanks inside)
      (padded : ∀ s ∈ items, s.Padded) (each : ∀ s ∈ items, Written s.value) :
      Written ('[' :: arrayTail inside items)
  | object {inside : List Char} {members : List Member} (blank : Blanks inside)
      (formed : ∀ m ∈ members, m.Formed) (each : ∀ m ∈ members, Written m.slot.value) :
      Written ('{' :: objectTail inside members)

structure Slot.Holds (s : Slot) : Prop where
  padded : s.Padded
  written : Written s.value

structure Member.Holds (m : Member) : Prop where
  formed : m.Formed
  written : Written m.slot.value

def Slot.put (s : Slot) (v : List Char) : Slot := { s with value := v }

def Member.put (m : Member) (v : List Char) : Member := { m with slot := m.slot.put v }

theorem Slot.Holds.put {s : Slot} {v : List Char} (h : s.Holds) (written : Written v) :
    (s.put v).Holds :=
  ⟨⟨h.padded.before, h.padded.behind⟩, written⟩

theorem Member.Holds.put {m : Member} {v : List Char} (h : m.Holds) (written : Written v) :
    (m.put v).Holds :=
  ⟨⟨h.formed.before, h.formed.key, h.formed.between,
    ⟨h.formed.slot.before, h.formed.slot.behind⟩⟩, written⟩

def IsDocument (x : List Char) : Prop := ∃ s : Slot, s.Holds ∧ s.chars = x

def Follows (rest : List Char) : Prop :=
  ∃ blank c tail, Blanks blank ∧ c ∈ [',', ']', '}'] ∧ rest = blank ++ c :: tail

theorem Blanks.nil : Blanks [] := fun _ h => nomatch h

theorem Blanks.append {a b : List Char} (ha : Blanks a) (hb : Blanks b) : Blanks (a ++ b) := by
  intro c hc
  rcases List.mem_append.mp hc with h | h
  · exact ha c h
  · exact hb c h

theorem Follows.stops {rest : List Char} (h : Follows rest) : Stops rest := by
  obtain ⟨blank, c, tail, blanks, closing, rfl⟩ := h
  cases blank with
  | nil =>
    simp only [List.mem_cons, List.not_mem_nil, or_false] at closing
    rcases closing with rfl | rfl | rfl <;> exact Reads.stops_cons rfl (by decide) rfl tail
  | cons d blank =>
    have first : Reader.isBlank d = true := blanks d (.head _)
    simp only [Reader.isBlank, Bool.or_eq_true, decide_eq_true_eq] at first
    rcases first with ((rfl | rfl) | rfl) | rfl <;>
      exact Reads.stops_cons rfl (by decide) rfl _

theorem Follows.pad {blank rest : List Char} (blanks : Blanks blank) (h : Follows rest) :
    Follows (blank ++ rest) := by
  obtain ⟨more, c, tail, rest_blank, closing, rfl⟩ := h
  exact ⟨blank ++ more, c, tail, blanks.append rest_blank, closing, by simp⟩

def upcoming {α : Type} (write : α → List Char) (first : Bool) : List α → List Char
  | [] => []
  | a :: rest => Reads.comma first ++ (write a ++ upcoming write false rest)

section Upcoming

variable {α : Type} (write : α → List Char)

theorem upcoming_later (as : List α) :
    upcoming write false as = as.flatMap fun a => ',' :: write a := by
  induction as with
  | nil => rfl
  | cons a as ih => simp [upcoming, Reads.comma, ih]

theorem listed_upcoming (as : List α) : listed write as = upcoming write true as := by
  cases as with
  | nil => rfl
  | cons a as => simp [listed, upcoming, Reads.comma, upcoming_later]

theorem follows_upcoming (as : List α) {close : Char} (closing : close ∈ [']', '}'])
    (rest : List Char) : Follows (upcoming write false as ++ close :: rest) := by
  cases as with
  | nil => exact ⟨[], close, rest, .nil, .tail _ closing, rfl⟩
  | cons a as => exact ⟨[], ',', _, .nil, .head _, rfl⟩

theorem length_le_upcoming (first : Bool) {as : List α} (some : ∀ a ∈ as, 1 ≤ (write a).length) :
    as.length ≤ (upcoming write first as).length := by
  induction as generalizing first with
  | nil => exact Nat.le_refl 0
  | cons a as ih =>
    have here := some a (.head _)
    have later := ih false fun b hb => some b (.tail _ hb)
    simp only [upcoming, List.length_append, List.length_cons]
    omega

end Upcoming

theorem arrayTail_append (inside : List Char) (items : List Slot) (rest : List Char) :
    arrayTail inside items ++ rest = inside ++ (upcoming Slot.chars true items ++ ']' :: rest) := by
  simp [arrayTail, listed_upcoming]

theorem objectTail_append (inside : List Char) (members : List Member) (rest : List Char) :
    objectTail inside members ++ rest =
      inside ++ (upcoming Member.chars true members ++ '}' :: rest) := by
  simp [objectTail, listed_upcoming]

section Opening

variable {u v : List Char}

theorem WholePart.opening (h : WholePart u) : ∃ c run, u = c :: run ∧ c.isDigit = true := by
  cases h with
  | zero => exact ⟨'0', [], rfl, rfl⟩
  | digits all apart => exact ⟨_, _, rfl, all.digits _ (.head _)⟩

theorem Magnitude.opening (h : Magnitude u) : ∃ c run, u = c :: run ∧ c.isDigit = true := by
  obtain ⟨wholly, fractional, scaled⟩ := h
  obtain ⟨c, run, rfl, digit⟩ := wholly.opening
  exact ⟨c, _, rfl, digit⟩

theorem Numeral.opening (h : Numeral u) :
    ∃ c run, u = c :: run ∧ (c = '-' || c.isDigit) = true := by
  cases h with
  | positive size =>
    obtain ⟨c, run, rfl, digit⟩ := size.opening
    exact ⟨c, run, rfl, by simp [digit]⟩
  | negative size => exact ⟨'-', _, rfl, rfl⟩

theorem numeric_ne {c d : Char} (numeric : (c = '-' || c.isDigit) = true)
    (other : (d = '-' || d.isDigit) = false) : c ≠ d := by
  rintro rfl
  rw [numeric] at other
  cases other

theorem numeric_bare {c : Char} (numeric : (c = '-' || c.isDigit) = true) :
    Reader.isBlank c = false := by
  have apart {d : Char} := numeric_ne (d := d) numeric
  simp [Reader.isBlank, apart (d := ' ') rfl, apart (d := '\n') rfl, apart (d := '\t') rfl,
    apart (d := '\r') rfl]

structure Opened (c : Char) (tail : List Char) : Prop where
  bare : Reader.isBlank c = false
  inside : c ∉ [',', ']', '}']
  null : c = 'n' → tail = ['u', 'l', 'l']
  number : (c = '-' || c.isDigit) = true → Numeral (c :: tail)
  text : c = '"' → TextTail tail
  array : c = '[' → ∃ inside items, Blanks inside ∧ (∀ s ∈ items, s.Holds) ∧
    tail = arrayTail inside items
  object : c = '{' → ∃ inside members, Blanks inside ∧ (∀ m ∈ members, m.Holds) ∧
    tail = objectTail inside members

theorem Written.opened (h : Written v) : ∃ c tail, v = c :: tail ∧ Opened c tail := by
  cases h with
  | null =>
    refine ⟨'n', _, rfl, rfl, by decide, fun _ => rfl, ?_, ?_, ?_, ?_⟩ <;> intro h <;> simp at h
  | yes =>
    refine ⟨'t', _, rfl, rfl, by decide, ?_, ?_, ?_, ?_, ?_⟩ <;> intro h <;> simp at h
  | no =>
    refine ⟨'f', _, rfl, rfl, by decide, ?_, ?_, ?_, ?_, ?_⟩ <;> intro h <;> simp at h
  | number size =>
    obtain ⟨c, run, rfl, numeric⟩ := size.opening
    have apart {d : Char} := numeric_ne (d := d) numeric
    refine ⟨c, run, rfl, numeric_bare numeric, ?_, fun h => absurd h (apart rfl), fun _ => size,
      fun h => absurd h (apart rfl), fun h => absurd h (apart rfl), fun h => absurd h (apart rfl)⟩
    simp [apart (d := ',') rfl, apart (d := ']') rfl, apart (d := '}') rfl]
  | text tail =>
    refine ⟨'"', _, rfl, rfl, by decide, ?_, ?_, fun _ => tail, ?_, ?_⟩ <;> intro h <;> simp at h
  | array blank padded each =>
    have holds := fun s hs => Slot.Holds.mk (padded s hs) (each s hs)
    refine ⟨'[', _, rfl, rfl, by decide, ?_, ?_, ?_, fun _ => ⟨_, _, blank, holds, rfl⟩, ?_⟩ <;>
      intro h <;> simp at h
  | object blank formed each =>
    have holds := fun m hm => Member.Holds.mk (formed m hm) (each m hm)
    refine ⟨'{', _, rfl, rfl, by decide, ?_, ?_, ?_, ?_, fun _ => ⟨_, _, blank, holds, rfl⟩⟩ <;>
      intro h <;> simp at h

theorem Written.some (h : Written v) : 1 ≤ v.length := by
  obtain ⟨c, tail, rfl, _⟩ := h.opened
  exact Nat.le_add_left 1 _

end Opening

end MarkupLint.Json
