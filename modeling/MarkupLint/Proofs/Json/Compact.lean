import MarkupLint.Proofs.Json.Containers

/-! What is written compactly is a JSON value, and its strings stand for themselves. -/
namespace MarkupLint.Json

theorem escaped_spelled (c : Char) {more cs : List Char} (tail : Spelled more cs) :
    Spelled (escapeChar c ++ more) (c :: cs) := by
  unfold escapeChar
  split
  · exact .escape rfl tail
  · exact .escape rfl tail
  · exact .escape rfl tail
  · exact .escape rfl tail
  · exact .escape rfl tail
  · exact .escape rfl tail
  · exact .escape rfl tail
  · rename_i quote backslash _ _ _ _ _
    split
    · rename_i control
      have high := Reads.hexValue_hexDigit (c.toNat / 16) (by omega)
      have low := Reads.hexValue_hexDigit (c.toNat % 16) (by omega)
      have whole : c.toNat / 16 * 16 + c.toNat % 16 = c.toNat := by omega
      have number : hexNumber? '0' '0' (hexDigit (c.toNat / 16)) (hexDigit (c.toNat % 16)) =
          some c.toNat := by
        have zero : Reader.hexValue? '0' = some 0 := rfl
        simp [hexNumber?, zero, high, low, whole]
      have spelled := Spelled.unicode number (by omega) tail
      rwa [Char.ofNat_toNat] at spelled
    · rename_i visible
      exact .plain quote backslash (Nat.not_lt.mp visible) tail

def quotedTail (s : String) : List Char := s.toList.flatMap escapeChar ++ ['"']

theorem textChars_eq (s : String) : textChars s = '"' :: quotedTail s := rfl

theorem quoted_spelled (s : String) : Spelled (quotedTail s) s.toList := by
  unfold quotedTail
  induction s.toList with
  | nil => exact .close
  | cons c cs ih =>
    rw [List.flatMap_cons, List.append_assoc]
    exact escaped_spelled c ih

theorem hex_digit {c : Char} {n : Nat} (value : Reader.hexValue? c = some n) :
    isHexDigit c = true := by
  unfold Reader.hexValue? at value
  split at value
  · simp [isHexDigit, *]
  · split at value
    · simp [isHexDigit, *]
    · split at value
      · simp [isHexDigit, *]
      · cases value

theorem hex_digits {a b c d : Char} {n : Nat} (number : hexNumber? a b c d = some n) :
    ∀ x ∈ [a, b, c, d], isHexDigit x = true := by
  simp only [hexNumber?, Option.bind_eq_bind, Option.bind_eq_some_iff] at number
  obtain ⟨i, ha, j, hb, k, hc, l, hd, _⟩ := number
  simp [hex_digit ha, hex_digit hb, hex_digit hc, hex_digit hd]

theorem Spelled.textTail {u cs : List Char} (h : Spelled u cs) : TextTail u := by
  induction h with
  | close => exact .close
  | plain quote backslash visible tail ih => exact .plain quote backslash visible ih
  | @escape c d more cs known tail ih =>
    refine .escape ?_ ih
    unfold Reader.simpleEscape? at known
    split at known <;> first | decide | cases known
  | unicode hex single tail ih => exact .unicode (hex_digits hex) ih
  | pair leading high trailing low tail ih =>
    exact .unicode (hex_digits leading) (.unicode (hex_digits trailing) ih)

theorem text_written (s : String) : Written (textChars s) :=
  .text (quoted_spelled s).textTail

theorem digits_magnitude (n : Nat) : Magnitude (Nat.toDigits 10 n) := by
  obtain ⟨c, run, shape, zero⟩ := Reads.toDigits_head n
  have all : DigitRun (Nat.toDigits 10 n) :=
    ⟨fun d hd => Nat.isDigit_of_mem_toDigits (by decide) (by decide) hd, by simp [shape]⟩
  have whole : WholePart (Nat.toDigits 10 n) := by
    by_cases none : n = 0
    · subst none
      exact .zero
    · rw [shape] at all ⊢
      exact .digits all fun same => none (zero.mp same)
  simpa using Magnitude.mk whole .none .none

theorem integer_written (n : Int) : Written (Json.Number.integer n).text.toList := by
  cases n with
  | ofNat n =>
    rw [Reads.natural_text]
    exact .number (.positive (digits_magnitude n))
  | negSucc n =>
    rw [Reads.negative_text]
    exact .number (.negative (digits_magnitude (n + 1)))

def Slot.tight (v : List Char) : Slot := ⟨[], v, []⟩

def Member.tight (m : String × List Char) : Member := ⟨[], quotedTail m.1, [], .tight m.2⟩

@[simp] theorem Slot.tight_chars (v : List Char) : (Slot.tight v).chars = v := by
  simp [Slot.tight, Slot.chars]

theorem Member.tight_chars (m : String × List Char) :
    (Member.tight m).chars = textChars m.1 ++ ':' :: m.2 := by
  simp [Member.tight, Member.chars, textChars_eq]

theorem Slot.tight_holds {v : List Char} (written : Written v) : (Slot.tight v).Holds :=
  ⟨⟨.nil, .nil⟩, written⟩

theorem Member.tight_holds {m : String × List Char} (written : Written m.2) :
    (Member.tight m).Holds :=
  ⟨⟨.nil, (quoted_spelled m.1).textTail, .nil, ⟨.nil, .nil⟩⟩, written⟩

theorem array_tight (items : List Json) :
    chars (.array items) = '[' :: arrayTail [] (items.map fun v => .tight v.chars) := by
  rw [chars, itemChars_eq, arrayTail, listed_map]
  simp

theorem object_tight (members : List (String × Json)) : chars (.object members) =
    '{' :: objectTail [] (members.map fun m => .tight (m.1, m.2.chars)) := by
  rw [chars, memberChars_eq, objectTail, listed_map]
  simp only [Member.tight_chars, List.nil_append]
  rfl

/-- A value whose numbers are integers is written as JSON. -/
theorem chars_written {v : Json} (integral : v.isIntegral = true) : Written v.chars := by
  induction v using induct with
  | null => exact .null
  | boolean b =>
    cases b with
    | true => exact .yes
    | false => exact .no
  | number n =>
    cases n with
    | integer n => exact integer_written n
    | real x => cases integral
  | text s => exact text_written s
  | array items ih =>
    rw [isIntegral_array] at integral
    rw [array_tight]
    have holds : ∀ s ∈ items.map (fun v => Slot.tight v.chars), s.Holds := by
      intro s hs
      obtain ⟨v, hv, rfl⟩ := List.mem_map.mp hs
      exact Slot.tight_holds (ih v hv (integral v hv))
    exact .array .nil (fun s hs => (holds s hs).padded) fun s hs => (holds s hs).written
  | object members ih =>
    rw [isIntegral_object] at integral
    rw [object_tight]
    have holds : ∀ k ∈ members.map (fun m => Member.tight (m.1, m.2.chars)), k.Holds := by
      intro k hk
      obtain ⟨m, hm, rfl⟩ := List.mem_map.mp hk
      exact Member.tight_holds (ih m hm (integral m hm))
    exact .object .nil (fun m hm => (holds m hm).formed) fun m hm => (holds m hm).written

end MarkupLint.Json
