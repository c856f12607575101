import Mathlib.Data.List.Basic
import Mathlib.Data.List.Flatten
import Mathlib.Order.Bounds.Basic
import MarkupLint.Diagnostic
import MarkupLint.Proofs.Text.Encoding

/-! The range of a diagnostic against the UTF-16 code units of the text: it covers the line of its
finding, up to what ends the line. -/
namespace MarkupLint

namespace Text

def charUnits (c : Char) : List UInt16 :=
  if c.toNat < 0x10000 then [UInt16.ofNat c.toNat]
  else
    [UInt16.ofNat (0xD800 + (c.toNat - 0x10000) / 0x400),
     UInt16.ofNat (0xDC00 + (c.toNat - 0x10000) % 0x400)]

def codeUnits (cs : List Char) : List UInt16 := cs.flatMap charUnits

def lineFeed : UInt16 := 0x0A

def carriageReturn : UInt16 := 0x0D

def behindFeeds : Nat → List UInt16 → List UInt16
  | 0, us => us
  | n + 1, us => behindFeeds n (us.dropWhile (· != lineFeed)).tail

/-- A line ends before this: before a line feed, with or without a carriage return in front of it,
and at the end of the text, with or without one. -/
def EndsLine (us : List UInt16) : Prop :=
  us = [] ∨ us = [carriageReturn] ∨ us.head? = some lineFeed ∨
    [carriageReturn, lineFeed] <+: us

theorem ofNat_eq_iff {n : Nat} (small : n < 0x10000) (u : UInt16) :
    UInt16.ofNat n = u ↔ n = u.toNat := by
  rw [← UInt16.toNat_inj, UInt16.toNat_ofNat']
  rw [Nat.mod_eq_of_lt small]

theorem char_eq_iff (c d : Char) : c = d ↔ c.toNat = d.toNat :=
  ⟨congrArg _, fun h => Char.ext (UInt32.toNat_inj.mp h)⟩

theorem mem_charUnits {c d : Char} (low : d.toNat < 0xD800) :
    UInt16.ofNat d.toNat ∈ charUnits c ↔ c = d := by
  have value : (UInt16.ofNat d.toNat).toNat = d.toNat := by
    rw [UInt16.toNat_ofNat']
    omega
  have valid := toNat_ranges c
  rw [char_eq_iff]
  unfold charUnits
  split
  · rename_i small
    rw [List.mem_singleton, eq_comm, ofNat_eq_iff small, value]
  · rename_i large
    rw [List.mem_cons, List.mem_singleton, eq_comm, ofNat_eq_iff (by omega), value,
      eq_comm (a := UInt16.ofNat _), ofNat_eq_iff (by omega), value]
    omega

theorem charUnits_ne_nil (c : Char) : charUnits c ≠ [] := by
  unfold charUnits
  split <;> simp

theorem codeUnits_append (cs ds : List Char) :
    codeUnits (cs ++ ds) = codeUnits cs ++ codeUnits ds := List.flatMap_append

theorem codeUnits_cons (c : Char) (cs : List Char) :
    codeUnits (c :: cs) = charUnits c ++ codeUnits cs := rfl

theorem lineFeed_mem {cs : List Char} : lineFeed ∈ codeUnits cs ↔ '\n' ∈ cs := by
  have own : ∀ c, lineFeed ∈ charUnits c ↔ c = '\n' := fun c =>
    mem_charUnits (c := c) (d := '\n') (by decide)
  rw [codeUnits, List.mem_flatMap]
  constructor
  · rintro ⟨c, there, unit⟩
    rwa [(own c).mp unit] at there
  · intro there
    exact ⟨'\n', there, (own '\n').mpr rfl⟩

theorem utf16Length_toNat {cs : List Char} (fits : (codeUnits cs).length < UInt32.size) :
    (utf16Length cs).toNat = (codeUnits cs).length := by
  induction cs with
  | nil => rfl
  | cons c cs ih =>
    have width : (if c.toNat < 0x10000 then 1 else 2 : UInt32).toNat = (charUnits c).length := by
      unfold charUnits
      split <;> rfl
    rw [codeUnits_cons, List.length_append] at fits ⊢
    have rest := ih (by omega)
    change ((if c.toNat < 0x10000 then 1 else 2) + utf16Length cs).toNat = _
    rw [UInt32.toNat_add, width, rest]
    exact Nat.mod_eq_of_lt fits

end Text

open Text

section Lines

theorem lines_of_not_mem {text : List Char} (none : '\n' ∉ text) : lines text = [text] := by
  induction text with
  | nil => rfl
  | cons c text ih =>
    obtain ⟨apart, later⟩ := List.ne_and_not_mem_of_not_mem_cons none
    rw [lines, if_neg (Ne.symm apart), ih later]

theorem lines_append {line : List Char} (none : '\n' ∉ line) (text : List Char) :
    lines (line ++ '\n' :: text) = line :: lines text := by
  induction line with
  | nil => rfl
  | cons c line ih =>
    obtain ⟨apart, later⟩ := List.ne_and_not_mem_of_not_mem_cons none
    rw [List.cons_append, lines, if_neg (Ne.symm apart), ih later]

theorem lines_length (text : List Char) : (lines text).length = text.count '\n' + 1 := by
  induction text with
  | nil => rfl
  | cons c text ih =>
    unfold lines
    split
    · rename_i feed
      rw [List.length_cons, ih, feed, List.count_cons_self]
    · rename_i other
      rw [List.count_cons_of_ne other]
      cases whole : lines text with
      | nil => simp [whole] at ih
      | cons line others => simpa [whole] using ih

/-- In code units, a line stands behind the line feeds before it, up to the next one or the end. -/
theorem line_at {text : List Char} {i : Nat} (inside : i ≤ text.count '\n') :
    ∃ line after, (lines text)[i]? = some line ∧ '\n' ∉ line ∧
      behindFeeds i (codeUnits text) = codeUnits line ++ after ∧
      (after = [] ∨ after.head? = some lineFeed) := by
  induction i generalizing text with
  | zero =>
    by_cases feed : '\n' ∈ text
    · obtain ⟨line, rest, rfl, first⟩ := List.eq_append_cons_of_mem feed
      refine ⟨line, codeUnits ('\n' :: rest), ?_, first, codeUnits_append _ _, .inr rfl⟩
      rw [lines_append first, List.getElem?_cons_zero]
    · refine ⟨text, [], ?_, feed, (List.append_nil _).symm, .inl rfl⟩
      rw [lines_of_not_mem feed, List.getElem?_cons_zero]
  | succ i ih =>
    have feed : '\n' ∈ text := List.count_pos_iff.mp (by omega)
    obtain ⟨line, rest, rfl, first⟩ := List.eq_append_cons_of_mem feed
    have count : (line ++ '\n' :: rest).count '\n' = rest.count '\n' + 1 := by
      rw [List.count_append, List.count_eq_zero.mpr first, List.count_cons_self]
      omega
    have fewer : i ≤ rest.count '\n' := by omega
    obtain ⟨next, after, at_i, none, units, ended⟩ := ih fewer
    refine ⟨next, after, ?_, none, ?_, ended⟩
    · rw [lines_append first, List.getElem?_cons_succ, at_i]
    · -- All units of the first line are dropped, and the line feed behind them.
      have skipped : ∀ u ∈ codeUnits line, (u != lineFeed) = true := by
        intro u hu
        rw [bne_iff_ne]
        rintro rfl
        exact first (lineFeed_mem.mp hu)
      rw [behindFeeds, codeUnits_append, List.dropWhile_append_of_pos skipped, ← units]
      rfl

end Lines

section Width

/-- The columns where a line may end, counted in code units. -/
def lineEnds (us : List UInt16) : Set Nat :=
  {w | w ≤ us.length ∧ lineFeed ∉ us.take w ∧ EndsLine (us.drop w)}

/-- Before the end of a run without line feeds no line ends, unless the run ends in a carriage
return and the line with it. -/
theorem ends_inside {u : UInt16} {us rest : List UInt16} (none : lineFeed ∉ u :: us)
    (ends : EndsLine (u :: us ++ rest)) :
    us = [] ∧ u = carriageReturn ∧ (rest = [] ∨ rest.head? = some lineFeed) := by
  obtain ⟨apart, later⟩ := List.ne_and_not_mem_of_not_mem_cons none
  rcases ends with nothing | last | feed | both
  · cases nothing
  · obtain ⟨rfl, empty⟩ := List.cons.inj last
    obtain ⟨rfl, rfl⟩ := List.append_eq_nil_iff.mp empty
    exact ⟨rfl, rfl, .inl rfl⟩
  · exact absurd (Option.some.inj feed).symm apart
  · obtain ⟨rfl, next⟩ := List.cons_prefix_cons.mp both
    cases us with
    | nil =>
      obtain ⟨more, rfl⟩ := next
      exact ⟨rfl, rfl, .inr rfl⟩
    | cons v us =>
      obtain ⟨rfl, _⟩ := List.cons_prefix_cons.mp next
      exact absurd List.mem_cons_self later

theorem last_carriageReturn {cs : List Char} {us : List UInt16}
    (last : codeUnits cs = us ++ [carriageReturn]) : cs.getLast? = some '\r' := by
  rcases List.eq_nil_or_concat cs with rfl | ⟨init, c, rfl⟩
  · simp [codeUnits] at last
  · have units := congrArg List.getLast? last
    rw [List.concat_eq_append, codeUnits_append, codeUnits_cons, List.getLast?_append_of_ne_nil _
      (by simp [charUnits_ne_nil]), List.getLast?_concat] at units
    have there : carriageReturn ∈ charUnits c := by
      simpa [codeUnits] using List.mem_of_getLast? units
    have same : c = '\r' := (mem_charUnits (d := '\r') (by decide)).mp there
    rw [same, List.concat_eq_append, List.getLast?_concat]

/-- What stands before the end of a line is as wide as the first column where the line may end,
unless it hides a carriage return that belongs to the end. -/
theorem isLeast_lineEnds {content : List Char} {rest : List UInt16} (none : '\n' ∉ content)
    (ended : EndsLine rest)
    (whole : rest.head? = some carriageReturn ∨ content.getLast? ≠ some '\r') :
    IsLeast (lineEnds (codeUnits content ++ rest)) (codeUnits content).length := by
  have unfed : lineFeed ∉ codeUnits content := fun feed => none (lineFeed_mem.mp feed)
  constructor
  · refine ⟨?_, ?_, ?_⟩
    · rw [List.length_append]
      omega
    · rwa [List.take_left]
    · rwa [List.drop_left]
  · rintro w ⟨_, _, ends⟩
    by_contra less
    have inside : w < (codeUnits content).length := by omega
    rw [List.drop_append_of_le_length (by omega), List.drop_eq_getElem_cons inside] at ends
    have later : lineFeed ∉ (codeUnits content)[w] :: (codeUnits content).drop (w + 1) := by
      rw [← List.drop_eq_getElem_cons inside]
      exact fun feed => unfed (List.mem_of_mem_drop feed)
    obtain ⟨last, unit, behind⟩ := ends_inside later ends
    rcases whole with cr | apart
    · rcases behind with rfl | feed
      · cases cr
      · rw [cr] at feed
        exact absurd feed (by decide)
    · have split : codeUnits content = (codeUnits content).take w ++ [carriageReturn] := by
        rw [← unit, ← last, ← List.drop_eq_getElem_cons inside, List.take_append_drop]
      exact apart (last_carriageReturn split)

theorem lineContent_cases (line : List Char) :
    (lineContent line = line ∧ line.getLast? ≠ some '\r') ∨ line = lineContent line ++ ['\r'] := by
  unfold lineContent
  split
  · rename_i last
    exact .inr (List.dropLast_append_getLast? '\r' last).symm
  · rename_i other
    exact .inl ⟨rfl, other⟩

theorem lineContent_sublist (line : List Char) : (lineContent line).Sublist line := by
  unfold lineContent
  split
  · exact List.dropLast_sublist line
  · exact List.Sublist.refl line

/-- The content of a line reaches to the first column where it may end. -/
theorem lineContent_width {line : List Char} {after : List UInt16} (none : '\n' ∉ line)
    (ended : after = [] ∨ after.head? = some lineFeed) :
    IsLeast (lineEnds (codeUnits line ++ after)) (codeUnits (lineContent line)).length := by
  have unfed : '\n' ∉ lineContent line := fun feed => none ((lineContent_sublist line).subset feed)
  rcases lineContent_cases line with ⟨same, other⟩ | cr
  · rw [same]
    refine isLeast_lineEnds none ?_ (.inr other)
    exact ended.imp id fun feed => .inr (.inl feed)
  · have units : codeUnits line ++ after =
        codeUnits (lineContent line) ++ carriageReturn :: after := by
      conv_lhs => rw [cr, codeUnits_append, List.append_assoc]
      rfl
    rw [units]
    refine isLeast_lineEnds unfed ?_ (.inl rfl)
    rcases ended with rfl | feed
    · exact .inr (.inl rfl)
    · obtain ⟨more, rfl⟩ := List.head?_eq_some_iff.mp feed
      exact .inr (.inr (.inr ⟨more, rfl⟩))

end Width

/-- The range of a finding lies on an existing line, its own one or the last, and reaches from the
start of the line to the first column where it may end. Nothing is lost in 32 bits. -/
theorem finding_range {text : List Char} (f : Finding)
    (fits : ∀ line ∈ lines text, (codeUnits line).length < UInt32.size) :
    let i := min (max f.line.toNat 1 - 1) (text.count '\n')
    let range := (Diagnostic.ofFinding (lines text) f).range
    i < (lines text).length ∧ range.start.line.toNat = i ∧ range.start.character = 0 ∧
      range.stop.line.toNat = i ∧
      IsLeast (lineEnds (behindFeeds i (codeUnits text))) range.stop.character.toNat := by
  intro i range
  have count := lines_length text
  have index : min (f.line.toNat - 1) ((lines text).length - 1) = i := by
    simp only [i]
    omega
  have reached : i ≤ text.count '\n' := by omega
  obtain ⟨line, after, at_i, none, units, ended⟩ := line_at reached
  have inside : (codeUnits (lineContent line)).length < UInt32.size := by
    have less : (codeUnits (lineContent line)).length ≤ (codeUnits line).length :=
      ((lineContent_sublist line).flatMap charUnits).length_le
    have whole := fits line (List.mem_of_getElem? at_i)
    omega
  have shape : range = ⟨⟨.ofNat i, 0⟩, ⟨.ofNat i, utf16Length (lineContent line)⟩⟩ := by
    simp only [range, Diagnostic.ofFinding, Range.ofLine, index, at_i, Option.getD_some]
  have small : i < UInt32.size := by
    have := f.line.toNat_lt_size
    omega
  have number : (UInt32.ofNat i).toNat = i := by
    rw [UInt32.toNat_ofNat']
    exact Nat.mod_eq_of_lt small
  rw [shape, units]
  refine ⟨by omega, number, rfl, number, ?_⟩
  rw [utf16Length_toNat inside]
  exact lineContent_width none ended

def twoLines : List Char := ['<', 'p', '>', '\r', '\n', 'a', '😀', '\r']

theorem past_last_line :
    (∀ line ∈ lines twoLines, (codeUnits line).length < UInt32.size) ∧
    (Diagnostic.ofFinding (lines twoLines) ⟨"tag-close", .warn, "", 0xFFFFFFFF, 1⟩).range =
      ⟨⟨1, 0⟩, ⟨1, 3⟩⟩ ∧
    IsLeast (lineEnds (behindFeeds 1 (codeUnits twoLines))) 3 := by
  have fits : ∀ line ∈ lines twoLines, (codeUnits line).length < UInt32.size := by decide
  have range := finding_range ⟨"tag-close", .warn, "", 0xFFFFFFFF, 1⟩ fits
  exact ⟨fits, by decide, range.2.2.2.2⟩

end MarkupLint
