import Mathlib.Data.List.TakeWhile
import MarkupLint.Proofs.Glob.Rests
import MarkupLint.Proofs.Text.Encoding

/-! One file in two spellings: a relative path, and the same path below a directory. A pattern that
asks for a name says the same of both. One with a recursive start matches the longer path where it
matches the shorter one. One that starts with a slash matches only absolute paths, and one that
starts with another character only relative ones. -/
namespace MarkupLint

open Text (charBytes bytesOf)

variable {d e s t : List UInt8}

theorem Path.join_below {root p : Path} (rooted : root.isAbsolute = true)
    (relative : p.isAbsolute = false) : ∃ d, (root.join p).bytes = d ++ slash :: p.bytes := by
  obtain ⟨bytes⟩ := root
  rcases List.eq_nil_or_concat bytes with rfl | ⟨d, b, rfl⟩
  · simp [isAbsolute] at rooted
  · by_cases last : b = slash
    · exact ⟨d, by simp [join, relative, last]⟩
    · exact ⟨d ++ [b], by simp [join, relative, last]⟩

theorem Path.join_absolute {root p : Path} (rooted : root.isAbsolute = true)
    (relative : p.isAbsolute = false) : (root.join p).bytes.head? = some slash := by
  have first : root.bytes.head? = some slash := of_decide_eq_true rooted
  obtain ⟨b, rest, bytes⟩ : ∃ b rest, root.bytes = b :: rest := by
    apply List.exists_cons_of_ne_nil
    intro none
    simp [none] at first
  rw [join, if_neg (by simp [relative])]
  split
  · rename_i none
    simp [bytes] at none
  · split
    · rw [List.head?_append, first]
      rfl
    · rw [List.head?_append, first]
      rfl

namespace Text

theorem charBytes_ne_nil (c : Char) : charBytes c ≠ [] := by
  unfold charBytes
  grind

theorem slash_not_mem_charBytes {c : Char} (other : c ≠ '/') : Path.slash ∉ charBytes c :=
  byte_not_mem_charBytes (a := '/') (by decide) other

theorem slash_not_mem_bytesOf {cs : List Char} (others : ∀ c ∈ cs, c ≠ '/') :
    Path.slash ∉ bytesOf cs := byte_not_mem_bytesOf (a := '/') (by decide) others

end Text

namespace Glob

theorem not_slash_of_free (free : Path.slash ∉ e) :
    ∀ b ∈ e.reverse, decide (b ≠ Path.slash) = true := by
  intro b hb
  rw [decide_eq_true_eq]
  rintro rfl
  exact free (List.mem_reverse.mp hb)

theorem lastPart_of_free (free : Path.slash ∉ e) : lastPart e = e := by
  rw [lastPart, List.takeWhile_eq_self_iff.mpr (not_slash_of_free free), List.reverse_reverse]

theorem lastPart_behind (free : Path.slash ∉ e) : lastPart (d ++ Path.slash :: e) = e := by
  rw [lastPart, List.reverse_append, List.reverse_cons, List.append_assoc,
    List.takeWhile_append_of_pos (not_slash_of_free free)]
  simp

theorem last_slash (s : List UInt8) :
    Path.slash ∉ s ∨ ∃ d e, Path.slash ∉ e ∧ s = d ++ Path.slash :: e := by
  by_cases slash : Path.slash ∈ s
  · obtain ⟨e, d, cut, free⟩ := List.eq_append_cons_of_mem (List.mem_reverse.mpr slash)
    refine .inr ⟨d.reverse, e.reverse, by simpa using free, ?_⟩
    rw [← List.reverse_reverse s, cut]
    simp
  · exact .inl slash

theorem lastPart_below (d s : List UInt8) : lastPart (d ++ Path.slash :: s) = lastPart s := by
  rcases last_slash s with free | ⟨d', e, free, rfl⟩
  · rw [lastPart_behind free, lastPart_of_free free]
  · have longer : d ++ Path.slash :: (d' ++ Path.slash :: e) =
        (d ++ Path.slash :: d') ++ Path.slash :: e := by simp
    rw [longer, lastPart_behind free, lastPart_behind free]

theorem lastPart_eq_iff (free : Path.slash ∉ e) :
    lastPart s = e ↔ e = s ∨ Path.slash :: e <:+ s := by
  constructor
  · rintro rfl
    rcases last_slash s with whole | ⟨d, e, behind, rfl⟩
    · exact .inl (lastPart_of_free whole)
    · rw [lastPart_behind behind]
      exact .inr (List.suffix_append d _)
  · rintro (rfl | ⟨d, rfl⟩)
    · exact lastPart_of_free free
    · exact lastPart_behind free

theorem suffix_lastPart_iff (free : Path.slash ∉ e) : e <:+ lastPart s ↔ e <:+ s := by
  rcases last_slash s with whole | ⟨d, last, behind, rfl⟩
  · rw [lastPart_of_free whole]
  · rw [lastPart_behind behind]
    have longer : last <:+ d ++ Path.slash :: last := ⟨d ++ [Path.slash], by simp⟩
    refine ⟨fun short => short.trans longer, fun short => ?_⟩
    have cut : Path.slash :: last <:+ d ++ Path.slash :: last := List.suffix_append d _
    rcases List.suffix_or_suffix_of_suffix short cut with inside | outside
    · rcases List.suffix_cons_iff.mp inside with rfl | inside
      · exact absurd List.mem_cons_self free
      · exact inside
    · exact absurd (outside.subset List.mem_cons_self) free

def byName (g : Glob) : Bool := g.isName || g.isExtension

def startsAnywhere (g : Glob) : Bool :=
  match g.tokens with
  | .leading :: _ => true
  | _ => false

def startsAbsolute (g : Glob) : Bool :=
  match g.tokens with
  | .literal '/' :: _ => true
  | _ => false

def startsRelative (g : Glob) : Bool :=
  match g.tokens with
  | t :: _ => t.isPlainLiteral
  | [] => false

theorem mem_leading : t ∈ Token.leading.rests s ↔ t = s ∨ Path.slash :: t <:+ s := by
  rw [Token.rests, List.mem_cons, mem_behindSlashes]

theorem fits_iff {g : Glob} (more : g.tokens ≠ [.leading]) :
    fits g s = true ↔ [] ∈ restsOfAll g.tokens [s] := by
  rw [fits]
  split
  · contradiction
  · simp [List.any_eq_true]

theorem literals_of_plain {ts : List Token} (plain : ts.all Token.isPlainLiteral = true) :
    ∃ cs : List Char, ts = cs.map .literal ∧ ∀ c ∈ cs, c ≠ '/' := by
  induction ts with
  | nil => exact ⟨[], rfl, by simp⟩
  | cons t ts ih =>
    rw [List.all_cons, Bool.and_eq_true] at plain
    obtain ⟨cs, rfl, others⟩ := ih plain.2
    cases t with
    | literal c =>
      have other : c ≠ '/' := by simpa [Token.isPlainLiteral] using plain.1
      exact ⟨c :: cs, rfl, by simpa [other] using others⟩
    | _ => simp [Token.isPlainLiteral] at plain

theorem fits_name {g : Glob} (name : g.isName = true) :
    ∃ e, ∀ s, fits g s = true ↔ lastPart s = e := by
  obtain ⟨tokens⟩ := g
  unfold isName at name
  split at name
  · rename_i t ts cut
    obtain ⟨cs, literals, others⟩ := literals_of_plain
      (show (t :: ts).all Token.isPlainLiteral = true by simpa using name)
    have tokens_eq : tokens = .leading :: cs.map .literal := by rw [← literals]; exact cut
    refine ⟨bytesOf cs, fun s => ?_⟩
    rw [lastPart_eq_iff (Text.slash_not_mem_bytesOf others), ← mem_leading]
    rw [fits_iff (by simp [tokens_eq, ← literals]), tokens_eq, mem_restsOfAll_cons]
    simp only [mem_restsOfAll_literals, List.append_nil]
    exact exists_eq_right
  · simp at name

theorem isPlainLiteral_of_extension {t : Token} (h : t.isExtensionLiteral = true) :
    t.isPlainLiteral = true := by
  cases t with
  | literal c => simp_all [Token.isExtensionLiteral, Token.isPlainLiteral]
  | _ => simp [Token.isExtensionLiteral] at h

/-- Such a pattern is a run and characters, with or without a recursive start. -/
theorem tokens_of_isExtension {g : Glob} (extension : g.isExtension = true) :
    ∃ cs : List Char, (∀ c ∈ cs, c ≠ '/') ∧
      (g.tokens = .anyRun :: cs.map .literal ∨
        g.tokens = .leading :: .anyRun :: cs.map .literal) := by
  have plain : ∀ ts : List Token, ts.all Token.isExtensionLiteral = true →
      ∃ cs : List Char, (∀ c ∈ '.' :: cs, c ≠ '/') ∧ ts = cs.map .literal := by
    intro ts all
    obtain ⟨cs, literals, others⟩ := literals_of_plain
      (List.all_eq_true.mpr fun t ht => isPlainLiteral_of_extension (List.all_eq_true.mp all t ht))
    exact ⟨cs, by simpa using others, literals⟩
  simp only [isExtension] at extension
  split at extension
  · rename_i cut
    split at extension
    · obtain ⟨cs, others, rfl⟩ := plain _ extension
      exact ⟨'.' :: cs, others, .inr cut⟩
    · simp at extension
  · split at extension
    · rename_i cut
      obtain ⟨cs, others, rfl⟩ := plain _ extension
      exact ⟨'.' :: cs, others, .inl cut⟩
    · simp at extension

theorem fits_extension {g : Glob} (extension : g.isExtension = true) :
    ∃ e, ∀ s, fits g s = true ↔ e <:+ lastPart s := by
  obtain ⟨cs, others, tokens⟩ := tokens_of_isExtension extension
  refine ⟨bytesOf cs, fun s => ?_⟩
  have run : ∀ s, [] ∈ restsOfAll (.anyRun :: cs.map .literal) [s] ↔ bytesOf cs <:+ s := by
    intro s
    rw [mem_restsOfAll_cons]
    simp only [Token.rests, mem_suffixes, mem_restsOfAll_literals, List.append_nil]
    exact exists_eq_right
  rw [suffix_lastPart_iff (Text.slash_not_mem_bytesOf others)]
  rcases tokens with tokens | tokens
  · rw [fits_iff (by simp [tokens]), tokens, run]
  · rw [fits_iff (by simp [tokens]), tokens, mem_restsOfAll_cons]
    simp only [run]
    constructor
    · rintro ⟨q, left, short⟩
      exact short.trans (Token.leading.rests_suffix left)
    · intro short
      exact ⟨s, mem_leading.mpr (.inl rfl), short⟩

/-- Two paths with one last part are the same to a pattern that asks for a name. -/
theorem isMatch_byName {g : Glob} (named : g.byName = true) {p q : Path}
    (same : lastPart p.bytes = lastPart q.bytes) : g.isMatch p = g.isMatch q := by
  have fit : fits g p.bytes = fits g q.bytes := by
    rw [Bool.eq_iff_iff]
    rcases Bool.or_eq_true _ _ |>.mp named with name | extension
    · obtain ⟨e, fits⟩ := fits_name name
      rw [fits, fits, same]
    · obtain ⟨e, fits⟩ := fits_extension extension
      rw [fits, fits, same]
  rw [isMatch, isMatch, fit, hasName, hasName, same]

theorem leading_below (h : t ∈ Token.leading.rests s) :
    t ∈ Token.leading.rests (d ++ Path.slash :: s) := by
  have below : Path.slash :: s <:+ d ++ Path.slash :: s := List.suffix_append d _
  rcases mem_leading.mp h with rfl | behind
  · exact mem_leading.mpr (.inr below)
  · exact mem_leading.mpr (.inr (behind.trans ((List.suffix_cons _ s).trans below)))

theorem fits_below {g : Glob} (anywhere : g.startsAnywhere = true) (h : fits g s = true) :
    fits g (d ++ Path.slash :: s) = true := by
  obtain ⟨tokens⟩ := g
  unfold startsAnywhere at anywhere
  split at anywhere
  · rename_i ts cut
    have tokens_eq : tokens = .leading :: ts := cut
    subst tokens_eq
    by_cases all : ts = []
    · subst all
      rfl
    · have more : Token.leading :: ts ≠ [.leading] := by simpa using all
      rw [fits_iff more, mem_restsOfAll_cons] at h ⊢
      obtain ⟨q, left, rest⟩ := h
      exact ⟨q, leading_below left, rest⟩
  · simp at anywhere

theorem isMatch_below {g : Glob} (anywhere : g.startsAnywhere = true) {p q : Path}
    (below : q.bytes = d ++ Path.slash :: p.bytes) (h : g.isMatch p = true) :
    g.isMatch q = true := by
  rw [isMatch, Bool.and_eq_true] at h ⊢
  refine ⟨?_, ?_⟩
  · rw [below]
    exact fits_below anywhere h.1
  · rw [hasName, below, lastPart_below]
    exact h.2

/-- A pattern that starts with a character matches no path with another first byte. -/
theorem isMatch_apart {g : Glob} {c : Char} {ts : List Token} (tokens : g.tokens = .literal c :: ts)
    {p : Path} (apart : p.bytes.head? ≠ (charBytes c).head?) : g.isMatch p = false := by
  have none : Token.rests (.literal c) p.bytes = [] := by
    rw [Token.rests, Option.toList_eq_nil_iff, Option.eq_none_iff_forall_ne_some]
    intro r left
    rw [dropStart?_eq_some] at left
    obtain ⟨b, rest, bytes⟩ := List.exists_cons_of_ne_nil (Text.charBytes_ne_nil c)
    exact apart (by rw [left, bytes]; rfl)
  have misfit : ¬ fits g p.bytes = true := by
    rw [fits_iff (by simp [tokens]), tokens, mem_restsOfAll_cons, none]
    simp
  rw [isMatch, Bool.eq_false_iff.mpr misfit, Bool.false_and]

theorem isMatch_absolute {g : Glob} (relative : g.startsRelative = true) {p : Path}
    (absolute : p.bytes.head? = some Path.slash) : g.isMatch p = false := by
  obtain ⟨tokens⟩ := g
  unfold startsRelative at relative
  split at relative
  · rename_i t ts cut
    cases t with
    | literal c =>
      have other : c ≠ '/' := by simpa [Token.isPlainLiteral] using relative
      refine isMatch_apart cut fun same => Text.slash_not_mem_charBytes other ?_
      rw [absolute] at same
      exact List.mem_of_head? same.symm
    | _ => simp [Token.isPlainLiteral] at relative
  · simp at relative

theorem isMatch_relative {g : Glob} (absolute : g.startsAbsolute = true) {p : Path}
    (relative : p.isAbsolute = false) : g.isMatch p = false := by
  obtain ⟨tokens⟩ := g
  unfold startsAbsolute at absolute
  split at absolute
  · rename_i ts cut
    refine isMatch_apart cut fun same => ?_
    simp [Path.isAbsolute, same, charBytes, Path.slash] at relative
  · simp at absolute

end Glob

end MarkupLint
