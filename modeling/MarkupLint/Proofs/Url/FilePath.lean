import MarkupLint.Proofs.Map.Folds
import MarkupLint.Proofs.Text.Encoding
import MarkupLint.Url.Parse

/-! What is known of URLs from their text: a scheme starts with a letter and a file path with a
slash, so that no URL is shown like a file path; and a last part without escapes is the last part of
the file path. -/
namespace MarkupLint

def fileUrl (path : String) : Url := ⟨"file", some ⟨"", none, .empty, none⟩, path, none, none⟩

namespace Url

open Text (bytesOf utf8)

variable {u : Url} {p : Path} {s : String}

section Decoding

variable {b : UInt8} {bytes rest : List UInt8}

theorem percentDecode_cons (plain : b ≠ 0x25) (rest : List UInt8) :
    percentDecode (b :: rest) = b :: percentDecode rest := by
  rw [percentDecode]
  rintro _ _ _ rfl
  exact fun _ => plain rfl

theorem percentDecode_of_free (free : 0x25 ∉ bytes) : percentDecode bytes = bytes := by
  induction bytes with
  | nil => rfl
  | cons b bytes ih =>
    rw [List.mem_cons, not_or] at free
    rw [percentDecode_cons (Ne.symm free.1), ih free.2]

theorem percentDecode_sign
    (loose : ∀ a c more, rest = a :: c :: more → hexByte? a = none ∨ hexByte? c = none) :
    percentDecode (0x25 :: rest) = 0x25 :: percentDecode rest := by
  match rest with
  | [] => rfl
  | [_] => rfl
  | a :: c :: more =>
    rcases loose a c more rfl with first | second
    · simp [percentDecode, first]
    · simp [percentDecode, second]

/-- No escape goes on across a byte that is no digit. -/
theorem percentDecode_append (other : hexByte? b = none) (bytes rest : List UInt8) :
    percentDecode (bytes ++ b :: rest) = percentDecode bytes ++ percentDecode (b :: rest) := by
  fun_induction percentDecode bytes with
  | case1 a c bytes x y first second ih =>
    simp only [List.cons_append, percentDecode, first, second, ih]
  | case2 a c bytes loose ih =>
    have signs : ∀ d e more, a :: c :: (bytes ++ b :: rest) = d :: e :: more →
        hexByte? d = none ∨ hexByte? e = none := by
      rintro d e more ⟨⟩
      cases first : hexByte? a with
      | none => exact .inl rfl
      | some x => exact .inr (Option.eq_none_iff_forall_ne_some.mpr fun y => loose x y first)
    simp only [List.cons_append] at ih ⊢
    rw [percentDecode_sign signs, ih]
  | case3 d bytes short ih =>
    by_cases sign : d = 0x25
    · subst sign
      have signs : ∀ d e more, bytes ++ b :: rest = d :: e :: more →
          hexByte? d = none ∨ hexByte? e = none := by
        intro d e more whole
        match bytes with
        | [] =>
          obtain ⟨rfl, _⟩ := List.cons.inj whole
          exact .inl other
        | [x] =>
          obtain ⟨_, rest⟩ := List.cons.inj whole
          obtain ⟨rfl, _⟩ := List.cons.inj rest
          exact .inr other
        | x :: y :: more => exact (short x y more rfl rfl).elim
      rw [List.cons_append, percentDecode_sign signs, ih, List.cons_append]
    · rw [List.cons_append, percentDecode_cons sign, ih, List.cons_append]
  | case4 => rfl

end Decoding

theorem filePath?_bytes (file : u.filePath? = some p) :
    u.path.toList.head? = some '/' ∧ (p.bytes = percentDecode (utf8 u.path) ∨
      p.bytes = percentDecode (utf8 u.path) ++ [Path.slash]) := by
  simp only [filePath?] at file
  split at file
  · rename_i named
    obtain rfl := Option.some.inj file
    simp only [Bool.and_eq_true, decide_eq_true_eq] at named
    refine ⟨named.2, ?_⟩
    split
    · exact .inr rfl
    · exact .inl rfl
  · cases file

theorem filePath?_slash (file : u.filePath? = some p) :
    ∃ rest, p.bytes = Path.slash :: rest := by
  obtain ⟨first, bytes⟩ := filePath?_bytes file
  obtain ⟨cs, path⟩ := List.head?_eq_some_iff.mp first
  have start : percentDecode (utf8 u.path) = Path.slash :: percentDecode (bytesOf cs) := by
    rw [utf8, path]
    exact percentDecode_cons (by decide) (bytesOf cs)
  rcases bytes with bytes | bytes
  · exact ⟨_, bytes.trans start⟩
  · exact ⟨_, bytes.trans (congrArg (· ++ [Path.slash]) start)⟩

theorem filePath?_absolute (file : u.filePath? = some p) : p.isAbsolute = true := by
  obtain ⟨rest, bytes⟩ := filePath?_slash file
  simp [Path.isAbsolute, bytes]

/-- What is behind a slash of the URL without escapes is behind a slash of the path. A path that
ends like a drive letter gets a slash at the end. -/
theorem filePath?_behind {d e : List Char} (file : u.filePath? = some p)
    (path : u.path.toList = d ++ '/' :: e) (plain : '%' ∉ e) :
    ∃ front, p.bytes = front ++ Path.slash :: bytesOf e ∨
      p.bytes = front ++ Path.slash :: bytesOf e ++ [Path.slash] := by
  have free : (0x25 : UInt8) ∉ bytesOf e :=
    Text.byte_not_mem_bytesOf (a := '%') (by decide) fun c hc same => plain (same ▸ hc)
  have whole : utf8 u.path = bytesOf d ++ Path.slash :: bytesOf e := by
    rw [utf8, path, bytesOf, List.flatMap_append]
    rfl
  have decoded : percentDecode (utf8 u.path) =
      percentDecode (bytesOf d) ++ Path.slash :: bytesOf e := by
    rw [whole, percentDecode_append (by decide), percentDecode_cons (by decide),
      percentDecode_of_free free]
  obtain ⟨_, bytes⟩ := filePath?_bytes file
  rw [decoded] at bytes
  exact ⟨_, bytes⟩

theorem filePath?_text (file : u.filePath? = some p) : p.text.toList.head? = some '/' := by
  obtain ⟨rest, bytes⟩ := filePath?_slash file
  rw [Path.text, String.toList_ofList, bytes]
  rfl

theorem parseFile_scheme {scheme cs : List Char} (read : parseFile scheme cs = .ok u) :
    u.scheme = String.ofList scheme := by
  unfold parseFile at read
  split at read
  · split at read
    · obtain ⟨_, _, made⟩ := Map.ok_of_bind read
      cases made
      rfl
    · split at read <;> cases read <;> rfl
  · cases read
    rfl

theorem parseAfterScheme_scheme {scheme cs : List Char}
    (read : parseAfterScheme scheme cs = .ok u) : u.scheme = String.ofList scheme := by
  unfold parseAfterScheme at read
  split at read
  · exact parseFile_scheme read
  · obtain ⟨_, _, made⟩ := Map.ok_of_bind read
    cases made
    rfl
  · split at read
    · obtain ⟨_, _, made⟩ := Map.ok_of_bind read
      cases made
      rfl
    · cases read
      rfl
    · cases read
      rfl

theorem toLower_ne_slash {c : Char} (letter : c.isAlpha = true) : c.toLower ≠ '/' := by
  intro same
  by_cases upper : c.val ≥ 'A'.val ∧ c.val ≤ 'Z'.val
  · have lowered : c.toLower.val = c.val + 32 := congrArg Char.val (dif_pos upper)
    have number : (c.val + 32).toNat = 47 := by rw [← lowered, same]; rfl
    have least : 65 ≤ c.val.toNat := upper.1
    have most : c.val.toNat ≤ 90 := upper.2
    have difference : (32 : UInt32).toNat = 32 := rfl
    rw [UInt32.toNat_add] at number
    omega
  · have kept : c.toLower = c := dif_neg upper
    rw [kept] at same
    rw [same] at letter
    exact absurd letter (by decide)

theorem parse_scheme (read : parse s = .ok u) :
    ∃ c cs, u.scheme.toList = c :: cs ∧ c ≠ '/' := by
  simp only [parse] at read
  split at read
  · split at read
    · rename_i letter
      obtain ⟨c, first, alpha⟩ := (Option.any_eq_true _ _).mp letter
      obtain ⟨cs, scheme⟩ := List.head?_eq_some_iff.mp first
      rw [parseAfterScheme_scheme read, String.toList_ofList, scheme]
      exact ⟨_, _, rfl, toLower_ne_slash alpha⟩
    · cases read
  · cases read

theorem parse_text (read : parse s = .ok u) : u.text.toList.head? ≠ some '/' := by
  obtain ⟨c, cs, scheme, other⟩ := parse_scheme read
  simp [text, scheme, other]

end Url

end MarkupLint
