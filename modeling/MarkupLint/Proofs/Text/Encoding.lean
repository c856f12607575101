import MarkupLint.Text.Utf8

/-! The bytes of a text are well formed, and they are read as the text again. The byte of an ASCII
character stands for that character only. -/
namespace MarkupLint.Text

theorem toNat_ranges (c : Char) :
    c.toNat < 0xD800 ∨ 0xDFFF < c.toNat ∧ c.toNat < 0x110000 := c.valid

theorem toNat_ofNat {n : Nat} (h : n < 256) : (UInt8.ofNat n).toNat = n := by
  rw [UInt8.toNat_ofNat']
  exact Nat.mod_eq_of_lt h

def continuing (n : Nat) : UInt8 := UInt8.ofNat (0x80 + n % 64)

theorem continuing_toNat (n : Nat) : (continuing n).toNat = 0x80 + n % 64 :=
  toNat_ofNat (by omega)

section Steps

variable {n acc low high owed : Nat} (rest : List UInt8)

theorem pieces_first {k : Continuation} (least : 0x80 ≤ n) (byte : n < 256)
    (announced : continuation? n = some k) :
    pieces (UInt8.ofNat n :: rest) none = pieces rest (some (n % (1 <<< (6 - k.owed)), k)) := by
  have above : ¬ n < 0x80 := by omega
  simp only [pieces, toNat_ofNat byte, if_neg above, announced]

theorem pieces_next (least : low ≤ 0x80 + n % 64) (greatest : 0x80 + n % 64 ≤ high)
    (more : ¬ owed ≤ 1) :
    pieces (continuing n :: rest) (some (acc, ⟨owed, low, high⟩)) =
      pieces rest (some (acc * 64 + n % 64, ⟨owed - 1, 0x80, 0xBF⟩)) := by
  have bits : (0x80 + n % 64) % 64 = n % 64 := by omega
  simp only [pieces, continuing_toNat, least, greatest, and_self, if_true, if_neg more, bits]

theorem pieces_last (least : low ≤ 0x80 + n % 64) (greatest : 0x80 + n % 64 ≤ high) :
    pieces (continuing n :: rest) (some (acc, ⟨1, low, high⟩)) =
      .char (Char.ofNat (acc * 64 + n % 64)) :: pieces rest none := by
  have bits : (0x80 + n % 64) % 64 = n % 64 := by omega
  simp only [pieces, continuing_toNat, least, greatest, and_self, if_true, Nat.le_refl, bits]

end Steps

/-- The first byte of three bounds the second, which is in the bounds for no surrogate and for no
number that two bytes would do for. -/
theorem continuation_three {n : Nat} (least : 0x800 ≤ n) (small : n < 0x10000)
    (valid : n < 0xD800 ∨ 0xDFFF < n) :
    ∃ low high, continuation? (0xE0 + n / 4096) = some ⟨2, low, high⟩ ∧
      low ≤ 0x80 + n / 64 % 64 ∧ 0x80 + n / 64 % 64 ≤ high := by
  unfold continuation?
  rw [if_neg (by omega)]
  split
  · exact ⟨_, _, rfl, by omega, by omega⟩
  · split
    · exact ⟨_, _, rfl, by omega, by omega⟩
    · exact ⟨_, _, if_pos (by omega), by omega, by omega⟩

theorem continuation_four {n : Nat} (least : 0x10000 ≤ n) (small : n < 0x110000) :
    ∃ low high, continuation? (0xF0 + n / 262144) = some ⟨3, low, high⟩ ∧
      low ≤ 0x80 + n / 4096 % 64 ∧ 0x80 + n / 4096 % 64 ≤ high := by
  unfold continuation?
  rw [if_neg (by omega), if_neg (by omega), if_neg (by omega), if_neg (by omega)]
  split
  · exact ⟨_, _, rfl, by omega, by omega⟩
  · split
    · exact ⟨_, _, rfl, by omega, by omega⟩
    · exact ⟨_, _, if_pos (by omega), by omega, by omega⟩

section Lengths

variable {c : Char} (rest : List UInt8)

theorem pieces_one (small : c.toNat < 0x80) :
    pieces (charBytes c ++ rest) none = .char c :: pieces rest none := by
  have byte : (UInt8.ofNat c.toNat).toNat = c.toNat := toNat_ofNat (by omega)
  simp only [charBytes, if_pos small, List.singleton_append, pieces, byte, Char.ofNat_toNat]

theorem pieces_two (least : ¬ c.toNat < 0x80) (small : c.toNat < 0x800) :
    pieces (charBytes c ++ rest) none = .char c :: pieces rest none := by
  have bytes : charBytes c = [UInt8.ofNat (0xC0 + c.toNat / 64), continuing c.toNat] := by
    simp only [charBytes, if_neg least, if_pos small, continuing, Nat.shiftRight_zero]
  have announced : continuation? (0xC0 + c.toNat / 64) = some ⟨1, 0x80, 0xBF⟩ :=
    if_pos (by omega)
  have whole : (0xC0 + c.toNat / 64) % 32 * 64 + c.toNat % 64 = c.toNat := by omega
  rw [bytes, List.cons_append, pieces_first _ (by omega) (by omega) announced,
    List.singleton_append, pieces_last _ (by omega) (by omega)]
  simp only [Nat.reduceSub, Nat.reduceShiftLeft, whole, Char.ofNat_toNat]

theorem pieces_three (least : ¬ c.toNat < 0x800) (small : c.toNat < 0x10000) :
    pieces (charBytes c ++ rest) none = .char c :: pieces rest none := by
  have valid := toNat_ranges c
  have one : ¬ c.toNat < 0x80 := by omega
  have bytes : charBytes c = [UInt8.ofNat (0xE0 + c.toNat / 4096), continuing (c.toNat / 64),
      continuing c.toNat] := by
    simp only [charBytes, if_neg one, if_neg least, if_pos small, continuing,
      Nat.shiftRight_eq_div_pow, Nat.reducePow, Nat.div_one]
  obtain ⟨low, high, announced, above, below⟩ :=
    continuation_three (n := c.toNat) (by omega) small (by omega)
  have whole : ((0xE0 + c.toNat / 4096) % 16 * 64 + c.toNat / 64 % 64) * 64 + c.toNat % 64 =
      c.toNat := by omega
  rw [bytes, List.cons_append, pieces_first _ (by omega) (by omega) announced, List.cons_append,
    pieces_next _ above below (by decide), List.singleton_append,
    pieces_last _ (by omega) (by omega)]
  simp only [Nat.reduceSub, Nat.reduceShiftLeft, whole, Char.ofNat_toNat]

theorem pieces_four (least : ¬ c.toNat < 0x10000) :
    pieces (charBytes c ++ rest) none = .char c :: pieces rest none := by
  have valid := toNat_ranges c
  have one : ¬ c.toNat < 0x80 := by omega
  have two : ¬ c.toNat < 0x800 := by omega
  have bytes : charBytes c = [UInt8.ofNat (0xF0 + c.toNat / 262144), continuing (c.toNat / 4096),
      continuing (c.toNat / 64), continuing c.toNat] := by
    simp only [charBytes, if_neg one, if_neg two, if_neg least, continuing,
      Nat.shiftRight_eq_div_pow, Nat.reducePow, Nat.div_one]
  obtain ⟨low, high, announced, above, below⟩ :=
    continuation_four (n := c.toNat) (by omega) (by omega)
  have whole : (((0xF0 + c.toNat / 262144) % 8 * 64 + c.toNat / 4096 % 64) * 64 +
      c.toNat / 64 % 64) * 64 + c.toNat % 64 = c.toNat := by omega
  rw [bytes, List.cons_append, pieces_first _ (by omega) (by omega) announced, List.cons_append,
    pieces_next _ above below (by decide), List.cons_append,
    pieces_next _ (by omega) (by omega) (by decide), List.singleton_append,
    pieces_last _ (by omega) (by omega)]
  simp only [Nat.reduceSub, Nat.reduceShiftLeft, whole, Char.ofNat_toNat]

end Lengths

theorem pieces_char (c : Char) (rest : List UInt8) :
    pieces (charBytes c ++ rest) none = .char c :: pieces rest none := by
  by_cases one : c.toNat < 0x80
  · exact pieces_one rest one
  by_cases two : c.toNat < 0x800
  · exact pieces_two rest one two
  by_cases three : c.toNat < 0x10000
  · exact pieces_three rest two three
  · exact pieces_four rest three

theorem pieces_bytesOf (cs : List Char) : pieces (bytesOf cs) none = cs.map .char := by
  induction cs with
  | nil => rfl
  | cons c cs ih =>
    have first := pieces_char c (bytesOf cs)
    rw [ih] at first
    exact first

/-- The bytes of a text are well formed, and of this text only. -/
theorem text_bytesOf (cs : List Char) : text? (bytesOf cs) = some cs := by
  rw [text?, pieces_bytesOf]
  induction cs with
  | nil => rfl
  | cons c cs ih =>
    rw [List.map_cons, List.mapM_cons, ih]
    rfl

theorem lossyText_bytesOf (cs : List Char) : lossyText (bytesOf cs) = cs := by
  rw [lossyText, pieces_bytesOf, List.map_map]
  exact List.map_id cs

theorem bytesOf_inj {cs ds : List Char} : bytesOf cs = bytesOf ds ↔ cs = ds := by
  refine ⟨fun same => ?_, congrArg bytesOf⟩
  rw [← lossyText_bytesOf cs, same, lossyText_bytesOf]

/-- In characters of several bytes, all bytes are above those of the others. -/
theorem byte_not_mem_charBytes {a c : Char} (ascii : a.toNat < 0x80) (other : c ≠ a) :
    UInt8.ofNat a.toNat ∉ charBytes c := by
  have bound := toNat_ranges c
  have ne {n : Nat} (byte : n < 256) (apart : n ≠ a.toNat) :
      UInt8.ofNat a.toNat ≠ UInt8.ofNat n := by
    intro same
    have numbers := congrArg UInt8.toNat same
    rw [toNat_ofNat byte, toNat_ofNat (by omega)] at numbers
    exact apart numbers.symm
  have tail : ∀ shift, UInt8.ofNat a.toNat ≠ UInt8.ofNat (0x80 + (c.toNat >>> shift) % 64) :=
    fun shift => ne (by omega) (by omega)
  have number : c.toNat ≠ a.toNat := fun same => other (Char.toNat_inj.mp same)
  simp only [charBytes]
  split
  · rw [List.mem_singleton]
    exact ne (by omega) number
  split
  · simp only [List.mem_cons, List.not_mem_nil, or_false, not_or]
    exact ⟨ne (by omega) (by omega), tail 0⟩
  split
  · simp only [List.mem_cons, List.not_mem_nil, or_false, not_or]
    exact ⟨ne (by omega) (by omega), tail 6, tail 0⟩
  · simp only [List.mem_cons, List.not_mem_nil, or_false, not_or]
    exact ⟨ne (by omega) (by omega), tail 12, tail 6, tail 0⟩

theorem byte_not_mem_bytesOf {a : Char} (ascii : a.toNat < 0x80) {cs : List Char}
    (others : ∀ c ∈ cs, c ≠ a) : UInt8.ofNat a.toNat ∉ bytesOf cs := by
  rw [bytesOf, List.mem_flatMap]
  rintro ⟨c, hc, byte⟩
  exact byte_not_mem_charBytes ascii (others c hc) byte

end MarkupLint.Text
