/-! Host labels beyond ASCII are written with their ASCII characters first, then the others by the
distances between them. -/
namespace MarkupLint.Url.Punycode

def digitChar (d : Nat) : Char :=
  if d < 26 then Char.ofNat ('a'.toNat + d) else Char.ofNat ('0'.toNat + (d - 26))

def adaptFrom (delta k : Nat) : Nat → Nat
  | 0 => k
  | fuel + 1 =>
    if 455 < delta then adaptFrom (delta / 35) (k + 36) fuel else k + 36 * delta / (delta + 38)

/-- The bias after a distance, with `count` characters written. -/
def adapt (delta count : Nat) (first : Bool) : Nat :=
  let delta := if first then delta / 700 else delta / 2
  let delta := delta + delta / count
  adaptFrom delta 0 delta

def distance (bias q k : Nat) : Nat → List Char
  | 0 => []
  | fuel + 1 =>
    let t := if k ≤ bias then 1 else if bias + 26 ≤ k then 26 else k - bias
    if q < t then [digitChar q]
    else digitChar (t + (q - t) % (36 - t)) :: distance bias ((q - t) / (36 - t)) (k + 36) fuel

structure Coder where
  delta : Nat
  bias : Nat
  handled : Nat
  written : List Char

/-- Passes over the label once, for the code point `n`. -/
def pass (basic n : Nat) (s : Coder) (cs : List Char) : Coder :=
  cs.foldl
    (fun s c =>
      if c.toNat < n then { s with delta := s.delta + 1 }
      else if c.toNat = n then
        { delta := 0
          bias := adapt s.delta (s.handled + 1) (s.handled = basic)
          handled := s.handled + 1
          written := s.written ++ distance s.bias s.delta 36 (s.delta + 1) }
      else s)
    s

/-- Code points beyond ASCII, in order, each once. -/
def codePoints (cs : List Char) : List Nat :=
  ((cs.map Char.toNat).filter (0x80 ≤ ·)).mergeSort.eraseDups

def encode (cs : List Char) : List Char :=
  let basic := cs.filter fun c => c.toNat < 0x80
  let start : Coder :=
    ⟨0, 72, basic.length, if basic.isEmpty then [] else basic ++ ['-']⟩
  let (coder, _) :=
    (codePoints cs).foldl
      (fun (s, last) n =>
        let s := { s with delta := s.delta + (n - last) * (s.handled + 1) }
        let s := pass basic.length n s cs
        ({ s with delta := s.delta + 1 }, n + 1))
      (start, 0x80)
  coder.written

def label (cs : List Char) : List Char :=
  if cs.all fun c => c.toNat < 0x80 then cs else ['x', 'n', '-', '-'] ++ encode cs

end MarkupLint.Url.Punycode
