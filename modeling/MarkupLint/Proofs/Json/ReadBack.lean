import MarkupLint.Proofs.Json.Reads
import MarkupLint.Proofs.Json.Values

/-! A value that is written compactly is read back. -/
namespace MarkupLint.Json

def integerOnly : Json → Bool
  | .number (.integer n) => decide (Number.leastInteger ≤ n ∧ n ≤ Number.greatestInteger)
  | .number (.real _) => false
  | _ => true

def isIntegral : Json → Bool := every integerOnly

theorem isIntegral_array (items : List Json) :
    isIntegral (.array items) = true ↔ ∀ v ∈ items, v.isIntegral = true := by
  simp [isIntegral, every_array, integerOnly]

theorem isIntegral_object (members : List (String × Json)) :
    isIntegral (.object members) = true ↔ ∀ m ∈ members, m.2.isIntegral = true := by
  simp [isIntegral, every_object, integerOnly]

mutual

def nesting : Json → Nat
  | .array items => itemNesting items + 1
  | .object members => memberNesting members + 1
  | _ => 0

def itemNesting : List Json → Nat
  | [] => 0
  | v :: rest => max (nesting v) (itemNesting rest)

def memberNesting : List (String × Json) → Nat
  | [] => 0
  | (_, v) :: rest => max (nesting v) (memberNesting rest)

end

theorem nesting_item {v : Json} {items : List Json} (h : v ∈ items) :
    v.nesting ≤ itemNesting items := by
  induction items with
  | nil => cases h
  | cons w rest ih =>
    rw [itemNesting]
    rcases List.mem_cons.mp h with rfl | h
    · omega
    · have := ih h
      omega

theorem nesting_member {m : String × Json} {members : List (String × Json)} (h : m ∈ members) :
    m.2.nesting ≤ memberNesting members := by
  induction members with
  | nil => cases h
  | cons x rest ih =>
    rw [memberNesting]
    rcases List.mem_cons.mp h with rfl | h
    · omega
    · have := ih h
      omega

theorem memberNesting_le {members : List (String × Json)} {n : Nat}
    (each : ∀ m ∈ members, m.2.nesting ≤ n) : memberNesting members ≤ n := by
  induction members with
  | nil => exact Nat.zero_le n
  | cons m rest ih =>
    have first := each m (.head _)
    have later := ih fun x hx => each x (.tail _ hx)
    rw [memberNesting]
    omega

def listed {α : Type} (write : α → List Char) : List α → List Char
  | [] => []
  | a :: rest => write a ++ rest.flatMap fun b => ',' :: write b

def entry {α : Type} (write : α → List Char) (m : String × α) : List Char :=
  textChars m.1 ++ ':' :: write m.2

theorem listed_map {α β : Type} (write : β → List Char) (f : α → β) (as : List α) :
    listed write (as.map f) = listed (fun a => write (f a)) as := by
  cases as with
  | nil => rfl
  | cons a rest => simp [listed, List.flatMap_map]

theorem itemChars_eq (items : List Json) : itemChars items = listed chars items ++ [']'] := by
  cases items with
  | nil => rfl
  | cons v rest =>
    induction rest generalizing v with
    | nil => simp [itemChars, listed]
    | cons w rest ih =>
      rw [itemChars, ih w]
      · simp [listed]
      · simp

theorem memberChars_eq (members : List (String × Json)) :
    memberChars members = listed (entry chars) members ++ ['}'] := by
  cases members with
  | nil => rfl
  | cons m rest =>
    induction rest generalizing m with
    | nil => simp [memberChars, listed, entry]
    | cons x rest ih =>
      rw [memberChars, ih x]
      · simp [listed, entry]
      · simp

theorem array_chars (items : List Json) (rest : List Char) :
    chars (.array items) ++ rest = '[' :: (listed chars items ++ ']' :: rest) := by
  simp [chars, itemChars_eq]

theorem object_chars (members : List (String × Json)) (rest : List Char) :
    chars (.object members) ++ rest = '{' :: (listed (entry chars) members ++ '}' :: rest) := by
  simp [chars, memberChars_eq]

/-- A text of one value: it starts with it, and the reader reads it wherever a number may end. -/
structure Spells (one : Reader α) (text : List Char) (a : α) : Prop where
  starts : ∃ c tail, text = c :: tail ∧ Reader.isBlank c = false ∧ c ≠ ']'
  reads : ∀ rest, Stops rest → Reads one (text ++ rest) a rest

namespace Reads

variable {α β σ : Type} {input mid rest : List Char}

theorem bare_cons {c : Char} (h : Reader.isBlank c = false) (rest : List Char) :
    Bare (c :: rest) := by
  rintro d ⟨⟩
  exact h

theorem stops_cons {c : Char} (digit : c.isDigit = false) (point : c ≠ '.')
    (letter : Reader.isExponentLetter c = false) (rest : List Char) : Stops (c :: rest) := by
  rintro d ⟨⟩
  exact ⟨digit, point, letter⟩

theorem stops_comma (rest : List Char) : Stops (',' :: rest) :=
  stops_cons rfl (by decide) rfl rest

theorem stops_bracket (rest : List Char) : Stops (']' :: rest) :=
  stops_cons rfl (by decide) rfl rest

theorem stops_brace (rest : List Char) : Stops ('}' :: rest) :=
  stops_cons rfl (by decide) rfl rest

theorem stops_more {γ : Type} {f : γ → List Char} (cs : List γ) {close : Char}
    (closed : Stops (close :: rest)) :
    Stops (cs.flatMap (fun c => ',' :: f c) ++ close :: rest) := by
  cases cs with
  | nil => exact closed
  | cons c cs => exact stops_comma _

theorem list_end (rest : List Char) : Reads Reader.listEnd (']' :: rest) () rest :=
  (peekToken (bare_cons rfl _)).bind (skip _ _)

theorem object_end (rest : List Char) : Reads Reader.objectEnd ('}' :: rest) () rest :=
  (peekToken (bare_cons rfl _)).bind (skip _ _)

theorem colon (rest : List Char) : Reads Reader.colon (':' :: rest) () rest :=
  (peekToken (bare_cons rfl _)).bind (skip _ _)

theorem enclosed {depth : Nat} {body : Nat → Reader α} {ending : Reader Unit} {a : α} {c : Char}
    (allowed : 2 ≤ depth) (inside : Reads (body (depth - 1)) input a mid)
    (closed : Reads ending mid () rest) :
    Reads (Reader.enclosed depth body ending) (c :: input) a rest := by
  obtain ⟨inner, rfl⟩ := Nat.exists_eq_add_of_le' allowed
  exact (skip c input).bind (inside.attempt.bind (closed.attempt.bind (pure a rest)))

def comma (first : Bool) : List Char := if first then [] else [',']

theorem has_item {c : Char} (bare : Reader.isBlank c = false) (inside : c ≠ ']') (first : Bool)
    (tail : List Char) :
    Reads (Reader.hasItem first) (comma first ++ c :: tail) true (c :: tail) := by
  have token := peekToken (bare_cons bare tail)
  have more : Reads (Pure.pure true : Reader Bool) (c :: tail) true (c :: tail) := pure _ _
  cases first with
  | true =>
    refine token.bind ?_
    simp only [List.head?_cons, if_true]
    exact more
  | false =>
    refine (peekToken (bare_cons rfl _)).bind ((skip _ _).bind (token.bind ?_))
    simp only [List.head?_cons]
    exact more

theorem no_item (first : Bool) (rest : List Char) :
    Reads (Reader.hasItem first) (']' :: rest) false (']' :: rest) :=
  (peekToken (bare_cons rfl _)).bind (pure _ _)

theorem has_member (first : Bool) (tail : List Char) :
    Reads (Reader.hasMember first) (comma first ++ '"' :: tail) true ('"' :: tail) := by
  cases first with
  | true => exact (peekToken (bare_cons rfl _)).bind (pure _ _)
  | false =>
    exact (peekToken (bare_cons rfl _)).bind
      ((skip _ _).bind ((peekToken (bare_cons rfl _)).bind (pure _ _)))

theorem no_member (first : Bool) (rest : List Char) :
    Reads (Reader.hasMember first) ('}' :: rest) false ('}' :: rest) :=
  (peekToken (bare_cons rfl _)).bind (pure _ _)

theorem more_length {γ : Type} (write : γ → List Char) (ms : List γ) (rest : List Char) :
    ms.length ≤ (ms.flatMap (fun m => ',' :: write m) ++ rest).length := by
  have more : ms.length ≤ (ms.flatMap fun m => ',' :: write m).length :=
    length_le_flatMap fun m _ => Nat.le_add_left 1 _
  rw [List.length_append]
  omega

section Items

variable {one : Reader α} {write : α → List Char}

theorem some_item {a : α} (spelled : Spells one (write a) a) (stops : Stops mid) (first : Bool) :
    Reads (Reader.item? first one) (comma first ++ (write a ++ mid)) (some a) mid := by
  obtain ⟨c, tail, shape, bare, inside⟩ := spelled.starts
  have read := spelled.reads mid stops
  rw [shape, List.cons_append] at read ⊢
  refine (has_item bare inside first _).bind ?_
  rw [if_pos rfl]
  exact read.bind (pure _ _)

theorem no_more_item (first : Bool) (rest : List Char) :
    Reads (Reader.item? first one) (']' :: rest) none (']' :: rest) := by
  refine (no_item first rest).bind ?_
  exact pure none _

theorem items_close (first : Bool) (fuel : Nat) (rest : List Char) :
    Reads (Reader.itemsFrom one first fuel) (']' :: rest) [] (']' :: rest) := by
  cases fuel with
  | zero => exact pure _ _
  | succ fuel => exact (no_more_item first rest).bind (pure _ _)

theorem items_step {a : α} {as : List α} {fuel : Nat} (spelled : Spells one (write a) a)
    (stops : Stops mid) (first : Bool)
    (later : Reads (Reader.itemsFrom one false fuel) mid as rest) :
    Reads (Reader.itemsFrom one first (fuel + 1)) (comma first ++ (write a ++ mid)) (a :: as)
      rest :=
  (some_item spelled stops first).bind (later.bind (pure _ _))

theorem items_from {as : List α} (each : ∀ a ∈ as, Spells one (write a) a) (fuel : Nat)
    (enough : as.length ≤ fuel) (rest : List Char) :
    Reads (Reader.itemsFrom one false fuel)
      (as.flatMap (fun a => ',' :: write a) ++ ']' :: rest) as (']' :: rest) := by
  induction as generalizing fuel with
  | nil => exact items_close false fuel rest
  | cons a as ih =>
    cases fuel with
    | zero => cases enough
    | succ fuel =>
      have later := ih (fun b hb => each b (.tail _ hb)) fuel (Nat.le_of_succ_le_succ enough)
      have stops := stops_more (f := write) as (stops_bracket rest)
      have step := items_step (each a (.head _)) stops false later
      simpa [comma] using step

theorem items {as : List α} (each : ∀ a ∈ as, Spells one (write a) a) (rest : List Char) :
    Reads (Reader.items one) (listed write as ++ ']' :: rest) as (']' :: rest) := by
  refine (remaining _).bind ?_
  cases as with
  | nil => exact items_close true _ rest
  | cons a as =>
    have more := more_length write as (']' :: rest)
    have enough : as.length ≤ (listed write (a :: as) ++ ']' :: rest).length := by
      rw [listed, List.append_assoc, List.length_append]
      omega
    have later := items_from (fun b hb => each b (.tail _ hb)) _ enough rest
    have stops := stops_more (f := write) as (stops_bracket rest)
    have step := items_step (each a (.head _)) stops true later
    simpa [comma, listed] using step

end Items

section Members

variable {one : String → σ → Reader σ} {next : σ → String × β → σ} {write : β → List Char}

theorem members_close (first : Bool) (s : σ) (fuel : Nat) (rest : List Char) :
    Reads (Reader.membersFrom one s first fuel) ('}' :: rest) s ('}' :: rest) := by
  cases fuel with
  | zero => exact pure _ _
  | succ fuel =>
    refine (no_member first rest).bind ?_
    exact pure s _

theorem members_step {key : String} {body : List Char} {s t u : σ} {fuel : Nat} (first : Bool)
    (read : Reads (one key s) body t mid)
    (later : Reads (Reader.membersFrom one t false fuel) mid u rest) :
    Reads (Reader.membersFrom one s first (fuel + 1)) (comma first ++ (textChars key ++ body)) u
      rest := by
  rw [textChars_append]
  refine (has_member first _).bind ?_
  rw [if_pos rfl]
  exact (skip _ _).bind ((text key body).bind (read.bind later))

theorem two_members {k₁ k₂ : String} {b₁ b₂ : List Char} {s t u : σ}
    (first : Reads (one k₁ s) b₁ t (',' :: (textChars k₂ ++ b₂)))
    (second : Reads (one k₂ t) b₂ u ('}' :: rest)) :
    Reads (Reader.members s one) (textChars k₁ ++ b₁) u ('}' :: rest) := by
  have later (fuel : Nat) := members_step false second (members_close false u fuel rest)
  have some : 0 < (textChars k₁ ++ b₁).length := by
    rw [textChars_append]
    exact Nat.succ_pos _
  obtain ⟨fuel, length⟩ := Nat.exists_eq_add_one.mpr some
  refine (remaining _).bind ?_
  rw [length]
  exact members_step true first (later fuel)

theorem members_from {ms : List (String × β)}
    (each : ∀ m ∈ ms, ∀ s mid, Stops mid →
      Reads (one m.1 s) (':' :: (write m.2 ++ mid)) (next s m) mid)
    (s : σ) (fuel : Nat) (enough : ms.length ≤ fuel) (rest : List Char) :
    Reads (Reader.membersFrom one s false fuel)
      (ms.flatMap (fun m => ',' :: entry write m) ++ '}' :: rest) (ms.foldl next s)
      ('}' :: rest) := by
  induction ms generalizing s fuel with
  | nil => exact members_close false s fuel rest
  | cons m ms ih =>
    cases fuel with
    | zero => cases enough
    | succ fuel =>
      have stops := stops_more (f := entry write) ms (stops_brace rest)
      have later := ih (fun x hx => each x (.tail _ hx)) (next s m) fuel
        (Nat.le_of_succ_le_succ enough)
      have step := members_step false (each m (.head _) s _ stops) later
      simpa [comma, entry] using step

theorem members {ms : List (String × β)}
    (each : ∀ m ∈ ms, ∀ s mid, Stops mid →
      Reads (one m.1 s) (':' :: (write m.2 ++ mid)) (next s m) mid)
    (s : σ) (rest : List Char) :
    Reads (Reader.members s one) (listed (entry write) ms ++ '}' :: rest) (ms.foldl next s)
      ('}' :: rest) := by
  refine (remaining _).bind ?_
  cases ms with
  | nil => exact members_close true s _ rest
  | cons m ms =>
    have stops := stops_more (f := entry write) ms (stops_brace rest)
    have more := more_length (entry write) ms ('}' :: rest)
    have enough : ms.length ≤ (listed (entry write) (m :: ms) ++ '}' :: rest).length := by
      rw [listed, List.append_assoc, List.length_append]
      omega
    have later := members_from (fun x hx => each x (.tail _ hx)) (next s m) _ enough rest
    have step := members_step true (each m (.head _) s _ stops) later
    simpa [comma, entry, listed] using step

end Members

section Value

variable {embedded : Option (String → Except Fault Json)} {depth : Nat}

theorem value_null : Spells (Reader.value embedded (depth + 1)) (chars .null) .null := by
  refine ⟨⟨'n', _, rfl, rfl, by decide⟩, fun rest _ => placed ?_⟩
  exact (peekToken (bare_cons rfl _)).bind ((skip _ _).bind
    ((word ['u', 'l', 'l'] rest).bind (pure _ _)))

theorem value_boolean (b : Bool) :
    Spells (Reader.value embedded (depth + 1)) (chars (.boolean b)) (.boolean b) := by
  cases b with
  | true =>
    refine ⟨⟨'t', _, rfl, rfl, by decide⟩, fun rest _ => placed ?_⟩
    exact (peekToken (bare_cons rfl _)).bind ((skip _ _).bind
      ((word ['r', 'u', 'e'] rest).bind (pure _ _)))
  | false =>
    refine ⟨⟨'f', _, rfl, rfl, by decide⟩, fun rest _ => placed ?_⟩
    exact (peekToken (bare_cons rfl _)).bind ((skip _ _).bind
      ((word ['a', 'l', 's', 'e'] rest).bind (pure _ _)))

theorem value_text (s : String) :
    Spells (Reader.value embedded (depth + 1)) (chars (.text s)) (.text s) := by
  refine ⟨⟨'"', _, rfl, rfl, by decide⟩, fun rest _ => placed ?_⟩
  rw [chars, textChars_append]
  exact (peekToken (bare_cons rfl _)).bind ((skip _ _).bind ((text s rest).bind (pure _ _)))

theorem value_number {n : Int} (least : Number.leastInteger ≤ n)
    (greatest : n ≤ Number.greatestInteger) :
    Spells (Reader.value embedded (depth + 1)) (chars (.number (.integer n)))
      (.number (.integer n)) := by
  obtain ⟨c, run, shape, first⟩ := integer_head n
  have apart (d : Char) (other : (d = '-' || d.isDigit) = false) : c ≠ d := by
    rintro rfl
    rw [first] at other
    cases other
  have bare : Reader.isBlank c = false := by
    simp [Reader.isBlank, apart ' ' rfl, apart '\n' rfl, apart '\t' rfl, apart '\r' rfl]
  refine ⟨⟨c, run, shape, bare, apart ']' rfl⟩, fun rest stops => placed ?_⟩
  have read := integer least greatest stops
  rw [shape] at read
  rw [chars, shape]
  refine (peekToken (bare_cons bare _)).bind ?_
  have others := And.intro (apart 'n' rfl) (And.intro (apart 't' rfl) (apart 'f' rfl))
  have brackets := And.intro (apart '"' rfl) (And.intro (apart '[' rfl) (apart '{' rfl))
  obtain ⟨_, _, _⟩ := others
  obtain ⟨_, _, _⟩ := brackets
  simp only [List.head?_cons, first, if_true]
  exact read.bind (pure _ _)

theorem value_array {items : List Json}
    (each : ∀ v ∈ items, Spells (Reader.value embedded depth) v.chars v) (deep : 0 < depth) :
    Spells (Reader.value embedded (depth + 1)) (chars (.array items)) (.array items) := by
  refine ⟨⟨'[', _, rfl, rfl, by decide⟩, fun rest _ => placed ?_⟩
  rw [array_chars]
  refine (peekToken (bare_cons rfl _)).bind ?_
  refine enclosed (by omega) ?_ (list_end rest)
  exact (Reads.items each rest).bind (pure _ _)

def readMember (embedded : Option (String → Except Fault Json)) (depth : Nat) (key : String)
    (read : List (String × Json)) : Reader (List (String × Json)) := do
  Reader.colon
  return (key, ← Reader.value embedded depth) :: read

theorem read_member {m : String × Json}
    (spelled : Spells (Reader.value embedded depth) m.2.chars m.2) (read : List (String × Json))
    (mid : List Char) (stops : Stops mid) :
    Reads (readMember embedded depth m.1 read) (':' :: (chars m.2 ++ mid)) (m :: read) mid :=
  (colon _).bind ((spelled.reads mid stops).bind (pure _ _))

def membersBehind (parse : String → Except Fault Json) (depth : Nat) (key : String) :
    Reader Json := do
  let first ← readMember (some parse) depth key []
  let all ← Reader.membersFrom (readMember (some parse) depth) first false
    ((← Reader.remaining) + 1)
  return .ofMembers all.reverse

theorem members_behind {parse : String → Except Fault Json} {m : String × Json}
    {ms : List (String × Json)}
    (each : ∀ x ∈ m :: ms, Spells (Reader.value (some parse) depth) x.2.chars x.2)
    (rest : List Char) :
    Reads (membersBehind parse depth m.1)
      (':' :: (chars m.2 ++ (ms.flatMap (fun x => ',' :: entry chars x) ++ '}' :: rest)))
      (.ofMembers (m :: ms)) ('}' :: rest) := by
  let more := ms.flatMap (fun x => ',' :: entry chars x) ++ '}' :: rest
  have stops : Stops more := stops_more (f := entry chars) ms (stops_brace rest)
  have first := read_member (each m (.head _)) [] more stops
  have enough : ms.length ≤ more.length + 1 := Nat.le_succ_of_le (more_length (entry chars) ms _)
  have later : Reads (Reader.membersFrom (readMember (some parse) depth) [m] false
      (more.length + 1)) more (ms.foldl (fun read m => m :: read) [m]) ('}' :: rest) :=
    members_from (fun x hx => read_member (each x (.tail _ hx))) [m] _ enough rest
  have back : (ms.foldl (fun read m => m :: read) [m]).reverse = m :: ms := by simp
  have made : Reads (Pure.pure (Json.ofMembers (ms.foldl (fun read m => m :: read) [m]).reverse))
      ('}' :: rest) (.ofMembers (m :: ms)) ('}' :: rest) := back ▸ pure _ _
  exact first.bind ((remaining more).bind (later.bind made))

/-- An object is read with its members in key order. -/
theorem value_members {parse : String → Except Fault Json} {members : List (String × Json)}
    (unmarked : ∀ m ∈ members, m.1 ≠ embeddedKey)
    (each : ∀ m ∈ members, Spells (Reader.value (some parse) depth) m.2.chars m.2)
    (deep : 0 < depth) (rest : List Char) :
    Reads (Reader.value (some parse) (depth + 1)) (chars (.object members) ++ rest)
      (.ofMembers members) rest := by
  refine placed ?_
  rw [object_chars]
  refine (peekToken (bare_cons rfl _)).bind ?_
  refine enclosed (by omega) ?_ (object_end rest)
  cases members with
  | nil => exact (no_member true rest).bind (pure Json.emptyObject _)
  | cons m ms =>
    have shape : listed (entry chars) (m :: ms) ++ '}' :: rest =
        '"' :: (m.1.toList.flatMap escapeChar ++ '"' ::
          ':' :: (chars m.2 ++ (ms.flatMap (fun x => ',' :: entry chars x) ++ '}' :: rest))) := by
      simp [listed, entry, textChars]
    rw [shape]
    refine (has_member true _).bind ?_
    rw [if_pos rfl]
    refine (skip _ _).bind ((text m.1 _).bind ?_)
    rw [if_neg (unmarked m (.head _))]
    exact members_behind each rest

theorem value_object {members : List (String × Json)} (sorted : Map.Entries.Sorted members)
    (unmarked : ∀ m ∈ members, m.1 ≠ embeddedKey)
    (each : ∀ m ∈ members, Spells (Reader.value embedded depth) m.2.chars m.2) (deep : 0 < depth) :
    Spells (Reader.value embedded (depth + 1)) (chars (.object members)) (.object members) := by
  refine ⟨⟨'{', _, rfl, rfl, by decide⟩, fun rest _ => ?_⟩
  cases embedded with
  | some parse =>
    have read := value_members unmarked each deep rest
    rw [Json.ofMembers, sorted.ofList_eq] at read
    exact read
  | none =>
    refine placed ?_
    rw [object_chars]
    refine (peekToken (bare_cons rfl _)).bind ?_
    refine enclosed (by omega) ?_ (object_end rest)
    have all : Reads (Reader.members [] (readMember none depth)) _
        (members.foldl (fun read m => m :: read) []) _ :=
      Reads.members (fun m hm => read_member (each m hm)) [] rest
    have back : (members.foldl (fun read m => m :: read) []).reverse = members := by simp
    have whole := all.bind (f := fun read => return Json.object read.reverse) (pure _ _)
    rw [back] at whole
    exact whole

/-- A value in order, with integers only and no embedded document, is read back, wherever its
nesting is allowed. -/
theorem value {v : Json} (integral : v.isIntegral = true) (ordered : v.isOrdered = true)
    (unmarked : v.isUnmarked = true) (deep : v.nesting < depth) :
    Spells (Reader.value embedded depth) v.chars v := by
  induction v using induct generalizing depth with
  | null =>
    obtain ⟨depth, rfl⟩ := Nat.exists_eq_add_one.mpr deep
    exact value_null
  | boolean b =>
    obtain ⟨depth, rfl⟩ := Nat.exists_eq_add_one.mpr deep
    exact value_boolean b
  | number n =>
    obtain ⟨depth, rfl⟩ := Nat.exists_eq_add_one.mpr deep
    cases n with
    | integer n =>
      obtain ⟨least, greatest⟩ := of_decide_eq_true integral
      exact value_number least greatest
    | real x => cases integral
  | text s =>
    obtain ⟨depth, rfl⟩ := Nat.exists_eq_add_one.mpr deep
    exact value_text s
  | array items ih =>
    rw [isIntegral_array] at integral
    rw [isOrdered_array] at ordered
    rw [isUnmarked_array] at unmarked
    rw [nesting] at deep
    obtain ⟨depth, rfl⟩ := Nat.exists_eq_add_one.mpr (Nat.zero_lt_of_lt deep)
    refine value_array (fun v hv => ?_) (by omega)
    have inner := nesting_item hv
    exact ih v hv (integral v hv) (ordered v hv) (unmarked v hv) (by omega)
  | object members ih =>
    rw [isIntegral_object] at integral
    rw [isOrdered_object] at ordered
    rw [isUnmarked_object] at unmarked
    rw [nesting] at deep
    obtain ⟨depth, rfl⟩ := Nat.exists_eq_add_one.mpr (Nat.zero_lt_of_lt deep)
    refine value_object ordered.1 unmarked.1 (fun m hm => ?_) (by omega)
    have inner := nesting_member hm
    exact ih m hm (integral m hm) (ordered.2 m hm) (unmarked.2 m hm) (by omega)

end Value

end Reads

theorem parse_of_reads {v w : Json}
    (read : Reads (Reader.value (some (parseNested v.compact.length)) depthLimit) v.chars w []) :
    parse v.compact = .ok w := by
  rw [parse, parseNested, compact, String.toList_ofList]
  exact read.run

end MarkupLint.Json
