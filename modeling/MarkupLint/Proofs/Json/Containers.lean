import Mathlib.Data.List.Forall2
import MarkupLint.Proofs.Json.Skipping

/-! What readers of arrays, objects and records make of a value: it depends on what the readers of
their parts make of the parts, and on nothing that follows. -/
namespace MarkupLint.Json

variable {α β σ : Type} {v input blank rest : List Char}

/-- Wherever a value stands, the reader makes the same of it. -/
def Settles (one : Reader α) (v : List Char) (o : Option α) : Prop :=
  ∀ blank rest, Blanks blank → Follows rest → Yields one (blank ++ (v ++ rest)) o rest

def Steady (one : Reader α) : Prop := ∀ v, Written v → ∃ o, Settles one v o

def Alike (one : Reader α) (x y : List Char) : Prop := ∃ o, Settles one x o ∧ Settles one y o

theorem Steady.alike {one : Reader α} (steady : Steady one) (written : Written v) :
    Alike one v v := by
  obtain ⟨o, settled⟩ := steady v written
  exact ⟨o, settled, settled⟩

section Scalars

theorem text_steady (expected : String) : Steady (Reader.textFor expected) := by
  intro v written
  obtain ⟨c, tail, rfl, opening⟩ := written.opened
  by_cases quote : c = '"'
  · obtain ⟨o, read⟩ := text_yields (opening.text quote)
    subst quote
    refine ⟨o, fun blank rest blanks follows => .placed (.after (Reads.token blanks rfl _) ?_)⟩
    exact .after (Reads.skip _ _) (read rest)
  · refine ⟨none, fun blank rest blanks follows => .placed ?_⟩
    refine .after (Reads.token blanks opening.bare _) ?_
    split
    · cases ‹some c = none›
    · exact absurd (Option.some.inj ‹_›) quote
    · exact Fails.wrong_type _ _ _

def Number.natural32? : Number → Option UInt32
  | .integer n => if 0 ≤ n ∧ n ≤ 0xFFFFFFFF then some (UInt32.ofNat n.toNat) else none
  | .real _ => none

theorem natural_steady : Steady Reader.natural32 := by
  intro v written
  obtain ⟨c, tail, rfl, opening⟩ := written.opened
  by_cases numeric : (c = '-' || c.isDigit) = true
  · obtain ⟨o, read⟩ := number_yields (opening.number numeric)
    refine ⟨o.bind Number.natural32?, fun blank rest blanks follows => .placed ?_⟩
    refine .after (Reads.token blanks opening.bare _) ?_
    simp only [numeric]
    refine .bind _ (read rest follows.stops) fun n _ => ?_
    cases n with
    | integer n =>
      by_cases range : 0 ≤ n ∧ n ≤ 0xFFFFFFFF
      · simp only [Number.natural32?, if_pos range]
        exact Reads.pure _ _
      · simp only [Number.natural32?, if_neg range]
        exact Fails.mismatch _ _
    | real x => exact Fails.mismatch _ _
  · refine ⟨none, fun blank rest blanks follows => .placed ?_⟩
    refine .after (Reads.token blanks opening.bare _) ?_
    simp only [numeric]
    exact Fails.wrong_type _ _ _

def variantNamed (known : List (String × α)) (name : String) : Option α :=
  (known.find? fun e => e.1 == name).map Prod.snd

theorem variant_of (known : List (String × α)) (name : String) (input : List Char) :
    Yields (Reader.variantOf known name) input (variantNamed known name) input := by
  unfold Reader.variantOf variantNamed
  cases known.find? fun e => e.1 == name with
  | none => exact Fails.mismatch _ _
  | some e => exact Reads.pure _ _

end Scalars

def Closes (body : Reader α) (ending : Reader Unit) (input : List Char) (o : Option α)
    (rest : List Char) : Prop :=
  match o with
  | some a => ∃ mid, Reads body input a mid ∧ Reads ending mid () rest
  | none => Fails body input ∨ ∃ a mid, Reads body input a mid ∧ Fails ending mid

theorem Closes.after {r : Reader α} {f : α → Reader β} {ending : Reader Unit} {a : α} {p : Option β}
    {mid : List Char} (h : Reads r input a mid) (k : Closes (f a) ending mid p rest) :
    Closes (r >>= f) ending input p rest := by
  cases p with
  | some b =>
    obtain ⟨last, inside, closed⟩ := k
    exact ⟨last, h.bind inside, closed⟩
  | none =>
    rcases k with fails | ⟨b, last, inside, fails⟩
    · exact .inl (.bind h fails)
    · exact .inr ⟨b, last, h.bind inside, fails⟩

theorem enclosed_yields {depth : Nat} {body : Nat → Reader α} {ending : Reader Unit} {o : Option α}
    (c : Char) (deep : 2 ≤ depth) (closes : Closes (body (depth - 1)) ending input o rest) :
    Yields (Reader.enclosed depth body ending) (c :: input) o rest := by
  obtain ⟨inner, rfl⟩ := Nat.exists_eq_add_of_le' deep
  refine .after (Reads.skip c input) ?_
  cases o with
  | some a =>
    obtain ⟨mid, inside, closed⟩ := closes
    exact inside.attempt.bind (closed.attempt.bind (Reads.pure a rest))
  | none =>
    rcases closes with fails | ⟨a, mid, inside, fails⟩
    · exact .attempt_bind fails fun fault mid =>
        .bind_always fun closing mid => Fails.raise fault mid
    · exact Fails.bind inside.attempt (.attempt_bind fails fun fault mid => Fails.raise fault mid)

section Items

variable {one : Reader α} {f : α → Reader β} {s : Slot} {items : List Slot} {o : Option α}

def itemsAhead (first : Bool) (items : List Slot) (rest : List Char) : List Char :=
  upcoming Slot.chars first items ++ ']' :: rest

theorem items_follow (items : List Slot) (rest : List Char) :
    Follows (itemsAhead false items rest) :=
  follows_upcoming _ items (.head _) rest

theorem item_ahead (holds : s.Holds) (blanks : Blanks blank) (first : Bool) :
    Reads (Reader.hasItem first) (blank ++ itemsAhead first (s :: items) rest) true
      (s.value ++ (s.behind ++ itemsAhead false items rest)) := by
  obtain ⟨c, tail, shape, opening⟩ := holds.written.opened
  have square : c ≠ ']' := by
    rintro rfl
    exact opening.inside (by decide)
  have more : Reads (Pure.pure true : Reader Bool)
      (c :: (tail ++ (s.behind ++ itemsAhead false items rest))) true _ := Reads.pure _ _
  simp only [itemsAhead, upcoming, Slot.chars, shape, List.append_assoc, List.cons_append] at more ⊢
  cases first with
  | true =>
    have token := Reads.token (blanks.append holds.padded.before) opening.bare
      (tail ++ (s.behind ++ (upcoming Slot.chars false items ++ ']' :: rest)))
    rw [List.append_assoc] at token
    refine token.bind ?_
    split
    · exact absurd (Option.some.inj ‹_›) square
    · exact more
    · cases ‹some c = none›
  | false =>
    refine (Reads.token blanks rfl _).bind ((Reads.skip _ _).bind ?_)
    refine (Reads.token holds.padded.before opening.bare _).bind ?_
    split
    · exact absurd (Option.some.inj ‹_›) square
    · exact more
    · cases ‹some c = none›

theorem no_item_ahead (blanks : Blanks blank) (first : Bool) :
    Reads (Reader.hasItem first) (blank ++ itemsAhead first [] rest) false (']' :: rest) :=
  (Reads.token blanks rfl rest).bind (Reads.pure _ _)

theorem item_yields (holds : s.Holds) (settled : Settles one s.value o) (blanks : Blanks blank)
    (first : Bool) (items : List Slot) (rest : List Char) :
    Yields (Reader.item? first one) (blank ++ itemsAhead first (s :: items) rest) (o.map some)
      (s.behind ++ itemsAhead false items rest) := by
  refine .after (item_ahead holds blanks first) ?_
  rw [if_pos rfl]
  exact .map _ (settled [] _ .nil ((items_follow items rest).pad holds.padded.behind))

theorem item_missing (blanks : Blanks blank) (first : Bool) :
    Reads (Reader.item? first one) (blank ++ itemsAhead first [] rest) none (']' :: rest) := by
  refine (no_item_ahead blanks first).bind ?_
  exact Reads.pure none _

def InOrder (body : Reader α) (first : Bool) (items : List Slot) (o : Option α) : Prop :=
  ∀ blank rest, Blanks blank →
    Closes body Reader.listEnd (blank ++ itemsAhead first items rest) o rest

namespace InOrder

variable {p : Option β} {before : Nat} {expected : String}

theorem done (a : α) : InOrder (return a : Reader α) false [] (some a) := by
  intro blank rest blanks
  exact ⟨_, Reads.pure a _, (Reads.token blanks rfl rest).bind (Reads.skip _ _)⟩

theorem excess (a : α) (s : Slot) (items : List Slot) :
    InOrder (return a : Reader α) false (s :: items) none := by
  intro blank rest blanks
  refine .inr ⟨a, _, Reads.pure a _, .bind (Reads.token blanks rfl _) ?_⟩
  refine .bind (Reads.skip _ _) (.bind_always fun next mid => ?_)
  split <;> exact Fails.ahead _ _

theorem missing : InOrder (Reader.requiredItem before expected one >>= f) (before = 0) [] none := by
  intro blank rest blanks
  exact .inl (.bind_first (.bind (item_missing blanks _) (Fails.mismatch _ _)))

theorem unread (holds : s.Holds) (settled : Settles one s.value none) :
    InOrder (Reader.requiredItem before expected one >>= f) (before = 0) (s :: items) none := by
  intro blank rest blanks
  have item := item_yields holds settled blanks (decide (before = 0)) items rest
  exact .inl (.bind_first (.bind_first item))

theorem read {a : α} (holds : s.Holds) (settled : Settles one s.value (some a))
    (later : InOrder (f a) false items p) :
    InOrder (Reader.requiredItem before expected one >>= f) (before = 0) (s :: items) p := by
  intro blank rest blanks
  have item : Reads (Reader.item? (before = 0) one) _ (some a) _ :=
    item_yields holds settled blanks (decide (before = 0)) items rest
  have first : Reads (Reader.requiredItem before expected one) _ a _ :=
    item.bind (Reads.pure a _)
  exact .after first (later s.behind rest holds.padded.behind)

theorem alike {t : Slot} {others : List Slot} (held : s.Holds) (holds : t.Holds)
    (same : Alike one s.value t.value)
    (later : ∀ a, ∃ p, InOrder (f a) false items p ∧ InOrder (f a) false others p) :
    ∃ p, InOrder (Reader.requiredItem before expected one >>= f) (before = 0) (s :: items) p ∧
      InOrder (Reader.requiredItem before expected one >>= f) (before = 0) (t :: others) p := by
  obtain ⟨o, here, there⟩ := same
  cases o with
  | none => exact ⟨none, unread held here, unread holds there⟩
  | some a =>
    obtain ⟨p, rest, more⟩ := later a
    exact ⟨p, read held here rest, read holds there more⟩

/-- Whatever the items are, it is settled what is made of them, field by field. -/
theorem settled (steady : Steady one) (later : ∀ a items, (∀ s ∈ items, s.Holds) →
      ∃ p, InOrder (f a) false items p) (items : List Slot) (holds : ∀ s ∈ items, s.Holds) :
    ∃ p, InOrder (Reader.requiredItem before expected one >>= f) (before = 0) items p := by
  cases items with
  | nil => exact ⟨none, missing⟩
  | cons s items =>
    have here := holds s (.head _)
    have rest (a : α) := later a items fun t ht => holds t (.tail _ ht)
    obtain ⟨p, order, _⟩ := alike here here (steady.alike here.written) fun a =>
      (rest a).imp fun _ order => ⟨order, order⟩
    exact ⟨p, order⟩

theorem done_settled (a : α) (items : List Slot) :
    ∃ o, InOrder (return a : Reader α) false items o := by
  cases items with
  | nil => exact ⟨some a, done a⟩
  | cons s items => exact ⟨none, excess a s items⟩

end InOrder

end Items

section Members

variable {one : String → σ → Reader σ} {s t : σ} {m : Member} {ms : List Member} {o : Option σ}

def membersAhead (first : Bool) (ms : List Member) (rest : List Char) : List Char :=
  upcoming Member.chars first ms ++ '}' :: rest

theorem members_follow (ms : List Member) (rest : List Char) :
    Follows (membersAhead false ms rest) :=
  follows_upcoming _ ms (.tail _ (.head _)) rest

theorem member_ahead (holds : m.Holds) (blanks : Blanks blank) (first : Bool) :
    Reads (Reader.hasMember first) (blank ++ membersAhead first (m :: ms) rest) true
      ('"' :: (m.key ++ (m.between ++ ':' :: (m.slot.before ++
        (m.slot.value ++ (m.slot.behind ++ membersAhead false ms rest)))))) := by
  simp only [membersAhead, upcoming, Member.chars, Slot.chars, List.append_assoc, List.cons_append]
  cases first with
  | true =>
    have token := Reads.token (c := '"') (blanks.append holds.formed.before) rfl
      (m.key ++ (m.between ++ ':' :: (m.slot.before ++
        (m.slot.value ++ (m.slot.behind ++ membersAhead false ms rest)))))
    rw [List.append_assoc] at token
    exact token.bind (Reads.pure _ _)
  | false =>
    refine (Reads.token blanks rfl _).bind ((Reads.skip _ _).bind ?_)
    exact (Reads.token holds.formed.before rfl _).bind (Reads.pure _ _)

theorem no_member_ahead (blanks : Blanks blank) (first : Bool) :
    Reads (Reader.hasMember first) (blank ++ membersAhead first [] rest) false ('}' :: rest) :=
  (Reads.token blanks rfl rest).bind (Reads.pure _ _)

def Named (m : Member) (name : Option String) : Prop :=
  ∀ rest, Yields Reader.text (m.key ++ rest) name rest

def Tells (one : String → σ → Reader σ) (name : String) (s : σ) (m : Member) (o : Option σ) :
    Prop :=
  ∀ rest, Follows rest →
    Yields (one name s) (m.between ++ ':' :: (m.slot.before ++ (m.slot.value ++ rest))) o rest

/-- What is made of members one after another. -/
inductive Folds (one : String → σ → Reader σ) : σ → List Member → Option σ → Prop where
  | done {s : σ} : Folds one s [] (some s)
  | unnamed {s : σ} {m : Member} {ms : List Member} (named : Named m none) :
      Folds one s (m :: ms) none
  | refused {s : σ} {m : Member} {ms : List Member} {name : String} (named : Named m (some name))
      (told : Tells one name s m none) : Folds one s (m :: ms) none
  | step {s t : σ} {m : Member} {ms : List Member} {name : String} {o : Option σ}
      (named : Named m (some name)) (told : Tells one name s m (some t))
      (later : Folds one t ms o) : Folds one s (m :: ms) o

theorem Named.total (holds : m.Holds) : ∃ name, Named m name := text_yields holds.formed.key

theorem Folds.yields (h : Folds one s ms o) (holds : ∀ m ∈ ms, m.Holds) (first : Bool) {fuel : Nat}
    (enough : ms.length < fuel) (blanks : Blanks blank) :
    Yields (Reader.membersFrom one s first fuel) (blank ++ membersAhead first ms rest) o
      ('}' :: rest) := by
  induction h generalizing first fuel blank with
  | done =>
    obtain ⟨fuel, rfl⟩ := Nat.exists_eq_add_one.mpr enough
    refine .after (no_member_ahead blanks first) ?_
    exact Reads.pure _ _
  | unnamed named =>
    obtain ⟨fuel, rfl⟩ := Nat.exists_eq_add_one.mpr (Nat.zero_lt_of_lt enough)
    refine .after (member_ahead (holds _ (.head _)) blanks first) ?_
    rw [if_pos rfl]
    exact .after (Reads.skip _ _) (Fails.bind_first (named _))
  | @refused s m ms name named told =>
    obtain ⟨fuel, rfl⟩ := Nat.exists_eq_add_one.mpr (Nat.zero_lt_of_lt enough)
    have here := holds m (.head _)
    have follows := (members_follow ms rest).pad here.formed.slot.behind
    refine .after (member_ahead here blanks first) ?_
    rw [if_pos rfl]
    exact .after (Reads.skip _ _) (.after (named _) (Fails.bind_first (told _ follows)))
  | @step s t m ms name o named told later ih =>
    obtain ⟨fuel, rfl⟩ := Nat.exists_eq_add_one.mpr (Nat.zero_lt_of_lt enough)
    have here := holds m (.head _)
    have follows := (members_follow ms rest).pad here.formed.slot.behind
    have others := ih (fun m hm => holds m (.tail _ hm)) false (Nat.lt_of_succ_lt_succ enough)
      here.formed.slot.behind
    refine .after (member_ahead here blanks first) ?_
    rw [if_pos rfl]
    exact .after (Reads.skip _ _) (.after (named _) (.after (told _ follows) others))

def SameMember (one : String → σ → Reader σ) (m n : Member) : Prop :=
  ∃ name, Named m name ∧ Named n name ∧
    ∀ key, name = some key → ∀ s, ∃ o, Tells one key s m o ∧ Tells one key s n o

theorem Folds.alike {ns : List Member} (same : List.Forall₂ (SameMember one) ms ns) (s : σ) :
    ∃ o, Folds one s ms o ∧ Folds one s ns o := by
  induction same generalizing s with
  | nil => exact ⟨some s, .done, .done⟩
  | cons here later ih =>
    obtain ⟨name, first, second, tells⟩ := here
    cases name with
    | none => exact ⟨none, .unnamed first, .unnamed second⟩
    | some key =>
      obtain ⟨o, told, tell⟩ := tells key rfl s
      cases o with
      | none => exact ⟨none, .refused first told, .refused second tell⟩
      | some t =>
        obtain ⟨o, more, rest⟩ := ih t
        exact ⟨o, .step first told more, .step second tell rest⟩

theorem SameMember.refl (steady : ∀ name s m, m.Holds → ∃ o, Tells one name s m o)
    (holds : m.Holds) : SameMember one m m := by
  obtain ⟨name, named⟩ := Named.total holds
  refine ⟨name, named, named, fun key _ s => ?_⟩
  obtain ⟨o, told⟩ := steady key s m holds
  exact ⟨o, told, told⟩

/-- Whatever the members are, it is settled what is made of them. -/
theorem Folds.total (steady : ∀ name s m, m.Holds → ∃ o, Tells one name s m o) (s : σ)
    (holds : ∀ m ∈ ms, m.Holds) : ∃ o, Folds one s ms o := by
  have same : List.Forall₂ (SameMember one) ms ms :=
    List.forall₂_same.mpr fun m hm => .refl steady (holds m hm)
  obtain ⟨o, folds, _⟩ := Folds.alike same s
  exact ⟨o, folds⟩

/-- A member that changes nothing may stand anywhere. -/
theorem Folds.insert {extra : Member} {name : String} {before after : List Member}
    (named : Named extra (some name)) (ignored : ∀ s, Tells one name s extra (some s))
    (h : Folds one s (before ++ after) o) : Folds one s (before ++ extra :: after) o := by
  induction before generalizing s with
  | nil => exact .step named (ignored s) h
  | cons m before ih =>
    cases h with
    | unnamed named => exact .unnamed named
    | refused named told => exact .refused named told
    | step named told later => exact .step named told (ih later)

theorem members_yields (h : Folds one s ms o) (holds : ∀ m ∈ ms, m.Holds) (blanks : Blanks blank) :
    Yields (Reader.members s one) (blank ++ membersAhead true ms rest) o ('}' :: rest) := by
  have short : ms.length ≤ (upcoming Member.chars true ms).length := by
    refine length_le_upcoming _ true fun m _ => ?_
    simp only [Member.chars, List.length_append, List.length_cons]
    omega
  refine .after (Reads.remaining _) (h.yields holds true ?_ blanks)
  simp only [membersAhead, List.length_append]
  omega

theorem field_once_yields {name : String} {seen : Option α} {one : Reader α} {o : Option α}
    (holds : m.Holds) (settled : Settles one m.slot.value o) (follows : Follows rest) :
    Yields (Reader.fieldOnce name seen one)
      (m.between ++ ':' :: (m.slot.before ++ (m.slot.value ++ rest)))
      (if seen.isSome then none else o.map some) rest := by
  cases seen with
  | some a => exact Fails.bind_first (Fails.mismatch _ _)
  | none =>
    refine .after (Reads.colon_behind holds.formed.between _) ?_
    exact .map _ (settled m.slot.before rest holds.formed.slot.before follows)

theorem required_yields (name : String) (o : Option α) (input : List Char) :
    Yields (Reader.required name o) input o input := by
  cases o with
  | some a => exact Reads.pure _ _
  | none => exact Fails.mismatch _ _

end Members

section Records

variable {depth : Nat} {expected : String} {asList asObject : Nat → Reader α} {o : Option α}
  {inside : List Char}

theorem record_array {items : List Slot} (deep : 2 ≤ depth) (blanks : Blanks inside)
    (order : InOrder (asList (depth - 1)) true items o) :
    Settles (Reader.recordValue depth expected asList asObject) ('[' :: arrayTail inside items)
      o := by
  intro blank rest before follows
  rw [List.cons_append, arrayTail_append]
  exact .placed (.after (Reads.token before rfl _) (enclosed_yields _ deep (order _ _ blanks)))

theorem record_array_alike {items others : List Slot} (deep : 2 ≤ depth) (blanks : Blanks inside)
    (same : ∃ o, InOrder (asList (depth - 1)) true items o ∧
      InOrder (asList (depth - 1)) true others o) :
    Alike (Reader.recordValue depth expected asList asObject) ('[' :: arrayTail inside items)
      ('[' :: arrayTail inside others) := by
  obtain ⟨o, first, second⟩ := same
  exact ⟨o, record_array deep blanks first, record_array deep blanks second⟩

def OfMembers (body : Reader α) (ms : List Member) (o : Option α) : Prop :=
  ∀ blank rest, Blanks blank → Yields body (blank ++ membersAhead true ms rest) o ('}' :: rest)

theorem record_object {ms : List Member} (deep : 2 ≤ depth) (blanks : Blanks inside)
    (made : OfMembers (asObject (depth - 1)) ms o) :
    Settles (Reader.recordValue depth expected asList asObject) ('{' :: objectTail inside ms)
      o := by
  intro blank rest before follows
  rw [List.cons_append, objectTail_append]
  refine .placed (.after (Reads.token before rfl _) (enclosed_yields _ deep ?_))
  have body := made inside rest blanks
  cases o with
  | some a => exact ⟨_, body, (Reads.token .nil rfl rest).bind (Reads.skip _ _)⟩
  | none => exact .inl body

theorem record_steady (deep : 2 ≤ depth)
    (ordered : ∀ items, (∀ s ∈ items, s.Holds) → ∃ o, InOrder (asList (depth - 1)) true items o)
    (made : ∀ ms, (∀ m ∈ ms, m.Holds) → ∃ o, OfMembers (asObject (depth - 1)) ms o) :
    Steady (Reader.recordValue depth expected asList asObject) := by
  intro v written
  obtain ⟨c, tail, rfl, opening⟩ := written.opened
  by_cases square : c = '['
  · subst square
    obtain ⟨inside, items, blanks, holds, rfl⟩ := opening.array rfl
    obtain ⟨o, order⟩ := ordered items holds
    exact ⟨o, record_array deep blanks order⟩
  by_cases curly : c = '{'
  · subst curly
    obtain ⟨inside, ms, blanks, holds, rfl⟩ := opening.object rfl
    obtain ⟨o, made⟩ := made ms holds
    exact ⟨o, record_object deep blanks made⟩
  · refine ⟨none, fun blank rest blanks follows => .placed ?_⟩
    refine .after (Reads.token blanks opening.bare _) ?_
    split
    · cases ‹some c = none›
    · exact absurd (Option.some.inj ‹_›) square
    · exact absurd (Option.some.inj ‹_›) curly
    · exact Fails.wrong_type _ _ _

/-- The members are folded, and the fields that were found are put together. -/
theorem of_members {one : String → σ → Reader σ} {f : σ → Reader α} {g : σ → Option α} {s : σ}
    {ms : List Member} {p : Option σ} (folded : Folds one s ms p) (holds : ∀ m ∈ ms, m.Holds)
    (finish : ∀ t input, Yields (f t) input (g t) input) :
    OfMembers (Reader.members s one >>= f) ms (p.bind g) :=
  fun _ _ blanks => .bind g (members_yields folded holds blanks) fun t _ => finish t _

end Records

section Variants

variable {known : List (String × α)} {depth : Nat} {inside : List Char} {m : Member}
  {ms : List Member}

def readNull : Reader Unit := Reader.placed do
  match ← Reader.peekToken with
  | none => Reader.failAhead .endInValue
  | some 'n' => Reader.skip; Reader.word ['u', 'l', 'l']
  | some c => Reader.wrongTypeAt c "unit"

theorem null_steady : Steady readNull := by
  intro v written
  obtain ⟨c, tail, rfl, opening⟩ := written.opened
  by_cases null : c = 'n'
  · subst null
    rw [opening.null rfl]
    refine ⟨some (), fun blank rest blanks follows => .placed ?_⟩
    exact .after (Reads.token blanks rfl _) ((Reads.skip _ _).bind (Reads.word _ rest))
  · refine ⟨none, fun blank rest blanks follows => .placed ?_⟩
    refine .after (Reads.token blanks opening.bare _) ?_
    split
    · cases ‹some c = none›
    · exact absurd (Option.some.inj ‹_›) null
    · exact Fails.wrong_type _ _ _

theorem no_identifier (blanks : Blanks blank) (expected : String) (rest : List Char) :
    Fails (Reader.textFor expected) (blank ++ '}' :: rest) :=
  .placed (.bind (Reads.token blanks rfl _) (Fails.wrong_type _ _ _))

theorem identifier {name : Option String} (holds : m.Holds) (named : Named m name)
    (blanks : Blanks blank) (expected : String) (ms : List Member) (rest : List Char) :
    Yields (Reader.textFor expected) (blank ++ membersAhead true (m :: ms) rest) name
      (m.between ++ ':' :: (m.slot.before ++
        (m.slot.value ++ (m.slot.behind ++ membersAhead false ms rest)))) := by
  have token := Reads.token (c := '"') (blanks.append holds.formed.before) rfl
    (m.key ++ (m.between ++ ':' :: (m.slot.before ++
      (m.slot.value ++ (m.slot.behind ++ membersAhead false ms rest)))))
  have shape : blank ++ membersAhead true (m :: ms) rest = blank ++ m.before ++ '"' ::
      (m.key ++ (m.between ++ ':' :: (m.slot.before ++
        (m.slot.value ++ (m.slot.behind ++ membersAhead false ms rest))))) := by
    simp [membersAhead, upcoming, Reads.comma, Member.chars, Slot.chars]
  rw [shape]
  exact .placed (.after token (.after (Reads.skip _ _) (named _)))

def readVariant (known : List (String × α)) : Reader α := do
  let a ← Reader.placed do Reader.variantOf known (← Reader.textFor "variant identifier")
  Reader.colon
  readNull
  match ← Reader.peekToken with
  | some '}' => Reader.skip; return a
  | some _ => Reader.failHere .expectedValue
  | none => Reader.failHere .endInObject

theorem variant_inside (known : List (String × α)) (blanks : Blanks inside)
    (holds : ∀ m ∈ ms, m.Holds) :
    ∃ o, ∀ rest, Yields (readVariant known) (inside ++ membersAhead true ms rest) o rest := by
  cases ms with
  | nil =>
    exact ⟨none, fun rest => Fails.bind_first (.placed (.bind_first (no_identifier blanks _ rest)))⟩
  | cons m ms =>
    have here := holds m (.head _)
    obtain ⟨name, named⟩ := Named.total here
    have spelled := identifier here named blanks "variant identifier" ms
    have chosen (rest : List Char) := (spelled rest).bind (variantNamed known)
      fun name _ => variant_of known name _
    cases found : name.bind (variantNamed known) with
    | none =>
      rw [found] at chosen
      exact ⟨none, fun rest => Fails.bind_first (.placed (chosen rest))⟩
    | some a =>
      rw [found] at chosen
      obtain ⟨o, null⟩ := null_steady m.slot.value here.written
      have value (rest : List Char) := null m.slot.before _ here.formed.slot.before
        ((members_follow ms rest).pad here.formed.slot.behind)
      have colon (rest : List Char) := Reads.colon_behind here.formed.between rest
      cases o with
      | none =>
        exact ⟨none, fun rest => .after (Reads.placed (chosen rest))
          (.after (colon _) (Fails.bind_first (value rest)))⟩
      | some done =>
        cases ms with
        | nil =>
          refine ⟨some a, fun rest => .after (Reads.placed (chosen rest)) (.after (colon _)
            (.after (value rest) ?_))⟩
          exact (Reads.token here.formed.slot.behind rfl rest).bind
            ((Reads.skip _ _).bind (Reads.pure a rest))
        | cons next ms =>
          refine ⟨none, fun rest => .after (Reads.placed (chosen rest)) (.after (colon _)
            (.after (value rest) ?_))⟩
          exact Fails.bind (Reads.token here.formed.slot.behind rfl _) (Fails.here _ _)

/-- Only the first member of an object counts for the variant, and it must be the only one. -/
theorem variant_object (deep : 2 ≤ depth) (blanks : Blanks inside) (holds : ∀ m ∈ ms, m.Holds) :
    ∃ o, Settles (Reader.variant depth known) ('{' :: objectTail inside ms) o := by
  obtain ⟨o, read⟩ := variant_inside known blanks holds
  have shallow : ¬ depth ≤ 1 := by omega
  refine ⟨o, fun blank rest before follows => ?_⟩
  rw [List.cons_append, objectTail_append]
  refine .after (Reads.token before rfl _) ?_
  simp only [if_neg shallow]
  exact .after (Reads.skip _ _) (read rest)

theorem variant_steady (known : List (String × α)) (deep : 2 ≤ depth) :
    Steady (Reader.variant depth known) := by
  intro v written
  obtain ⟨c, tail, rfl, opening⟩ := written.opened
  by_cases quote : c = '"'
  · subst quote
    obtain ⟨name, read⟩ := text_yields (opening.text rfl)
    refine ⟨name.bind (variantNamed known), fun blank rest blanks follows => ?_⟩
    refine .after (Reads.token blanks rfl _) (.placed (.after (Reads.skip _ _) ?_))
    exact .bind _ (read rest) fun name _ => variant_of known name rest
  by_cases curly : c = '{'
  · subst curly
    obtain ⟨inside, ms, blanks, holds, rfl⟩ := opening.object rfl
    exact variant_object deep blanks holds
  · refine ⟨none, fun blank rest blanks follows => ?_⟩
    refine .after (Reads.token blanks opening.bare _) ?_
    split
    · cases ‹some c = none›
    · exact absurd (Option.some.inj ‹_›) quote
    · exact absurd (Option.some.inj ‹_›) curly
    · exact Fails.ahead _ _

end Variants

section Lists

variable {one : Reader α} {items : List Slot} {os : List (Option α)}

theorem mapM_some (a : α) (os : List (Option α)) :
    (some a :: os).mapM id = (os.mapM id).map (a :: ·) := by
  cases h : os.mapM id <;> simp [h]

theorem mapM_eq_some {as : List α} : os.mapM id = some as ↔ os = as.map some := by
  induction os generalizing as with
  | nil => cases as <;> simp
  | cons o os ih =>
    cases o with
    | none => cases as <;> simp
    | some a =>
      rw [mapM_some, Option.map_eq_some_iff]
      constructor
      · rintro ⟨others, all, rfl⟩
        rw [ih.mp all, List.map_cons]
      · intro all
        cases as with
        | nil => cases all
        | cons b as =>
          obtain ⟨⟨rfl⟩, rfl⟩ := List.cons.inj all
          exact ⟨as, ih.mpr rfl, rfl⟩

theorem items_from_yields (settled : List.Forall₂ (fun s o => Settles one s.value o) items os)
    (holds : ∀ s ∈ items, s.Holds) (first : Bool) {fuel : Nat} (enough : items.length < fuel)
    (blanks : Blanks blank) :
    Yields (Reader.itemsFrom one first fuel) (blank ++ itemsAhead first items rest) (os.mapM id)
      (']' :: rest) := by
  induction settled generalizing first fuel blank with
  | nil =>
    obtain ⟨fuel, rfl⟩ := Nat.exists_eq_add_one.mpr enough
    exact .after (item_missing blanks first) (Reads.pure _ _)
  | @cons s o items os here later ih =>
    obtain ⟨fuel, rfl⟩ := Nat.exists_eq_add_one.mpr (Nat.zero_lt_of_lt enough)
    have held := holds s (.head _)
    have item := item_yields held here blanks first items rest
    have others := ih (fun t ht => holds t (.tail _ ht)) false (Nat.lt_of_succ_lt_succ enough)
      held.padded.behind
    cases o with
    | none => exact Fails.bind_first item
    | some a =>
      rw [mapM_some]
      exact .after item (others.map (a :: ·))

theorem list_yields {one : Nat → Reader α} {depth : Nat} {expected : String} {inside : List Char}
    (deep : 2 ≤ depth) (blanks : Blanks inside) (holds : ∀ s ∈ items, s.Holds)
    (settled : List.Forall₂ (fun s o => Settles (one (depth - 1)) s.value o) items os)
    (rest : List Char) :
    Yields (Reader.listValue depth expected fun inner => Reader.items (one inner))
      ('[' :: (arrayTail inside items ++ rest)) (os.mapM id) rest := by
  have short : items.length ≤ (upcoming Slot.chars true items).length := by
    refine length_le_upcoming _ true fun s hs => ?_
    have some := (holds s hs).written.some
    simp only [Slot.chars, List.length_append]
    omega
  have all : Yields (Reader.items (one (depth - 1))) (inside ++ itemsAhead true items rest)
      (os.mapM id) (']' :: rest) := by
    refine .after (Reads.remaining _) (items_from_yields settled holds true ?_ blanks)
    simp only [itemsAhead, List.length_append]
    omega
  rw [arrayTail_append]
  refine .placed (.after (Reads.token .nil rfl _) (enclosed_yields _ deep ?_))
  cases read : os.mapM id with
  | some as =>
    rw [read] at all
    exact ⟨_, all, Reads.list_end rest⟩
  | none =>
    rw [read] at all
    exact .inl all

end Lists

theorem Yields.run {r : Reader α} {o : Option α} (h : Yields r input o []) :
    (∃ a, o = some a ∧ Reader.run r input = .ok a) ∨
    ∃ fault, o = none ∧ Reader.run r input = .error fault := by
  cases o with
  | some a => exact .inl ⟨a, rfl, Reads.run h⟩
  | none =>
    obtain ⟨fault, after, read⟩ := h ⟨1, 0⟩
    refine .inr ⟨fault, rfl, ?_⟩
    simp only [Reader.run, Cursor.start, Bind.bind, ExceptT.bind, ExceptT.mk, StateT.bind, read]
    rfl

end MarkupLint.Json
