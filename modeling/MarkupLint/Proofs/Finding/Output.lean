import Mathlib.Data.List.TakeWhile
import MarkupLint.Finding.Output
import MarkupLint.Proofs.Json.Compact

/-! The linter's output is read all or nothing, finding by finding. -/
namespace MarkupLint.Finding

open Json
open Json.Reader (fieldOnce ignoredField required requiredItem natural32 textValue variant)

variable {depth : Nat} {m : Member}

section Readers

def Location.field (name : String) (p : PartialLocation) : Reader PartialLocation :=
  match name with
  | "line" => do return { p with line := ← fieldOnce name p.line natural32 }
  | "col" => do return { p with column := ← fieldOnce name p.column natural32 }
  | _ => do ignoredField; return p

def nodeField (depth : Nat) (name : String) (p : Option Location) : Reader (Option Location) :=
  match name with
  | "location" => fieldOnce name p (Location.read depth)
  | _ => do ignoredField; return p

def field (depth : Nat) (name : String) (p : PartialFinding) : Reader PartialFinding :=
  match name with
  | "ruleName" => do return { p with ruleName := ← fieldOnce name p.ruleName textValue }
  | "type" => do return { p with kind := ← fieldOnce name p.kind (variant depth Kind.names) }
  | "message" => do return { p with message := ← fieldOnce name p.message textValue }
  | "node" => do return { p with node := ← fieldOnce name p.node (readNode depth) }
  | _ => do ignoredField; return p

theorem ignored {σ : Type} (holds : m.Holds) (s : σ) {rest : List Char} (follows : Follows rest) :
    Reads (do ignoredField; return s)
      (m.between ++ ':' :: (m.slot.before ++ (m.slot.value ++ rest))) s rest :=
  (ignored_field holds.written holds.formed.between holds.formed.slot.before follows).bind
    (Reads.pure s rest)

theorem Location.tells (name : String) (p : PartialLocation) (m : Member) (holds : m.Holds) :
    ∃ o, Tells Location.field name p m o := by
  obtain ⟨o, natural⟩ := natural_steady m.slot.value holds.written
  unfold Tells Location.field
  split
  · exact ⟨_, fun rest follows => .map _ (field_once_yields holds natural follows)⟩
  · exact ⟨_, fun rest follows => .map _ (field_once_yields holds natural follows)⟩
  · exact ⟨some p, fun rest follows => ignored holds p follows⟩

theorem Location.finish (p : PartialLocation) (input : List Char) :
    Yields (do return (⟨← required "line" p.line, ← required "col" p.column⟩ : Location)) input
      (p.line.bind fun line => p.column.map fun column => ⟨line, column⟩) input :=
  .bind _ (required_yields _ _ _) fun _ _ => .map _ (required_yields _ _ _)

theorem Location.steady (deep : 2 ≤ depth) : Steady (Location.read depth) := by
  refine record_steady deep ?_ ?_
  · refine InOrder.settled natural_steady fun line => ?_
    refine InOrder.settled natural_steady fun column items _ => ?_
    exact InOrder.done_settled _ items
  · intro ms holds
    obtain ⟨p, folds⟩ := Folds.total Location.tells ⟨none, none⟩ holds
    exact ⟨_, Json.of_members folds holds Location.finish⟩

theorem node_tells (deep : 2 ≤ depth) (name : String) (p : Option Location) (m : Member)
    (holds : m.Holds) : ∃ o, Tells (nodeField depth) name p m o := by
  obtain ⟨o, location⟩ := Location.steady deep m.slot.value holds.written
  unfold Tells nodeField
  split
  · exact ⟨_, fun rest follows => field_once_yields holds location follows⟩
  · exact ⟨some p, fun rest follows => ignored holds p follows⟩

theorem node_finish (p : Option Location) (input : List Char) :
    Yields (required "location" p) input p input :=
  required_yields _ p input

theorem node_steady (deep : 3 ≤ depth) : Steady (readNode depth) := by
  refine record_steady (by omega) ?_ ?_
  · intro items holds
    rw [← bind_pure (requiredItem 0 _ _)]
    exact InOrder.settled (Location.steady (by omega)) (fun node items _ =>
      InOrder.done_settled node items) items holds
  · intro ms holds
    obtain ⟨p, folds⟩ := Folds.total (node_tells (show 2 ≤ depth - 1 by omega)) none holds
    exact ⟨_, of_members folds holds node_finish⟩

theorem field_tells (deep : 3 ≤ depth) (name : String) (p : PartialFinding) (m : Member)
    (holds : m.Holds) : ∃ o, Tells (field depth) name p m o := by
  obtain ⟨text, texts⟩ := text_steady "a string" m.slot.value holds.written
  obtain ⟨kind, kinds⟩ := variant_steady Kind.names (show 2 ≤ depth by omega) m.slot.value
    holds.written
  obtain ⟨node, nodes⟩ := node_steady deep m.slot.value holds.written
  unfold Tells field
  split
  · exact ⟨_, fun rest follows => .map _ (field_once_yields holds texts follows)⟩
  · exact ⟨_, fun rest follows => .map _ (field_once_yields holds kinds follows)⟩
  · exact ⟨_, fun rest follows => .map _ (field_once_yields holds texts follows)⟩
  · exact ⟨_, fun rest follows => .map _ (field_once_yields holds nodes follows)⟩
  · exact ⟨some p, fun rest follows => ignored holds p follows⟩

def PartialFinding.whole (p : PartialFinding) : Option Finding := do
  let ruleName ← p.ruleName
  let kind ← p.kind
  let message ← p.message
  let node ← p.node
  return ⟨ruleName, kind, message, node.line, node.column⟩

theorem finish (p : PartialFinding) (input : List Char) : Yields (do
    let ruleName ← required "ruleName" p.ruleName
    let kind ← required "type" p.kind
    let message ← required "message" p.message
    let node ← required "node" p.node
    return (⟨ruleName, kind, message, node.line, node.column⟩ : Finding)) input p.whole input :=
  .bind _ (required_yields _ _ _) fun _ _ => .bind _ (required_yields _ _ _) fun _ _ =>
    .bind _ (required_yields _ _ _) fun _ _ => .bind _ (required_yields _ _ _) fun _ _ =>
      Reads.pure _ _

theorem read_steady (deep : 4 ≤ depth) : Steady (Finding.read depth) := by
  refine record_steady (by omega) ?_ ?_
  · refine InOrder.settled (text_steady _) fun ruleName => ?_
    refine InOrder.settled (variant_steady Kind.names (by omega)) fun kind => ?_
    refine InOrder.settled (text_steady _) fun message => ?_
    refine InOrder.settled (node_steady (by omega)) fun node items _ => ?_
    exact InOrder.done_settled _ items
  · intro ms holds
    obtain ⟨p, folds⟩ := Folds.total (field_tells (show 3 ≤ depth - 1 by omega))
      ⟨none, none, none, none⟩ holds
    exact ⟨_, of_members folds holds finish⟩

end Readers

section Extra

variable {x y : List Char}

inductive ExtraMember (known : List String) : List Char → List Char → Prop where
  | mk {inside : List Char} {before after : List Member} {extra : Member} {name : String}
      (blanks : Blanks inside) (holds : ∀ m ∈ before ++ extra :: after, m.Holds)
      (named : Spelled extra.key name.toList) (unknown : name ∉ known) :
      ExtraMember known ('{' :: objectTail inside (before ++ extra :: after))
        ('{' :: objectTail inside (before ++ after))

def fieldNames : List String := ["ruleName", "type", "message", "node"]

def nodeFieldNames : List String := ["location"]

/-- One finding has an unknown field more than the other, or its node has; in the form of an array
the node is the fourth item. -/
inductive Extended : List Char → List Char → Prop where
  | finding {x y : List Char} (extra : ExtraMember fieldNames x y) : Extended x y
  | node {inside y : List Char} {before after : List Member} {m : Member} (blanks : Blanks inside)
      (holds : ∀ k ∈ before ++ m :: after, k.Holds) (named : Spelled m.key "node".toList)
      (extra : ExtraMember nodeFieldNames m.slot.value y) :
      Extended ('{' :: objectTail inside (before ++ m :: after))
        ('{' :: objectTail inside (before ++ m.put y :: after))
  | item {inside y : List Char} {a b c s : Slot} {after : List Slot} (blanks : Blanks inside)
      (holds : ∀ t ∈ a :: b :: c :: s :: after, t.Holds)
      (extra : ExtraMember nodeFieldNames s.value y) :
      Extended ('[' :: arrayTail inside (a :: b :: c :: s :: after))
        ('[' :: arrayTail inside (a :: b :: c :: s.put y :: after))

theorem holds_without {before after : List Member} {extra : Member}
    (holds : ∀ m ∈ before ++ extra :: after, m.Holds) : ∀ m ∈ before ++ after, m.Holds := by
  intro m hm
  refine holds m ?_
  rw [List.mem_append, List.mem_cons]
  exact (List.mem_append.mp hm).imp_right .inr

theorem ExtraMember.written {known : List String} (extra : ExtraMember known x y) : Written y := by
  obtain ⟨blanks, holds, named, unknown⟩ := extra
  have rest := holds_without holds
  exact .object blanks (fun m hm => (rest m hm).formed) fun m hm => (rest m hm).written

/-- A record is read alike with an unknown member and without it. -/
theorem extra_alike {α σ : Type} {expected : String} {asList asObject : Nat → Json.Reader α}
    {one : String → σ → Json.Reader σ} {f : σ → Json.Reader α} {g : σ → Option α} {s : σ}
    {known : List String} (deep : 2 ≤ depth)
    (body : asObject (depth - 1) = Json.Reader.members s one >>= f)
    (tells : ∀ name t m, m.Holds → ∃ o, Tells one name t m o)
    (ignores : ∀ name ∉ known, ∀ t m, m.Holds → Tells one name t m (some t))
    (finish : ∀ t input, Yields (f t) input (g t) input) (extra : ExtraMember known x y) :
    Alike (Json.Reader.recordValue depth expected asList asObject) x y := by
  cases extra with
  | @mk inside before after extra name blanks holds named unknown =>
    have held := holds extra (by simp)
    have rest := holds_without holds
    obtain ⟨p, folds⟩ := Folds.total tells s rest
    have more : Folds one s (before ++ extra :: after) p :=
      .insert named.reads (fun t => ignores name unknown t extra held) folds
    refine ⟨p.bind g, record_object deep blanks ?_, record_object deep blanks ?_⟩
    · rw [body]
      exact of_members more holds finish
    · rw [body]
      exact of_members folds rest finish

theorem node_ignores (name : String) (unknown : name ∉ nodeFieldNames) (p : Option Location)
    (m : Member) (holds : m.Holds) : Tells (nodeField depth) name p m (some p) := by
  intro rest follows
  unfold nodeField
  split
  · simp [nodeFieldNames] at unknown
  · exact ignored holds p follows

theorem field_ignores (name : String) (unknown : name ∉ fieldNames) (p : PartialFinding)
    (m : Member) (holds : m.Holds) : Tells (field depth) name p m (some p) := by
  intro rest follows
  unfold field
  split
  all_goals first
    | exact ignored holds p follows
    | simp [fieldNames] at unknown

theorem node_alike (deep : 3 ≤ depth) (extra : ExtraMember nodeFieldNames x y) :
    Alike (readNode depth) x y :=
  extra_alike (by omega) rfl (node_tells (show 2 ≤ depth - 1 by omega)) node_ignores node_finish
    extra

theorem node_member (deep : 3 ≤ depth) (holds : m.Holds) (named : Spelled m.key "node".toList)
    (extra : ExtraMember nodeFieldNames m.slot.value y) :
    SameMember (field depth) m (m.put y) := by
  obtain ⟨o, here, there⟩ := node_alike deep extra
  have held := holds.put extra.written
  refine ⟨some "node", named.reads, named.reads, fun key same p => ?_⟩
  cases same
  exact ⟨_, fun rest follows => .map _ (field_once_yields holds here follows),
    fun rest follows => .map _ (field_once_yields held there follows)⟩

theorem holds_put {before after : List Member} (holds : ∀ k ∈ before ++ m :: after, k.Holds)
    (written : Written y) : ∀ k ∈ before ++ m.put y :: after, k.Holds := by
  intro k hk
  rcases List.mem_append.mp hk with h | h
  · exact holds k (List.mem_append_left _ h)
  · rcases List.mem_cons.mp h with rfl | h
    · exact (holds m (by simp)).put written
    · exact holds k (List.mem_append_right _ (.tail _ h))

/-- An unknown field of a finding or of its node changes nothing. -/
theorem extended_alike (deep : 4 ≤ depth) (extended : Extended x y) :
    Alike (Finding.read depth) x y := by
  have tells := field_tells (show 3 ≤ depth - 1 by omega)
  cases extended with
  | finding extra => exact extra_alike (by omega) rfl tells field_ignores finish extra
  | @node inside y before after m blanks holds named extra =>
    have held := holds_put holds extra.written
    have same : List.Forall₂ (SameMember (field (depth - 1))) (before ++ m :: after)
        (before ++ m.put y :: after) := by
      have refl (ms : List Member) (holds : ∀ k ∈ ms, k.Holds) :
          List.Forall₂ (SameMember (field (depth - 1))) ms ms :=
        List.forall₂_same.mpr fun k hk => .refl tells (holds k hk)
      refine List.rel_append (refl before fun k hk => holds k (List.mem_append_left _ hk)) ?_
      refine .cons (node_member (by omega) (holds m (by simp)) named extra) ?_
      exact refl after fun k hk => holds k (List.mem_append_right _ (.tail _ hk))
    obtain ⟨p, first, second⟩ := Folds.alike same ⟨none, none, none, none⟩
    exact ⟨_, record_object (by omega) blanks (of_members first holds finish),
      record_object (by omega) blanks (of_members second held finish)⟩
  | @item inside y a b c s after blanks holds extra =>
    have ha := holds a (by simp)
    have hb := holds b (by simp)
    have hc := holds c (by simp)
    have hs := holds s (by simp)
    refine record_array_alike (by omega) blanks ?_
    refine InOrder.alike ha ha ((text_steady _).alike ha.written) fun ruleName => ?_
    refine InOrder.alike hb hb ((variant_steady _ (by omega)).alike hb.written) fun kind => ?_
    refine InOrder.alike hc hc ((text_steady _).alike hc.written) fun message => ?_
    refine InOrder.alike hs (hs.put extra.written) (node_alike (by omega) extra) fun node => ?_
    exact (InOrder.done_settled _ after).imp fun _ order => ⟨order, order⟩

end Extra

section Whole

variable {x y : List Char} {xs : List (List Char)} {o : Option Finding}
  {os : List (Option Finding)}

def bracketed (xs : List (List Char)) : List Char := '[' :: (listed id xs ++ [']'])

theorem bracketed_slots (slots : List Slot) :
    bracketed (slots.map Slot.chars) = '[' :: arrayTail [] slots := by
  rw [bracketed, listed_map]
  rfl

theorem trim_around {a b mid : List Char} {c d : Char} (before : ∀ w ∈ a, Text.isBlank w = true)
    (after : ∀ w ∈ b, Text.isBlank w = true) (first : Text.isBlank c = false)
    (last : Text.isBlank d = false) :
    Text.trim (a ++ (c :: (mid ++ [d])) ++ b) = c :: (mid ++ [d]) := by
  have behind : ∀ w ∈ b.reverse, Text.isBlank w = true := by simpa using after
  have front : Text.trimStart (a ++ (c :: (mid ++ [d])) ++ b) = c :: (mid ++ [d]) ++ b := by
    rw [Text.trimStart, List.append_assoc, List.dropWhile_append_of_pos before, List.cons_append,
      List.dropWhile_cons_of_neg (by simp [first])]
  have back : (c :: (mid ++ [d]) ++ b).reverse = b.reverse ++ d :: (mid.reverse ++ [c]) := by simp
  rw [Text.trim, front, Text.trimEnd, back, List.dropWhile_append_of_pos behind,
    List.dropWhile_cons_of_neg (by simp [last])]
  simp

theorem trim_blank {a : List Char} (blank : ∀ w ∈ a, Text.isBlank w = true) :
    Text.trim a = [] := by
  have front : Text.trimStart a = [] := List.dropWhile_eq_nil_iff.mpr blank
  rw [Text.trim, front]
  rfl

def Outcome (x : List Char) (o : Option Finding) : Prop :=
  ∃ s : Slot, s.Holds ∧ s.chars = x ∧ Settles (Finding.read (depthLimit - 1)) s.value o

theorem outcome_total (document : IsDocument x) : ∃ o, Outcome x o := by
  obtain ⟨s, holds, shape⟩ := document
  have deep : 4 ≤ depthLimit - 1 := by decide
  obtain ⟨o, settled⟩ := read_steady deep s.value holds.written
  exact ⟨o, s, holds, shape, settled⟩

theorem outcomes_slots (h : List.Forall₂ Outcome xs os) :
    ∃ slots : List Slot, (∀ s ∈ slots, s.Holds) ∧ slots.map Slot.chars = xs ∧
      List.Forall₂ (fun s o => Settles (Finding.read (depthLimit - 1)) s.value o) slots os := by
  induction h with
  | nil => exact ⟨[], nofun, rfl, .nil⟩
  | cons here later ih =>
    obtain ⟨s, holds, shape, settled⟩ := here
    obtain ⟨slots, held, shapes, each⟩ := ih
    refine ⟨s :: slots, ?_, by rw [List.map_cons, shape, shapes], .cons settled each⟩
    exact List.forall_mem_cons.mpr ⟨holds, held⟩

/-- White space around the array of the items does not count. -/
theorem output_yields {a b : List Char} (before : ∀ w ∈ a, Text.isBlank w = true)
    (after : ∀ w ∈ b, Text.isBlank w = true) (h : List.Forall₂ Outcome xs os) :
    (∃ fs, os.mapM id = some fs ∧ ofOutput (a ++ bracketed xs ++ b) = .ok fs) ∨
    ∃ message, os.mapM id = none ∧
      ofOutput (a ++ bracketed xs ++ b) = .error (.output message) := by
  obtain ⟨slots, holds, rfl, settled⟩ := outcomes_slots h
  have trimmed : Text.trim (a ++ bracketed (slots.map Slot.chars) ++ b) =
      '[' :: arrayTail [] slots := by
    rw [bracketed_slots]
    exact trim_around before after rfl rfl
  have deep : 2 ≤ depthLimit := by decide
  have all : Yields (readAll depthLimit) ('[' :: (arrayTail [] slots ++ [])) _ [] :=
    list_yields deep .nil holds settled []
  rw [List.append_nil] at all
  rcases all.run with ⟨fs, read, run⟩ | ⟨fault, read, run⟩
  · exact .inl ⟨fs, read, by simp only [ofOutput, trimmed, run]⟩
  · exact .inr ⟨fault.message, read, by simp only [ofOutput, trimmed, run]⟩

theorem bracketed_yields (h : List.Forall₂ Outcome xs os) :
    (∃ fs, os = fs.map some ∧ ofOutput (bracketed xs) = .ok fs) ∨
    ∃ message, (∀ fs : List Finding, os ≠ fs.map some) ∧
      ofOutput (bracketed xs) = .error (.output message) := by
  have none : ∀ w ∈ ([] : List Char), Text.isBlank w = true := nofun
  have read := output_yields none none h
  rw [List.nil_append, List.append_nil] at read
  rcases read with ⟨fs, all, run⟩ | ⟨message, refused, run⟩
  · exact .inl ⟨fs, mapM_eq_some.mp all, run⟩
  · refine .inr ⟨message, fun fs all => ?_, run⟩
    rw [mapM_eq_some.mpr all] at refused
    cases refused

theorem alone_iff (h : Outcome x o) {part : List Finding} :
    ofOutput (bracketed [x]) = .ok part ↔ ∃ f, o = some f ∧ part = [f] := by
  rcases bracketed_yields (.cons h .nil) with ⟨fs, all, run⟩ | ⟨message, refused, run⟩
  · rw [run]
    cases o with
    | none => cases fs <;> cases all
    | some f =>
      obtain rfl : fs = [f] := by
        cases fs with
        | nil => cases all
        | cons g fs => cases fs <;> simp_all
      simp [eq_comm]
  · rw [run]
    cases o with
    | none => simp
    | some f => exact absurd rfl (refused [f])

theorem parts_iff (h : List.Forall₂ Outcome xs os) {parts : List (List Finding)} :
    List.Forall₂ (fun x part => ofOutput (bracketed [x]) = .ok part) xs parts ↔
      ∃ fs : List Finding, os = fs.map some ∧ parts = fs.map fun f => [f] := by
  induction h generalizing parts with
  | nil =>
    simp only [List.forall₂_nil_left_iff]
    constructor
    · rintro rfl
      exact ⟨[], rfl, rfl⟩
    · rintro ⟨fs, none, rfl⟩
      cases fs with
      | nil => rfl
      | cons f fs => cases none
  | cons here later ih =>
    rw [List.forall₂_cons_left_iff]
    constructor
    · rintro ⟨part, rest, first, others, rfl⟩
      obtain ⟨f, rfl, rfl⟩ := (alone_iff here).mp first
      obtain ⟨fs, rfl, rfl⟩ := ih.mp others
      exact ⟨f :: fs, rfl, rfl⟩
    · rintro ⟨fs, all, rfl⟩
      cases fs with
      | nil => cases all
      | cons f fs =>
        obtain ⟨rfl, rfl⟩ := List.cons.inj all
        exact ⟨[f], _, (alone_iff here).mpr ⟨f, rfl, rfl⟩, ih.mpr ⟨fs, rfl, rfl⟩, rfl⟩

theorem exists_related {α β : Type} {R : α → β → Prop} {as : List α} :
    (∃ bs, List.Forall₂ R as bs) ↔ ∀ a ∈ as, ∃ b, R a b := by
  constructor
  · rintro ⟨bs, related⟩
    induction related with
    | nil => exact nofun
    | cons here later ih => exact List.forall_mem_cons.mpr ⟨⟨_, here⟩, ih⟩
  · intro each
    induction as with
    | nil => exact ⟨[], .nil⟩
    | cons a as ih =>
      obtain ⟨b, here⟩ := each a (.head _)
      obtain ⟨bs, later⟩ := ih fun c hc => each c (.tail _ hc)
      exact ⟨b :: bs, .cons here later⟩

theorem extended_outcome {s t : Slot} (hs : s.Holds) (ht : t.Holds)
    (extended : Extended s.value t.value) : ∃ o, Outcome s.chars o ∧ Outcome t.chars o := by
  have deep : 4 ≤ depthLimit - 1 := by decide
  obtain ⟨o, first, second⟩ := extended_alike deep extended
  exact ⟨o, ⟨s, hs, rfl, first⟩, ⟨t, ht, rfl, second⟩⟩

/-- The items of an array are read as if each were alone, and all of them are read or none. -/
structure AllOrNothing (xs : List (List Char)) : Prop where
  succeeds : (∃ fs, ofOutput (bracketed xs) = .ok fs) ↔
    ∀ x ∈ xs, ∃ part, ofOutput (bracketed [x]) = .ok part
  joined : ∀ parts, List.Forall₂ (fun x part => ofOutput (bracketed [x]) = .ok part) xs parts →
    ofOutput (bracketed xs) = .ok parts.flatten
  refused : (∃ x ∈ xs, ∀ part, ofOutput (bracketed [x]) ≠ .ok part) →
    ∃ message, ofOutput (bracketed xs) = .error (.output message)
  kept : ∀ x ∈ xs, ∀ part, ofOutput (bracketed [x]) = .ok part → ∃ f, part = [f]

theorem all_or_nothing (documents : ∀ x ∈ xs, IsDocument x) : AllOrNothing xs := by
  obtain ⟨os, outcomes⟩ := exists_related.mpr fun x hx => outcome_total (documents x hx)
  have whole := bracketed_yields outcomes
  have joined (parts : List (List Finding))
      (each : List.Forall₂ (fun x part => ofOutput (bracketed [x]) = .ok part) xs parts) :
      ofOutput (bracketed xs) = .ok parts.flatten := by
    obtain ⟨fs, all, rfl⟩ := (parts_iff outcomes).mp each
    rcases whole with ⟨gs, same, run⟩ | ⟨message, refused, run⟩
    · have equal : gs = fs :=
        List.map_injective_iff.mpr (Option.some_injective _) (same.symm.trans all)
      rw [run, equal, ← List.flatMap_def, List.flatMap_singleton']
    · exact absurd all (refused fs)
  have parted : (∃ fs, ofOutput (bracketed xs) = .ok fs) →
      ∀ x ∈ xs, ∃ part, ofOutput (bracketed [x]) = .ok part := by
    rintro ⟨fs, read⟩
    rcases whole with ⟨gs, all, run⟩ | ⟨message, refused, run⟩
    · exact exists_related.mp ⟨_, (parts_iff outcomes).mpr ⟨gs, all, rfl⟩⟩
    · rw [run] at read
      cases read
  refine ⟨⟨parted, fun each => ?_⟩, joined, ?_, ?_⟩
  · obtain ⟨parts, related⟩ := exists_related.mpr each
    exact ⟨_, joined parts related⟩
  · rintro ⟨x, hx, fails⟩
    rcases whole with ⟨fs, all, run⟩ | ⟨message, refused, run⟩
    · obtain ⟨part, read⟩ := parted ⟨fs, run⟩ x hx
      exact absurd read (fails part)
    · exact ⟨message, run⟩
  · intro x hx part read
    obtain ⟨o, outcome⟩ := outcome_total (documents x hx)
    obtain ⟨f, _, shape⟩ := (alone_iff outcome).mp read
    exact ⟨f, shape⟩

/-- The linter's output is read all or nothing, and unknown fields do not matter. -/
theorem output_whole (documents : ∀ x ∈ xs, IsDocument x) : AllOrNothing xs ∧
    ∀ s t : Slot, s.Holds → t.Holds → Extended s.value t.value → ∀ part,
      ofOutput (bracketed [s.chars]) = .ok part ↔ ofOutput (bracketed [t.chars]) = .ok part := by
  refine ⟨all_or_nothing documents, fun s t hs ht extended part => ?_⟩
  obtain ⟨o, first, second⟩ := extended_outcome hs ht extended
  rw [alone_iff first, alone_iff second]

def unclosedFields : List (String × Json) :=
  [("ruleName", .text "tag-close"), ("type", .text "warn"), ("message", .text "Tag is not closed"),
    ("node", .object [("location", .object [("line", .natural 2), ("col", .natural 1)])])]

theorem null_among_findings :
    let x := (Json.object unclosedFields).chars
    let more := (Json.object (("page", .null) :: unclosedFields)).chars
    let null := ['n', 'u', 'l', 'l']
    (∀ y ∈ [x, null], IsDocument y) ∧ AllOrNothing [x, null] ∧
    (∀ part, ofOutput (bracketed [null]) ≠ .ok part) ∧
    (∃ message, ofOutput (bracketed [x, null]) = .error (.output message)) ∧
    ∀ part, ofOutput (bracketed [more]) = .ok part ↔ ofOutput (bracketed [x]) = .ok part := by
  intro x more null
  have written : Slot.Holds (.tight x) := Slot.tight_holds (chars_written (by decide))
  have longer : Slot.Holds (.tight more) := Slot.tight_holds (chars_written (by decide))
  have first : IsDocument x := ⟨.tight x, written, Slot.tight_chars x⟩
  have second : IsDocument null := ⟨.tight null, Slot.tight_holds .null, rfl⟩
  have documents : ∀ y ∈ [x, null], IsDocument y := by
    simpa using ⟨first, second⟩
  obtain ⟨whole, extended⟩ := output_whole documents
  have refused : ∀ part, ofOutput (bracketed [null]) ≠ .ok part := nofun
  refine ⟨documents, whole, refused, whole.refused ⟨null, by simp, refused⟩, ?_⟩
  have integral := (isIntegral_object (("page", Json.null) :: unclosedFields)).mp (by decide)
  have holds : ∀ m ∈ (("page", Json.null) :: unclosedFields).map
      fun m => Member.tight (m.1, m.2.chars), m.Holds := by
    intro m hm
    obtain ⟨named, there, rfl⟩ := List.mem_map.mp hm
    exact Member.tight_holds (chars_written (integral named there))
  have extra : ExtraMember fieldNames more x := by
    show ExtraMember fieldNames (Json.chars _) (Json.chars _)
    rw [object_tight, object_tight]
    exact @ExtraMember.mk fieldNames [] [] _ _ "page" .nil holds (quoted_spelled "page") (by decide)
  have alike := extended (.tight more) (.tight x) longer written (.finding extra)
  simpa only [Slot.tight_chars] using alike

end Whole

end MarkupLint.Finding
