import Mathlib.Logic.Function.Basic
import MarkupLint.Proofs.Adapter.Moves

/-! The publish lock: exactly the tasks that wait for it or hold it are in its queue, and whoever is
inside is at the head. -/
namespace MarkupLint

variable {L : Type}

/-- How a task stands towards the publish lock. -/
inductive Standing where
  | outside
  | waiting
  | inside
  deriving DecidableEq

def Stage.standing : Stage → Standing
  | .queued _ => .waiting
  | .publishing _ => .inside
  | .published _ => .inside
  | _ => .outside

def Task.standing : Task → Standing
  | .passing _ stage _ _ => stage.standing
  | .closing _ => .waiting
  | .deleting _ => .inside
  | .deleted _ => .inside
  | _ => .outside

inductive LockMove (id : TaskId) : List TaskId × Standing → List TaskId × Standing → Prop where
  | stay (queue : List TaskId) (st : Standing) : LockMove id (queue, st) (queue, st)
  | join (queue : List TaskId) : LockMove id (queue, .outside) (queue ++ [id], .waiting)
  | take (queue : List TaskId) (first : queue.head? = some id) :
      LockMove id (queue, .waiting) (queue, .inside)
  | quit (queue : List TaskId) (st : Standing) (entered : st ≠ .outside)
      (first : st = .waiting → queue.head? = some id) :
      LockMove id (queue, st) (queue.tail, .outside)

theorem Asks.standing {t : Task} {uri : Url} {k : Lookup → Task} (asks : Asks t uri k) :
    t.standing = .outside ∧ ∀ l, (k l).standing = .outside := by
  cases asks <;> exact ⟨rfl, fun _ => rfl⟩

theorem TaskMove.lock {id : TaskId} {x y : Adapter L × Task} (m : TaskMove id x y) :
    LockMove id (x.1.queue, x.2.standing) (y.1.queue, y.2.standing) := by
  cases m with
  | find _ asks _ _ => rw [asks.standing.1, asks.standing.2]; exact .stay _ _
  | read _ asks _ => rw [asks.standing.1, asks.standing.2]; exact .stay _ _
  | announce _ asks => rw [asks.standing.2, asks.standing.2]; exact .stay _ _
  | keep _ asks => rw [asks.standing.2, asks.standing.2]; exact .stay _ _
  | exclude => exact .join _
  | arrive => exact .join _
  | close => exact .join _
  | grant _ _ _ _ _ holds => exact .take _ (by simpa [Adapter.holds] using holds)
  | enter _ _ holds => exact .take _ (by simpa [Adapter.holds] using holds)
  | refuse _ _ _ _ _ holds =>
    exact .quit _ _ (by simp [Task.standing, Stage.standing])
      fun _ => by simpa [Adapter.holds] using holds
  | leave => exact .quit _ _ (by simp [Task.standing, Stage.standing]) nofun
  | depart => exact .quit _ _ (by simp [Task.standing]) nofun
  | _ => exact .stay _ _

/-- The queue agrees with how the tasks stand: it holds those that are not outside, each once, and
one that is inside comes first. -/
structure Queued (queue : List TaskId) (stands : TaskId → Standing) : Prop where
  nodup : queue.Nodup
  mem_iff : ∀ id, id ∈ queue ↔ stands id ≠ .outside
  first : ∀ id, stands id = .inside → queue.head? = some id

theorem Queued.quits {id : TaskId} {stands : TaskId → Standing} {queue : List TaskId}
    (h : Queued queue stands) (entered : stands id ≠ .outside)
    (first : stands id = .waiting → queue.head? = some id) : queue = id :: queue.tail := by
  have head : queue.head? = some id := by
    cases own : stands id with
    | outside => exact absurd own entered
    | waiting => exact first own
    | inside => exact h.first id own
  obtain ⟨later, rfl⟩ := List.head?_eq_some_iff.mp head
  rfl

theorem LockMove.queued {id : TaskId} {stands : TaskId → Standing} {queue queue' : List TaskId}
    {st : Standing} (h : Queued queue stands) (m : LockMove id (queue, stands id) (queue', st)) :
    Queued queue' (Function.update stands id st) := by
  generalize own : stands id = before at m
  cases m with
  | stay =>
    rw [← own, Function.update_eq_self]
    exact h
  | join =>
    have absent : id ∉ queue := fun hq => (h.mem_iff id).mp hq own
    constructor
    · exact List.nodup_append.mpr ⟨h.nodup, by simp, fun a ha b hb => by
        rw [List.mem_singleton.mp hb]
        exact fun eq => absent (eq ▸ ha)⟩
    · intro j
      by_cases hj : j = id
      · subst j; simp
      · simp [hj, h.mem_iff]
    · intro j hin
      have hj : j ≠ id := fun eq => by simp [eq] at hin
      have head := h.first j (by simpa [hj] using hin)
      simp [List.head?_append, head]
  | take _ first =>
    constructor
    · exact h.nodup
    · intro j
      by_cases hj : j = id
      · subst j; simp [h.mem_iff, own]
      · simp [hj, h.mem_iff]
    · intro j hin
      by_cases hj : j = id
      · subst j; exact first
      · exact h.first j (by simpa [hj] using hin)
  | quit _ _ entered first =>
    have cut := h.quits (own ▸ entered) (own ▸ first)
    generalize queue.tail = later at cut ⊢
    subst cut
    obtain ⟨absent, nodup⟩ := List.nodup_cons.mp h.nodup
    constructor
    · exact nodup
    · intro j
      by_cases hj : j = id
      · subst j; simpa using absent
      · simpa [hj] using h.mem_iff j
    · intro j hin
      have hj : j ≠ id := fun eq => by simp [eq] at hin
      have := h.first j (by simpa [hj] using hin)
      simp [Ne.symm hj] at this

/-- While two stay in the queue or come to it, they keep their order, and who comes is the last. -/
theorem LockMove.order {id : TaskId} {stands : TaskId → Standing} {queue queue' : List TaskId}
    {st : Standing} (h : Queued queue stands) (m : LockMove id (queue, stands id) (queue', st))
    {c i : TaskId} (there : c ∈ queue) (stays : c = id → st ≠ .outside)
    (comes : i = id → st ≠ .outside) (old : stands i ≠ .outside → [c, i].Sublist queue)
    (entered : i ≠ id → stands i ≠ .outside) : [c, i].Sublist queue' := by
  generalize own : stands id = before at m
  cases m with
  | stay =>
    refine old ?_
    by_cases hi : i = id
    · subst i; exact own ▸ comes rfl
    · exact entered hi
  | join =>
    by_cases hi : i = id
    · subst i
      exact (List.singleton_sublist.mpr there).append (.refl [id])
    · exact (old (entered hi)).trans (List.sublist_append_left _ _)
  | take =>
    refine old ?_
    by_cases hi : i = id
    · subst i; simp [own]
    · exact entered hi
  | quit _ _ inside first =>
    have cut := h.quits (own ▸ inside) (own ▸ first)
    have order := old (entered fun hi => comes hi rfl)
    rw [cut, List.cons_sublist_cons'] at order
    exact order.resolve_right fun both => stays both.1 rfl

namespace TaskPool

def stands (s : TaskPool L) (id : TaskId) : Standing := s.tasks[id]?.elim .outside Task.standing

theorem stands_eq {s : TaskPool L} {id : TaskId} {t : Task} (here : s.tasks[id]? = some t) :
    s.stands id = t.standing := by simp [stands, here]

theorem stands_set {s : TaskPool L} {id : TaskId} {t u : Task} {a : Adapter L}
    (here : s.tasks[id]? = some t) :
    stands ⟨a, s.tasks.set id u⟩ = Function.update s.stands id u.standing := by
  have bound : id < s.tasks.length := (List.getElem?_eq_some_iff.mp here).1
  funext j
  by_cases hj : j = id
  · subst j; simp [stands, bound]
  · simp [stands, hj, List.getElem?_set_ne (Ne.symm hj)]

theorem stands_spawn (s : TaskPool L) (job : Job) : (s.spawn job).stands = s.stands := by
  funext j
  rcases Nat.lt_trichotomy j s.tasks.length with hj | hj | hj
  · simp [stands, spawn, List.getElem?_append_left hj]
  · simp [stands, spawn, hj, Task.standing]
  · rw [stands, stands, List.getElem?_eq_none (by simp [spawn]; omega),
      List.getElem?_eq_none (by omega)]

def Locked (s : TaskPool L) : Prop := Queued s.adapter.queue s.stands

theorem locked_move {s t : TaskPool L} (h : Locked s) (m : Move s t) : Locked t := by
  cases m with
  | issue => exact h
  | invalidate => exact h
  | setLinter => exact h
  | spawn job => rw [Locked, stands_spawn]; exact h
  | claim passes here =>
    rw [Locked, stands_set here]
    exact LockMove.queued h (by rw [stands_eq here]; exact .stay _ _)
  | task here m =>
    rw [Locked, stands_set here]
    exact LockMove.queued h (by simpa [stands_eq here] using m.lock)

theorem Arises.locked {linter : L} {s : TaskPool L} (h : Arises linter s) : Locked s := by
  induction h with
  | start => constructor <;> simp [initial, Adapter.initial, stands]
  | move _ m ih => exact locked_move ih m

theorem Locked.only {s : TaskPool L} {i j : TaskId} {t : Task} (h : Locked s)
    (here : s.tasks[i]? = some t) (inside : t.standing = .inside)
    (holds : s.adapter.holds j = true) : i = j := by
  have head := h.first i ((stands_eq here).trans inside)
  simpa [Adapter.holds, head] using holds

theorem Locked.inside {s : TaskPool L} {id : TaskId} {t : Task} (h : Locked s)
    (here : s.tasks[id]? = some t) (inside : t.standing = .inside) :
    s.adapter.holds id = true := by
  simpa [Adapter.holds] using h.first id ((stands_eq here).trans inside)

theorem Locked.outside {s : TaskPool L} {id : TaskId} {t : Task} (h : Locked s)
    (here : s.tasks[id]? = some t) (outside : t.standing = .outside) :
    s.adapter.holds id = false := by
  have absent : id ∉ s.adapter.queue := fun hq =>
    (h.mem_iff id).mp hq ((stands_eq here).trans outside)
  simp only [Adapter.holds, decide_eq_false_iff_not]
  exact fun first => absent (List.mem_of_head? first)

end TaskPool

end MarkupLint
