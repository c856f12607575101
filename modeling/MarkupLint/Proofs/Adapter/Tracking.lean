import MarkupLint.Proofs.Adapter.Trails

/-! Every pass left the trail of where it is: with a task, in nobody's hands, or at its end. Passes
are numbered in the order of issue, and no pass is in the hands of two tasks. -/
namespace MarkupLint

open History

variable {L : Type}

namespace TaskPool

/-- Passes are numbered in the order of issue, each is in one pair of hands at most, and each left
the trail of where it is. -/
structure Tracked (s : TaskPool L) : Prop where
  numbered : (issuedPasses s.adapter.history).Pairwise fun later earlier =>
    earlier.sequence < later.sequence
  bounded : ∀ p, .issued p ∈ s.adapter.history → p.sequence ≤ s.adapter.issued
  follows : ∀ {id} {t : Task}, s.tasks[id]? = some t → t.Follows id s.adapter.history
  nodup : ∀ {id : TaskId} {t : Task}, s.tasks[id]? = some t → t.passes.Nodup
  once : ∀ {i j : TaskId} {t u : Task} {p}, s.tasks[i]? = some t → s.tasks[j]? = some u →
    p ∈ t.passes → p ∈ u.passes → i = j
  ended : ∀ {p o}, .ended p o ∈ s.adapter.history → Ending p o (trail p s.adapter.history)
  idle : ∀ {p}, s.Unclaimed p → trail p s.adapter.history = [.issued p]
  fresh : ∀ {p}, .issued p ∉ s.adapter.history → trail p s.adapter.history = []

namespace Tracked

variable {s : TaskPool L} {id : TaskId} {t : Task} {p : Pass}

theorem issued (h : Tracked s) (here : s.tasks[id]? = some t) (hp : p ∈ t.passes) :
    .issued p ∈ s.adapter.history := (h.follows here).issued hp

theorem unended (h : Tracked s) (here : s.tasks[id]? = some t) (hp : p ∈ t.passes) (o : Outcome) :
    .ended p o ∉ s.adapter.history := by
  obtain ⟨_, own⟩ := (h.follows here).trail hp
  exact fun he => own.unended p o (mem_trail.mpr ⟨he, by simp [Event.concerns]⟩)

theorem issue_order (h : Tracked s) {q : Pass}
    (before : Before s.adapter.history (.issued p) (.issued q)) : p.sequence < q.sequence :=
  List.pairwise_iff_forall_sublist.mp h.numbered (before.filterMap Event.issued?)

theorem next_fresh (h : Tracked s) (d : Document) :
    .issued (s.adapter.nextPass d) ∉ s.adapter.history := by
  intro old
  have := h.bounded _ old
  simp only [Adapter.nextPass] at this
  omega

theorem trail_cases (h : Tracked s) (p : Pass) :
    trail p s.adapter.history = [] ∨
      (∃ id stage, Trail id p stage (trail p s.adapter.history)) ∨
      ∃ o, Ending p o (trail p s.adapter.history) := by
  by_cases issued : .issued p ∈ s.adapter.history
  · by_cases ended : ∃ o, .ended p o ∈ s.adapter.history
    · obtain ⟨o, he⟩ := ended
      exact .inr (.inr ⟨o, h.ended he⟩)
    · by_cases held : ∃ t ∈ s.tasks, p ∈ t.passes
      · obtain ⟨t, ht, hp⟩ := held
        obtain ⟨id, here⟩ := List.mem_iff_getElem?.mp ht
        obtain ⟨stage, own⟩ := (h.follows here).trail hp
        exact .inr (.inl ⟨id, stage, own⟩)
      · have free : s.Unclaimed p :=
          ⟨issued, fun o he => ended ⟨o, he⟩, fun t ht hp => held ⟨t, ht, hp⟩⟩
        exact .inr (.inl ⟨0, .lookup (.reading 0), h.idle free ▸ .lookup _⟩)
  · exact .inl (h.fresh issued)

theorem set_once (h : Tracked s) {i j : TaskId} {ds ds' : List Diagnostic} :
    ¬ Before s.adapter.history (.set i p.update ds) (.set j p.update ds') := by
  intro twice
  have own := twice.trail (p := p) (by simp [Event.concerns]) (by simp [Event.concerns])
  rcases h.trail_cases p with none | ⟨id, stage, t⟩ | ⟨o, t⟩
  · simp [none] at own
  · exact t.set_once own
  · exact t.set_once own

theorem issue (h : Tracked s) (d : Document) :
    Tracked { s with adapter := s.adapter.issue d } := by
  have new := h.next_fresh d
  have number : (s.adapter.nextPass d).sequence = s.adapter.issued + 1 := rfl
  have history : (s.adapter.issue d).history =
      .issued (s.adapter.nextPass d) :: s.adapter.history := rfl
  have count : (s.adapter.issue d).issued = s.adapter.issued + 1 := rfl
  generalize next : s.adapter.nextPass d = n at new number history
  have others : ∀ q, q ≠ n → trail q (s.adapter.issue d).history = trail q s.adapter.history := by
    intro q ne
    simp [next, trail_cons, Event.concerns, Ne.symm ne]
  have known : ∀ {id : TaskId} {t : Task} {q : Pass}, s.tasks[id]? = some t → q ∈ t.passes →
      q ≠ n := fun here hq eq => new (eq ▸ h.issued here hq)
  constructor
  · simp only [history, issuedPasses, List.filterMap_cons, Event.issued?]
    refine List.pairwise_cons.mpr ⟨fun q hq => ?_, h.numbered⟩
    have := h.bounded q (mem_issuedPasses.mp hq)
    omega
  · intro q hq
    simp only [history, List.mem_cons, Event.issued.injEq] at hq
    rw [count]
    rcases hq with rfl | hq
    · omega
    · exact Nat.le_succ_of_le (h.bounded q hq)
  · intro id t here
    exact (h.follows here).congr fun q hq => others q (known here hq)
  · exact h.nodup
  · exact h.once
  · intro q o he
    simp only [history, List.mem_cons, reduceCtorEq, false_or] at he
    have ending := h.ended he
    rw [others q fun eq => new (eq ▸ (mem_trail.mp ending.issued).1)]
    exact ending
  · intro q free
    by_cases eq : q = n
    · subst eq
      simp [next, trail_cons, Event.concerns, h.fresh new]
    · rw [others q eq]
      refine h.idle ⟨?_, fun o he => free.unended o ?_, free.free⟩
      · simpa [next, eq] using free.issued
      · simpa using he
  · intro q hq
    simp only [history, List.mem_cons, Event.issued.injEq, not_or] at hq
    rw [others q hq.1]
    exact h.fresh hq.2

theorem frame (h : Tracked s) {a : Adapter L}
    (same : ∀ p, trail p a.history = trail p s.adapter.history)
    (issued : issuedPasses a.history = issuedPasses s.adapter.history)
    (count : a.issued = s.adapter.issued) : Tracked ⟨a, s.tasks⟩ := by
  have issued_iff : ∀ p, Event.issued p ∈ a.history ↔ .issued p ∈ s.adapter.history := by
    intro p
    rw [← mem_issuedPasses, issued, mem_issuedPasses]
  have ended_iff : ∀ p o, Event.ended p o ∈ a.history ↔ .ended p o ∈ s.adapter.history := by
    intro p o
    have eq : Event.ended p o ∈ trail p a.history ↔ .ended p o ∈ trail p s.adapter.history := by
      rw [same]
    simpa [mem_trail, Event.concerns] using eq
  constructor
  · exact issued ▸ h.numbered
  · intro p hp
    rw [count]
    exact h.bounded p ((issued_iff p).mp hp)
  · exact fun here => (h.follows here).congr fun p _ => same p
  · exact h.nodup
  · exact h.once
  · intro p o he
    rw [same]
    exact h.ended ((ended_iff p o).mp he)
  · intro p free
    rw [same]
    refine h.idle ⟨(issued_iff p).mp free.issued, fun o he => ?_, free.free⟩
    exact free.unended o ((ended_iff p o).mpr he)
  · intro p hp
    rw [same]
    exact h.fresh fun old => hp ((issued_iff p).mpr old)

theorem hand (h : Tracked s) (id : TaskId) (job : Job) {ts : List Task}
    (now : ∀ {j u}, ts[j]? = some u → (j = id ∧ u = .ready job) ∨ (j ≠ id ∧ s.tasks[j]? = some u))
    (gone : ∀ u ∈ s.tasks, u ∈ ts ∨ u.passes = [])
    (nodup : job.passes.Nodup) (unclaimed : ∀ p ∈ job.passes, s.Unclaimed p) :
    Tracked ⟨s.adapter, ts⟩ := by
  have apart : ∀ {j : TaskId} {u : Task} {p : Pass}, s.tasks[j]? = some u → p ∈ u.passes →
      p ∉ job.passes := fun here hu hp =>
    (unclaimed _ hp).free _ (List.mem_of_getElem? here) hu
  refine ⟨h.numbered, h.bounded, ?_, ?_, ?_, h.ended, ?_, h.fresh⟩
  · intro j u here
    rcases now here with ⟨rfl, rfl⟩ | ⟨_, old⟩
    · exact fun p hp => h.idle (unclaimed p hp)
    · exact h.follows old
  · intro j u here
    rcases now here with ⟨rfl, rfl⟩ | ⟨_, old⟩
    · exact nodup
    · exact h.nodup old
  · intro i j u v p at_i at_j hu hv
    rcases now at_i with ⟨rfl, rfl⟩ | ⟨_, old_i⟩ <;> rcases now at_j with ⟨rfl, rfl⟩ | ⟨_, old_j⟩
    · rfl
    · exact absurd hu (apart old_j hv)
    · exact absurd hv (apart old_i hu)
    · exact h.once old_i old_j hu hv
  · intro p free
    refine h.idle ⟨free.issued, free.unended, fun u hu => ?_⟩
    rcases gone u hu with old | none
    · exact free.free u old
    · simp [none]

theorem task (h : Tracked s) (locked : Locked s) {u : Task} {a : Adapter L}
    (here : s.tasks[id]? = some t) (m : TaskMove id (s.adapter, t) (a, u)) :
    Tracked ⟨a, s.tasks.set id u⟩ := by
  have bound : id < s.tasks.length := (List.getElem?_eq_some_iff.mp here).1
  have outside : t.standing = .outside → s.adapter.holds id = false := locked.outside here
  have passes := m.passes outside (h.follows here)
  obtain ⟨issued, count⟩ := m.issued
  have other : ∀ p, p ∉ t.passes → trail p a.history = trail p s.adapter.history :=
    fun p hp => m.trail_eq fun first => hp (List.mem_of_head? first)
  have issued_iff : ∀ p, Event.issued p ∈ a.history ↔ .issued p ∈ s.adapter.history := by
    intro p
    rw [← mem_issuedPasses, issued, mem_issuedPasses]
  have sub := passes.sublist
  constructor
  · exact issued ▸ h.numbered
  · intro p hp
    rw [count]
    exact h.bounded p ((issued_iff p).mp hp)
  · intro j v at_j
    rcases task_cases at_j with ⟨rfl, rfl⟩ | ⟨ne, old⟩
    · exact m.follows (h.nodup here) outside (h.follows here)
    · exact (h.follows old).congr fun p hp => other p fun own => ne (h.once old here hp own)
  · intro j v at_j
    rcases task_cases at_j with ⟨rfl, rfl⟩ | ⟨_, old⟩
    · exact (h.nodup here).sublist sub
    · exact h.nodup old
  · intro i j v w p at_i at_j hv hw
    rcases task_cases at_i with ⟨rfl, rfl⟩ | ⟨_, old_i⟩ <;>
      rcases task_cases at_j with ⟨rfl, rfl⟩ | ⟨_, old_j⟩
    · rfl
    · exact h.once here old_j (sub.subset hv) hw
    · exact h.once old_i here hv (sub.subset hw)
    · exact h.once old_i old_j hv hw
  · intro p o he
    rcases passes.ends he with old | ending
    · rw [other p fun own => h.unended here own o old]
      exact h.ended old
    · exact ending
  · intro p free
    have absent : p ∉ t.passes := by
      intro own
      rcases passes.leaves own with left | ⟨o, he⟩
      · exact free.free u (List.mem_set bound u) left
      · exact free.unended o he
    rw [other p absent]
    refine h.idle ⟨(issued_iff p).mp free.issued, fun o he => free.unended o (passes.keeps he), ?_⟩
    intro v hv own
    rcases mem_tasks_set here hv with rfl | kept
    · exact absent own
    · exact free.free v kept own
  · intro p hp
    have old := fun hi => hp ((issued_iff p).mpr hi)
    rw [other p fun own => old (h.issued here own)]
    exact h.fresh old

end Tracked

theorem tracked_move {s t : TaskPool L} (h : Tracked s) (locked : Locked s) (m : Move s t) :
    Tracked t := by
  cases m with
  | issue d => exact h.issue d
  | invalidate => exact h.frame (fun _ => rfl) rfl rfl
  | setLinter => exact h.frame (fun _ => rfl) rfl rfl
  | spawn job allowed =>
    exact h.hand s.tasks.length job spawn_cases (fun u hu => .inl (List.mem_append_left _ hu))
      allowed.1 allowed.2
  | @claim id job passes here issues nodup unclaimed =>
    refine h.hand id (.run passes) (fun at_j => ?_) ?_ nodup unclaimed
    · rcases task_cases at_j with ⟨rfl, rfl⟩ | other
      · exact .inl ⟨rfl, rfl⟩
      · exact .inr other
    · intro u hu
      rcases mem_tasks_set here hu with rfl | kept
      · right
        cases job <;> simp [Job.issues, Task.passes, Job.passes] at issues ⊢
      · exact .inl kept
  | task here m => exact h.task locked here m

theorem Arises.tracked {linter : L} {s : TaskPool L} (h : Arises linter s) : Tracked s := by
  induction h with
  | start =>
    constructor <;> try simp [initial, Adapter.initial, issuedPasses, trail]
    exact fun free => by simpa [initial, Adapter.initial] using free.issued
  | move h m ih => exact tracked_move ih h.locked m

end TaskPool

end MarkupLint
