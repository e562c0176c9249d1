import Mathlib.Data.List.Basic

/-!
# Workers that share a list of tasks

Tasks are handed to a number of workers, who take them up in order and finish them in any
order. The place of its result goes with each task, so that the results stand in the order of
the tasks when all is done, whoever came first.
-/

namespace QueryLint

/-- Work in the hands of workers. Each task comes with a place, where its result is put down. -/
structure Pool (α β : Type) where
  waiting : List (α × Nat)
  running : List (α × Nat)
  results : List (Option β)

namespace Pool

variable {α β : Type}

/-- What may happen next: a worker takes up the first task that waits, or the worker at a
position among those at work is done. -/
inductive Move where
  | take
  | finish (position : Nat)

def start (tasks : List α) : Pool α β where
  waiting := tasks.zipIdx
  running := []
  results := List.replicate tasks.length none

def isDone (p : Pool α β) : Bool := p.waiting.isEmpty && p.running.isEmpty

/-- The pool after a move, if the move can be made. -/
def step? (workers : Nat) (work : α → β) (p : Pool α β) : Move → Option (Pool α β)
  | .take =>
      match p.waiting with
      | [] => none
      | task :: rest =>
          if p.running.length < workers then
            some { p with waiting := rest, running := p.running ++ [task] }
          else none
  | .finish position =>
      match p.running[position]? with
      | none => none
      | some (task, place) =>
          some { p with
            running := p.running.eraseIdx position
            results := p.results.set place (some (work task)) }

def run? (workers : Nat) (work : α → β) : Pool α β → List Move → Option (Pool α β)
  | p, [] => some p
  | p, m :: moves =>
      match p.step? workers work m with
      | some q => q.run? workers work moves
      | none => none

/-- The results in the order of the tasks, if some moves bring all of them about. -/
def complete? (workers : Nat) (work : α → β) (tasks : List α) (moves : List Move) :
    Option (List β) :=
  match (start tasks).run? workers work moves with
  | some p => if p.isDone then some (p.results.filterMap id) else none
  | none => none

/-- The tasks in a pool are those of a list, each with its place. A place is empty as long as
its task is in the pool, and then holds the result of that task. -/
structure Serves (work : α → β) (tasks : List α) (p : Pool α β) : Prop where
  length_results : p.results.length = tasks.length
  placed : ∀ t ∈ p.waiting ++ p.running, tasks[t.2]? = some t.1
  put_down : ∀ (i : Nat) (b : β), p.results[i]? = some (some b) → tasks[i]?.map work = some b
  missing : ∀ i : Nat, p.results[i]? = some none → ∃ t ∈ p.waiting ++ p.running, t.2 = i

theorem serves_start (work : α → β) (tasks : List α) : Serves work tasks (start tasks) := by
  refine ⟨by simp [start], ?_, ?_, ?_⟩
  · rintro ⟨a, i⟩ ht
    simpa [start, List.mem_zipIdx_iff_getElem?] using ht
  · intro i b h
    simp [start, List.getElem?_replicate] at h
  · intro i h
    have hi : i < tasks.length := by
      simpa [start, List.getElem?_replicate] using h
    refine ⟨(tasks[i], i), ?_, rfl⟩
    simp [start, List.mem_zipIdx_iff_getElem?, hi]

/-- What a move can do: a task goes from one list to the other, or its result is put down. -/
theorem step?_cases {workers : Nat} {work : α → β} {p q : Pool α β} {m : Move}
    (h : p.step? workers work m = some q) :
    (∃ task rest, p.waiting = task :: rest ∧ p.running.length < workers ∧
        q = { p with waiting := rest, running := p.running ++ [task] }) ∨
      ∃ before task place after, p.running = before ++ (task, place) :: after ∧
        q = { p with
          running := before ++ after
          results := p.results.set place (some (work task)) } := by
  cases m with
  | take =>
    simp only [step?] at h
    split at h
    · cases h
    next task rest hwaiting =>
      split at h
      next hfree => exact .inl ⟨task, rest, hwaiting, hfree, (Option.some.inj h).symm⟩
      next => cases h
  | finish position =>
    simp only [step?] at h
    split at h
    · cases h
    next task place hrunning =>
      obtain ⟨hlt, hget⟩ := List.getElem?_eq_some_iff.1 hrunning
      refine .inr ⟨p.running.take position, task, place, p.running.drop (position + 1), ?_, ?_⟩
      · rw [← hget, List.getElem_cons_drop, List.take_append_drop]
      · rw [← List.eraseIdx_eq_take_drop_succ]
        exact (Option.some.inj h).symm

theorem Serves.step {workers : Nat} {work : α → β} {tasks : List α} {p q : Pool α β} {m : Move}
    (hp : Serves work tasks p) (h : p.step? workers work m = some q) : Serves work tasks q := by
  obtain ⟨task, rest, hwaiting, -, rfl⟩ | ⟨before, task, place, after, hrunning, rfl⟩ :=
    step?_cases h
  · -- a task that is taken up stays in the pool
    have hmem : ∀ t, t ∈ rest ++ (p.running ++ [task]) ↔ t ∈ p.waiting ++ p.running := by
      intro t
      simp only [hwaiting, List.mem_append, List.mem_cons, List.not_mem_nil]
      tauto
    refine ⟨hp.length_results, ?_, hp.put_down, ?_⟩
    · intro t ht
      exact hp.placed t ((hmem t).1 ht)
    · intro i hi
      obtain ⟨t, ht, hplace⟩ := hp.missing i hi
      exact ⟨t, (hmem t).2 ht, hplace⟩
  · -- a task that is finished leaves it, and its place is the only one that changes
    have hmem : ∀ t, t ∈ p.waiting ++ p.running ↔
        t = (task, place) ∨ t ∈ p.waiting ++ (before ++ after) := by
      intro t
      simp only [hrunning, List.mem_append, List.mem_cons]
      tauto
    have htask : tasks[place]? = some task := hp.placed (task, place) ((hmem _).2 (.inl rfl))
    refine ⟨by simpa using hp.length_results, ?_, ?_, ?_⟩
    · intro t ht
      exact hp.placed t ((hmem t).2 (.inr ht))
    · intro i b hb
      simp only [List.getElem?_set] at hb
      by_cases hi : place = i
      · subst hi
        rw [if_pos rfl] at hb
        split at hb
        · rw [htask, ← Option.some.inj (Option.some.inj hb)]
          rfl
        · cases hb
      · rw [if_neg hi] at hb
        exact hp.put_down i b hb
    · intro i hnone
      simp only [List.getElem?_set] at hnone
      by_cases hi : place = i
      · rw [if_pos hi] at hnone
        split at hnone
        · cases hnone
        · cases hnone
      · rw [if_neg hi] at hnone
        obtain ⟨t, ht, hplace⟩ := hp.missing i hnone
        obtain rfl | ht := (hmem t).1 ht
        · exact absurd hplace hi
        · exact ⟨t, ht, hplace⟩

theorem Serves.run {workers : Nat} {work : α → β} {tasks : List α} {p q : Pool α β}
    {moves : List Move} (hp : Serves work tasks p) (h : p.run? workers work moves = some q) :
    Serves work tasks q := by
  induction moves generalizing p with
  | nil =>
    cases h
    exact hp
  | cons m moves ih =>
    rw [run?] at h
    split at h
    next r hstep => exact ih (hp.step hstep) h
    next => cases h

/-- When nothing is left to do, every result stands in its place. -/
theorem Serves.results_of_isDone {work : α → β} {tasks : List α} {p : Pool α β}
    (hp : Serves work tasks p) (hdone : p.isDone = true) :
    p.results = tasks.map fun task => some (work task) := by
  obtain ⟨hwaiting, hrunning⟩ : p.waiting = [] ∧ p.running = [] := by
    simpa [isDone] using hdone
  apply List.ext_getElem?
  intro i
  cases hi : p.results[i]? with
  | none =>
    have hlong : tasks.length ≤ i := hp.length_results ▸ List.getElem?_eq_none_iff.1 hi
    simp [hlong]
  | some result =>
    cases result with
    | none =>
      obtain ⟨t, ht, -⟩ := hp.missing i hi
      simp [hwaiting, hrunning] at ht
    | some b =>
      have hb := hp.put_down i b hi
      rw [List.getElem?_map]
      cases ht : tasks[i]? with
      | none => simp [ht] at hb
      | some a => simpa [ht] using hb.symm

/-- In whatever order the workers finish, the results are those of the tasks in order. -/
theorem complete?_eq_map {workers : Nat} {work : α → β} {tasks : List α} {moves : List Move}
    {outcomes : List β} (h : complete? workers work tasks moves = some outcomes) :
    outcomes = tasks.map work := by
  unfold complete? at h
  split at h
  next p hrun =>
    split at h
    next hdone =>
      rw [((serves_start work tasks).run hrun).results_of_isDone hdone] at h
      rw [← Option.some.inj h]
      simp [List.filterMap_map]
    next => cases h
  next => cases h

/-- How many moves are left. -/
def remaining (p : Pool α β) : Nat := 2 * p.waiting.length + p.running.length

theorem remaining_of_step? {workers : Nat} {work : α → β} {p q : Pool α β} {m : Move}
    (h : p.step? workers work m = some q) : q.remaining + 1 = p.remaining := by
  obtain ⟨task, rest, hwaiting, -, rfl⟩ | ⟨before, task, place, after, hrunning, rfl⟩ :=
    step?_cases h
  · simp only [remaining, hwaiting, List.length_append, List.length_cons, List.length_nil]
    omega
  · simp only [remaining, hrunning, List.length_append, List.length_cons]
    omega

theorem exists_step_of_not_isDone {workers : Nat} (hworkers : 0 < workers) (work : α → β)
    {p : Pool α β} (h : p.isDone = false) : ∃ m, (p.step? workers work m).isSome := by
  cases hrunning : p.running with
  | cons t rest => exact ⟨.finish 0, by simp [step?, hrunning]⟩
  | nil =>
    cases hwaiting : p.waiting with
    | cons t rest => exact ⟨.take, by simp [step?, hrunning, hwaiting, hworkers]⟩
    | nil => simp [isDone, hrunning, hwaiting] at h

/-- With at least one worker, moves can be added until all is done. -/
theorem exists_run_isDone {workers : Nat} (hworkers : 0 < workers) (work : α → β)
    (p : Pool α β) : ∃ moves q, p.run? workers work moves = some q ∧ q.isDone = true := by
  induction hn : p.remaining generalizing p with
  | zero =>
    refine ⟨[], p, rfl, ?_⟩
    simp only [remaining] at hn
    simp only [isDone, List.isEmpty_iff_length_eq_zero, Bool.and_eq_true]
    omega
  | succ n ih =>
    cases hdone : p.isDone with
    | true => exact ⟨[], p, rfl, hdone⟩
    | false =>
      obtain ⟨m, hm⟩ := exists_step_of_not_isDone hworkers work hdone
      obtain ⟨q, hstep⟩ := Option.isSome_iff_exists.1 hm
      have hq := remaining_of_step? hstep
      obtain ⟨moves, r, hrun, hr⟩ := ih q (by omega)
      refine ⟨m :: moves, r, ?_, hr⟩
      rw [run?, hstep]
      exact hrun

theorem exists_complete? {workers : Nat} (hworkers : 0 < workers) (work : α → β)
    (tasks : List α) : ∃ moves, complete? workers work tasks moves = some (tasks.map work) := by
  obtain ⟨moves, p, hrun, hdone⟩ := exists_run_isDone hworkers work (start tasks)
  have hsome : complete? workers work tasks moves = some (p.results.filterMap id) := by
    rw [complete?, hrun]
    exact if_pos hdone
  exact ⟨moves, hsome.trans (congrArg some (complete?_eq_map hsome))⟩

end Pool

end QueryLint
