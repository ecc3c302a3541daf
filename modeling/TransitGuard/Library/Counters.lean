import Mathlib.Algebra.Order.BigOperators.Group.List
import Mathlib.Algebra.GroupWithZero.Nat
import Mathlib.Algebra.Order.Group.Nat
import TransitGuard.Library.Runs

/-!
Counters of 64 bits that several tasks increment one at a time, in any
interleaving. An increment is atomic and wraps around. A task is the list of the
increments it makes; the ones it has made are kept beside those it still has to
make, which is only for the proofs.
-/

namespace Counters

variable {κ : Type*} [DecidableEq κ]

structure Task (κ : Type*) where
  made : List κ
  left : List κ

structure World (κ : Type*) where
  count : κ → UInt64
  tasks : List (Task κ)

inductive Event (κ : Type*)
  | start (script : List κ)
  | advance (task : Nat)

def World.initial : World κ := ⟨fun _ => 0, []⟩

/-- `fetch_add(1)` on the counter `k`. -/
def bump (count : κ → UInt64) (k : κ) : κ → UInt64 :=
  fun k' => if k' = k then count k' + 1 else count k'

def step (w : World κ) : Event κ → World κ
  | .start script => { w with tasks := w.tasks ++ [⟨[], script⟩] }
  | .advance i =>
    match w.tasks[i]? with
    | some ⟨made, k :: left⟩ => ⟨bump w.count k, w.tasks.set i ⟨made ++ [k], left⟩⟩
    | _ => w

/-- How often the tasks have incremented `k`, without wrapping. -/
def tally (tasks : List (Task κ)) (k : κ) : Nat := (tasks.map fun task => task.made.count k).sum

/-- The scripts of the tasks that the events start, in order. -/
def scripts : List (Event κ) → List (List κ)
  | [] => []
  | .start script :: events => script :: scripts events
  | .advance _ :: events => scripts events

/-- No task has an increment left. -/
def Quiet (w : World κ) : Prop := ∀ task ∈ w.tasks, task.left = []

instance (w : World κ) : Decidable (Quiet w) :=
  inferInstanceAs (Decidable (∀ task ∈ w.tasks, task.left = []))

/-! ## One event -/

theorem sum_map_set {α : Type*} {f : α → Nat} {tasks : List α} {i : Nat} {a b : α}
    (h : tasks[i]? = some a) :
    ((tasks.set i b).map f).sum + f a = (tasks.map f).sum + f b := by
  induction tasks generalizing i with
  | nil => cases h
  | cons task tasks ih =>
    cases i with
    | zero =>
      cases h
      simp only [List.set_cons_zero, List.map_cons, List.sum_cons]
      omega
    | succ i =>
      have := ih h
      simp only [List.set_cons_succ, List.map_cons, List.sum_cons]
      omega

theorem tally_advance {tasks : List (Task κ)} {i : Nat} {made left : List κ} {k k' : κ}
    (h : tasks[i]? = some ⟨made, k :: left⟩) :
    tally (tasks.set i ⟨made ++ [k], left⟩) k' = tally tasks k' + if k' = k then 1 else 0 := by
  have hsum := sum_map_set (f := fun task : Task κ => task.made.count k')
    (b := ⟨made ++ [k], left⟩) h
  simp only [List.count_append, List.count_singleton, beq_iff_eq] at hsum
  have hsymm : (if k = k' then 1 else 0) = if k' = k then 1 else 0 := by simp only [eq_comm]
  simp only [tally]
  omega

/-- The counters hold the tallies, as far as 64 bits go. -/
theorem count_step {w : World κ} (h : ∀ k, w.count k = UInt64.ofNat (tally w.tasks k))
    (event : Event κ) (k : κ) :
    (step w event).count k = UInt64.ofNat (tally (step w event).tasks k) := by
  cases event with
  | start script => simp [step, tally, h]
  | advance i =>
    simp only [step]
    split
    · next made k' left htask =>
      rw [tally_advance htask]
      simp only [bump]
      split
      · simp [h, UInt64.ofNat_add]
      · simp [h]
    · exact h k

/-- An event keeps the scripts of the tasks, and a start adds one. -/
theorem scripts_step (w : World κ) (event : Event κ) :
    (step w event).tasks.map (fun task => task.made ++ task.left) =
      w.tasks.map (fun task => task.made ++ task.left) ++ scripts [event] := by
  cases event with
  | start script => simp [step, scripts]
  | advance i =>
    simp only [step, scripts, List.append_nil]
    split
    · next made k left htask =>
      rw [List.map_set]
      refine List.ext_getElem? fun j => ?_
      rw [List.getElem?_set, List.getElem?_map]
      split
      · next hij =>
        subst hij
        obtain ⟨hlt, htask⟩ := List.getElem?_eq_some_iff.mp htask
        simp [hlt, htask]
      · rfl
    · rfl

/-- The counter that an event increments, if it does. -/
def incremented (w : World κ) : Event κ → Option κ
  | .start _ => none
  | .advance i => w.tasks[i]?.bind fun task => task.left.head?

theorem count_step_eq (w : World κ) (event : Event κ) :
    (step w event).count = (incremented w event).toList.foldl bump w.count := by
  cases event with
  | start script => rfl
  | advance i =>
    simp only [step, incremented]
    cases htask : w.tasks[i]? with
    | none => rfl
    | some task =>
      obtain ⟨made, left⟩ := task
      cases left <;> rfl

/-! ## Whole runs -/

/-- The counters after a run are the increments of the run, one after another. -/
theorem count_trace (w : World κ) (events : List (Event κ)) :
    (Runs.run step w events).count =
      (Runs.trace step incremented w events).foldl bump w.count := by
  induction events generalizing w with
  | nil => rfl
  | cons event events ih =>
    rw [Runs.run_cons, ih, count_step_eq, Runs.trace, List.foldl_append]

theorem count_run (events : List (Event κ)) (k : κ) :
    (Runs.run step (World.initial : World κ) events).count k =
      UInt64.ofNat (tally (Runs.run step World.initial events).tasks k) :=
  Runs.invariant (P := fun w : World κ => ∀ k, w.count k = UInt64.ofNat (tally w.tasks k))
    (fun _ event h k => count_step h event k) (fun _ => rfl) events k

omit [DecidableEq κ] in
theorem scripts_cons (event : Event κ) (events : List (Event κ)) :
    scripts (event :: events) = scripts [event] ++ scripts events := by
  cases event <;> rfl

/-- The tasks are the ones that were started, each with its own script. -/
theorem scripts_run (w : World κ) (events : List (Event κ)) :
    (Runs.run step w events).tasks.map (fun task => task.made ++ task.left) =
      w.tasks.map (fun task => task.made ++ task.left) ++ scripts events := by
  induction events generalizing w with
  | nil => simp [scripts]
  | cons event events ih =>
    rw [Runs.run_cons, ih, scripts_step, scripts_cons event events, List.append_assoc]

/-- What a task has done is a beginning of a script that was started. -/
theorem made_prefix {events : List (Event κ)} {task : Task κ}
    (h : task ∈ (Runs.run step (World.initial : World κ) events).tasks) :
    ∃ script ∈ scripts events, task.made <+: script := by
  have hrun := scripts_run (World.initial : World κ) events
  have hmem := List.mem_map_of_mem (f := fun task : Task κ => task.made ++ task.left) h
  rw [hrun] at hmem
  exact ⟨_, by simpa [World.initial] using hmem, List.prefix_append ..⟩

/-- When no task is under way the counters hold what the scripts add up to,
whatever the interleaving was. -/
theorem count_of_quiet {events : List (Event κ)}
    (h : Quiet (Runs.run step (World.initial : World κ) events)) (k : κ) :
    (Runs.run step (World.initial : World κ) events).count k =
      UInt64.ofNat ((scripts events).map (·.count k)).sum := by
  have hrun : _ = [] ++ scripts events := scripts_run (World.initial : World κ) events
  rw [List.nil_append] at hrun
  rw [count_run, ← hrun, List.map_map, tally]
  congr 2
  refine List.map_congr_left fun task htask => ?_
  simp [h task htask]

/-- An inequality that holds at every point of every script holds of the
tallies at every moment. -/
theorem tally_le {events : List (Event κ)} {f g : List κ → Nat}
    (h : ∀ script ∈ scripts events, ∀ made, made <+: script → f made ≤ g made) :
    ((Runs.run step (World.initial : World κ) events).tasks.map fun task => f task.made).sum ≤
      ((Runs.run step (World.initial : World κ) events).tasks.map fun task => g task.made).sum := by
  refine List.sum_le_sum fun task htask => ?_
  obtain ⟨script, hscript, hprefix⟩ := made_prefix htask
  exact h script hscript task.made hprefix

end Counters
