import Mathlib.Data.List.Basic
import Mathlib.Data.List.Induction

/-!
Runs of a deterministic system whose nondeterminism sits in its inputs. A run
is a list of inputs; everything said about reachable states below is said by
induction over that list, once, and used by name afterwards.
-/

namespace Runs

variable {σ ι : Type*} {step : σ → ι → σ}

/-- The state after the inputs `is`, taken one after another. -/
def run (step : σ → ι → σ) (s : σ) (is : List ι) : σ := is.foldl step s

@[simp] theorem run_nil (s : σ) : run step s [] = s := rfl

@[simp] theorem run_cons (s : σ) (i : ι) (is : List ι) :
    run step s (i :: is) = run step (step s i) is := rfl

@[simp] theorem run_append (s : σ) (is js : List ι) :
    run step s (is ++ js) = run step (run step s is) js := by
  simp [run, List.foldl_append]

/-- Every input of the run satisfies `meets` in the state it is given to. -/
def StepsMeet (step : σ → ι → σ) (meets : σ → ι → Prop) : σ → List ι → Prop
  | _, [] => True
  | s, i :: is => meets s i ∧ StepsMeet step meets (step s i) is

theorem stepsMeet_of_forall {allowed : ι → Prop} (s : σ) (is : List ι)
    (h : ∀ i ∈ is, allowed i) : StepsMeet step (fun _ i => allowed i) s is := by
  induction is generalizing s with
  | nil => trivial
  | cons i is ih =>
    exact ⟨h i (List.mem_cons_self ..), ih _ fun j hj => h j (List.mem_cons_of_mem _ hj)⟩

theorem stepsMeet_mono {meets meets' : σ → ι → Prop} (h : ∀ s i, meets s i → meets' s i)
    {s : σ} {is : List ι} (hmeet : StepsMeet step meets s is) : StepsMeet step meets' s is := by
  induction is generalizing s with
  | nil => trivial
  | cons i is ih => exact ⟨h s i hmeet.1, ih hmeet.2⟩

/-- What every admitted step keeps holds at the end of every run of admitted
steps. -/
theorem invariant_of_stepsMeet {meets : σ → ι → Prop} {P : σ → Prop}
    (hstep : ∀ s i, meets s i → P s → P (step s i)) {s : σ} {is : List ι}
    (hs : P s) (h : StepsMeet step meets s is) : P (run step s is) := by
  induction is generalizing s with
  | nil => exact hs
  | cons i is ih => exact ih (hstep s i h.1 hs) h.2

theorem invariant {P : σ → Prop} (hstep : ∀ s i, P s → P (step s i)) {s : σ}
    (hs : P s) (is : List ι) : P (run step s is) := by
  induction is generalizing s with
  | nil => exact hs
  | cons i is ih => exact ih (hstep s i hs)

/-- The two-state form: a reflexive and transitive relation that every step
satisfies, in states with the invariant `P`, relates the ends of every run. -/
theorem relation {P : σ → Prop} {R : σ → σ → Prop} (refl : ∀ s, R s s)
    (trans : ∀ s t u, R s t → R t u → R s u)
    (hP : ∀ s i, P s → P (step s i)) (hR : ∀ s i, P s → R s (step s i))
    {s : σ} (hs : P s) (is : List ι) : R s (run step s is) := by
  induction is generalizing s with
  | nil => exact refl s
  | cons i is ih => exact trans _ _ _ (hR s i hs) (ih (hP s i hs))

theorem stepsMeet_append {meets : σ → ι → Prop} {s : σ} {is js : List ι} :
    StepsMeet step meets s (is ++ js) ↔
      StepsMeet step meets s is ∧ StepsMeet step meets (run step s is) js := by
  induction is generalizing s with
  | nil => simp [StepsMeet]
  | cons i is ih => simp [StepsMeet, ih, and_assoc]

/-- The two-state form for runs of admitted steps. -/
theorem relation_of_stepsMeet {meets : σ → ι → Prop} {R : σ → σ → Prop} (refl : ∀ s, R s s)
    (trans : ∀ s t u, R s t → R t u → R s u) (hR : ∀ s i, meets s i → R s (step s i))
    {s : σ} {is : List ι} (h : StepsMeet step meets s is) : R s (run step s is) := by
  induction is generalizing s with
  | nil => exact refl s
  | cons i is ih => exact trans _ _ _ (hR s i h.1) (ih h.2)

/-- Where a step keeps `P` exactly when it is admitted, `P` holds all along a
run exactly when every step of it is admitted. -/
theorem forall_take_iff_stepsMeet {meets : σ → ι → Prop} {P Q : σ → Prop}
    (hQ : ∀ s i, Q s → Q (step s i)) (hP : ∀ s i, Q s → P s → (P (step s i) ↔ meets s i))
    {s : σ} (hs : Q s) (hPs : P s) (is : List ι) :
    (∀ k, P (run step s (is.take k))) ↔ StepsMeet step meets s is := by
  induction is generalizing s with
  | nil => exact ⟨fun _ => trivial, fun _ k => by rw [List.take_nil]; exact hPs⟩
  | cons i is ih =>
    constructor
    · intro h
      have hnext : P (step s i) := h 1
      refine ⟨(hP s i hs hPs).mp hnext, (ih (hQ s i hs) hnext).mp fun k => ?_⟩
      exact h (k + 1)
    · rintro ⟨hmeet, hrest⟩ k
      cases k with
      | zero => exact hPs
      | succ k => exact (ih (hQ s i hs) ((hP s i hs hPs).mpr hmeet)).mpr hrest k

/-! ## What a run has emitted -/

section Trace

variable {τ γ : Type*} {event : σ → ι → Option τ}

/-- What the inputs emit in the states they are given to, in order. -/
def trace (step : σ → ι → σ) (event : σ → ι → Option τ) : σ → List ι → List τ
  | _, [] => []
  | s, i :: is => (event s i).toList ++ trace step event (step s i) is

@[simp] theorem trace_nil (s : σ) : trace step event s [] = [] := rfl

theorem trace_append (s : σ) (is js : List ι) :
    trace step event s (is ++ js) =
      trace step event s is ++ trace step event (run step s is) js := by
  induction is generalizing s with
  | nil => rfl
  | cons i is ih => rw [List.cons_append, trace, trace, run_cons, ih, List.append_assoc]

/-- The last input adds what it emits. -/
theorem trace_concat (s : σ) (is : List ι) (i : ι) :
    trace step event s (is ++ [i]) =
      trace step event s is ++ (event (run step s is) i).toList := by
  rw [trace_append, trace, trace_nil, List.append_nil]

/-- A value that every admitted step updates with what the step emits is, after
a run, the fold of the trace. -/
theorem fold_trace {meets : σ → ι → Prop} {P : σ → Prop} (value : σ → γ) {record : γ → τ → γ}
    (hP : ∀ s i, P s → P (step s i))
    (hvalue : ∀ s i, P s → meets s i →
      value (step s i) = (event s i).toList.foldl record (value s))
    {s : σ} {is : List ι} (hs : P s) (h : StepsMeet step meets s is) :
    value (run step s is) = (trace step event s is).foldl record (value s) := by
  induction is generalizing s with
  | nil => rfl
  | cons i is ih =>
    rw [run_cons, trace, List.foldl_append, ← hvalue s i hs h.1]
    exact ih (hP s i hs) h.2

/-- The same for a counter of two kinds of events. -/
theorem add_trace {meets : σ → ι → Prop} {P : σ → Prop} (value : σ → ℕ)
    {event' : σ → ι → Option τ} (hP : ∀ s i, P s → P (step s i))
    (hvalue : ∀ s i, P s → meets s i →
      value (step s i) = value s + ((event s i).toList.length + (event' s i).toList.length))
    {s : σ} {is : List ι} (hs : P s) (h : StepsMeet step meets s is) :
    value (run step s is) =
      value s + ((trace step event s is).length + (trace step event' s is).length) := by
  induction is generalizing s with
  | nil => rfl
  | cons i is ih =>
    have hrest := ih (hP s i hs) h.2
    rw [hvalue s i hs h.1] at hrest
    rw [run_cons, trace, trace, List.length_append, List.length_append, hrest]
    omega

end Trace

/-- Where the property of one more input needs it to be admitted, a property of
all prefixes needs all steps to be admitted. -/
theorem stepsMeet_of_prefixes {meets : σ → ι → Prop} {P : σ → Prop} {L : List ι → Prop} {s : σ}
    (hP : ∀ s i, P s → P (step s i)) (hs : P s)
    (hL : ∀ is i, P (run step s is) → L is → L (is ++ [i]) → meets (run step s is) i)
    {is : List ι} (h : ∀ k, L (is.take k)) : StepsMeet step meets s is := by
  induction is using List.reverseRecOn with
  | nil => trivial
  | append_singleton is i ih =>
    have hwhole : L (is ++ [i]) := by
      have h := h (is.length + 1)
      rwa [List.take_of_length_le (by simp)] at h
    have hinit : ∀ k, L (is.take k) := by
      intro k
      have h := h (min k is.length)
      rw [List.take_append_of_le_length (by omega), ← List.take_take, List.take_length] at h
      exact h
    have hlast := hinit is.length
    rw [List.take_length] at hlast
    exact stepsMeet_append.mpr
      ⟨ih hinit, hL is i (invariant hP hs is) hlast hwhole, trivial⟩

theorem stepsMeet_take {meets : σ → ι → Prop} {s : σ} {is : List ι}
    (h : StepsMeet step meets s is) (k : Nat) : StepsMeet step meets s (is.take k) := by
  rw [← List.take_append_drop k is] at h
  exact (stepsMeet_append.mp h).1

end Runs
