import Mathlib.Data.List.Forall2
import TransitGuard.Library.Runs

/-!
Machines that answer every input. A transcript is the list of answers; what is
said here is where its answers come from, how answers that carry a counter are
numbered, and when two machines cannot be told apart by their transcripts.
-/

namespace Transcript

variable {σ σ' ι ι' ο : Type*}

/-- The state a step leaves. -/
def next (step : σ → ι → ο × σ) (s : σ) (i : ι) : σ := (step s i).2

/-- The answers to the inputs, in order. -/
def outputs (step : σ → ι → ο × σ) : σ → List ι → List ο
  | _, [] => []
  | s, i :: is => (step s i).1 :: outputs step (step s i).2 is

variable {step : σ → ι → ο × σ}

@[simp] theorem length_outputs (s : σ) (is : List ι) :
    (outputs step s is).length = is.length := by
  induction is generalizing s with
  | nil => rfl
  | cons i is ih => rw [outputs, List.length_cons, List.length_cons, ih]

/-- Every answer is the one to its own input, in the state the inputs before it
lead to. -/
theorem getElem?_outputs (s : σ) (is : List ι) (k : Nat) :
    (outputs step s is)[k]? =
      is[k]?.map fun i => (step (Runs.run (next step) s (is.take k)) i).1 := by
  induction is generalizing s k with
  | nil => rfl
  | cons i is ih =>
    cases k with
    | zero => rfl
    | succ k =>
      rw [outputs, List.getElem?_cons_succ, List.getElem?_cons_succ, ih, List.take_succ_cons,
        Runs.run_cons]
      rfl

/-- One more input is one more step. -/
theorem run_take_succ {is : List ι} {k : Nat} {i : ι} (h : is[k]? = some i) (s : σ) :
    Runs.run (next step) s (is.take (k + 1)) =
      (step (Runs.run (next step) s (is.take k)) i).2 := by
  rw [List.take_add_one, h, Option.toList_some, Runs.run_append]
  rfl

/-- Where every answer carries the counter and moves it on, or carries nothing
and leaves it, the transcript counts up from where the counter started. -/
theorem counts_up (count : σ → Nat) (tag : ο → Option Nat)
    (hstep : ∀ s i, (tag (step s i).1 = none ∧ count (step s i).2 = count s) ∨
      (tag (step s i).1 = some (count s) ∧ count (step s i).2 = count s + 1))
    (s : σ) (is : List ι) :
    (outputs step s is).filterMap tag =
      List.range' (count s) ((outputs step s is).filterMap tag).length := by
  induction is generalizing s with
  | nil => rfl
  | cons i is ih =>
    rcases hstep s i with ⟨htag, hcount⟩ | ⟨htag, hcount⟩
    · rw [outputs, List.filterMap_cons_none htag, ← hcount]
      exact ih _
    · rw [outputs, List.filterMap_cons_some htag, List.length_cons, List.range'_succ, ← hcount,
        ← ih]

/-- Two machines in lockstep: when related states give the same answer to
related inputs and stay related, related inputs give the same transcript. -/
theorem outputs_congr {step' : σ' → ι' → ο × σ'} {R : σ → σ' → Prop} {S : ι → ι' → Prop}
    (hstep : ∀ s s' i i', R s s' → S i i' →
      (step s i).1 = (step' s' i').1 ∧ R (step s i).2 (step' s' i').2)
    {s : σ} {s' : σ'} (hs : R s s') {is : List ι} {is' : List ι'} (his : List.Forall₂ S is is') :
    outputs step s is = outputs step' s' is' := by
  induction his generalizing s s' with
  | nil => rfl
  | cons hi _ ih =>
    obtain ⟨hsame, hrelated⟩ := hstep s s' _ _ hs hi
    rw [outputs, outputs, hsame, ih hrelated]

theorem take_zipIdx (is : List ι) (k : Nat) : (is.take k).zipIdx = is.zipIdx.take k := by
  refine List.ext_getElem? fun j => ?_
  rw [List.getElem?_zipIdx, List.getElem?_take, List.getElem?_take, List.getElem?_zipIdx]
  split_ifs
  · rfl
  · rfl

/-- Numbering the inputs keeps a relation between them. -/
theorem forall₂_zipIdx {S : ι → ι' → Prop} {is : List ι} {is' : List ι'}
    (h : List.Forall₂ S is is') (n : Nat) :
    List.Forall₂ (fun p p' => S p.1 p'.1 ∧ p.2 = p'.2) (is.zipIdx n) (is'.zipIdx n) := by
  induction h generalizing n with
  | nil => exact .nil
  | cons hi _ ih => exact .cons ⟨hi, rfl⟩ (ih (n + 1))

end Transcript
