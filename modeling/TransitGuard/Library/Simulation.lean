import TransitGuard.Library.Runs

/-!
Forward simulation between two systems that take inputs. Every step of the lower
system on an admitted input is matched by one step of the upper one, whose input
may depend on the states; what holds along all runs of the upper system is then
carried down.
-/

namespace Runs

variable {σ σ' ι ι' : Type*} {step : σ → ι → σ} {step' : σ' → ι' → σ'} {R : σ → σ' → Prop}
  {admitted : ι → Prop}

/-- From related states, every step below on an admitted input has a step above
that keeps them related. -/
def Simulates (admitted : ι → Prop) (step : σ → ι → σ) (step' : σ' → ι' → σ')
    (R : σ → σ' → Prop) : Prop :=
  ∀ s s' i, admitted i → R s s' → ∃ i', R (step s i) (step' s' i')

/-- Every run below has a run above, of the same length, to related states. -/
theorem Simulates.run (h : Simulates admitted step step' R) {s : σ} {s' : σ'} (hs : R s s')
    {is : List ι} (his : ∀ i ∈ is, admitted i) :
    ∃ is' : List ι', is'.length = is.length ∧ R (Runs.run step s is) (Runs.run step' s' is') := by
  induction is generalizing s s' with
  | nil => exact ⟨[], rfl, hs⟩
  | cons i is ih =>
    rw [List.forall_mem_cons] at his
    obtain ⟨i', hstep⟩ := h s s' i his.1 hs
    obtain ⟨is', hlength, hrun⟩ := ih hstep his.2
    exact ⟨i' :: is', by simp [hlength], hrun⟩

/-- What holds after every run above holds of a related state after every run
below. -/
theorem Simulates.transfer (h : Simulates admitted step step' R) {s : σ} {s' : σ'} (hs : R s s')
    {P : σ' → Prop} (hP : ∀ is', P (Runs.run step' s' is')) {is : List ι}
    (his : ∀ i ∈ is, admitted i) : ∃ t, R (Runs.run step s is) t ∧ P t := by
  obtain ⟨is', -, hrun⟩ := h.run hs his
  exact ⟨_, hrun, hP is'⟩

end Runs
