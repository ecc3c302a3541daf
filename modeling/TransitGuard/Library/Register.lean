import Mathlib.Data.List.Induction
import Mathlib.Data.List.Nodup

/-!
A register whose writes carry times. A write replaces what the register holds
unless that was written at a later time, so among writes of one time the last
one stays, and writes of distinct times may come in any order.
-/

namespace Register

variable {τ α : Type*} [LE τ] [DecidableLE τ]

/-- The register after a write. -/
def write : Option (τ × α) → τ × α → Option (τ × α)
  | none, new => some new
  | some held, new => if held.1 ≤ new.1 then some new else some held

/-- An empty register after the writes, one after another. -/
def ofWrites (writes : List (τ × α)) : Option (τ × α) := writes.foldl write none

theorem ofWrites_append (writes : List (τ × α)) (new : τ × α) :
    ofWrites (writes ++ [new]) = write (ofWrites writes) new := by
  simp [ofWrites, List.foldl_append]

theorem ofWrites_eq_none {writes : List (τ × α)} (h : ofWrites writes = none) : writes = [] := by
  induction writes using List.reverseRecOn with
  | nil => rfl
  | append_singleton writes new _ =>
    rw [ofWrites_append] at h
    unfold write at h
    split at h
    · cases h
    · split at h <;> cases h

variable [Std.IsLinearOrder τ] [DecidableEq τ]

/-- The register holds the last write among those of the latest time. -/
theorem ofWrites_eq_some {writes : List (τ × α)} {held : τ × α} (h : ofWrites writes = some held) :
    (∀ w ∈ writes, w.1 ≤ held.1) ∧
      (writes.filter fun w => w.1 = held.1).getLast? = some held := by
  induction writes using List.reverseRecOn generalizing held with
  | nil => cases h
  | append_singleton writes new ih =>
    rw [ofWrites_append] at h
    cases hearlier : ofWrites writes with
    | none =>
      obtain rfl := ofWrites_eq_none hearlier
      rw [hearlier] at h
      cases h
      simp [Std.le_refl]
    | some earlier =>
      obtain ⟨hbound, hlast⟩ := ih hearlier
      rw [hearlier, write] at h
      split at h
      · next hle =>
        cases h
        refine ⟨fun w hw => ?_, by simp⟩
        rcases List.mem_append.mp hw with hw | hw
        · exact Std.le_trans (hbound w hw) hle
        · rw [List.mem_singleton.mp hw]
          exact Std.le_refl _
      · next hle =>
        obtain rfl : earlier = held := Option.some.inj h
        have hne : new.1 ≠ earlier.1 := fun heq => hle (heq ▸ Std.le_refl _)
        have hnew : new.1 ≤ earlier.1 := (Std.le_total).resolve_left hle
        refine ⟨fun w hw => ?_, by simpa [hne] using hlast⟩
        rcases List.mem_append.mp hw with hw | hw
        · exact hbound w hw
        · rw [List.mem_singleton.mp hw]
          exact hnew

theorem mem_of_ofWrites {writes : List (τ × α)} {held : τ × α} (h : ofWrites writes = some held) :
    held ∈ writes :=
  List.mem_of_mem_filter (List.mem_of_getLast? (ofWrites_eq_some h).2)

/-- Writes of distinct times may come in any order. -/
theorem ofWrites_perm {writes writes' : List (τ × α)} (hperm : writes.Perm writes')
    (htimes : (writes.map Prod.fst).Nodup) : ofWrites writes = ofWrites writes' := by
  cases h : ofWrites writes with
  | none =>
    obtain rfl := ofWrites_eq_none h
    rw [List.nil_perm.mp hperm]
    rfl
  | some held =>
    cases h' : ofWrites writes' with
    | none =>
      obtain rfl := ofWrites_eq_none h'
      rw [List.perm_nil.mp hperm] at h
      cases h
    | some held' =>
      have hmem := mem_of_ofWrites h
      have hmem' := hperm.mem_iff.mpr (mem_of_ofWrites h')
      have htime : held.1 = held'.1 := Std.le_antisymm
        ((ofWrites_eq_some h').1 held (hperm.mem_iff.mp hmem)) ((ofWrites_eq_some h).1 held' hmem')
      rw [List.inj_on_of_nodup_map htimes hmem hmem' htime]

end Register
