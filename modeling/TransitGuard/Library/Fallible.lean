import Mathlib.Data.List.Forall2

/-!
Inversion of fallible computations: what has to hold of the parts of a
computation that returned a value.
-/

namespace Fallible

variable {ε δ α β : Type}

/-- A partial result whose absence is the error `e`. -/
def orFail (e : ε) : Option α → Except ε α
  | some a => .ok a
  | none => .error e

@[simp] theorem orFail_eq_ok {e : ε} {o : Option α} {a : α} :
    orFail e o = .ok a ↔ o = some a := by
  cases o <;> simp [orFail]

/-- A call on a value in place: what it returns and what it leaves. A failing
call leaves the value as it was. -/
def inPlace (a : α) : Except ε α → Except ε Unit × α
  | .ok b => (.ok (), b)
  | .error e => (.error e, a)

theorem inPlace_error {a : α} {x : Except ε α} {e : ε} (h : (inPlace a x).1 = .error e) :
    (inPlace a x).2 = a := by
  cases x with
  | error e' => rfl
  | ok b => cases h

theorem ok_bind {a : α} {f : α → Except ε β} : (Except.ok a >>= f) = f a := rfl

theorem map_ok {f : α → β} {a : α} : f <$> (Except.ok a : Except ε α) = .ok (f a) := rfl

theorem bind_eq_ok {x : Except ε α} {f : α → Except ε β} {b : β} :
    x >>= f = .ok b ↔ ∃ a, x = .ok a ∧ f a = .ok b := by
  cases x with
  | error e => exact ⟨fun h => (by cases h), fun ⟨_, h, _⟩ => (by cases h)⟩
  | ok a => exact ⟨fun h => ⟨a, rfl, h⟩, fun ⟨_, h, hf⟩ => by cases h; exact hf⟩

theorem mapError_eq_ok {f : ε → δ} {x : Except ε α} {a : α} :
    x.mapError f = .ok a ↔ x = .ok a := by
  cases x <;> simp [Except.mapError]

/-- Changing the error and changing the value do not interfere. -/
theorem mapError_map {f : ε → δ} {g : α → β} {x : Except ε α} :
    (g <$> x).mapError f = g <$> x.mapError f := by
  cases x <;> rfl

theorem map_eq_ok {f : α → β} {x : Except ε α} {b : β} :
    x.map f = .ok b ↔ ∃ a, x = .ok a ∧ f a = b := by
  cases x <;> simp [Except.map]

theorem toOption_eq_some {x : Except ε α} {a : α} : x.toOption = some a ↔ x = .ok a := by
  cases x <;> simp [Except.toOption]

theorem isOk_iff {x : Except ε α} : x.isOk = true ↔ ∃ a, x = .ok a := by
  cases x <;> simp [Except.isOk, Except.toBool]

/-- A guard of a `do` block: the rest runs only when the condition fails. -/
theorem guard_eq_ok {c : Prop} [Decidable c] {e : ε} {k : PUnit → Except ε β} {b : β} :
    (if c then (Except.error e : Except ε PUnit) >>= k else k ⟨⟩) = .ok b ↔
      ¬c ∧ k ⟨⟩ = .ok b := by
  by_cases h : c
  · rw [if_pos h]
    exact ⟨fun hb => (by cases hb), fun hb => absurd h hb.1⟩
  · rw [if_neg h]
    exact ⟨fun hb => ⟨h, hb⟩, fun hb => hb.2⟩

theorem ite_error_eq_ok {c : Prop} [Decidable c] {e : ε} {x : Except ε β} {b : β} :
    (if c then .error e else x) = .ok b ↔ ¬c ∧ x = .ok b := by
  by_cases h : c <;> simp [h]

/-- A list of fallible results succeeds when every one of them does. -/
theorem mapM_eq_ok {f : α → Except ε β} {xs : List α} {ys : List β} :
    xs.mapM f = .ok ys ↔ List.Forall₂ (fun x y => f x = .ok y) xs ys := by
  induction xs generalizing ys with
  | nil =>
    simp only [List.mapM_nil, List.forall₂_nil_left_iff]
    exact ⟨fun h => (by cases h; rfl), fun h => h ▸ rfl⟩
  | cons x xs ih =>
    simp only [List.mapM_cons, bind_eq_ok, List.forall₂_cons_left_iff, ih]
    constructor
    · rintro ⟨y, hy, rest, hrest, h⟩
      cases h
      exact ⟨y, rest, hy, hrest, rfl⟩
    · rintro ⟨y, rest, hy, hrest, rfl⟩
      exact ⟨y, hy, rest, hrest, rfl⟩

/-- A loop of checks passes when every check does. -/
theorem forM_eq_ok {f : α → Except ε Unit} {xs : List α} :
    xs.forM f = .ok () ↔ ∀ x ∈ xs, f x = .ok () := by
  induction xs with
  | nil => exact ⟨fun _ _ h => absurd h List.not_mem_nil, fun _ => rfl⟩
  | cons x xs ih =>
    rw [List.forM, bind_eq_ok, List.forall_mem_cons, ← ih]
    exact ⟨fun ⟨_, hx, hxs⟩ => ⟨hx, hxs⟩, fun ⟨hx, hxs⟩ => ⟨_, hx, hxs⟩⟩

/-- A fallible loop whose every step succeeds and keeps `P` succeeds and keeps
`P`. -/
theorem foldlM_invariant {P : β → Prop} {f : β → α → Except ε β}
    (hf : ∀ s x, P s → ∃ s', f s x = .ok s' ∧ P s') {s : β} (hs : P s) (xs : List α) :
    ∃ s', xs.foldlM f s = .ok s' ∧ P s' := by
  induction xs generalizing s with
  | nil => exact ⟨s, rfl, hs⟩
  | cons x xs ih =>
    obtain ⟨s', hs', hP⟩ := hf s x hs
    obtain ⟨s'', hrest, hP'⟩ := ih hP
    refine ⟨s'', ?_, hP'⟩
    rw [List.foldlM_cons, hs']
    exact hrest

/-- What relates two lists entry by entry relates each right entry to some left
one. -/
theorem exists_of_forall₂ {R : α → β → Prop} {xs : List α} {ys : List β}
    (h : List.Forall₂ R xs ys) {y : β} (hy : y ∈ ys) : ∃ x ∈ xs, R x y := by
  induction h with
  | nil => cases hy
  | @cons x z xs ys hR _ ih =>
    rcases List.mem_cons.mp hy with rfl | hy
    · exact ⟨x, List.mem_cons_self .., hR⟩
    · obtain ⟨x', hx', hR'⟩ := ih hy
      exact ⟨x', List.mem_cons_of_mem _ hx', hR'⟩

theorem map_eq_of_forall₂ {γ : Type} {R : α → β → Prop} {xs : List α} {ys : List β}
    (h : List.Forall₂ R xs ys) {f : α → γ} {g : β → γ} (hR : ∀ {x y}, R x y → g y = f x) :
    ys.map g = xs.map f := by
  induction h with
  | nil => rfl
  | cons hxy _ ih => rw [List.map_cons, List.map_cons, hR hxy, ih]

theorem exists_forall₂ {R : α → β → Prop} {xs : List α} (h : ∀ x ∈ xs, ∃ y, R x y) :
    ∃ ys, List.Forall₂ R xs ys := by
  induction xs with
  | nil => exact ⟨[], .nil⟩
  | cons x xs ih =>
    rw [List.forall_mem_cons] at h
    obtain ⟨y, hy⟩ := h.1
    obtain ⟨ys, hys⟩ := ih h.2
    exact ⟨y :: ys, .cons hy hys⟩

/-! ## Errors -/

theorem bind_eq_error {x : Except ε α} {f : α → Except ε β} {e : ε} :
    x >>= f = .error e ↔ x = .error e ∨ ∃ a, x = .ok a ∧ f a = .error e := by
  cases x with
  | error e' => exact ⟨fun h => .inl (by cases h; rfl), fun h => by
      rcases h with h | ⟨_, h, _⟩ <;> cases h
      rfl⟩
  | ok a => exact ⟨fun h => .inr ⟨a, rfl, h⟩, fun h => by
      rcases h with h | ⟨_, h, hf⟩ <;> cases h
      exact hf⟩

/-- Two continuations that fail alike make computations that fail alike. -/
theorem bind_error_congr {γ : Type} {x : Except ε α} {f : α → Except ε β} {g : α → Except ε γ}
    {e : ε} (h : ∀ a, x = .ok a → (f a = .error e ↔ g a = .error e)) :
    x >>= f = .error e ↔ x >>= g = .error e := by
  cases x with
  | error e' => simp [bind_eq_error]
  | ok a => exact h a rfl

/-- A list of fallible results fails as one of them does. -/
theorem exists_of_mapM_error {f : α → Except ε β} {xs : List α} {e : ε}
    (h : xs.mapM f = .error e) : ∃ x ∈ xs, f x = .error e := by
  induction xs with
  | nil => cases h
  | cons x xs ih =>
    rw [List.mapM_cons] at h
    rcases bind_eq_error.mp h with h | ⟨y, -, h⟩
    · exact ⟨x, List.mem_cons_self .., h⟩
    rcases bind_eq_error.mp h with h | ⟨ys, -, h⟩
    · obtain ⟨x', hx', hf⟩ := ih h
      exact ⟨x', List.mem_cons_of_mem _ hx', hf⟩
    · cases h

@[simp] theorem orFail_eq_error {e e' : ε} {o : Option α} :
    orFail e o = .error e' ↔ o = none ∧ e = e' := by
  cases o <;> simp [orFail]

theorem mapError_eq_error {f : ε → δ} {x : Except ε α} {e : δ} :
    x.mapError f = .error e ↔ ∃ e', x = .error e' ∧ f e' = e := by
  cases x <;> simp [Except.mapError]

theorem guard_eq_error {c : Prop} [Decidable c] {e e' : ε} {k : PUnit → Except ε β} :
    (if c then (Except.error e : Except ε PUnit) >>= k else k ⟨⟩) = .error e' ↔
      (c ∧ e = e') ∨ (¬c ∧ k ⟨⟩ = .error e') := by
  by_cases h : c
  · rw [if_pos h]
    exact ⟨fun he => .inl ⟨h, by cases he; rfl⟩, fun he => by
      rcases he with ⟨-, rfl⟩ | ⟨hn, -⟩
      · rfl
      · exact absurd h hn⟩
  · rw [if_neg h]
    exact ⟨fun he => .inr ⟨h, he⟩, fun he => he.elim (fun he => absurd he.1 h) And.right⟩

theorem ite_error_eq_error {c : Prop} [Decidable c] {e e' : ε} {x : Except ε β} :
    (if c then .error e else x) = .error e' ↔ (c ∧ e = e') ∨ (¬c ∧ x = .error e') := by
  by_cases h : c <;> simp [h]

end Fallible
