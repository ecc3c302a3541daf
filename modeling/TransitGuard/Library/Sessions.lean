import TransitGuard.Library.Isolation

/-!
The sessions of a system of transactions, one by one: a session that is over
stays over, those that have committed are the ones of the history, and one that
is about to fail commits nothing.
-/

namespace Isolation

variable {δ ω κ ε ι ρ : Type} {S : System δ ω κ ε ι ρ} {w : World δ ω κ ε ι ρ} {i : Nat} {call : ι}

/-- What a session has committed. -/
def Session.committed (session : Session δ ω κ ε ι ρ) : Option (ι × ρ) :=
  match session.phase with
  | .ended (.ok result) => some (session.call, result)
  | _ => none

/-- The sessions that have committed are those of the history. -/
def Recorded (w : World δ ω κ ε ι ρ) : Prop :=
  (w.sessions.filterMap Session.committed).Perm w.history

/-- The session is about to fail, or has failed. -/
def Failing (w : World δ ω κ ε ι ρ) (i : Nat) (call : ι) : Prop :=
  (∃ e pending held, w.sessions[i]? = some ⟨call, .running (.fail e) pending held⟩) ∨
    ∃ e, w.sessions[i]? = some ⟨call, .ended (.error e)⟩

theorem filterMap_set {α β : Type} {f : α → Option β} {l : List α} {i : Nat} {a b : α}
    (ha : l[i]? = some a) (hfa : f a = none) :
    ((l.set i b).filterMap f).Perm ((f b).toList ++ l.filterMap f) := by
  obtain ⟨hlt, rfl⟩ := List.getElem?_eq_some_iff.mp ha
  have hsplit : l.filterMap f = (l.take i).filterMap f ++ (l.drop (i + 1)).filterMap f := by
    conv_lhs => rw [← List.take_append_drop i l, List.drop_eq_getElem_cons hlt]
    rw [List.filterMap_append, List.filterMap_cons_none hfa]
  rw [List.set_eq_take_append_cons_drop, if_pos hlt, List.filterMap_append, hsplit]
  cases hfb : f b with
  | none =>
    rw [List.filterMap_cons_none hfb]
    exact .refl _
  | some x =>
    rw [List.filterMap_cons_some hfb]
    exact List.perm_middle

/-- Two places with the same value under `f` are one. -/
theorem index_unique {α β : Type} {f : α → Option β} {l : List α} (h : (l.filterMap f).Nodup)
    {i j : Nat} {a b : α} {x : β} (hi : l[i]? = some a) (hj : l[j]? = some b)
    (ha : f a = some x) (hb : f b = some x) : i = j := by
  obtain ⟨hilt, rfl⟩ := List.getElem?_eq_some_iff.mp hi
  obtain ⟨hjlt, rfl⟩ := List.getElem?_eq_some_iff.mp hj
  have hpairs := List.pairwise_iff_getElem.mp (List.pairwise_filterMap.mp h)
  rcases Nat.lt_trichotomy i j with hlt | heq | hlt
  · exact absurd rfl (hpairs i j hilt hjlt hlt x ha x hb)
  · exact heq
  · exact absurd rfl (hpairs j i hjlt hilt hlt x hb x ha)

/-- Session `i` goes on without a commit. -/
theorem Recorded.proceed (h : Recorded w) {phase phase' : Phase δ ω κ ε ρ}
    (hsession : w.sessions[i]? = some ⟨call, phase⟩)
    (hphase : (Session.mk call phase : Session δ ω κ ε ι ρ).committed = none)
    (hphase' : (Session.mk call phase' : Session δ ω κ ε ι ρ).committed = none) :
    Recorded (System.proceed w i call phase') := by
  have hset := filterMap_set (b := ⟨call, phase'⟩) hsession hphase
  rw [hphase'] at hset
  exact hset.trans h

/-- A session that fails has no result. -/
theorem Failing.outcome (h : Failing w i call) {outcome : Except ε ρ}
    (hended : w.sessions[i]? = some ⟨call, .ended outcome⟩) : ∃ e, outcome = .error e := by
  rcases h with ⟨e, pending, held, hsession⟩ | ⟨e, hsession⟩
  · rw [hended] at hsession
    cases hsession
  · rw [hended] at hsession
    cases hsession
    exact ⟨e, rfl⟩

/-- The calls of the sessions, in the order they began. -/
def World.calls (w : World δ ω κ ε ι ρ) : List ι := w.sessions.map (·.call)

/-- The call that an action begins. -/
def Action.begun : Action ι ε → Option ι
  | .begin call => some call
  | _ => none

theorem getElem?_calls {session : Session δ ω κ ε ι ρ} (h : w.sessions[i]? = some session) :
    w.calls[i]? = some session.call := by
  rw [World.calls, List.getElem?_map, h, Option.map_some]

/-- A session keeps its call whatever phase it goes on in. -/
theorem map_call_set {sessions : List (Session δ ω κ ε ι ρ)} {phase : Phase δ ω κ ε ρ}
    (h : sessions[i]? = some ⟨call, phase⟩) (phase' : Phase δ ω κ ε ρ) :
    (sessions.set i ⟨call, phase'⟩).map (·.call) = sessions.map (·.call) := by
  refine List.ext_getElem? fun j => ?_
  rw [List.getElem?_map, List.getElem?_map]
  by_cases hj : i = j
  · subst hj
    rw [List.getElem?_set_self (List.getElem?_eq_some_iff.mp h).1, h]
    rfl
  · rw [List.getElem?_set_ne hj]

variable [DecidableEq κ]

theorem Recorded.step (h : Recorded w) (action : Action ι ε) : Recorded (S.step w action) := by
  cases action with
  | begin call =>
    rw [Recorded, System.step, List.filterMap_append, List.filterMap_cons_none (by rfl),
      List.filterMap_nil, List.append_nil]
    exact h
  | abort i e =>
    simp only [System.step]
    split
    · exact h.proceed ‹_› rfl rfl
    · exact h
    · exact h
  | advance i =>
    simp only [System.step, System.advance]
    split
    · rename_i call result pending held hsession
      split
      · have hset := filterMap_set (f := Session.committed) (b := ⟨call, .ended (.ok result)⟩)
          hsession rfl
        exact hset.trans ((List.Perm.cons _ h).trans (List.perm_append_singleton _ _).symm)
      · exact h.proceed hsession rfl rfl
    · exact h.proceed ‹_› rfl rfl
    · split
      · exact h
      · split
        · exact h.proceed ‹_› rfl rfl
        · exact h.proceed ‹_› rfl rfl
    · exact h
    · exact h

theorem recorded_run (d : δ) (actions : List (Action ι ε)) :
    Recorded (Runs.run S.step (World.start d) actions) := by
  have hstart : Recorded (World.start d : World δ ω κ ε ι ρ) := List.Perm.refl []
  exact Runs.invariant (P := Recorded) (fun _ action h => h.step action) hstart actions

/-- A step begins at most one call, and keeps all the others. -/
theorem calls_step (w : World δ ω κ ε ι ρ) (action : Action ι ε) :
    (S.step w action).calls = w.calls ++ action.begun.toList := by
  cases action with
  | begin call => exact List.map_append
  | advance i =>
    simp only [Action.begun, Option.toList_none, List.append_nil, System.step, System.advance]
    split
    · next hsession => split <;> exact map_call_set hsession _
    · next hsession => exact map_call_set hsession _
    · next hsession =>
      split
      · rfl
      · split <;> exact map_call_set hsession _
    · rfl
    · rfl
  | abort i e =>
    simp only [Action.begun, Option.toList_none, List.append_nil, System.step]
    split
    · next hsession => exact map_call_set hsession _
    · rfl
    · rfl

/-- A new session is the last one, and has everything before it. -/
theorem getElem?_step_begin (call : ι) :
    (S.step w (.begin call)).sessions[w.sessions.length]? =
      some ⟨call, .running (S.script call) [] []⟩ := by
  simp [System.step]

theorem database_step_begin (call : ι) : (S.step w (.begin call)).database = w.database := rfl

/-- Only its own steps change a session. -/
theorem getElem?_step_of_other {s : Session δ ω κ ε ι ρ} (h : w.sessions[i]? = some s)
    {action : Action ι ε} (hadvance : action ≠ .advance i) (habort : ∀ e, action ≠ .abort i e) :
    (S.step w action).sessions[i]? = some s := by
  have hset : ∀ (j : Nat) (session : Session δ ω κ ε ι ρ), j ≠ i →
      (w.sessions.set j session)[i]? = some s := fun j session hj => by
    rw [List.getElem?_set_ne hj, h]
  cases action with
  | begin other =>
    simp only [System.step]
    rw [List.getElem?_append_left (List.getElem?_eq_some_iff.mp h).1, h]
  | abort j e =>
    have hne : j ≠ i := fun hji => habort e (hji ▸ rfl)
    simp only [System.step]
    split
    · exact hset _ _ hne
    · exact h
    · exact h
  | advance j =>
    have hne : j ≠ i := fun hji => hadvance (hji ▸ rfl)
    simp only [System.step, System.advance]
    split
    · split
      · exact hset _ _ hne
      · exact hset _ _ hne
    · exact hset _ _ hne
    · split
      · exact h
      · split
        · exact hset _ _ hne
        · exact hset _ _ hne
    · exact h
    · exact h

/-- A session that is over stays over. -/
theorem getElem?_step_of_ended {outcome : Except ε ρ}
    (h : w.sessions[i]? = some ⟨call, .ended outcome⟩) (action : Action ι ε) :
    (S.step w action).sessions[i]? = some ⟨call, .ended outcome⟩ := by
  by_cases hadvance : action = .advance i
  · subst hadvance
    simp only [System.step, System.advance, h]
  · by_cases habort : ∃ e, action = .abort i e
    · obtain ⟨e, rfl⟩ := habort
      simp only [System.step, h]
    · exact getElem?_step_of_other h hadvance fun e he => habort ⟨e, he⟩

theorem getElem?_run_of_ended {outcome : Except ε ρ}
    (h : w.sessions[i]? = some ⟨call, .ended outcome⟩) (actions : List (Action ι ε)) :
    (Runs.run S.step w actions).sessions[i]? = some ⟨call, .ended outcome⟩ :=
  Runs.invariant (P := fun w : World δ ω κ ε ι ρ => w.sessions[i]? = some ⟨call, .ended outcome⟩)
    (fun _ action h => getElem?_step_of_ended h action) h actions

/-- The next step of a session that is about to fail ends it. -/
theorem step_fail {e : ε} {pending : List ω} {held : List (Lock κ)}
    (h : w.sessions[i]? = some ⟨call, .running (.fail e) pending held⟩) :
    (S.step w (.advance i)).sessions[i]? = some ⟨call, .ended (.error e)⟩ := by
  simp only [System.step, System.advance, h, System.proceed]
  exact List.getElem?_set_self (List.getElem?_eq_some_iff.mp h).1

/-- A session that is about to fail stays so until it has failed. -/
theorem Failing.step (h : Failing w i call) (action : Action ι ε) :
    Failing (S.step w action) i call := by
  rcases h with ⟨e, pending, held, hsession⟩ | ⟨e, hsession⟩
  · by_cases hadvance : action = .advance i
    · subst hadvance
      exact .inr ⟨e, step_fail hsession⟩
    · by_cases habort : ∃ e, action = .abort i e
      · obtain ⟨e', rfl⟩ := habort
        simp only [System.step, hsession, System.proceed]
        exact .inr ⟨e', List.getElem?_set_self (List.getElem?_eq_some_iff.mp hsession).1⟩
      · exact .inl ⟨e, pending, held,
          getElem?_step_of_other hsession hadvance fun e he => habort ⟨e, he⟩⟩
  · exact .inr ⟨e, getElem?_step_of_ended hsession action⟩

theorem Failing.run (h : Failing w i call) (actions : List (Action ι ε)) :
    Failing (Runs.run S.step w actions) i call :=
  Runs.invariant (P := fun w : World δ ω κ ε ι ρ => Failing w i call)
    (fun _ action h => h.step action) h actions

/-- The steps of a session that fails leave the database alone. -/
theorem Failing.database (h : Failing w i call) {action : Action ι ε}
    (haction : action = .advance i ∨ ∃ e, action = .abort i e) :
    (S.step w action).database = w.database := by
  rcases h with ⟨e, pending, held, hsession⟩ | ⟨e, hsession⟩ <;>
    rcases haction with rfl | ⟨e', rfl⟩ <;>
    simp only [System.step, System.advance, hsession, System.proceed]

end Isolation
