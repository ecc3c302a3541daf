import TransitGuard.Library.Runs

/-!
Transactions of a database that run side by side under row locks. A transaction
is a script of statements. Each statement sees the rows committed before it and
the transaction's own writes; it waits while another transaction holds a lock
that conflicts with one it needs, and keeps its own locks to the end. A failed
statement rolls the transaction back.

The second half is a proof rule for such scripts. While a transaction waits, the
others may commit whatever its locks do not protect; a script is proved against
every such change, and the whole system then commits only what the scripts were
proved to commit.
-/

namespace Isolation

variable {δ ω κ ε ι ρ α β : Type}

/-! ## Scripts -/

/-- The strength of a lock. -/
inductive Mode
  | share
  | exclusive
  deriving DecidableEq, Repr

def Mode.conflicts : Mode → Mode → Bool
  | .share, .share => false
  | _, _ => true

/-- A lock on the row, or on the value of a unique column, that `key` names. -/
structure Lock (κ : Type) where
  key : κ
  mode : Mode

/-- A transaction. A statement needs its locks, then computes its writes on
what the transaction sees, and the rest of the script may depend on the same
view. -/
inductive Script (δ ω κ ε α : Type)
  | done (a : α)
  | fail (e : ε)
  | statement (locks : List (Lock κ)) (exec : δ → Except ε (List ω))
      (next : δ → Script δ ω κ ε α)

namespace Script

protected def bind : Script δ ω κ ε α → (α → Script δ ω κ ε β) → Script δ ω κ ε β
  | .done a, f => f a
  | .fail e, _ => .fail e
  | .statement locks exec next, f => .statement locks exec fun d => (next d).bind f

instance : Monad (Script δ ω κ ε) where
  pure := .done
  bind := Script.bind

protected theorem bind_assoc {γ : Type} (x : Script δ ω κ ε α) (f : α → Script δ ω κ ε β)
    (g : β → Script δ ω κ ε γ) : x >>= f >>= g = x >>= fun a => f a >>= g := by
  induction x with
  | done a => rfl
  | fail e => rfl
  | statement locks exec next ih =>
    change Script.statement locks exec (fun d => next d >>= f >>= g) =
      Script.statement locks exec fun d => next d >>= fun a => f a >>= g
    exact congrArg (Script.statement locks exec) (funext ih)

/-- A plain `SELECT`. -/
def select (f : δ → α) : Script δ ω κ ε α :=
  .statement [] (fun _ => .ok []) fun d => .done (f d)

/-- A `SELECT .. FOR SHARE` or `FOR UPDATE` of the rows named by the locks. -/
def selectFor (locks : List (Lock κ)) (f : δ → α) : Script δ ω κ ε α :=
  .statement locks (fun _ => .ok []) fun d => .done (f d)

/-- A statement that writes. -/
def write (locks : List (Lock κ)) (exec : δ → Except ε (List ω)) : Script δ ω κ ε Unit :=
  .statement locks exec fun _ => .done ()

/-- What the program computes between two statements. -/
def ofExcept : Except ε α → Script δ ω κ ε α
  | .ok a => .done a
  | .error e => .fail e

end Script

/-! ## Running scripts side by side -/

/-- The scripts of the calls, how a write changes the database, and the
constraints that are checked at the commit. -/
structure System (δ ω κ ε ι ρ : Type) where
  script : ι → Script δ ω κ ε ρ
  apply : δ → ω → δ
  deferred : δ → Except ε Unit

/-- A database under the writes of a transaction. -/
def view (apply : δ → ω → δ) (pending : List ω) (d : δ) : δ := pending.foldl apply d

@[simp] theorem view_nil (apply : δ → ω → δ) (d : δ) : view apply [] d = d := rfl

theorem view_append (apply : δ → ω → δ) (pending writes : List ω) (d : δ) :
    view apply (pending ++ writes) d = view apply writes (view apply pending d) := by
  simp [view, List.foldl_append]

/-- Where a call is: under way, with what it has written and locked, or over. -/
inductive Phase (δ ω κ ε ρ : Type)
  | running (script : Script δ ω κ ε ρ) (pending : List ω) (held : List (Lock κ))
  | ended (outcome : Except ε ρ)

structure Session (δ ω κ ε ι ρ : Type) where
  call : ι
  phase : Phase δ ω κ ε ρ

def Session.held (session : Session δ ω κ ε ι ρ) : List (Lock κ) :=
  match session.phase with
  | .running _ _ held => held
  | .ended _ => []

/-- The committed database, the sessions in the order they began, and the
committed calls with their results in commit order. -/
structure World (δ ω κ ε ι ρ : Type) where
  database : δ
  sessions : List (Session δ ω κ ε ι ρ)
  history : List (ι × ρ)

def World.start (d : δ) : World δ ω κ ε ι ρ := ⟨d, [], []⟩

/-- What the scheduler may do next. A transaction may be aborted at any time,
by a deadlock or a lost connection. -/
inductive Action (ι ε : Type)
  | begin (call : ι)
  | advance (session : Nat)
  | abort (session : Nat) (error : ε)

namespace System

variable (S : System δ ω κ ε ι ρ)

/-- Another session holds a lock that conflicts with one of `locks`. -/
def blocked [DecidableEq κ] (w : World δ ω κ ε ι ρ) (i : Nat) (locks : List (Lock κ)) : Bool :=
  (w.sessions.eraseIdx i).any fun other =>
    other.held.any fun theirs =>
      locks.any fun ours => ours.key = theirs.key && ours.mode.conflicts theirs.mode

/-- Session `i` goes on in `phase`. -/
def proceed (w : World δ ω κ ε ι ρ) (i : Nat) (call : ι) (phase : Phase δ ω κ ε ρ) :
    World δ ω κ ε ι ρ :=
  { w with sessions := w.sessions.set i ⟨call, phase⟩ }

/-- The next statement of session `i`, or its end. A statement that has to wait
leaves everything as it is. -/
def advance [DecidableEq κ] (w : World δ ω κ ε ι ρ) (i : Nat) : World δ ω κ ε ι ρ :=
  match w.sessions[i]? with
  | some ⟨call, .running (.done result) pending _⟩ =>
    match S.deferred (view S.apply pending w.database) with
    | .ok _ =>
      { database := view S.apply pending w.database
        sessions := w.sessions.set i ⟨call, .ended (.ok result)⟩
        history := w.history ++ [(call, result)] }
    | .error e => proceed w i call (.ended (.error e))
  | some ⟨call, .running (.fail e) _ _⟩ => proceed w i call (.ended (.error e))
  | some ⟨call, .running (.statement locks exec next) pending held⟩ =>
    if blocked w i locks then w
    else
      match exec (view S.apply pending w.database) with
      | .ok writes =>
        proceed w i call (.running (next (view S.apply pending w.database)) (pending ++ writes)
          (locks ++ held))
      | .error e => proceed w i call (.ended (.error e))
  | some ⟨_, .ended _⟩ => w
  | none => w

def step [DecidableEq κ] (w : World δ ω κ ε ι ρ) : Action ι ε → World δ ω κ ε ι ρ
  | .begin call =>
    { w with sessions := w.sessions ++ [⟨call, .running (S.script call) [] []⟩] }
  | .advance i => S.advance w i
  | .abort i e =>
    match w.sessions[i]? with
    | some ⟨call, .running _ _ _⟩ => proceed w i call (.ended (.error e))
    | some ⟨_, .ended _⟩ => w
    | none => w

/-- The script from here on with nothing beside it. -/
def executeFrom (d : δ) : Script δ ω κ ε ρ → List ω → Except ε ρ × δ
  | .done result, pending =>
    match S.deferred (view S.apply pending d) with
    | .ok _ => (.ok result, view S.apply pending d)
    | .error e => (.error e, d)
  | .fail e, _ => (.error e, d)
  | .statement _ exec next, pending =>
    match exec (view S.apply pending d) with
    | .ok writes => executeFrom d (next (view S.apply pending d)) (pending ++ writes)
    | .error e => (.error e, d)

/-- The call with nothing beside it. -/
def execute (d : δ) (call : ι) : Except ε ρ × δ := S.executeFrom d (S.script call) []

theorem executeFrom_select {d : δ} {f : δ → α} {k : α → Script δ ω κ ε ρ} {pending : List ω} :
    S.executeFrom d (Script.select f >>= k) pending =
      S.executeFrom d (k (f (view S.apply pending d))) pending := by
  change S.executeFrom d (k (f (view S.apply pending d))) (pending ++ []) = _
  rw [List.append_nil]

theorem executeFrom_ofExcept_ok {d : δ} {a : α} {k : α → Script δ ω κ ε ρ} {pending : List ω} :
    S.executeFrom d (Script.ofExcept (.ok a) >>= k) pending = S.executeFrom d (k a) pending :=
  rfl

theorem executeFrom_write {d : δ} {locks : List (Lock κ)} {exec : δ → Except ε (List ω)}
    {k : Unit → Script δ ω κ ε ρ} {pending writes : List ω}
    (h : exec (view S.apply pending d) = .ok writes) :
    S.executeFrom d (Script.write locks exec >>= k) pending =
      S.executeFrom d (k ()) (pending ++ writes) := by
  change S.executeFrom d (.statement locks exec fun _ => k ()) pending = _
  rw [executeFrom, h]

theorem executeFrom_pure {d : δ} {result : ρ} {pending : List ω}
    (h : S.deferred (view S.apply pending d) = .ok ()) :
    S.executeFrom d (pure result) pending = (.ok result, view S.apply pending d) := by
  change S.executeFrom d (.done result) pending = _
  rw [executeFrom, h]

end System

/-! ## What a script may rely on -/

/-- What every commit keeps, how the database may move, and when two databases
agree on the row or unique value a lock names. -/
structure Discipline (δ κ : Type) where
  invariant : δ → Prop
  grows : δ → δ → Prop
  agree : κ → δ → δ → Prop
  grows_refl : ∀ d, grows d d
  grows_trans : ∀ d d' d'', grows d d' → grows d' d'' → grows d d''
  agree_refl : ∀ key d, agree key d d
  agree_trans : ∀ key d d' d'', agree key d d' → agree key d' d'' → agree key d d''

namespace Discipline

variable (D : Discipline δ κ)

/-- What the commits of others may have done to a session with the locks
`held`. -/
structure Rely (held : List (Lock κ)) (d d' : δ) : Prop where
  invariant : D.invariant d'
  grows : D.grows d d'
  agree : ∀ lock ∈ held, D.agree lock.key d d'

/-- What the commit of a session with the locks `held` may do. -/
structure Guarantee (held : List (Lock κ)) (d d' : δ) : Prop where
  invariant : D.invariant d'
  grows : D.grows d d'
  agree : ∀ key, ⟨key, .exclusive⟩ ∉ held → D.agree key d d'

variable {D} {held : List (Lock κ)} {d d' d'' : δ}

theorem Rely.refl (h : D.invariant d) : D.Rely held d d :=
  ⟨h, D.grows_refl d, fun lock _ => D.agree_refl lock.key d⟩

theorem Rely.trans (h : D.Rely held d d') (h' : D.Rely held d' d'') : D.Rely held d d'' where
  invariant := h'.invariant
  grows := D.grows_trans _ _ _ h.grows h'.grows
  agree lock hlock := D.agree_trans _ _ _ _ (h.agree lock hlock) (h'.agree lock hlock)

theorem Rely.mono {more : List (Lock κ)} (h : D.Rely more d d') (hheld : held ⊆ more) :
    D.Rely held d d' :=
  ⟨h.invariant, h.grows, fun lock hlock => h.agree lock (hheld hlock)⟩

theorem Rely.key (h : D.Rely held d d') {key : κ} {mode : Mode} (hlock : ⟨key, mode⟩ ∈ held) :
    D.agree key d d' :=
  h.agree _ hlock

/-- A commit that changes nothing keeps every promise. -/
theorem Guarantee.refl (h : D.invariant d) : D.Guarantee held d d :=
  ⟨h, D.grows_refl d, fun key _ => D.agree_refl key d⟩

theorem Guarantee.trans (h : D.Guarantee held d d') (h' : D.Guarantee held d' d'') :
    D.Guarantee held d d'' where
  invariant := h'.invariant
  grows := D.grows_trans _ _ _ h.grows h'.grows
  agree key hkey := D.agree_trans _ _ _ _ (h.agree key hkey) (h'.agree key hkey)

/-- Locks that do not conflict keep the commit of one session within what the
other relies on. -/
theorem Guarantee.rely {others : List (Lock κ)} (h : D.Guarantee held d d')
    (hcompatible : ∀ ours ∈ held, ∀ theirs ∈ others, ours.key = theirs.key →
      ours.mode.conflicts theirs.mode = false) : D.Rely others d d' where
  invariant := h.invariant
  grows := h.grows
  agree theirs htheirs := by
    apply h.agree
    intro hheld
    have hfree := hcompatible _ hheld theirs htheirs rfl
    simp [Mode.conflicts] at hfree

/-- Nothing is relied on. -/
def free : Discipline δ κ where
  invariant _ := True
  grows _ _ := True
  agree _ _ _ := True
  grows_refl _ := trivial
  grows_trans _ _ _ _ _ := trivial
  agree_refl _ _ := trivial
  agree_trans _ _ _ _ _ _ := trivial

theorem free_guarantee : (free : Discipline δ κ).Guarantee held d d' :=
  ⟨trivial, trivial, fun _ _ => trivial⟩

end Discipline

/-! ## The proof rule -/

/-- A session between two statements. -/
structure Point (δ ω κ : Type) where
  database : δ
  pending : List ω
  held : List (Lock κ)

/-- `post` holds whenever the script ends, whatever the others commit before
each of its statements. -/
def wp (D : Discipline δ κ) (apply : δ → ω → δ) (post : α → Point δ ω κ → Prop) :
    Script δ ω κ ε α → Point δ ω κ → Prop
  | .done a, p => post a p
  | .fail _, _ => True
  | .statement locks exec next, p =>
    ∀ d, D.Rely p.held p.database d → ∀ writes, exec (view apply p.pending d) = .ok writes →
      wp D apply post (next (view apply p.pending d)) ⟨d, p.pending ++ writes, locks ++ p.held⟩

section Wp

variable {D : Discipline δ κ} {apply : δ → ω → δ} {p : Point δ ω κ}

theorem wp_bind {script : Script δ ω κ ε α} {f : α → Script δ ω κ ε β}
    {post : β → Point δ ω κ → Prop} :
    wp D apply post (script >>= f) p ↔ wp D apply (fun a => wp D apply post (f a)) script p := by
  induction script generalizing p with
  | done a => rfl
  | fail e => rfl
  | statement locks exec next ih =>
    change (∀ d, _ → ∀ writes, _ → wp D apply post (next _ >>= f) _) ↔ _
    simp only [ih]
    rfl

theorem wp_pure {a : α} {post : α → Point δ ω κ → Prop} :
    wp D apply post (pure a : Script δ ω κ ε α) p ↔ post a p :=
  Iff.rfl

theorem wp_ofExcept {x : Except ε α} {post : α → Point δ ω κ → Prop} :
    wp D apply post (Script.ofExcept x : Script δ ω κ ε α) p ↔ ∀ a, x = .ok a → post a p := by
  cases x with
  | error e => exact ⟨fun _ _ h => (by cases h), fun _ => trivial⟩
  | ok a => exact ⟨fun h b hb => (by cases hb; exact h), fun h => h a rfl⟩

theorem wp_select {f : δ → α} {post : α → Point δ ω κ → Prop} :
    wp D apply post (Script.select f : Script δ ω κ ε α) p ↔
      ∀ d, D.Rely p.held p.database d →
        post (f (view apply p.pending d)) ⟨d, p.pending, p.held⟩ := by
  constructor
  · intro h d hrely
    have hpost := h d hrely [] rfl
    rwa [List.append_nil] at hpost
  · intro h d hrely writes hwrites
    cases hwrites
    rw [List.append_nil]
    exact h d hrely

theorem wp_selectFor {locks : List (Lock κ)} {f : δ → α} {post : α → Point δ ω κ → Prop} :
    wp D apply post (Script.selectFor locks f : Script δ ω κ ε α) p ↔
      ∀ d, D.Rely p.held p.database d →
        post (f (view apply p.pending d)) ⟨d, p.pending, locks ++ p.held⟩ := by
  constructor
  · intro h d hrely
    have hpost := h d hrely [] rfl
    rwa [List.append_nil] at hpost
  · intro h d hrely writes hwrites
    cases hwrites
    rw [List.append_nil]
    exact h d hrely

theorem wp_mono {post post' : α → Point δ ω κ → Prop} (h : ∀ a p, post a p → post' a p)
    {script : Script δ ω κ ε α} (hwp : wp D apply post script p) : wp D apply post' script p := by
  induction script generalizing p with
  | done a => exact h a p hwp
  | fail e => trivial
  | statement locks exec next ih =>
    intro d hrely writes hwrites
    exact ih _ (hwp d hrely writes hwrites)

/-- The session has gone on from `p` to `q` without writing. -/
structure Point.Later (D : Discipline δ κ) (p q : Point δ ω κ) : Prop where
  pending : q.pending = p.pending
  held : p.held ⊆ q.held
  rely : ∀ d, D.Rely q.held q.database d → D.Rely p.held p.database d

theorem Point.Later.refl : Point.Later D p p := ⟨rfl, List.Subset.refl _, fun _ h => h⟩

theorem Point.Later.trans {q r : Point δ ω κ} (h : p.Later D q) (h' : q.Later D r) :
    p.Later D r :=
  ⟨h'.pending.trans h.pending, List.Subset.trans h.held h'.held,
    fun d hd => h.rely d (h'.rely d hd)⟩

theorem Point.Later.read {d : δ} {locks : List (Lock κ)} (h : D.Rely p.held p.database d) :
    p.Later D ⟨d, p.pending, locks ++ p.held⟩ :=
  ⟨rfl, List.subset_append_right .., fun _ hd => h.trans (hd.mono (List.subset_append_right ..))⟩

end Wp

/-! ## What the system commits -/

/-- Databases that follow from `d` by committing the calls in turn. -/
inductive Replays (commits : δ → ι → ρ → δ → Prop) (d : δ) : List (ι × ρ) → δ → Prop
  | nil : Replays commits d [] d
  | commit {history : List (ι × ρ)} {d' d'' : δ} {call : ι} {result : ρ}
      (earlier : Replays commits d history d') (last : commits d' call result d'') :
      Replays commits d (history ++ [(call, result)]) d''

theorem Replays.invariant {commits : δ → ι → ρ → δ → Prop} {P : δ → Prop}
    (hcommit : ∀ d call result d', P d → commits d call result d' → P d') {d d' : δ}
    {history : List (ι × ρ)} (hd : P d) (h : Replays commits d history d') : P d' := by
  induction h with
  | nil => exact hd
  | commit _ last ih => exact hcommit _ _ _ _ ih last

/-- A history that replays splits at each of its commits. -/
theorem Replays.split {commits : δ → ι → ρ → δ → Prop} {d d' : δ}
    {earlier later : List (ι × ρ)} {call : ι} {result : ρ}
    (h : Replays commits d (earlier ++ (call, result) :: later) d') :
    ∃ before after, Replays commits d earlier before ∧ commits before call result after := by
  induction later using List.reverseRecOn generalizing d' with
  | nil =>
    generalize hhistory : earlier ++ [(call, result)] = history at h
    cases h with
    | nil => exact absurd hhistory (List.append_ne_nil_of_right_ne_nil _ (List.cons_ne_nil _ _))
    | commit hearlier hlast =>
      obtain ⟨rfl, hsame⟩ := List.append_inj' hhistory rfl
      cases hsame
      exact ⟨_, _, hearlier, hlast⟩
  | append_singleton later last ih =>
    rw [← List.cons_append, ← List.append_assoc] at h
    generalize hhistory : earlier ++ (call, result) :: later ++ [last] = history at h
    cases h with
    | nil => exact absurd hhistory (List.append_ne_nil_of_right_ne_nil _ (List.cons_ne_nil _ _))
    | commit hearlier _ =>
      obtain ⟨rfl, -⟩ := List.append_inj' hhistory rfl
      exact ih hearlier

section Soundness

variable (S : System δ ω κ ε ι ρ) (D : Discipline δ κ) (commits : δ → ι → ρ → δ → Prop)

/-- Where the rest of the script ends, its commit is one that `commits` and the
discipline allow, whatever the others commit before it. -/
def Safe (call : ι) (script : Script δ ω κ ε ρ) (p : Point δ ω κ) : Prop :=
  wp D S.apply (fun result q => ∀ d, D.Rely q.held q.database d →
    S.deferred (view S.apply q.pending d) = .ok () →
      commits d call result (view S.apply q.pending d) ∧
        D.Guarantee q.held d (view S.apply q.pending d)) script p

/-- Every script is safe from its start. -/
def AllSafe : Prop :=
  ∀ call d, D.invariant d → Safe S D commits call (S.script call) ⟨d, [], []⟩

/-- The invariant of the running system. -/
structure Sound (d : δ) (w : World δ ω κ ε ι ρ) : Prop where
  invariant : D.invariant w.database
  replays : Replays commits d w.history w.database
  safe : ∀ (i : Nat) call script pending held,
    w.sessions[i]? = some ⟨call, .running script pending held⟩ →
      Safe S D commits call script ⟨w.database, pending, held⟩
  compatible : ∀ (i j : Nat) s t, i ≠ j → w.sessions[i]? = some s → w.sessions[j]? = some t →
    ∀ ours ∈ s.held, ∀ theirs ∈ t.held, ours.key = theirs.key →
      ours.mode.conflicts theirs.mode = false

variable {S D commits} {d : δ} {w : World δ ω κ ε ι ρ} {i : Nat} {call : ι}

theorem Safe.rely {script : Script δ ω κ ε ρ} {pending : List ω} {held : List (Lock κ)} {d' : δ}
    (h : Safe S D commits call script ⟨d, pending, held⟩) (hrely : D.Rely held d d') :
    Safe S D commits call script ⟨d', pending, held⟩ := by
  cases script with
  | done result => exact fun d'' hrely' => h d'' (hrely.trans hrely')
  | fail e => trivial
  | statement locks exec next => exact fun d'' hrely' => h d'' (hrely.trans hrely')

theorem compatible_symm {ours theirs : Mode} : ours.conflicts theirs = theirs.conflicts ours := by
  cases ours <;> cases theirs <;> rfl

/-- A session that goes on with safe steps and locks that nobody else holds
leaves the system sound. -/
theorem Sound.proceed (h : Sound S D commits d w) {phase : Phase δ ω κ ε ρ}
    (hsafe : ∀ script pending held, phase = .running script pending held →
      Safe S D commits call script ⟨w.database, pending, held⟩)
    (hfree : ∀ (j : Nat) t, j ≠ i → w.sessions[j]? = some t →
      ∀ ours ∈ (Session.mk call phase : Session δ ω κ ε ι ρ).held, ∀ theirs ∈ t.held,
        ours.key = theirs.key → ours.mode.conflicts theirs.mode = false) :
    Sound S D commits d (System.proceed w i call phase) where
  invariant := h.invariant
  replays := h.replays
  safe := by
    intro j call' script pending held hj
    simp only [System.proceed, List.getElem?_set] at hj
    split at hj
    · split at hj
      · cases hj
        exact hsafe script pending held rfl
      · cases hj
    · exact h.safe j call' script pending held hj
  compatible := by
    intro j k s t hjk hs ht
    simp only [System.proceed, List.getElem?_set] at hs ht
    split at hs
    · split at hs
      · rename_i hij _
        cases hs
        rw [if_neg (hij ▸ hjk)] at ht
        exact hfree k t (fun hki => hjk (hij.symm.trans hki.symm)) ht
      · cases hs
    · split at ht
      · split at ht
        · rename_i hij hik _
          cases ht
          intro ours hours theirs htheirs hkey
          rw [compatible_symm]
          exact hfree j s (fun hji => hij hji.symm) hs theirs htheirs ours hours hkey.symm
        · cases ht
      · exact h.compatible j k s t hjk hs ht

theorem Sound.ended (h : Sound S D commits d w) {outcome : Except ε ρ} :
    Sound S D commits d (System.proceed w i call (.ended outcome)) :=
  h.proceed (fun _ _ _ hphase => by cases hphase)
    fun _ _ _ _ _ hours => absurd hours List.not_mem_nil

/-- A commit leaves the other sessions safe, because their locks do not conflict
with those of the session that commits. -/
theorem Sound.commit (h : Sound S D commits d w) {result : ρ} {pending : List ω}
    {held : List (Lock κ)}
    (hsession : w.sessions[i]? = some ⟨call, .running (.done result) pending held⟩)
    (hdeferred : S.deferred (view S.apply pending w.database) = .ok ()) :
    Sound S D commits d
      { database := view S.apply pending w.database
        sessions := w.sessions.set i ⟨call, .ended (.ok result)⟩
        history := w.history ++ [(call, result)] } := by
  obtain ⟨hcommits, hguarantee⟩ := h.safe i call _ pending held hsession w.database
    (.refl h.invariant) hdeferred
  have hended : Sound S D commits d (System.proceed w i call (.ended (.ok result))) := h.ended
  refine ⟨hguarantee.invariant, .commit h.replays hcommits, ?_, hended.compatible⟩
  intro j call' script pending' held' hj
  have hother : w.sessions[j]? = some ⟨call', .running script pending' held'⟩ ∧ i ≠ j := by
    rw [List.getElem?_set] at hj
    split at hj
    · split at hj <;> cases hj
    · rename_i hij
      exact ⟨hj, hij⟩
  refine (h.safe j call' script pending' held' hother.1).rely (hguarantee.rely ?_)
  exact h.compatible i j _ _ hother.2 hsession hother.1

theorem getElem?_begun {sessions : List (Session δ ω κ ε ι ρ)} {s t : Session δ ω κ ε ι ρ}
    {j : Nat} (h : (sessions ++ [s])[j]? = some t) : sessions[j]? = some t ∨ t = s := by
  rw [List.getElem?_append] at h
  split at h
  · exact .inl h
  · exact .inr (List.mem_singleton.mp (List.mem_of_getElem? h))

/-- A call with nothing beside it commits what its script was proved to
commit. -/
theorem Safe.executeFrom {script : Script δ ω κ ε ρ} {pending : List ω} {held : List (Lock κ)}
    {result : ρ} {d' : δ} (hd : D.invariant d)
    (h : Safe S D commits call script ⟨d, pending, held⟩)
    (hok : S.executeFrom d script pending = (.ok result, d')) :
    commits d call result d' ∧ D.invariant d' ∧ D.grows d d' := by
  induction script generalizing pending held with
  | done r =>
    simp only [System.executeFrom] at hok
    split at hok
    · rename_i hdeferred
      cases hok
      obtain ⟨hcommits, hguarantee⟩ := h d (.refl hd) hdeferred
      exact ⟨hcommits, hguarantee.invariant, hguarantee.grows⟩
    · cases hok
  | fail e => cases hok
  | statement locks exec next ih =>
    simp only [System.executeFrom] at hok
    split at hok
    · rename_i writes hwrites
      exact ih _ (h d (.refl hd) writes hwrites) hok
    · cases hok

theorem execute_commits (hsafe : AllSafe S D commits) (hd : D.invariant d) {result : ρ} {d' : δ}
    (hok : S.execute d call = (.ok result, d')) :
    commits d call result d' ∧ D.invariant d' ∧ D.grows d d' :=
  (hsafe call d hd).executeFrom hd hok

/-- A call that fails leaves the database as it was. -/
theorem executeFrom_error {script : Script δ ω κ ε ρ} {pending : List ω} {e : ε} {d' : δ}
    (h : S.executeFrom d script pending = (.error e, d')) : d' = d := by
  induction script generalizing pending with
  | done r =>
    simp only [System.executeFrom] at h
    split at h <;> cases h
    rfl
  | fail e => cases h; rfl
  | statement locks exec next ih =>
    simp only [System.executeFrom] at h
    split at h
    · exact ih _ h
    · cases h; rfl

variable [DecidableEq κ]

theorem not_blocked {locks : List (Lock κ)} (h : System.blocked w i locks = false) {j : Nat}
    {t : Session δ ω κ ε ι ρ} (hj : j ≠ i) (ht : w.sessions[j]? = some t) :
    ∀ ours ∈ locks, ∀ theirs ∈ t.held, ours.key = theirs.key →
      ours.mode.conflicts theirs.mode = false := by
  intro ours hours theirs htheirs hkey
  simp only [System.blocked, List.any_eq_false, List.any_eq_true, not_exists, not_and] at h
  have hmem : t ∈ w.sessions.eraseIdx i := List.mem_eraseIdx_iff_getElem?.mpr ⟨j, hj, ht⟩
  simpa [hkey] using h t hmem theirs htheirs ours hours

theorem Sound.advance (h : Sound S D commits d w) (i : Nat) :
    Sound S D commits d (S.advance w i) := by
  unfold System.advance
  split
  · rename_i call result pending held hsession
    split
    · rename_i hdeferred
      exact h.commit hsession hdeferred
    · exact h.ended
  · exact h.ended
  · rename_i call locks exec next pending held hsession
    split
    · exact h
    · rename_i hblocked
      split
      · rename_i writes hwrites
        refine h.proceed ?_ ?_
        · intro script pending' held' hphase
          cases hphase
          exact h.safe i call _ pending held hsession _ (.refl h.invariant) writes hwrites
        · intro j t hj ht ours hours
          rcases List.mem_append.mp hours with hours | hours
          · exact not_blocked (by simpa using hblocked) hj ht ours hours
          · exact h.compatible i j _ t (Ne.symm hj) hsession ht ours hours
      · exact h.ended
  · exact h
  · exact h

theorem Sound.step (hsafe : AllSafe S D commits) (h : Sound S D commits d w)
    (action : Action ι ε) : Sound S D commits d (S.step w action) := by
  cases action with
  | begin call =>
    refine ⟨h.invariant, h.replays, ?_, ?_⟩
    · intro j call' script pending held hj
      rcases getElem?_begun hj with hj | hj
      · exact h.safe j call' script pending held hj
      · cases hj
        exact hsafe call w.database h.invariant
    · intro j k s t hjk hs ht ours hours theirs htheirs
      rcases getElem?_begun hs with hs | rfl
      · rcases getElem?_begun ht with ht | rfl
        · exact h.compatible j k s t hjk hs ht ours hours theirs htheirs
        · exact absurd htheirs List.not_mem_nil
      · exact absurd hours List.not_mem_nil
  | advance i => exact h.advance i
  | abort i e =>
    simp only [System.step]
    split
    · exact h.ended
    · exact h
    · exact h

/-- Every schedule of the calls commits, in commit order, what the scripts were
proved to commit. -/
theorem sound_run (hsafe : AllSafe S D commits) (hd : D.invariant d)
    (actions : List (Action ι ε)) :
    Sound S D commits d (Runs.run S.step (World.start d) actions) := by
  refine Runs.invariant (P := Sound S D commits d) (fun _ action h => h.step hsafe action) ?_ _
  exact ⟨hd, .nil, fun i _ _ _ _ h => by simp [World.start] at h,
    fun i _ _ _ _ h => by simp [World.start] at h⟩

/-- The database changes only with the step that ends a session in a commit. -/
theorem Sound.step_cases (h : Sound S D commits d w) (action : Action ι ε) :
    (S.step w action).database = w.database ∨
      ∃ (i : Nat) (call : ι) (result : ρ), action = .advance i ∧
        (S.step w action).sessions[i]? = some ⟨call, .ended (.ok result)⟩ ∧
        (S.step w action).history = w.history ++ [(call, result)] ∧
        commits w.database call result (S.step w action).database := by
  cases action with
  | begin call => exact .inl rfl
  | abort i e =>
    refine .inl ?_
    simp only [System.step]
    split <;> rfl
  | advance i =>
    simp only [System.step, System.advance]
    split
    · rename_i call result pending held hsession
      split
      · rename_i hdeferred
        refine .inr ⟨i, call, result, rfl, ?_, rfl, ?_⟩
        · rw [List.getElem?_set_self (List.getElem?_eq_some_iff.mp hsession).1]
        · exact (h.safe i call _ pending held hsession w.database (.refl h.invariant) hdeferred).1
      · exact .inl rfl
    · exact .inl rfl
    · split
      · exact .inl rfl
      · split <;> exact .inl rfl
    · exact .inl rfl
    · exact .inl rfl

end Soundness

end Isolation
