import TransitGuard.Backend.Concurrency

/-!
What the transactions on the backend may rely on while they run side by side:
the keys of the tables, batches and versions that never go back, and for each
lock the rows it keeps as they are. A write changes the rows of its own keys
only, and tables that agree on a key agree on it after the same write.
-/

namespace TransitGuard.Backend

open Protocol Fallible Isolation

/-! ## The discipline -/

/-- The primary keys hold, and every row of equipment is a reader at a
version. -/
structure Keyed (db : BackendDatabase) : Prop where
  readers : (db.equipment.map (·.id)).Nodup
  loads : ∀ row ∈ db.equipment, ∃ reader version, row = .fromDomain reader version
  batches : (db.batches.map (·.batchId)).Nodup
  transactions : (db.transactions.map (·.fareTransactionId)).Nodup
  sequences : (db.transactions.map fun row => (row.readerId, row.localSequenceNumber)).Nodup

/-- Rows keep their content as long as they keep their version, and batches
stay. -/
structure Extends (db db' : BackendDatabase) : Prop where
  equipment : Table.Ages EquipmentRow.id EquipmentRow.aggregateVersion db.equipment db'.equipment
  batches : db.batches <+: db'.batches

namespace BackendDatabase

def findReader (db : BackendDatabase) (id : ReaderId) : Option EquipmentRow :=
  db.equipment.find? (·.id == id)

def findBatch (db : BackendDatabase) (id : SynchronizationBatchId) : Option IngestBatchRow :=
  db.batches.find? (·.batchId == id)

def findTransaction (db : BackendDatabase) (id : FareTransactionId) :
    Option IngestTransactionRow :=
  db.transactions.find? (·.fareTransactionId == id)

/-- Some transaction has the sequence of the reader. -/
def occupied (db : BackendDatabase) (readerId : ReaderId) (sequence : Nat) : Bool :=
  db.transactions.any fun row => row.readerId == readerId && row.localSequenceNumber == sequence

def entriesOf (db : BackendDatabase) (id : SynchronizationBatchId) : List IngestEntryRow :=
  db.entries.filter (·.batchId == id)

/-- What a lock on `key` keeps as it is. -/
def agree : BackendKey → BackendDatabase → BackendDatabase → Prop
  | .reader id, db, db' => db'.findReader id = db.findReader id
  | .equipmentKey id, db, db' => ∀ row' ∈ db'.equipment, row'.equipmentKeyId = id →
    ∃ row ∈ db.equipment, row.id = row'.id ∧ row.equipmentKeyId = id
  | .batch id, db, db' => db'.findBatch id = db.findBatch id ∧ db'.entriesOf id = db.entriesOf id
  | .transaction id, db, db' => db'.findTransaction id = db.findTransaction id
  | .sequence readerId sequence, db, db' =>
    db'.occupied readerId sequence = db.occupied readerId sequence
  | _, _, _ => True

theorem agree_refl (key : BackendKey) (db : BackendDatabase) : agree key db db := by
  cases key with
  | equipmentKey id => exact fun row hrow hid => ⟨row, hrow, rfl, hid⟩
  | batch id => exact ⟨rfl, rfl⟩
  | reader | transaction | sequence => rfl
  | entryPosition | entryTransaction | entrySequence => trivial

theorem agree_trans (key : BackendKey) (db db' db'' : BackendDatabase) (h : agree key db db')
    (h' : agree key db' db'') : agree key db db'' := by
  cases key with
  | equipmentKey id =>
    intro row hrow hid
    obtain ⟨row', hrow', hsame, hid'⟩ := h' row hrow hid
    obtain ⟨row'', hrow'', hsame', hid''⟩ := h row' hrow' hid'
    exact ⟨row'', hrow'', hsame'.trans hsame, hid''⟩
  | batch id => exact ⟨h'.1.trans h.1, h'.2.trans h.2⟩
  | reader | transaction | sequence => exact Eq.trans h' h
  | entryPosition | entryTransaction | entrySequence => trivial

end BackendDatabase

def backendDiscipline : Discipline BackendDatabase BackendKey where
  invariant := Keyed
  grows := Extends
  agree := BackendDatabase.agree
  grows_refl _ := ⟨.refl _ _ _, List.prefix_refl _⟩
  grows_trans _ _ _ h h' := ⟨h.equipment.trans h'.equipment, h.batches.trans h'.batches⟩
  agree_refl := BackendDatabase.agree_refl
  agree_trans := BackendDatabase.agree_trans

/-! ## Writes -/

/-- The keys whose rows a write changes. -/
def BackendWrite.touches : BackendWrite → List BackendKey
  | .updateEquipment row => [.reader row.id, .equipmentKey row.equipmentKeyId]
  | .insertBatch row => [.batch row.batchId]
  | .insertTransaction row =>
    [.transaction row.fareTransactionId, .sequence row.readerId row.localSequenceNumber]
  | .resolveTransaction id _ _ => [.transaction id]
  | .insertEntry row => [.batch row.batchId]

section Writes

variable {db db' : BackendDatabase} {key : BackendKey} {write : BackendWrite}
  {pending : List BackendWrite}

theorem occupied_resolve (id : FareTransactionId) (resolution : EntryOutcome)
    (resolvedAt : UnixMilliseconds) (readerId : ReaderId) (sequence : Nat) :
    (db.apply (.resolveTransaction id resolution resolvedAt)).occupied readerId sequence =
      db.occupied readerId sequence := by
  simp only [BackendDatabase.apply, BackendDatabase.occupied, Table.updateWhere, List.any_map]
  congr 1
  funext row
  simp only [Function.comp_apply]
  split <;> rfl

theorem findTransaction_resolve (id other : FareTransactionId) (resolution : EntryOutcome)
    (resolvedAt : UnixMilliseconds) :
    (db.apply (.resolveTransaction id resolution resolvedAt)).findTransaction other =
      (db.findTransaction other).map fun row =>
        if row.fareTransactionId == id then row.withResolution resolution resolvedAt else row :=
  Table.find_updateWhere_of_keeps (k := IngestTransactionRow.fareTransactionId)
    (f := (·.withResolution resolution resolvedAt)) (fun _ => rfl) other

/-- A write leaves the keys it does not touch. -/
theorem agree_apply (h : key ∉ write.touches) : BackendDatabase.agree key db (db.apply write) := by
  cases write with
  | updateEquipment row =>
    simp only [BackendWrite.touches, List.mem_cons, List.not_mem_nil, or_false, not_or] at h
    cases key with
    | reader id =>
      exact Table.find_updateWhere_of_ne (k := EquipmentRow.id) (f := fun _ => row) (fun _ => rfl)
        fun hid => h.1 (hid ▸ rfl)
    | equipmentKey id =>
      intro row' hrow' hid
      obtain ⟨old, hold, rfl⟩ := Table.mem_updateWhere.mp hrow'
      by_cases hsame : (old.id == row.id) = true
      · rw [if_pos hsame] at hid
        exact absurd (hid ▸ rfl) h.2
      · rw [if_neg hsame] at hid ⊢
        exact ⟨old, hold, rfl, hid⟩
    | batch => exact ⟨rfl, rfl⟩
    | transaction | sequence => rfl
    | entryPosition | entryTransaction | entrySequence => trivial
  | insertBatch row =>
    simp only [BackendWrite.touches, List.mem_singleton] at h
    cases key with
    | batch id => exact ⟨Table.find_append_of_ne fun hid => h (hid ▸ rfl), rfl⟩
    | reader | transaction | sequence => rfl
    | equipmentKey id => exact BackendDatabase.agree_refl (.equipmentKey id) db
    | entryPosition | entryTransaction | entrySequence => trivial
  | insertTransaction row =>
    simp only [BackendWrite.touches, List.mem_cons, List.not_mem_nil, or_false, not_or] at h
    cases key with
    | transaction id => exact Table.find_append_of_ne fun hid => h.1 (hid ▸ rfl)
    | sequence readerId sequence =>
      have hne : (row.readerId == readerId && row.localSequenceNumber == sequence) = false := by
        rw [← Bool.not_eq_true, Bool.and_eq_true, beq_iff_eq, beq_iff_eq]
        exact fun hsame => h.2 (hsame.1 ▸ hsame.2 ▸ rfl)
      change (db.transactions ++ [row]).any _ = _
      rw [List.any_append, List.any_cons, List.any_nil, hne, Bool.or_false, Bool.or_false]
      rfl
    | reader => rfl
    | batch => exact ⟨rfl, rfl⟩
    | equipmentKey id => exact BackendDatabase.agree_refl (.equipmentKey id) db
    | entryPosition | entryTransaction | entrySequence => trivial
  | resolveTransaction id resolution resolvedAt =>
    simp only [BackendWrite.touches, List.mem_singleton] at h
    cases key with
    | transaction other =>
      refine (findTransaction_resolve id other resolution resolvedAt).trans ?_
      cases hfind : db.findTransaction other with
      | none => rfl
      | some row =>
        have hrow : row.fareTransactionId = other := Table.key_of_find hfind
        have hne : row.fareTransactionId ≠ id := fun hid => h (by rw [← hid, hrow])
        simp [hne]
    | sequence readerId sequence => exact occupied_resolve id resolution resolvedAt _ _
    | reader => rfl
    | batch => exact ⟨rfl, rfl⟩
    | equipmentKey id => exact BackendDatabase.agree_refl (.equipmentKey id) db
    | entryPosition | entryTransaction | entrySequence => trivial
  | insertEntry row =>
    simp only [BackendWrite.touches, List.mem_singleton] at h
    cases key with
    | batch id =>
      refine ⟨rfl,
        Table.filter_append_of_ne (k := IngestEntryRow.batchId) fun added hadded hid => ?_⟩
      rw [List.mem_singleton.mp hadded] at hid
      exact h (hid ▸ rfl)
    | reader | transaction | sequence => rfl
    | equipmentKey id => exact BackendDatabase.agree_refl (.equipmentKey id) db
    | entryPosition | entryTransaction | entrySequence => trivial

/-- The writes of a transaction leave the keys they do not touch. -/
theorem agree_view (h : ∀ write ∈ pending, key ∉ write.touches) :
    BackendDatabase.agree key db (view BackendDatabase.apply pending db) := by
  induction pending generalizing db with
  | nil => exact BackendDatabase.agree_refl key db
  | cons write pending ih =>
    rw [List.forall_mem_cons] at h
    exact BackendDatabase.agree_trans _ _ _ _ (agree_apply h.1) (ih h.2)

/-- Databases that agree on what a lock keeps agree on it under the same write. -/
theorem agree_apply_congr (hkey : ∀ id, key ≠ .equipmentKey id)
    (h : BackendDatabase.agree key db db') :
    BackendDatabase.agree key (db.apply write) (db'.apply write) := by
  cases key with
  | equipmentKey id => exact absurd rfl (hkey id)
  | entryPosition | entryTransaction | entrySequence => trivial
  | reader id =>
    cases write with
    | updateEquipment row =>
      have hfind : ∀ db : BackendDatabase, (db.apply (.updateEquipment row)).findReader id =
          (db.findReader id).map fun old => if old.id == row.id then row else old := fun _ =>
        Table.find_updateWhere (k := EquipmentRow.id) (f := fun _ => row) (fun _ => rfl) id
      exact (hfind db').trans ((congrArg _ h).trans (hfind db).symm)
    | insertBatch | insertTransaction | resolveTransaction | insertEntry => exact h
  | batch id =>
    cases write with
    | insertBatch row =>
      have hfind : ∀ db : BackendDatabase, (db.apply (.insertBatch row)).findBatch id =
          (db.findBatch id).or ([row].find? (·.batchId == id)) := fun _ => List.find?_append
      exact ⟨(hfind db').trans ((congrArg (Option.or · _) h.1).trans (hfind db).symm), h.2⟩
    | insertEntry row =>
      have hentries : ∀ db : BackendDatabase, (db.apply (.insertEntry row)).entriesOf id =
          db.entriesOf id ++ [row].filter (·.batchId == id) := fun _ => List.filter_append ..
      exact ⟨h.1, (hentries db').trans ((congrArg (· ++ _) h.2).trans (hentries db).symm)⟩
    | updateEquipment | insertTransaction | resolveTransaction => exact h
  | transaction id =>
    cases write with
    | insertTransaction row =>
      have hfind : ∀ db : BackendDatabase, (db.apply (.insertTransaction row)).findTransaction id =
          (db.findTransaction id).or ([row].find? (·.fareTransactionId == id)) := fun _ =>
        List.find?_append
      exact (hfind db').trans ((congrArg (Option.or · _) h).trans (hfind db).symm)
    | resolveTransaction other resolution resolvedAt =>
      refine (findTransaction_resolve other id resolution resolvedAt).trans ?_
      exact (congrArg _ h).trans (findTransaction_resolve other id resolution resolvedAt).symm
    | updateEquipment | insertBatch | insertEntry => exact h
  | sequence readerId sequence =>
    cases write with
    | insertTransaction row =>
      have hany : ∀ db : BackendDatabase,
          (db.apply (.insertTransaction row)).occupied readerId sequence =
            (db.occupied readerId sequence ||
              [row].any fun row =>
                row.readerId == readerId && row.localSequenceNumber == sequence) :=
        fun _ => List.any_append
      exact (hany db').trans ((congrArg (· || _) h).trans (hany db).symm)
    | resolveTransaction id resolution resolvedAt =>
      refine (occupied_resolve id resolution resolvedAt readerId sequence).trans ?_
      exact Eq.trans h (occupied_resolve id resolution resolvedAt readerId sequence).symm
    | updateEquipment | insertBatch | insertEntry => exact h

theorem agree_view_congr (hkey : ∀ id, key ≠ .equipmentKey id)
    (h : BackendDatabase.agree key db db') :
    BackendDatabase.agree key (view BackendDatabase.apply pending db)
      (view BackendDatabase.apply pending db') := by
  induction pending generalizing db db' with
  | nil => exact h
  | cons write pending ih => exact ih (agree_apply_congr hkey h)

end Writes

end TransitGuard.Backend
