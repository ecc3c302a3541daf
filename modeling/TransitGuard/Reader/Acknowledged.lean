import TransitGuard.Reader.OpenBatch

/-!
Stored acknowledgements. An acknowledgement repeats the entries of its batch
in order, there is at most one for each batch, and a transaction is
acknowledged only through the acknowledgement of a batch that holds it.
-/

namespace TransitGuard.Reader

open Fallible

variable {codec : Json.Codec} {db db' : ReaderDatabase} {op : Operation}
  {reader : ReaderStateRow} {r : ReaderId}

/-- The rows of the acknowledgement of a batch, in insertion order. -/
def ReaderDatabase.acknowledgementEntriesOf (db : ReaderDatabase)
    (batchId : SynchronizationBatchId) : List SynchronizationAcknowledgementEntryRow :=
  db.synchronizationAcknowledgementEntries.filter (·.batchId == batchId)

structure AcknowledgementInvariant (r : ReaderId) (db : ReaderDatabase) : Prop where
  ids : (db.synchronizationAcknowledgements.map (·.batchId)).Nodup
  owned : ∀ row ∈ db.synchronizationAcknowledgements, row.readerId = r
  known : ∀ row ∈ db.synchronizationAcknowledgements,
    ∃ batch ∈ db.synchronizationBatches, batch.batchId = row.batchId
  entryOwned : ∀ entry ∈ db.synchronizationAcknowledgementEntries, entry.readerId = r
  entryOf : ∀ entry ∈ db.synchronizationAcknowledgementEntries,
    ∃ row ∈ db.synchronizationAcknowledgements, row.batchId = entry.batchId
  keys : ∀ row ∈ db.synchronizationAcknowledgements,
    (db.acknowledgementEntriesOf row.batchId).map (·.key) =
      (db.entriesOf row.batchId).map (·.key)
  positions : ∀ row ∈ db.synchronizationAcknowledgements,
    (db.acknowledgementEntriesOf row.batchId).map (·.entryPosition) =
      (db.entriesOf row.batchId).map (·.entryPosition)
  settled : ∀ row ∈ db.offlineTransactions, row.queueState = .acknowledged →
    ∃ entry ∈ db.synchronizationEntries, entry.key = row.key ∧
      ∃ acknowledgement ∈ db.synchronizationAcknowledgements,
        acknowledgement.batchId = entry.batchId

/-! ## The entries of an application -/

theorem ReaderDatabase.findAcknowledgement_eq_some {readerId : ReaderId}
    {batchId : SynchronizationBatchId} {row : SynchronizationAcknowledgementRow}
    (h : db.findAcknowledgement readerId batchId = some row) :
    row ∈ db.synchronizationAcknowledgements ∧ row.batchId = batchId ∧
      row.readerId = readerId := by
  have hp := List.find?_some h
  simp only [Bool.and_eq_true, beq_iff_eq] at hp
  exact ⟨List.mem_of_find?_eq_some h, hp.1, hp.2⟩

/-- One transaction is at most one entry of a batch. -/
theorem BatchInvariant.nodup_transactions (inv : BatchInvariant r db)
    (queue : QueueInvariant reader db) {row : SynchronizationBatchRow}
    (hrow : row ∈ db.synchronizationBatches) :
    ((db.entriesOf row.batchId).map (·.fareTransactionId)).Nodup := by
  have hincreasing := List.pairwise_map.mp (inv.holds row hrow).increasing
  refine List.pairwise_map.mpr (hincreasing.imp_of_mem fun {a b} ha hb hlt hid => ?_)
  obtain ⟨qa, hqa, hka⟩ := inv.entryQueued a (List.mem_of_mem_filter ha)
  obtain ⟨qb, hqb, hkb⟩ := inv.entryQueued b (List.mem_of_mem_filter hb)
  have hsame : qa = qb := by
    refine Table.eq_of_key_eq queue.ids hqa hqb ?_
    exact (congrArg Prod.fst hka).trans (hid.trans (congrArg Prod.fst hkb).symm)
  have hseq : a.localSequenceNumber = b.localSequenceNumber :=
    (congrArg Prod.snd hka).symm.trans ((congrArg (·.key.2) hsame).trans (congrArg Prod.snd hkb))
  omega

theorem AcknowledgementInvariant.decoded_keys (inv : AcknowledgementInvariant r db)
    (batches : BatchInvariant r db) {batchId : SynchronizationBatchId}
    {row : SynchronizationAcknowledgementRow} {receivedAt : UnixMilliseconds}
    {entries : List DecodedAcknowledgementEntry}
    (hrow : row ∈ db.synchronizationAcknowledgements) (hid : row.batchId = batchId)
    (hdecoded : decodeAcknowledgementEntries receivedAt 0 (Table.orderBy (·.entryPosition)
      (db.synchronizationAcknowledgementEntries.filter fun row =>
        row.batchId == batchId && row.readerId == r)) = .ok entries) :
    entries.map (·.key) = (db.entriesOf batchId).map (·.key) := by
  subst hid
  have hfilter : (db.synchronizationAcknowledgementEntries.filter fun entry =>
      entry.batchId == row.batchId && entry.readerId == r) =
        db.acknowledgementEntriesOf row.batchId := by
    refine List.filter_congr fun entry hentry => ?_
    rw [inv.entryOwned entry hentry]
    simp
  obtain ⟨batch, hbatch, hbid⟩ := inv.known row hrow
  have hsorted : ((db.acknowledgementEntriesOf row.batchId).map (·.entryPosition)).Pairwise
      (· ≤ ·) := by
    rw [inv.positions row hrow, ← hbid, (batches.holds batch hbatch).positions]
    exact (List.pairwise_lt_range' 1).imp Nat.le_of_lt
  rw [hfilter, Table.orderBy_of_sorted hsorted, decodeAcknowledgementEntries_ok] at hdecoded
  rw [← inv.keys row hrow, ← List.forall₂_eq_eq_eq, List.forall₂_map_left_iff,
    List.forall₂_map_right_iff]
  exact (hdecoded.2.imp fun _ _ h => h.2.1).flip

/-! ## Steps that touch no acknowledgement -/

/-- A step that leaves the acknowledgements and acknowledges no transaction. -/
structure AcknowledgementFrame (db db' : ReaderDatabase) : Prop where
  acknowledgements : db'.synchronizationAcknowledgements = db.synchronizationAcknowledgements
  entries :
    db'.synchronizationAcknowledgementEntries = db.synchronizationAcknowledgementEntries
  origin : ∀ row' ∈ db'.offlineTransactions, row'.queueState = .acknowledged →
    ∃ row ∈ db.offlineTransactions, row.queueState = .acknowledged ∧ row.key = row'.key

/-- The assignments that frame the acknowledgements. -/
def OfflineTransactionRow.NotAcknowledged (row row' : OfflineTransactionRow) : Prop :=
  row'.key = row.key ∧ (row'.queueState = .acknowledged → row.queueState = .acknowledged)

theorem AcknowledgementFrame.of_queue
    (hack : db'.synchronizationAcknowledgements = db.synchronizationAcknowledgements)
    (hentries :
      db'.synchronizationAcknowledgementEntries = db.synchronizationAcknowledgementEntries)
    (horigin : ∀ row' ∈ db'.offlineTransactions,
      ∃ row ∈ db.offlineTransactions, row.NotAcknowledged row') :
    AcknowledgementFrame db db' where
  acknowledgements := hack
  entries := hentries
  origin row' hrow' hstate := by
    obtain ⟨row, hrow, hkey, hstates⟩ := horigin row' hrow'
    exact ⟨row, hrow, hstates hstate, hkey.symm⟩

theorem AcknowledgementFrame.updateWhere {p : OfflineTransactionRow → Bool}
    {f : OfflineTransactionRow → OfflineTransactionRow}
    (h : db'.offlineTransactions = Table.updateWhere p f db.offlineTransactions)
    (hack : db'.synchronizationAcknowledgements = db.synchronizationAcknowledgements)
    (hentries :
      db'.synchronizationAcknowledgementEntries = db.synchronizationAcknowledgementEntries)
    (hf : ∀ row, p row = true → row.NotAcknowledged (f row)) : AcknowledgementFrame db db' :=
  .of_queue hack hentries
    (h ▸ Table.origin_updateWhere (fun _ => ⟨rfl, id⟩) fun row _ => hf row)

theorem Committed.acknowledgementFrame (h : Committed codec db op db') :
    (∃ acknowledgement, op = .storeAcknowledgement acknowledgement) ∨
      (∃ readerId batchId t, op = .applyAcknowledgement readerId batchId t) ∨
        AcknowledgementFrame db db' := by
  cases h with
  | storeAcknowledgement => exact .inl ⟨_, rfl⟩
  | applyAcknowledgement => exact .inr (.inl ⟨_, _, _, rfl⟩)
  | bind | retryBatch | recoverBatches =>
    exact .inr (.inr (.of_queue rfl rfl fun row hrow => ⟨row, hrow, rfl, id⟩))
  | enqueue =>
    refine .inr (.inr ⟨rfl, rfl, fun row hrow hstate => ?_⟩)
    rw [List.mem_append, List.mem_singleton] at hrow
    rcases hrow with hrow | rfl
    · exact ⟨row, hrow, hstate, rfl⟩
    · cases hstate
  | markTransaction | retryTransaction | recoverQueue =>
    exact .inr (.inr (.updateWhere rfl rfl rfl fun row _ => ⟨rfl, nofun⟩))
  | @failTransaction _ _ _ _ target | @failBatch _ _ _ _ target =>
    refine .inr (.inr (.updateWhere rfl rfl rfl fun row _ => ⟨rfl, fun h => ?_⟩))
    cases target <;> cases h
  | markBatch => exact .inr (.inr (.updateWhere rfl rfl rfl fun row _ => ⟨rfl, id⟩))
  | createBatch _ _ _ _ _ _ reserved =>
    refine .inr (.inr (.of_queue rfl rfl ?_))
    refine Table.origin_updateEach (R := OfflineTransactionRow.NotAcknowledged) reserved
      (fun _ => ⟨rfl, id⟩) (fun _ _ _ h h' => ⟨h'.1.trans h.1, fun hs => h.2 (h'.2 hs)⟩)
      fun _ _ _ _ => ⟨rfl, nofun⟩

/-- An acknowledgement is stored by the operation that says so, and only its
application time is written later. -/
theorem Committed.acknowledgement_origin (h : Committed codec db op db')
    {row' : SynchronizationAcknowledgementRow}
    (hrow' : row' ∈ db'.synchronizationAcknowledgements) :
    (∃ row ∈ db.synchronizationAcknowledgements, row'.frozen = row.frozen) ∨
      ∃ acknowledgement, op = .storeAcknowledgement acknowledgement ∧
        row' = acknowledgement.toRow codec := by
  rcases h.acknowledgementFrame with ⟨acknowledgement, rfl⟩ | ⟨_, _, _, rfl⟩ | hframe
  · cases h with
    | storeAcknowledgement =>
      rw [List.mem_append, List.mem_singleton] at hrow'
      rcases hrow' with hrow' | rfl
      · exact .inl ⟨row', hrow', rfl⟩
      · exact .inr ⟨acknowledgement, rfl, rfl⟩
  · cases h with
    | applyAcknowledgement =>
      obtain ⟨row, hrow, rfl⟩ := Table.mem_updateWhere.mp hrow'
      refine .inl ⟨row, hrow, ?_⟩
      split <;> rfl
  · exact .inl ⟨row', hframe.acknowledgements ▸ hrow', rfl⟩

/-- Entries are never removed. -/
theorem Grows.mem_entries (h : Grows db db') (batches : BatchInvariant r db)
    {entry : SynchronizationEntryRow} (hentry : entry ∈ db.synchronizationEntries) :
    entry ∈ db'.synchronizationEntries := by
  obtain ⟨row, hrow, hid⟩ := batches.entryBatch entry hentry
  have hmem : entry ∈ db.synchronizationEntries.filter (·.batchId == row.batchId) :=
    List.mem_filter.mpr ⟨hentry, by simp [hid]⟩
  rw [← h.entries row hrow] at hmem
  exact List.mem_of_mem_filter hmem

theorem Grows.entriesOf (h : Grows db db') {row : SynchronizationBatchRow}
    (hrow : row ∈ db.synchronizationBatches) :
    db'.entriesOf row.batchId = db.entriesOf row.batchId :=
  h.entries row hrow

theorem AcknowledgementInvariant.of_frame (inv : AcknowledgementInvariant r db)
    (batches : BatchInvariant r db) (hgrows : Grows db db') (h : AcknowledgementFrame db db') :
    AcknowledgementInvariant r db' := by
  have hentries : ∀ row ∈ db.synchronizationAcknowledgements,
      db'.entriesOf row.batchId = db.entriesOf row.batchId := by
    intro row hrow
    obtain ⟨batch, hbatch, hid⟩ := inv.known row hrow
    rw [← hid]
    exact hgrows.entriesOf hbatch
  have hackEntries : ∀ batchId,
      db'.acknowledgementEntriesOf batchId = db.acknowledgementEntriesOf batchId := by
    simp only [ReaderDatabase.acknowledgementEntriesOf, h.entries, implies_true]
  exact
    { ids := h.acknowledgements ▸ inv.ids
      owned := h.acknowledgements ▸ inv.owned
      known := by
        intro row hrow
        obtain ⟨batch, hbatch, hid⟩ := inv.known row (h.acknowledgements ▸ hrow)
        obtain ⟨batch', hbatch', hkept⟩ := hgrows.batches batch hbatch
        exact ⟨batch', hbatch', (congrArg (·.batchId) hkept.frozen).trans hid⟩
      entryOwned := h.entries ▸ inv.entryOwned
      entryOf := by
        rw [h.entries, h.acknowledgements]
        exact inv.entryOf
      keys := by
        rw [h.acknowledgements]
        intro row hrow
        rw [hackEntries, hentries row hrow]
        exact inv.keys row hrow
      positions := by
        rw [h.acknowledgements]
        intro row hrow
        rw [hackEntries, hentries row hrow]
        exact inv.positions row hrow
      settled := by
        intro row' hrow' hstate
        obtain ⟨row, hrow, hstate, hkey⟩ := h.origin row' hrow' hstate
        obtain ⟨entry, hentry, hekey, ack, hack, hid⟩ := inv.settled row hrow hstate
        exact ⟨entry, hgrows.mem_entries batches hentry, hekey.trans hkey, ack,
          h.acknowledgements ▸ hack, hid⟩ }

/-! ## Storing -/

theorem map_key_acknowledgementEntryRows (acknowledgement : SynchronizationAcknowledgement)
    (position : Nat) (entries : List SynchronizationAcknowledgementEntry) :
    (acknowledgement.entryRows position entries).map (·.key) = entries.map (·.key) := by
  induction entries generalizing position with
  | nil => rfl
  | cons entry entries ih =>
    simp only [SynchronizationAcknowledgement.entryRows, List.zipIdx_cons, List.map_cons] at ih ⊢
    rw [ih]
    rfl

/-- What storing adds: one row for a batch that had none, and entries that
repeat those of the batch. -/
theorem BatchInvariant.stored (batches : BatchInvariant r db)
    {acknowledgement : SynchronizationAcknowledgement}
    (h : Committed codec db (.storeAcknowledgement acknowledgement) db') :
    ∃ batch ∈ db.synchronizationBatches,
      batch.batchId = acknowledgement.batchId ∧ acknowledgement.readerId = r ∧
      (∀ other ∈ db.synchronizationAcknowledgements,
        acknowledgement.batchId ≠ other.batchId) ∧
      (acknowledgement.entryRows 0 acknowledgement.entries).map (·.key) =
        (db.entriesOf acknowledgement.batchId).map (·.key) ∧
      (acknowledgement.entryRows 0 acknowledgement.entries).map (·.entryPosition) =
        (db.entriesOf acknowledgement.batchId).map (·.entryPosition) ∧
      db' = { db with
        synchronizationAcknowledgements :=
          db.synchronizationAcknowledgements ++ [acknowledgement.toRow codec]
        synchronizationAcknowledgementEntries := db.synchronizationAcknowledgementEntries ++
          acknowledgement.entryRows 0 acknowledgement.entries } := by
  cases h with
  | @storeAcknowledgement _ batch row loaded valid found inFlight check fresh entryChecks =>
    obtain ⟨hrow, hid, howner⟩ := ReaderDatabase.findBatch_eq_some found
    have hr : acknowledgement.readerId = r := howner.symm.trans (batches.owned row hrow)
    have hkeys : (acknowledgement.entryRows 0 acknowledgement.entries).map (·.key) =
        (db.entriesOf acknowledgement.batchId).map (·.key) := by
      obtain ⟨-, -, -, -, -, hloaded⟩ := loadSynchronizationBatch_ok loaded
      rw [map_key_acknowledgementEntryRows, (validateAgainstBatch_ok.mp valid).2.2.2, hloaded,
        hr, ← hid, batches.orderBy_entryPosition hrow]
    have hlength : acknowledgement.entries.length =
        (db.entriesOf acknowledgement.batchId).length := by
      have hlengths := congrArg List.length hkeys
      simpa [SynchronizationAcknowledgement.entryRows] using hlengths
    refine ⟨row, hrow, hid, hr, fresh, hkeys, ?_, rfl⟩
    rw [← hid, (batches.holds row hrow).positions, hid, ← hlength,
      SynchronizationAcknowledgement.entryRows, List.map_map]
    exact List.zipIdx_map_snd 0 acknowledgement.entries

theorem AcknowledgementInvariant.store (inv : AcknowledgementInvariant r db)
    (batches : BatchInvariant r db) {acknowledgement : SynchronizationAcknowledgement}
    (h : Committed codec db (.storeAcknowledgement acknowledgement) db') :
    AcknowledgementInvariant r db' := by
  have hgrows := h.grows
  obtain ⟨batch, hbatch, hid, hr, hfresh, hkeys, hpositions, rfl⟩ := batches.stored h
  have hnew : (db.synchronizationAcknowledgementEntries ++
      acknowledgement.entryRows 0 acknowledgement.entries).filter
        (·.batchId == acknowledgement.batchId) =
          acknowledgement.entryRows 0 acknowledgement.entries := by
    refine Table.filter_append_of_fresh (fun entry hentry hentryid => ?_)
      fun entry hentry => (mem_acknowledgementEntryRows hentry).1
    obtain ⟨other, hother, hother'⟩ := inv.entryOf entry hentry
    exact hfresh other hother (hother'.trans hentryid).symm
  refine
    { ids := Table.nodup_map_append inv.ids hfresh
      owned := fun row hrow => ?_
      known := fun row hrow => ?_
      entryOwned := fun entry hentry => ?_
      entryOf := fun entry hentry => ?_
      keys := fun row hrow => ?_
      positions := fun row hrow => ?_
      settled := fun row hrow hstate => ?_ }
  · rw [List.mem_append, List.mem_singleton] at hrow
    rcases hrow with hrow | rfl
    · exact inv.owned row hrow
    · exact hr
  · rw [List.mem_append, List.mem_singleton] at hrow
    rcases hrow with hrow | rfl
    · exact inv.known row hrow
    · exact ⟨batch, hbatch, hid⟩
  · rw [List.mem_append] at hentry
    rcases hentry with hentry | hentry
    · exact inv.entryOwned entry hentry
    · exact (mem_acknowledgementEntryRows hentry).2.trans hr
  · rw [List.mem_append] at hentry
    rcases hentry with hentry | hentry
    · obtain ⟨row, hrow, hrowid⟩ := inv.entryOf entry hentry
      exact ⟨row, List.mem_append_left _ hrow, hrowid⟩
    · exact ⟨_, List.mem_append_right _ (List.mem_singleton_self _),
        (mem_acknowledgementEntryRows hentry).1.symm⟩
  · rw [List.mem_append, List.mem_singleton] at hrow
    rcases hrow with hrow | rfl
    · exact (congrArg (List.map _) (hgrows.acknowledgementEntries row hrow)).trans
        (inv.keys row hrow)
    · exact (congrArg (List.map _) hnew).trans hkeys
  · rw [List.mem_append, List.mem_singleton] at hrow
    rcases hrow with hrow | rfl
    · exact (congrArg (List.map _) (hgrows.acknowledgementEntries row hrow)).trans
        (inv.positions row hrow)
    · exact (congrArg (List.map _) hnew).trans hpositions
  · obtain ⟨entry, hentry, hkey, ack, hack, hackid⟩ := inv.settled row hrow hstate
    exact ⟨entry, hentry, hkey, ack, List.mem_append_left _ hack, hackid⟩

/-! ## Applying -/

/-- The transactions an application leaves acknowledged were so before, or are
entries of the batch. -/
theorem applyEntries_origin {readerId : ReaderId} {t : UnixMilliseconds}
    {entries : List DecodedAcknowledgementEntry} {rows out : List OfflineTransactionRow}
    (h : applyEntries readerId t entries rows = .ok out) :
    ∀ row' ∈ out, row'.queueState = .acknowledged →
      (∃ row ∈ rows, row.queueState = .acknowledged ∧ row.key = row'.key) ∨
        ∃ entry ∈ entries, entry.key = row'.key := by
  let R (row row' : OfflineTransactionRow) : Prop := row'.key = row.key ∧
    (row'.queueState = .acknowledged → row.queueState = .acknowledged ∨
      ∃ entry ∈ entries, entry.key = row.key)
  have htrans : ∀ a b c, R a b → R b c → R a c := by
    rintro a b c ⟨hab, hab'⟩ ⟨hbc, hbc'⟩
    refine ⟨hbc.trans hab, fun hc => ?_⟩
    rcases hbc' hc with hb | ⟨entry, hentry, hkey⟩
    · exact hab' hb
    · exact .inr ⟨entry, hentry, hkey.trans hab⟩
  have hf : ∀ entry ∈ entries, ∀ row, entry.selects readerId t row = true →
      R row (entry.settle t row) := by
    intro entry hentry row hsel
    obtain ⟨hid, -, hseq, -⟩ := DecodedAcknowledgementEntry.selects_eq_true.mp hsel
    exact ⟨rfl, fun _ => .inr ⟨entry, hentry, Prod.ext hid.symm hseq.symm⟩⟩
  intro row' hrow' hstate
  obtain ⟨row, hrow, hkey, hR⟩ := Table.origin_updateEach (R := R) h
    (fun _ => ⟨rfl, .inl⟩) htrans hf row' hrow'
  rcases hR hstate with hstate | ⟨entry, hentry, hentrykey⟩
  · exact .inl ⟨row, hrow, hstate, hkey.symm⟩
  · exact .inr ⟨entry, hentry, hentrykey.trans hkey.symm⟩

theorem AcknowledgementInvariant.apply (inv : AcknowledgementInvariant reader.readerId db)
    (queue : QueueInvariant reader db) (batches : BatchInvariant reader.readerId db)
    {readerId : ReaderId} {batchId : SynchronizationBatchId} {t : UnixMilliseconds}
    (h : Committed codec db (.applyAcknowledgement readerId batchId t) db') :
    AcknowledgementInvariant reader.readerId db' := by
  have hgrows := h.grows
  cases h with
  | @applyAcknowledgement _ _ _ acknowledgement entries row readerState transactions advanced
      found unapplied decoded bound owner applied check one contiguous advance
      acknowledgementCheck =>
    have hrow : row = reader := Option.some.inj (bound.symm.trans queue.bound)
    subst hrow owner
    obtain ⟨hack, hackid, -⟩ := ReaderDatabase.findAcknowledgement_eq_some found
    have horigin : ∀ row' ∈ Table.updateWhere
        (fun other => other.batchId == batchId && other.readerId == row.readerId &&
          other.appliedAt.isNone) (fun row => { row with appliedAt := some t })
        db.synchronizationAcknowledgements,
          ∃ row ∈ db.synchronizationAcknowledgements, row'.frozen = row.frozen :=
      Table.origin_updateWhere (fun _ => rfl) fun _ _ _ => rfl
    refine
      { ids := ?_
        owned := fun row' hrow' => ?_
        known := fun row' hrow' => ?_
        entryOwned := inv.entryOwned
        entryOf := fun entry hentry => ?_
        keys := fun row' hrow' => ?_
        positions := fun row' hrow' => ?_
        settled := fun queued hqueued hstate => ?_ }
    · have hids := Table.map_updateWhere
        (p := fun other : SynchronizationAcknowledgementRow => other.batchId == batchId &&
          other.readerId == row.readerId && other.appliedAt.isNone)
        (f := fun row => { row with appliedAt := some t }) (k := (·.batchId)) (fun _ => rfl)
        db.synchronizationAcknowledgements
      exact hids ▸ inv.ids
    · obtain ⟨old, hold, hfrozen⟩ := horigin row' hrow'
      exact (congrArg (·.readerId) hfrozen).trans (inv.owned old hold)
    · obtain ⟨old, hold, hfrozen⟩ := horigin row' hrow'
      obtain ⟨batch, hbatch, hid⟩ := inv.known old hold
      obtain ⟨batch', hbatch', hkept⟩ := hgrows.batches batch hbatch
      exact ⟨batch', hbatch', (congrArg (·.batchId) hkept.frozen).trans
        (hid.trans (congrArg (·.batchId) hfrozen).symm)⟩
    · obtain ⟨old, hold, hid⟩ := inv.entryOf entry hentry
      obtain ⟨new, hnew, hkept⟩ := hgrows.acknowledgements old hold
      exact ⟨new, hnew, (congrArg (·.batchId) hkept.frozen).trans hid⟩
    · obtain ⟨old, hold, hfrozen⟩ := horigin row' hrow'
      rw [show row'.batchId = old.batchId from congrArg (·.batchId) hfrozen]
      exact inv.keys old hold
    · obtain ⟨old, hold, hfrozen⟩ := horigin row' hrow'
      rw [show row'.batchId = old.batchId from congrArg (·.batchId) hfrozen]
      exact inv.positions old hold
    · rcases applyEntries_origin applied queued hqueued hstate with
        ⟨old, hold, hstate, hkey⟩ | ⟨entry, hentry, hkey⟩
      · obtain ⟨entry, hentry, hekey, ack, hack', hid⟩ := inv.settled old hold hstate
        obtain ⟨ack', hack', hkept⟩ := hgrows.acknowledgements ack hack'
        exact ⟨entry, hentry, hekey.trans hkey, ack', hack',
          (congrArg (·.batchId) hkept.frozen).trans hid⟩
      · have hmem := List.mem_map_of_mem (f := (·.key)) hentry
        rw [inv.decoded_keys batches hack hackid decoded] at hmem
        obtain ⟨stored, hstored, hstoredkey⟩ := List.mem_map.mp hmem
        obtain ⟨hstored, hstoredid⟩ := List.mem_filter.mp hstored
        obtain ⟨ack', hack', hkept⟩ := hgrows.acknowledgements acknowledgement hack
        refine ⟨stored, hstored, hstoredkey.trans hkey, ack', hack', ?_⟩
        rw [eq_of_beq hstoredid, ← hackid]
        exact congrArg (·.batchId) hkept.frozen

theorem AcknowledgementInvariant.step (inv : AcknowledgementInvariant reader.readerId db)
    (queue : QueueInvariant reader db) (batches : BatchInvariant reader.readerId db)
    (h : Committed codec db op db') : AcknowledgementInvariant reader.readerId db' := by
  rcases h.acknowledgementFrame with ⟨acknowledgement, rfl⟩ | ⟨readerId, batchId, t, rfl⟩ | hframe
  · exact inv.store batches h
  · exact inv.apply queue batches h
  · exact inv.of_frame batches h.grows hframe

end TransitGuard.Reader
