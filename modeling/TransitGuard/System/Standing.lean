import TransitGuard.Backend.Commit
import TransitGuard.Backend.Identity
import TransitGuard.Reader.Delivery
import TransitGuard.System.Agreement

/-!
What stands in every reachable state besides the invariant: the reader remembers
the acknowledgements it stored and closes what they apply to, and the backend
stores with each batch the reader and the fingerprint of a request that was
posted for it. So the backend has nothing against a request that is posted
again.
-/

namespace TransitGuard.System

open Protocol Reader Backend

variable {codec : Json.Codec} {sha256 : Sha256} {environmentId : EnvironmentId} {s : State}

/-! ## What an event does -/

/-- The reader goes on by its operations alone, and takes in no transaction of
its own accord. -/
theorem step_reader (s : State) (event : Event) :
    (step codec sha256 environmentId s event).reader = s.reader ∨
      ∃ op, (step codec sha256 environmentId s event).reader =
          Reader.perform codec s.reader op ∧
        ∀ readerId draft, op = .enqueue readerId draft →
          event = .call (.enqueue readerId draft) := by
  cases event with
  | call localCall =>
    refine .inr ⟨_, rfl, fun readerId draft henqueue => ?_⟩
    cases localCall <;> cases henqueue
    rfl
  | submit readerId batchId completedAt retryAt =>
    refine .inl ?_
    simp only [step, State.submit]
    split
    · rfl
    · split <;> rfl
  | serve index elapsed =>
    refine .inl ?_
    simp only [step]
    split <;> rfl
  | fault index elapsed commits =>
    refine .inl ?_
    simp only [step]
    split <;> rfl
  | changeStatus readerId status => exact .inl rfl
  | deliver index answer =>
    refine .inl ?_
    simp only [step]
    split
    · split <;> rfl
    · rfl
  | lose index failure =>
    refine .inl ?_
    simp only [step]
    split
    · split <;> rfl
    · rfl
  | crash => exact .inl rfl
  | proceed index =>
    simp only [step]
    cases s.submissions[index]? with
    | none => exact .inl rfl
    | some submission =>
      simp only [State.proceed]
      cases submission.phase with
      | awaiting => exact .inl rfl
      | stored acknowledgement => exact .inr ⟨.applyAcknowledgement .., rfl, by simp⟩
      | failed category =>
        refine .inr ⟨_, rfl, fun readerId draft henqueue => ?_⟩
        unfold failureOperation at henqueue
        split at henqueue <;> cases henqueue
      | acknowledged acknowledgement =>
        have hreader : (storeProtocolSynchronizationAcknowledgement codec s.reader
            acknowledgement).database = s.reader ∨ ∃ op,
              (storeProtocolSynchronizationAcknowledgement codec s.reader
                acknowledgement).database = Reader.perform codec s.reader op ∧
              ∀ readerId draft, op = .enqueue readerId draft →
                Event.proceed index = .call (.enqueue readerId draft) := by
          unfold storeProtocolSynchronizationAcknowledgement
          cases translateProtocolSynchronizationAcknowledgement acknowledgement with
          | error e => exact .inl rfl
          | ok translated => exact .inr ⟨.storeAcknowledgement translated, rfl, by simp⟩
        dsimp only
        split <;> exact hreader

/-- What holds of the envelopes in the queue holds of them after the event, if
it holds of the one that the event enqueues. -/
theorem forall_envelopes_step {P : String → Prop} {event : Event}
    (h : ∀ row ∈ s.reader.offlineTransactions, P row.transactionEnvelopeJson)
    (hevent : ∀ readerId draft, event = .call (.enqueue readerId draft) →
      P (draft.transactionEnvelope.render codec)) :
    ∀ row ∈ (step codec sha256 environmentId s event).reader.offlineTransactions,
      P row.transactionEnvelopeJson := by
  rcases @step_reader codec sha256 environmentId s event with hsame | ⟨op, hop, henqueues⟩
  · rw [hsame]
    exact h
  · rw [hop]
    exact forall_envelopes_perform h fun readerId draft heq =>
      hevent readerId draft (henqueues readerId draft heq)

/-- The database of the reader grows along every run. -/
theorem grows_events (s : State) (events : List Event) :
    Grows s.reader (Runs.run (step codec sha256 environmentId) s events).reader := by
  refine Runs.invariant (P := fun s' : State => Grows s.reader s'.reader) ?_ (.refl s.reader) events
  intro s' event hgrows
  rcases @step_reader codec sha256 environmentId s' event with hsame | ⟨op, hop, -⟩
  · rw [hsame]
    exact hgrows
  · rw [hop]
    exact hgrows.trans (@grows_run codec s'.reader [op])

/-- What happens at the reader, and not at the backend. -/
def Event.atReader : Event → Bool
  | .serve .. | .fault .. | .changeStatus .. => false
  | _ => true

/-- The backend goes on only with its own events. -/
theorem step_atReader {event : Event} (h : event.atReader = true) (s : State) :
    (step codec sha256 environmentId s event).backend = s.backend := by
  cases event with
  | serve | fault | changeStatus => cases h
  | call | crash => rfl
  | submit readerId batchId completedAt retryAt =>
    simp only [step, State.submit]
    split
    · rfl
    · split <;> rfl
  | deliver index answer =>
    simp only [step]
    split
    · split <;> rfl
    · rfl
  | lose index failure =>
    simp only [step]
    split
    · split <;> rfl
    · rfl
  | proceed index =>
    simp only [step]
    cases s.submissions[index]? with
    | none => rfl
    | some submission =>
      simp only [State.proceed]
      cases submission.phase with
      | acknowledged acknowledgement =>
        dsimp only
        split <;> rfl
      | _ => rfl

/-- The backend goes on by the requests that were posted. -/
theorem step_backend (s : State) (event : Event) :
    (step codec sha256 environmentId s event).backend = s.backend ∨
      (∃ readerId status, (step codec sha256 environmentId s event).backend =
        s.backend.changeStatus readerId status) ∨
      ∃ request ∈ s.posted, ∃ receivedAt acknowledgement,
        process codec sha256 environmentId s.backend request receivedAt =
          .ok (acknowledgement, (step codec sha256 environmentId s event).backend) := by
  have hserved : ∀ request elapsed,
      (submitSynchronizationBatch codec sha256 environmentId s.backend request elapsed).2 =
        s.backend ∨ ∃ receivedAt acknowledgement,
          process codec sha256 environmentId s.backend request receivedAt =
            .ok (acknowledgement, (submitSynchronizationBatch codec sha256 environmentId s.backend
              request elapsed).2) := by
    intro request elapsed
    unfold submitSynchronizationBatch
    cases currentUnixMilliseconds elapsed with
    | none => exact .inl rfl
    | some receivedAt =>
      dsimp only
      cases hprocess : process codec sha256 environmentId s.backend request receivedAt with
      | error e => exact .inl rfl
      | ok result => exact .inr ⟨receivedAt, result.1, hprocess⟩
  cases event with
  | serve index elapsed =>
    simp only [step]
    cases hrequest : s.posted[index]? with
    | none => exact .inl rfl
    | some request =>
      exact (hserved request elapsed).imp_right fun h =>
        .inr ⟨request, List.mem_of_getElem? hrequest, h⟩
  | fault index elapsed commits =>
    simp only [step]
    cases hrequest : s.posted[index]? with
    | none => exact .inl rfl
    | some request =>
      cases commits with
      | false => exact .inl rfl
      | true =>
        exact (hserved request elapsed).imp_right fun h =>
          .inr ⟨request, List.mem_of_getElem? hrequest, h⟩
  | changeStatus readerId status => exact .inr (.inl ⟨readerId, status, rfl⟩)
  | call | submit | deliver | lose | proceed | crash => exact .inl (step_atReader rfl s)

/-- What was posted stays posted. -/
theorem step_posted (s : State) (event : Event) :
    s.posted ⊆ (step codec sha256 environmentId s event).posted := by
  cases event with
  | submit readerId batchId completedAt retryAt =>
    simp only [step, State.submit]
    split
    · exact List.Subset.refl _
    · split
      · exact List.Subset.refl _
      · exact List.subset_append_left ..
  | serve index elapsed =>
    simp only [step]
    split <;> exact List.Subset.refl _
  | fault index elapsed commits =>
    simp only [step]
    split <;> exact List.Subset.refl _
  | deliver index answer =>
    simp only [step]
    split
    · split <;> exact List.Subset.refl _
    · exact List.Subset.refl _
  | lose index failure =>
    simp only [step]
    split
    · split <;> exact List.Subset.refl _
    · exact List.Subset.refl _
  | proceed index =>
    simp only [step]
    cases s.submissions[index]? with
    | none => exact List.Subset.refl _
    | some submission =>
      simp only [State.proceed]
      cases submission.phase with
      | acknowledged acknowledgement =>
        dsimp only
        split <;> exact List.Subset.refl _
      | _ => exact List.Subset.refl _
  | call | changeStatus | crash => exact List.Subset.refl _

/-! ## What stands -/

/-- A batch of the backend stands under the reader and the fingerprint of a
posted request. -/
def Fingerprinted (sha256 : Sha256) (posted : List Request) (backend : IngestDatabase) : Prop :=
  ∀ row ∈ backend.batches, ∃ request ∈ posted, row.batchId = request.batchId ∧
    row.readerId = request.readerId ∧ row.requestFingerprint = request.fingerprint sha256

structure Standing (codec : Json.Codec) (sha256 : Sha256) (s : State) : Prop where
  invariant : Invariant codec sha256 s
  recorded : Recorded codec s.reader
  closed : s.reader.AppliedClosed
  represented : ∃ ledger, Represents ledger s.backend
  fingerprinted : Fingerprinted sha256 s.posted s.backend

theorem exists_represents_process {db db' : IngestDatabase} {request : Request}
    {receivedAt : UnixMilliseconds} {acknowledgement : Acknowledgement}
    (h : process codec sha256 environmentId db request receivedAt = .ok (acknowledgement, db'))
    (hdb : ∃ ledger, Represents ledger db) : ∃ ledger, Represents ledger db' := by
  obtain ⟨ledger, hledger⟩ := hdb
  have hserve : serve codec sha256 environmentId db (.process request receivedAt) = db' := by
    rw [serve, h]
  rcases @serve_cases codec sha256 environmentId db (.process request receivedAt) with
    hsame | ⟨stored, hstored⟩
  · rw [← hserve, hsame]
    exact ⟨ledger, hledger⟩
  · rw [← hserve, hstored]
    exact ⟨_, hledger.step stored⟩

theorem Fingerprinted.process {posted : List Request} {db db' : IngestDatabase}
    (hdb : Fingerprinted sha256 posted db) {request : Request} (hposted : request ∈ posted)
    {receivedAt : UnixMilliseconds} {acknowledgement : Acknowledgement}
    (h : process codec sha256 environmentId db request receivedAt = .ok (acknowledgement, db')) :
    Fingerprinted sha256 posted db' := by
  obtain ⟨-, ⟨-, row, added, hingests⟩ | ⟨rfl, -⟩⟩ := process_ok h
  · obtain ⟨stored, hstored, hanswered⟩ := answered_of_process h
    have hfound : db'.findBatch request.batchId = some row := by
      rw [← hingests.batchId]
      exact IngestDatabase.findBatch_appended row (hingests.batchId ▸ hingests.fresh)
        hingests.batches
    obtain rfl : row = stored := Option.some.inj (hfound.symm.trans hstored)
    intro other hother
    rw [hingests.batches, List.mem_append, List.mem_singleton] at hother
    rcases hother with hother | rfl
    · exact hdb other hother
    · exact ⟨request, hposted, hingests.batchId, hanswered.reader, hanswered.fingerprint⟩
  · exact hdb

/-- Every event keeps what stands. -/
theorem Standing.step (h : Standing codec sha256 s) (event : Event) :
    Standing codec sha256 (System.step codec sha256 environmentId s event) := by
  obtain ⟨reader, inv⟩ := h.invariant.reader.consistent
  have hposted : s.posted ⊆ (System.step codec sha256 environmentId s event).posted :=
    step_posted s event
  have hreader : Recorded codec (System.step codec sha256 environmentId s event).reader ∧
      (System.step codec sha256 environmentId s event).reader.AppliedClosed := by
    rcases @step_reader codec sha256 environmentId s event with hsame | ⟨op, hop, -⟩
    · rw [hsame]
      exact ⟨h.recorded, h.closed⟩
    · rw [hop]
      exact ⟨perform_invariant h.recorded fun _ hc => h.recorded.step inv hc,
        perform_invariant h.closed fun _ hc => inv.appliedClosed_step hc h.closed⟩
  have hbackend : (∃ ledger, Represents ledger
        (System.step codec sha256 environmentId s event).backend) ∧
      Fingerprinted sha256 s.posted (System.step codec sha256 environmentId s event).backend := by
    rcases @step_backend codec sha256 environmentId s event with
      hsame | ⟨readerId, status, hstatus⟩ | ⟨request, hrequest, receivedAt, answer, hprocess⟩
    · rw [hsame]
      exact ⟨h.represented, h.fingerprinted⟩
    · rw [hstatus]
      exact ⟨h.represented.imp fun _ hledger => hledger.changeStatus readerId status,
        h.fingerprinted⟩
    · exact ⟨exists_represents_process hprocess h.represented,
        h.fingerprinted.process hrequest hprocess⟩
  exact ⟨h.invariant.step event, hreader.1, hreader.2, hbackend.1, fun row hrow =>
    (hbackend.2 row hrow).imp fun _ hr => ⟨hposted hr.1, hr.2⟩⟩

theorem standing_initial {db₀ : ReaderDatabase} (h : FreshlyBound db₀)
    (readerEquipment : List ReaderEquipmentRow) :
    Standing codec sha256 (.initial db₀ readerEquipment) :=
  ⟨invariant_initial h readerEquipment, h.recorded, h.appliedClosed,
    ⟨[], represents_initial readerEquipment⟩, fun _ hrow => absurd hrow List.not_mem_nil⟩

theorem Standing.run (h : Standing codec sha256 s) (events : List Event) :
    Standing codec sha256 (Runs.run (System.step codec sha256 environmentId) s events) :=
  Runs.invariant (fun _ event h => h.step event) h events

/-! ## A request that is posted again -/

/-- Two entries of the reader's requests that share the transaction or the
sequence are stored alike. -/
theorem storedIdentity_eq {db : ReaderDatabase} {reader : ReaderStateRow}
    (inv : Consistent reader db) {request request' : Request}
    (h : Requested codec db request) (h' : Requested codec db request')
    {entry entry' : RequestEntry} (hentry : entry ∈ request.entries)
    (hentry' : entry' ∈ request'.entries)
    (hsame : entry.transactionId = entry'.transactionId ∨
      entry.localSequenceNumber.value = entry'.localSequenceNumber.value) :
    storedIdentity sha256 request entry = storedIdentity sha256 request' entry' := by
  obtain ⟨row, hrow, hid, hsequence, hparsed⟩ := h.entry_queued inv hentry
  obtain ⟨row', hrow', hid', hsequence', hparsed'⟩ := h'.entry_queued inv hentry'
  have hrows : row = row' := by
    rcases hsame with hsame | hsame
    · exact Table.eq_of_key_eq inv.queue.ids hrow hrow' (hid.trans (hsame.trans hid'.symm))
    · have hnodup : (db.offlineTransactions.map (·.localSequenceNumber)).Nodup :=
        inv.queue.sequences_increasing.imp Nat.ne_of_lt
      exact Table.eq_of_key_eq hnodup hrow hrow' (hsequence.trans (hsame.trans hsequence'.symm))
  subst hrows
  obtain ⟨-, -, -, howner, -⟩ := h.assembled inv
  obtain ⟨-, -, -, howner', -⟩ := h'.assembled inv
  have henvelope : entry.transactionEnvelope = entry'.transactionEnvelope :=
    Except.ok.inj (hparsed.symm.trans hparsed')
  rw [storedIdentity, storedIdentity, ← hid, ← hid', ← hsequence, ← hsequence', howner, howner',
    henvelope]

/-- A transaction of the backend was an entry of a posted request. -/
theorem Standing.transaction_origin (h : Standing codec sha256 s)
    {stored : IngestTransactionRow} (hstored : stored ∈ s.backend.transactions) :
    ∃ request ∈ s.posted, ∃ entry ∈ request.entries,
      stored.identity = storedIdentity sha256 request entry := by
  obtain ⟨ledger, hledger⟩ := h.represented
  obtain ⟨reader, inv⟩ := h.invariant.reader.consistent
  -- the row was resolved by an entry, and the entry belongs to a committed batch
  obtain ⟨written, hwritten⟩ : ∃ written, written ∈ s.backend.historyOf
      stored.fareTransactionId := by
    refine List.exists_mem_of_ne_nil _ fun hnil => ?_
    have hresolved := hledger.sound.resolved stored hstored
    rw [hnil] at hresolved
    cases hresolved
  obtain ⟨hwritten, hid⟩ := List.mem_filter.mp hwritten
  have hingest := hwritten
  rw [hledger.entries, List.mem_flatMap] at hingest
  obtain ⟨ingest, hingest, hrow⟩ := hingest
  obtain ⟨request, hposted, hingested⟩ := h.invariant.backend.batches ingest.batchRow
    (hledger.batches ▸ List.mem_map_of_mem hingest)
  obtain ⟨request', hposted', hbatch', hmember⟩ := h.invariant.backend.entries written hwritten
  obtain rfl : request = request' :=
    (h.invariant.posted request hposted).1.unique (h.invariant.posted request' hposted').1 inv
      (hingested.batchId.symm.trans ((batchId_of_mem_entryRows hrow).symm.trans hbatch'))
  obtain ⟨entry, hentry, hentryId⟩ := List.mem_map.mp hmember
  obtain ⟨other, hother, hidentity⟩ := hingested.covered entry hentry
  have hotherId : other.fareTransactionId = stored.fareTransactionId := by
    have hfirst : other.fareTransactionId = entry.transactionId := congrArg Prod.fst hidentity
    rw [hfirst, hentryId, beq_iff_eq.mp hid]
  obtain rfl : other = stored :=
    Table.eq_of_key_eq hledger.sound.ids hother hstored hotherId
  exact ⟨request, hposted, entry, hentry, hidentity⟩

/-- The backend has nothing against what the reader posts again, in its
environment and from an operational reader. -/
theorem Standing.admissible (h : Standing codec sha256 s) {request : Request}
    (hrequested : Requested codec s.reader request) (hversion : request.protocolVersion = .current)
    (henvironment : request.environmentId = environmentId)
    (hoperational : s.backend.operational request.readerId = true) :
    Admissible codec sha256 environmentId s.backend request := by
  obtain ⟨reader, inv⟩ := h.invariant.reader.consistent
  refine ⟨fun entry hentry => ?_, hversion, henvironment, hoperational, fun row hfound => ?_,
    fun entry hentry row hrow hsame => ?_⟩
  · obtain ⟨row, -, -, -, hparsed⟩ := hrequested.entry_queued inv hentry
    exact ⟨row.transactionEnvelopeJson, hparsed⟩
  · obtain ⟨hrow, hid⟩ := IngestDatabase.findBatch_eq_some hfound
    obtain ⟨posted, hposted, hbatch, howner, hfingerprint⟩ := h.fingerprinted row hrow
    obtain rfl : posted = request := (h.invariant.posted posted hposted).1.unique hrequested inv
      (hbatch.symm.trans hid)
    exact ⟨howner, hfingerprint⟩
  · obtain ⟨posted, hposted, other, hother, hidentity⟩ := h.transaction_origin hrow
    rw [hidentity]
    refine storedIdentity_eq inv (h.invariant.posted posted hposted).1 hrequested hother hentry ?_
    have hid : row.fareTransactionId = other.transactionId := congrArg Prod.fst hidentity
    have hsequence : row.localSequenceNumber = other.localSequenceNumber.value :=
      congrArg (fun identity => identity.2.2.1) hidentity
    rcases hsame with hsame | ⟨-, hsame⟩
    · exact .inl (hid.symm.trans hsame)
    · exact .inr (hsequence.symm.trans hsame)

end TransitGuard.System
