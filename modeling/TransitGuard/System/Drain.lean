import TransitGuard.Reader.Deliverable
import TransitGuard.Reader.Enqueue
import TransitGuard.System.Standing

/-!
No state is a dead end. From every reachable state, however the network and the
crashes led there, undisturbed exchanges take each transaction that is not
settled to the backend and back: first those of the open batches, which are
recovered and submitted again, then those that wait in the queue.
-/

namespace TransitGuard.System

open Protocol Reader Backend

variable {codec : Json.Codec} {sha256 : Sha256} {environmentId : EnvironmentId} {s : State}

/-! ## One exchange -/

/-- A submission that nothing disturbs: it is posted, served at once, answered,
and written down. -/
def exchange (s : State) (readerId : ReaderId) (batchId : SynchronizationBatchId)
    (completedAt retryAt : UnixMilliseconds) (elapsed : Option Nat) : List Event :=
  [.submit readerId batchId completedAt retryAt, .serve s.posted.length elapsed,
    .deliver s.submissions.length s.answers.length, .proceed s.submissions.length,
    .proceed s.submissions.length]

/-- The backend as a transport of the coordinator. -/
def servedTransport (codec : Json.Codec) (sha256 : Sha256) (environmentId : EnvironmentId)
    (backend : IngestDatabase) (elapsed : Option Nat) : SynchronizationTransport := fun request =>
  (receiveResponse codec request
    (submitSynchronizationBatch codec sha256 environmentId backend request elapsed).1).mapError
      fun e => .classified e.failureCategory

/-- An undisturbed exchange is one call of the coordinator. -/
theorem exchange_run {readerId : ReaderId} {batchId : SynchronizationBatchId}
    {completedAt retryAt : UnixMilliseconds} {elapsed : Option Nat} {request : Request}
    (hload : loadSynchronizationBatchRequest codec s.reader readerId batchId = .ok request)
    (hbody : checkRequestBody codec request = .ok ()) :
    Runs.run (step codec sha256 environmentId) s
        (exchange s readerId batchId completedAt retryAt elapsed) =
      { reader := (submitInFlightSynchronizationBatch codec s.reader
          (servedTransport codec sha256 environmentId s.backend elapsed) readerId batchId
          completedAt retryAt).database
        backend := (submitSynchronizationBatch codec sha256 environmentId s.backend request
          elapsed).2
        posted := s.posted ++ [request]
        answers := s.answers ++ [(request, (submitSynchronizationBatch codec sha256 environmentId
          s.backend request elapsed).1)]
        submissions := s.submissions } := by
  generalize hserved : submitSynchronizationBatch codec sha256 environmentId s.backend request
    elapsed = served
  have herase : ∀ submission : Submission,
      (s.submissions ++ [submission]).eraseIdx s.submissions.length = s.submissions := by
    intro submission
    simp [List.eraseIdx_append_of_length_le]
  have hend : s.submissions[s.submissions.length]? = none := List.getElem?_eq_none (le_refl _)
  simp only [exchange, Runs.run_cons, Runs.run_nil, step, State.submit, hload, hbody,
    List.getElem?_concat_length, hserved, and_self, if_true, List.set_append_right, le_refl,
    Nat.sub_self, List.set_cons_zero]
  cases hreceived : receiveResponse codec request served.1 with
  | error e =>
    simp only [Phase.ofResult, State.proceed, submitInFlightSynchronizationBatch, hload,
      servedTransport, hserved, hreceived, Except.mapError, herase, hend, failureOperation,
      SynchronizationTransportFailure.category]
    cases synchronizationFailureDisposition e.failureCategory <;> rfl
  | ok acknowledgement =>
    simp only [Phase.ofResult, State.proceed, submitInFlightSynchronizationBatch, hload,
      servedTransport, hserved, hreceived, Except.mapError]
    cases hstored : (storeProtocolSynchronizationAcknowledgement codec s.reader
        acknowledgement).result with
    | error source => simp only [herase, hend]
    | ok stored =>
      simp only [List.set_append_right, le_refl, Nat.sub_self, List.set_cons_zero,
        List.getElem?_concat_length, herase]

/-! ## What an exchange brings about -/

/-- A clock that shows the time. -/
theorem currentUnixMilliseconds_toNat {t : UnixMilliseconds} (h : 0 ≤ t) :
    currentUnixMilliseconds (some t.toInt.toNat) = some t := by
  have hnonneg : 0 ≤ t.toInt := Int64.le_iff_toInt_le.mp h
  have hlt := t.toInt_lt
  have hle : t.toInt.toNat ≤ i64Max := by
    unfold i64Max
    omega
  have hsame : Int64.ofNat t.toInt.toNat = t := by
    rw [← Int64.ofInt_eq_ofNat, Int.toNat_of_nonneg hnonneg, Int64.ofInt_toInt]
  simp only [currentUnixMilliseconds, Option.bind_some, if_pos hle, hsame]

/-- A posted request that is in order is acknowledged, and the acknowledgement
fits it. -/
theorem Standing.acknowledges (h : Standing codec sha256 s) (hrereads : codec.Rereads)
    (hfloat : ∀ bits, Json.Printable (codec.formatFloat bits)) {request : Request}
    (hposted : request ∈ s.posted) (hversion : request.protocolVersion = .current)
    (henvironment : request.environmentId = environmentId)
    (hoperational : s.backend.operational request.readerId = true)
    (hstorable : ∀ entry ∈ request.entries, ∀ value,
      codec.parse entry.transactionEnvelope.asStr = some value → value.storableAsJsonb = true)
    {t : UnixMilliseconds} (ht : 0 ≤ t) :
    ∃ answer committed, submitSynchronizationBatch codec sha256 environmentId s.backend request
        (some t.toInt.toNat) = (.ok answer, committed) ∧
      committed.readerEquipment = s.backend.readerEquipment ∧ Returned committed answer ∧
      answer.validateAgainstRequest request = .ok () := by
  obtain ⟨reader, inv⟩ := h.invariant.reader.consistent
  obtain ⟨ledger, hledger⟩ := h.represented
  have hrequested := (h.invariant.posted request hposted).1
  have hadmissible := h.admissible hrequested hversion henvironment hoperational
  have hwritable : Writable codec s.backend request := by
    refine .inr ⟨fun entry hentry => ?_, fun entry hentry => .inr (hstorable entry hentry)⟩
    obtain ⟨row, hrow, -, hsequence, -⟩ := hrequested.entry_queued inv hentry
    have hbounds := inv.queue.sequence_bounds hrow
    have hnext := inv.queue.next_le
    omega
  rcases hadmissible.process hrereads hfloat hledger ht with
    ⟨-, answer, committed, hprocess⟩ | ⟨hnot, -⟩
  · have hserved : submitSynchronizationBatch codec sha256 environmentId s.backend request
        (some t.toInt.toNat) = (.ok answer, committed) := by
      simp only [submitSynchronizationBatch, currentUnixMilliseconds_toNat ht, hprocess]
    obtain ⟨hbackend, -, hanswered⟩ := @BackendInvariant.serve codec sha256 environmentId s.posted
      s.backend h.invariant.backend request hposted (some t.toInt.toNat)
    rw [hserved] at hbackend hanswered
    obtain ⟨hreturned, hid⟩ := hanswered
    refine ⟨answer, committed, hserved, ?_, hreturned, ?_⟩
    · obtain ⟨-, ⟨-, row, added, hingests⟩ | ⟨rfl, -⟩⟩ := process_ok hprocess
      · exact hingests.equipment
      · rfl
    · obtain ⟨row, hrow, replayed, rfl⟩ := hreturned
      obtain ⟨posted, hposted', hingested⟩ := hbackend.batches row hrow
      obtain rfl : posted = request := (h.invariant.posted posted hposted').1.unique hrequested inv
        (hingested.batchId.symm.trans (hingested.acknowledgement_batchId.symm.trans hid))
      obtain ⟨receivedAt, hbuilt⟩ := hingested.built
      have hfits := buildAcknowledgement_fits hbuilt
      rw [Acknowledgement.validateAgainstRequest_ok] at hfits ⊢
      exact hfits
  · exact absurd hwritable hnot

/-- An acknowledgement that the backend returned for a batch in flight is
stored. -/
theorem Standing.stores (h : Standing codec sha256 s) {reader : ReaderStateRow}
    (inv : Consistent reader s.reader) {batch : SynchronizationBatchRow}
    (hbatch : batch ∈ s.reader.synchronizationBatches) (hflight : batch.batchState = .inFlight)
    (hattempts : batch.attemptCount < 2 ^ 32) {request : Request}
    (hrequested : Requested codec s.reader request) (hid : request.batchId = batch.batchId)
    {answer : Acknowledgement} (hreturned : Returned s.backend answer)
    (hvalid : answer.validateAgainstRequest request = .ok ()) :
    ∃ stored, (storeProtocolSynchronizationAcknowledgement codec s.reader answer).result =
      .ok stored := by
  obtain ⟨translated, htranslated, htranslatedId, -⟩ := hreturned.translates h.invariant.backend
  obtain ⟨found, hfound, hfoundId, howner, hparts⟩ := hrequested.assembled inv
  obtain rfl : found = batch :=
    Table.eq_of_key_eq inv.batches.ids hfound hbatch (hfoundId.trans hid)
  have hmatches := hparts.matches inv hbatch howner hid hvalid htranslated
  -- an acknowledgement that is there already came from the same batch of the backend
  have hrecords : ∀ row ∈ s.reader.synchronizationAcknowledgements, row.batchId = found.batchId →
      row.Records codec s.reader translated := by
    intro row hrow hrowId
    obtain ⟨origin, stored, horigin, hstored, hstoredId, hpayload⟩ :=
      h.invariant.reader.acknowledgements row hrow
    obtain ⟨_, hstores, hstoredOf, -⟩ := horigin.translates h.invariant.backend
    obtain rfl := Except.ok.inj (hstored.symm.trans hstores)
    have hsame : origin.batchId = answer.batchId := by
      rw [← hstoredOf, ← hstoredId, hrowId, ← hmatches.id, htranslatedId]
    have hequal := h.invariant.translate_eq horigin hreturned hsame
    rw [hstored, htranslated] at hequal
    exact h.recorded.of_payload hrow (Except.ok.inj hequal ▸ hpayload)
  obtain ⟨replayed, -, hstore⟩ := inv.store_matching hbatch hflight hattempts hmatches
    (translated_checks htranslated) hrecords
  refine ⟨⟨translated, replayed⟩, ?_⟩
  simp only [storeProtocolSynchronizationAcknowledgement, htranslated, hstore]
  rfl

/-- The exchange of a batch in flight settles the batch, if the backend has
nothing against its request. -/
theorem Standing.exchange_settles (h : Standing codec sha256 s) (hrereads : codec.Rereads)
    (hfloat : ∀ bits, Json.Printable (codec.formatFloat bits)) {t : UnixMilliseconds} (ht : 0 ≤ t)
    {batch : SynchronizationBatchRow} (hbatch : batch ∈ s.reader.synchronizationBatches)
    (hattempts : batch.attemptCount < 2 ^ 32) (htimely : s.reader.Timely batch t)
    {request : Request}
    (hload : loadSynchronizationBatchRequest codec s.reader batch.readerId batch.batchId =
      .ok request)
    (hbody : checkRequestBody codec request = .ok ())
    (hversion : request.protocolVersion = .current)
    (henvironment : request.environmentId = environmentId)
    (hoperational : s.backend.operational request.readerId = true)
    (hstorable : ∀ entry ∈ request.entries, ∀ value,
      codec.parse entry.transactionEnvelope.asStr = some value → value.storableAsJsonb = true) :
    let s' := Runs.run (System.step codec sha256 environmentId) s
      (exchange s batch.readerId batch.batchId t t (some t.toInt.toNat))
    s'.backend.readerEquipment = s.backend.readerEquipment ∧
      ∃ translated appliedAt stored, Settles translated appliedAt stored s'.reader ∧
        stored.offlineTransactions = s.reader.offlineTransactions ∧
        stored.synchronizationBatches = s.reader.synchronizationBatches ∧
        stored.synchronizationEntries = s.reader.synchronizationEntries ∧
        translated.readerId = batch.readerId ∧ translated.batchId = batch.batchId ∧
        ∀ entry ∈ translated.entries, entry.resolution = .acknowledged := by
  intro s'
  obtain ⟨reader, inv⟩ := h.invariant.reader.consistent
  obtain ⟨hrequested, hid, howner⟩ := requested_of_load hload
  -- the state in which the backend handles the request
  obtain ⟨submitting, hsubmitting⟩ : ∃ submitting, System.step codec sha256
      environmentId s (.submit batch.readerId batch.batchId t t) =
        { s with posted := s.posted ++ [request], submissions := submitting } := by
    simp only [System.step, State.submit, hload, hbody]
    exact ⟨_, rfl⟩
  have hposted := @Standing.step codec sha256 environmentId s h
    (.submit batch.readerId batch.batchId t t)
  rw [hsubmitting] at hposted
  obtain ⟨answer, committed, hserved, hequipment, hreturned, hvalid⟩ :=
    hposted.acknowledges hrereads hfloat (List.mem_append_right _ (List.mem_singleton_self request))
      hversion henvironment hoperational hstorable ht
  have hanswered := @Standing.step codec sha256 environmentId _ hposted
    (.serve s.posted.length (some t.toInt.toNat))
  simp only [System.step, List.getElem?_concat_length, hserved] at hanswered
  have htransport : servedTransport codec sha256 environmentId s.backend (some t.toInt.toNat)
      request = .ok answer := by
    simp only [servedTransport, hserved, receiveResponse,
      if_neg (Nat.not_lt.mpr (acknowledgement_body_le codec answer)), hvalid]
    rfl
  have hanswerId : answer.batchId = batch.batchId :=
    (Acknowledgement.validateAgainstRequest_ok.mp hvalid).2.2.2.1.trans hid
  have houtcome : SubmissionOutcome codec s.reader batch t t (.ok answer)
      (submitInFlightSynchronizationBatch codec s.reader (servedTransport codec sha256
        environmentId s.backend (some t.toInt.toNat)) batch.readerId batch.batchId t t) := by
    have hnames : ∀ other, servedTransport codec sha256 environmentId s.backend
        (some t.toInt.toNat) request = .ok other → other.batchId = batch.batchId := by
      intro other hother
      rw [htransport] at hother
      exact Except.ok.inj hother ▸ hanswerId
    have hlaw := inv.outcome_of_submission h.recorded h.closed h.invariant.reader.enlisted.held
      hbatch hload hattempts htimely (Int64.le_refl t) hnames
    rwa [htransport] at hlaw
  have hrun : s' = _ := exchange_run hload hbody
  have hreader := congrArg State.reader hrun
  have hbackend := congrArg State.backend hrun
  rw [hserved] at hbackend
  rw [hbackend]
  refine ⟨hequipment, ?_⟩
  rw [hreader]
  generalize submitInFlightSynchronizationBatch codec s.reader (servedTransport codec sha256
    environmentId s.backend (some t.toInt.toNat)) batch.readerId batch.batchId t t = submitted at *
  cases houtcome with
  | @refused _ source hrefuses =>
    obtain ⟨stored, hstored⟩ := hanswered.stores inv hbatch (inv.inFlight_of_load hbatch hload)
      hattempts hrequested hid hreturned hvalid
    rw [hrefuses] at hstored
    cases hstored
  | @applied _ translated replayed application final translates known counts settles =>
    obtain ⟨translated', htranslates, hnames, hresolutions⟩ :=
      hreturned.translates hanswered.invariant.backend
    obtain rfl := Except.ok.inj (translates.symm.trans htranslates)
    refine ⟨translated, _, _, settles, ?_, ?_, ?_, ?_, hnames.trans hanswerId, hresolutions⟩
    · cases replayed <;> rfl
    · cases replayed <;> rfl
    · cases replayed <;> rfl
    · exact (translate_eq_ok.mp translates).1.trans
        ((Acknowledgement.validateAgainstRequest_ok.mp hvalid).2.2.1.trans howner)

/-- Nothing stands between the reader and the backend at `t`: what stands in
every reachable state, a deliverable reader that the backend knows as
operational, and no batch whose submission is under way. -/
structure Drainable (codec : Json.Codec) (sha256 : Sha256) (environmentId : EnvironmentId)
    (t : UnixMilliseconds) (s : State) : Prop where
  standing : Standing codec sha256 s
  deliverable : s.reader.Deliverable codec environmentId t
  operational : ∀ reader, s.reader.readerState = some reader →
    s.backend.operational reader.readerId = true
  landed : ∀ batch ∈ s.reader.synchronizationBatches, batch.batchState ≠ .inFlight

/-- The parts of a drainable state after events that advance the queue. -/
theorem Drainable.run {t : UnixMilliseconds} (h : Drainable codec sha256 environmentId t s)
    (events : List Event) :
    let s' := Runs.run (step codec sha256 environmentId) s events
    s.reader.Advances t s'.reader → s'.backend.readerEquipment = s.backend.readerEquipment →
      (∀ batch ∈ s'.reader.synchronizationBatches, batch.batchState ≠ .inFlight) →
      (∀ batch ∈ s'.reader.synchronizationBatches, batch.batchState.isOpen = true →
        s'.reader.DeliverableBatch codec t batch) →
      Drainable codec sha256 environmentId t s' := by
  intro s' hadvances hequipment hlanded hbatches
  obtain ⟨reader, inv⟩ := h.standing.invariant.reader.consistent
  have hgrows : Grows s.reader s'.reader := grows_events s events
  refine ⟨h.standing.run events, h.deliverable.step inv hgrows hadvances hbatches,
    fun reader' hreader' => ?_, hlanded⟩
  obtain ⟨kept, hkept, hframe⟩ := hgrows.reader reader inv.queue.bound
  obtain rfl : kept = reader' := Option.some.inj (hkept.symm.trans hreader')
  have hid : kept.readerId = reader.readerId := congrArg (·.readerId) hframe.frozen
  rw [IngestDatabase.operational, hequipment, hid]
  exact h.operational reader inv.queue.bound

/-- The delivery of an open batch: it is submitted and exchanged. -/
def delivery (s : State) (readerId : ReaderId) (batchId : SynchronizationBatchId)
    (t : UnixMilliseconds) : List Event :=
  .call (.markBatch readerId batchId t) :: exchange s readerId batchId t t (some t.toInt.toNat)

/-- An open batch is delivered, and nothing else changes. -/
theorem Drainable.deliver {t : UnixMilliseconds} (h : Drainable codec sha256 environmentId t s)
    (hrereads : codec.Rereads) (hfloat : ∀ bits, Json.Printable (codec.formatFloat bits))
    {batch : SynchronizationBatchRow} (hbatch : batch ∈ s.reader.synchronizationBatches)
    (hopen : batch.batchState.isOpen = true) :
    let s' := Runs.run (step codec sha256 environmentId) s
      (delivery s batch.readerId batch.batchId t)
    Drainable codec sha256 environmentId t s' ∧ s.reader.Advances t s'.reader ∧
      s'.reader.synchronizationBatches.map (·.batchId) =
        s.reader.synchronizationBatches.map (·.batchId) ∧
      ∀ other ∈ s'.reader.synchronizationBatches, other.batchState.isOpen = true →
        other ∈ s.reader.synchronizationBatches ∧ other.batchId ≠ batch.batchId := by
  intro s'
  obtain ⟨reader, inv⟩ := h.standing.invariant.reader.consistent
  have hheld := h.standing.invariant.reader.enlisted.held
  have howner := inv.batches.owned batch hbatch
  have hdeliverable := h.deliverable.batches batch hbatch hopen
  have hready : batch.readyAt t = true := hdeliverable.due.resolve_left (h.landed batch hbatch)
  obtain ⟨hmark, hcommitted, hbatches, hadvances, htimely, request, hload, hbody, hversion,
    henvironment, hstorable⟩ := inv.submit_deliverable hheld h.deliverable hbatch hready
  rw [← howner] at hmark hcommitted hbatches hadvances htimely hload
  generalize hdb : s.reader.afterSubmission batch.readerId batch.batchId t = db at *
  have hmarked : Standing codec sha256 { s with reader := db } := by
    have hstep : Standing codec sha256 (System.step codec sha256 environmentId s
        (.call (.markBatch batch.readerId batch.batchId t))) := h.standing.step _
    rw [← hmark]
    exact hstep
  obtain ⟨reader', inv'⟩ : ∃ reader', Consistent reader' db := hmarked.invariant.reader.consistent
  have hrequestOwner : request.readerId = reader.readerId :=
    (requested_of_load hload).2.2.trans howner
  have hbatch' : batch.submit t ∈ db.synchronizationBatches := by
    rw [hbatches]
    exact List.mem_map.mpr ⟨batch, hbatch, if_pos rfl⟩
  have hattempts : (batch.submit t).attemptCount < 2 ^ 32 := by
    have hbound := hdeliverable.attempts
    show batch.attemptCount + 1 < 2 ^ 32
    omega
  have hstart : step codec sha256 environmentId s (.call (.markBatch batch.readerId batch.batchId
      t)) = { s with reader := db } := by
    rw [← hmark]
    rfl
  have hs' : s' = Runs.run (step codec sha256 environmentId) { s with reader := db }
      (exchange { s with reader := db } (batch.submit t).readerId (batch.submit t).batchId t t
        (some t.toInt.toNat)) := by
    rw [← hstart]
    rfl
  have hexchange := @Standing.exchange_settles codec sha256 environmentId _ hmarked hrereads hfloat
    t h.deliverable.nonneg (batch.submit t) hbatch' hattempts htimely request hload hbody hversion
    henvironment (hrequestOwner ▸ h.operational reader inv.queue.bound) hstorable
  obtain ⟨hequipment, translated, appliedAt, stored, hsettles, hqueue, hstoredBatches, hentries,
    hsettledOwner, hsettledId, hresolutions⟩ := hexchange
  rw [← hs'] at hequipment hsettles
  have hfinal : ∀ other ∈ s'.reader.synchronizationBatches,
      (other ∈ s.reader.synchronizationBatches ∧ other.batchId ≠ batch.batchId) ∨
        other.batchState = .acknowledged := by
    intro other hother
    rw [hsettles.batches, hstoredBatches, hbatches, hsettledId] at hother
    obtain ⟨middle, hmiddle, rfl⟩ := List.mem_map.mp hother
    obtain ⟨row, hrow, rfl⟩ := List.mem_map.mp hmiddle
    by_cases hid : row.batchId = batch.batchId
    · simp only [if_pos hid]
      rw [if_pos (show (row.submit t).batchId = (batch.submit t).batchId from hid)]
      exact .inr rfl
    · simp only [if_neg hid]
      rw [if_neg (show ¬row.batchId = (batch.submit t).batchId from hid)]
      exact .inl ⟨hrow, hid⟩
  have hids : s'.reader.synchronizationBatches.map (·.batchId) =
      s.reader.synchronizationBatches.map (·.batchId) := by
    rw [hsettles.batches, hstoredBatches, hbatches, List.map_map, List.map_map]
    refine List.map_congr_left fun row _ => ?_
    simp only [Function.comp_apply]
    split <;> split <;> rfl
  have hsettled : db.Advances t s'.reader := by
    have hall : db.AllInFlight reader'.readerId (batch.submit t).batchId :=
      inv'.allInFlight hmarked.invariant.reader.enlisted.held hbatch' rfl
    have howner' : translated.readerId = reader'.readerId :=
      hsettledOwner.trans (inv'.batches.owned _ hbatch')
    have hadvanced : stored.Advances t s'.reader := by
      refine hsettles.advances hresolutions fun row hrow hmember => ?_
      refine hall row (hqueue ▸ hrow) ?_
      rw [howner', hsettledId] at hmember
      simpa only [ReaderDatabase.inBatch, ReaderDatabase.batchEntries, hentries] using hmember
    unfold ReaderDatabase.Advances at hadvanced ⊢
    rwa [hqueue] at hadvanced
  have hrun : s.reader.Advances t s'.reader := hadvances.trans hsettled
  refine ⟨h.run _ hrun hequipment (fun other hother => ?_) (fun other hother hopen' => ?_), hrun,
    hids, fun other hother hopen' => ?_⟩
  · rcases hfinal other hother with ⟨hold, -⟩ | hstate
    · exact h.landed other hold
    · rw [hstate]
      decide
  · rcases hfinal other hother with ⟨hold, -⟩ | hstate
    · obtain ⟨reader'', inv''⟩ := (h.standing.run (delivery s batch.readerId batch.batchId
        t)).invariant.reader.consistent
      exact (h.deliverable.batches other hold hopen').grows (grows_events s _) inv inv'' hold
    · rw [hstate] at hopen'
      cases hopen'
  · rcases hfinal other hother with hold | hstate
    · exact hold
    · rw [hstate] at hopen'
      cases hopen'

/-- All open batches are delivered, one after the other. -/
theorem Drainable.flush {t : UnixMilliseconds} (h : Drainable codec sha256 environmentId t s)
    (hrereads : codec.Rereads) (hfloat : ∀ bits, Json.Printable (codec.formatFloat bits))
    (ids : List SynchronizationBatchId)
    (hids : ∀ batch ∈ s.reader.synchronizationBatches, batch.batchState.isOpen = true →
      batch.batchId ∈ ids) :
    ∃ events, let s' := Runs.run (step codec sha256 environmentId) s events
      Drainable codec sha256 environmentId t s' ∧ s.reader.Advances t s'.reader ∧
        s'.reader.synchronizationBatches.map (·.batchId) =
          s.reader.synchronizationBatches.map (·.batchId) ∧
        ∀ batch ∈ s'.reader.synchronizationBatches, batch.batchState.isOpen = false := by
  induction ids generalizing s with
  | nil =>
    refine ⟨[], h, .of_same rfl, rfl, fun batch hbatch => ?_⟩
    rw [← Bool.not_eq_true]
    exact fun hopen => absurd (hids batch hbatch hopen) List.not_mem_nil
  | cons id ids ih =>
    by_cases hopened : ∃ batch ∈ s.reader.synchronizationBatches,
        batch.batchState.isOpen = true ∧ batch.batchId = id
    · obtain ⟨batch, hbatch, hopen, rfl⟩ := hopened
      obtain ⟨hnext, hadvances, hsame, hleft⟩ := h.deliver hrereads hfloat hbatch hopen
      obtain ⟨events, hlast, hadvances', hsame', hclosed⟩ := ih hnext
        fun other hother hopen' => by
          obtain ⟨hold, hne⟩ := hleft other hother hopen'
          exact (List.mem_cons.mp (hids other hold hopen')).resolve_left hne
      refine ⟨delivery s batch.readerId batch.batchId t ++ events, ?_⟩
      rw [Runs.run_append]
      exact ⟨hlast, hadvances.trans hadvances', hsame'.trans hsame, hclosed⟩
    · refine ih h fun batch hbatch hopen => ?_
      exact (List.mem_cons.mp (hids batch hbatch hopen)).resolve_left fun hid =>
        hopened ⟨batch, hbatch, hopen, hid⟩

/-- A transaction that waits is taken into a batch of its own. -/
theorem Drainable.create {t : UnixMilliseconds} (h : Drainable codec sha256 environmentId t s)
    (hfloat : ∀ bits, Json.Printable (codec.formatFloat bits)) {row : OfflineTransactionRow}
    (hrow : row ∈ s.reader.offlineTransactions) (hwaiting : row.queueState.isWaiting = true)
    {generated : SynchronizationBatchId}
    (hfresh : generated ∉ s.reader.synchronizationBatches.map (·.batchId)) :
    ∃ events, let s' := Runs.run (step codec sha256 environmentId) s events
      Drainable codec sha256 environmentId t s' ∧ s.reader.Advances t s'.reader ∧
        s'.reader.synchronizationBatches.map (·.batchId) =
          s.reader.synchronizationBatches.map (·.batchId) ++ [generated] ∧
        ∃ taken ∈ s.reader.offlineTransactions, taken.queueState.isWaiting = true ∧
          ∀ row' ∈ s'.reader.offlineTransactions, row'.queueState.isWaiting = true →
            row'.fareTransactionId ≠ taken.fareTransactionId := by
  obtain ⟨reader, inv⟩ := h.standing.invariant.reader.consistent
  obtain ⟨hadvances, hdeliverable, ⟨added, hid, hprepared, hbatches⟩, htaken⟩ :=
    inv.create_deliverable h.standing.invariant.reader.enlisted.held h.deliverable hfloat hrow
      hwaiting fun batch hbatch hsame => hfresh (List.mem_map.mpr ⟨batch, hbatch, hsame⟩)
  refine ⟨[.call (.createBatch reader.readerId .current t 1 generated)],
    h.run _ hadvances rfl (fun batch hbatch => ?_) hdeliverable.batches, hadvances, ?_, htaken⟩
  · have hmem : batch ∈ s.reader.synchronizationBatches ++ [added] := hbatches ▸ hbatch
    rcases List.mem_append.mp hmem with hold | hnew
    · exact h.landed batch hold
    · rw [List.mem_singleton.mp hnew, hprepared]
      decide
  · show List.map (·.batchId) (Reader.perform codec s.reader
      (.createBatch reader.readerId .current t 1 generated)).synchronizationBatches = _
    rw [hbatches, List.map_append, List.map_singleton, hid]

/-- Nothing is open or waits in the end, if there are identifiers enough. -/
theorem Drainable.drain {t : UnixMilliseconds} (h : Drainable codec sha256 environmentId t s)
    (hrereads : codec.Rereads) (hfloat : ∀ bits, Json.Printable (codec.formatFloat bits))
    (hclosed : ∀ batch ∈ s.reader.synchronizationBatches, batch.batchState.isOpen = false)
    {fresh : List SynchronizationBatchId} (hnodup : fresh.Nodup)
    (hfresh : ∀ id ∈ fresh, id ∉ s.reader.synchronizationBatches.map (·.batchId))
    {waiting : List FareTransactionId} (hlength : waiting.length ≤ fresh.length)
    (hwaiting : ∀ row ∈ s.reader.offlineTransactions, row.queueState.isWaiting = true →
      row.fareTransactionId ∈ waiting) :
    ∃ events, let s' := Runs.run (step codec sha256 environmentId) s events
      Drainable codec sha256 environmentId t s' ∧ s.reader.Advances t s'.reader ∧
        (∀ batch ∈ s'.reader.synchronizationBatches, batch.batchState.isOpen = false) ∧
        ∀ row ∈ s'.reader.offlineTransactions, row.queueState.isWaiting = false := by
  -- one identifier is used for each transaction that waits
  induction fresh generalizing s waiting with
  | nil =>
    refine ⟨[], h, .of_same rfl, hclosed, fun row hrow => ?_⟩
    rw [List.length_nil, Nat.le_zero, List.length_eq_zero_iff] at hlength
    rw [hlength] at hwaiting
    rw [← Bool.not_eq_true]
    exact fun hrowWaiting => absurd (hwaiting row hrow hrowWaiting) List.not_mem_nil
  | cons generated fresh ih =>
    by_cases hsome : ∃ row ∈ s.reader.offlineTransactions, row.queueState.isWaiting = true
    · obtain ⟨row, hrow, hrowWaiting⟩ := hsome
      obtain ⟨created, hcreated, hadvances, hids, taken, htaken, htakenWaiting, hrest⟩ :=
        h.create hfloat hrow hrowWaiting (hfresh generated (List.mem_cons_self ..))
      obtain ⟨flushed, hflushed, hadvances', hids', hclosed'⟩ :=
        hcreated.flush hrereads hfloat _ fun batch hbatch _ => List.mem_map_of_mem hbatch
      rw [← Runs.run_append] at hflushed hadvances' hids' hclosed'
      obtain ⟨hunused, hnodup⟩ := List.nodup_cons.mp hnodup
      have hadvanced := hadvances.trans hadvances'
      have hfresh' : ∀ id ∈ fresh, id ∉ (Runs.run (step codec sha256 environmentId) s
          (created ++ flushed)).reader.synchronizationBatches.map (·.batchId) := by
        intro id hid hmem
        rw [hids', hids, List.mem_append, List.mem_singleton] at hmem
        rcases hmem with hold | rfl
        · exact hfresh id (List.mem_cons_of_mem _ hid) hold
        · exact hunused hid
      have hlength' : (waiting.erase taken.fareTransactionId).length ≤ fresh.length := by
        rw [List.length_erase_of_mem (hwaiting taken htaken htakenWaiting)]
        exact Nat.sub_le_of_le_add hlength
      obtain ⟨events, hlast, hlastAdvances, hlastClosed, hnone⟩ := ih hflushed hclosed' hnodup
        hfresh' hlength' fun row' hrow' hstill => by
          have hmiddle := hadvances'.waiting hrow' hstill
          rw [List.mem_erase_of_ne (hrest row' hmiddle hstill)]
          exact hwaiting row' (hadvances.waiting hmiddle hstill) hstill
      refine ⟨(created ++ flushed) ++ events, ?_⟩
      rw [Runs.run_append]
      exact ⟨hlast, hadvanced.trans hlastAdvances, hlastClosed, hnone⟩
    · refine ⟨[], h, .of_same rfl, hclosed, fun row hrow => ?_⟩
      rw [← Bool.not_eq_true]
      exact fun hrowWaiting => hsome ⟨row, hrow, hrowWaiting⟩

/-- A crash and a restart make a deliverable reader drainable. -/
theorem Standing.restart (h : Standing codec sha256 s) {t : UnixMilliseconds}
    (hdeliverable : s.reader.Deliverable codec environmentId t)
    (hoperational : ∀ reader, s.reader.readerState = some reader →
      s.backend.operational reader.readerId = true) :
    ∃ events, let s' := Runs.run (System.step codec sha256 environmentId) s events
      Drainable codec sha256 environmentId t s' ∧ s.reader.Advances t s'.reader ∧
        s'.reader.synchronizationBatches.map (·.batchId) =
          s.reader.synchronizationBatches.map (·.batchId) := by
  obtain ⟨reader, inv⟩ := h.invariant.reader.consistent
  obtain ⟨hqueue, hrecovered, hlanded, hids⟩ := inv.recover_deliverable hdeliverable
  refine ⟨[.crash, .call (.recoverBatches reader.readerId t)],
    ⟨h.run _, hrecovered, fun reader' hreader' => ?_, hlanded⟩, .of_same hqueue, hids⟩
  have hgrows := @grows_events codec sha256 environmentId s
    [.crash, .call (.recoverBatches reader.readerId t)]
  obtain ⟨kept, hkept, hframe⟩ := hgrows.reader reader inv.queue.bound
  obtain rfl : kept = reader' := Option.some.inj (hkept.symm.trans hreader')
  have hid : kept.readerId = reader.readerId := congrArg (·.readerId) hframe.frozen
  rw [hid]
  exact hoperational reader inv.queue.bound

theorem OfflineQueueState.isFinal_of_not {state : OfflineQueueState}
    (hwaiting : state.isWaiting = false) (hflight : state ≠ .inFlight) : state.isFinal = true := by
  cases state <;> simp_all [OfflineQueueState.isWaiting, OfflineQueueState.isFinal]

theorem Standing.drains (h : Standing codec sha256 s) (hrereads : codec.Rereads)
    (hfloat : ∀ bits, Json.Printable (codec.formatFloat bits)) {t : UnixMilliseconds}
    (hdeliverable : s.reader.Deliverable codec environmentId t)
    (hoperational : ∀ reader, s.reader.readerState = some reader →
      s.backend.operational reader.readerId = true)
    {fresh : List SynchronizationBatchId} (hnodup : fresh.Nodup)
    (hfresh : ∀ id ∈ fresh, id ∉ s.reader.synchronizationBatches.map (·.batchId))
    (hlength : (s.reader.offlineTransactions.filter (·.queueState.isWaiting)).length ≤
      fresh.length) :
    ∃ more, let s' := Runs.run (System.step codec sha256 environmentId) s more
      (∀ batch ∈ s'.reader.synchronizationBatches, batch.batchState.isOpen = false) ∧
      List.Forall₂ (fun row row' =>
          if row.queueState.isFinal then row' = row
          else row'.frozen = row.frozen ∧ row'.queueState = .acknowledged ∧
            HeldBy codec sha256 s'.backend row')
        s.reader.offlineTransactions s'.reader.offlineTransactions := by
  obtain ⟨restarted, hrestarted, hadvances, hids⟩ :=
    @Standing.restart codec sha256 environmentId s h t hdeliverable hoperational
  obtain ⟨flushed, hflushed, hadvances', hids', hclosed⟩ :=
    hrestarted.flush hrereads hfloat _ fun batch hbatch _ => List.mem_map_of_mem hbatch
  rw [← Runs.run_append] at hflushed hadvances' hids' hclosed
  have hadvanced := hadvances.trans hadvances'
  have hwaiting : ∀ row ∈ (Runs.run (System.step codec sha256 environmentId) s
      (restarted ++ flushed)).reader.offlineTransactions, row.queueState.isWaiting = true →
        row.fareTransactionId ∈ (s.reader.offlineTransactions.filter
          (·.queueState.isWaiting)).map (·.fareTransactionId) := fun row hrow hstill =>
    List.mem_map_of_mem (List.mem_filter.mpr ⟨hadvanced.waiting hrow hstill, hstill⟩)
  obtain ⟨drained, hdrained, hlast, hnoneOpen, hnoneWaits⟩ := hflushed.drain hrereads hfloat hclosed
    hnodup (fun id hid hmem => hfresh id hid (hids ▸ hids' ▸ hmem)) (by rwa [List.length_map])
    hwaiting
  rw [← Runs.run_append] at hdrained hlast hnoneOpen hnoneWaits
  refine ⟨_, hnoneOpen, ?_⟩
  have hthrough := hadvanced.trans hlast
  generalize Runs.run (System.step codec sha256 environmentId) s
    (restarted ++ flushed ++ drained) = s' at *
  obtain ⟨reader, inv⟩ := hdrained.standing.invariant.reader.consistent
  have hgrounded := hdrained.standing.invariant.reader.enlisted.grounded
  unfold ReaderDatabase.Advances at hthrough
  rw [List.forall₂_iff_zip] at hthrough ⊢
  refine ⟨hthrough.1, fun {row row'} hzip => ?_⟩
  have hrow' := (List.of_mem_zip hzip).2
  have hfinal : row'.queueState.isFinal = true := by
    refine OfflineQueueState.isFinal_of_not (hnoneWaits row' hrow') fun hflight => ?_
    obtain ⟨entry, hentry, -, batch, hbatch, -, hopen⟩ :=
      (inv.inOpenBatch_iff hrow').mp (hgrounded row' hrow' hflight)
    rw [hnoneOpen batch hbatch] at hopen
    cases hopen
  rcases hthrough.2 hzip with rfl | ⟨hopen, hfrozen, hstate | ⟨hstate, -⟩⟩
  · rw [if_pos hfinal]
  · rw [if_neg (by rw [hopen]; exact Bool.false_ne_true)]
    exact ⟨hfrozen, hstate,
      hdrained.standing.invariant.acknowledged_heldBy hrow' hstate⟩
  · rw [hstate] at hfinal
    cases hfinal

/-- From every reachable state whose reader is deliverable and operational,
however the network and the crashes led there, some continuation settles the
whole queue: no batch is open, every transaction that was not at its end is
acknowledged and held by the backend, and every other one is as it was. -/
theorem queue_drains {db₀ : ReaderDatabase} (h : FreshlyBound db₀)
    (readerEquipment : List ReaderEquipmentRow) (events : List Event) (hrereads : codec.Rereads)
    (hfloat : ∀ bits, Json.Printable (codec.formatFloat bits)) {t : UnixMilliseconds}
    {fresh : List SynchronizationBatchId} :
    let s := Runs.run (step codec sha256 environmentId) (.initial db₀ readerEquipment) events
    s.reader.Deliverable codec environmentId t →
      (∀ reader, s.reader.readerState = some reader →
        s.backend.operational reader.readerId = true) →
      fresh.Nodup → (∀ id ∈ fresh, id ∉ s.reader.synchronizationBatches.map (·.batchId)) →
      (s.reader.offlineTransactions.filter (·.queueState.isWaiting)).length ≤ fresh.length →
      ∃ more, let s' := Runs.run (step codec sha256 environmentId) s more
        (∀ batch ∈ s'.reader.synchronizationBatches, batch.batchState.isOpen = false) ∧
        List.Forall₂ (fun row row' =>
            if row.queueState.isFinal then row' = row
            else row'.frozen = row.frozen ∧ row'.queueState = .acknowledged ∧
              HeldBy codec sha256 s'.backend row')
          s.reader.offlineTransactions s'.reader.offlineTransactions := by
  exact fun hdeliverable hoperational hnodup hfresh hlength =>
    @Standing.drains codec sha256 environmentId _ ((standing_initial h readerEquipment).run events)
      hrereads hfloat t hdeliverable hoperational fresh hnodup hfresh hlength

/-- The backend commits a batch, its answer is lost in a crash, and a second
transaction waits meanwhile. -/
def sampleInterruption : List Event :=
  [.call (.enqueue sampleReaderId (sampleDraft (.object []))),
    .call (.createBatch sampleReaderId .current 1 10 sampleBatchId),
    .call (.markBatch sampleReaderId sampleBatchId 2),
    .submit sampleReaderId sampleBatchId 3 4,
    .serve 0 (some 3),
    .call (.enqueue sampleReaderId sampleSecondDraft),
    .crash]

def sampleLaterBatchId : SynchronizationBatchId := ⟨⟨0x70008000000000000061#128, by decide⟩⟩

/-- What the interrupted exchange leaves at the reader. -/
theorem sampleInterruption_reader :
    let db := (Runs.run (step sampleCodec Sha256.digest sampleEnvironmentId)
      (.initial sampleDatabase sampleEquipment) sampleInterruption).reader
    db.readerState.map (fun reader => (reader.readerId, reader.environmentId,
        reader.softwareVersion, reader.protocolVersion)) =
      some (sampleReaderId, sampleEnvironmentId.asStr, sampleSoftwareVersion.asStr, 1) ∧
    db.offlineTransactions.map (fun row => (row.queueState, row.updatedAt,
        row.transactionEnvelopeJson)) =
      [(.inFlight, 2, "\x7b\x7d"), (.pending, 0, "\x7b\x7d")] ∧
    db.synchronizationBatches.map (fun batch => (batch.batchId, batch.batchState, batch.updatedAt,
        batch.attemptCount, batch.protocolVersion)) = [(sampleBatchId, .inFlight, 2, 1, 1)] ∧
    db.synchronizationEntries.length = 1 := by
  decide +kernel

theorem sampleInterruption_deliverable :
    (Runs.run (step sampleCodec Sha256.digest sampleEnvironmentId)
      (.initial sampleDatabase sampleEquipment) sampleInterruption).reader.Deliverable sampleCodec
        sampleEnvironmentId 5 := by
  obtain ⟨reader, inv⟩ := (@invariant_run sampleCodec Sha256.digest sampleEnvironmentId _
    sampleDatabase_freshlyBound sampleEquipment sampleInterruption).reader.consistent
  have hleft := sampleInterruption_reader
  dsimp only at hleft
  generalize (Runs.run (step sampleCodec Sha256.digest sampleEnvironmentId)
    (.initial sampleDatabase sampleEquipment) sampleInterruption).reader = db at *
  obtain ⟨hidentity, hrows, hbatches, hentries⟩ := hleft
  refine ⟨by decide, fun row hrow => ?_, fun row hrow _ => ?_, fun batch hbatch _ => ?_⟩
  · rw [hrow] at hidentity
    simp only [Option.map_some, Option.some.injEq, Prod.mk.injEq] at hidentity
    obtain ⟨-, henvironment, hsoftware, hversion⟩ := hidentity
    rw [henvironment, hsoftware, hversion]
    exact ⟨by decide, by decide, rfl⟩
  · have hmem := List.mem_map_of_mem
      (f := fun row => (row.queueState, row.updatedAt, row.transactionEnvelopeJson)) hrow
    rw [hrows] at hmem
    have henvelope : row.transactionEnvelopeJson = "\x7b\x7d" ∧ row.updatedAt ≤ 5 ∧
        (row.queueState.isWaiting = true → row.eligibleAt 5 = true) := by
      unfold OfflineTransactionRow.eligibleAt
      simp only [List.mem_cons, Prod.mk.injEq, List.not_mem_nil, or_false] at hmem
      rcases hmem with ⟨hstate, hupdated, henvelope⟩ | ⟨hstate, hupdated, henvelope⟩
      · rw [hstate, hupdated]
        exact ⟨henvelope, by decide, fun hwaiting => Bool.noConfusion hwaiting⟩
      · rw [hstate, hupdated]
        exact ⟨henvelope, by decide, fun _ => rfl⟩
    obtain ⟨henvelope, hupdated, hdue⟩ := henvelope
    refine ⟨hupdated, hdue, sampleEnvelope, henvelope ▸ sampleEnvelope_fromJson, fun v hv => ?_⟩
    have hobject : v = .object [] := Option.some.inj (hv.symm.trans sampleCodec_parse)
    rw [hobject]
    rfl
  · have hmem := List.mem_map_of_mem (f := fun batch => (batch.batchId, batch.batchState,
      batch.updatedAt, batch.attemptCount, batch.protocolVersion)) hbatch
    rw [hbatches] at hmem
    simp only [List.mem_singleton, Prod.mk.injEq] at hmem
    obtain ⟨-, hflight, hupdated, hattempts, hversion⟩ := hmem
    have hcount : (db.entriesOf batch.batchId).length ≤ 1 :=
      hentries ▸ List.length_filter_le _ _
    refine ⟨?_, .inl hflight, ?_, hversion, hcount.trans (by decide),
      inv.postable_of_few sampleCodec_printable hbatch (hcount.trans (by decide))⟩
    · rw [hupdated]
      decide
    · rw [hattempts]
      decide

theorem queue_drains_interruption :
    let s := Runs.run (step sampleCodec Sha256.digest sampleEnvironmentId)
      (.initial sampleDatabase sampleEquipment) sampleInterruption
    s.reader.offlineTransactions.map (·.queueState) = [.inFlight, .pending] ∧
    ∃ more, let s' := Runs.run (step sampleCodec Sha256.digest sampleEnvironmentId) s more
      (∀ batch ∈ s'.reader.synchronizationBatches, batch.batchState.isOpen = false) ∧
      List.Forall₂ (fun row row' =>
          if row.queueState.isFinal then row' = row
          else row'.frozen = row.frozen ∧ row'.queueState = .acknowledged ∧
            HeldBy sampleCodec Sha256.digest s'.backend row')
        s.reader.offlineTransactions s'.reader.offlineTransactions := by
  have hdrains := @queue_drains sampleCodec Sha256.digest sampleEnvironmentId _
    sampleDatabase_freshlyBound sampleEquipment sampleInterruption
    sampleCodec_reprints.rereads sampleCodec_printable 5 [sampleLaterBatchId]
    sampleInterruption_deliverable
  obtain ⟨hidentity, hrows, hbatches, -⟩ := sampleInterruption_reader
  have hoperational : (Runs.run (step sampleCodec Sha256.digest sampleEnvironmentId)
      (.initial sampleDatabase sampleEquipment) sampleInterruption).backend.operational
        sampleReaderId = true := by
    decide +kernel
  intro s
  have hstates : s.reader.offlineTransactions.map (·.queueState) = [.inFlight, .pending] := by
    have hfirst := congrArg (List.map Prod.fst) hrows
    rwa [List.map_map] at hfirst
  have hids : s.reader.synchronizationBatches.map (·.batchId) = [sampleBatchId] := by
    have hfirst := congrArg (List.map Prod.fst) hbatches
    rwa [List.map_map] at hfirst
  have hunused : sampleLaterBatchId ∉ s.reader.synchronizationBatches.map (·.batchId) := by
    rw [hids]
    decide
  have hwaiting : (s.reader.offlineTransactions.filter (·.queueState.isWaiting)).length = 1 := by
    have hone := congrArg (List.countP (·.isWaiting)) hstates
    rwa [List.countP_map, List.countP_eq_length_filter] at hone
  refine ⟨hstates, hdrains (fun reader hbound => ?_) (List.nodup_singleton _) (fun id hid => ?_) ?_⟩
  · rw [hbound, Option.map_some, Option.some.injEq, Prod.mk.injEq] at hidentity
    rw [hidentity.1]
    exact hoperational
  · obtain rfl := List.mem_singleton.mp hid
    exact hunused
  · exact hwaiting.le

end TransitGuard.System
