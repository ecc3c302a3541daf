import Mathlib.Logic.Function.Basic
import TransitGuard.System.Standing

/-!
Any number of readers and one backend. Each reader runs as if it was alone, and
all of them post to the same network and are served by the same backend, which
may meet the same batch or transaction identifier in the requests of different
readers. What the readers share is that no two of them have the same identifier.
-/

namespace TransitGuard.System

open Protocol Reader Backend

variable {codec : Json.Codec} {sha256 : Sha256} {environmentId : EnvironmentId} {s : State}

/-! ## One reader among others -/

/-- What concerns one reader, whatever else was posted. -/
structure Side (codec : Json.Codec) (s : State) : Prop where
  reader : ReaderInvariant codec s.backend s.reader
  recorded : Recorded codec s.reader
  answers : ∀ answer ∈ s.answers, Answered codec s.backend answer.1 answer.2
  submissions : ∀ submission ∈ s.submissions, submission.Sound codec s.backend s.reader

/-- A posted request is one the reader stands for, and was not too long. -/
def Vouched (codec : Json.Codec) (reader : ReaderDatabase) (request : Request) : Prop :=
  Requested codec reader request ∧ checkRequestBody codec request = .ok ()

theorem Side.perform (h : Side codec s) {op : Operation}
    (hop : Licensed codec s.backend s.reader op) :
    Side codec { s with reader := Reader.perform codec s.reader op } := by
  obtain ⟨reader, inv⟩ := h.reader.consistent
  obtain ⟨hreader, hkept⟩ := h.reader.perform hop
  refine ⟨hreader, perform_invariant h.recorded fun _ hc => h.recorded.step inv hc, h.answers,
    fun sub hsub => ?_⟩
  have hsound := h.submissions sub hsub
  exact ⟨hkept _ hsound.requested, hsound.batchId, hsound.phase⟩

theorem Side.withSubmissions (h : Side codec s) {submissions : List Submission}
    (hsound : ∀ submission ∈ submissions, submission.Sound codec s.backend s.reader) :
    Side codec { s with submissions } :=
  { h with submissions := hsound }

theorem Side.erase (h : Side codec s) (index : Nat) :
    Side codec { s with submissions := s.submissions.eraseIdx index } :=
  h.withSubmissions fun sub hsub => h.submissions sub (List.mem_of_mem_eraseIdx hsub)

/-- A submission goes on to a phase it can rely on. -/
theorem Side.setPhase (h : Side codec s) {index : Nat} {submission : Submission}
    (hmem : s.submissions[index]? = some submission) {phase : Phase}
    (hphase : phase.Sound codec s.backend submission.request) :
    Side codec
      { s with submissions := s.submissions.set index { submission with phase } } := by
  refine h.withSubmissions fun sub hsub => ?_
  rcases List.mem_or_eq_of_mem_set hsub with hsub | rfl
  · exact h.submissions sub hsub
  · have hsound := h.submissions submission (List.mem_of_getElem? hmem)
    exact ⟨hsound.requested, hsound.batchId, hphase⟩

/-- The backend goes on and answers. -/
theorem Side.withBackend (h : Side codec s) {backend : IngestDatabase}
    (hbatches : s.backend.batches ⊆ backend.batches) {added : List (Request × ApiResponse)}
    (hadded : ∀ answer ∈ added, Answered codec backend answer.1 answer.2) :
    Side codec { s with backend, answers := s.answers ++ added } := by
  refine ⟨h.reader.mono hbatches, h.recorded, fun answer hanswer => ?_, fun sub hsub => ?_⟩
  · rcases List.mem_append.mp hanswer with hanswer | hanswer
    · exact (h.answers answer hanswer).mono hbatches
    · exact hadded answer hanswer
  · have hsound := h.submissions sub hsub
    exact ⟨hsound.requested, hsound.batchId, hsound.phase.mono hbatches⟩

/-- An acknowledgement that was returned may be stored in its translation. -/
theorem Returned.licensed {backend : IngestDatabase} {reader : ReaderDatabase}
    {posted : List Request} {acknowledgement : Acknowledgement}
    (h : Returned backend acknowledgement)
    (hbackend : BackendInvariant codec sha256 posted backend) :
    ∃ translated, translateProtocolSynchronizationAcknowledgement acknowledgement = .ok translated ∧
      Licensed codec backend reader (.storeAcknowledgement translated) := by
  obtain ⟨translated, htranslated, -, hresolutions⟩ := h.translates hbackend
  refine ⟨translated, htranslated, hresolutions, fun other hother => ?_, ?_⟩
  · cases hother
    exact ⟨acknowledgement, h, htranslated⟩
  · intro readerId batchId category t hfail
    cases hfail

/-- Any stored acknowledgement may be applied. -/
theorem licensed_applyAcknowledgement {backend : IngestDatabase} {reader : ReaderDatabase}
    (readerId : ReaderId) (batchId : SynchronizationBatchId) (t : UnixMilliseconds) :
    Licensed codec backend reader (.applyAcknowledgement readerId batchId t) := by
  refine ⟨trivial, ?_, ?_⟩
  · intro translated hstore
    cases hstore
  · intro readerId batchId category t hfail
    cases hfail

/-- A request is not refused where the backend is unavailable. -/
theorem answered_unavailable {backend : IngestDatabase} (request : Request) :
    Answered codec backend request (.error .backendTemporarilyUnavailable) := by
  intro hpermanent
  cases hpermanent

theorem Side.proceed (h : Side codec s)
    (hbackend : BackendInvariant codec sha256 s.posted s.backend) {index : Nat}
    {submission : Submission} (hmem : s.submissions[index]? = some submission) :
    Side codec (s.proceed codec index submission) := by
  have hsound := h.submissions submission (List.mem_of_getElem? hmem)
  unfold State.proceed
  cases hphase : submission.phase with
  | awaiting => exact h
  | acknowledged acknowledgement =>
    have hreturned : Returned s.backend acknowledgement := by
      have hknown := hsound.phase
      rwa [hphase] at hknown
    obtain ⟨translated, htranslated, hlicensed⟩ :=
      @Returned.licensed codec sha256 _ s.reader _ _ hreturned hbackend
    have hnext := h.perform hlicensed
    have hstored : (storeProtocolSynchronizationAcknowledgement codec s.reader
        acknowledgement).database =
          Reader.perform codec s.reader (.storeAcknowledgement translated) := by
      rw [storeProtocolSynchronizationAcknowledgement, htranslated]
      rfl
    rw [← hstored] at hnext
    dsimp only
    cases (storeProtocolSynchronizationAcknowledgement codec s.reader acknowledgement).result with
    | ok _ => exact hnext.setPhase hmem hreturned
    | error _ => exact hnext.erase index
  | stored acknowledgement => exact (h.perform (licensed_applyAcknowledgement ..)).erase index
  | failed category => exact (h.perform (hsound.licensed hphase)).erase index

theorem Side.submit (h : Side codec s) (readerId : ReaderId) (batchId : SynchronizationBatchId)
    (completedAt retryAt : UnixMilliseconds) :
    Side codec (s.submit codec readerId batchId completedAt retryAt) := by
  unfold State.submit
  cases hload : loadSynchronizationBatchRequest codec s.reader readerId batchId with
  | error e => exact h
  | ok request =>
    obtain ⟨hrequested, hid, -⟩ := requested_of_load hload
    have hsubmissions : ∀ phase : Phase, phase.Sound codec s.backend request →
        ∀ sub ∈ s.submissions ++ [⟨readerId, batchId, completedAt, retryAt, request, phase⟩],
          sub.Sound codec s.backend s.reader := by
      intro phase hphase sub hsub
      rw [List.mem_append, List.mem_singleton] at hsub
      rcases hsub with hsub | rfl
      · exact h.submissions sub hsub
      · exact ⟨hrequested, hid, hphase⟩
    dsimp only
    cases hbody : checkRequestBody codec request with
    | error e =>
      refine h.withSubmissions (hsubmissions _ fun _ => .inr ?_)
      rw [hbody]
      intro hfits
      cases hfits
    | ok _ => exact ⟨h.reader, h.recorded, h.answers, hsubmissions _ trivial⟩

/-- Every event keeps the side of its reader. -/
theorem Side.step (h : Side codec s) (hbackend : BackendInvariant codec sha256 s.posted s.backend)
    (event : Event) : Side codec (System.step codec sha256 environmentId s event) := by
  cases event with
  | call localCall => exact h.perform localCall.licensed
  | submit readerId batchId completedAt retryAt => exact h.submit ..
  | serve index elapsed =>
    simp only [System.step]
    cases hrequest : s.posted[index]? with
    | none => exact h
    | some request =>
      obtain ⟨-, hbatches, hanswered⟩ := @BackendInvariant.serve codec sha256 environmentId _ _
        hbackend request (List.mem_of_getElem? hrequest) elapsed
      refine h.withBackend hbatches fun answer hanswer => ?_
      rw [List.mem_singleton] at hanswer
      subst hanswer
      exact hanswered
  | fault index elapsed commits =>
    simp only [System.step]
    cases hrequest : s.posted[index]? with
    | none => exact h
    | some request =>
      obtain ⟨-, hbatches, -⟩ := @BackendInvariant.serve codec sha256 environmentId _ _
        hbackend request (List.mem_of_getElem? hrequest) elapsed
      have hanswered : ∀ backend : IngestDatabase,
          ∀ answer ∈ [(request, Except.error FailureCategory.backendTemporarilyUnavailable)],
            Answered codec backend answer.1 answer.2 := by
        intro backend answer hanswer
        rw [List.mem_singleton] at hanswer
        subst hanswer
        exact answered_unavailable request
      cases commits with
      | true => exact h.withBackend hbatches (hanswered _)
      | false => exact h.withBackend (List.Subset.refl _) (hanswered _)
  | changeStatus readerId status =>
    have hbatches : s.backend.batches ⊆ (s.backend.changeStatus readerId status).batches :=
      List.Subset.refl _
    have hnext := h.withBackend hbatches fun _ hnone => absurd hnone (@List.not_mem_nil _ _)
    rw [List.append_nil] at hnext
    exact hnext
  | deliver index answer =>
    simp only [System.step]
    cases hsubmission : s.submissions[index]? with
    | none => exact h
    | some submission =>
      cases hanswer : s.answers[answer]? with
      | none => exact h
      | some pair =>
        dsimp only
        split
        · next hwaiting =>
          have hsound := (h.answers pair (List.mem_of_getElem? hanswer)).sound
          rw [← hwaiting.2] at hsound
          rw [← hwaiting.2]
          exact h.setPhase hsubmission hsound
        · exact h
  | lose index failure =>
    simp only [System.step]
    cases hsubmission : s.submissions[index]? with
    | none => exact h
    | some submission =>
      dsimp only
      split
      · exact h.setPhase hsubmission (NetworkFailure.sound failure _ _)
      · exact h
  | proceed index =>
    simp only [System.step]
    cases hsubmission : s.submissions[index]? with
    | none => exact h
    | some submission => exact h.proceed hbackend hsubmission
  | crash => exact h.withSubmissions fun sub hsub => absurd hsub List.not_mem_nil

/-- Nothing is posted but what the reader stands for. -/
theorem step_posts (s : State) (event : Event) :
    ∀ request ∈ (step codec sha256 environmentId s event).posted,
      request ∈ s.posted ∨ Vouched codec s.reader request := by
  intro posted hposted
  cases event with
  | submit readerId batchId completedAt retryAt =>
    simp only [step, State.submit] at hposted
    cases hload : loadSynchronizationBatchRequest codec s.reader readerId batchId with
    | error e => simp only [hload] at hposted; exact .inl hposted
    | ok request =>
      cases hbody : checkRequestBody codec request with
      | error e => simp only [hload, hbody] at hposted; exact .inl hposted
      | ok _ =>
        simp only [hload, hbody, List.mem_append, List.mem_singleton] at hposted
        rcases hposted with hposted | rfl
        · exact .inl hposted
        · exact .inr ⟨(requested_of_load hload).1, hbody⟩
  | call | changeStatus | crash => exact .inl hposted
  | serve index elapsed =>
    simp only [step] at hposted
    split at hposted <;> exact .inl hposted
  | fault index elapsed commits =>
    simp only [step] at hposted
    split at hposted <;> exact .inl hposted
  | deliver index answer =>
    simp only [step] at hposted
    split at hposted
    · split at hposted <;> exact .inl hposted
    · exact .inl hposted
  | lose index failure =>
    simp only [step] at hposted
    split at hposted
    · split at hposted <;> exact .inl hposted
    · exact .inl hposted
  | proceed index =>
    simp only [step] at hposted
    split at hposted
    · next submission _ =>
      unfold State.proceed at hposted
      cases hphase : submission.phase with
      | acknowledged acknowledgement =>
        simp only [hphase] at hposted
        split at hposted <;> exact .inl hposted
      | _ => simp only [hphase] at hposted; exact .inl hposted
    · exact .inl hposted

/-! ## The backend -/

/-- Each batch of the backend was posted under its reader, with all its
entries. -/
structure Sourced (codec : Json.Codec) (sha256 : Sha256) (posted : List Request)
    (backend : IngestDatabase) : Prop where
  batches : ∀ row ∈ backend.batches, ∃ request ∈ posted,
    Ingested codec sha256 backend row request ∧ row.readerId = request.readerId ∧
      ∀ entry ∈ backend.entries, entry.batchId = row.batchId →
        entry.fareTransactionId ∈ request.entries.map (·.transactionId)
  entries : ∀ entry ∈ backend.entries, ∃ row ∈ backend.batches, row.batchId = entry.batchId

theorem Sourced.mono {posted posted' : List Request} {backend : IngestDatabase}
    (h : Sourced codec sha256 posted backend) (hposted : posted ⊆ posted') :
    Sourced codec sha256 posted' backend :=
  { h with batches := fun row hrow => (h.batches row hrow).imp fun _ hr => ⟨hposted hr.1, hr.2⟩ }

/-- Batches and their transactions outlive an ingest. -/
theorem Ingested.mono {backend backend' : IngestDatabase} {row : IngestBatchRow}
    {request : Request} (h : Ingested codec sha256 backend row request)
    (hkept : ∀ row ∈ backend.transactions, ∃ row' ∈ backend'.transactions,
      row'.identity = row.identity) : Ingested codec sha256 backend' row request where
  batchId := h.batchId
  acceptable := h.acceptable
  built := h.built
  covered := by
    intro entry hentry
    obtain ⟨stored, hstored, hidentity⟩ := h.covered entry hentry
    obtain ⟨stored', hstored', hidentity'⟩ := hkept stored hstored
    exact ⟨stored', hstored', hidentity'.trans hidentity⟩

theorem Sourced.process {posted : List Request} {backend backend' : IngestDatabase}
    (h : Sourced codec sha256 posted backend) {request : Request} (hposted : request ∈ posted)
    {receivedAt : UnixMilliseconds} {acknowledgement : Acknowledgement}
    (hprocess : process codec sha256 environmentId backend request receivedAt =
      .ok (acknowledgement, backend')) : Sourced codec sha256 posted backend' := by
  obtain ⟨hacceptable, ⟨hbuilt, row, added, hingests⟩ | ⟨rfl, -⟩⟩ := process_ok hprocess
  · obtain ⟨stored, hstored, hanswered⟩ := answered_of_process hprocess
    have hfound : backend'.findBatch request.batchId = some row := by
      rw [← hingests.batchId]
      exact IngestDatabase.findBatch_appended row (hingests.batchId ▸ hingests.fresh)
        hingests.batches
    obtain rfl : row = stored := Option.some.inj (hfound.symm.trans hstored)
    refine ⟨fun other hother => ?_, fun entry hentry => ?_⟩
    · rw [hingests.batches, List.mem_append, List.mem_singleton] at hother
      rcases hother with hother | rfl
      · obtain ⟨origin, horigin, hingested, howner, hentries⟩ := h.batches other hother
        refine ⟨origin, horigin, hingested.mono hingests.kept, howner,
          fun entry hentry hid => ?_⟩
        rw [hingests.entries, List.mem_append] at hentry
        rcases hentry with hentry | hentry
        · exact hentries entry hentry hid
        · exact absurd (hid.symm.trans (hingests.member entry hentry).1)
            (hingests.fresh other hother)
      · refine ⟨request, hposted, ⟨hingests.batchId, hacceptable, ⟨receivedAt, ?_⟩,
          hingests.covered⟩, hanswered.reader, fun entry hentry hid => ?_⟩
        · rw [hingests.stored]
          exact hbuilt
        · rw [hingests.entries, List.mem_append] at hentry
          rcases hentry with hentry | hentry
          · -- the batch is new, so no entry was there before
            obtain ⟨known, hknown, hknownId⟩ := h.entries entry hentry
            exact absurd (hknownId.trans (hid.trans hingests.batchId))
              (hingests.fresh known hknown)
          · exact (hingests.member entry hentry).2
    · rw [hingests.batches]
      rw [hingests.entries, List.mem_append] at hentry
      rcases hentry with hentry | hentry
      · obtain ⟨known, hknown, hid⟩ := h.entries entry hentry
        exact ⟨known, List.mem_append_left _ hknown, hid⟩
      · exact ⟨row, List.mem_append_right _ (List.mem_singleton_self row),
          hingests.batchId.trans (hingests.member entry hentry).1.symm⟩
  · exact h

/-- What the backend keeps, whoever posted what it serves. -/
structure Hub (codec : Json.Codec) (sha256 : Sha256) (posted : List Request)
    (backend : IngestDatabase) : Prop where
  invariant : BackendInvariant codec sha256 posted backend
  sourced : Sourced codec sha256 posted backend
  represented : ∃ ledger, Represents ledger backend

/-- The readers' equipment is no part of what the backend has ingested. -/
theorem Hub.withEquipment {posted : List Request} {backend : IngestDatabase}
    (h : Hub codec sha256 posted backend) (readerEquipment : List ReaderEquipmentRow) :
    Hub codec sha256 posted { backend with readerEquipment } := by
  refine ⟨h.invariant.withEquipment _, ⟨fun row hrow => ?_, h.sourced.entries⟩,
    h.represented.imp fun _ hledger => hledger.withEquipment _⟩
  obtain ⟨origin, horigin, hingested, hrest⟩ := h.sourced.batches row hrow
  exact ⟨origin, horigin, hingested.mono fun stored hstored => ⟨stored, hstored, rfl⟩, hrest⟩

/-- The ingest of a posted request keeps the backend's part, and every committed
batch. -/
theorem Hub.process {posted : List Request} {backend backend' : IngestDatabase}
    (h : Hub codec sha256 posted backend) {request : Request} (hrequest : request ∈ posted)
    {receivedAt : UnixMilliseconds} {acknowledgement : Acknowledgement}
    (hprocess : process codec sha256 environmentId backend request receivedAt =
      .ok (acknowledgement, backend')) :
    Hub codec sha256 posted backend' ∧ backend.batches ⊆ backend'.batches := by
  obtain ⟨hacceptable, ⟨hbuilt, row, added, hingests⟩ | ⟨rfl, -⟩⟩ := process_ok hprocess
  · refine ⟨⟨h.invariant.ingest hrequest hacceptable hbuilt hingests,
      h.sourced.process hrequest hprocess, exists_represents_process hprocess h.represented⟩, ?_⟩
    rw [hingests.batches]
    exact List.subset_append_left ..
  · exact ⟨h, List.Subset.refl _⟩

/-- Every event keeps the backend's part, and every committed batch. -/
theorem Hub.step (h : Hub codec sha256 s.posted s.backend) (event : Event) :
    let s' := System.step codec sha256 environmentId s event
    Hub codec sha256 s'.posted s'.backend ∧ s.backend.batches ⊆ s'.backend.batches := by
  intro s'
  have hposted : s.posted ⊆ s'.posted := step_posted s event
  have hkept : Hub codec sha256 s.posted s'.backend ∧ s.backend.batches ⊆ s'.backend.batches := by
    rcases @step_backend codec sha256 environmentId s event with
      hsame | ⟨readerId, status, hstatus⟩ | ⟨request, hrequest, receivedAt, answer, hprocess⟩
    · rw [show s'.backend = s.backend from hsame]
      exact ⟨h, List.Subset.refl _⟩
    · rw [show s'.backend = s.backend.changeStatus readerId status from hstatus]
      exact ⟨h.withEquipment _, List.Subset.refl _⟩
    · exact h.process hrequest hprocess
  exact ⟨⟨hkept.1.invariant.mono hposted, hkept.1.sourced.mono hposted, hkept.1.represented⟩,
    hkept.2⟩

/-! ## The fleet -/

/-- What a reader has for itself. -/
structure Node where
  reader : ReaderDatabase
  submissions : List Submission

/-- Readers, one backend, and what was ever posted and answered. -/
structure Fleet (ι : Type) where
  nodes : ι → Node
  backend : IngestDatabase
  posted : List Request
  answers : List (Request × ApiResponse)

variable {ι : Type} {f : Fleet ι}

def Fleet.initial (databases : ι → ReaderDatabase) (readerEquipment : List ReaderEquipmentRow) :
    Fleet ι :=
  ⟨fun i => ⟨databases i, []⟩, ⟨readerEquipment, [], [], []⟩, [], []⟩

/-- The fleet as the reader `i` meets it. -/
def Fleet.view (f : Fleet ι) (i : ι) : State :=
  ⟨(f.nodes i).reader, f.backend, f.posted, f.answers, (f.nodes i).submissions⟩

/-- An event at the reader `event.1`. -/
def Fleet.step [DecidableEq ι] (codec : Json.Codec) (sha256 : Sha256)
    (environmentId : EnvironmentId) (f : Fleet ι) (event : ι × Event) : Fleet ι :=
  let s := System.step codec sha256 environmentId (f.view event.1) event.2
  { nodes := Function.update f.nodes event.1 ⟨s.reader, s.submissions⟩
    backend := s.backend
    posted := s.posted
    answers := s.answers }

/-- The reader that an event happens at sees what it does alone. -/
theorem Fleet.view_step_self [DecidableEq ι] (f : Fleet ι) (i : ι) (event : Event) :
    (f.step codec sha256 environmentId (i, event)).view i =
      System.step codec sha256 environmentId (f.view i) event := by
  simp only [Fleet.step, Fleet.view, Function.update_self]

/-- Another reader keeps what it has. -/
theorem Fleet.nodes_step_of_ne [DecidableEq ι] (f : Fleet ι) {i j : ι} (h : j ≠ i) (event : Event) :
    (f.step codec sha256 environmentId (i, event)).nodes j = f.nodes j := by
  simp only [Fleet.step, Function.update_of_ne h]

structure FleetInvariant (codec : Json.Codec) (sha256 : Sha256) (f : Fleet ι) : Prop where
  sides : ∀ i, Side codec (f.view i)
  hub : Hub codec sha256 f.posted f.backend
  posted : ∀ request ∈ f.posted, ∃ i, Vouched codec (f.nodes i).reader request
  distinct : Function.Injective fun i => (f.nodes i).reader.readerState.map (·.readerId)

/-- Another reader's side is kept by a step of the fleet. -/
theorem Side.foreign {s s' : State} (h : Side codec s)
    (hbatches : s.backend.batches ⊆ s'.backend.batches) (hreader : s'.reader = s.reader)
    (hsubmissions : s'.submissions = s.submissions)
    (hanswers : ∀ answer ∈ s'.answers, Answered codec s'.backend answer.1 answer.2) :
    Side codec s' := by
  obtain ⟨reader, backend, posted, answers, submissions⟩ := s'
  obtain rfl : reader = s.reader := hreader
  obtain rfl : submissions = s.submissions := hsubmissions
  refine ⟨h.reader.mono hbatches, h.recorded, hanswers, fun sub hsub => ?_⟩
  have hsound := h.submissions sub hsub
  exact ⟨hsound.requested, hsound.batchId, hsound.phase.mono hbatches⟩

/-- A request the reader stands for it stands for in every later database. -/
theorem Vouched.grows {db db' : ReaderDatabase} {reader reader' : ReaderStateRow}
    {request : Request} (h : Vouched codec db request) (hgrows : Reader.Grows db db')
    (inv : Consistent reader db) (inv' : Consistent reader' db') : Vouched codec db' request :=
  ⟨hgrows.requested inv inv' h.1, h.2⟩

/-- Every step of the fleet keeps the invariant. -/
theorem FleetInvariant.step [DecidableEq ι] (inv : FleetInvariant codec sha256 f)
    (event : ι × Event) :
    FleetInvariant codec sha256 (f.step codec sha256 environmentId event) := by
  obtain ⟨i, event⟩ := event
  have hview := @Fleet.view_step_self codec sha256 environmentId ι _ f i event
  obtain ⟨hhub, hbatches⟩ := @Hub.step codec sha256 environmentId (f.view i) inv.hub event
  have hside : Side codec ((f.step codec sha256 environmentId (i, event)).view i) := by
    rw [hview]
    exact (inv.sides i).step inv.hub.invariant event
  obtain ⟨reader, hconsistent⟩ := (inv.sides i).reader.consistent
  obtain ⟨reader', hconsistent'⟩ := hside.reader.consistent
  have hgrows : Grows (f.view i).reader
      ((f.step codec sha256 environmentId (i, event)).view i).reader := by
    rw [hview]
    exact grows_events (f.view i) [event]
  have hother : ∀ j, j ≠ i →
      (f.step codec sha256 environmentId (i, event)).nodes j = f.nodes j :=
    fun j hj => Fleet.nodes_step_of_ne f hj event
  have hvouched : ∀ j request, Vouched codec (f.nodes j).reader request →
      Vouched codec ((f.step codec sha256 environmentId (i, event)).nodes j).reader request := by
    intro j request hrequest
    by_cases hj : j = i
    · rw [hj] at hrequest ⊢
      exact hrequest.grows hgrows hconsistent hconsistent'
    · rw [hother j hj]
      exact hrequest
  have hbound : ∀ j, ((f.step codec sha256 environmentId (i, event)).nodes j).reader.readerState.map
      (·.readerId) = (f.nodes j).reader.readerState.map (·.readerId) := by
    intro j
    by_cases hj : j = i
    · obtain ⟨kept, hkept, hframe⟩ := hgrows.reader reader hconsistent.queue.bound
      have hid : kept.readerId = reader.readerId := congrArg (·.readerId) hframe.frozen
      rw [hj, show (f.nodes i).reader.readerState = some reader from hconsistent.queue.bound,
        show ((f.step codec sha256 environmentId (i, event)).nodes i).reader.readerState = some kept
          from hkept, Option.map_some, Option.map_some, hid]
    · rw [hother j hj]
  refine ⟨fun j => ?_, hhub, fun request hrequest => ?_, ?_⟩
  · by_cases hj : j = i
    · rw [hj]
      exact hside
    · exact (inv.sides j).foreign hbatches (congrArg Node.reader (hother j hj))
        (congrArg Node.submissions (hother j hj)) hside.answers
  · rcases step_posts (f.view i) event request hrequest with hposted | hown
    · obtain ⟨j, hj⟩ := inv.posted request hposted
      exact ⟨j, hvouched j request hj⟩
    · exact ⟨i, hvouched i request hown⟩
  · intro j k hjk
    exact inv.distinct ((hbound j).symm.trans (hjk.trans (hbound k)))

/-- The backend goes on. -/
theorem FleetInvariant.withBackend (inv : FleetInvariant codec sha256 f)
    {backend : IngestDatabase} (hhub : Hub codec sha256 f.posted backend)
    (hbatches : f.backend.batches ⊆ backend.batches) :
    FleetInvariant codec sha256 { f with backend } where
  sides i := (inv.sides i).foreign hbatches rfl rfl fun answer hanswer =>
    ((inv.sides i).answers answer hanswer).mono hbatches
  hub := hhub
  posted := inv.posted
  distinct := inv.distinct

/-- An answer is given that a reader can rely on. -/
theorem FleetInvariant.withAnswer (inv : FleetInvariant codec sha256 f) {request : Request}
    {response : ApiResponse} (h : Answered codec f.backend request response) :
    FleetInvariant codec sha256 { f with answers := f.answers ++ [(request, response)] } where
  sides i := by
    refine (inv.sides i).withBackend (List.Subset.refl _) fun answer hanswer => ?_
    rw [List.mem_singleton.mp hanswer]
    exact h
  hub := inv.hub
  posted := inv.posted
  distinct := inv.distinct

theorem fleetInvariant_initial {databases : ι → ReaderDatabase}
    (h : ∀ i, FreshlyBound (databases i))
    (hdistinct : Function.Injective fun i => (databases i).readerState.map (·.readerId))
    (readerEquipment : List ReaderEquipmentRow) :
    FleetInvariant codec sha256 (.initial databases readerEquipment) := by
  refine ⟨fun i => ?_, ⟨⟨List.nodup_nil, ?_, ?_⟩, ⟨?_, ?_⟩, [], represents_initial readerEquipment⟩,
    ?_, hdistinct⟩
  · have halone := @standing_initial codec sha256 _ (h i) readerEquipment
    exact ⟨halone.invariant.reader, halone.recorded, halone.invariant.answers,
      halone.invariant.submissions⟩
  · exact fun row hrow => absurd hrow List.not_mem_nil
  · exact fun row hrow => absurd hrow List.not_mem_nil
  · exact fun row hrow => absurd hrow List.not_mem_nil
  · exact fun row hrow => absurd hrow List.not_mem_nil
  · exact fun row hrow => absurd hrow List.not_mem_nil

theorem fleetInvariant_run [DecidableEq ι] {databases : ι → ReaderDatabase}
    (h : ∀ i, FreshlyBound (databases i))
    (hdistinct : Function.Injective fun i => (databases i).readerState.map (·.readerId))
    (readerEquipment : List ReaderEquipmentRow) (events : List (ι × Event)) :
    FleetInvariant codec sha256
      (Runs.run (Fleet.step codec sha256 environmentId) (.initial databases readerEquipment)
        events) :=
  Runs.invariant (fun _ event inv => inv.step event)
    (fleetInvariant_initial h hdistinct readerEquipment) events

/-! ## Who a transaction belongs to -/

/-- An entry of the backend was an entry of a posted request, and the
transaction is stored as the request has it. -/
theorem Hub.entry_origin {posted : List Request} {backend : IngestDatabase}
    (h : Hub codec sha256 posted backend) {entry : IngestEntryRow}
    (hentry : entry ∈ backend.entries) :
    ∃ request ∈ posted, request.batchId = entry.batchId ∧
      ∃ submitted ∈ request.entries, submitted.transactionId = entry.fareTransactionId ∧
        ∃ stored ∈ backend.transactions,
          stored.identity = storedIdentity sha256 request submitted := by
  obtain ⟨row, hrow, hid⟩ := h.sourced.entries entry hentry
  obtain ⟨request, hposted, hingested, -, hentries⟩ := h.sourced.batches row hrow
  obtain ⟨submitted, hsubmitted, hsubmittedId⟩ :=
    List.mem_map.mp (hentries entry hentry hid.symm)
  exact ⟨request, hposted, hingested.batchId.symm.trans hid, submitted, hsubmitted, hsubmittedId,
    hingested.covered submitted hsubmitted⟩

/-- A transaction of the backend is stored as some posted request has it. -/
theorem Hub.transaction_origin {posted : List Request} {backend : IngestDatabase}
    (h : Hub codec sha256 posted backend) {stored : IngestTransactionRow}
    (hstored : stored ∈ backend.transactions) :
    ∃ request ∈ posted, ∃ submitted ∈ request.entries,
      stored.identity = storedIdentity sha256 request submitted := by
  obtain ⟨ledger, hledger⟩ := h.represented
  -- the row was resolved by an entry of its transaction
  obtain ⟨entry, hentry⟩ : ∃ entry, entry ∈ backend.historyOf stored.fareTransactionId := by
    refine List.exists_mem_of_ne_nil _ fun hnil => ?_
    have hresolved := hledger.sound.resolved stored hstored
    rw [hnil] at hresolved
    cases hresolved
  obtain ⟨hentry, hid⟩ := List.mem_filter.mp hentry
  obtain ⟨request, hposted, -, submitted, hsubmitted, hsubmittedId, other, hother, hidentity⟩ :=
    h.entry_origin hentry
  have hotherId : other.fareTransactionId = stored.fareTransactionId := by
    have hfirst : other.fareTransactionId = submitted.transactionId := congrArg Prod.fst hidentity
    rw [hfirst, hsubmittedId, beq_iff_eq.mp hid]
  obtain rfl : other = stored := Table.eq_of_key_eq hledger.sound.ids hother hstored hotherId
  exact ⟨request, hposted, submitted, hsubmitted, hidentity⟩

/-- The reader whose request it is has the identifier in the request. -/
theorem FleetInvariant.bound (inv : FleetInvariant codec sha256 f) {i : ι} {request : Request}
    (h : Vouched codec (f.nodes i).reader request) :
    (f.nodes i).reader.readerState.map (·.readerId) = some request.readerId := by
  obtain ⟨reader, consistent⟩ := (inv.sides i).reader.consistent
  have hbound : (f.nodes i).reader.readerState = some reader := consistent.queue.bound
  obtain ⟨-, -, -, howner, -⟩ := h.1.assembled consistent
  rw [hbound, Option.map_some, howner]

/-- Requests of one identifier come from one reader. -/
theorem FleetInvariant.owner_unique (inv : FleetInvariant codec sha256 f) {i j : ι}
    {request request' : Request} (h : Vouched codec (f.nodes i).reader request)
    (h' : Vouched codec (f.nodes j).reader request')
    (hreader : request.readerId = request'.readerId) : i = j :=
  inv.distinct ((inv.bound h).trans ((congrArg some hreader).trans (inv.bound h').symm))

/-- A batch that the backend has under the identifier of a reader is the
ingest of a request of that reader. -/
theorem FleetInvariant.own_batch (inv : FleetInvariant codec sha256 f) {i : ι}
    {reader : ReaderStateRow} (hbound : (f.nodes i).reader.readerState = some reader)
    {batch : IngestBatchRow} (hbatch : batch ∈ f.backend.batches)
    (howner : batch.readerId = reader.readerId) :
    ∃ request, Vouched codec (f.nodes i).reader request ∧
      Ingested codec sha256 f.backend batch request := by
  obtain ⟨request, hposted, hingested, hrequest, -⟩ := inv.hub.sourced.batches batch hbatch
  obtain ⟨j, hj⟩ := inv.posted request hposted
  have hsame : j = i := by
    refine inv.distinct ((inv.bound hj).trans ?_)
    dsimp only
    rw [hbound, Option.map_some, ← howner, hrequest]
  subst hsame
  exact ⟨request, hj, hingested⟩

/-! ## Agreement across the fleet -/

theorem FleetInvariant.acknowledged_heldBy (inv : FleetInvariant codec sha256 f) (i : ι)
    {row : OfflineTransactionRow} (hrow : row ∈ (f.nodes i).reader.offlineTransactions)
    (hacknowledged : row.queueState = .acknowledged) : HeldBy codec sha256 f.backend row := by
  have side := inv.sides i
  obtain ⟨state, consistent⟩ := side.reader.consistent
  obtain ⟨entry, hentry, hkey, stored, hstored, hbatch⟩ :=
    consistent.acknowledgements.settled row hrow hacknowledged
  obtain ⟨acknowledgement, translated, hreturned, htranslated, hstoredId, hpayload⟩ :=
    side.reader.acknowledgements stored hstored
  -- the reader stored it, so it is addressed to this reader
  have hreader : translated.readerId = state.readerId :=
    (consistent.find_recorded hstored (side.recorded.of_payload hstored hpayload)).1
  obtain ⟨htranslatedReader, htranslatedId, -⟩ := translate_eq_ok.mp htranslated
  obtain ⟨batch, hmem, replayed, hreplay⟩ := hreturned
  obtain ⟨origin, -, hingested, howner, -⟩ := inv.hub.sourced.batches batch hmem
  obtain ⟨receivedAt, hbuilt⟩ := hingested.built
  have hacknowledgementReader : acknowledgement.readerId = origin.readerId := by
    rw [hreplay]
    exact congrArg (·.readerId) (buildAcknowledgement_ok.mp hbuilt)
  have hacknowledgementId : acknowledgement.batchId = batch.batchId := by
    rw [hreplay]
    exact hingested.acknowledgement_batchId
  obtain ⟨request, hvouched, hcommitted⟩ := inv.own_batch consistent.queue.bound hmem <| by
    rw [howner, ← hacknowledgementReader, ← htranslatedReader, hreader]
  refine hcommitted.heldBy hvouched.1 consistent hentry ?_ hrow hkey.symm
  rw [← hbatch, hstoredId, htranslatedId, hacknowledgementId]

theorem FleetInvariant.not_committed_of_refused (inv : FleetInvariant codec sha256 f) (i : ι)
    {state : ReaderStateRow} (consistent : Consistent state (f.nodes i).reader)
    {batchId : SynchronizationBatchId} (h : RefusedBatch codec (f.nodes i).reader batchId) :
    ∀ batch ∈ f.backend.batches, batch.readerId = state.readerId → batch.batchId ≠ batchId := by
  intro batch hbatch howner hid
  obtain ⟨refused, hrequested, hrefusedId, hrefused⟩ := h
  obtain ⟨request, hvouched, hingested⟩ := inv.own_batch consistent.queue.bound hbatch howner
  have hsame : request = refused :=
    hvouched.1.unique hrequested consistent
      (hingested.batchId.symm.trans (hid.trans hrefusedId.symm))
  subst hsame
  rcases hrefused with hunacceptable | hlong
  · exact hunacceptable hingested.acceptable
  · exact hlong hvouched.2

/-- Every reader agrees with the backend: what it has acknowledged is stored
there under its own identifier, and what it gave up for good was not committed
for it, even where another reader used the same batch identifier. -/
structure Fleet.Agrees (codec : Json.Codec) (sha256 : Sha256) (f : Fleet ι) : Prop where
  acknowledged : ∀ i, ∀ row ∈ (f.nodes i).reader.offlineTransactions,
    row.queueState = .acknowledged → HeldBy codec sha256 f.backend row
  enlisted : ∀ i, ∀ row ∈ (f.nodes i).reader.offlineTransactions,
    row.queueState = .permanentFailure →
      ∃ entry ∈ (f.nodes i).reader.synchronizationEntries,
        entry.fareTransactionId = row.fareTransactionId
  refused : ∀ i, ∀ row ∈ (f.nodes i).reader.offlineTransactions,
    row.queueState = .permanentFailure →
      ∀ entry ∈ (f.nodes i).reader.synchronizationEntries,
        entry.fareTransactionId = row.fareTransactionId →
          ∀ batch ∈ f.backend.batches, batch.readerId = row.readerId →
            batch.batchId ≠ entry.batchId

theorem FleetInvariant.agrees (inv : FleetInvariant codec sha256 f) : f.Agrees codec sha256 := by
  have hfailed : ∀ i, ∀ row ∈ (f.nodes i).reader.offlineTransactions,
      row.queueState = .permanentFailure →
        ∃ entry ∈ (f.nodes i).reader.synchronizationEntries,
          entry.fareTransactionId = row.fareTransactionId ∧
            RefusedBatch codec (f.nodes i).reader entry.batchId := by
    intro i row hrow hstate
    have side := inv.sides i
    obtain ⟨entry, hentry, hkey, failed, hbatch, hid, hfailed⟩ :=
      side.reader.enlisted.failed row hrow hstate
    exact ⟨entry, hentry, congrArg Prod.fst hkey, hid ▸ side.reader.failed failed hbatch hfailed⟩
  refine ⟨fun i row hrow hacknowledged => inv.acknowledged_heldBy i hrow hacknowledged,
    fun i row hrow hstate => ?_,
    fun i row hrow hstate other hother hotherId batch hmem howner => ?_⟩
  · obtain ⟨entry, hentry, hid, -⟩ := hfailed i row hrow hstate
    exact ⟨entry, hentry, hid⟩
  · obtain ⟨state, consistent⟩ := (inv.sides i).reader.consistent
    obtain ⟨entry, hentry, hid, hrefused⟩ := hfailed i row hrow hstate
    obtain rfl : other = entry := Table.eq_of_key_eq (inv.sides i).reader.enlisted.once hother
      hentry (hotherId.trans hid.symm)
    refine inv.not_committed_of_refused i consistent hrefused batch hmem ?_
    rw [howner, consistent.queue.owned row hrow]

/-- However the events of any number of readers interleave, the readers agree
with the backend they share. -/
theorem fleet_agreement [DecidableEq ι] {databases : ι → ReaderDatabase}
    (h : ∀ i, FreshlyBound (databases i))
    (hdistinct : Function.Injective fun i => (databases i).readerState.map (·.readerId))
    (readerEquipment : List ReaderEquipmentRow) (events : List (ι × Event)) :
    (Runs.run (Fleet.step codec sha256 environmentId) (.initial databases readerEquipment)
      events).Agrees codec sha256 :=
  (fleetInvariant_run h hdistinct readerEquipment events).agrees

def secondReaderId : ReaderId := ⟨⟨0x70008000000000000071#128, by decide⟩⟩

def secondTransactionId : FareTransactionId := ⟨⟨0x70008000000000000072#128, by decide⟩⟩

/-- Two readers, of which the second is ahead of the backend's protocol
version. -/
def sampleFleetIdentity (second : Bool) : ReaderDatabaseIdentity :=
  if second then { aheadIdentity with readerId := secondReaderId } else sampleIdentity

def sampleFleet (second : Bool) : ReaderDatabase :=
  (bindReaderDatabase .empty (sampleFleetIdentity second)).database

theorem sampleFleet_freshlyBound (second : Bool) : FreshlyBound (sampleFleet second) := by
  cases second with
  | false => exact ⟨sampleIdentity, _, rfl⟩
  | true => exact ⟨{ aheadIdentity with readerId := secondReaderId }, _, rfl⟩

theorem sampleFleet_readerId (second : Bool) :
    (sampleFleet second).readerState.map (·.readerId) =
      some (if second then secondReaderId else sampleReaderId) := by
  cases second <;> rfl

theorem sampleFleet_distinct :
    Function.Injective fun i => (sampleFleet i).readerState.map (·.readerId) := by
  intro i j hij
  simp only [sampleFleet_readerId, Option.some.injEq] at hij
  cases i <;> cases j
  · rfl
  · exact absurd hij (by decide)
  · exact absurd hij (by decide)
  · rfl

def sampleFleetEquipment : List ReaderEquipmentRow :=
  [⟨sampleReaderId, .active⟩, ⟨secondReaderId, .active⟩]

/-- Both readers submit a batch of the same identifier, and each is answered
while the other waits. -/
def sampleClash : List (Bool × Event) :=
  [(false, .call (.enqueue sampleReaderId (sampleDraft (.object [])))),
    (true, .call (.enqueue secondReaderId
      { sampleDraft (.object []) with transactionId := secondTransactionId })),
    (true, .call (.createBatch secondReaderId nextProtocolVersion 1 10 sampleBatchId)),
    (false, .call (.createBatch sampleReaderId .current 1 10 sampleBatchId)),
    (true, .call (.markBatch secondReaderId sampleBatchId 2)),
    (false, .call (.markBatch sampleReaderId sampleBatchId 2)),
    (false, .submit sampleReaderId sampleBatchId 3 4),
    (true, .submit secondReaderId sampleBatchId 3 4),
    (true, .serve 0 (some 3)),
    (false, .serve 1 (some 3)),
    (true, .deliver 0 1),
    (true, .proceed 0)]

theorem fleet_agreement_clash :
    (∀ second, FreshlyBound (sampleFleet second)) ∧
    let f := Runs.run (Fleet.step sampleCodec Sha256.digest sampleEnvironmentId)
      (.initial sampleFleet sampleFleetEquipment) sampleClash
    f.backend.batches.map (fun batch => (batch.batchId, batch.readerId)) =
        [(sampleBatchId, sampleReaderId)] ∧
      (f.nodes true).reader.offlineTransactions.map (·.queueState) = [.permanentFailure] ∧
      f.Agrees sampleCodec Sha256.digest :=
  ⟨sampleFleet_freshlyBound, by decide +kernel, by decide +kernel,
    fleet_agreement sampleFleet_freshlyBound sampleFleet_distinct sampleFleetEquipment sampleClash⟩

/-! ## One owner, one batch -/

/-- A transaction of the backend is queued at a reader, as it is stored. -/
theorem FleetInvariant.transaction_owner (inv : FleetInvariant codec sha256 f)
    {stored : IngestTransactionRow} (hstored : stored ∈ f.backend.transactions) :
    ∃ i, ∃ row ∈ (f.nodes i).reader.offlineTransactions,
      row.fareTransactionId = stored.fareTransactionId ∧ row.readerId = stored.readerId ∧
        row.localSequenceNumber = stored.localSequenceNumber ∧
        ∃ envelope, CanonicalTransactionEnvelope.fromJson codec row.transactionEnvelopeJson =
          .ok envelope ∧ stored.transactionFingerprint = envelope.fingerprint sha256 := by
  obtain ⟨request, hposted, submitted, hsubmitted, hidentity⟩ := inv.hub.transaction_origin hstored
  obtain ⟨i, hvouched⟩ := inv.posted request hposted
  obtain ⟨state, consistent⟩ := (inv.sides i).reader.consistent
  obtain ⟨row, hrow, hid, hsequence, hparsed⟩ := hvouched.1.entry_queued consistent hsubmitted
  obtain ⟨-, -, -, howner, -⟩ := hvouched.1.assembled consistent
  simp only [IngestTransactionRow.identity, storedIdentity, Prod.mk.injEq] at hidentity
  obtain ⟨hstoredId, hstoredReader, hstoredSequence, hfingerprint⟩ := hidentity
  refine ⟨i, row, hrow, hid.trans hstoredId.symm, ?_, hsequence.trans hstoredSequence.symm,
    submitted.transactionEnvelope, hparsed, hfingerprint⟩
  rw [hstoredReader, howner, consistent.queue.owned row hrow]

/-- Two entries of one transaction belong to one batch. -/
theorem FleetInvariant.entry_batchId (inv : FleetInvariant codec sha256 f)
    {entry other : IngestEntryRow} (hentry : entry ∈ f.backend.entries)
    (hother : other ∈ f.backend.entries)
    (hid : entry.fareTransactionId = other.fareTransactionId) : entry.batchId = other.batchId := by
  obtain ⟨ledger, hledger⟩ := inv.hub.represented
  obtain ⟨request, hposted, hbatch, sent, hsent, hsentId, stored, hstored, hidentity⟩ :=
    inv.hub.entry_origin hentry
  obtain ⟨request', hposted', hbatch', sent', hsent', hsentId', stored', hstored', hidentity'⟩ :=
    inv.hub.entry_origin hother
  simp only [IngestTransactionRow.identity, storedIdentity, Prod.mk.injEq] at hidentity hidentity'
  -- the transaction is stored once, so under one reader
  obtain rfl : stored = stored' := Table.eq_of_key_eq hledger.sound.ids hstored hstored' <| by
    rw [hidentity.1, hidentity'.1, hsentId, hsentId', hid]
  obtain ⟨i, hvouched⟩ := inv.posted request hposted
  obtain ⟨j, hvouched'⟩ := inv.posted request' hposted'
  obtain rfl : i = j :=
    inv.owner_unique hvouched hvouched' (hidentity.2.1.symm.trans hidentity'.2.1)
  -- and that reader has it in one batch
  obtain ⟨state, consistent⟩ := (inv.sides i).reader.consistent
  obtain ⟨row, hrow, hrowBatch, hrowId⟩ := hvouched.1.entry_stored consistent hsent
  obtain ⟨row', hrow', hrowBatch', hrowId'⟩ := hvouched'.1.entry_stored consistent hsent'
  have hsame : row = row' := Table.eq_of_key_eq (inv.sides i).reader.enlisted.once hrow hrow' <| by
    rw [hrowId, hrowId', hsentId, hsentId', hid]
  rw [← hbatch, ← hbatch', ← hrowBatch, ← hrowBatch', hsame]

/-- Each transaction at the backend is one that the reader it is stored under
has queued, with the same sequence number and envelope, and it is in the entries
of one batch alone. -/
structure Fleet.ExactlyOnce (codec : Json.Codec) (sha256 : Sha256) (f : Fleet ι) : Prop where
  owned : ∀ stored ∈ f.backend.transactions, ∃ i, ∃ row ∈ (f.nodes i).reader.offlineTransactions,
    row.fareTransactionId = stored.fareTransactionId ∧ row.readerId = stored.readerId ∧
      row.localSequenceNumber = stored.localSequenceNumber ∧
      ∃ envelope, CanonicalTransactionEnvelope.fromJson codec row.transactionEnvelopeJson =
        .ok envelope ∧ stored.transactionFingerprint = envelope.fingerprint sha256
  once : ∀ entry ∈ f.backend.entries, ∀ other ∈ f.backend.entries,
    entry.fareTransactionId = other.fareTransactionId → entry.batchId = other.batchId
  transactions : (f.backend.transactions.map (·.fareTransactionId)).Nodup
  batches : (f.backend.batches.map (·.batchId)).Nodup

theorem FleetInvariant.exactlyOnce (inv : FleetInvariant codec sha256 f) :
    f.ExactlyOnce codec sha256 := by
  obtain ⟨ledger, hledger⟩ := inv.hub.represented
  exact ⟨fun stored hstored => inv.transaction_owner hstored,
    fun entry hentry other hother hid => inv.entry_batchId hentry hother hid,
    hledger.sound.ids, inv.hub.invariant.batchIds⟩

/-- However the events of any number of readers interleave, every transaction is
ingested once, from the reader that has it. -/
theorem fleet_exactlyOnce [DecidableEq ι] {databases : ι → ReaderDatabase}
    (h : ∀ i, FreshlyBound (databases i))
    (hdistinct : Function.Injective fun i => (databases i).readerState.map (·.readerId))
    (readerEquipment : List ReaderEquipmentRow) (events : List (ι × Event)) :
    (Runs.run (Fleet.step codec sha256 environmentId) (.initial databases readerEquipment)
      events).ExactlyOnce codec sha256 :=
  (fleetInvariant_run h hdistinct readerEquipment events).exactlyOnce

theorem fleet_exactlyOnce_clash :
    (∀ second, FreshlyBound (sampleFleet second)) ∧
    let f := Runs.run (Fleet.step sampleCodec Sha256.digest sampleEnvironmentId)
      (.initial sampleFleet sampleFleetEquipment) sampleClash
    f.posted.map (fun request => (request.batchId, request.readerId)) =
        [(sampleBatchId, sampleReaderId), (sampleBatchId, secondReaderId)] ∧
      f.ExactlyOnce sampleCodec Sha256.digest :=
  ⟨sampleFleet_freshlyBound, by decide +kernel,
    fleet_exactlyOnce sampleFleet_freshlyBound sampleFleet_distinct sampleFleetEquipment
      sampleClash⟩

end TransitGuard.System
