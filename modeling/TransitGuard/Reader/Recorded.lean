import TransitGuard.Reader.HighWaterMark

/-!
What the store knows about its acknowledgements: every stored row and its
entries were written for one valid acknowledgement and never again, except for
the time of the application. They can therefore always be decoded.
-/

namespace TransitGuard.Reader

open Fallible

variable {codec : Json.Codec} {db db' : ReaderDatabase} {op : Operation}
  {reader : ReaderStateRow} {batchId : SynchronizationBatchId}

/-- The rows stored for an acknowledgement, whether applied or not. -/
structure SynchronizationAcknowledgementRow.Records (codec : Json.Codec) (db : ReaderDatabase)
    (row : SynchronizationAcknowledgementRow) (acknowledgement : SynchronizationAcknowledgement) :
    Prop where
  columns : row.frozen = acknowledgement.toRow codec
  entries : db.acknowledgementEntriesOf row.batchId =
    acknowledgement.entryRows 0 acknowledgement.entries

structure Recorded (codec : Json.Codec) (db : ReaderDatabase) : Prop where
  checks : ∀ row ∈ db.synchronizationAcknowledgements, row.check = true
  origin : ∀ row ∈ db.synchronizationAcknowledgements,
    ∃ acknowledgement, row.Records codec db acknowledgement

/-! ## Steps -/

theorem Committed.acknowledgement_checks (h : Committed codec db op db')
    (hchecks : ∀ row ∈ db.synchronizationAcknowledgements, row.check = true) :
    ∀ row ∈ db'.synchronizationAcknowledgements, row.check = true := by
  cases h with
  | storeAcknowledgement _ _ _ _ check =>
    intro row hrow
    rcases List.mem_append.mp hrow with hrow | hrow
    · exact hchecks row hrow
    · rw [List.mem_singleton] at hrow
      rw [hrow]
      exact check
  | applyAcknowledgement _ _ _ _ _ _ _ _ _ _ acknowledgementCheck =>
    exact Table.forall_updateWhere hchecks acknowledgementCheck
  | _ => exact hchecks

theorem SynchronizationAcknowledgementRow.batchId_of_frozen
    {row row' : SynchronizationAcknowledgementRow} (h : row'.frozen = row.frozen) :
    row'.batchId = row.batchId := congrArg (·.batchId) h

theorem Recorded.step (hrecorded : Recorded codec db) (inv : Consistent reader db)
    (h : Committed codec db op db') : Recorded codec db' where
  checks := h.acknowledgement_checks hrecorded.checks
  origin row' hrow' := by
    rcases h.acknowledgement_origin hrow' with ⟨row, hrow, hfrozen⟩ | ⟨acknowledgement, rfl, rfl⟩
    · obtain ⟨acknowledgement, hrecords⟩ := hrecorded.origin row hrow
      refine ⟨acknowledgement, hfrozen.trans hrecords.columns, ?_⟩
      rw [SynchronizationAcknowledgementRow.batchId_of_frozen hfrozen, ← hrecords.entries]
      exact h.grows.acknowledgementEntries row hrow
    · refine ⟨acknowledgement, rfl, ?_⟩
      cases h with
      | storeAcknowledgement _ _ _ _ _ fresh _ =>
        -- entries of this batch would belong to a row stored before
        have hold : db.acknowledgementEntriesOf acknowledgement.batchId = [] := by
          refine List.filter_eq_nil_iff.mpr fun entry hentry hid => ?_
          obtain ⟨row, hrow, hrowid⟩ := inv.acknowledgements.entryOf entry hentry
          exact fresh row hrow ((beq_iff_eq.mp hid).symm.trans hrowid.symm)
        have hnew : (acknowledgement.entryRows 0 acknowledgement.entries).filter
            (·.batchId == acknowledgement.batchId) =
              acknowledgement.entryRows 0 acknowledgement.entries := by
          refine List.filter_eq_self.mpr fun entry hentry => ?_
          exact beq_iff_eq.mpr (mem_acknowledgementEntryRows hentry).1
        change List.filter _ (_ ++ _) = _
        rw [List.filter_append]
        exact (congrArg₂ (· ++ ·) hold hnew).trans (List.nil_append _)

theorem FreshlyBound.recorded (h : FreshlyBound db) : Recorded codec db := by
  obtain ⟨identity, -, rfl⟩ := h.exists_identity
  exact ⟨fun row hrow => absurd hrow List.not_mem_nil,
    fun row hrow => absurd hrow List.not_mem_nil⟩

theorem recorded_run (h : FreshlyBound db) (ops : List Operation) :
    Recorded codec (Runs.run (perform codec) db ops) := by
  have hboth : (∃ reader, Consistent reader (Runs.run (perform codec) db ops)) ∧
      Recorded codec (Runs.run (perform codec) db ops) := by
    refine Runs.invariant (P := fun db => (∃ reader, Consistent reader db) ∧ Recorded codec db)
      (fun db op hdb => ?_) ⟨h.consistent, h.recorded⟩ ops
    obtain ⟨⟨reader, inv⟩, hrecorded⟩ := hdb
    exact ⟨inv.perform op, perform_invariant hrecorded fun db' => hrecorded.step inv⟩
  exact hboth.2

/-! ## Decoding -/

/-- The resolution as the application reads it back, with a trimmed category. -/
def SynchronizationEntryResolution.trimmed :
    SynchronizationEntryResolution → SynchronizationEntryResolution
  | .acknowledged => .acknowledged
  | .retryableFailure category retryAt => .retryableFailure (Text.trim category) retryAt
  | .permanentFailure category => .permanentFailure (Text.trim category)
  | .manualReview category => .manualReview (Text.trim category)

theorem decodeResolution_stored {transactionId : FareTransactionId}
    {resolution : SynchronizationEntryResolution} {receivedAt : UnixMilliseconds}
    (h : validateResolution transactionId resolution receivedAt = .ok ()) :
    decodeResolution (storedResolution resolution).1 (storedResolution resolution).2.1
      (storedResolution resolution).2.2 receivedAt = .ok resolution.trimmed := by
  have hcategory : ∀ {category : String},
      validateAcknowledgedCategory transactionId category = .ok () →
        validatedFailureCategory (some category) = .ok (Text.trim category) := by
    intro category hvalid
    simp only [validateAcknowledgedCategory, ite_error_eq_ok, and_true] at hvalid
    simp only [validatedFailureCategory, bind_eq_ok, orFail_eq_ok, validateCategory_ok]
    exact ⟨category, rfl, rfl, hvalid⟩
  cases resolution with
  | acknowledged => rfl
  | retryableFailure category retryAt =>
    simp only [validateResolution, bind_eq_ok, ite_error_eq_ok, and_true] at h
    obtain ⟨⟨⟩, hvalid, hretry⟩ := h
    simp only [decodeResolution, storedResolution, bind_eq_ok, ite_error_eq_ok]
    exact ⟨_, hcategory hvalid, retryAt, rfl, hretry, rfl⟩
  | permanentFailure category =>
    change (validatedFailureCategory (some category)).map _ = _
    rw [hcategory h]
    rfl
  | manualReview category =>
    change (validatedFailureCategory (some category)).map _ = _
    rw [hcategory h]
    rfl

/-- What the application decodes from the rows of an acknowledgement. -/
def SynchronizationAcknowledgement.decoded (acknowledgement : SynchronizationAcknowledgement) :
    List DecodedAcknowledgementEntry :=
  acknowledgement.entries.map fun entry =>
    ⟨entry.transactionId, entry.localSequenceNumber.value, entry.resolution.trimmed⟩

theorem map_entryPosition_acknowledgementEntryRows
    (acknowledgement : SynchronizationAcknowledgement) (position : Nat)
    (entries : List SynchronizationAcknowledgementEntry) :
    (acknowledgement.entryRows position entries).map (·.entryPosition) =
      List.range' position (acknowledgement.entryRows position entries).length := by
  rw [SynchronizationAcknowledgement.entryRows, List.map_map, List.length_map, List.length_zipIdx]
  exact List.zipIdx_map_snd position entries

theorem SynchronizationAcknowledgement.valid_parts
    (acknowledgement : SynchronizationAcknowledgement) :
    0 ≤ acknowledgement.receivedAt ∧ acknowledgement.entries ≠ [] ∧
      ∀ entry ∈ acknowledgement.entries, validateResolution entry.transactionId entry.resolution
        acknowledgement.receivedAt = .ok () := by
  have hvalid := acknowledgement.valid
  simp only [validateAcknowledgement, ite_error_eq_ok, validateAcknowledgedEntries_ok] at hvalid
  obtain ⟨hreceived, -, hnonempty, -, -, hresolutions⟩ := hvalid
  refine ⟨by grind, ?_, hresolutions⟩
  rintro hnil
  rw [hnil] at hnonempty
  exact hnonempty rfl

theorem decodeAcknowledgementEntries_entryRows (acknowledgement : SynchronizationAcknowledgement) :
    decodeAcknowledgementEntries acknowledgement.receivedAt 0
      (acknowledgement.entryRows 0 acknowledgement.entries) = .ok acknowledgement.decoded := by
  have hresolutions := acknowledgement.valid_parts.2.2
  have hrows : ∀ (entries : List SynchronizationAcknowledgementEntry) (position : Nat),
      (∀ entry ∈ entries, validateResolution entry.transactionId entry.resolution
        acknowledgement.receivedAt = .ok ()) →
      List.Forall₂ (fun row entry => row.localSequenceNumber ≠ 0 ∧ entry.key = row.key ∧
          decodeResolution row.outcome row.failureCategory row.retryAt
            acknowledgement.receivedAt = .ok entry.resolution)
        (acknowledgement.entryRows position entries)
        (entries.map fun entry => (⟨entry.transactionId, entry.localSequenceNumber.value,
          entry.resolution.trimmed⟩ : DecodedAcknowledgementEntry)) := by
    intro entries
    induction entries with
    | nil => exact fun _ _ => .nil
    | cons entry entries ih =>
      intro position hvalid
      rw [List.forall_mem_cons] at hvalid
      exact .cons ⟨entry.localSequenceNumber.pos.ne', rfl, decodeResolution_stored hvalid.1⟩
        (ih (position + 1) hvalid.2)
  exact decodeAcknowledgementEntries_ok.mpr
    ⟨map_entryPosition_acknowledgementEntryRows acknowledgement 0 _, hrows _ 0 hresolutions⟩

/-- The stored rows of an acknowledgement decode to its entries. -/
theorem SynchronizationAcknowledgementRow.Records.decode
    {row : SynchronizationAcknowledgementRow} {acknowledgement : SynchronizationAcknowledgement}
    (h : row.Records codec db acknowledgement) (inv : Consistent reader db) :
    decodeAcknowledgementEntries row.receivedAt 0 (Table.orderBy (·.entryPosition)
      (db.synchronizationAcknowledgementEntries.filter fun entry =>
        entry.batchId == row.batchId && entry.readerId == reader.readerId)) =
          .ok acknowledgement.decoded := by
  have hreceived : row.receivedAt = acknowledgement.receivedAt := congrArg (·.receivedAt) h.columns
  have hfilter : (db.synchronizationAcknowledgementEntries.filter fun entry =>
      entry.batchId == row.batchId && entry.readerId == reader.readerId) =
        acknowledgement.entryRows 0 acknowledgement.entries := by
    rw [← h.entries, ReaderDatabase.acknowledgementEntriesOf]
    refine List.filter_congr fun entry hentry => ?_
    simp only [inv.acknowledgements.entryOwned entry hentry, beq_self_eq_true, Bool.and_true]
  rw [hfilter, hreceived, Table.orderBy_of_sorted]
  · exact decodeAcknowledgementEntries_entryRows acknowledgement
  · rw [map_entryPosition_acknowledgementEntryRows]
    exact (List.pairwise_lt_range' 1).imp Nat.le_of_lt

end TransitGuard.Reader
