import TransitGuard.Library.JsonInjective
import TransitGuard.Reader.Reachable

/-!
Which drafts the queue takes. The constructor of a draft looks at the creation
time alone, and only at its sign; the insertion writes two rows. Most of their
constraints hold of every draft and every reachable reader row. What is left is
the CHECK of the reader row, which moves to the creation time of the draft
without a guard, and the conversion of the policy version.
-/

namespace Json

theorem toDigits_head (n : Nat) : ∃ c cs, Nat.toDigits 10 n = c :: cs ∧ isNumeral c = true := by
  obtain ⟨c, cs, hcs⟩ := List.exists_cons_of_ne_nil (Nat.toDigits_ne_nil (b := 10) (n := n))
  refine ⟨c, cs, hcs, isNumeral_of_mem_toDigits (n := n) ?_⟩
  rw [hcs]
  exact List.mem_cons_self ..

/-- A printed integer starts with a digit or a sign. -/
theorem toString_int_head (n : Int) :
    ∃ c cs, (toString n).toList = c :: cs ∧ isNumeral c = true := by
  cases n with
  | ofNat n =>
    have hprint : toString (Int.ofNat n) = toString n := rfl
    rw [hprint, Nat.toString_eq_ofList_toDigits, String.toList_ofList]
    exact toDigits_head n
  | negSucc n =>
    have hprint : toString (Int.negSucc n) = "-" ++ toString (n + 1) := rfl
    rw [hprint, String.toList_append]
    exact ⟨'-', _, rfl, rfl⟩

theorem nonBlank_of_numeral {s : String} (h : ∃ c cs, s.toList = c :: cs ∧ isNumeral c = true) :
    Text.sqliteNonBlank s = true := by
  obtain ⟨c, cs, hcs, hc⟩ := h
  refine Text.sqliteNonBlank_of_head (c := c) (by rw [hcs]; rfl) ?_ ?_
  · rintro rfl
    cases hc
  · rintro rfl
    cases hc

/-- SQLite finds no printed value blank, unless it is a float printed blank. -/
theorem Value.render_nonBlank {codec : Codec}
    (hfloat : ∀ bits, Text.sqliteNonBlank (codec.formatFloat bits) = true) (v : Value) :
    Text.sqliteNonBlank (v.render codec) = true := by
  have hmark : ∀ c : Char, ∀ s : String, s.toList.head? = some c → c ≠ ' ' → c ≠ '\x00' →
      Text.sqliteNonBlank s = true := fun c s => Text.sqliteNonBlank_of_head
  cases v with
  | null => exact hmark 'n' _ (by simp [Value.render]) (by decide) (by decide)
  | bool b =>
    cases b with
    | false => exact hmark 'f' _ (by simp [Value.render]) (by decide) (by decide)
    | true => exact hmark 't' _ (by simp [Value.render]) (by decide) (by decide)
  | string s =>
    exact hmark '"' _ (by simp [Value.render, renderString]) (by decide) (by decide)
  | array items => exact hmark '[' _ (by simp [Value.render]) (by decide) (by decide)
  | object members => exact hmark '\x7b' _ (by simp [Value.render]) (by decide) (by decide)
  | number n =>
    cases n with
    | posInt n => exact nonBlank_of_numeral (toString_int_head n.toNat)
    | negInt n => exact nonBlank_of_numeral (toString_int_head n.toInt)
    | float bits => exact hfloat bits

end Json

namespace TransitGuard.Reader

open Fallible

variable {codec : Json.Codec} {db db' : ReaderDatabase} {reader : ReaderStateRow}
  {draft : OfflineTransactionDraft}

/-! ## The constraints of the two rows -/

/-- The CHECK constraints of `reader_state`, apart from the order of its two
times. -/
structure ReaderStateRow.Checked (row : ReaderStateRow) : Prop where
  environment : Text.sqliteNonBlank row.environmentId = true
  software : Text.sqliteNonBlank row.softwareVersion = true
  version : 0 < row.protocolVersion ∧ row.protocolVersion ≤ 65535
  acknowledged : row.lastAcknowledgedSequence < row.nextLocalSequence
  created : 0 ≤ row.createdAt

theorem ReaderStateRow.check_iff :
    reader.check = true ↔ reader.Checked ∧ reader.createdAt ≤ reader.updatedAt := by
  simp only [check, Bool.and_eq_true, decide_eq_true_eq]
  constructor
  · rintro ⟨⟨⟨⟨⟨⟨⟨environment, software⟩, pos⟩, le⟩, -⟩, acknowledged⟩, created⟩, order⟩
    exact ⟨⟨environment, software, ⟨pos, le⟩, acknowledged, created⟩, order⟩
  · rintro ⟨⟨environment, software, ⟨pos, le⟩, acknowledged, created⟩, order⟩
    exact ⟨⟨⟨⟨⟨⟨⟨environment, software⟩, pos⟩, le⟩, by omega⟩, acknowledged⟩, created⟩, order⟩

/-- The order of the two times is the only constraint that assigning a sequence
can break. -/
theorem ReaderStateRow.assignSequence_check (h : reader.check = true) (t : UnixMilliseconds) :
    (reader.assignSequence t).check = true ↔ reader.createdAt ≤ t := by
  obtain ⟨checked, -⟩ := check_iff.mp h
  have hassigned : (reader.assignSequence t).Checked :=
    { checked with acknowledged := Nat.lt_succ_of_lt checked.acknowledged }
  rw [check_iff, and_iff_right hassigned]
  rfl

/-- Every draft meets the constraints of the queue. -/
theorem OfflineTransactionDraft.toRow_check
    (hfloat : ∀ bits, Text.sqliteNonBlank (codec.formatFloat bits) = true)
    (draft : OfflineTransactionDraft) (readerId : ReaderId) {sequence : Nat}
    (h : 0 < sequence) : (draft.toRow codec readerId sequence).check = true := by
  have hdecision := draft.provisionalDecision.toJson.render_nonBlank hfloat
  have henvelope := draft.transactionEnvelope.render_nonBlank hfloat
  have hevent := draft.eventTime.nonneg
  have hversion := draft.farePolicyVersion.pos
  have hcreated := draft.createdAt_nonneg
  simp [OfflineTransactionRow.check, toRow, *]

/-- The next sequence is free, so only the identifier of a draft can conflict
with a stored transaction. -/
theorem QueueInvariant.toRow_fresh (inv : QueueInvariant reader db)
    (hnew : ∀ row ∈ db.offlineTransactions, row.fareTransactionId ≠ draft.transactionId) :
    ∀ row ∈ db.offlineTransactions,
      (draft.toRow codec reader.readerId reader.nextLocalSequence).conflicts row = false := by
  intro row hrow
  have hsequence : row.localSequenceNumber ∈ List.range' 1 (reader.nextLocalSequence - 1) := by
    rw [← inv.sequences]
    exact List.mem_map_of_mem hrow
  have hbelow := List.mem_range'_1.mp hsequence
  simp only [OfflineTransactionRow.conflicts, OfflineTransactionDraft.toRow,
    Bool.or_eq_false_iff, Bool.and_eq_false_iff, beq_eq_false_iff_ne]
  exact ⟨(hnew row hrow).symm, .inr (by omega)⟩

/-! ## The insertion -/

/-- The database with the draft under the next sequence. -/
def ReaderDatabase.withDraft (db : ReaderDatabase) (codec : Json.Codec)
    (reader : ReaderStateRow) (draft : OfflineTransactionDraft) : ReaderDatabase :=
  { db with
    readerState := some (reader.assignSequence draft.createdAt)
    offlineTransactions := db.offlineTransactions ++
      [draft.toRow codec reader.readerId reader.nextLocalSequence] }

/-- `enqueue_offline_transaction` for the bound reader succeeds and leaves the
draft as the last transaction of the queue. -/
def Enqueued (codec : Json.Codec) (db : ReaderDatabase) (reader : ReaderStateRow)
    (draft : OfflineTransactionDraft) : Prop :=
  ∃ queued, enqueueOfflineTransaction codec db reader.readerId draft =
    ⟨db.withDraft codec reader draft, .ok queued⟩

/-- What an insertion needs of the draft, whatever the database. -/
theorem enqueue_needs {queued : QueuedOfflineTransaction} (hbound : db.readerState = some reader)
    (hreader : reader.check = true)
    (h : (enqueueOfflineTransaction codec db reader.readerId draft).result = .ok queued) :
    reader.createdAt ≤ draft.createdAt ∧ draft.farePolicyVersion.value ≤ i64Max := by
  obtain ⟨db', hbody, -⟩ := transact_of_ok h
  simp only [enqueueStatements, guard_eq_ok, bind_eq_ok, orFail_eq_ok,
    Option.filter_eq_some_iff, Bool.not_eq_eq_eq_not, Bool.not_true, Bool.not_eq_false] at hbody
  obtain ⟨row, ⟨hrow, -⟩, hcheck, -, -, hversion, -⟩ := hbody
  obtain rfl : row = reader := Option.some.inj (hrow.symm.trans hbound)
  exact ⟨(ReaderStateRow.assignSequence_check hreader _).mp hcheck, Nat.le_of_not_lt hversion⟩

/-- What is enough. -/
theorem QueueInvariant.enqueued (inv : QueueInvariant reader db)
    (hfloat : ∀ bits, Text.sqliteNonBlank (codec.formatFloat bits) = true)
    (hnext : reader.nextLocalSequence < i64Max)
    (hnew : ∀ row ∈ db.offlineTransactions, row.fareTransactionId ≠ draft.transactionId)
    (htime : reader.createdAt ≤ draft.createdAt)
    (hversion : draft.farePolicyVersion.value ≤ i64Max) : Enqueued codec db reader draft := by
  have hpos := ReaderStateRow.check_next_pos inv.readerCheck
  have hassigned := (ReaderStateRow.assignSequence_check inv.readerCheck _).mpr htime
  have hsequence : reader.nextLocalSequence < 2 ^ 64 := by
    have hmax : i64Max < 2 ^ 64 := by decide
    omega
  have hrow := draft.toRow_check hfloat reader.readerId hpos
  have hbody : ∃ queued, enqueueStatements codec db reader.readerId draft =
      .ok (queued, db.withDraft codec reader draft) := by
    simp only [enqueueStatements, guard_eq_ok, bind_eq_ok, orFail_eq_ok,
      Option.filter_eq_some_iff, mapError_eq_ok, Table.insert_eq_ok, Except.ok.injEq,
      Prod.mk.injEq, inv.bound]
    exact ⟨_, reader, ⟨rfl, by simp [hnext]⟩, by simp [hassigned],
      ⟨reader.nextLocalSequence, hpos, hsequence⟩, decodeSequence_ok.mpr rfl,
      Nat.not_lt.mpr hversion, _, ⟨hrow, inv.toRow_fresh hnew, beq_self_eq_true _, rfl⟩, rfl,
      rfl⟩
  obtain ⟨queued, hqueued⟩ := hbody
  exact ⟨queued, transact_eq hqueued⟩

/-- A draft is enqueued exactly when it is not older than the reader row and its
policy version is a signed integer of SQLite. -/
theorem enqueued_iff (hfloat : ∀ bits, Text.sqliteNonBlank (codec.formatFloat bits) = true)
    {db₀ : ReaderDatabase} (h : FreshlyBound db₀) (ops : List Operation)
    (hbound : (Runs.run (perform codec) db₀ ops).readerState = some reader)
    (hnext : reader.nextLocalSequence < i64Max)
    (hnew : ∀ row ∈ (Runs.run (perform codec) db₀ ops).offlineTransactions,
      row.fareTransactionId ≠ draft.transactionId) :
    Enqueued codec (Runs.run (perform codec) db₀ ops) reader draft ↔
      reader.createdAt ≤ draft.createdAt ∧ draft.farePolicyVersion.value ≤ i64Max := by
  obtain ⟨row, inv⟩ := @consistent_run codec _ h ops
  obtain rfl : row = reader := Option.some.inj (inv.queue.bound.symm.trans hbound)
  constructor
  · rintro ⟨queued, hqueued⟩
    exact enqueue_needs hbound inv.queue.readerCheck (congrArg (·.result) hqueued)
  · rintro ⟨htime, hversion⟩
    exact inv.queue.enqueued hfloat hnext hnew htime hversion

/-- The sample draft under another identifier. -/
def sampleSecondDraft : OfflineTransactionDraft :=
  { sampleDraft (.object []) with
    transactionId := ⟨⟨0x7000800000000000000A#128, by decide⟩⟩ }

theorem enqueued_iff_submission :
    ∃ reader, (Runs.run (perform sampleCodec) sampleDatabase sampleSubmission).readerState =
        some reader ∧
      Enqueued sampleCodec (Runs.run (perform sampleCodec) sampleDatabase sampleSubmission)
        reader sampleSecondDraft := by
  have hreader : (Runs.run (perform sampleCodec) sampleDatabase sampleSubmission).readerState.map
      (fun row => (row.nextLocalSequence, row.createdAt)) = some (2, 0) := by decide +kernel
  obtain ⟨reader, hbound, hcolumns⟩ := Option.map_eq_some_iff.mp hreader
  obtain ⟨hnext, hcreated⟩ := Prod.mk.inj hcolumns
  refine ⟨reader, hbound, (enqueued_iff (fun _ => ?_) sampleDatabase_freshlyBound
    sampleSubmission hbound ?_ ?_).mpr ⟨?_, by decide⟩⟩
  · show Text.sqliteNonBlank "0.0" = true
    decide
  · rw [hnext]
    decide
  · decide +kernel
  · rw [hcreated]
    decide

/-- A reader whose database is created at 6. -/
def sampleLateIdentity : ReaderDatabaseIdentity :=
  { sampleIdentity with
    initializedAt := 6
    initializedAt_nonneg := by decide }

/-- The clock steps back behind the creation of the database: the draft of the
next tap, created at 0, is refused. -/
theorem not_enqueued_of_older_draft :
    ¬ ∀ (db₀ : ReaderDatabase) (ops : List Operation) (reader : ReaderStateRow)
        (draft : OfflineTransactionDraft), FreshlyBound db₀ →
      (Runs.run (perform sampleCodec) db₀ ops).readerState = some reader →
      reader.nextLocalSequence < i64Max →
      (∀ row ∈ (Runs.run (perform sampleCodec) db₀ ops).offlineTransactions,
        row.fareTransactionId ≠ draft.transactionId) →
      Enqueued sampleCodec (Runs.run (perform sampleCodec) db₀ ops) reader draft := by
  intro h
  obtain ⟨queued, hqueued⟩ := h (bindReaderDatabase .empty sampleLateIdentity).database []
    sampleLateIdentity.initialRow (sampleDraft (.object [])) ⟨sampleLateIdentity, _, rfl⟩ rfl
    (by decide) (fun _ hrow => nomatch hrow)
  have hrefused : (enqueueOfflineTransaction sampleCodec
      (bindReaderDatabase .empty sampleLateIdentity).database sampleReaderId
      (sampleDraft (.object []))).result.isOk = false := by decide +kernel
  have hok := congrArg (·.result.isOk) hqueued
  exact Bool.false_ne_true (hrefused.symm.trans hok)

end TransitGuard.Reader
