import Mathlib.Logic.Relation
import TransitGuard.Backend.EventLog

/-!
Replacement chains. A credential is replaced by one that is stored after it, so
successors lead towards the end of the table: they never come back, and they end
at a credential that is not replaced. What stands behind this is the order of
creation, which in-place updates keep, and the insert of the successor, which
refuses an identifier in use.
-/

namespace TransitGuard.Backend

open Isolation Fallible

/-- The credential `a` records `b` as its successor. -/
def Succeeds (db : CoreDatabase) (a b : FareCredentialId) : Prop :=
  ∃ row ∈ db.credentials, row.id = a ∧ row.replacementId = some b

/-- Every successor is stored further on, for the same account, and belongs to
one credential only. -/
structure Linked (db : CoreDatabase) : Prop where
  loadable : Loadable db
  later : ∀ (i : Nat) row successor, db.credentials[i]? = some row →
    row.replacementId = some successor → ∃ (j : Nat) (row' : FareCredentialRow), i < j ∧
      db.credentials[j]? = some row' ∧ row'.id = successor ∧
        row'.transitAccountId = row.transitAccountId
  single : ∀ row ∈ db.credentials, ∀ row' ∈ db.credentials, ∀ successor,
    row.replacementId = some successor → row'.replacementId = some successor → row = row'

/-! ## Chains -/

section Chains

variable {db : CoreDatabase}

theorem Loadable.index_unique (h : Loadable db) {i j : Nat} {row row' : FareCredentialRow}
    (hi : db.credentials[i]? = some row) (hj : db.credentials[j]? = some row')
    (hid : row.id = row'.id) : i = j := by
  have hlt : i < (db.credentials.map (·.id)).length := by
    rw [List.length_map]
    exact (List.getElem?_eq_some_iff.mp hi).1
  refine (List.getElem?_inj hlt h.unique).mp ?_
  rw [List.getElem?_map, List.getElem?_map, hi, hj, Option.map_some, Option.map_some, hid]

/-- Successors lead to later rows. -/
theorem Linked.later_of_transGen (h : Linked db) {a b : FareCredentialId}
    (hchain : Relation.TransGen (Succeeds db) a b) {i : Nat} {row : FareCredentialRow}
    (hi : db.credentials[i]? = some row) (hid : row.id = a) :
    ∃ (j : Nat) (row' : FareCredentialRow), i < j ∧ db.credentials[j]? = some row' ∧
      row'.id = b := by
  have hstep : ∀ {i : Nat} {row : FareCredentialRow} {a b : FareCredentialId},
      db.credentials[i]? = some row → row.id = a → Succeeds db a b →
        ∃ (j : Nat) (row' : FareCredentialRow), i < j ∧ db.credentials[j]? = some row' ∧
          row'.id = b := by
    rintro i row a b hi hid ⟨found, hfound, hfoundId, hsuccessor⟩
    have hsame : found = row :=
      Table.eq_of_key_eq h.loadable.unique hfound (List.mem_of_getElem? hi)
        (hfoundId.trans hid.symm)
    subst hsame
    obtain ⟨j, row', hlt, hj, hid', -⟩ := h.later i found b hi hsuccessor
    exact ⟨j, row', hlt, hj, hid'⟩
  induction hchain with
  | single hsucceeds => exact hstep hi hid hsucceeds
  | tail _ hsucceeds ih =>
    obtain ⟨j, row', hlt, hj, hid'⟩ := ih
    obtain ⟨k, row'', hlt', hk, hid''⟩ := hstep hj hid' hsucceeds
    exact ⟨k, row'', hlt.trans hlt', hk, hid''⟩

/-- No chain of successors comes back. -/
theorem Linked.acyclic (h : Linked db) (id : FareCredentialId) :
    ¬ Relation.TransGen (Succeeds db) id id := by
  intro hcycle
  obtain ⟨next, ⟨row, hrow, hid, -⟩, -⟩ := Relation.TransGen.head'_iff.mp hcycle
  obtain ⟨i, hi⟩ := List.mem_iff_getElem?.mp hrow
  obtain ⟨j, row', hlt, hj, hid'⟩ := h.later_of_transGen hcycle hi hid
  exact hlt.ne (h.loadable.index_unique hi hj (hid.trans hid'.symm))

/-- Every chain ends at a credential without a successor. -/
theorem Linked.ends (h : Linked db) {i : Nat} {row : FareCredentialRow}
    (hi : db.credentials[i]? = some row) :
    ∃ last ∈ db.credentials, Relation.ReflTransGen (Succeeds db) row.id last.id ∧
      last.replacementId = none := by
  cases hsuccessor : row.replacementId with
  | none => exact ⟨row, List.mem_of_getElem? hi, .refl, hsuccessor⟩
  | some successor =>
    obtain ⟨j, row', hlt, hj, hid, -⟩ := h.later i row successor hi hsuccessor
    have hbound : j < db.credentials.length := (List.getElem?_eq_some_iff.mp hj).1
    obtain ⟨last, hlast, hchain, hend⟩ := h.ends hj
    refine ⟨last, hlast, .head ⟨row, List.mem_of_getElem? hi, rfl, ?_⟩ hchain, hend⟩
    rw [hsuccessor, hid]
termination_by db.credentials.length - i

end Chains

/-! ## What the effects do to the chains -/

section Effects

variable {db db' : CoreDatabase} {credential before after : FareCredential} {version : Nat}
  {event : DomainEventRow}

/-- A row after a status change is the changed one, or as it was. -/
theorem Transitions.origin (h : Transitions db before after version event) (hdb : Loadable db)
    {i : Nat} {row : FareCredentialRow}
    (hi : (db.changed after (version + 1) event).credentials[i]? = some row) :
    (db.credentials[i]? = some (.fromDomain before version) ∧
        row = .fromDomain after (version + 1)) ∨ db.credentials[i]? = some row := by
  rw [CoreDatabase.changed, Table.updateWhere, List.getElem?_map, Option.map_eq_some_iff] at hi
  obtain ⟨old, hold, hrow⟩ := hi
  by_cases hid : old.id = after.id
  · refine .inl ⟨?_, by simpa [hid] using hrow.symm⟩
    have hfound := hdb.findCredential (List.mem_of_getElem? hold)
    rw [hid, h.after_id, h.stored] at hfound
    rw [hold, hfound]
  · refine .inr ?_
    rw [hold, ← hrow, if_neg (by simpa using hid)]

/-- A row keeps its place, its identifier and its account. -/
theorem Transitions.kept (h : Transitions db before after version event) (hdb : Loadable db)
    {i : Nat} {old : FareCredentialRow} (hi : db.credentials[i]? = some old) :
    ∃ row, (db.changed after (version + 1) event).credentials[i]? = some row ∧ row.id = old.id ∧
      row.transitAccountId = old.transitAccountId := by
  rw [CoreDatabase.changed, Table.updateWhere, List.getElem?_map, hi, Option.map_some]
  by_cases hid : old.id = after.id
  · have hfound := hdb.findCredential (List.mem_of_getElem? hi)
    rw [hid, h.after_id, h.stored] at hfound
    cases hfound
    refine ⟨_, rfl, ?_, ?_⟩
    · simp [FareCredentialRow.fromDomain, h.after_id]
    · simpa [FareCredentialRow.fromDomain, h.after_id] using h.changes.transitAccountId
  · exact ⟨old, by simp [hid], rfl, rfl⟩

/-- A status change that records no successor leaves the chains alone. -/
theorem Transitions.linked (h : Transitions db before after version event) (hdb : Linked db)
    (hstatus : after.status ≠ .replaced) : Linked (db.changed after (version + 1) event) := by
  have hnone := FareCredential.replacementId_eq_none hstatus
  have horigin : ∀ {i : Nat} {row : FareCredentialRow} {successor : FareCredentialId},
      (db.changed after (version + 1) event).credentials[i]? = some row →
        row.replacementId = some successor → db.credentials[i]? = some row := by
    intro i row successor hi hsuccessor
    rcases h.origin hdb.loadable hi with ⟨-, rfl⟩ | hold
    · rw [FareCredentialRow.fromDomain, hnone] at hsuccessor
      cases hsuccessor
    · exact hold
  refine ⟨h.loadable hdb.loadable, ?_, ?_⟩
  · intro i row successor hi hsuccessor
    obtain ⟨j, old, hlt, hj, hid, haccount⟩ :=
      hdb.later i row successor (horigin hi hsuccessor) hsuccessor
    obtain ⟨row', hj', hid', haccount'⟩ := h.kept hdb.loadable hj
    exact ⟨j, row', hlt, hj', hid'.trans hid, haccount'.trans haccount⟩
  · intro row hrow row' hrow' successor hsuccessor hsuccessor'
    obtain ⟨i, hi⟩ := List.mem_iff_getElem?.mp hrow
    obtain ⟨j, hj⟩ := List.mem_iff_getElem?.mp hrow'
    exact hdb.single row (List.mem_of_getElem? (horigin hi hsuccessor)) row'
      (List.mem_of_getElem? (horigin hj hsuccessor')) successor hsuccessor hsuccessor'

/-- A new credential closes the chains that were open to its identifier. -/
theorem Creates.linked (h : Creates db credential event) (hdb : Loadable db)
    (hlater : ∀ (i : Nat) row successor, db.credentials[i]? = some row →
      row.replacementId = some successor →
        (∃ (j : Nat) (row' : FareCredentialRow), i < j ∧ db.credentials[j]? = some row' ∧
          row'.id = successor ∧ row'.transitAccountId = row.transitAccountId) ∨
        (successor = credential.id ∧ credential.transitAccountId = row.transitAccountId))
    (hsingle : ∀ row ∈ db.credentials, ∀ row' ∈ db.credentials, ∀ successor,
      row.replacementId = some successor → row'.replacementId = some successor → row = row') :
    Linked (db.created credential event) := by
  have hnone : (FareCredentialRow.fromDomain credential 1).replacementId = none :=
    FareCredential.replacementId_eq_none (by rw [h.pending]; nofun)
  have hold : ∀ {row : FareCredentialRow} {successor : FareCredentialId},
      row ∈ (db.created credential event).credentials → row.replacementId = some successor →
        row ∈ db.credentials := by
    intro row successor hrow hsuccessor
    rcases List.mem_append.mp hrow with hrow | hrow
    · exact hrow
    · rw [List.mem_singleton.mp hrow, hnone] at hsuccessor
      cases hsuccessor
  have hkept : ∀ {i : Nat} {row : FareCredentialRow}, db.credentials[i]? = some row →
      (db.created credential event).credentials[i]? = some row := by
    intro i row hi
    rw [CoreDatabase.created, List.getElem?_append_left (List.getElem?_eq_some_iff.mp hi).1, hi]
  refine ⟨h.loadable hdb, ?_, ?_⟩
  · intro i row successor hi hsuccessor
    obtain ⟨i', hi'⟩ := List.mem_iff_getElem?.mp (hold (List.mem_of_getElem? hi) hsuccessor)
    obtain rfl : i' = i := (h.loadable hdb).index_unique (hkept hi') hi rfl
    rcases hlater i' row successor hi' hsuccessor with
      ⟨j, row', hlt, hj, hid, haccount⟩ | ⟨rfl, haccount⟩
    · exact ⟨j, row', hlt, hkept hj, hid, haccount⟩
    · refine ⟨db.credentials.length, .fromDomain credential 1,
        (List.getElem?_eq_some_iff.mp hi').1, ?_, rfl, haccount⟩
      rw [CoreDatabase.created, List.getElem?_append_right le_rfl, Nat.sub_self]
      rfl
  · intro row hrow row' hrow' successor hsuccessor hsuccessor'
    exact hsingle row (hold hrow hsuccessor) row' (hold hrow' hsuccessor') successor hsuccessor
      hsuccessor'

theorem Effect.linked {call : CredentialCall} {result : CredentialResult}
    (h : Effect db call result db') (hdb : Linked db) : Linked db' := by
  cases h with
  | unchanged => exact hdb
  | issued _ _ _ _ _ hcreates =>
    exact hcreates.linked hdb.loadable
      (fun i row successor hi hsuccessor => .inl (hdb.later i row successor hi hsuccessor))
      hdb.single
  | changed _ hstatus htransitions => exact htransitions.linked hdb hstatus
  | @replaced command ports _ before after replacement version event replacementEvent _ _ _
      htransitions hsuccessor howner hcreates =>
    -- nobody names the identifier of the new credential, since it was not stored
    have hunnamed : ∀ row ∈ db.credentials, row.replacementId ≠ some replacement.id := by
      intro row hrow hnamed
      obtain ⟨i, hi⟩ := List.mem_iff_getElem?.mp hrow
      obtain ⟨j, row', -, hj, hid, -⟩ := hdb.later i row replacement.id hi hnamed
      exact Table.find_eq_none.mp ((findCredential_changed_eq_none _).mp hcreates.fresh) row'
        (List.mem_of_getElem? hj) hid
    refine hcreates.linked (htransitions.loadable hdb.loadable) ?_ ?_
    · intro i row successor hi hnamed
      rcases htransitions.origin hdb.loadable hi with ⟨-, rfl⟩ | hold
      · refine .inr ⟨?_, howner.trans htransitions.changes.transitAccountId.symm⟩
        exact Option.some.inj (hnamed.symm.trans hsuccessor)
      · obtain ⟨j, old, hlt, hj, hid, haccount⟩ := hdb.later i row successor hold hnamed
        obtain ⟨row', hj', hid', haccount'⟩ := htransitions.kept hdb.loadable hj
        exact .inl ⟨j, row', hlt, hj', hid'.trans hid, haccount'.trans haccount⟩
    · intro row hrow row' hrow' successor hnamed hnamed'
      obtain ⟨i, hi⟩ := List.mem_iff_getElem?.mp hrow
      obtain ⟨j, hj⟩ := List.mem_iff_getElem?.mp hrow'
      rcases htransitions.origin hdb.loadable hi with ⟨-, rfl⟩ | hold <;>
        rcases htransitions.origin hdb.loadable hj with ⟨-, rfl⟩ | hold'
      · rfl
      · obtain rfl : successor = replacement.id :=
          Option.some.inj (hnamed.symm.trans hsuccessor)
        exact absurd hnamed' (hunnamed row' (List.mem_of_getElem? hold'))
      · obtain rfl : successor = replacement.id :=
          Option.some.inj (hnamed'.symm.trans hsuccessor)
        exact absurd hnamed (hunnamed row (List.mem_of_getElem? hold))
      · exact hdb.single row (List.mem_of_getElem? hold) row' (List.mem_of_getElem? hold')
          successor hnamed hnamed'

end Effects

/-! ## Repeating a replacement -/

theorem Linked.deferred {db : CoreDatabase} (h : Linked db) : db.deferred = .ok () := by
  unfold CoreDatabase.deferred
  rw [if_pos]
  simp only [List.all_eq_true, Option.all_eq_true, List.any_eq_true, beq_iff_eq]
  intro row hrow successor hsuccessor
  obtain ⟨i, hi⟩ := List.mem_iff_getElem?.mp hrow
  obtain ⟨j, row', -, hj, hid, -⟩ := h.later i row successor hi hsuccessor
  exact ⟨row', List.mem_of_getElem? hj, hid⟩

/-- Replacing a replaced credential reports the recorded successor and writes
nothing. -/
theorem Linked.execute_replace {db : CoreDatabase} (h : Linked db) {original : FareCredential}
    {version : AggregateVersion} {successor : FareCredentialId}
    (hstored : db.findCredential original.id = some (.fromDomain original version.value))
    (hsuccessor : original.replacementId = some successor)
    (command : ReplaceFareCredentialCommand) (hcommand : command.credentialId = original.id)
    (ports : Ports) :
    ∃ status, credentialSystem.execute db (.replace command ports) =
      (.ok (.replaced ⟨original.id, successor, .replaced, .replaced, status, false⟩), db) := by
  have hstatus : original.status = .replaced := by
    simpa [hsuccessor] using original.replacementId_isSome
  obtain ⟨i, hi⟩ := List.mem_iff_getElem?.mp (mem_of_findCredential hstored).1
  obtain ⟨j, row, -, hj, hid, haccount⟩ := h.later i _ successor hi hsuccessor
  have hrow := List.mem_of_getElem? hj
  obtain ⟨recorded, version', -, rfl⟩ := h.loadable.loads row hrow
  have hfound : db.findCredential successor = some (.fromDomain recorded version'.value) :=
    hid ▸ h.loadable.findCredential hrow
  have haccount' : recorded.transitAccountId = original.transitAccountId := haccount
  refine ⟨recorded.status, ?_⟩
  simp only [System.execute, credentialSystem, CredentialCall.script, replaceFareCredential,
    findFareCredential, Script.bind_assoc, System.executeFrom_select, view_nil, hcommand, hstored,
    loadRow, FareCredentialRow.intoVersioned_fromDomain, Except.map, Except.mapError,
    System.executeFrom_ofExcept_ok, orFail, hstatus, if_true, repeatReplacement, hsuccessor, hfound]
  have hrecorded : checkSuccessor original (some ⟨recorded, version'⟩) = .ok recorded := by
    simp [checkSuccessor, orFail, haccount', ok_bind]
  rw [hrecorded, System.executeFrom_ofExcept_ok]
  exact credentialSystem.executeFrom_pure h.deferred

/-! ## Every reachable database -/

theorem CoreDatabase.WithoutCredentials.linked {db : CoreDatabase} (h : db.WithoutCredentials) :
    Linked db :=
  ⟨h.logged.loadable, by simp [h.credentials], by simp [h.credentials]⟩

theorem credentialRun_linked {db : CoreDatabase} (h : db.WithoutCredentials)
    (actions : List CredentialAction) : Linked (credentialRun db actions).database :=
  (credentialRun_sound h actions).replays.invariant
    (fun _ _ _ _ hdb heffect => heffect.linked hdb) h.linked

/-- The status column of a row says whether it has a successor. -/
theorem Loadable.replaced_iff {db : CoreDatabase} (h : Loadable db) {row : FareCredentialRow}
    (hrow : row ∈ db.credentials) :
    row.replacementId.isSome = true ↔
      row.status = PostgresValueCodec.encodeCredentialStatus .replaced := by
  obtain ⟨credential, version, -, rfl⟩ := h.loads row hrow
  change credential.replacementId.isSome = true ↔ PostgresValueCodec.encodeCredentialStatus
    credential.status = PostgresValueCodec.encodeCredentialStatus .replaced
  rw [credential.replacementId_isSome, beq_iff_eq]
  exact ⟨fun hstatus => by rw [hstatus], PostgresValueCodec.encodeCredentialStatus_inj⟩

/-- Credentials with a successor are the replaced ones; the successor is stored,
for the same account, and succeeds nothing else; successors never come back and
lead to a credential that is not replaced; and replacing a replaced credential
reports its successor and changes nothing. -/
theorem replacement_chains (db : CoreDatabase) (hdb : db.WithoutCredentials)
    (actions : List CredentialAction) (reached : CoreDatabase)
    (hreached : reached = (credentialRun db actions).database) :
    (∀ row ∈ reached.credentials, row.replacementId.isSome = true ↔
      row.status = PostgresValueCodec.encodeCredentialStatus .replaced) ∧
    (∀ row ∈ reached.credentials, ∀ successor, row.replacementId = some successor →
      ∃ row' ∈ reached.credentials, row'.id = successor ∧
        row'.transitAccountId = row.transitAccountId) ∧
    (∀ row ∈ reached.credentials, ∀ row' ∈ reached.credentials, ∀ successor,
      row.replacementId = some successor → row'.replacementId = some successor → row = row') ∧
    (∀ id, ¬ Relation.TransGen (Succeeds reached) id id) ∧
    (∀ row ∈ reached.credentials, ∃ last ∈ reached.credentials,
      Relation.ReflTransGen (Succeeds reached) row.id last.id ∧
        last.status ≠ PostgresValueCodec.encodeCredentialStatus .replaced) ∧
    ∀ row ∈ reached.credentials,
      row.status = PostgresValueCodec.encodeCredentialStatus .replaced →
        ∀ (command : ReplaceFareCredentialCommand) (ports : Ports),
          command.credentialId = row.id →
            ∃ result, credentialSystem.execute reached (.replace command ports) =
              (.ok (.replaced result), reached) ∧
              row.replacementId = some result.replacementCredentialId ∧
              result.changed = false := by
  have hlinked : Linked reached := hreached ▸ credentialRun_linked hdb actions
  refine ⟨fun row => hlinked.loadable.replaced_iff, ?_, hlinked.single, hlinked.acyclic, ?_, ?_⟩
  · intro row hrow successor hsuccessor
    obtain ⟨i, hi⟩ := List.mem_iff_getElem?.mp hrow
    obtain ⟨j, row', -, hj, hid, haccount⟩ := hlinked.later i row successor hi hsuccessor
    exact ⟨row', List.mem_of_getElem? hj, hid, haccount⟩
  · intro row hrow
    obtain ⟨i, hi⟩ := List.mem_iff_getElem?.mp hrow
    obtain ⟨last, hlast, hchain, hend⟩ := hlinked.ends hi
    refine ⟨last, hlast, hchain, fun hstatus => ?_⟩
    have hsome := (hlinked.loadable.replaced_iff hlast).mpr hstatus
    rw [hend] at hsome
    cases hsome
  · intro row hrow hstatus command ports hcommand
    obtain ⟨successor, hsuccessor⟩ :=
      Option.isSome_iff_exists.mp ((hlinked.loadable.replaced_iff hrow).mpr hstatus)
    obtain ⟨original, version, -, rfl⟩ := hlinked.loadable.loads row hrow
    obtain ⟨status, hexecute⟩ := hlinked.execute_replace (hlinked.loadable.findCredential hrow)
      hsuccessor command hcommand ports
    exact ⟨_, hexecute, hsuccessor, rfl⟩

/-- After two replacements of one credential, one of them is recorded. -/
theorem replacement_chains_sample :
    (credentialRun sampleCoreDatabase sampleSchedule).database.credentials.map
      (·.replacementId) = [some sampleReplacementId, none] ∧
    ∀ id, ¬ Relation.TransGen
      (Succeeds (credentialRun sampleCoreDatabase sampleSchedule).database) id id :=
  ⟨by decide +kernel, (replacement_chains sampleCoreDatabase
    sampleCoreDatabase_withoutCredentials sampleSchedule _ rfl).2.2.2.1⟩

end TransitGuard.Backend
