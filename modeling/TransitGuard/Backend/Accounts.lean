import TransitGuard.Backend.Committed
import TransitGuard.Backend.RoundTrip
import TransitGuard.Domain.Account

/-!
Transit accounts under the version check. Any number of transactions load an
account, decide what to do with it, and save it under the version they loaded.
However their statements interleave, no change is lost: the stored balance is
the opening balance with every committed credit and debit, and the version
counts the saves.
-/

namespace TransitGuard.Backend

open Fallible Isolation

/-! ## Transactions on accounts -/

/-- What a transaction does through the account port: it saves a new account,
or it loads one and calls operations that may depend on what it has loaded. -/
inductive AccountCall
  | create (account : TransitAccount)
  | update (id : TransitAccountId)
      (operations : TransitAccount → List TransitAccount.Operation)

inductive AccountResult
  | opened
  | missing
  | refused (error : TransitAccountError)
  | saved (operations : List TransitAccount.Operation)

/-- Loads an account, performs the operations and saves it under the version it
was loaded at. -/
def updateTransitAccount (id : TransitAccountId)
    (operations : TransitAccount → List TransitAccount.Operation) : CoreScript AccountResult := do
  match ← findTransitAccount id with
  | none => pure .missing
  | some loaded =>
    match loaded.aggregate.performAll (operations loaded.aggregate) with
    | .error error => pure (.refused error)
    | .ok account => do
      saveTransitAccount account (.ifVersion loaded.version)
      pure (.saved (operations loaded.aggregate))

def AccountCall.script : AccountCall → CoreScript AccountResult
  | .create account => do
    saveTransitAccount account .mustNotExist
    pure .opened
  | .update id operations => updateTransitAccount id operations

def accountPortSystem :
    System CoreDatabase CoreWrite CoreKey ApplicationError AccountCall AccountResult where
  script := AccountCall.script
  apply := CoreDatabase.apply
  deferred := CoreDatabase.deferred

/-! ## Changes of the table -/

def CoreDatabase.opened (db : CoreDatabase) (account : TransitAccount) : CoreDatabase :=
  { db with accounts := db.accounts ++ [.fromDomain account 1] }

def CoreDatabase.saved (db : CoreDatabase) (account : TransitAccount) (version : Nat) :
    CoreDatabase :=
  { db with
    accounts := Table.updateWhere (·.id == account.id) (fun _ => .fromDomain account version)
      db.accounts }

/-- Neither the account nor its rider is known. -/
structure Opens (db : CoreDatabase) (account : TransitAccount) : Prop where
  fresh : db.findAccount account.id = none
  rider : account.riderId ∉ db.accounts.map (·.riderId)

/-- The account `before` is stored at `version` and `after` is the same account
after some operations. -/
structure Saves (db : CoreDatabase) (before after : TransitAccount) (version : Nat) : Prop where
  stored : db.findAccount before.id = some (.fromDomain before version)
  version_lt : version < i64Max
  id : after.id = before.id
  rider : after.riderId = before.riderId

/-- What a transaction may commit in the database `db`. -/
inductive AccountEffect (db : CoreDatabase) : AccountCall → AccountResult → CoreDatabase → Prop
  | missing {call : AccountCall} : AccountEffect db call .missing db
  | refused {call : AccountCall} {error : TransitAccountError} :
      AccountEffect db call (.refused error) db
  | opened {account : TransitAccount} (hopens : Opens db account) :
      AccountEffect db (.create account) .opened (db.opened account)
  | saved {operations : TransitAccount → List TransitAccount.Operation}
      {before after : TransitAccount} {version : Nat} (hsaves : Saves db before after version)
      (hperformed : before.performAll (operations before) = .ok after) :
      AccountEffect db (.update before.id operations) (.saved (operations before))
        (db.saved after (version + 1))

/-- The keys hold and every row is an account at a version. -/
structure AccountsLoadable (db : CoreDatabase) : Prop where
  ids : (db.accounts.map (·.id)).Nodup
  riders : (db.accounts.map (·.riderId)).Nodup
  loads : ∀ row ∈ db.accounts, ∃ (account : TransitAccount) (version : AggregateVersion),
    version.value ≤ i64Max ∧ row = .fromDomain account version.value

/-- The row of an account and the rider of a new one are relied on through
their locks. -/
def accountDiscipline : Discipline CoreDatabase CoreKey where
  invariant := AccountsLoadable
  grows db db' := Table.Ages TransitAccountRow.id TransitAccountRow.aggregateVersion db.accounts
    db'.accounts
  agree
    | .account id, db, db' => db'.findAccount id = db.findAccount id
    | .rider id, db, db' =>
      (id ∈ db'.accounts.map (·.riderId) ↔ id ∈ db.accounts.map (·.riderId))
    | _, _, _ => True
  grows_refl db := Table.Ages.refl _ _ db.accounts
  grows_trans _ _ _ := Table.Ages.trans
  agree_refl key _ := by
    cases key <;> first | rfl | trivial
  agree_trans key db db' db'' h h' := by
    cases key
    case account id => exact Eq.trans h' h
    case rider id => exact Iff.trans h' h
    all_goals trivial

section Tables

variable {db : CoreDatabase} {account before after : TransitAccount} {version : Nat}

theorem findAccount_opened (id : TransitAccountId) (hne : id ≠ account.id) :
    (db.opened account).findAccount id = db.findAccount id :=
  Table.find_append_of_ne (Ne.symm hne)

theorem findAccount_saved (id : TransitAccountId) (hne : id ≠ account.id) :
    (db.saved account version).findAccount id = db.findAccount id :=
  Table.find_updateWhere_of_ne (k := TransitAccountRow.id)
    (f := fun _ => .fromDomain account version) (fun _ => rfl) hne

theorem mem_of_findAccount {id : TransitAccountId} {row : TransitAccountRow}
    (h : db.findAccount id = some row) : row ∈ db.accounts ∧ row.id = id :=
  ⟨List.mem_of_find?_eq_some h, Table.key_of_find h⟩

theorem AccountsLoadable.findAccount (h : AccountsLoadable db) {row : TransitAccountRow}
    (hrow : row ∈ db.accounts) : db.findAccount row.id = some row :=
  Table.find_of_mem h.ids hrow

/-- A stored account, as a transaction loads it. -/
theorem AccountsLoadable.load (h : AccountsLoadable db) {id : TransitAccountId}
    {loaded : VersionedAggregate TransitAccount}
    (hload : loadRow TransitAccountRow.intoVersioned (db.findAccount id) = .ok (some loaded)) :
    db.findAccount loaded.aggregate.id =
        some (.fromDomain loaded.aggregate loaded.version.value) ∧
      loaded.aggregate.id = id := by
  obtain ⟨row, hfind, hrow⟩ := loadRow_eq_some hload
  obtain ⟨hmem, hid⟩ := mem_of_findAccount hfind
  obtain ⟨account, version, -, rfl⟩ := h.loads row hmem
  rw [TransitAccountRow.intoVersioned_fromDomain] at hrow
  cases hrow
  exact ⟨by rw [← hfind, ← hid]; rfl, hid⟩

theorem Opens.findAccount_self (h : Opens db account) :
    (db.opened account).findAccount account.id = some (.fromDomain account 1) := by
  have hfresh : db.accounts.find? (·.id == (TransitAccountRow.fromDomain account 1).id) = none :=
    h.fresh
  exact Table.find_append_of_fresh hfresh

theorem Opens.loadable (h : Opens db account) (hdb : AccountsLoadable db) :
    AccountsLoadable (db.opened account) where
  ids := Table.nodup_map_append hdb.ids fun other hother hid =>
    Table.find_eq_none.mp h.fresh other hother hid.symm
  riders := Table.nodup_map_append hdb.riders fun other hother hrider =>
    h.rider (List.mem_map.mpr ⟨other, hother, hrider.symm⟩)
  loads := by
    intro row hrow
    rcases List.mem_append.mp hrow with hrow | hrow
    · exact hdb.loads row hrow
    · rw [List.mem_singleton] at hrow
      exact ⟨account, .initial, by decide, hrow⟩

theorem Opens.guarantee (h : Opens db account) (hdb : AccountsLoadable db)
    {held : List (Lock CoreKey)} (hid : ⟨.account account.id, .exclusive⟩ ∈ held)
    (hrider : ⟨.rider account.riderId, .exclusive⟩ ∈ held) :
    accountDiscipline.Guarantee held db (db.opened account) where
  invariant := h.loadable hdb
  grows row hrow := ⟨row, List.mem_append_left _ hrow, rfl, le_rfl, fun _ => rfl⟩
  agree key hkey := by
    cases key
    case account id => exact findAccount_opened id fun hsame => hkey (hsame ▸ hid)
    case rider id =>
      have hne : id ≠ account.riderId := fun hsame => hkey (hsame ▸ hrider)
      have hriders : (db.opened account).accounts.map (·.riderId) =
          db.accounts.map (·.riderId) ++ [account.riderId] := List.map_append
      show id ∈ (db.opened account).accounts.map (·.riderId) ↔ _
      rw [hriders, List.mem_append, List.mem_singleton]
      exact ⟨fun hmem => hmem.resolve_right hne, .inl⟩
    all_goals trivial

theorem Saves.findAccount_self (h : Saves db before after version) (next : Nat) :
    (db.saved after next).findAccount before.id = some (.fromDomain after next) := by
  have hstored : db.accounts.find? (·.id == after.id) = some (.fromDomain before version) :=
    h.id ▸ h.stored
  rw [← h.id]
  exact Table.find_updateWhere_self (k := TransitAccountRow.id)
    (f := fun _ => .fromDomain after next) (fun _ => rfl) hstored

/-- The row that a save replaces is the one the account was loaded from. -/
theorem Saves.replaced (h : Saves db before after version) (hdb : AccountsLoadable db)
    {row : TransitAccountRow} (hrow : row ∈ db.accounts) (hid : row.id = after.id) :
    row = .fromDomain before version := by
  have hfound := hdb.findAccount hrow
  rw [hid, h.id, h.stored] at hfound
  exact (Option.some.inj hfound).symm

theorem Saves.ids (after : TransitAccount) (next : Nat) (db : CoreDatabase) :
    (db.saved after next).accounts.map (·.id) = db.accounts.map (·.id) :=
  Table.map_replaced TransitAccountRow.id (.fromDomain after next) db.accounts

theorem Saves.riders (h : Saves db before after version) (hdb : AccountsLoadable db) (next : Nat) :
    (db.saved after next).accounts.map (·.riderId) = db.accounts.map (·.riderId) := by
  rw [CoreDatabase.saved, Table.updateWhere, List.map_map]
  refine List.map_congr_left fun row hrow => ?_
  rw [Function.comp_apply]
  split
  · next hid =>
    rw [h.replaced hdb hrow (beq_iff_eq.mp hid)]
    exact h.rider
  · rfl

theorem Saves.loadable (h : Saves db before after version) (hdb : AccountsLoadable db) :
    AccountsLoadable (db.saved after (version + 1)) where
  ids := by
    rw [Saves.ids]
    exact hdb.ids
  riders := by
    rw [h.riders hdb]
    exact hdb.riders
  loads := by
    refine Table.forall_updateWhere hdb.loads fun row _ _ => ?_
    have hlt : version + 1 < 2 ^ 64 := by
      have := h.version_lt
      simp only [i64Max] at this
      omega
    exact ⟨after, ⟨version + 1, by omega, hlt⟩, h.version_lt, rfl⟩

theorem Saves.guarantee (h : Saves db before after version) (hdb : AccountsLoadable db)
    {held : List (Lock CoreKey)} (hlock : ⟨.account before.id, .exclusive⟩ ∈ held) :
    accountDiscipline.Guarantee held db (db.saved after (version + 1)) where
  invariant := h.loadable hdb
  grows := by
    have hnewer : ∀ row ∈ db.accounts,
        row.id = (TransitAccountRow.fromDomain after (version + 1)).id →
          row.aggregateVersion < version + 1 := by
      intro row hrow hid
      rw [h.replaced hdb hrow hid]
      exact Nat.lt_succ_self version
    exact Table.Ages.replaced (k := TransitAccountRow.id) hnewer
  agree key hkey := by
    cases key
    case account id => exact findAccount_saved id fun hsame => hkey (hsame ▸ h.id ▸ hlock)
    case rider id =>
      show id ∈ (db.saved after (version + 1)).accounts.map (·.riderId) ↔ _
      rw [h.riders hdb]
    all_goals trivial

end Tables

/-! ## The statements -/

section Statements

variable {p : Point CoreDatabase CoreWrite CoreKey} {account before after : TransitAccount}
  {post : Unit → Point CoreDatabase CoreWrite CoreKey → Prop}

/-- An insert finds neither the account nor its rider. -/
theorem wp_openAccount (hpending : p.pending = [])
    (h : ∀ db, accountDiscipline.Rely p.held p.database db → Opens db account →
      post () ⟨db, [.insertAccount (.fromDomain account 1)],
        (TransitAccountRow.fromDomain account 1).locks ++ p.held⟩) :
    wp accountDiscipline CoreDatabase.apply post
      (saveTransitAccount account .mustNotExist) p := by
  obtain ⟨database, pending, held⟩ := p
  subst hpending
  refine wp_writing fun db hrely hstatement => h db hrely ?_
  obtain ⟨-, hfree, -⟩ := insertStatement_eq_ok.mp hstatement
  have hapart : ∀ row ∈ db.accounts, account.id ≠ row.id ∧ account.riderId ≠ row.riderId := by
    intro row hrow
    have hconflict := hfree row hrow
    simpa [TransitAccountRow.conflicts, TransitAccountRow.fromDomain] using hconflict
  refine ⟨Table.find_eq_none.mpr fun row hrow hid => (hapart row hrow).1 hid.symm, fun hmem => ?_⟩
  obtain ⟨row, hrow, hrider⟩ := List.mem_map.mp hmem
  exact (hapart row hrow).2 hrider.symm

/-- The version check turns the account that was loaded into the one that is
stored. -/
theorem wp_saveAccount {db : CoreDatabase} {held : List (Lock CoreKey)}
    {version : AggregateVersion}
    (hstored : db.findAccount before.id = some (.fromDomain before version.value))
    (hid : after.id = before.id) (hrider : after.riderId = before.riderId)
    (h : ∀ db' held', ⟨.account before.id, .exclusive⟩ ∈ held' →
      Saves db' before after version.value →
        post () ⟨db', [.updateAccount (.fromDomain after (version.value + 1))], held'⟩) :
    wp accountDiscipline CoreDatabase.apply post
      (saveTransitAccount after (.ifVersion version)) ⟨db, [], held⟩ := by
  simp only [saveTransitAccount, wp_bind, wp_ofExcept, mapError_eq_ok]
  rintro ⟨current, next⟩ hencoded
  obtain ⟨rfl, rfl, hlt⟩ := encodeNextVersion_ok hencoded
  refine wp_writing fun db' hrely hstatement => h db' _ ?_ ⟨?_, hlt, hid, hrider⟩
  · exact List.mem_append_left _ (hid ▸ List.mem_cons_self ..)
  · -- the statement found the row that was loaded, for no other has its version
    obtain ⟨-, -, -, hcount⟩ := updateStatement_eq_ok.mp hstatement
    obtain ⟨row, hrow, hselected⟩ := List.countP_pos_iff.mp (hcount ▸ Nat.one_pos)
    simp only [Bool.and_eq_true, beq_iff_eq] at hselected
    have hmem : row ∈ db'.accounts := hrow
    have hsame : row = .fromDomain before version.value :=
      Table.Ages.same hrely.grows hrely.invariant.ids (mem_of_findAccount hstored).1 hmem
        (hselected.1.trans hid) hselected.2
    have hfound := hrely.invariant.findAccount hmem
    rw [hsame] at hfound
    exact hfound

/-- An update writes nothing, or the account it has locked. -/
theorem wp_update {id : TransitAccountId} {db : CoreDatabase}
    {operations : TransitAccount → List TransitAccount.Operation} :
    wp accountDiscipline CoreDatabase.apply
      (fun result p => (p.pending = [] ∧ (result = .missing ∨ ∃ error, result = .refused error)) ∨
        ∃ before after version, before.id = id ∧ result = .saved (operations before) ∧
          before.performAll (operations before) = .ok after ∧
          p.pending = [.updateAccount (.fromDomain after (version + 1))] ∧
          ⟨.account before.id, .exclusive⟩ ∈ p.held ∧ Saves p.database before after version)
      (updateTransitAccount id operations) ⟨db, [], []⟩ := by
  simp only [updateTransitAccount, findTransitAccount, wp_bind, wp_select, wp_ofExcept,
    mapError_eq_ok, view_nil]
  intro db₁ hrely₁ found hload
  cases found with
  | none => exact .inl ⟨rfl, .inl rfl⟩
  | some loaded =>
    obtain ⟨hstored, hid⟩ := hrely₁.invariant.load hload
    cases hperformed : loaded.aggregate.performAll (operations loaded.aggregate) with
    | error error =>
      simp only [hperformed]
      exact .inl ⟨rfl, .inr ⟨error, rfl⟩⟩
    | ok account =>
      simp only [hperformed, wp_bind]
      obtain ⟨hrun, -⟩ := TransitAccount.performAll_ok hperformed
      obtain ⟨haccountId, hrider⟩ :=
        TransitAccount.run_identity loaded.aggregate (operations loaded.aggregate)
      rw [← hrun] at haccountId hrider
      refine wp_saveAccount hstored haccountId hrider fun db₂ held hlocked hsaves => ?_
      exact .inr ⟨loaded.aggregate, account, loaded.version.value, hid, rfl, hperformed, rfl,
        hlocked, hsaves⟩

end Statements

/-- Every transaction commits one of the effects, whatever runs beside it. -/
theorem accountPortSystem_allSafe : AllSafe accountPortSystem accountDiscipline AccountEffect := by
  intro call db _
  cases call with
  | create account =>
    refine wp_bind.mpr (wp_openAccount rfl fun db₁ _ hopens => ?_)
    intro db₂ hrely _
    have hid : ⟨.account account.id, .exclusive⟩ ∈
        (TransitAccountRow.fromDomain account 1).locks ++ [] := List.mem_cons_self ..
    have hrider : ⟨.rider account.riderId, .exclusive⟩ ∈
        (TransitAccountRow.fromDomain account 1).locks ++ [] :=
      List.mem_cons_of_mem _ (List.mem_cons_self ..)
    have hopens₂ : Opens db₂ account :=
      ⟨(hrely.key hid).trans hopens.fresh, fun hmem => hopens.rider ((hrely.key hrider).mp hmem)⟩
    exact ⟨.opened hopens₂, hopens₂.guarantee hrely.invariant hid hrider⟩
  | update id operations =>
    refine wp_mono ?_ wp_update
    rintro result p (⟨hpending, hresult⟩ | ⟨before, after, version, rfl, rfl, hperformed, hpending,
      hlocked, hsaves⟩) db' hrely -
    · rw [hpending]
      rcases hresult with rfl | ⟨error, rfl⟩
      · exact ⟨.missing, .refl hrely.invariant⟩
      · exact ⟨.refused, .refl hrely.invariant⟩
    · have hstored : db'.findAccount before.id = p.database.findAccount before.id :=
        hrely.key hlocked
      have hsaves' : Saves db' before after version :=
        { hsaves with stored := hstored.trans hsaves.stored }
      rw [hpending]
      exact ⟨.saved hsaves' hperformed, hsaves'.guarantee hrely.invariant hlocked⟩

/-! ## The ledger -/

/-- The operations by which a committed transaction changed the account. -/
def saveOf (id : TransitAccountId) (commit : AccountCall × AccountResult) :
    Option (List TransitAccount.Operation) :=
  match commit.2, commit.1 with
  | .saved operations, .update other _ => if other = id then some operations else none
  | _, _ => none

@[simp] theorem saveOf_saved (id other : TransitAccountId)
    (operations : TransitAccount → List TransitAccount.Operation)
    (performed : List TransitAccount.Operation) :
    saveOf id (.update other operations, .saved performed) =
      if other = id then some performed else none := rfl

/-- All changes of the account, in the order of the commits. -/
def saves (id : TransitAccountId) (history : List (AccountCall × AccountResult)) :
    List (List TransitAccount.Operation) :=
  history.filterMap (saveOf id)

theorem saves_append (id : TransitAccountId) (history : List (AccountCall × AccountResult))
    (commit : AccountCall × AccountResult) :
    saves id (history ++ [commit]) = saves id history ++ (saveOf id commit).toList := by
  rw [saves, List.filterMap_append, saves]
  cases h : saveOf id commit <;> simp [h]

theorem TransitAccountRow.fromDomain_inj {account account' : TransitAccount}
    {version version' : Nat} (h : fromDomain account version = fromDomain account' version') :
    account = account' ∧ version = version' := by
  refine ⟨?_, congrArg aggregateVersion h⟩
  -- at one version both rows load, and load alike
  have hinitial : fromDomain account AggregateVersion.initial.value =
      fromDomain account' AggregateVersion.initial.value :=
    congrArg (fun row : TransitAccountRow =>
      { row with aggregateVersion := AggregateVersion.initial.value }) h
  have hloads := congrArg intoVersioned hinitial
  rw [intoVersioned_fromDomain, intoVersioned_fromDomain] at hloads
  exact congrArg VersionedAggregate.aggregate (Except.ok.inj hloads)

/-- The table is what the history left. -/
structure Ledger (history : List (AccountCall × AccountResult)) (db : CoreDatabase) : Prop where
  known : ∀ id ∈ db.accounts.map (·.id), ∃ account,
    (.create account, .opened) ∈ history ∧ account.id = id
  unknown : ∀ id, db.findAccount id = none → saves id history = []
  stored : ∀ account, (.create account, .opened) ∈ history → ∃ reached,
    account.performAll (saves account.id history).flatten = .ok reached ∧
      db.findAccount account.id =
        some (.fromDomain reached ((saves account.id history).length + 1))

variable {history : List (AccountCall × AccountResult)} {db db' : CoreDatabase}

/-- A commit that leaves the table alone adds nothing to the ledger. -/
theorem Ledger.idle (h : Ledger history db) {commit : AccountCall × AccountResult}
    (hsave : ∀ id, saveOf id commit = none) (hopened : commit.2 ≠ .opened) :
    Ledger (history ++ [commit]) db := by
  have hsaves : ∀ id, saves id (history ++ [commit]) = saves id history := by
    intro id
    rw [saves_append, hsave, Option.toList_none, List.append_nil]
  refine ⟨fun id hid => ?_, fun id hid => ?_, fun account haccount => ?_⟩
  · obtain ⟨account, haccount, hid⟩ := h.known id hid
    exact ⟨account, List.mem_append_left _ haccount, hid⟩
  · rw [hsaves]
    exact h.unknown id hid
  · rw [hsaves]
    rcases List.mem_append.mp haccount with haccount | haccount
    · exact h.stored account haccount
    · rw [List.mem_singleton] at haccount
      exact absurd (congrArg Prod.snd haccount).symm hopened

theorem Ledger.open (h : Ledger history db) {account : TransitAccount} (hopens : Opens db account) :
    Ledger (history ++ [(.create account, .opened)]) (db.opened account) := by
  have hsaves : ∀ id, saves id (history ++ [(.create account, .opened)]) = saves id history := by
    intro id
    rw [saves_append]
    exact List.append_nil _
  refine ⟨fun id hid => ?_, fun id hid => ?_, fun other hother => ?_⟩
  · rw [CoreDatabase.opened, List.map_append, List.mem_append, List.map_singleton,
      List.mem_singleton] at hid
    rcases hid with hid | rfl
    · obtain ⟨known, hknown, hid⟩ := h.known id hid
      exact ⟨known, List.mem_append_left _ hknown, hid⟩
    · exact ⟨account, List.mem_append_right _ (List.mem_singleton_self _), rfl⟩
  · rw [hsaves]
    have hne : id ≠ account.id := by
      rintro rfl
      cases hopens.findAccount_self.symm.trans hid
    rw [findAccount_opened id hne] at hid
    exact h.unknown id hid
  · rw [hsaves]
    rcases List.mem_append.mp hother with hother | hother
    · obtain ⟨reached, hreached, hstored⟩ := h.stored other hother
      have hne : other.id ≠ account.id := by
        intro hid
        rw [hid, hopens.fresh] at hstored
        cases hstored
      exact ⟨reached, hreached, (findAccount_opened other.id hne).trans hstored⟩
    · rw [List.mem_singleton, Prod.mk.injEq, AccountCall.create.injEq] at hother
      obtain ⟨rfl, -⟩ := hother
      rw [h.unknown other.id hopens.fresh]
      exact ⟨other, rfl, hopens.findAccount_self⟩

theorem Ledger.save (h : Ledger history db) {before after : TransitAccount} {version : Nat}
    {operations : TransitAccount → List TransitAccount.Operation}
    (hsaves : Saves db before after version)
    (hperformed : before.performAll (operations before) = .ok after) :
    Ledger (history ++ [(.update before.id operations, .saved (operations before))])
      (db.saved after (version + 1)) := by
  have hself : saves before.id
      (history ++ [(.update before.id operations, .saved (operations before))]) =
        saves before.id history ++ [operations before] := by
    rw [saves_append, saveOf_saved, if_pos rfl, Option.toList_some]
  have hother : ∀ id, id ≠ before.id → saves id
      (history ++ [(.update before.id operations, .saved (operations before))]) =
        saves id history := by
    intro id hne
    rw [saves_append, saveOf_saved, if_neg (Ne.symm hne), Option.toList_none, List.append_nil]
  have hafter : ∀ id, id ≠ before.id →
      (db.saved after (version + 1)).findAccount id = db.findAccount id :=
    fun id hne => findAccount_saved id (hsaves.id ▸ hne)
  refine ⟨fun id hid => ?_, fun id hid => ?_, fun account haccount => ?_⟩
  · rw [Saves.ids] at hid
    obtain ⟨known, hknown, hid⟩ := h.known id hid
    exact ⟨known, List.mem_append_left _ hknown, hid⟩
  · have hne : id ≠ before.id := by
      rintro rfl
      cases (hsaves.findAccount_self (version + 1)).symm.trans hid
    rw [hother id hne]
    rw [hafter id hne] at hid
    exact h.unknown id hid
  · have hopened : (AccountCall.create account, AccountResult.opened) ∈ history := by
      rcases List.mem_append.mp haccount with haccount | haccount
      · exact haccount
      · rw [List.mem_singleton, Prod.mk.injEq] at haccount
        cases haccount.1
    obtain ⟨reached, hreached, hstored⟩ := h.stored account hopened
    by_cases hid : account.id = before.id
    · -- the account that was loaded is the one all earlier commits left
      have hrow : TransitAccountRow.fromDomain reached ((saves account.id history).length + 1) =
          .fromDomain before version := by
        have hfound := hsaves.stored
        rw [← hid, hstored] at hfound
        exact Option.some.inj hfound
      obtain ⟨rfl, rfl⟩ := TransitAccountRow.fromDomain_inj hrow
      rw [hid, hself, List.flatten_append, List.flatten_singleton, List.length_append,
        List.length_singleton]
      refine ⟨after, TransitAccount.performAll_append.mpr ⟨reached, ?_, hperformed⟩, ?_⟩
      · rw [← hid]
        exact hreached
      · exact hsaves.findAccount_self _
    · rw [hother _ hid, hafter _ hid]
      exact ⟨reached, hreached, hstored⟩

/-- Every commit keeps the ledger. -/
theorem Ledger.commit (h : Ledger history db) {call : AccountCall} {result : AccountResult}
    (heffect : AccountEffect db call result db') : Ledger (history ++ [(call, result)]) db' := by
  cases heffect with
  | missing => exact h.idle (fun _ => rfl) (by simp)
  | refused => exact h.idle (fun _ => rfl) (by simp)
  | opened hopens => exact h.open hopens
  | saved hsaves hperformed => exact h.save hsaves hperformed

theorem ledger_replays (hdb : db.accounts = []) (h : Replays AccountEffect db history db') :
    Ledger history db' := by
  induction h with
  | nil =>
    refine ⟨fun id hid => ?_, fun _ _ => rfl, fun _ hopened => absurd hopened List.not_mem_nil⟩
    rw [hdb] at hid
    exact absurd hid List.not_mem_nil
  | commit _ last ih => exact ih.commit last

/-- No change of an account is lost. However the statements of the transactions
interleave, an account is stored as its opening and every committed change in
turn leave it, at a version that counts them, with a balance that has every
committed credit and debit; each change was decided on the account as all
earlier ones had left it; and an account has one row and a rider one account. -/
theorem accounts_never_lose_changes {db : CoreDatabase} (hdb : db.accounts = [])
    (actions : List (Action AccountCall ApplicationError)) :
    let w := Runs.run accountPortSystem.step (World.start db) actions
    (w.database.accounts.map (·.id)).Nodup ∧
    (w.database.accounts.map (·.riderId)).Nodup ∧
    (∀ row ∈ w.database.accounts, ∃ account,
      (.create account, .opened) ∈ w.history ∧ account.id = row.id) ∧
    (∀ account, (.create account, .opened) ∈ w.history → ∃ reached,
      account.performAll (saves account.id w.history).flatten = .ok reached ∧
        w.database.findAccount account.id =
          some (.fromDomain reached ((saves account.id w.history).length + 1)) ∧
        reached.storedValue.amount.units = account.storedValue.amount.units +
          (TransitAccount.credits (saves account.id w.history).flatten).sum -
            (TransitAccount.debits (saves account.id w.history).flatten).sum) ∧
    ∀ earlier later id operations performed,
      w.history = earlier ++ (.update id operations, .saved performed) :: later →
        ∃ account reached, (.create account, .opened) ∈ earlier ∧ account.id = id ∧
          account.performAll (saves id earlier).flatten = .ok reached ∧
            performed = operations reached := by
  intro w
  have hempty : AccountsLoadable db := by
    constructor <;> simp [hdb]
  have hsound := sound_run accountPortSystem_allSafe hempty actions
  have hledger : Ledger w.history w.database := ledger_replays hdb hsound.replays
  refine ⟨hsound.invariant.ids, hsound.invariant.riders,
    fun row hrow => hledger.known _ (List.mem_map_of_mem hrow),
    fun account haccount => ?_, fun earlier later id operations performed hhistory => ?_⟩
  · obtain ⟨reached, hreached, hstored⟩ := hledger.stored account haccount
    exact ⟨reached, hreached, hstored, TransitAccount.performAll_units hreached⟩
  · have hreplays := hsound.replays
    rw [show (Runs.run accountPortSystem.step (World.start db) actions).history = _ from hhistory]
      at hreplays
    obtain ⟨before, after, hearlier, heffect⟩ := hreplays.split
    have hbefore : Ledger earlier before := ledger_replays hdb hearlier
    cases heffect with
    | saved hsaves hperformed =>
      obtain ⟨hmem, hid⟩ := mem_of_findAccount hsaves.stored
      obtain ⟨account, hopened, hsame⟩ := hbefore.known _ (List.mem_map_of_mem hmem)
      obtain ⟨reached, hreached, hstored⟩ := hbefore.stored account hopened
      have haccount := hsame.trans hid
      rw [haccount, hsaves.stored] at hstored
      obtain ⟨rfl, -⟩ := TransitAccountRow.fromDomain_inj (Option.some.inj hstored)
      exact ⟨account, _, hopened, haccount, haccount ▸ hreached, rfl⟩

/-- A credit and a debit load the account side by side. The debit finds a newer
version when it saves, and succeeds when it is tried again. -/
def sampleTopUp : List (Action AccountCall ApplicationError) :=
  [.begin (.create .sampleOpened), .advance 0, .advance 0,
    .begin (.update TransitAccount.sampleOpened.id fun _ => [.credit ⟨300, .usd⟩]),
    .begin (.update TransitAccount.sampleOpened.id fun _ => [.debit ⟨200, .usd⟩]),
    .advance 1, .advance 2, .advance 1, .advance 2, .advance 1, .advance 2,
    .begin (.update TransitAccount.sampleOpened.id fun _ => [.debit ⟨200, .usd⟩]),
    .advance 3, .advance 3, .advance 3]

theorem accounts_never_lose_changes_topUp :
    let w := Runs.run accountPortSystem.step (World.start ⟨[], [], []⟩) sampleTopUp
    w.sessions.map (fun session => match session.phase with
      | .ended (.ok _) => true
      | _ => false) = [true, true, false, true] ∧
    w.database.accounts.map (fun row => (row.storedValueMinorUnits, row.aggregateVersion)) =
      [(600, 3)] ∧
    (w.database.accounts.map (·.id)).Nodup ∧
    ∀ row ∈ w.database.accounts, ∃ account,
      (.create account, .opened) ∈ w.history ∧ account.id = row.id := by
  have hempty : (CoreDatabase.mk [] [] []).accounts = [] := rfl
  obtain ⟨hids, -, hopened, -, -⟩ := accounts_never_lose_changes hempty sampleTopUp
  exact ⟨by decide +kernel, by decide +kernel, hids, hopened⟩

end TransitGuard.Backend
