import Mathlib.Data.List.Sort
import Mathlib.Data.List.Nodup
import Mathlib.Data.List.Perm.Subperm

/-!
Tables of a relational store as lists of rows in insertion order, with the
statements the development runs on them. A statement is refused as a whole
when a row it writes breaks a constraint of the table.
-/

namespace Table

variable {α β κ : Type*}

/-- The constraint a refused statement broke. -/
inductive Violation
  | check
  | unique
  | foreignKey
  deriving DecidableEq, Repr

/-- `UPDATE .. SET f WHERE p`. -/
def updateWhere (p : α → Bool) (f : α → α) (rows : List α) : List α :=
  rows.map fun row => if p row then f row else row

/-- `updateWhere` under the CHECK constraint of the table, with the number of
rows affected. -/
def update (check p : α → Bool) (f : α → α) (rows : List α) : Option (List α × Nat) :=
  if rows.all fun row => !p row || check (f row) then
    some (updateWhere p f rows, rows.countP p)
  else none

/-- `INSERT` of one row. `conflicts` tells whether two rows agree on a key
declared unique, `references` whether the foreign keys of the row resolve. -/
def insert (check : α → Bool) (conflicts : α → α → Bool) (references : Bool)
    (row : α) (rows : List α) : Except Violation (List α) :=
  if !check row then .error .check
  else if rows.any (conflicts row) then .error .unique
  else if !references then .error .foreignKey
  else .ok (rows ++ [row])

/-- `UPDATE` of every column of the rows selected by `p`, which become `row`; the
result is the number of rows affected. Constraints are looked at only when a row
is selected. -/
def replace (check : α → Bool) (conflicts : α → α → Bool) (references : Bool) (p : α → Bool)
    (row : α) (rows : List α) : Except Violation Nat :=
  if rows.countP p = 0 then .ok 0
  else if !check row then .error .check
  else if rows.any fun other => !p other && conflicts row other then .error .unique
  else if !references then .error .foreignKey
  else .ok (rows.countP p)

/-- One `UPDATE` for each item in turn, each of which has to affect exactly one
row. -/
def updateEach {ε : Type*} (check : α → Bool) (p : β → α → Bool) (f : β → α → α) (refused : ε)
    (conflict : β → ε) : List β → List α → Except ε (List α)
  | [], rows => .ok rows
  | item :: rest, rows =>
    match update check (p item) (f item) rows with
    | none => .error refused
    | some (updated, affected) =>
      if affected = 1 then updateEach check p f refused conflict rest updated
      else .error (conflict item)

/-- `ORDER BY` a numeric key. -/
def orderBy (key : α → Nat) (rows : List α) : List α :=
  rows.insertionSort fun a b => key a ≤ key b

/-! ## What the statements do -/

theorem update_eq_some {check p : α → Bool} {f : α → α} {rows : List α}
    {out : List α × Nat} :
    update check p f rows = some out ↔
      (∀ row ∈ rows, p row = true → check (f row) = true) ∧
        out = (updateWhere p f rows, rows.countP p) := by
  have hall : (rows.all fun row => !p row || check (f row)) = true ↔
      ∀ row ∈ rows, p row = true → check (f row) = true := by
    simp only [List.all_eq_true, Bool.or_eq_true, Bool.not_eq_eq_eq_not, Bool.not_true]
    refine forall₂_congr fun row _ => ?_
    cases p row <;> simp
  unfold update
  by_cases h : (rows.all fun row => !p row || check (f row)) = true
  · rw [if_pos h, Option.some.injEq, ← hall]
    exact ⟨fun ho => ⟨h, ho.symm⟩, fun ho => ho.2.symm⟩
  · rw [if_neg h, ← hall]
    exact ⟨fun ho => (by cases ho), fun ho => absurd ho.1 h⟩

theorem insert_eq_ok {check : α → Bool} {conflicts : α → α → Bool} {references : Bool}
    {row : α} {rows out : List α} :
    insert check conflicts references row rows = .ok out ↔
      check row = true ∧ (∀ other ∈ rows, conflicts row other = false) ∧
        references = true ∧ out = rows ++ [row] := by
  have hany : rows.any (conflicts row) = false ↔
      ∀ other ∈ rows, conflicts row other = false := by
    simp only [List.any_eq_false, Bool.not_eq_true]
  unfold insert
  rw [← hany]
  cases check row <;> cases rows.any (conflicts row) <;> cases references <;>
    simp [eq_comm]

theorem replace_eq_ok {check : α → Bool} {conflicts : α → α → Bool} {references : Bool}
    {p : α → Bool} {row : α} {rows : List α} {affected : Nat} (hpos : 0 < affected) :
    replace check conflicts references p row rows = .ok affected ↔
      check row = true ∧ (∀ other ∈ rows, p other = false → conflicts row other = false) ∧
        references = true ∧ rows.countP p = affected := by
  unfold replace
  by_cases hcount : rows.countP p = 0
  · rw [if_pos hcount, hcount]
    exact ⟨fun h => (by cases h; cases hpos), fun h => absurd h.2.2.2.symm hpos.ne'⟩
  · rw [if_neg hcount]
    by_cases hcheck : check row = true
    · by_cases hunique : (rows.any fun other => !p other && conflicts row other) = true
      · obtain ⟨other, hother, hconflict⟩ := List.any_eq_true.mp hunique
        simp only [Bool.and_eq_true, Bool.not_eq_true'] at hconflict
        simp only [hcheck, hunique, Bool.not_true, Bool.false_eq_true, if_false, if_true, true_and]
        exact ⟨fun h => (by cases h),
          fun h => absurd hconflict.2 (by simp [h.1 other hother hconflict.1])⟩
      · have hfree : ∀ other ∈ rows, p other = false → conflicts row other = false := by
          simpa using hunique
        cases references <;> simp [hcheck, hunique]
        exact fun _ => hfree
    · simp [hcheck]

theorem mem_updateWhere {p : α → Bool} {f : α → α} {rows : List α} {row : α} :
    row ∈ updateWhere p f rows ↔
      ∃ old ∈ rows, row = if p old then f old else old := by
  simp only [updateWhere, List.mem_map, eq_comm]

/-- A column the statement does not set keeps its values, in order. -/
theorem map_updateWhere {p : α → Bool} {f : α → α} {k : α → κ}
    (hk : ∀ row, k (f row) = k row) (rows : List α) :
    (updateWhere p f rows).map k = rows.map k := by
  rw [updateWhere, List.map_map]
  refine List.map_congr_left fun row _ => ?_
  simp only [Function.comp_apply]
  split
  · exact hk row
  · rfl

/-- Tables that agree up to `g` agree on every column `g` does not touch. -/
theorem map_eq_of_map_eq {g : α → α} {rows rows' : List α} (h : rows'.map g = rows.map g)
    {c : α → κ} (hc : ∀ row, c (g row) = c row) : rows'.map c = rows.map c := by
  have hmap : ∀ rows : List α, (rows.map g).map c = rows.map c := fun rows => by
    rw [List.map_map]
    exact List.map_congr_left fun row _ => hc row
  rw [← hmap rows', h, hmap rows]

/-- A property of all rows survives a statement whose assignments have it. -/
theorem forall_updateWhere {p : α → Bool} {f : α → α} {rows : List α} {Q : α → Prop}
    (h : ∀ row ∈ rows, Q row) (hf : ∀ row ∈ rows, p row = true → Q (f row)) :
    ∀ row ∈ updateWhere p f rows, Q row := by
  intro row hrow
  obtain ⟨old, hold, rfl⟩ := mem_updateWhere.mp hrow
  by_cases hp : p old = true
  · rw [if_pos hp]
    exact hf old hold hp
  · rw [if_neg hp]
    exact h old hold

/-- Every row has a successor, itself or its assigned form. -/
theorem exists_updateWhere {p : α → Bool} {f : α → α} {rows : List α} {R : α → α → Prop}
    (refl : ∀ row, R row row) (hf : ∀ row ∈ rows, p row = true → R row (f row)) :
    ∀ row ∈ rows, ∃ row' ∈ updateWhere p f rows, R row row' := by
  intro row hrow
  refine ⟨_, mem_updateWhere.mpr ⟨row, hrow, rfl⟩, ?_⟩
  by_cases hp : p row = true
  · rw [if_pos hp]
    exact hf row hrow hp
  · rw [if_neg hp]
    exact refl row

/-- Every row has a predecessor, itself or the row it was assigned from. -/
theorem origin_updateWhere {p : α → Bool} {f : α → α} {rows : List α} {R : α → α → Prop}
    (refl : ∀ row, R row row) (hf : ∀ row ∈ rows, p row = true → R row (f row)) :
    ∀ row' ∈ updateWhere p f rows, ∃ row ∈ rows, R row row' := by
  intro row' hrow'
  obtain ⟨row, hrow, rfl⟩ := mem_updateWhere.mp hrow'
  refine ⟨row, hrow, ?_⟩
  by_cases hp : p row = true
  · rw [if_pos hp]
    exact hf row hrow hp
  · rw [if_neg hp]
    exact refl row

/-- Row for row, a statement relates the table to what it leaves. -/
theorem forall₂_updateWhere {p : α → Bool} {f : α → α} {rows : List α} {R : α → α → Prop}
    (h : ∀ row ∈ rows, R row (if p row then f row else row)) :
    List.Forall₂ R rows (updateWhere p f rows) := by
  rw [updateWhere, List.forall₂_map_right_iff]
  exact List.forall₂_same.mpr h

/-- A statement that keeps a condition is not seen by a query for it. -/
theorem any_updateWhere {p q : α → Bool} {f : α → α} (hf : ∀ row, p row = true → q (f row) = q row)
    (rows : List α) : (updateWhere p f rows).any q = rows.any q := by
  rw [updateWhere, List.any_map]
  congr 1
  funext row
  rw [Function.comp_apply]
  split
  · next hp => exact hf row hp
  · rfl

theorem updateWhere_eq_self {p : α → Bool} {f : α → α} {rows : List α}
    (h : ∀ row ∈ rows, p row = false) : updateWhere p f rows = rows := by
  rw [updateWhere]
  conv_rhs => rw [← List.map_id rows]
  exact List.map_congr_left fun row hrow => by simp [h row hrow]

theorem orderBy_of_sorted {key : α → Nat} {rows : List α}
    (h : (rows.map key).Pairwise (· ≤ ·)) : orderBy key rows = rows := by
  refine List.Pairwise.insertionSort_eq ?_
  exact List.pairwise_map.mp h

theorem mem_orderBy {key : α → Nat} {rows : List α} {row : α} :
    row ∈ orderBy key rows ↔ row ∈ rows :=
  List.mem_insertionSort _

/-- Every row stays under its key, with a version that does not fall and the
same content as long as it has the same version. -/
def Ages (k : α → κ) (version : α → Nat) (rows rows' : List α) : Prop :=
  ∀ row ∈ rows, ∃ row' ∈ rows', k row' = k row ∧ version row ≤ version row' ∧
    (version row' = version row → row' = row)

theorem Ages.refl (k : α → κ) (version : α → Nat) (rows : List α) : Ages k version rows rows :=
  fun row hrow => ⟨row, hrow, rfl, le_rfl, fun _ => rfl⟩

theorem Ages.trans {k : α → κ} {version : α → Nat} {rows rows' rows'' : List α}
    (h : Ages k version rows rows') (h' : Ages k version rows' rows'') :
    Ages k version rows rows'' := by
  intro row hrow
  obtain ⟨row', hrow', hk, hle, heq⟩ := h row hrow
  obtain ⟨row'', hrow'', hk', hle', heq'⟩ := h' row' hrow'
  refine ⟨row'', hrow'', hk'.trans hk, hle.trans hle', fun hversion => ?_⟩
  have hsame : version row' = version row := by omega
  rw [heq' (hversion.trans hsame.symm), heq hsame]

/-- Putting a row in the place of the one with its key keeps the keys. -/
theorem map_replaced [BEq κ] [LawfulBEq κ] (k : α → κ) (row : α) (rows : List α) :
    (updateWhere (k · == k row) (fun _ => row) rows).map k = rows.map k := by
  rw [updateWhere, List.map_map]
  refine List.map_congr_left fun old _ => ?_
  by_cases h : k old = k row <;> simp [h]

theorem Ages.replaced [BEq κ] [LawfulBEq κ] {k : α → κ} {version : α → Nat} {row : α}
    {rows : List α} (h : ∀ old ∈ rows, k old = k row → version old < version row) :
    Ages k version rows (updateWhere (k · == k row) (fun _ => row) rows) := by
  intro old hold
  refine ⟨_, mem_updateWhere.mpr ⟨old, hold, rfl⟩, ?_⟩
  by_cases hk : k old = k row
  · have hlt := h old hold hk
    rw [if_pos (by simp [hk])]
    exact ⟨hk.symm, hlt.le, fun hsame => absurd hsame hlt.ne'⟩
  · rw [if_neg (by simpa using hk)]
    exact ⟨rfl, le_rfl, fun _ => rfl⟩

/-- A row of the same key and version is the same row. -/
theorem Ages.same {k : α → κ} {version : α → Nat} {rows rows' : List α}
    (h : Ages k version rows rows') (hk : (rows'.map k).Nodup) {row row' : α} (hrow : row ∈ rows)
    (hrow' : row' ∈ rows') (hkey : k row' = k row) (hversion : version row' = version row) :
    row' = row := by
  obtain ⟨kept, hkept, hkeptKey, -, hsame⟩ := h row hrow
  obtain rfl : kept = row' :=
    List.inj_on_of_nodup_map hk hkept hrow' (hkeptKey.trans hkey.symm)
  exact hsame hversion

/-! ## Joins -/

/-- A join that finds exactly one partner for every row. -/
theorem join_spec {f : α → List (α × β)} {Q : α → β → Prop} {l : List α}
    (h : ∀ x ∈ l, ∃ y, f x = [(x, y)] ∧ Q x y) :
    (l.flatMap f).map Prod.fst = l ∧ ∀ pair ∈ l.flatMap f, Q pair.1 pair.2 := by
  induction l with
  | nil => exact ⟨rfl, fun pair hpair => absurd hpair List.not_mem_nil⟩
  | cons x l ih =>
    rw [List.forall_mem_cons] at h
    obtain ⟨⟨y, hf, hQ⟩, hrest⟩ := h
    obtain ⟨hfst, hpairs⟩ := ih hrest
    rw [List.flatMap_cons, hf, List.map_append, hfst]
    refine ⟨rfl, fun pair hpair => ?_⟩
    rcases List.mem_append.mp hpair with hpair | hpair
    · rw [List.mem_singleton] at hpair
      rw [hpair]
      exact hQ
    · exact hpairs pair hpair

/-! ## Unique keys -/

/-- Two rows of a table with a unique column are the same row as soon as they
agree on it. -/
theorem eq_of_key_eq {k : α → κ} {rows : List α} (hk : (rows.map k).Nodup)
    {a b : α} (ha : a ∈ rows) (hb : b ∈ rows) (h : k a = k b) : a = b :=
  List.inj_on_of_nodup_map hk ha hb h

theorem nodup_map_append {k : α → κ} {rows : List α} {row : α} (hk : (rows.map k).Nodup)
    (hfresh : ∀ other ∈ rows, k row ≠ k other) : ((rows ++ [row]).map k).Nodup := by
  rw [List.map_append, List.map_singleton, ← List.concat_eq_append]
  refine hk.concat fun hmem => ?_
  obtain ⟨other, hother, hkey⟩ := List.mem_map.mp hmem
  exact hfresh other hother hkey.symm

section Filter

variable [BEq κ] [LawfulBEq κ] {k : α → κ} {key : κ} {rows added : List α}

/-- Rows appended under other keys do not show up under `key`. -/
theorem filter_append_of_ne (h : ∀ row ∈ added, k row ≠ key) :
    (rows ++ added).filter (k · == key) = rows.filter (k · == key) := by
  have hnone : added.filter (k · == key) = [] := by
    rw [List.filter_eq_nil_iff]
    intro row hrow
    simpa using h row hrow
  rw [List.filter_append, hnone, List.append_nil]

/-- Rows appended under a fresh key are all the rows of that key. -/
theorem filter_append_of_fresh (hrows : ∀ row ∈ rows, k row ≠ key)
    (hadded : ∀ row ∈ added, k row = key) : (rows ++ added).filter (k · == key) = added := by
  have hnone : rows.filter (k · == key) = [] := by
    rw [List.filter_eq_nil_iff]
    intro row hrow
    simpa using hrows row hrow
  have hall : added.filter (k · == key) = added := by
    rw [List.filter_eq_self]
    intro row hrow
    simpa using hadded row hrow
  rw [List.filter_append, hnone, hall, List.nil_append]

/-- The rows under the unique key of a row are that row. -/
theorem filter_eq_singleton (hk : (rows.map k).Nodup) {row : α} (hrow : row ∈ rows) :
    rows.filter (k · == k row) = [row] := by
  induction rows with
  | nil => cases hrow
  | cons other rows ih =>
    obtain ⟨hnotin, hk⟩ := List.nodup_cons.mp hk
    rcases List.mem_cons.mp hrow with rfl | hrow
    · rw [List.filter_cons_of_pos (by simp), List.filter_eq_nil_iff.mpr]
      intro later hlater hsame
      exact hnotin (List.mem_map.mpr ⟨later, hlater, eq_of_beq hsame⟩)
    · rw [List.filter_cons_of_neg, ih hk hrow]
      intro hsame
      exact hnotin (List.mem_map.mpr ⟨row, hrow, (eq_of_beq hsame).symm⟩)

end Filter

/-! ## Lookups by key -/

/-- A statement that keeps a column is seen by the lookups of it row by row. -/
theorem find_updateWhere_of_keeps [BEq κ] {k : α → κ} {rows : List α} {p : α → Bool} {f : α → α}
    (hf : ∀ row, k (f row) = k row) (key : κ) :
    (updateWhere p f rows).find? (k · == key) =
      (rows.find? (k · == key)).map fun row => if p row then f row else row := by
  rw [updateWhere, List.find?_map]
  congr 2
  funext row
  by_cases hp : p row = true <;> simp [hp, hf]

/-- Tables that agree on the key and a column agree on all lookups of it. -/
theorem map_find_congr [BEq κ] {γ : Type*} {k : α → κ} {c : α → γ} {rows rows' : List α}
    (h : (rows'.map fun row => (k row, c row)) = rows.map fun row => (k row, c row)) (key : κ) :
    (rows'.find? (k · == key)).map c = (rows.find? (k · == key)).map c := by
  have hcolumns : ∀ rows : List α, (rows.find? (k · == key)).map c =
      ((rows.map fun row => (k row, c row)).find? (·.1 == key)).map Prod.snd := fun rows => by
    rw [List.find?_map, Option.map_map]
    rfl
  rw [hcolumns rows', h, hcolumns rows]

section Lookup

variable [BEq κ] [LawfulBEq κ] {k : α → κ} {key : κ} {rows : List α} {row : α}

theorem key_of_find (h : rows.find? (k · == key) = some row) : k row = key := by
  simpa using List.find?_some h

theorem find_eq_none : rows.find? (k · == key) = none ↔ ∀ row ∈ rows, k row ≠ key := by
  simp [List.find?_eq_none]

theorem find_of_mem (hk : (rows.map k).Nodup) (hrow : row ∈ rows) :
    rows.find? (k · == k row) = some row := by
  cases hfind : rows.find? (k · == k row) with
  | none => exact absurd rfl (find_eq_none.mp hfind row hrow)
  | some found =>
    have hkey : k found = k row := key_of_find hfind
    rw [eq_of_key_eq hk (List.mem_of_find?_eq_some hfind) hrow hkey]

theorem find_append_of_ne (h : k row ≠ key) :
    (rows ++ [row]).find? (k · == key) = rows.find? (k · == key) := by
  have hnone : [row].find? (k · == key) = none := by simpa [List.find?_eq_none] using h
  rw [List.find?_append, hnone, Option.or_none]

theorem find_append_of_fresh (h : rows.find? (k · == k row) = none) :
    (rows ++ [row]).find? (k · == k row) = some row := by
  rw [List.find?_append, h, Option.none_or, List.find?_cons_of_pos (by simp)]

/-- A statement that replaces the row of one key and keeps the key is seen by
the lookups of that key only. -/
theorem find_updateWhere {f : α → α} (hf : ∀ row, k (f row) = key) (other : κ) :
    (updateWhere (k · == key) f rows).find? (k · == other) =
      (rows.find? (k · == other)).map fun row => if k row == key then f row else row := by
  rw [updateWhere, List.find?_map]
  congr 2
  funext row
  by_cases hkey : k row = key <;> simp [hkey, hf]

theorem find_updateWhere_of_ne {f : α → α} (hf : ∀ row, k (f row) = key) {other : κ}
    (hne : other ≠ key) :
    (updateWhere (k · == key) f rows).find? (k · == other) = rows.find? (k · == other) := by
  rw [find_updateWhere hf]
  cases hfind : rows.find? (k · == other) with
  | none => rfl
  | some row => simp [key_of_find hfind, hne]

theorem find_updateWhere_self {f : α → α} (hf : ∀ row, k (f row) = key)
    (h : rows.find? (k · == key) = some row) :
    (updateWhere (k · == key) f rows).find? (k · == key) = some (f row) := by
  simp [find_updateWhere hf, h, key_of_find h]

theorem find_updateWhere_eq_none {f : α → α} (hf : ∀ row, k (f row) = key) {other : κ} :
    (updateWhere (k · == key) f rows).find? (k · == other) = none ↔
      rows.find? (k · == other) = none := by
  rw [find_updateWhere hf, Option.map_eq_none_iff]

end Lookup

section Counting

variable {k : α → κ} {p : α → Bool} {rows : List α}

private theorem nodup_selected (hk : (rows.map k).Nodup) : ((rows.filter p).map k).Nodup :=
  hk.sublist (List.filter_sublist.map k)

/-- A statement that affects as many rows as there are keys affects the row of
every key. -/
theorem exists_of_countP_eq {keys : List κ} (hk : (rows.map k).Nodup)
    (hp : ∀ row ∈ rows, p row = true → k row ∈ keys) (hcount : rows.countP p = keys.length)
    {key : κ} (hkey : key ∈ keys) : ∃ row ∈ rows, p row = true ∧ k row = key := by
  have hsub : ((rows.filter p).map k) ⊆ keys := by
    intro x hx
    obtain ⟨row, hrow, rfl⟩ := List.mem_map.mp hx
    exact hp row (List.mem_filter.mp hrow).1 (List.mem_filter.mp hrow).2
  have hperm : ((rows.filter p).map k).Perm keys := by
    refine ((nodup_selected hk).subperm hsub).perm_of_length_le ?_
    rw [List.length_map, ← List.countP_eq_length_filter, hcount]
  obtain ⟨row, hrow, rfl⟩ := List.mem_map.mp (hperm.mem_iff.mpr hkey)
  exact ⟨row, (List.mem_filter.mp hrow).1, (List.mem_filter.mp hrow).2, rfl⟩

theorem countP_eq_length_of_forall {keys : List κ} (hk : (rows.map k).Nodup)
    (hkeys : keys.Nodup) (hp : ∀ row ∈ rows, p row = true → k row ∈ keys)
    (hall : ∀ key ∈ keys, ∃ row ∈ rows, p row = true ∧ k row = key) :
    rows.countP p = keys.length := by
  have hperm : ((rows.filter p).map k).Perm keys := by
    refine (List.perm_ext_iff_of_nodup (nodup_selected hk) hkeys).mpr fun key => ?_
    constructor
    · intro hx
      obtain ⟨row, hrow, rfl⟩ := List.mem_map.mp hx
      exact hp row (List.mem_filter.mp hrow).1 (List.mem_filter.mp hrow).2
    · intro hkey
      obtain ⟨row, hrow, hprow, rfl⟩ := hall key hkey
      exact List.mem_map_of_mem (List.mem_filter.mpr ⟨hrow, hprow⟩)
  rw [List.countP_eq_length_filter, ← List.length_map k, hperm.length_eq]

/-- A statement whose condition fixes the value of a unique column affects a
single row as soon as it affects any. -/
theorem countP_eq_one_iff (hk : (rows.map k).Nodup) {key : κ}
    (hp : ∀ row ∈ rows, p row = true → k row = key) :
    rows.countP p = 1 ↔ ∃ row ∈ rows, p row = true := by
  have hp' : ∀ row ∈ rows, p row = true → k row ∈ [key] := fun row hrow hprow =>
    List.mem_singleton.mpr (hp row hrow hprow)
  constructor
  · intro hcount
    obtain ⟨row, hrow, hprow, -⟩ := exists_of_countP_eq hk hp' hcount (List.mem_singleton_self key)
    exact ⟨row, hrow, hprow⟩
  · rintro ⟨row, hrow, hprow⟩
    refine countP_eq_length_of_forall hk (List.nodup_singleton key) hp' fun key' hkey' => ?_
    rw [List.mem_singleton] at hkey'
    exact ⟨row, hrow, hprow, hkey' ▸ hp row hrow hprow⟩

/-- Such a statement changes nothing when it does not affect a single row. -/
theorem updateWhere_eq_self_of_count (hk : (rows.map k).Nodup) {key : κ} {f : α → α}
    (hp : ∀ row ∈ rows, p row = true → k row = key) (hcount : rows.countP p ≠ 1) :
    updateWhere p f rows = rows := by
  refine updateWhere_eq_self fun row hrow => ?_
  rw [← Bool.not_eq_true]
  intro hprow
  exact hcount ((countP_eq_one_iff hk hp).mpr ⟨row, hrow, hprow⟩)

/-- A statement that affects a single row affects the row of its key. -/
theorem selects_iff_of_countP (hk : (rows.map k).Nodup) {key : κ}
    (hp : ∀ row ∈ rows, p row = true → k row = key) (hone : rows.countP p = 1) :
    ∀ row ∈ rows, p row = true ↔ k row = key := by
  obtain ⟨found, hfound, hsel⟩ := (countP_eq_one_iff hk hp).mp hone
  refine fun row hrow => ⟨hp row hrow, fun hkey => ?_⟩
  rwa [eq_of_key_eq hk hrow hfound (hkey.trans (hp found hfound hsel).symm)]

/-- A statement that affects the rows of one key. -/
theorem updateWhere_eq_map [DecidableEq κ] {key : κ} {f : α → α}
    (h : ∀ row ∈ rows, p row = true ↔ k row = key) :
    updateWhere p f rows = rows.map fun row => if k row = key then f row else row := by
  refine List.map_congr_left fun row hrow => ?_
  simp only [h row hrow]

end Counting

/-! ## One update for each key -/

section Each

variable {ε : Type*} {check : α → Bool} {p : β → α → Bool} {f : β → α → α} {refused : ε}
  {conflict : β → ε} {k : α → κ} {ki : β → κ} {item : β} {items : List β} {rows : List α}

private theorem update_eq_some_one (hp : ∀ row, p item row = true → k row = ki item)
    (hk : (rows.map k).Nodup) :
    update check (p item) (f item) rows = some (updateWhere (p item) (f item) rows, 1) ↔
      ∃ row ∈ rows, p item row = true ∧ check (f item row) = true := by
  rw [update_eq_some, Prod.mk.injEq, eq_self, true_and, eq_comm,
    countP_eq_one_iff hk fun row _ => hp row]
  constructor
  · rintro ⟨hcheck, row, hrow, hsel⟩
    exact ⟨row, hrow, hsel, hcheck row hrow hsel⟩
  · rintro ⟨row, hrow, hsel, hcheck⟩
    refine ⟨fun other hother hsel' => ?_, row, hrow, hsel⟩
    rwa [eq_of_key_eq hk hother hrow ((hp other hsel').trans (hp row hsel).symm)]

/-- An update leaves the rows of every other key as they are. -/
private theorem exists_selected_updateWhere (hp : ∀ item row, p item row = true → k row = ki item)
    (hf : ∀ item row, k (f item row) = k row) {later : β} (hne : ki later ≠ ki item) :
    (∃ row ∈ updateWhere (p item) (f item) rows,
        p later row = true ∧ check (f later row) = true) ↔
      ∃ row ∈ rows, p later row = true ∧ check (f later row) = true := by
  constructor
  · rintro ⟨row, hrow, hsel, hcheck⟩
    obtain ⟨old, hold, rfl⟩ := mem_updateWhere.mp hrow
    by_cases hitem : p item old = true
    · rw [if_pos hitem] at hsel
      exact absurd (by rw [← hp later _ hsel, hf, hp item old hitem]) hne
    · rw [if_neg hitem] at hsel hcheck
      exact ⟨old, hold, hsel, hcheck⟩
  · rintro ⟨row, hrow, hsel, hcheck⟩
    refine ⟨row, mem_updateWhere.mpr ⟨row, hrow, ?_⟩, hsel, hcheck⟩
    rw [if_neg fun hitem => hne ((hp later row hsel).symm.trans (hp item row hitem))]

/-- One step of the updates, taken apart. -/
theorem updateEach_cons_eq_ok {out : List α} :
    updateEach check p f refused conflict (item :: items) rows = .ok out ↔
      (∀ row ∈ rows, p item row = true → check (f item row) = true) ∧
        rows.countP (p item) = 1 ∧
          updateEach check p f refused conflict items (updateWhere (p item) (f item) rows) =
            .ok out := by
  rw [updateEach]
  constructor
  · intro h
    cases hu : update check (p item) (f item) rows with
    | none => rw [hu] at h; cases h
    | some result =>
      obtain ⟨hcheck, rfl⟩ := update_eq_some.mp hu
      rw [hu] at h
      by_cases hone : rows.countP (p item) = 1
      · exact ⟨hcheck, hone, by simpa [hone] using h⟩
      · simp [hone] at h
  · rintro ⟨hcheck, hone, h⟩
    rw [update_eq_some.mpr ⟨hcheck, rfl⟩]
    simpa [hone] using h

theorem map_updateEach {γ : Type*} {c : α → γ} {out : List α}
    (h : updateEach check p f refused conflict items rows = .ok out)
    (hc : ∀ item row, c (f item row) = c row) :
    out.map c = rows.map c := by
  induction items generalizing rows with
  | nil => cases h; rfl
  | cons item items ih =>
    obtain ⟨-, -, h⟩ := updateEach_cons_eq_ok.mp h
    rw [ih h, map_updateWhere (hc item)]

theorem forall_check_updateEach {out : List α} (hrows : ∀ row ∈ rows, check row = true)
    (h : updateEach check p f refused conflict items rows = .ok out) :
    ∀ row ∈ out, check row = true := by
  induction items generalizing rows with
  | nil => cases h; exact hrows
  | cons item items ih =>
    obtain ⟨hcheck, -, h⟩ := updateEach_cons_eq_ok.mp h
    exact ih (forall_updateWhere hrows hcheck) h

theorem exists_updateEach {R : α → α → Prop} {out : List α}
    (h : updateEach check p f refused conflict items rows = .ok out) (refl : ∀ row, R row row)
    (trans : ∀ a b c, R a b → R b c → R a c)
    (hf : ∀ item row, p item row = true → R row (f item row)) :
    ∀ row ∈ rows, ∃ row' ∈ out, R row row' := by
  induction items generalizing rows with
  | nil => cases h; exact fun row hrow => ⟨row, hrow, refl row⟩
  | cons item items ih =>
    obtain ⟨-, -, h⟩ := updateEach_cons_eq_ok.mp h
    intro row hrow
    obtain ⟨next, hnext, hR⟩ := exists_updateWhere refl (fun row _ => hf item row) row hrow
    obtain ⟨last, hlast, hR'⟩ := ih h next hnext
    exact ⟨last, hlast, trans _ _ _ hR hR'⟩

theorem origin_updateEach {R : α → α → Prop} {out : List α}
    (h : updateEach check p f refused conflict items rows = .ok out) (refl : ∀ row, R row row)
    (trans : ∀ a b c, R a b → R b c → R a c)
    (hf : ∀ item ∈ items, ∀ row, p item row = true → R row (f item row)) :
    ∀ row' ∈ out, ∃ row ∈ rows, R row row' := by
  induction items generalizing rows with
  | nil => cases h; exact fun row hrow => ⟨row, hrow, refl row⟩
  | cons item items ih =>
    obtain ⟨-, -, h⟩ := updateEach_cons_eq_ok.mp h
    rw [List.forall_mem_cons] at hf
    intro row' hrow'
    obtain ⟨next, hnext, hR⟩ := ih h hf.2 row' hrow'
    obtain ⟨row, hrow, hR'⟩ := origin_updateWhere refl (fun row _ => hf.1 row) next hnext
    exact ⟨row, hrow, trans _ _ _ hR' hR⟩

variable [DecidableEq κ]

/-- The row under the assignment of the item with its key, if there is one. -/
def assignEach (k : α → κ) (ki : β → κ) (f : β → α → α) (items : List β) (row : α) : α :=
  match items.find? fun item => ki item = k row with
  | some item => f item row
  | none => row

theorem assignEach_cons (item : β) (items : List β) (row : α) :
    assignEach k ki f (item :: items) row =
      if ki item = k row then f item row else assignEach k ki f items row := by
  unfold assignEach
  by_cases h : ki item = k row <;> simp [h]

theorem assignEach_of_not_mem {row : α} (h : k row ∉ items.map ki) :
    assignEach k ki f items row = row := by
  have hnone : (items.find? fun item => ki item = k row) = none := by
    rw [List.find?_eq_none]
    intro item hitem hkey
    exact h (List.mem_map.mpr ⟨item, hitem, of_decide_eq_true hkey⟩)
  simp [assignEach, hnone]

/-- A row is assigned by the item with its key, or left as it is. -/
theorem assignEach_cases (k : α → κ) (ki : β → κ) (f : β → α → α) (items : List β) (row : α) :
    (∃ item ∈ items, ki item = k row ∧ assignEach k ki f items row = f item row) ∨
      (k row ∉ items.map ki ∧ assignEach k ki f items row = row) := by
  by_cases h : k row ∈ items.map ki
  · cases hfind : items.find? fun item => ki item = k row with
    | none =>
      obtain ⟨item, hitem, hkey⟩ := List.mem_map.mp h
      exact absurd (decide_eq_true hkey) (List.find?_eq_none.mp hfind item hitem)
    | some item =>
      have hkey := List.find?_some hfind
      exact .inl ⟨item, List.mem_of_find?_eq_some hfind, of_decide_eq_true hkey,
        by simp only [assignEach, hfind]⟩
  · exact .inr ⟨h, assignEach_of_not_mem h⟩

private theorem map_assignEach_updateWhere
    (hp : ∀ row, p item row = true → k row = ki item) (hf : ∀ item row, k (f item row) = k row)
    (hk : (rows.map k).Nodup) (hnotin : ki item ∉ items.map ki)
    (hfound : ∃ row ∈ rows, p item row = true) :
    (updateWhere (p item) (f item) rows).map (assignEach k ki f items) =
      rows.map (assignEach k ki f (item :: items)) := by
  obtain ⟨found, hfound, hsel⟩ := hfound
  rw [updateWhere, List.map_map]
  refine List.map_congr_left fun row hrow => ?_
  rw [Function.comp_apply, assignEach_cons]
  by_cases hkey : ki item = k row
  · have hsame : row = found := eq_of_key_eq hk hrow hfound (hkey.symm.trans (hp found hsel).symm)
    subst hsame
    rw [if_pos hkey, if_pos hsel, assignEach_of_not_mem]
    rw [hf, ← hkey]
    exact hnotin
  · rw [if_neg hkey, if_neg fun hrow => hkey (hp row hrow).symm]

/-- With unique keys on both sides the updates do not interfere: together they
succeed when each of them finds its row, and each row gets the assignment of
its own item. -/
theorem updateEach_eq_ok (hp : ∀ item row, p item row = true → k row = ki item)
    (hf : ∀ item row, k (f item row) = k row) {out : List α}
    (hk : (rows.map k).Nodup) (hi : (items.map ki).Nodup) :
    updateEach check p f refused conflict items rows = .ok out ↔
      (∀ item ∈ items, ∃ row ∈ rows, p item row = true ∧ check (f item row) = true) ∧
        out = rows.map (assignEach k ki f items) := by
  induction items generalizing rows with
  | nil =>
    have hid : rows.map (assignEach k ki f []) = rows := List.map_id rows
    simp only [updateEach, Except.ok.injEq, List.not_mem_nil, false_implies, implies_true,
      true_and, hid]
    exact eq_comm
  | cons item items ih =>
    obtain ⟨hnotin, hi⟩ := List.nodup_cons.mp hi
    have hfirst : update check (p item) (f item) rows =
        some (updateWhere (p item) (f item) rows, 1) ↔ _ := update_eq_some_one (hp item) hk
    have hrest : ∀ later ∈ items,
        ((∃ row ∈ updateWhere (p item) (f item) rows,
          p later row = true ∧ check (f later row) = true) ↔ _) := fun later hlater =>
      exists_selected_updateWhere hp hf fun hkey =>
        hnotin (List.mem_map.mpr ⟨later, hlater, hkey⟩)
    have hkeys : ((updateWhere (p item) (f item) rows).map k).Nodup := by
      rw [map_updateWhere (hf item)]
      exact hk
    rw [updateEach_cons_eq_ok, ih hkeys hi, forall₂_congr hrest, List.forall_mem_cons, ← hfirst,
      update_eq_some, Prod.mk.injEq, eq_self, true_and, and_assoc, and_assoc, eq_comm (a := 1)]
    refine and_congr_right fun _ => and_congr_right fun hone => ?_
    rw [map_assignEach_updateWhere (hp item) hf hk hnotin
      ((countP_eq_one_iff hk fun row _ => hp item row).mp hone)]

end Each

end Table
