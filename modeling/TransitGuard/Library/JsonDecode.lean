import Mathlib.Data.List.Sort
import TransitGuard.Library.Json

/-!
Reading JSON values: `serde_json::to_value`, which builds every object as a map
in key order, and the derived decoders, which take the fields of a struct by
name from an object or by position from an array. Decoding therefore does not
depend on the order in which a database returns the members.
-/

namespace Json

/-! ## Maps -/

/-- Members in key order. -/
def sortMembers (members : List (String × Value)) : List (String × Value) :=
  members.insertionSort fun a b => a.1 ≤ b.1

mutual
/-- The value with the members of every object in key order. -/
def Value.normalize : Value → Value
  | .array items => .array (normalizeItems items)
  | .object members => .object (sortMembers (normalizeMembers members))
  | v => v
def normalizeItems : List Value → List Value
  | [] => []
  | v :: rest => v.normalize :: normalizeItems rest
def normalizeMembers : List (String × Value) → List (String × Value)
  | [] => []
  | (key, v) :: rest => (key, v.normalize) :: normalizeMembers rest
end

theorem normalizeItems_eq (items : List Value) :
    normalizeItems items = items.map Value.normalize := by
  induction items with
  | nil => rfl
  | cons v items ih => rw [normalizeItems, ih, List.map_cons]

theorem normalizeMembers_eq (members : List (String × Value)) :
    normalizeMembers members = members.map fun member => (member.1, member.2.normalize) := by
  induction members with
  | nil => rfl
  | cons member members ih =>
    obtain ⟨key, v⟩ := member
    rw [normalizeMembers, ih, List.map_cons]

@[simp] theorem normalize_string (s : String) : (Value.string s).normalize = .string s := by
  rw [Value.normalize] <;> nofun

@[simp] theorem normalize_bool (b : Bool) : (Value.bool b).normalize = .bool b := by
  rw [Value.normalize] <;> nofun

@[simp] theorem normalize_null : Value.null.normalize = .null := by
  rw [Value.normalize] <;> nofun

@[simp] theorem normalize_nat (n : Nat) : (nat n).normalize = nat n := by
  rw [nat, Value.normalize] <;> nofun

@[simp] theorem normalize_int (n : Int64) : (int n).normalize = int n := by
  unfold int
  split <;> rw [Value.normalize] <;> nofun

/-! ## Fields -/

/-- The fields of a struct in the order of their declaration. An object gives
them by name and must not repeat one, an array by position; a field that is not
there is `none`. -/
def Value.fields (names : List String) : Value → Option (List (Option Value))
  | .object members =>
    if names.any fun name => 1 < members.countP (·.1 == name) then none
    else some (names.map fun name => members.lookup name)
  | .array items => if items.length = names.length then some (items.map some) else none
  | _ => none

theorem lookup_eq_of_perm {l l' : List (String × Value)} (hperm : l.Perm l')
    (hkeys : (l.map Prod.fst).Nodup) (name : String) : l.lookup name = l'.lookup name := by
  induction hperm with
  | nil => rfl
  | cons member _ ih =>
    rw [List.map_cons, List.nodup_cons] at hkeys
    obtain ⟨key, v⟩ := member
    rw [List.lookup_cons, List.lookup_cons, ih hkeys.2]
  | swap a b l =>
    obtain ⟨key, v⟩ := a
    obtain ⟨key', v'⟩ := b
    have hne : key' ≠ key := by
      simp only [List.map_cons, List.nodup_cons, List.mem_cons, not_or] at hkeys
      exact hkeys.1.1
    simp only [List.lookup_cons]
    cases h : name == key <;> cases h' : name == key'
    · rfl
    · rfl
    · rfl
    · exact absurd ((eq_of_beq h').symm.trans (eq_of_beq h)) hne
  | trans h _ ih ih' => exact (ih hkeys).trans (ih' ((h.map Prod.fst).nodup_iff.mp hkeys))

theorem map_lookup_keys {members : List (String × Value)}
    (hkeys : (members.map Prod.fst).Nodup) :
    ((members.map Prod.fst).map fun name => members.lookup name) =
      members.map fun member => some member.2 := by
  induction members with
  | nil => rfl
  | cons member members ih =>
    obtain ⟨key, v⟩ := member
    obtain ⟨hnotin, hrest⟩ := List.nodup_cons.mp hkeys
    have hlater : ∀ name ∈ members.map Prod.fst,
        ((key, v) :: members).lookup name = members.lookup name := by
      intro name hname
      have hne : (name == key) = false :=
        beq_eq_false_iff_ne.mpr fun heq => hnotin (heq ▸ hname)
      rw [List.lookup_cons, hne]
    rw [List.map_cons, List.map_cons, List.map_cons, List.lookup_cons_self,
      List.map_congr_left hlater, ih hrest]

/-- An object gives the fields it was written from, in whatever order its
members stand. -/
theorem fields_of_perm {members l : List (String × Value)} (hperm : l.Perm members)
    (hkeys : (members.map Prod.fst).Nodup) :
    (Value.object l).fields (members.map Prod.fst) =
      some (members.map fun member => some member.2) := by
  have hkeys' : (l.map Prod.fst).Nodup := (hperm.map Prod.fst).nodup_iff.mpr hkeys
  have honce : ∀ name, ¬1 < l.countP (·.1 == name) := by
    intro name
    have hcount : l.countP (·.1 == name) = (l.map Prod.fst).count name := by
      rw [List.count, List.countP_map]
      rfl
    rw [hcount]
    exact Nat.not_lt.mpr (List.nodup_iff_count_le_one.mp hkeys' name)
  have hlookup : ∀ name ∈ members.map Prod.fst, l.lookup name = members.lookup name :=
    fun name _ => lookup_eq_of_perm hperm hkeys' name
  have hnone : ¬((members.map Prod.fst).any fun name => 1 < l.countP (·.1 == name)) = true := by
    rw [List.any_eq_true]
    rintro ⟨name, -, hmany⟩
    exact honce name (of_decide_eq_true hmany)
  rw [Value.fields, if_neg hnone, List.map_congr_left hlookup, map_lookup_keys hkeys]

theorem fields_object {members : List (String × Value)} {names : List String}
    (hnames : names = members.map Prod.fst) (hkeys : names.Nodup) :
    (Value.object members).fields names = some (members.map fun member => some member.2) := by
  subst hnames
  exact fields_of_perm (List.Perm.refl _) hkeys

theorem fields_normalize {members : List (String × Value)} {names : List String}
    (hnames : names = members.map Prod.fst) (hkeys : names.Nodup) :
    (Value.object members).normalize.fields names =
      some (members.map fun member => some member.2.normalize) := by
  have hsorted : (sortMembers (normalizeMembers members)).Perm (normalizeMembers members) :=
    List.perm_insertionSort _ _
  have hsame : (normalizeMembers members).map Prod.fst = names := by
    rw [normalizeMembers_eq, List.map_map, hnames]
    rfl
  have hfields := fields_of_perm hsorted (hsame ▸ hkeys)
  rw [hsame] at hfields
  rw [Value.normalize, hfields, normalizeMembers_eq, List.map_map]
  rfl

/-! ## Decoders -/

/-- `String`. -/
def Value.text : Value → Option String
  | .string s => some s
  | _ => none

/-- The name of a unit variant of an enumeration, alone or with its empty
content. -/
def Value.variant : Value → Option String
  | .string s => some s
  | .object [(s, .null)] => some s
  | _ => none

/-- `bool`. -/
def Value.boolean : Value → Option Bool
  | .bool b => some b
  | _ => none

/-- An unsigned integer below `bound`. -/
def Value.unsigned (bound : Nat) : Value → Option Nat
  | .number (.posInt n) => if n.toNat < bound then some n.toNat else none
  | _ => none

/-- `i64`. -/
def Value.signed : Value → Option Int64
  | .number (.posInt n) => if n.toNat < 2 ^ 63 then some n.toInt64 else none
  | .number (.negInt n) => some n
  | _ => none

/-- `Vec`. -/
def Value.elements {α : Type} (decode : Value → Option α) : Value → Option (List α)
  | .array items => items.mapM decode
  | _ => none

/-- The value of an `Option` field, which may be `null` or missing. -/
def optionalField {α : Type} (decode : Value → Option α) : Option Value → Option (Option α)
  | none | some .null => some none
  | some v => (decode v).map some

@[simp] theorem unsigned_nat {n bound : Nat} (hn : n < 2 ^ 64) (hbound : n < bound) :
    (nat n).unsigned bound = some n := by
  have hvalue : (UInt64.ofNat n).toNat = n := UInt64.toNat_ofNat_of_lt' hn
  rw [nat, Value.unsigned, hvalue, if_pos hbound]

@[simp] theorem signed_int (n : Int64) : (int n).signed = some n := by
  unfold int
  split
  · next hn =>
    have hvalue : n.toUInt64.toNat < 2 ^ 63 := by
      have hhigh := n.toInt_lt
      rw [Int64.toNat_toUInt64_of_le hn, Int64.toNatClampNeg]
      omega
    rw [Value.signed, if_pos hvalue, Int64.toInt64_toUInt64]
  · rfl

theorem optionalField_option {α : Type} {f : α → Value} {decode : Value → Option α}
    (hdecode : ∀ a, decode (f a) = some a) (hnull : ∀ a, f a ≠ .null) (o : Option α) :
    optionalField decode (some (option f o)) = some o := by
  cases o with
  | none => rfl
  | some a =>
    rw [option, optionalField, hdecode, Option.map_some]
    exact hnull a

theorem normalize_option {α : Type} {f : α → Value} (h : ∀ a, (f a).normalize = f a)
    (o : Option α) : (option f o).normalize = option f o := by
  cases o with
  | none => exact normalize_null
  | some a => exact h a

theorem mapM_map_some {α : Type} {f : α → Value} {decode : Value → Option α} {items : List α}
    (hdecode : ∀ a ∈ items, decode (f a) = some a) : (items.map f).mapM decode = some items := by
  induction items with
  | nil => rfl
  | cons a items ih =>
    rw [List.forall_mem_cons] at hdecode
    rw [List.map_cons, List.mapM_cons, hdecode.1, ih hdecode.2]
    rfl

theorem exists_of_elements {α : Type} {decode : Value → Option α} {v : Value} {items : List α}
    (h : v.elements decode = some items) : ∀ a ∈ items, ∃ w, decode w = some a := by
  unfold Value.elements at h
  split at h
  · next values =>
    induction values generalizing items with
    | nil =>
      cases h
      exact fun a ha => absurd ha List.not_mem_nil
    | cons w values ih =>
      rw [List.mapM_cons] at h
      obtain ⟨first, hfirst, h⟩ := Option.bind_eq_some_iff.mp h
      obtain ⟨rest, hrest, h⟩ := Option.bind_eq_some_iff.mp h
      cases h
      exact List.forall_mem_cons.mpr ⟨⟨w, hfirst⟩, ih hrest⟩
  · cases h

end Json
