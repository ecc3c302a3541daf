import Mathlib.Data.List.Basic

/-!
Encodings that can be taken off the front of a longer text. A concatenation of
such encodings is read from left to right without looking ahead, so it
determines its parts: fixed widths, lengths in front of what they count, and
counted lists of such encodings are all of this kind.
-/

namespace Framing

variable {α β : Type*}

/-- Among valid values, the encoding in front of any rest determines the value
and the rest. -/
def SelfDelimiting (valid : α → Prop) (encode : α → List β) : Prop :=
  ∀ ⦃a b : α⦄, valid a → valid b → ∀ ⦃s t : List β⦄,
    encode a ++ s = encode b ++ t → a = b ∧ s = t

/-- An encoding of one width that separates the valid values. -/
theorem of_width {valid : α → Prop} {encode : α → List β} {width : Nat}
    (hwidth : ∀ a, (encode a).length = width)
    (hinj : ∀ ⦃a b⦄, valid a → valid b → encode a = encode b → a = b) :
    SelfDelimiting valid encode := by
  intro a b ha hb s t h
  obtain ⟨hencoded, hrest⟩ := List.append_inj h (by rw [hwidth, hwidth])
  exact ⟨hinj ha hb hencoded, hrest⟩

/-- A length in front of what it counts. -/
theorem counted {length : Nat → List β} {valid : Nat → Prop} {content : α → List β}
    (hlength : SelfDelimiting valid length)
    (hinj : ∀ ⦃a b⦄, content a = content b → a = b) :
    SelfDelimiting (fun a => valid (content a).length)
      fun a => length (content a).length ++ content a := by
  intro a b ha hb s t h
  rw [List.append_assoc, List.append_assoc] at h
  obtain ⟨hcount, hcontent⟩ := hlength ha hb h
  obtain ⟨hsame, hrest⟩ := List.append_inj hcontent hcount
  exact ⟨hinj hsame, hrest⟩

/-- Two lists of the same length, element after element. -/
theorem flatMap_inj {valid : α → Prop} {encode : α → List β}
    (hencode : SelfDelimiting valid encode) {xs ys : List α} (hlength : xs.length = ys.length)
    (hxs : ∀ x ∈ xs, valid x) (hys : ∀ y ∈ ys, valid y) {s t : List β}
    (h : xs.flatMap encode ++ s = ys.flatMap encode ++ t) : xs = ys ∧ s = t := by
  induction xs generalizing ys with
  | nil =>
    obtain rfl := List.length_eq_zero_iff.mp hlength.symm
    exact ⟨rfl, h⟩
  | cons x xs ih =>
    cases ys with
    | nil => cases hlength
    | cons y ys =>
      rw [List.forall_mem_cons] at hxs hys
      rw [List.flatMap_cons, List.flatMap_cons, List.append_assoc, List.append_assoc] at h
      obtain ⟨rfl, hrest⟩ := hencode hxs.1 hys.1 h
      obtain ⟨rfl, rfl⟩ := ih (Nat.succ.inj hlength) hxs.2 hys.2 hrest
      exact ⟨rfl, rfl⟩

end Framing
