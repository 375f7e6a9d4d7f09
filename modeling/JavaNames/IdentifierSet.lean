import JavaNames.Identifier

/-!
# Ordered sets of identifiers

A set of identifiers lists its elements in the order of their texts, which is the order of code points
at the first place where two texts differ. An element is looked up by its text.

The list is increasing, so it has each element once, and there is only one list for the elements of a
set (`IdentifierSet.eq_of_contains_eq`): it does not matter in which order they were inserted
(`IdentifierSet.insert_comm`).
-/

namespace JavaNames

/-- A set of identifiers, as the increasing list of their texts. -/
structure IdentifierSet where
  texts : List Text
  increasing : texts.Pairwise (· < ·)
  deriving DecidableEq, Repr

namespace IdentifierSet

/-! ## Insertion into an increasing list -/

/-- A text at its place in an increasing list, unless the list has it. -/
def insertText (t : Text) : List Text → List Text
  | [] => [t]
  | u :: us => if t < u then t :: u :: us else if t = u then u :: us else u :: insertText t us

section
variable {t u : Text} {us : List Text}

@[simp] theorem mem_insertText : u ∈ insertText t us ↔ u = t ∨ u ∈ us := by
  induction us with
  | nil => simp [insertText]
  | cons v vs ih =>
    simp only [insertText]
    split
    · simp
    · split
      · subst_vars; simp
      · simp only [List.mem_cons, ih]
        exact or_left_comm

/-- With a text at its place, an increasing list is increasing. -/
theorem pairwise_insertText (h : us.Pairwise (· < ·)) : (insertText t us).Pairwise (· < ·) := by
  induction us with
  | nil => exact List.pairwise_singleton _ _
  | cons v vs ih =>
    obtain ⟨hv, hvs⟩ := List.pairwise_cons.1 h
    simp only [insertText]
    split
    · next hlt =>
      refine List.pairwise_cons.2 ⟨?_, h⟩
      rintro u (_ | ⟨_, hu⟩)
      · exact hlt
      · exact List.lt_trans hlt (hv u hu)
    · next hnlt =>
      split
      · exact h
      · next hne =>
        refine List.pairwise_cons.2 ⟨?_, ih hvs⟩
        intro u hu
        rcases mem_insertText.1 hu with rfl | hu
        · exact (List.le_iff_lt_or_eq.1 (List.not_lt.1 hnlt)).resolve_right (Ne.symm hne)
        · exact hv u hu

end

/-! ## Sets -/

/-- The set without elements. -/
def empty : IdentifierSet :=
  ⟨[], .nil⟩

/-- Whether the set has an identifier with the given text. -/
def contains (s : IdentifierSet) (t : Text) : Bool :=
  s.texts.contains t

/-- The set with one more identifier. -/
def insert (s : IdentifierSet) (x : Identifier) : IdentifierSet :=
  ⟨insertText x.text s.texts, pairwise_insertText s.increasing⟩

/-- The set without the identifier of the given text. -/
def erase (s : IdentifierSet) (t : Text) : IdentifierSet :=
  ⟨s.texts.erase t, s.increasing.sublist List.erase_sublist⟩

/-- The texts of the set that are not below the given one, in increasing order. -/
def textsFrom (s : IdentifierSet) (t : Text) : List Text :=
  s.texts.filter fun u => !decide (u < t)

section
variable {s s' : IdentifierSet} {x y : Identifier} {t : Text}

/-- No text is listed twice. -/
theorem nodup_texts (s : IdentifierSet) : s.texts.Nodup :=
  s.increasing.imp Std.ne_of_lt

/-- Sets with the same elements are equal. -/
theorem eq_of_contains_eq (h : ∀ t, s.contains t = s'.contains t) : s = s' := by
  have hperm : s.texts.Perm s'.texts := by
    refine (List.perm_ext_iff_of_nodup s.nodup_texts s'.nodup_texts).2 fun t => ?_
    rw [← List.contains_iff_mem, ← List.contains_iff_mem]
    exact Bool.eq_iff_iff.1 (h t)
  have hasymm (u v : Text) (_ : u ∈ s.texts) (_ : v ∈ s'.texts) (huv : u < v) (hvu : v < u) :
      u = v := absurd hvu (List.lt_asymm huv)
  have htexts := hperm.eq_of_pairwise hasymm s.increasing s'.increasing
  cases s
  cases s'
  simpa using htexts

/-- An inserted identifier is an element, and the other elements stay what they were. -/
@[simp] theorem contains_insert (s : IdentifierSet) (x : Identifier) (t : Text) :
    (s.insert x).contains t = (t == x.text || s.contains t) := by
  rw [Bool.eq_iff_iff]
  simp [contains, insert]

/-- An erased identifier is no element, and the other elements stay what they were. -/
@[simp] theorem contains_erase (s : IdentifierSet) (u t : Text) :
    (s.erase u).contains t = (t != u && s.contains t) := by
  rw [Bool.eq_iff_iff]
  simp [contains, erase, s.nodup_texts.mem_erase_iff]

/-- Identifiers can be inserted in any order. -/
theorem insert_comm : (s.insert x).insert y = (s.insert y).insert x :=
  eq_of_contains_eq fun t => by simp [Bool.or_left_comm]

/-- To erase an identifier after it was inserted is to erase it. -/
theorem erase_insert : (s.insert x).erase x.text = s.erase x.text :=
  eq_of_contains_eq fun t => by
    cases h : t == x.text <;> simp [h, bne]

/-- The texts that are not below a given one are the last texts of the set. -/
theorem textsFrom_eq_dropWhile : s.textsFrom t = s.texts.dropWhile fun u => decide (u < t) := by
  obtain ⟨us, h⟩ := s
  induction us with
  | nil => rfl
  | cons u us ih =>
    obtain ⟨hu, hus⟩ := List.pairwise_cons.1 h
    by_cases hlt : u < t
    · simpa [textsFrom, hlt] using ih hus
    · have hall : ∀ v ∈ us, ¬ v < t := fun v hv hvt => hlt (List.lt_trans (hu v hv) hvt)
      simpa [textsFrom, hlt] using hall

end

end IdentifierSet

end JavaNames
