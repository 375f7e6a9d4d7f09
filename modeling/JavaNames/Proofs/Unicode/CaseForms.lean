import JavaNames.Proofs.Unicode.Marks
import JavaNames.Unicode.Alphabetic
import JavaNames.Unicode.CaseMapping

/-!
# Case forms

What the theory of naming conventions uses of the two case mappings (`CaseMapping`): a form has no
further form, the form of a letter has a letter, only letters have a form of another spelling, and
no form has an underscore. The tables are read here, once for each mapping and fact, and nowhere
else.
-/

namespace JavaNames.Unicode

/-- What is relied on about a case mapping. -/
structure CaseMapping (form : Char → List Char) : Prop where
  /-- The characters of a form are their own forms. -/
  settled : ∀ {c d : Char}, d ∈ form c → form d = [d]
  /-- The form of a letter has a letter. -/
  letter : ∀ {c : Char}, isAlphabetic c = true → ∃ d ∈ form c, isAlphabetic d = true
  /-- What is no letter is its own form. -/
  caseless : ∀ {c : Char}, isAlphabetic c = false → form c = [c]
  /-- Only the underscore has a form with an underscore. -/
  underscore : ∀ {c : Char}, '_' ∈ form c → c = '_'

/-! ## Tables of case mappings -/

/-- The number whose binary digits mark the code points of characters. -/
def validMarks : Nat :=
  tableMarks [⟨0, 0xD7FF, 1⟩, ⟨0xE000, 0x10FFFF, 1⟩]

/-- The marked code points are those of characters. -/
theorem isValidChar_of_testBit {n : Nat} (h : validMarks.testBit n = true) : n.isValidChar := by
  obtain ⟨r, hr, hn⟩ := testBit_tableMarks.1 h
  simp only [List.mem_cons, List.not_mem_nil, or_false] at hr
  rcases hr with rfl | rfl <;>
    · simp only [Run.contains, Bool.and_eq_true, Nat.ble_eq] at hn
      simp only [Nat.isValidChar]
      omega

section
variable (expansions : List (Nat × List Nat)) (shifts : List Shift)

/-- The number whose binary digits mark the code points with a form of another spelling. -/
def inputMarks : Nat :=
  sourceMarks shifts ||| marks (expansions.map Prod.fst)

/-- The number whose binary digits mark the code points of these forms. -/
def outputMarks : Nat :=
  imageMarks shifts ||| marks (expansions.flatMap Prod.snd)

/-- The statements about the tables of a case mapping that are settled by evaluation. -/
structure Consistent : Prop where
  valid : outputMarks expansions shifts &&& validMarks = outputMarks expansions shifts
  settled : outputMarks expansions shifts &&& inputMarks expansions shifts = 0
  letters : inputMarks expansions shifts &&& tableMarks alphabeticRuns =
    inputMarks expansions shifts
  images : imageMarks shifts &&& tableMarks alphabeticRuns = imageMarks shifts
  sequences : ∀ e ∈ expansions, e.2.any (covers alphabeticRuns) = true
  underscore : (outputMarks expansions shifts).testBit '_'.toNat = false

end

/-- The letters are listed in increasing order. -/
theorem increasing_alphabeticRuns : increasing alphabeticRuns = true := by decide +kernel

section
variable {expansions : List (Nat × List Nat)} {shifts : List Shift} {c d : Char}

/-- A character that is not marked is its own form. -/
theorem mapped_of_not_testBit (h : ¬ (inputMarks expansions shifts).testBit c.toNat = true) :
    mapped expansions shifts c = [c] := by
  rw [inputMarks, Nat.testBit_or, Bool.or_eq_true, not_or] at h
  rw [mapped, shifted?_eq_none_of_not_testBit h.1]
  cases hl : expansions.lookup c.toNat with
  | none => rfl
  | some ns =>
    have hmem : c.toNat ∈ expansions.map Prod.fst := List.mem_map.2 ⟨_, List.mem_of_lookup hl, rfl⟩
    exact absurd (testBit_marks.2 hmem) h.2

/-- What a code point is moved to is marked as part of a form. -/
theorem testBit_outputMarks_of_shifted? {n m : Nat} (h : shifted? shifts n = some m) :
    (outputMarks expansions shifts).testBit m = true := by
  rw [outputMarks, Nat.testBit_or, testBit_imageMarks_of_shifted? h, Bool.true_or]

/-- A member of a listed sequence is marked as part of a form. -/
theorem testBit_outputMarks_of_mem {e : Nat × List Nat} {m : Nat} (he : e ∈ expansions)
    (hm : m ∈ e.2) : (outputMarks expansions shifts).testBit m = true := by
  rw [outputMarks, Nat.testBit_or, Bool.or_eq_true, testBit_marks]
  exact .inr (List.mem_flatMap.2 ⟨e, he, hm⟩)

namespace Consistent
variable (h : Consistent expansions shifts)
include h

/-- A marked code point of a form is that of a character. -/
theorem toNat_ofNat {n : Nat} (hn : (outputMarks expansions shifts).testBit n = true) :
    (Char.ofNat n).toNat = n := by
  rw [Char.ofNat, dif_pos (isValidChar_of_testBit (Nat.testBit_of_land_eq h.valid hn))]
  rfl

/-- A character of a form is the mapped character itself, or is marked. -/
theorem eq_or_testBit_of_mem (hd : d ∈ mapped expansions shifts c) :
    d = c ∧ mapped expansions shifts c = [c] ∨
      (outputMarks expansions shifts).testBit d.toNat = true := by
  rw [mapped] at hd ⊢
  cases hs : shifted? shifts c.toNat with
  | some m =>
    rw [hs] at hd
    obtain rfl := List.mem_singleton.1 hd
    have hm : (outputMarks expansions shifts).testBit m = true :=
      testBit_outputMarks_of_shifted? hs
    exact .inr (by rw [h.toNat_ofNat hm]; exact hm)
  | none =>
    rw [hs] at hd
    cases hl : expansions.lookup c.toNat with
    | some ns =>
      rw [hl] at hd
      obtain ⟨m, hmem, rfl⟩ := List.mem_map.1 hd
      have hm : (outputMarks expansions shifts).testBit m = true :=
        testBit_outputMarks_of_mem (List.mem_of_lookup hl) hmem
      exact .inr (by rw [h.toNat_ofNat hm]; exact hm)
    | none =>
      rw [hl] at hd
      exact .inl ⟨List.mem_singleton.1 hd, rfl⟩

/-- The form of a letter has a letter. -/
theorem exists_isAlphabetic (hc : isAlphabetic c = true) :
    ∃ d ∈ mapped expansions shifts c, isAlphabetic d = true := by
  rw [mapped]
  cases hs : shifted? shifts c.toNat with
  | some m =>
    refine ⟨_, .head _, ?_⟩
    rw [isAlphabetic, h.toNat_ofNat (testBit_outputMarks_of_shifted? hs),
      ← testBit_tableMarks_iff_covers increasing_alphabeticRuns]
    exact Nat.testBit_of_land_eq h.images (testBit_imageMarks_of_shifted? hs)
  | none =>
    cases hl : expansions.lookup c.toNat with
    | some ns =>
      have he := List.mem_of_lookup hl
      obtain ⟨m, hmem, hcovers⟩ := List.any_eq_true.1 (h.sequences _ he)
      refine ⟨_, List.mem_map_of_mem hmem, ?_⟩
      rw [isAlphabetic, h.toNat_ofNat (testBit_outputMarks_of_mem he hmem)]
      exact hcovers
    | none => exact ⟨c, .head _, hc⟩

/-- The mapping of consistent tables is a case mapping. -/
theorem caseMapping : CaseMapping (mapped expansions shifts) where
  settled := by
    intro c d hd
    rcases h.eq_or_testBit_of_mem hd with ⟨rfl, heq⟩ | hm
    · exact heq
    · exact mapped_of_not_testBit (Nat.not_testBit_of_land_eq_zero h.settled hm)
  letter := h.exists_isAlphabetic
  caseless := by
    intro c hc
    refine mapped_of_not_testBit fun hi => ?_
    have hcovers := (testBit_tableMarks_iff_covers increasing_alphabeticRuns).1
      (Nat.testBit_of_land_eq h.letters hi)
    rw [isAlphabetic, hcovers] at hc
    cases hc
  underscore := by
    intro c hmem
    rcases h.eq_or_testBit_of_mem hmem with ⟨heq, -⟩ | hm
    · exact heq.symm
    · rw [h.underscore] at hm
      cases hm

end Consistent

end

/-! ## The two mappings -/

/-- The tables of lower-case forms. -/
theorem consistent_lowercase : Consistent lowercaseExpansions lowercaseShifts where
  valid := by decide +kernel
  settled := by decide +kernel
  letters := by decide +kernel
  images := by decide +kernel
  sequences := by decide +kernel
  underscore := by decide +kernel

/-- The tables of upper-case forms. -/
theorem consistent_uppercase : Consistent uppercaseExpansions uppercaseShifts where
  valid := by decide +kernel
  settled := by decide +kernel
  letters := by decide +kernel
  images := by decide +kernel
  sequences := by decide +kernel
  underscore := by decide +kernel

/-- Taking the lower-case form is a case mapping. -/
theorem caseMapping_toLower : CaseMapping toLower :=
  consistent_lowercase.caseMapping

/-- Taking the upper-case form is a case mapping. -/
theorem caseMapping_toUpper : CaseMapping toUpper :=
  consistent_uppercase.caseMapping

end JavaNames.Unicode
