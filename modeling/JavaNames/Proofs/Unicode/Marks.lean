import JavaNames.Proofs.General
import JavaNames.Unicode.CodePoints
import Mathlib.Data.Nat.Bitwise

/-!
# Tables as numbers

Whether one table of code points is part of another one, or has nothing in common with it, is a
statement about every code point. Searching the tables for each of them takes long; instead, a table
is turned into one number whose binary digits mark its code points (`tableMarks`). A table is then
part of another one if the conjunction of the two numbers is the first of them, and disjoint from it
if the conjunction is zero (`Nat.testBit_of_land_eq`, `Nat.not_testBit_of_land_eq_zero`): statements
that are settled by one evaluation each.
-/

namespace JavaNames.Unicode

/-! ## Marking code points -/

/-- The number whose binary digits mark the members of a list. -/
def marks : List Nat → Nat
  | [] => 0
  | n :: ns => 2 ^ n ||| marks ns

/-- The number whose binary digits mark the code points of a run. An interval is written as a
difference of powers of two, since it may be long. -/
def Run.marks (r : Run) : Nat :=
  if r.step = 1 then (2 ^ (r.last + 1 - r.first) - 1) <<< r.first
  else Unicode.marks (r.toList.filter r.contains)

/-- The number whose binary digits mark the code points of a table. -/
def tableMarks : List Run → Nat
  | [] => 0
  | r :: rs => r.marks ||| tableMarks rs

/-- The digits of `marks` are the members of the list. -/
theorem testBit_marks {ns : List Nat} {m : Nat} : (marks ns).testBit m = true ↔ m ∈ ns := by
  induction ns with
  | nil => simp [marks]
  | cons n ns ih =>
    rw [marks, Nat.testBit_or, Bool.or_eq_true, ih, Nat.testBit_two_pow, decide_eq_true_eq,
      List.mem_cons, eq_comm]

/-- The digits of `Run.marks` are the code points of the run. -/
theorem Run.testBit_marks {r : Run} {m : Nat} :
    r.marks.testBit m = true ↔ r.contains m = true := by
  rw [Run.marks]
  split
  · next hstep =>
    rw [Nat.testBit_shiftLeft, Nat.testBit_two_pow_sub_one]
    simp only [Run.contains, hstep, Nat.mod_one, Bool.and_eq_true, decide_eq_true_eq, Nat.ble_eq]
    constructor
    · rintro ⟨h1, h2⟩
      exact ⟨⟨h1, by omega⟩, rfl⟩
    · rintro ⟨⟨h1, h2⟩, -⟩
      exact ⟨h1, by omega⟩
  · rw [Unicode.testBit_marks, List.mem_filter]
    exact ⟨fun h => h.2, fun h => ⟨Run.mem_toList_of_contains h, h⟩⟩

/-- The digits of `tableMarks` are the code points of the runs. -/
theorem testBit_tableMarks {rs : List Run} {m : Nat} :
    (tableMarks rs).testBit m = true ↔ ∃ r ∈ rs, r.contains m = true := by
  induction rs with
  | nil => simp [tableMarks]
  | cons r rs ih =>
    rw [tableMarks, Nat.testBit_or, Bool.or_eq_true, ih, Run.testBit_marks]
    simp

/-! ## Searching increasing tables -/

/-- Whether the runs of a table begin at increasing code points. -/
def increasing : List Run → Bool
  | r :: r' :: rs => Nat.ble r.first r'.first && increasing (r' :: rs)
  | _ => true

/-- No run of an increasing table begins before the first one. -/
theorem first_le_of_increasing {r r' : Run} {rs : List Run} (h : increasing (r :: rs) = true)
    (hr : r' ∈ rs) : r.first ≤ r'.first := by
  induction rs generalizing r with
  | nil => cases hr
  | cons s rs ih =>
    rw [increasing, Bool.and_eq_true, Nat.ble_eq] at h
    rcases List.mem_cons.1 hr with rfl | hr
    · exact h.1
    · exact Nat.le_trans h.1 (ih h.2 hr)

/-- The search of an increasing table finds every code point of its runs. -/
theorem covers_of_contains {rs : List Run} {r : Run} {m : Nat} (h : increasing rs = true)
    (hr : r ∈ rs) (hm : r.contains m = true) : covers rs m = true := by
  induction rs with
  | nil => cases hr
  | cons s rs ih =>
    have hle : r.first ≤ m := by
      simp only [Run.contains, Bool.and_eq_true, Nat.ble_eq] at hm
      exact hm.1.1
    rw [covers, Bool.and_eq_true, Bool.or_eq_true, Nat.ble_eq]
    rcases List.mem_cons.1 hr with rfl | hr
    · exact ⟨hle, .inl hm⟩
    · refine ⟨Nat.le_trans (first_le_of_increasing h hr) hle, .inr (ih ?_ hr)⟩
      cases rs with
      | nil => rfl
      | cons s' rs =>
        rw [increasing, Bool.and_eq_true] at h
        exact h.2

/-- What an increasing table covers is what its number marks. -/
theorem testBit_tableMarks_iff_covers {rs : List Run} {m : Nat} (h : increasing rs = true) :
    (tableMarks rs).testBit m = true ↔ covers rs m = true := by
  rw [testBit_tableMarks]
  constructor
  · rintro ⟨r, hr, hm⟩
    exact covers_of_contains h hr hm
  · exact exists_run_of_covers

/-! ## Shifts -/

/-- The code points that a shift moves its run to. -/
def Shift.image (s : Shift) : Run :=
  ⟨s.target, s.target + (s.last - s.first), s.step⟩

/-- A shift moves the code points of its run into its image. -/
theorem Shift.image_contains {s : Shift} {m : Nat} (h : s.toRun.contains m = true) :
    s.image.contains (s.target + (m - s.first)) = true := by
  simp only [Run.contains, Shift.image, Bool.and_eq_true, Nat.ble_eq] at h ⊢
  obtain ⟨⟨h1, h2⟩, h3⟩ := h
  refine ⟨⟨Nat.le_add_right _ _, by omega⟩, ?_⟩
  rw [Nat.add_sub_cancel_left]
  exact h3

/-- The number whose binary digits mark the code points that a table moves. -/
def sourceMarks (ss : List Shift) : Nat :=
  tableMarks (ss.map Shift.toRun)

/-- The number whose binary digits mark the code points that a table moves others to. -/
def imageMarks (ss : List Shift) : Nat :=
  tableMarks (ss.map Shift.image)

variable {ss : List Shift} {n m : Nat}

/-- What is moved is marked as moved. -/
theorem testBit_sourceMarks_of_shifted? (h : shifted? ss n = some m) :
    (sourceMarks ss).testBit n = true := by
  obtain ⟨s, hs, hn, -⟩ := exists_shift_of_shifted? h
  exact testBit_tableMarks.2 ⟨s.toRun, List.mem_map_of_mem hs, hn⟩

/-- What another code point is moved to is marked as an image. -/
theorem testBit_imageMarks_of_shifted? (h : shifted? ss n = some m) :
    (imageMarks ss).testBit m = true := by
  obtain ⟨s, hs, hn, rfl⟩ := exists_shift_of_shifted? h
  exact testBit_tableMarks.2 ⟨s.image, List.mem_map_of_mem hs, Shift.image_contains hn⟩

/-- A code point that is not marked as moved stays where it is. -/
theorem shifted?_eq_none_of_not_testBit (h : ¬ (sourceMarks ss).testBit n = true) :
    shifted? ss n = none := by
  cases hs : shifted? ss n with
  | none => rfl
  | some m => exact absurd (testBit_sourceMarks_of_shifted? hs) h

end JavaNames.Unicode
