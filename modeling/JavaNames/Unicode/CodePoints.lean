/-!
# Sets and shifts of code points

A property of characters is a table of `Run`s, arithmetic progressions of code points, in increasing
order. Case pairs alternate over long stretches of the code space, so a step of two packs a table
that single intervals would spell out. A case mapping moves the code points of a run by a constant
distance (`Shift`). Both kinds of table are plain data over `Nat`, so that a statement about one of
them can be settled by evaluation.
-/

namespace JavaNames.Unicode

/-- The code points `first`, `first + step`, … up to `last`. -/
structure Run where
  first : Nat
  last : Nat
  step : Nat
  deriving DecidableEq, Repr

/-- Whether a code point is one of the run. -/
def Run.contains (r : Run) (n : Nat) : Bool :=
  Nat.ble r.first n && Nat.ble n r.last && Nat.beq ((n - r.first) % r.step) 0

/-- The code points of a run, in increasing order. -/
def Run.toList (r : Run) : List Nat :=
  (List.range ((r.last - r.first) / r.step + 1)).map (r.first + r.step * ·)

/-- Whether a code point is in one of the runs of an increasing table. The search ends at the first
run that begins beyond it. -/
def covers : List Run → Nat → Bool
  | [], _ => false
  | r :: rs, n => Nat.ble r.first n && (r.contains n || covers rs n)

/-- A run of code points and the code point that its first one is moved to. -/
structure Shift extends Run where
  target : Nat
  deriving DecidableEq, Repr

/-- The code point that a table of shifts moves a code point to, if a run of the table has it. -/
def shifted? : List Shift → Nat → Option Nat
  | [], _ => none
  | s :: ss, n =>
    if s.toRun.contains n then some (s.target + (n - s.first))
    else if Nat.ble s.first n then shifted? ss n else none

/-- The code points of a run are listed. -/
theorem Run.mem_toList_of_contains {r : Run} {n : Nat} (h : r.contains n = true) :
    n ∈ r.toList := by
  simp only [Run.contains, Bool.and_eq_true, Nat.ble_eq] at h
  obtain ⟨⟨h1, h2⟩, h3⟩ := h
  refine List.mem_map.2 ⟨(n - r.first) / r.step, List.mem_range.2 ?_, ?_⟩
  · have := Nat.div_le_div_right (c := r.step) (Nat.sub_le_sub_right h2 r.first)
    omega
  · rw [Nat.mul_div_cancel' (Nat.dvd_of_mod_eq_zero (Nat.eq_of_beq_eq_true h3))]
    omega

/-- A code point in a table is in one of its runs. -/
theorem exists_run_of_covers {rs : List Run} {n : Nat} (h : covers rs n = true) :
    ∃ r ∈ rs, r.contains n = true := by
  induction rs with
  | nil => simp [covers] at h
  | cons r rs ih =>
    simp only [covers, Bool.and_eq_true, Bool.or_eq_true] at h
    rcases h.2 with h | h
    · exact ⟨r, .head _, h⟩
    · obtain ⟨r', hr, h⟩ := ih h
      exact ⟨r', .tail _ hr, h⟩

/-- A code point is moved by a run of the table. -/
theorem exists_shift_of_shifted? {ss : List Shift} {n m : Nat} (h : shifted? ss n = some m) :
    ∃ s ∈ ss, s.toRun.contains n = true ∧ m = s.target + (n - s.first) := by
  induction ss with
  | nil => simp [shifted?] at h
  | cons s ss ih =>
    simp only [shifted?] at h
    split at h
    · next hs => exact ⟨s, .head _, hs, (Option.some.inj h).symm⟩
    · split at h
      · obtain ⟨s', hs, h⟩ := ih h
        exact ⟨s', .tail _ hs, h⟩
      · cases h

end JavaNames.Unicode
