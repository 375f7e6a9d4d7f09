/-!
# Results, lists and numbers

Facts on the types of the standard library that are about no names: how results are mapped, where lists
are divided and what maps do to them, the bits of numbers that stand for tables, and tests that are made
once for each character of ASCII.
-/

/-! ## Results -/

namespace Except

variable {ε δ α β γ : Type} {x : Except ε α}

/-- A result that is mapped twice is mapped by one function after the other. -/
theorem map_map {f : α → β} {g : β → γ} : (x.map f).map g = x.map fun a => g (f a) := by
  cases x <;> rfl

/-- A mapped result is the image of a result. -/
theorem map_eq_ok_iff {f : α → β} {b : β} : x.map f = .ok b ↔ ∃ a, x = .ok a ∧ f a = b := by
  cases x <;> simp [Except.map]

/-- A mapped result fails as the result does. -/
theorem map_eq_error_iff {f : α → β} {e : ε} : x.map f = .error e ↔ x = .error e := by
  cases x <;> simp [Except.map]

/-- A mapped failure is the image of a failure. -/
theorem mapError_eq_error_iff {f : ε → δ} {d : δ} :
    x.mapError f = .error d ↔ ∃ e, x = .error e ∧ f e = d := by
  cases x with
  | ok a =>
    constructor
    · intro h
      cases h
    · rintro ⟨e, h, -⟩
      cases h
  | error e =>
    constructor
    · intro h
      exact ⟨e, rfl, Except.error.inj h⟩
    · rintro ⟨e, h, rfl⟩
      cases h
      rfl

end Except

/-! ## Lists -/

namespace List

variable {α β γ : Type}

/-- An element at which two lists together are divided is one of the first or one of the second. -/
theorem cut_of_append_eq {s t a b : List α} {c : α} (h : s ++ t = a ++ c :: b) :
    (∃ e, s = a ++ c :: e) ∨ ∃ e, a = s ++ e ∧ t = e ++ c :: b := by
  rcases append_eq_append_iff.1 h with hafter | ⟨e, rfl, he⟩
  · exact .inr hafter
  · cases e with
    | nil => exact .inr ⟨[], by simp, he.symm⟩
    | cons d e =>
      obtain ⟨rfl, -⟩ := cons.inj he
      exact .inl ⟨e, rfl⟩

/-- A list is divided at each of its elements. -/
theorem exists_append_cons {l : List α} {k : Nat} (hk : k < l.length) :
    ∃ s a t, l = s ++ a :: t ∧ s.length = k := by
  refine ⟨l.take k, l[k], l.drop (k + 1), ?_, ?_⟩
  · rw [← drop_eq_getElem_cons hk, take_append_drop]
  · rw [length_take, Nat.min_eq_left (Nat.le_of_lt hk)]

/-- A map changes no positions. -/
theorem mapIdx_map {f : Nat → β → γ} {g : α → β} {l : List α} :
    (l.map g).mapIdx f = l.mapIdx fun i x => f i (g x) :=
  ext_getElem (by simp) (by simp)

/-- A map that puts each element in its own place changes nothing. -/
theorem flatMap_eq_self {f : α → List α} {l : List α} (h : ∀ a ∈ l, f a = [a]) :
    l.flatMap f = l := by
  induction l with
  | nil => rfl
  | cons a l ih =>
    rw [forall_mem_cons] at h
    rw [flatMap_cons, h.1, ih h.2]
    rfl

/-- What is left of a list without its first elements of a property keeps its positions. -/
theorem dropWhile_zipIdx (p : α → Bool) (position : Nat) (l : List α) :
    (l.zipIdx position).dropWhile (fun x => p x.1) =
      (l.dropWhile p).zipIdx (position + (l.takeWhile p).length) := by
  induction l generalizing position with
  | nil => rfl
  | cons a l ih =>
    cases ha : p a with
    | true => simp [zipIdx_cons, ha, ih, Nat.add_comm, Nat.add_left_comm]
    | false => simp [zipIdx_cons, ha]

/-- What is repeated in front of two lists that do not begin with it is repeated as often. -/
theorem replicate_append_inj {c : α} {a b : List α} (ha : a.head? ≠ some c)
    (hb : b.head? ≠ some c) {m n : Nat} (h : replicate m c ++ a = replicate n c ++ b) :
    m = n ∧ a = b := by
  induction m generalizing n with
  | zero =>
    cases n with
    | zero => exact ⟨rfl, h⟩
    | succ n =>
      have ha' : a = replicate (n + 1) c ++ b := h
      exact absurd (by rw [ha']; rfl) ha
  | succ m ih =>
    cases n with
    | zero =>
      have hb' : b = replicate (m + 1) c ++ a := h.symm
      exact absurd (by rw [hb']; rfl) hb
    | succ n =>
      obtain ⟨rfl, rfl⟩ := ih (cons.inj h).2
      exact ⟨rfl, rfl⟩

/-- What is looked up in a list of pairs is in the list. -/
theorem mem_of_lookup [BEq α] [LawfulBEq α] {l : List (α × β)} {a : α} {b : β}
    (h : l.lookup a = some b) : (a, b) ∈ l := by
  obtain ⟨before, after, rfl, -⟩ := lookup_eq_some_iff.1 h
  exact mem_append_right _ (.head _)

end List

/-! ## Numbers and characters -/

namespace Nat

variable {a b m : Nat}

/-- The bits of a number are bits of another one if the conjunction changes nothing about it. -/
theorem testBit_of_land_eq (h : a &&& b = a) (ha : a.testBit m = true) : b.testBit m = true := by
  rw [← h, testBit_and, Bool.and_eq_true] at ha
  exact ha.2

/-- Numbers have no bits in common if the conjunction is zero. -/
theorem not_testBit_of_land_eq_zero (h : a &&& b = 0) (ha : a.testBit m = true) :
    ¬ b.testBit m = true := by
  intro hb
  have hm : (a &&& b).testBit m = true := by rw [testBit_and, ha, hb]; rfl
  rw [h, zero_testBit] at hm
  cases hm

end Nat

namespace Char

variable {c : Char}

/-- What is true of each character of ASCII by a test is true of a character of ASCII. -/
theorem of_ascii {p : Char → Bool}
    (hall : (List.range 128).all (fun n => p (Char.ofNat n)) = true) (h : c.toNat < 128) :
    p c = true := by
  have hc := List.all_eq_true.1 hall c.toNat (List.mem_range.2 h)
  rwa [Char.ofNat_toNat] at hc

/-- Letters are characters of ASCII. -/
theorem toNat_lt_of_isAlpha (h : c.isAlpha = true) : c.toNat < 128 := by
  have hle : c.val ≤ 'z'.val := by
    rcases Bool.or_eq_true_iff.1 h with h | h
    · exact UInt32.le_trans (of_decide_eq_true h).2 (by decide)
    · exact of_decide_eq_true (Bool.and_eq_true_iff.1 h).2
  exact Nat.lt_of_le_of_lt (UInt32.le_iff_toNat_le.1 hle) (by decide)

/-- Capitals are no small letters. -/
theorem isLower_eq_false_of_isUpper (h : c.isUpper = true) : c.isLower = false := by
  refine Bool.eq_false_iff.2 fun hlower => ?_
  have hle := UInt32.le_trans (of_decide_eq_true (Bool.and_eq_true_iff.1 hlower).1)
    (of_decide_eq_true h).2
  exact absurd hle (by decide)

end Char
