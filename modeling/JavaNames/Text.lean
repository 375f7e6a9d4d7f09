/-!
# Texts

A text is a list of characters. What is written about a text counts in bytes of its UTF-8 encoding,
so the length of a text is the sum of the sizes of its characters there.
-/

namespace JavaNames

/-- A text, as the list of its characters. -/
abbrev Text : Type := List Char

/-- The number of bytes of the UTF-8 encoding of a text. -/
def byteLength : Text → Nat
  | [] => 0
  | c :: cs => c.utf8Size + byteLength cs

@[simp] theorem byteLength_nil : byteLength [] = 0 := rfl

@[simp] theorem byteLength_cons (c : Char) (cs : Text) :
    byteLength (c :: cs) = c.utf8Size + byteLength cs := rfl

@[simp] theorem byteLength_append (s t : Text) :
    byteLength (s ++ t) = byteLength s + byteLength t := by
  induction s with
  | nil => simp
  | cons c cs ih => simp [ih, Nat.add_assoc]

/-- Only the empty text has no bytes. -/
@[simp] theorem byteLength_eq_zero {t : Text} : byteLength t = 0 ↔ t = [] := by
  cases t with
  | nil => simp
  | cons c cs =>
    have := c.utf8Size_pos
    simp only [byteLength_cons, reduceCtorEq, iff_false]
    omega

/-- The first bytes of a text, as far as they are whole characters. -/
def takeBytes (n : Nat) : Text → Text
  | [] => []
  | c :: cs => if c.utf8Size ≤ n then c :: takeBytes (n - c.utf8Size) cs else []

/-- What follows the first bytes of a text, from the next whole character on. -/
def dropBytes (n : Nat) : Text → Text
  | [] => []
  | c :: cs => if n = 0 then c :: cs else dropBytes (n - c.utf8Size) cs

/-- The bytes of a first part of a text are this part. -/
@[simp] theorem takeBytes_byteLength (s t : Text) : takeBytes (byteLength s) (s ++ t) = s := by
  induction s with
  | nil =>
    cases t with
    | nil => rfl
    | cons c cs => simp [takeBytes, Nat.not_le.2 c.utf8Size_pos]
  | cons c cs ih => simp [takeBytes, ih]

/-- The rest of a text follows the bytes of its first part. -/
@[simp] theorem dropBytes_byteLength (s t : Text) : dropBytes (byteLength s) (s ++ t) = t := by
  induction s with
  | nil => cases t <;> simp [dropBytes]
  | cons c cs ih => simp [dropBytes, Nat.ne_of_gt c.utf8Size_pos, ih]

/-- Leaving out the first characters of a text makes it no longer. -/
theorem length_dropWhile_le (p : Char → Bool) (t : Text) : (t.dropWhile p).length ≤ t.length :=
  (List.dropWhile_suffix p).length_le

/-- What is left of a text without its first characters of a property begins with a character that
lacks it. -/
theorem eq_false_of_mem_head?_dropWhile {p : Char → Bool} {t : Text} :
    ∀ c ∈ (t.dropWhile p).head?, p c = false := by
  intro c hc
  have h := List.head?_dropWhile_not p t
  rw [Option.mem_def.1 hc] at h
  simpa using h

/-- What is taken from the beginning of a text ends at the latest where a text follows whose first
character lacks the property. -/
theorem takeWhile_append_of_head {p : Char → Bool} (s : Text) {t : Text}
    (h : ∀ c ∈ t.head?, p c = false) :
    (s ++ t).takeWhile p = s.takeWhile p ∧ (s ++ t).dropWhile p = s.dropWhile p ++ t := by
  induction s with
  | nil =>
    cases t with
    | nil => exact ⟨rfl, rfl⟩
    | cons c t => simp [h c rfl]
  | cons d s ih => cases hd : p d <;> simp [hd, ih]

end JavaNames
