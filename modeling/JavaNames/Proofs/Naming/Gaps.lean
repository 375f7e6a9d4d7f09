import JavaNames.Proofs.Naming.Normalize

/-!
# Words whatever separates them

Names see nothing of a text but its words. Every text is made of its words (`madeOf_words`), and a
text that is made of a list of words has no others (`MadeOf.words_eq`), so the words of a text are
told from the way it is made, and the same name comes from all texts that are made of the same words
(`words_eq_iff_madeOf`). What separates words depends on the place: a digit before the first word is
passed over, and any later digit is part of a word.

A text is cut from its beginning on, and whether it goes on after a word shows only at its first
character. So the induction over the text has a gap in front of it, which takes up the characters
that are passed over and is empty only where a word has ended (`goesOn_stretches`).
-/

namespace JavaNames

section
variable {gap t : Text}

/-- After a gap a text goes on with its stretches. Without a gap it does so if it does not begin with
part of a word. -/
theorem goesOn_stretches (hgap : ∀ c ∈ gap, isWordPart c = false)
    (ht : gap = [] → ∀ c ∈ t.head?, isWordPart c = false) : GoesOn (stretches t) (gap ++ t) := by
  fun_induction stretches t generalizing gap with
  | case1 =>
    rw [List.append_nil]
    exact .last hgap
  | case2 c cs hc ih =>
    have hne : gap ≠ [] := by
      intro hnil
      rw [ht hnil c rfl] at hc
      cases hc
    have hrest := ih (List.forall_mem_nil _) fun _ => eq_false_of_mem_head?_dropWhile
    have hword := GoesOn.word (w := c :: cs.takeWhile isWordPart) hne hgap hrest
    rwa [List.nil_append, List.cons_append, List.takeWhile_append_dropWhile] at hword
  | case3 c cs hc ih =>
    rw [List.append_cons]
    refine ih ?_ fun hnil => absurd hnil (List.append_ne_nil_of_right_ne_nil gap (by simp))
    rw [List.forall_mem_append, List.forall_mem_singleton]
    exact ⟨hgap, by simpa using hc⟩

/-- Every text is made of its words. -/
theorem madeOf_words (t : Text) : MadeOf (words t) t := by
  have hlead : ∀ c ∈ t.takeWhile (fun c => !isWordStart c), isWordStart c = false := by
    intro c hc
    simpa using List.all_eq_true.1 List.all_takeWhile c hc
  have hcut := List.takeWhile_append_dropWhile (p := fun c => !isWordStart c) (l := t)
  rw [words]
  cases h : t.dropWhile fun c => !isWordStart c with
  | nil =>
    rw [h, List.append_nil] at hcut
    rw [stretches_nil]
    exact .nothing (hcut ▸ hlead)
  | cons c cs =>
    have hc : isWordStart c = true := eq_true_of_dropWhile_eq_cons h
    have hrest := goesOn_stretches (t := cs.dropWhile isWordPart) (List.forall_mem_nil _)
      fun _ => eq_false_of_mem_head?_dropWhile
    have hmade := MadeOf.words (w := c :: cs.takeWhile isWordPart) hlead hrest
    rwa [List.nil_append, List.cons_append, List.takeWhile_append_dropWhile, ← h, hcut,
      ← stretches_cons_of_part (isWordPart_of_isWordStart hc)] at hmade

end

/-- The words of a text form a word list, and are the only word list that the text is made of. So
all texts that are made of the same words have the same name under each convention. -/
theorem words_eq_iff_madeOf (t : Text) :
    WordList (words t) ∧
    (∀ ws, words t = ws ↔ WordList ws ∧ MadeOf ws t) ∧
    ∀ ws u, ws ≠ [] → WordList ws → MadeOf ws t → MadeOf ws u →
      ∀ convention, ∃ x, normalize convention t = .ok x ∧ normalize convention u = .ok x := by
  refine ⟨wordList_words t, fun ws => ⟨?_, ?_⟩, fun ws u hne hws ht hu convention => ?_⟩
  · rintro rfl
    exact ⟨wordList_words t, madeOf_words t⟩
  · rintro ⟨hws, ht⟩
    exact ht.words_eq hws
  · have hwt := ht.words_eq hws
    have hwu := hu.words_eq hws
    refine ⟨_, normalize_of_words_ne_nil (hwt ▸ hne), ?_⟩
    rw [normalize_of_words_ne_nil (hwu ▸ hne), hwt, hwu]

/-- The digit at the beginning separates and the ones after a letter do not. The two texts are made
of `a1`, `b` and `3`. -/
theorem words_eq_iff_madeOf_digits :
    let t := "1-a1__b 3.".toList
    let u := "_a1 -b_3".toList
    let ws := ["a1".toList, "b".toList, "3".toList]
    WordList ws ∧ MadeOf ws t ∧ MadeOf ws u ∧
      ∀ convention, ∃ x, normalize convention t = .ok x ∧ normalize convention u = .ok x := by
  intro t u ws
  have ht : words t = ws := by decide +kernel
  have hu : words u = ws := by decide +kernel
  obtain ⟨-, hmade, hsame⟩ := words_eq_iff_madeOf t
  obtain ⟨hws, hmt⟩ := (hmade ws).1 ht
  obtain ⟨-, hmu⟩ := ((words_eq_iff_madeOf u).2.1 ws).1 hu
  exact ⟨hws, hmt, hmu, hsame ws u (List.cons_ne_nil _ _) hws hmt hmu⟩

end JavaNames
