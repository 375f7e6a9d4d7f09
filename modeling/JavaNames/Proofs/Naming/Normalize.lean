import JavaNames.Proofs.Naming.Joining

/-!
# Normalization succeeds on every text with words

What is assembled from the words of a text is a text of words, and so spelled like an identifier;
with an underscore in front of it if it is reserved, it is a legal one, since no reserved word
begins with an underscore. So normalization gives an identifier for every text with words, under
every convention (`normalize_eq_ok_iff`), and the identifier is itself a text with words. Other
texts are rejected, the empty one with a diagnostic of its own, and no promise about a text is ever
broken.
-/

namespace JavaNames

section
variable {convention : Convention} {t : Text} {x : Identifier}

/-! ## Reserved words -/

/-- No reserved word begins with an underscore. -/
@[simp] theorem isReserved_underscore_cons (t : Text) : isReserved ('_' :: t) = false := by
  have key : ∀ w ∈ reservedWords.map String.toList, w.head? ≠ some '_' := by decide
  rw [Bool.eq_false_iff]
  intro h
  exact key _ (isReserved_iff_mem.1 h) rfl

/-- A text with the spelling of an identifier is legal once it is escaped. -/
theorem isLegalIdentifier_escape (h : hasIdentifierShape t = true) :
    isLegalIdentifier (escape t) = true := by
  rw [escape]
  split
  · have hparts : t.all isIdentifierPart = true := by
      cases t with
      | nil => rfl
      | cons c cs =>
        rw [hasIdentifierShape, Bool.and_eq_true] at h
        rw [List.all_cons, isIdentifierPart_of_start h.1, h.2]
        rfl
    have hunderscore : isIdentifierStart '_' = true := by simp [isIdentifierStart]
    rw [isLegalIdentifier, hasIdentifierShape, hunderscore, hparts, isReserved_underscore_cons]
    rfl
  · next hreserved =>
    rw [isLegalIdentifier, h, Bool.true_and, Bool.not_eq_true']
    exact Bool.eq_false_iff.2 hreserved

/-- Escaping a text changes no word. -/
@[simp] theorem words_escape (t : Text) : words (escape t) = words t := by
  rw [escape]
  split
  · exact words_underscore_cons t
  · rfl

/-! ## Results -/

/-- Nothing is assembled from no words. -/
@[simp] theorem Convention.assemble_nil (convention : Convention) :
    convention.assemble [] = [] := by
  cases convention <;> rfl

/-- A text that is not empty and has no words is rejected as such. -/
theorem normalize_of_words_eq_nil (ht : t ≠ []) (hw : words t = []) :
    normalize convention t = .error (.rejected (.noWords t)) := by
  rw [normalize, if_neg (by simpa using ht)]
  simp [hw]

/-- A text with words is normalized to what is assembled from them. -/
theorem normalize_of_words_ne_nil (hw : words t ≠ []) :
    normalize convention t = .ok ⟨escape (convention.assemble (words t))⟩ := by
  have ht : t.isEmpty = false := by
    cases t with
    | nil => exact absurd stretches_nil hw
    | cons c cs => rfl
  have hshape := convention.hasIdentifierShape_assemble (wordList_words t) hw
  have hassembled : (convention.assemble (words t)).isEmpty = false := by
    cases hs : convention.assemble (words t) with
    | nil =>
      rw [hs] at hshape
      cases hshape
    | cons c cs => rfl
  have hlegal := Identifier.ofKnownLegal_eq_ok_iff.2 ⟨isLegalIdentifier_escape hshape, rfl⟩
  simp only [normalize, ht, hassembled, hlegal]
  rfl

/-- The texts with words are normalized, to what is assembled from their words. -/
theorem normalize_eq_ok_iff :
    normalize convention t = .ok x ↔
      words t ≠ [] ∧ x = ⟨escape (convention.assemble (words t))⟩ := by
  constructor
  · intro h
    have hw : words t ≠ [] := by
      intro hnil
      cases t with
      | nil => cases h
      | cons c cs =>
        rw [normalize_of_words_eq_nil (List.cons_ne_nil _ _) hnil] at h
        cases h
    rw [normalize_of_words_ne_nil hw] at h
    exact ⟨hw, (Except.ok.inj h).symm⟩
  · rintro ⟨hw, rfl⟩
    exact normalize_of_words_ne_nil hw

/-! ## Failures -/

/-- There are three kinds of texts: the empty one, the others without words, and those with words.
-/
theorem normalize_cases (convention : Convention) (t : Text) :
    t = [] ∧ normalize convention t = .error (.rejected (.empty "text to normalize" t)) ∨
    (t ≠ [] ∧ words t = [] ∧ normalize convention t = .error (.rejected (.noWords t))) ∨
    (words t ≠ [] ∧ ∃ x, normalize convention t = .ok x) := by
  by_cases ht : t = []
  · subst ht
    exact .inl ⟨rfl, rfl⟩
  · by_cases hw : words t = []
    · exact .inr (.inl ⟨ht, hw, normalize_of_words_eq_nil ht hw⟩)
    · exact .inr (.inr ⟨hw, _, normalize_of_words_ne_nil hw⟩)

/-- No promise about a text is broken. -/
theorem normalize_ne_violated (v : Violation) : normalize convention t ≠ .error (.violated v) := by
  intro h
  rcases normalize_cases convention t with ⟨-, heq⟩ | ⟨-, -, heq⟩ | ⟨-, x, heq⟩ <;>
    · rw [heq] at h
      cases h

/-- The empty text is rejected as such, and no other one. -/
theorem normalize_eq_empty_iff :
    normalize convention t = .error (.rejected (.empty "text to normalize" t)) ↔ t = [] := by
  rcases normalize_cases convention t with ⟨rfl, heq⟩ | ⟨ht, -, heq⟩ | ⟨hw, x, heq⟩
  · exact ⟨fun _ => rfl, fun _ => heq⟩
  · refine ⟨fun h => ?_, fun h => absurd h ht⟩
    rw [heq] at h
    cases h
  · refine ⟨fun h => ?_, ?_⟩
    · rw [heq] at h
      cases h
    · rintro rfl
      exact absurd stretches_nil hw

/-- The texts without words that are not empty are rejected as such, and no other ones. -/
theorem normalize_eq_noWords_iff :
    normalize convention t = .error (.rejected (.noWords t)) ↔ t ≠ [] ∧ words t = [] := by
  rcases normalize_cases convention t with ⟨rfl, heq⟩ | ⟨ht, hw, heq⟩ | ⟨hw, x, heq⟩
  · refine ⟨fun h => ?_, fun h => absurd rfl h.1⟩
    rw [heq] at h
    cases h
  · exact ⟨fun _ => ⟨ht, hw⟩, fun _ => heq⟩
  · refine ⟨fun h => ?_, fun h => absurd h.2 hw⟩
    rw [heq] at h
    cases h

/-- The texts with words have a result, and no other ones. -/
theorem exists_normalize_iff : (∃ x, normalize convention t = .ok x) ↔ words t ≠ [] := by
  constructor
  · rintro ⟨x, h⟩
    exact (normalize_eq_ok_iff.1 h).1
  · exact fun hw => ⟨_, normalize_of_words_ne_nil hw⟩

/-- A text fails under every convention alike. -/
theorem normalize_eq_error {e : Failure} (h : normalize convention t = .error e)
    (other : Convention) : normalize other t = .error e := by
  rcases normalize_cases convention t with ⟨rfl, heq⟩ | ⟨ht, hw, heq⟩ | ⟨-, x, heq⟩
  · exact h
  · rw [normalize_of_words_eq_nil ht hw, ← h, heq]
  · rw [heq] at h
    cases h

/-! ## Results are legal -/

/-- The words of a result are the parts of what has been assembled. -/
theorem words_of_normalize (h : normalize convention t = .ok x) :
    words x.text = convention.parts (words t) := by
  obtain ⟨hw, rfl⟩ := normalize_eq_ok_iff.1 h
  have hwords := wordList_words t
  rw [words_escape, convention.assemble_eq_snake hwords,
    (convention.wordList_parts hwords hw).words_snake]

/-- A result of normalization has words. -/
theorem words_ne_nil_of_normalize (h : normalize convention t = .ok x) : words x.text ≠ [] := by
  rw [words_of_normalize h]
  exact convention.parts_ne_nil (wordList_words t) (normalize_eq_ok_iff.1 h).1

/-- A result of normalization is a legal identifier. -/
theorem isLegalIdentifier_of_normalize (h : normalize convention t = .ok x) :
    isLegalIdentifier x.text = true := by
  obtain ⟨hw, rfl⟩ := normalize_eq_ok_iff.1 h
  exact isLegalIdentifier_escape (convention.hasIdentifierShape_assemble (wordList_words t) hw)

end

/-! ## Totality -/

/-- Normalization never breaks a promise. It rejects the empty text as empty and the other texts
without a character that begins a word as texts without words, under every convention alike; every
other text has a result, which is a legal identifier and has a result itself under every convention.
-/
theorem normalize_total (convention : Convention) (t : Text) :
    (∀ v, normalize convention t ≠ .error (.violated v)) ∧
    (normalize convention t = .error (.rejected (.empty "text to normalize" t)) ↔ t = []) ∧
    (normalize convention t = .error (.rejected (.noWords t)) ↔
      t ≠ [] ∧ ∀ d ∈ t, isIdentifierStart d = true → d = '_') ∧
    ((∃ x, normalize convention t = .ok x) ↔ ∃ d ∈ t, isIdentifierStart d = true ∧ d ≠ '_') ∧
    (∀ e, normalize convention t = .error e → ∀ other, normalize other t = .error e) ∧
    ∀ x, normalize convention t = .ok x →
      isLegalIdentifier x.text = true ∧ ∀ other, ∃ y, normalize other x.text = .ok y := by
  refine ⟨normalize_ne_violated, normalize_eq_empty_iff, ?_, ?_,
    fun e h other => normalize_eq_error h other, fun x h => ⟨?_, fun other => ?_⟩⟩
  · rw [← words_eq_nil_iff]
    exact normalize_eq_noWords_iff
  · rw [exists_normalize_iff, words_ne_nil_iff]
    simp [isWordStart]
  · exact isLegalIdentifier_of_normalize h
  · exact exists_normalize_iff.2 (words_ne_nil_of_normalize h)

end JavaNames
