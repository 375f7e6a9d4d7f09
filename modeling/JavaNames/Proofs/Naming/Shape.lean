import JavaNames.Proofs.Lexing
import JavaNames.Proofs.Naming.Interchange

/-!
# The shape of a name

Underscores have two places in a name. One of them stands in front of a name that would be a reserved
word otherwise, and the others stand between the parts of a name (`underscores_of_normalize`). No part
is empty or has an underscore, so the ones between the parts are single, and none of them stands at
an end (`singleUnderscores_snake`).

A convention that begins a name with a capital never needs the underscore in front. What it begins
with is the upper-case form of itself (`exists_toUpper_eq_of_capital`), and no reserved word begins
so: the first letters of reserved words are small.
-/

namespace JavaNames

/-! ## Underscores between parts -/

/-- Every underscore of a text stands between two other characters: none is the first or the last
character, and no two of them follow each other. -/
def SingleUnderscores (t : Text) : Prop :=
  ∀ a b, t = a ++ '_' :: b → (∃ c ∈ a.getLast?, c ≠ '_') ∧ ∃ c ∈ b.head?, c ≠ '_'

/-- A text of words goes on after the first one with an underscore and the text of the others. -/
theorem snake_cons_cons (w v : Text) (ws : List Text) :
    snake (w :: v :: ws) = w ++ '_' :: snake (v :: ws) := rfl

section
variable {w : Text} {ps : List Text}

/-- A part without underscores ends in another character. -/
theorem exists_getLast?_ne (hne : w ≠ []) (hw : '_' ∉ w) : ∃ c ∈ w.getLast?, c ≠ '_' := by
  refine ⟨w.getLast hne, List.getLast?_eq_some_getLast hne, ?_⟩
  intro h
  exact hw (h ▸ List.getLast_mem hne)

/-- A text of parts without underscores begins with another character. -/
theorem exists_head?_snake_ne (h : ∀ p ∈ w :: ps, p ≠ [] ∧ '_' ∉ p) :
    ∃ c ∈ (snake (w :: ps)).head?, c ≠ '_' := by
  obtain ⟨hne, hw⟩ := h w (.head _)
  obtain ⟨c, cs, rfl⟩ := List.exists_cons_of_ne_nil hne
  exact ⟨c, rfl, fun hc => hw (hc ▸ .head _)⟩

/-- Between parts without underscores the underscores are single. -/
theorem singleUnderscores_snake (h : ∀ p ∈ ps, p ≠ [] ∧ '_' ∉ p) :
    SingleUnderscores (snake ps) := by
  induction ps with
  | nil =>
    intro a b hab
    cases a <;> cases hab
  | cons w ps ih =>
    obtain ⟨⟨hne, hw⟩, hps⟩ := List.forall_mem_cons.1 h
    intro a b hab
    cases ps with
    | nil =>
      rw [snake, List.flatMap_nil, List.append_nil] at hab
      exact absurd (hab ▸ by simp) hw
    | cons v ps =>
      rw [snake_cons_cons] at hab
      rcases List.cut_of_append_eq hab with ⟨e, rfl⟩ | ⟨e, rfl, he⟩
      · exact absurd (by simp) hw
      · cases e with
        | nil =>
          obtain rfl := (List.cons.inj he).2
          rw [List.append_nil]
          exact ⟨exists_getLast?_ne hne hw, exists_head?_snake_ne hps⟩
        | cons d e =>
          -- the underscore stands in the text of the later parts, and so does what is before it
          obtain ⟨⟨c, hc, hne⟩, hafter⟩ := ih hps e b (List.cons.inj he).2
          refine ⟨⟨c, ?_, hne⟩, hafter⟩
          rw [List.getLast?_append, List.getLast?_cons, Option.mem_def.1 hc]
          rfl

end

/-! ## The first character -/

/-- A reserved word does not begin with the upper-case form of itself. -/
theorem toUpper_ne_of_isReserved {t : Text} (h : isReserved t = true) :
    ∀ c ∈ t.head?, Unicode.toUpper c ≠ [c] := by
  have key : ∀ w ∈ reservedWords.map String.toList,
      w.head?.all (fun c => decide (Unicode.toUpper c ≠ [c])) = true := by
    decide +kernel
  intro c hc
  simpa [Option.mem_def.1 hc] using key t (isReserved_iff_mem.1 h)

namespace Convention

/-- The conventions under which a name begins with a small letter. -/
def smallFirst : List Convention :=
  [.lowerCase, .methodName, .variableName]

section
variable {convention : Convention} {ws vs : List Text}

/-- A convention that writes no underscores has one part. -/
theorem length_parts_of_not_mem_snakeCase (hc : convention ∉ snakeCase) :
    (convention.parts ws).length = 1 := by
  cases convention with
  | camelCase | methodName | variableName => rfl
  | upperCase | lowerCase | constantName => exact absurd (by simp [snakeCase]) hc

/-- Words in upper case begin with the upper-case form of a character. -/
theorem exists_toUpper_eq_of_recased (h : WordList vs) (hne : vs ≠ []) :
    ∃ d ds, joinSnake Unicode.toUpper false vs = d :: ds ∧ Unicode.toUpper d = [d] := by
  have hm := Unicode.caseMapping_toUpper
  obtain ⟨w, rest, hrecased⟩ : ∃ w rest, recased Unicode.toUpper vs = w :: rest :=
    List.exists_cons_of_ne_nil (recased_ne_nil hne)
  have hword := h.recased hm
  rw [hrecased] at hword
  obtain ⟨d, ds, rfl, -⟩ := hword.exists_first
  have hmem : d :: ds ∈ recased Unicode.toUpper vs := hrecased ▸ List.mem_cons_self
  have hjoin : joinSnake Unicode.toUpper false vs = snake ((d :: ds) :: rest) := by
    rw [joinSnake_eq_snake hm h, hrecased]
  exact ⟨d, _, hjoin, settled_of_mem_recased hm hmem (.head _)⟩

/-- Under the other conventions a name begins with the upper-case form of a character. -/
theorem exists_toUpper_eq_of_capital (hc : convention ∉ smallFirst) (h : WordList ws)
    (hne : ws ≠ []) :
    ∃ d ds, convention.assemble ws = d :: ds ∧ Unicode.toUpper d = [d] := by
  cases convention with
  | camelCase =>
    obtain ⟨d, ds, heq, -, hform⟩ := joinCamel_cases true h hne
    exact ⟨d, ds, heq, hform⟩
  | upperCase | constantName =>
    exact exists_toUpper_eq_of_recased h.flatMap_humps (h.flatMap_humps_ne_nil hne)
  | lowerCase | methodName | variableName => exact absurd (by simp [smallFirst]) hc

/-- Only a name that begins with a small letter can be a reserved word. -/
theorem mem_smallFirst_of_isReserved (h : WordList ws) (hne : ws ≠ [])
    (hr : isReserved (convention.assemble ws) = true) : convention ∈ smallFirst := by
  by_contra hc
  obtain ⟨d, ds, heq, hd⟩ := exists_toUpper_eq_of_capital hc h hne
  exact toUpper_ne_of_isReserved hr d (heq ▸ rfl) hd

end

end Convention

/-! ## Names -/

/-- A name is a reserved word after an underscore, which happens only under a convention for small
letters, or it has parts with single underscores between them: one part, if the convention writes no
underscores. -/
theorem underscores_of_normalize {convention : Convention} {t : Text} {x : Identifier}
    (h : normalize convention t = .ok x) :
    (∃ word, isReserved word = true ∧ x.text = '_' :: word ∧
      convention ∈ Convention.smallFirst) ∨
    (∃ parts, parts ≠ [] ∧ (∀ p ∈ parts, p ≠ [] ∧ '_' ∉ p) ∧ x.text = snake parts ∧
      (convention ∉ Convention.snakeCase → parts.length = 1)) ∧ SingleUnderscores x.text := by
  obtain ⟨hne, rfl⟩ := normalize_eq_ok_iff.1 h
  have hwords := wordList_words t
  have hparts := convention.wordList_parts hwords hne
  have hfree : ∀ p ∈ convention.parts (words t), p ≠ [] ∧ '_' ∉ p := by
    refine fun p hp => ⟨hparts.ne_nil p hp, fun hmem => ?_⟩
    have hpart := hparts.parts p hp '_' hmem
    rw [isWordPart_underscore] at hpart
    cases hpart
  cases hr : isReserved (convention.assemble (words t)) with
  | true =>
    refine .inl ⟨_, hr, ?_, Convention.mem_smallFirst_of_isReserved hwords hne hr⟩
    rw [escape, if_pos hr]
  | false =>
    have hescape : escape (convention.assemble (words t)) = snake (convention.parts (words t)) := by
      rw [escape, if_neg (by simp [hr]), convention.assemble_eq_snake hwords]
    rw [hescape]
    exact .inr ⟨⟨_, convention.parts_ne_nil hwords hne, hfree, rfl,
      Convention.length_parts_of_not_mem_snakeCase⟩, singleUnderscores_snake hfree⟩

/-- The variable `for` gets an underscore in front, since an underscore between parts stands after
another character. The constant `_for Größe` has one between its parts. -/
theorem underscores_of_normalize_for :
    (∃ word, isReserved word = true ∧ "_for".toList = '_' :: word) ∧
      normalize .constantName "_for Größe".toList = .ok ⟨"FOR_GRÖSSE".toList⟩ ∧
      SingleUnderscores "FOR_GRÖSSE".toList := by
  have hfor : normalize .variableName "for".toList = .ok ⟨"_for".toList⟩ := by decide +kernel
  have hsize : normalize .constantName "_for Größe".toList = .ok ⟨"FOR_GRÖSSE".toList⟩ := by
    decide +kernel
  refine ⟨?_, hsize, ?_⟩
  · rcases underscores_of_normalize hfor with ⟨word, hr, heq, -⟩ | ⟨-, hsingle⟩
    · exact ⟨word, hr, heq⟩
    · obtain ⟨⟨c, hc, -⟩, -⟩ := hsingle [] "for".toList (by decide +kernel)
      cases hc
  · rcases underscores_of_normalize hsize with ⟨-, -, -, hsmall⟩ | ⟨-, hsingle⟩
    · exact absurd hsmall (by decide)
    · exact hsingle

end JavaNames
