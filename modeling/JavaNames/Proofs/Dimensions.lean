import JavaNames.Proofs.Lexing.Separators
import JavaNames.Proofs.Reading.Nesting
import JavaNames.TypeName.Display

/-!
# Brackets after a type name

Dimensions are counted beside an element, and a pair of brackets in a text stands for one of them. So
whatever is written after a type name adds to its dimensions if it is brackets and nothing else but
blanks, whether the type name had dimensions before or not (`TypeName.parseWithin_append`): the tokens
of the text are followed by those of the brackets, and so are the tokens of the type name if
dimensions are added to it.

In the other direction one dimension at a time can be taken away, as often as there are dimensions,
and then the element is left (`TypeName.nthComponent?_dimensions`).
-/

namespace JavaNames

/-! ## Texts of brackets -/

/-- A text has the brackets of `n` dimensions, and before, between and after them nothing but blanks.
-/
def HasBrackets (n : Nat) (s : Text) : Prop :=
  s.filter (fun c => !Unicode.isWhiteSpace c) = brackets n

/-- Brackets are punctuation. -/
theorem exists_punctuation_of_brackets (n : Nat) :
    ∃ ps : List Punctuation, brackets n = ps.map Punctuation.symbol ∧
      bracketTokens n = ps.map Token.punctuation := by
  induction n with
  | zero => exact ⟨[], rfl, rfl⟩
  | succ n ih =>
    obtain ⟨ps, htext, htokens⟩ := ih
    refine ⟨.leftBracket :: .rightBracket :: ps, ?_, ?_⟩
    · rw [brackets, htext]
      rfl
    · rw [bracketTokens, htokens]
      rfl

section
variable {s : Text} {ps : List Punctuation}

/-- Punctuation between blanks is cut into this punctuation. -/
theorem lexes_of_filter
    (h : s.filter (fun c => !Unicode.isWhiteSpace c) = ps.map Punctuation.symbol) :
    Lexes s (ps.map Token.punctuation) := by
  induction s generalizing ps with
  | nil =>
    obtain rfl : ps = [] := List.map_eq_nil_iff.1 h.symm
    exact .nil
  | cons c s ih =>
    cases hc : Unicode.isWhiteSpace c with
    | true =>
      rw [List.filter_cons_of_neg (by simp [hc])] at h
      exact .blank hc (ih h)
    | false =>
      rw [List.filter_cons_of_pos (by simp [hc])] at h
      cases ps with
      | nil => cases h
      | cons p ps =>
        obtain ⟨rfl, htail⟩ := List.cons.inj h
        exact .punctuation p (ih htail)

/-- Punctuation between blanks does not go on with a word. -/
theorem endsWord_of_filter
    (h : s.filter (fun c => !Unicode.isWhiteSpace c) = ps.map Punctuation.symbol) :
    EndsWord s := by
  cases s with
  | nil => exact endsWord_nil
  | cons c s =>
    rw [endsWord_cons]
    cases hc : Unicode.isWhiteSpace c with
    | true => exact isIdentifierPart_of_isWhiteSpace hc
    | false =>
      have hmem : c ∈ ps.map Punctuation.symbol := by
        rw [← h, List.filter_cons_of_pos (by simp [hc])]
        exact .head _
      obtain ⟨p, -, rfl⟩ := List.mem_map.1 hmem
      exact isIdentifierPart_symbol p

end

namespace TypeName

/-! ## Brackets in a text -/

/-- Brackets after a type name add their dimensions to it, within the same limits. -/
theorem parseWithin_append {limits : Limits} {input s : Text} {t : TypeName} {n : Nat}
    (h : parseWithin limits input = .ok t) (hs : HasBrackets n s) :
    parseWithin limits (input ++ s) = .ok (t.addDimensions n) := by
  obtain ⟨-, hlimits⟩ := parseWithin_eq_ok_iff.1 h
  obtain ⟨hwf, lexemes, hlex, htokens⟩ := tokens_of_parseWithin h
  obtain ⟨ps, hps, hbrackets⟩ := exists_punctuation_of_brackets n
  have hfilter := hs.trans hps
  have happend := (lexes_of_lex hlex htokens).append (lexes_of_filter hfilter)
    fun _ _ _ => endsWord_of_filter hfilter
  rw [← hbrackets, ← tokens_addDimensions] at happend
  obtain ⟨lexemes', hlex', htokens'⟩ := happend.lex
  refine parseWithin_of_tokens hlex' htokens' (wellFormed_withDimensions.2 hwf) ?_
  rw [nesting_addDimensions]
  exact hlimits

/-! ## Components -/

/-- The type name with `k` dimensions taken away, one at a time, if it has so many. -/
def nthComponent? : Nat → TypeName → Option TypeName
  | 0, t => some t
  | k + 1, t => t.component?.bind (nthComponent? k)

/-- What has been added can be taken away. -/
theorem nthComponent?_addDimensions (t : TypeName) (k : Nat) :
    nthComponent? k (t.addDimensions k) = some t := by
  induction k with
  | zero => rw [addDimensions_zero, nthComponent?]
  | succ k ih => rw [nthComponent?, component?_addDimensions_succ, Option.bind_some, ih]

/-- A type name is its element with its dimensions. -/
theorem addDimensions_element (t : TypeName) : t.element.addDimensions t.dimensions = t := by
  simp [element, addDimensions]

/-- An element has no component. -/
theorem component?_element (t : TypeName) : t.element.component? = none := by
  simp [component?, isArray, element]

/-- When all dimensions have been taken away, the element is left. -/
theorem nthComponent?_dimensions (t : TypeName) :
    nthComponent? t.dimensions t = some t.element := by
  have h := nthComponent?_addDimensions t.element t.dimensions
  rwa [addDimensions_element] at h

/-! ## Laws -/

/-- An element stays when dimensions are added. -/
theorem element_addDimensions (t : TypeName) (n : Nat) : (t.addDimensions n).element = t.element := by
  simp [element, addDimensions]

/-- Adding dimensions is an action of the natural numbers on type names. It counts dimensions of one
element, be the type name an array or not. One of them is taken away with each component, down to the
element, which has no component. The display form has one pair of brackets more for each dimension
that is added, and so has a text: what it is read as within some limits, it is read as with more
dimensions if their brackets follow, with or without blanks. -/
theorem addDimensions_laws (t : TypeName) :
    (∀ m n, (t.addDimensions m).addDimensions n = t.addDimensions (m + n)) ∧
    t.addDimensions 0 = t ∧
    (∀ n, (t.addDimensions n).element = t.element ∧
      (t.addDimensions n).dimensions = t.dimensions + n) ∧
    (∀ n, (t.addDimensions (n + 1)).component? = some (t.addDimensions n)) ∧
    (nthComponent? t.dimensions t = some t.element ∧ t.element.component? = none) ∧
    (∀ n, (t.addDimensions n).display = t.display ++ brackets n) ∧
    ∀ limits input n s, parseWithin limits input = .ok t → HasBrackets n s →
      parseWithin limits (input ++ s) = .ok (t.addDimensions n) :=
  ⟨fun m n => (t.addDimensions_add m n).symm, t.addDimensions_zero,
    fun n => ⟨element_addDimensions t n, t.dimensions_addDimensions n⟩,
    t.component?_addDimensions_succ, ⟨nthComponent?_dimensions t, component?_element t⟩,
    t.render_addDimensions true, fun _ _ _ _ => parseWithin_append⟩

/-- An array of arrays of `p.L<?>` is read with two pairs of brackets more, which blanks surround. -/
theorem addDimensions_laws_array :
    let t : TypeName := .reference [⟨['p']⟩] ⟨['L']⟩ [.wildcard] 2
    parse "p.L<?>[ ][]".toList = .ok t ∧ HasBrackets 2 " [] [ ] ".toList ∧
      parse "p.L<?>[ ][] [] [ ] ".toList = .ok (t.addDimensions 2) := by
  intro t
  have hread : parse "p.L<?>[ ][]".toList = .ok t := by decide +kernel
  have hbrackets : HasBrackets 2 " [] [ ] ".toList := by
    rw [HasBrackets]
    decide +kernel
  have happend : "p.L<?>[ ][] [] [ ] ".toList = "p.L<?>[ ][]".toList ++ " [] [ ] ".toList := by
    decide +kernel
  refine ⟨hread, hbrackets, ?_⟩
  rw [happend]
  obtain ⟨-, -, -, -, -, -, hparse⟩ := addDimensions_laws t
  exact hparse _ _ _ _ hread hbrackets

end TypeName

end JavaNames
