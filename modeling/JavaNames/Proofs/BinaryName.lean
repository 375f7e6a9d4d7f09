import JavaNames.Proofs.RoundTrip
import JavaNames.TypeName.Projections

/-!
# Binary names

The binary name of a type tells which class it has at run time: two type names have the same one
exactly if they are the same without their type arguments (`TypeName.binaryName_eq_iff`). Without
dimensions it is the display form of the erased type, from which that type is read back
(`TypeName.parse_binaryName`). With dimensions it begins with a bracket, as no type name does
(`TypeName.parse_symbol_cons_ne_ok`), so the names of arrays are apart from the others. Among them,
the brackets in front end where the descriptor begins, and the descriptor tells the element
(`TypeName.element_erase_eq_of_descriptor_eq`).
-/

namespace JavaNames

/-! ## Brackets in front -/

/-- Punctuation in front of a text is its first token. -/
theorem exists_of_lex_symbol_cons {p : Punctuation} {rest : Text} {lexemes : List Lexeme}
    (h : lex (p.symbol :: rest) = .ok lexemes) :
    ∃ x xs, lexemes = x :: xs ∧ x.token = .punctuation p := by
  rw [lex_eq_ok_iff,
    lexFrom_punctuation (isWhiteSpace_symbol p) (Punctuation.ofChar?_symbol p)] at h
  obtain ⟨ys, -, rfl⟩ := Except.map_eq_ok_iff.1 h
  exact ⟨_, ys, rfl, rfl⟩

/-- Primitive types are told apart by their letters. -/
theorem Primitive.descriptor_inj {p q : Primitive} (h : p.descriptor = q.descriptor) : p = q := by
  cases p <;> cases q <;> first | rfl | cases h

namespace TypeName

/-- The tokens of a type name begin with a word. -/
theorem tokens_append_ne_punctuation_cons (t : TypeName) (ts us : List Token) (p : Punctuation) :
    t.tokens ++ ts ≠ .punctuation p :: us := by
  intro h
  cases t with
  | primitive q n => cases h
  | reference pk x as n => cases pk <;> cases h

/-- No type name begins with punctuation. -/
theorem parse_symbol_cons_ne_ok (p : Punctuation) (rest : Text) (t : TypeName) :
    parse (p.symbol :: rest) ≠ .ok t := by
  intro h
  obtain ⟨-, lexemes, hlex, htokens⟩ := tokens_of_parseWithin h
  obtain ⟨x, xs, rfl, hx⟩ := exists_of_lex_symbol_cons hlex
  rw [List.map_cons, hx] at htokens
  exact tokens_append_ne_punctuation_cons t _ _ p htokens.symm

/-! ## The parts of a binary name -/

section
variable {t u : TypeName}

/-- What stands after the dimensions in the binary name of an array: the letter of a primitive type,
or the qualified name of a class between `L` and `;`. -/
def descriptor : TypeName → Text
  | .primitive p _ => [p.descriptor]
  | .reference package name _ _ => 'L' :: qualify package name.text ++ [';']

/-- An array has a dimension. -/
theorem exists_dimensions_eq_succ (h : t.isArray = true) : ∃ n, t.dimensions = n + 1 := by
  have hn : t.dimensions ≠ 0 := by simpa [isArray] using h
  exact Nat.exists_eq_succ_of_ne_zero hn

/-- Without dimensions, the binary name displays the erased type. -/
theorem binaryName_of_isArray_eq_false (h : t.isArray = false) :
    t.binaryName = t.erase.display := by
  have hn : t.dimensions = 0 := by simpa [isArray] using h
  rw [display, render_erase]
  cases t <;> cases hn <;> simp [binaryName, qualifiedName, brackets]

/-- With dimensions, the binary name is a bracket for each of them and the descriptor. -/
theorem binaryName_of_isArray (h : t.isArray = true) :
    t.binaryName = List.replicate t.dimensions '[' ++ t.descriptor := by
  obtain ⟨n, hn⟩ := exists_dimensions_eq_succ h
  cases t <;> cases hn <;> simp [binaryName, dimensions, descriptor]

/-- A descriptor does not begin with a bracket. -/
theorem head?_descriptor_ne (t : TypeName) : t.descriptor.head? ≠ some '[' := by
  cases t with
  | primitive p n => cases p <;> simp [descriptor, Primitive.descriptor]
  | reference pk x as n => simp [descriptor]

/-- Erasing leaves a type name well formed. -/
theorem WellFormed.erase (ht : t.WellFormed) : t.erase.WellFormed := by
  cases t with
  | primitive p n => trivial
  | reference pk x as n => exact ⟨ht.1, ht.2.1, trivial⟩

/-- Without dimensions, the erased type is read from the binary name. -/
theorem parse_binaryName (ht : t.WellFormed) (h : t.isArray = false) :
    parse t.binaryName = .ok t.erase := by
  rw [binaryName_of_isArray_eq_false h]
  exact parse_of_display ht.erase

/-- The binary name of an array begins with a bracket. -/
theorem exists_binaryName_eq_cons (h : t.isArray = true) :
    ∃ rest, t.binaryName = '[' :: rest := by
  obtain ⟨n, hn⟩ := exists_dimensions_eq_succ h
  rw [binaryName_of_isArray h, hn]
  exact ⟨_, rfl⟩

/-- The binary name of an array is no type name. -/
theorem parse_binaryName_ne_ok (h : t.isArray = true) (v : TypeName) :
    parse t.binaryName ≠ .ok v := by
  obtain ⟨rest, hrest⟩ := exists_binaryName_eq_cons h
  rw [hrest]
  exact parse_symbol_cons_ne_ok .leftBracket rest v

/-! ## What a binary name tells -/

/-- A binary name says nothing of type arguments. -/
theorem binaryName_erase (t : TypeName) : t.erase.binaryName = t.binaryName := by
  cases t with
  | primitive p n => rfl
  | reference pk x as n => cases n <;> rfl

/-- A type name is erased apart from its dimensions. -/
theorem erase_eq_iff : t.erase = u.erase ↔
    t.element.erase = u.element.erase ∧ t.dimensions = u.dimensions := by
  cases t <;> cases u <;> simp [erase, element, withDimensions, dimensions, and_assoc]

/-- The binary name of a type that is no array tells the erased type. -/
theorem erase_eq_of_binaryName_eq (ht : t.WellFormed) (hu : u.WellFormed)
    (hta : t.isArray = false) (hua : u.isArray = false) (h : t.binaryName = u.binaryName) :
    t.erase = u.erase := by
  have hparse := parse_binaryName ht hta
  rw [h, parse_binaryName hu hua] at hparse
  exact (Except.ok.inj hparse).symm

/-- The descriptor of an array tells the erased type of its elements. A letter alone is no name
between two signs, so primitive types and classes are told apart. -/
theorem element_erase_eq_of_descriptor_eq (ht : t.WellFormed) (hu : u.WellFormed)
    (h : t.descriptor = u.descriptor) : t.element.erase = u.element.erase := by
  cases t with
  | primitive p m =>
    cases u with
    | primitive q n =>
      obtain rfl := Primitive.descriptor_inj (List.cons.inj h).1
      rfl
    | reference qk y bs n =>
      have hlength := congrArg List.length h
      simp [descriptor] at hlength
  | reference pk x as m =>
    cases u with
    | primitive q n =>
      have hlength := congrArg List.length h
      simp [descriptor] at hlength
    | reference qk y bs n =>
      have hname : qualify pk x.text = qualify qk y.text :=
        List.append_cancel_right (List.cons.inj h).2
      exact erase_eq_of_binaryName_eq (wellFormed_withDimensions.2 ht)
        (wellFormed_withDimensions.2 hu) rfl rfl hname

/-- The binary name tells the erased type. -/
theorem binaryName_eq_iff (ht : t.WellFormed) (hu : u.WellFormed) :
    t.binaryName = u.binaryName ↔ t.erase = u.erase := by
  constructor
  · intro h
    cases hta : t.isArray with
    | false =>
      cases hua : u.isArray with
      | false => exact erase_eq_of_binaryName_eq ht hu hta hua h
      | true => exact absurd (h ▸ parse_binaryName ht hta) (parse_binaryName_ne_ok hua _)
    | true =>
      cases hua : u.isArray with
      | false => exact absurd (h ▸ parse_binaryName hu hua) (parse_binaryName_ne_ok hta _)
      | true =>
        rw [binaryName_of_isArray hta, binaryName_of_isArray hua] at h
        obtain ⟨hdimensions, hdescriptor⟩ :=
          List.replicate_append_inj (head?_descriptor_ne t) (head?_descriptor_ne u) h
        exact erase_eq_iff.2 ⟨element_erase_eq_of_descriptor_eq ht hu hdescriptor, hdimensions⟩
  · intro h
    rw [← binaryName_erase t, h, binaryName_erase u]

/-- The binary name is a faithful name of the erased type: no two types have the same one unless
they are erased to the same type. It is read as a type name exactly if it is the name of no array,
and then as the erased type. -/
theorem binaryName_faithful (ht : t.WellFormed) :
    (∀ u : TypeName, u.WellFormed → (t.binaryName = u.binaryName ↔ t.erase = u.erase)) ∧
      ∀ v, parse t.binaryName = .ok v ↔ t.isArray = false ∧ v = t.erase := by
  refine ⟨fun u hu => binaryName_eq_iff ht hu, fun v => ⟨fun h => ?_, ?_⟩⟩
  · cases hta : t.isArray with
    | false => exact ⟨rfl, Except.ok.inj (h.symm.trans (parse_binaryName ht hta))⟩
    | true => exact absurd h (parse_binaryName_ne_ok hta v)
  · rintro ⟨hta, rfl⟩
    exact parse_binaryName ht hta

end

/-- The arrays of `p.T<int[]>` have the binary names of the arrays of `p.T`, which are no type
names. -/
theorem binaryName_faithful_array :
    let t : TypeName := .reference [⟨['p']⟩] ⟨['T']⟩ [.type .invariant (.primitive .int 1)] 2
    let u : TypeName := .reference [⟨['p']⟩] ⟨['T']⟩ [] 2
    t.WellFormed ∧ u.WellFormed ∧ t.binaryName = "[[Lp.T;".toList ∧
      u.binaryName = t.binaryName ∧ ∀ v, parse t.binaryName ≠ .ok v := by
  intro t u
  have hp : ∀ s ∈ [(⟨['p']⟩ : Identifier)], isLegalIdentifier s.text = true := by
    rw [List.forall_mem_singleton]
    decide +kernel
  have hT : isLegalIdentifier ['T'] = true := by decide +kernel
  have ht : t.WellFormed := ⟨hp, hT, ⟨rfl, trivial⟩, trivial⟩
  have hu : u.WellFormed := ⟨hp, hT, trivial⟩
  obtain ⟨hname, hread⟩ := binaryName_faithful ht
  refine ⟨ht, hu, by decide +kernel, ((hname u hu).2 rfl).symm, fun v h => ?_⟩
  cases ((hread v).1 h).1

end TypeName

end JavaNames
