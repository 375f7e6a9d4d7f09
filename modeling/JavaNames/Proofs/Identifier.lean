import JavaNames.Proofs.Reading.Grammar

/-!
# Recognising identifiers

A text is tried as an identifier in four ways: it is read as one, it is checked for its shape and
for being reserved, it is cut into lexemes, and it is read as a type name. All four accept the same
texts (`Identifier.recognised_iff`).

A text that is not accepted is empty, or some character cannot stand at its place, or the text is
reserved. In the second case it is cut at the first such character (`FirstIllegal`): what stands
before it could begin an identifier, which is why the report names this character and its place
(`Identifier.parse_cases`).
-/

namespace JavaNames

/-! ## Characters in their places -/

/-- A character cannot stand after a text in an identifier: it cannot begin one, or cannot continue
one. -/
def IllegalAfter : Text → Char → Prop
  | [], c => isIdentifierStart c = false
  | _ :: _, c => isIdentifierPart c = false

/-- A text is cut at the first character that cannot stand at its place in an identifier. -/
structure FirstIllegal (t front : Text) (c : Char) : Prop where
  /-- The character stands after the front. -/
  cut : ∃ rest, t = front ++ c :: rest
  /-- All characters of the front can stand at their places. -/
  legal : front = [] ∨ hasIdentifierShape front = true
  /-- The character cannot. -/
  illegal : IllegalAfter front c

/-- The fault of a character that cannot stand after a text. -/
def illegalFault : Text → Char → Fault
  | [], c => .invalidStart c
  | _ :: _, c => .invalidCharacter c "identifier"

section
variable {t front rest : Text} {c d : Char} {offset place : Nat}

/-- A text spelled like an identifier has every character at a place where it can stand. -/
theorem not_illegalAfter_of_hasIdentifierShape
    (h : hasIdentifierShape (front ++ c :: rest) = true) : ¬ IllegalAfter front c := by
  intro hc
  cases front with
  | nil =>
    rw [List.nil_append, hasIdentifierShape, Bool.and_eq_true] at h
    rw [IllegalAfter, h.1] at hc
    cases hc
  | cons d ds =>
    simp only [List.cons_append, hasIdentifierShape, List.all_append, List.all_cons,
      Bool.and_eq_true] at h
    rw [IllegalAfter, h.2.2.1] at hc
    cases hc

/-- The first character that cannot continue an identifier is found with what stands before it. -/
theorem firstNonPart?_eq_some_iff :
    firstNonPart? offset t = some (place, c) ↔
      ∃ front rest, t = front ++ c :: rest ∧ front.all isIdentifierPart = true ∧
        isIdentifierPart c = false ∧ place = offset + byteLength front := by
  induction t generalizing offset with
  | nil => simp [firstNonPart?]
  | cons d ds ih =>
    rw [firstNonPart?]
    split
    · next hd =>
      rw [ih]
      constructor
      · rintro ⟨front, rest, rfl, hfront, hc, rfl⟩
        refine ⟨d :: front, rest, rfl, ?_, hc, ?_⟩
        · rw [List.all_cons, hd, hfront]
          rfl
        · rw [byteLength_cons, Nat.add_assoc]
      · rintro ⟨front, rest, heq, hfront, hc, rfl⟩
        cases front with
        | nil =>
          obtain ⟨rfl, -⟩ := List.cons.inj heq
          rw [hd] at hc
          cases hc
        | cons e es =>
          obtain ⟨rfl, rfl⟩ := List.cons.inj heq
          rw [List.all_cons, Bool.and_eq_true] at hfront
          exact ⟨es, rest, rfl, hfront.2, hc, by rw [byteLength_cons, Nat.add_assoc]⟩
    · next hd =>
      constructor
      · intro h
        cases h
        exact ⟨[], ds, rfl, rfl, by simpa using hd, rfl⟩
      · rintro ⟨front, rest, heq, hfront, hc, rfl⟩
        cases front with
        | nil =>
          obtain ⟨rfl, -⟩ := List.cons.inj heq
          rfl
        | cons e es =>
          obtain ⟨rfl, -⟩ := List.cons.inj heq
          rw [List.all_cons, Bool.and_eq_true] at hfront
          exact absurd hfront.1 hd

end

/-! ## Reading -/

namespace Identifier

/-- What becomes of a text that is read as an identifier: it is legal, or empty, or cut at its first
illegal character, or reserved. -/
theorem parse_cases (t : Text) :
    isLegalIdentifier t = true ∧ parse t = .ok ⟨t⟩ ∨
    (t = [] ∧ parse t = .error (.empty "identifier" t)) ∨
    (∃ front c, FirstIllegal t front c ∧
      parse t = .error ((illegalFault front c).within (.ofChar (byteLength front) c) t)) ∨
    (hasIdentifierShape t = true ∧ isReserved t = true ∧
      parse t = .error ((Fault.reservedWord t).within (.whole t) t)) := by
  cases t with
  | nil => exact .inr (.inl ⟨rfl, rfl⟩)
  | cons c cs =>
    cases hc : isIdentifierStart c with
    | false =>
      refine .inr (.inr (.inl ⟨[], c, ⟨⟨cs, rfl⟩, .inl rfl, hc⟩, ?_⟩))
      rw [parse, identifierDefect?, hc]
      rfl
    | true =>
      cases hpart : firstNonPart? c.utf8Size cs with
      | some found =>
        obtain ⟨place, d⟩ := found
        obtain ⟨front, rest, rfl, hfront, hd, rfl⟩ := firstNonPart?_eq_some_iff.1 hpart
        have hshape : hasIdentifierShape (c :: front) = true := by
          rw [hasIdentifierShape, hc, hfront]
          rfl
        refine .inr (.inr (.inl ⟨c :: front, d, ⟨⟨rest, rfl⟩, .inr hshape, hd⟩, ?_⟩))
        rw [parse, identifierDefect?, hc, hpart]
        rfl
      | none =>
        have hshape : hasIdentifierShape (c :: cs) = true := by
          rw [hasIdentifierShape, hc, firstNonPart?_eq_none_iff.1 hpart]
          rfl
        cases hreserved : isReserved (c :: cs) with
        | true =>
          refine .inr (.inr (.inr ⟨hshape, rfl, ?_⟩))
          rw [parse, identifierDefect?, hc, hpart, hreserved]
          rfl
        | false =>
          refine .inl ⟨?_, ?_⟩
          · rw [isLegalIdentifier, hshape, hreserved]
            rfl
          · rw [parse, identifierDefect?, hc, hpart, hreserved]
            rfl

/-- What a legal text is read as. -/
theorem parse_of_isLegalIdentifier {t : Text} (h : isLegalIdentifier t = true) :
    parse t = .ok ⟨t⟩ :=
  parse_eq_ok_iff.2 ⟨h, rfl⟩

end Identifier

/-! ## Kinds of faults -/

section
variable {t front : Text} {c : Char}

/-- Some character of a text cannot stand at its place exactly if the text has characters, but not
the shape of an identifier. -/
theorem exists_illegalAfter_iff :
    (∃ front c rest, t = front ++ c :: rest ∧ IllegalAfter front c) ↔
      t ≠ [] ∧ hasIdentifierShape t = false := by
  constructor
  · rintro ⟨front, c, rest, rfl, hc⟩
    refine ⟨by simp, Bool.eq_false_iff.2 fun h => ?_⟩
    exact not_illegalAfter_of_hasIdentifierShape h hc
  · rintro ⟨hne, hshape⟩
    rcases Identifier.parse_cases t with ⟨hlegal, -⟩ | ⟨hnil, -⟩ | ⟨front, c, h, -⟩ | ⟨h, -⟩
    · rw [isLegalIdentifier, hshape] at hlegal
      cases hlegal
    · exact absurd hnil hne
    · obtain ⟨rest, hcut⟩ := h.cut
      exact ⟨front, c, rest, hcut, h.illegal⟩
    · rw [hshape] at h
      cases h

theorem kind_illegalFault (front : Text) (c : Char) :
    (illegalFault front c).kind = .invalidCharacter := by
  cases front <;> rfl

/-- A word is reserved exactly if its token is a keyword or a literal word. -/
theorem isReserved_iff_ofWord : isReserved t = true ↔
    (∃ k, Token.ofWord t = .keyword k) ∨ ∃ l, Token.ofWord t = .literal l := by
  rw [isReserved, Token.ofWord]
  cases Keyword.ofText? t with
  | some k => simp
  | none => cases Literal.ofText? t <;> simp

end

namespace Identifier

/-- The text is rejected, with a report of the given kind. -/
def RejectedAs (t : Text) (kind : FaultKind) : Prop :=
  ∃ d, parse t = .error d ∧ d.kind = kind

section
variable {t : Text} {kind : FaultKind}

/-- A text is rejected for one kind of fault. -/
theorem rejectedAs_iff_of_parse_eq {d : Diagnostic} (h : parse t = .error d) :
    RejectedAs t kind ↔ d.kind = kind := by
  constructor
  · rintro ⟨e, he, rfl⟩
    rw [Except.error.inj (h.symm.trans he)]
  · intro hd
    exact ⟨d, h, hd⟩

theorem not_rejectedAs_of_isLegalIdentifier (h : isLegalIdentifier t = true) :
    ¬ RejectedAs t kind := by
  rintro ⟨d, hd, -⟩
  rw [parse_of_isLegalIdentifier h] at hd
  cases hd

/-- What a text is rejected for depends on whether it has characters, on its shape, and on whether
it is reserved. -/
theorem rejectedAs_iff :
    RejectedAs t kind ↔
      t = [] ∧ kind = .empty ∨
      (t ≠ [] ∧ hasIdentifierShape t = false) ∧ kind = .invalidCharacter ∨
      (hasIdentifierShape t = true ∧ isReserved t = true) ∧ kind = .reservedWord := by
  have hne (h : hasIdentifierShape t = true) : t ≠ [] := by
    rintro rfl
    cases h
  rcases parse_cases t with ⟨h, -⟩ | ⟨rfl, h⟩ | ⟨front, c, hc, h⟩ | ⟨hshape, hreserved, h⟩
  · rw [iff_false_intro (not_rejectedAs_of_isLegalIdentifier h)]
    rw [isLegalIdentifier, Bool.and_eq_true, Bool.not_eq_true'] at h
    simp [hne h.1, h]
  · rw [rejectedAs_iff_of_parse_eq h, eq_comm]
    simp [Diagnostic.empty, Fault.within, Fault.kind, hasIdentifierShape]
  · obtain ⟨rest, hcut⟩ := hc.cut
    have hillegal := exists_illegalAfter_iff.1 ⟨front, c, rest, hcut, hc.illegal⟩
    rw [rejectedAs_iff_of_parse_eq h, eq_comm]
    simp [Fault.within, kind_illegalFault, hillegal]
  · rw [rejectedAs_iff_of_parse_eq h, eq_comm]
    simp [Fault.within, Fault.kind, hne hshape, hshape, hreserved]

/-- A text that is rejected for a character is rejected for the first one that cannot stand at its
place. -/
theorem exists_firstIllegal {d : Diagnostic} (h : parse t = .error d)
    (hd : d.kind = .invalidCharacter) : ∃ front c, FirstIllegal t front c ∧
      d = (illegalFault front c).within (.ofChar (byteLength front) c) t := by
  rcases parse_cases t with ⟨-, heq⟩ | ⟨-, heq⟩ | ⟨front, c, hc, heq⟩ | ⟨-, -, heq⟩
  · cases h.symm.trans heq
  · obtain rfl := Except.error.inj (h.symm.trans heq)
    cases hd
  · exact ⟨front, c, hc, Except.error.inj (h.symm.trans heq)⟩
  · obtain rfl := Except.error.inj (h.symm.trans heq)
    cases hd

end

/-! ## Lexemes and type names -/

section
variable {t : Text}

/-- A text is a single identifier lexeme exactly if it is legal. -/
theorem lex_eq_identifier_iff :
    lex t = .ok [⟨.identifier t, .whole t⟩, ⟨.eof, .point (byteLength t)⟩] ↔
      isLegalIdentifier t = true := by
  constructor
  · intro h
    have hlegal : ∀ u ∈ [Token.identifier t], u.Legal := legal_of_lex h rfl
    exact hlegal _ (.head _)
  · intro h
    rw [isLegalIdentifier, Bool.and_eq_true, Bool.not_eq_true'] at h
    obtain ⟨hshape, hreserved⟩ := h
    have hword := lexFrom_word_append 0 hshape endsWord_nil
    rw [List.append_nil, Token.ofWord_of_not_reserved hreserved, lexFrom_nil, Nat.zero_add] at hword
    exact lex_eq_ok_iff.2 hword

/-- A text is read as a class of this name exactly if it is legal. -/
theorem parse_typeName_eq_iff :
    TypeName.parse t = .ok (.reference [] ⟨t⟩ [] 0) ↔ isLegalIdentifier t = true := by
  rw [TypeName.parse_eq_ok_iff_tokens]
  constructor
  · rintro ⟨-, -, -, -, h, -⟩
    exact h
  · intro h
    refine ⟨_, lex_eq_identifier_iff.2 h, rfl, by simp, h, trivial⟩

/-- The four ways to recognise identifiers accept the same texts, and keep the text. A text that is
not read as an identifier is rejected as empty if it is, otherwise for the first character that
cannot stand at its place, and if there is none because it is a keyword or a literal word. -/
theorem recognised_iff (t : Text) :
    (∀ x, parse t = .ok x ↔ isLegalIdentifier t = true ∧ x = ⟨t⟩) ∧
    (isLegalIdentifier t = true ↔
      lex t = .ok [⟨.identifier t, .whole t⟩, ⟨.eof, .point (byteLength t)⟩]) ∧
    (isLegalIdentifier t = true ↔ TypeName.parse t = .ok (.reference [] ⟨t⟩ [] 0)) ∧
    (RejectedAs t .empty ↔ t = []) ∧
    (RejectedAs t .invalidCharacter ↔
      ∃ front c rest, t = front ++ c :: rest ∧ IllegalAfter front c) ∧
    (∀ d, parse t = .error d → d.kind = .invalidCharacter → ∃ front c, FirstIllegal t front c ∧
      d = (illegalFault front c).within (.ofChar (byteLength front) c) t) ∧
    (RejectedAs t .reservedWord ↔ hasIdentifierShape t = true ∧
      ((∃ k, Token.ofWord t = .keyword k) ∨ ∃ l, Token.ofWord t = .literal l)) := by
  refine ⟨fun x => parse_eq_ok_iff, lex_eq_identifier_iff.symm, parse_typeName_eq_iff.symm, ?_, ?_,
    fun d => exists_firstIllegal, ?_⟩
  · simp [rejectedAs_iff]
  · rw [exists_illegalAfter_iff, rejectedAs_iff]
    simp
  · rw [← isReserved_iff_ofWord, rejectedAs_iff]
    simp

end

end Identifier

end JavaNames
