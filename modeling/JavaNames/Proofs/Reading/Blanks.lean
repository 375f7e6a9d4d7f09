import JavaNames.Proofs.Reading.Kinds

/-!
# Texts with the same tokens

Blanks do not count. A run over tokens does not see where the tokens stand, so two texts with the
same tokens are read as the same type name, or are rejected for the same fault of the token with the
same number (`TypeName.exists_sameReport`). The places of this token differ, and a report may quote
the word that stands there. Since what stands under the span of a lexeme is what is written of its
token (`slice_span_of_lex`), it is the same word in both texts (`TypeName.message_of_reservedWord`).
-/

namespace JavaNames

/-! ## Reserved words -/

namespace Reading

section
variable {limits : Limits} {r : Reading} {t : Token}

theorem kind_instead_ne_reservedWord (expected : String) (t : Token) :
    (instead expected t).kind ≠ .reservedWord := by
  cases t <;> simp [instead, Fault.kind]

theorem kind_noEnd_ne_reservedWord (r : Reading) (t : Token) :
    (r.noEnd t).kind ≠ .reservedWord := by
  obtain ⟨i, s, os, g⟩ := r
  cases os with
  | nil => exact nofun
  | cons o os => exact kind_instead_ne_reservedWord _ t

theorem noType_of_reservedWord (h : (noType t).kind = .reservedWord) :
    noType t = .reservedWord t.spelling := by
  rcases noType_cases t with ⟨-, hf⟩ | hf
  · exact hf
  · rw [hf] at h
    exact absurd h (kind_instead_ne_reservedWord _ t)

theorem noIdentifier_of_reservedWord (h : (noIdentifier t).kind = .reservedWord) :
    noIdentifier t = .reservedWord t.spelling := by
  rcases noIdentifier_cases t with ⟨p, -, hf⟩ | ⟨-, hf⟩ | hf
  · rw [hf] at h
    cases h
  · exact hf
  · rw [hf] at h
    exact absurd h (kind_instead_ne_reservedWord _ t)

/-- A reserved word is at fault as it is written. -/
theorem fault_of_reservedWord (h : (r.fault limits t).1.kind = .reservedWord) :
    r.fault limits t = (.reservedWord t.spelling, r.position) := by
  obtain ⟨i, s, os, g⟩ := r
  cases g with
  | typeStart | argumentStart => exact congrArg (·, i) (noType_of_reservedWord h)
  | dotted pk => exact congrArg (·, i) (noIdentifier_of_reservedWord h)
  | wildcard | bracketed u => exact absurd h (kind_instead_ne_reservedWord _ t)
  | closed u => exact absurd h (kind_noEnd_ne_reservedWord _ t)
  | primitive p =>
    simp only [fault] at h
    split at h <;> cases h
  | named pk x =>
    rcases fault_of_stage_named (r := ⟨i, s, os, .named pk x⟩) limits rfl t with
      hf | ⟨limit, rfl, hf⟩
    · rw [hf] at h
      exact absurd h (kind_noEnd_ne_reservedWord _ t)
    · rw [hf] at h
      cases h

end

end Reading

/-! ## Two texts -/

/-- Lexemes with the same tokens are the same, up to their places. -/
theorem exists_getElem?_of_tokens_eq {xs ys : List Lexeme} {x : Lexeme} {i : Nat}
    (h : xs.map Lexeme.token = ys.map Lexeme.token) (hx : xs[i]? = some x) :
    ∃ y, ys[i]? = some y ∧ x.token = y.token := by
  have hi := congrArg (·[i]?) h
  simp only [List.getElem?_map, hx, Option.map_some] at hi
  obtain ⟨y, hy, htoken⟩ := Option.map_eq_some_iff.1 hi.symm
  exact ⟨y, hy, htoken.symm⟩

/-- Reports that say the same of two texts with the lexemes `xs` and `ys`. A text without tokens is
reported at its beginning. All other reports point to the same token, with the same number in each
text, and a reserved word is quoted as it stands there. -/
structure SameReport (xs ys : List Lexeme) (d e : Diagnostic) : Prop where
  kind : d.kind = e.kind
  message : d.message = e.message
  hint? : d.hint? = e.hint?
  empty : d.kind = .empty → d.span = .point 0 ∧ e.span = .point 0
  place : d.kind ≠ .empty → ∃ (i : Nat) (x y : Lexeme), xs[i]? = some x ∧
    ys[i]? = some y ∧ x.token = y.token ∧ d.span = x.span ∧ e.span = y.span
  quote : d.kind = .reservedWord →
    d.message = (Fault.reservedWord (d.span.slice d.input)).message ∧
      e.message = (Fault.reservedWord (e.span.slice e.input)).message

namespace TypeName

section
variable {limits : Limits} {input : Text} {lexemes : List Lexeme} {ts : List Token}
  {d : Diagnostic} {t : TypeName}

/-- A report quotes a reserved word as it is written under its span. -/
theorem message_of_reservedWord (hlex : lex input = .ok lexemes)
    (hts : lexemes.map Lexeme.token = ts ++ [.eof]) (hne : ts ≠ [])
    (h : parseWithin limits input = .error d)
    (hd : d.kind = .reservedWord) :
    d.message = (Fault.reservedWord (d.span.slice d.input)).message := by
  obtain ⟨us, t, vs, r, x, heq, hr, -, hx, rfl⟩ := (parseWithin_eq_error_iff hlex hts hne).1 h
  have hfault := Reading.fault_of_reservedWord hd
  have hnumber : (r.fault limits t).2 = us.length := by
    rw [hfault, Reading.position_of_after? hr]
  have htoken : x.token = t := by
    have hget := congrArg (·[us.length]?) (hts.trans heq)
    rw [hnumber] at hx
    simpa [hx] using hget
  show (r.fault limits t).1.message = (Fault.reservedWord (x.span.slice input)).message
  rw [slice_span_of_lex hlex x (List.mem_of_getElem? hx), htoken, hfault]

/-- A text with the tokens of one that is rejected is rejected for the same fault. -/
theorem exists_sameReport {a b : Text} {xs ys : List Lexeme} (ha : lex a = .ok xs)
    (hb : lex b = .ok ys) (h : xs.map Lexeme.token = ys.map Lexeme.token)
    (hd : parseWithin limits a = .error d) :
    ∃ e, parseWithin limits b = .error e ∧ SameReport xs ys d e := by
  obtain ⟨ts, hxs, -⟩ := exists_tokens_of_lex ha
  have hys := h.symm.trans hxs
  by_cases hne : ts = []
  · subst hne
    obtain rfl := Except.error.inj (hd.symm.trans (parseWithin_of_no_tokens ha hxs))
    exact ⟨_, parseWithin_of_no_tokens hb hys, rfl, rfl, rfl, fun _ => ⟨rfl, rfl⟩,
      fun hkind => absurd rfl hkind, nofun⟩
  · obtain ⟨us, t, vs, r, x, heq, hr, hstops, hx, rfl⟩ :=
      (parseWithin_eq_error_iff ha hxs hne).1 hd
    obtain ⟨y, hy, htoken⟩ := exists_getElem?_of_tokens_eq h hx
    have he := (parseWithin_eq_error_iff hb hys hne).2
      ⟨us, t, vs, r, y, heq, hr, hstops, hy, rfl⟩
    refine ⟨_, he, rfl, rfl, rfl, fun hkind => ?_, fun _ => ⟨_, x, y, hx, hy, htoken, rfl, rfl⟩,
      fun hkind => ⟨message_of_reservedWord ha hxs hne hd hkind,
        message_of_reservedWord hb hys hne he hkind⟩⟩
    exact absurd hkind (Reading.kind_fault_ne_empty limits r t)

/-- Two texts with the same tokens are read as the same type name, or rejected for the same fault of
the same token. -/
theorem parseWithin_eq_or_sameReport {a b : Text} {xs ys : List Lexeme} (ha : lex a = .ok xs)
    (hb : lex b = .ok ys) (h : xs.map Lexeme.token = ys.map Lexeme.token) (limits : Limits) :
    (∃ t, parseWithin limits a = .ok t ∧ parseWithin limits b = .ok t) ∨
      ∃ d e, parseWithin limits a = .error d ∧ parseWithin limits b = .error e ∧
        SameReport xs ys d e := by
  cases hd : parseWithin limits a with
  | ok t =>
    obtain ⟨ts, hxs, -⟩ := exists_tokens_of_lex ha
    refine .inl ⟨t, rfl, ?_⟩
    rw [parseWithin_eq_ok_iff_after? ha hxs] at hd
    exact (parseWithin_eq_ok_iff_after? hb (h.symm.trans hxs)).2 hd
  | error d =>
    obtain ⟨e, he, hreport⟩ := exists_sameReport ha hb h hd
    exact .inr ⟨d, e, rfl, he, hreport⟩

end

/-- In `A<class` the reserved word begins at the third byte, and further on if there are blanks
before it, of which some have more bytes than one. -/
theorem sameReport_class_argument :
    let a := "A<class".toList
    let b := "\tA <\u2003class\n".toList
    let xs : List Lexeme := [⟨.identifier ['A'], ⟨0, 1⟩⟩, ⟨.punctuation .leftAngle, ⟨1, 2⟩⟩,
      ⟨.keyword .class, ⟨2, 7⟩⟩, ⟨.eof, ⟨7, 7⟩⟩]
    let ys : List Lexeme := [⟨.identifier ['A'], ⟨1, 2⟩⟩, ⟨.punctuation .leftAngle, ⟨3, 4⟩⟩,
      ⟨.keyword .class, ⟨7, 12⟩⟩, ⟨.eof, ⟨13, 13⟩⟩]
    lex a = .ok xs ∧ lex b = .ok ys ∧
      ∃ d e, parse a = .error d ∧ parse b = .error e ∧ d.kind = .reservedWord ∧
        SameReport xs ys d e := by
  intro a b xs ys
  have ha : lex a = .ok xs := by decide +kernel
  have hb : lex b = .ok ys := by decide +kernel
  have hparse : parse a = .error ((Fault.reservedWord "class".toList).within ⟨2, 7⟩ a) := by
    decide +kernel
  refine ⟨ha, hb, ?_⟩
  rcases parseWithin_eq_or_sameReport ha hb rfl .unlimited with ⟨t, ht, -⟩ | ⟨d, e, hd, he, h⟩
  · cases hparse.symm.trans ht
  · obtain rfl := Except.error.inj (hparse.symm.trans hd)
    exact ⟨_, e, hparse, he, rfl, h⟩

end TypeName

end JavaNames
