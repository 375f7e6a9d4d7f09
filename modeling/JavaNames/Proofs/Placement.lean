import JavaNames.Proofs.Identifier
import JavaNames.Proofs.Lexing.Strays
import JavaNames.Proofs.Naming.Normalize
import JavaNames.Proofs.Reading.Kinds

/-!
# Places of diagnostics

Whatever is rejected is rejected with a diagnostic that points into the rejected text
(`Diagnostic.PointsInto`): both ends of its span lie in the text and between two of its characters,
and only the diagnostics of an empty and of an incomplete text point at no character. So the bytes
that a report marks are bytes of the text that it carries.

The spans come from three places. Those of identifiers and of characters that are part of no lexeme
are found with what stands before them in the text (`firstNonPart?_eq_some_iff`,
`exists_stray_of_lexFrom`). Those of type names are spans of lexemes, which stand in the text
(`place_of_lex`); the lexeme at fault is the end of the text exactly if the text is incomplete
(`Reading.exists_token_of_fault`). Names are built from a text as a whole.
-/

namespace JavaNames

/-! ## Boundaries -/

/-- A byte offset at which a text is divided between two characters, or one of its ends. -/
def IsBoundary (t : Text) (n : Nat) : Prop :=
  ∃ a b, t = a ++ b ∧ byteLength a = n

namespace Span

/-- A span lies in a text: its ends are boundaries of the text, in the right order. -/
structure Within (s : Span) (t : Text) : Prop where
  start : IsBoundary t s.start
  stop : IsBoundary t s.stop
  ordered : s.start ≤ s.stop

/-- A span in a text ends in it. -/
theorem Within.stop_le {s : Span} {t : Text} (h : s.Within t) : s.stop ≤ byteLength t := by
  obtain ⟨a, b, rfl, hstop⟩ := h.stop
  rw [byteLength_append, hstop]
  exact Nat.le_add_right _ _

/-- The span of a part of a text lies in the text. -/
theorem within_append (a b c : Text) :
    (⟨byteLength a, byteLength a + byteLength b⟩ : Span).Within (a ++ (b ++ c)) where
  start := ⟨a, b ++ c, rfl, rfl⟩
  stop := ⟨a ++ b, c, (List.append_assoc a b c).symm, byteLength_append a b⟩
  ordered := Nat.le_add_right _ _

/-- The span of a character of a text lies in the text. -/
theorem within_ofChar (a : Text) (c : Char) (b : Text) :
    (ofChar (byteLength a) c).Within (a ++ c :: b) :=
  within_append a [c] b

theorem within_whole (t : Text) : (whole t).Within t := by
  have h := within_append [] t []
  rwa [List.append_nil, byteLength_nil, Nat.zero_add] at h

theorem within_point_zero (t : Text) : (point 0).Within t :=
  within_append [] [] t

end Span

/-! ## Diagnostics -/

/-- A diagnostic points into a text: it carries the text, its span lies there and is what is marked,
and covers characters unless the text is empty or incomplete. -/
structure Diagnostic.PointsInto (d : Diagnostic) (t : Text) : Prop where
  input : d.input = t
  ordered : d.span.start ≤ d.span.stop
  bounded : d.span.stop ≤ byteLength t
  start : IsBoundary t d.span.start
  stop : IsBoundary t d.span.stop
  mark : d.mark = (d.span.start, d.span.stop - d.span.start)
  mark_le : d.mark.1 + d.mark.2 ≤ byteLength d.input
  isEmpty_iff : d.span.isEmpty = true ↔ d.kind = .empty ∨ d.kind = .unexpectedEnd
  empty : d.kind = .empty → d.span = .point 0
  unexpectedEnd : d.kind = .unexpectedEnd → d.span = .point (byteLength t)

section
variable {f : Fault} {s : Span} {t : Text}

/-- A fault at a span in a text points into it if the span has characters or the fault is one of the
two that have none. -/
theorem Fault.pointsInto (h : s.Within t)
    (hempty : s.isEmpty = true ↔ f.kind = .empty ∨ f.kind = .unexpectedEnd)
    (hzero : f.kind = .empty → s = .point 0)
    (hend : f.kind = .unexpectedEnd → s = .point (byteLength t)) :
    (f.within s t).PointsInto t where
  input := rfl
  ordered := h.ordered
  bounded := h.stop_le
  start := h.start
  stop := h.stop
  mark := rfl
  mark_le := by
    show s.start + (s.stop - s.start) ≤ byteLength t
    rw [Nat.add_sub_cancel' h.ordered]
    exact h.stop_le
  isEmpty_iff := hempty
  empty := hzero
  unexpectedEnd := hend

/-- A fault of some characters of a text points at them. -/
theorem Fault.pointsInto_of_lt (h : s.Within t) (hlt : s.start < s.stop) (hempty : f.kind ≠ .empty)
    (hend : f.kind ≠ .unexpectedEnd) : (f.within s t).PointsInto t := by
  refine Fault.pointsInto h ?_ (fun hf => absurd hf hempty) fun hf => absurd hf hend
  have hlength : s.isEmpty = false := by
    simp only [Span.isEmpty, Span.length, beq_eq_false_iff_ne]
    omega
  simp [hlength, hempty, hend]

/-- The report of an empty text points at its beginning. -/
theorem Diagnostic.pointsInto_empty (what : String) (t : Text) :
    (Diagnostic.empty what t).PointsInto t :=
  Fault.pointsInto (Span.within_point_zero t) (iff_of_true rfl (.inl rfl)) (fun _ => rfl) nofun

/-- The report of a text as a whole points at its characters. -/
theorem Fault.pointsInto_whole (h : t ≠ []) (hempty : f.kind ≠ .empty)
    (hend : f.kind ≠ .unexpectedEnd) : (f.within (.whole t) t).PointsInto t := by
  have hlt : (Span.whole t).start < (Span.whole t).stop :=
    Nat.pos_of_ne_zero fun hzero => h (byteLength_eq_zero.1 hzero)
  exact Fault.pointsInto_of_lt (Span.within_whole t) hlt hempty hend

/-- The report of a single character points at it. -/
theorem Fault.pointsInto_ofChar {a b : Text} {c : Char} (hempty : f.kind ≠ .empty)
    (hend : f.kind ≠ .unexpectedEnd) :
    (f.within (.ofChar (byteLength a) c) (a ++ c :: b)).PointsInto (a ++ c :: b) :=
  Fault.pointsInto_of_lt (Span.within_ofChar a c b) (Nat.lt_add_of_pos_right c.utf8Size_pos) hempty
    hend

end

/-! ## Lexemes -/

/-- A lexeme that stands in a text lies in it. -/
theorem Lexeme.StandsIn.within {x : Lexeme} {t : Text} (h : x.StandsIn t) : x.span.Within t := by
  obtain ⟨before, after, rfl, hspan, -⟩ := h
  rw [hspan]
  exact Span.within_append before _ after

/-- The lexemes of a text lie in it. The end of the text is an empty one, and no other lexeme is. -/
theorem place_of_lex {t : Text} {lexemes : List Lexeme} (h : lex t = .ok lexemes) :
    ∀ x ∈ lexemes, x.span.Within t ∧ (x.token = .eof ∧ x.span = .point (byteLength t) ∨
      x.token ≠ .eof ∧ x.span.start < x.span.stop) := by
  intro x hx
  refine ⟨(standsIn_of_lex h x hx).within, ?_⟩
  obtain ⟨front, rfl, hfront⟩ := (tiles_of_lex h).exists_front
  rw [Nat.zero_add] at hx
  rcases List.mem_append.1 hx with hx | hx
  · obtain ⟨hlegal, hlt⟩ := hfront x hx
    exact .inr ⟨hlegal.ne_eof, hlt⟩
  · obtain rfl := List.mem_singleton.1 hx
    exact .inl ⟨rfl, rfl⟩

/-! ## Tokens at fault -/

namespace Reading

section
variable {limits : Limits} {r : Reading} {t : Token} {us : List Token} {p : Primitive}

/-- A primitive type in the place of an argument is found before the end of the text is at fault. -/
theorem ne_eof_of_stage_primitive (hr : init.after? limits us = some r)
    (hp : r.stage = .primitive p) (hresult : r.result? = none)
    (hplace : (r.fault limits t).2 = r.position) : t ≠ .eof := by
  rintro rfl
  have hposition := position_of_after? hr
  obtain ⟨ws, rfl, hstart⟩ := exists_of_stage_primitive hr hp
  cases hos : r.enclosing with
  | nil =>
    rw [result?, hos, hp] at hresult
    cases hresult
  | cons o os =>
    rw [fault_of_stage_primitive hp hos (by simp), hstart, hposition, List.length_append] at hplace
    simp at hplace

/-- The fault of a token lies at the end of the text exactly if the text is incomplete. -/
theorem exists_token_of_fault (hr : init.after? limits us = some r) (hstops : r.Stops limits t)
    (vs : List Token) : ∃ u, (us ++ t :: vs)[(r.fault limits t).2]? = some u ∧
      ((r.fault limits t).1.kind = .unexpectedEnd ↔ u = .eof) := by
  rcases fault_cases limits r t with hplace | ⟨p, o, os, hp, -, -, hfault⟩
  · refine ⟨t, by simp [hplace, position_of_after? hr], ?_⟩
    rcases kind_fault_cases limits r t with
      ⟨⟨u, hu⟩, hkind⟩ | ⟨hresult, ⟨p, hp⟩, hkind⟩ | ⟨-, -, hasks⟩
    · have ht : t ≠ .eof := fun ht => by
        rw [hstops.result ht] at hu
        cases hu
      rcases hkind with hk | ⟨-, ⟨-, hk⟩ | ⟨-, hk⟩⟩ <;> simp [hk, ht]
    · simp [hkind, ne_eof_of_stage_primitive hr hp hresult hplace]
    · exact hasks.unexpectedEnd
  · obtain ⟨ws, rfl, hstart⟩ := exists_of_stage_primitive hr hp
    refine ⟨.keyword p.keyword, by simp [hfault, hstart], ?_⟩
    simp [hfault, Fault.kind]

end

end Reading

/-! ## Rejected texts -/

section
variable {t : Text} {d : Diagnostic}

/-- A text that cannot be cut into lexemes is rejected at one of its characters. -/
theorem pointsInto_of_lex_eq_error (h : lex t = .error d) : d.PointsInto t := by
  obtain ⟨place, c, hl, rfl⟩ := lex_eq_error_iff.1 h
  obtain ⟨front, rest, rfl, rfl, -, -⟩ := exists_stray_of_lexFrom hl
  rw [Nat.zero_add]
  exact Fault.pointsInto_ofChar (by simp [Fault.kind]) (by simp [Fault.kind])

/-- A text that is not read as a type name is rejected at one of its characters or lexemes, or at
its end. -/
theorem TypeName.pointsInto_of_parseWithin {limits : Limits}
    (h : parseWithin limits t = .error d) : d.PointsInto t := by
  cases hlex : lex t with
  | error e =>
    rw [parseWithin, hlex] at h
    obtain rfl := Except.error.inj h
    exact pointsInto_of_lex_eq_error hlex
  | ok lexemes =>
    obtain ⟨ts, hts, -⟩ := exists_tokens_of_lex hlex
    by_cases hne : ts = []
    · subst hne
      obtain rfl := Except.error.inj (h.symm.trans (parseWithin_of_no_tokens hlex hts))
      exact Diagnostic.pointsInto_empty _ t
    · obtain ⟨us, u, vs, r, x, heq, hr, hstops, hx, rfl⟩ :=
        (parseWithin_eq_error_iff hlex hts hne).1 h
      obtain ⟨v, hv, hend⟩ := Reading.exists_token_of_fault hr hstops vs
      have htoken : x.token = v := by
        rw [← heq, ← hts, List.getElem?_map, hx] at hv
        exact Option.some.inj hv
      have hempty := Reading.kind_fault_ne_empty limits r u
      obtain ⟨hwithin, ⟨heof, hspan⟩ | ⟨heof, hlt⟩⟩ :=
        place_of_lex hlex x (List.mem_of_getElem? hx)
      · have hkind := hend.2 (htoken.symm.trans heof)
        refine Fault.pointsInto hwithin ?_ (fun hf => absurd hf hempty) fun _ => hspan
        rw [hspan, hkind]
        simp [Span.isEmpty]
      · exact Fault.pointsInto_of_lt hwithin hlt hempty fun hf => heof (htoken.trans (hend.1 hf))

/-- A text that is not read as an identifier is rejected at one of its characters, or as a whole. -/
theorem Identifier.pointsInto_of_parse (h : parse t = .error d) : d.PointsInto t := by
  rcases parse_cases t with
    ⟨-, heq⟩ | ⟨-, heq⟩ | ⟨front, c, hc, heq⟩ | ⟨hshape, -, heq⟩
  · cases h.symm.trans heq
  · obtain rfl := Except.error.inj (h.symm.trans heq)
    exact Diagnostic.pointsInto_empty _ t
  · obtain rfl := Except.error.inj (h.symm.trans heq)
    obtain ⟨rest, rfl⟩ := hc.cut
    exact Fault.pointsInto_ofChar (by simp [kind_illegalFault]) (by simp [kind_illegalFault])
  · obtain rfl := Except.error.inj (h.symm.trans heq)
    have hne : t ≠ [] := by
      rintro rfl
      cases hshape
    exact Fault.pointsInto_whole hne (by simp [Fault.kind]) (by simp [Fault.kind])

/-- A text from which no name can be built is rejected as a whole. -/
theorem pointsInto_of_normalize {convention : Convention} {e : Failure}
    (h : normalize convention t = .error e) : ∃ d, e = .rejected d ∧ d.PointsInto t := by
  rcases normalize_cases convention t with ⟨-, heq⟩ | ⟨hne, -, heq⟩ | ⟨-, x, heq⟩
  · exact ⟨_, Except.error.inj (h.symm.trans heq), Diagnostic.pointsInto_empty _ t⟩
  · refine ⟨_, Except.error.inj (h.symm.trans heq), ?_⟩
    exact Fault.pointsInto_whole hne (by simp [Fault.kind]) (by simp [Fault.kind])
  · cases h.symm.trans heq

end

/-- Whatever is rejected is rejected with a diagnostic that points into the text, and the spans of
lexemes lie in their text, at what is written of their tokens. -/
theorem pointsInto_of_rejected (t : Text) :
    (∀ limits d, TypeName.parseWithin limits t = .error d → d.PointsInto t) ∧
    (∀ d, Identifier.parse t = .error d → d.PointsInto t) ∧
    (∀ convention e, normalize convention t = .error e →
      ∃ d, e = .rejected d ∧ d.PointsInto t) ∧
    ∀ lexemes, lex t = .ok lexemes →
      ∀ x ∈ lexemes, x.span.Within t ∧ x.span.slice t = x.token.spelling :=
  ⟨fun _ _ => TypeName.pointsInto_of_parseWithin, fun _ => Identifier.pointsInto_of_parse,
    fun _ _ => pointsInto_of_normalize,
    fun _ h x hx => ⟨(place_of_lex h x hx).1, slice_span_of_lex h x hx⟩⟩

end JavaNames
