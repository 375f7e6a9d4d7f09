import JavaNames.Proofs.Reading.Prefixes

/-!
# Incomplete texts and texts that are too long

The kind of a fault tells what is missing or too much. Which kind it is depends on what has been
read before the token at fault. If it is a complete type name, the token is one too many
(`Reading.kind_fault_of_result?`). If it is a primitive type in the place of an argument, the type
itself is at fault (`Reading.kind_fault_of_stage_primitive`). In every other case something is asked
for in the place of the token, and the text is incomplete exactly if the token is its end
(`Reading.asksAt_fault`).

What has been read is known from the tokens: it is a complete type name if they spell one
(`spells_iff`), and tokens can be read exactly if the tokens of some type name begin with them
(`beginsType_iff`). So the kind of a fault is a matter of the tokens of the text and their
continuations (`TypeName.rejectedAs_iff_tokens`).
-/

namespace JavaNames

/-! ## What is asked for -/

/-- A fault of a token in whose place something else is asked for. The text is incomplete if the
token is its end and only then; it is neither too long nor empty. -/
structure Fault.AsksAt (f : Fault) (t : Token) : Prop where
  unexpectedEnd : f.kind = .unexpectedEnd ↔ t = .eof
  trailingInput : f.kind ≠ .trailingInput
  empty : f.kind ≠ .empty

namespace Reading

section
variable {limits : Limits} {r : Reading} {t : Token} {us : List Token} {p : Primitive}

theorem asksAt_instead (expected : String) (t : Token) : (instead expected t).AsksAt t := by
  cases t <;> constructor <;> simp [instead, Fault.kind]

/-- A reserved word is not the end of the text. -/
theorem asksAt_reservedWord (w : Text) (h : t ≠ .eof) : (Fault.reservedWord w).AsksAt t := by
  constructor <;> simp [Fault.kind, h]

/-- Where a type name has to begin, a reserved word is told from other tokens. -/
theorem noType_cases (t : Token) :
    t ≠ .eof ∧ noType t = .reservedWord t.spelling ∨ noType t = instead "type name" t := by
  cases t with
  | keyword k | literal l => exact .inl ⟨by simp, rfl⟩
  | punctuation p | identifier w | eof => exact .inr rfl

/-- After a dot, a primitive type is told from other reserved words as well. -/
theorem noIdentifier_cases (t : Token) :
    (∃ p : Primitive, t = .keyword p.keyword ∧ noIdentifier t = .qualifiedPrimitive p) ∨
      t ≠ .eof ∧ noIdentifier t = .reservedWord t.spelling ∨
        noIdentifier t = instead "identifier" t := by
  cases t with
  | keyword k =>
    cases hk : Primitive.ofKeyword? k with
    | some p =>
      obtain rfl := Primitive.ofKeyword?_eq_some_iff.1 hk
      exact .inl ⟨p, rfl, by simp [noIdentifier]⟩
    | none => exact .inr (.inl ⟨by simp, by simp [noIdentifier, hk, Token.spelling]⟩)
  | literal l => exact .inr (.inl ⟨by simp, rfl⟩)
  | punctuation p | identifier w | eof => exact .inr (.inr rfl)

theorem asksAt_noType (t : Token) : (noType t).AsksAt t := by
  rcases noType_cases t with ⟨ht, h⟩ | h
  · rw [h]
    exact asksAt_reservedWord _ ht
  · rw [h]
    exact asksAt_instead _ t

theorem asksAt_noIdentifier (t : Token) : (noIdentifier t).AsksAt t := by
  rcases noIdentifier_cases t with ⟨p, rfl, h⟩ | ⟨ht, h⟩ | h
  · rw [h]
    constructor <;> simp [Fault.kind]
  · rw [h]
    exact asksAt_reservedWord _ ht
  · rw [h]
    exact asksAt_instead _ t

/-- Inside a list of arguments, a comma or the end of the list is asked for. -/
theorem asksAt_noEnd (i s : Nat) (o : OpenType) (os : List OpenType) (g : Stage) (t : Token) :
    (noEnd ⟨i, s, o :: os, g⟩ t).AsksAt t :=
  asksAt_instead "',' or '>'" t

/-! ## Faults by what has been read -/

/-- Where no type name is complete and no primitive type has just been read, something is asked
for. -/
theorem asksAt_fault (hresult : r.result? = none) (hp : ∀ p, r.stage ≠ .primitive p) (t : Token) :
    (r.fault limits t).1.AsksAt t := by
  obtain ⟨i, s, os, g⟩ := r
  cases g with
  | typeStart | argumentStart => exact asksAt_noType t
  | wildcard => exact asksAt_instead _ t
  | primitive p => exact absurd rfl (hp p)
  | named pk x =>
    cases os with
    | nil => cases hresult
    | cons o os =>
      rcases fault_of_stage_named (r := ⟨i, s, o :: os, .named pk x⟩) limits rfl t with
        h | ⟨limit, rfl, h⟩
      · rw [h]
        exact asksAt_noEnd i s o os (.named pk x) t
      · rw [h]
        constructor <;> simp [Fault.kind]
  | dotted pk => exact asksAt_noIdentifier t
  | closed u =>
    cases os with
    | nil => cases hresult
    | cons o os => exact asksAt_noEnd i s o os (.closed u) t
  | bracketed u => exact asksAt_instead _ t

/-- A primitive type that gets arguments is at fault. -/
theorem kind_fault_of_primitive_leftAngle (hp : r.stage = .primitive p) :
    (r.fault limits (.punctuation .leftAngle)).1.kind = .primitiveMisuse := by
  simp [fault, hp, Fault.kind]

/-- After a primitive type that is no complete type name, the primitive type is at fault. -/
theorem kind_fault_of_stage_primitive (hp : r.stage = .primitive p) (hresult : r.result? = none)
    (t : Token) : (r.fault limits t).1.kind = .primitiveMisuse := by
  by_cases ht : t = .punctuation .leftAngle
  · subst ht
    exact kind_fault_of_primitive_leftAngle hp
  · obtain ⟨i, s, os, g⟩ := r
    cases hp
    cases os with
    | nil => cases hresult
    | cons o os =>
      rw [fault_of_stage_primitive rfl rfl ht]
      rfl

/-- After a complete type name, a token is one too many, unless it opens a list of arguments. A
primitive type has none, and those of a class may be nested too deep. -/
theorem kind_fault_of_result? (limits : Limits) {u : TypeName} (hresult : r.result? = some u)
    (t : Token) :
    (r.fault limits t).1.kind = .trailingInput ∨
      t = .punctuation .leftAngle ∧
        ((∃ p, r.stage = .primitive p) ∧ (r.fault limits t).1.kind = .primitiveMisuse ∨
          (∃ pk x, r.stage = .named pk x) ∧ (r.fault limits t).1.kind = .nestingTooDeep) := by
  obtain ⟨i, s, os, g⟩ := r
  cases os with
  | cons o os => cases hresult
  | nil =>
    cases g with
    | primitive p =>
      by_cases ht : t = .punctuation .leftAngle
      · subst ht
        exact .inr ⟨rfl, .inl ⟨⟨p, rfl⟩, kind_fault_of_primitive_leftAngle rfl⟩⟩
      · simp [fault, Fault.kind]
    | named pk x =>
      rcases fault_of_stage_named (r := ⟨i, s, [], .named pk x⟩) limits rfl t with
        h | ⟨limit, rfl, h⟩
      · rw [h]
        exact .inl rfl
      · rw [h]
        exact .inr ⟨rfl, .inr ⟨⟨pk, x, rfl⟩, rfl⟩⟩
    | closed u => exact .inl rfl
    | typeStart | argumentStart | wildcard | dotted _ | bracketed _ => cases hresult

/-- What a fault says depends on what has been read: a complete type name, a primitive type in the
place of an argument, or anything else. -/
theorem kind_fault_cases (limits : Limits) (r : Reading) (t : Token) :
    (∃ u, r.result? = some u) ∧ ((r.fault limits t).1.kind = .trailingInput ∨
        t = .punctuation .leftAngle ∧
          ((∃ p, r.stage = .primitive p) ∧ (r.fault limits t).1.kind = .primitiveMisuse ∨
            (∃ pk x, r.stage = .named pk x) ∧ (r.fault limits t).1.kind = .nestingTooDeep)) ∨
      r.result? = none ∧ (∃ p, r.stage = .primitive p) ∧
          (r.fault limits t).1.kind = .primitiveMisuse ∨
        r.result? = none ∧ (∀ p, r.stage ≠ .primitive p) ∧ (r.fault limits t).1.AsksAt t := by
  cases hresult : r.result? with
  | some u => exact .inl ⟨⟨u, rfl⟩, kind_fault_of_result? limits hresult t⟩
  | none =>
    by_cases hp : ∃ p, r.stage = .primitive p
    · obtain ⟨p, hp⟩ := hp
      exact .inr (.inl ⟨rfl, ⟨p, hp⟩, kind_fault_of_stage_primitive hp hresult t⟩)
    · rw [not_exists] at hp
      exact .inr (.inr ⟨rfl, hp, asksAt_fault hresult hp t⟩)

/-- The fault of a token is never that the text is empty. -/
theorem kind_fault_ne_empty (limits : Limits) (r : Reading) (t : Token) :
    (r.fault limits t).1.kind ≠ .empty := by
  rcases kind_fault_cases limits r t with
    ⟨-, h | ⟨-, ⟨-, h⟩ | ⟨-, h⟩⟩⟩ | ⟨-, -, h⟩ | ⟨-, -, h⟩
  · simp [h]
  · simp [h]
  · simp [h]
  · simp [h]
  · exact h.empty

/-! ## Where reading stops -/

/-- Reading finds a text incomplete exactly if it stops at the end, and not for a primitive type in
the place of an argument. -/
theorem Stops.kind_eq_unexpectedEnd_iff (h : r.Stops .unlimited t) :
    (r.fault .unlimited t).1.kind = .unexpectedEnd ↔ t = .eof ∧ ∀ p, r.stage ≠ .primitive p := by
  rcases kind_fault_cases .unlimited r t with
    ⟨⟨u, hu⟩, hkind⟩ | ⟨-, ⟨p, hp⟩, hkind⟩ | ⟨-, hp, hasks⟩
  · have ht : t ≠ .eof := fun ht => by
      rw [h.result ht] at hu
      cases hu
    rcases hkind with hk | ⟨-, ⟨-, hk⟩ | ⟨-, hk⟩⟩ <;> simp [hk, ht]
  · simp [hkind, hp]
  · rw [hasks.unexpectedEnd]
    exact (and_iff_left hp).symm

/-- Reading finds a text too long exactly if it stops after a complete type name, and not at the
arguments of a primitive type. -/
theorem Stops.kind_eq_trailingInput_iff (h : r.Stops .unlimited t) :
    (r.fault .unlimited t).1.kind = .trailingInput ↔
      (∃ u, r.result? = some u) ∧
        ¬ (t = .punctuation .leftAngle ∧ ∃ p, r.stage = .primitive p) := by
  rcases kind_fault_cases .unlimited r t with
    ⟨hresult, hk | ⟨rfl, ⟨hp, hk⟩ | ⟨⟨pk, x, hx⟩, -⟩⟩⟩ | ⟨hresult, -, hk⟩ | ⟨hresult, -, hasks⟩
  · refine iff_of_true hk ⟨hresult, ?_⟩
    rintro ⟨rfl, p, hp⟩
    rw [kind_fault_of_primitive_leftAngle hp] at hk
    cases hk
  · simp [hk, hp]
  · -- without limits, a list of arguments can be opened after a name
    obtain ⟨i, s, os, g⟩ := r
    cases hx
    cases h.next
  · simp [hk, hresult]
  · simp [hasks.trailingInput, hresult]

end

end Reading

/-! ## Tokens of type names -/

/-- The tokens of a well-formed type name. -/
def Spells (ts : List Token) : Prop :=
  ∃ t : TypeName, t.WellFormed ∧ t.tokens = ts

/-- Tokens that can be continued to those of a well-formed type name. -/
def BeginsType (ts : List Token) : Prop :=
  ∃ us, Spells (ts ++ us)

section
variable {r : Reading} {ts us vs : List Token} {t : Token}

/-- Tokens spell a type name exactly if a type name is complete after them. -/
theorem spells_iff (hts : ∀ t ∈ ts, t.Legal) :
    Spells ts ↔ ∃ r u, Reading.init.after? .unlimited ts = some r ∧ r.result? = some u := by
  constructor
  · rintro ⟨u, hu, rfl⟩
    obtain ⟨r, hr, hresult⟩ := Reading.exists_result?_of_tokens hu (Limits.allows_unlimited _)
    exact ⟨r, u, hr, hresult⟩
  · rintro ⟨r, u, hr, hresult⟩
    obtain ⟨hu, htokens⟩ := Reading.tokens_eq_of_after? hr hts hresult
    exact ⟨u, hu, htokens.symm⟩

/-- Tokens begin those of a type name exactly if they can all be read. -/
theorem beginsType_iff (hts : ∀ t ∈ ts, t.Legal) :
    BeginsType ts ↔ ∃ r, Reading.init.after? .unlimited ts = some r := by
  constructor
  · rintro ⟨us, u, hu, htokens⟩
    exact Reading.exists_after?_of_prefix hu (htokens ▸ List.prefix_append ts us)
  · rintro ⟨r, hr⟩
    obtain ⟨u, hu, us, htokens⟩ := Reading.exists_tokens_of_after? hr hts
    exact ⟨us, u, hu, htokens.symm⟩

/-- A primitive type has just been read exactly if it is the last token. -/
theorem Reading.exists_stage_primitive_iff (hr : init.after? .unlimited ts = some r) :
    (∃ p, r.stage = .primitive p) ↔
      ∃ p : Primitive, ts.getLast? = some (.keyword p.keyword) := by
  constructor
  · rintro ⟨p, hp⟩
    obtain ⟨ws, rfl, -⟩ := exists_of_stage_primitive hr hp
    exact ⟨p, List.getLast?_concat⟩
  · rintro ⟨p, hlast⟩
    obtain ⟨ws, rfl⟩ := List.getLast?_eq_some_iff.1 hlast
    obtain ⟨q, -, hstep⟩ := after?_concat_eq_some_iff.1 hr
    exact ⟨p, hstep.stage_eq_primitive⟩

/-- A primitive type has just been read as a complete type name exactly if it is the only token. -/
theorem Reading.exists_stage_primitive_iff_of_result? {u : TypeName}
    (hr : init.after? .unlimited ts = some r) (hts : ∀ t ∈ ts, t.Legal)
    (hresult : r.result? = some u) :
    (∃ p, r.stage = .primitive p) ↔ ∃ p : Primitive, ts = [.keyword p.keyword] := by
  constructor
  · rintro ⟨p, hp⟩
    obtain ⟨-, htokens⟩ := tokens_eq_of_after? hr hts hresult
    obtain ⟨i, s, os, g⟩ := r
    cases hp
    cases os with
    | cons o os => cases hresult
    | nil =>
      cases hresult
      exact ⟨p, htokens⟩
  · rintro ⟨p, rfl⟩
    exact (exists_stage_primitive_iff hr).2 ⟨p, rfl⟩

/-- Tokens that begin a type name are viable. -/
theorem BeginsType.viable (h : BeginsType ts) : Viable ts := by
  obtain ⟨us, u, hu, htokens⟩ := h
  refine viable_iff_exists_wellFormed.2 ⟨u, hu, ?_⟩
  rw [htokens, List.append_assoc]
  exact List.prefix_append ts _

/-- Reading stops at a token if the tokens do not begin a type name any more with it. -/
theorem Reading.stops_of_not_beginsType (hr : init.after? .unlimited us = some r)
    (hus : ∀ x ∈ us ++ [t], x.Legal) (h : ¬ BeginsType (us ++ [t])) : r.Stops .unlimited t where
  next := by
    rw [Option.eq_none_iff_forall_ne_some]
    intro r' hr'
    rw [beginsType_iff hus] at h
    exact h ⟨r', after?_concat_eq_some_iff.2 ⟨r, hr, step_of_next? hr'⟩⟩
  result ht := by
    subst ht
    exact absurd (hus .eof (by simp)) id

/-- Of the tokens of a text, the one at which it is divided is the end or stands before it. -/
theorem eq_eof_or_of_append_cons (h : ts ++ [.eof] = us ++ t :: vs) :
    t = .eof ∧ us = ts ∨ ∃ ws, ts = us ++ t :: ws := by
  rcases List.cut_of_append_eq h with hbefore | ⟨ws, rfl, heq⟩
  · exact .inr hbefore
  · cases ws with
    | nil => exact .inl ⟨(List.cons.inj heq).1.symm, List.append_nil ts⟩
    | cons w ws => cases ws <;> cases heq

/-- The token with a given number is the second one, and opens the arguments of a primitive type. -/
def PrimitiveOpens (ts : List Token) (k : Nat) : Prop :=
  k = 1 ∧ (∃ p : Primitive, ts[0]? = some (.keyword p.keyword)) ∧
    ts[1]? = some (.punctuation .leftAngle)

theorem primitiveOpens_iff : PrimitiveOpens (us ++ t :: vs) us.length ↔
    t = .punctuation .leftAngle ∧ ∃ p : Primitive, us = [.keyword p.keyword] := by
  constructor
  · rintro ⟨hk, ⟨p, hp⟩, ht⟩
    obtain ⟨v, rfl⟩ := List.length_eq_one_iff.1 hk
    exact ⟨Option.some.inj ht, p, congrArg (fun v => [v]) (Option.some.inj hp)⟩
  · rintro ⟨rfl, p, rfl⟩
    exact ⟨rfl, ⟨p, rfl⟩, rfl⟩

end

/-! ## Rejected texts -/

/-- The text is rejected, with a report of the given kind. -/
def RejectedAs (input : Text) (kind : FaultKind) : Prop :=
  ∃ d, TypeName.parse input = .error d ∧ d.kind = kind

namespace TypeName

section
variable {input : Text} {lexemes : List Lexeme} {ts us vs : List Token} {t : Token}
  (hlex : lex input = .ok lexemes) (hts : lexemes.map Lexeme.token = ts ++ [.eof])
include hlex hts

/-- A text with tokens is rejected for the fault of the token at which reading stops. -/
theorem rejectedAs_iff_stops (hne : ts ≠ []) {kind : FaultKind} :
    RejectedAs input kind ↔ ∃ us t vs r, ts ++ [.eof] = us ++ t :: vs ∧
      Reading.init.after? .unlimited us = some r ∧ r.Stops .unlimited t ∧
        (r.fault .unlimited t).1.kind = kind := by
  have heof : .eof ∉ ts := eof_not_mem_of_lex hlex hts
  constructor
  · rintro ⟨d, hd, rfl⟩
    obtain ⟨us, t, vs, r, x, heq, hr, hstops, -, rfl⟩ :=
      (parseWithin_eq_error_iff hlex hts hne).1 hd
    exact ⟨us, t, vs, r, heq, hr, hstops, rfl⟩
  · rintro ⟨us, t, vs, r, heq, hr, hstops, rfl⟩
    refine ⟨reportAt input lexemes (r.fault .unlimited t), ?_, rfl⟩
    rw [parse, parseWithin_eq_run hlex hts hne, Except.mapError_eq_error_iff]
    exact ⟨_, (Reading.run_eq_error_iff heof).2 ⟨us, t, vs, r, heq, hr, hstops, rfl⟩, rfl⟩

/-- A text is rejected as empty exactly if it has no tokens. -/
theorem rejectedAs_empty_iff : RejectedAs input .empty ↔ ts = [] := by
  constructor
  · intro h
    by_contra hne
    obtain ⟨us, t, vs, r, -, -, -, hkind⟩ := (rejectedAs_iff_stops hlex hts hne).1 h
    exact Reading.kind_fault_ne_empty .unlimited r t hkind
  · rintro rfl
    exact ⟨_, parseWithin_of_no_tokens hlex hts, rfl⟩

/-- A text that is not rejected as empty has tokens. -/
theorem ne_nil_of_rejectedAs {kind : FaultKind} (h : RejectedAs input kind)
    (hkind : kind ≠ .empty) : ts ≠ [] := by
  rintro rfl
  obtain ⟨d, hd, rfl⟩ := h
  rw [parse, parseWithin_of_no_tokens hlex hts] at hd
  cases hd
  exact hkind rfl

/-- A text is incomplete exactly if its tokens begin a type name and spell none, unless they end
with a primitive type. -/
theorem rejectedAs_unexpectedEnd_iff : RejectedAs input .unexpectedEnd ↔
    ts ≠ [] ∧ ¬ Spells ts ∧ (¬ ∃ p : Primitive, ts.getLast? = some (.keyword p.keyword)) ∧
      BeginsType ts := by
  have hlegal := legal_of_lex hlex hts
  have heof : .eof ∉ ts := Token.eof_not_mem hlegal
  rw [spells_iff hlegal, beginsType_iff hlegal]
  constructor
  · intro h
    have hne := ne_nil_of_rejectedAs hlex hts h (by decide)
    obtain ⟨us, t, vs, r, heq, hr, hstops, hkind⟩ := (rejectedAs_iff_stops hlex hts hne).1 h
    obtain ⟨rfl, hp⟩ := hstops.kind_eq_unexpectedEnd_iff.1 hkind
    obtain rfl : us = ts := by
      rcases eq_eof_or_of_append_cons heq with ⟨-, hus⟩ | ⟨ws, rfl⟩
      · exact hus
      · exact absurd (List.mem_append_right us (.head ws)) heof
    refine ⟨hne, ?_, ?_, r, hr⟩
    · rintro ⟨r', u, hr', hresult⟩
      obtain rfl := Option.some.inj (hr.symm.trans hr')
      rw [hstops.result rfl] at hresult
      cases hresult
    · rw [← Reading.exists_stage_primitive_iff hr]
      exact not_exists.2 hp
  · rintro ⟨hne, hspells, hlast, r, hr⟩
    have hstops : r.Stops .unlimited .eof := by
      refine ⟨Reading.next?_eof, fun _ => ?_⟩
      rw [Option.eq_none_iff_forall_ne_some]
      exact fun u hresult => hspells ⟨r, u, hr, hresult⟩
    rw [← Reading.exists_stage_primitive_iff hr, not_exists] at hlast
    exact (rejectedAs_iff_stops hlex hts hne).2
      ⟨ts, .eof, [], r, rfl, hr, hstops, hstops.kind_eq_unexpectedEnd_iff.2 ⟨rfl, hlast⟩⟩

/-- A text is too long exactly if its first tokens spell a type name and do not begin one any more
with the next token, unless this token opens the arguments of a primitive type. -/
theorem rejectedAs_trailingInput_iff : RejectedAs input .trailingInput ↔
    ∃ k, 0 < k ∧ k < ts.length ∧ Spells (ts.take k) ∧ ¬ BeginsType (ts.take (k + 1)) ∧
      ¬ PrimitiveOpens ts k := by
  have hlegal := legal_of_lex hlex hts
  constructor
  · intro h
    have hne := ne_nil_of_rejectedAs hlex hts h (by decide)
    obtain ⟨us, t, vs, r, heq, hr, hstops, hkind⟩ := (rejectedAs_iff_stops hlex hts hne).1 h
    obtain ⟨⟨u, hu⟩, hopens⟩ := hstops.kind_eq_trailingInput_iff.1 hkind
    have hus := legal_of_append_cons hlegal heq
    obtain ⟨ws, rfl⟩ : ∃ ws, ts = us ++ t :: ws := by
      rcases eq_eof_or_of_append_cons heq with ⟨rfl, -⟩ | hws
      · rw [hstops.result rfl] at hu
        cases hu
      · exact hws
    refine ⟨us.length, ?_, by simp, ?_, ?_, ?_⟩
    · refine List.length_pos_iff.2 ?_
      rintro rfl
      cases hr
      cases hu
    · rw [List.take_left]
      exact (spells_iff hus).2 ⟨r, u, hr, hu⟩
    · rw [List.take_length_add_append]
      exact fun hbegins => not_viable_of_stops hr hstops hbegins.viable
    · rw [primitiveOpens_iff, ← Reading.exists_stage_primitive_iff_of_result? hr hus hu]
      exact hopens
  · rintro ⟨k, -, hk, hspells, hbegins, hopens⟩
    obtain ⟨us, t, ws, rfl, rfl⟩ := List.exists_append_cons hk
    have hust : ∀ x ∈ us ++ [t], x.Legal := by
      rw [List.append_cons] at hlegal
      exact (List.forall_mem_append.1 hlegal).1
    have hus := (List.forall_mem_append.1 hust).1
    rw [List.take_left, spells_iff hus] at hspells
    rw [List.take_length_add_append] at hbegins
    obtain ⟨r, u, hr, hu⟩ := hspells
    rw [primitiveOpens_iff, ← Reading.exists_stage_primitive_iff_of_result? hr hus hu] at hopens
    have hstops := Reading.stops_of_not_beginsType hr hust hbegins
    exact (rejectedAs_iff_stops hlex hts (by simp)).2 ⟨us, t, ws ++ [.eof], r, by simp, hr, hstops,
      hstops.kind_eq_trailingInput_iff.2 ⟨⟨u, hu⟩, hopens⟩⟩

/-- The arguments of a primitive type are a misuse of it. -/
theorem rejectedAs_of_primitiveOpens {k : Nat} (h : PrimitiveOpens ts k) :
    RejectedAs input .primitiveMisuse := by
  obtain ⟨-, ⟨p, hp⟩, hangle⟩ := h
  obtain ⟨us, t, ws, rfl, hus⟩ := List.exists_append_cons (List.getElem?_eq_some_iff.1 hangle).1
  obtain ⟨rfl, p, rfl⟩ := primitiveOpens_iff.1 ⟨hus, ⟨p, hp⟩, hangle⟩
  have hr : Reading.init.after? .unlimited [.keyword p.keyword] =
      some ⟨1, 0, [], .primitive p⟩ := (Reading.Step.primitive (.inl rfl)).after?_cons
  exact (rejectedAs_iff_stops hlex hts (by simp)).2 ⟨[.keyword p.keyword],
    .punctuation .leftAngle, ws ++ [.eof], ⟨1, 0, [], .primitive p⟩, by simp, hr, ⟨rfl, nofun⟩,
    Reading.kind_fault_of_primitive_leftAngle rfl⟩

/-- Up to which tokens a text is right decides how it is rejected. It is empty if it has no tokens.
It is incomplete if its tokens begin a type name without spelling one, and do not end with a
primitive type. It is too long if some of its first tokens spell a type name and do not begin one
any more with the next token; only if these are a primitive type and the beginning of its arguments,
it is a misuse of the type. -/
theorem rejectedAs_iff_tokens :
    (RejectedAs input .empty ↔ ts = []) ∧
      (RejectedAs input .unexpectedEnd ↔ ts ≠ [] ∧ ¬ Spells ts ∧
        (¬ ∃ p : Primitive, ts.getLast? = some (.keyword p.keyword)) ∧ BeginsType ts) ∧
      (RejectedAs input .trailingInput ↔ ∃ k, 0 < k ∧ k < ts.length ∧ Spells (ts.take k) ∧
        ¬ BeginsType (ts.take (k + 1)) ∧ ¬ PrimitiveOpens ts k) ∧
      ∀ k, PrimitiveOpens ts k → RejectedAs input .primitiveMisuse :=
  ⟨rejectedAs_empty_iff hlex hts, rejectedAs_unexpectedEnd_iff hlex hts,
    rejectedAs_trailingInput_iff hlex hts, fun _ => rejectedAs_of_primitiveOpens hlex hts⟩

end

/-- `A<int[]` is incomplete: it spells no type name, but its tokens can be continued to those of
one. -/
theorem rejectedAs_int_array_argument :
    let opened : List Token := [.identifier ['A'], .punctuation .leftAngle, .keyword .int,
      .punctuation .leftBracket, .punctuation .rightBracket]
    RejectedAs "A<int[]".toList .unexpectedEnd ∧ ¬ Spells opened ∧ BeginsType opened := by
  intro opened
  have hlex : lex "A<int[]".toList = .ok
      [⟨.identifier ['A'], ⟨0, 1⟩⟩, ⟨.punctuation .leftAngle, ⟨1, 2⟩⟩, ⟨.keyword .int, ⟨2, 5⟩⟩,
        ⟨.punctuation .leftBracket, ⟨5, 6⟩⟩, ⟨.punctuation .rightBracket, ⟨6, 7⟩⟩,
        ⟨.eof, ⟨7, 7⟩⟩] := by
    decide +kernel
  have h : parse "A<int[]".toList =
      .error ((Fault.unexpectedEnd "',' or '>'").within (.point 7) "A<int[]".toList) := by
    decide +kernel
  have hrejected : RejectedAs "A<int[]".toList .unexpectedEnd := ⟨_, h, rfl⟩
  have hkinds := rejectedAs_iff_tokens hlex (show _ = opened ++ [.eof] from rfl)
  obtain ⟨-, hspells, -, hbegins⟩ := hkinds.2.1.1 hrejected
  exact ⟨hrejected, hspells, hbegins⟩

end TypeName

end JavaNames
