import JavaNames.TypeName.Reading
import JavaNames.TypeName.Tokens

/-!
# Steps of reading

What one token can do to a reading is one rule of `Reading.Step`, and `Reading.next?` takes a token
exactly if a rule does (`next?_eq_some_iff`). A sequence of tokens is taken one by one
(`Reading.after?`), and a run over the tokens of a text succeeds exactly if the tokens before its
end can all be taken and leave a complete type name (`run_eq_ok_iff`).
-/

namespace JavaNames

/-- The argument that is complete at a stage, in a place with a variance. -/
def Stage.argument? (v : Variance) : Stage → Option Argument
  | .wildcard => some .wildcard
  | .named package name => some (.type v (.reference package name [] 0))
  | .closed t => some (.type v t)
  | _ => none

/-- A type name can begin at the stage. -/
def Stage.StartsType (g : Stage) : Prop :=
  g = .typeStart ∨ g = .argumentStart

namespace Reading

/-! ## Single steps -/

/-- One token takes a reading to another one. -/
inductive Step (limits : Limits) : Reading → Token → Reading → Prop
  /-- A class name begins. -/
  | name {i s os g w} (hg : g.StartsType) :
    Step limits ⟨i, s, os, g⟩ (.identifier w) ⟨i + 1, i, os, .named [] ⟨w⟩⟩
  /-- A primitive type begins. -/
  | primitive {i s os g} {p : Primitive} (hg : g.StartsType) :
    Step limits ⟨i, s, os, g⟩ (.keyword p.keyword) ⟨i + 1, i, os, .primitive p⟩
  /-- An argument is a wildcard. -/
  | wildcard {i s os} :
    Step limits ⟨i, s, os, .argumentStart⟩ (.punctuation .question) ⟨i + 1, s, os, .wildcard⟩
  /-- A wildcard gets a bound. -/
  | bound {i s o os k v} (hv : Variance.tokens v = [.punctuation .question, .keyword k]) :
    Step limits ⟨i, s, o :: os, .wildcard⟩ (.keyword k)
      ⟨i + 1, s, { o with variance := v } :: os, .typeStart⟩
  /-- The name is a segment of a package. -/
  | dot {i s os pk x} :
    Step limits ⟨i, s, os, .named pk x⟩ (.punctuation .dot) ⟨i + 1, s, os, .dotted (pk ++ [x])⟩
  /-- A name follows its package. -/
  | segment {i s os pk w} :
    Step limits ⟨i, s, os, .dotted pk⟩ (.identifier w) ⟨i + 1, s, os, .named pk ⟨w⟩⟩
  /-- A list of arguments begins. -/
  | openList {i s os pk x} (hl : limits.allows (os.length + 1) = true) :
    Step limits ⟨i, s, os, .named pk x⟩ (.punctuation .leftAngle)
      ⟨i + 1, s, ⟨s, pk, x, [], .invariant⟩ :: os, .argumentStart⟩
  /-- A dimension begins. -/
  | openBracket {i s os g t} (ht : g.type? = some t) :
    Step limits ⟨i, s, os, g⟩ (.punctuation .leftBracket) ⟨i + 1, s, os, .bracketed t⟩
  /-- A dimension is complete. -/
  | closeBracket {i s os t} :
    Step limits ⟨i, s, os, .bracketed t⟩ (.punctuation .rightBracket)
      ⟨i + 1, s, os, .closed (t.addDimensions 1)⟩
  /-- Another argument follows. -/
  | comma {i s o os g a} (ha : g.argument? o.variance = some a) :
    Step limits ⟨i, s, o :: os, g⟩ (.punctuation .comma)
      ⟨i + 1, s, { o with arguments := o.arguments ++ [a], variance := .invariant } :: os,
        .argumentStart⟩
  /-- A list of arguments ends. -/
  | closeList {i s o os g a} (ha : g.argument? o.variance = some a) :
    Step limits ⟨i, s, o :: os, g⟩ (.punctuation .rightAngle)
      ⟨i + 1, o.start, os, .closed (.reference o.package o.name (o.arguments ++ [a]) 0)⟩

section
variable {limits : Limits} {r r' : Reading} {t : Token}

/-- A token that begins a type name is a name or a primitive type. -/
theorem step_of_begin? (hg : r.stage.StartsType) (h : r.begin? t = some r') :
    Step limits r t r' := by
  obtain ⟨i, s, os, g⟩ := r
  cases t with
  | identifier w =>
    cases h
    exact .name hg
  | keyword k =>
    simp only [begin?] at h
    split at h
    · next p hp =>
      rw [Primitive.ofKeyword?_eq_some_iff] at hp
      subst hp
      cases h
      exact .primitive hg
    · cases h
  | literal _ | punctuation _ | eof => cases h

/-- A token that ends an argument is a comma or the end of the list. -/
theorem step_of_endArgument? {a : Variance → Argument}
    (ha : ∀ v, r.stage.argument? v = some (a v)) (h : r.endArgument? a t = some r') :
    Step limits r t r' := by
  obtain ⟨i, s, os, g⟩ := r
  cases os with
  | nil => cases h
  | cons o os =>
    simp only [endArgument?] at h
    split at h
    · cases h
      exact .comma (ha _)
    · cases h
      exact .closeList (ha _)
    · cases h

/-- A keyword after a wildcard gives it a bound. -/
theorem step_of_bound? {v : Variance} {k : Keyword} (hg : r.stage = .wildcard)
    (hv : v.tokens = [.punctuation .question, .keyword k]) (h : r.bound? v = some r') :
    Step limits r (.keyword k) r' := by
  obtain ⟨i, s, os, g⟩ := r
  cases hg
  cases os with
  | nil => cases h
  | cons o os =>
    cases h
    exact .bound hv

/-- A list of arguments is opened after a name. -/
theorem step_of_open? {pk : List Identifier} {x : Identifier} (hg : r.stage = .named pk x)
    (h : r.open? limits pk x = some r') : Step limits r (.punctuation .leftAngle) r' := by
  obtain ⟨i, s, os, g⟩ := r
  cases hg
  simp only [open?] at h
  split at h
  · next hl =>
    cases h
    exact .openList hl
  · cases h

/-- Whatever `next?` does is a step. -/
theorem step_of_next? (h : r.next? limits t = some r') : Step limits r t r' := by
  obtain ⟨i, s, os, g⟩ := r
  cases g with
  | typeStart => exact step_of_begin? (.inl rfl) h
  | argumentStart =>
    simp only [next?] at h
    split at h
    · next ht =>
      subst ht
      cases h
      exact .wildcard
    · exact step_of_begin? (.inr rfl) h
  | wildcard =>
    simp only [next?] at h
    split at h
    · exact step_of_bound? rfl rfl h
    · exact step_of_bound? rfl rfl h
    · exact step_of_endArgument? (fun _ => rfl) h
  | primitive p =>
    simp only [next?] at h
    split at h
    · next ht =>
      subst ht
      cases h
      exact .openBracket rfl
    · cases h
  | named pk x =>
    simp only [next?] at h
    split at h
    · cases h
      exact .dot
    · exact step_of_open? rfl h
    · cases h
      exact .openBracket rfl
    · exact step_of_endArgument? (fun _ => rfl) h
  | dotted pk =>
    simp only [next?] at h
    split at h
    · cases h
      exact .segment
    · cases h
  | closed u =>
    simp only [next?] at h
    split at h
    · next ht =>
      subst ht
      cases h
      exact .openBracket rfl
    · exact step_of_endArgument? (fun _ => rfl) h
  | bracketed u =>
    simp only [next?] at h
    split at h
    · next ht =>
      subst ht
      cases h
      exact .closeBracket
    · cases h

/-- Every step is taken by `next?`. -/
theorem Step.next? (h : Step limits r t r') : r.next? limits t = some r' := by
  cases h with
  | name hg => rcases hg with rfl | rfl <;> rfl
  | primitive hg => rcases hg with rfl | rfl <;> simp [Reading.next?, begin?, advance]
  | wildcard | dot | segment | closeBracket => rfl
  | @bound i s o os k v hv =>
    cases v with
    | invariant => cases hv
    | covariant | contravariant => cases hv; rfl
  | openList hl => simp [Reading.next?, open?, hl, advance]
  | @openBracket i s os g u hu => cases g <;> cases hu <;> rfl
  | @comma i s o os g a ha => cases g <;> cases ha <;> rfl
  | @closeList i s o os g a ha => cases g <;> cases ha <;> rfl

/-- A token can be the next one exactly if a rule says so. -/
theorem next?_eq_some_iff : r.next? limits t = some r' ↔ Step limits r t r' :=
  ⟨step_of_next?, Step.next?⟩

/-- The end of the text is never the next token. -/
@[simp] theorem next?_eof : r.next? limits .eof = none := by
  rw [Option.eq_none_iff_forall_ne_some]
  intro r' h
  cases step_of_next? h

end

/-! ## Sequences of steps -/

/-- The reading after a sequence of tokens, if each of them can be the next one. -/
def after? (limits : Limits) (r : Reading) : List Token → Option Reading
  | [] => some r
  | t :: ts => (r.next? limits t).bind (·.after? limits ts)

section
variable {limits : Limits} {r r' r'' : Reading} {t : Token} {ts us : List Token}

@[simp] theorem after?_nil : r.after? limits [] = some r := rfl

/-- One token after another. -/
theorem after?_cons_eq_some_iff :
    r.after? limits (t :: ts) = some r'' ↔
      ∃ r', Step limits r t r' ∧ r'.after? limits ts = some r'' := by
  simp only [after?, Option.bind_eq_some_iff, next?_eq_some_iff]

/-- A token that is taken can be left out. -/
theorem Step.after?_cons (h : Step limits r t r') :
    r.after? limits (t :: ts) = r'.after? limits ts := by
  simp [after?, h.next?]

/-- One sequence after another. -/
theorem after?_append : r.after? limits (ts ++ us) =
    (r.after? limits ts).bind (·.after? limits us) := by
  induction ts generalizing r with
  | nil => rfl
  | cons t ts ih =>
    simp only [List.cons_append, after?]
    cases r.next? limits t with
    | none => rfl
    | some r' => exact ih

/-- The tokens of a sequence that is taken can be left out. -/
theorem after?_append_of_eq_some (h : r.after? limits ts = some r') :
    r.after? limits (ts ++ us) = r'.after? limits us := by
  rw [after?_append, h, Option.bind_some]

/-- What every step preserves, every sequence of steps does. -/
theorem after?_induction {motive : List Token → Reading → Prop} (h : r.after? limits ts = some r')
    (init : motive [] r)
    (step : ∀ us r' t r'', t ∈ ts → motive us r' → Step limits r' t r'' →
      motive (us ++ [t]) r'') : motive ts r' := by
  suffices ∀ us, motive us r → motive (us ++ ts) r' from this [] init
  clear init
  induction ts generalizing r with
  | nil =>
    intro us hus
    cases h
    simpa using hus
  | cons t ts ih =>
    intro us hus
    obtain ⟨r₁, h₁, h₂⟩ := after?_cons_eq_some_iff.1 h
    have hstep := ih h₂ (fun us r' t r'' ht => step us r' t r'' (.tail _ ht)) (us ++ [t])
      (step us r t r₁ (.head _) hus h₁)
    simpa using hstep

/-- A run over the tokens of a text takes all of them, and ends with a complete type name. -/
theorem run_eq_ok_iff (hts : .eof ∉ ts) {u : TypeName} :
    r.run limits (ts ++ [.eof]) = .ok u ↔
      ∃ r', r.after? limits ts = some r' ∧ r'.result? = some u := by
  induction ts generalizing r with
  | nil =>
    simp only [List.nil_append, run_eof, finish, after?_nil, Option.some.injEq, exists_eq_left']
    cases r.result? <;> simp
  | cons t ts ih =>
    obtain ⟨ht, hts⟩ := not_or.1 (fun h => hts (List.mem_cons.2 h))
    rw [List.cons_append]
    cases h : r.next? limits t with
    | none =>
      rw [run_cons_of_no_next (Ne.symm ht) h]
      simp [after?, h]
    | some r₁ =>
      rw [run_cons_of_next (Ne.symm ht) h, ih hts, (step_of_next? h).after?_cons]

end

end Reading

end JavaNames
