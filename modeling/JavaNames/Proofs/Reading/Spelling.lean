import JavaNames.Proofs.Lexing
import JavaNames.Proofs.Reading.Steps

/-!
# What a reading has read

The tokens that a reading has taken can be read off it (`Reading.tokens`): the tokens of the types
whose argument lists are open, from the outermost one on, and those of its stage. Each step adds its
token to them and keeps all names legal and all arguments free of primitive types
(`Reading.Step.wellFormed`). So a type name that is complete after a sequence of tokens is well
formed and spelled by this sequence (`Reading.tokens_eq_of_after?`).
-/

namespace JavaNames

/-! ## Tokens of types under construction -/

/-- The tokens of a list of arguments, each followed by a comma. -/
def commaTokens (as : List Argument) : List Token :=
  as.flatMap fun a => a.tokens ++ [.punctuation .comma]

/-- The tokens of a type up to the argument that is being read. -/
def OpenType.tokens (o : OpenType) : List Token :=
  packageTokens o.package ++ .identifier o.name.text :: .punctuation .leftAngle ::
    commaTokens o.arguments ++ o.variance.tokens

/-- The tokens of a stage. -/
def Stage.tokens : Stage → List Token
  | .typeStart | .argumentStart => []
  | .wildcard => [.punctuation .question]
  | .primitive p => [.keyword p.keyword]
  | .named package name => packageTokens package ++ [.identifier name.text]
  | .dotted package => packageTokens package
  | .closed t => t.tokens
  | .bracketed t => t.tokens ++ [.punctuation .leftBracket]

/-- The tokens of the open types, from the outermost one on. -/
def openTokens (os : List OpenType) : List Token :=
  os.reverse.flatMap OpenType.tokens

/-- The tokens that a reading has taken. -/
def Reading.tokens (r : Reading) : List Token :=
  openTokens r.enclosing ++ r.stage.tokens

@[simp] theorem openTokens_nil : openTokens [] = [] := rfl

@[simp] theorem openTokens_cons (o : OpenType) (os : List OpenType) :
    openTokens (o :: os) = openTokens os ++ o.tokens := by
  simp [openTokens]

@[simp] theorem packageTokens_append (pk qk : List Identifier) :
    packageTokens (pk ++ qk) = packageTokens pk ++ packageTokens qk := by
  simp [packageTokens]

@[simp] theorem packageTokens_singleton (x : Identifier) :
    packageTokens [x] = [.identifier x.text, .punctuation .dot] := rfl

@[simp] theorem Variance.tokens_invariant : Variance.invariant.tokens = [] := rfl

theorem Stage.tokens_argumentStart : Stage.argumentStart.tokens = [] := rfl

theorem Stage.tokens_closed (t : TypeName) : (Stage.closed t).tokens = t.tokens := rfl

theorem Stage.tokens_bracketed (t : TypeName) :
    (Stage.bracketed t).tokens = t.tokens ++ [.punctuation .leftBracket] := rfl

@[simp] theorem commaTokens_nil : commaTokens [] = [] := rfl

@[simp] theorem commaTokens_append (as bs : List Argument) :
    commaTokens (as ++ bs) = commaTokens as ++ commaTokens bs := by
  simp [commaTokens]

@[simp] theorem commaTokens_singleton (a : Argument) :
    commaTokens [a] = a.tokens ++ [.punctuation .comma] := by
  simp [commaTokens]

/-- The arguments after the first one, and then one more. -/
theorem moreTokens_append (as : List Argument) (a : Argument) :
    moreTokens (as ++ [a]) = .punctuation .comma :: commaTokens as ++ a.tokens ++
      [.punctuation .rightAngle] := by
  induction as with
  | nil => simp [moreTokens]
  | cons b bs ih => simp [moreTokens, ih, commaTokens]

/-- A list of arguments with a last one is spelled in angle brackets. -/
theorem argumentTokens_append (as : List Argument) (a : Argument) :
    argumentTokens (as ++ [a]) = .punctuation .leftAngle :: commaTokens as ++ a.tokens ++
      [.punctuation .rightAngle] := by
  cases as with
  | nil => simp [argumentTokens, moreTokens]
  | cons b bs => simp [argumentTokens, moreTokens_append, commaTokens]

theorem bracketTokens_add (m n : Nat) :
    bracketTokens (m + n) = bracketTokens m ++ bracketTokens n := by
  induction m with
  | zero => simp [bracketTokens]
  | succ m ih => simp [Nat.succ_add, bracketTokens, ih]

/-- More dimensions are spelled by more brackets. -/
theorem TypeName.tokens_addDimensions (t : TypeName) (n : Nat) :
    (t.addDimensions n).tokens = t.tokens ++ bracketTokens n := by
  cases t <;>
    simp [addDimensions, dimensions, withDimensions, tokens, bracketTokens_add]

/-- A type that is complete at a stage is spelled by the stage. -/
theorem Stage.tokens_of_type? {g : Stage} {t : TypeName} (h : g.type? = some t) :
    g.tokens = t.tokens := by
  cases g <;> cases h <;> simp [Stage.tokens, TypeName.tokens, argumentTokens, bracketTokens]

/-- An argument that is complete at a stage is spelled by the stage, after the tokens of its
variance. -/
theorem Stage.tokens_of_argument? {g : Stage} {v : Variance} {a : Argument}
    (h : g.argument? v = some a) (hv : g = .wildcard → v = .invariant) :
    v.tokens ++ g.tokens = a.tokens := by
  cases g with
  | wildcard =>
    cases h
    rw [hv rfl]
    rfl
  | named _ _ | closed _ =>
    cases h
    simp [Stage.tokens, Argument.tokens, TypeName.tokens, argumentTokens, bracketTokens]
  | typeStart | argumentStart | primitive _ | dotted _ | bracketed _ => cases h

/-! ## Well-formed readings -/

/-- The names and the arguments of an open type are well formed. -/
structure OpenType.WellFormed (o : OpenType) : Prop where
  package : ∀ s ∈ o.package, isLegalIdentifier s.text = true
  name : isLegalIdentifier o.name.text = true
  arguments : ∀ a ∈ o.arguments, a.WellFormed

/-- The names and the types of a stage are well formed, and a closed type is no primitive one. -/
def Stage.WellFormed : Stage → Prop
  | .typeStart | .argumentStart | .wildcard | .primitive _ => True
  | .named package name =>
    (∀ s ∈ package, isLegalIdentifier s.text = true) ∧ isLegalIdentifier name.text = true
  | .dotted package => ∀ s ∈ package, isLegalIdentifier s.text = true
  | .closed t => t.isBarePrimitive = false ∧ t.WellFormed
  | .bracketed t => t.WellFormed

/-- The parts of a reading are well formed, and an argument that begins has no bound yet. -/
structure Reading.WellFormed (r : Reading) : Prop where
  enclosing : ∀ o ∈ r.enclosing, o.WellFormed
  stage : r.stage.WellFormed
  unbounded : r.stage = .argumentStart ∨ r.stage = .wildcard →
    ∃ o os, r.enclosing = o :: os ∧ o.variance = .invariant

/-- A type that is complete at a well-formed stage is well formed. -/
theorem Stage.WellFormed.type {g : Stage} {t : TypeName} (hg : g.WellFormed)
    (h : g.type? = some t) : t.WellFormed := by
  cases g with
  | primitive _ => cases h; trivial
  | named _ _ => cases h; exact ⟨hg.1, hg.2, trivial⟩
  | closed _ => cases h; exact hg.2
  | typeStart | argumentStart | wildcard | dotted _ | bracketed _ => cases h

/-- An argument that is complete at a well-formed stage is well formed. -/
theorem Stage.WellFormed.argument {g : Stage} {v : Variance} {a : Argument} (hg : g.WellFormed)
    (h : g.argument? v = some a) : a.WellFormed := by
  cases g with
  | wildcard => cases h; trivial
  | named _ _ => cases h; exact ⟨rfl, hg.1, hg.2, trivial⟩
  | closed _ => cases h; exact hg
  | typeStart | argumentStart | primitive _ | dotted _ | bracketed _ => cases h

/-- An argument more keeps an open type well formed. -/
theorem OpenType.WellFormed.snoc {o : OpenType} {a : Argument} (ho : o.WellFormed)
    (ha : a.WellFormed) : ∀ b ∈ o.arguments ++ [a], b.WellFormed := by
  intro b hb
  rcases List.mem_append.1 hb with hb | hb
  · exact ho.arguments b hb
  · exact List.mem_singleton.1 hb ▸ ha

namespace Reading

theorem wellFormed_init : init.WellFormed where
  enclosing := by simp [init]
  stage := trivial
  unbounded := by simp [init]

section
variable {limits : Limits} {r r' : Reading} {t : Token} {ts : List Token}

/-- A legal token keeps a reading well formed. -/
theorem Step.wellFormed (h : Step limits r t r') (hr : r.WellFormed) (ht : t.Legal) :
    r'.WellFormed := by
  obtain ⟨hos, hg, hv⟩ := hr
  cases h with
  | name => exact ⟨hos, ⟨by simp, ht⟩, by simp⟩
  | primitive => exact ⟨hos, trivial, by simp⟩
  | wildcard => exact ⟨hos, trivial, fun _ => hv (.inl rfl)⟩
  | bound =>
    obtain ⟨ho, hos⟩ := List.forall_mem_cons.1 hos
    exact ⟨List.forall_mem_cons.2 ⟨⟨ho.package, ho.name, ho.arguments⟩, hos⟩, trivial, by simp⟩
  | dot =>
    refine ⟨hos, fun s hs => ?_, by simp⟩
    rcases List.mem_append.1 hs with hs | hs
    · exact hg.1 s hs
    · exact List.mem_singleton.1 hs ▸ hg.2
  | segment => exact ⟨hos, ⟨hg, ht⟩, by simp⟩
  | openList =>
    exact ⟨List.forall_mem_cons.2 ⟨⟨hg.1, hg.2, by simp⟩, hos⟩, trivial, fun _ => ⟨_, _, rfl, rfl⟩⟩
  | openBracket hu => exact ⟨hos, hg.type hu, by simp⟩
  | closeBracket =>
    refine ⟨hos, ⟨?_, TypeName.wellFormed_withDimensions.2 hg⟩, by simp⟩
    simp [TypeName.isBarePrimitive, TypeName.isArray]
  | comma ha =>
    obtain ⟨ho, hos⟩ := List.forall_mem_cons.1 hos
    exact ⟨List.forall_mem_cons.2 ⟨⟨ho.package, ho.name, ho.snoc (hg.argument ha)⟩, hos⟩, trivial,
      fun _ => ⟨_, _, rfl, rfl⟩⟩
  | closeList ha =>
    obtain ⟨ho, hos⟩ := List.forall_mem_cons.1 hos
    refine ⟨hos, ⟨rfl, ho.package, ho.name, ?_⟩, by simp⟩
    exact wellFormedArguments_iff.2 (ho.snoc (hg.argument ha))

/-- An argument that is complete in a well-formed reading is spelled by the end of its tokens. -/
theorem WellFormed.tokens_of_argument? {i s : Nat} {o : OpenType} {os : List OpenType} {g : Stage}
    {a : Argument} (hr : WellFormed ⟨i, s, o :: os, g⟩) (ha : g.argument? o.variance = some a) :
    o.variance.tokens ++ g.tokens = a.tokens := by
  refine Stage.tokens_of_argument? ha fun hg => ?_
  obtain ⟨o', os', ho, hv⟩ := hr.unbounded (.inr hg)
  cases ho
  exact hv

/-- A step adds its token to those of the reading. -/
theorem Step.tokens_eq (h : Step limits r t r') (hr : r.WellFormed) :
    r'.tokens = r.tokens ++ [t] := by
  cases h with
  | name hg | primitive hg =>
    rcases hg with rfl | rfl <;> simp [tokens, Stage.tokens, packageTokens]
  | wildcard => simp [tokens, Stage.tokens]
  | bound hk =>
    have hq := hr.tokens_of_argument? rfl
    simp only [Stage.tokens, Argument.tokens, List.append_left_eq_self] at hq
    simp [tokens, OpenType.tokens, Stage.tokens, hk, hq]
  | dot | segment | openList => simp [tokens, Stage.tokens, OpenType.tokens]
  | openBracket hu => simp [tokens, Stage.tokens_of_type? hu, Stage.tokens_bracketed]
  | closeBracket => simp [tokens, Stage.tokens, TypeName.tokens_addDimensions, bracketTokens]
  | comma ha =>
    simp [tokens, OpenType.tokens, Stage.tokens_argumentStart, ← hr.tokens_of_argument? ha]
  | closeList ha =>
    simp [tokens, OpenType.tokens, Stage.tokens_closed, TypeName.tokens, argumentTokens_append,
      bracketTokens, ← hr.tokens_of_argument? ha]

/-- After legal tokens a reading is well formed, and it spells them after those it began with. -/
theorem wellFormed_and_tokens_of_after? (h : r.after? limits ts = some r') (hr : r.WellFormed)
    (hts : ∀ t ∈ ts, t.Legal) : r'.WellFormed ∧ r'.tokens = r.tokens ++ ts := by
  refine after?_induction (motive := fun us q => q.WellFormed ∧ q.tokens = r.tokens ++ us) h
    ⟨hr, by simp⟩ ?_
  rintro us q t q' ht ⟨hq, htokens⟩ hstep
  exact ⟨hstep.wellFormed hq (hts t ht), by rw [hstep.tokens_eq hq, htokens, List.append_assoc]⟩

/-- A type name that is complete after legal tokens is well formed and spelled by them. -/
theorem tokens_eq_of_after? {u : TypeName} (h : init.after? limits ts = some r')
    (hts : ∀ t ∈ ts, t.Legal) (hu : r'.result? = some u) : u.WellFormed ∧ ts = u.tokens := by
  obtain ⟨hr', htokens⟩ := wellFormed_and_tokens_of_after? h wellFormed_init hts
  obtain ⟨j, s, os, g⟩ := r'
  cases os with
  | cons o os => cases hu
  | nil =>
    refine ⟨hr'.stage.type hu, ?_⟩
    rw [← Stage.tokens_of_type? hu]
    simpa [tokens, init, Stage.tokens] using htokens.symm

end

end Reading

end JavaNames
