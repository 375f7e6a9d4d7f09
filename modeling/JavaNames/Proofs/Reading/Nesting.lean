import JavaNames.Proofs.Reading.Faults
import Mathlib.Control.Monad.Basic
import Mathlib.Data.List.Induction
import Mathlib.Data.Nat.Find

/-!
# Limits of nesting

How deep the deepest list of arguments lies that a reading has opened can be read off it
(`Reading.deepest`): a step deepens it exactly as far as the open types then reach
(`Reading.Step.deepest_eq`). Tokens are taken within limits exactly if they are taken at all and the
limits allow the deepest list (`Reading.after?_eq_some_iff_unlimited`).

Counting brackets finds the same depth in the tokens: the types that are open after some tokens are
those whose `<` has not been followed by its `>` (`Reading.level_of_after?`). So reading within a
limit goes the same way as reading without one up to the first `<` above the limit, and stops there
(`Reading.exists_stops_of_lt_deepest`). Of this fault and one that the text has anyway, the one that
comes first is reported (`TypeName.parseWithin_withNesting`).
-/

namespace JavaNames

/-! ## The deepest list of arguments -/

/-- How deep the lists of arguments are nested in what has been read at a stage. -/
def Stage.nesting : Stage → Nat
  | .closed t | .bracketed t => t.nesting
  | .typeStart | .argumentStart | .wildcard | .primitive _ | .named _ _ | .dotted _ => 0

/-- How deep the lists of arguments lie that are complete inside open types. -/
def openNesting : List OpenType → Nat
  | [] => 0
  | o :: os => max (os.length + nestingOfArguments o.arguments) (openNesting os)

/-- How deep the deepest list of arguments lies that has been opened, whether it is complete or
not. -/
def Reading.deepest (r : Reading) : Nat :=
  max (r.enclosing.length + r.stage.nesting) (openNesting r.enclosing)

/-- A list of arguments is as deep as the deepest one of them. -/
theorem nestingOfArguments_append (as : List Argument) (a : Argument) :
    nestingOfArguments (as ++ [a]) = max (nestingOfArguments as) (a.nesting + 1) := by
  induction as with
  | nil => simp [nestingOfArguments]
  | cons b bs ih => simp [nestingOfArguments, ih, Nat.max_assoc]

@[simp] theorem TypeName.nesting_addDimensions (t : TypeName) (n : Nat) :
    (t.addDimensions n).nesting = t.nesting := by
  cases t <;> rfl

/-- A type that is complete at a stage is as deep as the stage. -/
theorem Stage.nesting_of_type? {g : Stage} {t : TypeName} (h : g.type? = some t) :
    t.nesting = g.nesting := by
  cases g <;> cases h <;> rfl

/-- An argument that is complete at a stage is as deep as the stage. -/
theorem Stage.nesting_of_argument? {g : Stage} {v : Variance} {a : Argument}
    (h : g.argument? v = some a) : a.nesting = g.nesting := by
  cases g <;> cases h <;> rfl

/-- Every limit allows type names without arguments. -/
theorem Limits.allows_zero (l : Limits) : l.allows 0 = true := by
  cases hl : l.nesting <;> simp [allows, hl]

namespace Reading

section
variable {limits : Limits} {r r' : Reading} {t : Token} {us : List Token}

/-- An open list of arguments has been opened. -/
theorem length_enclosing_le_deepest (r : Reading) : r.enclosing.length ≤ r.deepest :=
  Nat.le_trans (Nat.le_add_right _ _) (Nat.le_max_left _ _)

/-- A complete type name is as deep as the deepest list that has been opened. -/
theorem deepest_of_result? {u : TypeName} (h : r.result? = some u) : r.deepest = u.nesting := by
  obtain ⟨i, s, os, g⟩ := r
  cases os with
  | nil => simp [deepest, openNesting, Stage.nesting_of_type? h]
  | cons o os => cases h

/-- A step opens no list but the innermost one. -/
theorem Step.deepest_eq (h : Step limits r t r') :
    r'.deepest = max r.deepest r'.enclosing.length := by
  cases h with
  | name hg | primitive hg =>
    rcases hg with rfl | rfl <;>
    · simp only [deepest, Stage.nesting]
      omega
  | wildcard | dot | segment | bound | openList =>
    simp only [deepest, Stage.nesting, openNesting, nestingOfArguments, List.length_cons]
    omega
  | @openBracket _ _ _ _ t ht =>
    have hg : (Stage.bracketed t).nesting = _ := Stage.nesting_of_type? ht
    simp only [deepest, hg]
    omega
  | @closeBracket _ _ _ t =>
    have hg : (Stage.closed (t.addDimensions 1)).nesting = (Stage.bracketed t).nesting :=
      t.nesting_addDimensions 1
    simp only [deepest, hg]
    omega
  | comma ha =>
    have hstart : Stage.argumentStart.nesting = 0 := rfl
    simp only [deepest, openNesting, nestingOfArguments_append, List.length_cons, hstart,
      Stage.nesting_of_argument? ha]
    omega
  | @closeList _ _ o _ _ a ha =>
    have hclosed : (Stage.closed (.reference o.package o.name (o.arguments ++ [a]) 0)).nesting =
        nestingOfArguments (o.arguments ++ [a]) := rfl
    simp only [deepest, openNesting, hclosed, nestingOfArguments_append, List.length_cons,
      Stage.nesting_of_argument? ha]
    omega

/-! ## Reading within limits -/

/-- A step can be taken within other limits if they allow the list that it opens. -/
theorem Step.within (h : Step limits r t r') (limits' : Limits)
    (hl : t = .punctuation .leftAngle → limits'.allows r'.enclosing.length = true) :
    Step limits' r t r' := by
  cases h with
  | name hg => exact .name hg
  | primitive hg => exact .primitive hg
  | wildcard => exact .wildcard
  | bound hv => exact .bound hv
  | dot => exact .dot
  | segment => exact .segment
  | openList => exact .openList (hl rfl)
  | openBracket ht => exact .openBracket ht
  | closeBracket => exact .closeBracket
  | comma ha => exact .comma ha
  | closeList ha => exact .closeList ha

/-- A step within limits opens no list that they do not allow. -/
theorem Step.allows (h : Step limits r t r') (hr : limits.allows r.deepest = true) :
    limits.allows r'.deepest = true := by
  have hor : r'.enclosing.length ≤ r.enclosing.length ∨
      limits.allows r'.enclosing.length = true := by
    cases h with
    | openList hl => exact .inr hl
    | name | primitive | wildcard | bound | dot | segment | openBracket | closeBracket | comma =>
      exact .inl (Nat.le_refl _)
    | closeList => exact .inl (Nat.le_succ _)
  rw [h.deepest_eq]
  rcases hor with hle | hl
  · rwa [Nat.max_eq_left (Nat.le_trans hle r.length_enclosing_le_deepest)]
  · rcases Nat.le_total r.deepest r'.enclosing.length with hle | hle
    · rwa [Nat.max_eq_right hle]
    · rwa [Nat.max_eq_left hle]

/-- Tokens are taken within limits exactly if they are taken at all and the limits allow the deepest
list of arguments. -/
theorem after?_eq_some_iff_unlimited : init.after? limits us = some r ↔
    init.after? .unlimited us = some r ∧ limits.allows r.deepest = true := by
  constructor
  · intro h
    refine after?_induction (motive := fun us r => init.after? .unlimited us = some r ∧
      limits.allows r.deepest = true) h ⟨rfl, limits.allows_zero⟩ ?_
    rintro us r t r' - ⟨hr, hl⟩ hstep
    exact ⟨after?_concat_eq_some_iff.2 ⟨r, hr, hstep.within _ fun _ => rfl⟩, hstep.allows hl⟩
  · rintro ⟨h, hl⟩
    refine after?_induction (motive := fun us r => limits.allows r.deepest = true →
      init.after? limits us = some r) h (fun _ => rfl) ?_ hl
    intro us r t r' _ ih hstep hl
    rw [hstep.deepest_eq] at hl
    have hr := ih (Limits.allows_of_le hl (Nat.le_max_left _ _))
    exact after?_concat_eq_some_iff.2
      ⟨r, hr, hstep.within _ fun _ => Limits.allows_of_le hl (Nat.le_max_right _ _)⟩

end

end Reading

/-! ## Levels -/

/-- How many lists of arguments are open after some tokens: the number of `<` less that of `>`. -/
def level (ts : List Token) : Int :=
  ts.count (.punctuation .leftAngle) - ts.count (.punctuation .rightAngle)

/-- The token with a given number is a `<`, and its level, itself included, is `n`. -/
def OpensAt (ts : List Token) (n j : Nat) : Prop :=
  ts[j]? = some (.punctuation .leftAngle) ∧ level (ts.take (j + 1)) = n

instance (ts : List Token) (n j : Nat) : Decidable (OpensAt ts n j) :=
  inferInstanceAs (Decidable (_ ∧ _))

/-- The token with a given number is the first `<` of a level. -/
structure FirstOpensAt (ts : List Token) (n j : Nat) : Prop where
  opens : OpensAt ts n j
  first : ∀ i < j, ¬ OpensAt ts n i

theorem level_leftAngle : level [.punctuation .leftAngle] = 1 := rfl

theorem level_rightAngle : level [.punctuation .rightAngle] = -1 := rfl

theorem level_append (us vs : List Token) : level (us ++ vs) = level us + level vs := by
  simp only [level, List.count_append]
  omega

section
variable {ts us vs : List Token} {t : Token} {n j : Nat}

/-- Tokens that come later do not change what opens before them. -/
theorem opensAt_append_iff (hj : j < us.length) : OpensAt (us ++ vs) n j ↔ OpensAt us n j := by
  rw [OpensAt, OpensAt, List.getElem?_append_left hj, List.take_append_of_le_length hj]

theorem OpensAt.lt_length (h : OpensAt ts n j) : j < ts.length :=
  (List.getElem?_eq_some_iff.1 h.1).1

theorem OpensAt.append (h : OpensAt us n j) (vs : List Token) : OpensAt (us ++ vs) n j :=
  (opensAt_append_iff h.lt_length).2 h

/-- The first `<` of a level is still the first one when tokens follow. -/
theorem FirstOpensAt.append (h : FirstOpensAt us n j) (vs : List Token) :
    FirstOpensAt (us ++ vs) n j where
  opens := h.opens.append vs
  first i hi := fun hopens =>
    h.first i hi ((opensAt_append_iff (Nat.lt_trans hi h.opens.lt_length)).1 hopens)

/-- If some `<` has a level, there is a first one. -/
theorem exists_firstOpensAt (h : ∃ j, OpensAt ts n j) : ∃ j, FirstOpensAt ts n j :=
  ⟨Nat.find h, Nat.find_spec h, fun _ hi => Nat.find_min h hi⟩

/-- With one more token, something else opens if the token does. -/
theorem exists_opensAt_concat : (∃ j, OpensAt (us ++ [t]) n j) ↔
    (∃ j, OpensAt us n j) ∨ t = .punctuation .leftAngle ∧ level (us ++ [t]) = n := by
  have hlast : OpensAt (us ++ [t]) n us.length ↔
      t = .punctuation .leftAngle ∧ level (us ++ [t]) = n := by
    rw [OpensAt, List.getElem?_concat_length, List.take_of_length_le (by simp),
      Option.some.injEq]
  constructor
  · rintro ⟨j, hj⟩
    have hle := hj.lt_length
    rw [List.length_append, List.length_singleton, Nat.lt_succ_iff] at hle
    rcases Nat.lt_or_eq_of_le hle with hlt | rfl
    · exact .inl ⟨j, (opensAt_append_iff hlt).1 hj⟩
    · exact .inr (hlast.1 hj)
  · rintro (⟨j, hj⟩ | h)
    · exact ⟨j, hj.append [t]⟩
    · exact ⟨us.length, hlast.2 h⟩

end

namespace Reading

section
variable {limits : Limits} {r r' : Reading} {t : Token} {us : List Token} {m : Nat}

/-- A step opens or closes as many lists as its token does. -/
theorem Step.level_eq (h : Step limits r t r') :
    level [t] = r'.enclosing.length - r.enclosing.length := by
  cases h with
  | openList =>
    simp only [level_leftAngle, List.length_cons]
    omega
  | closeList =>
    simp only [level_rightAngle, List.length_cons]
    omega
  | name | primitive | wildcard | bound | dot | segment | openBracket | closeBracket | comma =>
    simp [level]

/-- The level of the tokens that are taken is the number of open types. -/
theorem level_of_after? (h : init.after? limits us = some r) : level us = r.enclosing.length := by
  refine after?_induction (motive := fun us r => level us = r.enclosing.length) h rfl ?_
  intro us r t r' _ ih hstep
  rw [level_append, ih, hstep.level_eq]
  omega

/-- The deepest list has a level if some `<` of the tokens that are taken does. -/
theorem lt_deepest_iff (h : init.after? limits us = some r) :
    m < r.deepest ↔ ∃ j, OpensAt us (m + 1) j := by
  induction us using List.reverseRecOn generalizing r with
  | nil =>
    cases h
    simp [OpensAt, deepest, init, Stage.nesting, openNesting]
  | append_singleton us t ih =>
    obtain ⟨q, hq, hstep⟩ := after?_concat_eq_some_iff.1 h
    have hlevel := hstep.level_eq
    have hopen := q.length_enclosing_le_deepest
    rw [exists_opensAt_concat, ← ih hq, level_of_after? h, hstep.deepest_eq]
    by_cases ht : t = .punctuation .leftAngle
    · rw [ht, level_leftAngle] at hlevel
      simp only [ht, true_and]
      omega
    · have hle : level [t] ≤ 0 := by simp [level, ht]
      simp only [ht, false_and, or_false]
      omega

/-- Tokens among which a list is opened that a limit does not allow are read within the limit up to
the first such list. -/
theorem exists_stops_of_lt_deepest (h : init.after? .unlimited us = some r) (hm : m < r.deepest) :
    let limits := Limits.unlimited.withNesting m
    ∃ j q, FirstOpensAt us (m + 1) j ∧ init.after? limits (us.take j) = some q ∧
      q.Stops limits (.punctuation .leftAngle) ∧
      q.fault limits (.punctuation .leftAngle) = (.nestingTooDeep m, j) := by
  intro limits
  obtain ⟨j, hj⟩ := exists_firstOpensAt ((lt_deepest_iff h).1 hm)
  have hlt := hj.opens.lt_length
  rw [← us.take_append_drop (j + 1)] at h
  obtain ⟨q', hq', -⟩ := exists_after?_of_append h
  have hlevel := (level_of_after? hq').symm.trans hj.opens.2
  rw [List.take_add_one, hj.opens.1] at hq'
  obtain ⟨q, hq, hstep⟩ := after?_concat_eq_some_iff.1 hq'
  have hposition : q.position = j := by
    rw [position_of_after? hq, List.length_take, Nat.min_eq_left (Nat.le_of_lt hlt)]
  -- up to here nothing is nested deeper than the limit, since its first `<` comes next
  have hdeepest : q.deepest ≤ m := by
    refine Nat.le_of_not_lt fun hdeep => ?_
    obtain ⟨i, hi⟩ := (lt_deepest_iff hq).1 hdeep
    have hij := hi.lt_length
    rw [List.length_take, Nat.min_eq_left (Nat.le_of_lt hlt)] at hij
    have hi := hi.append (us.drop j)
    rw [List.take_append_drop] at hi
    exact hj.first i hij hi
  have hallows : limits.allows q.deepest = true := by simpa [limits] using hdeepest
  refine ⟨j, q, hj, after?_eq_some_iff_unlimited.2 ⟨hq, hallows⟩, ?_⟩
  obtain ⟨i, s, os, g⟩ := q
  cases hstep with
  | openList =>
    have hdeep : ¬ os.length + 1 ≤ m := by
      simp only [List.length_cons] at hlevel
      omega
    refine ⟨⟨?_, nofun⟩, ?_⟩
    · simp [Reading.next?, open?, limits, hdeep]
    · simp [fault, limits, Limits.withNesting, ← hposition]

/-- A token that cannot be the next one has the same fault within limits. -/
theorem fault_of_no_next (h : r.next? .unlimited t = none) (limits : Limits) :
    r.fault limits t = r.fault .unlimited t := by
  obtain ⟨i, s, os, g⟩ := r
  cases g with
  | named pk x =>
    have ht : t ≠ .punctuation .leftAngle := by
      rintro rfl
      cases h
    have hfault (l : Limits) : fault l ⟨i, s, os, .named pk x⟩ t =
        (noEnd ⟨i, s, os, .named pk x⟩ t, i) :=
      (fault_of_stage_named l rfl t).resolve_right fun ⟨_, ht', _⟩ => ht ht'
    rw [hfault, hfault]
  | typeStart | argumentStart | wildcard | primitive _ | dotted _ | closed _ | bracketed _ => rfl

/-- Where reading stops without limits, it stops within limits as well. -/
theorem Stops.within (h : r.Stops .unlimited t) (limits : Limits) : r.Stops limits t where
  next := by
    rw [Option.eq_none_iff_forall_ne_some]
    intro r' hnext
    have hstep := (step_of_next? hnext).within .unlimited fun _ => rfl
    have hnone := h.next
    rw [hstep.next?] at hnone
    cases hnone
  result := h.result

/-- A list that is opened before the stopping place is opened before the fault. -/
theorem lt_fault_of_opensAt {j : Nat} (h : init.after? limits us = some r) (hj : OpensAt us m j)
    (t : Token) : j < (r.fault limits t).2 := by
  have hlt := hj.lt_length
  rcases fault_cases limits r t with heq | ⟨p, o, os, hp, -, -, heq⟩
  · rwa [heq, position_of_after? h]
  · obtain ⟨ws, rfl, hstart⟩ := exists_of_stage_primitive h hp
    rw [heq, hstart]
    rw [List.length_append, List.length_singleton, Nat.lt_succ_iff] at hlt
    refine Nat.lt_of_le_of_ne hlt ?_
    rintro rfl
    have hlast := hj.1
    rw [List.getElem?_concat_length] at hlast
    cases hlast

end

end Reading

/-! ## Texts -/

/-- A report of arguments that are nested deeper than a limit, at the first list above it. -/
def ReportsTooDeep (input : Text) (m : Nat) (d : Diagnostic) : Prop :=
  ∃ lexemes j x, lex input = .ok lexemes ∧
    FirstOpensAt (lexemes.map Lexeme.token) (m + 1) j ∧ lexemes[j]? = some x ∧
    d = (Fault.nestingTooDeep m).within x.span input

/-- A list of arguments of a level is opened before the lexeme that a report points at. -/
def OpensBefore (input : Text) (n : Nat) (d : Diagnostic) : Prop :=
  ∃ lexemes k x, lex input = .ok lexemes ∧ lexemes[k]? = some x ∧ x.span = d.span ∧
    ∃ j < k, OpensAt (lexemes.map Lexeme.token) n j

namespace TypeName

section
variable {input : Text} {lexemes : List Lexeme} {ts us vs : List Token} {r : Reading}
  {d : Diagnostic} {m : Nat}

/-- A text is read within limits exactly if it is read at all, as a type name that they allow. -/
theorem parseWithin_eq_ok_iff {limits : Limits} {t : TypeName} :
    parseWithin limits input = .ok t ↔
      parse input = .ok t ∧ limits.allows t.nesting = true := by
  cases hlex : lex input with
  | error d => simp [parse, parseWithin, hlex]
  | ok lexemes =>
    obtain ⟨ts, hts, -⟩ := exists_tokens_of_lex hlex
    rw [parse, parseWithin_eq_ok_iff_after? hlex hts, parseWithin_eq_ok_iff_after? hlex hts]
    constructor
    · rintro ⟨r, hr, hresult⟩
      obtain ⟨hr, hl⟩ := Reading.after?_eq_some_iff_unlimited.1 hr
      exact ⟨⟨r, hr, hresult⟩, Reading.deepest_of_result? hresult ▸ hl⟩
    · rintro ⟨⟨r, hr, hresult⟩, hl⟩
      rw [← Reading.deepest_of_result? hresult] at hl
      exact ⟨r, Reading.after?_eq_some_iff_unlimited.2 ⟨hr, hl⟩, hresult⟩

section
variable (hlex : lex input = .ok lexemes) (hts : lexemes.map Lexeme.token = ts ++ [.eof])
  (hne : ts ≠ [])
include hlex hts hne

/-- A list above a limit is reported if the tokens of a text can be read so far. -/
theorem exists_reportsTooDeep (heq : ts ++ [.eof] = us ++ vs)
    (hr : Reading.init.after? .unlimited us = some r) (hm : m < r.deepest) :
    ∃ d, ReportsTooDeep input m d ∧
      parseWithin (Limits.unlimited.withNesting m) input = .error d := by
  obtain ⟨j, q, hj, hq, hstops, hfault⟩ := Reading.exists_stops_of_lt_deepest hr hm
  have hfirst : FirstOpensAt (lexemes.map Lexeme.token) (m + 1) j := by
    rw [hts, heq]
    exact hj.append vs
  obtain ⟨x, hx, -⟩ : ∃ x, lexemes[j]? = some x ∧ x.token = .punctuation .leftAngle := by
    simpa using hfirst.opens.1
  have hsplit : ts ++ [.eof] =
      us.take j ++ .punctuation .leftAngle :: (us.drop (j + 1) ++ vs) := by
    obtain ⟨hlt, hget⟩ := List.getElem?_eq_some_iff.1 hj.opens.1
    rw [heq, ← List.cons_append, ← hget, ← List.drop_eq_getElem_cons hlt, ← List.append_assoc,
      List.take_append_drop]
  refine ⟨_, ⟨lexemes, j, x, hlex, hfirst, hx, rfl⟩, ?_⟩
  exact (parseWithin_eq_error_iff hlex hts hne).2
    ⟨_, _, _, q, x, hsplit, hq, hstops, by rw [hfault]; exact hx, by rw [hfault]⟩

/-- Of the fault of a text and a list above a limit, the one that comes first is reported. -/
theorem parseWithin_of_parse_eq_error (h : parse input = .error d) :
    (¬ OpensBefore input (m + 1) d →
      parseWithin (Limits.unlimited.withNesting m) input = .error d) ∧
    (OpensBefore input (m + 1) d → ∃ d', ReportsTooDeep input m d' ∧
      parseWithin (Limits.unlimited.withNesting m) input = .error d') := by
  obtain ⟨us, t, vs, r, x, heq, hr, hstops, hx, rfl⟩ :=
    (parseWithin_eq_error_iff hlex hts hne).1 h
  have hbefore : OpensBefore input (m + 1)
      ((r.fault .unlimited t).1.within x.span input) ↔ m < r.deepest := by
    rw [Reading.lt_deepest_iff hr]
    constructor
    · rintro ⟨lexemes', k, y, hlex', hy, hspan, j, hjk, hj⟩
      obtain rfl : lexemes' = lexemes := Except.ok.inj (hlex'.symm.trans hlex)
      obtain rfl := eq_of_span_eq hlex hy hx hspan
      rw [hts, heq] at hj
      exact ⟨j, (opensAt_append_iff
        (Nat.lt_of_lt_of_le hjk (Reading.fault_le_length hr t))).1 hj⟩
    · rintro ⟨j, hj⟩
      refine ⟨lexemes, _, x, hlex, hx, rfl, j, Reading.lt_fault_of_opensAt hr hj t, ?_⟩
      rw [hts, heq]
      exact hj.append _
  rw [hbefore]
  refine ⟨fun hm => ?_, exists_reportsTooDeep hlex hts hne heq hr⟩
  have hallows : (Limits.unlimited.withNesting m).allows r.deepest = true := by
    simpa using hm
  have hfault := Reading.fault_of_no_next hstops.next (Limits.unlimited.withNesting m)
  exact (parseWithin_eq_error_iff hlex hts hne).2
    ⟨us, t, vs, r, x, heq, Reading.after?_eq_some_iff_unlimited.2 ⟨hr, hallows⟩,
      hstops.within _, by rw [hfault]; exact hx, by rw [hfault]⟩

end

/-- Reading within a limit differs from reading without one only where the limit is exceeded. A type
name is read if its arguments are nested no deeper than the limit, and else the first list above the
limit is reported. A text that is rejected anyway is rejected for the same fault, unless a list
above the limit is opened before it; then the first such list is reported. -/
theorem parseWithin_withNesting (input : Text) (m : Nat) :
    let limits := Limits.unlimited.withNesting m
    (∀ t, parse input = .ok t →
      (t.nesting ≤ m → parseWithin limits input = .ok t) ∧
      (m < t.nesting → ∃ d, ReportsTooDeep input m d ∧ parseWithin limits input = .error d)) ∧
    ∀ d, parse input = .error d →
      (¬ OpensBefore input (m + 1) d → parseWithin limits input = .error d) ∧
      (OpensBefore input (m + 1) d →
        ∃ d', ReportsTooDeep input m d' ∧ parseWithin limits input = .error d') := by
  intro limits
  constructor
  · intro t h
    refine ⟨fun hm => parseWithin_eq_ok_iff.2 ⟨h, by simpa [limits] using hm⟩, fun hm => ?_⟩
    obtain ⟨hwf, lexemes, hlex, hts⟩ := tokens_of_parseWithin h
    obtain ⟨r, hr, hresult⟩ := Reading.exists_result?_of_tokens hwf (Limits.allows_unlimited _)
    have hne : t.tokens ≠ [] := fun hnil => by
      rw [hnil] at hts
      rw [parse, parseWithin_of_no_tokens hlex hts] at h
      cases h
    rw [← Reading.deepest_of_result? hresult] at hm
    exact exists_reportsTooDeep hlex hts hne rfl hr hm
  · intro d h
    cases hlex : lex input with
    | error d' =>
      have hd (l : Limits) : parseWithin l input = .error d' := by rw [parseWithin, hlex]
      obtain rfl := Except.error.inj (h.symm.trans (hd _))
      refine ⟨fun _ => hd limits, ?_⟩
      rintro ⟨lexemes, k, x, hlex', -⟩
      rw [hlex] at hlex'
      cases hlex'
    | ok lexemes =>
      obtain ⟨ts, hts, hlegal⟩ := exists_tokens_of_lex hlex
      by_cases hne : ts = []
      · subst hne
        obtain rfl := Except.error.inj (h.symm.trans (parseWithin_of_no_tokens hlex hts))
        refine ⟨fun _ => parseWithin_of_no_tokens hlex hts, ?_⟩
        rintro ⟨lexemes', k, x, hlex', -, -, j, -, hj⟩
        obtain rfl : lexemes' = lexemes := Except.ok.inj (hlex'.symm.trans hlex)
        have hmem := List.mem_of_getElem? hj.1
        rw [hts] at hmem
        cases List.mem_singleton.1 hmem
      · exact parseWithin_of_parse_eq_error hlex hts hne h

/-- The second list of `A<B<C>>` begins at its fourth byte. -/
example : parseWithin (Limits.unlimited.withNesting 1) "A<B<C>>".toList =
    .error ((Fault.nestingTooDeep 1).within ⟨3, 4⟩ "A<B<C>>".toList) := by
  decide +kernel

end

end TypeName

end JavaNames
