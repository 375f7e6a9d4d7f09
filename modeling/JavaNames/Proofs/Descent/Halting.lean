import JavaNames.Proofs.Descent.Agreement

/-!
# Reading by calls ends

Between two tokens that are taken there are at most three steps that take none: such a step leads to
a point that has fewer of them left (`Point.pending`), since a call is made to a routine that takes a
token before it calls the first one again, and a return is made to a point that takes a token or
returns in turn. So every step makes the number of the steps to come smaller (`Step.remaining_lt`).
The routines are done after four steps for each lexeme and three more, whatever the text is, and have
then made of it what `TypeName.parseWithin` does (`Agrees.run_eq_finished`). Up to then they never
panic, and the calls of `typeName` inside each other stand one after the other in the text (`Safe`).
-/

namespace JavaNames.Descent

/-! ## The number of steps -/

/-- How many steps there can be at most from a point to one that takes a token or ends the reading. -/
def Point.pending : Point → Nat
  | .primitive .. | .named .. | .argument _ => 3
  | .text | .argumentType _ | .brackets .. => 2
  | .typeName .. | .typeRead .. | .wildcard _ => 1
  | .textRead _ | .reference _ | .dotted .. | .arguments _ | .listed .. | .bracketed .. => 0

/-- A bound on the number of steps that are still to come but for the last one. -/
def State.remaining (lexemes : List Lexeme) (s : State) : Nat :=
  4 * (lexemes.length - s.position) + s.point.pending

section
variable {limits : Limits} {input : Text} {lexemes : List Lexeme} {x : Lexeme} {s s' : State}

/-- Every step makes the number of steps that are still to come smaller. -/
theorem Step.remaining_lt (h : Step limits x s s') (hs : s.position < lexemes.length) :
    s'.remaining lexemes < s.remaining lexemes := by
  cases h <;>
  · simp only [State.remaining, Point.pending] at hs ⊢
    omega

/-- A list of arguments is closed only where one is open. -/
theorem Sound.step_ne_panicked (hs : Sound lexemes s) (hlex : lex input = .ok lexemes) :
    s.step limits input lexemes ≠ .panicked := by
  intro h
  obtain ⟨x, -, hreacts⟩ := hs.reacts hlex limits
  rw [h] at hreacts
  cases hreacts with
  | panic => exact absurd hs.depth_eq nofun

/-- The routines are done with a text after a number of steps, and have made of it what it is read
as. -/
theorem Agrees.run_eq_finished (h : Agrees limits input lexemes s) (hlex : lex input = .ok lexemes)
    (hs : Sound lexemes s) {n : Nat} (hn : s.remaining lexemes < n) :
    s.run limits input lexemes n = .finished (TypeName.parseWithin limits input) := by
  induction n generalizing s with
  | zero => cases hn
  | succ n ih =>
    rw [State.run]
    obtain ⟨x, -, hreacts⟩ := hs.reacts hlex limits
    cases hstep : s.step limits input lexemes with
    | running s' =>
      rw [hstep] at hreacts
      obtain ⟨hrule⟩ := hreacts
      have hlt := hrule.remaining_lt hs.inText
      exact ih (h.step hlex hs hstep) (hs.step hlex hstep) (by omega)
    | finished o => rw [h.eq_parseWithin hlex hs hstep]
    | panicked => exact absurd hstep (hs.step_ne_panicked hlex)

end

/-! ## Safety -/

/-- A state of the routines in which nothing can go wrong. -/
structure Safe (limits : Limits) (input : Text) (lexemes : List Lexeme) (s : State) : Prop where
  /-- There is a next token. -/
  token : ∃ x, lexemes[s.position]? = some x
  /-- Going on does not lead beyond the last token. -/
  advance_lt : ∀ x, lexemes[s.position]? = some x → s.advance x.token < lexemes.length
  /-- The next step does not panic. -/
  step_ne : s.step limits input lexemes ≠ .panicked
  /-- A call of `typeName` that returns has taken a token. -/
  taken : ∀ start t k, s.point = .typeRead start t k → start < s.position
  /-- A call of `typeName` is made at the next token, and those that wait for it were made before. -/
  called : ∀ start k, s.point = .typeName start k →
    start = s.position ∧ ∀ e ∈ k.starts, e < start
  /-- The calls of `typeName` were made one after the other. -/
  ordered : s.point.starts.Pairwise (· > ·)
  /-- There is at most one more of them than there are `<` in the text. -/
  length_starts : s.point.starts.length ≤
    (lexemes.map Lexeme.token).count (.punctuation .leftAngle) + 1

section
variable {limits : Limits} {input : Text} {lexemes : List Lexeme} {s : State}

/-- Nothing can go wrong in a sound state. -/
theorem Sound.safe (hs : Sound lexemes s) (hlex : lex input = .ok lexemes) (limits : Limits) :
    Safe limits input lexemes s where
  token := ⟨_, List.getElem?_eq_getElem hs.inText⟩
  advance_lt x hx := by
    rw [State.advance]
    split
    · exact hs.inText
    · next ht => exact succ_lt_length_of_lex hlex hx ht
  step_ne := hs.step_ne_panicked hlex
  taken start t k hp := by
    have hbegun := hs.begun
    rw [hp] at hbegun
    exact hbegun start (.head _)
  called start k hp := by
    have hbegun := hs.begun
    rw [hp] at hbegun
    exact ⟨hbegun.1, fun e he => hbegun.1 ▸ hbegun.2 e he⟩
  ordered := hs.ordered
  length_starts := by
    have hsub : ((lexemes.take s.position).map Lexeme.token).Sublist
        (lexemes.map Lexeme.token) := (List.take_sublist _ _).map _
    have hcount := hsub.count_le (.punctuation .leftAngle)
    have hlists := hs.lists_le
    have hcalls := s.point.length_starts_le
    omega

/-- Whatever a text is, its routines never panic, their calls are nested as the text is, and they are
done after a number of steps that its length bounds, with what the text is read as. -/
theorem safe_and_run_eq_finished (hlex : lex input = .ok lexemes) (limits : Limits) :
    (∀ s, Reachable limits input lexemes s → Safe limits input lexemes s) ∧
      init.run limits input lexemes (4 * lexemes.length + 3) =
        .finished (TypeName.parseWithin limits input) := by
  refine ⟨fun s h => (h.sound hlex).safe hlex limits, ?_⟩
  have hagrees : Agrees limits input lexemes init := .inl rfl
  refine hagrees.run_eq_finished hlex (sound_init hlex) ?_
  show 4 * lexemes.length + 2 < 4 * lexemes.length + 3
  omega

end

/-- At the `B` of `A<B` there is a call of `typeName` inside another one. The list of arguments is
never closed. -/
theorem safe_and_run_unclosed :
    let a := "A<B".toList
    let xs : List Lexeme := [⟨.identifier ['A'], ⟨0, 1⟩⟩, ⟨.punctuation .leftAngle, ⟨1, 2⟩⟩,
      ⟨.identifier ['B'], ⟨2, 3⟩⟩, ⟨.eof, ⟨3, 3⟩⟩]
    let k : Callers .typeName := .argumentType ⟨2, 3⟩ (.argument .invariant
      (.arguments [] (.reference [] ⟨['A']⟩ (.typeName 0 .text))))
    lex a = .ok xs ∧ Reachable .unlimited a xs ⟨2, 1, .typeName 2 k⟩ ∧
      Safe .unlimited a xs ⟨2, 1, .typeName 2 k⟩ ∧
      init.run .unlimited a xs 19 =
        .finished (.error ((Fault.unexpectedEnd "',' or '>'").within ⟨3, 3⟩ a)) := by
  intro a xs k
  have hlex : lex a = .ok xs := by decide +kernel
  have hparse : TypeName.parseWithin .unlimited a =
      .error ((Fault.unexpectedEnd "',' or '>'").within ⟨3, 3⟩ a) := by decide +kernel
  have hreach : Reachable .unlimited a xs ⟨2, 1, .typeName 2 k⟩ :=
    .step (.step (.step (.step (.step (.step (.step .init rfl) rfl) rfl) rfl) rfl) rfl) rfl
  obtain ⟨hsafe, hrun⟩ := safe_and_run_eq_finished hlex .unlimited
  exact ⟨hlex, hreach, hsafe _ hreach, hparse ▸ hrun⟩

end JavaNames.Descent
