import JavaNames.Proofs.Descent.Steps

/-!
# Calls inside calls

The calls of `typeName` that have not returned were made at growing places of the text, the outermost
one first: a call is made inside another one only after a list of arguments was opened, so a token has
been taken in between. The lists that are open are those of the calls, and each was opened by a `<`.
So the reader counts the open lists right (`Sound.depth_eq`), closes none that was not opened, and has
at most one more call of `typeName` than there are `<` before its place (`Point.length_starts_le`,
`Sound.lists_le`).

All of this is kept by every rule of `Descent.Step` (`Step.sound`), and with it that the place of the
reader is a place of the text.
-/

namespace JavaNames.Descent

/-! ## Active calls -/

/-- Where the calls of `typeName` that wait were made, the innermost one first. -/
def Callers.starts : {r : Routine} → Callers r → List Nat
  | _, .text => []
  | _, .typeName start k => start :: k.starts
  | _, .dimensions start _ k => start :: k.starts
  | _, .reference _ _ k => k.starts
  | _, .arguments _ k => k.starts
  | _, .argument _ k => k.starts
  | _, .argumentType _ k => k.starts

/-- Where the calls of `typeName` that have not returned were made, the innermost one first. -/
def Point.starts : Point → List Nat
  | .text | .textRead _ => []
  | .typeName start k | .primitive start _ k | .typeRead start _ k => start :: k.starts
  | .reference k | .named _ _ k | .dotted _ _ k => k.starts
  | .arguments k | .listed _ k => k.starts
  | .argument k | .wildcard k => k.starts
  | .argumentType k => k.starts
  | .brackets _ k | .bracketed _ k => k.starts

/-- The number of lists of arguments that wait for an argument. -/
def Callers.lists : {r : Routine} → Callers r → Nat
  | _, .text => 0
  | _, .typeName _ k => k.lists
  | _, .dimensions _ _ k => k.lists
  | _, .reference _ _ k => k.lists
  | _, .arguments _ k => k.lists + 1
  | _, .argument _ k => k.lists
  | _, .argumentType _ k => k.lists

/-- The number of lists of arguments that are open. -/
def Point.lists : Point → Nat
  | .text | .textRead _ => 0
  | .typeName _ k | .primitive _ _ k | .typeRead _ _ k => k.lists
  | .reference k | .named _ _ k | .dotted _ _ k => k.lists
  | .arguments k => k.lists
  | .listed _ k => k.lists + 1
  | .argument k | .wildcard k => k.lists
  | .argumentType k => k.lists
  | .brackets _ k | .bracketed _ k => k.lists

/-- How many of the waiting calls of `typeName` have no open list, below a routine. -/
def Routine.unlisted : Routine → Nat
  | .reference | .arguments | .brackets => 1
  | .typeName | .argument | .argumentType => 0

/-- Between two calls of `typeName` there is a list of arguments. -/
theorem Callers.length_starts {r : Routine} (k : Callers r) :
    k.starts.length = k.lists + r.unlisted := by
  induction k with
  | text => rfl
  | typeName start k ih | dimensions start base k ih => exact congrArg (· + 1) ih
  | reference pk y k ih | argument v k ih | argumentType span k ih => exact ih
  | arguments as k ih => exact ih

/-- There is at most one more call of `typeName` than there are open lists. -/
theorem Point.length_starts_le (p : Point) : p.starts.length ≤ p.lists + 1 := by
  cases p with
  | text | textRead u => exact Nat.zero_le _
  | typeName start k | primitive start p k | typeRead start u k =>
    exact Nat.succ_le_succ (Nat.le_of_eq k.length_starts)
  | reference k | named pk y k | dotted pk y k | arguments k | brackets n k | bracketed n k =>
    exact Nat.le_of_eq k.length_starts
  | listed as k | argument k | wildcard k | argumentType k =>
    exact Nat.le_succ_of_le (Nat.le_of_eq k.length_starts)

/-! ## What every step keeps -/

/-- The calls of `typeName` were made at or before a position. At the position was made only a call
that has taken no token yet. -/
def Point.Begun (i : Nat) : Point → Prop
  | .typeName start k | .reference (.typeName start k) => start = i ∧ ∀ e ∈ k.starts, e < i
  | p => ∀ e ∈ p.starts, e < i

/-- What is true of the states of the reader of some lexemes. -/
structure Sound (lexemes : List Lexeme) (s : State) : Prop where
  /-- There is a token at the position. -/
  inText : s.position < lexemes.length
  /-- The calls of `typeName` were made before it, but for one that is made there. -/
  begun : s.point.Begun s.position
  /-- Each of them was made after those that wait for it. -/
  ordered : s.point.starts.Pairwise (· > ·)
  /-- The open lists are counted. -/
  depth_eq : s.depth = s.point.lists
  /-- Each of them was opened. -/
  lists_le : s.point.lists ≤
    ((lexemes.take s.position).map Lexeme.token).count (.punctuation .leftAngle)

section
variable {limits : Limits} {x : Lexeme} {s s' : State} {lexemes : List Lexeme}

/-- A step stays at a token, or takes it. -/
theorem Step.position_cases (h : Step limits x s s') :
    s'.position = s.position ∨ s'.position = s.position + 1 ∧ x.token ≠ .eof := by
  cases h with
  | text | callReference | callBrackets | callArguments | endReference | callArgumentType
  | endWildcard | callTypeName | endBrackets | endArgumentType | endText => exact .inl rfl
  | primitive ht | name ht | dot ht | segment ht | openList ht | comma ht | closeList ht
  | wildcard ht | openBracket ht | closeBracket ht => exact .inr ⟨rfl, by simp [ht]⟩
  | bound _ ht => exact .inr ⟨rfl, by simp [ht]⟩

/-- A call is made after those that wait for it. -/
theorem Step.begun (h : Step limits x s s') (hb : s.point.Begun s.position) :
    s'.point.Begun s'.position := by
  have htaken {i : Nat} {starts : List Nat} (hi : ∀ e ∈ starts, e < i) :
      ∀ e ∈ starts, e < i + 1 := fun e he => Nat.lt_succ_of_lt (hi e he)
  have hfirst {i start : Nat} {starts : List Nat} (hi : start = i ∧ ∀ e ∈ starts, e < i) :
      ∀ e ∈ start :: starts, e < i + 1 :=
    List.forall_mem_cons.2 ⟨Nat.lt_succ_of_le (Nat.le_of_eq hi.1), htaken hi.2⟩
  cases h with
  | text => exact ⟨rfl, by simp [Callers.starts]⟩
  | callTypeName => exact ⟨rfl, hb⟩
  | primitive => exact hfirst hb
  | @name i d w k =>
    cases k with
    | typeName start k => exact hfirst hb
  | callReference | callBrackets | callArguments | endReference | callArgumentType | endWildcard
  | endBrackets => exact hb
  | dot | segment | openList | comma | closeList | wildcard | bound | openBracket
  | closeBracket => exact htaken hb
  | endText => exact nofun
  | endArgumentType => exact fun e he => hb e (.tail _ he)

/-- Calls are made inside calls that were made before them. -/
theorem Step.ordered (h : Step limits x s s') (hb : s.point.Begun s.position)
    (ho : s.point.starts.Pairwise (· > ·)) : s'.point.starts.Pairwise (· > ·) := by
  cases h with
  | text => exact List.pairwise_singleton _ _
  | callTypeName => exact List.pairwise_cons.2 ⟨hb, ho⟩
  | endText => exact .nil
  | endArgumentType => exact (List.pairwise_cons.1 ho).2
  | callReference | callBrackets | callArguments | endReference | callArgumentType | endWildcard
  | endBrackets | primitive | name | dot | segment | openList | comma | closeList | wildcard
  | bound | openBracket | closeBracket => exact ho

/-- Lists of arguments are counted where they are opened and closed. -/
theorem Step.depth_eq (h : Step limits x s s') (hd : s.depth = s.point.lists) :
    s'.depth = s'.point.lists := by
  cases h with
  | openList => exact congrArg (· + 1) hd
  | closeList => exact Nat.succ.inj hd
  | text | endText | callTypeName | endArgumentType | callReference | callBrackets
  | callArguments | endReference | callArgumentType | endWildcard | endBrackets | primitive | name
  | dot | segment | comma | wildcard | bound | openBracket | closeBracket => exact hd

/-- A list of arguments is opened by a `<`. -/
theorem Step.lists_le (h : Step limits x s s') (hx : lexemes[s.position]? = some x)
    (hl : s.point.lists ≤
      ((lexemes.take s.position).map Lexeme.token).count (.punctuation .leftAngle)) :
    s'.point.lists ≤
      ((lexemes.take s'.position).map Lexeme.token).count (.punctuation .leftAngle) := by
  have htake : (lexemes.take (s.position + 1)).map Lexeme.token =
      (lexemes.take s.position).map Lexeme.token ++ [x.token] := by
    rw [List.take_add_one, hx]
    simp
  have hmore : ((lexemes.take s.position).map Lexeme.token).count (.punctuation .leftAngle) ≤
      ((lexemes.take (s.position + 1)).map Lexeme.token).count (.punctuation .leftAngle) := by
    rw [htake, List.count_append]
    exact Nat.le_add_right _ _
  cases h with
  | openList ht =>
    rw [htake, List.count_append, ht]
    exact Nat.succ_le_succ hl
  | closeList => exact Nat.le_of_succ_le (Nat.le_trans hl hmore)
  | primitive | name | dot | segment | comma | wildcard | bound | openBracket | closeBracket =>
    exact Nat.le_trans hl hmore
  | text | endText | callTypeName | endArgumentType | callReference | callBrackets
  | callArguments | endReference | callArgumentType | endWildcard | endBrackets => exact hl

/-- Every step keeps what is true of a reader, if only the last token is the end of the text. -/
theorem Step.sound (h : Step limits x s s') (hs : Sound lexemes s)
    (hx : lexemes[s.position]? = some x)
    (hend : x.token ≠ .eof → s.position + 1 < lexemes.length) : Sound lexemes s' where
  inText := by
    rcases h.position_cases with heq | ⟨heq, hne⟩
    · exact heq ▸ hs.inText
    · exact heq ▸ hend hne
  begun := h.begun hs.begun
  ordered := h.ordered hs.begun hs.ordered
  depth_eq := h.depth_eq hs.depth_eq
  lists_le := h.lists_le hx hs.lists_le

end

/-! ## Runs -/

section
variable {limits : Limits} {input : Text} {lexemes : List Lexeme} {s s' : State} {x : Lexeme}

/-- Any token but the end of a text is followed by another one. -/
theorem succ_lt_length_of_lex (hlex : lex input = .ok lexemes) {i : Nat}
    (hx : lexemes[i]? = some x) (hne : x.token ≠ .eof) : i + 1 < lexemes.length := by
  obtain ⟨front, rfl, -⟩ := (tiles_of_lex hlex).exists_front
  obtain ⟨hi, rfl⟩ := List.getElem?_eq_some_iff.1 hx
  rw [List.length_append, List.length_singleton] at hi ⊢
  rcases Nat.lt_or_eq_of_le (Nat.le_of_lt_succ hi) with hlt | rfl
  · exact Nat.succ_lt_succ hlt
  · simp at hne

/-- A step is one of the rules at a token of the text. -/
theorem Sound.reacts (hs : Sound lexemes s) (hlex : lex input = .ok lexemes) (limits : Limits) :
    ∃ x, lexemes[s.position]? = some x ∧
      Reacts limits input x s (s.step limits input lexemes) := by
  have hx := List.getElem?_eq_getElem hs.inText
  refine ⟨_, hx, ?_⟩
  rw [State.step, hx]
  exact State.reacts (standsIn_of_lex hlex _ (List.getElem_mem _)) s

/-- The first state of a reader. -/
theorem sound_init (hlex : lex input = .ok lexemes) : Sound lexemes init where
  inText := by
    obtain ⟨front, rfl, -⟩ := (tiles_of_lex hlex).exists_front
    rw [List.length_append]
    exact Nat.succ_pos _
  begun := nofun
  ordered := .nil
  depth_eq := rfl
  lists_le := Nat.zero_le _

/-- A step of a reader keeps what is true of it. -/
theorem Sound.step (hs : Sound lexemes s) (hlex : lex input = .ok lexemes)
    (h : s.step limits input lexemes = .running s') : Sound lexemes s' := by
  obtain ⟨x, hx, hreacts⟩ := hs.reacts hlex limits
  rw [h] at hreacts
  cases hreacts with
  | step hstep => exact hstep.sound hs hx (succ_lt_length_of_lex hlex hx)

/-- What is true of a reader at first is true of it in all states that it reaches. -/
theorem Reachable.sound (hlex : lex input = .ok lexemes)
    (h : Reachable limits input lexemes s) : Sound lexemes s := by
  induction h with
  | init => exact sound_init hlex
  | step _ hstep ih => exact ih.step hlex hstep

end

end JavaNames.Descent
