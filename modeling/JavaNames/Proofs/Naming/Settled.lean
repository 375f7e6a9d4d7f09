import JavaNames.Proofs.Naming.Normalize

/-!
# Settled names

A result of normalization is read again as its words, and normalizing it under the same convention
changes nothing exactly if these words are settled (`normalize_text_eq_iff`). With underscores
between the parts, a word is settled if it is a single hump: all characters are their own forms by
then, so the only thing that can happen is that a part falls apart into several ones. In camel case
a result is one word, and settled if each of its characters after the first one is its own
lower-case form or a capital that stands between two small letters.
-/

namespace JavaNames

/-! ## Settled words -/

/-- Whether a character of camel case is kept: it is its own lower-case form, or a capital between
two small letters. -/
def keepsCase (before c : Char) (after : Option Char) : Bool :=
  Unicode.toLower c == [c] ||
    (Unicode.isLowercase before && Unicode.isUppercase c && after.any Unicode.isLowercase)

/-- Whether the characters of a word after the first one are kept. -/
def capitalsStand : Text → Bool
  | b :: c :: cs => keepsCase b c cs.head? && capitalsStand (c :: cs)
  | _ => true

/-- Whether normalizing a word under a convention leaves it as it is, once it has been normalized.
-/
def Convention.settles (convention : Convention) (w : Text) : Bool :=
  match convention with
  | .camelCase | .methodName | .variableName => capitalsStand w
  | .upperCase | .constantName | .lowerCase => humps w == [w]

/-! ## Joining with underscores -/

/-- Parts that have been recased are joined to the same text again exactly if each of them is a
single hump. -/
theorem joinSnake_humps_eq_iff {form : Char → Text} (hm : Unicode.CaseMapping form)
    {ws : List Text} (h : WordList ws) (hs : ∀ w ∈ ws, ∀ c ∈ w, form c = [c]) :
    joinSnake form false (ws.flatMap humps) = snake ws ↔ ∀ w ∈ ws, humps w = [w] := by
  have hhumps := h.flatMap_humps
  have hsettled : ∀ v ∈ ws.flatMap humps, ∀ c ∈ v, form c = [c] := by
    intro v hv c hc
    obtain ⟨w, hw, hv⟩ := List.mem_flatMap.1 hv
    exact hs w hw c (mem_of_mem_humps hv hc)
  rw [joinSnake_eq_snake hm hhumps, recased_eq_self hhumps hsettled, hhumps.snake_inj h,
    flatMap_humps_eq_iff h.ne_nil]

/-! ## Joining in camel case -/

section
variable {b c : Char} {cs w : Text}

/-- A character that is kept is written as it is. -/
theorem recaseTail_cons_of_keepsCase (hc : isWordPart c = true)
    (hk : keepsCase b c cs.head? = true) :
    recaseTail true (some b) (c :: cs) = c :: recaseTail true (some c) cs := by
  have hpart := isIdentifierPart_of_isWordPart hc
  rw [recaseTail]
  split
  · rfl
  · next hcapital =>
    have hsmall : Unicode.toLower c = [c] := by
      rw [keepsCase, Bool.or_eq_true, beq_iff_eq] at hk
      refine hk.resolve_right fun h => hcapital ?_
      simp only [Bool.and_eq_true] at h ⊢
      exact ⟨⟨⟨trivial, h.1.2⟩, h.1.1⟩, h.2⟩
    have hwritten : writable (some b).isSome [c] = [c] :=
      writable_eq_self (by simpa using hpart) (by simp)
    rw [hsmall, hwritten]
    rfl

/-- A character that is not kept is lost, since its lower-case form does not have it. -/
theorem recaseTail_cons_ne (hc : isWordPart c = true) (hk : keepsCase b c cs.head? = false) :
    recaseTail true (some b) (c :: cs) ≠ c :: cs := by
  have hm := Unicode.caseMapping_toLower
  rw [keepsCase, Bool.or_eq_false_iff, beq_eq_false_iff_ne] at hk
  intro h
  rw [recaseTail] at h
  split at h
  · next hcapital =>
    simp only [Bool.and_eq_true] at hcapital
    obtain ⟨⟨⟨-, hupper⟩, hbefore⟩, hafter⟩ := hcapital
    have hbefore : Unicode.isLowercase b = true := hbefore
    rw [hupper, hbefore, hafter] at hk
    cases hk.2
  · obtain ⟨d, ds, hd, hmem⟩ := hm.writable_true_cons hc
    simp only [Option.isSome_some, hd, List.cons_append] at h
    obtain rfl := (List.cons.inj h).1
    exact hk.1 (hm.settled hmem)

/-- The rest of a word is written as it is exactly if its characters are kept. -/
theorem recaseTail_eq_self_iff (h : ∀ c ∈ w, isWordPart c = true) :
    recaseTail true (some b) w = w ↔ capitalsStand (b :: w) = true := by
  induction w generalizing b with
  | nil => exact ⟨fun _ => rfl, fun _ => rfl⟩
  | cons c cs ih =>
    rw [List.forall_mem_cons] at h
    rw [capitalsStand]
    cases hk : keepsCase b c cs.head? with
    | true => rw [recaseTail_cons_of_keepsCase h.1 hk, List.cons_inj_right, Bool.true_and, ih h.2]
    | false =>
      refine ⟨fun heq => absurd heq (recaseTail_cons_ne h.1 hk), fun hfalse => ?_⟩
      rw [Bool.false_and] at hfalse
      cases hfalse

/-- A word in camel case is written as it is exactly if its characters are kept, provided that its
first one is its own initial form. -/
theorem joinCamel_singleton_eq_iff {capital : Bool} (h : WordList [c :: cs])
    (hform : initialForm capital c = [c]) :
    joinCamel capital [c :: cs] = c :: cs ↔ capitalsStand (c :: cs) = true := by
  have hc : isWordStart c = true := h.start c rfl
  have hcs : ∀ d ∈ cs, isWordPart d = true := fun d hd => h.parts _ (.head _) d (.tail _ hd)
  have hwritten : writable false (initialForm capital c) = [c] := by
    rw [hform]
    refine writable_eq_self ?_ ?_
    · simpa using isIdentifierPart_of_isWordPart (isWordPart_of_isWordStart hc)
    · simpa using isIdentifierStart_of_isWordStart hc
  have hjoin : joinCamel capital [c :: cs] = c :: recaseTail true (some c) cs := by
    show (writable false (initialForm capital c) ++
      recaseTail true (lastWritten none (writable false (initialForm capital c))) cs) ++ [] = _
    rw [hwritten, List.append_nil]
    rfl
  rw [hjoin, List.cons_inj_right]
  exact recaseTail_eq_self_iff hcs

end

/-! ## Conventions -/

/-- The parts of what a convention assembles are assembled to the same text again exactly if they
are settled. -/
theorem Convention.assemble_parts_iff (convention : Convention) {ws : List Text}
    (h : WordList ws) (hne : ws ≠ []) :
    convention.assemble (convention.parts ws) = snake (convention.parts ws) ↔
      ∀ w ∈ convention.parts ws, convention.settles w = true := by
  have hsnake : ∀ {form}, Unicode.CaseMapping form →
      (joinSnake form false ((recased form (ws.flatMap humps)).flatMap humps) =
          snake (recased form (ws.flatMap humps)) ↔
        ∀ w ∈ recased form (ws.flatMap humps), (humps w == [w]) = true) := by
    intro form hm
    rw [joinSnake_humps_eq_iff hm (h.flatMap_humps.recased hm)
      fun w hw c hc => settled_of_mem_recased hm hw hc]
    simp only [beq_iff_eq]
  have hcamel : ∀ capital, joinCamel capital [joinCamel capital ws] = snake [joinCamel capital ws] ↔
      ∀ w ∈ [joinCamel capital ws], capitalsStand w = true := by
    intro capital
    obtain ⟨d, ds, hjoin, hword, hform⟩ := joinCamel_cases capital h hne
    rw [hjoin, snake, List.flatMap_nil, List.append_nil, joinCamel_singleton_eq_iff hword hform,
      List.forall_mem_singleton]
  cases convention with
  | camelCase => exact hcamel true
  | methodName | variableName => exact hcamel false
  | upperCase | constantName => exact hsnake Unicode.caseMapping_toUpper
  | lowerCase => exact hsnake Unicode.caseMapping_toLower

/-- Texts of different words are different, also if they are escaped. -/
theorem escape_snake_inj {ws vs : List Text} (hw : WordList ws) (hv : WordList vs) :
    escape (snake ws) = escape (snake vs) ↔ snake ws = snake vs := by
  constructor
  · intro h
    rw [hw.snake_inj hv, ← hw.words_snake, ← words_escape, h, words_escape, hv.words_snake]
  · intro h
    rw [h]

/-! ## Results -/

/-- Normalizing a result again under the same convention gives the same result exactly if the words
of the result are settled. -/
theorem normalize_text_eq_iff {convention : Convention} {t : Text} {x : Identifier}
    (h : normalize convention t = .ok x) :
    normalize convention x.text = .ok x ↔
      ∀ w ∈ words x.text, convention.settles w = true := by
  have hwords := words_of_normalize h
  obtain ⟨ht, rfl⟩ := normalize_eq_ok_iff.1 h
  have hws := wordList_words t
  have hparts := convention.wordList_parts hws ht
  have hne := convention.parts_ne_nil hws ht
  have hescape :
      (⟨escape (convention.assemble (words t))⟩ : Identifier) =
          ⟨escape (convention.assemble (convention.parts (words t)))⟩ ↔
        convention.assemble (convention.parts (words t)) = snake (convention.parts (words t)) := by
    rw [convention.assemble_eq_snake hws, convention.assemble_eq_snake hparts, Identifier.mk.injEq,
      escape_snake_inj hparts (convention.wordList_parts hparts hne), eq_comm]
  rw [normalize_eq_ok_iff, hwords, hescape, and_iff_right hne]
  exact convention.assemble_parts_iff hws ht

end JavaNames
