import JavaNames.Proofs.Naming.Capitals

/-!
# Names with underscores in between

A name with underscores can be normalized again under any convention, and it does not matter in which
case its letters are: `test_value` and `TEST_VALUE` become the same name
(`Convention.assemble_inCase`). The parts between the underscores are read as words, and all letters
of such a word are in one case. So no hump begins in it, none of its capitals stays one in camel
case, and the rule for first characters asks for letters of any case. If the other convention writes
underscores too, the name is the one that it gives for the text itself.

The forms of an ASCII character are those of its forms, and the texts here are made of ASCII
characters.
-/

namespace JavaNames

open Unicode (isUppercase)

/-! ## Words in one case -/

/-- The words with all characters in one case. -/
def inCase (capital : Bool) (ws : List Text) : List Text :=
  ws.map (·.map (letterForm capital))

section
variable {a b capital : Bool} {c : Char} {w : Text} {ws : List Text} {i j : Nat}

/-- In which case words have been before does not matter. -/
@[simp] theorem inCase_inCase : inCase b (inCase a ws) = inCase b ws := by
  simp [inCase, Function.comp_def]

/-- No capital of a word in one case stays one in camel case. -/
theorem staysCapital_map_letterForm :
    staysCapital capital (w.map (letterForm a)) i = false := by
  rw [staysCapital]
  cases a with
  | false =>
    have hupper : (w.map (letterForm false))[i + 1]?.any Char.isUpper = false := by
      simp [isUpper_letterForm, Option.any_eq_false]
    rw [hupper, Bool.false_and, Bool.false_and, Bool.false_and]
  | true =>
    have hlower : (w.map (letterForm true))[i + 2]?.any Char.isLower = false := by
      simp [isLower_letterForm, Option.any_eq_false]
    rw [hlower, Bool.and_false, Bool.false_and, Bool.false_and]

/-- The case of the words does not matter to the rule for the first characters. -/
theorem opensCapital_inCase :
    opensCapital capital (inCase a ws) j = opensCapital capital ws j := by
  have hget (k : Nat) : (inCase a ws)[k]? = ws[k]?.map (·.map (letterForm a)) :=
    List.getElem?_map
  have hletter {pick : Text → Option Char}
      (hpick : ∀ w, pick (w.map (letterForm a)) = (pick w).map (letterForm a)) (k : Nat) :
      ((inCase a ws)[k]?.bind pick).any Char.isAlpha = (ws[k]?.bind pick).any Char.isAlpha := by
    rw [hget]
    cases ws[k]? with
    | none => rfl
    | some w => simp [hpick, Option.any_map]
  have hfirst : (inCase a ws)[0]?.any (·.length == 1) = ws[0]?.any (·.length == 1) := by
    rw [hget, Option.any_map]
    simp
  rw [opensCapital, hletter (fun _ => List.getElem?_map), hletter (fun _ => List.getLast?_map),
    hfirst]
  rfl

/-- The case of the words does not matter to the rule for capitals. -/
theorem isCapital_inCase :
    isCapital capital (inCase a ws) j i = isCapital capital (inCase b ws) j i := by
  have hnone (b : Bool) (i : Nat) : isCapital capital (inCase b ws) 0 (i + 1) = false := by
    rw [isCapital, inCase, List.getElem?_map, Option.any_map]
    simp [staysCapital_map_letterForm]
  cases j with
  | zero =>
    cases i with
    | zero => rfl
    | succ i => rw [hnone, hnone]
  | succ j =>
    cases i with
    | zero => exact opensCapital_inCase.trans opensCapital_inCase.symm
    | succ i => rfl

/-- Words in one case have the same spelling in camel case as those in the other case. -/
theorem spellCamel_inCase :
    spellCamel capital (inCase a ws) = spellCamel capital (inCase b ws) := by
  have hspelled (b : Bool) : spellCamel capital (inCase b ws) =
      (ws.mapIdx fun j w => w.mapIdx fun i c =>
        letterForm (isCapital capital (inCase b ws) j i) c).flatten := by
    rw [spellCamel, inCase]
    simp only [List.mapIdx_map, letterForm_letterForm]
  simp only [hspelled, isCapital_inCase (a := a) (b := b)]

end

/-! ## Words of ASCII characters -/

section
variable {a b capital : Bool} {c : Char} {w : Text} {ws : List Text}

/-- The form of a letter is a capital if it is meant to be one. -/
theorem isUppercase_letterForm (h : c.toNat < 128) :
    isUppercase (letterForm capital c) = (c.isAlpha && capital) := by
  rw [isUppercase_of_ascii (letterForm_lt h capital), isUpper_letterForm]

/-- The forms of a part of a word are parts of words. -/
theorem isWordPart_letterForm (h : c.toNat < 128) (hc : isWordPart c = true) :
    isWordPart (letterForm a c) = true := by
  obtain ⟨d, hd, hpart⟩ := (caseMapping_initialForm a).exists_isWordPart hc
  rw [initialForm_of_ascii h] at hd
  exact List.mem_singleton.1 hd ▸ hpart

/-- The forms of a character that begins a name begin one. -/
theorem isWordStart_letterForm (h : c.toNat < 128) (hc : isWordStart c = true) :
    isWordStart (letterForm a c) = true := by
  obtain ⟨d, hd, hstart⟩ := (caseMapping_initialForm a).exists_isWordStart hc
  rw [initialForm_of_ascii h] at hd
  exact List.mem_singleton.1 hd ▸ hstart

/-- All of a recased word is written. -/
theorem writable_flatMap_initialForm {continued : Bool} (hw : ∀ c ∈ w, isWordPart c = true)
    (ha : ∀ c ∈ w, c.toNat < 128)
    (hstart : continued = false → ∀ c ∈ w.head?, isWordStart c = true) :
    writable continued (w.flatMap (initialForm a)) = w.map (letterForm a) := by
  have hform : w.flatMap (initialForm a) = w.map (letterForm a) := by
    rw [List.map_eq_flatMap]
    exact List.flatMap_congr fun c hc => initialForm_of_ascii (ha c hc) a
  rw [hform]
  refine writable_eq_self ?_ fun hfirst d hd => ?_
  · rw [List.forall_mem_map]
    intro c hc
    exact isIdentifierPart_of_isWordPart (isWordPart_letterForm (ha c hc) (hw c hc))
  · rw [List.head?_map] at hd
    obtain ⟨c, hc, rfl⟩ := Option.map_eq_some_iff.1 hd
    have hascii := ha c (List.mem_of_mem_head? hc)
    exact isIdentifierStart_of_isWordStart (isWordStart_letterForm hascii (hstart hfirst c hc))

namespace AsciiWords

/-- The recased parts are the words in one case. -/
theorem recased_eq_inCase (h : AsciiWords ws) : recased (initialForm a) ws = inCase a ws := by
  cases ws with
  | nil => rfl
  | cons w ws =>
    have hfirst : writable false (w.flatMap (initialForm a)) = w.map (letterForm a) := by
      refine writable_flatMap_initialForm (h.parts w (.head _)) (h.ascii w (.head _)) ?_
      intro _ c hc
      obtain ⟨d, ds, rfl, hd⟩ := h.exists_first
      obtain rfl := Option.some.inj hc
      exact hd
    rw [recased, hfirst]
    refine congrArg _ (List.map_congr_left fun v hv => ?_)
    exact writable_flatMap_initialForm (h.parts v (.tail _ hv)) (h.ascii v (.tail _ hv)) (by simp)

/-- The words in one case are words again. -/
theorem inCase (h : AsciiWords ws) (a : Bool) : AsciiWords (inCase a ws) where
  toWordList := h.recased_eq_inCase ▸ h.toWordList.recased (caseMapping_initialForm a)
  ascii := by
    rw [JavaNames.inCase, List.forall_mem_map]
    intro w hw
    rw [List.forall_mem_map]
    exact fun c hc => letterForm_lt (h.ascii w hw c hc) a

/-- The humps of words of ASCII characters. -/
theorem flatMap_humps (h : AsciiWords ws) : AsciiWords (ws.flatMap humps) where
  toWordList := h.toWordList.flatMap_humps
  ascii := by
    intro v hv c hc
    obtain ⟨w, hw, hv⟩ := List.mem_flatMap.1 hv
    exact h.ascii w hw c (mem_of_mem_humps hv hc)

/-- Words in one case are single humps. -/
theorem flatMap_humps_inCase (h : AsciiWords ws) (a : Bool) :
    (JavaNames.inCase a ws).flatMap humps = JavaNames.inCase a ws := by
  have hne := (h.inCase a).ne_nil
  refine (flatMap_humps_eq_iff hne).2 ?_
  rw [JavaNames.inCase, List.forall_mem_map] at hne ⊢
  intro w hw
  cases a with
  | false =>
    refine humps_of_no_capital (hne w hw) ?_
    rw [List.forall_mem_map]
    intro c hc
    rw [isUppercase_letterForm (h.ascii w hw c hc), Bool.and_false]
  | true =>
    refine humps_of_no_small (hne w hw) ?_
    rw [List.forall_mem_map]
    intro c hc
    rw [isLowercase_letterForm (h.ascii w hw c hc), Bool.not_true, Bool.and_false]

end AsciiWords

end

/-! ## Conventions -/

namespace Convention

/-- The conventions that write underscores between the parts of a name. -/
def snakeCase : List Convention :=
  [.upperCase, .constantName, .lowerCase]

section
variable {convention : Convention} (hc : convention ∈ snakeCase) {a b : Bool} {ws : List Text}

include hc in
/-- A convention that writes underscores has its parts in one case. -/
theorem parts_eq_inCase (h : AsciiWords ws) :
    convention.parts ws = inCase (convention != .lowerCase) (ws.flatMap humps) := by
  have hrecased (a : Bool) := h.flatMap_humps.recased_eq_inCase (a := a)
  simp only [snakeCase, List.mem_cons, List.not_mem_nil, or_false] at hc
  rcases hc with rfl | rfl | rfl
  · exact hrecased true
  · exact hrecased true
  · exact hrecased false

include hc in
/-- The parts of words in one case are the words, in the case that the convention asks for. -/
theorem parts_inCase (h : AsciiWords ws) :
    convention.parts (inCase a ws) = inCase (convention != .lowerCase) ws := by
  rw [parts_eq_inCase hc (h.inCase a), h.flatMap_humps_inCase, inCase_inCase]

include hc in
/-- A convention that writes underscores assembles the same from words as from their humps in one
case. -/
theorem assemble_inCase_humps (h : AsciiWords ws) :
    convention.assemble (inCase a (ws.flatMap humps)) = convention.assemble ws := by
  have hhumps := h.flatMap_humps
  rw [assemble_eq_snake _ (hhumps.inCase a).toWordList, assemble_eq_snake _ h.toWordList,
    parts_inCase hc hhumps, parts_eq_inCase hc h]

/-- In which case words are does not matter to what is assembled from them. -/
theorem assemble_inCase (convention : Convention) (h : AsciiWords ws) :
    convention.assemble (inCase a ws) = convention.assemble (inCase b ws) := by
  have hcamel (capital : Bool) :
      joinCamel capital (inCase a ws) = joinCamel capital (inCase b ws) := by
    rw [joinCamel_eq_spellCamel (h.inCase a), joinCamel_eq_spellCamel (h.inCase b),
      spellCamel_inCase]
  have hsnake (hc : convention ∈ snakeCase) :
      convention.assemble (inCase a ws) = convention.assemble (inCase b ws) := by
    rw [assemble_eq_snake _ (h.inCase a).toWordList,
      assemble_eq_snake _ (h.inCase b).toWordList, parts_inCase hc h, parts_inCase hc h]
  cases convention with
  | camelCase => exact hcamel true
  | methodName | variableName => exact hcamel false
  | upperCase | constantName | lowerCase => exact hsnake (by decide)

end

end Convention

/-- A text of ASCII characters with words can be normalized under one convention that writes
underscores or under another one, and then under any convention: the result is the same, and if this
convention writes underscores too, it is the one for the text itself. -/
theorem normalize_normalize_snakeCase {t : Text} (ht : ∀ c ∈ t, c.toNat < 128)
    (hw : words t ≠ []) :
    ∀ first ∈ Convention.snakeCase, ∀ second ∈ Convention.snakeCase,
      ∃ x y, normalize first t = .ok x ∧ normalize second t = .ok y ∧
        ∀ convention, ∃ z,
          normalize convention x.text = .ok z ∧ normalize convention y.text = .ok z ∧
            (convention ∈ Convention.snakeCase → normalize convention t = .ok z) := by
  intro first hfirst second hsecond
  obtain ⟨x, hx⟩ : ∃ x, normalize first t = .ok x := exists_normalize_iff.2 hw
  obtain ⟨y, hy⟩ : ∃ y, normalize second t = .ok y := exists_normalize_iff.2 hw
  have h := asciiWords_words ht
  have hwordsx := (words_of_normalize hx).trans (Convention.parts_eq_inCase hfirst h)
  have hwordsy := (words_of_normalize hy).trans (Convention.parts_eq_inCase hsecond h)
  refine ⟨x, y, hx, hy, fun convention => ?_⟩
  refine ⟨_, normalize_of_words_ne_nil (words_ne_nil_of_normalize hx), ?_, fun hc => ?_⟩
  · rw [normalize_of_words_ne_nil (words_ne_nil_of_normalize hy), hwordsx, hwordsy,
      convention.assemble_inCase h.flatMap_humps]
  · rw [normalize_of_words_ne_nil hw, hwordsx, Convention.assemble_inCase_humps hc h]

/-- The underscore that makes a name of `for` is not part of it. -/
theorem normalize_for :
    normalize .lowerCase "for".toList = .ok ⟨"_for".toList⟩ ∧
      normalize .upperCase "for".toList = .ok ⟨"FOR".toList⟩ ∧
      normalize .camelCase "_for".toList = .ok ⟨"For".toList⟩ ∧
      normalize .camelCase "FOR".toList = .ok ⟨"For".toList⟩ ∧
      normalize .lowerCase "FOR".toList = .ok ⟨"_for".toList⟩ := by
  have hascii : "for".toList.all (fun c => decide (c.toNat < 128)) = true := by decide +kernel
  have hw : words "for".toList ≠ [] := by decide +kernel
  have hlower : normalize .lowerCase "for".toList = .ok ⟨"_for".toList⟩ := by decide +kernel
  have hupper : normalize .upperCase "for".toList = .ok ⟨"FOR".toList⟩ := by decide +kernel
  have hcamel : normalize .camelCase "_for".toList = .ok ⟨"For".toList⟩ := by decide +kernel
  obtain ⟨x, y, hx, hy, h⟩ := normalize_normalize_snakeCase
    (fun c hc => of_decide_eq_true (List.all_eq_true.1 hascii c hc)) hw
    .lowerCase (by decide) .upperCase (by decide)
  obtain rfl := Except.ok.inj (hx.symm.trans hlower)
  obtain rfl := Except.ok.inj (hy.symm.trans hupper)
  obtain ⟨z, hz, hz', -⟩ := h .camelCase
  obtain rfl := Except.ok.inj (hz.symm.trans hcamel)
  obtain ⟨v, -, hv, hself⟩ := h .lowerCase
  obtain rfl := Except.ok.inj ((hself (by decide)).symm.trans hlower)
  exact ⟨hlower, hupper, hcamel, hz', hv⟩

end JavaNames
