import JavaNames.Proofs.Naming.Interchange

/-!
# Where the underscores stand

A name with underscores is made of words, and these of humps, and between any two humps stands an
underscore. In a text of ASCII characters the underscores can be told without cutting it twice: the
name keeps the characters that can be part of a word, in their order and each of them once, and two
of them that follow each other have an underscore between them if something has been left out there,
if a capital follows a small letter, or if the second one is the last of several capitals and a small
letter follows it in the text (`normalize_eq_spellSnake`).

The two ways of cutting meet at the end of a word: what stands after the last character of a word is
no part of it, but in the text it can be seen. The rule looks there only for a small letter, and a
small letter would be part of the word (`isHumpStart_eq_isDivided`).
-/

namespace JavaNames

open Unicode (isLowercase isUppercase)

/-! ## The rule -/

/-- The characters of a text that a name keeps, with their positions: those from the first one on
that can begin a word, as far as they can be part of one. -/
def kept (t : Text) : List (Char × Nat) :=
  (t.zipIdx.dropWhile fun x => !isWordStart x.1).filter fun x => isWordPart x.1

/-- Whether an underscore stands between two characters that follow each other among those that are
kept of a text: there are others between them, or the second one is a capital after a small letter,
or after a capital and before a small letter. -/
def isDivided (t : Text) (x y : Char × Nat) : Bool :=
  decide (x.2 + 1 < y.2) || (x.1.isLower && y.1.isUpper) ||
    (x.1.isUpper && y.1.isUpper && t[y.2 + 1]?.any Char.isLower)

/-- Characters of a text in one case, with the underscores between them. -/
def spellSnake (capital : Bool) (t : Text) : List (Char × Nat) → Text
  | [] => []
  | x :: xs =>
    letterForm capital x.1 ::
      ((if xs.head?.any (isDivided t x) then ['_'] else []) ++ spellSnake capital t xs)

/-! ## Characters at their positions -/

/-- The characters of the end of a text that can be part of a word, with their positions. -/
def partsFrom (position : Nat) (t : Text) : List (Char × Nat) :=
  (t.zipIdx position).filter fun x => isWordPart x.1

section
variable {position : Nat} {c : Char} {t cs : Text}

@[simp] theorem partsFrom_nil : partsFrom position [] = [] := rfl

theorem partsFrom_cons_of_part (h : isWordPart c = true) :
    partsFrom position (c :: cs) = (c, position) :: partsFrom (position + 1) cs := by
  simp [partsFrom, h]

theorem partsFrom_cons_of_not_part (h : isWordPart c = false) :
    partsFrom position (c :: cs) = partsFrom (position + 1) cs := by
  simp [partsFrom, h]

/-- The characters of the end of a text stand there. -/
theorem le_of_mem_partsFrom {x : Char × Nat} (h : x ∈ partsFrom position t) : position ≤ x.2 :=
  List.le_snd_of_mem_zipIdx (List.mem_filter.1 h).1

/-- What a name keeps are the parts of words from the first word on. -/
theorem kept_eq_partsFrom (t : Text) : kept t =
    partsFrom (t.takeWhile fun c => !isWordStart c).length
      (t.dropWhile fun c => !isWordStart c) := by
  rw [kept, List.dropWhile_zipIdx fun c => !isWordStart c, Nat.zero_add, partsFrom]

end

/-! ## Humps of a text -/

/-- The humps of the stretches of a text, with underscores between them. -/
def snakeHumps (t : Text) : Text :=
  snake ((stretches t).flatMap humps)

section
variable {c d : Char} {cs : Text}

/-- Nothing is written of what is no part of a word. -/
theorem snakeHumps_cons_of_not_part (hc : isWordPart c = false) :
    snakeHumps (c :: cs) = snakeHumps cs := by
  rw [snakeHumps, stretches_cons_of_not_part hc, snakeHumps]

/-- Inside a word an underscore stands where a hump begins. -/
theorem snakeHumps_cons_cons (hc : isWordPart c = true) (hd : isWordPart d = true) :
    snakeHumps (c :: d :: cs) =
      c :: ((if isHumpStart c d (cs.takeWhile isWordPart).head? then ['_'] else []) ++
        snakeHumps (d :: cs)) := by
  obtain ⟨h, hs, hhumps⟩ := List.exists_cons_of_ne_nil
    (humps_ne_nil (List.cons_ne_nil d (cs.takeWhile isWordPart)))
  rw [snakeHumps, snakeHumps, stretches_cons_of_part hc, stretches_cons_of_part hd,
    List.takeWhile_cons_of_pos hd, List.dropWhile_cons_of_pos hd, List.flatMap_cons,
    List.flatMap_cons, humps, hhumps]
  split <;> simp [snake]

/-- After the last character of a word an underscore stands if another word follows. -/
theorem snakeHumps_cons_of_last (hc : isWordPart c = true)
    (hcs : ∀ d ∈ cs.head?, isWordPart d = false) :
    snakeHumps (c :: cs) =
      c :: ((if !(snakeHumps cs).isEmpty then ['_'] else []) ++ snakeHumps cs) := by
  obtain ⟨htake, hdrop⟩ : cs.takeWhile isWordPart = [] ∧ cs.dropWhile isWordPart = cs :=
    takeWhile_append_of_head [] hcs
  rw [snakeHumps, snakeHumps, stretches_cons_of_part hc, htake, hdrop, List.flatMap_cons, humps]
  cases hws : (stretches cs).flatMap humps with
  | nil => rfl
  | cons h hs =>
    obtain ⟨w, -, hmem⟩ := List.mem_flatMap.1 (hws ▸ List.mem_cons_self (a := h))
    obtain ⟨e, es, rfl⟩ := List.exists_cons_of_ne_nil (ne_nil_of_mem_humps hmem)
    simp [snake]

end

/-! ## Underscores in a text -/

section
variable {capital : Bool} {c d : Char} {t front cs : Text}

/-- An underscore is in no case. -/
@[simp] theorem letterForm_underscore : letterForm capital '_' = '_' := by
  cases capital <;> decide

/-- The small letters of ASCII can be parts of words. -/
theorem isWordPart_and_isLowercase_of_ascii (h : c.toNat < 128) :
    (isWordPart c && isLowercase c) = c.isLower :=
  beq_iff_eq.1 (Char.of_ascii (p := fun c => (isWordPart c && isLowercase c) == c.isLower)
    (by decide +kernel) h)

/-- A hump begins in a word of ASCII characters where the rule has an underscore. -/
theorem isHumpStart_eq_isDivided (ha : ∀ e ∈ c :: d :: cs, e.toNat < 128) :
    isHumpStart c d (cs.takeWhile isWordPart).head? =
      isDivided (front ++ c :: d :: cs) (c, front.length) (d, front.length + 1) := by
  obtain ⟨hc, hd, hcs⟩ : c.toNat < 128 ∧ d.toNat < 128 ∧ ∀ e ∈ cs, e.toNat < 128 := by
    simpa using ha
  have hafter : (cs.takeWhile isWordPart).head?.any isLowercase = cs.head?.any Char.isLower := by
    rw [List.head?_takeWhile, Option.any_filter]
    cases cs with
    | nil => rfl
    | cons e es => exact isWordPart_and_isLowercase_of_ascii (hcs e (.head _))
  have hnext : (front ++ c :: d :: cs)[front.length + 1 + 1]? = cs.head? := by
    rw [List.getElem?_append_right (by omega), List.head?_eq_getElem?]
    simp [Nat.add_assoc]
  rw [isHumpStart, isDivided, hafter, hnext, isLowercase_of_ascii hc, isUppercase_of_ascii hc,
    isUppercase_of_ascii hd]
  simp

/-- Something is written of each character. -/
theorem isEmpty_spellSnake (xs : List (Char × Nat)) :
    (spellSnake capital t xs).isEmpty = xs.isEmpty := by
  cases xs <;> rfl

/-- Between the last character of a word and what is kept after it something has been left out. -/
theorem any_isDivided_of_last {position : Nat} (hcs : ∀ d ∈ cs.head?, isWordPart d = false) :
    (partsFrom (position + 1) cs).head?.any (isDivided t (c, position)) =
      !(partsFrom (position + 1) cs).isEmpty := by
  cases cs with
  | nil => rfl
  | cons d ds =>
    rw [partsFrom_cons_of_not_part (hcs d rfl)]
    cases hx : partsFrom (position + 1 + 1) ds with
    | nil => rfl
    | cons x xs =>
      have hlt : position + 1 < x.2 := le_of_mem_partsFrom (hx ▸ List.mem_cons_self)
      simp [isDivided, hlt]

/-- A character and what follows it are put in one case, and an underscore between them stays. -/
theorem map_letterForm_cons (b : Bool) (s : Text) :
    (c :: ((if b then ['_'] else []) ++ s)).map (letterForm capital) =
      letterForm capital c ::
        ((if b then ['_'] else []) ++ s.map (letterForm capital)) := by
  cases b <;> simp

/-- The characters of the end of a text that are parts of words are written as the humps of this end,
with the same underscores. The end begins after the front of the text, which tells its positions. -/
theorem spellSnake_partsFrom (ha : ∀ e ∈ cs, e.toNat < 128) (ht : t = front ++ cs) :
    spellSnake capital t (partsFrom front.length cs) =
      (snakeHumps cs).map (letterForm capital) := by
  induction cs generalizing front with
  | nil => simp [spellSnake, snakeHumps, snake]
  | cons c cs ih =>
    have hrest := ih (List.forall_mem_cons.1 ha).2 (ht.trans (List.append_cons front c cs))
    rw [List.length_append, List.length_singleton] at hrest
    cases hc : isWordPart c with
    | false => rw [partsFrom_cons_of_not_part hc, snakeHumps_cons_of_not_part hc, hrest]
    | true =>
      rw [partsFrom_cons_of_part hc, spellSnake, hrest]
      -- where a word ends, both sides ask only whether there is a part of another word
      have hlast (hcs : ∀ d ∈ cs.head?, isWordPart d = false) :
          (partsFrom (front.length + 1) cs).head?.any (isDivided t (c, front.length)) =
            !(snakeHumps cs).isEmpty := by
        rw [any_isDivided_of_last hcs, ← isEmpty_spellSnake, hrest, List.isEmpty_map]
      cases cs with
      | nil => rw [snakeHumps_cons_of_last hc (by simp), map_letterForm_cons, hlast (by simp)]
      | cons d ds =>
        cases hd : isWordPart d with
        | true =>
          rw [snakeHumps_cons_cons hc hd, map_letterForm_cons, isHumpStart_eq_isDivided ha, ← ht,
            partsFrom_cons_of_part hd, List.head?_cons, Option.any_some]
        | false =>
          have hcs : ∀ e ∈ (d :: ds).head?, isWordPart e = false := by simpa using hd
          rw [snakeHumps_cons_of_last hc hcs, map_letterForm_cons, hlast hcs]

end

/-! ## Names -/

/-- Words in one case with underscores between them are the text of the words in this case. -/
theorem snake_inCase (capital : Bool) (ws : List Text) :
    snake (inCase capital ws) = (snake ws).map (letterForm capital) := by
  cases ws with
  | nil => rfl
  | cons w ws => simp [inCase, snake, List.map_flatMap, List.flatMap_map]

/-- A text of ASCII characters with words is normalized, under a convention that writes underscores,
to the characters that it keeps, in one case and with the underscores of the rule; the name is
escaped if it is a reserved word. -/
theorem normalize_eq_spellSnake {t : Text} (ht : ∀ c ∈ t, c.toNat < 128) (hw : words t ≠ []) :
    ∀ convention ∈ Convention.snakeCase,
      convention.assemble (words t) = spellSnake (convention != .lowerCase) t (kept t) ∧
        normalize convention t =
          .ok ⟨escape (spellSnake (convention != .lowerCase) t (kept t))⟩ := by
  intro convention hc
  have hascii := asciiWords_words ht
  have hassemble : convention.assemble (words t) =
      spellSnake (convention != .lowerCase) t (kept t) := by
    rw [Convention.assemble_eq_snake _ hascii.toWordList, Convention.parts_eq_inCase hc hascii,
      snake_inCase, kept_eq_partsFrom, spellSnake_partsFrom
        (fun c hc => ht c ((List.dropWhile_suffix _).mem hc))
        List.takeWhile_append_dropWhile.symm]
    rfl
  refine ⟨hassemble, ?_⟩
  rw [normalize_of_words_ne_nil hw, hassemble]

/-- The digit at the beginning is not kept, the one in the middle divides nothing, and the last of
three capitals begins a part of its own. -/
theorem normalize_parseXMLFile_v2X :
    normalize .lowerCase "1 parseXMLFile_v2X".toList = .ok ⟨"parse_xml_file_v2x".toList⟩ ∧
      normalize .constantName "1 parseXMLFile_v2X".toList =
        .ok ⟨"PARSE_XML_FILE_V2X".toList⟩ := by
  have hascii : "1 parseXMLFile_v2X".toList.all (fun c => decide (c.toNat < 128)) = true := by
    decide +kernel
  have hw : words "1 parseXMLFile_v2X".toList ≠ [] := by decide +kernel
  have h := normalize_eq_spellSnake
    (fun c hc => of_decide_eq_true (List.all_eq_true.1 hascii c hc)) hw
  have hlower := (h .lowerCase (by decide)).2
  have hconstant := (h .constantName (by decide)).2
  have hspelled (capital : Bool) : escape (spellSnake capital "1 parseXMLFile_v2X".toList
      (kept "1 parseXMLFile_v2X".toList)) =
        if capital then "PARSE_XML_FILE_V2X".toList else "parse_xml_file_v2x".toList := by
    cases capital <;> decide +kernel
  rw [hspelled] at hlower hconstant
  exact ⟨hlower, hconstant⟩

end JavaNames
