import JavaNames.Naming.Words
import Mathlib.Data.List.TakeWhile

/-!
# Words and the texts made of them

The words of a text form a `WordList`: none of them is empty, all characters can be parts of words,
and the first one begins a name. Every word list comes from some text: a text that is made of its
members (`MadeOf`), whatever separates them there, has these members as its words
(`MadeOf.words_eq`). One such text has them with underscores between them (`snake`). Cutting a word
list further into humps gives a word list, and changes nothing if every word is a single hump.
-/

namespace JavaNames

/-! ## Characters of words -/

section
variable {c : Char}

/-- What can begin the first word can be part of a word. -/
theorem isWordPart_of_isWordStart (h : isWordStart c = true) : isWordPart c = true := by
  rw [isWordStart, Bool.and_eq_true] at h
  rw [isWordPart, isIdentifierPart_of_start h.1, h.2]
  rfl

/-- What can begin the first word can begin an identifier. -/
theorem isIdentifierStart_of_isWordStart (h : isWordStart c = true) :
    isIdentifierStart c = true := by
  rw [isWordStart, Bool.and_eq_true] at h
  exact h.1

/-- What can be part of a word can continue an identifier. -/
theorem isIdentifierPart_of_isWordPart (h : isWordPart c = true) : isIdentifierPart c = true := by
  rw [isWordPart, Bool.and_eq_true] at h
  exact h.1

end

/-- An underscore is no part of a word. -/
@[simp] theorem isWordPart_underscore : isWordPart '_' = false := by
  simp [isWordPart]

/-- An underscore begins no word. -/
@[simp] theorem isWordStart_underscore : isWordStart '_' = false := by
  simp [isWordStart]

/-! ## Stretches -/

section
variable {c : Char} {w t s : Text}

/-- A stretch has at least one character, and its characters can be parts of words. -/
theorem of_mem_stretches (h : w ∈ stretches t) : w ≠ [] ∧ ∀ c ∈ w, isWordPart c = true := by
  fun_induction stretches t with
  | case1 => cases h
  | case2 c cs hc ih =>
    rcases List.mem_cons.1 h with rfl | h
    · refine ⟨List.cons_ne_nil _ _, fun d hd => ?_⟩
      rcases List.mem_cons.1 hd with rfl | hd
      · exact hc
      · exact List.all_eq_true.1 List.all_takeWhile d hd
    · exact ih h
  | case3 c cs hc ih => exact ih h

/-- The characters of a stretch are characters of the text. -/
theorem mem_of_mem_stretches (h : w ∈ stretches t) (hc : c ∈ w) : c ∈ t := by
  fun_induction stretches t with
  | case1 => cases h
  | case2 d ds _ ih =>
    rcases List.mem_cons.1 h with rfl | h
    · rcases List.mem_cons.1 hc with rfl | hc
      · exact .head _
      · exact .tail _ ((List.takeWhile_prefix _).mem hc)
    · exact .tail _ ((List.dropWhile_suffix _).mem (ih h))
  | case3 d ds _ ih => exact .tail _ (ih h)

/-- A text that can be a word as a whole is a single stretch. -/
theorem stretches_of_parts (hne : w ≠ []) (h : ∀ c ∈ w, isWordPart c = true) :
    stretches w = [w] := by
  obtain ⟨c, cs, rfl⟩ := List.exists_cons_of_ne_nil hne
  have hcs : cs.dropWhile isWordPart = [] :=
    List.dropWhile_eq_nil_iff.2 fun d hd => h d (.tail _ hd)
  have htake : cs.takeWhile isWordPart = cs := by
    have hsplit := List.takeWhile_append_dropWhile (p := isWordPart) (l := cs)
    rwa [hcs, List.append_nil] at hsplit
  rw [stretches_cons_of_part (h c (.head _)), hcs, htake, stretches_nil]

/-- A character that is no part of a word separates what stands before it from what follows. -/
theorem stretches_append_cons (hc : isWordPart c = false) :
    stretches (s ++ c :: t) = stretches s ++ stretches t := by
  fun_induction stretches s with
  | case1 => exact stretches_cons_of_not_part hc
  | case2 d ds hd ih =>
    have hhead : ∀ e ∈ (c :: t).head?, isWordPart e = false := by simpa using hc
    obtain ⟨htake, hdrop⟩ := takeWhile_append_of_head ds hhead
    rw [List.cons_append, stretches_cons_of_part hd, htake, hdrop, ih, List.cons_append]
  | case3 d ds hd ih =>
    rw [List.cons_append, stretches_cons_of_not_part (by simpa using hd), ih]

end

/-! ## Lists of words -/

/-- What is left of a text without the first characters that lack a property begins with one that
has it. -/
theorem eq_true_of_dropWhile_eq_cons {p : Char → Bool} {t cs : Text} {c : Char}
    (h : t.dropWhile (fun c => !p c) = c :: cs) : p c = true := by
  have hc : (!p c) = false := eq_false_of_mem_head?_dropWhile c (by rw [h]; rfl)
  simpa using hc

/-- Words that are the words of some text. -/
structure WordList (ws : List Text) : Prop where
  /-- No word is empty. -/
  ne_nil : ∀ w ∈ ws, w ≠ []
  /-- The characters can be parts of words. -/
  parts : ∀ w ∈ ws, ∀ c ∈ w, isWordPart c = true
  /-- The first character begins a name. -/
  start : ∀ c ∈ ws.flatten.head?, isWordStart c = true

/-- The first character of the first word begins a name. -/
theorem WordList.exists_first {w : Text} {vs : List Text} (h : WordList (w :: vs)) :
    ∃ c cs, w = c :: cs ∧ isWordStart c = true := by
  obtain ⟨c, cs, rfl⟩ := List.exists_cons_of_ne_nil (h.ne_nil w (.head _))
  exact ⟨c, cs, rfl, h.start c rfl⟩

/-- Either no character of a text begins a word, or the first word begins with the first such
character. -/
theorem words_cases (t : Text) :
    (∀ c ∈ t, isWordStart c = false) ∧ words t = [] ∨
      ∃ c ∈ t, isWordStart c = true ∧ ∃ cs ws, words t = (c :: cs) :: ws := by
  rw [words]
  cases ht : t.dropWhile fun c => !isWordStart c with
  | nil =>
    refine .inl ⟨fun c hc => ?_, stretches_nil⟩
    simpa using List.dropWhile_eq_nil_iff.1 ht c hc
  | cons c cs =>
    have hmem : c ∈ t.dropWhile fun c => !isWordStart c := ht ▸ List.mem_cons_self
    have hc : isWordStart c = true := eq_true_of_dropWhile_eq_cons ht
    exact .inr ⟨c, (List.dropWhile_suffix _).mem hmem, hc, _, _,
      stretches_cons_of_part (isWordPart_of_isWordStart hc)⟩

/-- A text has words exactly if some character begins one. -/
theorem words_ne_nil_iff {t : Text} : words t ≠ [] ↔ ∃ c ∈ t, isWordStart c = true := by
  rcases words_cases t with ⟨hnone, hw⟩ | ⟨c, hmem, hc, cs, ws, hw⟩
  · constructor
    · intro h
      exact absurd hw h
    · rintro ⟨c, hmem, hc⟩
      rw [hnone c hmem] at hc
      cases hc
  · exact ⟨fun _ => ⟨c, hmem, hc⟩, fun _ => hw ▸ List.cons_ne_nil _ _⟩

/-- A text has no words if none of its characters but underscores can begin an identifier. -/
theorem words_eq_nil_iff {t : Text} :
    words t = [] ↔ ∀ d ∈ t, isIdentifierStart d = true → d = '_' := by
  rw [← not_iff_not, ← ne_eq, words_ne_nil_iff]
  simp [isWordStart]

/-- The words of a text form a word list. -/
theorem wordList_words (t : Text) : WordList (words t) where
  ne_nil w hw := (of_mem_stretches hw).1
  parts w hw := (of_mem_stretches hw).2
  start := by
    intro c hc
    rcases words_cases t with ⟨-, hw⟩ | ⟨d, -, hd, cs, ws, hw⟩
    · rw [hw] at hc
      cases hc
    · rw [hw] at hc
      obtain rfl := Option.some.inj hc
      exact hd

/-- The characters of a word are characters of the text. -/
theorem mem_of_mem_words {t w : Text} {c : Char} (h : w ∈ words t) (hc : c ∈ w) : c ∈ t :=
  (List.dropWhile_suffix _).mem (mem_of_mem_stretches h hc)

/-- An underscore in front of a text changes no word. -/
@[simp] theorem words_underscore_cons (t : Text) : words ('_' :: t) = words t := by
  rw [words, List.dropWhile_cons_of_pos (by simp), words]

/-! ## Gaps between words -/

/-- Nothing of a gap is part of a word. -/
theorem stretches_gap_append {gap t : Text} (h : ∀ c ∈ gap, isWordPart c = false) :
    stretches (gap ++ t) = stretches t := by
  induction gap with
  | nil => rfl
  | cons c gap ih =>
    rw [List.forall_mem_cons] at h
    rw [List.cons_append, stretches_cons_of_not_part h.1, ih h.2]

/-- A word before a text that does not go on with it is the first stretch. -/
theorem stretches_word_append {w t : Text} (hne : w ≠ []) (hw : ∀ c ∈ w, isWordPart c = true)
    (ht : ∀ c ∈ t.head?, isWordPart c = false) : stretches (w ++ t) = w :: stretches t := by
  cases t with
  | nil => rw [List.append_nil, stretches_of_parts hne hw, stretches_nil]
  | cons c t =>
    have hc := ht c rfl
    rw [stretches_append_cons hc, stretches_of_parts hne hw, stretches_cons_of_not_part hc,
      List.singleton_append]

/-- A text goes on with words after another word: a gap stands before each of them, and another
one, which may be empty, ends the text. -/
inductive GoesOn : List Text → Text → Prop
  | last {gap} (hgap : ∀ c ∈ gap, isWordPart c = false) : GoesOn [] gap
  | word {gap w ws t} (hne : gap ≠ []) (hgap : ∀ c ∈ gap, isWordPart c = false)
      (ht : GoesOn ws t) : GoesOn (w :: ws) (gap ++ (w ++ t))

/-- What goes on after a word does not go on with this word. -/
theorem GoesOn.isWordPart_head {ws : List Text} {t : Text} (h : GoesOn ws t) :
    ∀ c ∈ t.head?, isWordPart c = false := by
  intro c hc
  cases h with
  | last hgap => exact hgap c (List.mem_of_head? hc)
  | word hne hgap ht =>
    obtain ⟨d, gap, rfl⟩ := List.exists_cons_of_ne_nil hne
    obtain rfl := Option.some.inj hc
    exact hgap d (.head _)

/-- The stretches of what goes on after a word are the words it goes on with. -/
theorem GoesOn.stretches_eq {ws : List Text} {t : Text} (h : GoesOn ws t)
    (hws : ∀ w ∈ ws, w ≠ [] ∧ ∀ c ∈ w, isWordPart c = true) : stretches t = ws := by
  induction h with
  | @last gap hgap => rw [← List.append_nil gap, stretches_gap_append hgap, stretches_nil]
  | word _ hgap ht ih =>
    rw [List.forall_mem_cons] at hws
    rw [stretches_gap_append hgap, stretches_word_append hws.1.1 hws.1.2 ht.isWordPart_head,
      ih hws.2]

/-- A text is made of words: the first one stands after characters that begin no word, and the text
goes on with the others. A text of no words has only such characters. -/
inductive MadeOf : List Text → Text → Prop
  | nothing {lead} (hlead : ∀ c ∈ lead, isWordStart c = false) : MadeOf [] lead
  | words {lead w ws t} (hlead : ∀ c ∈ lead, isWordStart c = false) (ht : GoesOn ws t) :
    MadeOf (w :: ws) (lead ++ (w ++ t))

/-- A text that is made of words has these words. -/
theorem MadeOf.words_eq {ws : List Text} {t : Text} (h : MadeOf ws t) (hws : WordList ws) :
    JavaNames.words t = ws := by
  cases h with
  | nothing hlead =>
    rw [JavaNames.words, List.dropWhile_eq_nil_iff.2 (by simpa using hlead), stretches_nil]
  | words hlead ht =>
    obtain ⟨c, cs, rfl, hc⟩ := hws.exists_first
    rw [JavaNames.words, List.dropWhile_append_of_pos (by simpa using hlead), List.cons_append,
      List.dropWhile_cons_of_neg (by simp [hc]), ← List.cons_append,
      stretches_word_append (hws.ne_nil _ (.head _)) (hws.parts _ (.head _)) ht.isWordPart_head,
      ht.stretches_eq fun v hv => ⟨hws.ne_nil v (.tail _ hv), hws.parts v (.tail _ hv)⟩]

/-! ## Texts of words -/

/-- Words with underscores between them. -/
def snake : List Text → Text
  | [] => []
  | w :: ws => w ++ ws.flatMap ('_' :: ·)

/-- A text goes on with words after underscores. -/
theorem goesOn_flatMap (ws : List Text) : GoesOn ws (ws.flatMap ('_' :: ·)) := by
  induction ws with
  | nil => exact .last (List.forall_mem_nil _)
  | cons w ws ih => exact .word (List.cons_ne_nil '_' []) (by simp) ih

/-- A text of words is made of them. -/
theorem madeOf_snake (ws : List Text) : MadeOf ws (snake ws) := by
  cases ws with
  | nil => exact .nothing (List.forall_mem_nil _)
  | cons w ws => exact .words (List.forall_mem_nil _) (goesOn_flatMap ws)

namespace WordList

/-- The words of a text of words are these words. -/
theorem words_snake {ws : List Text} (h : WordList ws) : words (snake ws) = ws :=
  (madeOf_snake ws).words_eq h

/-- Texts of different words are different. -/
theorem snake_inj {ws vs : List Text} (hw : WordList ws) (hv : WordList vs) :
    snake ws = snake vs ↔ ws = vs := by
  constructor
  · intro h
    rw [← hw.words_snake, h, hv.words_snake]
  · rintro rfl
    rfl

/-- A text of words is spelled like an identifier. -/
theorem hasIdentifierShape_snake {ws : List Text} (h : WordList ws) (hne : ws ≠ []) :
    hasIdentifierShape (snake ws) = true := by
  obtain ⟨w, vs, rfl⟩ := List.exists_cons_of_ne_nil hne
  obtain ⟨c, cs, rfl, hc⟩ := h.exists_first
  rw [snake, List.cons_append, hasIdentifierShape, isIdentifierStart_of_isWordStart hc,
    Bool.true_and, List.all_append, Bool.and_eq_true, List.all_eq_true, List.all_eq_true]
  refine ⟨fun d hd => isIdentifierPart_of_isWordPart (h.parts _ (.head _) d (.tail _ hd)), ?_⟩
  intro d hd
  obtain ⟨v, hv, hd⟩ := List.mem_flatMap.1 hd
  rcases List.mem_cons.1 hd with rfl | hd
  · exact isIdentifierPart_of_start (by simp [isIdentifierStart])
  · exact isIdentifierPart_of_isWordPart (h.parts v (.tail _ hv) d hd)

end WordList

/-! ## Humps -/

/-- The humps of a word, one after the other, are the word. -/
@[simp] theorem flatten_humps (w : Text) : (humps w).flatten = w := by
  induction w with
  | nil => rfl
  | cons c cs ih =>
    cases cs with
    | nil => rfl
    | cons d ds =>
      rw [humps]
      split
      · rw [List.flatten_cons, ih]
        rfl
      · cases hh : humps (d :: ds) with
        | nil =>
          rw [hh] at ih
          cases ih
        | cons h hs =>
          rw [hh] at ih
          rw [List.modifyHead_cons, List.flatten_cons, List.cons_append, ← List.flatten_cons, ih]

/-- No hump is empty. -/
theorem ne_nil_of_mem_humps {w h : Text} (hh : h ∈ humps w) : h ≠ [] := by
  fun_induction humps w with
  | case1 => cases hh
  | case2 c =>
    obtain rfl := List.mem_singleton.1 hh
    exact List.cons_ne_nil _ _
  | case3 c d cs _ ih =>
    rcases List.mem_cons.1 hh with rfl | hh
    · exact List.cons_ne_nil _ _
    · exact ih hh
  | case4 c d cs _ ih =>
    cases hd : humps (d :: cs) with
    | nil =>
      rw [hd] at hh
      cases hh
    | cons e es =>
      rw [hd] at hh ih
      rcases List.mem_cons.1 hh with rfl | hh
      · exact List.cons_ne_nil _ _
      · exact ih (.tail _ hh)

/-- A word has humps. -/
theorem humps_ne_nil {w : Text} (h : w ≠ []) : humps w ≠ [] := by
  intro hnil
  have hflat := flatten_humps w
  rw [hnil] at hflat
  exact h hflat.symm

/-- A word whose first hump is the whole word has no other hump. -/
theorem humps_eq_singleton {w : Text} {hs : List Text} (heq : humps w = w :: hs) :
    humps w = [w] := by
  have hflat : w ++ hs.flatten = w := by
    rw [← List.flatten_cons, ← heq, flatten_humps]
  have hnil : hs.flatten = [] := List.append_right_eq_self.1 hflat
  cases hs with
  | nil => exact heq
  | cons h hs =>
    rw [List.flatten_cons, List.append_eq_nil_iff] at hnil
    have hmem : h ∈ humps w := heq ▸ .tail _ (.head _)
    exact absurd hnil.1 (ne_nil_of_mem_humps hmem)

/-- Cutting words into humps changes nothing exactly if each word is a single hump. -/
theorem flatMap_humps_eq_iff {ws : List Text} (h : ∀ w ∈ ws, w ≠ []) :
    ws.flatMap humps = ws ↔ ∀ w ∈ ws, humps w = [w] := by
  induction ws with
  | nil => simp
  | cons w ws ih =>
    rw [List.forall_mem_cons] at h
    rw [List.flatMap_cons, List.forall_mem_cons, ← ih h.2]
    constructor
    · intro heq
      obtain ⟨v, hs, hh⟩ := List.exists_cons_of_ne_nil (humps_ne_nil h.1)
      rw [hh, List.cons_append] at heq
      obtain ⟨rfl, htail⟩ := List.cons.inj heq
      have hone := humps_eq_singleton hh
      obtain rfl : hs = [] := (List.cons.inj (hh.symm.trans hone)).2
      exact ⟨hone, htail⟩
    · rintro ⟨hw, hws⟩
      rw [hw, hws]
      rfl

/-- Cutting words into humps keeps the text of the words. -/
theorem flatten_flatMap_humps (ws : List Text) : (ws.flatMap humps).flatten = ws.flatten := by
  induction ws with
  | nil => rfl
  | cons w ws ih =>
    rw [List.flatMap_cons, List.flatten_append, flatten_humps, ih, List.flatten_cons]

/-- The characters of a hump are characters of its word. -/
theorem mem_of_mem_humps {w h : Text} {c : Char} (hh : h ∈ humps w) (hc : c ∈ h) : c ∈ w := by
  rw [← flatten_humps w]
  exact List.mem_flatten_of_mem hh hc

/-- The humps of the words of a list form a word list. -/
theorem WordList.flatMap_humps {ws : List Text} (h : WordList ws) :
    WordList (ws.flatMap humps) where
  ne_nil := by
    intro v hv
    obtain ⟨w, -, hv⟩ := List.mem_flatMap.1 hv
    exact ne_nil_of_mem_humps hv
  parts := by
    intro v hv c hc
    obtain ⟨w, hw, hv⟩ := List.mem_flatMap.1 hv
    exact h.parts w hw c (mem_of_mem_humps hv hc)
  start := by
    rw [flatten_flatMap_humps]
    exact h.start

/-- Words have humps. -/
theorem WordList.flatMap_humps_ne_nil {ws : List Text} (h : WordList ws) (hne : ws ≠ []) :
    ws.flatMap humps ≠ [] := by
  obtain ⟨w, vs, rfl⟩ := List.exists_cons_of_ne_nil hne
  rw [List.flatMap_cons]
  exact List.append_ne_nil_of_left_ne_nil (humps_ne_nil (h.ne_nil w (.head _))) _

end JavaNames
