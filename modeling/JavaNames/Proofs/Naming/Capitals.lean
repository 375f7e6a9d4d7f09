import Mathlib.Data.List.Basic
import JavaNames.Proofs.Naming.CamelCase

/-!
# Where the capitals of camel case stand

Camel case is written from left to right, and whether the next character becomes a capital is told
by the last one that has been written, which may have been made small or a capital itself. In a text
of ASCII characters nothing of this is needed: the places of the capitals can be told from the words
as they stand in the text (`isCapital`), and all other letters are small
(`joinCamel_eq_spellCamel`).

The last written character is a small letter exactly if the last character of the text is a letter,
unless this has become the capital that the name begins with. One other case is left, a capital that
has been kept; but what is kept stands before a small letter, which opens nothing. So in a lone word
the statement is needed only before a capital (`recaseTail_eq_mapIdx`), and of several words it
holds where one of them ends (`isLowercase_last`).
-/

namespace JavaNames

open Unicode (isLowercase isUppercase toLower toUpper)

/-! ## The rule -/

/-- A character in small letters, or as a capital. -/
def letterForm (capital : Bool) (c : Char) : Char :=
  if capital then c.toUpper else c.toLower

/-- Whether the character after position `i` of a lone word stays a capital: it is one, between a
letter and a small letter, and this letter is not the capital that the name begins with. -/
def staysCapital (capital : Bool) (w : Text) (i : Nat) : Bool :=
  w[i + 1]?.any Char.isUpper && w[i + 2]?.any Char.isLower && w[i]?.any Char.isAlpha &&
    !(capital && i == 0)

/-- Whether the word after position `j` begins with a capital: its second character is a letter, and
the word before it ends in a letter which is not the capital that the name begins with. -/
def opensCapital (capital : Bool) (ws : List Text) (j : Nat) : Bool :=
  (ws[j + 1]?.bind (·[1]?)).any Char.isAlpha && (ws[j]?.bind List.getLast?).any Char.isAlpha &&
    !(capital && j == 0 && ws[0]?.any (·.length == 1))

/-- Whether position `i` of the word at position `j` is a capital: the first one of all if the name
begins with one, those that stay capitals of a lone word, and those that open one of several. -/
def isCapital (capital : Bool) (ws : List Text) : Nat → Nat → Bool
  | 0, 0 => capital
  | 0, i + 1 => ws.length == 1 && ws[0]?.any (staysCapital capital · i)
  | j + 1, 0 => opensCapital capital ws j
  | _ + 1, _ + 1 => false

/-- The words one after the other in small letters, but with the capitals of the rule. -/
def spellCamel (capital : Bool) (ws : List Text) : Text :=
  (ws.mapIdx fun j w => w.mapIdx fun i c => letterForm (isCapital capital ws j i) c).flatten

/-! ## Forms of letters -/

section
variable {a b capital : Bool} {c : Char}

/-- Characters beyond ASCII have no other forms. -/
theorem letterForm_of_not_ascii (h : ¬ c.toNat < 128) : letterForm capital c = c := by
  cases capital
  all_goals
    refine dif_neg fun hc => h ?_
    exact Nat.lt_of_le_of_lt (UInt32.le_iff_toNat_le.1 hc.2) (by decide)

/-- A capital is its own form as a capital. -/
theorem letterForm_of_isUpper (h : c.isUpper = true) : letterForm true c = c := by
  have hle : c.val ≤ 'Z'.val := (of_decide_eq_true h).2
  exact dif_neg fun hc => absurd (UInt32.le_trans hc.1 hle) (by decide)

/-- The form of a letter is a capital if it is meant to be one, and else a small letter. -/
theorem isUpper_and_isLower_letterForm : (letterForm capital c).isUpper = (c.isAlpha && capital) ∧
    (letterForm capital c).isLower = (c.isAlpha && !capital) := by
  by_cases h : c.toNat < 128
  · exact of_decide_eq_true (Char.of_ascii
      (p := fun c => (letterForm capital c).isUpper = (c.isAlpha && capital) ∧
        (letterForm capital c).isLower = (c.isAlpha && !capital))
      (by cases capital <;> decide) h)
  · have halpha : c.isAlpha = false := Bool.eq_false_iff.2 (mt Char.toNat_lt_of_isAlpha h)
    rw [letterForm_of_not_ascii h, halpha]
    exact Bool.or_eq_false_iff.1 halpha

theorem isUpper_letterForm : (letterForm capital c).isUpper = (c.isAlpha && capital) :=
  isUpper_and_isLower_letterForm.1

theorem isLower_letterForm : (letterForm capital c).isLower = (c.isAlpha && !capital) :=
  isUpper_and_isLower_letterForm.2

/-- The forms of a letter are letters, and so are those of nothing else. -/
@[simp] theorem isAlpha_letterForm : (letterForm capital c).isAlpha = c.isAlpha := by
  show ((letterForm capital c).isUpper || (letterForm capital c).isLower) = c.isAlpha
  rw [isUpper_letterForm, isLower_letterForm]
  cases c.isAlpha <;> cases capital <;> rfl

/-- The forms of a character are those of its forms. -/
@[simp] theorem letterForm_letterForm : letterForm b (letterForm a c) = letterForm b c := by
  by_cases h : c.toNat < 128
  · exact beq_iff_eq.1 (Char.of_ascii
      (p := fun c => letterForm b (letterForm a c) == letterForm b c)
      (by cases a <;> cases b <;> decide) h)
  · rw [letterForm_of_not_ascii h, letterForm_of_not_ascii h]

end

/-! ## Characters of ASCII -/

section
variable {c : Char} (h : c.toNat < 128) (capital : Bool)
include h

/-- The lower-case form of an ASCII character. -/
theorem toLower_of_ascii : toLower c = [c.toLower] :=
  beq_iff_eq.1 (Char.of_ascii (p := fun c => toLower c == [c.toLower]) (by decide +kernel) h)

/-- The upper-case form of an ASCII character. -/
theorem toUpper_of_ascii : toUpper c = [c.toUpper] :=
  beq_iff_eq.1 (Char.of_ascii (p := fun c => toUpper c == [c.toUpper]) (by decide +kernel) h)

/-- The small letters of ASCII. -/
theorem isLowercase_of_ascii : isLowercase c = c.isLower :=
  beq_iff_eq.1 (Char.of_ascii (p := fun c => isLowercase c == c.isLower) (by decide +kernel) h)

/-- The capitals of ASCII. -/
theorem isUppercase_of_ascii : isUppercase c = c.isUpper :=
  beq_iff_eq.1 (Char.of_ascii (p := fun c => isUppercase c == c.isUpper) (by decide +kernel) h)

/-- Both forms of an ASCII character are ASCII characters. -/
theorem letterForm_lt : (letterForm capital c).toNat < 128 :=
  of_decide_eq_true (Char.of_ascii (p := fun c => (letterForm capital c).toNat < 128)
    (by cases capital <;> decide) h)

/-- The form in which a word begins. -/
theorem initialForm_of_ascii : initialForm capital c = [letterForm capital c] := by
  cases capital with
  | false => exact toLower_of_ascii h
  | true => exact toUpper_of_ascii h

/-- Of a part of a word, the lower-case form is written after other text. -/
theorem writable_toLower_of_ascii (hc : isWordPart c = true) :
    writable true (toLower c) = [c.toLower] :=
  writable_true_of_form Unicode.caseMapping_toLower hc (toLower_of_ascii h)

/-- The form of a letter is a small one unless it is a capital. -/
theorem isLowercase_letterForm : isLowercase (letterForm capital c) = (c.isAlpha && !capital) := by
  rw [isLowercase_of_ascii (letterForm_lt h capital), isLower_letterForm]

end

/-- Words of ASCII characters. -/
structure AsciiWords (ws : List Text) : Prop extends WordList ws where
  /-- The characters are ASCII characters. -/
  ascii : ∀ w ∈ ws, ∀ c ∈ w, c.toNat < 128

/-- The words of a text of ASCII characters. -/
theorem asciiWords_words {t : Text} (ht : ∀ c ∈ t, c.toNat < 128) : AsciiWords (words t) where
  toWordList := wordList_words t
  ascii _ hw _ hc := ht _ (mem_of_mem_words hw hc)

/-! ## A lone word -/

section
variable {keepHumps capital : Bool} {last p c : Char} {w cs : Text}

/-- A character after the first one is written as a capital if it is one that is kept. -/
theorem recaseTail_cons_of_ascii (hc : isWordPart c = true) (ha : ∀ d ∈ c :: cs, d.toNat < 128)
    (capital : Bool)
    (hkeeps : (keepHumps && c.isUpper && isLowercase last && cs.head?.any Char.isLower) = capital) :
    recaseTail keepHumps (some last) (c :: cs) =
      letterForm capital c :: recaseTail keepHumps (some (letterForm capital c)) cs := by
  rw [List.forall_mem_cons] at ha
  have hnext : cs.head?.any isLowercase = cs.head?.any Char.isLower := by
    cases cs with
    | nil => rfl
    | cons d ds => exact isLowercase_of_ascii (ha.2 d (.head _))
  have hsmall : writable (some last).isSome (toLower c) = [c.toLower] :=
    writable_toLower_of_ascii ha.1 hc
  rw [recaseTail, isUppercase_of_ascii ha.1, hnext, hsmall, afterSmall, Option.any_some, hkeeps]
  cases capital with
  | false => rfl
  | true =>
    simp only [Bool.and_eq_true] at hkeeps
    rw [letterForm_of_isUpper hkeeps.1.1.2]
    rfl

/-- The rule for the character after the first one. -/
theorem staysCapital_zero (c : Char) :
    staysCapital capital (p :: c :: cs) 0 =
      (c.isUpper && cs.head?.any Char.isLower && (p.isAlpha && !capital)) := by
  simp [staysCapital, List.head?_eq_getElem?, Bool.and_assoc]

/-- From the second character on it does not matter how the name begins. -/
@[simp] theorem staysCapital_succ (i : Nat) :
    staysCapital capital (p :: w) (i + 1) = staysCapital false w i := by
  simp [staysCapital]

/-- The rest of a lone word is written by the rule, given what has been written before it. If it
does not begin with a capital, this does not matter. -/
theorem recaseTail_eq_mapIdx (hw : ∀ c ∈ w, isWordPart c = true) (ha : ∀ c ∈ w, c.toNat < 128)
    (hlast : w.head?.any Char.isUpper = true → isLowercase last = (p.isAlpha && !capital)) :
    recaseTail true (some last) w =
      w.mapIdx fun i c => letterForm (staysCapital capital (p :: w) i) c := by
  induction w generalizing capital last p with
  | nil => rfl
  | cons c cs ih =>
    rw [List.forall_mem_cons] at hw
    have hascii := List.forall_mem_cons.1 ha
    have hkeeps : (true && c.isUpper && isLowercase last && cs.head?.any Char.isLower) =
        staysCapital capital (p :: c :: cs) 0 := by
      rw [staysCapital_zero, Bool.true_and, Bool.and_right_comm]
      cases hc : c.isUpper with
      | false => rfl
      | true => rw [hlast hc]
    have hnext : cs.head?.any Char.isUpper = true →
        isLowercase (letterForm (staysCapital capital (p :: c :: cs) 0) c) =
          (c.isAlpha && !false) := by
      intro hupper
      -- before a capital no capital stays
      have hstays : staysCapital capital (p :: c :: cs) 0 = false := by
        cases cs with
        | nil => cases hupper
        | cons d ds =>
          have hd : d.isLower = false := Char.isLower_eq_false_of_isUpper hupper
          rw [staysCapital_zero, List.head?_cons, Option.any_some, hd, Bool.and_false,
            Bool.false_and]
      rw [hstays, isLowercase_letterForm hascii.1]
    rw [recaseTail_cons_of_ascii hw.1 ha _ hkeeps, ih hw.2 hascii.2 hnext, List.mapIdx_cons]
    simp only [staysCapital_succ]

end

/-! ## Several words -/

/-- A word that begins in one form or the other, and goes on in small letters. -/
def wordForm (capital : Bool) : Text → Text
  | [] => []
  | c :: cs => letterForm capital c :: cs.map Char.toLower

section
variable {capital : Bool} {last c : Char} {v w cs : Text} {ws : List Text}

/-- Without humps, the rest of a word is written in small letters. -/
theorem recaseTail_eq_map (hw : ∀ c ∈ w, isWordPart c = true) (ha : ∀ c ∈ w, c.toNat < 128) :
    recaseTail false (some last) w = w.map Char.toLower := by
  induction w generalizing last with
  | nil => rfl
  | cons c cs ih =>
    rw [List.forall_mem_cons] at hw
    rw [recaseTail_cons_of_ascii hw.1 ha false rfl, ih hw.2 (List.forall_mem_cons.1 ha).2]
    rfl

/-- A word is written with a small letter at its end exactly if a letter stands there, and this has
not become a capital. -/
theorem isLowercase_last (ha : ∀ d ∈ c :: cs, d.toNat < 128) :
    isLowercase ((cs.map Char.toLower).getLast?.getD (letterForm capital c)) =
      ((c :: cs).getLast?.any Char.isAlpha && !(capital && (c :: cs).length == 1)) := by
  rcases List.eq_nil_or_concat' cs with rfl | ⟨ds, d, rfl⟩
  · simpa using isLowercase_letterForm (ha c (.head _)) capital
  · have hlast := isLowercase_letterForm (ha d (by simp)) false
    simpa [letterForm, List.getLast?_cons] using hlast

/-- The rule for the second word. -/
theorem opensCapital_zero :
    opensCapital capital (v :: w :: ws) 0 =
      (v.getLast?.any Char.isAlpha && !(capital && v.length == 1) && w[1]?.any Char.isAlpha) := by
  simp [opensCapital, Bool.and_assoc, Bool.and_comm]

/-- From the third word on it does not matter how the name begins. -/
@[simp] theorem opensCapital_succ (j : Nat) :
    opensCapital capital (v :: ws) (j + 1) = opensCapital false ws j := by
  simp [opensCapital]

/-- A word opens a hump after a small letter if its second character is a letter. -/
theorem opensHump_of_ascii (ha : ∀ c ∈ w, c.toNat < 128) :
    opensHump (some last) w = (isLowercase last && w[1]?.any Char.isAlpha) := by
  match w, ha with
  | [], _ | [_], _ => rfl
  | _ :: d :: _, ha =>
    have hd : d.toNat < 128 := ha d (.tail _ (.head _))
    have hsmall : isLowercase d.toLower = d.isAlpha :=
      (isLowercase_letterForm hd false).trans (Bool.and_true _)
    show (isLowercase last && (toLower d).all isLowercase) = (isLowercase last && d.isAlpha)
    rw [toLower_of_ascii hd, List.all_cons, List.all_nil, Bool.and_true, hsmall]

/-- The words after the first one are written by the rule, given what has been written before them.
-/
theorem joinRest_eq_mapIdx (hne : ∀ w ∈ ws, w ≠ [])
    (hw : ∀ w ∈ ws, ∀ c ∈ w, isWordPart c = true) (ha : ∀ w ∈ ws, ∀ c ∈ w, c.toNat < 128)
    (hlast : isLowercase last =
      (v.getLast?.any Char.isAlpha && !(capital && v.length == 1))) :
    joinRest (some last) ws =
      (ws.mapIdx fun j w => wordForm (opensCapital capital (v :: ws) j) w).flatten := by
  induction ws generalizing capital last v with
  | nil => rfl
  | cons w ws ih =>
    rw [List.forall_mem_cons] at hne hw ha
    obtain ⟨c, cs, rfl⟩ := List.exists_cons_of_ne_nil hne.1
    have hparts := List.forall_mem_cons.1 hw.1
    have hascii := List.forall_mem_cons.1 ha.1
    have hopens : opensHump (some last) (c :: cs) =
        opensCapital capital (v :: (c :: cs) :: ws) 0 := by
      rw [opensHump_of_ascii ha.1, hlast, opensCapital_zero]
    have hform := initialForm_of_ascii hascii.1 (opensHump (some last) (c :: cs))
    -- a word of one character begins with a small letter, so its end is small if it is a letter
    have hnext : isLowercase ((cs.map Char.toLower).getLast?.getD
        (letterForm (opensHump (some last) (c :: cs)) c)) =
          ((c :: cs).getLast?.any Char.isAlpha && !(false && (c :: cs).length == 1)) := by
      rw [isLowercase_last ha.1]
      cases cs with
      | nil => rw [opensHump_of_ascii ha.1, List.getElem?_cons_succ, List.getElem?_nil,
          Option.any_none, Bool.and_false]
      | cons d ds => simp
    rw [joinRest_cons hparts.1 hform, camelTail, recaseTail_eq_map hparts.2 hascii.2,
      lastWritten_some, ih hne.2 hw.2 ha.2 hnext, List.mapIdx_cons, List.flatten_cons, ← hopens]
    simp only [opensCapital_succ]
    rfl

/-- A word of which no character but the first one can be a capital. -/
theorem mapIdx_eq_wordForm {f : Nat → Bool} (hf : ∀ i, f (i + 1) = false) :
    (w.mapIdx fun i c => letterForm (f i) c) = wordForm (f 0) w := by
  cases w with
  | nil => rfl
  | cons c cs =>
    have hsmall : (cs.mapIdx fun i d => letterForm (f (i + 1)) d) = cs.map Char.toLower :=
      List.ext_getElem (by simp) (by simp [letterForm, hf])
    rw [List.mapIdx_cons, hsmall]
    rfl

/-- A lone word as the rule has it. -/
theorem spellCamel_singleton :
    spellCamel capital [c :: cs] =
      letterForm capital c ::
        cs.mapIdx fun i d => letterForm (staysCapital capital (c :: cs) i) d := by
  simp [spellCamel, isCapital, List.mapIdx_cons]

/-- Several words as the rule has them. -/
theorem spellCamel_cons_cons :
    spellCamel capital (v :: w :: ws) =
      wordForm capital v ++ ((w :: ws).mapIdx fun j u =>
        wordForm (opensCapital capital (v :: w :: ws) j) u).flatten := by
  have hfirst : (v.mapIdx fun i c => letterForm (isCapital capital (v :: w :: ws) 0 i) c) =
      wordForm capital v := mapIdx_eq_wordForm fun _ => rfl
  have hrest (j : Nat) (u : Text) :
      (u.mapIdx fun i c => letterForm (isCapital capital (v :: w :: ws) (j + 1) i) c) =
        wordForm (opensCapital capital (v :: w :: ws) j) u := mapIdx_eq_wordForm fun _ => rfl
  rw [spellCamel, List.mapIdx_cons, List.flatten_cons, hfirst]
  simp only [hrest]

/-- Words of ASCII characters in camel case have their capitals where the rule says. -/
theorem joinCamel_eq_spellCamel (h : AsciiWords ws) :
    joinCamel capital ws = spellCamel capital ws := by
  cases ws with
  | nil => rfl
  | cons w ws =>
    obtain ⟨c, cs, rfl, hc⟩ := h.exists_first
    have hparts : ∀ d ∈ cs, isWordPart d = true := fun d hd => h.parts _ (.head _) d (.tail _ hd)
    have hfirst := h.ascii _ (.head _)
    have hascii := List.forall_mem_cons.1 hfirst
    rw [joinCamel_cons hc (initialForm_of_ascii hascii.1 capital), camelTail]
    cases ws with
    | nil =>
      rw [spellCamel_singleton, ← recaseTail_eq_mapIdx hparts hascii.2
        fun _ => isLowercase_letterForm hascii.1 capital]
      exact congrArg _ (List.append_nil _)
    | cons v vs =>
      rw [List.isEmpty_cons, recaseTail_eq_map hparts hascii.2, lastWritten_some,
        spellCamel_cons_cons,
        joinRest_eq_mapIdx (fun w hw => h.ne_nil w (.tail _ hw))
          (fun w hw => h.parts w (.tail _ hw)) (fun w hw => h.ascii w (.tail _ hw))
          (isLowercase_last hfirst)]
      rfl

end

/-! ## Conventions -/

/-- A text of ASCII characters with words is normalized to a name in camel case that has its words
one after the other, with capitals where the rule says; the name is escaped if it is a reserved
word. -/
theorem assemble_eq_spellCamel {t : Text} (ht : ∀ c ∈ t, c.toNat < 128) (hw : words t ≠ []) :
    ∀ convention ∈ [Convention.camelCase, .methodName, .variableName],
      convention.assemble (words t) = spellCamel (convention == .camelCase) (words t) ∧
        normalize convention t =
          .ok ⟨escape (spellCamel (convention == .camelCase) (words t))⟩ := by
  intro convention hconvention
  have hjoin (capital : Bool) : joinCamel capital (words t) = spellCamel capital (words t) :=
    joinCamel_eq_spellCamel (asciiWords_words ht)
  have hassemble : convention.assemble (words t) =
      spellCamel (convention == .camelCase) (words t) := by
    simp only [List.mem_cons, List.not_mem_nil, or_false] at hconvention
    rcases hconvention with rfl | rfl | rfl
    · exact hjoin true
    · exact hjoin false
    · exact hjoin false
  refine ⟨hassemble, ?_⟩
  rw [normalize_of_words_ne_nil hw, hassemble]

/-- The capital after the first character is kept only if the name begins with a small letter, and
the one at the end is lost in any case. -/
theorem normalize_tEsTtEsTtEsT :
    normalize .camelCase "tEsTtEsTtEsT".toList = .ok ⟨"TesTtEsTtEst".toList⟩ ∧
      normalize .methodName "tEsTtEsTtEsT".toList = .ok ⟨"tEsTtEsTtEst".toList⟩ := by
  have hascii : "tEsTtEsTtEsT".toList.all (fun c => decide (c.toNat < 128)) = true := by
    decide +kernel
  have hw : words "tEsTtEsTtEsT".toList ≠ [] := by decide +kernel
  have h := assemble_eq_spellCamel
    (fun c hc => of_decide_eq_true (List.all_eq_true.1 hascii c hc)) hw
  have hcamel := (h .camelCase (by decide)).2
  have hmethod := (h .methodName (by decide)).2
  have hspelled : spellCamel true (words "tEsTtEsTtEsT".toList) = "TesTtEsTtEst".toList ∧
      spellCamel false (words "tEsTtEsTtEsT".toList) = "tEsTtEsTtEst".toList := by
    decide +kernel
  rw [hcamel, hmethod]
  show Except.ok (⟨escape (spellCamel true _)⟩ : Identifier) = _ ∧
    Except.ok (⟨escape (spellCamel false _)⟩ : Identifier) = _
  rw [hspelled.1, hspelled.2]
  decide +kernel

end JavaNames
