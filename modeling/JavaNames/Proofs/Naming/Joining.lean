import JavaNames.Naming.Normalize
import JavaNames.Proofs.Naming.Words
import JavaNames.Proofs.Unicode.CaseForms

/-!
# Joined words

The text that a convention assembles from a word list is again a text of words (`snake`): of the
recased parts if they are joined with underscores (`recased`), and of one word if they are joined in
camel case. In the recased parts every character is its own form, and in camel case the first one
is; so recasing them another time changes nothing there.

Nothing is used of the case mappings but what `CaseMapping` lists: what can be written of a form has
a letter where the mapped character was one, and no underscore.
-/

namespace JavaNames

open Unicode (CaseMapping)

/-! ## What can be written -/

section
variable {continued : Bool} {t : Text} {c d : Char}

/-- What is written of a text can continue an identifier. -/
theorem of_mem_writable (h : d ∈ writable continued t) : d ∈ t ∧ isIdentifierPart d = true := by
  rw [writable, List.mem_filter] at h
  refine ⟨?_, h.2⟩
  cases continued with
  | true => exact h.1
  | false => exact (List.dropWhile_suffix _).mem h.1

/-- After other text, the characters that can continue an identifier are written. -/
theorem mem_writable_true (h : d ∈ t) (hd : isIdentifierPart d = true) : d ∈ writable true t :=
  List.mem_filter.2 ⟨h, hd⟩

/-- At the beginning, the first written character can begin an identifier. -/
theorem writable_false_cases (h : ∃ d ∈ t, isIdentifierStart d = true) :
    ∃ d ds, writable false t = d :: ds ∧ isIdentifierStart d = true := by
  obtain ⟨e, he, hstart⟩ := h
  cases ht : t.dropWhile fun c => !isIdentifierStart c with
  | nil =>
    have hnone := List.dropWhile_eq_nil_iff.1 ht e he
    rw [hstart] at hnone
    cases hnone
  | cons d ds =>
    have hd : isIdentifierStart d = true := eq_true_of_dropWhile_eq_cons ht
    refine ⟨d, ds.filter isIdentifierPart, ?_, hd⟩
    show (t.dropWhile fun c => !isIdentifierStart c).filter isIdentifierPart = _
    rw [ht, List.filter_cons_of_pos (isIdentifierPart_of_start hd)]

/-- A text is written as it is if all of it can continue an identifier and, at the beginning, its
first character can begin one. -/
theorem writable_eq_self (hparts : ∀ c ∈ t, isIdentifierPart c = true)
    (hstart : continued = false → ∀ c ∈ t.head?, isIdentifierStart c = true) :
    writable continued t = t := by
  have hfilter : t.filter isIdentifierPart = t := List.filter_eq_self.2 hparts
  cases continued with
  | true => exact hfilter
  | false =>
    cases t with
    | nil => rfl
    | cons c cs =>
      show ((c :: cs).dropWhile fun c => !isIdentifierStart c).filter isIdentifierPart = _
      rw [List.dropWhile_cons_of_neg (by simp [hstart rfl c rfl]), hfilter]

end

/-! ## Forms of characters -/

/-- An underscore is no letter. -/
@[simp] theorem isAlphabetic_underscore : Unicode.isAlphabetic '_' = false := by decide +kernel

/-- A dollar sign is no letter. -/
@[simp] theorem isAlphabetic_dollar : Unicode.isAlphabetic '$' = false := by decide +kernel

/-- The first word of a text begins with a letter or a dollar sign. -/
theorem isWordStart_iff {c : Char} :
    isWordStart c = true ↔ Unicode.isAlphabetic c = true ∨ c = '$' := by
  rw [isWordStart, isIdentifierStart]
  simp only [Bool.and_eq_true, Bool.or_eq_true, beq_iff_eq, bne_iff_ne]
  constructor
  · rintro ⟨(h | rfl) | rfl, hne⟩
    · exact .inl h
    · exact .inr rfl
    · exact absurd rfl hne
  · rintro (h | rfl)
    · refine ⟨.inl (.inl h), ?_⟩
      rintro rfl
      rw [isAlphabetic_underscore] at h
      cases h
    · exact ⟨.inl (.inr rfl), by decide⟩

namespace Unicode.CaseMapping
variable {form : Char → Text} (hm : CaseMapping form) {c d : Char}
include hm

/-- What is written of the form of a part of a word is part of a word. -/
theorem isWordPart_of_mem (hc : isWordPart c = true) (hd : d ∈ form c)
    (hpart : isIdentifierPart d = true) : isWordPart d = true := by
  rw [isWordPart, hpart, Bool.true_and, bne_iff_ne]
  rintro rfl
  rw [hm.underscore hd, isWordPart_underscore] at hc
  cases hc

/-- The form of a character that begins a name has such a character. -/
theorem exists_isWordStart (hc : isWordStart c = true) : ∃ d ∈ form c, isWordStart d = true := by
  rcases isWordStart_iff.1 hc with h | rfl
  · obtain ⟨d, hd, hletter⟩ := hm.letter h
    exact ⟨d, hd, isWordStart_iff.2 (.inl hletter)⟩
  · rw [hm.caseless isAlphabetic_dollar]
    exact ⟨_, .head _, hc⟩

/-- The form of a part of a word has a part of a word. -/
theorem exists_isWordPart (hc : isWordPart c = true) : ∃ d ∈ form c, isWordPart d = true := by
  cases h : Unicode.isAlphabetic c with
  | true =>
    obtain ⟨d, hd, hstart⟩ := hm.exists_isWordStart (isWordStart_iff.2 (.inl h))
    exact ⟨d, hd, isWordPart_of_isWordStart hstart⟩
  | false =>
    rw [hm.caseless h]
    exact ⟨c, .head _, hc⟩

/-- After other text, the form of a part of a word is written from one of its characters on. -/
theorem writable_true_cons (hc : isWordPart c = true) :
    ∃ d ds, writable true (form c) = d :: ds ∧ d ∈ form c := by
  obtain ⟨e, he, hpart⟩ := hm.exists_isWordPart hc
  have hmem : e ∈ writable true (form c) :=
    mem_writable_true he (isIdentifierPart_of_isWordPart hpart)
  obtain ⟨d, ds, hd⟩ := List.exists_cons_of_ne_nil (List.ne_nil_of_mem hmem)
  exact ⟨d, ds, hd, (of_mem_writable (hd ▸ List.mem_cons_self)).1⟩

/-- What is written of a recased text is settled. -/
theorem settled_of_mem_writable {continued : Bool} {t : Text}
    (h : d ∈ writable continued (t.flatMap form)) : form d = [d] := by
  obtain ⟨c, -, hd⟩ := List.mem_flatMap.1 (of_mem_writable h).1
  exact hm.settled hd

/-- What is written of a recased word can be part of a word. -/
theorem parts_writable {continued : Bool} {w : Text} (hw : ∀ c ∈ w, isWordPart c = true) :
    ∀ d ∈ writable continued (w.flatMap form), isWordPart d = true := by
  intro d hd
  obtain ⟨hmem, hpart⟩ := of_mem_writable hd
  obtain ⟨c, hc, hd⟩ := List.mem_flatMap.1 hmem
  exact hm.isWordPart_of_mem (hw c hc) hd hpart

/-- Something is written of every recased word after other text. -/
theorem writable_true_ne_nil {w : Text} (hne : w ≠ []) (hw : ∀ c ∈ w, isWordPart c = true) :
    writable true (w.flatMap form) ≠ [] := by
  obtain ⟨c, cs, rfl⟩ := List.exists_cons_of_ne_nil hne
  obtain ⟨d, hd, hpart⟩ := hm.exists_isWordPart (hw c (.head _))
  refine List.ne_nil_of_mem (a := d) (mem_writable_true ?_ (isIdentifierPart_of_isWordPart hpart))
  exact List.mem_flatMap.2 ⟨c, .head _, hd⟩

/-- What is written of a recased word at the beginning begins a name if the word does. -/
theorem writable_false_cons {cs : Text} (hc : isWordStart c = true)
    (hw : ∀ d ∈ cs, isWordPart d = true) :
    ∃ d ds, writable false ((c :: cs).flatMap form) = d :: ds ∧ isWordStart d = true := by
  obtain ⟨e, he, hstart⟩ := hm.exists_isWordStart hc
  obtain ⟨d, ds, heq, hd⟩ := writable_false_cases
    ⟨e, List.mem_flatMap.2 ⟨c, .head _, he⟩, isIdentifierStart_of_isWordStart hstart⟩
  refine ⟨d, ds, heq, ?_⟩
  have hmem : d ∈ writable false ((c :: cs).flatMap form) := heq ▸ List.mem_cons_self
  have hpart := hm.parts_writable
    (List.forall_mem_cons.2 ⟨isWordPart_of_isWordStart hc, hw⟩) d hmem
  rw [isWordPart, Bool.and_eq_true] at hpart
  rw [isWordStart, hd, hpart.2]
  rfl

end Unicode.CaseMapping

/-! ## Joining with underscores -/

/-- The recased parts: what is written of the form of each. -/
def recased (form : Char → Text) : List Text → List Text
  | [] => []
  | w :: ws => writable false (w.flatMap form) :: ws.map fun v => writable true (v.flatMap form)

section
variable {form : Char → Text} {ws : List Text}

/-- Parts have recased parts. -/
theorem recased_ne_nil (hne : ws ≠ []) : recased form ws ≠ [] := by
  obtain ⟨w, vs, rfl⟩ := List.exists_cons_of_ne_nil hne
  exact List.cons_ne_nil _ _

/-- Recasing changes nothing about words of characters that are their own forms. -/
theorem recased_eq_self (h : WordList ws) (hs : ∀ w ∈ ws, ∀ c ∈ w, form c = [c]) :
    recased form ws = ws := by
  have hform : ∀ w ∈ ws, w.flatMap form = w := fun w hw => List.flatMap_eq_self (hs w hw)
  have hparts : ∀ w ∈ ws, ∀ c ∈ w, isIdentifierPart c = true := fun w hw c hc =>
    isIdentifierPart_of_isWordPart (h.parts w hw c hc)
  cases ws with
  | nil => rfl
  | cons w vs =>
    have hfirst : writable false (w.flatMap form) = w := by
      rw [hform w (.head _)]
      refine writable_eq_self (hparts w (.head _)) fun _ c hc => ?_
      refine isIdentifierStart_of_isWordStart (h.start c ?_)
      rw [List.flatten_cons, List.head?_append, Option.mem_def.1 hc]
      rfl
    have hrest : (vs.map fun v => writable true (v.flatMap form)) = vs := by
      refine (List.map_congr_left fun v hv => ?_).trans (List.map_id vs)
      rw [hform v (.tail _ hv)]
      exact writable_eq_self (hparts v (.tail _ hv)) (by simp)
    rw [recased, hfirst, hrest]

variable (hm : CaseMapping form)
include hm

/-- Every character of a recased part is its own form. -/
theorem settled_of_mem_recased {w : Text} (hw : w ∈ recased form ws)
    {c : Char} (hc : c ∈ w) : form c = [c] := by
  cases ws with
  | nil => cases hw
  | cons v vs =>
    rcases List.mem_cons.1 hw with rfl | hw
    · exact hm.settled_of_mem_writable hc
    · obtain ⟨u, -, rfl⟩ := List.mem_map.1 hw
      exact hm.settled_of_mem_writable hc

/-- What is written of the recased first part begins a name. -/
theorem WordList.writable_first {w : Text} {vs : List Text} (h : WordList (w :: vs)) :
    ∃ d ds, writable false (w.flatMap form) = d :: ds ∧ isWordStart d = true := by
  obtain ⟨c, cs, rfl, hc⟩ := h.exists_first
  exact hm.writable_false_cons hc fun d hd => h.parts _ (.head _) d (.tail _ hd)

/-- The recased parts of a word list form a word list. -/
theorem WordList.recased (h : WordList ws) : WordList (recased form ws) := by
  cases ws with
  | nil => exact h
  | cons w vs =>
    obtain ⟨d, ds, hd, hstart⟩ := h.writable_first hm
    refine ⟨?_, ?_, ?_⟩
    · rw [JavaNames.recased, List.forall_mem_cons, List.forall_mem_map]
      refine ⟨hd ▸ List.cons_ne_nil _ _, fun v hv => ?_⟩
      exact hm.writable_true_ne_nil (h.ne_nil v (.tail _ hv)) (h.parts v (.tail _ hv))
    · rw [JavaNames.recased, List.forall_mem_cons, List.forall_mem_map]
      exact ⟨hm.parts_writable (h.parts _ (.head _)),
        fun v hv => hm.parts_writable (h.parts v (.tail _ hv))⟩
    · intro e he
      rw [JavaNames.recased, List.flatten_cons, hd] at he
      obtain rfl := Option.some.inj he
      exact hstart

/-- After other text, an underscore and the recased form are written for each part. -/
theorem joinSnake_true (hne : ∀ w ∈ ws, w ≠ []) (hparts : ∀ w ∈ ws, ∀ c ∈ w, isWordPart c = true) :
    joinSnake form true ws =
      (ws.map fun v => writable true (v.flatMap form)).flatMap ('_' :: ·) := by
  induction ws with
  | nil => rfl
  | cons w vs ih =>
    rw [List.forall_mem_cons] at hne hparts
    rw [joinSnake, ih hne.2 hparts.2, List.map_cons, List.flatMap_cons]
    split
    · next heq => exact absurd heq (hm.writable_true_ne_nil hne.1 hparts.1)
    · next d ds heq =>
      rw [heq]
      rfl

/-- Joining with underscores gives the text of the recased parts. -/
theorem joinSnake_eq_snake (h : WordList ws) :
    joinSnake form false ws = snake (recased form ws) := by
  cases ws with
  | nil => rfl
  | cons w vs =>
    obtain ⟨d, ds, hd, -⟩ := h.writable_first hm
    have hrest := joinSnake_true hm (fun v hv => h.ne_nil v (.tail _ hv))
      fun v hv => h.parts v (.tail _ hv)
    rw [joinSnake, hd, hrest, recased, snake, hd]
    rfl

end

/-! ## Joining in camel case -/

section
variable {keepHumps capital : Bool} {last : Option Char} {w : Text} {ws : List Text}

/-- The form in which the first character of a word is written. -/
def initialForm (capital : Bool) (c : Char) : Text :=
  if capital then Unicode.toUpper c else Unicode.toLower c

/-- Taking the initial form is a case mapping. -/
theorem caseMapping_initialForm (capital : Bool) : CaseMapping (initialForm capital) := by
  cases capital with
  | true => exact Unicode.caseMapping_toUpper
  | false => exact Unicode.caseMapping_toLower

/-- A character is a form of another one: itself, or one of those that the case mappings give. -/
def IsForm (c d : Char) : Prop :=
  d = c ∨ d ∈ Unicode.toLower c ∨ d ∈ Unicode.toUpper c

/-- A form of a part of a word is part of a word if it can be written. -/
theorem isWordPart_of_isForm (c d : Char) (hc : isWordPart c = true) (hd : IsForm c d)
    (hpart : isIdentifierPart d = true) : isWordPart d = true := by
  rcases hd with rfl | hd | hd
  · exact hc
  · exact Unicode.caseMapping_toLower.isWordPart_of_mem hc hd hpart
  · exact Unicode.caseMapping_toUpper.isWordPart_of_mem hc hd hpart

section
variable {P : Char → Prop} (hP : ∀ c d, P c → IsForm c d → isIdentifierPart d = true → P d)
include hP

/-- What holds of the characters of the rest of a word, and of what can be written of their forms,
holds of what is written. -/
theorem forall_mem_recaseTail (h : ∀ c ∈ w, P c) : ∀ d ∈ recaseTail keepHumps last w, P d := by
  induction w generalizing last with
  | nil => exact List.forall_mem_nil _
  | cons c cs ih =>
    rw [List.forall_mem_cons] at h
    rw [recaseTail, List.forall_mem_append]
    refine ⟨fun d hd => ?_, ih h.2⟩
    split at hd
    · obtain rfl := List.mem_singleton.1 hd
      exact h.1
    · obtain ⟨hmem, hpart⟩ := of_mem_writable hd
      exact hP c d h.1 (.inr (.inl hmem)) hpart

/-- The same of a word. -/
theorem forall_mem_recaseWord (h : ∀ c ∈ w, P c) :
    ∀ d ∈ recaseWord keepHumps capital last w, P d := by
  cases w with
  | nil => exact List.forall_mem_nil _
  | cons c cs =>
    rw [List.forall_mem_cons] at h
    refine List.forall_mem_append.2 ⟨fun d hd => ?_, forall_mem_recaseTail hP h.2⟩
    obtain ⟨hmem, hpart⟩ := of_mem_writable hd
    refine hP c d h.1 (.inr ?_) hpart
    cases capital with
    | true => exact .inr hmem
    | false => exact .inl hmem

/-- The same of the words after the first one. -/
theorem forall_mem_joinRest (h : ∀ w ∈ ws, ∀ c ∈ w, P c) : ∀ d ∈ joinRest last ws, P d := by
  induction ws generalizing last with
  | nil => exact List.forall_mem_nil _
  | cons w ws ih =>
    rw [List.forall_mem_cons] at h
    exact List.forall_mem_append.2 ⟨forall_mem_recaseWord hP h.1, ih h.2⟩

/-- The same of words in camel case. -/
theorem forall_mem_joinCamel (h : ∀ w ∈ ws, ∀ c ∈ w, P c) : ∀ d ∈ joinCamel capital ws, P d := by
  cases ws with
  | nil => exact List.forall_mem_nil _
  | cons w ws =>
    rw [List.forall_mem_cons] at h
    exact List.forall_mem_append.2 ⟨forall_mem_recaseWord hP h.1, forall_mem_joinRest hP h.2⟩

end

/-- What is written at the beginning is the initial form of a character that begins a name. -/
theorem recaseWord_none_cases (keepHumps capital : Bool) {c : Char} (cs : Text)
    (hc : isWordStart c = true) :
    ∃ d ds, recaseWord keepHumps capital none (c :: cs) = d :: ds ∧ isWordStart d = true ∧
      initialForm capital d = [d] := by
  have hm := caseMapping_initialForm capital
  obtain ⟨d, ds, hd, hstart⟩ := hm.writable_false_cons hc (List.forall_mem_nil _)
  have hsettled := hm.settled_of_mem_writable (hd ▸ List.mem_cons_self)
  rw [List.flatMap_singleton] at hd
  refine ⟨d, ds ++ recaseTail keepHumps (lastWritten none (d :: ds)) cs, ?_, hstart, hsettled⟩
  rw [← List.cons_append, ← hd]
  rfl

/-- A word list in camel case is one word. Its first character is its own initial form. -/
theorem joinCamel_cases (capital : Bool) (h : WordList ws) (hne : ws ≠ []) :
    ∃ d ds, joinCamel capital ws = d :: ds ∧ WordList [d :: ds] ∧ initialForm capital d = [d] := by
  obtain ⟨w, vs, rfl⟩ := List.exists_cons_of_ne_nil hne
  obtain ⟨c, cs, rfl, hc⟩ := h.exists_first
  have hparts : ∀ d ∈ joinCamel capital ((c :: cs) :: vs), isWordPart d = true :=
    forall_mem_joinCamel isWordPart_of_isForm h.parts
  obtain ⟨d, ds, hd, hstart, hform⟩ := recaseWord_none_cases vs.isEmpty capital cs hc
  rw [joinCamel, hd, List.cons_append] at hparts ⊢
  refine ⟨d, _, rfl, ⟨?_, ?_, ?_⟩, hform⟩
  · simp
  · simpa using hparts
  · intro e he
    obtain rfl := Option.some.inj he
    exact hstart

end

/-! ## Conventions -/

namespace Convention

/-- The words of the text that a convention assembles from words. -/
def parts (convention : Convention) (ws : List Text) : List Text :=
  match convention with
  | .camelCase => [joinCamel true ws]
  | .methodName | .variableName => [joinCamel false ws]
  | .upperCase | .constantName => recased Unicode.toUpper (ws.flatMap humps)
  | .lowerCase => recased Unicode.toLower (ws.flatMap humps)

variable (convention : Convention) {ws : List Text} (h : WordList ws) (hne : ws ≠ [])
include h

/-- What a convention assembles is the text of its parts. -/
theorem assemble_eq_snake : convention.assemble ws = snake (convention.parts ws) := by
  have hcamel : ∀ capital, joinCamel capital ws = snake [joinCamel capital ws] := by
    intro capital
    rw [snake, List.flatMap_nil, List.append_nil]
  cases convention with
  | camelCase => exact hcamel true
  | methodName | variableName => exact hcamel false
  | upperCase | constantName => exact joinSnake_eq_snake Unicode.caseMapping_toUpper h.flatMap_humps
  | lowerCase => exact joinSnake_eq_snake Unicode.caseMapping_toLower h.flatMap_humps

include hne

/-- The parts of what is assembled from words form a word list. -/
theorem wordList_parts : WordList (convention.parts ws) := by
  have hcamel : ∀ capital, WordList [joinCamel capital ws] := by
    intro capital
    obtain ⟨d, ds, heq, hword, -⟩ := joinCamel_cases capital h hne
    rw [heq]
    exact hword
  cases convention with
  | camelCase => exact hcamel true
  | methodName | variableName => exact hcamel false
  | upperCase | constantName => exact h.flatMap_humps.recased Unicode.caseMapping_toUpper
  | lowerCase => exact h.flatMap_humps.recased Unicode.caseMapping_toLower

/-- Something is assembled from words. -/
theorem parts_ne_nil : convention.parts ws ≠ [] := by
  have hhumps := h.flatMap_humps_ne_nil hne
  cases convention with
  | camelCase | methodName | variableName => exact List.cons_ne_nil _ _
  | upperCase | constantName | lowerCase => exact recased_ne_nil hhumps

/-- What is assembled from words is spelled like an identifier. -/
theorem hasIdentifierShape_assemble : hasIdentifierShape (convention.assemble ws) = true := by
  rw [convention.assemble_eq_snake h]
  exact (convention.wordList_parts h hne).hasIdentifierShape_snake (convention.parts_ne_nil h hne)

end Convention

end JavaNames
