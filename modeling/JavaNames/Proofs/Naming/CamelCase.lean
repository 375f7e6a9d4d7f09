import JavaNames.Proofs.Naming.Idempotence

/-!
# From small camel case to capital camel case

A name in camel case that begins with a small letter becomes the one that begins with a capital by
normalizing it again, as if the words it is made of were normalized (`joinCamel_joinCamel`). The two
names differ in their first character, and perhaps in the second one: after a small letter it may be
a capital, and after a capital it is small, so `xTest` becomes `Xtest`, which is what `x test`
becomes. From there on the two are the same, since what is written depends on nothing but the last
character before it.

This is shown of texts of `Simple` characters, whose two forms are single characters and forms of
each other. The characters of ASCII are simple.
-/

namespace JavaNames

open Unicode (isLowercase isUppercase toLower toUpper)

/-! ## Simple characters -/

/-- A plain character with one form of each case, which have each other as forms. -/
structure Simple (c : Char) : Prop extends Plain c where
  /-- The forms are single characters and forms of each other. -/
  pair : ∃ l u, toLower c = [l] ∧ toUpper c = [u] ∧ toUpper l = [u] ∧ toLower u = [l]

/-- Whether a character is simple, by its forms. -/
def isSimple (c : Char) : Bool :=
  isPlain c &&
    match toLower c, toUpper c with
    | [l], [u] => toUpper l == [u] && toLower u == [l]
    | _, _ => false

/-- A character that passes the check is simple. -/
theorem simple_of_isSimple {c : Char} (h : isSimple c = true) : Simple c := by
  rw [isSimple, Bool.and_eq_true] at h
  refine ⟨isPlain_iff.1 h.1, ?_⟩
  have hpair := h.2
  split at hpair
  · next l u hl hu =>
    rw [Bool.and_eq_true, beq_iff_eq, beq_iff_eq] at hpair
    exact ⟨l, u, hl, hu, hpair.1, hpair.2⟩
  · cases hpair

/-- The characters of ASCII are simple. -/
theorem simple_of_ascii {c : Char} (h : c.toNat < 128) : Simple c :=
  simple_of_isSimple (Char.of_ascii (by decide +kernel) h)

/-- A lower-case form is its own one. -/
theorem toLower_of_toLower_eq {c l : Char} (h : toLower c = [l]) : toLower l = [l] :=
  Unicode.caseMapping_toLower.settled (h ▸ List.mem_cons_self)

/-- The forms of a simple character are simple. -/
theorem Simple.of_isForm {c d : Char} (h : Simple c) (hd : IsForm c d) : Simple d := by
  obtain ⟨l, u, hl, hu, hlu, hul⟩ := h.pair
  have hll := toLower_of_toLower_eq hl
  have huu : toUpper u = [u] := Unicode.caseMapping_toUpper.settled (hu ▸ List.mem_cons_self)
  have hcapital := h.upper u (hu ▸ List.mem_cons_self)
  have hsmall := h.lower l (hl ▸ List.mem_cons_self)
  rcases hd with rfl | hd | hd
  · exact h
  · obtain rfl : d = l := List.mem_singleton.1 (hl ▸ hd)
    refine ⟨⟨?_, fun _ => hll, ?_, ?_⟩, d, u, hll, hlu, hlu, hul⟩
    · simpa [hll] using hsmall
    · simp [hlu]
    · simpa [hlu] using hcapital
  · obtain rfl : d = u := List.mem_singleton.1 (hu ▸ hd)
    refine ⟨⟨?_, fun hlower => ?_, ?_, ?_⟩, l, d, hul, huu, hlu, hul⟩
    · simpa [hul] using hsmall
    · rw [hcapital.1] at hlower
      cases hlower
    · simp [huu]
    · simpa [huu] using hcapital

/-! ## What is written of simple characters -/

/-- A text with its first character in its lower-case form. -/
def lowerFirst : Text → Text
  | [] => []
  | c :: cs => toLower c ++ cs

section
variable {keepHumps capital : Bool} {last : Option Char} {a b c l : Char} {cs w : Text}
  {ws : List Text}

/-- A first character with one lower-case form becomes this form. -/
theorem lowerFirst_cons (h : toLower c = [l]) : lowerFirst (c :: cs) = l :: cs := by
  rw [lowerFirst, h]
  rfl

/-- Of a single character it is written, if anything is. -/
theorem writable_singleton {continued : Bool} (h : writable continued [l] ≠ []) :
    writable continued [l] = [l] := by
  obtain ⟨d, ds, hd⟩ := List.exists_cons_of_ne_nil h
  have hmem := (of_mem_writable (hd ▸ List.mem_cons_self : d ∈ writable continued [l])).1
  have hlength := length_writable_le continued [l]
  rw [hd] at hlength ⊢
  obtain rfl : ds = [] := List.length_eq_zero_iff.1 (by simpa using hlength)
  rw [List.mem_singleton.1 hmem]

/-- Of a part of a word with one form, this form is written after other text. -/
theorem writable_true_of_form {form : Char → Text} (hm : Unicode.CaseMapping form)
    (hc : isWordPart c = true) (hform : form c = [l]) : writable true (form c) = [l] := by
  obtain ⟨d, ds, hd, -⟩ := hm.writable_true_cons hc
  rw [hform] at hd ⊢
  exact writable_singleton (hd ▸ List.cons_ne_nil _ _)

/-- Of a character that begins a name and has one form, this form is written at the beginning. -/
theorem writable_false_of_form {form : Char → Text} (hm : Unicode.CaseMapping form)
    (hc : isWordStart c = true) (hform : form c = [l]) : writable false (form c) = [l] := by
  obtain ⟨d, ds, hd, -⟩ := hm.writable_false_cons hc (List.forall_mem_nil _)
  rw [List.flatMap_singleton] at hd
  rw [hform] at hd ⊢
  exact writable_singleton (hd ▸ List.cons_ne_nil _ _)

/-! ## After a capital -/

/-- After a character that is no small letter, the rest of a word is written as after any other one,
but with its first character in small letters. -/
theorem recaseTail_true_eq_lowerFirst (hw : ∀ c ∈ w, isWordPart c = true) (hs : ∀ c ∈ w, Simple c)
    (ha : isLowercase a = false) (b : Char) :
    recaseTail true (some a) w = lowerFirst (recaseTail true (some b) w) := by
  cases w with
  | nil => rfl
  | cons c cs =>
    rw [List.forall_mem_cons] at hw hs
    obtain ⟨l, u, hl, -⟩ := hs.1.pair
    have hsmall (last : Char) : writable (some last).isSome (toLower c) = [l] :=
      writable_true_of_form Unicode.caseMapping_toLower hw.1 hl
    have hleft : recaseTail true (some a) (c :: cs) = l :: recaseTail true (some l) cs := by
      rw [recaseTail, hsmall]
      simp [afterSmall, ha, lastWritten]
    rw [hleft, recaseTail]
    split
    · next hcapital =>
      -- the capital is followed by a small letter, which is written as it is after both forms
      simp only [Bool.and_eq_true] at hcapital
      obtain ⟨n, ns, rfl, hn⟩ : ∃ n ns, cs = n :: ns ∧ isLowercase n = true := by
        cases cs with
        | nil => cases hcapital.2
        | cons n ns => exact ⟨n, ns, rfl, hcapital.2⟩
      have hnext (last : Char) :
          recaseTail true (some last) (n :: ns) = n :: recaseTail true (some n) ns :=
        recaseTail_of_small (hw.2 n (.head _)) (hs.2 n (.head _)).toPlain hn
      show _ = lowerFirst (c :: recaseTail true (some c) (n :: ns))
      rw [lowerFirst_cons hl, hnext, hnext]
    · rw [hsmall]
      exact (lowerFirst_cons (toLower_of_toLower_eq hl)).symm

/-- Without humps, what is written of the rest of a word does not depend on the character before it,
and begins with a character in its lower-case form. -/
theorem exists_recaseTail_false (hne : w ≠ []) (hw : ∀ c ∈ w, isWordPart c = true) :
    ∃ d ds, toLower d = [d] ∧ ∀ last, recaseTail false (some last) w = d :: ds := by
  obtain ⟨c, cs, rfl⟩ := List.exists_cons_of_ne_nil hne
  obtain ⟨d, ds, hd, hmem⟩ := Unicode.caseMapping_toLower.writable_true_cons (hw c (.head _))
  refine ⟨d, ds ++ recaseTail false (some (ds.getLast?.getD d)) cs,
    Unicode.caseMapping_toLower.settled hmem, fun last => ?_⟩
  show writable true (toLower c) ++
    recaseTail false (lastWritten (some last) (writable true (toLower c))) cs = _
  rw [hd, lastWritten, List.getLast?_cons]
  rfl

/-! ## Words after a first character -/

/-- What is written of words after their first character, which has been written as `x`. -/
def camelTail (keepHumps : Bool) (x : Char) (cs : Text) (ws : List Text) : Text :=
  recaseTail keepHumps (some x) cs ++
    joinRest (lastWritten (some x) (recaseTail keepHumps (some x) cs)) ws

@[simp] theorem lastWritten_some (x : Char) (t : Text) :
    lastWritten (some x) t = some (t.getLast?.getD x) := by
  rw [lastWritten]
  cases t.getLast? <;> rfl

/-- A word is written as the form of its first character and the rest of it. -/
theorem recaseWord_of_writable {x : Char}
    (h : writable last.isSome (initialForm capital c) = [x]) :
    recaseWord keepHumps capital last (c :: cs) = x :: recaseTail keepHumps (some x) cs := by
  show writable last.isSome (initialForm capital c) ++
    recaseTail keepHumps (lastWritten last (writable last.isSome (initialForm capital c))) cs = _
  rw [h]
  rfl

/-- A word list in camel case is the initial form of its first character and what follows it. -/
theorem joinCamel_cons {x : Char} (hc : isWordStart c = true)
    (hform : initialForm capital c = [x]) :
    joinCamel capital ((c :: cs) :: ws) = x :: camelTail ws.isEmpty x cs ws := by
  have hwritten := writable_false_of_form (caseMapping_initialForm capital) hc hform
  have hword : recaseWord ws.isEmpty capital none (c :: cs) =
      x :: recaseTail ws.isEmpty (some x) cs := recaseWord_of_writable hwritten
  rw [joinCamel, hword, List.getLast?_cons, camelTail, lastWritten_some]
  rfl

/-- The words after the first one are the initial form of their first character and what follows
it. -/
theorem joinRest_cons {x : Char} (hc : isWordPart c = true)
    (hform : initialForm (opensHump (some a) (c :: cs)) c = [x]) :
    joinRest (some a) ((c :: cs) :: ws) = x :: camelTail false x cs ws := by
  have hwritten := writable_true_of_form (caseMapping_initialForm _) hc hform
  have hword : recaseWord false (opensHump (some a) (c :: cs)) (some a) (c :: cs) =
      x :: recaseTail false (some x) cs := recaseWord_of_writable hwritten
  rw [joinRest, hword, lastWritten_some, List.getLast?_cons, camelTail, lastWritten_some]
  rfl

/-- The words after the first one are written alike after every character if the rest of the word
before them is not empty. -/
theorem exists_camelTail_false (hne : w ≠ []) (hw : ∀ c ∈ w, isWordPart c = true)
    (ws : List Text) : ∃ d ds, toLower d = [d] ∧ ∀ last, camelTail false last w ws = d :: ds := by
  obtain ⟨d, ds, hd, htail⟩ := exists_recaseTail_false hne hw
  refine ⟨d, ds ++ joinRest (some (ds.getLast?.getD d)) ws, hd, fun last => ?_⟩
  rw [camelTail, htail, lastWritten_some, List.getLast?_cons]
  rfl

/-- After a character that is no small letter, the words after the first one are written as after
any other one, but with their first character in small letters. -/
theorem joinRest_eq_lowerFirst (hne : ∀ w ∈ ws, w ≠ [])
    (hw : ∀ w ∈ ws, ∀ c ∈ w, isWordPart c = true) (hs : ∀ w ∈ ws, ∀ c ∈ w, Simple c)
    (ha : isLowercase a = false) (b : Char) :
    joinRest (some a) ws = lowerFirst (joinRest (some b) ws) := by
  cases ws with
  | nil => rfl
  | cons w ws =>
    obtain ⟨c, cs, rfl⟩ := List.exists_cons_of_ne_nil (hne w (.head _))
    have hparts := hw _ (.head _)
    rw [List.forall_mem_cons] at hparts
    obtain ⟨l, u, hl, hu, -, hul⟩ := (hs _ (.head _) c (.head _)).pair
    have hclosed : opensHump (some a) (c :: cs) = false := by simp [opensHump, afterSmall, ha]
    have hleft : joinRest (some a) ((c :: cs) :: ws) = l :: camelTail false l cs ws :=
      joinRest_cons hparts.1 (by rw [hclosed]; exact hl)
    rw [hleft]
    cases hopens : opensHump (some b) (c :: cs) with
    | false =>
      rw [joinRest_cons hparts.1 (by rw [hopens]; exact hl),
        lowerFirst_cons (toLower_of_toLower_eq hl)]
    | true =>
      -- a word that opens a hump has a second character, from which on the texts are the same
      have hcs : cs ≠ [] := by
        rintro rfl
        rw [opensHump, List.tail_cons, List.head?_nil, Option.any_none, Bool.and_false] at hopens
        cases hopens
      obtain ⟨d, ds, -, htail⟩ := exists_camelTail_false hcs hparts.2 ws
      rw [joinRest_cons hparts.1 (by rw [hopens]; exact hu), htail, htail,
        lowerFirst_cons hul]

/-- After a character that is no small letter, a word list goes on as after any other one, but with
the next character in small letters. -/
theorem camelTail_eq_lowerFirst (h : WordList ((c :: cs) :: ws))
    (hs : ∀ w ∈ (c :: cs) :: ws, ∀ c ∈ w, Simple c) (ha : isLowercase a = false) (b : Char) :
    camelTail ws.isEmpty a cs ws = lowerFirst (camelTail ws.isEmpty b cs ws) := by
  have hparts : ∀ d ∈ cs, isWordPart d = true := fun d hd => h.parts _ (.head _) d (.tail _ hd)
  cases ws with
  | nil =>
    have hone (x : Char) : camelTail true x cs [] = recaseTail true (some x) cs :=
      List.append_nil _
    rw [List.isEmpty_nil, hone, hone]
    exact recaseTail_true_eq_lowerFirst hparts (fun d hd => hs _ (.head _) d (.tail _ hd)) ha b
  | cons v vs =>
    by_cases hcs : cs = []
    · subst hcs
      exact joinRest_eq_lowerFirst (fun w hw => h.ne_nil w (.tail _ hw))
        (fun w hw => h.parts w (.tail _ hw)) (fun w hw => hs w (.tail _ hw)) ha b
    · obtain ⟨d, ds, hd, htail⟩ := exists_camelTail_false hcs hparts (v :: vs)
      rw [List.isEmpty_cons, htail, htail, lowerFirst_cons hd]

/-- Words in camel case that begins with a small letter become the words in camel case that begins
with a capital. -/
theorem joinCamel_joinCamel (h : WordList ws) (hs : ∀ w ∈ ws, ∀ c ∈ w, Simple c) :
    joinCamel true [joinCamel false ws] = joinCamel true ws := by
  cases ws with
  | nil => rfl
  | cons w ws =>
    obtain ⟨c, cs, rfl, hc⟩ := h.exists_first
    obtain ⟨l, u, hl, hu, hlu, -⟩ := (hs _ (.head _) c (.head _)).pair
    have hcapital : isLowercase u = false :=
      ((hs _ (.head _) c (.head _)).upper u (hu ▸ List.mem_cons_self)).1
    have hsmall : joinCamel false ((c :: cs) :: ws) = l :: camelTail ws.isEmpty l cs ws :=
      joinCamel_cons hc hl
    have hstands : capitalsStand (joinCamel false ((c :: cs) :: ws)) = true :=
      capitalsStand_joinCamel h.parts fun w hw c hc => (hs w hw c hc).toPlain
    have hforms : ∀ d ∈ joinCamel false ((c :: cs) :: ws), Simple d :=
      forall_mem_joinCamel (fun _ _ hc hd _ => hc.of_isForm hd) hs
    obtain ⟨d, ds, hjoin, hword, -⟩ := joinCamel_cases false h (List.cons_ne_nil _ _)
    obtain ⟨rfl, rfl⟩ := List.cons.inj (hjoin.symm.trans hsmall)
    rw [hjoin] at hstands hforms
    -- after its first character, the name is written again as it is
    have hself : camelTail true d (camelTail ws.isEmpty d cs ws) [] =
        camelTail ws.isEmpty d cs ws := by
      have htail : recaseTail true (some d) (camelTail ws.isEmpty d cs ws) =
          camelTail ws.isEmpty d cs ws :=
        (recaseTail_eq_self_iff fun e he => hword.parts _ (.head _) e (.tail _ he)).2 hstands
      rw [camelTail, htail]
      exact List.append_nil _
    have hagain := camelTail_eq_lowerFirst hword (by simpa using hforms) hcapital d
    rw [List.isEmpty_nil, hself, ← camelTail_eq_lowerFirst h hs hcapital d] at hagain
    have hform : initialForm true c = [u] := hu
    have hform' : initialForm true d = [u] := hlu
    rw [hjoin, joinCamel_cons (hword.start d rfl) hform', joinCamel_cons hc hform,
      List.isEmpty_nil, hagain]

end

/-! ## Conventions -/

/-- A text of ASCII characters with words has a name in camel case that begins with a capital and
one that begins with a small letter, under both conventions for such names. Normalizing a name again
under its own convention changes nothing, and the name that begins with a capital can be had from
the other one as well as from the text. -/
theorem normalize_camelCase_of_methodName {t : Text} (ht : ∀ c ∈ t, c.toNat < 128)
    (hw : words t ≠ []) :
    ∃ x y, normalize .camelCase t = .ok x ∧
      normalize .methodName t = .ok y ∧ normalize .variableName t = .ok y ∧
      normalize .camelCase x.text = .ok x ∧
      normalize .methodName y.text = .ok y ∧ normalize .variableName y.text = .ok y ∧
      normalize .camelCase y.text = .ok x := by
  obtain ⟨x, hx⟩ : ∃ x, normalize .camelCase t = .ok x := exists_normalize_iff.2 hw
  obtain ⟨y, hy⟩ : ∃ y, normalize .methodName t = .ok y := exists_normalize_iff.2 hw
  have hvariable : normalize .variableName t = .ok y := hy
  have hplain : ∀ c ∈ t, Plain c := fun c hc => plain_of_ascii (ht c hc)
  refine ⟨x, y, hx, hy, hvariable, normalize_text_of_plain hx hplain,
    normalize_text_of_plain hy hplain, normalize_text_of_plain hvariable hplain, ?_⟩
  obtain ⟨-, rfl⟩ := normalize_eq_ok_iff.1 hx
  have hjoin := joinCamel_joinCamel (wordList_words t) fun w hw c hc =>
    simple_of_ascii (ht c (mem_of_mem_words hw hc))
  rw [normalize_eq_ok_iff, words_of_normalize hy]
  refine ⟨List.cons_ne_nil _ _, ?_⟩
  show _ = (⟨escape (joinCamel true [joinCamel false (words t)])⟩ : Identifier)
  rw [hjoin]
  rfl

/-- The hump of `xTest` is lost as it is in `x test`. -/
theorem normalize_camelCase_xTest :
    normalize .methodName "x test".toList = .ok ⟨"xTest".toList⟩ ∧
      normalize .camelCase "xTest".toList = .ok ⟨"Xtest".toList⟩ ∧
      normalize .camelCase "x test".toList = .ok ⟨"Xtest".toList⟩ := by
  have hascii : "x test".toList.all (fun c => decide (c.toNat < 128)) = true := by
    decide +kernel
  have hw : words "x test".toList ≠ [] := by decide +kernel
  have hmethod : normalize .methodName "x test".toList = .ok ⟨"xTest".toList⟩ := by
    decide +kernel
  have hcamel : normalize .camelCase "x test".toList = .ok ⟨"Xtest".toList⟩ := by
    decide +kernel
  obtain ⟨x, y, hx, hy, -, -, -, -, h⟩ := normalize_camelCase_of_methodName
    (fun c hc => of_decide_eq_true (List.all_eq_true.1 hascii c hc)) hw
  obtain rfl := Except.ok.inj (hx.symm.trans hcamel)
  obtain rfl := Except.ok.inj (hy.symm.trans hmethod)
  exact ⟨hmethod, h, hcamel⟩

end JavaNames
