import JavaNames.Proofs.Naming.Settled

/-!
# Normalizing twice

Not every name is settled, because the case mappings do not only lead from small letters to capitals
and back. The upper-case form of a letter may be several capitals, of which all but the first are
made small by normalizing again; and a letter may be a capital or a small one without a form in the
other case, so that a hump begins at it after its neighbours have been recased. Characters with
nothing of this kind are `Plain`, those of ASCII among them, and names made of texts of plain
characters are settled.

In camel case the capitals of such a name have been written between two small letters: those that
are kept stood there before, and a word begins with a capital only if its second character becomes
small. The statements about what is written go by the last character before it (`standsAfter`), as
the recasing itself does.
-/

namespace JavaNames

open Unicode (isLowercase isUppercase toLower toUpper)

/-! ## Plain characters -/

/-- A character with simple case forms. -/
structure Plain (c : Char) : Prop where
  /-- The lower-case form has no capital. -/
  lower : ∀ l ∈ toLower c, isUppercase l = false
  /-- A small letter is its own lower-case form. -/
  small : isLowercase c = true → toLower c = [c]
  /-- The upper-case form is one character. -/
  single : (toUpper c).length = 1
  /-- The upper-case form is no small letter, and a capital if it has another lower-case form. -/
  upper : ∀ u ∈ toUpper c, isLowercase u = false ∧ (isUppercase u = true ∨ toLower u = [u])

/-- Whether a character is plain, by its forms. -/
def isPlain (c : Char) : Bool :=
  (toLower c).all (fun l => !isUppercase l) && (!isLowercase c || toLower c == [c]) &&
    (toUpper c).length == 1 &&
    (toUpper c).all fun u => !isLowercase u && (isUppercase u || toLower u == [u])

/-- Being plain can be read off the forms. -/
theorem isPlain_iff {c : Char} : isPlain c = true ↔ Plain c := by
  have hsmall : (isLowercase c = false ∨ toLower c = [c]) ↔
      (isLowercase c = true → toLower c = [c]) := by
    rw [← Bool.not_eq_true, imp_iff_not_or]
  simp only [isPlain, Bool.and_eq_true, Bool.or_eq_true, List.all_eq_true, Bool.not_eq_true',
    beq_iff_eq, hsmall]
  exact ⟨fun ⟨⟨⟨h₁, h₂⟩, h₃⟩, h₄⟩ => ⟨h₁, h₂, h₃, h₄⟩,
    fun h => ⟨⟨⟨h.lower, h.small⟩, h.single⟩, h.upper⟩⟩

/-- The characters of ASCII are plain. -/
theorem plain_of_ascii {c : Char} (h : c.toNat < 128) : Plain c :=
  isPlain_iff.1 (Char.of_ascii (by decide +kernel) h)

/-! ## Single humps -/

/-- A word in which no character begins a hump is a single hump. -/
theorem humps_of_no_start {w : Text} (hne : w ≠ [])
    (h : ∀ b ∈ w, ∀ c ∈ w, ∀ after : Option Char, (∀ d ∈ after, d ∈ w) →
      isHumpStart b c after = false) : humps w = [w] := by
  induction w with
  | nil => exact absurd rfl hne
  | cons b cs ih =>
    cases cs with
    | nil => rfl
    | cons c cs =>
      have hstart : isHumpStart b c cs.head? = false := by
        refine h b (.head _) c (.tail _ (.head _)) _ fun d hd => ?_
        exact .tail _ (.tail _ (List.mem_of_mem_head? hd))
      have hrest : humps (c :: cs) = [c :: cs] := by
        refine ih (List.cons_ne_nil _ _) fun b hb c hc after hafter => ?_
        exact h b (.tail _ hb) c (.tail _ hc) after fun d hd => .tail _ (hafter d hd)
      rw [humps, if_neg (by simp [hstart]), hrest]
      rfl

/-- A word without capitals is a single hump. -/
theorem humps_of_no_capital {w : Text} (hne : w ≠ []) (h : ∀ c ∈ w, isUppercase c = false) :
    humps w = [w] := by
  refine humps_of_no_start hne fun b _ c hc after _ => ?_
  simp [isHumpStart, h c hc]

/-- A word without small letters is a single hump. -/
theorem humps_of_no_small {w : Text} (hne : w ≠ []) (h : ∀ c ∈ w, isLowercase c = false) :
    humps w = [w] := by
  refine humps_of_no_start hne fun b hb c _ after hafter => ?_
  cases after with
  | none => simp [isHumpStart, h b hb]
  | some d => simp [isHumpStart, h b hb, h d (hafter d rfl)]

/-- A character of a recased part is one of the form of a character of the parts. -/
theorem exists_of_mem_recased {form : Char → Text} {ws : List Text} {w : Text} {d : Char}
    (hw : w ∈ recased form ws) (hd : d ∈ w) : ∃ v ∈ ws, ∃ c ∈ v, d ∈ form c := by
  cases ws with
  | nil => cases hw
  | cons v vs =>
    rcases List.mem_cons.1 hw with rfl | hw
    · obtain ⟨c, hc, hd⟩ := List.mem_flatMap.1 (of_mem_writable hd).1
      exact ⟨v, .head _, c, hc, hd⟩
    · obtain ⟨u, hu, rfl⟩ := List.mem_map.1 hw
      obtain ⟨c, hc, hd⟩ := List.mem_flatMap.1 (of_mem_writable hd).1
      exact ⟨u, .tail _ hu, c, hc, hd⟩

/-! ## Capitals between small letters -/

/-- Whether the characters of a text are kept after a last character, if there is one. -/
def standsAfter (last : Option Char) (w : Text) : Bool :=
  capitalsStand (last.toList ++ w)

section
variable {last : Option Char} {keepHumps capital : Bool} {b c : Char} {w p q : Text}

/-- A character that is kept at the end of a text is kept before any other one. -/
theorem keepsCase_of_none (h : keepsCase b c none = true) (after : Option Char) :
    keepsCase b c after = true := by
  rw [keepsCase, Option.any_none, Bool.and_false, Bool.or_false] at h
  rw [keepsCase, h, Bool.true_or]

/-- The characters of two texts are kept if those of the second one are after the first one. -/
theorem capitalsStand_append (hp : capitalsStand (b :: p) = true)
    (hq : capitalsStand (p.getLast?.getD b :: q) = true) :
    capitalsStand (b :: (p ++ q)) = true := by
  induction p generalizing b with
  | nil => exact hq
  | cons c cs ih =>
    rw [capitalsStand, Bool.and_eq_true] at hp
    rw [List.getLast?_cons, Option.getD_some] at hq
    rw [List.cons_append, capitalsStand, Bool.and_eq_true]
    refine ⟨?_, ih hp.2 hq⟩
    cases cs with
    | nil => exact keepsCase_of_none hp.1 _
    | cons d ds => exact hp.1

/-- The characters of two texts are kept if those of the second one are after the first one. -/
theorem standsAfter_append (hp : standsAfter last p = true)
    (hq : standsAfter (lastWritten last p) q = true) : standsAfter last (p ++ q) = true := by
  cases p with
  | nil => exact hq
  | cons c cs =>
    rw [lastWritten, List.getLast?_cons, Option.some_or] at hq
    cases last with
    | none => exact capitalsStand_append hp hq
    | some b =>
      refine capitalsStand_append (p := c :: cs) hp ?_
      rw [List.getLast?_cons]
      exact hq

/-- Characters that are their own lower-case forms are kept. -/
theorem standsAfter_of_small (h : ∀ c ∈ w, toLower c = [c]) : standsAfter last w = true := by
  have hkeeps : ∀ b c after, toLower c = [c] → keepsCase b c after = true := by
    intro b c after hc
    simp [keepsCase, hc]
  have hstand : ∀ b, capitalsStand (b :: w) = true := by
    induction w with
    | nil => exact fun b => rfl
    | cons c cs ih =>
      intro b
      rw [List.forall_mem_cons] at h
      rw [capitalsStand, hkeeps b c _ h.1, ih h.2 c]
      rfl
  cases last with
  | some b => exact hstand b
  | none =>
    cases w with
    | nil => rfl
    | cons c cs =>
      have hall := hstand c
      rw [capitalsStand, Bool.and_eq_true] at hall
      exact hall.2

/-- What is written of lower-case forms is kept. -/
theorem standsAfter_writable_toLower {continued : Bool} :
    standsAfter last (writable continued (toLower c)) = true :=
  standsAfter_of_small fun _ hd => Unicode.caseMapping_toLower.settled (of_mem_writable hd).1

/-- The character before a capital of camel case is a small letter. -/
theorem exists_of_afterSmall (h : afterSmall last = true) :
    ∃ b, last = some b ∧ isLowercase b = true := by
  cases last with
  | none => cases h
  | some b => exact ⟨b, rfl, h⟩

/-- A small letter is written as it is. -/
theorem recaseTail_of_small (hpart : isWordPart c = true) (hp : Plain c)
    (hc : isLowercase c = true) :
    recaseTail keepHumps (some b) (c :: w) = c :: recaseTail keepHumps (some c) w := by
  have hsmall := hp.small hc
  have hcapital : isUppercase c = false := hp.lower c (hsmall ▸ List.mem_cons_self)
  have hwritten : writable (some b).isSome [c] = [c] :=
    writable_eq_self (by simpa using isIdentifierPart_of_isWordPart hpart) (by simp)
  rw [recaseTail, hcapital, hsmall, hwritten]
  simp [lastWritten]

/-- What is written of the rest of a plain word is kept. -/
theorem standsAfter_recaseTail (hw : ∀ c ∈ w, isWordPart c = true) (hp : ∀ c ∈ w, Plain c) :
    standsAfter last (recaseTail keepHumps last w) = true := by
  induction w generalizing last with
  | nil => exact standsAfter_of_small (List.forall_mem_nil _)
  | cons c cs ih =>
    rw [List.forall_mem_cons] at hw hp
    rw [recaseTail]
    split
    · next hcapital =>
      -- the capital stands between the last character and the next one, which is written as it is
      simp only [Bool.and_eq_true] at hcapital
      obtain ⟨⟨⟨-, hupper⟩, hbefore⟩, hafter⟩ := hcapital
      obtain ⟨b, rfl, hb⟩ := exists_of_afterSmall hbefore
      obtain ⟨n, ns, rfl, hn⟩ : ∃ n ns, cs = n :: ns ∧ isLowercase n = true := by
        cases cs with
        | nil => cases hafter
        | cons n ns => exact ⟨n, ns, rfl, hafter⟩
      have hnext : standsAfter (some c) (recaseTail keepHumps (some c) (n :: ns)) = true :=
        ih hw.2 hp.2
      rw [recaseTail_of_small (hw.2 n (.head _)) (hp.2 n (.head _)) hn] at hnext
      have hkeeps : keepsCase b c (some n) = true := by
        simp [keepsCase, hb, hupper, hn]
      show capitalsStand (b :: c :: recaseTail keepHumps (some c) (n :: ns)) = true
      rw [recaseTail_of_small (hw.2 n (.head _)) (hp.2 n (.head _)) hn, capitalsStand,
        List.head?_cons, hkeeps]
      exact hnext
    · exact standsAfter_append standsAfter_writable_toLower (ih hw.2 hp.2)

/-- What is written of a plain word that begins with a small letter is kept. -/
theorem standsAfter_recaseWord_small (hw : ∀ c ∈ w, isWordPart c = true) (hp : ∀ c ∈ w, Plain c) :
    standsAfter last (recaseWord keepHumps false last w) = true := by
  cases w with
  | nil => exact standsAfter_of_small (List.forall_mem_nil _)
  | cons c cs =>
    rw [List.forall_mem_cons] at hw hp
    exact standsAfter_append standsAfter_writable_toLower (standsAfter_recaseTail hw.2 hp.2)

/-- At the beginning, a single character is kept. -/
theorem standsAfter_none_of_length_le_one (h : w.length ≤ 1) : standsAfter none w = true := by
  match w, h with
  | [], _ => rfl
  | [_], _ => rfl

/-- What is written of a text is no longer than the text. -/
theorem length_writable_le (continued : Bool) (t : Text) :
    (writable continued t).length ≤ t.length := by
  refine Nat.le_trans (List.length_filter_le _ _) ?_
  cases continued with
  | true => exact Nat.le_refl _
  | false => exact length_dropWhile_le _ _

/-- What is written of a plain word at the beginning is kept. -/
theorem standsAfter_recaseWord_none (hw : ∀ c ∈ w, isWordPart c = true) (hp : ∀ c ∈ w, Plain c) :
    standsAfter none (recaseWord keepHumps capital none w) = true := by
  cases capital with
  | false => exact standsAfter_recaseWord_small hw hp
  | true =>
    cases w with
    | nil => rfl
    | cons c cs =>
      rw [List.forall_mem_cons] at hw hp
      refine standsAfter_append ?_ (standsAfter_recaseTail hw.2 hp.2)
      refine standsAfter_none_of_length_le_one (Nat.le_trans (length_writable_le _ _) ?_)
      exact Nat.le_of_eq hp.1.single

/-- A character with a form in small letters is written as one at least. -/
theorem recaseTail_false_cons (hc : isWordPart c = true)
    (hsmall : (toLower c).all isLowercase = true) :
    ∃ l ls, recaseTail false (some b) (c :: w) = l :: ls ∧ isLowercase l = true := by
  obtain ⟨l, ls, hl, hmem⟩ := Unicode.caseMapping_toLower.writable_true_cons hc
  refine ⟨l, ls ++ recaseTail false (lastWritten (some b) (l :: ls)) w, ?_,
    List.all_eq_true.1 hsmall l hmem⟩
  rw [← List.cons_append, ← hl]
  rfl

/-- The upper-case form of a plain character is kept between two small letters. -/
theorem Plain.keepsCase_of_mem_toUpper {u l : Char} (hp : Plain c) (hu : u ∈ toUpper c)
    (hb : isLowercase b = true) (hl : isLowercase l = true) : keepsCase b u (some l) = true := by
  rw [keepsCase, Bool.or_eq_true, beq_iff_eq]
  refine (hp.upper u hu).2.symm.imp_right fun hupper => ?_
  simp [hb, hupper, hl]

/-- What is written of a plain word that opens a hump is kept. -/
theorem standsAfter_recaseWord_hump (hw : ∀ c ∈ w, isWordPart c = true) (hp : ∀ c ∈ w, Plain c)
    (hopens : opensHump last w = true) :
    standsAfter last (recaseWord false true last w) = true := by
  rw [opensHump, Bool.and_eq_true] at hopens
  obtain ⟨hbefore, hnext⟩ := hopens
  obtain ⟨b, rfl, hb⟩ := exists_of_afterSmall hbefore
  match w, hw, hp, hnext with
  | c :: n :: ns, hw, hp, hnext =>
    rw [List.forall_mem_cons] at hw hp
    obtain ⟨u, hu⟩ := List.length_eq_one_iff.1 hp.1.single
    have htail : ∀ last, standsAfter last (recaseTail false last (n :: ns)) = true :=
      fun _ => standsAfter_recaseTail hw.2 hp.2
    show standsAfter (some b) (writable true (toUpper c) ++
      recaseTail false (lastWritten (some b) (writable true (toUpper c))) (n :: ns)) = true
    rw [hu]
    cases hpart : isIdentifierPart u with
    | false =>
      have hnone : writable true [u] = [] := List.filter_eq_nil_iff.2 (by simp [hpart])
      rw [hnone]
      exact htail _
    | true =>
      have hone : writable true [u] = [u] := writable_eq_self (by simp [hpart]) (by simp)
      obtain ⟨l, ls, hl, hlower⟩ :=
        recaseTail_false_cons (b := u) (w := ns) (hw.2 n (.head _)) hnext
      have hkeeps := hp.1.keepsCase_of_mem_toUpper (hu ▸ List.mem_cons_self) hb hlower
      have hrest := htail (some u)
      rw [hone]
      show capitalsStand (b :: u :: recaseTail false (some u) (n :: ns)) = true
      rw [hl] at hrest ⊢
      rw [capitalsStand, List.head?_cons, hkeeps]
      exact hrest

/-- What is written of the plain words after the first one is kept. -/
theorem standsAfter_joinRest {ws : List Text} (hw : ∀ w ∈ ws, ∀ c ∈ w, isWordPart c = true)
    (hp : ∀ w ∈ ws, ∀ c ∈ w, Plain c) : standsAfter last (joinRest last ws) = true := by
  induction ws generalizing last with
  | nil => exact standsAfter_of_small (List.forall_mem_nil _)
  | cons w ws ih =>
    rw [List.forall_mem_cons] at hw hp
    refine standsAfter_append ?_ (ih hw.2 hp.2)
    cases hopens : opensHump last w with
    | true => exact standsAfter_recaseWord_hump hw.1 hp.1 hopens
    | false => exact standsAfter_recaseWord_small hw.1 hp.1

/-- The capitals of plain words in camel case stand between small letters. -/
theorem capitalsStand_joinCamel {ws : List Text} (hw : ∀ w ∈ ws, ∀ c ∈ w, isWordPart c = true)
    (hp : ∀ w ∈ ws, ∀ c ∈ w, Plain c) : capitalsStand (joinCamel capital ws) = true := by
  cases ws with
  | nil => rfl
  | cons w ws =>
    rw [List.forall_mem_cons] at hw hp
    have hfirst : standsAfter none (recaseWord ws.isEmpty capital none w) = true :=
      standsAfter_recaseWord_none hw.1 hp.1
    refine standsAfter_append hfirst ?_
    rw [lastWritten, Option.or_none]
    exact standsAfter_joinRest hw.2 hp.2

end

/-! ## Plain texts -/

/-- A character of a recased hump of plain words is one of the form of a plain character. -/
theorem exists_plain_of_mem_recased {form : Char → Text} {ws : List Text} {v : Text} {d : Char}
    (hp : ∀ w ∈ ws, ∀ c ∈ w, Plain c) (hv : v ∈ recased form (ws.flatMap humps)) (hd : d ∈ v) :
    ∃ c, Plain c ∧ d ∈ form c := by
  obtain ⟨p, hpart, c, hc, hd⟩ := exists_of_mem_recased hv hd
  obtain ⟨w, hw, hpart⟩ := List.mem_flatMap.1 hpart
  exact ⟨c, hp w hw c (mem_of_mem_humps hpart hc), hd⟩

/-- The parts of what is assembled from plain words are settled. -/
theorem Convention.settles_of_plain (convention : Convention) {ws : List Text} (h : WordList ws)
    (hne : ws ≠ []) (hp : ∀ w ∈ ws, ∀ c ∈ w, Plain c) :
    ∀ v ∈ convention.parts ws, convention.settles v = true := by
  have hcamel : ∀ capital, ∀ v ∈ [joinCamel capital ws], capitalsStand v = true := by
    intro capital
    rw [List.forall_mem_singleton]
    exact capitalsStand_joinCamel h.parts hp
  have hparts := convention.wordList_parts h hne
  cases convention with
  | camelCase => exact hcamel true
  | methodName | variableName => exact hcamel false
  | upperCase | constantName =>
    intro v hv
    refine beq_iff_eq.2 (humps_of_no_small (hparts.ne_nil v hv) fun d hd => ?_)
    obtain ⟨c, hc, hd⟩ := exists_plain_of_mem_recased hp hv hd
    exact (hc.upper d hd).1
  | lowerCase =>
    intro v hv
    refine beq_iff_eq.2 (humps_of_no_capital (hparts.ne_nil v hv) fun d hd => ?_)
    obtain ⟨c, hc, hd⟩ := exists_plain_of_mem_recased hp hv hd
    exact hc.lower d hd

/-- Normalizing the result for a plain text again under the same convention changes nothing. -/
theorem normalize_text_of_plain {convention : Convention} {t : Text} {x : Identifier}
    (h : normalize convention t = .ok x) (hp : ∀ c ∈ t, Plain c) :
    normalize convention x.text = .ok x := by
  rw [normalize_text_eq_iff h, words_of_normalize h]
  exact convention.settles_of_plain (wordList_words t) (normalize_eq_ok_iff.1 h).1
    fun w hw c hc => hp c (mem_of_mem_words hw hc)

/-! ## Idempotence -/

/-- Normalizing a result again under the same convention gives the same result exactly if the words
of the result are settled, and always if the text is plain. -/
theorem normalize_normalize_iff {convention : Convention} {t : Text} {x : Identifier}
    (h : normalize convention t = .ok x) :
    (normalize convention x.text = .ok x ↔
      ∀ w ∈ words x.text, convention.settles w = true) ∧
    ((∀ c ∈ t, Plain c) → normalize convention x.text = .ok x) :=
  ⟨normalize_text_eq_iff h, normalize_text_of_plain h⟩

/-- A name in camel case taken apart stays apart. -/
theorem normalize_normalize_parseXMLFile :
    normalize .lowerCase "parseXMLFile".toList = .ok ⟨"parse_xml_file".toList⟩ ∧
      normalize .lowerCase "parse_xml_file".toList = .ok ⟨"parse_xml_file".toList⟩ := by
  have h : normalize .lowerCase "parseXMLFile".toList = .ok ⟨"parse_xml_file".toList⟩ := by
    decide +kernel
  have hascii : "parseXMLFile".toList.all (fun c => decide (c.toNat < 128)) = true := by
    decide +kernel
  refine ⟨h, (normalize_normalize_iff h).2 fun c hc => plain_of_ascii ?_⟩
  exact of_decide_eq_true (List.all_eq_true.1 hascii c hc)

/-- The upper-case form of a sharp s is two capitals, of which only the first one is kept. -/
theorem normalize_sharp_s :
    normalize .camelCase "ß".toList = .ok ⟨"SS".toList⟩ ∧
      normalize .camelCase "SS".toList = .ok ⟨"Ss".toList⟩ ∧
      normalize .camelCase "SS".toList ≠ .ok ⟨"SS".toList⟩ := by
  decide +kernel

end JavaNames
