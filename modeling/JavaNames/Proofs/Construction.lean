import JavaNames.Proofs.RoundTrip
import JavaNames.TypeName.Assembly

/-!
# What can be built

Type names come from texts that are read, and from other type names by one operation at a time
(`Obtains`). A history lists type names in the order in which they were obtained, each one from
those before it, so it may use them as often and in as many ways as it likes (`History`). An
operation looks at one level of a type name or at none, and still every type name of a history is
well formed at all levels: one operation keeps this (`Obtains.wellFormed`), and so does every
sequence of them (`History.wellFormed`). There is nothing more to be built than that, since each
well-formed type name is read from its display form.

The steps of an assembly take what they need from a stack. What a step leaves there was on the stack
before or is obtained from it (`Assembly.Step.obtains_of_apply`), so the same holds of every stack
(`Assembly.wellFormed_of_mem_run`).
-/

namespace JavaNames

/-! ## Parts of well-formed type names -/

namespace TypeName

section
variable {t u : TypeName} {a : Argument}

/-- More dimensions leave a type name well formed. -/
theorem WellFormed.addDimensions (ht : t.WellFormed) (n : Nat) : (t.addDimensions n).WellFormed :=
  wellFormed_withDimensions.2 ht

/-- The component type of an array is as well formed as the array. -/
theorem WellFormed.component (ht : t.WellFormed) (h : t.component? = some u) : u.WellFormed := by
  unfold component? at h
  split at h
  · cases h
    exact wellFormed_withDimensions.2 ht
  · cases h

/-- The element type of an array is as well formed as the array. -/
theorem WellFormed.element (ht : t.WellFormed) (h : t.element? = some u) : u.WellFormed := by
  unfold element? at h
  split at h
  · cases h
    exact wellFormed_withDimensions.2 ht
  · cases h

/-- The arguments of a well-formed type name are well formed. -/
theorem WellFormed.argument (ht : t.WellFormed) (ha : a ∈ t.arguments) : a.WellFormed := by
  cases t with
  | primitive p n => cases ha
  | reference pk x as n =>
    obtain ⟨-, -, has⟩ := ht
    exact wellFormedArguments_iff.1 has a ha

/-- An array has its dimensions in one place, over an element that is no array. -/
theorem dimensions_of_element? (h : t.element? = some u) :
    0 < t.dimensions ∧ u.isArray = false ∧ t = u.addDimensions t.dimensions := by
  unfold element? at h
  split at h
  · next harray =>
    cases h
    refine ⟨?_, by simp [isArray, TypeName.element], by simp [addDimensions, TypeName.element]⟩
    simpa [isArray, Nat.pos_iff_ne_zero] using harray
  · cases h

end

end TypeName

/-- The type of a well-formed argument, or its bound, is well formed. -/
theorem Argument.WellFormed.type {a : Argument} {u : TypeName} (ha : a.WellFormed)
    (h : a.type? = some u) : u.WellFormed := by
  cases a with
  | wildcard => cases h
  | type v t =>
    cases h
    exact ha.2

/-- An argument is well formed if its type is, and it is no primitive type. -/
theorem Argument.wellFormed_of_type {a : Argument} (hbare : a.isBarePrimitive = false)
    (h : ∀ u, a.type? = some u → u.WellFormed) : a.WellFormed := by
  cases a with
  | wildcard => trivial
  | type v t => exact ⟨hbare, h t rfl⟩

/-- Arguments are refused exactly if one of them is a primitive type. -/
theorem Reference.withArguments_eq_error_iff {r : Reference} {as : List Argument} :
    (∃ v, r.withArguments as = .error v) ↔ ∃ a ∈ as, a.isBarePrimitive = true := by
  constructor
  · rintro ⟨v, h⟩
    unfold withArguments at h
    split at h
    · next a ha => exact ⟨a, List.mem_of_find?_eq_some ha, List.find?_some ha⟩
    · cases h
  · rintro ⟨a, ha, hp⟩
    cases h : r.withArguments as with
    | error v => exact ⟨v, rfl⟩
    | ok r' =>
      have hbare := (withArguments_eq_ok_iff.1 h).1 a ha
      rw [hp] at hbare
      cases hbare

/-! ## Operations -/

/-- A type name is obtained by one operation from type names that are there. -/
inductive Obtains (ts : List TypeName) : TypeName → Prop
  /-- A primitive type. -/
  | primitive (p : Primitive) : Obtains ts (.primitive p 0)
  /-- A class whose name and package were accepted as identifiers. -/
  | reference {pk : List Identifier} {x : Identifier}
      (hpk : ∀ s ∈ pk, ∃ w, Identifier.parse w = .ok s) (hx : ∃ w, Identifier.parse w = .ok x) :
    Obtains ts (Reference.mk pk x []).toTypeName
  /-- What a text is read as, within any limits. -/
  | read {limits input t} (h : TypeName.parseWithin limits input = .ok t) : Obtains ts t
  /-- An array of a type, or a deeper one of an array. -/
  | addDimensions {t n} (ht : t ∈ ts) : Obtains ts (t.addDimensions n)
  /-- An array of a type as the element; of no dimensions, the element itself. -/
  | array {t n} (ht : t ∈ ts) : Obtains ts (t.withDimensions n)
  /-- The component type of an array. -/
  | component {t u} (ht : t ∈ ts) (h : t.component? = some u) : Obtains ts u
  /-- The element type of an array. -/
  | element {t u} (ht : t ∈ ts) (h : t.element? = some u) : Obtains ts u
  /-- A class with arguments whose types and bounds are there. -/
  | arguments {t r r' as} (ht : t ∈ ts) (hr : t.reference? = some r)
      (has : ∀ a ∈ as, ∀ u, a.type? = some u → u ∈ ts) (h : r.withArguments as = .ok r') :
    Obtains ts r'.toTypeName
  /-- The type of an argument, or its bound. -/
  | argument {t a u} (ht : t ∈ ts) (ha : a ∈ t.arguments) (hu : a.type? = some u) : Obtains ts u

/-- An accepted identifier is legal. -/
theorem Identifier.isLegalIdentifier_of_parse {x : Identifier} (h : ∃ w, parse w = .ok x) :
    isLegalIdentifier x.text = true := by
  obtain ⟨w, hw⟩ := h
  obtain ⟨hlegal, rfl⟩ := parse_eq_ok_iff.1 hw
  exact hlegal

/-- An operation on well-formed type names gives a well-formed one. -/
theorem Obtains.wellFormed {ts : List TypeName} {t : TypeName} (h : Obtains ts t)
    (hts : ∀ u ∈ ts, u.WellFormed) : t.WellFormed := by
  cases h with
  | primitive p => trivial
  | reference hpk hx =>
    exact ⟨fun s hs => Identifier.isLegalIdentifier_of_parse (hpk s hs),
      Identifier.isLegalIdentifier_of_parse hx, trivial⟩
  | read h => exact (TypeName.tokens_of_parseWithin h).1
  | addDimensions ht => exact (hts _ ht).addDimensions _
  | array ht => exact TypeName.wellFormed_withDimensions.2 (hts _ ht)
  | component ht h => exact (hts _ ht).component h
  | element ht h => exact (hts _ ht).element h
  | arguments ht hr has h =>
    -- the arguments were looked at one level deep; further down they are as they were
    obtain ⟨hbare, rfl⟩ := Reference.withArguments_eq_ok_iff.1 h
    obtain rfl := TypeName.reference?_eq_some_iff.1 hr
    obtain ⟨hpk, hx, -⟩ := hts _ ht
    refine ⟨hpk, hx, wellFormedArguments_iff.2 fun a ha => ?_⟩
    exact Argument.wellFormed_of_type (hbare a ha) fun u hu => hts u (has a ha u hu)
  | argument ht ha hu => exact ((hts _ ht).argument ha).type hu

/-! ## Histories -/

/-- Type names that were obtained one after the other, the last one first: each of them from those
that were there before it. -/
inductive History : List TypeName → Prop
  | nil : History []
  | cons {ts t} (hts : History ts) (h : Obtains ts t) : History (t :: ts)

/-- Every type name of a history is well formed. -/
theorem History.wellFormed {ts : List TypeName} (h : History ts) : ∀ t ∈ ts, t.WellFormed := by
  induction h with
  | nil => simp
  | cons _ h ih => exact List.forall_mem_cons.2 ⟨h.wellFormed ih, ih⟩

/-- Every well-formed type name has a history: it is read from its display form. -/
theorem exists_history {t : TypeName} (ht : t.WellFormed) : ∃ ts, History ts ∧ t ∈ ts :=
  ⟨[t], .cons .nil (.read (TypeName.parse_of_display ht)), .head _⟩

/-! ## Assemblies -/

namespace Assembly

section
variable {s s' : Stack} {remark : Remark}

/-- Texts that are known to be legal are accepted as identifiers. -/
theorem parse_of_ofKnownLegal {w : Text} {x : Identifier} (h : Identifier.ofKnownLegal w = .ok x) :
    ∃ w, Identifier.parse w = .ok x :=
  ⟨w, Identifier.parse_eq_ok_iff.2 (Identifier.ofKnownLegal_eq_ok_iff.1 h)⟩

/-- The same of a list of texts. -/
theorem parse_of_knownLegal {ws : List Text} {xs : List Identifier} (h : knownLegal ws = .ok xs) :
    ∀ x ∈ xs, ∃ w, Identifier.parse w = .ok x := by
  induction ws generalizing xs with
  | nil =>
    cases h
    simp
  | cons w ws ih =>
    rw [knownLegal] at h
    split at h
    · cases h
    · next x hx =>
      split at h
      · cases h
      · next ys hys =>
        cases h
        exact List.forall_mem_cons.2 ⟨parse_of_ofKnownLegal hx, ih hys⟩

/-- Arguments take their types from the stack, and leave the rest of it. -/
theorem mem_of_takeArguments {later taken : List Argument} {kinds : List (Option Variance)}
    {rest : Stack} (h : takeArguments later kinds s = some (taken, rest)) :
    (∀ a ∈ taken, a ∈ later ∨ ∀ u, a.type? = some u → u ∈ s) ∧ ∀ t ∈ rest, t ∈ s := by
  fun_induction takeArguments later kinds s with
  | case1 later s =>
    cases h
    exact ⟨fun a ha => .inl ha, fun t ht => ht⟩
  | case2 later kinds s ih =>
    obtain ⟨htaken, hrest⟩ := ih h
    refine ⟨fun a ha => ?_, hrest⟩
    rcases htaken a ha with hlater | hs
    · rcases List.mem_cons.1 hlater with rfl | hlater
      · exact .inr nofun
      · exact .inl hlater
    · exact .inr hs
  | case3 later v kinds t s ih =>
    obtain ⟨htaken, hrest⟩ := ih h
    refine ⟨fun a ha => ?_, fun u hu => .tail _ (hrest u hu)⟩
    rcases htaken a ha with hlater | hs
    · rcases List.mem_cons.1 hlater with rfl | hlater
      · refine .inr fun u hu => ?_
        cases hu
        exact .head _
      · exact .inl hlater
    · exact .inr fun u hu => .tail _ (hs u hu)
  | case4 => cases h

/-- A class gets the arguments that it is given. -/
theorem giveArguments_eq_ok {as : List Argument} {t u : TypeName}
    (h : giveArguments as t = .ok (u, remark)) :
    ∃ r r', t.reference? = some r ∧ r.withArguments as = .ok r' ∧ u = r'.toTypeName := by
  unfold giveArguments at h
  split at h
  · cases h
  · next r hr =>
    split at h
    · next r' hr' =>
      cases h
      exact ⟨r, r', hr, hr', rfl⟩
    · cases h

/-- A type that is read from a text is obtained. -/
theorem obtains_of_read {limits : Limits} {input : Text} {f : TypeName → Remark} {u : TypeName}
    {ts : List TypeName} (h : read limits input f = .ok (u, remark)) : Obtains ts u := by
  unfold read at h
  split at h
  · next hread =>
    cases h
    exact .read hread
  · cases h

/-- A type that is not lacking is there. -/
theorem eq_some_of_orLack {t : Option TypeName} {l : Lack} {u : TypeName}
    (h : orLack t l = .ok (u, remark)) : t = some u := by
  cases t with
  | none => cases h
  | some t =>
    cases h
    rfl

/-- Where the stack holds what is there, so does the stack with another top, or its top is
obtained. -/
theorem obtains_of_replaceTop {ts : List TypeName}
    {f : TypeName → Except Obstacle (TypeName × Remark)}
    (h : replaceTop s f = .ok (s', remark)) (hs : ∀ t ∈ s, t ∈ ts)
    (hf : ∀ t ∈ ts, ∀ u m, f t = .ok (u, m) → Obtains ts u) : ∀ u ∈ s', u ∈ ts ∨ Obtains ts u := by
  cases s with
  | nil => cases h
  | cons t rest =>
    obtain ⟨ht, hrest⟩ := List.forall_mem_cons.1 hs
    rw [replaceTop] at h
    split at h
    · next u m hu =>
      cases h
      exact List.forall_mem_cons.2 ⟨.inr (hf t ht u _ hu), fun v hv => .inl (hrest v hv)⟩
    · cases h

/-- Whatever a step leaves on the stack was there or is obtained from it. -/
theorem Step.obtains_of_apply {step : Step} (h : step.apply s = .ok (s', remark)) :
    ∀ u ∈ s', u ∈ s ∨ Obtains s u := by
  have hpush {t : TypeName} (ht : Obtains s t) : ∀ u ∈ t :: s, u ∈ s ∨ Obtains s u :=
    List.forall_mem_cons.2 ⟨.inr ht, fun u hu => .inl hu⟩
  have hs : ∀ t ∈ s, t ∈ s := fun t ht => ht
  cases step with
  | primitive p =>
    cases h
    exact hpush (.primitive p)
  | reference pk x =>
    simp only [apply] at h
    split at h
    · cases h
    · cases h
    · next hpk hx =>
      cases h
      exact hpush (.reference (parse_of_knownLegal hpk) (parse_of_ofKnownLegal hx))
  | parse limits input =>
    simp only [apply] at h
    split at h
    · next hread =>
      cases h
      exact hpush (obtains_of_read hread)
    · cases h
  | addDimensions n =>
    simp only [apply] at h
    refine obtains_of_replaceTop h hs fun t ht u m hu => ?_
    cases hu
    exact .addDimensions ht
  | array n =>
    simp only [apply] at h
    refine obtains_of_replaceTop h hs fun t ht u m hu => ?_
    cases hu
    exact .array ht
  | component =>
    exact obtains_of_replaceTop h hs fun t ht u m hu => .component ht (eq_some_of_orLack hu)
  | element =>
    exact obtains_of_replaceTop h hs fun t ht u m hu => .element ht (eq_some_of_orLack hu)
  | arguments kinds =>
    simp only [apply] at h
    split at h
    · next taken rest htake =>
      obtain ⟨htaken, hrest⟩ := mem_of_takeArguments htake
      refine obtains_of_replaceTop h hrest fun t ht u m hu => ?_
      obtain ⟨r, r', hr, hr', rfl⟩ := giveArguments_eq_ok hu
      exact .arguments ht hr (fun a ha => (htaken a ha).resolve_left List.not_mem_nil) hr'
    · cases h
  | argument n =>
    refine obtains_of_replaceTop h hs fun t ht u m hu => ?_
    split at hu
    · cases hu
    · next a ha =>
      split at hu
      · cases hu
      · next v hv =>
        cases hu
        exact .argument ht (List.mem_of_getElem? ha) hv
  | duplicate =>
    cases s with
    | nil => cases h
    | cons t rest =>
      cases h
      exact fun u hu => .inl (by simpa using hu)
  | swap =>
    match s, h with
    | t :: u :: rest, h =>
      cases h
      exact fun v hv => .inl (by simpa [or_left_comm] using hv)
  | discard =>
    cases s with
    | nil => cases h
    | cons t rest =>
      cases h
      exact fun u hu => .inl (.tail _ hu)
  | compare =>
    match s, h with
    | t :: u :: rest, h =>
      cases h
      exact fun v hv => .inl hv
  | reread => exact obtains_of_replaceTop h hs fun t ht u m hu => obtains_of_read hu
  | readBinary => exact obtains_of_replaceTop h hs fun t ht u m hu => obtains_of_read hu

/-- A step, taken or not, leaves well-formed type names on the stack. -/
theorem Step.wellFormed_of_mem_after (step : Step) (hs : ∀ t ∈ s, t.WellFormed) :
    ∀ t ∈ step.after s, t.WellFormed := by
  intro t ht
  unfold after at ht
  split at ht
  · next happly =>
    rcases obtains_of_apply happly t ht with hmem | hobtains
    · exact hs t hmem
    · exact hobtains.wellFormed hs
  · exact hs t ht

/-- Steps, in whatever order, leave well-formed type names on the stack. -/
theorem wellFormed_of_mem_run (steps : List Step) (hs : ∀ t ∈ s, t.WellFormed) :
    ∀ t ∈ run steps s, t.WellFormed := by
  induction steps generalizing s with
  | nil => exact hs
  | cons step steps ih => exact ih (step.wellFormed_of_mem_after hs)

end

end Assembly

/-! ## What is built -/

/-- A type name has a history exactly if it is well formed. If it is an array, its dimensions are in
one place, over an element that is no array. If it is a class, it refuses arguments exactly if one
of them, or its bound, is a primitive type, and other arguments replace its own and nothing else.
What the steps of an assembly leave is well formed as well. -/
theorem mem_history_iff_wellFormed (t : TypeName) :
    ((∃ ts, History ts ∧ t ∈ ts) ↔ t.WellFormed) ∧
      (∀ e, t.element? = some e →
        0 < t.dimensions ∧ e.isArray = false ∧ t = e.addDimensions t.dimensions) ∧
      (∀ r as, t.reference? = some r →
        ((∃ v, r.withArguments as = .error v) ↔ ∃ a ∈ as, a.isBarePrimitive = true) ∧
          ∀ r', r.withArguments as = .ok r' → r' = { r with arguments := as }) ∧
      ∀ steps, t ∈ Assembly.run steps [] → t.WellFormed := by
  refine ⟨⟨?_, exists_history⟩, fun e he => TypeName.dimensions_of_element? he, ?_, ?_⟩
  · rintro ⟨ts, hts, ht⟩
    exact hts.wellFormed t ht
  · intro r as _
    refine ⟨Reference.withArguments_eq_error_iff, fun r' h => ?_⟩
    exact (Reference.withArguments_eq_ok_iff.1 h).2
  · intro steps ht
    exact Assembly.wellFormed_of_mem_run steps (by simp) t ht

end JavaNames
