import JavaNames.Proofs.BinaryName

/-!
# Shorter names

A type name can be written without its packages, without its arguments, or without both. Each of
these names says as much as a part of the type name, and the part is read back from it
(`TypeName.parse_shortNames`): they display the type name with something left out, and what is left of
a well-formed type name is well formed (`TypeName.WellFormed.withoutPackages`,
`TypeName.WellFormed.erase`). Packages are left out at every depth, so that is an induction on the
type name, its arguments and lists of them together; arguments are left out at the top alone.

The qualified name and the simple name differ by the package. A package has a dot after each segment
in the one and between its segments in the name of the package, so a dot is missing there exactly if
there is a segment (`qualify_eq`).
-/

namespace JavaNames

/-! ## Parts that are left out -/

/-- A type name is primitive with packages and without them. -/
@[simp] theorem TypeName.isBarePrimitive_withoutPackages (t : TypeName) :
    t.withoutPackages.isBarePrimitive = t.isBarePrimitive := by
  cases t <;> rfl

mutual

/-- Without packages a type name is as well formed as it is with them. -/
theorem TypeName.WellFormed.withoutPackages : ∀ {t : TypeName}, t.WellFormed →
    t.withoutPackages.WellFormed
  | .primitive _ _, _ => trivial
  | .reference _ _ _ _, ⟨_, hx, has⟩ =>
    ⟨List.forall_mem_nil _, hx, WellFormedArguments.withoutPackages has⟩

/-- Without packages an argument is as well formed as it is with them. -/
theorem Argument.WellFormed.withoutPackages : ∀ {a : Argument}, a.WellFormed →
    a.withoutPackages.WellFormed
  | .wildcard, _ => trivial
  | .type _ t, ⟨hp, ht⟩ =>
    ⟨t.isBarePrimitive_withoutPackages.trans hp, TypeName.WellFormed.withoutPackages ht⟩

/-- `Argument.WellFormed.withoutPackages` over a list of arguments. -/
theorem WellFormedArguments.withoutPackages : ∀ {as : List Argument}, WellFormedArguments as →
    WellFormedArguments (argumentsWithoutPackages as)
  | [], _ => trivial
  | _ :: _, ⟨ha, has⟩ =>
    ⟨Argument.WellFormed.withoutPackages ha, WellFormedArguments.withoutPackages has⟩

end

/-! ## Packages -/

/-- A legal identifier is not empty. -/
theorem ne_nil_of_isLegalIdentifier {t : Text} (h : isLegalIdentifier t = true) : t ≠ [] := by
  rintro rfl
  cases h

/-- The first segment of a package stands before a dot and the name in the rest of the package. -/
theorem qualify_cons (s : Identifier) (pk : List Identifier) (name : Text) :
    qualify (s :: pk) name = s.text ++ '.' :: qualify pk name := by
  simp [qualify]

/-- The first of several segments stands before a dot and the name of the rest of the package. -/
theorem dotted_cons_cons (s r : Identifier) (pk : List Identifier) :
    dotted (s :: r :: pk) = s.text ++ '.' :: dotted (r :: pk) := by
  simp [dotted, List.intercalate_cons_cons]

/-- A name in a package is the name of the package, a dot and the name. -/
theorem qualify_eq {pk : List Identifier} (hne : pk ≠ []) (name : Text) :
    qualify pk name = dotted pk ++ '.' :: name := by
  induction pk with
  | nil => exact absurd rfl hne
  | cons s pk ih =>
    cases pk with
    | nil => simp [qualify, dotted]
    | cons r pk =>
      rw [qualify_cons, ih (List.cons_ne_nil r pk), dotted_cons_cons, List.append_assoc,
        List.cons_append]

/-- The name of a package is empty only without segments. -/
theorem dotted_eq_nil_iff {pk : List Identifier}
    (h : ∀ s ∈ pk, isLegalIdentifier s.text = true) : dotted pk = [] ↔ pk = [] := by
  constructor
  · intro hnil
    cases pk with
    | nil => rfl
    | cons s pk =>
      have hs := ne_nil_of_isLegalIdentifier (h s (.head _))
      cases pk with
      | nil => exact absurd hnil (by simpa [dotted] using hs)
      | cons r pk =>
        rw [dotted_cons_cons] at hnil
        exact absurd hnil (List.append_ne_nil_of_left_ne_nil hs _)
  · rintro rfl
    rfl

namespace TypeName

/-- The qualified name is the simple name, after the package if there is one. -/
theorem qualifiedName_eq {t : TypeName} (h : t.WellFormed) : t.qualifiedName =
    if t.packageName = [] then t.simpleName else t.packageName ++ '.' :: t.simpleName := by
  cases t with
  | primitive p n => rfl
  | reference pk x as n =>
    have hempty := dotted_eq_nil_iff h.1
    rw [packageName]
    split
    · next hnil =>
      rw [hempty.1 hnil]
      rfl
    · next hne =>
      have hpk : pk ≠ [] := fun hnil => hne (hempty.2 hnil)
      rw [qualifiedName, simpleName, qualify_eq hpk, List.append_assoc, List.cons_append]

/-- What is left of a well-formed type name is read back from the name that leaves the rest out: from
the display form without packages, from the qualified name and from the simple name. The qualified
name is the simple name, after the package and a dot if there is a package. -/
theorem parse_shortNames {t : TypeName} (h : t.WellFormed) :
    parse (t.render false) = .ok t.withoutPackages ∧
      parse t.qualifiedName = .ok t.erase ∧
      parse t.simpleName = .ok t.erase.withoutPackages ∧
      t.qualifiedName =
        if t.packageName = [] then t.simpleName else t.packageName ++ '.' :: t.simpleName := by
  refine ⟨?_, ?_, ?_, qualifiedName_eq h⟩
  · rw [← render_withoutPackages]
    exact parse_of_display h.withoutPackages
  · rw [← render_erase]
    exact parse_of_display h.erase
  · rw [← render_erase_false, ← render_withoutPackages]
    exact parse_of_display h.erase.withoutPackages

/-- The shorter names of `java.Map<p.K, ? extends q.V<?>[]>[]`. -/
theorem parse_shortNames_map :
    let v : TypeName := .reference [⟨['q']⟩] ⟨['V']⟩ [.wildcard] 1
    let t : TypeName := .reference [⟨"java".toList⟩] ⟨"Map".toList⟩
      [.type .invariant (.reference [⟨['p']⟩] ⟨['K']⟩ [] 0), .type .covariant v] 1
    t.WellFormed ∧ parse "Map<K, ? extends V<?>[]>[]".toList = .ok t.withoutPackages ∧
      parse "java.Map[]".toList = .ok t.erase ∧ parse "Map[]".toList = .ok t.erase.withoutPackages ∧
      t.qualifiedName = "java".toList ++ '.' :: t.simpleName := by
  intro v t
  have hlegal (x : Text) (hx : x ∈ ["java".toList, "Map".toList, ['p'], ['K'], ['q'], ['V']]) :
      isLegalIdentifier x = true := by
    have key : ["java".toList, "Map".toList, ['p'], ['K'], ['q'], ['V']].all
        isLegalIdentifier = true := by decide +kernel
    exact List.all_eq_true.1 key x hx
  have hone (x : Text) (hx : x ∈ ["java".toList, "Map".toList, ['p'], ['K'], ['q'], ['V']]) :
      ∀ s ∈ [(⟨x⟩ : Identifier)], isLegalIdentifier s.text = true := by
    rw [List.forall_mem_singleton]
    exact hlegal x hx
  have ht : t.WellFormed :=
    ⟨hone _ (by simp), hlegal _ (by simp), ⟨rfl, hone _ (by simp), hlegal _ (by simp), trivial⟩,
      ⟨rfl, hone _ (by simp), hlegal _ (by simp), trivial, trivial⟩, trivial⟩
  obtain ⟨hdisplay, hqualified, hsimple, hpackage⟩ := parse_shortNames ht
  exact ⟨ht, hdisplay, hqualified, hsimple, hpackage⟩

end TypeName

end JavaNames
