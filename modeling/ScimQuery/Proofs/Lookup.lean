import ScimQuery.Proofs.Labels

/-! # Looking up attributes

A mapping finds an attribute by its schema, parent and name, each compared without regard to
ASCII case; without a schema it tries the core schema and then the extensions in declaration
order, and the first of them under which an attribute has that parent and name decides. A
checked declaration gives no two attributes the same schema, parent and name up to ASCII case,
so keying the attributes by their lower-cased schema, parent and name finds exactly what a
search of the declared list finds, and the attribute found is the only one so named.

A path without parent that names no attribute names a complex attribute when a schema it
searches has attributes whose parent it is: those of the first such schema, in declaration
order. Every attribute of a `urn:` schema whose parent and name are names of the path grammar
is found again from its qualified name.
-/

namespace ScimQuery

namespace Text

theorem length_lowerAscii (s : String) : (lowerAscii s).length = s.length := by
  simp [lowerAscii, String.length_toList]

theorem eqIgnoreAsciiCase_iff {s t : String} :
    eqIgnoreAsciiCase s t = true ↔ lowerAscii s = lowerAscii t := by
  refine ⟨lowerAscii_eq_of_eqIgnoreAsciiCase, fun h => ?_⟩
  have hlen : s.length = t.length := by
    rw [← length_lowerAscii s, h, length_lowerAscii]
  simp [eqIgnoreAsciiCase, hlen, h]

theorem isBlank_eq_false_of_nameChar {d : Char} (h : (d.isAlphanum || d = '_' || d = '-') = true) :
    isBlank d = false := by
  have hrange : 45 ≤ d.toNat ∧ d.toNat ≤ 122 := by
    simp only [Char.isAlphanum, Char.isAlpha, Char.isUpper, Char.isLower, Char.isDigit,
      Bool.or_eq_true, decide_eq_true_eq, Bool.and_eq_true, ge_iff_le, UInt32.le_iff_toNat_le,
      Char.reduceVal, UInt32.reduceToNat] at h
    have hv : d.val.toNat = d.toNat := rfl
    rcases h with (((h | h) | h) | rfl) | rfl
    · omega
    · omega
    · omega
    · decide
    · decide
  unfold isBlank
  simp only [Bool.or_eq_false_iff, decide_eq_false_iff_not]
  omega

theorem trim_eq_self {s : String} (hhead : ∀ c ∈ s.toList.head?, isBlank c = false)
    (hlast : ∀ c ∈ s.toList.getLast?, isBlank c = false) : trim s = s := by
  have hfront : s.toList.dropWhile isBlank = s.toList := by
    rw [List.dropWhile_eq_self_iff]
    intro hl
    refine Bool.eq_false_iff.1 (hhead _ ?_)
    rw [List.head?_eq_getElem?, List.getElem?_eq_getElem hl]
    rfl
  have hback : s.toList.rdropWhile isBlank = s.toList := by
    rw [List.rdropWhile_eq_self_iff]
    intro hl
    exact Bool.eq_false_iff.1 (hlast _ (List.getLast?_eq_some_getLast hl))
  rw [trim_eq, hfront, hback, String.ofList_toList]

end Text

namespace AttributePath

theorem isBlank_eq_false_of_isName {s : String} (h : isName s = true) :
    ∀ c ∈ s.toList, Text.isBlank c = false := by
  unfold isName at h
  rcases Bool.or_eq_true_iff.1 h with h | h
  · rw [decide_eq_true_iff.1 h]
    simp [Text.isBlank]
  · split at h
    · rename_i c rest hs
      obtain ⟨hc, hrest⟩ := Bool.and_eq_true_iff.1 h
      rw [hs]
      intro d hd
      rcases List.mem_cons.1 hd with rfl | hd
      · refine Text.isBlank_eq_false_of_nameChar ?_
        rw [Char.isAlphanum, Char.isAlpha, hc]
        rfl
      · exact Text.isBlank_eq_false_of_nameChar (List.all_eq_true.1 hrest d hd)
    · cases h

theorem plainPath_of_isName {parent : Option String} {name : String} (hn : isName name = true)
    (hp : ∀ q ∈ parent, isName q = true) : PlainPath parent name :=
  ⟨dot_colon_not_mem_of_isName hn, fun q hq => dot_colon_not_mem_of_isName (hp q hq)⟩

section Qualified

variable {a : AttributeLocation} (hurn : ∃ rest, a.schemaUri = "urn:" ++ rest)
  (hn : isName a.name = true) (hp : ∀ q ∈ a.parent, isName q = true)
include hurn hn

/-- A qualified name of a `urn:` schema ends with the attribute's name and starts with `u`, so
trimming keeps it. -/
theorem trim_qualifiedName : Text.trim a.qualifiedName = a.qualifiedName := by
  obtain ⟨rest, hrest⟩ := hurn
  have hname := toList_ne_nil_of_isName hn
  have hfull : ∃ pre, a.fullName.toList = pre ++ a.name.toList := by
    unfold AttributeLocation.fullName
    cases a.parent with
    | none => exact ⟨[], rfl⟩
    | some q => exact ⟨(q ++ ".").toList, by simp⟩
  obtain ⟨pre, hpre⟩ := hfull
  refine Text.trim_eq_self (fun c hc => ?_) (fun c hc => ?_)
  · have hu : a.qualifiedName.toList.head? = some 'u' := by
      simp [AttributeLocation.qualifiedName, hrest]
    rw [hu, Option.mem_some_iff] at hc
    rw [← hc]
    rfl
  · have hlast : a.qualifiedName.toList.getLast? = a.name.toList.getLast? := by
      simp only [AttributeLocation.qualifiedName, String.toList_append, hpre, ← List.append_assoc,
        List.getLast?_append]
      obtain ⟨x, hx⟩ := Option.isSome_iff_exists.1
        (List.getLast?_isSome.2 hname)
      rw [hx]
      rfl
    rw [hlast] at hc
    exact isBlank_eq_false_of_isName hn c (List.mem_of_getLast? hc)

include hp in
/-- The qualified name of an attribute of a `urn:` schema whose parent and name are names of
the grammar of paths is written in that grammar, as the attribute's schema, parent and name. -/
theorem pathForm_qualifiedName :
    PathForm a.qualifiedName ⟨some a.schemaUri, a.parent, a.name⟩ := by
  obtain ⟨rest, hrest⟩ := hurn
  refine .inl ⟨?_, a.schemaUri, a.fullName, rfl, rfl,
    a.colon_not_mem_fullName (plainPath_of_isName hn hp), hn, ?_⟩
  · have hfour : ("urn:".toList).length = 4 := by decide
    unfold IsQualified AttributeLocation.qualifiedName
    rw [hrest, String.toList_append, String.toList_append, String.toList_append,
      List.append_assoc, List.append_assoc, List.take_left' hfour]
    decide
  · unfold AttributeLocation.fullName
    cases hq : a.parent with
    | none => rfl
    | some q => exact ⟨hp q (by simp [hq]), rfl⟩

end Qualified

end AttributePath

namespace AttributeLocation

/-- An attribute is named by a schema, a parent and a name when its own agree with them up to
ASCII case, a missing parent agreeing only with a missing one. -/
def NamedBy (a : AttributeLocation) (schema : String) (parent : Option String) (name : String) :
    Prop :=
  Text.eqIgnoreAsciiCase a.schemaUri schema = true ∧
    Option.Rel (fun p q => Text.eqIgnoreAsciiCase p q = true) a.parent parent ∧
    Text.eqIgnoreAsciiCase a.name name = true

/-- An attribute of a schema whose parent is `name`, both up to ASCII case. -/
def ChildOf (a : AttributeLocation) (schema name : String) : Prop :=
  Text.eqIgnoreAsciiCase a.schemaUri schema = true ∧
    a.parent.any (Text.eqIgnoreAsciiCase · name) = true

instance (a : AttributeLocation) (schema name : String) : Decidable (a.ChildOf schema name) :=
  inferInstanceAs (Decidable (_ ∧ _))

theorem namedBy_self (a : AttributeLocation) : a.NamedBy a.schemaUri a.parent a.name := by
  refine ⟨Text.eqIgnoreAsciiCase_self _, ?_, Text.eqIgnoreAsciiCase_self _⟩
  cases a.parent with
  | none => exact .none
  | some p => exact .some (Text.eqIgnoreAsciiCase_self p)

end AttributeLocation

namespace ResourceMapping

theorem namedBy_iff_keyOf {a : AttributeLocation} {schema : String} {parent : Option String}
    {name : String} : a.NamedBy schema parent name ↔ keyOf a = attrKey schema parent name := by
  have hparent : Option.Rel (fun p q => Text.eqIgnoreAsciiCase p q = true) a.parent parent ↔
      a.parent.map Text.lowerAscii = parent.map Text.lowerAscii := by
    cases a.parent <;> cases parent <;>
      simp [Option.rel_none_none, Option.rel_some_some, Text.eqIgnoreAsciiCase_iff]
  unfold AttributeLocation.NamedBy keyOf attrKey
  rw [Prod.mk.injEq, Prod.mk.injEq, Text.eqIgnoreAsciiCase_iff, Text.eqIgnoreAsciiCase_iff, hparent]

theorem find?_keyOf_eq_some_iff {attrs : List AttributeLocation}
    (h : attrs.Pairwise fun a b => keyOf a ≠ keyOf b) {k : String × Option String × String}
    {a : AttributeLocation} : attrs.find? (keyOf · = k) = some a ↔ a ∈ attrs ∧ keyOf a = k := by
  refine ⟨fun hf => ⟨List.mem_of_find?_eq_some hf, by simpa using List.find?_some hf⟩, ?_⟩
  rintro ⟨ha, rfl⟩
  induction attrs with
  | nil => cases ha
  | cons x xs ih =>
    rw [List.pairwise_cons] at h
    rw [List.find?_cons]
    by_cases hx : keyOf x = keyOf a
    · simp only [hx, decide_true, Option.some.injEq]
      rcases List.mem_cons.1 ha with rfl | ha
      · rfl
      · exact absurd hx (h.1 a ha)
    · simp only [hx, decide_false]
      rcases List.mem_cons.1 ha with rfl | ha
      · exact absurd rfl hx
      · exact ih h.2 ha

theorem eq_of_namedBy {attrs : List AttributeLocation}
    (h : attrs.Pairwise fun a b => keyOf a ≠ keyOf b) {a b : AttributeLocation}
    (ha : a ∈ attrs) (hb : b ∈ attrs) {schema : String} {parent : Option String} {name : String}
    (hna : a.NamedBy schema parent name) (hnb : b.NamedBy schema parent name) : b = a := by
  have hnodup : (attrs.map keyOf).Nodup := List.pairwise_map.2 h
  exact List.inj_on_of_nodup_map hnodup hb ha
    ((namedBy_iff_keyOf.1 hnb).trans (namedBy_iff_keyOf.1 hna).symm)

/-- The schemas a lookup searches: the one it is given, or else the core schema and then the
extensions in declaration order. -/
def searched (m : ResourceMapping) : Option String → List String
  | some s => [s]
  | none => m.schemas

/-- `S` is the first of `schemas` under which `P` holds of a declared attribute. -/
def FirstWith (m : ResourceMapping) (schemas : List String)
    (P : String → AttributeLocation → Prop) (S : String) : Prop :=
  ∃ pre post, schemas = pre ++ S :: post ∧ (∃ a ∈ m.attributes, P S a) ∧
    ∀ s ∈ pre, ∀ a ∈ m.attributes, ¬P s a

variable {m : ResourceMapping}

/-- A search of the schemas in order stops at the first under which `P` holds of an
attribute, when `f` finds something exactly there. -/
theorem findSome?_eq_some_iff_firstWith {β : Type} {schemas : List String}
    {P : String → AttributeLocation → Prop} {f : String → Option β}
    (hf : ∀ s, f s = none ↔ ∀ a ∈ m.attributes, ¬P s a) {b : β} :
    schemas.findSome? f = some b ↔ ∃ S, m.FirstWith schemas P S ∧ f S = some b := by
  rw [List.findSome?_eq_some_iff]
  constructor
  · rintro ⟨pre, S, post, rfl, hS, hpre⟩
    have hex : ∃ a ∈ m.attributes, P S a := by
      by_contra hnone
      rw [(hf S).2 fun a ha hP => hnone ⟨a, ha, hP⟩] at hS
      cases hS
    exact ⟨S, ⟨pre, post, rfl, hex, fun s hs => (hf s).1 (hpre s hs)⟩, hS⟩
  · rintro ⟨S, ⟨pre, post, rfl, -, hpre⟩, hS⟩
    exact ⟨pre, S, post, rfl, hS, fun s hs => (hf s).2 (hpre s hs)⟩

theorem not_firstWith_of_findSome?_eq_none {β : Type} {schemas : List String}
    {P : String → AttributeLocation → Prop} {f : String → Option β}
    (hf : ∀ s, f s = none ↔ ∀ a ∈ m.attributes, ¬P s a) (h : schemas.findSome? f = none) :
    ∀ s ∈ schemas, ∀ a ∈ m.attributes, ¬P s a :=
  fun s hs => (hf s).1 (List.findSome?_eq_none_iff.1 h s hs)

/-- The attribute under a schema with a parent and a name, found by its key. -/
def keyed (m : ResourceMapping) (parent : Option String) (name s : String) :
    Option AttributeLocation :=
  m.attributes.find? (keyOf · = attrKey s parent name)

theorem keyed_eq_none_iff {parent : Option String} {name s : String} :
    m.keyed parent name s = none ↔ ∀ a ∈ m.attributes, ¬a.NamedBy s parent name := by
  simp [keyed, List.find?_eq_none, namedBy_iff_keyOf]

/-- A lookup searches its schemas in order for the key of the parent and the name. -/
theorem resolve_eq (m : ResourceMapping) (schema parent : Option String) (name : String) :
    m.resolve schema parent name =
      match (m.searched schema).findSome? (m.keyed parent name) with
      | some a => .ok a
      | none => .error (.unknownAttribute ({ schema, parent, name } : AttributePath).render) := by
  have hkeyed : m.keyed parent name =
      Option.map (m.attributes[·]!) ∘ fun s => m.index.lookup (attrKey s parent name) := by
    funext s
    rw [Function.comp_apply, m.positions.map_lookup, keyed]
    congr 1
    funext a
    rw [Bool.eq_iff_iff, decide_eq_true_iff, beq_iff_eq]
  rw [hkeyed, ← List.map_findSome?]
  unfold resolve
  cases schema with
  | none =>
    dsimp only [searched]
    cases m.schemas.findSome? fun s => m.index.lookup (attrKey s parent name) <;> rfl
  | some s =>
    simp only [searched, List.findSome?_cons, List.findSome?_nil]
    cases m.index.lookup (attrKey s parent name) <;> rfl

section Resolve

variable (hkeys : m.attributes.Pairwise fun a b => keyOf a ≠ keyOf b)
include hkeys

/-- A lookup finds an attribute exactly when it is named by the parent, the name and the
first searched schema under which some attribute is. -/
theorem resolve_eq_ok_iff (schema parent : Option String) (name : String) (a : AttributeLocation) :
    m.resolve schema parent name = .ok a ↔
      ∃ S, m.FirstWith (m.searched schema) (fun s b => b.NamedBy s parent name) S ∧
        a ∈ m.attributes ∧ a.NamedBy S parent name := by
  have hf : ∀ s, m.keyed parent name s = none ↔
      ∀ b ∈ m.attributes, ¬(fun s b => b.NamedBy s parent name) s b := fun _ => keyed_eq_none_iff
  have hkeyed : ∀ S b, m.keyed parent name S = some b ↔ b ∈ m.attributes ∧ b.NamedBy S parent name :=
    fun S b => (find?_keyOf_eq_some_iff hkeys).trans (and_congr_right fun _ => namedBy_iff_keyOf.symm)
  rw [resolve_eq]
  cases hfound : (m.searched schema).findSome? (m.keyed parent name) with
  | none =>
    simp only [reduceCtorEq, false_iff]
    rintro ⟨S, ⟨pre, post, hs, ⟨b, hb, hnb⟩, -⟩, -⟩
    exact not_firstWith_of_findSome?_eq_none hf hfound S (by simp [hs]) b hb hnb
  | some b =>
    obtain ⟨S, hS, hSb⟩ := (findSome?_eq_some_iff_firstWith hf).1 hfound
    obtain ⟨hb, hnb⟩ := (hkeyed S b).1 hSb
    simp only [Except.ok.injEq]
    constructor
    · rintro rfl
      exact ⟨S, hS, hb, hnb⟩
    · -- the first schema is the same whichever way it is found
      rintro ⟨S', hS', ha, hna⟩
      have hfound' := (findSome?_eq_some_iff_firstWith hf).2 ⟨S', hS', (hkeyed S' a).2 ⟨ha, hna⟩⟩
      rw [hfound] at hfound'
      exact Option.some.inj hfound'

end Resolve

/-- A lookup fails exactly when no searched schema has an attribute with the parent and the
name, and the error names the path looked up. -/
theorem resolve_eq_error_iff (schema parent : Option String) (name : String) (e : QueryError) :
    m.resolve schema parent name = .error e ↔
      e = .unknownAttribute ({ schema, parent, name } : AttributePath).render ∧
        ∀ s ∈ m.searched schema, ∀ b ∈ m.attributes, ¬b.NamedBy s parent name := by
  rw [resolve_eq]
  cases hfound : (m.searched schema).findSome? (m.keyed parent name) with
  | none =>
    simp only [Except.error.injEq]
    exact ⟨fun h => ⟨h.symm, not_firstWith_of_findSome?_eq_none (fun _ => keyed_eq_none_iff) hfound⟩,
      fun h => h.1.symm⟩
  | some b =>
    simp only [reduceCtorEq, false_iff, not_and]
    intro _ hnone
    obtain ⟨S, ⟨pre, post, hs, ⟨c, hc, hnc⟩, -⟩, -⟩ :=
      (findSome?_eq_some_iff_firstWith (fun _ => keyed_eq_none_iff)).1 hfound
    exact hnone S (by simp [hs]) c hc hnc

/-- The attributes of a schema whose parent is `name`, in declaration order. -/
def childrenIn (m : ResourceMapping) (name s : String) : List AttributeLocation :=
  m.attributes.filter fun a => decide (a.ChildOf s name)

theorem childrenOf_eq (schemas : List String) (name : String) :
    m.childrenOf schemas name =
      schemas.findSome? fun s =>
        if m.childrenIn name s = [] then none else some (m.childrenIn name s) := by
  have hp : ∀ s, (m.attributes.filter fun a => Text.eqIgnoreAsciiCase a.schemaUri s &&
      a.parent.any (Text.eqIgnoreAsciiCase · name)) = m.childrenIn name s := fun s =>
    List.filter_congr fun a _ => Bool.eq_iff_iff.2 (by
      rw [decide_eq_true_iff, Bool.and_eq_true]
      rfl)
  unfold childrenOf
  congr 1
  funext s
  rw [hp s]
  cases m.childrenIn name s <;> simp

theorem mem_childrenIn {name s : String} {a : AttributeLocation} :
    a ∈ m.childrenIn name s ↔ a ∈ m.attributes ∧ a.ChildOf s name := by
  simp [childrenIn]

theorem children_eq_none_iff (name s : String) :
    (if m.childrenIn name s = [] then none else some (m.childrenIn name s)) = none ↔
      ∀ a ∈ m.attributes, ¬a.ChildOf s name := by
  constructor
  · intro h a ha hca
    have hne : m.childrenIn name s ≠ [] := List.ne_nil_of_mem (mem_childrenIn.2 ⟨ha, hca⟩)
    rw [if_neg hne] at h
    cases h
  · intro h
    rw [if_pos (List.eq_nil_iff_forall_not_mem.2 fun a ha =>
      h a (mem_childrenIn.1 ha).1 (mem_childrenIn.1 ha).2)]

/-- The complex attribute of a name: the attributes of the first searched schema that has
attributes with that parent. -/
theorem childrenOf_eq_some_iff (schemas : List String) (name : String)
    (children : List AttributeLocation) :
    m.childrenOf schemas name = some children ↔
      ∃ S, m.FirstWith schemas (fun s a => a.ChildOf s name) S ∧
        children = m.childrenIn name S := by
  rw [childrenOf_eq, findSome?_eq_some_iff_firstWith (children_eq_none_iff name)]
  refine exists_congr fun S => and_congr_right fun ⟨_, _, _, ⟨a, ha, hca⟩, _⟩ => ?_
  have hne : m.childrenIn name S ≠ [] := List.ne_nil_of_mem (mem_childrenIn.2 ⟨ha, hca⟩)
  split
  · contradiction
  · exact ⟨fun h => (Option.some.inj h).symm, fun h => h ▸ rfl⟩

theorem resolvePath_eq_attribute_iff (p : AttributePath) (a : AttributeLocation) :
    m.resolvePath p = .ok (.attribute a) ↔ m.resolve p.schema p.parent p.name = .ok a := by
  unfold resolvePath
  cases m.resolve p.schema p.parent p.name with
  | ok b => simp only [Except.ok.injEq, Resolved.attribute.injEq]
  | error e =>
    simp only [reduceCtorEq, iff_false]
    split
    · simp
    · split <;> simp

/-- A path that names no attribute fails as the lookup did when it has a parent, and is
otherwise the complex attribute of the searched schemas, if there is one. -/
theorem resolvePath_of_resolve_error {p : AttributePath} {e : QueryError}
    (hr : m.resolve p.schema p.parent p.name = .error e) :
    m.resolvePath p = if p.parent.isSome then .error e
      else (m.childrenOf (m.searched p.schema) p.name).elim (.error e)
        fun children => .ok (.complex p.name children) := by
  unfold resolvePath
  rw [hr]
  cases p.schema with
  | none =>
    simp only [searched]
    cases m.childrenOf m.schemas p.name <;> rfl
  | some s =>
    simp only [searched]
    cases m.childrenOf [s] p.name <;> rfl

/-- A path resolves to a complex attribute exactly when it has no parent, names no attribute,
and some searched schema has attributes whose parent it names: those of the first such schema,
in declaration order. -/
theorem resolvePath_eq_complex_iff (hkeys : m.attributes.Pairwise fun a b => keyOf a ≠ keyOf b)
    (p : AttributePath) (name : String) (children : List AttributeLocation) :
    m.resolvePath p = .ok (.complex name children) ↔
      (∀ s ∈ m.searched p.schema, ∀ b ∈ m.attributes, ¬b.NamedBy s p.parent p.name) ∧
        p.parent = none ∧ name = p.name ∧
        ∃ S, m.FirstWith (m.searched p.schema) (fun s a => a.ChildOf s p.name) S ∧
          children = m.childrenIn p.name S := by
  cases hr : m.resolve p.schema p.parent p.name with
  | ok b =>
    have hb := (resolvePath_eq_attribute_iff p b).2 hr
    rw [hb]
    simp only [Except.ok.injEq, reduceCtorEq, false_iff, not_and]
    intro hnone
    obtain ⟨S, ⟨pre, post, hs, -⟩, hb, hnb⟩ :=
      (resolve_eq_ok_iff hkeys p.schema p.parent p.name b).1 hr
    exact absurd hnb (hnone S (by simp [hs]) b hb)
  | error e =>
    have hnone := ((resolve_eq_error_iff p.schema p.parent p.name e).1 hr).2
    rw [resolvePath_of_resolve_error hr, and_iff_right hnone]
    cases hp : p.parent with
    | some q => simp
    | none =>
      simp only [Option.isSome_none, Bool.false_eq_true, if_false, true_and]
      cases hc : m.childrenOf (m.searched p.schema) p.name with
      | none =>
        simp only [Option.elim_none, reduceCtorEq, false_iff, not_and, not_exists]
        intro _ S hS heq
        exact absurd ((childrenOf_eq_some_iff _ _ _).2 ⟨S, hS, heq⟩) (by simp [hc])
      | some cs =>
        obtain ⟨S, hS, rfl⟩ := (childrenOf_eq_some_iff _ _ _).1 hc
        simp only [Option.elim_some, Except.ok.injEq, Resolved.complex.injEq]
        constructor
        · rintro ⟨rfl, rfl⟩
          exact ⟨rfl, S, hS, rfl⟩
        · rintro ⟨rfl, S', hS', rfl⟩
          have hc' := (childrenOf_eq_some_iff _ _ _).2 ⟨S', hS', rfl⟩
          rw [hc] at hc'
          exact ⟨rfl, Option.some.inj hc'⟩

/-- An attribute of a `urn:` schema whose parent and name are names of the grammar of paths is
found again from its qualified name. -/
theorem resolvePath_parse_qualifiedName
    (hkeys : m.attributes.Pairwise fun a b => keyOf a ≠ keyOf b) {a : AttributeLocation}
    (ha : a ∈ m.attributes) (hurn : ∃ rest, a.schemaUri = "urn:" ++ rest)
    (hn : AttributePath.isName a.name = true) (hp : ∀ q ∈ a.parent, AttributePath.isName q = true) :
    ∃ p, AttributePath.parse a.qualifiedName = .ok p ∧ m.resolvePath p = .ok (.attribute a) := by
  refine ⟨⟨some a.schemaUri, a.parent, a.name⟩, ?_, ?_⟩
  · rw [AttributePath.parse_eq_ok_iff, AttributePath.parse?_eq_some_iff,
      AttributePath.trim_qualifiedName hurn hn]
    exact AttributePath.pathForm_qualifiedName hurn hn hp
  · rw [resolvePath_eq_attribute_iff, resolve_eq_ok_iff hkeys]
    exact ⟨a.schemaUri, ⟨[], [], rfl, ⟨a, ha, a.namedBy_self⟩, by simp⟩, ha, a.namedBy_self⟩

/-- Looking up attributes in a mapping of a checked declaration agrees with a search of its
declared attributes up to ASCII case. The index maps the key of each attribute to its
position and holds no other key. A lookup finds an attribute exactly when it is the one
attribute named by the parent, the name and the first searched schema under which some
attribute is; otherwise it fails as an unknown attribute named by the path. A path resolves to
the attribute it names if there is one; else, when it has no parent, to the attributes whose
parent it names, in declaration order, under the first searched schema that has any. Every
attribute of a `urn:` schema whose parent and name are names of the grammar of paths is found
again from its qualified name. -/
theorem resolve_agrees_with_search {d : ResourceDecl} {m : ResourceMapping}
    (hd : ofDecl d = .ok m) :
    (∀ k i, m.index.lookup k = some i ↔ ∃ a, m.attributes[i]? = some a ∧ keyOf a = k) ∧
    (∀ schema parent name a, m.resolve schema parent name = .ok a ↔
      ∃ S, m.FirstWith (m.searched schema) (fun s b => b.NamedBy s parent name) S ∧
        a ∈ m.attributes ∧ a.NamedBy S parent name ∧
        ∀ b ∈ m.attributes, b.NamedBy S parent name → b = a) ∧
    (∀ schema parent name e, m.resolve schema parent name = .error e ↔
      e = .unknownAttribute ({ schema, parent, name } : AttributePath).render ∧
        ∀ s ∈ m.searched schema, ∀ b ∈ m.attributes, ¬b.NamedBy s parent name) ∧
    (∀ p a, m.resolvePath p = .ok (.attribute a) ↔ m.resolve p.schema p.parent p.name = .ok a) ∧
    (∀ p name children, m.resolvePath p = .ok (.complex name children) ↔
      (∀ s ∈ m.searched p.schema, ∀ b ∈ m.attributes, ¬b.NamedBy s p.parent p.name) ∧
        p.parent = none ∧ name = p.name ∧
        ∃ S, m.FirstWith (m.searched p.schema) (fun s a => a.ChildOf s p.name) S ∧
          children = m.childrenIn p.name S) ∧
    ∀ a ∈ m.attributes, (∃ rest, a.schemaUri = "urn:" ++ rest) →
      AttributePath.isName a.name = true → (∀ q ∈ a.parent, AttributePath.isName q = true) →
      ∃ p, AttributePath.parse a.qualifiedName = .ok p ∧ m.resolvePath p = .ok (.attribute a) := by
  have hkeys := (ofDecl_attributes hd).1
  refine ⟨lookup_index_iff hkeys, fun schema parent name a => ?_, resolve_eq_error_iff, resolvePath_eq_attribute_iff,
    resolvePath_eq_complex_iff hkeys, fun a ha hurn hn hp =>
      resolvePath_parse_qualifiedName hkeys ha hurn hn hp⟩
  rw [resolve_eq_ok_iff hkeys]
  refine exists_congr fun S => and_congr_right fun _ => ?_
  exact ⟨fun ⟨ha, hna⟩ => ⟨ha, hna, fun b hb hnb => eq_of_namedBy hkeys ha hb hna hnb⟩,
    fun ⟨ha, hna, _⟩ => ⟨ha, hna⟩⟩

end ResourceMapping

/-- The groups' mapping: its members are a complex attribute of the core schema. -/
theorem groups_resolve_agrees_with_search :
    ∃ m, ResourceMapping.ofDecl Catalog.groupDecl = .ok m ∧
    (∀ k i, m.index.lookup k = some i ↔
      ∃ a, m.attributes[i]? = some a ∧ ResourceMapping.keyOf a = k) ∧
    (∀ schema parent name a, m.resolve schema parent name = .ok a ↔
      ∃ S, m.FirstWith (m.searched schema) (fun s b => b.NamedBy s parent name) S ∧
        a ∈ m.attributes ∧ a.NamedBy S parent name ∧
        ∀ b ∈ m.attributes, b.NamedBy S parent name → b = a) ∧
    (∀ schema parent name e, m.resolve schema parent name = .error e ↔
      e = .unknownAttribute ({ schema, parent, name } : AttributePath).render ∧
        ∀ s ∈ m.searched schema, ∀ b ∈ m.attributes, ¬b.NamedBy s parent name) ∧
    (∀ p a, m.resolvePath p = .ok (.attribute a) ↔ m.resolve p.schema p.parent p.name = .ok a) ∧
    (∀ p name children, m.resolvePath p = .ok (.complex name children) ↔
      (∀ s ∈ m.searched p.schema, ∀ b ∈ m.attributes, ¬b.NamedBy s p.parent p.name) ∧
        p.parent = none ∧ name = p.name ∧
        ∃ S, m.FirstWith (m.searched p.schema) (fun s a => a.ChildOf s p.name) S ∧
          children = m.childrenIn p.name S) ∧
    ∀ a ∈ m.attributes, (∃ rest, a.schemaUri = "urn:" ++ rest) →
      AttributePath.isName a.name = true → (∀ q ∈ a.parent, AttributePath.isName q = true) →
      ∃ p, AttributePath.parse a.qualifiedName = .ok p ∧ m.resolvePath p = .ok (.attribute a) := by
  obtain ⟨m, hm⟩ : ∃ m, ResourceMapping.ofDecl Catalog.groupDecl = .ok m := ⟨_, rfl⟩
  exact ⟨m, hm, ResourceMapping.resolve_agrees_with_search hm⟩

end ScimQuery
