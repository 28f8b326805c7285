import ScimQuery.Proofs.PathGrammar
import ScimQuery.Proofs.RowOrder

/-! # The labels of the row statement

A plan labels the columns of its row statement one for one: `id` for the root's id column,
then each projected attribute by its label, its full name in the core schema and its
qualified name in an extension.

The labels need not be distinct. A catalog refuses two attributes only when their schema,
parent and name agree up to ASCII case, while a label joins a parent and a name with a dot,
or a schema and a full name with a colon, and declared names are not read against the
grammar of paths. A core attribute without parent named `id` repeats the root's label. When
every declared parent and name is plain, with neither a dot nor a colon, as every name of the
grammar of paths is, a label gives back the attribute's key, and that is the only repetition.
-/

namespace ScimQuery

/-- A name with neither a dot nor a colon. -/
def PlainName (s : String) : Prop := '.' ∉ s.toList ∧ ':' ∉ s.toList

/-- A parent and a name that are both plain. -/
def PlainPath (parent : Option String) (name : String) : Prop :=
  PlainName name ∧ ∀ p ∈ parent, PlainName p

section Outcome

variable {ε α β : Type}

/-- A fold whose every step on an element of the list keeps an invariant keeps it to the
end. -/
theorem foldlM_eq_ok_invariant {f : β → α → Except ε β} {P : β → Prop} :
    ∀ {l : List α} {init r : β}, (∀ b a c, a ∈ l → P b → f b a = .ok c → P c) → P init →
      l.foldlM f init = .ok r → P r := by
  intro l
  induction l with
  | nil =>
    intro init r _ hinit h
    simp only [List.foldlM_nil, pure_eq_ok] at h
    exact h ▸ hinit
  | cons a l ih =>
    intro init r hstep hinit h
    simp only [List.foldlM_cons, bind_eq_ok] at h
    obtain ⟨b, hb, h⟩ := h
    exact ih (fun b' a' c' ha' => hstep b' a' c' (List.mem_cons_of_mem _ ha'))
      (hstep init a b List.mem_cons_self hinit hb) h

end Outcome

theorem Text.lowerAscii_eq_of_eqIgnoreAsciiCase {s t : String}
    (h : Text.eqIgnoreAsciiCase s t = true) : Text.lowerAscii s = Text.lowerAscii t := by
  unfold Text.eqIgnoreAsciiCase at h
  rcases Bool.or_eq_true_iff.1 h with h | h
  · rw [beq_iff_eq.1 h]
  · exact beq_iff_eq.1 (Bool.and_eq_true_iff.1 h).2

namespace AttributeLocation

theorem fullName_eq_id_iff (a : AttributeLocation) :
    a.fullName = "id" ↔ a.parent = none ∧ a.name = "id" := by
  unfold fullName
  cases a.parent with
  | none => simp
  | some p =>
    simp only [reduceCtorEq, false_and, iff_false]
    intro h
    have hdot : '.' ∈ (p ++ "." ++ a.name).toList := by simp [String.toList_append]
    rw [h] at hdot
    exact absurd hdot (by decide)

theorem colon_not_mem_fullName {a : AttributeLocation} (ha : PlainPath a.parent a.name) :
    ':' ∉ a.fullName.toList := by
  unfold fullName
  cases hp : a.parent with
  | none => exact ha.1.2
  | some p =>
    have hpp := ha.2 p (by simp [hp])
    simp [String.toList_append, hpp.2, ha.1.2]

theorem splitOn_fullName {a : AttributeLocation} (ha : PlainPath a.parent a.name) :
    a.fullName.toList.splitOn '.' = (a.parent.toList ++ [a.name]).map String.toList := by
  unfold fullName
  cases hp : a.parent with
  | none => simp [List.splitOn_eq_singleton ha.1.1]
  | some p =>
    have hpp := ha.2 p (by simp [hp])
    rw [AttributePath.splitOn_dot_append hpp.1 ha.1.1]
    simp

theorem parent_name_eq_of_fullName_eq {a b : AttributeLocation} (ha : PlainPath a.parent a.name)
    (hb : PlainPath b.parent b.name) (h : a.fullName = b.fullName) :
    a.parent = b.parent ∧ a.name = b.name := by
  have hparts := splitOn_fullName ha
  rw [h, splitOn_fullName hb, List.map_inj_right (fun _ _ => String.toList_inj.1)] at hparts
  obtain ⟨hparent, hname⟩ := List.append_inj' hparts rfl
  refine ⟨?_, (List.singleton_inj.1 hname).symm⟩
  cases hpa : a.parent <;> cases hpb : b.parent <;> simp_all

theorem colon_mem_qualifiedName (a : AttributeLocation) : ':' ∈ a.qualifiedName.toList := by
  simp [qualifiedName, String.toList_append]

theorem fullName_ne_qualifiedName {a : AttributeLocation} (ha : PlainPath a.parent a.name)
    (b : AttributeLocation) : a.fullName ≠ b.qualifiedName := fun h =>
  colon_not_mem_fullName ha (h ▸ colon_mem_qualifiedName b)

theorem splitLastColon_qualifiedName {a : AttributeLocation} (ha : PlainPath a.parent a.name) :
    AttributePath.splitLastColon a.qualifiedName = some (a.schemaUri, a.fullName) :=
  AttributePath.splitLastColon_append _ (colon_not_mem_fullName ha)

end AttributeLocation

namespace ResourceMapping

theorem locationOf_parent_name {d : ResourceDecl} {tables : List TableReference}
    {joins : List (String × JoinDescriptor)} {a : AttributeDecl} {loc : AttributeLocation}
    (h : locationOf d tables joins a = .ok loc) : loc.parent = a.parent ∧ loc.name = a.name := by
  simp only [locationOf] at h
  split at h
  · obtain ⟨_, h, -⟩ := bind_eq_ok.1 h
    cases h
  · obtain ⟨_, -, h⟩ := bind_eq_ok.1 h
    split at h
    · obtain ⟨_, -, h⟩ := bind_eq_ok.1 h
      cases pure_eq_ok.1 h
      exact ⟨rfl, rfl⟩
    · obtain ⟨_, -, h⟩ := bind_eq_ok.1 h
      cases pure_eq_ok.1 h
      exact ⟨rfl, rfl⟩

/-- The attributes of a mapping have pairwise distinct keys, and each has the parent and the
name of a declared attribute. -/
theorem ofDecl_attributes {d : ResourceDecl} {m : ResourceMapping} (h : ofDecl d = .ok m) :
    m.attributes.Pairwise (fun a b => keyOf a ≠ keyOf b) ∧
      ∀ a ∈ m.attributes, ∃ ad ∈ d.attributes, a.parent = ad.parent ∧ a.name = ad.name := by
  simp only [ofDecl, bind_eq_ok, pure_eq_ok] at h
  obtain ⟨tables, -, joins, -, attributes, hattrs, -, -, -, -, rfl⟩ := h
  refine foldlM_eq_ok_invariant (P := fun (acc : AttributeIndex) =>
    acc.attributes.Pairwise (fun a b => keyOf a ≠ keyOf b) ∧
    ∀ a ∈ acc.attributes, ∃ ad ∈ d.attributes, a.parent = ad.parent ∧ a.name = ad.name) ?_
    ⟨List.Pairwise.nil, by simp [AttributeIndex.empty]⟩ hattrs
  rintro acc ad acc' had ⟨hkeys, hfrom⟩ hstep
  obtain ⟨loc, hloc, hstep⟩ := bind_eq_ok.1 hstep
  split at hstep
  · rename_i hnew
    cases pure_eq_ok.1 hstep
    obtain ⟨hp, hn⟩ := locationOf_parent_name hloc
    refine ⟨List.pairwise_append.2 ⟨hkeys, List.pairwise_singleton _ _, ?_⟩, ?_⟩
    · intro x hx y hy
      rw [List.mem_singleton.1 hy]
      exact (acc.positions.lookup_eq_none_iff _).1 hnew x hx
    · intro x hx
      rcases List.mem_append.1 hx with hx | hx
      · exact hfrom x hx
      · rw [List.mem_singleton.1 hx]
        exact ⟨ad, had, hp, hn⟩
  · cases hstep

/-- With distinct keys, the index maps exactly the key of each attribute to its position. -/
theorem lookup_index_iff {m : ResourceMapping}
    (hkeys : m.attributes.Pairwise fun a b => keyOf a ≠ keyOf b)
    (k : String × Option String × String) (i : Nat) :
    m.index.lookup k = some i ↔ ∃ a, m.attributes[i]? = some a ∧ keyOf a = k :=
  m.positions.lookup_eq_some_iff (List.pairwise_map.2 hkeys) k i

section Labels

variable (m : ResourceMapping)

/-- The label `id` is that of a core attribute without parent named `id`, and of no
other. -/
theorem label_eq_id_iff (a : AttributeLocation) :
    m.label a = "id" ↔
      Text.eqIgnoreAsciiCase a.schemaUri m.schema = true ∧ a.parent = none ∧ a.name = "id" := by
  unfold label
  by_cases hcore : Text.eqIgnoreAsciiCase a.schemaUri m.schema = true
  · rw [if_pos hcore, a.fullName_eq_id_iff]
    simp only [hcore, true_and]
  · rw [if_neg hcore]
    simp only [hcore, Bool.false_eq_true, false_and, iff_false]
    intro h
    have hcolon := a.colon_mem_qualifiedName
    rw [h] at hcolon
    exact absurd hcolon (by decide)

theorem keyOf_eq_of_label_eq {a b : AttributeLocation} (ha : PlainPath a.parent a.name)
    (hb : PlainPath b.parent b.name) (h : m.label a = m.label b) : keyOf a = keyOf b := by
  unfold label at h
  -- a core label has no colon and an extension's has one, so both are of one kind
  by_cases hca : Text.eqIgnoreAsciiCase a.schemaUri m.schema = true <;>
    by_cases hcb : Text.eqIgnoreAsciiCase b.schemaUri m.schema = true
  · rw [if_pos hca, if_pos hcb] at h
    obtain ⟨hp, hn⟩ := AttributeLocation.parent_name_eq_of_fullName_eq ha hb h
    simp only [keyOf, attrKey, hp, hn, Text.lowerAscii_eq_of_eqIgnoreAsciiCase hca,
      Text.lowerAscii_eq_of_eqIgnoreAsciiCase hcb]
  · rw [if_pos hca, if_neg hcb] at h
    exact absurd h (AttributeLocation.fullName_ne_qualifiedName ha b)
  · rw [if_neg hca, if_pos hcb] at h
    exact absurd h.symm (AttributeLocation.fullName_ne_qualifiedName hb a)
  · rw [if_neg hca, if_neg hcb] at h
    have hsplit := AttributeLocation.splitLastColon_qualifiedName ha
    rw [h, AttributeLocation.splitLastColon_qualifiedName hb] at hsplit
    obtain ⟨hs, hf⟩ := Prod.mk.inj (Option.some.inj hsplit)
    obtain ⟨hp, hn⟩ := AttributeLocation.parent_name_eq_of_fullName_eq ha hb hf.symm
    simp only [keyOf, attrKey, hs, hp, hn]

end Labels

/-- A mapping of a declaration whose parents and names are plain labels its projected
attributes distinctly. -/
theorem projected_labels_nodup {d : ResourceDecl} {m : ResourceMapping} (hd : ofDecl d = .ok m)
    (hplain : ∀ a ∈ d.attributes, PlainPath a.parent a.name) :
    (m.projected.map m.label).Nodup := by
  obtain ⟨hkeys, hfrom⟩ := ofDecl_attributes hd
  have hplain' : ∀ a ∈ m.attributes, PlainPath a.parent a.name := by
    intro a ha
    obtain ⟨ad, had, hp, hn⟩ := hfrom a ha
    rw [hp, hn]
    exact hplain ad had
  have hsub : m.projected.Sublist m.attributes := List.filter_sublist
  rw [List.nodup_iff_pairwise_ne, List.pairwise_map]
  refine (hkeys.sublist hsub).imp_of_mem ?_
  intro a b ha hb hkey hlabel
  exact hkey (m.keyOf_eq_of_label_eq (hplain' a (hsub.subset ha)) (hplain' b (hsub.subset hb))
    hlabel)

/-- A plan labels the columns of its row statement one for one: `id` the root's id column,
then each projected attribute's column by the attribute's label. -/
theorem plan_labels_select {m : ResourceMapping} {settings : QuerySettings} {tenant : String}
    {filter : Option FilterNode} {sortBy : Option String} {sortOrder : Option SortOrder}
    {pageRequest : PageRequest} {pq : PlannedQuery}
    (h : m.plan settings tenant filter sortBy sortOrder pageRequest = .ok pq) :
    pq.labels = "id" :: m.projected.map m.label ∧
      pq.rows.query.select.map Prod.fst = m.idExpr :: m.projected.map (·.columnExpr) := by
  obtain ⟨compiled, sort, ordered, assocs, -, -, -, -, rfl⟩ := plan_eq_ok.1 h
  simp only [assemble_rows_query, rowStatement_select_fst]
  exact ⟨rfl, rfl⟩

end ResourceMapping

theorem Registry.exists_mem_ofDecl {c : CatalogDecl} {reg : Registry}
    (h : Registry.ofDecl c = .ok reg) :
    ∀ m ∈ reg.resources, ∃ d ∈ c.resources, ResourceMapping.ofDecl d = .ok m := by
  simp only [Registry.ofDecl, bind_eq_ok] at h
  obtain ⟨rs, hrs, h⟩ := h
  simp only [Registry.ofMappings, bind_eq_ok, pure_eq_ok] at h
  obtain ⟨_, -, rfl⟩ := h
  exact exists_of_mapM_eq_ok hrs

/-- The labels of a plan stand beside the columns of its row statement, one for one: `id`
beside the root's id column, then the label of each projected attribute beside its column.
The label `id` comes again exactly when a projected core attribute without parent is named
`id`; when the catalog declares only plain parents and names, that is the only way two labels
can agree. -/
theorem plan_labels_align_columns {c : CatalogDecl} {reg : Registry}
    (hreg : Registry.ofDecl c = .ok reg) (settings : QuerySettings) (r : QueryRequest)
    {pq : PlannedQuery} (h : reg.plan settings r = .ok pq) :
    ∃ m, reg.get r.resource = .ok m ∧
      pq.labels = "id" :: m.projected.map m.label ∧
      pq.rows.query.select.map Prod.fst = m.idExpr :: m.projected.map (·.columnExpr) ∧
      pq.labels.length = pq.rows.query.select.length ∧
      ("id" ∈ pq.labels.tail ↔ ∃ a ∈ m.projected,
        Text.eqIgnoreAsciiCase a.schemaUri m.schema = true ∧ a.parent = none ∧ a.name = "id") ∧
      ((∀ d ∈ c.resources, ∀ a ∈ d.attributes, PlainPath a.parent a.name) →
        (pq.labels.Nodup ↔ ¬∃ a ∈ m.projected,
          Text.eqIgnoreAsciiCase a.schemaUri m.schema = true ∧ a.parent = none ∧ a.name = "id")) := by
  simp only [Registry.plan, bind_eq_ok] at h
  obtain ⟨m, hm, h⟩ := h
  obtain ⟨hlabels, hselect⟩ := ResourceMapping.plan_labels_select h
  have hid : "id" ∈ pq.labels.tail ↔ ∃ a ∈ m.projected,
      Text.eqIgnoreAsciiCase a.schemaUri m.schema = true ∧ a.parent = none ∧ a.name = "id" := by
    rw [hlabels, List.tail_cons, List.mem_map]
    exact exists_congr fun a => and_congr_right fun _ => m.label_eq_id_iff a
  refine ⟨m, hm, hlabels, hselect, ?_, hid, fun hplain => ?_⟩
  · rw [← List.length_map (f := Prod.fst), hselect, hlabels]
    simp
  · obtain ⟨d, hd, hdm⟩ := Registry.exists_mem_ofDecl hreg m (Registry.get_mem hm)
    have htail := ResourceMapping.projected_labels_nodup hdm (hplain d hd)
    rw [← hid, hlabels, List.nodup_cons, List.tail_cons]
    exact ⟨fun h => h.1, fun h => ⟨h, htail⟩⟩

/-- The groups of the realm `acme`, first page. -/
theorem groups_plan_labels_align_columns :
    ∃ reg pq, Registry.ofDecl ⟨[Catalog.groupDecl]⟩ = .ok reg ∧
      reg.plan {} { resource := "Groups", tenant := "acme" } = .ok pq ∧
      ∃ m, reg.get "Groups" = .ok m ∧
        pq.labels = "id" :: m.projected.map m.label ∧
        pq.rows.query.select.map Prod.fst = m.idExpr :: m.projected.map (·.columnExpr) ∧
        pq.labels.length = pq.rows.query.select.length ∧
        ("id" ∈ pq.labels.tail ↔ ∃ a ∈ m.projected,
          Text.eqIgnoreAsciiCase a.schemaUri m.schema = true ∧ a.parent = none ∧ a.name = "id") ∧
        ((∀ d ∈ [Catalog.groupDecl], ∀ a ∈ d.attributes, PlainPath a.parent a.name) →
          (pq.labels.Nodup ↔ ¬∃ a ∈ m.projected,
            Text.eqIgnoreAsciiCase a.schemaUri m.schema = true ∧ a.parent = none ∧
              a.name = "id")) := by
  obtain ⟨reg, pq, hreg, h⟩ : ∃ reg pq, Registry.ofDecl ⟨[Catalog.groupDecl]⟩ = .ok reg ∧
      reg.plan {} { resource := "Groups", tenant := "acme" } = .ok pq :=
    ⟨_, _, rfl, rfl⟩
  exact ⟨reg, pq, hreg, h, plan_labels_align_columns hreg _ _ h⟩

/-- A resource with a core attribute named `id` held in a column other than the id column. -/
def idNamedDecl : ResourceDecl where
  name := "Thing"
  schema := "urn:t"
  root := ⟨"THING", "t"⟩
  tenantColumn := "REALM_ID"
  attributes := [{ name := "id", column := "NAME" }]

/-- Its catalog passes its checks, and its plan labels two columns `id`. -/
theorem plan_labels_repeat_id :
    ∃ reg pq, Registry.ofDecl ⟨[idNamedDecl]⟩ = .ok reg ∧
      reg.plan {} { resource := "Thing", tenant := "r" } = .ok pq ∧
      pq.labels = ["id", "id"] ∧ ¬pq.labels.Nodup :=
  ⟨_, _, rfl, rfl, rfl, List.not_nodup_pair _⟩

end ScimQuery
