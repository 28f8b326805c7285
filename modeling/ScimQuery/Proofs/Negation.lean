import ScimQuery.Proofs.ThreeValued
import ScimQuery.Proofs.OuterJoins
import ScimQuery.Proofs.FilterReference

/-! # Negated filters

A negated filter is compiled in one of two ways. When the filter's joins give at most one
row per resource, its predicate is negated in place, `NOT (p)`, over the filter's joins.
Otherwise the negation is taken over whole resources: `id NOT IN (SELECT id … WHERE p)`, a
subquery over the filter's own joins, and the statement around it joins nothing for it.

Against a database that evaluates conditions under three-valued logic, whose root ids are
never NULL and tell the root rows apart, whose joins that are not to-many meet at most one
row, and whose joins are all outer joins, the ids the count statement of `not f` counts are
ids of the tenant that pass the restrictions, and none of them is counted for `f`. They are
all the others when the negation is taken over whole resources, and when `f` tests presence
only: presence is never UNKNOWN, so `NOT` in place leaves out only what `f` keeps. A
comparison with NULL, by contrast, is UNKNOWN, and `NOT` in place keeps it so.

Everything is decided one root row at a time: a root row is counted when some joined row
from it makes the condition TRUE. The statements of `f` and of `not f` join different sets,
but along outer joins both reach the same rows on the aliases the filter reads
(`exists_mem_joinAll_shared`).
-/

namespace ScimQuery

open Standard Standard.Database JoinOrder

namespace ResourceMapping

variable {m : ResourceMapping}

/-- The condition that keeps the rows of a tenant that pass the static restrictions. -/
def guard (m : ResourceMapping) (tenant : String) : Sql.Expr :=
  m.restrictions.foldl Sql.Expr.and (m.tenantExpr tenant)

theorem condition_some (m : ResourceMapping) (tenant : String) (c : CompiledFilter) :
    m.condition tenant (some c) = Sql.Expr.and (m.guard tenant) c.predicate := rfl

theorem condition_none (m : ResourceMapping) (tenant : String) :
    m.condition tenant none = m.guard tenant := rfl

theorem guard_scopedIn
    (hr : ∀ e ∈ m.restrictions, e.scopedIn [m.root.aliasName] = true) (tenant : String) :
    (m.guard tenant).scopedIn [m.root.aliasName] = true :=
  Compile.scopedIn_foldl (fun _ _ => Compile.scopedIn_and)
    (by simp [tenantExpr, TableReference.column, Sql.Expr.eq, Sql.Expr.scopedIn]) hr

/-- The subquery of a negation over whole resources: the ids of the root rows from which a
joined row along `ordered` makes `p` TRUE. -/
def matchingIds (m : ResourceMapping) (ordered : List JoinDescriptor) (p : Sql.Expr) : Sql.Query :=
  ({ select := [(m.idExpr, none)], source := some m.root.toRef,
     joins := ordered.map JoinDescriptor.toJoin } : Sql.Query).andWhere p

theorem OrderedJoins.exists_same {s : JoinSet} {ordered : List JoinDescriptor}
    (ho : OrderedJoins m s ordered) {k : JoinDescriptor} (hk : s.contains k = true) :
    ∃ o ∈ ordered, o.same k = true := by
  obtain ⟨o, ho', hok⟩ := (JoinSet.contains_iff s k).1 hk
  exact ⟨o, ho.perm.mem_iff.2 ho', hok⟩

theorem OrderedJoins.contains {s : JoinSet} {ordered : List JoinDescriptor}
    (ho : OrderedJoins m s ordered) {k : JoinDescriptor} (hk : k ∈ ordered) : s.contains k = true :=
  (JoinSet.contains_iff s k).2 ⟨k, ho.perm.mem_iff.1 hk, k.same_self⟩

theorem OrderedJoins.outer {s : JoinSet} {ordered : List JoinDescriptor}
    (ho : OrderedJoins m s ordered) (hw : WholeChains m s)
    (houter : ∀ a ∈ m.attributes, ∀ k ∈ a.requiredJoins, k.outer = true) :
    ∀ o ∈ ordered, o.outer = true := by
  intro o hoO
  obtain ⟨a, ha, hoa, -⟩ := hw.whole o (ho.perm.mem_iff.1 hoO)
  exact houter a ha o hoa

theorem contains_empty_union (s : JoinSet) (k : JoinDescriptor) :
    (JoinSet.union {} s).contains k = s.contains k := by
  rw [JoinSet.union, JoinSet.contains_extend]
  simp [JoinSet.contains_eq_any]

/-- A plan runs once its filter compiles, its sort key resolves and its associations are
planned: its joins, whole chains of a checked mapping, can always be ordered. -/
theorem plan_of_stages (hm : Consistent m) {filter : Option FilterNode} {sortBy : Option String}
    {sortOrder : Option SortOrder} {compiled : Option CompiledFilter} {sort : Option SortKey}
    {assocs : List AssociationPlan} (hc : filter.mapM (compileFilter m) = .ok compiled)
    (hs : sortBy.mapM (SortKey.resolve m · (sortOrder.getD .ascending)) = .ok sort)
    (ha : m.associations.mapM (AssociationPlan.ofAssociation m) = .ok assocs)
    (settings : QuerySettings) (tenant : String) (pageRequest : PageRequest) :
    ∃ ordered, OrderedJoins m (m.statementJoins compiled sort) ordered ∧
      m.plan settings tenant filter sortBy sortOrder pageRequest =
        .ok (m.assemble tenant (pageRequest.resolve settings) compiled sort ordered assocs) := by
  have hw := statementJoins_whole_of_ok hc hs
  obtain ⟨ordered, hlin⟩ := hw.linearize_ok hm
  exact ⟨ordered, orderedJoins_of_linearize hw hlin,
    plan_eq_ok.2 ⟨compiled, sort, ordered, assocs, hc, hs, hlin, ha, rfl⟩⟩

end ResourceMapping

namespace Compile

variable {m : ResourceMapping} {f : FilterNode} {cf : CompiledFilter}

theorem node_of_compileFilter (h : compileFilter m f = .ok cf) :
    node m f {} = .ok (cf.predicate, cf.joins) := by
  simp only [compileFilter, bind_eq_ok, pure_eq_ok] at h
  obtain ⟨⟨p, js⟩, hp, rfl⟩ := h
  exact hp

/-- Over joins that give at most one row per resource, a negated filter is the filter's
predicate negated in place, over the filter's joins. -/
theorem compileFilter_not_of_single (h : compileFilter m f = .ok cf)
    (hs : cf.joins.hasToMany = false) :
    compileFilter m (.not f) = .ok ⟨Sql.Expr.negate cf.predicate, JoinSet.union {} cf.joins⟩ := by
  simp [compileFilter, node, node_of_compileFilter h, hs, pure_eq_ok]

/-- Over joins that may give many rows per resource, a negated filter keeps the ids the
subquery over the filter's own ordered joins does not select, and joins nothing. -/
theorem compileFilter_not_of_toMany (h : compileFilter m f = .ok cf)
    (hs : cf.joins.hasToMany = true) {ordered : List JoinDescriptor}
    (hlin : linearize m.root cf.joins.joins = .ok ordered) :
    compileFilter m (.not f) =
      .ok ⟨.inQuery m.idExpr (m.matchingIds ordered cf.predicate) true, {}⟩ := by
  simp [compileFilter, node, node_of_compileFilter h, hs, hlin, ResourceMapping.matchingIds]

end Compile

namespace Standard.Database

open ResourceMapping

variable {V R : Type} [LinearOrder V] {db : Database V R} {c : Conditions V} {m : ResourceMapping}

/-! ### Three-valued truth of compiled conditions -/

/-- Presence of a value is never UNKNOWN: a NULL column fails `IS NOT NULL`, which makes the
conjunction with the comparison to the empty text FALSE. -/
theorem truth_presence_ne_none (h3 : db.ThreeValued c) (a : AttributeLocation) (τ : Joined R) :
    db.tables.truth c (Compile.presence a) τ ≠ none := by
  unfold Compile.presence
  split
  · by_cases hnull : db.tables.term c a.columnExpr τ = db.null
    · simp [Tables.truth, hnull]
    · simp [Tables.truth, Tables.compareTruth, Tables.term, hnull, h3.text_ne_null]
  · simp [Tables.truth]

omit [LinearOrder V] in
theorem term_idExpr {τ : Joined R} {r : R} (h : τ m.root.aliasName = some r) :
    db.tables.term c m.idExpr τ = db.cell r m.idColumn := by
  simp [ResourceMapping.idExpr_eq, Sql.Expr.col, Tables.term, Tables.column, h, tables]

theorem Keyed.cell_injective (hkey : db.Keyed m) {r r' : R} (hr : r ∈ db.rows m.root.table)
    (hr' : r' ∈ db.rows m.root.table) (h : db.cell r m.idColumn = db.cell r' m.idColumn) :
    r = r' :=
  hkey.eq_of_text_eq hr hr' (by rw [h])

/-- The rows the subquery of a negation selects: the joined rows from the root rows along its
joins that make the negated predicate TRUE. -/
theorem matched_matchingIds (ordered : List JoinDescriptor) (p : Sql.Expr) :
    db.tables.matched c (m.matchingIds ordered p) =
      (db.joinAll (ordered.map (·.toJoin)) (db.start (some m.root.toRef))).filter
        fun σ => db.tables.truth c p σ = some true := by
  simp [ResourceMapping.matchingIds, Sql.Query.andWhere, Tables.matched, Tables.passes,
    joinedAll_toJoin, tables_start]

/-- At a joined row standing at a root row, `id NOT IN (subquery)` is never UNKNOWN, and it is
TRUE exactly when no joined row of the subquery from that root row makes the negated
predicate TRUE: the ids are never NULL and tell the root rows apart. -/
theorem truth_notIn (hkey : db.Keyed m) {ordered : List JoinDescriptor}
    (hp : Placed [m.root] ordered) (hf : Fresh [m.root] ordered) (p : Sql.Expr) {τ : Joined R}
    {r : R} (hr : r ∈ db.rows m.root.table) (hτ : τ m.root.aliasName = some r) :
    db.tables.truth c (.inQuery m.idExpr (m.matchingIds ordered p) true) τ =
      some (!decide (∃ σ ∈ db.joinAll (ordered.map fun j : JoinDescriptor => j.toJoin)
        [Joined.single m.root r], db.tables.truth c p σ = some true)) := by
  have hfirst : Tables.firstItem (m.matchingIds ordered p) = m.idExpr := rfl
  have hrow : ∀ σ ∈ db.tables.matched c (m.matchingIds ordered p), ∃ r' ∈ db.rows m.root.table,
      db.tables.term c m.idExpr σ = db.cell r' m.idColumn ∧
        σ ∈ db.joinAll (ordered.map (·.toJoin)) [Joined.single m.root r'] ∧
        db.tables.truth c p σ = some true := by
    intro σ hσ
    rw [matched_matchingIds, List.mem_filter, mem_joinAll_start, decide_eq_true_eq] at hσ
    obtain ⟨⟨r', hr', hσ'⟩, hpσ⟩ := hσ
    exact ⟨r', hr', term_idExpr (root_of_mem_joinAll_single hp hf hσ').1, hσ', hpσ⟩
  have hvalues : ∀ v ∈ (db.tables.matched c (m.matchingIds ordered p)).map
      (db.tables.term c m.idExpr), v ≠ db.tables.null := by
    intro v hv
    obtain ⟨σ, hσ, rfl⟩ := List.mem_map.1 hv
    obtain ⟨r', hr', hid, -⟩ := hrow σ hσ
    rw [hid, tables_null]
    exact hkey.idNotNull r' hr'
  have hx : db.cell r m.idColumn ≠ db.tables.null := by
    rw [tables_null]
    exact hkey.idNotNull r hr
  have hmem : db.cell r m.idColumn ∈ (db.tables.matched c (m.matchingIds ordered p)).map
      (db.tables.term c m.idExpr) ↔ ∃ σ ∈ db.joinAll (ordered.map (·.toJoin)) [Joined.single m.root r],
        db.tables.truth c p σ = some true := by
    constructor
    · intro hin
      obtain ⟨σ, hσ, hid⟩ := List.mem_map.1 hin
      obtain ⟨r', hr', hid', hσ', hpσ⟩ := hrow σ hσ
      obtain rfl := hkey.cell_injective hr hr' (hid.symm.trans hid')
      exact ⟨σ, hσ', hpσ⟩
    · rintro ⟨σ, hσ, hpσ⟩
      refine List.mem_map.2 ⟨σ, ?_, term_idExpr (root_of_mem_joinAll_single hp hf hσ).1⟩
      rw [matched_matchingIds, List.mem_filter, mem_joinAll_start, decide_eq_true_eq]
      exact ⟨⟨r, hr, hσ⟩, hpσ⟩
  simp only [Tables.truth, hfirst, term_idExpr hτ, Tables.memberTruth_of_ne_null _ hx hvalues,
    Option.map_some, hmem, Bool.bne_true]

/-! ### Counted ids, one root row at a time -/

/-- The ids a count statement over placed joins counts: those of the root rows from which a
joined row makes its condition TRUE. -/
theorem mem_ids_countStatement (h3 : db.ThreeValued c) {ordered : List JoinDescriptor}
    (hp : Placed [m.root] ordered) (hf : Fresh [m.root] ordered) (cond : Sql.Expr) (v : V) :
    v ∈ (db.selected (m.countStatement ordered cond)).map (db.value m.idExpr) ↔
      ∃ r ∈ db.rows m.root.table, db.cell r m.idColumn = v ∧
        ∃ τ ∈ db.joinAll (ordered.map (·.toJoin)) [Joined.single m.root r],
          db.tables.truth c cond τ = some true := by
  rw [h3.selected_eq]
  simp only [countStatement, List.mem_map, List.mem_filter, Option.all_some, decide_eq_true_eq,
    mem_joinAll_start]
  constructor
  · rintro ⟨τ, ⟨⟨r, hr, hτ⟩, hcond⟩, rfl⟩
    exact ⟨r, hr, (value_idExpr (root_of_mem_joinAll_single hp hf hτ).1).symm, τ, hτ, hcond⟩
  · rintro ⟨r, hr, rfl, τ, hτ, hcond⟩
    exact ⟨τ, ⟨⟨r, hr, hτ⟩, hcond⟩, value_idExpr (root_of_mem_joinAll_single hp hf hτ).1⟩

theorem truth_guard (hres : ∀ e ∈ m.restrictions, e.scopedIn [m.root.aliasName] = true)
    (tenant : String) {τ : Joined R} {r : R} (hτ : τ m.root.aliasName = some r) :
    db.tables.truth c (m.guard tenant) τ =
      db.tables.truth c (m.guard tenant) (Joined.single m.root r) := by
  refine Tables.truth_congr (fun a ha => ?_) _ (guard_scopedIn hres tenant)
  rw [List.mem_singleton.1 ha, hτ, Joined.single, Function.update_self]

section Counted

variable (h3 : db.ThreeValued c) (hres : ∀ e ∈ m.restrictions, e.scopedIn [m.root.aliasName] = true)
  {ordered : List JoinDescriptor} (hp : Placed [m.root] ordered) (hf : Fresh [m.root] ordered)
  (tenant : String)

include h3 hres hp hf

/-- Under a filter, a plan counts the ids of the root rows of the tenant that pass the
restrictions and from which a joined row makes the filter TRUE. -/
theorem mem_ids_filtered (cf : CompiledFilter) (v : V) :
    v ∈ (db.selected (m.countStatement ordered (m.condition tenant (some cf)))).map
        (db.value m.idExpr) ↔
      ∃ r ∈ db.rows m.root.table, db.cell r m.idColumn = v ∧
        db.tables.truth c (m.guard tenant) (Joined.single m.root r) = some true ∧
        ∃ τ ∈ db.joinAll (ordered.map (·.toJoin)) [Joined.single m.root r],
          db.tables.truth c cf.predicate τ = some true := by
  rw [mem_ids_countStatement h3 hp hf]
  refine exists_congr fun r => and_congr_right fun _ => and_congr_right fun _ => ?_
  constructor
  · rintro ⟨τ, hτ, htrue⟩
    rw [condition_some, Tables.truth_and, tand_eq_some_true,
      truth_guard hres tenant (root_of_mem_joinAll_single hp hf hτ).1] at htrue
    exact ⟨htrue.1, τ, hτ, htrue.2⟩
  · rintro ⟨hg, τ, hτ, htrue⟩
    refine ⟨τ, hτ, ?_⟩
    rw [condition_some, Tables.truth_and, tand_eq_some_true,
      truth_guard hres tenant (root_of_mem_joinAll_single hp hf hτ).1]
    exact ⟨hg, htrue⟩

/-- Without a filter, a plan over outer joins counts the ids of all root rows of the tenant
that pass the restrictions: each goes on to some joined row. -/
theorem mem_ids_unfiltered (hout : ∀ o ∈ ordered, o.outer = true) (v : V) :
    v ∈ (db.selected (m.countStatement ordered (m.condition tenant none))).map
        (db.value m.idExpr) ↔
      ∃ r ∈ db.rows m.root.table, db.cell r m.idColumn = v ∧
        db.tables.truth c (m.guard tenant) (Joined.single m.root r) = some true := by
  rw [mem_ids_countStatement h3 hp hf]
  refine exists_congr fun r => and_congr_right fun _ => and_congr_right fun _ => ?_
  constructor
  · rintro ⟨τ, hτ, htrue⟩
    rwa [condition_none, truth_guard hres tenant (root_of_mem_joinAll_single hp hf hτ).1] at htrue
  · intro hg
    obtain ⟨τ, hτ⟩ := db.exists_mem_joinAll_single hp hf hout r
    refine ⟨τ, hτ, ?_⟩
    rwa [condition_none, truth_guard hres tenant (root_of_mem_joinAll_single hp hf hτ).1]

end Counted

/-- Ids counted root row by root row: when a root row counted under the negation is counted
neither under the filter, the negation's ids are ids without filter that the filter's
lack; and when every root row without filter that the filter does not count is counted
under the negation, they are exactly those. -/
theorem ids_complement_of_rootwise (hkey : db.Keyed m) {idsN ids0 idsF : List V}
    {G En Ef : R → Prop}
    (hN : ∀ v, v ∈ idsN ↔ ∃ r ∈ db.rows m.root.table, db.cell r m.idColumn = v ∧ G r ∧ En r)
    (h0 : ∀ v, v ∈ ids0 ↔ ∃ r ∈ db.rows m.root.table, db.cell r m.idColumn = v ∧ G r)
    (hF : ∀ v, v ∈ idsF ↔ ∃ r ∈ db.rows m.root.table, db.cell r m.idColumn = v ∧ G r ∧ Ef r)
    (hdisj : ∀ r ∈ db.rows m.root.table, En r → ¬ Ef r) :
    (∀ v ∈ idsN, v ∈ ids0 ∧ v ∉ idsF) ∧
      ((∀ r ∈ db.rows m.root.table, G r → ¬ Ef r → En r) →
        ∀ v, v ∈ idsN ↔ v ∈ ids0 ∧ v ∉ idsF) := by
  have hnotF : ∀ r ∈ db.rows m.root.table, ¬ Ef r → db.cell r m.idColumn ∉ idsF := by
    intro r hr hEf hin
    obtain ⟨r', hr', hid, -, hEf'⟩ := (hF _).1 hin
    exact hEf (hkey.cell_injective hr' hr hid ▸ hEf')
  have hsub : ∀ v ∈ idsN, v ∈ ids0 ∧ v ∉ idsF := by
    intro v hv
    obtain ⟨r, hr, rfl, hG, hEn⟩ := (hN v).1 hv
    exact ⟨(h0 _).2 ⟨r, hr, rfl, hG⟩, hnotF r hr (hdisj r hr hEn)⟩
  refine ⟨hsub, fun hcompl v => ⟨hsub v, fun ⟨h0v, hFv⟩ => ?_⟩⟩
  obtain ⟨r, hr, rfl, hG⟩ := (h0 _).1 h0v
  refine (hN _).2 ⟨r, hr, rfl, hG, hcompl r hr hG fun hEf => hFv ((hF _).2 ⟨r, hr, rfl, hG, hEf⟩)⟩

/-! ### Negation, one root row at a time -/

/-- A condition that reads only the root and the aliases of a set of joins held by two plans
is TRUE of a joined row from a root row along one plan's joins only if it is TRUE of one
along the other's outer joins. -/
theorem exists_truth_of_shared {s s' sJ : JoinSet} {ordered ordered' J : List JoinDescriptor}
    (ho : OrderedJoins m s ordered) (ho' : OrderedJoins m s' ordered')
    (hout' : ∀ o ∈ ordered', o.outer = true) (hJ : OrderedJoins m sJ J)
    (hsub : ∀ k, sJ.contains k = true → s.contains k = true)
    (hsub' : ∀ k, sJ.contains k = true → s'.contains k = true) {p : Sql.Expr}
    (hP : p.scopedIn (aliasesOf m.root sJ.joins) = true) {r : R}
    (h : ∃ τ ∈ db.joinAll (ordered.map (·.toJoin)) [Joined.single m.root r],
      db.tables.truth c p τ = some true) :
    ∃ τ ∈ db.joinAll (ordered'.map (·.toJoin)) [Joined.single m.root r],
      db.tables.truth c p τ = some true := by
  obtain ⟨τ, hτ, htrue⟩ := h
  obtain ⟨τ', hτ', hagree⟩ := exists_mem_joinAll_shared ho.placed ho.fresh ho'.placed ho'.fresh
    hout' hJ.placed (fun k hk => ho.exists_same (hsub k (hJ.contains hk)))
    (fun k hk => ho'.exists_same (hsub' k (hJ.contains hk))) hτ
  refine ⟨τ', hτ', ?_⟩
  rw [Tables.truth_congr hagree p (Sql.Expr.scopedIn_mono (aliasesOf_perm hJ.perm) p hP), htrue]

/-- Along joins that each meet at most one row, the root row fixes the rows at the aliases of
those joins, so a condition reading only them has one truth value per root row. -/
theorem truth_eq_of_single (hkey : db.Keyed m) {s : JoinSet} {J : List JoinDescriptor}
    (hw : WholeChains m s) (hs : s.hasToMany = false) (hJ : OrderedJoins m s J) {p : Sql.Expr}
    (hP : p.scopedIn (aliasesOf m.root s.joins) = true) {r : R} (hr : r ∈ db.rows m.root.table)
    {τ τ' : Joined R} (hτ : τ m.root.aliasName = some r) (hτ' : τ' m.root.aliasName = some r)
    (hfτ : db.Follows τ J) (hfτ' : db.Follows τ' J) :
    db.tables.truth c p τ = db.tables.truth c p τ' := by
  have hone : ∀ k ∈ J, ∀ x ∈ db.rows k.source.table, (db.follow k (some x)).length ≤ 1 := by
    intro k hk
    obtain ⟨a, ha, hka, -⟩ := hw.whole k (hJ.perm.mem_iff.1 hk)
    have hmany : k.toMany = false := by
      by_contra hmany
      have hset := (JoinSet.hasToMany_iff s).2 ⟨k, hJ.perm.mem_iff.1 hk, by simpa using hmany⟩
      rw [hs] at hset
      exact Bool.false_ne_true hset
    exact hkey.singleRow a ha k hka hmany
  have hagree := Follows.agree hfτ hfτ' hJ.placed (fun k hk => ⟨k, hk, k.same_self⟩) hone
    fun t ht => ⟨by rw [List.mem_singleton.1 ht, hτ, hτ'], root_bound hr hτ t ht⟩
  refine Tables.truth_congr (fun a ha => ?_) p (Sql.Expr.scopedIn_mono (aliasesOf_perm hJ.perm) p hP)
  rcases List.mem_cons.1 ha with rfl | ha
  · rw [hτ, hτ']
  · obtain ⟨k, hk, rfl⟩ := List.mem_map.1 ha
    exact hagree k hk

section Rootwise

variable (hkey : db.Keyed m) (houter : ∀ a ∈ m.attributes, ∀ k ∈ a.requiredJoins, k.outer = true)
  {inner sf sn : JoinSet} {Oi Of On : List JoinDescriptor} (hwi : WholeChains m inner)
  (hoi : OrderedJoins m inner Oi) (hwf : WholeChains m sf) (hof : OrderedJoins m sf Of)
  (hwn : WholeChains m sn) (hon : OrderedJoins m sn On)
  (hsubf : ∀ k, inner.contains k = true → sf.contains k = true) {p : Sql.Expr}
  (hP : p.scopedIn (aliasesOf m.root inner.joins) = true) {r : R} (hr : r ∈ db.rows m.root.table)

include hkey houter hwi hoi hwf hof hwn hon hsubf hP hr

/-- Over whole resources, a root row has a joined row that makes `id NOT IN (…)` TRUE exactly
when no joined row along the filter's plan makes the filter TRUE. -/
theorem exists_truth_notIn_iff :
    (∃ τ ∈ db.joinAll (On.map (·.toJoin)) [Joined.single m.root r],
        db.tables.truth c (.inQuery m.idExpr (m.matchingIds Oi p) true) τ = some true) ↔
      ¬ ∃ τ ∈ db.joinAll (Of.map (·.toJoin)) [Joined.single m.root r],
        db.tables.truth c p τ = some true := by
  have hsame : (∃ σ ∈ db.joinAll (Oi.map (·.toJoin)) [Joined.single m.root r],
      db.tables.truth c p σ = some true) ↔ ∃ τ ∈ db.joinAll (Of.map (·.toJoin))
        [Joined.single m.root r], db.tables.truth c p τ = some true :=
    ⟨exists_truth_of_shared hoi hof (hof.outer hwf houter) hoi (fun _ h => h) hsubf hP,
      exists_truth_of_shared hof hoi (hoi.outer hwi houter) hoi hsubf (fun _ h => h) hP⟩
  rw [← hsame]
  constructor
  · rintro ⟨τ, hτ, htrue⟩
    rw [truth_notIn hkey hoi.placed hoi.fresh p hr
      (root_of_mem_joinAll_single hon.placed hon.fresh hτ).1] at htrue
    simpa using htrue
  · intro hnone
    obtain ⟨τ, hτ⟩ := db.exists_mem_joinAll_single hon.placed hon.fresh (hon.outer hwn houter) r
    refine ⟨τ, hτ, ?_⟩
    rw [truth_notIn hkey hoi.placed hoi.fresh p hr
      (root_of_mem_joinAll_single hon.placed hon.fresh hτ).1]
    simpa using hnone

variable (hsubn : ∀ k, inner.contains k = true → sn.contains k = true)

include hsubn

omit houter hwf hwn in
/-- In place, over joins that each meet at most one row, a root row with a joined row that
makes the negated filter TRUE has none along the filter's plan that makes the filter TRUE. -/
theorem not_exists_truth_of_negate (hs : inner.hasToMany = false)
    (h : ∃ τ ∈ db.joinAll (On.map (·.toJoin)) [Joined.single m.root r],
      db.tables.truth c (Sql.Expr.negate p) τ = some true) :
    ¬ ∃ τ ∈ db.joinAll (Of.map (·.toJoin)) [Joined.single m.root r],
      db.tables.truth c p τ = some true := by
  rintro ⟨τ', hτ', hpos⟩
  obtain ⟨τ, hτ, hneg⟩ := h
  obtain ⟨hroot, hfollow⟩ := root_of_mem_joinAll_single hon.placed hon.fresh hτ
  obtain ⟨hroot', hfollow'⟩ := root_of_mem_joinAll_single hof.placed hof.fresh hτ'
  have heq : db.tables.truth c p τ = db.tables.truth c p τ' :=
    truth_eq_of_single hkey hwi hs hoi hP hr hroot hroot'
      (hfollow.of_same fun k hk => hon.exists_same (hsubn k (hoi.contains hk)))
      (hfollow'.of_same fun k hk => hof.exists_same (hsubf k (hoi.contains hk)))
  rw [Tables.truth_negate, heq, hpos] at hneg
  simp at hneg

omit hkey hwi hr in
/-- In place, a root row along the filter's plan with no joined row that makes a filter TRUE,
where the filter is never UNKNOWN, has a joined row that makes the negated filter TRUE. -/
theorem exists_truth_negate
    (hne : ∀ τ : Joined R, τ m.root.aliasName = some r → db.tables.truth c p τ ≠ none)
    (h : ¬ ∃ τ ∈ db.joinAll (Of.map (·.toJoin)) [Joined.single m.root r],
      db.tables.truth c p τ = some true) :
    ∃ τ ∈ db.joinAll (On.map (·.toJoin)) [Joined.single m.root r],
      db.tables.truth c (Sql.Expr.negate p) τ = some true := by
  obtain ⟨τ, hτ⟩ := db.exists_mem_joinAll_single hon.placed hon.fresh (hon.outer hwn houter) r
  refine ⟨τ, hτ, ?_⟩
  rw [Tables.truth_negate]
  -- the filter is FALSE here: TRUE would carry over to the filter's plan
  rcases hv : db.tables.truth c p τ with _ | _ | _
  · exact absurd hv (hne τ (root_of_mem_joinAll_single hon.placed hon.fresh hτ).1)
  · rfl
  · exact absurd (exists_truth_of_shared hon hof (hof.outer hwf houter) hoi hsubn hsubf hP
      ⟨τ, hτ, hv⟩) h

end Rootwise

/-! ### Filters that test presence only -/

theorem truth_foldl_or_ne_none (h3 : db.ThreeValued c) {τ : Joined R} :
    ∀ (cs : List AttributeLocation) {acc : Sql.Expr}, db.tables.truth c acc τ ≠ none →
      db.tables.truth c (cs.foldl (fun acc x => Sql.Expr.or acc (Compile.presence x)) acc) τ ≠ none
  | [], _, h => h
  | a :: cs, _, h => truth_foldl_or_ne_none h3 cs (by
      rw [Tables.truth_or]
      exact tor_ne_none h (truth_presence_ne_none h3 a τ))

theorem truth_compare_pr_ne_none (h3 : db.ThreeValued c) {a : AttributeLocation} {path : String}
    {value : FilterValue} {e : Sql.Expr} (h : Compile.compare a path .pr value = .ok e)
    (τ : Joined R) : db.tables.truth c e τ ≠ none := by
  obtain ⟨-, rfl⟩ | ⟨-, ⟨hop, -⟩ | ⟨hop, -⟩⟩ | ⟨hop, -⟩ := Compile.compare_eq_ok_cases h
  · exact truth_presence_ne_none h3 a τ
  · cases hop
  · cases hop
  · exact absurd rfl hop

/-- A filter of presence tests only, combined by `and`, `or` and `not`, is never UNKNOWN at a
joined row standing at a root row: presence is never UNKNOWN, the connectives keep that, and
so does a negation over whole resources, whose ids are never NULL. -/
theorem node_truth_ne_none (h3 : db.ThreeValued c) (hkey : db.Keyed m) {τ : Joined R} {r : R}
    (hr : r ∈ db.rows m.root.table) (hτ : τ m.root.aliasName = some r) (f : FilterNode) :
    (∀ l ∈ f.comparisons, l.2.1 = .pr) → ∀ {joins : JoinSet} {e : Sql.Expr} {js : JoinSet},
      Compile.node m f joins = .ok (e, js) → db.tables.truth c e τ ≠ none := by
  induction f with
  | comparison path op value =>
    intro hpr joins e js h
    have hop : op = .pr := hpr (path, op, value) (by simp [FilterNode.comparisons])
    subst hop
    obtain ⟨-, -, ⟨a, -, hc, -⟩ | ⟨-, first, rest, -, rfl, -⟩ | ⟨-, -, a, -, -, hc, -⟩⟩ :=
      Compile.comparison_eq_ok_cases h
    · exact truth_compare_pr_ne_none h3 hc τ
    · rw [Tables.truth_paren]
      exact truth_foldl_or_ne_none h3 rest (truth_presence_ne_none h3 first τ)
    · exact truth_compare_pr_ne_none h3 hc τ
  | and l r' ihl ihr =>
    intro hpr joins e js h
    obtain ⟨pl, jl, pr, hl, hr', rfl⟩ := Compile.node_and_eq_ok h
    simp only [FilterNode.comparisons, List.mem_append] at hpr
    rw [Tables.truth_paren, Tables.truth_and]
    exact tand_ne_none (ihl (fun x hx => hpr x (.inl hx)) hl) (ihr (fun x hx => hpr x (.inr hx)) hr')
  | or l r' ihl ihr =>
    intro hpr joins e js h
    obtain ⟨pl, jl, pr, hl, hr', rfl⟩ := Compile.node_or_eq_ok h
    simp only [FilterNode.comparisons, List.mem_append] at hpr
    rw [Tables.truth_paren, Tables.truth_or]
    exact tor_ne_none (ihl (fun x hx => hpr x (.inl hx)) hl) (ihr (fun x hx => hpr x (.inr hx)) hr')
  | not g ih =>
    intro hpr joins e js h
    obtain ⟨p, inner, hq, ⟨-, rfl, -⟩ | ⟨-, -, ordered, hlin, rfl⟩⟩ := Compile.node_not_eq_ok h
    · -- negated in place
      rw [Tables.truth_negate]
      simpa using ih hpr hq
    · -- negated over whole resources
      have ho := orderedJoins_of_linearize (Compile.node_whole g WholeChains.empty hq) hlin
      exact (truth_notIn (c := c) hkey ho.placed ho.fresh p hr hτ).trans_ne (by simp)

end Standard.Database

namespace ResourceMapping

open Standard.Database

variable {V R : Type} [LinearOrder V] {db : Database V R} {c : Conditions V} {m : ResourceMapping}

/-- Negation in the plans of a checked mapping whose restrictions read the root table: the
count statement of `not f` counts ids of the tenant that pass the restrictions and that the
count statement of `f` does not count; all of them when `f`'s joins hold a to-many join or
`f` tests presence only. -/
theorem plan_not_ids (hcheck : m.selfCheck = .ok ())
    (hres : ∀ e ∈ m.restrictions, e.scopedIn [m.root.aliasName] = true) (h3 : db.ThreeValued c)
    (hkey : db.Keyed m) (houter : ∀ a ∈ m.attributes, ∀ k ∈ a.requiredJoins, k.outer = true)
    {settings : QuerySettings} {tenant : String} {f : FilterNode} {sortBy : Option String}
    {sortOrder : Option SortOrder} {pageRequest : PageRequest} {pqf : PlannedQuery}
    (hpf : m.plan settings tenant (some f) sortBy sortOrder pageRequest = .ok pqf) :
    ∃ cf pqn pq0, compileFilter m f = .ok cf ∧
      m.plan settings tenant (some (.not f)) sortBy sortOrder pageRequest = .ok pqn ∧
      m.plan settings tenant none sortBy sortOrder pageRequest = .ok pq0 ∧
      (∀ v ∈ (db.selected pqn.count.query).map (db.value m.idExpr),
        v ∈ (db.selected pq0.count.query).map (db.value m.idExpr) ∧
          v ∉ (db.selected pqf.count.query).map (db.value m.idExpr)) ∧
      (cf.joins.hasToMany = true ∨ (∀ l ∈ f.comparisons, l.2.1 = .pr) →
        ∀ v, v ∈ (db.selected pqn.count.query).map (db.value m.idExpr) ↔
          v ∈ (db.selected pq0.count.query).map (db.value m.idExpr) ∧
            v ∉ (db.selected pqf.count.query).map (db.value m.idExpr)) := by
  have hm := consistent_of_selfCheck hcheck
  obtain ⟨compiled, sort, Of, assocs, hc, hs, hlinf, ha, rfl⟩ := plan_eq_ok.1 hpf
  obtain ⟨cf, hcf, rfl⟩ : ∃ cf, compileFilter m f = .ok cf ∧ compiled = some cf := by
    rw [Option.mapM_some, map_eq_ok] at hc
    obtain ⟨cf, hcf, hsome⟩ := hc
    exact ⟨cf, hcf, hsome.symm⟩
  have hwf := statementJoins_whole_of_ok hc hs
  have hof := orderedJoins_of_linearize hwf hlinf
  have hwi := compileFilter_whole hcf
  obtain ⟨Oi, hlini⟩ := hwi.linearize_ok hm
  have hoi := orderedJoins_of_linearize hwi hlini
  have hP := compileFilter_scopedIn hm hcf
  have hsubf : ∀ k, cf.joins.contains k = true →
      (m.statementJoins (some cf) sort).contains k = true :=
    fun k hk => contains_statementJoins_filter sort hk
  have hc0 : (none : Option FilterNode).mapM (compileFilter m) = .ok none := rfl
  obtain ⟨O0, ho0, hplan0⟩ := plan_of_stages hm hc0 hs ha settings tenant pageRequest
  have hids0 := mem_ids_unfiltered h3 hres ho0.placed ho0.fresh tenant
    (ho0.outer (statementJoins_whole_of_ok hc0 hs) houter)
  have hidsF := mem_ids_filtered h3 hres hof.placed hof.fresh tenant cf
  cases hmany : cf.joins.hasToMany with
  | false =>
    -- negated in place, over the filter's joins
    have hcn : (some (FilterNode.not f)).mapM (compileFilter m) =
        .ok (some ⟨Sql.Expr.negate cf.predicate, JoinSet.union {} cf.joins⟩) := by
      rw [Option.mapM_some, Compile.compileFilter_not_of_single hcf hmany]
      rfl
    obtain ⟨On, hon, hplann⟩ := plan_of_stages hm hcn hs ha settings tenant pageRequest
    have hsubn : ∀ k, cf.joins.contains k = true → (m.statementJoins
        (some ⟨Sql.Expr.negate cf.predicate, JoinSet.union {} cf.joins⟩) sort).contains k = true :=
      fun k hk => contains_statementJoins_filter sort (by rw [contains_empty_union]; exact hk)
    obtain ⟨hdisj, hcompl⟩ := ids_complement_of_rootwise hkey
      (mem_ids_filtered h3 hres hon.placed hon.fresh tenant
        ⟨Sql.Expr.negate cf.predicate, JoinSet.union {} cf.joins⟩) hids0 hidsF
      fun r hr => not_exists_truth_of_negate hkey hwi hoi hof hon hsubf hP hr hsubn hmany
    refine ⟨cf, _, _, hcf, hplann, hplan0, hdisj, fun hcase => hcompl fun r hr _ => ?_⟩
    have hpr : ∀ l ∈ f.comparisons, l.2.1 = .pr := hcase.resolve_left (by simp [hmany])
    exact exists_truth_negate houter hoi hwf hof (statementJoins_whole_of_ok hcn hs) hon hsubf hP
      hsubn fun τ hτ => node_truth_ne_none h3 hkey hr hτ f hpr (Compile.node_of_compileFilter hcf)
  | true =>
    -- negated over whole resources, through the subquery over the filter's own joins
    have hcn : (some (FilterNode.not f)).mapM (compileFilter m) =
        .ok (some ⟨.inQuery m.idExpr (m.matchingIds Oi cf.predicate) true, {}⟩) := by
      rw [Option.mapM_some, Compile.compileFilter_not_of_toMany hcf hmany hlini]
      rfl
    obtain ⟨On, hon, hplann⟩ := plan_of_stages hm hcn hs ha settings tenant pageRequest
    have hroot := fun r (hr : r ∈ db.rows m.root.table) => exists_truth_notIn_iff (c := c) hkey
      houter hwi hoi hwf hof (statementJoins_whole_of_ok hcn hs) hon hsubf hP hr
    obtain ⟨hdisj, hcompl⟩ := ids_complement_of_rootwise hkey
      (mem_ids_filtered h3 hres hon.placed hon.fresh tenant
        ⟨.inQuery m.idExpr (m.matchingIds Oi cf.predicate) true, {}⟩) hids0 hidsF
      fun r hr => (hroot r hr).1
    exact ⟨cf, _, _, hcf, hplann, hplan0, hdisj, fun _ => hcompl fun r hr _ => (hroot r hr).2⟩

end ResourceMapping

theorem Registry.plan_of_get {reg : Registry} {r : QueryRequest} {m : ResourceMapping}
    (hm : reg.get r.resource = .ok m) (settings : QuerySettings) :
    reg.plan settings r = m.plan settings r.tenant r.filter r.sortBy r.sortOrder r.pageRequest := by
  simp only [Registry.plan, hm, ok_bind]

open Standard.Database in
/-- Negating a filter selects the other resources. Against a database that evaluates
conditions under three-valued logic, whose root ids are never NULL and have texts that tell
the root rows apart, whose joins that are not to-many meet at most one row per source row,
and whose joins are all outer joins: when a request with a filter `f` is planned for a
resource of a registry built from a catalog, the requests with `not f` and without filter,
under the same sort key, are planned too. Every id the count statement for `not f` counts is
counted without filter, so it is an id of the tenant that passes the restrictions, and it is
not counted for `f`. When `f`'s joins hold a to-many join, so that `not f` becomes
`id NOT IN (…)`, or when `f` tests presence only, the ids counted for `not f` are exactly the
ids counted without filter that are not counted for `f`. -/
theorem plan_not_ids_complement {V R : Type} [LinearOrder V] {cat : CatalogDecl} {reg : Registry}
    (hreg : Registry.ofDecl cat = .ok reg) (settings : QuerySettings) (r : QueryRequest)
    {m : ResourceMapping} (hm : reg.get r.resource = .ok m) {db : Database V R} {c : Conditions V}
    (h3 : db.ThreeValued c) (hkey : db.Keyed m)
    (houter : ∀ a ∈ m.attributes, ∀ k ∈ a.requiredJoins, k.outer = true) {f : FilterNode}
    {pqf : PlannedQuery} (hf : reg.plan settings { r with filter := some f } = .ok pqf) :
    ∃ cf pqn pq0, compileFilter m f = .ok cf ∧
      reg.plan settings { r with filter := some (.not f) } = .ok pqn ∧
      reg.plan settings { r with filter := none } = .ok pq0 ∧
      (∀ v ∈ (db.selected pqn.count.query).map (db.value m.idExpr),
        v ∈ (db.selected pq0.count.query).map (db.value m.idExpr) ∧
          v ∉ (db.selected pqf.count.query).map (db.value m.idExpr)) ∧
      (cf.joins.hasToMany = true ∨ (∀ l ∈ f.comparisons, l.2.1 = .pr) →
        ∀ v, v ∈ (db.selected pqn.count.query).map (db.value m.idExpr) ↔
          v ∈ (db.selected pq0.count.query).map (db.value m.idExpr) ∧
            v ∉ (db.selected pqf.count.query).map (db.value m.idExpr)) := by
  have hmem := Registry.get_mem hm
  obtain ⟨d, hd⟩ := Registry.exists_ofDecl_of_mem hreg m hmem
  rw [Registry.plan_of_get (r := { r with filter := some f }) hm] at hf
  rw [Registry.plan_of_get (r := { r with filter := some (.not f) }) hm,
    Registry.plan_of_get (r := { r with filter := none }) hm]
  exact ResourceMapping.plan_not_ids (Registry.selfCheck_of_ofDecl hreg m hmem)
    (ResourceMapping.restrictions_scopedIn hd) h3 hkey houter hf

namespace Standard

/-- Two groups of the realm `acme`: `admins`, whose one member is `alice`, and `staff`. A row
is named by its key and holds that name in every column, save its realm and the two keys of
the membership. -/
def groupTables : Tables String String where
  rows t := if t = "KEYCLOAK_GROUP" then ["admins", "staff"]
    else if t = "USER_GROUP_MEMBERSHIP" then ["alice in admins"]
    else if t = "USER_ENTITY" then ["alice"] else []
  cell r col := if col = "REALM_ID" then "acme"
    else if r = "alice in admins" then
      (if col = "GROUP_ID" then "admins" else if col = "USER_ID" then "alice" else "")
    else r
  null := ""
  call _ v := v

/-- Text parameters read as their text; literals are one text that is not NULL, and no
pattern matches. -/
def groupConditions : Conditions String where
  param
    | .text s => s
    | _ => ""
  literal _ := "literal"
  like _ _ _ := false

/-- The groups, with conditions evaluated under three-valued logic. -/
def groupTable : Database String String where
  rows := groupTables.rows
  cell := groupTables.cell
  null := groupTables.null
  out v := .text v
  call := groupTables.call
  holds e τ := decide (groupTables.truth groupConditions e τ = some true)

end Standard

open Standard Standard.Database in
theorem groups_plan_not_ids_complement :
    ∃ (reg : Registry) (m : ResourceMapping) (pqf : PlannedQuery),
      Registry.ofDecl ⟨[Catalog.groupDecl]⟩ = .ok reg ∧ reg.get "Groups" = .ok m ∧
      groupTable.ThreeValued groupConditions ∧ groupTable.Keyed m ∧
      (∀ a ∈ m.attributes, ∀ k ∈ a.requiredJoins, k.outer = true) ∧
      reg.plan {} { resource := "Groups", tenant := "acme",
                    filter := some (.present "members") } = .ok pqf ∧
      ∃ cf pqn pq0, compileFilter m (FilterNode.present "members") = .ok cf ∧
        reg.plan {} { resource := "Groups", tenant := "acme",
                      filter := some (.not (.present "members")) } = .ok pqn ∧
        reg.plan {} { resource := "Groups", tenant := "acme", filter := none } = .ok pq0 ∧
        (∀ v ∈ (groupTable.selected pqn.count.query).map (groupTable.value m.idExpr),
          v ∈ (groupTable.selected pq0.count.query).map (groupTable.value m.idExpr) ∧
            v ∉ (groupTable.selected pqf.count.query).map (groupTable.value m.idExpr)) ∧
        (cf.joins.hasToMany = true ∨
            (∀ l ∈ (FilterNode.present "members").comparisons, l.2.1 = .pr) →
          ∀ v, v ∈ (groupTable.selected pqn.count.query).map (groupTable.value m.idExpr) ↔
            v ∈ (groupTable.selected pq0.count.query).map (groupTable.value m.idExpr) ∧
              v ∉ (groupTable.selected pqf.count.query).map (groupTable.value m.idExpr)) := by
  refine ⟨_, _, _, rfl, rfl, ?three, ?keyed, ?outer, rfl,
    plan_not_ids_complement (show Registry.ofDecl ⟨[Catalog.groupDecl]⟩ = .ok _ from rfl) {}
      { resource := "Groups", tenant := "acme" } rfl ?three ?keyed ?outer rfl⟩
  case three => exact ⟨fun _ _ => rfl, fun _ => by simp [groupConditions, groupTable, groupTables]⟩
  case keyed => exact ⟨by decide, by decide, by decide⟩
  case outer => decide

end ScimQuery
