import ScimQuery.Proofs.Pagination
import ScimQuery.Catalog.Builtin

/-! # Grouping and ordering of the row statement

The row statement of a plan is grouped by its projection exactly when one of its joins is
to-many, and it is ordered by the sort key, if there is one, and then by the root id. A
multi-valued key sorts by the least or the greatest of its values, an aggregate; a
single-valued key sorts by its column, in lower case when it folds case. That column is
projected: as itself, or, for an attribute of the root whose column is the id column up to
ASCII case, as the id column, which is how the projection tells the id attribute apart. So
under GROUP BY every ORDER BY item is an aggregate or is made of a grouped column, up to the
ASCII case of the column's name.

Joins are told apart by their source and target columns, not by whether they are to-many:
a multi-valued key can reach its table through a join that its catalog also declares
single-valued and that the filter brought in first, and its aggregate then stands in a
statement without GROUP BY.
-/

namespace ScimQuery

theorem Text.eqIgnoreAsciiCase_self (s : String) : Text.eqIgnoreAsciiCase s s = true := by
  simp [Text.eqIgnoreAsciiCase]

namespace Sql.Expr

/-- Two references to columns of one alias whose names agree up to ASCII case. -/
def SameColumn (e e' : Sql.Expr) : Prop :=
  ∃ a c c', e = .col a c ∧ e' = .col a c' ∧ Text.eqIgnoreAsciiCase c c' = true

theorem sameColumn_col (a c : String) : (Sql.Expr.col a c).SameColumn (.col a c) :=
  ⟨a, c, c, rfl, rfl, Text.eqIgnoreAsciiCase_self c⟩

end Sql.Expr

/-- The aggregate that sorts the values of a multi-valued key: the least ascending, the
greatest descending. -/
def SortOrder.aggregate : SortOrder → Sql.Expr → Sql.Expr
  | .ascending => Sql.Expr.min
  | .descending => Sql.Expr.max

/-- An ORDER BY expression that a statement grouped by `groupBy` can sort by: an aggregate,
or a column that `groupBy` holds up to the ASCII case of its name, or that column in lower
case. -/
def Sql.Expr.SortableUnder (e : Sql.Expr) (groupBy : List Sql.Expr) : Prop :=
  (∃ o x, e = SortOrder.aggregate o x) ∨
    ∃ c, (e = c ∨ e = Sql.Expr.lower c) ∧ ∃ g ∈ groupBy, c.SameColumn g

namespace SortKey

/-- The column a key sorts by, in lower case when the key folds case. -/
def key (k : SortKey) : Sql.Expr :=
  if k.location.foldsCase then Sql.Expr.lower k.location.columnExpr else k.location.columnExpr

theorem expr_eq (k : SortKey) :
    k.expr = if k.location.multiValued then k.order.aggregate k.key else k.key := by
  obtain ⟨location, order⟩ := k
  cases order <;> rfl

/-- How the ORDER BY expression of a key stands to a projection: the aggregate of its column
in the key's direction when the key is multi-valued; otherwise the column itself, or its
lower case, and a column that the projection holds up to the ASCII case of its name. -/
def Projected (k : SortKey) (projection : List Sql.Expr) : Prop :=
  (k.location.multiValued = true ∧ k.expr = k.order.aggregate k.key) ∨
    (k.location.multiValued = false ∧ k.expr = k.key ∧
      ∃ e ∈ projection, k.location.columnExpr.SameColumn e)

theorem key_sortableUnder {k : SortKey} {groupBy : List Sql.Expr} {g : Sql.Expr}
    (hg : g ∈ groupBy) (hk : k.location.columnExpr.SameColumn g) :
    k.key.SortableUnder groupBy := by
  refine .inr ⟨k.location.columnExpr, ?_, g, hg, hk⟩
  unfold key
  split
  · exact .inr rfl
  · exact .inl rfl

theorem Projected.sortableUnder {k : SortKey} {projection : List Sql.Expr}
    (h : k.Projected projection) : k.expr.SortableUnder projection := by
  rcases h with ⟨-, hagg⟩ | ⟨-, hkey, g, hg, hk⟩
  · exact .inl ⟨k.order, k.key, hagg⟩
  · rw [hkey]
    exact key_sortableUnder hg hk

end SortKey

namespace ResourceMapping

variable {m : ResourceMapping}

theorem idExpr_mem_projection : m.idExpr ∈ m.projection := List.mem_cons_self

/-- A single-valued attribute of the resource is projected up to the ASCII case of its
column: the id attribute as the id column, every other one as its own column. -/
theorem exists_projection_sameColumn {a : AttributeLocation} (ha : a ∈ m.attributes)
    (hsingle : a.multiValued = false) : ∃ e ∈ m.projection, a.columnExpr.SameColumn e := by
  cases hid : m.isId a with
  | true =>
    simp only [isId, Bool.and_eq_true, decide_eq_true_eq] at hid
    obtain ⟨htable, hcolumn⟩ := hid
    refine ⟨m.idExpr, idExpr_mem_projection, m.root.aliasName, a.column, m.idColumn, ?_, rfl,
      hcolumn⟩
    rw [AttributeLocation.columnExpr, htable]
    rfl
  | false =>
    have hp : a ∈ m.projected := List.mem_filter.2 ⟨ha, by simp [hsingle, hid]⟩
    exact ⟨a.columnExpr, List.mem_cons_of_mem _ (List.mem_map_of_mem hp),
      Sql.Expr.sameColumn_col _ _⟩

theorem projected_of_mem_attributes {k : SortKey} (hk : k.location ∈ m.attributes) :
    k.Projected m.projection := by
  rw [SortKey.Projected, SortKey.expr_eq]
  cases hmv : k.location.multiValued with
  | true => exact .inl ⟨rfl, rfl⟩
  | false => exact .inr ⟨rfl, rfl, exists_projection_sameColumn hk hmv⟩

section Statements

variable (m) (ordered : List JoinDescriptor) (cond : Sql.Expr) (sort : Option SortKey)
  (grouped : Bool) (page : Page)

theorem rowStatement_select_fst :
    (m.rowStatement ordered cond sort grouped page).select.map Prod.fst = m.projection := by
  simp [rowStatement, Sql.Query.withOffset, Sql.Query.withLimit, Function.comp_def]

theorem rowStatement_groupBy_ne_nil :
    (m.rowStatement ordered cond sort grouped page).groupBy ≠ [] ↔ grouped = true := by
  rw [rowStatement_groupBy]
  cases grouped <;> simp [projection]

/-- Under GROUP BY, every ORDER BY item of a row statement is sortable: the sort key's by its
relation to the projection, and the id as the head of the projection. -/
theorem rowStatement_orderBy_sortable (hsort : ∀ k ∈ sort, k.Projected m.projection) :
    ∀ item ∈ (m.rowStatement ordered cond sort true page).orderBy,
      item.1.SortableUnder (m.rowStatement ordered cond sort true page).groupBy := by
  intro item hitem
  rw [rowStatement_groupBy, if_pos rfl]
  rw [rowStatement_orderBy, List.mem_append, List.mem_singleton] at hitem
  rcases hitem with hkey | rfl
  · obtain ⟨k, hk, rfl⟩ : ∃ k ∈ sort, k.orderBy = item := by simpa using hkey
    exact (hsort k hk).sortableUnder
  · exact .inr ⟨m.idExpr, .inl rfl, m.idExpr, idExpr_mem_projection,
      Sql.Expr.sameColumn_col _ _⟩

@[simp] theorem assemble_rows_joins (tenant : String) (compiled : Option CompiledFilter)
    (assocs : List AssociationPlan) :
    (m.assemble tenant page compiled sort ordered assocs).rows.joins = ordered := rfl

end Statements

/-- The row statement of every plan that succeeds, for every resource and request: it is
grouped exactly when one of its joins is to-many, and then by its whole SELECT list; it is
ordered by the resolved sort key, if any, and then by the root id ascending. A multi-valued
key sorts by the aggregate of its column in its direction, any other by its column, in lower
case when it folds case, and that column is selected up to the ASCII case of its name. So
under GROUP BY every ORDER BY item is an aggregate or made of a grouped column. -/
theorem plan_rows_grouped_order {settings : QuerySettings} {tenant : String}
    {filter : Option FilterNode} {sortBy : Option String} {sortOrder : Option SortOrder}
    {pageRequest : PageRequest} {pq : PlannedQuery}
    (h : m.plan settings tenant filter sortBy sortOrder pageRequest = .ok pq) :
    (pq.rows.query.groupBy ≠ [] ↔ ∃ j ∈ pq.rows.joins, j.toMany = true) ∧
      (pq.rows.query.groupBy ≠ [] → pq.rows.query.groupBy = pq.rows.query.select.map Prod.fst) ∧
      (∃ sort, sortBy.mapM (SortKey.resolve m · (sortOrder.getD .ascending)) = .ok sort ∧
        pq.rows.query.orderBy = (sort.map SortKey.orderBy).toList ++ [(m.idExpr, some .asc)] ∧
        ∀ k ∈ sort, k.Projected (pq.rows.query.select.map Prod.fst)) ∧
      (pq.rows.query.groupBy ≠ [] →
        ∀ item ∈ pq.rows.query.orderBy, item.1.SortableUnder pq.rows.query.groupBy) := by
  obtain ⟨compiled, sort, ordered, assocs, hc, hs, hlin, -, rfl⟩ := plan_eq_ok.1 h
  have ho := orderedJoins_of_linearize (statementJoins_whole_of_ok hc hs) hlin
  have hsort : ∀ k ∈ sort, k.Projected m.projection :=
    fun k hk => projected_of_mem_attributes (SortKey.mapM_resolve_mem hs hk)
  have hgrouped : (m.statementJoins compiled sort).hasToMany = true ↔
      ∃ j ∈ ordered, j.toMany = true := by
    rw [JoinSet.hasToMany_iff]
    exact exists_congr fun j => and_congr_left' ho.perm.mem_iff.symm
  simp only [assemble_rows_query, assemble_rows_joins, rowStatement_select_fst,
    rowStatement_groupBy_ne_nil]
  refine ⟨hgrouped, fun hmany => ?_, ⟨sort, hs, rowStatement_orderBy .., hsort⟩, fun hmany => ?_⟩
  · rw [rowStatement_groupBy, if_pos hmany]
  · rw [hmany]
    exact rowStatement_orderBy_sortable m ordered _ sort _ hsort

end ResourceMapping

/-- Groups sorted by their members, descending: the members are reached through the to-many
join of memberships, so the rows are grouped and sorted by the greatest member id. -/
theorem groups_plan_rows_grouped_order :
    ∃ m pq, ResourceMapping.ofDecl Catalog.groupDecl = .ok m ∧
      m.plan {} "acme" none (some "members") (some .descending) {} = .ok pq ∧
      (pq.rows.query.groupBy ≠ [] ↔ ∃ j ∈ pq.rows.joins, j.toMany = true) ∧
      (pq.rows.query.groupBy ≠ [] → pq.rows.query.groupBy = pq.rows.query.select.map Prod.fst) ∧
      (∃ sort, (some "members").mapM
          (SortKey.resolve m · ((some SortOrder.descending).getD .ascending)) = .ok sort ∧
        pq.rows.query.orderBy = (sort.map SortKey.orderBy).toList ++ [(m.idExpr, some .asc)] ∧
        ∀ k ∈ sort, k.Projected (pq.rows.query.select.map Prod.fst)) ∧
      (pq.rows.query.groupBy ≠ [] →
        ∀ item ∈ pq.rows.query.orderBy, item.1.SortableUnder pq.rows.query.groupBy) := by
  obtain ⟨m, pq, hm, h⟩ : ∃ m pq, ResourceMapping.ofDecl Catalog.groupDecl = .ok m ∧
      m.plan {} "acme" none (some "members") (some .descending) {} = .ok pq := ⟨_, _, rfl, rfl⟩
  exact ⟨m, pq, hm, h, ResourceMapping.plan_rows_grouped_order h⟩

/-- A resource whose attribute ident names the id column in lower case, and whose table of
tags is reached by two joins of one identity, one single-valued and one to-many. -/
def twinJoinDecl : ResourceDecl where
  name := "Thing"
  schema := "urn:example:Thing"
  root := ⟨"THING", "t"⟩
  tenantColumn := "REALM_ID"
  tables := [⟨"TAG", "g"⟩]
  joins := [
    { name := "one", source := "t", sourceColumn := "ID", target := "g", targetColumn := "THING_ID" },
    { name := "many", source := "t", sourceColumn := "ID", target := "g", targetColumn := "THING_ID",
      toMany := true }]
  attributes := [
    { name := "ident", column := "id", kind := .integer },
    { name := "first", column := "NAME", joins := ["one"] },
    { name := "tags", column := "NAME", joins := ["many"] }]

/-- Over a registry that passes its self-check, a single-valued sort column need not be
selected as it is spelled, and an aggregate can stand without GROUP BY: sorted by the id
attribute, the rows sort by the column spelled in lower case while the statement selects
the id column; filtered by the single-valued join first and sorted by the tags, the
statement sorts by the least tag without grouping. -/
theorem plan_rows_order_outside_projection :
    ∃ reg pq pq', Registry.ofDecl ⟨[twinJoinDecl]⟩ = .ok reg ∧
      reg.plan {} { resource := "Thing", tenant := "r", sortBy := some "ident" } = .ok pq ∧
      pq.rows.query.orderBy.head? = some (Sql.Expr.col "t" "id", some .asc) ∧
      pq.rows.query.select.map Prod.fst = [Sql.Expr.col "t" "ID", Sql.Expr.col "g" "NAME"] ∧
      reg.plan {}
          { resource := "Thing", tenant := "r", sortBy := some "tags",
            filter := some (.comparison "first" .eq (.string "x")) } = .ok pq' ∧
      pq'.rows.query.groupBy = [] ∧
      pq'.rows.query.orderBy.head? =
        some (Sql.Expr.min (Sql.Expr.lower (Sql.Expr.col "g" "NAME")), some .asc) :=
  ⟨_, _, _, rfl, rfl, rfl, rfl, rfl, rfl, rfl⟩

end ScimQuery
