import ScimQuery.Proofs.Pagination
import ScimQuery.Proofs.Precedence

/-! # Statements name only the aliases they introduce

A column names its table by an alias, and a statement knows an alias from its FROM table
and from its joins. A statement is well scoped when every column of its items, WHERE
condition, grouping and ordering names the FROM table's alias or the target alias of one
of its joins, and every join condition names only the join's own target and aliases
introduced before it. A subquery is checked on its own: its columns name its own aliases,
never those of the statement around it.

Every statement a plan makes from a checked catalog is well scoped: the row and count
statements, whatever the filter, sort key and page, each subquery that a negation over
joins that may repeat a row puts into their condition, and the statements that fetch the
associations of a page. Each attribute's table is the root or the target of a join of the
attribute's own chain, and every expression stands in the statement or subquery that joins
the chains it reads; a chain kept out of the statement goes into the subquery with the
condition that reads it.
-/

namespace ScimQuery

namespace Sql

mutual

/-- Whether every column of an expression names an alias of `scope`. A subquery must be
well scoped on its own. -/
def Expr.scopedIn (scope : List String) : Expr → Bool
  | .column (some a) _ => decide (a ∈ scope)
  | .column none _ => false
  | .literal _ | .param _ | .star _ => true
  | .binary l _ r => l.scopedIn scope && r.scopedIn scope
  | .not e | .isNull e _ | .paren e => e.scopedIn scope
  | .function _ args _ => Expr.allScopedIn scope args
  | .inList e values _ => e.scopedIn scope && Expr.allScopedIn scope values
  | .inQuery e q _ => e.scopedIn scope && q.wellScoped
  | .like e p _ _ => e.scopedIn scope && p.scopedIn scope

/-- Whether every expression of a list is scoped in `scope`. -/
def Expr.allScopedIn (scope : List String) : List Expr → Bool
  | [] => true
  | e :: es => e.scopedIn scope && Expr.allScopedIn scope es

/-- Whether a query is well scoped: each join condition names only aliases introduced by
the FROM table and the joins up to its own, and the items, the WHERE condition, the
grouping and the ordering name only the aliases of the FROM table and of the joins. -/
def Query.wellScoped : Query → Bool
  | ⟨select, source, joins, filter, groupBy, orderBy, _⟩ =>
    let introduced := (source.map Standard.tableName).toList
    let scope := introduced ++ joins.map fun j => Standard.tableName j.2.1
    Query.joinsScoped introduced joins && Query.itemsScoped scope select &&
      Query.filterScoped scope filter && Expr.allScopedIn scope groupBy &&
      Query.orderScoped scope orderBy

/-- Whether each join condition names only its own target and the aliases introduced
before it. -/
def Query.joinsScoped (introduced : List String) : List (JoinKind × TableRef × Expr) → Bool
  | [] => true
  | (_, t, on) :: rest =>
    on.scopedIn (Standard.tableName t :: introduced) &&
      Query.joinsScoped (Standard.tableName t :: introduced) rest

/-- Whether every SELECT item is scoped in `scope`. -/
def Query.itemsScoped (scope : List String) : List (Expr × Option String) → Bool
  | [] => true
  | (e, _) :: rest => e.scopedIn scope && Query.itemsScoped scope rest

/-- Whether a WHERE condition, when there is one, is scoped in `scope`. -/
def Query.filterScoped (scope : List String) : Option Expr → Bool
  | some e => e.scopedIn scope
  | none => true

/-- Whether every ORDER BY item is scoped in `scope`. -/
def Query.orderScoped (scope : List String) : List (Expr × Option SortDir) → Bool
  | [] => true
  | (e, _) :: rest => e.scopedIn scope && Query.orderScoped scope rest

end

-- The equation lemmas of the checks are generated here, once, rather than by each of the
-- proofs below that unfold them.
section
attribute [local simp] Expr.scopedIn Expr.allScopedIn Query.wellScoped Query.joinsScoped
  Query.itemsScoped Query.filterScoped Query.orderScoped
end

theorem Expr.allScopedIn_iff {scope : List String} {es : List Expr} :
    Expr.allScopedIn scope es = true ↔ ∀ e ∈ es, e.scopedIn scope = true := by
  induction es with
  | nil => simp [Expr.allScopedIn]
  | cons e es ih => simp [Expr.allScopedIn, ih]

theorem Query.itemsScoped_iff {scope : List String} {items : List (Expr × Option String)} :
    Query.itemsScoped scope items = true ↔ ∀ x ∈ items, x.1.scopedIn scope = true := by
  induction items with
  | nil => simp [Query.itemsScoped]
  | cons x items ih =>
    obtain ⟨e, name⟩ := x
    simp [Query.itemsScoped, ih]

theorem Query.orderScoped_iff {scope : List String} {items : List (Expr × Option SortDir)} :
    Query.orderScoped scope items = true ↔ ∀ x ∈ items, x.1.scopedIn scope = true := by
  induction items with
  | nil => simp [Query.orderScoped]
  | cons x items ih =>
    obtain ⟨e, dir⟩ := x
    simp [Query.orderScoped, ih]

mutual

theorem Expr.scopedIn_mono {scope scope' : List String} (h : ∀ a ∈ scope, a ∈ scope') (e : Expr)
    (he : e.scopedIn scope = true) : e.scopedIn scope' = true := by
  cases e with
  | column t c => cases t <;> simp_all [Expr.scopedIn]
  | literal l => rfl
  | param v => rfl
  | star t => rfl
  | binary l op r =>
    simp only [Expr.scopedIn, Bool.and_eq_true] at he ⊢
    exact ⟨l.scopedIn_mono h he.1, r.scopedIn_mono h he.2⟩
  | not e => exact e.scopedIn_mono h he
  | isNull e negated => exact e.scopedIn_mono h he
  | paren e => exact e.scopedIn_mono h he
  | function name args distinct => exact Expr.allScopedIn_mono h args he
  | inList e values negated =>
    simp only [Expr.scopedIn, Bool.and_eq_true] at he ⊢
    exact ⟨e.scopedIn_mono h he.1, Expr.allScopedIn_mono h values he.2⟩
  | inQuery e q negated =>
    simp only [Expr.scopedIn, Bool.and_eq_true] at he ⊢
    exact ⟨e.scopedIn_mono h he.1, he.2⟩
  | like e p escape negated =>
    simp only [Expr.scopedIn, Bool.and_eq_true] at he ⊢
    exact ⟨e.scopedIn_mono h he.1, p.scopedIn_mono h he.2⟩

theorem Expr.allScopedIn_mono {scope scope' : List String} (h : ∀ a ∈ scope, a ∈ scope')
    (es : List Expr) (he : Expr.allScopedIn scope es = true) :
    Expr.allScopedIn scope' es = true := by
  cases es with
  | nil => rfl
  | cons e es =>
    simp only [Expr.allScopedIn, Bool.and_eq_true] at he ⊢
    exact ⟨e.scopedIn_mono h he.1, Expr.allScopedIn_mono h es he.2⟩

end

namespace Expr

variable {scope : List String}

@[simp] theorem scopedIn_col (t c : String) : (col t c).scopedIn scope = decide (t ∈ scope) := rfl

@[simp] theorem scopedIn_param (v : Value) : (Expr.param v).scopedIn scope = true := rfl

@[simp] theorem scopedIn_literal (l : Literal) : (Expr.literal l).scopedIn scope = true := rfl

theorem scopedIn_call {name : String} {x : Expr} (h : x.scopedIn scope = true) :
    (call name [x]).scopedIn scope = true := by
  simp [call, scopedIn, allScopedIn, h]

theorem scopedIn_negate {e : Expr} (h : e.scopedIn scope = true) : e.negate.scopedIn scope = true := by
  unfold negate
  split <;> simp_all [scopedIn]

end Expr

end Sql

open Sql JoinOrder

/-- The aliases a statement over the root table and these joins introduces. -/
def aliasesOf (root : TableReference) (js : List JoinDescriptor) : List String :=
  root.aliasName :: js.map (·.target.aliasName)

theorem root_mem_aliasesOf (root : TableReference) (js : List JoinDescriptor) :
    root.aliasName ∈ aliasesOf root js := List.mem_cons_self

theorem mem_aliasesOf_of_contains {root : TableReference} {s : JoinSet} {k : JoinDescriptor}
    (h : s.contains k = true) : k.target.aliasName ∈ aliasesOf root s.joins := by
  obtain ⟨j, hj, hjk⟩ := (JoinSet.contains_iff s k).1 h
  rw [← JoinDescriptor.target_eq_of_same hjk]
  exact List.mem_cons_of_mem _ (List.mem_map_of_mem hj)

theorem aliasesOf_subset {root : TableReference} {s t : JoinSet}
    (h : ∀ k, s.contains k = true → t.contains k = true) :
    ∀ a ∈ aliasesOf root s.joins, a ∈ aliasesOf root t.joins := by
  intro a ha
  rcases List.mem_cons.1 ha with rfl | ha
  · exact root_mem_aliasesOf _ _
  · obtain ⟨j, hj, rfl⟩ := List.mem_map.1 ha
    exact mem_aliasesOf_of_contains (h j ((JoinSet.contains_iff s j).2 ⟨j, hj, j.same_self⟩))

theorem aliasesOf_perm {root : TableReference} {js ks : List JoinDescriptor} (h : js.Perm ks) :
    ∀ a ∈ aliasesOf root ks, a ∈ aliasesOf root js := by
  intro a ha
  rcases List.mem_cons.1 ha with rfl | ha
  · exact root_mem_aliasesOf _ _
  · exact List.mem_cons_of_mem _ ((h.map _).symm.subset ha)

@[simp] theorem tableName_toRef (t : TableReference) : Standard.tableName t.toRef = t.aliasName :=
  rfl

theorem joinsScoped_cons (introduced : List String) (x : Sql.JoinKind × Sql.TableRef × Sql.Expr)
    (rest : List (Sql.JoinKind × Sql.TableRef × Sql.Expr)) :
    Query.joinsScoped introduced (x :: rest) =
      (x.2.2.scopedIn (Standard.tableName x.2.1 :: introduced) &&
        Query.joinsScoped (Standard.tableName x.2.1 :: introduced) rest) := by
  obtain ⟨kind, t, on⟩ := x
  rfl

@[simp] theorem tableName_toJoin (j : JoinDescriptor) :
    Standard.tableName j.toJoin.2.1 = j.target.aliasName :=
  rfl

/-- Joins placed one after another have conditions that name their source, an introduced
table, and their own target. -/
theorem joinsScoped_map_toJoin {introduced : List TableReference} {js : List JoinDescriptor}
    (h : Placed introduced js) :
    Query.joinsScoped (introduced.map (·.aliasName)) (js.map (·.toJoin)) = true := by
  induction js generalizing introduced with
  | nil => rfl
  | cons j js ih =>
    have hsrc : j.source.aliasName ∈ introduced.map (·.aliasName) := List.mem_map_of_mem h.1
    rw [List.map_cons, joinsScoped_cons, tableName_toJoin, Bool.and_eq_true]
    refine ⟨?_, ih h.2⟩
    simp [JoinDescriptor.toJoin, TableReference.column, Expr.eq, Expr.scopedIn, hsrc]

/-- A statement over the root table and joins placed from it is well scoped when its
items, condition, grouping and ordering read only the root and the joins' targets. -/
theorem wellScoped_of_placed {root : TableReference} {ordered : List JoinDescriptor}
    (hp : Placed [root] ordered) {q : Sql.Query} (hsrc : q.source = some root.toRef)
    (hjoins : q.joins = ordered.map (·.toJoin))
    (hselect : ∀ x ∈ q.select, x.1.scopedIn (aliasesOf root ordered) = true)
    (hfilter : ∀ e, q.filter = some e → e.scopedIn (aliasesOf root ordered) = true)
    (hgroup : ∀ e ∈ q.groupBy, e.scopedIn (aliasesOf root ordered) = true)
    (horder : ∀ x ∈ q.orderBy, x.1.scopedIn (aliasesOf root ordered) = true) :
    q.wellScoped = true := by
  obtain ⟨select, source, joins, filter, groupBy, orderBy, paging⟩ := q
  dsimp only at hsrc hjoins hselect hfilter hgroup horder
  subst hsrc hjoins
  have hj := joinsScoped_map_toJoin hp
  have hscope : ((some root.toRef).map Standard.tableName).toList ++
      (ordered.map (·.toJoin)).map (fun j => Standard.tableName j.2.1) = aliasesOf root ordered := by
    simp [aliasesOf]
  rw [Sql.Query.wellScoped, hscope]
  simp only [List.map_cons, List.map_nil] at hj
  simp only [Option.map_some, Option.toList_some, tableName_toRef, hj, Bool.true_and,
    Bool.and_eq_true, Sql.Query.itemsScoped_iff, Sql.Query.orderScoped_iff,
    Sql.Expr.allScopedIn_iff]
  refine ⟨⟨⟨hselect, ?_⟩, hgroup⟩, horder⟩
  cases filter with
  | none => rfl
  | some e => exact hfilter e rfl

namespace ResourceMapping

variable {m : ResourceMapping}

theorem columnExpr_scopedIn (hm : Consistent m) {a : AttributeLocation} (ha : a ∈ m.attributes)
    {s : JoinSet} (hs : ∀ k ∈ a.requiredJoins, s.contains k = true) :
    a.columnExpr.scopedIn (aliasesOf m.root s.joins) = true := by
  simp only [AttributeLocation.columnExpr, TableReference.column, Expr.scopedIn_col,
    decide_eq_true_eq]
  rcases hm.reachable a ha with hroot | ⟨k, hk, hkt⟩
  · rw [hroot]
    exact root_mem_aliasesOf _ _
  · rw [← hkt]
    exact mem_aliasesOf_of_contains (hs k hk)

theorem idExpr_scopedIn (js : List JoinDescriptor) : m.idExpr.scopedIn (aliasesOf m.root js) = true := by
  simp [idExpr, TableReference.column, root_mem_aliasesOf]

end ResourceMapping

namespace Compile

open ResourceMapping

variable {m : ResourceMapping} {scope : List String}

theorem presence_scopedIn {a : AttributeLocation} (h : a.columnExpr.scopedIn scope = true) :
    (presence a).scopedIn scope = true := by
  unfold presence
  split <;> simp [Sql.Expr.and, Sql.Expr.scopedIn, h]

theorem compare_scopedIn {a : AttributeLocation} {path : String} {op : CompareOp}
    {value : FilterValue} {e : Sql.Expr} (h : a.columnExpr.scopedIn scope = true)
    (hc : compare a path op value = .ok e) : e.scopedIn scope = true := by
  obtain ⟨-, rfl⟩ | ⟨-, ⟨-, rfl⟩ | ⟨-, rfl⟩⟩ | ⟨-, -, -, v, -, column, rhs, hsides, hshape⟩ :=
    compare_eq_ok_cases hc
  · exact presence_scopedIn h
  · simpa [Sql.Expr.scopedIn] using h
  · simpa [Sql.Expr.scopedIn] using h
  · have hops : column.scopedIn scope = true ∧ rhs.scopedIn scope = true := by
      rcases hsides with ⟨-, rfl, rfl⟩ | ⟨-, rfl, rfl⟩
      · exact ⟨h, rfl⟩
      · exact ⟨Sql.Expr.scopedIn_call h, Sql.Expr.scopedIn_call rfl⟩
    rcases hshape with ⟨-, rfl⟩ | ⟨-, rfl⟩ <;> simp [Sql.Expr.scopedIn, hops]

theorem scopedIn_foldl {f : Sql.Expr → Sql.Expr → Sql.Expr}
    (hf : ∀ a b, a.scopedIn scope = true → b.scopedIn scope = true → (f a b).scopedIn scope = true)
    {first : Sql.Expr} {rest : List Sql.Expr}
    (hfirst : first.scopedIn scope = true) (hrest : ∀ e ∈ rest, e.scopedIn scope = true) :
    (rest.foldl f first).scopedIn scope = true := by
  induction rest generalizing first with
  | nil => exact hfirst
  | cons e rest ih =>
    exact ih (hf first e hfirst (hrest e List.mem_cons_self)) fun x hx =>
      hrest x (List.mem_cons_of_mem _ hx)

theorem scopedIn_or {a b : Sql.Expr} (ha : a.scopedIn scope = true) (hb : b.scopedIn scope = true) :
    (Sql.Expr.or a b).scopedIn scope = true := by
  simp [Sql.Expr.or, Sql.Expr.scopedIn, ha, hb]

theorem scopedIn_and {a b : Sql.Expr} (ha : a.scopedIn scope = true) (hb : b.scopedIn scope = true) :
    (Sql.Expr.and a b).scopedIn scope = true := by
  simp [Sql.Expr.and, Sql.Expr.scopedIn, ha, hb]

theorem contains_foldl_extend_chains {joins : JoinSet} {cs : List AttributeLocation} :
    ∀ c ∈ cs, ∀ k ∈ c.requiredJoins,
      (cs.foldl (fun js c => js.extend c.requiredJoins) joins).contains k = true := by
  intro c hc k hk
  rw [contains_foldl_extend]
  simp only [Bool.or_eq_true, List.any_eq_true]
  exact .inr ⟨c, hc, k, hk, k.same_self⟩

theorem contains_of_contains_foldl_extend {joins : JoinSet} {cs : List AttributeLocation}
    {k : JoinDescriptor} (h : joins.contains k = true) :
    (cs.foldl (fun js c => js.extend c.requiredJoins) joins).contains k = true := by
  rw [contains_foldl_extend, h, Bool.true_or]

theorem contains_extend_of_mem {joins : JoinSet} {js : List JoinDescriptor} {k : JoinDescriptor}
    (h : k ∈ js) : (joins.extend js).contains k = true := by
  rw [JoinSet.contains_extend]
  simp only [Bool.or_eq_true, List.any_eq_true]
  exact .inr ⟨k, h, k.same_self⟩

theorem contains_extend_of_contains {joins : JoinSet} {js : List JoinDescriptor}
    {k : JoinDescriptor} (h : joins.contains k = true) : (joins.extend js).contains k = true := by
  rw [JoinSet.contains_extend, h, Bool.true_or]

/-- A comparison reads only columns of the attributes whose chains it adds, and keeps the
joins it was given. -/
theorem comparison_scopedIn (hm : Consistent m) {joins : JoinSet} {path : String}
    {op : CompareOp} {value : FilterValue} {e : Sql.Expr} {js : JoinSet}
    (h : comparison m joins path op value = .ok (e, js)) :
    e.scopedIn (aliasesOf m.root js.joins) = true ∧
      ∀ k, joins.contains k = true → js.contains k = true := by
  obtain ⟨_, -, ⟨a, hr, hc, rfl⟩ | ⟨name, first, rest, hr, rfl, rfl⟩ |
    ⟨name, children, a, hr, ha, hc, rfl⟩⟩ := comparison_eq_ok_cases h
  · refine ⟨compare_scopedIn ?_ hc, fun k hk => contains_extend_of_contains hk⟩
    exact columnExpr_scopedIn hm (resolvePath_attribute hr) fun k hk => contains_extend_of_mem hk
  · have hchildren := resolvePath_complex hr
    have hpresence : ∀ c ∈ first :: rest, (presence c).scopedIn (aliasesOf m.root
        ((first :: rest).foldl (fun js c => js.extend c.requiredJoins) joins).joins) = true :=
      fun c hc => presence_scopedIn (columnExpr_scopedIn hm (hchildren c hc)
        (contains_foldl_extend_chains c hc))
    refine ⟨?_, fun k hk => contains_of_contains_foldl_extend hk⟩
    have hrest : ∀ x ∈ rest.map presence, x.scopedIn (aliasesOf m.root
        ((first :: rest).foldl (fun js c => js.extend c.requiredJoins) joins).joins) = true := by
      intro x hx
      obtain ⟨c, hc, rfl⟩ := List.mem_map.1 hx
      exact hpresence c (List.mem_cons_of_mem _ hc)
    have hany := scopedIn_foldl (fun _ _ => scopedIn_or) (hpresence first List.mem_cons_self) hrest
    simpa [List.foldl_map, Sql.Expr.scopedIn] using hany
  · refine ⟨compare_scopedIn ?_ hc, fun k hk => contains_extend_of_contains hk⟩
    exact columnExpr_scopedIn hm (resolvePath_complex hr a (valueChild_mem ha))
      fun k hk => contains_extend_of_mem hk

/-- The subquery of a negation over joins that may repeat a row is well scoped: it selects
the root id over the ordered joins of the negated filter, under that filter's condition. -/
theorem matching_wellScoped {inner : JoinSet} {p : Sql.Expr} {ordered : List JoinDescriptor}
    (hd : JoinDescriptor.Distinct inner.joins)
    (hp : p.scopedIn (aliasesOf m.root inner.joins) = true)
    (hlin : linearize m.root inner.joins = .ok ordered) :
    (({ select := [(m.idExpr, none)], source := some m.root.toRef,
        joins := ordered.map JoinDescriptor.toJoin } : Sql.Query).andWhere p).wellScoped = true := by
  obtain ⟨-, hperm, hplaced, -⟩ := linearize_eq_ok_spec hlin
  rw [JoinDescriptor.eraseDupsBy_of_distinct hd] at hperm
  refine wellScoped_of_placed hplaced rfl rfl ?_ ?_ (by simp [Sql.Query.andWhere]) (by simp [Sql.Query.andWhere])
  · simp [Sql.Query.andWhere, idExpr_scopedIn]
  · intro e he
    simp only [Sql.Query.andWhere, Option.some.injEq] at he
    exact he ▸ Sql.Expr.scopedIn_mono (aliasesOf_perm hperm) p hp

/-- A compiled filter reads only aliases of the joins compiling it adds, each negation over
joins that may repeat a row reading its own in a well scoped subquery; and compiling keeps
the joins it was given. -/
theorem node_scopedIn (hm : Consistent m) (f : FilterNode) :
    ∀ {joins : JoinSet} {e : Sql.Expr} {js : JoinSet}, node m f joins = .ok (e, js) →
      e.scopedIn (aliasesOf m.root js.joins) = true ∧
        ∀ k, joins.contains k = true → js.contains k = true := by
  induction f with
  | comparison path op value => exact comparison_scopedIn hm
  | and l r ihl ihr =>
    intro joins e js h
    obtain ⟨pl, jl, pr, hl, hr, rfl⟩ := node_and_eq_ok h
    obtain ⟨hpl, hjl⟩ := ihl hl
    obtain ⟨hpr, hjr⟩ := ihr hr
    refine ⟨?_, fun k hk => hjr k (hjl k hk)⟩
    exact scopedIn_and (Sql.Expr.scopedIn_mono (aliasesOf_subset hjr) pl hpl) hpr
  | or l r ihl ihr =>
    intro joins e js h
    obtain ⟨pl, jl, pr, hl, hr, rfl⟩ := node_or_eq_ok h
    obtain ⟨hpl, hjl⟩ := ihl hl
    obtain ⟨hpr, hjr⟩ := ihr hr
    refine ⟨?_, fun k hk => hjr k (hjl k hk)⟩
    exact scopedIn_or (Sql.Expr.scopedIn_mono (aliasesOf_subset hjr) pl hpl) hpr
  | not c ih =>
    intro joins e js h
    obtain ⟨p, inner, hq, ⟨-, rfl, rfl⟩ | ⟨-, rfl, ordered, hlin, rfl⟩⟩ := node_not_eq_ok h
    · -- negated in place: the negated filter's joins join the statement
      obtain ⟨hp, -⟩ := ih hq
      have hin : ∀ k, inner.contains k = true → (joins.union inner).contains k = true := by
        intro k hk
        rw [JoinSet.union, JoinSet.contains_extend]
        simp [← JoinSet.contains_iff, hk]
      exact ⟨Sql.Expr.scopedIn_negate (Sql.Expr.scopedIn_mono (aliasesOf_subset hin) p hp),
        fun k hk => by rw [JoinSet.union, JoinSet.contains_extend, hk, Bool.true_or]⟩
    · -- negated as `id NOT IN (subquery)`: the joins stay in the subquery
      obtain ⟨hp, -⟩ := ih hq
      have hd := (node_whole c WholeChains.empty hq).distinct
      refine ⟨?_, fun _ hk => hk⟩
      simp [Sql.Expr.scopedIn, idExpr_scopedIn, matching_wellScoped hd hp hlin]

end Compile

theorem compileFilter_scopedIn {m : ResourceMapping} (hm : ResourceMapping.Consistent m)
    {f : FilterNode} {c : CompiledFilter} (h : compileFilter m f = .ok c) :
    c.predicate.scopedIn (aliasesOf m.root c.joins.joins) = true := by
  simp only [compileFilter, bind_eq_ok, pure_eq_ok] at h
  obtain ⟨⟨p, js⟩, hp, rfl⟩ := h
  exact (Compile.node_scopedIn hm f hp).1

theorem SortKey.expr_scopedIn {k : SortKey} {scope : List String}
    (h : k.location.columnExpr.scopedIn scope = true) : k.expr.scopedIn scope = true := by
  have hkey : (if k.location.foldsCase then Sql.Expr.lower k.location.columnExpr
      else k.location.columnExpr).scopedIn scope = true := by
    split
    · exact Sql.Expr.scopedIn_call h
    · exact h
  unfold SortKey.expr
  by_cases hagg : k.needsAggregate = true
  · simp only [hagg, if_true]
    cases k.order <;> exact Sql.Expr.scopedIn_call hkey
  · simp only [hagg, Bool.false_eq_true, if_false]
    exact hkey

namespace ResourceMapping

variable {m : ResourceMapping}

theorem restrictionOf_scopedIn {d : ResourceDecl} {r : RestrictionDecl} {e : Sql.Expr}
    (h : restrictionOf d r = .ok e) : e.scopedIn [d.root.aliasName] = true := by
  unfold restrictionOf at h
  split at h <;> cases h <;> simp [Sql.Expr.scopedIn, Sql.Expr.eq]

theorem ofDecl_root {d : ResourceDecl} (h : ofDecl d = .ok m) :
    m.root = ⟨d.root.table, d.root.aliasName⟩ := by
  simp only [ofDecl, bind_eq_ok, pure_eq_ok] at h
  obtain ⟨-, -, -, -, -, -, -, -, -, -, rfl⟩ := h
  rfl

theorem restrictions_scopedIn {d : ResourceDecl} (h : ofDecl d = .ok m) :
    ∀ e ∈ m.restrictions, e.scopedIn [m.root.aliasName] = true := by
  rw [ofDecl_root h]
  exact forall_of_mapM_eq_ok (fun _ _ => restrictionOf_scopedIn) (ofDecl_restrictions h)

theorem contains_statementJoins_filter {c : CompiledFilter} (sort : Option SortKey)
    {k : JoinDescriptor} (hk : c.joins.contains k = true) :
    (m.statementJoins (some c) sort).contains k = true := by
  have hunion : (JoinSet.union {} c.joins).contains k = true := by
    rw [JoinSet.union, JoinSet.contains_extend]
    simp [← JoinSet.contains_iff, hk]
  unfold statementJoins
  apply Compile.contains_of_contains_foldl_extend
  cases sort <;> simp only [hunion, Compile.contains_extend_of_contains hunion]

theorem contains_statementJoins_sort (compiled : Option CompiledFilter) {key : SortKey}
    {k : JoinDescriptor} (hk : k ∈ key.location.requiredJoins) :
    (m.statementJoins compiled (some key)).contains k = true := by
  unfold statementJoins
  exact Compile.contains_of_contains_foldl_extend (Compile.contains_extend_of_mem hk)

/-- The condition of the statements reads the root table and the joins of the filter. -/
theorem condition_scopedIn (hr : ∀ e ∈ m.restrictions, e.scopedIn [m.root.aliasName] = true)
    {tenant : String} {compiled : Option CompiledFilter} (sort : Option SortKey)
    (hc : ∀ c, compiled = some c → c.predicate.scopedIn (aliasesOf m.root c.joins.joins) = true) :
    (m.condition tenant compiled).scopedIn (aliasesOf m.root (m.statementJoins compiled sort).joins) =
      true := by
  have hroot : ∀ a ∈ [m.root.aliasName], a ∈ aliasesOf m.root (m.statementJoins compiled sort).joins := by
    simp [root_mem_aliasesOf]
  have hguard : (m.restrictions.foldl Sql.Expr.and (m.tenantExpr tenant)).scopedIn
      (aliasesOf m.root (m.statementJoins compiled sort).joins) = true := by
    refine Compile.scopedIn_foldl (fun _ _ => Compile.scopedIn_and) ?_
      fun e he => Sql.Expr.scopedIn_mono hroot e (hr e he)
    simp [tenantExpr, TableReference.column, Sql.Expr.eq, Sql.Expr.scopedIn, root_mem_aliasesOf]
  unfold condition
  cases compiled with
  | none => exact hguard
  | some c =>
    refine Compile.scopedIn_and hguard (Sql.Expr.scopedIn_mono ?_ _ (hc c rfl))
    exact aliasesOf_subset fun k hk => contains_statementJoins_filter sort hk

theorem projection_scopedIn (hm : Consistent m) (compiled : Option CompiledFilter)
    (sort : Option SortKey) :
    ∀ e ∈ m.projection, e.scopedIn (aliasesOf m.root (m.statementJoins compiled sort).joins) = true := by
  intro e he
  rcases List.mem_cons.1 he with rfl | he
  · exact idExpr_scopedIn _
  · obtain ⟨a, ha, rfl⟩ := List.mem_map.1 he
    exact columnExpr_scopedIn hm (List.mem_filter.1 ha).1 fun k hk =>
      contains_statementJoins compiled sort ha hk

/-- The row statement is well scoped when its joins are placed from the root and its
items, condition and ordering read their aliases. -/
theorem rowStatement_wellScoped {ordered : List JoinDescriptor} (hp : Placed [m.root] ordered)
    {cond : Sql.Expr} {sort : Option SortKey} (grouped : Bool) (page : Page)
    (hcond : cond.scopedIn (aliasesOf m.root ordered) = true)
    (hsort : ∀ k, sort = some k → k.expr.scopedIn (aliasesOf m.root ordered) = true)
    (hproj : ∀ e ∈ m.projection, e.scopedIn (aliasesOf m.root ordered) = true) :
    (m.rowStatement ordered cond sort grouped page).wellScoped = true := by
  refine wellScoped_of_placed hp rfl rfl ?_ (fun e he => ?_) (fun e he => ?_) fun x hx => ?_
  · intro x hx
    obtain ⟨e, he, rfl⟩ := List.mem_map.1 hx
    exact hproj e he
  · simp only [rowStatement, Sql.Query.withLimit, Sql.Query.withOffset, Option.some.injEq] at he
    exact he ▸ hcond
  · simp only [rowStatement, Sql.Query.withLimit, Sql.Query.withOffset] at he
    split at he
    · exact hproj e he
    · simp at he
  · simp only [rowStatement, Sql.Query.withLimit, Sql.Query.withOffset] at hx
    rcases List.mem_append.1 hx with hx | hx
    · cases sort with
      | none => simp at hx
      | some k =>
        simp only [Option.map_some, Option.toList_some, List.mem_singleton] at hx
        exact hx ▸ hsort k rfl
    · simp only [List.mem_singleton] at hx
      exact hx ▸ idExpr_scopedIn ordered

theorem countStatement_wellScoped {ordered : List JoinDescriptor} (hp : Placed [m.root] ordered)
    {cond : Sql.Expr} (hcond : cond.scopedIn (aliasesOf m.root ordered) = true) :
    (m.countStatement ordered cond).wellScoped = true := by
  refine wellScoped_of_placed hp rfl rfl ?_ (fun e he => ?_) (by simp [countStatement])
    (by simp [countStatement])
  · simp [countStatement, Sql.Expr.countDistinct, Sql.Expr.scopedIn, Sql.Expr.allScopedIn,
      idExpr_scopedIn]
  · simp only [countStatement, Option.some.injEq] at he
    exact he ▸ hcond

/-- The self-check orders each association's joins and finds each column's table among the
root and the joins' targets. -/
theorem association_reachable (h : m.selfCheck = .ok ()) {assoc : Association}
    (ha : assoc ∈ m.associations) {o : List JoinDescriptor}
    (ho : linearize m.root assoc.joins = .ok o) :
    ∀ c ∈ assoc.columns, c.table = m.root ∨ ∃ k ∈ o, k.target = c.table := by
  unfold selfCheck at h
  simp only [bind_eq_ok] at h
  obtain ⟨-, -, -, -, hassoc⟩ := h
  have h := forM_eq_ok hassoc assoc ha
  simp only [bind_eq_ok, ho] at h
  obtain ⟨_, ho', h⟩ := h
  cases ho'
  intro c hc
  exact checkReachable_ok (forM_eq_ok h c hc)

/-- The statement of an association, for the ids of any page, is well scoped. -/
theorem queryFor_wellScoped (h : m.selfCheck = .ok ()) {assoc : Association}
    (ha : assoc ∈ m.associations) {p : AssociationPlan}
    (hp : AssociationPlan.ofAssociation m assoc = .ok p) (ids : List Sql.Value) :
    (p.queryFor ids).wellScoped = true := by
  simp only [AssociationPlan.ofAssociation, bind_eq_ok, pure_eq_ok] at hp
  obtain ⟨o, ho, rfl⟩ := hp
  have hreach := association_reachable h ha ho
  have hplaced : Placed [m.root] (o.map fun j => { j with outer := false }) :=
    Placed.map (linearize_eq_ok_spec ho).2.2.1 fun _ _ => ⟨rfl, rfl⟩
  have hcolumns : ∀ c ∈ assoc.columns,
      (c.table.column c.column).scopedIn (aliasesOf m.root (o.map fun j => { j with outer := false })) =
        true := by
    intro c hc
    simp only [TableReference.column, Sql.Expr.scopedIn_col, decide_eq_true_eq]
    rcases hreach c hc with hroot | ⟨k, hk, hkt⟩
    · rw [hroot]
      exact root_mem_aliasesOf _ _
    · exact List.mem_cons_of_mem _ (List.mem_map.2 ⟨_, List.mem_map_of_mem hk, by rw [← hkt]⟩)
  have hitems : ∀ e ∈ m.idExpr :: assoc.columns.map (fun c => c.table.column c.column),
      e.scopedIn (aliasesOf m.root (o.map fun j => { j with outer := false })) = true := by
    intro e he
    rcases List.mem_cons.1 he with rfl | he
    · exact idExpr_scopedIn _
    · obtain ⟨c, hc, rfl⟩ := List.mem_map.1 he
      exact hcolumns c hc
  refine wellScoped_of_placed hplaced rfl (by simp [AssociationPlan.queryFor, Sql.Query.andWhere])
    (fun x hx => ?_) (fun e he => ?_) (by simp [AssociationPlan.queryFor, Sql.Query.andWhere])
    fun x hx => ?_
  · simp only [AssociationPlan.queryFor, Sql.Query.andWhere, List.mem_map] at hx
    obtain ⟨e, he, rfl⟩ := hx
    exact hitems e he
  · simp only [AssociationPlan.queryFor, Sql.Query.andWhere, Option.some.injEq] at he
    subst he
    simp only [Sql.Expr.scopedIn, Bool.and_eq_true, Sql.Expr.allScopedIn_iff]
    refine ⟨idExpr_scopedIn _, fun e he => ?_⟩
    obtain ⟨v, -, rfl⟩ := List.mem_map.1 he
    rfl
  · simp only [AssociationPlan.queryFor, Sql.Query.andWhere, List.mem_map] at hx
    obtain ⟨e, he, rfl⟩ := hx
    exact hitems e he

/-- Every statement planned for a checked mapping whose restrictions read the root table is
well scoped: the row and count statements, with the subqueries in their condition, and the
statement of each association for the ids of any page. -/
theorem plan_wellScoped (hcheck : m.selfCheck = .ok ())
    (hr : ∀ e ∈ m.restrictions, e.scopedIn [m.root.aliasName] = true) {settings : QuerySettings}
    {tenant : String} {filter : Option FilterNode} {sortBy : Option String}
    {sortOrder : Option SortOrder} {pageRequest : PageRequest} {pq : PlannedQuery}
    (h : m.plan settings tenant filter sortBy sortOrder pageRequest = .ok pq) :
    pq.rows.query.wellScoped = true ∧ pq.count.query.wellScoped = true ∧
      ∀ a ∈ pq.associations, ∀ ids, (a.queryFor ids).wellScoped = true := by
  obtain ⟨compiled, sort, ordered, assocs, hc, hs, hlin, ha, rfl⟩ := plan_eq_ok.1 h
  have hm := consistent_of_selfCheck hcheck
  have ho := orderedJoins_of_linearize (statementJoins_whole_of_ok hc hs) hlin
  have hsub : ∀ a ∈ aliasesOf m.root (m.statementJoins compiled sort).joins,
      a ∈ aliasesOf m.root ordered := aliasesOf_perm ho.perm
  have hcomp : ∀ c, compiled = some c →
      c.predicate.scopedIn (aliasesOf m.root c.joins.joins) = true := by
    intro c hcs
    subst hcs
    cases filter with
    | none => simp [Option.mapM_none, pure_eq_ok] at hc
    | some f =>
      rw [Option.mapM_some, map_eq_ok] at hc
      obtain ⟨c', hc', hcc⟩ := hc
      rw [Option.some_inj] at hcc
      exact hcc ▸ compileFilter_scopedIn hm hc'
  have hcond : (m.condition tenant compiled).scopedIn
      (aliasesOf m.root (m.statementJoins compiled sort).joins) = true :=
    condition_scopedIn hr sort hcomp
  have hsort : ∀ k, sort = some k → k.expr.scopedIn (aliasesOf m.root ordered) = true := by
    intro k hk
    subst hk
    cases sortBy with
    | none => simp [Option.mapM_none, pure_eq_ok] at hs
    | some s =>
      rw [Option.mapM_some, map_eq_ok] at hs
      obtain ⟨k', hk', hkk⟩ := hs
      rw [Option.some_inj] at hkk
      subst hkk
      exact SortKey.expr_scopedIn (Sql.Expr.scopedIn_mono hsub _
        (columnExpr_scopedIn hm (SortKey.resolve_mem hk')
          fun j hj => contains_statementJoins_sort compiled hj))
  refine ⟨?_, ?_, fun p hp ids => ?_⟩
  · exact rowStatement_wellScoped ho.placed _ _ (Sql.Expr.scopedIn_mono hsub _ hcond) hsort
      fun e he => Sql.Expr.scopedIn_mono hsub e (projection_scopedIn hm compiled sort e he)
  · exact countStatement_wellScoped ho.placed (Sql.Expr.scopedIn_mono hsub _ hcond)
  · obtain ⟨assoc, hassoc, hp'⟩ := exists_of_mapM_eq_ok ha p hp
    exact queryFor_wellScoped hcheck hassoc hp' ids

end ResourceMapping

/-- Every resource of a registry built from a catalog is the mapping of one of the catalog's
declarations. -/
theorem Registry.exists_ofDecl_of_mem {c : CatalogDecl} {reg : Registry}
    (h : Registry.ofDecl c = .ok reg) : ∀ m ∈ reg.resources, ∃ d, ResourceMapping.ofDecl d = .ok m := by
  simp only [Registry.ofDecl, bind_eq_ok] at h
  obtain ⟨rs, hrs, h⟩ := h
  simp only [Registry.ofMappings, bind_eq_ok, pure_eq_ok] at h
  obtain ⟨_, -, rfl⟩ := h
  exact forall_of_mapM_eq_ok (fun d m hd => ⟨d, hd⟩) hrs

/-- Every statement of a plan over a catalog that passed its checks names only aliases it
introduces. In the row statement, the count statement and the statement of each
association, for the ids of any page, every column of the items, the WHERE condition, the
grouping and the ordering names the root alias or the target alias of one of the
statement's joins, and every join condition names only its own target and aliases
introduced before it. Each subquery that a negation puts into a condition names only the
root alias and its own joins, and the statement around it never names a join kept out of
it. -/
theorem plan_statements_wellScoped {c : CatalogDecl} {reg : Registry}
    (hreg : Registry.ofDecl c = .ok reg) (settings : QuerySettings) (r : QueryRequest)
    {pq : PlannedQuery} (h : reg.plan settings r = .ok pq) :
    pq.rows.query.wellScoped = true ∧ pq.count.query.wellScoped = true ∧
      ∀ a ∈ pq.associations, ∀ ids, (a.queryFor ids).wellScoped = true := by
  simp only [Registry.plan, bind_eq_ok] at h
  obtain ⟨m, hm, h⟩ := h
  have hmem := Registry.get_mem hm
  obtain ⟨d, hd⟩ := Registry.exists_ofDecl_of_mem hreg m hmem
  exact ResourceMapping.plan_wellScoped (Registry.selfCheck_of_ofDecl hreg m hmem)
    (ResourceMapping.restrictions_scopedIn hd) h

/-- Groups without a given member and with a member whose name contains a text: the negated
condition becomes a NOT IN subquery, the other joins the members into the statements, and
every statement, the members' own included, is well scoped. -/
theorem groups_plan_statements_wellScoped :
    ∃ reg m c pq, Registry.ofDecl ⟨[Catalog.groupDecl]⟩ = .ok reg ∧
      reg.get "Groups" = .ok m ∧
      compileFilter m (.not (.comparison "members.value" .eq (.string "u1"))) = .ok c ∧
      (∃ q, c.predicate = .inQuery m.idExpr q true) ∧
      reg.plan {} { resource := "Groups", tenant := "acme",
                    filter := some (.and (.not (.comparison "members.value" .eq (.string "u1")))
                      (.comparison "members.display" .co (.string "ann"))) } = .ok pq ∧
      pq.rows.query.joins.length = 2 ∧
      pq.rows.query.wellScoped = true ∧ pq.count.query.wellScoped = true ∧
      ∀ a ∈ pq.associations, ∀ ids, (a.queryFor ids).wellScoped = true := by
  obtain ⟨reg, m, c, pq, hreg, hm, hc, hnot, h, hjoins⟩ : ∃ reg m c pq,
      Registry.ofDecl ⟨[Catalog.groupDecl]⟩ = .ok reg ∧
      reg.get "Groups" = .ok m ∧
      compileFilter m (.not (.comparison "members.value" .eq (.string "u1"))) = .ok c ∧
      (∃ q, c.predicate = .inQuery m.idExpr q true) ∧
      reg.plan {} { resource := "Groups", tenant := "acme",
                    filter := some (.and (.not (.comparison "members.value" .eq (.string "u1")))
                      (.comparison "members.display" .co (.string "ann"))) } = .ok pq ∧
      pq.rows.query.joins.length = 2 :=
    ⟨_, _, _, _, rfl, rfl, rfl, ⟨_, rfl⟩, rfl, rfl⟩
  exact ⟨reg, m, c, pq, hreg, hm, hc, hnot, h, hjoins, plan_statements_wellScoped hreg _ _ h⟩

end ScimQuery
