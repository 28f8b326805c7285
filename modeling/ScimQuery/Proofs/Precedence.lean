import ScimQuery.Catalog.Builtin
import ScimQuery.Proofs.Stages

/-! # Conditions that keep their shape in text

The generated SQL writes `AND`, `OR` and `NOT` without parentheses of their own, so a
condition means what its tree says only if the tree never relies on them: no operand of
an AND is a bare OR, no operand of a comparison, LIKE, IS NULL or IN is a bare AND, OR or
NOT, and NOT always stands before a parenthesized expression. Compiled filters, static
restrictions and the tenant's equality all have this shape, and so has the condition of
every planned row and count statement: the left-nested conjunction of the tenant's
equality, the restrictions in declaration order and the compiled filter, whose top-level
conjuncts are exactly these.
-/

namespace ScimQuery

namespace Sql

namespace Expr

/-- A bare AND. -/
def isAnd : Expr → Bool
  | .binary _ .and _ => true
  | _ => false

/-- A bare OR. -/
def isOr : Expr → Bool
  | .binary _ .or _ => true
  | _ => false

/-- A bare AND, OR or NOT: an expression that binds more loosely than a comparison. -/
def isConnective : Expr → Bool
  | .binary _ .and _ | .binary _ .or _ | .not _ => true
  | _ => false

/-- A parenthesized expression. -/
def isParen : Expr → Bool
  | .paren _ => true
  | _ => false

end Expr

mutual

/-- Whether an expression and every expression inside it, subqueries included, keeps its
shape when written without parentheses of its own. -/
def Expr.precedenceSafe : Expr → Bool
  | .column _ _ | .literal _ | .param _ | .star _ => true
  | .binary l op r =>
    (match op with
     | .and => !l.isOr && !r.isOr
     | .or => true
     | _ => !l.isConnective && !r.isConnective) &&
      l.precedenceSafe && r.precedenceSafe
  | .not e => e.isParen && e.precedenceSafe
  | .function _ args _ => Expr.allSafe args
  | .inList e values _ => !e.isConnective && e.precedenceSafe && Expr.allSafe values
  | .inQuery e q _ => !e.isConnective && e.precedenceSafe && q.precedenceSafe
  | .isNull e _ => !e.isConnective && e.precedenceSafe
  | .like e p _ _ =>
    !e.isConnective && !p.isConnective && e.precedenceSafe && p.precedenceSafe
  | .paren e => e.precedenceSafe

/-- Whether every expression of a list is precedence safe. -/
def Expr.allSafe : List Expr → Bool
  | [] => true
  | e :: es => e.precedenceSafe && Expr.allSafe es

/-- Whether every expression of a query is precedence safe: its items, the conditions of
its joins, its WHERE condition, its grouping and its ordering. -/
def Query.precedenceSafe : Query → Bool
  | ⟨select, _, joins, filter, groupBy, orderBy, _⟩ =>
    Query.selectSafe select && Query.joinsSafe joins && Query.filterSafe filter &&
      Expr.allSafe groupBy && Query.orderSafe orderBy

/-- Whether every SELECT item is precedence safe. -/
def Query.selectSafe : List (Expr × Option String) → Bool
  | [] => true
  | (e, _) :: rest => e.precedenceSafe && Query.selectSafe rest

/-- Whether every join condition is precedence safe. -/
def Query.joinsSafe : List (JoinKind × TableRef × Expr) → Bool
  | [] => true
  | (_, _, on) :: rest => on.precedenceSafe && Query.joinsSafe rest

/-- Whether a WHERE condition, when there is one, is precedence safe. -/
def Query.filterSafe : Option Expr → Bool
  | some e => e.precedenceSafe
  | none => true

/-- Whether every ORDER BY item is precedence safe. -/
def Query.orderSafe : List (Expr × Option SortDir) → Bool
  | [] => true
  | (e, _) :: rest => e.precedenceSafe && Query.orderSafe rest

end

-- The equation lemmas of the checks are generated here, once, rather than by each of the
-- proofs below that unfold them.
section
attribute [local simp] Expr.isAnd Expr.isOr Expr.isConnective Expr.isParen
  Expr.precedenceSafe Expr.allSafe Query.precedenceSafe Query.selectSafe Query.joinsSafe
  Query.filterSafe Query.orderSafe
end

namespace Expr

/-- `first AND e₁ AND … AND eₖ`, nested to the left. -/
def conjunction (first : Expr) (rest : List Expr) : Expr := rest.foldl Expr.and first

/-- The top-level conjuncts of a condition: the operands of its bare ANDs, left to right. -/
def conjuncts : Expr → List Expr
  | .binary l .and r => l.conjuncts ++ r.conjuncts
  | e => [e]

/-- A condition that may stand as an operand of AND and is not itself a conjunction. -/
def Conjunct (e : Expr) : Prop := e.precedenceSafe = true ∧ e.isAnd = false ∧ e.isOr = false

/-- An operand of a comparison: no bare connective, and safe inside. -/
def Operand (e : Expr) : Prop := e.isConnective = false ∧ e.precedenceSafe = true

theorem operand_col (t c : String) : Operand (col t c) := by
  simp [Operand, col, isConnective, precedenceSafe]

theorem operand_param (v : Value) : Operand (.param v) := by
  simp [Operand, isConnective, precedenceSafe]

theorem operand_lower {e : Expr} (h : Operand e) : Operand e.lower := by
  simp [Operand, lower, call, isConnective, precedenceSafe, allSafe, h.2]

theorem conjunct_comparison {l r : Expr} {op : BinOp} (hop : op.isComparison = true)
    (hl : Operand l) (hr : Operand r) : Conjunct (.binary l op r) := by
  cases op <;> simp_all [BinOp.isComparison, Conjunct, Operand, precedenceSafe, isAnd, isOr]

theorem conjunct_like {l r : Expr} (hl : Operand l) (hr : Operand r) (esc : Char)
    (negated : Bool) : Conjunct (.like l r esc negated) := by
  simp_all [Conjunct, Operand, precedenceSafe, isAnd, isOr]

theorem conjunct_isNull {e : Expr} (he : Operand e) (negated : Bool) :
    Conjunct (.isNull e negated) := by
  simp_all [Conjunct, Operand, precedenceSafe, isAnd, isOr]

theorem conjunct_inQuery {e : Expr} {q : Query} (he : Operand e) (hq : q.precedenceSafe = true)
    (negated : Bool) : Conjunct (.inQuery e q negated) := by
  simp_all [Conjunct, Operand, precedenceSafe, isAnd, isOr]

theorem conjunct_paren {e : Expr} (he : e.precedenceSafe = true) : Conjunct (.paren e) := by
  simp_all [Conjunct, precedenceSafe, isAnd, isOr]

/-- `NOT` puts its operand in parentheses, so a safe operand gives a safe negation. -/
theorem conjunct_negate {e : Expr} (he : e.precedenceSafe = true) : Conjunct e.negate := by
  unfold negate
  split <;> simp_all [Conjunct, precedenceSafe, isAnd, isOr, isParen]

theorem precedenceSafe_foldl_or {first : Expr} {rest : List Expr}
    (hfirst : first.precedenceSafe = true) (hrest : ∀ e ∈ rest, e.precedenceSafe = true) :
    (rest.foldl Expr.or first).precedenceSafe = true := by
  induction rest generalizing first with
  | nil => exact hfirst
  | cons e rest ih =>
    apply ih _ fun x hx => hrest x (List.mem_cons_of_mem _ hx)
    simp [Expr.or, precedenceSafe, hfirst, hrest e (by simp)]

theorem conjuncts_of_not_isAnd {e : Expr} (h : e.isAnd = false) : e.conjuncts = [e] := by
  cases e with
  | binary l op r => cases op <;> simp_all [isAnd, conjuncts]
  | _ => simp [conjuncts]

theorem conjunction_cons (first e : Expr) (rest : List Expr) :
    conjunction first (e :: rest) = conjunction (first.and e) rest := rfl

/-- Conjuncts added to the right of a safe condition that is no bare OR keep it safe, and
each becomes one more top-level conjunct. -/
theorem conjunction_safe {first : Expr} {rest : List Expr}
    (hfirst : first.precedenceSafe = true) (hor : first.isOr = false)
    (hrest : ∀ e ∈ rest, Conjunct e) :
    (conjunction first rest).precedenceSafe = true ∧
      (conjunction first rest).conjuncts = first.conjuncts ++ rest := by
  induction rest generalizing first with
  | nil => simp [conjunction, hfirst]
  | cons e rest ih =>
    obtain ⟨he, heAnd, heOr⟩ := hrest e (by simp)
    have hstep : (first.and e).precedenceSafe = true := by
      simp [Expr.and, precedenceSafe, hor, heOr, hfirst, he]
    obtain ⟨hsafe, hsplit⟩ := ih hstep rfl fun x hx => hrest x (List.mem_cons_of_mem _ hx)
    refine ⟨hsafe, ?_⟩
    rw [conjunction_cons, hsplit]
    simp [Expr.and, conjuncts, conjuncts_of_not_isAnd heAnd]

/-- A left-nested conjunction of conjuncts is precedence safe, and its top-level
conjuncts are its operands. -/
theorem conjunction_conjunct {first : Expr} {rest : List Expr} (hfirst : Conjunct first)
    (hrest : ∀ e ∈ rest, Conjunct e) :
    (conjunction first rest).precedenceSafe = true ∧
      (conjunction first rest).conjuncts = first :: rest := by
  obtain ⟨hsafe, hsplit⟩ := conjunction_safe hfirst.1 hfirst.2.2 hrest
  exact ⟨hsafe, by rw [hsplit, conjuncts_of_not_isAnd hfirst.2.1]; rfl⟩

end Expr

end Sql

open Sql.Expr

theorem AttributeLocation.operand_columnExpr (a : AttributeLocation) : Operand a.columnExpr :=
  operand_col _ _

theorem Sql.Query.joinsSafe_eq_true {l : List (Sql.JoinKind × Sql.TableRef × Sql.Expr)} :
    Sql.Query.joinsSafe l = true ↔ ∀ x ∈ l, x.2.2.precedenceSafe = true := by
  induction l with
  | nil => simp [Sql.Query.joinsSafe]
  | cons x l ih =>
    obtain ⟨kind, t, on⟩ := x
    simp [Sql.Query.joinsSafe, ih]

theorem joinsSafe_map_toJoin (js : List JoinDescriptor) :
    Sql.Query.joinsSafe (js.map (·.toJoin)) = true := by
  rw [Sql.Query.joinsSafe_eq_true]
  intro x hx
  obtain ⟨j, -, rfl⟩ := List.mem_map.1 hx
  exact (@conjunct_comparison _ _ .eq rfl (operand_col j.source.aliasName j.sourceColumn)
    (operand_col j.target.aliasName j.targetColumn)).1

namespace Compile

theorem presence_conjunct (a : AttributeLocation) : Conjunct (presence a) := by
  unfold presence
  split
  · apply conjunct_paren
    have hcol := a.operand_columnExpr
    simp_all [Sql.Expr.and, Operand, precedenceSafe, isOr, isConnective]
  · exact conjunct_isNull a.operand_columnExpr true

theorem binOp_isComparison (op : CompareOp) : (binOp op).isComparison = true := by
  cases op <;> rfl

/-- A comparison of an attribute with a literal is a NULL test, a LIKE or a comparison of
the column, perhaps in lower case, with a parameter, perhaps in lower case. -/
theorem compare_conjunct {a : AttributeLocation} {path : String} {op : CompareOp}
    {value : FilterValue} {e : Sql.Expr} (h : compare a path op value = .ok e) : Conjunct e := by
  have hcol := a.operand_columnExpr
  obtain ⟨-, rfl⟩ | ⟨-, ⟨-, rfl⟩ | ⟨-, rfl⟩⟩ | ⟨-, -, -, v, -, column, rhs, hsides, hshape⟩ :=
    compare_eq_ok_cases h
  · exact presence_conjunct a
  · exact conjunct_isNull hcol false
  · exact conjunct_isNull hcol true
  · have hops : Operand column ∧ Operand rhs := by
      rcases hsides with ⟨-, rfl, rfl⟩ | ⟨-, rfl, rfl⟩
      · exact ⟨hcol, operand_param _⟩
      · exact ⟨operand_lower hcol, operand_lower (operand_param _)⟩
    rcases hshape with ⟨-, rfl⟩ | ⟨-, rfl⟩
    · exact conjunct_like hops.1 hops.2 _ _
    · exact conjunct_comparison (binOp_isComparison op) hops.1 hops.2

theorem comparison_conjunct {m : ResourceMapping} {joins : JoinSet} {path : String}
    {op : CompareOp} {value : FilterValue} {e : Sql.Expr} {js : JoinSet}
    (h : comparison m joins path op value = .ok (e, js)) : Conjunct e := by
  obtain ⟨-, -, ⟨a, -, hc, -⟩ | ⟨name, first, rest, -, rfl, -⟩ | ⟨name, children, a, -, -, hc, -⟩⟩ :=
    comparison_eq_ok_cases h
  · exact compare_conjunct hc
  · apply conjunct_paren
    have hany := @precedenceSafe_foldl_or _ (rest.map presence)
      (presence_conjunct first).1 fun x hx => by
        obtain ⟨c, -, rfl⟩ := List.mem_map.1 hx
        exact (presence_conjunct c).1
    simpa [List.foldl_map, Sql.Expr.or] using hany
  · exact compare_conjunct hc

theorem node_conjunct {m : ResourceMapping} (f : FilterNode) :
    ∀ {joins : JoinSet} {e : Sql.Expr} {js : JoinSet}, node m f joins = .ok (e, js) → Conjunct e := by
  induction f with
  | comparison path op value => exact comparison_conjunct
  | and l r ihl ihr =>
    intro joins e js h
    obtain ⟨pl, jl, pr, hl, hr, rfl⟩ := node_and_eq_ok h
    obtain ⟨hlSafe, -, hlOr⟩ := ihl hl
    obtain ⟨hrSafe, -, hrOr⟩ := ihr hr
    apply conjunct_paren
    simp [Sql.Expr.and, precedenceSafe, hlSafe, hlOr, hrSafe, hrOr]
  | or l r ihl ihr =>
    intro joins e js h
    obtain ⟨pl, jl, pr, hl, hr, rfl⟩ := node_or_eq_ok h
    apply conjunct_paren
    simp [Sql.Expr.or, precedenceSafe, (ihl hl).1, (ihr hr).1]
  | not c ih =>
    intro joins e js h
    obtain ⟨p, inner, hp, ⟨-, rfl, -⟩ | ⟨-, -, ordered, -, rfl⟩⟩ := node_not_eq_ok h
    · exact conjunct_negate (ih hp).1
    · -- a negation over joins that may repeat a row becomes `id NOT IN (subquery)`
      have hsafe := (ih hp).1
      refine conjunct_inQuery (operand_col _ _) ?_ true
      simp [Sql.Query.andWhere, Sql.Query.precedenceSafe, Sql.Query.selectSafe,
        Sql.Query.filterSafe, Sql.Query.orderSafe, allSafe, joinsSafe_map_toJoin, hsafe,
        ResourceMapping.idExpr, TableReference.column, col, precedenceSafe]

end Compile

theorem compileFilter_conjunct {m : ResourceMapping} {f : FilterNode} {c : CompiledFilter}
    (h : compileFilter m f = .ok c) : Conjunct c.predicate := by
  simp only [compileFilter, bind_eq_ok, pure_eq_ok] at h
  obtain ⟨⟨p, js⟩, hp, rfl⟩ := h
  exact Compile.node_conjunct f hp

namespace ResourceMapping

theorem restrictionOf_conjunct {d : ResourceDecl} {r : RestrictionDecl} {e : Sql.Expr}
    (h : restrictionOf d r = .ok e) : Conjunct e := by
  have hcol := operand_col d.root.aliasName r.column
  unfold restrictionOf at h
  split at h
  · cases h
    exact conjunct_isNull hcol false
  · cases h
    exact conjunct_isNull hcol true
  · cases h
    exact conjunct_comparison rfl hcol (operand_param _)
  · cases h

theorem ofDecl_restrictions {d : ResourceDecl} {m : ResourceMapping} (h : ofDecl d = .ok m) :
    d.restrictions.mapM (restrictionOf d) = .ok m.restrictions := by
  simp only [ofDecl, bind_eq_ok, pure_eq_ok] at h
  obtain ⟨-, -, -, -, -, -, restrictions, hr, -, -, rfl⟩ := h
  exact hr

theorem tenantExpr_conjunct (m : ResourceMapping) (tenant : String) :
    Conjunct (m.tenantExpr tenant) :=
  conjunct_comparison rfl (operand_col _ _) (operand_param _)

theorem condition_eq_conjunction (m : ResourceMapping) (tenant : String)
    (compiled : Option CompiledFilter) :
    m.condition tenant compiled =
      Sql.Expr.conjunction (m.tenantExpr tenant)
        (m.restrictions ++ (compiled.map (·.predicate)).toList) := by
  cases compiled <;> simp [condition, conjunction, List.foldl_append, Sql.Expr.and]

end ResourceMapping

/-- The row and count statements of every plan keep the rows of the tenant. Their condition
is the left-nested conjunction of `root.tenant_column = tenant`, the static restrictions in
declaration order and the compiled filter. Every expression in it, subqueries included, is
precedence safe, and its top-level conjuncts are exactly these operands, the tenant's
equality first. -/
theorem plan_condition_tenant_first {d : ResourceDecl} {m : ResourceMapping}
    (hm : ResourceMapping.ofDecl d = .ok m) {settings : QuerySettings} {tenant : String}
    {filter : Option FilterNode} {sortBy : Option String} {sortOrder : Option SortOrder}
    {pageRequest : PageRequest} {pq : PlannedQuery}
    (h : m.plan settings tenant filter sortBy sortOrder pageRequest = .ok pq) :
    ∃ restrictions compiled,
      d.restrictions.mapM (ResourceMapping.restrictionOf d) = .ok restrictions ∧
      filter.mapM (compileFilter m) = .ok compiled ∧
      ∃ cond, cond = Sql.Expr.conjunction
          (Sql.Expr.eq (Sql.Expr.col m.root.aliasName m.tenantColumn) (.param (.text tenant)))
          (restrictions ++ (compiled.map (·.predicate)).toList) ∧
        pq.rows.query.filter = some cond ∧ pq.count.query.filter = some cond ∧
        cond.precedenceSafe = true ∧
        cond.conjuncts = Sql.Expr.eq (Sql.Expr.col m.root.aliasName m.tenantColumn)
          (.param (.text tenant)) :: (restrictions ++ (compiled.map (·.predicate)).toList) := by
  obtain ⟨compiled, sort, ordered, associations, hc, -, -, -, rfl⟩ :=
    ResourceMapping.plan_eq_ok.1 h
  have hrest : ∀ e ∈ m.restrictions, Conjunct e :=
    forall_of_mapM_eq_ok (fun _ _ => ResourceMapping.restrictionOf_conjunct)
      (ResourceMapping.ofDecl_restrictions hm)
  have hpred : ∀ e ∈ (compiled.map (·.predicate)).toList, Conjunct e := by
    intro e he
    cases filter with
    | none =>
      simp only [Option.mapM_none, pure_eq_ok] at hc
      simp [← hc] at he
    | some f =>
      simp only [Option.mapM_some, map_eq_ok] at hc
      obtain ⟨c, hfc, rfl⟩ := hc
      simp only [Option.map_some, Option.toList_some, List.mem_singleton] at he
      exact he ▸ compileFilter_conjunct hfc
  obtain ⟨hsafe, hsplit⟩ := conjunction_conjunct (m.tenantExpr_conjunct tenant)
    fun e he => (List.mem_append.1 he).elim (hrest e) (hpred e)
  refine ⟨m.restrictions, compiled, ResourceMapping.ofDecl_restrictions hm, hc, _, rfl, ?_, ?_,
    hsafe, hsplit⟩
  · simp [ResourceMapping.assemble, ResourceMapping.rowStatement, Sql.Query.withLimit,
      Sql.Query.withOffset, ResourceMapping.condition_eq_conjunction]
    rfl
  · simp [ResourceMapping.assemble, ResourceMapping.countStatement,
      ResourceMapping.condition_eq_conjunction]
    rfl

/-- Groups without a given member or name: the negation of the disjunction, which reads the
members through a to-many join, becomes a NOT IN subquery on the group's id, and the
condition of both statements is the tenant's equality followed by it. -/
theorem groups_plan_condition_tenant_first :
    ∃ m pq c, ResourceMapping.ofDecl Catalog.groupDecl = .ok m ∧
      m.plan {} "acme" (some (.not (.or (.comparison "members.value" .eq (.string "u1"))
        (.comparison "displayName" .eq (.string "admins"))))) none none {} = .ok pq ∧
      compileFilter m (.not (.or (.comparison "members.value" .eq (.string "u1"))
        (.comparison "displayName" .eq (.string "admins")))) = .ok c ∧
      (∃ q, c.predicate = .inQuery m.idExpr q true) ∧
      ∃ restrictions compiled,
        Catalog.groupDecl.restrictions.mapM (ResourceMapping.restrictionOf Catalog.groupDecl) =
          .ok restrictions ∧
        (some (.not (.or (.comparison "members.value" .eq (.string "u1"))
          (.comparison "displayName" .eq (.string "admins")))) : Option FilterNode).mapM
            (compileFilter m) = .ok compiled ∧
        ∃ cond, cond = Sql.Expr.conjunction
            (Sql.Expr.eq (Sql.Expr.col m.root.aliasName m.tenantColumn) (.param (.text "acme")))
            (restrictions ++ (compiled.map (·.predicate)).toList) ∧
          pq.rows.query.filter = some cond ∧ pq.count.query.filter = some cond ∧
          cond.precedenceSafe = true ∧
          cond.conjuncts = Sql.Expr.eq (Sql.Expr.col m.root.aliasName m.tenantColumn)
            (.param (.text "acme")) :: (restrictions ++ (compiled.map (·.predicate)).toList) := by
  obtain ⟨m, pq, c, hm, h, hc, hnot⟩ : ∃ m pq c,
      ResourceMapping.ofDecl Catalog.groupDecl = .ok m ∧
      m.plan {} "acme" (some (.not (.or (.comparison "members.value" .eq (.string "u1"))
        (.comparison "displayName" .eq (.string "admins"))))) none none {} = .ok pq ∧
      compileFilter m (.not (.or (.comparison "members.value" .eq (.string "u1"))
        (.comparison "displayName" .eq (.string "admins")))) = .ok c ∧
      ∃ q, c.predicate = .inQuery m.idExpr q true := ⟨_, _, _, rfl, rfl, rfl, _, rfl⟩
  exact ⟨m, pq, c, hm, h, hc, hnot, plan_condition_tenant_first hm h⟩

end ScimQuery
