import ScimQuery.Sql.Render

/-! # Parameters are bound in clause order

The values a statement binds are those of its parameter tokens, in the order the tokens
are written. Read off the tree, they are the parameters of the SELECT items, of the join
conditions, of the WHERE condition, of the grouping and of the ordering, in this order,
with the parameters of a subquery where the subquery stands. An empty IN list is written
as a constant, so the expression before it binds nothing. None of this depends on the
dialect: pages and the ORDER BY that T-SQL needs for a page hold no parameter. Binding
numbers the parameter tokens from one, so the `k`-th placeholder of the text stands for
the `k`-th value bound.
-/

namespace ScimQuery.Sql

mutual

/-- The parameters of an expression, left to right as it is written. -/
def Expr.clauseParams : Expr → List Value
  | .column _ _ | .literal _ | .star _ => []
  | .param v => [v]
  | .binary l _ r => l.clauseParams ++ r.clauseParams
  | .not e | .isNull e _ | .paren e => e.clauseParams
  | .function _ args _ => Expr.listParams args
  | .inList _ [] _ => []
  | .inList e (v :: vs) _ => e.clauseParams ++ Expr.listParams (v :: vs)
  | .inQuery e q _ => e.clauseParams ++ q.clauseParams
  | .like e p _ _ => e.clauseParams ++ p.clauseParams

/-- The parameters of expressions, one after another. -/
def Expr.listParams : List Expr → List Value
  | [] => []
  | e :: es => e.clauseParams ++ Expr.listParams es

/-- The parameters of a query: those of its items, join conditions, WHERE condition,
grouping and ordering, in this order. -/
def Query.clauseParams : Query → List Value
  | ⟨select, _, joins, filter, groupBy, orderBy, _⟩ =>
    Query.selectParams select ++ Query.joinParams joins ++ Query.filterParams filter ++
      Expr.listParams groupBy ++ Query.orderParams orderBy

/-- The parameters of SELECT items. -/
def Query.selectParams : List (Expr × Option String) → List Value
  | [] => []
  | (e, _) :: rest => e.clauseParams ++ Query.selectParams rest

/-- The parameters of join conditions. -/
def Query.joinParams : List (JoinKind × TableRef × Expr) → List Value
  | [] => []
  | (_, _, on) :: rest => on.clauseParams ++ Query.joinParams rest

/-- The parameters of a WHERE condition, when there is one. -/
def Query.filterParams : Option Expr → List Value
  | some e => e.clauseParams
  | none => []

/-- The parameters of ORDER BY items. -/
def Query.orderParams : List (Expr × Option SortDir) → List Value
  | [] => []
  | (e, _) :: rest => e.clauseParams ++ Query.orderParams rest

end

/-! ### Parameter tokens of the written tree -/

@[simp] theorem paramsOf_nil : paramsOf [] = [] := rfl

@[simp] theorem paramsOf_param_cons (v : Value) (ts : List Token) :
    paramsOf (.param v :: ts) = v :: paramsOf ts := rfl

@[simp] theorem paramsOf_cons_of_ne {t : Token} (ht : ∀ v, t ≠ .param v) (ts : List Token) :
    paramsOf (t :: ts) = paramsOf ts := by
  cases t <;> first | rfl | exact absurd rfl (ht _)

theorem paramsOf_tablePrefix (t : Option String) : paramsOf (tablePrefix t) = [] := by
  cases t <;> rfl

theorem paramsOf_negation (negated : Bool) : paramsOf (negation negated) = [] := by
  cases negated <;> rfl

theorem paramsOf_tableRef (t : TableRef) : paramsOf t.tokens = [] := by
  unfold TableRef.tokens
  cases t.aliasName <;> rfl

theorem paramsOf_paging (d : Dialect) (p : Paging) : paramsOf (p.tokens d) = [] := by
  unfold Paging.tokens
  cases d <;> cases p.limit <;> cases p.offset <;> simp

theorem paramsOf_literal (l : Literal) : paramsOf [l.token] = [] := by
  cases l <;> rfl

mutual

theorem Expr.paramsOf_tokens (e : Expr) : paramsOf e.tokens = e.clauseParams := by
  cases e with
  | column t c => simp [Expr.tokens, Expr.clauseParams, paramsOf_append, paramsOf_tablePrefix]
  | literal l => simp [Expr.tokens, Expr.clauseParams, paramsOf_literal]
  | param v => rfl
  | binary l op r =>
    simp [Expr.tokens, Expr.clauseParams, paramsOf_append, l.paramsOf_tokens, r.paramsOf_tokens]
  | not e => simp [Expr.tokens, Expr.clauseParams, e.paramsOf_tokens]
  | function name args distinct =>
    cases distinct <;>
      simp [Expr.tokens, Expr.clauseParams, paramsOf_append, Expr.paramsOf_listTokens args]
  | inList e values negated =>
    cases values with
    | nil => cases negated <;> rfl
    | cons v vs =>
      simp [Expr.tokens, Expr.clauseParams, paramsOf_append, paramsOf_negation,
        e.paramsOf_tokens, Expr.paramsOf_listTokens (v :: vs)]
  | inQuery e q negated =>
    simp [Expr.tokens, Expr.clauseParams, paramsOf_append, paramsOf_negation,
      e.paramsOf_tokens, q.paramsOf_tokens .postgres]
  | isNull e negated =>
    simp [Expr.tokens, Expr.clauseParams, paramsOf_append, e.paramsOf_tokens]
  | like e p escape negated =>
    simp [Expr.tokens, Expr.clauseParams, paramsOf_append, paramsOf_negation,
      e.paramsOf_tokens, p.paramsOf_tokens]
  | star t => simp [Expr.tokens, Expr.clauseParams, paramsOf_append, paramsOf_tablePrefix]
  | paren e => simp [Expr.tokens, Expr.clauseParams, paramsOf_append, e.paramsOf_tokens]

theorem Expr.paramsOf_listTokens (es : List Expr) :
    paramsOf (Expr.listTokens es) = Expr.listParams es := by
  cases es with
  | nil => rfl
  | cons e rest =>
    cases rest with
    | nil => simp [Expr.listTokens, Expr.listParams, e.paramsOf_tokens]
    | cons e' rest' =>
      simp [Expr.listTokens, Expr.listParams, paramsOf_append, e.paramsOf_tokens,
        Expr.paramsOf_listTokens (e' :: rest')]

/-- The parameter tokens of a query carry its parameters in clause order, whatever the
dialect. -/
theorem Query.paramsOf_tokens (d : Dialect) (q : Query) :
    paramsOf (q.tokens d) = q.clauseParams := by
  obtain ⟨select, source, joins, filter, groupBy, orderBy, paging⟩ := q
  have hgroup : paramsOf (if groupBy.isEmpty then [] else
      [w .newline, w .groupBy, w .space] ++ Expr.listTokens groupBy) = Expr.listParams groupBy := by
    cases groupBy <;> simp [Expr.paramsOf_listTokens, Expr.listParams]
  have horder : paramsOf (if orderBy.isEmpty then
        (if d.pagingNeedsOrder && paging.isSome then
          [w .newline, w .orderBy, w .space, w .lparen, w .select, w .space, w .null, w .rparen]
        else [])
      else [w .newline, w .orderBy, w .space] ++ Query.orderTokens orderBy) =
      Query.orderParams orderBy := by
    cases orderBy with
    | nil => by_cases h : d.pagingNeedsOrder && paging.isSome <;> simp [h, Query.orderParams]
    | cons item rest => simp [Query.paramsOf_orderTokens (item :: rest)]
  simp only [Query.tokens, Query.clauseParams, paramsOf_append, hgroup, horder,
    Query.paramsOf_selectTokens, Query.paramsOf_joinTokens, Query.paramsOf_filterTokens]
  cases source <;> cases paging <;> simp [paramsOf_tableRef, paramsOf_paging]

theorem Query.paramsOf_selectTokens (first : Bool) (items : List (Expr × Option String)) :
    paramsOf (Query.selectTokens first items) = Query.selectParams items := by
  cases items with
  | nil => rfl
  | cons item rest =>
    obtain ⟨e, aliasName⟩ := item
    have ih := Query.paramsOf_selectTokens false rest
    cases first <;> cases aliasName <;>
      simp [Query.selectTokens, Query.selectParams, paramsOf_append, e.paramsOf_tokens, ih]

theorem Query.paramsOf_joinTokens (joins : List (JoinKind × TableRef × Expr)) :
    paramsOf (Query.joinTokens joins) = Query.joinParams joins := by
  cases joins with
  | nil => rfl
  | cons j rest =>
    obtain ⟨kind, t, on⟩ := j
    simp [Query.joinTokens, Query.joinParams, paramsOf_append, paramsOf_tableRef,
      on.paramsOf_tokens, Query.paramsOf_joinTokens rest]

theorem Query.paramsOf_filterTokens (filter : Option Expr) :
    paramsOf (Query.filterTokens filter) = Query.filterParams filter := by
  cases filter with
  | none => rfl
  | some e => simp [Query.filterTokens, Query.filterParams, e.paramsOf_tokens]

theorem Query.paramsOf_orderTokens (items : List (Expr × Option SortDir)) :
    paramsOf (Query.orderTokens items) = Query.orderParams items := by
  cases items with
  | nil => rfl
  | cons item rest =>
    obtain ⟨e, dir⟩ := item
    have ih := Query.paramsOf_orderTokens rest
    rcases dir with _ | _ | _ <;>
      simp only [Query.orderTokens, Query.orderParams, paramsOf_append, e.paramsOf_tokens, ih] <;>
      split <;> simp

end

/-! ### Numbering the placeholders -/

theorem bindFrom_param_cons (d : Dialect) (seen : Nat) (v : Value) (ts : List Token) :
    bindFrom d seen (.param v :: ts) = d.placeholder (seen + 1) :: bindFrom d (seen + 1) ts := rfl

theorem bindFrom_cons_of_ne (d : Dialect) (seen : Nat) {t : Token} (ht : ∀ v, t ≠ .param v)
    (ts : List Token) : bindFrom d seen (t :: ts) = t.text d (max seen 1) :: bindFrom d seen ts := by
  cases t <;> first | rfl | exact absurd rfl (ht _)

/-- After `seen` earlier parameters, the parameter token at position `i` is written as the
placeholder numbered by the parameter tokens before it, and that number, counted from
zero, is its value's position among the values bound. -/
theorem bindFrom_getElem?_param (d : Dialect) (ts : List Token) :
    ∀ (seen i : Nat) (v : Value), ts[i]? = some (.param v) →
      (bindFrom d seen ts)[i]? = some (d.placeholder (seen + (paramsOf (ts.take i)).length + 1)) ∧
        (paramsOf ts)[(paramsOf (ts.take i)).length]? = some v := by
  induction ts with
  | nil => simp
  | cons t ts ih =>
    intro seen i v h
    cases i with
    | zero =>
      obtain rfl : t = .param v := by simpa using h
      simp [bindFrom_param_cons]
    | succ i =>
      have hi : ts[i]? = some (.param v) := by simpa using h
      by_cases ht : ∃ u, t = .param u
      · obtain ⟨u, rfl⟩ := ht
        obtain ⟨hbind, hparam⟩ := ih (seen + 1) i v hi
        refine ⟨?_, ?_⟩
        · simp only [bindFrom_param_cons, List.getElem?_cons_succ, hbind, List.take_succ_cons,
            paramsOf_param_cons, List.length_cons]
          congr 2
          omega
        · simpa using hparam
      · have ht' : ∀ u, t ≠ .param u := fun u he => ht ⟨u, he⟩
        obtain ⟨hbind, hparam⟩ := ih seen i v hi
        simpa [bindFrom_cons_of_ne d seen ht', paramsOf_cons_of_ne ht'] using ⟨hbind, hparam⟩

/-- Binding a query in any dialect binds the parameters of its tree in clause order, and
writes the `k`-th parameter token of its text as the `k`-th placeholder of the dialect,
standing for the `k`-th value bound. The values an expression binds are its parameters,
in the order of the tree. -/
theorem bind_params_clause_order (q : Query) (d : Dialect) :
    (q.bind d).params = q.clauseParams ∧
      (∀ (i : Nat) (v : Value), (q.tokens d)[i]? = some (.param v) →
        (bindFrom d 0 (q.tokens d))[i]? =
            some (d.placeholder ((paramsOf ((q.tokens d).take i)).length + 1)) ∧
          (q.bind d).params[(paramsOf ((q.tokens d).take i)).length]? = some v) ∧
      ∀ e : Expr, (e.bind d).params = e.params ∧ e.params = e.clauseParams := by
  refine ⟨q.paramsOf_tokens d, fun i v h => ?_, fun e => ⟨rfl, e.paramsOf_tokens⟩⟩
  obtain ⟨hbind, hparam⟩ := bindFrom_getElem?_param d (q.tokens d) 0 i v h
  rw [Nat.zero_add] at hbind
  exact ⟨hbind, hparam⟩

end ScimQuery.Sql
