import ScimQuery.Proofs.Diagnosis
import ScimQuery.Proofs.Scoping
import ScimQuery.Proofs.Folding
import ScimQuery.Proofs.Labels

/-! # Planning never takes an internal error branch

A statement is refused as a whole when it holds a float literal that is NaN or infinite, the
one token without SQL text. No statement that compiling a filter or planning a request builds
holds a float literal at all: every expression they build is made of columns, parameters, a
text literal and the connectives, calls and subqueries over them (`Expr.floatFree`), and
writing such a tree in any dialect gives no token that faults.

The other error branches of planning and of folding results are out of reach too. The keys of
a declared resource's attributes are distinct, and its index maps exactly the key of each
attribute to the attribute's position; a page's offset is one less than its start index; placing
joins diagnoses only a non-empty list of joins, and every component of the search that
diagnosis runs holds a node; and the rows a mapper folds have distinct id texts, and the
positions it keeps map exactly the id text of each row to the row's position.
-/

namespace ScimQuery

namespace Sql

/-- Whether a literal is not a float, the one literal that may have no SQL text. -/
def Literal.floatFree : Literal → Bool
  | .float _ => false
  | _ => true

mutual

/-- Whether an expression holds no float literal, its subqueries included. -/
def Expr.floatFree : Expr → Bool
  | .literal l => l.floatFree
  | .column _ _ | .param _ | .star _ => true
  | .binary l _ r => l.floatFree && r.floatFree
  | .not e | .isNull e _ | .paren e => e.floatFree
  | .function _ args _ => Expr.allFloatFree args
  | .inList e values _ => e.floatFree && Expr.allFloatFree values
  | .inQuery e q _ => e.floatFree && q.floatFree
  | .like e p _ _ => e.floatFree && p.floatFree

/-- Whether no expression of a list holds a float literal. -/
def Expr.allFloatFree : List Expr → Bool
  | [] => true
  | e :: es => e.floatFree && Expr.allFloatFree es

/-- Whether no item, join condition, WHERE condition, grouping or ordering of a query holds a
float literal. -/
def Query.floatFree : Query → Bool
  | ⟨select, _, joins, filter, groupBy, orderBy, _⟩ =>
    Query.itemsFloatFree select && Query.joinsFloatFree joins &&
      Query.filterFloatFree filter && Expr.allFloatFree groupBy && Query.orderFloatFree orderBy

/-- Whether no SELECT item holds a float literal. -/
def Query.itemsFloatFree : List (Expr × Option String) → Bool
  | [] => true
  | (e, _) :: rest => e.floatFree && Query.itemsFloatFree rest

/-- Whether no join condition holds a float literal. -/
def Query.joinsFloatFree : List (JoinKind × TableRef × Expr) → Bool
  | [] => true
  | (_, _, on) :: rest => on.floatFree && Query.joinsFloatFree rest

/-- Whether a WHERE condition, when there is one, holds no float literal. -/
def Query.filterFloatFree : Option Expr → Bool
  | some e => e.floatFree
  | none => true

/-- Whether no ORDER BY item holds a float literal. -/
def Query.orderFloatFree : List (Expr × Option SortDir) → Bool
  | [] => true
  | (e, _) :: rest => e.floatFree && Query.orderFloatFree rest

end

-- The equation lemmas of the checks are generated here, once, rather than by each of the
-- proofs below that unfold them.
section
attribute [local simp] Expr.floatFree Expr.allFloatFree Query.floatFree Query.itemsFloatFree
  Query.joinsFloatFree Query.filterFloatFree Query.orderFloatFree
end

/-! ### Writing a tree without float literals -/

@[simp] theorem faultOf?_nil : faultOf? [] = none := rfl

theorem faultOf?_cons (t : Token) (ts : List Token) :
    faultOf? (t :: ts) = t.fault?.or (faultOf? ts) := by
  simp only [faultOf?, List.findSome?_cons]
  cases t.fault? <;> rfl

@[simp] theorem faultOf?_append (ts us : List Token) :
    faultOf? (ts ++ us) = (faultOf? ts).or (faultOf? us) :=
  List.findSome?_append

@[simp] theorem faultOf?_cons_of_ne {t : Token} (ht : ∀ x, t ≠ .float x) (ts : List Token) :
    faultOf? (t :: ts) = faultOf? ts := by
  rw [faultOf?_cons]
  cases t <;> first | rfl | exact absurd rfl (ht _)

theorem faultOf?_tablePrefix (t : Option String) : faultOf? (tablePrefix t) = none := by
  cases t <;> rfl

theorem faultOf?_negation (negated : Bool) : faultOf? (negation negated) = none := by
  cases negated <;> rfl

theorem faultOf?_tableRef (t : TableRef) : faultOf? t.tokens = none := by
  unfold TableRef.tokens
  cases t.aliasName <;> rfl

theorem faultOf?_paging (d : Dialect) (p : Paging) : faultOf? (p.tokens d) = none := by
  unfold Paging.tokens
  cases d <;> cases p.limit <;> cases p.offset <;> simp

theorem faultOf?_literal {l : Literal} (h : l.floatFree = true) : faultOf? [l.token] = none := by
  cases l <;> first | rfl | cases h

mutual

theorem Expr.faultOf?_tokens (e : Expr) (h : e.floatFree = true) : faultOf? e.tokens = none := by
  cases e with
  | column t c => simp [Expr.tokens, faultOf?_tablePrefix]
  | literal l => exact faultOf?_literal h
  | param v => rfl
  | binary l op r =>
    simp only [Expr.floatFree, Bool.and_eq_true] at h
    simp [Expr.tokens, l.faultOf?_tokens h.1, r.faultOf?_tokens h.2]
  | not e => simp [Expr.tokens, e.faultOf?_tokens h]
  | function name args distinct =>
    cases distinct <;> simp [Expr.tokens, Expr.faultOf?_listTokens args h]
  | inList e values negated =>
    simp only [Expr.floatFree, Bool.and_eq_true] at h
    cases values with
    | nil => cases negated <;> rfl
    | cons v vs =>
      simp [Expr.tokens, faultOf?_negation, e.faultOf?_tokens h.1,
        Expr.faultOf?_listTokens (v :: vs) h.2]
  | inQuery e q negated =>
    simp only [Expr.floatFree, Bool.and_eq_true] at h
    simp [Expr.tokens, faultOf?_negation, e.faultOf?_tokens h.1, q.faultOf?_tokens .postgres h.2]
  | isNull e negated => simp [Expr.tokens, e.faultOf?_tokens h]
  | like e p escape negated =>
    simp only [Expr.floatFree, Bool.and_eq_true] at h
    simp [Expr.tokens, faultOf?_negation, e.faultOf?_tokens h.1, p.faultOf?_tokens h.2]
  | star t => simp [Expr.tokens, faultOf?_tablePrefix]
  | paren e => simp [Expr.tokens, e.faultOf?_tokens h]

theorem Expr.faultOf?_listTokens (es : List Expr) (h : Expr.allFloatFree es = true) :
    faultOf? (Expr.listTokens es) = none := by
  cases es with
  | nil => rfl
  | cons e rest =>
    simp only [Expr.allFloatFree, Bool.and_eq_true] at h
    cases rest with
    | nil => simpa [Expr.listTokens] using e.faultOf?_tokens h.1
    | cons e' rest' =>
      simp [Expr.listTokens, e.faultOf?_tokens h.1, Expr.faultOf?_listTokens (e' :: rest') h.2]

/-- A query without float literals is written without a fault, in every dialect. -/
theorem Query.faultOf?_tokens (d : Dialect) (q : Query) (h : q.floatFree = true) :
    faultOf? (q.tokens d) = none := by
  obtain ⟨select, source, joins, filter, groupBy, orderBy, paging⟩ := q
  simp only [Query.floatFree, Bool.and_eq_true] at h
  obtain ⟨⟨⟨⟨hselect, hjoins⟩, hfilter⟩, hgroup⟩, horder⟩ := h
  have hgroupBy : faultOf? (if groupBy.isEmpty then [] else
      [w .newline, w .groupBy, w .space] ++ Expr.listTokens groupBy) = none := by
    cases groupBy <;> simp [Expr.faultOf?_listTokens _ hgroup]
  have horderBy : faultOf? (if orderBy.isEmpty then
        (if d.pagingNeedsOrder && paging.isSome then
          [w .newline, w .orderBy, w .space, w .lparen, w .select, w .space, w .null, w .rparen]
        else [])
      else [w .newline, w .orderBy, w .space] ++ Query.orderTokens orderBy) = none := by
    cases orderBy with
    | nil => by_cases hp : d.pagingNeedsOrder && paging.isSome <;> simp [hp]
    | cons item rest => simp [Query.faultOf?_orderTokens (item :: rest) horder]
  simp only [Query.tokens, faultOf?_append, hgroupBy, horderBy,
    Query.faultOf?_selectTokens true select hselect, Query.faultOf?_joinTokens joins hjoins,
    Query.faultOf?_filterTokens filter hfilter]
  cases source <;> cases paging <;> simp [faultOf?_tableRef, faultOf?_paging]

theorem Query.faultOf?_selectTokens (first : Bool) (items : List (Expr × Option String))
    (h : Query.itemsFloatFree items = true) : faultOf? (Query.selectTokens first items) = none := by
  cases items with
  | nil => rfl
  | cons item rest =>
    obtain ⟨e, aliasName⟩ := item
    simp only [Query.itemsFloatFree, Bool.and_eq_true] at h
    have ih := Query.faultOf?_selectTokens false rest h.2
    cases first <;> cases aliasName <;>
      simp [Query.selectTokens, e.faultOf?_tokens h.1, ih]

theorem Query.faultOf?_joinTokens (joins : List (JoinKind × TableRef × Expr))
    (h : Query.joinsFloatFree joins = true) : faultOf? (Query.joinTokens joins) = none := by
  cases joins with
  | nil => rfl
  | cons j rest =>
    obtain ⟨kind, t, on⟩ := j
    simp only [Query.joinsFloatFree, Bool.and_eq_true] at h
    cases kind <;> simp [Query.joinTokens, faultOf?_tableRef, on.faultOf?_tokens h.1,
      Query.faultOf?_joinTokens rest h.2]

theorem Query.faultOf?_filterTokens (filter : Option Expr)
    (h : Query.filterFloatFree filter = true) : faultOf? (Query.filterTokens filter) = none := by
  cases filter with
  | none => rfl
  | some e => simp [Query.filterTokens, e.faultOf?_tokens h]

theorem Query.faultOf?_orderTokens (items : List (Expr × Option SortDir))
    (h : Query.orderFloatFree items = true) : faultOf? (Query.orderTokens items) = none := by
  cases items with
  | nil => rfl
  | cons item rest =>
    obtain ⟨e, dir⟩ := item
    simp only [Query.orderFloatFree, Bool.and_eq_true] at h
    have ih := Query.faultOf?_orderTokens rest h.2
    rcases dir with _ | _ | _ <;>
      simp only [Query.orderTokens, faultOf?_append, e.faultOf?_tokens h.1, ih] <;>
      split <;> simp

end

/-! ### The trees the library builds -/

namespace Expr

@[simp] theorem floatFree_col (t c : String) : (col t c).floatFree = true := rfl

@[simp] theorem floatFree_param (v : Value) : (Expr.param v).floatFree = true := rfl

theorem floatFree_call {name : String} {x : Expr} (h : x.floatFree = true) :
    (call name [x]).floatFree = true := by
  simp [call, floatFree, allFloatFree, h]

theorem floatFree_and {a b : Expr} (ha : a.floatFree = true) (hb : b.floatFree = true) :
    (Expr.and a b).floatFree = true := by
  simp [Expr.and, floatFree, ha, hb]

theorem floatFree_or {a b : Expr} (ha : a.floatFree = true) (hb : b.floatFree = true) :
    (Expr.or a b).floatFree = true := by
  simp [Expr.or, floatFree, ha, hb]

theorem floatFree_negate {e : Expr} (h : e.floatFree = true) : e.negate.floatFree = true := by
  unfold negate
  split <;> simp_all [floatFree]

/-- Operands joined by a connective that keeps float literals out, nested to the left, hold
none. -/
theorem floatFree_foldl {f : Expr → Expr → Expr}
    (hf : ∀ a b, a.floatFree = true → b.floatFree = true → (f a b).floatFree = true)
    {first : Expr} {rest : List Expr}
    (hfirst : first.floatFree = true) (hrest : ∀ e ∈ rest, e.floatFree = true) :
    (rest.foldl f first).floatFree = true := by
  induction rest generalizing first with
  | nil => exact hfirst
  | cons e rest ih =>
    exact ih (hf first e hfirst (hrest e List.mem_cons_self)) fun x hx =>
      hrest x (List.mem_cons_of_mem _ hx)

end Expr

theorem Expr.allFloatFree_iff {es : List Expr} :
    Expr.allFloatFree es = true ↔ ∀ e ∈ es, e.floatFree = true := by
  induction es with
  | nil => simp [Expr.allFloatFree]
  | cons e es ih => simp [Expr.allFloatFree, ih]

theorem Query.itemsFloatFree_iff {items : List (Expr × Option String)} :
    Query.itemsFloatFree items = true ↔ ∀ x ∈ items, x.1.floatFree = true := by
  induction items with
  | nil => simp [Query.itemsFloatFree]
  | cons x items ih =>
    obtain ⟨e, name⟩ := x
    simp [Query.itemsFloatFree, ih]

theorem Query.orderFloatFree_iff {items : List (Expr × Option SortDir)} :
    Query.orderFloatFree items = true ↔ ∀ x ∈ items, x.1.floatFree = true := by
  induction items with
  | nil => simp [Query.orderFloatFree]
  | cons x items ih =>
    obtain ⟨e, dir⟩ := x
    simp [Query.orderFloatFree, ih]

end Sql

open Sql

theorem joinsFloatFree_cons (x : JoinKind × TableRef × Expr)
    (rest : List (JoinKind × TableRef × Expr)) :
    Query.joinsFloatFree (x :: rest) = (x.2.2.floatFree && Query.joinsFloatFree rest) := by
  obtain ⟨kind, t, on⟩ := x
  rfl

theorem joinsFloatFree_map_toJoin (js : List JoinDescriptor) :
    Query.joinsFloatFree (js.map (·.toJoin)) = true := by
  induction js with
  | nil => rfl
  | cons j js ih =>
    rw [List.map_cons, joinsFloatFree_cons, ih, Bool.and_true]
    rfl

/-- A query over the root table and ordered joins, with given items, condition, grouping and
ordering, holds no float literal when these hold none. -/
theorem floatFree_of_parts {q : Query} {js : List JoinDescriptor}
    (hjoins : q.joins = js.map (·.toJoin))
    (hselect : ∀ x ∈ q.select, x.1.floatFree = true)
    (hfilter : ∀ e, q.filter = some e → e.floatFree = true)
    (hgroup : ∀ e ∈ q.groupBy, e.floatFree = true)
    (horder : ∀ x ∈ q.orderBy, x.1.floatFree = true) :
    q.floatFree = true := by
  obtain ⟨select, source, joins, filter, groupBy, orderBy, paging⟩ := q
  dsimp only at hjoins hselect hfilter hgroup horder
  subst hjoins
  simp only [Query.floatFree, joinsFloatFree_map_toJoin, Bool.and_true, Bool.and_eq_true,
    Query.itemsFloatFree_iff, Query.orderFloatFree_iff, Expr.allFloatFree_iff]
  refine ⟨⟨⟨hselect, ?_⟩, hgroup⟩, horder⟩
  cases filter with
  | none => rfl
  | some e => exact hfilter e rfl

namespace Compile

theorem presence_floatFree (a : AttributeLocation) : (presence a).floatFree = true := by
  unfold presence
  split <;> simp [Expr.and, Expr.floatFree, AttributeLocation.columnExpr, TableReference.column,
    Literal.floatFree]

theorem compare_floatFree {a : AttributeLocation} {path : String} {op : CompareOp}
    {value : FilterValue} {e : Expr} (hc : compare a path op value = .ok e) :
    e.floatFree = true := by
  have hcol : a.columnExpr.floatFree = true := rfl
  obtain ⟨-, rfl⟩ | ⟨-, ⟨-, rfl⟩ | ⟨-, rfl⟩⟩ | ⟨-, -, -, v, -, column, rhs, hsides, hshape⟩ :=
    compare_eq_ok_cases hc
  · exact presence_floatFree a
  · exact hcol
  · exact hcol
  · have hops : column.floatFree = true ∧ rhs.floatFree = true := by
      rcases hsides with ⟨-, rfl, rfl⟩ | ⟨-, rfl, rfl⟩
      · exact ⟨hcol, rfl⟩
      · exact ⟨Expr.floatFree_call hcol, Expr.floatFree_call rfl⟩
    rcases hshape with ⟨-, rfl⟩ | ⟨-, rfl⟩ <;> simp [Expr.floatFree, hops]

theorem comparison_floatFree {m : ResourceMapping} {joins : JoinSet} {path : String}
    {op : CompareOp} {value : FilterValue} {e : Expr} {js : JoinSet}
    (h : comparison m joins path op value = .ok (e, js)) : e.floatFree = true := by
  obtain ⟨_, -, ⟨a, -, hc, -⟩ | ⟨name, first, rest, -, rfl, -⟩ | ⟨name, children, a, -, -, hc, -⟩⟩ :=
    comparison_eq_ok_cases h
  · exact compare_floatFree hc
  · have hany := Expr.floatFree_foldl (fun _ _ => Expr.floatFree_or) (presence_floatFree first)
      fun x (hx : x ∈ rest.map presence) => by
        obtain ⟨c, -, rfl⟩ := List.mem_map.1 hx
        exact presence_floatFree c
    simpa [List.foldl_map, Expr.floatFree] using hany
  · exact compare_floatFree hc

/-- The subquery of a negation selects the root id over ordered joins under the negated
filter's condition. -/
theorem matching_floatFree {m : ResourceMapping} {p : Expr} (hp : p.floatFree = true)
    (ordered : List JoinDescriptor) :
    (({ select := [(m.idExpr, none)], source := some m.root.toRef,
        joins := ordered.map JoinDescriptor.toJoin } : Query).andWhere p).floatFree = true :=
  floatFree_of_parts rfl (by simp [Query.andWhere, ResourceMapping.idExpr, TableReference.column])
    (by simp [Query.andWhere, hp]) (by simp [Query.andWhere]) (by simp [Query.andWhere])

/-- A compiled filter holds no float literal, its subqueries included. -/
theorem node_floatFree {m : ResourceMapping} (f : FilterNode) :
    ∀ {joins : JoinSet} {e : Expr} {js : JoinSet}, node m f joins = .ok (e, js) →
      e.floatFree = true := by
  induction f with
  | comparison path op value => exact comparison_floatFree
  | and l r ihl ihr =>
    intro joins e js h
    obtain ⟨pl, jl, pr, hl, hr, rfl⟩ := node_and_eq_ok h
    simpa [Expr.floatFree] using Expr.floatFree_and (ihl hl) (ihr hr)
  | or l r ihl ihr =>
    intro joins e js h
    obtain ⟨pl, jl, pr, hl, hr, rfl⟩ := node_or_eq_ok h
    simpa [Expr.floatFree] using Expr.floatFree_or (ihl hl) (ihr hr)
  | not c ih =>
    intro joins e js h
    obtain ⟨p, inner, hq, ⟨-, rfl, -⟩ | ⟨-, -, ordered, -, rfl⟩⟩ := node_not_eq_ok h
    · exact Expr.floatFree_negate (ih hq)
    · simp only [Expr.floatFree, Bool.and_eq_true]
      exact ⟨rfl, matching_floatFree (ih hq) ordered⟩

end Compile

theorem compileFilter_floatFree {m : ResourceMapping} {f : FilterNode} {c : CompiledFilter}
    (h : compileFilter m f = .ok c) : c.predicate.floatFree = true := by
  simp only [compileFilter, bind_eq_ok, pure_eq_ok] at h
  obtain ⟨⟨p, js⟩, hp, rfl⟩ := h
  exact Compile.node_floatFree f hp

theorem SortKey.expr_floatFree (k : SortKey) : k.expr.floatFree = true := by
  have hcol : k.location.columnExpr.floatFree = true := rfl
  have hkey : (if k.location.foldsCase then Expr.lower k.location.columnExpr
      else k.location.columnExpr).floatFree = true := by
    split
    · exact Expr.floatFree_call hcol
    · exact hcol
  unfold SortKey.expr
  by_cases hagg : k.needsAggregate = true
  · simp only [hagg, if_true]
    cases k.order <;> exact Expr.floatFree_call hkey
  · simp only [hagg, Bool.false_eq_true, if_false]
    exact hkey

namespace ResourceMapping

variable {m : ResourceMapping}

theorem restrictionOf_floatFree {d : ResourceDecl} {r : RestrictionDecl} {e : Expr}
    (h : restrictionOf d r = .ok e) : e.floatFree = true := by
  unfold restrictionOf at h
  split at h <;> cases h <;> simp [Expr.floatFree, Expr.eq]

theorem restrictions_floatFree {d : ResourceDecl} (h : ofDecl d = .ok m) :
    ∀ e ∈ m.restrictions, e.floatFree = true :=
  forall_of_mapM_eq_ok (fun _ _ => restrictionOf_floatFree) (ofDecl_restrictions h)

/-- The condition of the statements: the tenant's equality, the restrictions and the
compiled filter. -/
theorem condition_floatFree (hr : ∀ e ∈ m.restrictions, e.floatFree = true) (tenant : String)
    {compiled : Option CompiledFilter} (hc : ∀ c, compiled = some c → c.predicate.floatFree = true) :
    (m.condition tenant compiled).floatFree = true := by
  have hguard : (m.restrictions.foldl Expr.and (m.tenantExpr tenant)).floatFree = true :=
    Expr.floatFree_foldl (fun _ _ => Expr.floatFree_and) rfl hr
  unfold condition
  cases compiled with
  | none => exact hguard
  | some c => exact Expr.floatFree_and hguard (hc c rfl)

theorem projection_floatFree : ∀ e ∈ m.projection, e.floatFree = true := by
  intro e he
  rcases List.mem_cons.1 he with rfl | he
  · rfl
  · obtain ⟨a, -, rfl⟩ := List.mem_map.1 he
    rfl

theorem rowStatement_floatFree (ordered : List JoinDescriptor) {cond : Expr}
    (hcond : cond.floatFree = true) (sort : Option SortKey) (grouped : Bool) (page : Page) :
    (m.rowStatement ordered cond sort grouped page).floatFree = true := by
  refine floatFree_of_parts rfl ?_ (fun e he => ?_) (fun e he => ?_) fun x hx => ?_
  · intro x hx
    obtain ⟨e, he, rfl⟩ := List.mem_map.1 hx
    exact projection_floatFree e he
  · simp only [rowStatement, Query.withLimit, Query.withOffset, Option.some.injEq] at he
    exact he ▸ hcond
  · simp only [rowStatement, Query.withLimit, Query.withOffset] at he
    split at he
    · exact projection_floatFree e he
    · simp at he
  · simp only [rowStatement, Query.withLimit, Query.withOffset] at hx
    rcases List.mem_append.1 hx with hx | hx
    · cases sort with
      | none => simp at hx
      | some k =>
        simp only [Option.map_some, Option.toList_some, List.mem_singleton] at hx
        exact hx ▸ SortKey.expr_floatFree k
    · simp only [List.mem_singleton] at hx
      exact hx ▸ rfl

theorem countStatement_floatFree (ordered : List JoinDescriptor) {cond : Expr}
    (hcond : cond.floatFree = true) : (m.countStatement ordered cond).floatFree = true := by
  refine floatFree_of_parts rfl ?_ (fun e he => ?_) (by simp [countStatement])
    (by simp [countStatement])
  · simp [countStatement, Expr.countDistinct, Expr.floatFree, Expr.allFloatFree, idExpr,
      TableReference.column]
  · simp only [countStatement, Option.some.injEq] at he
    exact he ▸ hcond

/-- The statement of an association, for the ids of any page, selects and sorts by columns
and tests the id against parameters. -/
theorem queryFor_floatFree {assoc : Association} {p : AssociationPlan}
    (hp : AssociationPlan.ofAssociation m assoc = .ok p) (ids : List Value) :
    (p.queryFor ids).floatFree = true := by
  simp only [AssociationPlan.ofAssociation, bind_eq_ok, pure_eq_ok] at hp
  obtain ⟨o, -, rfl⟩ := hp
  have hitems : ∀ e ∈ m.idExpr :: assoc.columns.map (fun c => c.table.column c.column),
      e.floatFree = true := by
    intro e he
    rcases List.mem_cons.1 he with rfl | he
    · rfl
    · obtain ⟨c, -, rfl⟩ := List.mem_map.1 he
      rfl
  refine @floatFree_of_parts _ (o.map fun j => { j with outer := false })
    (by simp [AssociationPlan.queryFor, Query.andWhere]) (fun x hx => ?_) (fun e he => ?_)
    (by simp [AssociationPlan.queryFor, Query.andWhere]) fun x hx => ?_
  · simp only [AssociationPlan.queryFor, Query.andWhere, List.mem_map] at hx
    obtain ⟨e, he, rfl⟩ := hx
    exact hitems e he
  · simp only [AssociationPlan.queryFor, Query.andWhere, Option.some.injEq] at he
    subst he
    simp only [Expr.floatFree, Bool.and_eq_true, Expr.allFloatFree_iff]
    refine ⟨rfl, fun e he => ?_⟩
    obtain ⟨v, -, rfl⟩ := List.mem_map.1 he
    rfl
  · simp only [AssociationPlan.queryFor, Query.andWhere, List.mem_map] at hx
    obtain ⟨e, he, rfl⟩ := hx
    exact hitems e he

/-- Every statement planned for a mapping whose restrictions hold no float literal holds
none: the row and count statements, with the subqueries in their condition, and the
statement of each association for the ids of any page. -/
theorem plan_floatFree (hr : ∀ e ∈ m.restrictions, e.floatFree = true)
    {settings : QuerySettings} {tenant : String} {filter : Option FilterNode}
    {sortBy : Option String} {sortOrder : Option SortOrder} {pageRequest : PageRequest}
    {pq : PlannedQuery} (h : m.plan settings tenant filter sortBy sortOrder pageRequest = .ok pq) :
    pq.rows.query.floatFree = true ∧ pq.count.query.floatFree = true ∧
      ∀ a ∈ pq.associations, ∀ ids, (a.queryFor ids).floatFree = true := by
  obtain ⟨compiled, sort, ordered, assocs, hc, -, -, ha, rfl⟩ := plan_eq_ok.1 h
  have hcomp : ∀ c, compiled = some c → c.predicate.floatFree = true := by
    intro c hcs
    subst hcs
    cases filter with
    | none => simp [Option.mapM_none, pure_eq_ok] at hc
    | some f =>
      rw [Option.mapM_some, map_eq_ok] at hc
      obtain ⟨c', hc', hcc⟩ := hc
      rw [Option.some_inj] at hcc
      exact hcc ▸ compileFilter_floatFree hc'
  have hcond := condition_floatFree hr tenant hcomp
  refine ⟨rowStatement_floatFree ordered hcond _ _ _, countStatement_floatFree ordered hcond,
    fun p hp ids => ?_⟩
  obtain ⟨assoc, -, hp'⟩ := exists_of_mapM_eq_ok ha p hp
  exact queryFor_floatFree hp' ids

end ResourceMapping

/-- Planning and folding results never reach an internal error branch. The attribute keys of
every declared resource are distinct, and its index holds exactly the key of each attribute at
the attribute's position, so every position it finds is one of its attributes. A planned
page's offset is
one less than its start index. No planned statement and no compiled filter holds a float
literal, so each is written without a fault in every dialect. Placing joins fails only on a
join whose source alias is introduced under another table, or by diagnosing a non-empty list
of the joins that remain, and every component of the search that a diagnosis runs holds a
node. Whatever calls a mapper receives, its rows have distinct id texts, and the positions it
keeps hold exactly the id text of each row at the row's position, so every position it finds
is one of its rows. -/
theorem core_never_faults {c : CatalogDecl} {reg : Registry} (hreg : Registry.ofDecl c = .ok reg) :
    (∀ m ∈ reg.resources,
      (m.attributes.Pairwise fun a b => ResourceMapping.keyOf a ≠ ResourceMapping.keyOf b) ∧
      ∀ k i, m.index.lookup k = some i ↔
        ∃ a, m.attributes[i]? = some a ∧ ResourceMapping.keyOf a = k) ∧
    (∀ settings r pq, reg.plan settings r = .ok pq →
      pq.page.offset + 1 = pq.page.startIndex ∧
      ∀ d, faultOf? (pq.rows.query.tokens d) = none ∧ faultOf? (pq.count.query.tokens d) = none ∧
        ∀ a ∈ pq.associations, ∀ ids, faultOf? ((a.queryFor ids).tokens d) = none) ∧
    (∀ m f cf, compileFilter m f = .ok cf → faultOf? cf.predicate.tokens = none) ∧
    (∀ introduced fuel remaining ordered e,
      JoinOrder.place introduced fuel remaining ordered = .error e →
        (∃ j known, e = .aliasMismatch j known) ∨
          ∃ stuck, stuck ≠ [] ∧ stuck.Sublist remaining ∧ e = JoinOrder.diagnose stuck) ∧
    (∀ succ n, ∀ comp ∈ (JoinOrder.search succ n).components, comp ≠ []) ∧
    (∀ labels cs, ((ResultMapper.run labels cs).rows.map (·.id.render)).Nodup ∧
      ∀ t i, (ResultMapper.run labels cs).byId.lookup t = some i ↔
        ∃ r, (ResultMapper.run labels cs).rows[i]? = some r ∧ r.id.render = t) := by
  have hdecl := Registry.exists_ofDecl_of_mem hreg
  refine ⟨fun m hm => ?_, fun settings r pq h => ?_,
    fun m f cf h => Expr.faultOf?_tokens _ (compileFilter_floatFree h),
    fun _ _ _ _ _ h => JoinOrder.place_eq_error h, JoinOrder.search_components_ne_nil,
    fun labels cs => ⟨(ResultMapper.folded_run labels cs).texts_nodup,
      PositionsOf.lookup_eq_some_iff (ResultMapper.folded_run labels cs).indexed
        (ResultMapper.folded_run labels cs).texts_nodup⟩⟩
  · obtain ⟨d, hd⟩ := hdecl m hm
    have hkeys := (ResourceMapping.ofDecl_attributes hd).1
    exact ⟨hkeys, ResourceMapping.lookup_index_iff hkeys⟩
  · simp only [Registry.plan, bind_eq_ok] at h
    obtain ⟨m, hm, h⟩ := h
    obtain ⟨d, hd⟩ := hdecl m (Registry.get_mem hm)
    obtain ⟨hrows, hcount, hassoc⟩ :=
      ResourceMapping.plan_floatFree (ResourceMapping.restrictions_floatFree hd) h
    obtain ⟨compiled, sort, ordered, assocs, -, -, -, -, rfl⟩ := ResourceMapping.plan_eq_ok.1 h
    refine ⟨by rw [ResourceMapping.assemble_page]; exact resolve_offset_add_one _ _, fun d => ?_⟩
    exact ⟨Query.faultOf?_tokens d _ hrows, Query.faultOf?_tokens d _ hcount,
      fun a ha ids => Query.faultOf?_tokens d _ (hassoc a ha ids)⟩

/-- The catalog of groups never reaches an internal error branch. -/
theorem groups_core_never_faults :
    ∃ reg, Registry.ofDecl ⟨[Catalog.groupDecl]⟩ = .ok reg ∧
      (∀ m ∈ reg.resources,
        (m.attributes.Pairwise fun a b => ResourceMapping.keyOf a ≠ ResourceMapping.keyOf b) ∧
        ∀ k i, m.index.lookup k = some i ↔
          ∃ a, m.attributes[i]? = some a ∧ ResourceMapping.keyOf a = k) ∧
      (∀ settings r pq, reg.plan settings r = .ok pq →
        pq.page.offset + 1 = pq.page.startIndex ∧
        ∀ d, faultOf? (pq.rows.query.tokens d) = none ∧ faultOf? (pq.count.query.tokens d) = none ∧
          ∀ a ∈ pq.associations, ∀ ids, faultOf? ((a.queryFor ids).tokens d) = none) ∧
      (∀ m f cf, compileFilter m f = .ok cf → faultOf? cf.predicate.tokens = none) ∧
      (∀ introduced fuel remaining ordered e,
        JoinOrder.place introduced fuel remaining ordered = .error e →
          (∃ j known, e = .aliasMismatch j known) ∨
            ∃ stuck, stuck ≠ [] ∧ stuck.Sublist remaining ∧ e = JoinOrder.diagnose stuck) ∧
      (∀ succ n, ∀ comp ∈ (JoinOrder.search succ n).components, comp ≠ []) ∧
      (∀ labels cs, ((ResultMapper.run labels cs).rows.map (·.id.render)).Nodup ∧
        ∀ t i, (ResultMapper.run labels cs).byId.lookup t = some i ↔
          ∃ r, (ResultMapper.run labels cs).rows[i]? = some r ∧ r.id.render = t) := by
  obtain ⟨reg, hreg⟩ : ∃ reg, Registry.ofDecl ⟨[Catalog.groupDecl]⟩ = .ok reg := ⟨_, rfl⟩
  exact ⟨reg, hreg, core_never_faults hreg⟩

end ScimQuery
