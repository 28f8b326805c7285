import Mathlib.Logic.Basic
import ScimQuery.Plan.PlannedQuery

/-! # The stages of a plan

A request is planned in stages that can fail: the filter is compiled, the sort key
resolved, the joins ordered and the associations planned. A plan is the result of these
stages put together, and it fails exactly when one of them does, with that stage's error.
The condition and the joins of the row and count statements are named here, so that
results about a plan can speak of them.
-/

namespace ScimQuery

section Outcome

variable {ε α β : Type}

theorem bind_eq_ok {x : Except ε α} {f : α → Except ε β} {b : β} :
    x >>= f = .ok b ↔ ∃ a, x = .ok a ∧ f a = .ok b := by
  cases x <;> simp [bind, Except.bind]

theorem bind_eq_error {x : Except ε α} {f : α → Except ε β} {e : ε} :
    x >>= f = .error e ↔ x = .error e ∨ ∃ a, x = .ok a ∧ f a = .error e := by
  cases x <;> simp [bind, Except.bind]

theorem pure_eq_ok {a b : α} : (pure a : Except ε α) = .ok b ↔ a = b := by
  simp [pure, Except.pure]

@[simp] theorem ok_bind {a : α} {f : α → Except ε β} : (Except.ok a >>= f) = f a := rfl

@[simp] theorem error_bind {e : ε} {f : α → Except ε β} : (Except.error e >>= f) = .error e := rfl

theorem map_eq_ok {x : Except ε α} {f : α → β} {b : β} :
    f <$> x = .ok b ↔ ∃ a, x = .ok a ∧ f a = b := by
  cases x <;> simp [Functor.map, Except.map]

theorem map_eq_error {x : Except ε α} {f : α → β} {e : ε} :
    f <$> x = .error e ↔ x = .error e := by
  cases x <;> simp [Functor.map, Except.map]

theorem forall_of_mapM_eq_ok {f : α → Except ε β} {P : β → Prop} (hf : ∀ a b, f a = .ok b → P b) :
    ∀ {l : List α} {l' : List β}, l.mapM f = .ok l' → ∀ b ∈ l', P b := by
  intro l
  induction l with
  | nil =>
    intro l' h
    simp only [List.mapM_nil, pure_eq_ok] at h
    simp [← h]
  | cons a l ih =>
    intro l' h
    simp only [List.mapM_cons, bind_eq_ok, pure_eq_ok] at h
    obtain ⟨b, hb, bs, hbs, rfl⟩ := h
    intro x hx
    rcases List.mem_cons.1 hx with rfl | hx
    · exact hf a x hb
    · exact ih hbs x hx

/-- A fold whose every step relates its accumulator to the next by a preorder `R`, and
leaves a mark `S` of its element that later steps keep, relates its start to its result
and leaves the mark of every element. -/
theorem foldlM_eq_ok_forall {f : β → α → Except ε β} {R : β → β → Prop} {S : α → β → Prop}
    (hrefl : ∀ b, R b b) (htrans : ∀ {b c d}, R b c → R c d → R b d)
    (hstep : ∀ b a c, f b a = .ok c → R b c ∧ S a c) (hkeep : ∀ {a b c}, S a b → R b c → S a c) :
    ∀ {l : List α} {init r : β}, l.foldlM f init = .ok r → R init r ∧ ∀ a ∈ l, S a r := by
  intro l
  induction l with
  | nil =>
    intro init r h
    simp only [List.foldlM_nil, pure_eq_ok] at h
    subst h
    exact ⟨hrefl _, by simp⟩
  | cons a l ih =>
    intro init r h
    simp only [List.foldlM_cons, bind_eq_ok] at h
    obtain ⟨b, hb, h⟩ := h
    obtain ⟨hR, hS⟩ := hstep init a b hb
    obtain ⟨hR', hS'⟩ := ih h
    refine ⟨htrans hR hR', fun x hx => ?_⟩
    rcases List.mem_cons.1 hx with rfl | hx
    · exact hkeep hS hR'
    · exact hS' x hx

theorem forM_eq_ok {f : α → Except ε Unit} :
    ∀ {l : List α}, l.forM f = .ok () → ∀ a ∈ l, f a = .ok () := by
  intro l
  induction l with
  | nil => simp
  | cons a l ih =>
    intro h
    -- `List.forM` runs `f a` first, by its definition
    have h : (f a >>= fun _ => l.forM f) = .ok () := h
    obtain ⟨⟨⟩, ha, h⟩ := bind_eq_ok.1 h
    intro x hx
    rcases List.mem_cons.1 hx with rfl | hx
    · exact ha
    · exact ih h x hx

theorem mapM_eq_error {f : α → Except ε β} {e : ε} :
    ∀ {l : List α}, l.mapM f = .error e → ∃ a ∈ l, f a = .error e := by
  intro l
  induction l with
  | nil => simp [pure, Except.pure]
  | cons a l ih =>
    intro h
    simp only [List.mapM_cons, bind_eq_error] at h
    rcases h with h | ⟨b, -, h | ⟨bs, -, h⟩⟩
    · exact ⟨a, List.mem_cons_self, h⟩
    · obtain ⟨x, hx, hfx⟩ := ih h
      exact ⟨x, List.mem_cons_of_mem _ hx, hfx⟩
    · simp [pure, Except.pure] at h

theorem exists_of_mapM_eq_ok {f : α → Except ε β} :
    ∀ {l : List α} {l' : List β}, l.mapM f = .ok l' → ∀ b ∈ l', ∃ a ∈ l, f a = .ok b := by
  intro l
  induction l with
  | nil =>
    intro l' h
    simp only [List.mapM_nil, pure_eq_ok] at h
    simp [← h]
  | cons a l ih =>
    intro l' h
    simp only [List.mapM_cons, bind_eq_ok, pure_eq_ok] at h
    obtain ⟨b, hb, bs, hbs, rfl⟩ := h
    intro x hx
    rcases List.mem_cons.1 hx with rfl | hx
    · exact ⟨a, List.mem_cons_self, hb⟩
    · obtain ⟨y, hy, hfy⟩ := ih hbs x hx
      exact ⟨y, List.mem_cons_of_mem _ hy, hfy⟩

end Outcome

namespace Compile

/-- The value bound for a literal bound as `v`: a text that `co`, `sw` or `ew` looks for is
escaped and given its wildcards. -/
def pattern : CompareOp → Sql.Value → Sql.Value
  | .co, .text s => .text ("%" ++ Like.escape s ++ "%")
  | .sw, .text s => .text (Like.escape s ++ "%")
  | .ew, .text s => .text ("%" ++ Like.escape s)
  | _, v => v

/-- An accepted comparison of an attribute with a literal is a presence test, a NULL test
for equality with null, or the column compared with the bound literal as a parameter, by
LIKE for a pattern, both sides in lower case when the attribute folds case. -/
theorem compare_eq_ok_cases {a : AttributeLocation} {path : String} {op : CompareOp}
    {value : FilterValue} {e : Sql.Expr} (h : compare a path op value = .ok e) :
    (op = .pr ∧ e = presence a) ∨
      (value = .null ∧ (op = .eq ∧ e = .isNull a.columnExpr false ∨
        op = .ne ∧ e = .isNull a.columnExpr true)) ∨
      (op ≠ .pr ∧ value ≠ .null ∧ checkOperator a path op value = .ok () ∧
        ∃ v, coerce a path value = .ok v ∧ ∃ column rhs,
          (a.foldsCase = false ∧ column = a.columnExpr ∧ rhs = .param (pattern op v) ∨
            a.foldsCase = true ∧ column = Sql.Expr.lower a.columnExpr ∧
              rhs = Sql.Expr.lower (.param (pattern op v))) ∧
          (op.isPattern = true ∧ e = .like column rhs Like.escapeChar false ∨
            op.isPattern = false ∧ e = .binary column (binOp op) rhs)) := by
  unfold compare at h
  split at h
  · exact .inl ⟨‹_›, (pure_eq_ok.1 h).symm⟩
  rename_i hpr
  cases value
  case null =>
    cases op <;> simp [pure_eq_ok, throw, throwThe, MonadExceptOf.throw] at h hpr ⊢
    all_goals exact h.symm
  all_goals
    simp only [bind_eq_ok] at h
    obtain ⟨u, hu, v, hv, h⟩ := h
    refine .inr (.inr ⟨hpr, FilterValue.noConfusion, hu, v, hv, ?_⟩)
    split at h <;> rw [pure_eq_ok] at h <;> subst h <;> rename_i hpat <;>
      cases hf : a.foldsCase <;> simp [hpat] <;> split <;> simp [pattern]

/-- A comparison that compiles names an attribute, compared as the operator says; or a
complex attribute, whose sub-attributes are tested for presence one after another; or a
complex attribute whose `value` sub-attribute is compared. It adds the joins of the
attributes it reads. -/
theorem comparison_eq_ok_cases {m : ResourceMapping} {joins : JoinSet} {path : String}
    {op : CompareOp} {value : FilterValue} {e : Sql.Expr} {js : JoinSet}
    (h : comparison m joins path op value = .ok (e, js)) :
    ∃ parsed, AttributePath.parse? path = some parsed ∧
      ((∃ a, m.resolvePath parsed = .ok (.attribute a) ∧ compare a path op value = .ok e ∧
          js = joins.extend a.requiredJoins) ∨
        (∃ name first rest, m.resolvePath parsed = .ok (.complex name (first :: rest)) ∧
          e = .paren (rest.foldl (fun acc c => Sql.Expr.or acc (presence c)) (presence first)) ∧
          js = (first :: rest).foldl (fun js c => js.extend c.requiredJoins) joins) ∨
        (∃ name children a, m.resolvePath parsed = .ok (.complex name children) ∧
          valueChild children = some a ∧ compare a path op value = .ok e ∧
          js = joins.extend a.requiredJoins)) := by
  unfold comparison at h
  cases hp : AttributePath.parse? path with
  | none => simp [hp, throw, throwThe, MonadExceptOf.throw] at h
  | some parsed =>
    simp only [hp, pure_bind, bind_eq_ok] at h
    obtain ⟨resolved, hr, h⟩ := h
    refine ⟨parsed, rfl, ?_⟩
    -- `attribute` is a keyword, so the two results are named by pattern
    rcases resolved with a | ⟨name, children⟩
    · simp only [bind_eq_ok, pure_eq_ok, Prod.mk.injEq] at h
      obtain ⟨c, hc, rfl, rfl⟩ := h
      exact .inl ⟨a, hr, hc, rfl⟩
    · simp only at h
      split at h
      · split at h
        · simp [throw, throwThe, MonadExceptOf.throw] at h
        · rename_i first rest
          simp only [pure_eq_ok, Prod.mk.injEq] at h
          obtain ⟨rfl, rfl⟩ := h
          exact .inr (.inl ⟨name, first, rest, hr, rfl, rfl⟩)
      · split at h
        · rename_i a ha
          simp only [bind_eq_ok, pure_eq_ok, Prod.mk.injEq] at h
          obtain ⟨c, hc, rfl, rfl⟩ := h
          exact .inr (.inr ⟨name, children, a, hr, ha, hc, rfl⟩)
        · simp [throw, throwThe, MonadExceptOf.throw] at h

section Connectives

variable {m : ResourceMapping} {l r g : FilterNode} {joins js : JoinSet} {e : Sql.Expr}

/-- A conjunction compiles its left operand, then its right one over the joins the left one
added, and brackets the AND of the two. -/
theorem node_and_eq_ok (h : node m (.and l r) joins = .ok (e, js)) :
    ∃ pl jl pr, node m l joins = .ok (pl, jl) ∧ node m r jl = .ok (pr, js) ∧
      e = .paren (Sql.Expr.and pl pr) := by
  simp only [node, bind_eq_ok, pure_eq_ok, Prod.mk.injEq] at h
  obtain ⟨⟨pl, jl⟩, hl, ⟨pr, jr⟩, hr, rfl, rfl⟩ := h
  exact ⟨pl, jl, pr, hl, hr, rfl⟩

theorem node_or_eq_ok (h : node m (.or l r) joins = .ok (e, js)) :
    ∃ pl jl pr, node m l joins = .ok (pl, jl) ∧ node m r jl = .ok (pr, js) ∧
      e = .paren (Sql.Expr.or pl pr) := by
  simp only [node, bind_eq_ok, pure_eq_ok, Prod.mk.injEq] at h
  obtain ⟨⟨pl, jl⟩, hl, ⟨pr, jr⟩, hr, rfl, rfl⟩ := h
  exact ⟨pl, jl, pr, hl, hr, rfl⟩

/-- A negation compiles its operand over no joins. When those joins give at most one row per
resource, the operand's predicate is negated in place and its joins join the statement's;
otherwise the negation keeps the ids that the subquery over the operand's ordered joins does
not select, and the statement's joins stay as they were. -/
theorem node_not_eq_ok (h : node m (.not g) joins = .ok (e, js)) :
    ∃ p inner, node m g {} = .ok (p, inner) ∧
      (inner.hasToMany = false ∧ e = Sql.Expr.negate p ∧ js = joins.union inner ∨
        inner.hasToMany = true ∧ js = joins ∧ ∃ ordered,
          linearize m.root inner.joins = .ok ordered ∧
          e = .inQuery m.idExpr
            (({ select := [(m.idExpr, none)], source := some m.root.toRef,
                joins := ordered.map JoinDescriptor.toJoin } : Sql.Query).andWhere p) true) := by
  simp only [node, bind_eq_ok] at h
  obtain ⟨⟨p, inner⟩, hp, h⟩ := h
  refine ⟨p, inner, hp, ?_⟩
  cases hmany : inner.hasToMany
  · simp only [hmany, Bool.not_false, if_true, pure_eq_ok, Prod.mk.injEq] at h
    obtain ⟨rfl, rfl⟩ := h
    exact .inl ⟨rfl, rfl, rfl⟩
  · simp only [hmany, Bool.not_true, Bool.false_eq_true, if_false, bind_eq_ok, pure_eq_ok,
      Prod.mk.injEq] at h
    obtain ⟨ordered, hlin, rfl, rfl⟩ := h
    exact .inr ⟨rfl, rfl, ordered, hlin, rfl⟩

end Connectives

end Compile

namespace ResourceMapping

/-- The condition of the row and count statements: the tenant's equality, the
restrictions and the compiled filter, joined by AND and nested to the left. -/
def condition (m : ResourceMapping) (tenant : String) (compiled : Option CompiledFilter) :
    Sql.Expr :=
  let guarded := m.restrictions.foldl Sql.Expr.and (m.tenantExpr tenant)
  match compiled with
  | some c => guarded.and c.predicate
  | none => guarded

/-- The joins of the row and count statements: those of the filter, of the sort key and of
the projected attributes, in this order. -/
def statementJoins (m : ResourceMapping) (compiled : Option CompiledFilter)
    (sort : Option SortKey) : JoinSet :=
  let filtered := match compiled with
    | some c => JoinSet.union {} c.joins
    | none => {}
  let sorted := match sort with
    | some k => filtered.extend k.location.requiredJoins
    | none => filtered
  m.projected.foldl (fun js a => js.extend a.requiredJoins) sorted

/-- The id followed by the projected attributes. -/
def projection (m : ResourceMapping) : List Sql.Expr :=
  m.idExpr :: m.projected.map (·.columnExpr)

/-- The count statement over ordered joins and a condition. -/
def countStatement (m : ResourceMapping) (ordered : List JoinDescriptor) (cond : Sql.Expr) :
    Sql.Query :=
  { select := [(Sql.Expr.countDistinct m.idExpr, none)], source := some m.root.toRef,
    joins := ordered.map (·.toJoin), filter := some cond }

/-- The row statement of a page, grouped by its projection when `grouped`. -/
def rowStatement (m : ResourceMapping) (ordered : List JoinDescriptor) (cond : Sql.Expr)
    (sort : Option SortKey) (grouped : Bool) (page : Page) : Sql.Query :=
  let rows : Sql.Query :=
    { select := m.projection.map ((·, none)), source := some m.root.toRef,
      joins := ordered.map (·.toJoin), filter := some cond,
      orderBy := (sort.map (·.orderBy)).toList ++ [(m.idExpr, some .asc)],
      groupBy := if grouped then m.projection else [] }
  (rows.withOffset page.offset).withLimit page.limit

/-- The plan put together from the results of its stages. -/
def assemble (m : ResourceMapping) (tenant : String) (page : Page)
    (compiled : Option CompiledFilter) (sort : Option SortKey) (ordered : List JoinDescriptor)
    (associations : List AssociationPlan) : PlannedQuery :=
  let cond := m.condition tenant compiled
  { resource := m.name, labels := "id" :: m.projected.map m.label,
    rows := ⟨m.root, ordered,
      m.rowStatement ordered cond sort (m.statementJoins compiled sort).hasToMany page⟩,
    count := ⟨m.root, ordered, m.countStatement ordered cond⟩, associations, page }

/-- A plan runs its stages one after another and puts their results together. -/
theorem plan_eq {m : ResourceMapping} {settings : QuerySettings} {tenant : String}
    {filter : Option FilterNode} {sortBy : Option String} {sortOrder : Option SortOrder}
    {pageRequest : PageRequest} :
    m.plan settings tenant filter sortBy sortOrder pageRequest =
      (do
        let compiled ← filter.mapM (compileFilter m)
        let sort ← sortBy.mapM (SortKey.resolve m · (sortOrder.getD .ascending))
        let ordered ← linearize m.root (m.statementJoins compiled sort).joins
        let associations ← m.associations.mapM (AssociationPlan.ofAssociation m)
        pure (m.assemble tenant (pageRequest.resolve settings) compiled sort ordered associations)) := by
  cases filter <;> cases sortBy <;>
    simp [plan, assemble, condition, statementJoins, rowStatement, countStatement, projection,
      Option.mapM_none, Option.mapM_some] <;>
    rfl

/-- A plan succeeds exactly when each of its stages does, and it is then their results put
together. -/
theorem plan_eq_ok {m : ResourceMapping} {settings : QuerySettings} {tenant : String}
    {filter : Option FilterNode} {sortBy : Option String} {sortOrder : Option SortOrder}
    {pageRequest : PageRequest} {pq : PlannedQuery} :
    m.plan settings tenant filter sortBy sortOrder pageRequest = .ok pq ↔
      ∃ compiled sort ordered associations,
        filter.mapM (compileFilter m) = .ok compiled ∧
        sortBy.mapM (SortKey.resolve m · (sortOrder.getD .ascending)) = .ok sort ∧
        linearize m.root (m.statementJoins compiled sort).joins = .ok ordered ∧
        m.associations.mapM (AssociationPlan.ofAssociation m) = .ok associations ∧
        m.assemble tenant (pageRequest.resolve settings) compiled sort ordered associations = pq := by
  rw [plan_eq]
  simp only [bind_eq_ok, pure_eq_ok, exists_and_left]

end ResourceMapping

end ScimQuery
