import ScimQuery.Proofs.Scoping

/-! # Conditions under three-valued logic

Standard evaluation leaves WHERE conditions to the database. Here they are evaluated as SQL
evaluates them: a condition is TRUE, FALSE or UNKNOWN (`none`), comparisons with NULL are
UNKNOWN, `IS NULL` is never UNKNOWN, and `AND`, `OR` and `NOT` follow Kleene's tables.
`e IN (…)` is the disjunction of the equalities of `e` with the values listed or selected,
FALSE when there are none. A subquery is evaluated on its own, with its joins and its WHERE
condition evaluated the same way. A database is three-valued when its conditions hold of
a joined row exactly when they are TRUE there.

The truth of a condition depends only on the rows at the aliases it names; and a value
that is not NULL is in a list of values that are not NULL either exactly when it is one of
them, so `NOT IN` over such values is never UNKNOWN.
-/

namespace ScimQuery.Standard

/-- What the evaluation of a condition reads of a database: the rows of its tables and their
values, NULL, and the scalar functions of one argument. -/
structure Tables (V R : Type) where
  rows : String → List R
  cell : R → String → V
  null : V
  call : String → V → V

/-- How a database reads what a condition compares besides columns: a bound parameter, a
literal, and whether a value matches a LIKE pattern under an escape character. -/
structure Conditions (V : Type) where
  param : Sql.Value → V
  literal : Sql.Literal → V
  like : V → V → Char → Bool

/-- Kleene's conjunction: FALSE when a side is FALSE, UNKNOWN unless both are TRUE. -/
def tand : Option Bool → Option Bool → Option Bool
  | some false, _ => some false
  | _, some false => some false
  | some true, some true => some true
  | _, _ => none

/-- Kleene's disjunction: TRUE when a side is TRUE, UNKNOWN unless both are FALSE. -/
def tor : Option Bool → Option Bool → Option Bool
  | some true, _ => some true
  | _, some true => some true
  | some false, some false => some false
  | _, _ => none

@[simp] theorem tand_eq_some_true {a b : Option Bool} :
    tand a b = some true ↔ a = some true ∧ b = some true := by
  rcases a with _ | _ | _ <;> rcases b with _ | _ | _ <;> simp [tand]

@[simp] theorem tand_some_false (b : Option Bool) : tand (some false) b = some false := rfl

@[simp] theorem tand_some_true (b : Option Bool) : tand (some true) b = b := by
  rcases b with _ | _ | _ <;> rfl

@[simp] theorem tor_some_true (b : Option Bool) : tor (some true) b = some true := by
  rcases b with _ | _ | _ <;> rfl

@[simp] theorem tor_some_false (b : Option Bool) : tor (some false) b = b := by
  rcases b with _ | _ | _ <;> rfl

theorem tand_ne_none {a b : Option Bool} (ha : a ≠ none) (hb : b ≠ none) : tand a b ≠ none := by
  rcases a with _ | _ | _ <;> rcases b with _ | _ | _ <;> simp_all [tand]

theorem tor_ne_none {a b : Option Bool} (ha : a ≠ none) (hb : b ≠ none) : tor a b ≠ none := by
  rcases a with _ | _ | _ <;> rcases b with _ | _ | _ <;> simp_all [tor]

namespace Tables

variable {V R : Type} [LinearOrder V] (t : Tables V R) (c : Conditions V)

/-- The value of a column under an alias; NULL where the alias stands at no row. -/
def column (τ : Joined R) (a col : String) : V :=
  match τ a with
  | some r => t.cell r col
  | none => t.null

/-- The rows of the FROM table, each a joined row of its own. -/
def start (source : Option Sql.TableRef) : List (Joined R) :=
  match source with
  | some s => (t.rows s.table).map fun r => Function.update (fun _ => none) (tableName s) (some r)
  | none => [fun _ => none]

/-- The value of an expression: a column, a parameter, a literal or a function of one
argument; anything else, and the NULL literal, is NULL. -/
def term : Sql.Expr → Joined R → V
  | .column (some a) col, τ => t.column τ a col
  | .param v, _ => c.param v
  | .literal .null, _ => t.null
  | .literal l, _ => c.literal l
  | .function name [x] false, τ => t.call name (term x τ)
  | .paren e, τ => term e τ
  | _, _ => t.null

/-- Whether two values that are not NULL stand in a comparison. -/
def compares : Sql.BinOp → V → V → Bool
  | .eq, a, b => decide (a = b)
  | .ne, a, b => decide (a ≠ b)
  | .lt, a, b => decide (a < b)
  | .gt, a, b => decide (b < a)
  | .lte, a, b => decide (a ≤ b)
  | .gte, a, b => decide (b ≤ a)
  | _, _, _ => false

/-- A comparison of two values, UNKNOWN when either is NULL. -/
def compareTruth (op : Sql.BinOp) (a b : V) : Option Bool :=
  if a = t.null ∨ b = t.null then none else some (compares op a b)

/-- Whether a value is among values: the disjunction of its equalities with them, FALSE
among none. -/
def memberTruth (x : V) (vs : List V) : Option Bool :=
  vs.foldr (fun v acc => tor (t.compareTruth .eq x v) acc) (some false)

/-- The value a query selects first, as an expression. -/
def firstItem (q : Sql.Query) : Sql.Expr := (q.select.head?.map (·.1)).getD (.literal .null)

mutual

/-- The truth of a condition at a joined row: `some true` is TRUE, `some false` FALSE and
`none` UNKNOWN. -/
def truth : Sql.Expr → Joined R → Option Bool
  | .paren e, τ => truth e τ
  | .not e, τ => (truth e τ).map (!·)
  | .binary l op r, τ =>
    match op with
    | .and => tand (truth l τ) (truth r τ)
    | .or => tor (truth l τ) (truth r τ)
    | op => t.compareTruth op (t.term c l τ) (t.term c r τ)
  | .isNull e negated, τ => some (decide (t.term c e τ = t.null) != negated)
  | .like e p escape negated, τ =>
    if t.term c e τ = t.null ∨ t.term c p τ = t.null then none
    else some (c.like (t.term c e τ) (t.term c p τ) escape != negated)
  | .inList e values negated, τ =>
    (t.memberTruth (t.term c e τ) (values.map (t.term c · τ))).map (· != negated)
  | .inQuery e q negated, τ =>
    (t.memberTruth (t.term c e τ) ((matched q).map (t.term c (firstItem q)))).map (· != negated)
  | .literal (.bool b), _ => some b
  | _, _ => none

/-- The joined rows a subquery selects: its FROM, JOIN and WHERE, each condition TRUE. -/
def matched : Sql.Query → List (Joined R)
  | ⟨_, source, joins, filter, _, _, _⟩ => (joinedAll joins (t.start source)).filter (passes filter)

/-- Joins tables one after another: a row meets the rows of the joined table on which the
join condition is TRUE, and a left join keeps a row that meets none. -/
def joinedAll : List (Sql.JoinKind × Sql.TableRef × Sql.Expr) → List (Joined R) → List (Joined R)
  | [], ts => ts
  | (kind, s, on) :: rest, ts =>
    joinedAll rest (ts.flatMap fun τ =>
      match (t.rows s.table).filter (fun r => truth on (Function.update τ (tableName s) (some r)) = some true),
        kind with
      | [], .left => [Function.update τ (tableName s) none]
      | ms, _ => ms.map fun r => Function.update τ (tableName s) (some r))

/-- Whether a WHERE condition, when there is one, is TRUE. -/
def passes : Option Sql.Expr → Joined R → Bool
  | some e, τ => truth e τ = some true
  | none, _ => true

end

/-! ### Connectives -/

section Connectives

variable {τ : Joined R}

@[simp] theorem truth_paren (e : Sql.Expr) : t.truth c (.paren e) τ = t.truth c e τ := by
  simp [truth]

@[simp] theorem truth_and (l r : Sql.Expr) :
    t.truth c (Sql.Expr.and l r) τ = tand (t.truth c l τ) (t.truth c r τ) := by
  simp [truth, Sql.Expr.and]

@[simp] theorem truth_or (l r : Sql.Expr) :
    t.truth c (Sql.Expr.or l r) τ = tor (t.truth c l τ) (t.truth c r τ) := by
  simp [truth, Sql.Expr.or]

/-- `NOT` turns TRUE and FALSE into each other and keeps UNKNOWN, with or without the
parentheses it puts around its operand. -/
@[simp] theorem truth_negate (e : Sql.Expr) :
    t.truth c (Sql.Expr.negate e) τ = (t.truth c e τ).map (!·) := by
  unfold Sql.Expr.negate
  split <;> simp [truth]

end Connectives

/-! ### Locality -/

section Locality

variable {t c} {scope : List String} {τ τ' : Joined R}

omit [LinearOrder V] in
/-- The value of an expression depends only on the rows at the aliases it names. -/
theorem term_congr (hτ : ∀ a ∈ scope, τ a = τ' a) :
    ∀ e : Sql.Expr, e.scopedIn scope = true → t.term c e τ = t.term c e τ'
  | .column (some a) col, he => by
    simp only [Sql.Expr.scopedIn, decide_eq_true_eq] at he
    simp only [term, column, hτ a he]
  | .function name [x] false, he => by
    simp only [Sql.Expr.scopedIn, Sql.Expr.allScopedIn, Bool.and_true] at he
    simp only [term, term_congr hτ x he]
  | .paren e, he => by
    simp only [term]
    exact term_congr hτ e he
  | .literal l, _ => by cases l <;> rfl
  | .column none _, _ | .param _, _ | .binary .., _ | .not _, _ | .inList .., _
  | .inQuery .., _ | .isNull .., _ | .like .., _ | .star _, _ => rfl
  | .function _ [] _, _ | .function _ [_] true, _ | .function _ (_ :: _ :: _) _, _ => rfl

/-- The truth of a condition depends only on the rows at the aliases it names: a subquery is
evaluated on its own. -/
theorem truth_congr (hτ : ∀ a ∈ scope, τ a = τ' a) :
    ∀ e : Sql.Expr, e.scopedIn scope = true → t.truth c e τ = t.truth c e τ'
  | .paren e, he => by
    simp only [truth_paren]
    exact truth_congr hτ e he
  | .not e, he => by
    simp only [truth]
    rw [truth_congr hτ e he]
  | .binary l op r, he => by
    simp only [Sql.Expr.scopedIn, Bool.and_eq_true] at he
    have hl := truth_congr hτ l he.1
    have hr := truth_congr hτ r he.2
    cases op <;> simp only [truth, hl, hr, term_congr hτ l he.1, term_congr hτ r he.2]
  | .isNull e negated, he => by
    simp only [truth, term_congr hτ e he]
  | .like e p escape negated, he => by
    simp only [Sql.Expr.scopedIn, Bool.and_eq_true] at he
    simp only [truth, term_congr hτ e he.1, term_congr hτ p he.2]
  | .inList e values negated, he => by
    simp only [Sql.Expr.scopedIn, Bool.and_eq_true, Sql.Expr.allScopedIn_iff] at he
    have hvalues : values.map (t.term c · τ) = values.map (t.term c · τ') :=
      List.map_congr_left fun v hv => term_congr hτ v (he.2 v hv)
    simp only [truth, term_congr hτ e he.1, hvalues]
  | .inQuery e q negated, he => by
    simp only [Sql.Expr.scopedIn, Bool.and_eq_true] at he
    simp only [truth, term_congr hτ e he.1]
  | .literal l, _ => by cases l <;> rfl
  | .column .., _ | .param _, _ | .function .., _ | .star _, _ => rfl

end Locality

/-- A value that is not NULL is among values that are not NULL exactly when it is one of
them: membership is then never UNKNOWN. -/
theorem memberTruth_of_ne_null {x : V} (hx : x ≠ t.null) :
    ∀ {vs : List V}, (∀ v ∈ vs, v ≠ t.null) → t.memberTruth x vs = some (decide (x ∈ vs))
  | [], _ => rfl
  | v :: vs, hvs => by
    have hrest := memberTruth_of_ne_null hx fun w hw => hvs w (List.mem_cons_of_mem _ hw)
    have hv := hvs v List.mem_cons_self
    unfold memberTruth at hrest ⊢
    rw [List.foldr_cons, hrest]
    by_cases hxv : x = v <;> simp [compareTruth, compares, hx, hv, hxv]

end Tables

namespace Database

variable {V R : Type} [LinearOrder V]

/-- The tables of a database. -/
def tables (db : Database V R) : Tables V R := ⟨db.rows, db.cell, db.null, db.call⟩

/-- A database that evaluates WHERE conditions under three-valued logic: a condition holds
of a joined row exactly when it is TRUE there. Text literals are not NULL. -/
structure ThreeValued (db : Database V R) (c : Conditions V) : Prop where
  holds_eq : ∀ e τ, db.holds e τ = decide (db.tables.truth c e τ = some true)
  text_ne_null : ∀ s, c.literal (.string s) ≠ db.null

variable {db : Database V R} {c : Conditions V}

/-- A three-valued database selects the joined rows whose condition is TRUE. -/
theorem ThreeValued.selected_eq (h : db.ThreeValued c) (q : Sql.Query) :
    db.selected q = (db.joinAll q.joins (db.start q.source)).filter fun τ =>
      q.filter.all fun e => db.tables.truth c e τ = some true := by
  unfold selected
  congr 1
  funext τ
  cases q.filter <;> simp [h.holds_eq]

omit [LinearOrder V] in
@[simp] theorem tables_rows : db.tables.rows = db.rows := rfl

omit [LinearOrder V] in
@[simp] theorem tables_null : db.tables.null = db.null := rfl

omit [LinearOrder V] in
theorem tables_column (τ : Joined R) (a col : String) : db.tables.column τ a col = db.column τ a col :=
  rfl

omit [LinearOrder V] in
theorem tables_start (source : Option Sql.TableRef) : db.tables.start source = db.start source := rfl

/-- A join on the equality of two columns meets, under three-valued evaluation, the rows it
meets under standard evaluation. -/
theorem onHolds_eq_col (a x b y : String) (σ : Joined R) :
    db.onHolds (Sql.Expr.eq (Sql.Expr.col a x) (Sql.Expr.col b y)) σ =
      decide (db.tables.truth c (Sql.Expr.eq (Sql.Expr.col a x) (Sql.Expr.col b y)) σ = some true) := by
  by_cases hl : db.column σ a x = db.null
  · simp [onHolds, Tables.truth, Tables.compareTruth, Tables.term, value, Sql.Expr.eq,
      Sql.Expr.col, tables_column, hl]
  by_cases hr : db.column σ b y = db.null
  · simp [onHolds, Tables.truth, Tables.compareTruth, Tables.term, value, Sql.Expr.eq,
      Sql.Expr.col, tables_column, hl, hr]
  -- both sides decide the same equality, through different instances
  simp [onHolds, Tables.truth, Tables.compareTruth, Tables.compares, Tables.term, value,
    Sql.Expr.eq, Sql.Expr.col, tables_column, hl, hr]
  exact decide_eq_decide.2 Iff.rfl

/-- Joining descriptors one after another, three-valued evaluation joins the rows standard
evaluation joins. -/
theorem joinedAll_toJoin (js : List JoinDescriptor) (ts : List (Joined R)) :
    db.tables.joinedAll c (js.map (·.toJoin)) ts = db.joinAll (js.map (·.toJoin)) ts := by
  induction js generalizing ts with
  | nil => rfl
  | cons j js ih =>
    rw [List.map_cons, joinAll_cons, ← ih]
    simp only [Tables.joinedAll]
    congr 1
    refine List.flatMap_congr fun τ _ => ?_
    have hmeets : (db.tables.rows j.toJoin.2.1.table).filter (fun r => db.tables.truth c j.toJoin.2.2
        (Function.update τ (tableName j.toJoin.2.1) (some r)) = some true) =
        db.meets j.toJoin.2.1 j.toJoin.2.2 τ := by
      unfold meets
      refine List.filter_congr fun r _ => ?_
      simp only [JoinDescriptor.toJoin, TableReference.column]
      exact (onHolds_eq_col (c := c) _ _ _ _ _).symm
    unfold joinStep
    -- the two sides branch on the same rows through matchers of their own, so each branch
    -- is reduced before the sides are compared
    cases j.toJoin.1 <;> cases hm : db.meets j.toJoin.2.1 j.toJoin.2.2 τ <;>
      simp only [hmeets, hm]

end Database

end ScimQuery.Standard
