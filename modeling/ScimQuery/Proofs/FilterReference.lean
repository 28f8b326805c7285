import ScimQuery.Proofs.SelfCheck
import ScimQuery.Proofs.Parameters

/-! # Compiling a filter, part by part

A filter compiles as its parts do. Each comparison, read on its own, names the joins it reads
through and the values it binds, or is refused with an error; the compiled filter fails
with the error of its first refused comparison, left to right, and otherwise needs the
joins of its parts and binds their values one after another. The compiler threads one join
set through both sides of a conjunction or disjunction and gives a negation a set of its
own, merged back only when no join of it may repeat a row: this is the same as collecting
the joins of the parts and keeping the first occurrence of each, with the joins of a
negation that may repeat a row left to its subquery.
-/

namespace ScimQuery

/-- The comparisons of a filter, left to right. -/
def FilterNode.comparisons : FilterNode → List (String × CompareOp × FilterValue)
  | .comparison path op value => [(path, op, value)]
  | .and l r | .or l r => l.comparisons ++ r.comparisons
  | .not c => c.comparisons

namespace Compile

/-- The values a comparison of an attribute binds, when the attribute accepts it: none for
presence and for equality with null, otherwise the literal bound for the attribute's type
as the operator needs it. -/
def bound (a : AttributeLocation) (path : String) (op : CompareOp) (value : FilterValue) :
    Except QueryError (List Sql.Value) := do
  let _ ← compare a path op value
  if op = .pr then return []
  match value with
  | .null => return []
  | _ => return [pattern op (← coerce a path value)]

/-- A comparison on its own: the joins it reads through and the values it binds, or why it
is refused. An attribute reads through its chain. Presence of a complex attribute reads
through the chains of all its sub-attributes, in declaration order, and binds nothing;
another operator compares its `value` sub-attribute. -/
def leaf (m : ResourceMapping) (path : String) (op : CompareOp) (value : FilterValue) :
    Except QueryError (List JoinDescriptor × List Sql.Value) := do
  match ← AttributePath.parse path >>= m.resolvePath with
  | .attribute a => return (a.requiredJoins, ← bound a path op value)
  | .complex _ children =>
    if op = .pr then
      if children.isEmpty then throw (.unknownAttribute path)
      else return (children.flatMap (·.requiredJoins), [])
    else
      match valueChild children with
      | some a => return (a.requiredJoins, ← bound a path op value)
      | none => throw (.unknownAttribute path)

/-- The error of the first comparison of a filter that is refused, left to right. -/
def firstError (m : ResourceMapping) (f : FilterNode) : Option QueryError :=
  f.comparisons.findSome? fun (path, op, value) =>
    match leaf m path op value with
    | .error e => some e
    | .ok _ => none

/-- The joins a comparison reads through, each once at its first occurrence; none when it
is refused. -/
def leafJoins (m : ResourceMapping) (path : String) (op : CompareOp) (value : FilterValue) :
    List JoinDescriptor :=
  ((leaf m path op value).toOption.map fun r => r.1.eraseDupsBy JoinDescriptor.same).getD []

/-- The values a comparison binds; none when it is refused. -/
def leafParams (m : ResourceMapping) (path : String) (op : CompareOp) (value : FilterValue) :
    List Sql.Value :=
  ((leaf m path op value).toOption.map Prod.snd).getD []

/-- The joins a filter needs, each once at its first occurrence: those of its comparisons,
of both sides of a conjunction or disjunction, and of a negation unless one of them may
repeat a row, when the negation reads them in a subquery of its own. -/
def filterJoins (m : ResourceMapping) : FilterNode → List JoinDescriptor
  | .comparison path op value => leafJoins m path op value
  | .and l r | .or l r => (filterJoins m l ++ filterJoins m r).eraseDupsBy JoinDescriptor.same
  | .not c => if (filterJoins m c).any (·.toMany) then [] else filterJoins m c

/-- The values a filter binds: those of its comparisons, left to right. -/
def filterParams (m : ResourceMapping) : FilterNode → List Sql.Value
  | .comparison path op value => leafParams m path op value
  | .and l r | .or l r => filterParams m l ++ filterParams m r
  | .not c => filterParams m c

/-- What compiling a filter into a join set comes to, part by part: the error of its first
refused comparison, or the set with the filter's joins added, and the filter's values. -/
def reference (m : ResourceMapping) (f : FilterNode) (joins : JoinSet) :
    Except QueryError (JoinSet × List Sql.Value) :=
  match firstError m f with
  | some e => .error e
  | none => .ok (joins.extend (filterJoins m f), filterParams m f)

end Compile

/-! ### Join sets depend only on first occurrences -/

namespace JoinSet

theorem extend_filter_of_contains {s : JoinSet} {us : List JoinDescriptor}
    {p : JoinDescriptor → Bool} (h : ∀ j ∈ us, p j = false → s.contains j = true) :
    s.extend (us.filter p) = s.extend us := by
  induction us generalizing s with
  | nil => rfl
  | cons j us ih =>
    have hrest : ∀ t : JoinSet, (∀ k, s.contains k = true → t.contains k = true) →
        t.extend (us.filter p) = t.extend us := fun t hst =>
      ih fun k hk hpk => hst k (h k (List.mem_cons_of_mem _ hk) hpk)
    have hgrow : ∀ k, s.contains k = true → (s.insert j).contains k = true := fun k hk => by
      simp [contains_insert, hk]
    by_cases hj : p j = true
    · rw [List.filter_cons_of_pos hj, extend_cons, extend_cons, hrest _ hgrow]
    · have hs : s.contains j = true := h j List.mem_cons_self (by simpa using hj)
      rw [List.filter_cons_of_neg hj, extend_cons, insert_of_contains s j hs]
      exact hrest s fun _ hk => hk

theorem extend_eraseDupsBy (s : JoinSet) (us : List JoinDescriptor) :
    s.extend (us.eraseDupsBy JoinDescriptor.same) = s.extend us := by
  -- the tail after the first join is filtered before its repetitions are erased, so the
  -- induction is on the length
  induction h : us.length using Nat.strongRecOn generalizing s us with
  | _ n ih =>
    cases us with
    | nil => rfl
    | cons j us =>
      have hlen : (us.filter fun b => decide (b.same j = false)).length < n := by
        rw [← h, List.length_cons]
        exact Nat.lt_succ_of_le (List.length_filter_le _ _)
      have hj : (s.insert j).contains j = true := by
        simp [contains_insert, JoinDescriptor.same_self]
      rw [List.eraseDupsBy_cons, extend_cons, extend_cons, ih _ hlen _ _ rfl]
      refine extend_filter_of_contains fun k _ hk => ?_
      have hkj : k.same j = true := by simpa using hk
      obtain ⟨i, hi, hij⟩ := (contains_iff _ j).1 hj
      exact (contains_iff _ k).2 ⟨i, hi, JoinDescriptor.same_trans hij
        (by rwa [JoinDescriptor.same_comm])⟩

/-- Extending a set by the chains of attributes one after another is extending it by the
chains put together. -/
theorem foldl_extend_eq (s : JoinSet) (as : List AttributeLocation) :
    as.foldl (fun js a => js.extend a.requiredJoins) s = s.extend (as.flatMap (·.requiredJoins)) := by
  induction as generalizing s with
  | nil => rfl
  | cons a as ih => rw [List.foldl_cons, ih, List.flatMap_cons, extend_append]

theorem joins_prefix_extend (s : JoinSet) (js : List JoinDescriptor) :
    s.joins <+: (s.extend js).joins := by
  rw [joins_extend]
  exact List.prefix_append _ _

theorem empty_extend_of_distinct {js : List JoinDescriptor} (h : JoinDescriptor.Distinct js) :
    (({} : JoinSet).extend js).joins = js := by
  rw [← ofList, joins_ofList, JoinDescriptor.eraseDupsBy_of_distinct h]

end JoinSet

/-! ### Parameters of the compiled predicates -/

namespace Sql

theorem Expr.params_eq_clauseParams (e : Expr) : e.params = e.clauseParams :=
  e.paramsOf_tokens

theorem Expr.clauseParams_negate (e : Expr) : (Expr.negate e).clauseParams = e.clauseParams := by
  unfold Expr.negate
  split <;> simp [Expr.clauseParams]

theorem Query.joinParams_map_toJoin (js : List JoinDescriptor) :
    Query.joinParams (js.map JoinDescriptor.toJoin) = [] := by
  induction js with
  | nil => rfl
  | cons j js ih =>
    simp [Query.joinParams, ih, JoinDescriptor.toJoin, Expr.eq, TableReference.column,
      Expr.col, Expr.clauseParams]

end Sql

namespace Compile

variable {m : ResourceMapping} {path : String} {op : CompareOp} {value : FilterValue}

theorem clauseParams_presence (a : AttributeLocation) : (presence a).clauseParams = [] := by
  unfold presence
  split <;> simp [Sql.Expr.clauseParams, Sql.Expr.and, AttributeLocation.columnExpr,
    TableReference.column, Sql.Expr.col]

theorem clauseParams_any (rest : List AttributeLocation) :
    ∀ acc : Sql.Expr, acc.clauseParams = [] →
      (rest.foldl (fun acc c => Sql.Expr.or acc (presence c)) acc).clauseParams = [] := by
  induction rest with
  | nil => exact fun _ h => h
  | cons c rest ih =>
    intro acc hacc
    exact ih _ (by simp [Sql.Expr.or, Sql.Expr.clauseParams, hacc, clauseParams_presence])

theorem bound_eq (a : AttributeLocation) :
    bound a path op value = (fun e => e.clauseParams) <$> compare a path op value := by
  cases hc : compare a path op value with
  | error e => simp [bound, hc]
  | ok e =>
    obtain ⟨rfl, rfl⟩ | ⟨rfl, ⟨rfl, rfl⟩ | ⟨rfl, rfl⟩⟩ |
      ⟨hpr, hnull, -, v, hv, column, rhs, hsides, hshape⟩ := compare_eq_ok_cases hc
    · simp [bound, hc, clauseParams_presence]
    · simp [bound, hc, Sql.Expr.clauseParams, AttributeLocation.columnExpr, TableReference.column,
        Sql.Expr.col]
    · simp [bound, hc, Sql.Expr.clauseParams, AttributeLocation.columnExpr, TableReference.column,
        Sql.Expr.col]
    · have hsides : column.clauseParams ++ rhs.clauseParams = [pattern op v] := by
        rcases hsides with ⟨-, rfl, rfl⟩ | ⟨-, rfl, rfl⟩ <;>
          simp [Sql.Expr.clauseParams, Sql.Expr.lower, Sql.Expr.call, Sql.Expr.listParams,
            AttributeLocation.columnExpr, TableReference.column, Sql.Expr.col]
      simp only [bound, hc, ok_bind, if_neg hpr]
      rcases hshape with ⟨-, rfl⟩ | ⟨-, rfl⟩ <;> simp [hv, Sql.Expr.clauseParams, hsides]

/-- A comparison adds the joins it reads through to the set it is given, and its predicate
binds the values it binds on its own; it is refused exactly when it is on its own, with the
same error. -/
theorem comparison_eq_leaf (joins : JoinSet) :
    (fun r => (r.2, r.1.clauseParams)) <$> comparison m joins path op value =
      (fun r => (joins.extend r.1, r.2)) <$> leaf m path op value := by
  unfold comparison leaf
  cases hp : AttributePath.parse? path with
  | none => simp [AttributePath.parse, hp, throw, throwThe, MonadExceptOf.throw]
  | some parsed =>
    simp only [AttributePath.parse, hp, ok_bind]
    cases hr : m.resolvePath parsed with
    | error e => simp [hr]
    | ok r =>
      -- `attribute` is a keyword, so the two results are named by pattern
      rcases r with a | ⟨name, children⟩
      · cases hc : compare a path op value <;> simp [hr, hc, bound_eq]
      · by_cases hpr : op = .pr
        · cases children with
          | nil => simp [hr, hpr, throw, throwThe, MonadExceptOf.throw]
          | cons first rest =>
            have hany := clauseParams_any rest (presence first) (clauseParams_presence first)
            simp [hr, hpr, JoinSet.foldl_extend_eq, JoinSet.extend_append, Sql.Expr.clauseParams,
              hany]
        · cases hv : valueChild children with
          | none => simp [hr, hpr, hv, throw, throwThe, MonadExceptOf.throw]
          | some a => cases hc : compare a path op value <;> simp [hr, hc, hpr, hv, bound_eq]

/-! ### The reference, constructor by constructor -/

section Reference

open ResourceMapping

variable {f l r : FilterNode} {joins : JoinSet}

theorem firstError_comparison_eq_some {e : QueryError} :
    firstError m (.comparison path op value) = some e ↔ leaf m path op value = .error e := by
  simp only [firstError, FilterNode.comparisons, List.findSome?_singleton]
  cases leaf m path op value <;> simp

theorem firstError_comparison_eq_none :
    firstError m (.comparison path op value) = none ↔ ∃ x, leaf m path op value = .ok x := by
  simp only [firstError, FilterNode.comparisons, List.findSome?_singleton]
  cases leaf m path op value <;> simp

@[simp] theorem firstError_and : firstError m (.and l r) = (firstError m l).or (firstError m r) := by
  simp [firstError, FilterNode.comparisons, List.findSome?_append]

@[simp] theorem firstError_or : firstError m (.or l r) = (firstError m l).or (firstError m r) := by
  simp [firstError, FilterNode.comparisons, List.findSome?_append]

@[simp] theorem firstError_not : firstError m (.not l) = firstError m l := by
  simp [firstError, FilterNode.comparisons]

theorem reference_eq_error {e : QueryError} :
    reference m f joins = .error e ↔ firstError m f = some e := by
  unfold reference
  cases firstError m f <;> simp

theorem reference_eq_ok {js : JoinSet} {ps : List Sql.Value} :
    reference m f joins = .ok (js, ps) ↔
      firstError m f = none ∧ js = joins.extend (filterJoins m f) ∧ ps = filterParams m f := by
  unfold reference
  cases firstError m f <;> simp [eq_comm]

theorem reference_or : reference m (.or l r) joins = reference m (.and l r) joins := by
  simp [reference, filterJoins, filterParams]

theorem distinct_filterJoins (m : ResourceMapping) :
    ∀ f, JoinDescriptor.Distinct (filterJoins m f)
  | .comparison path op value => by
    unfold filterJoins leafJoins
    cases leaf m path op value with
    | ok x => exact JoinDescriptor.distinct_eraseDupsBy _
    | error e => exact List.Pairwise.nil
  | .and l r | .or l r => JoinDescriptor.distinct_eraseDupsBy _
  | .not c => by
    unfold filterJoins
    split
    · exact List.Pairwise.nil
    · exact distinct_filterJoins m c

theorem comparison_reference :
    (fun r => (r.2, r.1.clauseParams)) <$> comparison m joins path op value =
      reference m (.comparison path op value) joins := by
  rw [comparison_eq_leaf]
  cases hleaf : leaf m path op value with
  | error e =>
    have he : firstError m (.comparison path op value) = some e :=
      firstError_comparison_eq_some.2 hleaf
    simp [reference, he]
  | ok x =>
    have he : firstError m (.comparison path op value) = none :=
      firstError_comparison_eq_none.2 ⟨x, hleaf⟩
    simp [reference, he, filterJoins, filterParams, leafJoins, leafParams, hleaf,
      Except.toOption, JoinSet.extend_eraseDupsBy]

/-- Two filters compiled one after the other into the same join set, their predicates put
together by a connective that binds the values of its operands in order, compile to what the
reference of their conjunction says. -/
theorem sequence_reference {c : Sql.Expr → Sql.Expr → Sql.Expr}
    (hc : ∀ a b, (c a b).clauseParams = a.clauseParams ++ b.clauseParams)
    (hl : ∀ joins, (fun r => (r.2, r.1.clauseParams)) <$> node m l joins = reference m l joins)
    (hr : ∀ joins, (fun r => (r.2, r.1.clauseParams)) <$> node m r joins = reference m r joins) :
    (fun r => (r.2, r.1.clauseParams)) <$> (do
        let (a, joins) ← node m l joins
        let (b, joins) ← node m r joins
        pure (c a b, joins)) = reference m (.and l r) joins := by
  cases hnl : node m l joins with
  | error e =>
    have he : firstError m l = some e := by
      simpa [hnl, reference_eq_error] using (hl joins).symm
    simp [reference, he]
  | ok x =>
    obtain ⟨a, jl⟩ := x
    obtain ⟨hel, rfl, hpl⟩ := reference_eq_ok.1 (by simpa [hnl] using (hl joins).symm)
    cases hnr : node m r (joins.extend (filterJoins m l)) with
    | error e =>
      have he : firstError m r = some e := by
        simpa [hnr, reference_eq_error] using (hr (joins.extend (filterJoins m l))).symm
      simp [reference, hel, he, hnr]
    | ok y =>
      obtain ⟨b, jr⟩ := y
      obtain ⟨her, rfl, hpr⟩ := reference_eq_ok.1
        (by simpa [hnr] using (hr (joins.extend (filterJoins m l))).symm)
      simp [reference, hel, her, hnr, hc, hpl, hpr, filterJoins, filterParams, JoinSet.extend_eraseDupsBy,
        JoinSet.extend_append]

/-- A negation compiles to what its reference says. The negated filter is compiled into a
set of its own; its joins are whole chains of the mapping, so when one of them may repeat a
row they can be ordered for the subquery, which binds the filter's values and nothing else. -/
theorem not_reference (hm : Consistent m) {c : FilterNode}
    (hc : ∀ joins, (fun r => (r.2, r.1.clauseParams)) <$> node m c joins = reference m c joins) :
    (fun r => (r.2, r.1.clauseParams)) <$> node m (.not c) joins = reference m (.not c) joins := by
  cases hnc : node m c {} with
  | error e =>
    have he : firstError m c = some e := by simpa [hnc, reference_eq_error] using (hc {}).symm
    simp [node, hnc, reference, he]
  | ok x =>
    obtain ⟨p, inner⟩ := x
    obtain ⟨he, rfl, hp⟩ := reference_eq_ok.1 (by simpa [hnc] using (hc {}).symm)
    have hinner := JoinSet.empty_extend_of_distinct (distinct_filterJoins m c)
    have hjoins : reference m (.not c) joins =
        .ok (joins.extend (if (filterJoins m c).any (·.toMany) then [] else filterJoins m c),
          p.clauseParams) := by
      simp [reference, he, filterJoins, filterParams, hp]
    rw [hjoins]
    simp only [node, hnc, ok_bind, JoinSet.hasToMany, hinner]
    cases hany : (filterJoins m c).any (·.toMany)
    · simp [JoinSet.union, hinner, Sql.Expr.clauseParams_negate, pure_eq_ok]
    · obtain ⟨o, ho⟩ := (node_whole c WholeChains.empty hnc).linearize_ok hm
      rw [hinner] at ho
      simp [ho, JoinSet.extend_nil, Sql.Expr.clauseParams, Sql.Query.andWhere,
        Sql.Query.clauseParams, Sql.Query.selectParams, Sql.Query.filterParams,
        Sql.Query.orderParams, Sql.Query.joinParams_map_toJoin, Sql.Expr.listParams,
        ResourceMapping.idExpr, TableReference.column, Sql.Expr.col]

/-- Compiling a filter into a join set fails with the error of its first refused comparison,
and otherwise adds the filter's joins to the set and gives a predicate that binds the
filter's values. -/
theorem node_reference (hm : Consistent m) (f : FilterNode) (joins : JoinSet) :
    (fun r => (r.2, r.1.clauseParams)) <$> node m f joins = reference m f joins := by
  have hconnective : ∀ (k : Sql.BinOp) (a b : Sql.Expr),
      (Sql.Expr.paren (.binary a k b)).clauseParams = a.clauseParams ++ b.clauseParams := by
    simp [Sql.Expr.clauseParams]
  induction f generalizing joins with
  | comparison path op value => exact comparison_reference
  | and l r ihl ihr => exact sequence_reference (hconnective .and) ihl ihr
  | or l r ihl ihr =>
    rw [reference_or]
    exact sequence_reference (hconnective .or) ihl ihr
  | not c ih => exact not_reference hm ih

theorem firstError_eq_none :
    firstError m f = none ↔ ∀ l ∈ f.comparisons, ∃ x, leaf m l.1 l.2.1 l.2.2 = .ok x := by
  unfold firstError
  rw [List.findSome?_eq_none_iff]
  refine forall₂_congr fun ⟨path, op, value⟩ _ => ?_
  cases h : leaf m path op value <;> simp [h]

end Reference

end Compile

open Compile in
/-- Compiling a filter for a checked mapping agrees with its reading part by part. It
succeeds exactly when every comparison is accepted on its own, and otherwise fails with the
error of the first refused comparison, left to right. The compiled filter needs the filter's
joins, each once at its first occurrence, with those of a negation over joins that may repeat
a row left to its subquery; its predicate binds the values of the comparisons in order. A
plan's WHERE condition binds the values of the tenant and the restrictions and then the
filter's, and the joins of its statements start with the filter's. -/
theorem compileFilter_compositional {m : ResourceMapping} (hm : m.selfCheck = .ok ())
    (f : FilterNode) :
    ((∃ c, compileFilter m f = .ok c) ↔
        ∀ l ∈ f.comparisons, ∃ x, leaf m l.1 l.2.1 l.2.2 = .ok x) ∧
      (∀ e, compileFilter m f = .error e ↔ firstError m f = some e) ∧
      ∀ c, compileFilter m f = .ok c →
        c.joins.joins = filterJoins m f ∧ c.params = filterParams m f ∧
          ∀ tenant sort, (m.condition tenant (some c)).params =
              (m.condition tenant none).params ++ filterParams m f ∧
            filterJoins m f <+: (m.statementJoins (some c) sort).joins := by
  have hnode := node_reference (ResourceMapping.consistent_of_selfCheck hm) f {}
  have hcompile : compileFilter m f = (fun r => ⟨r.1, r.2⟩) <$> node m f {} := by
    simp only [compileFilter]
    cases node m f {} <;> rfl
  have herror : ∀ e, compileFilter m f = .error e ↔ firstError m f = some e := by
    intro e
    rw [hcompile, map_eq_error, ← reference_eq_error, ← hnode, map_eq_error]
  refine ⟨?_, herror, fun c hc => ?_⟩
  · rw [← firstError_eq_none]
    constructor
    · rintro ⟨c, hc⟩
      cases he : firstError m f with
      | none => rfl
      | some e => simp [(herror e).2 he] at hc
    · intro hnone
      cases hc : compileFilter m f with
      | error e => simp [(herror e).1 hc] at hnone
      | ok c => exact ⟨c, rfl⟩
  · have hok : (fun r => (r.2, r.1.clauseParams)) <$> node m f {} = .ok (c.joins, c.params) := by
      rw [hcompile, map_eq_ok] at hc
      obtain ⟨⟨p, js⟩, hn, rfl⟩ := hc
      simp [hn, CompiledFilter.params, Sql.Expr.params_eq_clauseParams]
    obtain ⟨-, hjoins, hparams⟩ := reference_eq_ok.1 (hnode ▸ hok)
    have hj : c.joins.joins = filterJoins m f := by
      rw [hjoins, JoinSet.empty_extend_of_distinct (distinct_filterJoins m f)]
    refine ⟨hj, hparams, fun tenant sort => ⟨?_, ?_⟩⟩
    · simp [ResourceMapping.condition, Sql.Expr.params_eq_clauseParams, Sql.Expr.and,
        Sql.Expr.clauseParams, ← hparams, CompiledFilter.params]
    · have hfiltered : (JoinSet.union {} c.joins).joins = filterJoins m f := by
        rw [JoinSet.union, JoinSet.empty_extend_of_distinct (hj ▸ distinct_filterJoins m f), hj]
      unfold ResourceMapping.statementJoins
      rw [JoinSet.foldl_extend_eq]
      refine List.IsPrefix.trans ?_ (JoinSet.joins_prefix_extend _ _)
      cases sort with
      | none => exact hfiltered ▸ List.prefix_refl _
      | some k => exact hfiltered ▸ JoinSet.joins_prefix_extend _ _

/-- The Group resource passes its self-check, so the compiled filter for groups without a
given member agrees with its reading part by part. -/
theorem groups_compileFilter_compositional :
    ∃ m, ResourceMapping.ofDecl Catalog.groupDecl = .ok m ∧ m.selfCheck = .ok () ∧
      let f : FilterNode := .not (.comparison "members.value" .eq (.string "u1"))
      ((∃ c, compileFilter m f = .ok c) ↔
          ∀ l ∈ f.comparisons, ∃ x, Compile.leaf m l.1 l.2.1 l.2.2 = .ok x) ∧
        (∀ e, compileFilter m f = .error e ↔ Compile.firstError m f = some e) ∧
        ∀ c, compileFilter m f = .ok c →
          c.joins.joins = Compile.filterJoins m f ∧ c.params = Compile.filterParams m f ∧
            ∀ tenant sort, (m.condition tenant (some c)).params =
                (m.condition tenant none).params ++ Compile.filterParams m f ∧
              Compile.filterJoins m f <+: (m.statementJoins (some c) sort).joins := by
  obtain ⟨m, hm, hcheck⟩ : ∃ m, ResourceMapping.ofDecl Catalog.groupDecl = .ok m ∧
      m.selfCheck = .ok () := ⟨_, rfl, rfl⟩
  exact ⟨m, hm, hcheck, compileFilter_compositional hcheck _⟩

end ScimQuery
