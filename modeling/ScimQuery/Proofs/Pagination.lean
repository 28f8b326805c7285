import ScimQuery.Proofs.Grouping
import ScimQuery.Proofs.JoinedRows
import ScimQuery.Proofs.RowIds
import ScimQuery.Proofs.SelfCheck

/-! # Pages partition the result

Under standard evaluation, with root ids that are never NULL and whose texts tell the root
rows apart, and with joins that are not to-many meeting at most one row for each row of
their source, the pages of a request list every selected root entity exactly once, in the
order of the row statement.

Every page is planned from the same stages, so all pages share the count statement and,
but for OFFSET and LIMIT, the row statement; a page is the window of the row statement's
sorted groups that it asks for. Those groups are the classes of the root id. With grouping,
the projection tells the rows of one id together: the projected attributes are reached along
joins that are not to-many, so the root row fixes them. Without grouping no join is to-many,
so each root row gives at most one joined row. ORDER BY ends with the id, so the groups are
sorted strictly and each id comes once; and the rows of a page keep the ids of their tuples
in order, since no two ids have the same text.
-/

namespace ScimQuery

open JoinOrder Standard

theorem flatMap_range_windows {α : Type} (l : List α) (n K : Nat) :
    (List.range K).flatMap (fun k => (l.drop (k * n)).take n) = l.take (K * n) := by
  induction K with
  | zero => simp
  | succ K ih =>
    rw [List.range_succ, List.flatMap_append, ih, List.flatMap_singleton, Nat.succ_mul,
      List.take_add]

/-- Windows of `n ≥ 1` items at offsets `0, n, 2n, …`: those before the `⌊|l| / n⌋`-th are
full, that one holds the fewer than `n` items left, and together they are the list. -/
theorem windows_partition {α : Type} (l : List α) {n : Nat} (hn : 0 < n) :
    (∀ k < l.length / n, ((l.drop (k * n)).take n).length = n) ∧
      ((l.drop (l.length / n * n)).take n).length < n ∧
      (List.range (l.length / n + 1)).flatMap (fun k => (l.drop (k * n)).take n) = l := by
  refine ⟨fun k hk => ?_, ?_, ?_⟩
  · have hfull : (k + 1) * n ≤ l.length := (Nat.le_div_iff_mul_le hn).1 hk
    rw [Nat.succ_mul] at hfull
    simp only [List.length_take, List.length_drop]
    omega
  · have hmod := Nat.mod_lt l.length hn
    have hdiv := Nat.div_add_mod' l.length n
    simp only [List.length_take, List.length_drop]
    omega
  · have hcover : l.length ≤ (l.length / n + 1) * n := by
      rw [Nat.succ_mul]
      exact (Nat.lt_div_mul_add hn).le
    rw [flatMap_range_windows, List.take_of_length_le hcover]

theorem nodup_of_length_le_one {α : Type} {l : List α} (h : l.length ≤ 1) : l.Nodup := by
  match l, h with
  | [], _ => exact List.nodup_nil
  | [_], _ => exact List.nodup_singleton _
  | _ :: _ :: _, h => simp at h

namespace ResourceMapping

variable {m : ResourceMapping}

theorem contains_foldl_extend (as : List AttributeLocation) (s : JoinSet) (k : JoinDescriptor) :
    (as.foldl (fun js a => js.extend a.requiredJoins) s).contains k =
      (s.contains k || as.any fun a => a.requiredJoins.any (·.same k)) := by
  induction as generalizing s with
  | nil => simp
  | cons a as ih => simp [ih, JoinSet.contains_extend, Bool.or_assoc]

theorem contains_statementJoins (compiled : Option CompiledFilter) (sort : Option SortKey)
    {a : AttributeLocation} (ha : a ∈ m.projected) {k : JoinDescriptor}
    (hk : k ∈ a.requiredJoins) : (m.statementJoins compiled sort).contains k = true := by
  unfold statementJoins
  dsimp only
  rw [contains_foldl_extend]
  simp only [Bool.or_eq_true, List.any_eq_true]
  exact .inr ⟨a, ha, k, hk, JoinDescriptor.same_self k⟩

theorem idExpr_eq (m : ResourceMapping) : m.idExpr = Sql.Expr.col m.root.aliasName m.idColumn :=
  rfl

/-- The joins of a plan's statements as the plan orders them: a permutation of the join set,
placed from the root, each introducing a new alias. -/
structure OrderedJoins (m : ResourceMapping) (s : JoinSet) (ordered : List JoinDescriptor) :
    Prop where
  perm : ordered.Perm s.joins
  placed : Placed [m.root] ordered
  fresh : Fresh [m.root] ordered

theorem orderedJoins_of_linearize {s : JoinSet} {ordered : List JoinDescriptor}
    (hw : WholeChains m s) (h : linearize m.root s.joins = .ok ordered) :
    OrderedJoins m s ordered := by
  obtain ⟨hord, hperm, hplaced, -⟩ := linearize_eq_ok_spec h
  rw [JoinDescriptor.eraseDupsBy_of_distinct hw.distinct] at hord hperm
  refine ⟨hperm, hplaced, ⟨by simp, fun j hj => ?_, (hperm.map _).nodup_iff.2 hord.targetsDistinct⟩⟩
  simpa using hord.avoidsRoot j (hperm.subset hj)

section Statements

variable (m) (ordered : List JoinDescriptor) (cond : Sql.Expr) (sort : Option SortKey)
  (grouped : Bool) (page : Page)

theorem countStatement_select :
    (m.countStatement ordered cond).select = [(Sql.Expr.countDistinct m.idExpr, none)] := rfl

theorem rowStatement_groupBy :
    (m.rowStatement ordered cond sort grouped page).groupBy =
      if grouped then m.projection else [] := rfl

theorem rowStatement_orderBy :
    (m.rowStatement ordered cond sort grouped page).orderBy =
      (sort.map (·.orderBy)).toList ++ [(Sql.Expr.col m.root.aliasName m.idColumn, some .asc)] :=
  rfl

variable (tenant : String) (compiled : Option CompiledFilter) (assocs : List AssociationPlan)

@[simp] theorem assemble_count_query :
    (m.assemble tenant page compiled sort ordered assocs).count.query =
      m.countStatement ordered (m.condition tenant compiled) := rfl

@[simp] theorem assemble_rows_query :
    (m.assemble tenant page compiled sort ordered assocs).rows.query =
      m.rowStatement ordered (m.condition tenant compiled) sort
        (m.statementJoins compiled sort).hasToMany page := rfl

@[simp] theorem assemble_page : (m.assemble tenant page compiled sort ordered assocs).page = page :=
  rfl

theorem selected_rowStatement {V R : Type} [LinearOrder V] (db : Database V R) :
    db.selected (m.rowStatement ordered cond sort grouped page) =
      db.selected (m.countStatement ordered cond) := rfl

/-- A page of the row statement is a window of its sorted groups, whatever the page. -/
theorem paged_rowStatement {V R : Type} [LinearOrder V] (db : Database V R) (page' : Page) :
    db.paged (m.rowStatement ordered cond sort grouped page) =
      ((db.sorted (m.rowStatement ordered cond sort grouped page')).drop page.offset).take
        page.limit := rfl

theorem rowsOf_rowStatement {V R : Type} [LinearOrder V] (db : Database V R) :
    db.rowsOf (m.rowStatement ordered cond sort grouped page) =
      ((db.paged (m.rowStatement ordered cond sort grouped page)).map fun g =>
        (db.out (db.groupValue m.idExpr g),
          m.projected.map fun a => db.out (db.groupValue a.columnExpr g))).map
        fun p => p.1 :: p.2 := by
  unfold Database.rowsOf
  rw [List.map_map]
  refine List.map_congr_left fun g _ => ?_
  simp [rowStatement, projection, Sql.Query.withLimit, Sql.Query.withOffset]

end Statements

end ResourceMapping

namespace Standard.Database

open ResourceMapping

variable {V R : Type} [LinearOrder V] (db : Database V R)

/-- What pages ask of a database beyond standard evaluation: the root rows have ids that are
never NULL and whose texts tell the rows apart, as unique ids of one SQL type do, and every
join of an attribute that is not to-many meets at most one row for each row of its source
table. -/
structure Keyed (m : ResourceMapping) : Prop where
  idNotNull : ∀ r ∈ db.rows m.root.table, db.cell r m.idColumn ≠ db.null
  idTexts : ((db.rows m.root.table).map fun r => (db.out (db.cell r m.idColumn)).render).Nodup
  singleRow : ∀ a ∈ m.attributes, ∀ k ∈ a.requiredJoins, k.toMany = false →
    ∀ s ∈ db.rows k.source.table, (db.follow k (some s)).length ≤ 1

variable {db} {m : ResourceMapping} {ordered : List JoinDescriptor}

theorem Keyed.eq_of_text_eq (hkey : db.Keyed m) {r r' : R} (hr : r ∈ db.rows m.root.table)
    (hr' : r' ∈ db.rows m.root.table)
    (h : (db.out (db.cell r m.idColumn)).render = (db.out (db.cell r' m.idColumn)).render) :
    r = r' :=
  List.inj_on_of_nodup_map hkey.idTexts hr hr' h

omit [LinearOrder V] in
theorem value_idExpr {τ : Joined R} {r : R} (h : τ m.root.aliasName = some r) :
    db.value m.idExpr τ = db.cell r m.idColumn := by
  simp [idExpr_eq, Sql.Expr.col, value, column, h]

omit [LinearOrder V] in
theorem start_root :
    db.start (some m.root.toRef) =
      (db.rows m.root.table).map fun r => Function.update (fun _ => none) m.root.aliasName (some r) :=
  rfl

theorem root_of_mem_joinAll (hf : Fresh [m.root] ordered) (hp : Placed [m.root] ordered)
    {ts : List (Joined R)} {τ : Joined R} (h : τ ∈ db.joinAll (ordered.map (·.toJoin)) ts) :
    ∃ τ0 ∈ ts, τ m.root.aliasName = τ0 m.root.aliasName ∧ db.Follows τ ordered := by
  obtain ⟨τ0, h0, hagree, hfollow⟩ := mem_joinAll hp hf h
  refine ⟨τ0, h0, hagree _ fun hmem => ?_, hfollow⟩
  obtain ⟨j, hj, he⟩ := List.mem_map.1 hmem
  exact hf.targetsNew j hj (by simp [he])

theorem mem_selected_root (hf : Fresh [m.root] ordered) (hp : Placed [m.root] ordered)
    {q : Sql.Query} (hsrc : q.source = some m.root.toRef) (hjoins : q.joins = ordered.map (·.toJoin))
    {τ : Joined R} (h : τ ∈ db.selected q) :
    ∃ r ∈ db.rows m.root.table, τ m.root.aliasName = some r ∧ db.Follows τ ordered := by
  unfold selected at h
  rw [hsrc, hjoins] at h
  obtain ⟨τ0, h0, hroot, hfollow⟩ := root_of_mem_joinAll hf hp (List.mem_filter.1 h).1
  obtain ⟨r, hr, rfl⟩ := List.mem_map.1 h0
  exact ⟨r, hr, by simp [hroot, tableName, TableReference.toRef], hfollow⟩

omit [LinearOrder V] in
/-- A joined row standing at a root row binds the root, the one table introduced before
the joins, to a row of its table. -/
theorem root_bound {τ : Joined R} {r : R} (hr : r ∈ db.rows m.root.table)
    (hτ : τ m.root.aliasName = some r) :
    ∀ t ∈ [m.root], ∀ s, τ t.aliasName = some s → s ∈ db.rows t.table := by
  intro t ht s hs
  obtain rfl := List.mem_singleton.1 ht
  rw [hτ, Option.some.injEq] at hs
  exact hs ▸ hr

/-- When every join of the plan meets at most one row per source row, each root row gives at
most one selected row, so the selected rows have distinct ids. -/
theorem nodup_ids_of_single (hf : Fresh [m.root] ordered) (hp : Placed [m.root] ordered)
    (hkey : db.Keyed m)
    (hone : ∀ j ∈ ordered, ∀ s ∈ db.rows j.source.table, (db.follow j (some s)).length ≤ 1)
    {q : Sql.Query} (hsrc : q.source = some m.root.toRef) (hjoins : q.joins = ordered.map (·.toJoin)) :
    ((db.selected q).map (db.value m.idExpr)).Nodup := by
  have hsub : ((db.selected q).map (db.value m.idExpr)).Sublist
      ((db.joinAll (ordered.map (·.toJoin)) (db.start (some m.root.toRef))).map
        (db.value m.idExpr)) := by
    unfold selected
    rw [hsrc, hjoins]
    exact (List.filter_sublist).map _
  refine List.Nodup.sublist hsub ?_
  rw [joinAll_eq_flatMap, start_root, List.flatMap_map, List.map_flatMap]
  have hid : ∀ r, ∀ v ∈ (db.joinAll (ordered.map (·.toJoin))
      [Function.update (fun _ => none) m.root.aliasName (some r)]).map (db.value m.idExpr),
      v = db.cell r m.idColumn := by
    intro r v hv
    obtain ⟨τ, hτ, rfl⟩ := List.mem_map.1 hv
    obtain ⟨τ0, h0, hroot, -⟩ := root_of_mem_joinAll hf hp hτ
    rw [List.mem_singleton.1 h0, Function.update_self] at hroot
    exact value_idExpr hroot
  refine List.nodup_flatMap.2 ⟨fun r hr => ?_, ?_⟩
  · refine nodup_of_length_le_one ?_
    rw [List.length_map]
    exact length_joinAll_le hp hf hone (root_bound hr (Function.update_self ..))
  · have hne := List.pairwise_map.1 (List.nodup_iff_pairwise_ne.1 hkey.idTexts)
    refine hne.imp fun {r r'} hrr v hv hv' => hrr ?_
    rw [← hid r v hv, ← hid r' v hv']

/-- Grouped by the projection, two selected rows are in one group exactly when they have the
same id: the projected attributes are reached from the root along joins that are not
to-many, so the root row fixes them. -/
theorem projection_eq_iff (hcons : Consistent m) (hkey : db.Keyed m)
    (hf : Fresh [m.root] ordered) (hp : Placed [m.root] ordered)
    (hjoins : ∀ a ∈ m.projected, ∀ k ∈ a.requiredJoins, ∃ j ∈ ordered, j.same k = true)
    {q : Sql.Query} (hsrc : q.source = some m.root.toRef) (hqjoins : q.joins = ordered.map (·.toJoin))
    {τ τ' : Joined R} (hτ : τ ∈ db.selected q) (hτ' : τ' ∈ db.selected q) :
    m.projection.map (db.value · τ) = m.projection.map (db.value · τ') ↔
      db.value m.idExpr τ = db.value m.idExpr τ' := by
  constructor
  · intro h
    simpa [projection] using congrArg List.head? h
  · intro hid
    obtain ⟨r, hr, hτr, hfollow⟩ := mem_selected_root hf hp hsrc hqjoins hτ
    obtain ⟨r', hr', hτr', hfollow'⟩ := mem_selected_root hf hp hsrc hqjoins hτ'
    have hrr : r = r' := by
      refine hkey.eq_of_text_eq hr hr' ?_
      rw [← value_idExpr hτr, ← value_idExpr hτr', hid]
    subst hrr
    have hroot : τ m.root.aliasName = τ' m.root.aliasName := hτr.trans hτr'.symm
    simp only [projection, List.map_cons, List.map_map, List.cons.injEq]
    refine ⟨hid, List.map_congr_left fun a ha => ?_⟩
    obtain ⟨hattr, hsingle⟩ := List.mem_filter.1 ha
    have hmany : ∀ k ∈ a.requiredJoins, k.toMany = false := by
      simp only [Bool.not_eq_true', Bool.or_eq_false_iff] at hsingle
      exact fun k hk => by simpa using List.any_eq_false.1 hsingle.1 k hk
    have hagree := Follows.agree hfollow hfollow' (hcons.chainPlaced a hattr) (hjoins a ha)
      (fun k hk => hkey.singleRow a hattr k hk (hmany k hk)) fun t ht =>
        ⟨List.mem_singleton.1 ht ▸ hroot, root_bound hr hτr t ht⟩
    have htable : τ a.table.aliasName = τ' a.table.aliasName := by
      rcases hcons.reachable a hattr with htab | ⟨k, hk, hkt⟩
      · rw [htab]
        exact hroot
      · rw [← hkt]
        exact hagree k hk
    simp [AttributeLocation.columnExpr, TableReference.column, Sql.Expr.col, value, column, htable]

variable {compiled : Option CompiledFilter} {sort : Option SortKey}

theorem groups_rowStatement (hcons : Consistent m) (hkey : db.Keyed m)
    (hw : WholeChains m (m.statementJoins compiled sort))
    (ho : OrderedJoins m (m.statementJoins compiled sort) ordered) (cond : Sql.Expr) (page : Page) :
    (db.groups (m.rowStatement ordered cond sort (m.statementJoins compiled sort).hasToMany page)).Perm
      (classes (db.value m.idExpr) (db.selected (m.countStatement ordered cond))) := by
  cases hmany : (m.statementJoins compiled sort).hasToMany with
  | true =>
    have hjoins : ∀ a ∈ m.projected, ∀ k ∈ a.requiredJoins, ∃ j ∈ ordered, j.same k = true := by
      intro a ha k hk
      obtain ⟨j, hj, hjk⟩ := (JoinSet.contains_iff _ k).1 (contains_statementJoins compiled sort ha hk)
      exact ⟨j, ho.perm.symm.subset hj, hjk⟩
    rw [db.groups_of_groupBy_ne_nil (by simp [rowStatement_groupBy, projection]),
      rowStatement_groupBy, if_pos rfl, selected_rowStatement]
    exact classes_perm_of_iff fun x hx y hy =>
      projection_eq_iff hcons hkey ho.fresh ho.placed hjoins rfl rfl hx hy
  | false =>
    -- no join is to-many, so each root row gives at most one selected row
    have hone : ∀ j ∈ ordered, ∀ s ∈ db.rows j.source.table, (db.follow j (some s)).length ≤ 1 := by
      intro j hj
      have hjT := ho.perm.subset hj
      have htm : j.toMany = false := by
        simpa using List.any_eq_false.1 (by simpa [JoinSet.hasToMany] using hmany) j hjT
      obtain ⟨a, ha, hja, -⟩ := hw.whole j hjT
      exact hkey.singleRow a ha j hja htm
    rw [db.groups_of_groupBy_nil (by rw [rowStatement_groupBy, if_neg Bool.false_ne_true]),
      selected_rowStatement, classes_of_nodup (nodup_ids_of_single ho.fresh ho.placed hkey hone
        (q := m.countStatement ordered cond) rfl rfl)]

theorem idExpr_ne_null (hkey : db.Keyed m) (ho : OrderedJoins m (m.statementJoins compiled sort) ordered)
    (cond : Sql.Expr) {τ : Joined R} (hτ : τ ∈ db.selected (m.countStatement ordered cond)) :
    db.value m.idExpr τ ≠ db.null := by
  obtain ⟨r, hr, hτr, -⟩ := mem_selected_root ho.fresh ho.placed rfl rfl hτ
  rw [value_idExpr hτr]
  exact hkey.idNotNull r hr

/-- The ids of the row statement's sorted groups are the distinct ids of the selected rows,
each group the class of its id, in strictly increasing order of the keys. -/
theorem sortedIds_rowStatement (hcons : Consistent m) (hkey : db.Keyed m)
    (hw : WholeChains m (m.statementJoins compiled sort))
    (ho : OrderedJoins m (m.statementJoins compiled sort) ordered) (cond : Sql.Expr) (page : Page) :
    let q := m.rowStatement ordered cond sort (m.statementJoins compiled sort).hasToMany page
    ((db.sorted q).map (db.groupValue m.idExpr)).Perm
        ((db.selected q).map (db.value m.idExpr)).dedup ∧
      db.sorted q = ((db.sorted q).map (db.groupValue m.idExpr)).map
        (fun v => (db.selected q).filter (db.value m.idExpr · = v)) ∧
      (db.sorted q).Pairwise fun g h => db.orderKey q.orderBy g < db.orderKey q.orderBy h :=
  db.sorted_classes (rowStatement_orderBy m ordered cond sort _ page)
    (groups_rowStatement hcons hkey hw ho cond page)

/-- The count statement counts the distinct ids of the rows it selects. -/
theorem countOf_countStatement (hkey : db.Keyed m)
    (ho : OrderedJoins m (m.statementJoins compiled sort) ordered) (cond : Sql.Expr) :
    db.countOf (m.countStatement ordered cond) =
      ((db.selected (m.countStatement ordered cond)).map (db.value m.idExpr)).dedup.length := by
  rw [db.countOf_countDistinct (countStatement_select m ordered cond),
    db.countDistinct_eq fun τ hτ => idExpr_ne_null hkey ho cond hτ]

theorem texts_sortedIds_nodup (hcons : Consistent m) (hkey : db.Keyed m)
    (hw : WholeChains m (m.statementJoins compiled sort))
    (ho : OrderedJoins m (m.statementJoins compiled sort) ordered) (cond : Sql.Expr) (page : Page) :
    (((db.sorted (m.rowStatement ordered cond sort (m.statementJoins compiled sort).hasToMany
      page)).map (db.groupValue m.idExpr)).map fun v => (db.out v).render).Nodup := by
  obtain ⟨hperm, -, -⟩ := sortedIds_rowStatement hcons hkey hw ho cond page
  refine (hperm.nodup_iff.2 (List.nodup_dedup _)).map_on fun v hv w hw' hvw => ?_
  obtain ⟨τ, hτ, rfl⟩ := List.mem_map.1 (List.mem_dedup.1 (hperm.subset hv))
  obtain ⟨τ', hτ', rfl⟩ := List.mem_map.1 (List.mem_dedup.1 (hperm.subset hw'))
  obtain ⟨r, hr, hτr, -⟩ := mem_selected_root ho.fresh ho.placed rfl rfl hτ
  obtain ⟨r', hr', hτr', -⟩ := mem_selected_root ho.fresh ho.placed rfl rfl hτ'
  rw [value_idExpr hτr, value_idExpr hτr'] at hvw ⊢
  rw [hkey.eq_of_text_eq hr hr' hvw]

/-- Under standard evaluation a plan counts the distinct ids of the rows it selects, and its
rows carry the ids of the window of the row statement's sorted groups that its page asks
for. -/
theorem execute_assemble (hcons : Consistent m) (hkey : db.Keyed m)
    (hw : WholeChains m (m.statementJoins compiled sort))
    (ho : OrderedJoins m (m.statementJoins compiled sort) ordered) (tenant : String)
    (page : Page) (assocs : List AssociationPlan) :
    ∃ e : Execution, (execute db.executor (m.assemble tenant page compiled sort ordered assocs)).run =
        .ok e ∧
      e.total = ((db.selected (m.countStatement ordered (m.condition tenant compiled))).map
        (db.value m.idExpr)).dedup.length ∧
      e.rows.map (·.id) = ((((db.sorted (m.rowStatement ordered (m.condition tenant compiled) sort
        (m.statementJoins compiled sort).hasToMany page)).map (db.groupValue m.idExpr)).map
          db.out).drop page.offset).take page.limit := by
  obtain ⟨hperm, -, -⟩ := sortedIds_rowStatement hcons hkey hw ho (m.condition tenant compiled) page
  rw [selected_rowStatement] at hperm
  have htexts := texts_sortedIds_nodup hcons hkey hw ho (m.condition tenant compiled) page
  have hcount := countOf_countStatement hkey ho (m.condition tenant compiled)
  obtain ⟨e, hrun, htotal, hids⟩ := db.execute_ids (m.assemble tenant page compiled sort ordered assocs)
  simp only [assemble_count_query, assemble_rows_query, assemble_page, hcount] at htotal hids
  refine ⟨e, hrun, htotal, ?_⟩
  rw [hids, ← hperm.length_eq]
  split_ifs with hempty
  · rcases hempty with h0 | hl | hoff
    · rw [List.length_eq_zero_iff] at h0
      simp [h0]
    · rw [hl, List.take_zero]
    · refine (List.take_eq_nil_iff.2 (.inr (List.drop_eq_nil_of_le ?_))).symm
      rw [List.length_map]
      exact hoff
  · rw [rowsOf_rowStatement, paged_rowStatement m ordered _ sort _ page db page,
      ResultMapper.ids_foldl_pushRow _ _ _ ResultMapper.Indexed.empty]
    · simp [ResultMapper.ids, List.map_drop, List.map_take, Function.comp_def]
    · have hsub : ((((db.sorted (m.rowStatement ordered (m.condition tenant compiled) sort
          (m.statementJoins compiled sort).hasToMany page)).drop page.offset).take page.limit).map
          fun g => (db.out (db.groupValue m.idExpr g)).render).Sublist
          ((((db.sorted (m.rowStatement ordered (m.condition tenant compiled) sort
            (m.statementJoins compiled sort).hasToMany page)).map (db.groupValue m.idExpr)).map
            fun v => (db.out v).render)) := by
        rw [List.map_map]
        exact ((List.take_sublist _ _).trans (List.drop_sublist _ _)).map _
      simpa [ResultMapper.ids, List.map_map, Function.comp_def] using htexts.sublist hsub

end Standard.Database

namespace Registry

theorem query_run {V R : Type} [LinearOrder V] {db : Database V R} {reg : Registry}
    {settings : QuerySettings} {req : QueryRequest} {pq : PlannedQuery}
    (h : reg.plan settings req = .ok pq) {e : Execution} (he : (execute db.executor pq).run = .ok e) :
    (reg.query settings db.executor req).run =
      .ok ⟨e.total, pq.page.startIndex, e.rows.length, e.rows⟩ := by
  unfold Registry.query
  simp only [ExceptT.run_bind, h, ExceptT.run_mk, pure_bind, he]
  rfl

theorem plan_withPage {reg : Registry} {settings : QuerySettings} {r : QueryRequest}
    {m : ResourceMapping} (hm : reg.get r.resource = .ok m) {compiled : Option CompiledFilter}
    {sort : Option SortKey} {ordered : List JoinDescriptor} {assocs : List AssociationPlan}
    (hc : r.filter.mapM (compileFilter m) = .ok compiled)
    (hs : r.sortBy.mapM (SortKey.resolve m · (r.sortOrder.getD .ascending)) = .ok sort)
    (hlin : linearize m.root (m.statementJoins compiled sort).joins = .ok ordered)
    (ha : m.associations.mapM (AssociationPlan.ofAssociation m) = .ok assocs)
    (start : Int) (count : Option Int) :
    reg.plan settings (r.withPage start count) =
      .ok (m.assemble r.tenant ((r.withPage start count).pageRequest.resolve settings) compiled sort
        ordered assocs) :=
  bind_eq_ok.2 ⟨m, hm, ResourceMapping.plan_eq_ok.2 ⟨compiled, sort, ordered, assocs, hc, hs, hlin, ha, rfl⟩⟩

end Registry

theorem resolve_window (r : QueryRequest) {settings : QuerySettings} {n : Nat}
    (hmax : n ≤ settings.maxResults) (k : Nat) :
    (r.withPage ((1 + k * n : Nat) : Int) (some (n : Int))).pageRequest.resolve settings =
      ⟨1 + k * n, k * n, n⟩ := by
  simp only [PageRequest.resolve, QueryRequest.withPage, QueryRequest.pageRequest, Option.getD_some,
    Page.mk.injEq]
  omega

open ResourceMapping Standard.Database

/-- Pages partition the result. Against a database that evaluates statements the standard
way, whose root ids are never NULL and have texts that tell the root rows apart, and whose
joins that are not to-many meet at most one row per source row, every page of a request
counts the distinct root ids the count statement selects; and the pages of `n` rows starting
at `1, 1 + n, 1 + 2n, …` up to the first page with fewer than `n` rows list those ids, each
once, in increasing order of the row statement's ORDER BY over the rows of each id. -/
theorem query_pages_partition {V R : Type} [LinearOrder V] {c : CatalogDecl} {reg : Registry}
    (hreg : Registry.ofDecl c = .ok reg) (settings : QuerySettings) (r : QueryRequest)
    {m : ResourceMapping} (hm : reg.get r.resource = .ok m) {db : Database V R}
    (hdb : db.Keyed m) {n : Nat} (hn : 0 < n) (hmax : n ≤ settings.maxResults)
    {pq : PlannedQuery} (hplan : reg.plan settings r = .ok pq) :
    (∀ start count, ∃ res, (reg.query settings db.executor (r.withPage start count)).run = .ok res ∧
      res.totalResults = ((db.selected pq.count.query).map (db.value m.idExpr)).dedup.length) ∧
    ∃ (results : Nat → QueryResult) (K : Nat) (ids : List V),
      (∀ k, (reg.query settings db.executor
        (r.withPage ((1 + k * n : Nat) : Int) (some (n : Int)))).run = .ok (results k)) ∧
      (∀ k < K, (results k).rows.length = n) ∧ (results K).rows.length < n ∧
      (List.range (K + 1)).flatMap (fun k => (results k).rows.map (·.id)) = ids.map db.out ∧
      ids.Nodup ∧ (∀ v, v ∈ ids ↔ v ∈ (db.selected pq.count.query).map (db.value m.idExpr)) ∧
      ids.Pairwise fun v w =>
        db.orderKey pq.rows.query.orderBy
            ((db.selected pq.rows.query).filter (db.value m.idExpr · = v)) <
          db.orderKey pq.rows.query.orderBy
            ((db.selected pq.rows.query).filter (db.value m.idExpr · = w)) := by
  obtain ⟨m', hm', hplan'⟩ := bind_eq_ok.1 hplan
  rw [hm, Except.ok.injEq] at hm'
  subst hm'
  obtain ⟨compiled, sort, ordered, assocs, hc, hs, hlin, hassocs, rfl⟩ :=
    ResourceMapping.plan_eq_ok.1 hplan'
  have hcons := consistent_of_selfCheck (Registry.selfCheck_of_ofDecl hreg m (Registry.get_mem hm))
  have hw := statementJoins_whole_of_ok hc hs
  have ho := orderedJoins_of_linearize hw hlin
  simp only [assemble_count_query, assemble_rows_query]
  set page := r.pageRequest.resolve settings
  set cond := m.condition r.tenant compiled
  set q := m.rowStatement ordered cond sort (m.statementJoins compiled sort).hasToMany page
  set ids := (db.sorted q).map (db.groupValue m.idExpr)
  have hpage : ∀ start count, ∃ res, (reg.query settings db.executor (r.withPage start count)).run =
      .ok res ∧ res.totalResults = ((db.selected (m.countStatement ordered cond)).map
        (db.value m.idExpr)).dedup.length ∧
      res.rows.map (·.id) = ((ids.map db.out).drop
        ((r.withPage start count).pageRequest.resolve settings).offset).take
        ((r.withPage start count).pageRequest.resolve settings).limit := by
    intro start count
    obtain ⟨e, he, htotal, hids⟩ := execute_assemble hcons hdb hw ho r.tenant
      ((r.withPage start count).pageRequest.resolve settings) assocs
    exact ⟨_, Registry.query_run (Registry.plan_withPage hm hc hs hlin hassocs start count) he,
      htotal, hids⟩
  refine ⟨fun start count => ?_, ?_⟩
  · obtain ⟨res, hrun, htotal, -⟩ := hpage start count
    exact ⟨res, hrun, htotal⟩
  choose results hrun _ hids using fun k : Nat => hpage ((1 + k * n : Nat) : Int) (some (n : Int))
  have hwin : ∀ k, (results k).rows.map (·.id) = ((ids.map db.out).drop (k * n)).take n := by
    intro k
    rw [hids k, resolve_window r hmax k]
  have hlen : ∀ k, (results k).rows.length = (((ids.map db.out).drop (k * n)).take n).length := by
    intro k
    rw [← hwin k, List.length_map]
  obtain ⟨hfull, hlast, hcover⟩ := windows_partition (ids.map db.out) hn
  rw [List.length_map] at hfull hlast hcover
  obtain ⟨hperm, hsorted, hlt⟩ := sortedIds_rowStatement hcons hdb hw ho cond page
  refine ⟨results, ids.length / n, ids, hrun, fun k hk => (hlen k).trans (hfull k hk),
    (hlen _).trans_lt hlast, (List.flatMap_congr fun k _ => hwin k).trans hcover,
    hperm.nodup_iff.2 (List.nodup_dedup _), fun v => hperm.mem_iff.trans List.mem_dedup, ?_⟩
  · rw [hsorted, List.pairwise_map] at hlt
    exact hlt

/-- Three roles of one realm; every column of a role holds the role's name. -/
def roleTable : Database String String where
  rows t := if t = "KEYCLOAK_ROLE" then ["admin", "editor", "viewer"] else []
  cell r _ := r
  null := ""
  out v := .text v
  call _ v := v
  holds _ _ := true

/-- The roles of the realm `acme`, from the first page on. -/
def roleRequest : QueryRequest := { resource := "Role", tenant := "acme" }

theorem roles_query_pages_partition :
    ∃ (reg : Registry) (m : ResourceMapping) (pq : PlannedQuery),
      Registry.ofDecl ⟨[Catalog.roleDecl]⟩ = .ok reg ∧ reg.get roleRequest.resource = .ok m ∧
      reg.plan {} roleRequest = .ok pq ∧ roleTable.Keyed m ∧ 0 < 2 ∧
      2 ≤ ({} : QuerySettings).maxResults ∧
      (∀ start count, ∃ res,
        (reg.query {} roleTable.executor (roleRequest.withPage start count)).run = .ok res ∧
        res.totalResults =
          ((roleTable.selected pq.count.query).map (roleTable.value m.idExpr)).dedup.length) ∧
      ∃ (results : Nat → QueryResult) (K : Nat) (ids : List String),
        (∀ k, (reg.query {} roleTable.executor
          (roleRequest.withPage ((1 + k * 2 : Nat) : Int) (some ((2 : Nat) : Int)))).run =
            .ok (results k)) ∧
        (∀ k < K, (results k).rows.length = 2) ∧ (results K).rows.length < 2 ∧
        (List.range (K + 1)).flatMap (fun k => (results k).rows.map (·.id)) =
          ids.map roleTable.out ∧
        ids.Nodup ∧
        (∀ v, v ∈ ids ↔ v ∈ (roleTable.selected pq.count.query).map (roleTable.value m.idExpr)) ∧
        ids.Pairwise fun v w =>
          roleTable.orderKey pq.rows.query.orderBy
              ((roleTable.selected pq.rows.query).filter (roleTable.value m.idExpr · = v)) <
            roleTable.orderKey pq.rows.query.orderBy
              ((roleTable.selected pq.rows.query).filter (roleTable.value m.idExpr · = w)) := by
  refine ⟨_, _, _, rfl, rfl, rfl, ?keyed, by decide, by decide,
    query_pages_partition (c := ⟨[Catalog.roleDecl]⟩) rfl {} roleRequest rfl ?keyed (by decide)
      (by decide) rfl⟩
  case keyed => exact ⟨by decide, by decide, by decide⟩

end ScimQuery
