import ScimQuery.Proofs.Evaluation
import ScimQuery.Proofs.RowPositions

/-! # The ids a run returns

Folding the tuples of a row statement makes one row per id text, in the order the texts
first arrive; so when no two tuples' ids have the same text, the rows' ids are the tuples'
ids in order. Members of associations only ever change a row's collections, never its id.

Standard evaluation answers every statement, so a run against it is one pure value: the
count, and unless the page is empty or lies beyond the count, the rows that the row
statement's tuples fold into.
-/

namespace ScimQuery

namespace ResultMapper

theorem map_modifyFirst {α β : Type} (p : α → Bool) {f : α → α} {g : α → β}
    (hf : ∀ a, g (f a) = g a) (l : List α) : (modifyFirst p f l).map g = l.map g := by
  induction l with
  | nil => rfl
  | cons a l ih =>
    unfold modifyFirst
    split
    · rw [List.map_cons, List.map_cons, hf]
    · rw [List.map_cons, List.map_cons, ih]

theorem ids_pushAssociation (mp : ResultMapper) (name : String) (labels : List String)
    (values : List Sql.Value) : (mp.pushAssociation name labels values).ids = mp.ids := by
  cases values with
  | nil => rfl
  | cons id rest =>
    cases hl : mp.byId.lookup id.render with
    | none => rw [pushAssociation_of_lookup_none hl]
    | some i =>
      rw [pushAssociation_of_lookup_some hl]
      split
      · rfl
      · exact map_set_getElem! (addToCollection_id name _) _ _

theorem ids_foldl_pushAssociation (mp : ResultMapper) (name : String) (labels : List String)
    (tuples : List (List Sql.Value)) :
    (tuples.foldl (fun mp t => mp.pushAssociation name labels t) mp).ids = mp.ids := by
  induction tuples generalizing mp with
  | nil => rfl
  | cons t tuples ih => rw [List.foldl_cons, ih, ids_pushAssociation]

/-- Associations, each adding the members of its tuples, leave the ids as they are. -/
theorem ids_foldl_associations (tuples : AssociationPlan → List (List Sql.Value))
    (assocs : List AssociationPlan) (mp : ResultMapper) :
    (assocs.foldl (fun mp a => (tuples a).foldl
      (fun mp t => mp.pushAssociation a.name a.labels t) mp) mp).ids = mp.ids := by
  induction assocs generalizing mp with
  | nil => rfl
  | cons a assocs ih => rw [List.foldl_cons, ih, ids_foldl_pushAssociation]

/-- Folding tuples whose id texts are new and pairwise distinct appends one row per tuple,
with the tuple's id. -/
theorem ids_foldl_pushRow (labels : List String) (ps : List (Sql.Value × List Sql.Value))
    (mp : ResultMapper) (hm : mp.Indexed)
    (h : ((mp.ids ++ ps.map (·.1)).map Sql.Value.render).Nodup) :
    ((ps.map fun p => p.1 :: p.2).foldl (fun mp t => mp.pushRow labels t) mp).ids =
      mp.ids ++ ps.map (·.1) := by
  induction ps generalizing mp with
  | nil => simp
  | cons p ps ih =>
    have hnew : mp.rows.any (answers p.1) = false := by
      rw [List.map_append, List.nodup_append] at h
      refine List.any_eq_false.2 fun r hr hans => ?_
      have hin : r.id.render ∈ mp.ids.map Sql.Value.render :=
        List.mem_map_of_mem (List.mem_map_of_mem hr)
      exact h.2.2 _ hin _ (by simp) (beq_iff_eq.1 hans)
    have hpush : (mp.pushRow labels (p.1 :: p.2)).ids = mp.ids ++ [p.1] := by
      simp [pushRow_cons hm, hnew, ids]
    rw [List.map_cons, List.foldl_cons, ih _ (hm.pushRow labels _) (by simpa [hpush] using h),
      hpush]
    simp

end ResultMapper

namespace Standard.Database

variable {V R : Type} [LinearOrder V] (db : Database V R)

theorem executor_count (q : Sql.Query) : db.executor.count q = pure (.ok (db.countOf q)) := rfl

theorem executor_rows (q : Sql.Query) : db.executor.rows q = pure (.ok (db.rowsOf q)) := rfl

theorem executor_associationRows (q : Sql.Query) :
    db.executor.associationRows q = pure (.ok (db.rowsOf q)) := rfl

theorem call_pure {α : Type} (a : α) :
    (Executor.call (pure (Except.ok a) : Id (Except String α)) : ExceptT QueryError Id α) =
      pure a := rfl

/-- A run against standard evaluation never fails: it is the count and, unless the page is
empty or starts beyond the count, the row statement's tuples folded into rows with the
members of each association added. -/
theorem execute_eq (pq : PlannedQuery) :
    execute db.executor pq =
      let total := db.countOf pq.count.query
      let mapper := (db.rowsOf pq.rows.query).foldl (fun mp t => mp.pushRow pq.labels t)
        ({} : ResultMapper)
      pure (if total = 0 || pq.page.limit = 0 || pq.page.offset ≥ total then ⟨[], total⟩
        else if mapper.ids.isEmpty then ⟨mapper.finish, total⟩
        else ⟨(pq.associations.foldl (fun (mp : ResultMapper) a => (db.rowsOf (a.queryFor mapper.ids)).foldl
          (fun mp t => mp.pushAssociation a.name a.labels t) mp) mapper).finish, total⟩) := by
  unfold execute
  simp only [executor_count, executor_rows, executor_associationRows, call_pure, pure_bind,
    List.foldlM_pure]
  split
  · rfl
  · split <;> rfl

/-- The rows of a run are those of the row statement's tuples, none when the page is empty
or starts beyond the count. -/
theorem execute_ids (pq : PlannedQuery) :
    ∃ e : Execution, (execute db.executor pq).run = .ok e ∧ e.total = db.countOf pq.count.query ∧
      e.rows.map (·.id) =
        if db.countOf pq.count.query = 0 ∨ pq.page.limit = 0 ∨
            db.countOf pq.count.query ≤ pq.page.offset then []
        else ((db.rowsOf pq.rows.query).foldl (fun mp t => mp.pushRow pq.labels t)
          ({} : ResultMapper)).ids := by
  rw [execute_eq]
  refine ⟨_, rfl, ?_, ?_⟩
  · split <;> (try split) <;> rfl
  · by_cases hempty : db.countOf pq.count.query = 0 ∨ pq.page.limit = 0 ∨
        db.countOf pq.count.query ≤ pq.page.offset
    · have hc : (db.countOf pq.count.query = 0 || pq.page.limit = 0 ||
          pq.page.offset ≥ db.countOf pq.count.query) = true := by
        simpa [or_assoc] using hempty
      rw [if_pos hc, if_pos hempty]
      rfl
    · obtain ⟨h0, hl, ho⟩ : db.countOf pq.count.query ≠ 0 ∧ pq.page.limit ≠ 0 ∧
          ¬db.countOf pq.count.query ≤ pq.page.offset := by
        simpa only [not_or] using hempty
      have hc : (db.countOf pq.count.query = 0 || pq.page.limit = 0 ||
          pq.page.offset ≥ db.countOf pq.count.query) = false := by
        simp [h0, hl, ho]
      rw [if_neg (by simp [hc]), if_neg hempty]
      split
      · rfl
      · exact ResultMapper.ids_foldl_associations _ _ _

end Standard.Database

end ScimQuery
