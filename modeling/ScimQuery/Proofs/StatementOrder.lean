import ScimQuery.Result.Script
import ScimQuery.Proofs.Folding

/-! # The statements a run asks, in order

A run against a database asks its statements in a fixed order, whatever the database
answers. It asks the count first, once, and nothing else when the count fails, finds no
entity, or the page is empty or starts at or beyond the count. Otherwise it asks the row
statement once; when the rows it folds have ids, it then asks each association once, in
declaration order, for the ids of the page in the order their texts first arrived. The
first failure ends the run with a database error and nothing is asked after it; a run that
succeeds returns the count it was given.

The database here is a scripted one: it gives any count, any tuples and any failures, and it
records what it is asked. A run asks each of the count and the row statement at most once,
and the association statements one after another, so a script can give every run what any
database gives it.
-/

namespace ScimQuery

namespace Script

theorem run_bind {α β : Type} (x : ExceptT QueryError (StateM ScriptLog) α)
    (f : α → ExceptT QueryError (StateM ScriptLog) β) (log : ScriptLog) :
    (x >>= f).run.run log = match x.run.run log with
      | (.ok a, log') => (f a).run.run log'
      | (.error e, log') => (.error e, log') := by
  simp only [ExceptT.run_bind, StateT.run_bind]
  rcases x.run.run log with ⟨_ | a, log'⟩ <;> rfl

theorem call_count (s : Script) (d : Sql.Dialect) (q : Sql.Query) (log : ScriptLog) :
    (Executor.call ((s.executor d).count q)).run.run log =
      (s.count.mapError .database, { log with asked := log.asked ++ [(.count, q.bind d)] }) :=
  rfl

theorem call_rows (s : Script) (d : Sql.Dialect) (q : Sql.Query) (log : ScriptLog) :
    (Executor.call ((s.executor d).rows q)).run.run log =
      (s.rows.mapError .database, { log with asked := log.asked ++ [(.rows, q.bind d)] }) :=
  rfl

/-- An association statement takes the next answer of the script, no tuples once the list
is used up. -/
theorem call_associationRows (s : Script) (d : Sql.Dialect) (q : Sql.Query) (log : ScriptLog) :
    (Executor.call ((s.executor d).associationRows q)).run.run log =
      ((log.associationsLeft.headD (.ok [])).mapError .database,
        { asked := log.asked ++ [(.association, q.bind d)],
          associationsLeft := log.associationsLeft.tail }) := by
  rcases log with ⟨asked, _ | ⟨a, rest⟩⟩ <;> rfl

end Script

/-- The position and message of the first failure among answers. -/
def firstFailure {α : Type} : List (Except String α) → Option (Nat × String)
  | [] => none
  | .error e :: _ => some (0, e)
  | .ok _ :: rest => (firstFailure rest).map fun p => (p.1 + 1, p.2)

/-- The answers that `n` association statements get from a script's list, one each in order,
no tuples once the list is used up. -/
def associationAnswers (xs : List (Except String (List (List Sql.Value)))) :
    Nat → List (Except String (List (List Sql.Value)))
  | 0 => []
  | n + 1 => xs.headD (.ok []) :: associationAnswers xs.tail n

section Associations

variable {β : Type} {step : β → AssociationPlan → ExceptT QueryError (StateM ScriptLog) β}
  {call : AssociationPlan → StatementKind × Sql.Bound}
  {next : β → AssociationPlan → List (List Sql.Value) → β}

/-- What one association statement does to a run: it is asked, and its answer is the next
one of the script. -/
def AnswersNext (step : β → AssociationPlan → ExceptT QueryError (StateM ScriptLog) β)
    (call : AssociationPlan → StatementKind × Sql.Bound)
    (next : β → AssociationPlan → List (List Sql.Value) → β) : Prop :=
  ∀ b a log, (step b a).run.run log =
    ((log.associationsLeft.headD (.ok [])).mapError .database |>.map (next b a),
      { asked := log.asked ++ [call a], associationsLeft := log.associationsLeft.tail })

theorem foldlM_run_of_failure (hstep : AnswersNext step call next) (as : List AssociationPlan)
    (b : β) (log : ScriptLog) {i : Nat} {e : String}
    (hf : firstFailure (associationAnswers log.associationsLeft as.length) = some (i, e)) :
    (as.foldlM step b).run.run log =
      (.error (.database e),
        { asked := log.asked ++ (as.take (i + 1)).map call
          associationsLeft := log.associationsLeft.drop (i + 1) }) := by
  induction as generalizing b log i with
  | nil => simp [associationAnswers, firstFailure] at hf
  | cons a as ih =>
    rw [List.foldlM_cons, Script.run_bind, hstep]
    rw [List.length_cons, associationAnswers] at hf
    cases hhead : log.associationsLeft.headD (.ok []) with
    | error e' =>
      rw [hhead, firstFailure, Option.some.injEq, Prod.mk.injEq] at hf
      obtain ⟨rfl, rfl⟩ := hf
      simp [Except.mapError, Except.map, List.drop_one]
    | ok tuples =>
      rw [hhead, firstFailure, Option.map_eq_some_iff] at hf
      obtain ⟨⟨i', e'⟩, hf', hi⟩ := hf
      simp only [Prod.mk.injEq] at hi
      obtain ⟨rfl, rfl⟩ := hi
      simp only [Except.mapError, Except.map]
      rw [ih _ _ hf']
      simp [List.drop_tail]

theorem foldlM_run_of_no_failure (hstep : AnswersNext step call next) (as : List AssociationPlan)
    (b : β) (log : ScriptLog)
    (hf : firstFailure (associationAnswers log.associationsLeft as.length) = none) :
    ∃ b', (as.foldlM step b).run.run log =
      (.ok b',
        { asked := log.asked ++ as.map call
          associationsLeft := log.associationsLeft.drop as.length }) := by
  induction as generalizing b log with
  | nil => exact ⟨b, by simp; rfl⟩
  | cons a as ih =>
    rw [List.foldlM_cons, Script.run_bind, hstep]
    rw [List.length_cons, associationAnswers] at hf
    cases hhead : log.associationsLeft.headD (.ok []) with
    | error e' => rw [hhead, firstFailure] at hf; cases hf
    | ok tuples =>
      rw [hhead, firstFailure, Option.map_eq_none_iff] at hf
      simp only [Except.mapError, Except.map]
      obtain ⟨b', hb'⟩ := ih (next b a tuples)
        { asked := log.asked ++ [call a], associationsLeft := log.associationsLeft.tail } hf
      exact ⟨b', by rw [hb']; simp [List.drop_tail]⟩

end Associations

namespace Script

variable (s : Script) (d : Sql.Dialect) (plan : PlannedQuery)

theorem execute_of_count_error (log : ScriptLog) {e : String} (h : s.count = .error e) :
    (execute (s.executor d) plan).run.run log =
      (.error (.database e), { log with asked := log.asked ++ [(.count, plan.count.query.bind d)] }) := by
  unfold execute
  rw [run_bind, call_count, h]
  rfl

theorem execute_of_empty_page (log : ScriptLog) {total : Nat} (h : s.count = .ok total)
    (hpage : total = 0 ∨ plan.page.limit = 0 ∨ total ≤ plan.page.offset) :
    (execute (s.executor d) plan).run.run log =
      (.ok ⟨[], total⟩, { log with asked := log.asked ++ [(.count, plan.count.query.bind d)] }) := by
  have hc : (total = 0 || plan.page.limit = 0 || plan.page.offset ≥ total) = true := by
    simpa [or_assoc] using hpage
  unfold execute
  rw [run_bind, call_count, h]
  dsimp only [Except.mapError]
  rw [if_pos hc]
  rfl

theorem execute_of_rows_error (log : ScriptLog) {total : Nat} (h : s.count = .ok total)
    (hpage : ¬(total = 0 ∨ plan.page.limit = 0 ∨ total ≤ plan.page.offset)) {e : String}
    (hr : s.rows = .error e) :
    (execute (s.executor d) plan).run.run log =
      (.error (.database e), { log with asked := log.asked ++
        [(.count, plan.count.query.bind d), (.rows, plan.rows.query.bind d)] }) := by
  have hc : (total = 0 || plan.page.limit = 0 || plan.page.offset ≥ total) = false := by
    simp only [not_or, not_le] at hpage
    simp [hpage]
  unfold execute
  rw [run_bind, call_count, h]
  dsimp only [Except.mapError]
  rw [if_neg (by simp [hc]), run_bind, call_rows, hr]
  simp [Except.mapError]

theorem answersNext_association (ids : List Sql.Value) :
    AnswersNext (fun (mp : ResultMapper) (a : AssociationPlan) => do
        let tuples ← Executor.call ((s.executor d).associationRows (a.queryFor ids))
        pure (List.foldl (fun mp t => mp.pushAssociation a.name a.labels t) mp tuples))
      (fun a => (.association, (a.queryFor ids).bind d))
      (fun mp a tuples => tuples.foldl (fun mp t => mp.pushAssociation a.name a.labels t) mp) := by
  intro mp a log
  rw [run_bind, call_associationRows]
  cases log.associationsLeft.headD (.ok []) <;> rfl

section Rows

variable {s d plan} (log : ScriptLog) {total : Nat} {tuples : List (List Sql.Value)}

theorem execute_of_rows (h : s.count = .ok total)
    (hpage : ¬(total = 0 ∨ plan.page.limit = 0 ∨ total ≤ plan.page.offset))
    (hr : s.rows = .ok tuples) :
    (execute (s.executor d) plan).run.run log =
      let mapper := tuples.foldl (fun (mp : ResultMapper) t => mp.pushRow plan.labels t) {}
      (if mapper.ids.isEmpty then (pure ⟨mapper.finish, total⟩ : ExceptT _ (StateM _) _) else do
        let mapper ← plan.associations.foldlM (fun (mp : ResultMapper) (a : AssociationPlan) => do
          let tuples ← Executor.call ((s.executor d).associationRows (a.queryFor mapper.ids))
          pure (List.foldl (fun mp t => mp.pushAssociation a.name a.labels t) mp tuples)) mapper
        pure (⟨mapper.finish, total⟩ : Execution)).run.run
        { log with asked := log.asked ++
          [(.count, plan.count.query.bind d), (.rows, plan.rows.query.bind d)] } := by
  have hc : (total = 0 || plan.page.limit = 0 || plan.page.offset ≥ total) = false := by
    simp only [not_or, not_le] at hpage
    simp [hpage]
  unfold execute
  rw [run_bind, call_count, h]
  dsimp only [Except.mapError]
  rw [if_neg (by simp [hc]), run_bind, call_rows, hr]
  simp [Except.mapError]

theorem execute_of_no_ids (h : s.count = .ok total)
    (hpage : ¬(total = 0 ∨ plan.page.limit = 0 ∨ total ≤ plan.page.offset))
    (hr : s.rows = .ok tuples)
    (hids : (tuples.foldl (fun (mp : ResultMapper) t => mp.pushRow plan.labels t) {}).ids = []) :
    (execute (s.executor d) plan).run.run log =
      (.ok ⟨[], total⟩, { log with asked := log.asked ++
        [(.count, plan.count.query.bind d), (.rows, plan.rows.query.bind d)] }) := by
  have hrows : (tuples.foldl (fun (mp : ResultMapper) t => mp.pushRow plan.labels t) {}).finish
      = [] := List.map_eq_nil_iff.1 hids
  rw [execute_of_rows log h hpage hr]
  dsimp only
  rw [if_pos (by simp [hids]), hrows]
  rfl

/-- An association fails: it is the last statement asked. -/
theorem execute_of_association_failure (h : s.count = .ok total)
    (hpage : ¬(total = 0 ∨ plan.page.limit = 0 ∨ total ≤ plan.page.offset))
    (hr : s.rows = .ok tuples)
    (hids : (tuples.foldl (fun (mp : ResultMapper) t => mp.pushRow plan.labels t) {}).ids ≠ [])
    {i : Nat} {e : String}
    (hf : firstFailure (associationAnswers log.associationsLeft plan.associations.length) =
      some (i, e)) :
    (execute (s.executor d) plan).run.run log =
      (.error (.database e),
        { asked := log.asked ++ [(.count, plan.count.query.bind d), (.rows, plan.rows.query.bind d)]
            ++ (plan.associations.take (i + 1)).map fun a => (.association, (a.queryFor
              (tuples.foldl (fun (mp : ResultMapper) t => mp.pushRow plan.labels t) {}).ids).bind d)
          associationsLeft := log.associationsLeft.drop (i + 1) }) := by
  rw [execute_of_rows log h hpage hr]
  dsimp only
  rw [if_neg (by simpa using hids), run_bind,
    foldlM_run_of_failure (answersNext_association s d _) _ _
      { log with asked := log.asked ++
        [(.count, plan.count.query.bind d), (.rows, plan.rows.query.bind d)] } hf]

/-- No association fails: each is asked once, in order, and the run succeeds. -/
theorem execute_of_no_association_failure (h : s.count = .ok total)
    (hpage : ¬(total = 0 ∨ plan.page.limit = 0 ∨ total ≤ plan.page.offset))
    (hr : s.rows = .ok tuples)
    (hids : (tuples.foldl (fun (mp : ResultMapper) t => mp.pushRow plan.labels t) {}).ids ≠ [])
    (hf : firstFailure (associationAnswers log.associationsLeft plan.associations.length) = none) :
    ∃ rs, (execute (s.executor d) plan).run.run log =
      (.ok ⟨rs, total⟩,
        { asked := log.asked ++ [(.count, plan.count.query.bind d), (.rows, plan.rows.query.bind d)]
            ++ plan.associations.map fun a => (.association, (a.queryFor
              (tuples.foldl (fun (mp : ResultMapper) t => mp.pushRow plan.labels t) {}).ids).bind d)
          associationsLeft := log.associationsLeft.drop plan.associations.length }) := by
  rw [execute_of_rows log h hpage hr]
  dsimp only
  rw [if_neg (by simpa using hids), run_bind]
  obtain ⟨mp, hmp⟩ := foldlM_run_of_no_failure (answersNext_association s d _) plan.associations
    (tuples.foldl (fun (mp : ResultMapper) t => mp.pushRow plan.labels t) {})
    { log with asked := log.asked ++
      [(.count, plan.count.query.bind d), (.rows, plan.rows.query.bind d)] } hf
  rw [hmp]
  exact ⟨mp.finish, rfl⟩

end Rows

end Script

/-- The ids of a page: the first id of each text among the tuples, in order. -/
def pageIds (tuples : List (List Sql.Value)) : List Sql.Value :=
  (tuples.filterMap List.head?).eraseDupsBy ResultMapper.sameText

/-- The statements a run asks for associations, for the ids of a page. -/
def associationCalls (d : Sql.Dialect) (ids : List Sql.Value) (as : List AssociationPlan) :
    List (StatementKind × Sql.Bound) :=
  as.map fun a => (.association, (a.queryFor ids).bind d)

namespace Script

theorem run_eq (s : Script) (d : Sql.Dialect) (plan : PlannedQuery) :
    s.run d plan =
      (((execute (s.executor d) plan).run.run { associationsLeft := s.associations }).1,
        ((execute (s.executor d) plan).run.run { associationsLeft := s.associations }).2.asked) :=
  rfl

/-- Whatever a database answers, a run asks the count first, and nothing else when the count
fails, finds no entity, or the page is empty or starts at or beyond the count; then the row
statement, and nothing else when it fails or its rows have no id; then each association once,
in declaration order, for the page's ids, up to the first that fails. A failure ends the run
as a database error, and a run that succeeds returns the count it was given. -/
theorem run_statement_order (s : Script) (d : Sql.Dialect) (plan : PlannedQuery) :
    (∀ e, s.count = .error e →
      s.run d plan = (.error (.database e), [(.count, plan.count.query.bind d)])) ∧
    ∀ total, s.count = .ok total →
      ((total = 0 ∨ plan.page.limit = 0 ∨ total ≤ plan.page.offset) →
        s.run d plan = (.ok ⟨[], total⟩, [(.count, plan.count.query.bind d)])) ∧
      (¬(total = 0 ∨ plan.page.limit = 0 ∨ total ≤ plan.page.offset) →
        (∀ e, s.rows = .error e → s.run d plan = (.error (.database e),
          [(.count, plan.count.query.bind d), (.rows, plan.rows.query.bind d)])) ∧
        ∀ tuples, s.rows = .ok tuples →
          (pageIds tuples = [] → s.run d plan = (.ok ⟨[], total⟩,
            [(.count, plan.count.query.bind d), (.rows, plan.rows.query.bind d)])) ∧
          (pageIds tuples ≠ [] →
            (∀ i e, firstFailure (associationAnswers s.associations plan.associations.length) =
                some (i, e) →
              s.run d plan = (.error (.database e),
                [(.count, plan.count.query.bind d), (.rows, plan.rows.query.bind d)] ++
                  associationCalls d (pageIds tuples) (plan.associations.take (i + 1)))) ∧
            (firstFailure (associationAnswers s.associations plan.associations.length) = none →
              ∃ rows, s.run d plan = (.ok ⟨rows, total⟩,
                [(.count, plan.count.query.bind d), (.rows, plan.rows.query.bind d)] ++
                  associationCalls d (pageIds tuples) plan.associations)))) := by
  refine ⟨fun e h => ?_, fun total h => ⟨fun hpage => ?_, fun hpage => ⟨fun e hr => ?_,
    fun tuples hr => ?_⟩⟩⟩
  · rw [run_eq, execute_of_count_error s d plan _ h]
    rfl
  · rw [run_eq, execute_of_empty_page s d plan _ h hpage]
    rfl
  · rw [run_eq, execute_of_rows_error s d plan _ h hpage hr]
    rfl
  · rw [pageIds, ← ResultMapper.ids_foldl_pushRow_eq plan.labels tuples]
    refine ⟨fun hids => ?_, fun hids => ⟨fun i e hf => ?_, fun hf => ?_⟩⟩
    · rw [run_eq, execute_of_no_ids _ h hpage hr hids]
      rfl
    · rw [run_eq, execute_of_association_failure _ h hpage hr hids hf]
      rfl
    · obtain ⟨rows, hrows⟩ := execute_of_no_association_failure
        { associationsLeft := s.associations } h hpage hr hids hf
      exact ⟨rows, by rw [run_eq, hrows]; rfl⟩

end Script

end ScimQuery
