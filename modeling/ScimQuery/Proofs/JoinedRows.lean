import ScimQuery.Proofs.Evaluation
import ScimQuery.Proofs.Linearize

/-! # Joined rows of placed joins

Under standard evaluation the joins of a statement bind their target aliases one after
another. When the joins are placed from the root and each introduces a new alias, a
joined row that comes out keeps the aliases no join introduces, and it follows every join:
the row at the join's target is one that the row at its source meets, or none when that
row meets none. Along joins that meet at most one row per source row this leaves no
choice, so the row at the root fixes the rows at their targets; and when every join is
such, each root row gives at most one joined row.
-/

namespace ScimQuery.Standard.Database

open JoinOrder

variable {V R : Type} [LinearOrder V] (db : Database V R)

/-- The rows of a join's target table that a row of its source meets: those whose target
column holds the source column's value, when that is not NULL. -/
def follow (j : JoinDescriptor) : Option R → List R
  | some s => (db.rows j.target.table).filter fun r =>
      decide (db.cell s j.sourceColumn ≠ db.null ∧ db.cell s j.sourceColumn = db.cell r j.targetColumn)
  | none => []

/-- A joined row follows a join: the join's target alias stands at a row that the row at its
source meets, or at none when that row meets none. -/
def FollowsJoin (τ : Joined R) (j : JoinDescriptor) : Prop :=
  (∃ r ∈ db.follow j (τ j.source.aliasName), τ j.target.aliasName = some r) ∨
    (db.follow j (τ j.source.aliasName) = [] ∧ τ j.target.aliasName = none)

/-- A joined row follows each join of a list. -/
def Follows (τ : Joined R) (js : List JoinDescriptor) : Prop :=
  ∀ j ∈ js, db.FollowsJoin τ j

variable {db}

theorem mem_rows_of_mem_follow {j : JoinDescriptor} {x : Option R} {r : R}
    (h : r ∈ db.follow j x) : r ∈ db.rows j.target.table := by
  cases x with
  | some s => exact (List.mem_filter.1 h).1
  | none => simp [follow] at h

theorem follow_eq_of_same {j k : JoinDescriptor} (h : j.same k = true) :
    db.follow j = db.follow k := by
  obtain ⟨js, jsc, jt, jtc, _, _⟩ := j
  obtain ⟨ks, ksc, kt, ktc, _, _⟩ := k
  simp only [JoinDescriptor.same_iff, JoinDescriptor.identity, Prod.mk.injEq] at h
  obtain ⟨rfl, rfl, rfl, rfl⟩ := h
  rfl

theorem FollowsJoin.of_same {τ : Joined R} {j k : JoinDescriptor} (h : db.FollowsJoin τ j)
    (hjk : j.same k = true) : db.FollowsJoin τ k := by
  unfold FollowsJoin at h ⊢
  rwa [← follow_eq_of_same hjk, ← JoinDescriptor.source_eq_of_same hjk,
    ← JoinDescriptor.target_eq_of_same hjk]

theorem FollowsJoin.target_eq {τ : Joined R} {j : JoinDescriptor} (h : db.FollowsJoin τ j)
    (hone : (db.follow j (τ j.source.aliasName)).length ≤ 1) :
    τ j.target.aliasName = (db.follow j (τ j.source.aliasName)).head? := by
  rcases h with ⟨r, hr, he⟩ | ⟨hnil, he⟩
  · rw [he]
    match hl : db.follow j (τ j.source.aliasName), hr, hone with
    | [x], hr, _ => rw [List.mem_singleton.1 hr]; rfl
    | _ :: _ :: _, _, hone => simp at hone
  · rw [he, hnil]
    rfl

/-! ### One join -/

theorem meets_toJoin {j : JoinDescriptor} (hst : j.source.aliasName ≠ j.target.aliasName)
    (τ : Joined R) :
    db.meets j.toJoin.2.1 j.toJoin.2.2 τ = db.follow j (τ j.source.aliasName) := by
  have hsrc : ∀ r, Function.update τ j.target.aliasName (some r) j.source.aliasName =
      τ j.source.aliasName := fun r => Function.update_of_ne hst _ _
  unfold meets
  cases hs : τ j.source.aliasName with
  | none =>
    simp [follow, onHolds, JoinDescriptor.toJoin, TableReference.toRef, tableName,
      TableReference.column, Sql.Expr.eq, Sql.Expr.col, value, column, hsrc, hs]
  | some s =>
    simp [follow, onHolds, JoinDescriptor.toJoin, TableReference.toRef, tableName,
      TableReference.column, Sql.Expr.eq, Sql.Expr.col, value, column, hsrc, hs]

/-- A joined row a join gives binds the target alias to a row the source row meets, or to
none when a left join meets no row. -/
theorem mem_joinStep_toJoin {j : JoinDescriptor} (hst : j.source.aliasName ≠ j.target.aliasName)
    {τ τ' : Joined R} (h : τ' ∈ db.joinStep j.toJoin.1 j.toJoin.2.1 j.toJoin.2.2 τ) :
    (∃ r ∈ db.follow j (τ j.source.aliasName), τ' = Function.update τ j.target.aliasName (some r)) ∨
      (db.follow j (τ j.source.aliasName) = [] ∧
        τ' = Function.update τ j.target.aliasName none) := by
  unfold joinStep at h
  rw [meets_toJoin hst] at h
  split at h
  · rename_i hnil _
    exact .inr ⟨hnil, List.mem_singleton.1 h⟩
  · obtain ⟨r, hr, rfl⟩ := List.mem_map.1 h
    exact .inl ⟨r, hr, rfl⟩

theorem length_joinStep_toJoin_le {j : JoinDescriptor}
    (hst : j.source.aliasName ≠ j.target.aliasName) {τ : Joined R}
    (hone : (db.follow j (τ j.source.aliasName)).length ≤ 1) :
    (db.joinStep j.toJoin.1 j.toJoin.2.1 j.toJoin.2.2 τ).length ≤ 1 := by
  unfold joinStep
  rw [meets_toJoin hst]
  split
  · rfl
  · rw [List.length_map]
    exact hone

theorem followsJoin_of_mem_joinStep {j : JoinDescriptor}
    (hst : j.source.aliasName ≠ j.target.aliasName) {τ τ' : Joined R}
    (h : τ' ∈ db.joinStep j.toJoin.1 j.toJoin.2.1 j.toJoin.2.2 τ) :
    db.FollowsJoin τ' j ∧ ∀ a ≠ j.target.aliasName, τ' a = τ a := by
  rcases mem_joinStep_toJoin hst h with ⟨r, hr, rfl⟩ | ⟨hnil, rfl⟩
  · exact ⟨.inl ⟨r, by rwa [Function.update_of_ne hst], by simp⟩,
      fun a ha => Function.update_of_ne ha _ _⟩
  · exact ⟨.inr ⟨by rwa [Function.update_of_ne hst], by simp⟩,
      fun a ha => Function.update_of_ne ha _ _⟩

theorem FollowsJoin.congr {τ τ' : Joined R} {j : JoinDescriptor} (h : db.FollowsJoin τ j)
    (hs : τ' j.source.aliasName = τ j.source.aliasName)
    (ht : τ' j.target.aliasName = τ j.target.aliasName) : db.FollowsJoin τ' j := by
  unfold FollowsJoin at h ⊢
  rwa [hs, ht]

/-- The row a joined row stands at for a followed join's target is a row of the target
table. -/
theorem FollowsJoin.mem_rows {τ : Joined R} {j : JoinDescriptor} (h : db.FollowsJoin τ j) {s : R}
    (hs : τ j.target.aliasName = some s) : s ∈ db.rows j.target.table := by
  rcases h with ⟨r, hr, he⟩ | ⟨-, he⟩
  · rw [he, Option.some.injEq] at hs
    exact hs ▸ mem_rows_of_mem_follow hr
  · simp [he] at hs

/-- A join that meets at most one row for each row of its source table meets at most one
from wherever its source alias stands. -/
theorem length_follow_le {j : JoinDescriptor} {x : Option R}
    (hone : ∀ s ∈ db.rows j.source.table, (db.follow j (some s)).length ≤ 1)
    (hx : ∀ s, x = some s → s ∈ db.rows j.source.table) : (db.follow j x).length ≤ 1 := by
  cases x with
  | none => simp [follow]
  | some s => exact hone s (hx s rfl)

/-! ### A list of joins -/

theorem joinAll_cons (x : Sql.JoinKind × Sql.TableRef × Sql.Expr)
    (js : List (Sql.JoinKind × Sql.TableRef × Sql.Expr)) (ts : List (Joined R)) :
    db.joinAll (x :: js) ts = db.joinAll js (ts.flatMap (db.joinStep x.1 x.2.1 x.2.2)) := rfl

theorem joinAll_eq_flatMap (js : List (Sql.JoinKind × Sql.TableRef × Sql.Expr))
    (ts : List (Joined R)) : db.joinAll js ts = ts.flatMap fun τ => db.joinAll js [τ] := by
  induction js generalizing ts with
  | nil => simp [joinAll]
  | cons x js ih =>
    simp only [joinAll_cons, List.flatMap_singleton]
    rw [ih, List.flatMap_assoc]
    congr 1
    funext τ
    rw [ih (db.joinStep x.1 x.2.1 x.2.2 τ)]

variable {introduced : List TableReference}

theorem source_ne_target {j : JoinDescriptor} {js : List JoinDescriptor}
    (hp : Placed introduced (j :: js)) (hf : Fresh introduced (j :: js)) :
    j.source.aliasName ≠ j.target.aliasName := fun he =>
  hf.targetsNew j List.mem_cons_self (he ▸ List.mem_map_of_mem hp.1)

/-- Joining placed joins that introduce new aliases keeps every other alias of a joined row,
and what comes out follows the joins. -/
theorem mem_joinAll {js : List JoinDescriptor} (hp : Placed introduced js)
    (hf : Fresh introduced js) {ts : List (Joined R)} {τ' : Joined R}
    (h : τ' ∈ db.joinAll (js.map (·.toJoin)) ts) :
    ∃ τ ∈ ts, (∀ a ∉ js.map (·.target.aliasName), τ' a = τ a) ∧ db.Follows τ' js := by
  induction js generalizing introduced ts with
  | nil => exact ⟨τ', h, fun _ _ => rfl, fun _ hj => by simp at hj⟩
  | cons j rest ih =>
    have hs : j.source.aliasName ∉ rest.map (·.target.aliasName) := fun hm => by
      obtain ⟨k, hk, he⟩ := List.mem_map.1 hm
      exact hf.targetsNew k (List.mem_cons_of_mem _ hk) (he ▸ List.mem_map_of_mem hp.1)
    have ht : j.target.aliasName ∉ rest.map (·.target.aliasName) := by
      have hd := hf.targetsDistinct
      rw [List.map_cons] at hd
      exact (List.nodup_cons.1 hd).1
    obtain ⟨τ1, h1, hagree, hfollow⟩ := ih hp.2 (@Fresh.place _ [] rest j hf) h
    obtain ⟨τ, hτ, hstep⟩ := List.mem_flatMap.1 h1
    obtain ⟨hj, hframe⟩ := followsJoin_of_mem_joinStep (source_ne_target hp hf) hstep
    refine ⟨τ, hτ, fun a ha => ?_, fun k hk => ?_⟩
    · simp only [List.map_cons, List.mem_cons, not_or] at ha
      rw [hagree a ha.2, hframe a ha.1]
    · rcases List.mem_cons.1 hk with rfl | hk
      · exact hj.congr (hagree _ hs) (hagree _ ht)
      · exact hfollow k hk

/-- Along placed joins that each meet at most one row per row of their source table, a
joined row has at most one joined row coming out of it. -/
theorem length_joinAll_le {js : List JoinDescriptor} (hp : Placed introduced js)
    (hf : Fresh introduced js)
    (hone : ∀ k ∈ js, ∀ s ∈ db.rows k.source.table, (db.follow k (some s)).length ≤ 1)
    {τ : Joined R} (hbound : ∀ t ∈ introduced, ∀ s, τ t.aliasName = some s → s ∈ db.rows t.table) :
    (db.joinAll (js.map (·.toJoin)) [τ]).length ≤ 1 := by
  induction js generalizing introduced τ with
  | nil => simp [joinAll]
  | cons j rest ih =>
    have hst := source_ne_target hp hf
    have hfollow := length_follow_le (hone j List.mem_cons_self) (hbound _ hp.1)
    rw [List.map_cons, joinAll_cons, List.flatMap_singleton, joinAll_eq_flatMap]
    have hstep := length_joinStep_toJoin_le hst hfollow
    match hl : db.joinStep j.toJoin.1 j.toJoin.2.1 j.toJoin.2.2 τ, hstep with
    | [], _ => simp
    | [τ1], _ =>
      rw [List.flatMap_singleton]
      refine ih hp.2 (@Fresh.place _ [] rest j hf) (fun k hk => hone k (List.mem_cons_of_mem _ hk))
        fun t ht s hs => ?_
      have hmem : τ1 ∈ db.joinStep j.toJoin.1 j.toJoin.2.1 j.toJoin.2.2 τ := by
        rw [hl]
        exact List.mem_singleton_self _
      obtain ⟨hj, hframe⟩ := followsJoin_of_mem_joinStep hst hmem
      rcases List.mem_cons.1 ht with rfl | ht
      · exact hj.mem_rows hs
      · have hne : t.aliasName ≠ j.target.aliasName := fun he =>
          hf.targetsNew j List.mem_cons_self (he ▸ List.mem_map_of_mem ht)
        rw [hframe _ hne] at hs
        exact hbound t ht s hs

/-! ### Rows fixed by the root row -/

/-- Two joined rows that follow the same joins and agree on the introduced aliases agree on
the targets of a placed chain of those joins that each meet at most one row. -/
theorem Follows.agree {τ τ' : Joined R} {js c : List JoinDescriptor} (hτ : db.Follows τ js)
    (hτ' : db.Follows τ' js) (hc : Placed introduced c)
    (hin : ∀ k ∈ c, ∃ j ∈ js, j.same k = true)
    (hone : ∀ k ∈ c, ∀ s ∈ db.rows k.source.table, (db.follow k (some s)).length ≤ 1)
    (hI : ∀ t ∈ introduced, τ t.aliasName = τ' t.aliasName ∧
      ∀ s, τ t.aliasName = some s → s ∈ db.rows t.table) :
    ∀ k ∈ c, τ k.target.aliasName = τ' k.target.aliasName := by
  induction c generalizing introduced with
  | nil => simp
  | cons k c ih =>
    obtain ⟨hsrc, hbound⟩ := hI k.source hc.1
    obtain ⟨j, hj, hjk⟩ := hin k List.mem_cons_self
    have hk := (hτ j hj).of_same hjk
    have hk' := (hτ' j hj).of_same hjk
    have hfollow := length_follow_le (hone k List.mem_cons_self) hbound
    have htarget : τ k.target.aliasName = τ' k.target.aliasName := by
      rw [hk.target_eq hfollow, hk'.target_eq (hsrc ▸ hfollow), hsrc]
    have hrest := ih hc.2 (fun k hk => hin k (List.mem_cons_of_mem _ hk))
      (fun k hk => hone k (List.mem_cons_of_mem _ hk)) fun t ht => by
        rcases List.mem_cons.1 ht with rfl | ht
        · exact ⟨htarget, fun s hs => hk.mem_rows hs⟩
        · exact hI t ht
    intro x hx
    rcases List.mem_cons.1 hx with rfl | hx
    · exact htarget
    · exact hrest x hx

end ScimQuery.Standard.Database
