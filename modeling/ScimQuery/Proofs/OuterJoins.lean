import ScimQuery.Proofs.Scoping

/-! # Joined rows along outer joins

A left join keeps a row that meets no row, so along outer joins every joined row goes on to
at least one. More than that, the choice is free: a joined row goes on to one that stands,
on the aliases of some of the joins, where any row following those joins stands. So the
statements of two plans whose joins share a placed set of joins reach, from one root row,
the same rows on the aliases of the shared joins, and a condition that reads only those
aliases is true of a joined row of one statement exactly when it is true of one of the
other.
-/

namespace ScimQuery

namespace JoinOrder

variable {introduced : List TableReference} {root : TableReference} {js : List JoinDescriptor}

/-- While the followed joins not yet introduced are all among the remaining placed joins,
a remaining join that introduces an alias of the followed joins is one of them: remaining
joins introduce distinct new aliases. -/
theorem exists_same_of_target_mem {o : JoinDescriptor} {os : List JoinDescriptor}
    (hf : Fresh introduced (o :: os)) (hroot : root ∈ introduced)
    (hcover : ∀ k ∈ js, k.target.aliasName ∉ introduced.map (·.aliasName) →
      ∃ o' ∈ o :: os, o'.same k = true)
    (hmem : o.target.aliasName ∈ aliasesOf root js) : ∃ k ∈ js, k.same o = true := by
  have hnew := hf.targetsNew o List.mem_cons_self
  rcases List.mem_cons.1 hmem with hr | htarget
  · exact absurd (hr ▸ List.mem_map_of_mem hroot) hnew
  obtain ⟨k, hk, hko⟩ := List.mem_map.1 htarget
  obtain ⟨o', ho', hsame⟩ := hcover k hk (hko ▸ hnew)
  rcases List.mem_cons.1 ho' with rfl | ho'
  · exact ⟨k, hk, by rw [JoinDescriptor.same_comm]; exact hsame⟩
  · -- a later join introducing the same alias contradicts distinct targets
    have hd := hf.targetsDistinct
    rw [List.map_cons, List.nodup_cons] at hd
    refine absurd (List.mem_map.2 ⟨o', ho', ?_⟩) hd.1
    rw [JoinDescriptor.target_eq_of_same hsame, hko]

end JoinOrder

namespace Standard

/-- The joined row that stands at a row of a table and at no other alias: where the joins of
a statement start from a row of its FROM table. -/
def Joined.single {R : Type} (t : TableReference) (r : R) : Joined R :=
  Function.update (fun _ => none) t.aliasName (some r)

namespace Database

open JoinOrder

variable {V R : Type} [LinearOrder V] {db : Database V R} {introduced : List TableReference}
  {root : TableReference} {js : List JoinDescriptor}

omit [LinearOrder V] in
theorem start_toRef (t : TableReference) :
    db.start (some t.toRef) = (db.rows t.table).map (Joined.single t) := rfl

theorem mem_joinAll_start (t : TableReference) {js : List (Sql.JoinKind × Sql.TableRef × Sql.Expr)}
    {τ : Joined R} :
    τ ∈ db.joinAll js (db.start (some t.toRef)) ↔
      ∃ r ∈ db.rows t.table, τ ∈ db.joinAll js [Joined.single t r] := by
  rw [joinAll_eq_flatMap, start_toRef, List.flatMap_map, List.mem_flatMap]

/-- A joined row that placed joins give from a row of the root table still stands at that row,
and it follows the joins. -/
theorem root_of_mem_joinAll_single {os : List JoinDescriptor} (hp : Placed [root] os)
    (hf : Fresh [root] os) {r : R} {τ : Joined R}
    (hτ : τ ∈ db.joinAll (os.map (·.toJoin)) [Joined.single root r]) :
    τ root.aliasName = some r ∧ db.Follows τ os := by
  obtain ⟨τ0, h0, hkeep, hfollow⟩ := mem_joinAll hp hf hτ
  refine ⟨?_, hfollow⟩
  rw [List.mem_singleton.1 h0] at hkeep
  rw [hkeep _ fun hmem => ?_, Joined.single, Function.update_self]
  obtain ⟨o, ho, he⟩ := List.mem_map.1 hmem
  exact hf.targetsNew o ho (by simp [he])

/-- A left join gives every row that binds the target alias to a row the source row meets,
or to none when it meets none. -/
theorem update_mem_joinStep {o : JoinDescriptor} (hst : o.source.aliasName ≠ o.target.aliasName)
    (hout : o.outer = true) {τ : Joined R} {x : Option R}
    (hx : db.FollowsJoin (Function.update τ o.target.aliasName x) o) :
    Function.update τ o.target.aliasName x ∈ db.joinStep o.toJoin.1 o.toJoin.2.1 o.toJoin.2.2 τ := by
  have hleft : o.toJoin.1 = .left := by simp [JoinDescriptor.toJoin, hout]
  unfold FollowsJoin at hx
  rw [Function.update_of_ne hst, Function.update_self] at hx
  unfold joinStep
  rw [meets_toJoin hst, hleft]
  rcases hx with ⟨r, hr, rfl⟩ | ⟨hnil, rfl⟩
  · split
    · rename_i hnil _
      simp [hnil] at hr
    · exact List.mem_map.2 ⟨r, hr, rfl⟩
  · rw [hnil]
    exact List.mem_singleton_self _

theorem exists_update_mem_joinStep {o : JoinDescriptor}
    (hst : o.source.aliasName ≠ o.target.aliasName) (hout : o.outer = true) (τ : Joined R) :
    ∃ x, Function.update τ o.target.aliasName x ∈ db.joinStep o.toJoin.1 o.toJoin.2.1 o.toJoin.2.2 τ := by
  refine ⟨(db.follow o (τ o.source.aliasName)).head?, update_mem_joinStep hst hout ?_⟩
  unfold FollowsJoin
  rw [Function.update_of_ne hst, Function.update_self]
  cases h : db.follow o (τ o.source.aliasName) with
  | nil => exact .inr ⟨rfl, rfl⟩
  | cons r rs => exact .inl ⟨r, List.mem_cons_self, rfl⟩

theorem Follows.of_same {σ : Joined R} {os : List JoinDescriptor} (h : db.Follows σ os)
    (hsub : ∀ k ∈ js, ∃ o ∈ os, o.same k = true) : db.Follows σ js := by
  intro k hk
  obtain ⟨o, ho, hok⟩ := hsub k hk
  exact (h o ho).of_same hok

/-- The step of the extension: an outer join placed after the introduced tables takes a
joined row that agrees with `σ` on the introduced aliases to one whose new alias stands where
`σ` has it, when that alias is one of the followed joins'. A followed join goes where `σ`
goes, which its source allows; any other target is left out of the followed joins by
freshness, and the outer join always has a row to give. -/
theorem exists_update_mem_joinStep_agree {o : JoinDescriptor} {os : List JoinDescriptor}
    (hp : Placed introduced (o :: os)) (hf : Fresh introduced (o :: os)) (hout : o.outer = true)
    (hroot : root ∈ introduced) (hsrc : ∀ k ∈ js, k.source.aliasName ∈ aliasesOf root js)
    {σ : Joined R} (hσ : db.Follows σ js) {τ : Joined R}
    (hagree : ∀ a ∈ aliasesOf root js, a ∈ introduced.map (·.aliasName) → τ a = σ a)
    (hcover : ∀ k ∈ js, k.target.aliasName ∉ introduced.map (·.aliasName) →
      ∃ o' ∈ o :: os, o'.same k = true) :
    ∃ x, Function.update τ o.target.aliasName x ∈
        db.joinStep o.toJoin.1 o.toJoin.2.1 o.toJoin.2.2 τ ∧
      (o.target.aliasName ∈ aliasesOf root js → x = σ o.target.aliasName) := by
  have hst := source_ne_target hp hf
  by_cases hshared : ∃ k ∈ js, k.same o = true
  · obtain ⟨k, hk, hko⟩ := hshared
    have hsrcσ : τ o.source.aliasName = σ o.source.aliasName := by
      have hin : o.source.aliasName ∈ introduced.map (·.aliasName) := List.mem_map_of_mem hp.1
      rw [← JoinDescriptor.source_eq_of_same hko] at hin ⊢
      exact hagree _ (hsrc k hk) hin
    refine ⟨σ o.target.aliasName, update_mem_joinStep hst hout ?_, fun _ => rfl⟩
    refine ((hσ k hk).of_same hko).congr ?_ (Function.update_self ..)
    rw [Function.update_of_ne hst, hsrcσ]
  · exact (exists_update_mem_joinStep hst hout τ).imp fun x hx =>
      ⟨hx, fun hmem => absurd (exists_same_of_target_mem hf hroot hcover hmem) hshared⟩

/-- Along placed outer joins that introduce new aliases, a joined row goes on to one that
agrees with a row following some of the joins on their aliases. The induction is over the
placed joins, with the invariant that the two rows agree on the aliases introduced so far
and that every followed join not yet introduced is still to come. -/
theorem exists_mem_joinAll_agree {os : List JoinDescriptor} (hp : Placed introduced os)
    (hf : Fresh introduced os) (hout : ∀ o ∈ os, o.outer = true) (hroot : root ∈ introduced)
    (hsrc : ∀ k ∈ js, k.source.aliasName ∈ aliasesOf root js) {σ : Joined R}
    (hσ : db.Follows σ js) {τ : Joined R}
    (hagree : ∀ a ∈ aliasesOf root js, a ∈ introduced.map (·.aliasName) → τ a = σ a)
    (hcover : ∀ k ∈ js, k.target.aliasName ∉ introduced.map (·.aliasName) →
      ∃ o ∈ os, o.same k = true) :
    ∃ τ' ∈ db.joinAll (os.map (·.toJoin)) [τ], ∀ a ∈ aliasesOf root js, τ' a = σ a := by
  induction os generalizing introduced τ with
  | nil =>
    refine ⟨τ, List.mem_singleton_self τ, fun a ha => hagree a ha ?_⟩
    rcases List.mem_cons.1 ha with rfl | ha
    · exact List.mem_map_of_mem hroot
    · obtain ⟨k, hk, rfl⟩ := List.mem_map.1 ha
      by_contra hnew
      obtain ⟨o, ho, -⟩ := hcover k hk hnew
      simp at ho
  | cons o os ih =>
    obtain ⟨x, hx, hxσ⟩ := exists_update_mem_joinStep_agree hp hf (hout o List.mem_cons_self)
      hroot hsrc hσ hagree hcover
    have hnext := ih hp.2 (@Fresh.place _ [] os o hf) (fun o' ho' => hout o' (List.mem_cons_of_mem _ ho'))
      (List.mem_cons_of_mem _ hroot) (τ := Function.update τ o.target.aliasName x) ?agree ?cover
    · obtain ⟨τ', hτ', hagree'⟩ := hnext
      refine ⟨τ', ?_, hagree'⟩
      rw [List.map_cons, joinAll_cons, List.flatMap_singleton, joinAll_eq_flatMap]
      exact List.mem_flatMap.2 ⟨_, hx, hτ'⟩
    case agree =>
      intro a ha hin
      by_cases hao : a = o.target.aliasName
      · subst hao
        rw [Function.update_self]
        exact hxσ ha
      · rw [Function.update_of_ne hao]
        simp only [List.map_cons, List.mem_cons] at hin
        exact hagree a ha (hin.resolve_left hao)
    case cover =>
      intro k hk hnew
      simp only [List.map_cons, List.mem_cons, not_or] at hnew
      obtain ⟨o', ho', hsame⟩ := hcover k hk hnew.2
      rcases List.mem_cons.1 ho' with rfl | ho'
      · exact absurd (JoinDescriptor.target_eq_of_same hsame ▸ rfl) hnew.1
      · exact ⟨o', ho', hsame⟩

/-- From a root row, along placed outer joins that introduce new aliases, a joined row goes
on to one that agrees, on their aliases, with any row standing at that root row and
following joins placed from the root that are among them. -/
theorem exists_mem_joinAll_root {os : List JoinDescriptor} (hp : Placed [root] os)
    (hf : Fresh [root] os) (hout : ∀ o ∈ os, o.outer = true) (hjs : Placed [root] js)
    (hsub : ∀ k ∈ js, ∃ o ∈ os, o.same k = true) {σ : Joined R} (hσ : db.Follows σ js) {r : R}
    (hr : σ root.aliasName = some r) :
    ∃ τ ∈ db.joinAll (os.map (·.toJoin)) [Joined.single root r],
      ∀ a ∈ aliasesOf root js, τ a = σ a := by
  refine exists_mem_joinAll_agree hp hf hout List.mem_cons_self (fun k hk => ?_) hσ
    (fun a _ ha => ?_) fun k hk _ => hsub k hk
  · rcases hjs.source_mem hk with hs | ⟨k', hk', he⟩
    · rw [List.mem_singleton.1 hs]
      exact root_mem_aliasesOf root js
    · rw [← he]
      exact List.mem_cons_of_mem _ (List.mem_map_of_mem hk')
  · rw [List.map_singleton, List.mem_singleton] at ha
    subst ha
    rw [Joined.single, Function.update_self, hr]

variable (db) in
theorem exists_mem_joinAll_single {os : List JoinDescriptor} (hp : Placed [root] os)
    (hf : Fresh [root] os) (hout : ∀ o ∈ os, o.outer = true) (r : R) :
    ∃ τ, τ ∈ db.joinAll (os.map (·.toJoin)) [Joined.single root r] := by
  have hnone : ∃ τ ∈ db.joinAll (os.map (·.toJoin)) [Joined.single root r],
      ∀ a ∈ aliasesOf root ([] : List JoinDescriptor), τ a = Joined.single root r a :=
    exists_mem_joinAll_root hp hf hout (by trivial) (by simp) (by simp [Follows])
      (Function.update_self ..)
  obtain ⟨τ, hτ, -⟩ := hnone
  exact ⟨τ, hτ⟩

/-- Two plans' joins that share a placed set of outer joins reach the same rows on its
aliases: a joined row of one, from a root row, has a counterpart in the other, from the
same root row, that agrees with it there. -/
theorem exists_mem_joinAll_shared {os os' : List JoinDescriptor} (hp : Placed [root] os)
    (hf : Fresh [root] os) (hp' : Placed [root] os') (hf' : Fresh [root] os')
    (hout' : ∀ o ∈ os', o.outer = true) (hjs : Placed [root] js)
    (hsub : ∀ k ∈ js, ∃ o ∈ os, o.same k = true) (hsub' : ∀ k ∈ js, ∃ o ∈ os', o.same k = true)
    {r : R} {τ : Joined R} (hτ : τ ∈ db.joinAll (os.map (·.toJoin)) [Joined.single root r]) :
    ∃ τ' ∈ db.joinAll (os'.map (·.toJoin)) [Joined.single root r],
      ∀ a ∈ aliasesOf root js, τ' a = τ a := by
  obtain ⟨hroot, hfollow⟩ := root_of_mem_joinAll_single hp hf hτ
  exact exists_mem_joinAll_root hp' hf' hout' hjs hsub' (hfollow.of_same hsub) hroot

end Database

end Standard

end ScimQuery
