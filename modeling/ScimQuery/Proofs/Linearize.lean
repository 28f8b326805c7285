import Mathlib.Data.List.Nodup
import ScimQuery.Proofs.FirstOccurrences
import ScimQuery.Join.Order

/-! # What ordering joins computes

A list of joins is placed from a root table when each join's source is the root or the
target of an earlier join, the same table under the same alias. The joins of a list can be
ordered from the root when, after erasing repeated joins, none of them introduces the root
alias again, no alias is introduced twice, and some order of them is placed.

`linearize` succeeds exactly on such lists. Its order is then placed and is the least one
by first-registration index, since each step takes the earliest join whose source alias is
introduced; a list that is already placed, with no repetition, comes back unchanged, so
ordering twice changes nothing. Every failure is an inconsistent join graph at the root.
-/

namespace ScimQuery

namespace JoinOrder

/-- Joins placed one after another from the tables `introduced`: the source of each is an
introduced table or the target of an earlier join. -/
def Placed : List TableReference → List JoinDescriptor → Prop
  | _, [] => True
  | introduced, j :: js => j.source ∈ introduced ∧ Placed (j.target :: introduced) js

instance decidablePlaced : (introduced : List TableReference) → (js : List JoinDescriptor) →
    Decidable (Placed introduced js)
  | _, [] => isTrue trivial
  | introduced, j :: js =>
    haveI := decidablePlaced (j.target :: introduced) js
    inferInstanceAs (Decidable (j.source ∈ introduced ∧ Placed (j.target :: introduced) js))

/-- Joins that can be put in order from `root`: none introduces the root alias again, no
alias is introduced twice, and some order of them is placed from the root. -/
structure Orderable (root : TableReference) (js : List JoinDescriptor) : Prop where
  avoidsRoot : ∀ j ∈ js, j.target.aliasName ≠ root.aliasName
  targetsDistinct : (js.map (·.target.aliasName)).Nodup
  placeable : ∃ order, order.Perm js ∧ Placed [root] order

/-- The first-registration index of a join in `js`: the position of the first join of
`js` that is the same join. -/
def rank (js : List JoinDescriptor) (j : JoinDescriptor) : Nat := js.findIdx (·.same j)

/-- Whether a join's source alias is introduced. -/
def ready (introduced : List TableReference) (j : JoinDescriptor) : Bool :=
  introduced.any (·.aliasName = j.source.aliasName)

section Placed

variable {introduced introduced' : List TableReference}

theorem Placed.mono {js : List JoinDescriptor} (h : Placed introduced js)
    (hsub : ∀ t ∈ introduced, t ∈ introduced') : Placed introduced' js := by
  induction js generalizing introduced introduced' with
  | nil => trivial
  | cons j js ih =>
    refine ⟨hsub _ h.1, ih h.2 fun t ht => ?_⟩
    rcases List.mem_cons.1 ht with rfl | ht
    · exact List.mem_cons_self ..
    · exact List.mem_cons_of_mem _ (hsub t ht)

/-- Taking out a join whose source is introduced, and introducing its target first, keeps
the other joins placed. -/
theorem Placed.extract {before after : List JoinDescriptor} {j : JoinDescriptor}
    (h : Placed introduced (before ++ j :: after)) (hj : j.source ∈ introduced) :
    Placed (j.target :: introduced) (before ++ after) := by
  induction before generalizing introduced with
  | nil => exact h.2
  | cons k before ih =>
    refine ⟨List.mem_cons_of_mem _ h.1, ?_⟩
    refine (ih h.2 (List.mem_cons_of_mem _ hj)).mono fun t ht => ?_
    simp only [List.mem_cons] at ht ⊢
    tauto

theorem Placed.source_mem {js : List JoinDescriptor} (h : Placed introduced js)
    {j : JoinDescriptor} (hj : j ∈ js) :
    j.source ∈ introduced ∨ ∃ k ∈ js, k.target = j.source := by
  induction js generalizing introduced with
  | nil => simp at hj
  | cons k js ih =>
    rcases List.mem_cons.1 hj with rfl | hj
    · exact .inl h.1
    · rcases ih h.2 hj with hs | ⟨k', hk', he⟩
      · rcases List.mem_cons.1 hs with he | hs
        · exact .inr ⟨k, List.mem_cons_self .., he.symm⟩
        · exact .inl hs
      · exact .inr ⟨k', List.mem_cons_of_mem _ hk', he⟩

theorem ready_of_mem {j : JoinDescriptor} (h : j.source ∈ introduced) :
    ready introduced j = true :=
  List.any_eq_true.2 ⟨j.source, h, by simp⟩

end Placed

/-- The targets checked so far pass when no join introduces the root alias, no two
introduce one alias, and none introduces an alias of the earlier joins. -/
theorem checkTargets_eq_none {root : TableReference} {js earlier : List JoinDescriptor} :
    checkTargets root js earlier = none ↔
      (∀ j ∈ js, j.target.aliasName ≠ root.aliasName) ∧ (js.map (·.target.aliasName)).Nodup ∧
        ∀ j ∈ js, ∀ e ∈ earlier, e.target.aliasName ≠ j.target.aliasName := by
  induction js generalizing earlier with
  | nil => simp [checkTargets]
  | cons j js ih =>
    unfold checkTargets
    by_cases hroot : j.target.aliasName = root.aliasName
    · simp [hroot]
    · cases hf : earlier.find? (·.target.aliasName = j.target.aliasName) with
      | some first =>
        have hfirst := List.mem_of_find?_eq_some hf
        have hsame : first.target.aliasName = j.target.aliasName := by
          simpa using List.find?_some hf
        simp only [hroot, if_false, reduceCtorEq, false_iff]
        exact fun ⟨_, _, hnew⟩ => hnew j (List.mem_cons_self ..) first hfirst hsame
      | none =>
        simp only [hroot, if_false]
        rw [List.find?_eq_none] at hf
        rw [ih]
        constructor
        · rintro ⟨hr, hn, hnew⟩
          refine ⟨fun k hk => ?_, ?_, fun k hk e he => ?_⟩
          · rcases List.mem_cons.1 hk with rfl | hk
            exacts [hroot, hr k hk]
          · refine List.nodup_cons.2 ⟨fun hmem => ?_, hn⟩
            obtain ⟨k, hk, he⟩ := List.mem_map.1 hmem
            exact hnew k hk j (List.mem_cons_self ..) he.symm
          · rcases List.mem_cons.1 hk with rfl | hk
            · simpa using hf e he
            · exact hnew k hk e (List.mem_cons_of_mem _ he)
        · rintro ⟨hr, hn, hnew⟩
          rw [List.map_cons, List.nodup_cons] at hn
          refine ⟨fun k hk => hr k (List.mem_cons_of_mem _ hk), hn.2, fun k hk e he => ?_⟩
          rcases List.mem_cons.1 he with rfl | he
          · exact fun hs => hn.1 (List.mem_map.2 ⟨k, hk, hs.symm⟩)
          · exact hnew k (List.mem_cons_of_mem _ hk) e he

section Place

variable {introduced : List TableReference}

theorem place_nil (introduced : List TableReference) (fuel : Nat) (ordered : List JoinDescriptor) :
    place introduced fuel [] ordered = .ok ordered.reverse := by
  cases fuel <;> rfl

theorem place_succ (introduced : List TableReference) (fuel : Nat) (j : JoinDescriptor)
    (rest ordered : List JoinDescriptor) :
    place introduced (fuel + 1) (j :: rest) ordered =
      match (j :: rest).find? (ready introduced) with
      | none => .error (diagnose (j :: rest))
      | some k =>
        match introduced.find? (·.aliasName = k.source.aliasName) with
        | some known =>
          if known = k.source then
            place (k.target :: introduced) fuel ((j :: rest).eraseP (ready introduced))
              (k :: ordered)
          else .error (.aliasMismatch k known)
        | none => .error (diagnose (j :: rest)) := rfl

/-- The first ready join splits the remaining joins: none before it is ready, and erasing
the first ready join leaves the others in order. -/
theorem find?_ready {remaining : List JoinDescriptor} {j : JoinDescriptor}
    (h : remaining.find? (ready introduced) = some j) :
    ∃ before after, remaining = before ++ j :: after ∧
      (∀ k ∈ before, ready introduced k = false) ∧
      remaining.eraseP (ready introduced) = before ++ after ∧ ready introduced j = true := by
  obtain ⟨hj, before, after, rfl, hbefore⟩ := List.find?_eq_some_iff_append.1 h
  have hb : ∀ k ∈ before, ready introduced k = false := fun k hk => by simpa using hbefore k hk
  refine ⟨before, after, rfl, hb, ?_, hj⟩
  rw [List.eraseP_append_right _ fun k hk => by simp [hb k hk], List.eraseP_cons_of_pos hj]

/-- A successful placement puts the remaining joins in a placed order, and that order is
the least one for every ranking under which the remaining joins increase. -/
theorem place_eq_ok {fuel : Nat} {remaining ordered out : List JoinDescriptor}
    (h : place introduced fuel remaining ordered = .ok out) :
    ∃ o, out = ordered.reverse ++ o ∧ o.Perm remaining ∧ Placed introduced o ∧
      ∀ r : JoinDescriptor → Nat, remaining.Pairwise (fun a b => r a < r b) →
        ∀ p, p.Perm remaining → Placed introduced p →
          o.map r = p.map r ∨ List.Lex (· < ·) (o.map r) (p.map r) := by
  induction fuel generalizing introduced remaining ordered with
  | zero =>
    cases remaining with
    | nil =>
      rw [place_nil] at h
      cases h
      exact ⟨[], by simp, .nil, trivial, fun r _ p hp _ => by simp [hp.eq_nil]⟩
    | cons j rest => cases h
  | succ fuel ih =>
    cases remaining with
    | nil =>
      rw [place_nil] at h
      cases h
      exact ⟨[], by simp, .nil, trivial, fun r _ p hp _ => by simp [hp.eq_nil]⟩
    | cons j₀ rest =>
      rw [place_succ] at h
      split at h
      · cases h
      rename_i j hfind
      split at h
      · rename_i known hknown
        split at h
        · rename_i hk
          obtain ⟨before, after, hsplit, hbefore, herase, -⟩ := find?_ready hfind
          rw [herase] at h
          obtain ⟨o, rfl, hperm, hplaced, hleast⟩ := ih h
          have hsrc : j.source ∈ introduced := hk ▸ List.mem_of_find?_eq_some hknown
          refine ⟨j :: o, by simp, ?_, ⟨hsrc, hplaced⟩, ?_⟩
          · rw [hsplit]
            exact (hperm.cons j).trans List.perm_middle.symm
          · intro r hr p hp hpp
            rw [hsplit] at hr hp
            obtain ⟨q, p', rfl⟩ : ∃ q p', p = q :: p' := by
              cases p with
              | nil => exact absurd hp.symm.length_eq (by simp)
              | cons q p' => exact ⟨q, p', rfl⟩
            have hq : q ∈ before ++ j :: after := hp.mem_iff.1 (List.mem_cons_self ..)
            have hqready := ready_of_mem hpp.1
            rw [List.map_cons, List.map_cons]
            by_cases hqj : q = j
            · subst hqj
              have hrest := hleast r
                (hr.sublist ((List.sublist_cons_self q after).append_left before)) p'
                (hp.trans List.perm_middle).cons_inv hpp.2
              exact hrest.imp (congrArg _) List.Lex.cons
            · right
              apply List.Lex.rel
              rcases List.mem_append.1 hq with hq | hq
              · exact absurd hqready (by simp [hbefore q hq])
              · rcases List.mem_cons.1 hq with hq | hq
                · exact absurd hq hqj
                · exact (List.pairwise_cons.1 (List.pairwise_append.1 hr).2.1).1 q hq
        · cases h
      · cases h

/-- What placing keeps true while joins remain: the introduced aliases are distinct, and
the remaining joins introduce new aliases, each a different one. -/
structure Fresh (introduced : List TableReference) (remaining : List JoinDescriptor) : Prop where
  introducedDistinct : (introduced.map (·.aliasName)).Nodup
  targetsNew : ∀ j ∈ remaining, j.target.aliasName ∉ introduced.map (·.aliasName)
  targetsDistinct : (remaining.map (·.target.aliasName)).Nodup

theorem Fresh.place {before after : List JoinDescriptor} {j : JoinDescriptor}
    (h : Fresh introduced (before ++ j :: after)) :
    Fresh (j.target :: introduced) (before ++ after) := by
  have hd : (j.target.aliasName :: (before ++ after).map (·.target.aliasName)).Nodup := by
    have hdistinct := h.targetsDistinct
    rw [List.map_append, List.map_cons, List.nodup_middle] at hdistinct
    simpa [List.map_append] using hdistinct
  obtain ⟨hjnew, hrest⟩ := List.nodup_cons.1 hd
  refine ⟨List.nodup_cons.2 ⟨h.targetsNew j (by simp), h.introducedDistinct⟩,
    fun k hk hmem => ?_, hrest⟩
  rw [List.map_cons, List.mem_cons] at hmem
  rcases hmem with he | hmem
  · exact hjnew (by rw [← he]; exact List.mem_map_of_mem hk)
  · exact h.targetsNew k
      (List.mem_append.2 ((List.mem_append.1 hk).imp id (List.mem_cons_of_mem _))) hmem

/-- Under a placed order of the remaining joins, a ready join's source is the introduced
table under its alias. -/
theorem Fresh.lookup {remaining p : List JoinDescriptor} {j : JoinDescriptor}
    (h : Fresh introduced remaining) (hp : p.Perm remaining) (hpp : Placed introduced p)
    (hj : j ∈ remaining) (hready : ready introduced j = true) :
    introduced.find? (·.aliasName = j.source.aliasName) = some j.source := by
  have hsrc : j.source ∈ introduced := by
    rcases hpp.source_mem (hp.mem_iff.2 hj) with hs | ⟨k, hk, he⟩
    · exact hs
    · obtain ⟨t, ht, hta⟩ := List.any_eq_true.1 hready
      refine absurd (List.mem_map.2 ⟨t, ht, ?_⟩) (h.targetsNew k (hp.mem_iff.1 hk))
      simpa [he] using hta
  obtain ⟨t, ht⟩ : ∃ t, introduced.find? (·.aliasName = j.source.aliasName) = some t := by
    cases hf : introduced.find? (·.aliasName = j.source.aliasName) with
    | some t => exact ⟨t, rfl⟩
    | none => exact absurd (List.find?_eq_none.1 hf j.source hsrc) (by simp)
  have htsame : t.aliasName = j.source.aliasName := by simpa using List.find?_some ht
  rw [ht, List.inj_on_of_nodup_map h.introducedDistinct (List.mem_of_find?_eq_some ht) hsrc
    htsame]

/-- While the remaining joins have a placed order, placing never gets stuck: enough fuel
places them all. -/
theorem place_complete {fuel : Nat} {remaining ordered : List JoinDescriptor}
    (h : Fresh introduced remaining) (hp : ∃ p, p.Perm remaining ∧ Placed introduced p)
    (hfuel : remaining.length ≤ fuel) :
    ∃ out, place introduced fuel remaining ordered = .ok out := by
  induction fuel generalizing introduced remaining ordered with
  | zero =>
    rw [List.length_eq_zero_iff.1 (Nat.le_zero.1 hfuel)]
    exact ⟨_, place_nil ..⟩
  | succ fuel ih =>
    cases remaining with
    | nil => exact ⟨_, place_nil ..⟩
    | cons j₀ rest =>
      obtain ⟨p, hperm, hpp⟩ := hp
      obtain ⟨q, p', rfl⟩ : ∃ q p', p = q :: p' := by
        cases p with
        | nil => exact absurd hperm.length_eq (by simp)
        | cons q p' => exact ⟨q, p', rfl⟩
      obtain ⟨j, hfind⟩ : ∃ j, (j₀ :: rest).find? (ready introduced) = some j :=
        Option.isSome_iff_exists.1 (List.find?_isSome.2
          ⟨q, hperm.mem_iff.1 (List.mem_cons_self ..), ready_of_mem hpp.1⟩)
      obtain ⟨before, after, hsplit, -, herase, hready⟩ := find?_ready hfind
      have hj : j ∈ j₀ :: rest := by rw [hsplit]; simp
      have hknown := h.lookup hperm hpp hj hready
      rw [place_succ, hfind]
      simp only [hknown, if_true]
      rw [herase]
      obtain ⟨l₁, l₂, hl⟩ := List.append_of_mem (hperm.mem_iff.2 hj)
      rw [hsplit] at h hperm hfuel
      refine ih h.place ⟨l₁ ++ l₂, ?_, ?_⟩ (by simp at hfuel ⊢; omega)
      · rw [hl] at hperm
        exact (List.perm_middle.symm.trans (hperm.trans List.perm_middle)).cons_inv
      · exact (hl ▸ hpp).extract (List.mem_of_find?_eq_some hknown)

theorem place_placed {fuel : Nat} {remaining ordered : List JoinDescriptor}
    (h : Fresh introduced remaining) (hpp : Placed introduced remaining)
    (hfuel : remaining.length ≤ fuel) :
    place introduced fuel remaining ordered = .ok (ordered.reverse ++ remaining) := by
  induction fuel generalizing introduced remaining ordered with
  | zero =>
    rw [List.length_eq_zero_iff.1 (Nat.le_zero.1 hfuel)]
    simp [place_nil]
  | succ fuel ih =>
    cases remaining with
    | nil => simp [place_nil]
    | cons j rest =>
      have hready := ready_of_mem hpp.1
      have hknown := h.lookup (List.Perm.refl _) hpp (List.mem_cons_self ..) hready
      rw [place_succ, List.find?_cons_of_pos hready]
      simp only [hknown, if_true, List.eraseP_cons_of_pos hready]
      have hnext : Fresh (j.target :: introduced) rest := @Fresh.place introduced [] rest j h
      rw [ih hnext hpp.2 (by simp at hfuel; omega)]
      simp

end Place

/-- The root alone is introduced, and joins whose targets pass the check introduce new
aliases. -/
theorem fresh_root {root : TableReference} {S : List JoinDescriptor}
    (h : checkTargets root S [] = none) : Fresh [root] S := by
  obtain ⟨hroot, hdistinct, -⟩ := checkTargets_eq_none.1 h
  exact ⟨by simp, fun j hj => by simpa using hroot j hj, hdistinct⟩

theorem orderable_iff {root : TableReference} {S : List JoinDescriptor} :
    Orderable root S ↔ checkTargets root S [] = none ∧ ∃ p, p.Perm S ∧ Placed [root] p := by
  rw [checkTargets_eq_none]
  constructor
  · rintro ⟨h₁, h₂, h₃⟩
    exact ⟨⟨h₁, h₂, by simp⟩, h₃⟩
  · rintro ⟨⟨h₁, h₂, -⟩, h₃⟩
    exact ⟨h₁, h₂, h₃⟩

theorem pairwise_rank {S : List JoinDescriptor} (h : JoinDescriptor.Distinct S) :
    S.Pairwise fun a b => rank S a < rank S b := by
  induction S with
  | nil => exact .nil
  | cons j S ih =>
    obtain ⟨hj, hS⟩ := List.pairwise_cons.1 h
    have hshift : ∀ x ∈ S, rank (j :: S) x = rank S x + 1 := fun x hx => by
      simp [rank, List.findIdx_cons, hj x hx]
    refine List.pairwise_cons.2 ⟨fun x hx => ?_, ?_⟩
    · rw [hshift x hx]
      simp [rank, List.findIdx_cons, JoinDescriptor.same_self]
    · exact List.Pairwise.imp_of_mem (fun ha hb hab => by rw [hshift _ ha, hshift _ hb]; omega)
        (ih hS)

end JoinOrder

open JoinOrder

section Linearize

variable {root : TableReference} {js : List JoinDescriptor}

theorem linearize_eq_ok {o : List JoinDescriptor} :
    linearize root js = .ok o ↔
      checkTargets root (js.eraseDupsBy JoinDescriptor.same) [] = none ∧
      place [root] (js.eraseDupsBy JoinDescriptor.same).length
        (js.eraseDupsBy JoinDescriptor.same) [] = .ok o := by
  unfold linearize
  simp only [JoinSet.joins_ofList]
  split
  · simp_all
  · split <;> simp_all

theorem linearize_eq_error {e : QueryError} (h : linearize root js = .error e) :
    ∃ problem, e = .inconsistentJoins root.aliasName problem := by
  unfold linearize at h
  simp only at h
  split at h
  · cases h
    exact ⟨_, rfl⟩
  · split at h
    · cases h
    · cases h
      exact ⟨_, rfl⟩

/-- Distinct joins that are already placed from the root, introducing neither the root
alias nor one alias twice, are ordered as they are. -/
theorem linearize_of_placed (hd : JoinDescriptor.Distinct js)
    (hroot : ∀ j ∈ js, j.target.aliasName ≠ root.aliasName)
    (hdistinct : (js.map (·.target.aliasName)).Nodup) (hp : Placed [root] js) :
    linearize root js = .ok js := by
  have hc : checkTargets root js [] = none := checkTargets_eq_none.2 ⟨hroot, hdistinct, by simp⟩
  rw [linearize_eq_ok, JoinDescriptor.eraseDupsBy_of_distinct hd]
  exact ⟨hc, place_placed (fresh_root hc) hp (Nat.le_refl _)⟩

/-- An order that `linearize` returns is one of the joins without repetition, placed from
the root, and least by first registration among all such orders. -/
theorem linearize_eq_ok_spec {o : List JoinDescriptor} (h : linearize root js = .ok o) :
    Orderable root (js.eraseDupsBy JoinDescriptor.same) ∧
      o.Perm (js.eraseDupsBy JoinDescriptor.same) ∧ Placed [root] o ∧
      ∀ p, p.Perm (js.eraseDupsBy JoinDescriptor.same) → Placed [root] p →
        o.map (rank (js.eraseDupsBy JoinDescriptor.same)) =
            p.map (rank (js.eraseDupsBy JoinDescriptor.same)) ∨
          List.Lex (· < ·) (o.map (rank (js.eraseDupsBy JoinDescriptor.same)))
            (p.map (rank (js.eraseDupsBy JoinDescriptor.same))) := by
  obtain ⟨hc, hplace⟩ := linearize_eq_ok.1 h
  obtain ⟨o', ho, hperm, hplaced, hleast⟩ := place_eq_ok hplace
  rw [List.reverse_nil, List.nil_append] at ho
  subst ho
  have hrank := pairwise_rank (JoinDescriptor.distinct_eraseDupsBy js)
  exact ⟨orderable_iff.2 ⟨hc, o, hperm, hplaced⟩, hperm, hplaced, hleast _ hrank⟩

/-- `linearize` succeeds exactly on joins whose first occurrences can be ordered. -/
theorem linearize_ok_iff_orderable :
    (∃ o, linearize root js = .ok o) ↔ Orderable root (js.eraseDupsBy JoinDescriptor.same) := by
  constructor
  · rintro ⟨o, h⟩
    exact (linearize_eq_ok_spec h).1
  · intro h
    obtain ⟨hc, hp⟩ := orderable_iff.1 h
    obtain ⟨o, ho⟩ := @place_complete [root] _ _ [] (fresh_root hc) hp (Nat.le_refl _)
    exact ⟨o, linearize_eq_ok.2 ⟨hc, ho⟩⟩

/-- An order that `linearize` returns is returned again. -/
theorem linearize_idem {o : List JoinDescriptor} (h : linearize root js = .ok o) :
    linearize root o = .ok o := by
  obtain ⟨⟨hroot, hdistinct, -⟩, hperm, hplaced, -⟩ := linearize_eq_ok_spec h
  have hmem : ∀ j ∈ o, j ∈ js.eraseDupsBy JoinDescriptor.same := fun j hj => hperm.subset hj
  refine linearize_of_placed ((JoinDescriptor.distinct_eraseDupsBy js).perm hperm.symm)
    (fun j hj => hroot j (hmem j hj)) ?_ hplaced
  exact (hperm.map _).nodup_iff.2 hdistinct

end Linearize

/-- The specification of `linearize`. Write `S` for the joins without repetition by
identity, each at its first occurrence. The joins can be ordered exactly when no join of `S`
introduces the root alias, no two introduce the same alias, and some order of `S` places
every join after the table it starts from. Then `linearize` returns such an order, the least
one by first-registration index; it returns that order again, and it returns unchanged
every such order without repetition. Otherwise it fails with an inconsistent join graph
rooted at the root alias. -/
theorem linearize_spec (root : TableReference) (js : List JoinDescriptor) :
    let S := js.eraseDupsBy JoinDescriptor.same
    ((∃ o, linearize root js = .ok o) ↔ Orderable root S) ∧
    (∀ o, linearize root js = .ok o →
      o.Perm S ∧ Placed [root] o ∧
      (∀ p, p.Perm S → Placed [root] p →
        o.map (rank S) = p.map (rank S) ∨ List.Lex (· < ·) (o.map (rank S)) (p.map (rank S))) ∧
      linearize root o = .ok o) ∧
    (JoinDescriptor.Distinct js → (∀ j ∈ js, j.target.aliasName ≠ root.aliasName) →
      (js.map (·.target.aliasName)).Nodup → Placed [root] js → linearize root js = .ok js) ∧
    (∀ e, linearize root js = .error e → ∃ problem, e = .inconsistentJoins root.aliasName problem) := by
  intro S
  refine ⟨linearize_ok_iff_orderable, fun o h => ?_, linearize_of_placed,
    fun e h => linearize_eq_error h⟩
  obtain ⟨-, hperm, hplaced, hleast⟩ := linearize_eq_ok_spec h
  exact ⟨hperm, hplaced, hleast, linearize_idem h⟩

end ScimQuery
