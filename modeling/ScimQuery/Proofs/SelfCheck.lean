import Mathlib.Data.List.Perm.Basic
import ScimQuery.Catalog.Builtin
import ScimQuery.Proofs.Linearize
import ScimQuery.Proofs.Stages

/-! # What the self-check guarantees

The self-check of a mapping orders each attribute's join chain and all of them together,
and each association's joins. A request orders other sets of joins: the union of the
chains of the attributes its filter, its sort key and its projection name, and for each
negation over joins that may repeat a row, the chains of the attributes under it. Each of
these is a union of whole chains, and a union of whole chains inherits an order from the
order of all chains: keep the joins it holds, in the same order. So every ordering a
request needs succeeds, and a request against a checked registry fails only for what the
client sent: an unknown resource type, an unknown attribute or an invalid filter value.
-/

namespace ScimQuery

namespace JoinDescriptor

theorem Distinct.eq_of_same {js : List JoinDescriptor} (h : Distinct js) {a b : JoinDescriptor}
    (ha : a ∈ js) (hb : b ∈ js) (hab : a.same b = true) : a = b := by
  induction js with
  | nil => simp at ha
  | cons j js ih =>
    obtain ⟨hj, hjs⟩ := List.pairwise_cons.1 h
    rcases List.mem_cons.1 ha with rfl | hat
    · rcases List.mem_cons.1 hb with rfl | hbt
      · rfl
      · simp [hj b hbt] at hab
    · rcases List.mem_cons.1 hb with rfl | hbt
      · rw [same_comm] at hab
        simp [hj a hat] at hab
      · exact ih hjs hat hbt

theorem Distinct.nodup {js : List JoinDescriptor} (h : Distinct js) : js.Nodup :=
  h.imp fun hab heq => by simp [heq, same_self] at hab

end JoinDescriptor

namespace JoinOrder

section Restrict

variable {introduced : List TableReference}

theorem Placed.erase_introduced {t : TableReference} {js : List JoinDescriptor}
    (h : Placed (t :: introduced) js) (ht : ∀ j ∈ js, j.source = t → j.source ∈ introduced) :
    Placed introduced js := by
  induction js generalizing introduced with
  | nil => trivial
  | cons j js ih =>
    obtain ⟨hj, hrest⟩ := h
    refine ⟨?_, ih (hrest.mono fun u hu => ?_) fun k hk hkt => ?_⟩
    · rcases List.mem_cons.1 hj with hjt | hj
      · exact ht j List.mem_cons_self hjt
      · exact hj
    · simp only [List.mem_cons] at hu ⊢
      tauto
    · exact List.mem_cons_of_mem _ (ht k (List.mem_cons_of_mem _ hk) hkt)

/-- The joins of a placed order that a predicate keeps are placed in the same order, when
targets are distinct and the source of each kept join is introduced or the target of a
kept join. -/
theorem Placed.filter {p : JoinDescriptor → Bool} {js : List JoinDescriptor}
    (h : Placed introduced js) (hd : (js.map (·.target)).Nodup)
    (hc : ∀ j ∈ js, p j = true → j.source ∈ introduced ∨ ∃ k ∈ js, p k = true ∧ k.target = j.source) :
    Placed introduced (js.filter p) := by
  induction js generalizing introduced with
  | nil => trivial
  | cons j js ih =>
    obtain ⟨hj, hrest⟩ := h
    obtain ⟨hjnew, hd⟩ := List.nodup_cons.1 hd
    have hnext : Placed (j.target :: introduced) (js.filter p) := by
      refine ih hrest hd fun k hk hpk => ?_
      rcases hc k (List.mem_cons_of_mem _ hk) hpk with hs | ⟨i, hi, hpi, hit⟩
      · exact .inl (List.mem_cons_of_mem _ hs)
      · rcases List.mem_cons.1 hi with rfl | hi
        · exact .inl (hit ▸ List.mem_cons_self)
        · exact .inr ⟨i, hi, hpi, hit⟩
    by_cases hpj : p j = true
    · rw [List.filter_cons_of_pos hpj]
      exact ⟨hj, hnext⟩
    · rw [List.filter_cons_of_neg hpj]
      -- a kept join whose source is `j`'s target has it introduced otherwise, since `j`
      -- is dropped and no other join has its target
      refine hnext.erase_introduced fun k hk hkt => ?_
      obtain ⟨hk, hpk⟩ := List.mem_filter.1 hk
      rcases hc k (List.mem_cons_of_mem _ hk) hpk with hs | ⟨i, hi, hpi, hit⟩
      · exact hs
      · rcases List.mem_cons.1 hi with rfl | hi
        · exact absurd hpi hpj
        · refine absurd ?_ hjnew
          simp only [List.mem_map]
          exact ⟨i, hi, hit.trans hkt⟩

theorem Placed.map {f : JoinDescriptor → JoinDescriptor} {js : List JoinDescriptor}
    (h : Placed introduced js)
    (hf : ∀ j ∈ js, (f j).source = j.source ∧ (f j).target = j.target) :
    Placed introduced (js.map f) := by
  induction js generalizing introduced with
  | nil => trivial
  | cons j js ih =>
    obtain ⟨hs, ht⟩ := hf j List.mem_cons_self
    refine ⟨hs ▸ h.1, ?_⟩
    rw [ht]
    exact ih h.2 fun k hk => hf k (List.mem_cons_of_mem _ hk)

theorem Placed.of_sameChain {js ks : List JoinDescriptor} (h : Placed introduced js)
    (hs : ResourceMapping.sameChain js ks = true) : Placed introduced ks := by
  induction js generalizing ks introduced with
  | nil =>
    cases ks with
    | nil => trivial
    | cons k ks => simp [ResourceMapping.sameChain] at hs
  | cons j js ih =>
    cases ks with
    | nil => simp [ResourceMapping.sameChain] at hs
    | cons k ks =>
      simp only [ResourceMapping.sameChain, Bool.and_eq_true] at hs
      obtain ⟨hjk, hs⟩ := hs
      refine ⟨JoinDescriptor.source_eq_of_same hjk ▸ h.1, ?_⟩
      rw [← JoinDescriptor.target_eq_of_same hjk]
      exact ih h.2 hs

end Restrict

/-- The representative of a join in `js`: the first join of `js` that is the same join. -/
def representative (js : List JoinDescriptor) (u : JoinDescriptor) : JoinDescriptor :=
  (js.find? (·.same u)).getD u

theorem representative_eq {js : List JoinDescriptor} (hd : JoinDescriptor.Distinct js)
    {j u : JoinDescriptor} (hj : j ∈ js) (hju : j.same u = true) : representative js u = j := by
  obtain ⟨k, hk⟩ : ∃ k, js.find? (·.same u) = some k := by
    cases hf : js.find? (·.same u) with
    | some k => exact ⟨k, rfl⟩
    | none => exact absurd (List.find?_eq_none.1 hf j hj) (by simp [hju])
  have hkj : k.same j = true := by
    have hku : k.same u = true := by simpa using List.find?_some hk
    exact JoinDescriptor.same_trans hku (by rwa [JoinDescriptor.same_comm])
  rw [representative, hk, Option.getD_some]
  exact hd.eq_of_same (List.mem_of_find?_eq_some hk) hj hkj

/-- Joins that are each the same as a join of an orderable set, and each start at the root
or at the target of one of them, can be ordered too: in the order of the larger set. -/
theorem Orderable.restrict {root : TableReference} {all js : List JoinDescriptor}
    (hall : Orderable root all) (hallDistinct : JoinDescriptor.Distinct all)
    (hd : JoinDescriptor.Distinct js) (hrep : ∀ j ∈ js, ∃ u ∈ all, u.same j = true)
    (hclosed : ∀ j ∈ js, j.source = root ∨ ∃ k ∈ js, k.target = j.source) :
    Orderable root js := by
  have halias : ∀ j ∈ js, ∃ u ∈ all, u.target.aliasName = j.target.aliasName := fun j hj => by
    obtain ⟨u, hu, huj⟩ := hrep j hj
    exact ⟨u, hu, by rw [JoinDescriptor.target_eq_of_same huj]⟩
  obtain ⟨order, hperm, hplaced⟩ := hall.placeable
  let held : JoinDescriptor → Bool := fun u => js.any (·.same u)
  have hheld : ∀ {u}, held u = true → representative js u ∈ js ∧ (representative js u).same u := by
    intro u hu
    obtain ⟨j, hj, hju⟩ := List.any_eq_true.1 hu
    rw [representative_eq hd hj hju]
    exact ⟨hj, hju⟩
  refine ⟨fun j hj => ?_, ?_, (order.filter held).map (representative js), ?_, ?_⟩
  · obtain ⟨u, hu, he⟩ := halias j hj
    exact he ▸ hall.avoidsRoot u hu
  · refine List.pairwise_map.2 (hd.imp_of_mem fun ha hb hab he => ?_)
    obtain ⟨u, hu, hua⟩ := hrep _ ha
    obtain ⟨v, hv, hvb⟩ := hrep _ hb
    have huv : u = v := List.inj_on_of_nodup_map hall.targetsDistinct hu hv
      (by rw [JoinDescriptor.target_eq_of_same hua, JoinDescriptor.target_eq_of_same hvb, he])
    subst huv
    rw [JoinDescriptor.same_comm] at hua
    simp [JoinDescriptor.same_trans hua hvb] at hab
  · have hallNodup : (order.filter held).Nodup := (hperm.nodup_iff.2 hallDistinct.nodup).filter _
    refine (List.perm_ext_iff_of_nodup ?_ hd.nodup).2 fun j => ⟨fun hj => ?_, fun hj => ?_⟩
    · refine hallNodup.map_on fun u hu v hv huv => ?_
      obtain ⟨-, hru⟩ := hheld (List.mem_filter.1 hu).2
      obtain ⟨-, hrv⟩ := hheld (List.mem_filter.1 hv).2
      rw [huv, JoinDescriptor.same_comm] at hru
      exact hallDistinct.eq_of_same (hperm.subset (List.mem_filter.1 hu).1)
        (hperm.subset (List.mem_filter.1 hv).1) (JoinDescriptor.same_trans hru hrv)
    · obtain ⟨u, hu, rfl⟩ := List.mem_map.1 hj
      exact (hheld (List.mem_filter.1 hu).2).1
    · obtain ⟨u, hu, huj⟩ := hrep j hj
      have hju : j.same u = true := by rwa [JoinDescriptor.same_comm]
      refine List.mem_map.2 ⟨u, List.mem_filter.2 ⟨hperm.symm.subset hu, ?_⟩,
        representative_eq hd hj hju⟩
      exact List.any_eq_true.2 ⟨j, hj, hju⟩
  · refine Placed.map (Placed.filter hplaced ?_ fun u _ hheldu => ?_) fun u hu => ?_
    · have h := (hperm.map (·.target.aliasName)).nodup_iff.2 hall.targetsDistinct
      have h' : ((order.map (·.target)).map (·.aliasName)).Nodup := by
        rw [List.map_map]
        exact h
      exact h'.of_map _
    · obtain ⟨hjs, hsame⟩ := hheld hheldu
      rw [← JoinDescriptor.source_eq_of_same hsame]
      rcases hclosed _ hjs with hroot | ⟨k, hk, hkt⟩
      · exact .inl (by simp [hroot])
      · obtain ⟨v, hv, hvk⟩ := hrep k hk
        refine .inr ⟨v, hperm.symm.subset hv, ?_, by rw [JoinDescriptor.target_eq_of_same hvk, hkt]⟩
        exact List.any_eq_true.2 ⟨k, hk, by rwa [JoinDescriptor.same_comm]⟩
    · obtain ⟨-, hsame⟩ := hheld (List.mem_filter.1 hu).2
      exact ⟨JoinDescriptor.source_eq_of_same hsame, JoinDescriptor.target_eq_of_same hsame⟩

end JoinOrder

open JoinOrder

namespace ResourceMapping

/-- A join set made of whole chains of the mapping's attributes: its joins are distinct, and
each is a join of the chain of an attribute whose joins the set all holds. -/
structure WholeChains (m : ResourceMapping) (s : JoinSet) : Prop where
  distinct : JoinDescriptor.Distinct s.joins
  whole : ∀ j ∈ s.joins, ∃ a ∈ m.attributes, j ∈ a.requiredJoins ∧
    ∀ k ∈ a.requiredJoins, s.contains k = true

/-- What the self-check establishes of a mapping: each attribute's chain is placed from the
root and reaches the attribute's table, all chains together can be ordered, and so can each
association's joins. -/
structure Consistent (m : ResourceMapping) : Prop where
  chainPlaced : ∀ a ∈ m.attributes, Placed [m.root] a.requiredJoins
  reachable : ∀ a ∈ m.attributes, a.table = m.root ∨ ∃ k ∈ a.requiredJoins, k.target = a.table
  union : ∃ all, JoinDescriptor.Distinct all ∧ Orderable m.root all ∧
    ∀ a ∈ m.attributes, ∀ k ∈ a.requiredJoins, ∃ u ∈ all, u.same k = true
  associationsOrdered : ∀ assoc ∈ m.associations, ∃ o, linearize m.root assoc.joins = .ok o

variable {m : ResourceMapping}

namespace WholeChains

theorem empty : WholeChains m {} := ⟨List.Pairwise.nil, by simp⟩

/-- Extending a set of whole chains by joins that are each in a chain the joins all hold
gives a set of whole chains. -/
theorem extend {s : JoinSet} {js : List JoinDescriptor} (h : WholeChains m s)
    (hjs : ∀ j ∈ js, ∃ a ∈ m.attributes, j ∈ a.requiredJoins ∧
      ∀ k ∈ a.requiredJoins, js.any (·.same k) = true) :
    WholeChains m (s.extend js) := by
  refine ⟨JoinSet.distinct_extend h.distinct js, fun j hj => ?_⟩
  rcases JoinSet.mem_extend hj with hj | hj
  · obtain ⟨a, ha, hja, hall⟩ := h.whole j hj
    exact ⟨a, ha, hja, fun k hk => by simp [JoinSet.contains_extend, hall k hk]⟩
  · obtain ⟨a, ha, hja, hall⟩ := hjs j hj
    exact ⟨a, ha, hja, fun k hk => by simp [JoinSet.contains_extend, hall k hk]⟩

theorem extend_chain {s : JoinSet} {a : AttributeLocation} (h : WholeChains m s)
    (ha : a ∈ m.attributes) : WholeChains m (s.extend a.requiredJoins) :=
  h.extend fun _ hj => ⟨a, ha, hj, fun k hk =>
    List.any_eq_true.2 ⟨k, hk, JoinDescriptor.same_self k⟩⟩

theorem union {s t : JoinSet} (hs : WholeChains m s) (ht : WholeChains m t) :
    WholeChains m (s.union t) :=
  hs.extend fun j hj => by simpa only [← JoinSet.contains_eq_any] using ht.whole j hj

theorem foldl_extend {s : JoinSet} {as : List AttributeLocation} (h : WholeChains m s)
    (has : ∀ a ∈ as, a ∈ m.attributes) :
    WholeChains m (as.foldl (fun js a => js.extend a.requiredJoins) s) := by
  induction as generalizing s with
  | nil => exact h
  | cons a as ih =>
    exact ih (h.extend_chain (has a List.mem_cons_self)) fun b hb =>
      has b (List.mem_cons_of_mem _ hb)

/-- A set of whole chains of a consistent mapping can be ordered: each of its joins is the
same as a join of all chains, and starts at the root or at the target of an earlier join of
its own chain, which the set holds. -/
theorem orderable {s : JoinSet} (hm : Consistent m) (h : WholeChains m s) :
    Orderable m.root s.joins := by
  obtain ⟨all, hd, ho, hrep⟩ := hm.union
  refine Orderable.restrict ho hd h.distinct (fun j hj => ?_) fun j hj => ?_
  · obtain ⟨a, ha, hja, -⟩ := h.whole j hj
    exact hrep a ha j hja
  · obtain ⟨a, ha, hja, hall⟩ := h.whole j hj
    rcases (hm.chainPlaced a ha).source_mem hja with hroot | ⟨k, hk, hkt⟩
    · exact .inl (List.mem_singleton.1 hroot)
    · obtain ⟨i, hi, hik⟩ := (JoinSet.contains_iff s k).1 (hall k hk)
      exact .inr ⟨i, hi, (JoinDescriptor.target_eq_of_same hik).trans hkt⟩

theorem linearize_ok {s : JoinSet} (hm : Consistent m) (h : WholeChains m s) :
    ∃ o, linearize m.root s.joins = .ok o := by
  apply linearize_ok_iff_orderable.2
  rw [JoinDescriptor.eraseDupsBy_of_distinct h.distinct]
  exact h.orderable hm

end WholeChains

theorem exists_same_of_sameChain {js ks : List JoinDescriptor} (h : sameChain js ks = true) :
    ∀ k ∈ ks, ∃ j ∈ js, j.same k = true := by
  induction js generalizing ks with
  | nil =>
    cases ks with
    | nil => simp
    | cons k ks => simp [sameChain] at h
  | cons j js ih =>
    cases ks with
    | nil => simp [sameChain] at h
    | cons k ks =>
      simp only [sameChain, Bool.and_eq_true] at h
      intro x hx
      rcases List.mem_cons.1 hx with rfl | hx
      · exact ⟨j, List.mem_cons_self, h.1⟩
      · obtain ⟨i, hi, hix⟩ := ih h.2 x hx
        exact ⟨i, List.mem_cons_of_mem _ hi, hix⟩

theorem sameChain_comm (js ks : List JoinDescriptor) : sameChain js ks = sameChain ks js := by
  induction js generalizing ks with
  | nil => cases ks <;> rfl
  | cons j js ih =>
    cases ks with
    | nil => rfl
    | cons k ks => simp only [sameChain, ih, JoinDescriptor.same_comm]

theorem checkReachable_ok {t : TableReference} {js : List JoinDescriptor} {what : String}
    {u : Unit} (h : m.checkReachable t js what = .ok u) : t = m.root ∨ ∃ k ∈ js, k.target = t := by
  unfold checkReachable at h
  split at h
  · rename_i hc
    simpa using hc
  · cases h

/-- A mapping that passes its self-check is consistent. -/
theorem consistent_of_selfCheck (h : m.selfCheck = .ok ()) : Consistent m := by
  unfold selfCheck at h
  simp only [bind_eq_ok] at h
  obtain ⟨all, hfold, ⟨ordered, hall, hassoc⟩⟩ := h
  -- each step of the fold orders one chain, finds it in order, and adds it to `all`
  obtain ⟨-, hchains⟩ := foldlM_eq_ok_forall
    (R := fun (s t : JoinSet) => ∀ k, s.contains k = true → t.contains k = true)
    (S := fun a (t : JoinSet) => ∃ ordered, linearize m.root a.requiredJoins = .ok ordered ∧
      sameChain ordered a.requiredJoins = true ∧
      (a.table = m.root ∨ ∃ k ∈ ordered, k.target = a.table) ∧ ∀ k ∈ ordered, t.contains k = true)
    (fun _ _ h => h) (fun hbc hcd k hk => hcd k (hbc k hk))
    (fun s a t hstep => by
      simp only [bind_eq_ok] at hstep
      obtain ⟨ordered, hord, hstep⟩ := hstep
      split at hstep
      · obtain ⟨_, hthrow, -⟩ := bind_eq_ok.1 hstep
        cases hthrow
      · rename_i hsame
        simp only [bind_eq_ok, pure_eq_ok] at hstep
        obtain ⟨_, hreach, rfl⟩ := hstep
        refine ⟨fun k hk => by simp [JoinSet.contains_extend, hk], ordered, hord,
          by simpa using hsame, checkReachable_ok hreach, fun k hk => ?_⟩
        simp only [JoinSet.contains_extend, Bool.or_eq_true]
        exact .inr (List.any_eq_true.2 ⟨k, hk, JoinDescriptor.same_self k⟩))
    (fun hchain hst => by
      obtain ⟨ordered, hord, hsame, hreach, hin⟩ := hchain
      exact ⟨ordered, hord, hsame, hreach, fun k hk => hst k (hin k hk)⟩)
    hfold
  refine ⟨fun a ha => ?_, fun a ha => ?_, ⟨all.joins.eraseDupsBy JoinDescriptor.same,
    JoinDescriptor.distinct_eraseDupsBy _, linearize_ok_iff_orderable.1 ⟨_, hall⟩,
    fun a ha k hk => ?_⟩, fun assoc hmem => ?_⟩
  · obtain ⟨ordered, hord, hsame, -⟩ := hchains a ha
    exact (linearize_eq_ok_spec hord).2.2.1.of_sameChain hsame
  · obtain ⟨ordered, -, hsame, hreach, -⟩ := hchains a ha
    rcases hreach with hroot | ⟨k, hk, hkt⟩
    · exact .inl hroot
    · rw [sameChain_comm] at hsame
      obtain ⟨j, hj, hjk⟩ := exists_same_of_sameChain hsame k hk
      exact .inr ⟨j, hj, (JoinDescriptor.target_eq_of_same hjk).trans hkt⟩
  · obtain ⟨ordered, -, hsame, -, hin⟩ := hchains a ha
    obtain ⟨j, hj, hjk⟩ := exists_same_of_sameChain hsame k hk
    obtain ⟨i, hi, hij⟩ := (JoinSet.contains_iff all j).1 (hin j hj)
    obtain ⟨u, hu, hui⟩ := JoinDescriptor.exists_same_mem_eraseDupsBy hi
    exact ⟨u, hu, JoinDescriptor.same_trans hui (JoinDescriptor.same_trans hij hjk)⟩
  · have h := forM_eq_ok hassoc assoc hmem
    simp only [bind_eq_ok] at h
    obtain ⟨o, ho, -⟩ := h
    exact ⟨o, ho⟩

/-! ### Looking up attributes -/

theorem resolve_mem {schema parent : Option String} {name : String} {a : AttributeLocation}
    (h : m.resolve schema parent name = .ok a) : a ∈ m.attributes := by
  unfold resolve at h
  simp only at h
  split at h
  · rename_i found hfound
    cases h
    cases schema with
    | some s => exact m.positions.getElem!_mem hfound
    | none =>
      obtain ⟨s, -, hs⟩ := List.exists_of_findSome?_eq_some hfound
      exact m.positions.getElem!_mem hs
  · cases h

theorem resolve_error {schema parent : Option String} {name : String} {e : QueryError}
    (h : m.resolve schema parent name = .error e) : e.errorClass = .clientInput := by
  unfold resolve at h
  simp only at h
  split at h
  · cases h
  · cases h
    rfl

theorem childrenOf_mem {schemas : List String} {name : String} {children : List AttributeLocation}
    (h : m.childrenOf schemas name = some children) : ∀ c ∈ children, c ∈ m.attributes := by
  obtain ⟨s, -, hs⟩ := List.exists_of_findSome?_eq_some h
  split at hs
  · cases hs
  · cases hs
    intro c hc
    exact (List.mem_filter.1 hc).1

theorem resolvePath_attribute {p : AttributePath} {a : AttributeLocation}
    (h : m.resolvePath p = .ok (.attribute a)) : a ∈ m.attributes := by
  unfold resolvePath at h
  split at h
  · rename_i a' ha'
    cases h
    exact resolve_mem ha'
  · split at h
    · cases h
    · split at h <;> cases h

theorem resolvePath_complex {p : AttributePath} {name : String} {children : List AttributeLocation}
    (h : m.resolvePath p = .ok (.complex name children)) : ∀ c ∈ children, c ∈ m.attributes := by
  unfold resolvePath at h
  split at h
  · cases h
  · split at h
    · cases h
    · split at h
      · rename_i found hfound
        cases h
        exact childrenOf_mem hfound
      · cases h

theorem resolvePath_error {p : AttributePath} {e : QueryError} (h : m.resolvePath p = .error e) :
    e.errorClass = .clientInput := by
  unfold resolvePath at h
  split at h
  · cases h
  · rename_i e' he'
    split at h
    · cases h
      exact resolve_error he'
    · split at h
      · cases h
      · cases h
        exact resolve_error he'

end ResourceMapping

theorem valueChild_mem {children : List AttributeLocation} {a : AttributeLocation}
    (h : valueChild children = some a) : a ∈ children :=
  List.mem_of_find?_eq_some h

namespace SortKey

variable {m : ResourceMapping} {sortBy : String} {order : SortOrder}

theorem resolve_mem {k : SortKey} (h : resolve m sortBy order = .ok k) :
    k.location ∈ m.attributes := by
  simp only [resolve, bind_eq_ok] at h
  obtain ⟨path, -, resolved, hr, h⟩ := h
  rcases resolved with a | ⟨name, children⟩
  · cases h
    exact ResourceMapping.resolvePath_attribute hr
  · simp only at h
    split at h
    · rename_i a ha
      cases h
      exact ResourceMapping.resolvePath_complex hr a (valueChild_mem ha)
    · cases h

/-- The key that a request's sort attribute, if it has one, resolves to is an attribute of
the resource. -/
theorem mapM_resolve_mem {name : Option String} {sort : Option SortKey}
    (h : name.mapM (resolve m · order) = .ok sort) {k : SortKey} (hk : sort = some k) :
    k.location ∈ m.attributes := by
  cases name with
  | none => simp [Option.mapM_none, pure_eq_ok, hk] at h
  | some s =>
    rw [Option.mapM_some, map_eq_ok] at h
    obtain ⟨k', hk', hkk⟩ := h
    rw [hk, Option.some_inj] at hkk
    exact hkk ▸ resolve_mem hk'

theorem resolve_error {e : QueryError} (h : resolve m sortBy order = .error e) :
    e.errorClass = .clientInput := by
  simp only [resolve, bind_eq_error] at h
  rcases h with h | ⟨path, -, h | ⟨resolved, -, h⟩⟩
  · unfold AttributePath.parse at h
    split at h
    · cases h
    · cases h
      rfl
  · exact ResourceMapping.resolvePath_error h
  · rcases resolved with a | ⟨name, children⟩
    · cases h
    · simp only at h
      split at h
      · cases h
      · cases h
        rfl

end SortKey

namespace Compile

open ResourceMapping

variable {m : ResourceMapping}

section Values

variable {a : AttributeLocation} {path : String} {op : CompareOp} {value : FilterValue}
  {e : QueryError}

theorem checkOperator_error (h : checkOperator a path op value = .error e) :
    e.errorClass = .clientInput := by
  unfold checkOperator at h
  split at h
  · cases h
  · cases h
    rfl

theorem coerce_error {e : QueryError} (h : coerce a path value = .error e) :
    e.errorClass = .clientInput := by
  unfold coerce at h
  cases hc : coerceValue a.kind value <;> simp [hc, Except.mapError] at h
  subst h
  rfl

/-- A comparison with a literal fails only on the literal: null with an order or a
pattern, an operator that does not suit the type, or a literal of another type. -/
theorem compare_error (h : compare a path op value = .error e) : e.errorClass = .clientInput := by
  unfold compare at h
  split at h
  · cases h
  cases value
  case null =>
    cases op <;> simp [throw, throwThe, MonadExceptOf.throw, pure, Except.pure] at h <;>
      subst h <;> rfl
  all_goals
    simp only [bind_eq_error] at h
    rcases h with h | ⟨_, _, h | ⟨_, _, h⟩⟩
    · exact checkOperator_error h
    · exact coerce_error h
    · split at h <;> cases h

end Values

variable {joins : JoinSet} {path : String} {op : CompareOp} {value : FilterValue}

theorem comparison_whole {e : Sql.Expr} {js : JoinSet} (hj : WholeChains m joins)
    (h : comparison m joins path op value = .ok (e, js)) : WholeChains m js := by
  obtain ⟨parsed, -, ⟨a, hr, -, rfl⟩ | ⟨name, first, rest, hr, -, rfl⟩ |
    ⟨name, children, a, hr, ha, -, rfl⟩⟩ := comparison_eq_ok_cases h
  · exact hj.extend_chain (resolvePath_attribute hr)
  · exact hj.foldl_extend (resolvePath_complex hr)
  · exact hj.extend_chain (resolvePath_complex hr a (valueChild_mem ha))

theorem comparison_error {e : QueryError} (h : comparison m joins path op value = .error e) :
    e.errorClass = .clientInput := by
  unfold comparison at h
  cases hp : AttributePath.parse? path with
  | none =>
    simp [hp, throw, throwThe, MonadExceptOf.throw] at h
    subst h
    rfl
  | some parsed =>
    simp only [hp, pure_bind, bind_eq_error] at h
    rcases h with h | ⟨resolved, _, h⟩
    · exact resolvePath_error h
    · rcases resolved with a | ⟨name, children⟩
      · simp only [bind_eq_error] at h
        rcases h with h | ⟨_, _, h⟩
        · exact compare_error h
        · cases h
      · simp only at h
        split at h
        · split at h
          · simp [throw, throwThe, MonadExceptOf.throw] at h
            subst h
            rfl
          · cases h
        · split at h
          · simp only [bind_eq_error] at h
            rcases h with h | ⟨_, _, h⟩
            · exact compare_error h
            · cases h
          · simp [throw, throwThe, MonadExceptOf.throw] at h
            subst h
            rfl

theorem node_whole (f : FilterNode) :
    ∀ {joins : JoinSet} {e : Sql.Expr} {js : JoinSet}, WholeChains m joins →
      node m f joins = .ok (e, js) → WholeChains m js := by
  induction f with
  | comparison path op value => exact fun hj h => comparison_whole hj h
  | and l r ihl ihr =>
    intro joins e js hj h
    obtain ⟨pl, jl, pr, hl, hr, -⟩ := node_and_eq_ok h
    exact ihr (ihl hj hl) hr
  | or l r ihl ihr =>
    intro joins e js hj h
    obtain ⟨pl, jl, pr, hl, hr, -⟩ := node_or_eq_ok h
    exact ihr (ihl hj hl) hr
  | not c ih =>
    intro joins e js hj h
    obtain ⟨q, inner, hq, ⟨-, -, rfl⟩ | ⟨-, rfl, -⟩⟩ := node_not_eq_ok h
    · exact hj.union (ih WholeChains.empty hq)
    · exact hj

/-- Compiling a filter for a consistent mapping fails only on what the filter says. -/
theorem node_error (hm : Consistent m) (f : FilterNode) :
    ∀ {joins : JoinSet} {e : QueryError}, node m f joins = .error e →
      e.errorClass = .clientInput := by
  induction f with
  | comparison path op value => exact fun h => comparison_error h
  | and l r ihl ihr =>
    intro joins e h
    simp only [node, bind_eq_error] at h
    rcases h with h | ⟨_, _, h | ⟨_, _, h⟩⟩
    · exact ihl h
    · exact ihr h
    · cases h
  | or l r ihl ihr =>
    intro joins e h
    simp only [node, bind_eq_error] at h
    rcases h with h | ⟨_, _, h | ⟨_, _, h⟩⟩
    · exact ihl h
    · exact ihr h
    · cases h
  | not c ih =>
    intro joins e h
    simp only [node, bind_eq_error] at h
    rcases h with h | ⟨⟨q, inner⟩, hq, h⟩
    · exact ih h
    · split at h
      · cases h
      · -- the joins under the negation are whole chains, so they can be ordered
        simp only [bind_eq_error] at h
        rcases h with h | ⟨_, _, h⟩
        · obtain ⟨o, ho⟩ := (node_whole c WholeChains.empty hq).linearize_ok hm
          rw [ho] at h
          cases h
        · cases h

end Compile

section Filter

variable {m : ResourceMapping} {f : FilterNode}

theorem compileFilter_whole {c : CompiledFilter} (h : compileFilter m f = .ok c) :
    ResourceMapping.WholeChains m c.joins := by
  simp only [compileFilter, bind_eq_ok, pure_eq_ok] at h
  obtain ⟨⟨p, js⟩, hn, rfl⟩ := h
  exact Compile.node_whole f ResourceMapping.WholeChains.empty hn

theorem compileFilter_error (hm : ResourceMapping.Consistent m) {e : QueryError}
    (h : compileFilter m f = .error e) : e.errorClass = .clientInput := by
  simp only [compileFilter, bind_eq_error] at h
  rcases h with h | ⟨_, _, h⟩
  · exact Compile.node_error hm f h
  · cases h

end Filter

namespace ResourceMapping

variable {m : ResourceMapping}

/-- The joins of the row and count statements are the whole chains of the filter's
attributes, of the sort key's and of the projected attributes. -/
theorem statementJoins_whole {compiled : Option CompiledFilter} {sort : Option SortKey}
    (hc : ∀ c, compiled = some c → WholeChains m c.joins)
    (hs : ∀ k, sort = some k → k.location ∈ m.attributes) :
    WholeChains m (m.statementJoins compiled sort) := by
  unfold statementJoins
  refine WholeChains.foldl_extend ?_ fun a ha => (List.mem_filter.1 ha).1
  have hempty : WholeChains m {} := WholeChains.empty
  cases compiled <;> cases sort <;> dsimp only
  · exact hempty
  · exact hempty.extend_chain (hs _ rfl)
  · exact hempty.union (hc _ rfl)
  · exact (hempty.union (hc _ rfl)).extend_chain (hs _ rfl)

/-- The joins of the statements of a request whose filter compiles and whose sort key
resolves are whole chains. -/
theorem statementJoins_whole_of_ok {filter : Option FilterNode} {sortBy : Option String}
    {sortOrder : Option SortOrder} {compiled : Option CompiledFilter} {sort : Option SortKey}
    (hc : filter.mapM (compileFilter m) = .ok compiled)
    (hs : sortBy.mapM (SortKey.resolve m · (sortOrder.getD .ascending)) = .ok sort) :
    WholeChains m (m.statementJoins compiled sort) := by
  refine statementJoins_whole (fun c hcs => ?_) fun k hks => ?_
  · cases filter with
    | none => simp [Option.mapM_none, pure_eq_ok, hcs] at hc
    | some f =>
      rw [Option.mapM_some, map_eq_ok] at hc
      obtain ⟨c', hc', hcc⟩ := hc
      rw [hcs, Option.some_inj] at hcc
      exact hcc ▸ compileFilter_whole hc'
  · exact SortKey.mapM_resolve_mem hs hks

theorem ofAssociation_ok (hm : Consistent m) {assoc : Association} (h : assoc ∈ m.associations) :
    ∃ p, AssociationPlan.ofAssociation m assoc = .ok p := by
  obtain ⟨o, ho⟩ := hm.associationsOrdered assoc h
  unfold AssociationPlan.ofAssociation
  rw [ho]
  exact ⟨_, rfl⟩

/-- Planning a request for a consistent mapping fails only on what the request says: every
ordering of joins it needs succeeds. -/
theorem plan_error (hm : Consistent m) {settings : QuerySettings} {tenant : String}
    {filter : Option FilterNode} {sortBy : Option String} {sortOrder : Option SortOrder}
    {pageRequest : PageRequest} {e : QueryError}
    (h : m.plan settings tenant filter sortBy sortOrder pageRequest = .error e) :
    e.errorClass = .clientInput := by
  rw [plan_eq] at h
  simp only [bind_eq_error] at h
  rcases h with h | ⟨compiled, hc, h | ⟨sort, hs, h | ⟨ordered, -, h | ⟨assocs, -, h⟩⟩⟩⟩
  · cases filter with
    | none => cases h
    | some f =>
      rw [Option.mapM_some, map_eq_error] at h
      exact compileFilter_error hm h
  · cases sortBy with
    | none => cases h
    | some s =>
      rw [Option.mapM_some, map_eq_error] at h
      exact SortKey.resolve_error h
  · obtain ⟨o, ho⟩ := (statementJoins_whole_of_ok hc hs).linearize_ok hm
    rw [ho] at h
    cases h
  · obtain ⟨assoc, hmem, ha⟩ := mapM_eq_error h
    obtain ⟨p, hp⟩ := ofAssociation_ok hm hmem
    rw [hp] at ha
    cases ha
  · cases h

end ResourceMapping

theorem QueryError.errorClass_eq_clientInput {e : QueryError} :
    e.errorClass = .clientInput ↔
      (∃ name, e = .unknownResourceType name) ∨ (∃ path, e = .unknownAttribute path) ∨
        ∃ path value problem, e = .invalidFilterValue path value problem := by
  cases e <;> simp [QueryError.errorClass]

namespace Registry

/-- Every resource of a registry built from a catalog has passed its self-check. -/
theorem selfCheck_of_ofDecl {c : CatalogDecl} {reg : Registry} (h : ofDecl c = .ok reg) :
    ∀ m ∈ reg.resources, m.selfCheck = .ok () := by
  simp only [ofDecl, bind_eq_ok] at h
  obtain ⟨rs, -, h⟩ := h
  simp only [ofMappings, bind_eq_ok, pure_eq_ok] at h
  obtain ⟨_, hfold, rfl⟩ := h
  refine (foldlM_eq_ok_forall (R := fun _ _ => True)
    (S := fun (r : ResourceMapping) (_ : List ResourceMapping) => r.selfCheck = .ok ())
    (fun _ => trivial) (fun _ _ => trivial) (fun earlier r c hstep => ?_) (fun h _ => h) hfold).2
  split at hstep
  · obtain ⟨_, hthrow, -⟩ := bind_eq_ok.1 hstep
    cases hthrow
  · obtain ⟨⟨⟩, hcheck, -⟩ := bind_eq_ok.1 hstep
    exact ⟨trivial, hcheck⟩

theorem get_mem {reg : Registry} {name : String} {m : ResourceMapping}
    (h : reg.get name = .ok m) : m ∈ reg.resources := by
  unfold get at h
  simp only at h
  split at h
  · rename_i found hfound
    cases h
    exact List.mem_of_find?_eq_some hfound
  · cases h

theorem get_error {reg : Registry} {name : String} {e : QueryError} (h : reg.get name = .error e) :
    e.errorClass = .clientInput := by
  unfold get at h
  simp only at h
  split at h
  · cases h
  · cases h
    rfl

end Registry

/-- A request against a registry built from a catalog fails only because of what the client
sent: an unknown resource type, an unknown attribute or an invalid filter value. Every
ordering of joins that planning needs succeeds, since each resource passed its self-check;
no request meets an inconsistent join graph or an invalid declaration. -/
theorem plan_fails_only_on_client_input {c : CatalogDecl} {reg : Registry}
    (hreg : Registry.ofDecl c = .ok reg) (settings : QuerySettings) (r : QueryRequest)
    {e : QueryError} (h : reg.plan settings r = .error e) :
    (∃ name, e = .unknownResourceType name) ∨ (∃ path, e = .unknownAttribute path) ∨
      ∃ path value problem, e = .invalidFilterValue path value problem := by
  rw [← QueryError.errorClass_eq_clientInput]
  simp only [Registry.plan, bind_eq_error] at h
  rcases h with h | ⟨m, hm, h⟩
  · exact Registry.get_error h
  · have hcheck := Registry.selfCheck_of_ofDecl hreg m (Registry.get_mem hm)
    exact ResourceMapping.plan_error (ResourceMapping.consistent_of_selfCheck hcheck) h

/-- The Group and Role resources pass their self-checks. A request for groups without a given
member compiles its filter, the negation over the to-many join into a NOT IN subquery, and
then fails on its sort attribute, which groups do not have. -/
theorem groups_roles_plan_fails_only_on_client_input :
    ∃ reg m c e, Registry.ofDecl ⟨[Catalog.groupDecl, Catalog.roleDecl]⟩ = .ok reg ∧
      reg.get "Groups" = .ok m ∧
      compileFilter m (.not (.comparison "members.value" .eq (.string "u1"))) = .ok c ∧
      (∃ q, c.predicate = .inQuery m.idExpr q true) ∧
      reg.plan {} { resource := "Groups", tenant := "acme",
                    filter := some (.not (.comparison "members.value" .eq (.string "u1"))),
                    sortBy := some "nickName" } = .error e ∧
      ((∃ name, e = .unknownResourceType name) ∨ (∃ path, e = .unknownAttribute path) ∨
        ∃ path value problem, e = .invalidFilterValue path value problem) := by
  obtain ⟨reg, m, c, e, hreg, hm, hc, hnot, h⟩ : ∃ reg m c e,
      Registry.ofDecl ⟨[Catalog.groupDecl, Catalog.roleDecl]⟩ = .ok reg ∧
      reg.get "Groups" = .ok m ∧
      compileFilter m (.not (.comparison "members.value" .eq (.string "u1"))) = .ok c ∧
      (∃ q, c.predicate = .inQuery m.idExpr q true) ∧
      reg.plan {} { resource := "Groups", tenant := "acme",
                    filter := some (.not (.comparison "members.value" .eq (.string "u1"))),
                    sortBy := some "nickName" } = .error e :=
    ⟨_, _, _, _, rfl, rfl, rfl, ⟨_, rfl⟩, rfl⟩
  exact ⟨reg, m, c, e, hreg, hm, hc, hnot, h, plan_fails_only_on_client_input hreg _ _ h⟩

end ScimQuery
