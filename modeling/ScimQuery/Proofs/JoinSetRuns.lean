import ScimQuery.Proofs.FirstOccurrences

/-! # Join sets after any sequence of calls

A join set is changed by three calls: inserting a join, extending by a list of joins and
taking the union with another set. Each hands the set a list of descriptors, so a sequence of
calls from the empty set builds the set of everything it handed over, in order. That set holds
the first descriptor of each identity, with the flags it came with; the identities it has seen
are those of its joins, each once; and registering a join answers whether the set held none
the same as it.
-/

namespace ScimQuery

namespace JoinSet

/-- A call that changes a join set. -/
inductive Call
  | insert (j : JoinDescriptor)
  | extend (js : List JoinDescriptor)
  | union (t : JoinSet)

namespace Call

/-- The descriptors a call hands to the set, in order. -/
def offered : Call → List JoinDescriptor
  | insert j => [j]
  | extend js => js
  | union t => t.joins

/-- The set after a call. -/
def apply (s : JoinSet) : Call → JoinSet
  | insert j => s.insert j
  | extend js => s.extend js
  | union t => s.union t

theorem apply_eq_extend (s : JoinSet) (c : Call) : apply s c = s.extend c.offered := by
  cases c <;> rfl

end Call

/-- The set a sequence of calls builds from the empty set. -/
def run (cs : List Call) : JoinSet := cs.foldl Call.apply {}

/-- Everything a sequence of calls hands to the set, in order. -/
def history (cs : List Call) : List JoinDescriptor := cs.flatMap Call.offered

theorem foldl_apply (s : JoinSet) (cs : List Call) :
    cs.foldl Call.apply s = s.extend (history cs) := by
  induction cs generalizing s with
  | nil => rfl
  | cons c cs ih =>
    rw [List.foldl_cons, ih, Call.apply_eq_extend, ← extend_append]
    rfl

/-- A sequence of calls builds the set of its history. -/
theorem run_eq_ofList (cs : List Call) : run cs = ofList (history cs) :=
  foldl_apply {} cs

/-! ## One insertion -/

theorem seen_perm_insert {s : JoinSet} (h : s.seen.Perm (s.joins.map JoinDescriptor.identity))
    (j : JoinDescriptor) :
    (s.insert j).seen.Perm ((s.insert j).joins.map JoinDescriptor.identity) := by
  cases hj : s.contains j with
  | true => rwa [insert_of_contains s j hj]
  | false =>
    rw [seen_insert_of_not_contains s j hj, joins_insert_of_not_contains s j hj,
      List.map_append, List.map_singleton]
    exact (h.cons _).trans (List.perm_append_singleton _ _).symm

theorem find?_append_of_first {hist more : List JoinDescriptor} {k : JoinDescriptor}
    (h : hist.find? (·.same k) = some k) : (hist ++ more).find? (·.same k) = some k := by
  rw [List.find?_append, h, Option.some_or]

theorem find?_append_singleton_of_fresh {hist : List JoinDescriptor} {j : JoinDescriptor}
    (h : ∀ x ∈ hist, x.same j = false) : (hist ++ [j]).find? (·.same j) = some j := by
  have hnone : hist.find? (·.same j) = none := List.find?_eq_none.2 fun x hx => by simp [h x hx]
  rw [List.find?_append, hnone, Option.none_or, List.find?_singleton,
    if_pos (JoinDescriptor.same_self j)]

/-- What a set keeps of the descriptors handed to it: it holds every one of them, each of its
joins is the first of its identity among them, and the identities it has seen are those of
its joins, each once. -/
structure Records (s : JoinSet) (hist : List JoinDescriptor) : Prop where
  holds : ∀ x ∈ hist, s.contains x = true
  first : ∀ k ∈ s.joins, hist.find? (·.same k) = some k
  seen_perm : s.seen.Perm (s.joins.map JoinDescriptor.identity)

theorem Records.empty : Records {} [] := ⟨by simp, by simp, List.Perm.nil⟩

theorem Records.insert {s : JoinSet} {hist : List JoinDescriptor} (h : Records s hist)
    (j : JoinDescriptor) : Records (s.insert j) (hist ++ [j]) := by
  refine ⟨fun x hx => ?_, fun k hk => ?_, seen_perm_insert h.seen_perm j⟩
  · rw [contains_insert]
    rcases List.mem_append.1 hx with hx | hx
    · simp [h.holds x hx]
    · rw [List.mem_singleton.1 hx, JoinDescriptor.same_self, Bool.or_true]
  · cases hj : s.contains j with
    | true =>
      rw [insert_of_contains s j hj] at hk
      exact find?_append_of_first (h.first k hk)
    | false =>
      rw [joins_insert_of_not_contains s j hj] at hk
      rcases List.mem_append.1 hk with hk | hk
      · exact find?_append_of_first (h.first k hk)
      · rw [List.mem_singleton.1 hk]
        refine find?_append_singleton_of_fresh fun x hx => Bool.eq_false_iff.2 fun hxj => ?_
        -- a descriptor of the history the same as `j` would have made the set hold `j`
        obtain ⟨i, hi, hix⟩ := (contains_iff s x).1 (h.holds x hx)
        have hheld := (contains_iff s j).2 ⟨i, hi, JoinDescriptor.same_trans hix hxj⟩
        rw [hj] at hheld
        exact Bool.false_ne_true hheld

/-! ## Runs -/

theorem Records.extend {s : JoinSet} {hist : List JoinDescriptor} (h : Records s hist)
    (js : List JoinDescriptor) : Records (s.extend js) (hist ++ js) := by
  induction js generalizing s hist with
  | nil => simpa [extend_nil] using h
  | cons j js ih =>
    rw [extend_cons, ← List.singleton_append, ← List.append_assoc]
    exact ih (h.insert j)

theorem records_ofList (js : List JoinDescriptor) : Records (ofList js) js :=
  Records.empty.extend js

/-- After any sequence of calls from the empty set: the joins are the descriptors handed over
with repetitions by identity erased, so no two are the same join and each is the first of its
identity, with the flags it came with; the identities seen are those of the joins, each once;
registering a join answers true exactly when the set holds none the same as it; and the set
has a to-many join exactly when one of its joins is to-many. -/
theorem run_represents_history (cs : List Call) :
    (run cs).joins = (history cs).eraseDupsBy JoinDescriptor.same ∧
    JoinDescriptor.Distinct (run cs).joins ∧
    (∀ k ∈ (run cs).joins, (history cs).find? (·.same k) = some k) ∧
    (run cs).seen.Perm ((run cs).joins.map JoinDescriptor.identity) ∧
    (∀ j, ((run cs).register j).1 = true ↔ ∀ k ∈ (run cs).joins, k.same j = false) ∧
    ((run cs).hasToMany = true ↔ ∃ k ∈ (run cs).joins, k.toMany = true) := by
  rw [run_eq_ofList]
  have hdistinct : JoinDescriptor.Distinct (ofList (history cs)).joins := by
    rw [joins_ofList]
    exact JoinDescriptor.distinct_eraseDupsBy _
  exact ⟨joins_ofList _, hdistinct, (records_ofList _).first, (records_ofList _).seen_perm,
    register_fst_eq_true_iff _, hasToMany_iff _⟩

-- The same join asked for again as an outer, to-many join is not registered a second time,
-- and the set keeps the flags it was first asked with.
example :
    ((run [.insert ⟨⟨"USER_ENTITY", "u"⟩, "ID", ⟨"USER_SCIM_ATTRIBUTES", "ua"⟩, "USER_ID",
        false, false⟩]).register
      ⟨⟨"USER_ENTITY", "u"⟩, "ID", ⟨"USER_SCIM_ATTRIBUTES", "ua"⟩, "USER_ID", true, true⟩).1 =
        false ∧
    (run [.insert ⟨⟨"USER_ENTITY", "u"⟩, "ID", ⟨"USER_SCIM_ATTRIBUTES", "ua"⟩, "USER_ID",
        false, false⟩,
      .insert ⟨⟨"USER_ENTITY", "u"⟩, "ID", ⟨"USER_SCIM_ATTRIBUTES", "ua"⟩, "USER_ID",
        true, true⟩]).joins.map (fun j => (j.outer, j.toMany)) = [(false, false)] := by
  decide

end JoinSet

end ScimQuery
