import Mathlib.Data.List.Nodup
import ScimQuery.Join.Set

/-! # Join sets hold first occurrences

A join set built by insertions holds the inserted joins without repetition by identity,
each at its first occurrence, which is what `List.eraseDupsBy` computes with the identity
test. So the set of a list of joins is that list with its repetitions erased, no two of
its joins are the same join, and it holds a join exactly when the list does.
-/

namespace ScimQuery

/-- No two joins of a list are the same join. -/
def JoinDescriptor.Distinct (js : List JoinDescriptor) : Prop :=
  js.Pairwise fun a b => a.same b = false

namespace JoinSet

theorem joins_insert (s : JoinSet) (j : JoinDescriptor) :
    (s.insert j).joins = if s.contains j then s.joins else s.joins ++ [j] := by
  unfold insert register
  split <;> rfl

theorem joins_extend (s : JoinSet) (js : List JoinDescriptor) :
    (s.extend js).joins =
      s.joins ++ (js.filter fun j => !s.contains j).eraseDupsBy JoinDescriptor.same := by
  induction js generalizing s with
  | nil => simp [extend_nil]
  | cons j js ih =>
    rw [extend_cons, ih]
    by_cases hj : s.contains j = true
    · simp [insert_of_contains s j hj, hj]
    · have hj' : s.contains j = false := by simpa using hj
      rw [joins_insert_of_not_contains s j hj']
      simp only [List.filter_cons, hj', Bool.not_false, if_true, List.eraseDupsBy_cons,
        List.filter_filter, List.append_assoc, List.singleton_append]
      congr 3
      apply List.filter_congr
      intro k _
      rw [contains_insert, JoinDescriptor.same_comm j k]
      cases s.contains k <;> cases k.same j <;> rfl

/-- The set of a list is the list with its repetitions by identity erased. -/
theorem joins_ofList (js : List JoinDescriptor) :
    (ofList js).joins = js.eraseDupsBy JoinDescriptor.same := by
  simp [ofList, joins_extend, contains]

theorem distinct_extend {s : JoinSet} (hs : JoinDescriptor.Distinct s.joins)
    (js : List JoinDescriptor) : JoinDescriptor.Distinct (s.extend js).joins := by
  induction js generalizing s with
  | nil => exact hs
  | cons j js ih =>
    rw [extend_cons]
    apply ih
    rw [joins_insert]
    split
    · exact hs
    · rename_i hj
      unfold JoinDescriptor.Distinct
      rw [List.pairwise_append]
      refine ⟨hs, List.pairwise_singleton _ _, fun a ha b hb => ?_⟩
      rw [List.mem_singleton] at hb
      subst hb
      by_contra hab
      exact hj ((contains_iff s b).2 ⟨a, ha, by simpa using hab⟩)

theorem mem_extend {s : JoinSet} {js : List JoinDescriptor} {j : JoinDescriptor}
    (h : j ∈ (s.extend js).joins) : j ∈ s.joins ∨ j ∈ js := by
  induction js generalizing s with
  | nil => exact .inl h
  | cons k js ih =>
    rw [extend_cons] at h
    rcases ih h with h | h
    · rw [joins_insert] at h
      split at h
      · exact .inl h
      · rcases List.mem_append.1 h with h | h
        · exact .inl h
        · exact .inr (List.mem_cons.2 (.inl (List.mem_singleton.1 h)))
    · exact .inr (List.mem_cons_of_mem _ h)

theorem contains_extend (s : JoinSet) (js : List JoinDescriptor) (k : JoinDescriptor) :
    (s.extend js).contains k = (s.contains k || js.any (·.same k)) := by
  induction js generalizing s with
  | nil => simp [extend_nil]
  | cons j js ih =>
    rw [extend_cons, ih, contains_insert]
    simp [Bool.or_assoc]

end JoinSet

namespace JoinDescriptor

theorem source_eq_of_same {a b : JoinDescriptor} (h : a.same b = true) : a.source = b.source :=
  congrArg Prod.fst ((same_iff a b).1 h)

theorem target_eq_of_same {a b : JoinDescriptor} (h : a.same b = true) : a.target = b.target :=
  congrArg (fun i => i.2.1) ((same_iff a b).1 h)

theorem distinct_eraseDupsBy (js : List JoinDescriptor) :
    Distinct (js.eraseDupsBy same) := by
  rw [← JoinSet.joins_ofList]
  exact JoinSet.distinct_extend (s := {}) List.Pairwise.nil js

theorem exists_same_mem_eraseDupsBy {js : List JoinDescriptor} {j : JoinDescriptor}
    (h : j ∈ js) : ∃ k ∈ js.eraseDupsBy same, k.same j = true := by
  have hc : (JoinSet.ofList js).contains j = true := by
    simp only [JoinSet.ofList, JoinSet.contains_extend]
    exact Bool.or_eq_true_iff.2 (.inr (List.any_eq_true.2 ⟨j, h, same_self j⟩))
  rw [← JoinSet.joins_ofList]
  exact (JoinSet.contains_iff _ j).1 hc

theorem eraseDupsBy_of_distinct {js : List JoinDescriptor} (h : Distinct js) :
    js.eraseDupsBy same = js := by
  induction js with
  | nil => rfl
  | cons j js ih =>
    obtain ⟨hj, hjs⟩ := List.pairwise_cons.1 h
    have hkeep : js.filter (fun k => k.same j = false) = js :=
      List.filter_eq_self.2 fun k hk => by simpa [same_comm k j] using hj k hk
    rw [List.eraseDupsBy_cons, hkeep, ih hjs]

theorem Distinct.perm {js ks : List JoinDescriptor} (h : Distinct js) (hp : js.Perm ks) :
    Distinct ks :=
  List.Pairwise.perm h hp fun hab => by rwa [same_comm]

end JoinDescriptor

end ScimQuery
