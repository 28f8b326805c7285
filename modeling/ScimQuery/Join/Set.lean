import ScimQuery.Join.Basic

/-! # Sets of joins

The joins a statement needs, in the order they were first asked for. Adding a join that
is already there, as `JoinDescriptor.same` decides, changes nothing, so the flags of the
first occurrence are kept. Beside the joins the set keeps the identities it has seen, and
that is what the membership test reads; a set carries the fact that these are the
identities of its joins.
-/

namespace ScimQuery

/-- The empty set sees no identity: the default proof of `JoinSet.mem_seen`. -/
theorem JoinDescriptor.mem_identities_nil :
    ∀ x, x ∈ ([] : List (TableReference × TableReference × String × String)) ↔
      x ∈ ([] : List JoinDescriptor).map JoinDescriptor.identity :=
  fun _ => Iff.rfl

/-- Joins in order of first insertion, without two that are the same join, and the
identities seen so far. -/
structure JoinSet where
  joins : List JoinDescriptor := []
  seen : List (TableReference × TableReference × String × String) := []
  /-- The identities seen are those of the joins held. -/
  mem_seen : ∀ x, x ∈ seen ↔ x ∈ joins.map JoinDescriptor.identity := by
    exact JoinDescriptor.mem_identities_nil

namespace JoinSet

instance : Inhabited JoinSet := ⟨{}⟩

/-- Whether the set holds the same join as `j`. -/
def contains (s : JoinSet) (j : JoinDescriptor) : Bool := s.seen.contains j.identity

theorem mem_seen_push (s : JoinSet) (j : JoinDescriptor) (x) :
    x ∈ j.identity :: s.seen ↔ x ∈ (s.joins ++ [j]).map JoinDescriptor.identity := by
  rw [List.mem_cons, s.mem_seen, List.map_append, List.mem_append, List.map_singleton,
    List.mem_singleton, or_comm]

/-- Registers a join at the end unless the set holds the same join already, and answers
whether it was new. -/
def register (s : JoinSet) (j : JoinDescriptor) : Bool × JoinSet :=
  if s.contains j then (false, s)
  else (true, ⟨s.joins ++ [j], j.identity :: s.seen, s.mem_seen_push j⟩)

/-- Adds a join at the end unless the set holds it already. -/
def insert (s : JoinSet) (j : JoinDescriptor) : JoinSet := (s.register j).2

/-- Adds joins one after another. -/
def extend (s : JoinSet) (js : List JoinDescriptor) : JoinSet := js.foldl insert s

/-- Adds the joins of another set. -/
def union (s t : JoinSet) : JoinSet := s.extend t.joins

/-- The set of a list of joins. -/
def ofList (js : List JoinDescriptor) : JoinSet := ({} : JoinSet).extend js

/-- Whether some join may yield many target rows per source row. -/
def hasToMany (s : JoinSet) : Bool := s.joins.any (·.toMany)

theorem contains_iff (s : JoinSet) (j : JoinDescriptor) :
    s.contains j = true ↔ ∃ k ∈ s.joins, k.same j = true := by
  rw [contains, List.contains_iff_mem, s.mem_seen, List.mem_map]
  simp only [JoinDescriptor.same_iff]

theorem contains_eq_any (s : JoinSet) (j : JoinDescriptor) :
    s.contains j = s.joins.any (·.same j) :=
  Bool.eq_iff_iff.2 ((contains_iff s j).trans List.any_eq_true.symm)

theorem register_fst (s : JoinSet) (j : JoinDescriptor) : (s.register j).1 = !s.contains j := by
  unfold register
  split <;> simp_all

theorem register_snd (s : JoinSet) (j : JoinDescriptor) : (s.register j).2 = s.insert j := rfl

theorem register_fst_eq_true_iff (s : JoinSet) (j : JoinDescriptor) :
    (s.register j).1 = true ↔ ∀ k ∈ s.joins, k.same j = false := by
  rw [register_fst, Bool.not_eq_true', ← Bool.not_eq_true, contains_iff]
  simp

theorem insert_of_contains (s : JoinSet) (j : JoinDescriptor) (h : s.contains j = true) :
    s.insert j = s := by
  simp [insert, register, h]

theorem joins_insert_of_not_contains (s : JoinSet) (j : JoinDescriptor)
    (h : s.contains j = false) : (s.insert j).joins = s.joins ++ [j] := by
  simp [insert, register, h]

theorem seen_insert_of_not_contains (s : JoinSet) (j : JoinDescriptor)
    (h : s.contains j = false) : (s.insert j).seen = j.identity :: s.seen := by
  simp [insert, register, h]

/-- A set holds a join after an insertion when it held it before or it is the inserted
one. -/
theorem contains_insert (s : JoinSet) (j k : JoinDescriptor) :
    (s.insert j).contains k = (s.contains k || j.same k) := by
  by_cases h : s.contains j = true
  · rw [insert_of_contains s j h]
    by_cases hk : j.same k = true
    · obtain ⟨i, hi, hij⟩ := (contains_iff s j).1 h
      have hik := JoinDescriptor.same_trans hij hk
      have : s.contains k = true := (contains_iff s k).2 ⟨i, hi, hik⟩
      simp [this]
    · simp [hk]
  · have h' : s.contains j = false := by simpa using h
    have hj := joins_insert_of_not_contains s j h'
    rw [contains_eq_any, contains_eq_any, hj, List.any_append]
    simp

theorem extend_nil (s : JoinSet) : s.extend [] = s := rfl

theorem extend_cons (s : JoinSet) (j : JoinDescriptor) (js : List JoinDescriptor) :
    s.extend (j :: js) = (s.insert j).extend js := rfl

theorem extend_append (s : JoinSet) (js ks : List JoinDescriptor) :
    s.extend (js ++ ks) = (s.extend js).extend ks := by
  simp [extend, List.foldl_append]

theorem hasToMany_iff (s : JoinSet) : s.hasToMany = true ↔ ∃ j ∈ s.joins, j.toMany = true := by
  simp [hasToMany]

end JoinSet

end ScimQuery
