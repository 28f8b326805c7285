import ScimQuery.Result.Mapper
import ScimQuery.Positions

/-! # Positions of rows

A mapper finds the row of an id through the positions it keeps by id text. Every call keeps
each id text finding the position of the first row of that text (`Indexed`), so a position
found is that of a row, and folding a tuple at that position changes the row that a search of
the rows by id text finds.
-/

namespace ScimQuery

namespace ResultMapper

/-- Whether a row answers to an id: their ids have the same text. -/
def answers (id : Sql.Value) (r : ResultRow) : Bool := r.id.render == id.render

/-- Changes the first element that passes a test. -/
def modifyFirst {α : Type} (p : α → Bool) (f : α → α) : List α → List α
  | [] => []
  | a :: rest => if p a then f a :: rest else a :: modifyFirst p f rest

/-- Each id text finds the position of the first row of that text. -/
def Indexed (m : ResultMapper) : Prop := PositionsOf (·.id.render) m.rows m.byId

variable {m : ResultMapper}

@[simp] theorem fillRow_id (labels : List String) (rest : List Sql.Value) (r : ResultRow) :
    (fillRow labels rest r).id = r.id := rfl

@[simp] theorem addToCollection_id (name : String) (member : Member) (r : ResultRow) :
    (addToCollection name member r).id = r.id := rfl

theorem Indexed.empty : Indexed {} := PositionsOf.nil

theorem Indexed.isSome_lookup (h : m.Indexed) (id : Sql.Value) :
    (m.byId.lookup id.render).isSome = m.rows.any (answers id) :=
  PositionsOf.isSome_lookup h id.render

theorem modifyFirst_eq_set {α : Type} [Inhabited α] {p : α → Bool} (f : α → α) :
    ∀ {l : List α} {i : Nat}, l.findIdx? p = some i → modifyFirst p f l = l.set i (f l[i]!)
  | [], _, h => by simp at h
  | a :: l, i, h => by
    rw [List.findIdx?_cons] at h
    by_cases ha : p a = true
    · rw [if_pos ha, Option.some_inj] at h
      subst h
      simp [modifyFirst, ha]
    · rw [if_neg ha] at h
      obtain ⟨j, hj, rfl⟩ := Option.map_eq_some_iff.1 h
      simp [modifyFirst, ha, modifyFirst_eq_set f hj]

theorem Indexed.set_eq_modifyFirst (h : m.Indexed) {id : Sql.Value} {i : Nat}
    (hl : m.byId.lookup id.render = some i) (f : ResultRow → ResultRow) :
    m.rows.set i (f m.rows[i]!) = modifyFirst (answers id) f m.rows := by
  rw [h] at hl
  exact (modifyFirst_eq_set f hl).symm

theorem set_append_singleton {α : Type} [Inhabited α] (f : α → α) (l : List α) (a : α) :
    (l ++ [a]).set ((l ++ [a]).length - 1) (f (l ++ [a])[(l ++ [a]).length - 1]!) = l ++ [f a] := by
  simp

theorem pushRow_of_lookup_some {labels : List String} {id : Sql.Value} {rest : List Sql.Value}
    {i : Nat} (hl : m.byId.lookup id.render = some i) :
    m.pushRow labels (id :: rest) = ⟨m.rows.set i (fillRow labels rest m.rows[i]!), m.byId⟩ := by
  simp only [pushRow, entry, hl]

theorem pushRow_of_lookup_none {labels : List String} {id : Sql.Value} {rest : List Sql.Value}
    (hl : m.byId.lookup id.render = none) :
    m.pushRow labels (id :: rest) =
      ⟨m.rows ++ [fillRow labels rest { id }], (id.render, m.rows.length) :: m.byId⟩ := by
  simp only [pushRow, entry, hl, set_append_singleton]
  rw [List.length_append, List.length_singleton, Nat.add_sub_cancel]

theorem pushAssociation_of_lookup_some {name : String} {ls : List String} {id : Sql.Value}
    {rest : List Sql.Value} {i : Nat} (hl : m.byId.lookup id.render = some i) :
    m.pushAssociation name ls (id :: rest) =
      if (Member.ofTuple ls rest).isEmpty then m
      else ⟨m.rows.set i (addToCollection name (Member.ofTuple ls rest) m.rows[i]!), m.byId⟩ := by
  simp only [pushAssociation, hl]

theorem pushAssociation_of_lookup_none {name : String} {ls : List String} {id : Sql.Value}
    {rest : List Sql.Value} (hl : m.byId.lookup id.render = none) :
    m.pushAssociation name ls (id :: rest) = m := by
  simp only [pushAssociation, hl]

/-- With its positions right, a mapper folds a row tuple into the first row of its id's text, or
opens a row at the end. -/
theorem pushRow_cons (h : m.Indexed) (labels : List String) (id : Sql.Value)
    (rest : List Sql.Value) :
    m.pushRow labels (id :: rest) =
      if m.rows.any (answers id) then ⟨modifyFirst (answers id) (fillRow labels rest) m.rows, m.byId⟩
      else ⟨m.rows ++ [fillRow labels rest { id }], (id.render, m.rows.length) :: m.byId⟩ := by
  have hsome := h.isSome_lookup id
  cases hl : m.byId.lookup id.render with
  | some i =>
    rw [hl, Option.isSome_some] at hsome
    rw [pushRow_of_lookup_some hl, ← hsome, if_pos rfl, h.set_eq_modifyFirst hl]
  | none =>
    rw [hl, Option.isSome_none] at hsome
    rw [pushRow_of_lookup_none hl, ← hsome, if_neg Bool.false_ne_true]

/-- With its positions right, a mapper adds a member to the first row of its id's text, when
there is one and the member has a value. -/
theorem pushAssociation_cons (h : m.Indexed) (name : String) (ls : List String)
    (id : Sql.Value) (rest : List Sql.Value) :
    m.pushAssociation name ls (id :: rest) =
      if !m.rows.any (answers id) || (Member.ofTuple ls rest).isEmpty then m
      else ⟨modifyFirst (answers id) (addToCollection name (Member.ofTuple ls rest)) m.rows,
        m.byId⟩ := by
  have hsome := h.isSome_lookup id
  cases hl : m.byId.lookup id.render with
  | some i =>
    rw [hl, Option.isSome_some] at hsome
    rw [pushAssociation_of_lookup_some hl, ← hsome, Bool.not_true, Bool.false_or,
      h.set_eq_modifyFirst hl]
  | none =>
    rw [hl, Option.isSome_none] at hsome
    rw [pushAssociation_of_lookup_none hl, ← hsome, Bool.not_false, Bool.true_or, if_pos rfl]

theorem Indexed.pushRow (h : m.Indexed) (labels : List String) :
    ∀ values, (m.pushRow labels values).Indexed
  | [] => h
  | id :: rest => by
    cases hl : m.byId.lookup id.render with
    | some i =>
      rw [pushRow_of_lookup_some hl]
      exact PositionsOf.set h (fun r => by rw [fillRow_id]) i
    | none =>
      rw [pushRow_of_lookup_none hl]
      exact PositionsOf.push h (x := fillRow labels rest { id }) hl

theorem Indexed.pushAssociation (h : m.Indexed) (name : String) (labels : List String) :
    ∀ values, (m.pushAssociation name labels values).Indexed
  | [] => h
  | id :: rest => by
    cases hl : m.byId.lookup id.render with
    | none => rwa [pushAssociation_of_lookup_none hl]
    | some i =>
      rw [pushAssociation_of_lookup_some hl]
      split
      · exact h
      · exact PositionsOf.set h (fun r => by rw [addToCollection_id]) i

end ResultMapper

end ScimQuery
