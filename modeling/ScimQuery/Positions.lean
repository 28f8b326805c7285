/-! # Positions by key

A list that only grows at its end, with a map from keys to positions kept beside it: an element
whose key is new is pushed and its key mapped to its position. Such a map finds each key at the
first element that has it, so every position it holds is that of an element with its key, and
when the keys are distinct each element is found at its own position.
-/

namespace ScimQuery

/-- Changing the element at a position, keeping what `g` reads of it, keeps what `g` reads of
the list. -/
theorem map_set_getElem! {α β : Type} [Inhabited α] {g : α → β} {f : α → α}
    (hf : ∀ a, g (f a) = g a) (l : List α) (i : Nat) : (l.set i (f l[i]!)).map g = l.map g := by
  rw [List.map_set]
  by_cases hi : i < l.length
  · rw [getElem!_pos l i hi, hf, ← List.getElem_map (f := g), List.set_getElem_self]
    simpa using hi
  · exact List.set_eq_of_length_le (by simpa using hi)

/-- The map `ix` finds each key at the first element of `l` with that key. -/
def PositionsOf {α κ : Type} [BEq κ] (key : α → κ) (l : List α) (ix : List (κ × Nat)) : Prop :=
  ∀ k, ix.lookup k = l.findIdx? (key · == k)

namespace PositionsOf

variable {α κ : Type} [BEq κ] {key : α → κ} {l : List α} {ix : List (κ × Nat)}

theorem nil : PositionsOf key [] ([] : List (κ × Nat)) := fun _ => rfl

theorem isSome_lookup (h : PositionsOf key l ix) (k : κ) :
    (ix.lookup k).isSome = l.any (key · == k) := by
  rw [h, List.findIdx?_isSome]

theorem set [Inhabited α] (h : PositionsOf key l ix) {f : α → α} (hf : ∀ x, key (f x) = key x)
    (i : Nat) : PositionsOf key (l.set i (f l[i]!)) ix := by
  intro k
  have hfind : ∀ l' : List α, l'.findIdx? (key · == k) = (l'.map key).findIdx? (· == k) :=
    fun _ => by rw [List.findIdx?_map]; rfl
  rw [h k, hfind, hfind, map_set_getElem! hf]

variable [LawfulBEq κ]

theorem push (h : PositionsOf key l ix) {x : α} (hx : ix.lookup (key x) = none) :
    PositionsOf key (l ++ [x]) ((key x, l.length) :: ix) := by
  intro k
  rw [List.findIdx?_append, List.lookup_cons]
  by_cases hk : key x = k
  · subst hk
    rw [beq_self_eq_true, ← h, hx]
    simp
  · have hne : (k == key x) = false := by simpa using Ne.symm hk
    rw [hne, h k]
    simp [hk]

theorem getElem?_eq (h : PositionsOf key l ix) {k : κ} {i : Nat} (hl : ix.lookup k = some i) :
    ∃ x, l[i]? = some x ∧ key x = k := by
  rw [h, List.findIdx?_eq_some_iff_getElem] at hl
  obtain ⟨hi, hk, -⟩ := hl
  exact ⟨l[i], List.getElem?_eq_getElem hi, by simpa using hk⟩

theorem lt_length (h : PositionsOf key l ix) {k : κ} {i : Nat} (hl : ix.lookup k = some i) :
    i < l.length := by
  obtain ⟨x, hx, -⟩ := h.getElem?_eq hl
  exact (List.getElem?_eq_some_iff.1 hx).1

theorem lookup_eq_none_iff (h : PositionsOf key l ix) (k : κ) :
    ix.lookup k = none ↔ ∀ x ∈ l, key x ≠ k := by
  rw [h, List.findIdx?_eq_none_iff]
  simp

theorem getElem!_mem [Inhabited α] (h : PositionsOf key l ix) {k : κ} {i : Nat}
    (hl : ix.lookup k = some i) : l[i]! ∈ l := by
  rw [getElem!_pos l i (h.lt_length hl)]
  exact List.getElem_mem _

/-- Reading the element at the position found is searching the list for the key. -/
theorem map_lookup [Inhabited α] (h : PositionsOf key l ix) (k : κ) :
    (ix.lookup k).map (l[·]!) = l.find? (key · == k) := by
  rw [List.find?_eq_bind_findIdx?_getElem?, ← h]
  cases hl : ix.lookup k with
  | none => rfl
  | some i =>
    rw [Option.map_some, Option.bind_some, getElem!_pos l i (h.lt_length hl),
      List.getElem?_eq_getElem (h.lt_length hl)]

theorem lookup_key_getElem (h : PositionsOf key l ix) (hnodup : (l.map key).Nodup) {i : Nat}
    (hi : i < l.length) : ix.lookup (key l[i]) = some i := by
  rw [h, List.findIdx?_eq_some_iff_getElem]
  refine ⟨hi, by simp, fun j hji hkey => ?_⟩
  have hj : j < l.length := Nat.lt_trans hji hi
  have hne := List.pairwise_iff_getElem.1 hnodup j i (by simpa using hj) (by simpa using hi) hji
  simp only [List.getElem_map] at hne
  exact hne (by simpa using hkey)

/-- With distinct keys, the map holds exactly the key of each element at its position. -/
theorem lookup_eq_some_iff (h : PositionsOf key l ix) (hnodup : (l.map key).Nodup) (k : κ)
    (i : Nat) : ix.lookup k = some i ↔ ∃ x, l[i]? = some x ∧ key x = k := by
  refine ⟨h.getElem?_eq, ?_⟩
  rintro ⟨x, hx, rfl⟩
  obtain ⟨hi, rfl⟩ := List.getElem?_eq_some_iff.1 hx
  exact h.lookup_key_getElem hnodup hi

end PositionsOf

end ScimQuery
