import ScimQuery.Proofs.Evaluation

/-! # Groups of one id, sorted

The classes of a list under a key put together the members with equal key values, one class
per value in order of first appearance. When two keys tell the same members apart, they
give the same classes up to order; when a key tells all members apart, each class is one
member.

A statement whose groups are the classes of a column, and whose ORDER BY ends with that
column ascending, sorts its groups strictly: two groups never have equal keys. So the sorted
groups list each value of the column once, every group is the class of its value, and the
values come in increasing order of the keys of their classes. When the column is never NULL,
`COUNT(DISTINCT)` of it counts those values.
-/

namespace ScimQuery.Standard

/-- The classes of a list under a key: for each key value, in order of first appearance, the
members with that value. -/
def classes {α β : Type} [DecidableEq β] (f : α → β) (l : List α) : List (List α) :=
  (l.map f).dedup.map fun b => l.filter (f · = b)

section Classes

variable {α β : Type} [DecidableEq β] {f : α → β} {l : List α}

theorem mem_classes {g : List α} : g ∈ classes f l ↔ ∃ x ∈ l, g = l.filter (f · = f x) := by
  simp only [classes, List.mem_map, List.mem_dedup]
  constructor
  · rintro ⟨b, ⟨x, hx, rfl⟩, rfl⟩
    exact ⟨x, hx, rfl⟩
  · rintro ⟨x, hx, rfl⟩
    exact ⟨f x, ⟨x, hx, rfl⟩, rfl⟩

theorem nodup_classes : (classes f l).Nodup := by
  refine (List.nodup_dedup _).map_on fun b hb b' _ he => ?_
  obtain ⟨x, hx, rfl⟩ := List.mem_map.1 (List.mem_dedup.1 hb)
  have hmem : x ∈ l.filter (f · = b') := he ▸ List.mem_filter.2 ⟨hx, by simp⟩
  simpa using (List.mem_filter.1 hmem).2

theorem classes_perm_of_iff {β' : Type} [DecidableEq β'] {f' : α → β'}
    (h : ∀ x ∈ l, ∀ y ∈ l, f x = f y ↔ f' x = f' y) :
    (classes f l).Perm (classes f' l) := by
  refine (List.perm_ext_iff_of_nodup nodup_classes nodup_classes).2 fun g => ?_
  simp only [mem_classes]
  constructor <;> rintro ⟨x, hx, rfl⟩ <;> refine ⟨x, hx, List.filter_congr fun y hy => ?_⟩ <;>
    simp [h y hy x hx]

theorem filter_eq_singleton_of_nodup (h : (l.map f).Nodup) {x : α} (hx : x ∈ l) :
    l.filter (f · = f x) = [x] := by
  induction l with
  | nil => simp at hx
  | cons y l ih =>
    rw [List.map_cons, List.nodup_cons] at h
    rcases List.mem_cons.1 hx with rfl | hx
    · rw [List.filter_cons_of_pos (by simp)]
      congr 1
      refine List.filter_eq_nil_iff.2 fun z hz hzy => h.1 ?_
      have hfz : f z = f x := by simpa using hzy
      exact hfz ▸ List.mem_map_of_mem hz
    · have hne : f y ≠ f x := fun he => h.1 (he ▸ List.mem_map_of_mem hx)
      rw [List.filter_cons_of_neg (by simpa using hne), ih h.2 hx]

theorem classes_of_nodup (h : (l.map f).Nodup) : classes f l = l.map ([·]) := by
  rw [classes, h.dedup, List.map_map]
  exact List.map_congr_left fun x hx => filter_eq_singleton_of_nodup h hx

end Classes

namespace Database

variable {V R : Type} [LinearOrder V] (db : Database V R)

theorem groups_of_groupBy_nil {q : Sql.Query} (h : q.groupBy = []) :
    db.groups q = (db.selected q).map ([·]) := by
  simp [groups, h]

theorem groups_of_groupBy_ne_nil {q : Sql.Query} (h : q.groupBy ≠ []) :
    db.groups q = classes (fun τ => q.groupBy.map (db.value · τ)) (db.selected q) := by
  simp [groups, h, classes]

theorem countOf_countDistinct {q : Sql.Query} {e : Sql.Expr} {name : Option String}
    (h : q.select = [(Sql.Expr.countDistinct e, name)]) : db.countOf q = db.countDistinct e q := by
  simp [countOf, h, Sql.Expr.countDistinct]

/-- `COUNT(DISTINCT e)` of a value that is never NULL counts its values. -/
theorem countDistinct_eq {e : Sql.Expr} {q : Sql.Query}
    (h : ∀ τ ∈ db.selected q, db.value e τ ≠ db.null) :
    db.countDistinct e q = ((db.selected q).map (db.value e)).dedup.length := by
  unfold countDistinct
  rw [List.filter_eq_self.2 fun v hv => ?_]
  obtain ⟨τ, hτ, rfl⟩ := List.mem_map.1 hv
  simpa using h τ hτ

theorem sorted_perm (q : Sql.Query) : (db.sorted q).Perm (db.groups q) :=
  List.mergeSort_perm _ _

theorem pairwise_sorted (q : Sql.Query) :
    (db.sorted q).Pairwise fun g h => db.orderKey q.orderBy g ≤ db.orderKey q.orderBy h := by
  have h := @List.pairwise_mergeSort _
    (fun g h => decide (db.orderKey q.orderBy g ≤ db.orderKey q.orderBy h))
    (fun a b c hab hbc => by simpa using le_trans (of_decide_eq_true hab) (of_decide_eq_true hbc))
    (fun a b => by simpa using le_total (db.orderKey q.orderBy a) (db.orderKey q.orderBy b))
    (db.groups q)
  unfold sorted
  exact h.imp fun hab => of_decide_eq_true hab

variable (a c : String)

theorem groupValue_col_cons (τ : Joined R) (g : List (Joined R)) :
    db.groupValue (Sql.Expr.col a c) (τ :: g) = db.value (Sql.Expr.col a c) τ := rfl

theorem groupValue_col_filter {l : List (Joined R)} {x : Joined R} (hx : x ∈ l) :
    db.groupValue (Sql.Expr.col a c)
      (l.filter (db.value (Sql.Expr.col a c) · = db.value (Sql.Expr.col a c) x)) =
      db.value (Sql.Expr.col a c) x := by
  have hmem : x ∈ l.filter (db.value (Sql.Expr.col a c) · = db.value (Sql.Expr.col a c) x) :=
    List.mem_filter.2 ⟨hx, by simp⟩
  match hl : l.filter (db.value (Sql.Expr.col a c) · = db.value (Sql.Expr.col a c) x), hmem with
  | y :: _, _ =>
    have hy : y ∈ l.filter (db.value (Sql.Expr.col a c) · = db.value (Sql.Expr.col a c) x) := by
      rw [hl]
      exact List.mem_cons_self
    rw [groupValue_col_cons]
    simpa using (List.mem_filter.1 hy).2

theorem orderKey_append_asc (items : List (Sql.Expr × Option Sql.SortDir))
    (g : List (Joined R)) :
    db.orderKey (items ++ [(Sql.Expr.col a c, some .asc)]) g =
      db.orderKey items g ++ [toLex (.inl (db.groupValue (Sql.Expr.col a c) g))] := by
  simp [orderKey]

variable {a c}

/-- Groups that are classes of a column, sorted by keys that end with the column ascending,
are sorted strictly and list the column's values once each, each group the class of its
value. -/
theorem sorted_classes {q : Sql.Query} {items : List (Sql.Expr × Option Sql.SortDir)}
    (horder : q.orderBy = items ++ [(Sql.Expr.col a c, some .asc)])
    (hgroups : (db.groups q).Perm (classes (db.value (Sql.Expr.col a c)) (db.selected q))) :
    ((db.sorted q).map (db.groupValue (Sql.Expr.col a c))).Perm
        ((db.selected q).map (db.value (Sql.Expr.col a c))).dedup ∧
      db.sorted q = ((db.sorted q).map (db.groupValue (Sql.Expr.col a c))).map
        (fun v => (db.selected q).filter (db.value (Sql.Expr.col a c) · = v)) ∧
      (db.sorted q).Pairwise fun g h => db.orderKey q.orderBy g < db.orderKey q.orderBy h := by
  set e := Sql.Expr.col a c
  set sel := db.selected q
  have hperm := (db.sorted_perm q).trans hgroups
  have hclass : ∀ g ∈ db.sorted q, g = sel.filter (db.value e · = db.groupValue e g) := by
    intro g hg
    obtain ⟨x, hx, rfl⟩ := mem_classes.1 (hperm.subset hg)
    rw [db.groupValue_col_filter a c hx]
  have hself : db.sorted q = ((db.sorted q).map (db.groupValue e)).map
      (fun v => sel.filter (db.value e · = v)) := by
    rw [List.map_map]
    exact (List.map_congr_left hclass).symm.trans (List.map_id _) |>.symm
  refine ⟨?_, hself, ?_⟩
  · have h := hperm.map (db.groupValue e)
    rw [classes, List.map_map] at h
    refine h.trans (List.Perm.of_eq ?_)
    refine (List.map_congr_left fun v hv => ?_).trans (List.map_id _)
    obtain ⟨x, hx, rfl⟩ := List.mem_map.1 (List.mem_dedup.1 hv)
    exact db.groupValue_col_filter a c hx
  · -- keys that end with the value of the class are equal only for the same class
    have hnodup := hperm.nodup_iff.2 nodup_classes
    refine (List.Pairwise.and (db.pairwise_sorted q) (List.nodup_iff_pairwise_ne.1 hnodup)
      |>.imp_of_mem fun {g h} hg hh ⟨hle, hne⟩ => lt_of_le_of_ne hle fun hkey => hne ?_)
    rw [horder, orderKey_append_asc, orderKey_append_asc] at hkey
    have hv := List.append_inj_right' hkey rfl
    simp only [List.cons.injEq, and_true, EmbeddingLike.apply_eq_iff_eq, Sum.inl.injEq] at hv
    rw [hclass g hg, hclass h hh, hv]

end Database

end ScimQuery.Standard
