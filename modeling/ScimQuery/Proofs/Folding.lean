import ScimQuery.Proofs.RowIds

/-! # Folding tuples into rows, one row per id text

A mapper keys its rows by the text of the id, not by the id: tuples whose ids have the same
text fold into one row, which keeps the id that came first, so the integer `1` and the text
`"1"` share a row. Over any sequence of row and association tuples on a fresh mapper there
is one row per id text, in the order the texts first arrive. A row maps each label after `id`
to the first value that is not NULL at that label's position among the tuples of its text.
Each collection holds the members that association tuples of the row's text brought after
the row's first tuple, each first occurrence once, members compared as `addMember` compares
them.

Labels and names are kept in ascending order; that order is what makes a label found where it
was put (`get?_modify`). Adding a label that is new, and putting a value under a label, are
both changes of the value under one label (`insertNew_eq_modify`, `put_eq_modify`).
-/

namespace ScimQuery

namespace Labelled

variable {α : Type}

/-- Labels in strictly ascending order. -/
def Ordered (m : Labelled α) : Prop := m.Pairwise fun a b => a.1 < b.1

theorem ordered_nil : Ordered ([] : Labelled α) := List.Pairwise.nil

@[simp] theorem get?_nil (k : String) : get? ([] : Labelled α) k = none := rfl

theorem get?_cons (l : String) (v : α) (m : Labelled α) (k : String) :
    get? ((l, v) :: m) k = if l = k then some v else get? m k := by
  by_cases h : l = k <;> simp [get?, h]

theorem get?_append (m m' : Labelled α) (k : String) :
    get? (m ++ m') k = (get? m k).or (get? m' k) := by
  simp only [get?, List.find?_append, Option.map_or]

theorem get?_eq_none_of_lt {l k : String} {w : α} {m : Labelled α}
    (hm : Ordered ((k, w) :: m)) (hlt : l < k) : get? ((k, w) :: m) l = none := by
  rw [get?, Option.map_eq_none_iff, List.find?_eq_none]
  intro e he
  have hle : k ≤ e.1 := by
    rcases List.mem_cons.1 he with rfl | he
    · exact le_rfl
    · exact le_of_lt (List.rel_of_pairwise_cons hm he)
  simpa using (lt_of_lt_of_le hlt hle).ne'

theorem insertNew_eq_modify (l : String) (v : α) (m : Labelled α) :
    insertNew l v m = modify l v id m := by
  induction m with
  | nil => rfl
  | cons e m ih =>
    obtain ⟨k, w⟩ := e
    simp only [insertNew, modify, id, ih]

theorem put_eq_modify (l : String) (v : α) (m : Labelled α) :
    put l v m = modify l v (fun _ => v) m := by
  induction m with
  | nil => rfl
  | cons e m ih =>
    obtain ⟨k, w⟩ := e
    simp only [put, modify, ih]

theorem mem_modify {l : String} {d : α} {f : α → α} {m : Labelled α} {e : String × α}
    (he : e ∈ modify l d f m) : e.1 = l ∨ e ∈ m := by
  induction m with
  | nil =>
    rw [modify, List.mem_singleton] at he
    exact .inl (by rw [he])
  | cons x m ih =>
    obtain ⟨k, w⟩ := x
    rw [modify] at he
    split_ifs at he with h1 h2
    · rcases List.mem_cons.1 he with rfl | he
      · exact .inl h1.symm
      · exact .inr (List.mem_cons_of_mem _ he)
    · rcases List.mem_cons.1 he with rfl | he
      · exact .inl rfl
      · exact .inr he
    · rcases List.mem_cons.1 he with rfl | he
      · exact .inr List.mem_cons_self
      · exact (ih he).imp_right (List.mem_cons_of_mem _)

theorem ordered_modify (l : String) (d : α) (f : α → α) {m : Labelled α} (hm : Ordered m) :
    Ordered (modify l d f m) := by
  induction m with
  | nil => exact List.pairwise_singleton _ _
  | cons x m ih =>
    obtain ⟨k, w⟩ := x
    have hm' : Ordered m := hm.of_cons
    rw [modify]
    split_ifs with h1 h2
    · subst h1
      exact List.pairwise_cons.2 ⟨fun e he => List.rel_of_pairwise_cons hm he, hm'⟩
    · exact List.pairwise_cons.2 ⟨fun e he => by
        rcases List.mem_cons.1 he with rfl | he
        · exact h2
        · exact lt_trans h2 (List.rel_of_pairwise_cons hm he), hm⟩
    · have hk : k < l := lt_of_le_of_ne (not_lt.1 h2) (Ne.symm h1)
      refine List.pairwise_cons.2 ⟨fun e he => ?_, ih hm'⟩
      rcases mem_modify he with he | he
      · exact he ▸ hk
      · exact List.rel_of_pairwise_cons hm he

/-- In an ordered list, changing the value under a label changes it there alone, starting
from `d` when the label had none. -/
theorem get?_modify {m : Labelled α} (hm : Ordered m) (l : String) (d : α) (f : α → α)
    (k : String) :
    get? (modify l d f m) k = if k = l then some (f ((get? m l).getD d)) else get? m k := by
  induction m with
  | nil =>
    rw [modify, get?_cons, get?_nil]
    by_cases hk : k = l
    · subst hk
      simp
    · simp [hk, Ne.symm hk]
  | cons x m ih =>
    obtain ⟨k', w⟩ := x
    have hm' : Ordered m := hm.of_cons
    by_cases h1 : l = k'
    · subst h1
      rw [modify, if_pos rfl, get?_cons, get?_cons, get?_cons, if_pos rfl]
      by_cases hk : k = l
      · subst hk
        simp
      · simp [hk, Ne.symm hk]
    by_cases h2 : l < k'
    · rw [modify, if_neg h1, if_pos h2, get?_cons l (f d), get?_eq_none_of_lt hm h2]
      by_cases hk : k = l
      · subst hk
        simp
      · simp [hk, Ne.symm hk]
    · rw [modify, if_neg h1, if_neg h2, get?_cons k' w (modify l d f m), ih hm',
        get?_cons k' w m l, if_neg (Ne.symm h1), get?_cons k' w m k]
      by_cases hk : k = l
      · subst hk
        simp [Ne.symm h1]
      · simp [hk]

theorem ordered_foldl_insertNew {A : Labelled α} (hA : Ordered A) (lvs : List (String × α)) :
    Ordered (lvs.foldl (fun a lv => insertNew lv.1 lv.2 a) A) := by
  induction lvs generalizing A with
  | nil => exact hA
  | cons lv lvs ih =>
    rw [List.foldl_cons, insertNew_eq_modify]
    exact ih (ordered_modify _ _ _ hA)

/-- Adding labelled values one by one where their labels have none keeps the first value of
each label. -/
theorem get?_foldl_insertNew {A : Labelled α} (hA : Ordered A) (lvs : List (String × α))
    (k : String) :
    get? (lvs.foldl (fun a lv => insertNew lv.1 lv.2 a) A) k = (get? A k).or (get? lvs k) := by
  induction lvs generalizing A with
  | nil => simp
  | cons lv lvs ih =>
    obtain ⟨l, v⟩ := lv
    rw [List.foldl_cons, ih (by rw [insertNew_eq_modify]; exact ordered_modify _ _ _ hA),
      insertNew_eq_modify, get?_modify hA, get?_cons]
    by_cases hk : k = l
    · subst hk
      simp [Option.or_some]
    · simp [hk, Ne.symm hk]

theorem ordered_foldl_put {A : Labelled α} (hA : Ordered A) (lvs : List (String × α)) :
    Ordered (lvs.foldl (fun a lv => put lv.1 lv.2 a) A) := by
  induction lvs generalizing A with
  | nil => exact hA
  | cons lv lvs ih =>
    rw [List.foldl_cons, put_eq_modify]
    exact ih (ordered_modify _ _ _ hA)

theorem get?_foldl_put {A : Labelled α} (hA : Ordered A) (lvs : List (String × α))
    (k : String) :
    get? (lvs.foldl (fun a lv => put lv.1 lv.2 a) A) k = (get? lvs.reverse k).or (get? A k) := by
  induction lvs generalizing A with
  | nil => simp
  | cons lv lvs ih =>
    obtain ⟨l, v⟩ := lv
    rw [List.foldl_cons, ih (by rw [put_eq_modify]; exact ordered_modify _ _ _ hA),
      put_eq_modify, get?_modify hA, List.reverse_cons, get?_append, get?_cons, get?_nil]
    by_cases hk : k = l
    · subst hk
      simp
    · simp [hk, Ne.symm hk]

end Labelled

theorem Member.ordered_ofTuple (labels : List String) (values : List Sql.Value) :
    Labelled.Ordered (ofTuple labels values) :=
  Labelled.ordered_foldl_put Labelled.ordered_nil _

theorem Member.get?_ofTuple (labels : List String) (values : List Sql.Value) (k : String) :
    (ofTuple labels values).get? k =
      Labelled.get? (ResultMapper.labelValues labels values).reverse k := by
  rw [ofTuple, Labelled.get?_foldl_put Labelled.ordered_nil, Labelled.get?_nil, Option.or_none]

/-- Adding an element at a time, unless one that relates to it is there, keeps the first
occurrences: each element unless an earlier one kept relates to it. -/
theorem foldl_eq_eraseDupsBy_loop {α : Type} (r : α → α → Bool) (l acc : List α) :
    l.foldl (fun c a => if c.any (r a) then c else c ++ [a]) acc =
      List.eraseDupsBy.loop r l acc.reverse := by
  induction l generalizing acc with
  | nil => simp [List.eraseDupsBy.loop]
  | cons a l ih =>
    rw [List.foldl_cons, ih, List.eraseDupsBy.loop, List.any_reverse]
    cases h : acc.any (r a) <;> simp

theorem eraseDupsBy_append_singleton {α : Type} (r : α → α → Bool) (l : List α) (a : α) :
    (l ++ [a]).eraseDupsBy r =
      if (l.eraseDupsBy r).any (r a) then l.eraseDupsBy r else l.eraseDupsBy r ++ [a] := by
  have h := foldl_eq_eraseDupsBy_loop r (l ++ [a]) []
  rw [List.foldl_append, List.foldl_cons, List.foldl_nil, foldl_eq_eraseDupsBy_loop] at h
  simpa [List.eraseDupsBy] using h.symm

namespace ResultMapper

/-- Changing the first element that passes a test changes every element that passes it, when
no two elements pass it. -/
theorem modifyFirst_eq_map {α : Type} {p : α → Bool} (f : α → α) {l : List α}
    (h : l.Pairwise fun a b => ¬(p a = true ∧ p b = true)) :
    modifyFirst p f l = l.map fun a => if p a then f a else a := by
  induction l with
  | nil => rfl
  | cons a l ih =>
    obtain ⟨ha, hl⟩ := List.pairwise_cons.1 h
    unfold modifyFirst
    by_cases hpa : p a = true
    · have hrest : (l.map fun b => if p b then f b else b) = l := by
        refine (List.map_congr_left fun b hb => ?_).trans (List.map_id l)
        have hpb : p b = false := by simpa [hpa] using ha b hb
        simp [hpb]
      simp [hpa, hrest]
    · simp [hpa, ih hl]

/-- A call to a mapper: a tuple of the row statement, or a tuple of an association statement
with the association's name and the labels of its columns. -/
inductive Call where
  | row (values : List Sql.Value)
  | association (name : String) (labels : List String) (values : List Sql.Value)

/-- Makes a call on a mapper whose row tuples are labelled by `labels`. -/
def Call.apply (labels : List String) (m : ResultMapper) : Call → ResultMapper
  | .row values => m.pushRow labels values
  | .association name ls values => m.pushAssociation name ls values

/-- Makes calls in turn on a fresh mapper. -/
def run (labels : List String) (cs : List Call) : ResultMapper :=
  cs.foldl (Call.apply labels) {}

theorem run_append_singleton (labels : List String) (cs : List Call) (c : Call) :
    run labels (cs ++ [c]) = c.apply labels (run labels cs) := by
  simp [run]

/-- The id of a row tuple. -/
def Call.rowId? : Call → Option Sql.Value
  | .row (id :: _) => some id
  | _ => none

/-- The ids of the row tuples, in order. -/
def rowIds (cs : List Call) : List Sql.Value := cs.filterMap Call.rowId?

/-- Whether two values have the same text. -/
def sameText (a b : Sql.Value) : Bool := a.render == b.render

/-- A row tuple whose id has the text `t`. -/
def Call.tuple? (t : String) : Call → Option (List Sql.Value)
  | .row (id :: rest) => if id.render = t then some (id :: rest) else none
  | _ => none

/-- The row tuples whose ids have the text `t`, in order. -/
def tuplesOf (t : String) (cs : List Call) : List (List Sql.Value) :=
  cs.filterMap (Call.tuple? t)

/-- Whether a call is a row tuple whose id has the text `t`. -/
def Call.opens (t : String) (c : Call) : Bool := (c.tuple? t).isSome

/-- The member that a call adds to the collection `n` of the row of id text `t`: the member
of an association tuple of that name and text, unless it has no value. -/
def Call.member? (n t : String) : Call → Option Member
  | .association name ls (id :: rest) =>
    if name = n ∧ id.render = t ∧ (Member.ofTuple ls rest).isEmpty = false then
      some (Member.ofTuple ls rest)
    else none
  | _ => none

/-- The members that calls add to the collection `n` of the row of id text `t`: those of the
calls from the row's first tuple on. -/
def membersAfter (n t : String) (cs : List Call) : List Member :=
  (cs.dropWhile fun c => !c.opens t).filterMap (Call.member? n t)

/-- The first value under a label among tuples, the values after each id labelled by the
labels after the first, NULL carrying no label. -/
def firstLabelled (labels : List String) (ts : List (List Sql.Value)) (k : String) :
    Option Sql.Value :=
  Labelled.get? (ts.flatMap fun vs => labelValues (labels.drop 1) vs.tail) k

/-- The first value at position `i` that is not NULL, among the tuples that have one. -/
def firstNonNull (i : Nat) (ts : List (List Sql.Value)) : Option Sql.Value :=
  (ts.filterMap (·[i]?)).find? (!·.isNull)

/-! ### The calls of one id text -/

theorem tuplesOf_append_singleton (t : String) (cs : List Call) (c : Call) :
    tuplesOf t (cs ++ [c]) = tuplesOf t cs ++ (c.tuple? t).toList := by
  rw [tuplesOf, tuplesOf, List.filterMap_append]
  cases h : c.tuple? t <;> simp [h]

theorem member?_of_opens {n t : String} {c : Call} (h : c.opens t = true) :
    c.member? n t = none := by
  match c, h with
  | .row _, _ => rfl

theorem tuplesOf_eq_nil {t : String} {cs : List Call} (h : cs.any (·.opens t) = false) :
    tuplesOf t cs = [] := by
  rw [tuplesOf, List.filterMap_eq_nil_iff]
  intro c hc
  simpa [Call.opens] using List.any_eq_false.1 h c hc

theorem dropWhile_not_opens {t : String} {cs : List Call} (h : cs.any (·.opens t) = false) :
    (cs.dropWhile fun c => !c.opens t) = [] :=
  List.dropWhile_eq_nil_iff.2 fun c hc => by simpa using List.any_eq_false.1 h c hc

theorem membersAfter_eq_nil {n t : String} {cs : List Call} (h : cs.any (·.opens t) = false) :
    membersAfter n t cs = [] := by
  rw [membersAfter, dropWhile_not_opens h, List.filterMap_nil]

theorem membersAfter_append_singleton (n t : String) (cs : List Call) (c : Call) :
    membersAfter n t (cs ++ [c]) =
      membersAfter n t cs ++ if cs.any (·.opens t) then (c.member? n t).toList else [] := by
  by_cases h : cs.any (·.opens t) = true
  · have hne : (cs.dropWhile fun c => !c.opens t).isEmpty = false := by
      rw [List.isEmpty_eq_false_iff, ne_eq, List.dropWhile_eq_nil_iff]
      obtain ⟨c', hc', ho⟩ := List.any_eq_true.1 h
      exact fun hall => by simpa [ho] using hall c' hc'
    rw [membersAfter, List.dropWhile_append, hne, if_neg Bool.false_ne_true,
      List.filterMap_append, if_pos h]
    cases hc : c.member? n t <;> simp [membersAfter, hc]
  · have h' : cs.any (·.opens t) = false := by simpa using h
    rw [membersAfter, List.dropWhile_append, dropWhile_not_opens h', if_pos List.isEmpty_nil,
      membersAfter_eq_nil h', if_neg h, List.append_nil]
    by_cases hc : c.opens t = true
    · simp [hc, member?_of_opens hc]
    · simp [hc]

theorem firstLabelled_nil (labels : List String) (k : String) :
    firstLabelled labels [] k = none := rfl

theorem firstLabelled_cons (labels : List String) (vs : List Sql.Value)
    (ts : List (List Sql.Value)) (k : String) :
    firstLabelled labels (vs :: ts) k =
      (Labelled.get? (labelValues (labels.drop 1) vs.tail) k).or (firstLabelled labels ts k) := by
  rw [firstLabelled, List.flatMap_cons, Labelled.get?_append, firstLabelled]

theorem firstLabelled_append_singleton (labels : List String) (ts : List (List Sql.Value))
    (vs : List Sql.Value) (k : String) :
    firstLabelled labels (ts ++ [vs]) k =
      (firstLabelled labels ts k).or (Labelled.get? (labelValues (labels.drop 1) vs.tail) k) := by
  rw [firstLabelled, List.flatMap_append, Labelled.get?_append, List.flatMap_singleton,
    firstLabelled]

theorem firstNonNull_cons (i : Nat) (vs : List Sql.Value) (ts : List (List Sql.Value)) :
    firstNonNull i (vs :: ts) = (vs[i]?.filter (!·.isNull)).or (firstNonNull i ts) := by
  unfold firstNonNull
  cases h : vs[i]? with
  | none => simp [h]
  | some v => cases hv : v.isNull <;> simp [h, hv, Option.filter]

theorem get?_labelValues_of_not_mem {ls : List String} {k : String} (hk : k ∉ ls)
    (vs : List Sql.Value) : Labelled.get? (labelValues ls vs) k = none := by
  rw [Labelled.get?, Option.map_eq_none_iff, List.find?_eq_none]
  intro e he hek
  have hmem : e ∈ ls.zip vs := (List.mem_filter.1 he).1
  have hek : e.1 = k := by simpa using hek
  exact hk (hek ▸ (List.of_mem_zip hmem).1)

/-- Among distinct labels, the value under the `j`-th is the `j`-th value, unless it is
NULL or missing. -/
theorem get?_labelValues {ls : List String} (hl : ls.Nodup) (vs : List Sql.Value) (j : Nat)
    (hj : j < ls.length) :
    Labelled.get? (labelValues ls vs) ls[j] = vs[j]?.filter (!·.isNull) := by
  induction ls generalizing vs j with
  | nil => exact absurd hj (Nat.not_lt_zero _)
  | cons l ls ih =>
    obtain ⟨hl0, hls⟩ := List.nodup_cons.1 hl
    cases vs with
    | nil => simp [labelValues, Labelled.get?]
    | cons v vs =>
      have hcons : labelValues (l :: ls) (v :: vs) =
          (if v.isNull then [] else [(l, v)]) ++ labelValues ls vs := by
        cases hv : v.isNull <;> simp [labelValues, hv]
      rw [hcons, Labelled.get?_append]
      cases j with
      | zero =>
        rw [List.getElem_cons_zero, get?_labelValues_of_not_mem hl0, Option.or_none]
        cases hv : v.isNull <;> simp [hv, Labelled.get?_cons, Option.filter]
      | succ j =>
        have hj' : j < ls.length := by simpa using hj
        have hne : l ≠ ls[j] := fun h => hl0 (h ▸ List.getElem_mem _)
        rw [List.getElem_cons_succ, ih hls vs j hj']
        cases v.isNull <;> simp [Labelled.get?_cons, hne]

/-- The first value under the `i`-th label of distinct labels, `i` past the id's, is the
first value at position `i` that is not NULL. -/
theorem firstLabelled_getElem {labels : List String} (hl : labels.Nodup) {i : Nat}
    (hi : i < labels.length) (h0 : 0 < i) (ts : List (List Sql.Value)) :
    firstLabelled labels ts labels[i] = firstNonNull i ts := by
  obtain ⟨j, rfl⟩ : ∃ j, i = j + 1 := ⟨i - 1, by omega⟩
  have hj : j < (labels.drop 1).length := by
    simp only [List.length_drop]
    omega
  have hlabel : labels[j + 1] = (labels.drop 1)[j] := by
    simp
  induction ts with
  | nil => rfl
  | cons vs ts ih =>
    rw [firstLabelled_cons, firstNonNull_cons, ih, hlabel,
      get?_labelValues (hl.sublist (List.drop_sublist 1 labels)), List.getElem?_tail]

theorem firstLabelled_of_not_mem {labels : List String} {k : String} (hk : k ∉ labels.drop 1)
    (ts : List (List Sql.Value)) : firstLabelled labels ts k = none := by
  induction ts with
  | nil => rfl
  | cons vs ts ih => rw [firstLabelled_cons, ih, get?_labelValues_of_not_mem hk, Option.or_none]

/-! ### What a mapper holds after a sequence of calls -/

/-- What a row holds after a sequence of calls: under each label the first value of the
tuples of its id text, and in each collection the first occurrences of the members added
from its first tuple on. Labels and names stay in ascending order. -/
structure RowSpec (labels : List String) (cs : List Call) (r : ResultRow) : Prop where
  attributes_ordered : Labelled.Ordered r.attributes
  collections_ordered : Labelled.Ordered r.collections
  get?_eq : ∀ k, r.get? k = firstLabelled labels (tuplesOf r.id.render cs) k
  collection_eq : ∀ n, r.collection n = (membersAfter n r.id.render cs).eraseDupsBy Member.beq

namespace RowSpec

variable {labels : List String} {cs : List Call} {r : ResultRow}

theorem of_other (hr : RowSpec labels cs r) {c : Call} (ht : c.tuple? r.id.render = none)
    (hm : ∀ n, c.member? n r.id.render = none) : RowSpec labels (cs ++ [c]) r where
  attributes_ordered := hr.attributes_ordered
  collections_ordered := hr.collections_ordered
  get?_eq k := by
    rw [tuplesOf_append_singleton, ht, Option.toList_none, List.append_nil, hr.get?_eq]
  collection_eq n := by
    rw [membersAfter_append_singleton, hm, Option.toList_none, ite_self, List.append_nil,
      hr.collection_eq]

theorem empty {id : Sql.Value} (h : cs.any (·.opens id.render) = false) :
    RowSpec labels cs { id } where
  attributes_ordered := Labelled.ordered_nil
  collections_ordered := Labelled.ordered_nil
  get?_eq k := by
    change none = firstLabelled labels (tuplesOf id.render cs) k
    rw [tuplesOf_eq_nil h, firstLabelled_nil]
  collection_eq n := by
    change [] = (membersAfter n id.render cs).eraseDupsBy Member.beq
    rw [membersAfter_eq_nil h, List.eraseDupsBy_nil]

theorem fill (hr : RowSpec labels cs r) {id : Sql.Value} {rest : List Sql.Value}
    (hid : r.id.render = id.render) :
    RowSpec labels (cs ++ [.row (id :: rest)]) (fillRow labels rest r) where
  attributes_ordered := Labelled.ordered_foldl_insertNew hr.attributes_ordered _
  collections_ordered := hr.collections_ordered
  get?_eq k := by
    have ht : (Call.row (id :: rest)).tuple? r.id.render = some (id :: rest) := by
      simp [Call.tuple?, hid]
    change Labelled.get? (List.foldl _ r.attributes _) k =
      firstLabelled labels (tuplesOf r.id.render (cs ++ [.row (id :: rest)])) k
    rw [Labelled.get?_foldl_insertNew hr.attributes_ordered, tuplesOf_append_singleton, ht,
      Option.toList_some, firstLabelled_append_singleton, ← hr.get?_eq]
    rfl
  collection_eq n := by
    change r.collection n = (membersAfter n r.id.render (cs ++ [.row (id :: rest)])).eraseDupsBy _
    rw [membersAfter_append_singleton, member?_of_opens (by simp [Call.opens, Call.tuple?, hid]),
      Option.toList_none, ite_self, List.append_nil, hr.collection_eq]

/-- An association tuple of a row's text, once the row is open, adds its member to the
collection unless an equal one is there. -/
theorem add (hr : RowSpec labels cs r) {name : String} {ls : List String} {id : Sql.Value}
    {rest : List Sql.Value} (hid : r.id.render = id.render)
    (hopen : cs.any (·.opens id.render) = true) (hne : (Member.ofTuple ls rest).isEmpty = false) :
    RowSpec labels (cs ++ [.association name ls (id :: rest)])
      (addToCollection name (Member.ofTuple ls rest) r) where
  attributes_ordered := hr.attributes_ordered
  collections_ordered := Labelled.ordered_modify _ _ _ hr.collections_ordered
  get?_eq k := by
    change r.get? k =
      firstLabelled labels (tuplesOf r.id.render (cs ++ [.association name ls (id :: rest)])) k
    rw [tuplesOf_append_singleton,
      show (Call.association name ls (id :: rest)).tuple? r.id.render = none from rfl,
      Option.toList_none, List.append_nil, hr.get?_eq]
  collection_eq n := by
    change (Labelled.get? (r.collections.modify name [] _) n).getD [] =
      (membersAfter n r.id.render (cs ++ [.association name ls (id :: rest)])).eraseDupsBy _
    rw [Labelled.get?_modify hr.collections_ordered, membersAfter_append_singleton, hid,
      if_pos hopen]
    by_cases hn : n = name
    · subst hn
      have hm : (Call.association n ls (id :: rest)).member? n id.render =
          some (Member.ofTuple ls rest) := by
        simp [Call.member?, hne]
      rw [if_pos rfl, hm, Option.toList_some, eraseDupsBy_append_singleton, ← hid,
        ← hr.collection_eq]
      rfl
    · have hm : (Call.association name ls (id :: rest)).member? n id.render = none := by
        simp [Call.member?, Ne.symm hn]
      rw [if_neg hn, hm, Option.toList_none, List.append_nil, ← hid, ← hr.collection_eq]
      rfl

end RowSpec

/-- What a mapper holds after a sequence of calls: its rows' id texts are distinct, it has a
row for exactly the texts of the row tuples, each row holds what `RowSpec` says, and each id
text finds the position of its row. -/
structure Folded (labels : List String) (cs : List Call) (m : ResultMapper) : Prop where
  texts_nodup : (m.rows.map (·.id.render)).Nodup
  mem_texts_iff : ∀ t, t ∈ m.rows.map (·.id.render) ↔ cs.any (·.opens t) = true
  rowSpec : ∀ r ∈ m.rows, RowSpec labels cs r
  indexed : m.Indexed

namespace Folded

variable {labels : List String} {cs : List Call} {m : ResultMapper}

theorem nil (labels : List String) : Folded labels [] {} where
  texts_nodup := List.nodup_nil
  mem_texts_iff t := by simp
  rowSpec r hr := by simp at hr
  indexed := Indexed.empty

theorem any_answers_iff (m : ResultMapper) (id : Sql.Value) :
    m.rows.any (answers id) = true ↔ id.render ∈ m.rows.map (·.id.render) := by
  simp [answers, List.any_eq_true]

/-- At most one row answers to an id, since the rows' texts are distinct. -/
theorem pairwise_answers (h : Folded labels cs m) (id : Sql.Value) :
    m.rows.Pairwise fun a b => ¬(answers id a = true ∧ answers id b = true) := by
  refine (List.pairwise_map.1 h.texts_nodup).imp fun hab ⟨ha, hb⟩ => hab ?_
  simp only [answers, beq_iff_eq] at ha hb
  rw [ha, hb]

theorem any_append_singleton_opens (cs : List Call) (c : Call) (t : String) :
    (cs ++ [c]).any (·.opens t) = (cs.any (·.opens t) || c.opens t) := by
  simp [List.any_append]

theorem of_other (h : Folded labels cs m) {c : Call} (ht : ∀ t, c.tuple? t = none)
    (hm : ∀ r ∈ m.rows, ∀ n, c.member? n r.id.render = none) : Folded labels (cs ++ [c]) m where
  texts_nodup := h.texts_nodup
  mem_texts_iff t := by
    rw [any_append_singleton_opens, Call.opens, ht, Option.isSome_none, Bool.or_false,
      h.mem_texts_iff]
  rowSpec r hr := (h.rowSpec r hr).of_other (ht _) (hm r hr)
  indexed := h.indexed

theorem texts_modifyFirst (m : ResultMapper) (id : Sql.Value) {f : ResultRow → ResultRow}
    (hf : ∀ r, (f r).id = r.id) :
    (modifyFirst (answers id) f m.rows).map (·.id.render) = m.rows.map (·.id.render) :=
  map_modifyFirst _ (g := fun r : ResultRow => r.id.render)
    (fun r => congrArg Sql.Value.render (hf r)) m.rows

/-- After the row of an id's text is changed in place, a row is that row changed, or another
row as it was. -/
theorem mem_modifyFirst (h : Folded labels cs m) {id : Sql.Value} {f : ResultRow → ResultRow}
    {r' : ResultRow} (hr' : r' ∈ modifyFirst (answers id) f m.rows) :
    ∃ r ∈ m.rows,
      (r.id.render = id.render ∧ f r = r') ∨ (r.id.render ≠ id.render ∧ r = r') := by
  rw [modifyFirst_eq_map _ (h.pairwise_answers id)] at hr'
  obtain ⟨r, hr, rfl⟩ := List.mem_map.1 hr'
  refine ⟨r, hr, ?_⟩
  by_cases hans : answers id r = true
  · exact .inl ⟨by simpa [answers] using hans, (if_pos hans).symm⟩
  · exact .inr ⟨by simpa [answers] using hans, (if_neg hans).symm⟩

theorem pushRow (h : Folded labels cs m) (id : Sql.Value) (rest : List Sql.Value) :
    Folded labels (cs ++ [.row (id :: rest)]) (m.pushRow labels (id :: rest)) := by
  have hopens : ∀ t, (Call.row (id :: rest)).opens t = decide (id.render = t) := by
    intro t
    by_cases ht : id.render = t <;> simp [Call.opens, Call.tuple?, ht]
  have hidx := h.indexed.pushRow labels (id :: rest)
  rw [pushRow_cons h.indexed] at hidx ⊢
  split
  · rename_i hany
    rw [if_pos hany] at hidx
    have hid := (any_answers_iff m id).1 hany
    refine ⟨?_, fun t => ?_, fun r' hr' => ?_, hidx⟩
    · dsimp only
      rw [texts_modifyFirst m id (f := fillRow labels rest) fun _ => rfl]
      exact h.texts_nodup
    · dsimp only
      rw [texts_modifyFirst m id (f := fillRow labels rest) fun _ => rfl,
        any_append_singleton_opens, hopens, h.mem_texts_iff]
      by_cases ht : id.render = t
      · subst ht
        simpa using (h.mem_texts_iff _).1 hid
      · simp [ht]
    · obtain ⟨r, hr, ⟨hid, rfl⟩ | ⟨hne, rfl⟩⟩ := h.mem_modifyFirst hr'
      · exact (h.rowSpec r hr).fill hid
      · refine (h.rowSpec r hr).of_other ?_ fun n => rfl
        simp [Call.tuple?, Ne.symm hne]
  · rename_i hany
    rw [if_neg hany] at hidx
    have hnew : id.render ∉ m.rows.map (·.id.render) := fun hmem =>
      hany ((any_answers_iff m id).2 hmem)
    have hcs : cs.any (·.opens id.render) = false := by
      simpa [h.mem_texts_iff] using hnew
    refine ⟨?_, fun t => ?_, fun r' hr' => ?_, hidx⟩
    · rw [List.map_append, List.map_singleton, List.nodup_append]
      refine ⟨h.texts_nodup, List.nodup_singleton _, fun a ha b hb hab => hnew ?_⟩
      rw [List.mem_singleton] at hb
      rw [hab, hb] at ha
      exact ha
    · rw [List.map_append, List.mem_append, h.mem_texts_iff, any_append_singleton_opens, hopens,
        List.map_singleton, List.mem_singleton, Bool.or_eq_true, decide_eq_true_iff]
      exact or_congr_right eq_comm
    · rcases List.mem_append.1 hr' with hr | hr
      · refine (h.rowSpec r' hr).of_other ?_ fun n => rfl
        have hne : r'.id.render ≠ id.render := fun heq =>
          hnew (heq ▸ List.mem_map_of_mem hr)
        simp [Call.tuple?, Ne.symm hne]
      · rw [List.mem_singleton.1 hr]
        exact (RowSpec.empty hcs).fill rfl

/-- An association tuple adds its member to the row of its id's text, when there is one and
the member has a value. -/
theorem pushAssociation (h : Folded labels cs m) (name : String) (ls : List String)
    (id : Sql.Value) (rest : List Sql.Value) :
    Folded labels (cs ++ [.association name ls (id :: rest)])
      (m.pushAssociation name ls (id :: rest)) := by
  have ht : ∀ t, (Call.association name ls (id :: rest)).tuple? t = none := fun _ => rfl
  have hidx := h.indexed.pushAssociation name ls (id :: rest)
  rw [pushAssociation_cons h.indexed] at hidx ⊢
  split
  · rename_i hskip
    refine h.of_other ht fun r hr n => ?_
    simp only [Call.member?]
    refine if_neg fun ⟨_, hid, hne⟩ => ?_
    have hmem : r.id.render ∈ m.rows.map (·.id.render) := List.mem_map_of_mem hr
    have hans : m.rows.any (answers id) = true := (any_answers_iff m id).2 (hid ▸ hmem)
    simp [hans, hne] at hskip
  · rename_i hadd
    rw [if_neg hadd] at hidx
    simp only [Bool.or_eq_true, Bool.not_eq_true', not_or, Bool.not_eq_true] at hadd
    obtain ⟨hany, hne⟩ := hadd
    refine ⟨?_, fun t => ?_, fun r' hr' => ?_, hidx⟩
    · dsimp only
      rw [texts_modifyFirst m id (f := addToCollection name (Member.ofTuple ls rest))
        fun _ => rfl]
      exact h.texts_nodup
    · dsimp only
      rw [texts_modifyFirst m id (f := addToCollection name (Member.ofTuple ls rest))
          fun _ => rfl,
        any_append_singleton_opens, Call.opens, ht,
        Option.isSome_none, Bool.or_false, h.mem_texts_iff]
    · obtain ⟨r, hr, ⟨hid, rfl⟩ | ⟨hother, rfl⟩⟩ := h.mem_modifyFirst hr'
      · have hopen : cs.any (·.opens id.render) = true :=
          (h.mem_texts_iff _).1 (hid ▸ List.mem_map_of_mem hr)
        exact (h.rowSpec r hr).add hid hopen hne
      · refine (h.rowSpec r hr).of_other (ht _) fun n => ?_
        simp [Call.member?, Ne.symm hother]

theorem apply (h : Folded labels cs m) : ∀ c, Folded labels (cs ++ [c]) (c.apply labels m)
  | .row [] => h.of_other (fun _ => rfl) fun _ _ _ => rfl
  | .row (id :: rest) => h.pushRow id rest
  | .association _ _ [] => h.of_other (fun _ => rfl) fun _ _ _ => rfl
  | .association name ls (id :: rest) => h.pushAssociation name ls id rest

end Folded

/-- Every sequence of calls leaves a fresh mapper as `Folded` says. -/
theorem folded_run (labels : List String) (cs : List Call) : Folded labels cs (run labels cs) := by
  induction cs using List.reverseRecOn with
  | nil => exact Folded.nil labels
  | append_singleton cs c ih =>
    rw [run_append_singleton]
    exact ih.apply c

theorem rowIds_append_singleton (cs : List Call) (c : Call) :
    rowIds (cs ++ [c]) = rowIds cs ++ c.rowId?.toList := by
  rw [rowIds, rowIds, List.filterMap_append]
  cases h : c.rowId? <;> simp [h]

theorem ids_run (labels : List String) (cs : List Call) :
    (run labels cs).ids = (rowIds cs).eraseDupsBy sameText := by
  induction cs using List.reverseRecOn with
  | nil => rfl
  | append_singleton cs c ih =>
    rw [run_append_singleton, rowIds_append_singleton]
    match c with
    | .row [] => simpa [Call.apply, Call.rowId?, ResultMapper.pushRow] using ih
    | .association name ls values =>
      simpa [Call.apply, Call.rowId?, ids_pushAssociation] using ih
    | .row (id :: rest) =>
      have hany : (run labels cs).rows.any (answers id) =
          ((rowIds cs).eraseDupsBy sameText).any (sameText id) := by
        rw [← ih, ids, List.any_map]
        congr 1
        funext r
        rw [answers, Function.comp_apply, sameText, Bool.eq_iff_iff, beq_iff_eq, beq_iff_eq]
        exact eq_comm
      rw [Call.apply, pushRow_cons (folded_run labels cs).indexed, Call.rowId?,
        Option.toList_some, eraseDupsBy_append_singleton, ← hany, ← ih]
      split
      · show (modifyFirst (answers id) (fillRow labels rest) _).map (·.id) = _
        exact map_modifyFirst _ (f := fillRow labels rest) (fun _ => rfl) _
      · show ((run labels cs).rows ++ [fillRow labels rest { id }]).map (·.id) = _
        rw [List.map_append]
        rfl

theorem ids_foldl_pushRow_eq (labels : List String) (tuples : List (List Sql.Value)) :
    (tuples.foldl (fun (mp : ResultMapper) t => mp.pushRow labels t) {}).ids =
      (tuples.filterMap List.head?).eraseDupsBy sameText := by
  have hrun : tuples.foldl (fun (mp : ResultMapper) t => mp.pushRow labels t) {} =
      run labels (tuples.map Call.row) := by
    rw [run, List.foldl_map]
    rfl
  have hids : rowIds (tuples.map Call.row) = tuples.filterMap List.head? := by
    rw [rowIds, List.filterMap_map]
    congr 1
    funext t
    cases t <;> rfl
  rw [hrun, ids_run, hids]

/-- Any sequence of row and association tuples on a fresh mapper, the row tuples labelled by
distinct labels, leaves one row per id text of the row tuples, in the order the texts first
arrive, each with the id that came first. A row's value under the `i`-th label, past the id's,
is the first value at position `i` that is not NULL among the tuples of its text, and it has
no other label. Each collection holds the first occurrences of the members that association
tuples of the row's text brought from its first tuple on. -/
theorem run_rows_by_id_text (labels : List String) (hl : labels.Nodup) (cs : List Call) :
    (run labels cs).ids = (run labels cs).finish.map (·.id) ∧
      (run labels cs).ids = (rowIds cs).eraseDupsBy sameText ∧
      ((run labels cs).finish.map (·.id.render)).Nodup ∧
      (∀ id ∈ rowIds cs, ∃ r ∈ (run labels cs).finish, r.id.render = id.render) ∧
      ∀ r ∈ (run labels cs).finish,
        (∀ (i : Nat) (hi : i < labels.length), 0 < i →
          r.get? labels[i] = firstNonNull i (tuplesOf r.id.render cs)) ∧
        (∀ k ∉ labels.drop 1, r.get? k = none) ∧
        ∀ n, r.collection n = (membersAfter n r.id.render cs).eraseDupsBy Member.beq := by
  have h := folded_run labels cs
  refine ⟨rfl, ids_run labels cs, h.texts_nodup, fun id hid => ?_, fun r hr => ?_⟩
  · obtain ⟨c, hc, hcid⟩ := List.mem_filterMap.1 hid
    have hopens : c.opens id.render = true := by
      match c, hcid with
      | .row (_ :: _), rfl => simp [Call.opens, Call.tuple?]
    obtain ⟨r, hr, hrt⟩ :=
      List.mem_map.1 ((h.mem_texts_iff _).2 (List.any_eq_true.2 ⟨c, hc, hopens⟩))
    exact ⟨r, hr, hrt⟩
  · have hs := h.rowSpec r hr
    refine ⟨fun i hi h0 => ?_, fun k hk => ?_, hs.collection_eq⟩
    · rw [hs.get?_eq, firstLabelled_getElem hl hi h0]
    · rw [hs.get?_eq, firstLabelled_of_not_mem hk]

/-- A page of users, one of them twice, and e-mail addresses, one of them twice and one of a
user outside the page. -/
def userCalls : List Call :=
  [.row [.text "2", .text "bob"], .row [.text "1", .text "alice"],
    .row [.text "2", .text "bob"],
    .association "emails" ["value", "type"] [.text "1", .text "a@x.de", .text "work"],
    .association "emails" ["value", "type"] [.text "1", .text "a@x.de", .text "work"],
    .association "emails" ["value", "type"] [.text "9", .text "c@x.de", .text "home"]]

theorem users_run_rows_by_id_text :
    ["id", "userName"].Nodup ∧
      (run ["id", "userName"] userCalls).ids =
        (run ["id", "userName"] userCalls).finish.map (·.id) ∧
      (run ["id", "userName"] userCalls).ids = (rowIds userCalls).eraseDupsBy sameText ∧
      ((run ["id", "userName"] userCalls).finish.map (·.id.render)).Nodup ∧
      (∀ id ∈ rowIds userCalls,
        ∃ r ∈ (run ["id", "userName"] userCalls).finish, r.id.render = id.render) ∧
      ∀ r ∈ (run ["id", "userName"] userCalls).finish,
        (∀ (i : Nat) (hi : i < ["id", "userName"].length), 0 < i →
          r.get? ["id", "userName"][i] = firstNonNull i (tuplesOf r.id.render userCalls)) ∧
        (∀ k ∉ ["id", "userName"].drop 1, r.get? k = none) ∧
        ∀ n, r.collection n = (membersAfter n r.id.render userCalls).eraseDupsBy Member.beq :=
  ⟨by decide, run_rows_by_id_text _ (by decide) _⟩

/-- The integer `1` and the text `"1"` are different values, yet their tuples fold into one
row, since the two have the same text. -/
theorem run_folds_int_and_text_one :
    (Sql.Value.int 1 == Sql.Value.text "1") = false ∧
      (run ["id"] [.row [.int 1], .row [.text "1"]]).finish.length = 1 :=
  ⟨rfl, rfl⟩

end ResultMapper

end ScimQuery
