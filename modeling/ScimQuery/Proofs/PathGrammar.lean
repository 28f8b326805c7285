import Mathlib.Data.List.DropRight
import Mathlib.Data.List.TakeWhile
import ScimQuery.Catalog.Mapping

/-! # Attribute paths read their grammar

A path is written as `name` or `parent.name`, each part a name of the path grammar, and
optionally after a schema and a colon. Reading trims the text first; a trimmed text is
qualified when it starts with `urn:` in any ASCII case, and its schema is then everything
before its last colon. A name has neither a dot nor a colon, so a relative part splits at its
one dot, and the text after the last colon of a qualified text is its whole relative part.

Main statement: a text is read exactly when its trimmed form is written in this grammar, as
the path the grammar gives; that path is written back as the trimmed text, and reading it
again gives the path. Every other text is refused as an unknown attribute named by the
trimmed text.
-/

namespace ScimQuery

namespace Text

theorem trim_eq (s : String) :
    trim s = String.ofList ((s.toList.dropWhile isBlank).rdropWhile isBlank) := rfl

theorem trim_trim (s : String) : trim (trim s) = trim s := by
  rw [trim_eq (trim s), trim_eq s, String.toList_ofList]
  congr 1
  have hfront : ((s.toList.dropWhile isBlank).rdropWhile isBlank).dropWhile isBlank =
      (s.toList.dropWhile isBlank).rdropWhile isBlank := by
    rw [List.dropWhile_eq_self_iff]
    intro hl
    rw [(List.rdropWhile_prefix isBlank _).getElem]
    exact List.dropWhile_eq_self_iff.1 (List.dropWhile_idempotent _ _) _
  rw [hfront, List.rdropWhile_idempotent]

end Text

namespace AttributePath

theorem dot_colon_not_mem_of_isName {s : String} (h : isName s = true) :
    '.' ∉ s.toList ∧ ':' ∉ s.toList := by
  unfold isName at h
  rcases Bool.or_eq_true_iff.1 h with h | h
  · rw [decide_eq_true_iff.1 h]
    decide
  · split at h
    · rename_i c rest hs
      obtain ⟨hc, hrest⟩ := Bool.and_eq_true_iff.1 h
      rw [hs]
      have hrest := List.all_eq_true.1 hrest
      constructor <;> rintro (_ | ⟨_, hmem⟩)
      · simp at hc
      · simpa using hrest '.' hmem
      · simp at hc
      · simpa using hrest ':' hmem
    · cases h

theorem toList_ne_nil_of_isName {s : String} (h : isName s = true) : s.toList ≠ [] := by
  intro hs
  unfold isName at h
  rw [hs] at h
  simp_all

/-- The relative part of a path as the grammar writes it: a name, or a parent's name, a dot
and a name. -/
def RelativeForm (r : String) (parent : Option String) (name : String) : Prop :=
  isName name = true ∧
    match parent with
    | none => r = name
    | some p => isName p = true ∧ r = p ++ "." ++ name

/-- Whether a text starts with `urn:`, in any ASCII case. -/
def IsQualified (t : String) : Prop := (t.toList.take 4).map Text.asciiLower = "urn:".toList

/-- The grammar of paths on a trimmed text: a qualified text is a schema, a colon and, after
the last colon, a relative part; any other text is a relative part without schema. -/
def PathForm (t : String) (p : AttributePath) : Prop :=
  (IsQualified t ∧ ∃ schema rest, p.schema = some schema ∧ t = schema ++ ":" ++ rest ∧
      ':' ∉ rest.toList ∧ RelativeForm rest p.parent p.name) ∨
    (¬IsQualified t ∧ p.schema = none ∧ RelativeForm t p.parent p.name)

/-- Reads the relative part of a path, after its schema. -/
def readRelative (schema : Option String) (rest : String) : Option AttributePath :=
  match (rest.toList.splitOn '.').map String.ofList with
  | [name] => if isName name then some ⟨schema, none, name⟩ else none
  | [parent, name] =>
    if isName parent && isName name then some ⟨schema, some parent, name⟩ else none
  | _ => none

/-- Splits a trimmed text into its schema and its relative part. -/
def splitSchema (input : String) : Option (Option String × String) :=
  if (input.toList.take 4).map Text.asciiLower = "urn:".toList then
    match splitLastColon input with
    | some (schema, rest) => if rest.isEmpty then none else some (some schema, rest)
    | none => none
  else some (none, input)

theorem parse?_eq (input : String) :
    parse? input = (splitSchema (Text.trim input)).bind fun sr => readRelative sr.1 sr.2 := by
  unfold parse?
  dsimp only
  -- the trimmed text stays closed, so that no step computes on it
  generalize Text.trim input = t
  unfold splitSchema
  split_ifs
  · cases splitLastColon t with
    | none => rfl
    | some sr =>
      obtain ⟨schema, rest⟩ := sr
      dsimp only
      split_ifs <;> rfl
  · rfl

theorem toList_colon : ":".toList = [':'] := by simp

theorem toList_dot : ".".toList = ['.'] := by simp

theorem splitOn_dot_append {p n : String} (hp : '.' ∉ p.toList) (hn : '.' ∉ n.toList) :
    (p ++ "." ++ n).toList.splitOn '.' = [p.toList, n.toList] := by
  rw [String.toList_append, String.toList_append, List.append_assoc, toList_dot,
    List.singleton_append, List.splitOn_append_cons_self_of_not_mem hp, List.splitOn_eq_singleton hn]

theorem relativeForm_of_readRelative {schema : Option String} {rest : String} {p : AttributePath}
    (h : readRelative schema rest = some p) :
    p.schema = schema ∧ RelativeForm rest p.parent p.name := by
  have hback : ['.'].intercalate (rest.toList.splitOn '.') = rest.toList :=
    List.intercalate_splitOn '.'
  unfold readRelative at h
  split at h
  · rename_i name hsplit
    obtain ⟨l, hl, rfl⟩ := List.map_eq_singleton_iff.1 hsplit
    rw [hl, List.intercalate_singleton] at hback
    split at h
    · rename_i hname
      cases h
      exact ⟨rfl, hname, String.toList_inj.1 (by simpa using hback.symm)⟩
    · cases h
  · rename_i parent name hsplit
    obtain ⟨lp, ln, hl, rfl, rfl⟩ : ∃ lp ln, rest.toList.splitOn '.' = [lp, ln] ∧
        String.ofList lp = parent ∧ String.ofList ln = name := by
      simpa [List.map_eq_cons_iff] using hsplit
    rw [hl] at hback
    split at h
    · rename_i hnames
      obtain ⟨hp, hn⟩ := Bool.and_eq_true_iff.1 hnames
      cases h
      refine ⟨rfl, hn, hp, String.toList_inj.1 ?_⟩
      simpa [List.intercalate] using hback.symm
    · cases h
  · cases h

theorem readRelative_of_relativeForm {schema : Option String} {rest : String} {p : AttributePath}
    (hs : p.schema = schema) (h : RelativeForm rest p.parent p.name) :
    readRelative schema rest = some p := by
  obtain ⟨schema', parent, name⟩ := p
  obtain ⟨hname, hform⟩ := h
  cases hs
  have hn := dot_colon_not_mem_of_isName hname
  unfold readRelative
  cases parent with
  | none =>
    subst hform
    rw [List.splitOn_eq_singleton hn.1]
    simp [hname]
  | some parent =>
    obtain ⟨hp, rfl⟩ := hform
    rw [splitOn_dot_append (dot_colon_not_mem_of_isName hp).1 hn.1]
    simp [hp, hname]

theorem readRelative_eq_some_iff (schema : Option String) (rest : String) (p : AttributePath) :
    readRelative schema rest = some p ↔ p.schema = schema ∧ RelativeForm rest p.parent p.name :=
  ⟨relativeForm_of_readRelative, fun ⟨hs, h⟩ => readRelative_of_relativeForm hs h⟩

/-- A list whose reversed prefix without colons is not all of it has a colon, and that
prefix, reversed back, comes after its last colon. -/
theorem eq_append_colon_of_takeWhile (cs : List Char)
    (h : (cs.reverse.takeWhile (· ≠ ':')).reverse.length ≠ cs.length) :
    ∃ x, cs = x ++ ':' :: (cs.reverse.takeWhile (· ≠ ':')).reverse := by
  have hsplit := List.takeWhile_append_dropWhile (p := fun c => decide (c ≠ ':')) (l := cs.reverse)
  cases hd : cs.reverse.dropWhile (fun c => decide (c ≠ ':')) with
  | nil =>
    rw [hd, List.append_nil] at hsplit
    rw [List.length_reverse, hsplit, List.length_reverse] at h
    exact absurd rfl h
  | cons c rest =>
    have hc : c = ':' := by
      have hnot := List.head_dropWhile_not (fun c => decide (c ≠ ':')) (l := cs.reverse)
        (by rw [hd]; exact List.cons_ne_nil _ _)
      simp only [hd, List.head_cons] at hnot
      simpa using hnot
    refine ⟨rest.reverse, ?_⟩
    rw [hd, hc] at hsplit
    calc cs = cs.reverse.reverse := (List.reverse_reverse cs).symm
      _ = (cs.reverse.takeWhile (· ≠ ':') ++ ':' :: rest).reverse := by rw [hsplit]
      _ = rest.reverse ++ ':' :: (cs.reverse.takeWhile (· ≠ ':')).reverse := by simp

/-- A list whose last part after a colon has no colon keeps that part after its last
colon. -/
theorem takeWhile_reverse_append_colon (x y : List Char) (hy : ':' ∉ y) :
    ((x ++ ':' :: y).reverse.takeWhile (· ≠ ':')).reverse = y := by
  rw [List.reverse_append, List.reverse_cons, List.append_assoc, List.singleton_append,
    List.takeWhile_append_of_pos, List.takeWhile_cons_of_neg, List.append_nil,
    List.reverse_reverse]
  · simp
  · intro c hc
    simpa using ne_of_mem_of_not_mem (List.mem_reverse.1 hc) hy

theorem eq_append_of_splitLastColon {s a b : String} (h : splitLastColon s = some (a, b)) :
    s = a ++ ":" ++ b ∧ ':' ∉ b.toList := by
  unfold splitLastColon at h
  dsimp only at h
  split_ifs at h with hlen
  obtain ⟨x, hx⟩ := eq_append_colon_of_takeWhile s.toList hlen
  have hafter : ':' ∉ (s.toList.reverse.takeWhile (· ≠ ':')).reverse := by
    intro hmem
    simpa using List.mem_takeWhile_imp (List.mem_reverse.1 hmem)
  cases h
  generalize (s.toList.reverse.takeWhile (· ≠ ':')).reverse = after at hx hafter ⊢
  refine ⟨?_, by rwa [String.toList_ofList]⟩
  rw [← String.toList_inj]
  simp only [String.toList_append, String.toList_ofList, toList_colon]
  rw [hx]
  have htake : (x ++ ':' :: after).take ((x ++ ':' :: after).length - after.length - 1) = x :=
    List.take_left' (by simp only [List.length_append, List.length_cons]; omega)
  rw [htake, List.append_assoc, List.singleton_append]

theorem splitLastColon_append (a : String) {b : String} (hb : ':' ∉ b.toList) :
    splitLastColon (a ++ ":" ++ b) = some (a, b) := by
  have hcs : (a ++ ":" ++ b).toList = a.toList ++ ':' :: b.toList := by
    simp [String.toList_append, toList_colon]
  have hlen : (a.toList ++ ':' :: b.toList).length = a.toList.length + b.toList.length + 1 := by
    simp only [List.length_append, List.length_cons]
    omega
  unfold splitLastColon
  dsimp only
  rw [hcs, takeWhile_reverse_append_colon _ _ hb, hlen, if_neg (by omega),
    List.take_left' (by omega), String.ofList_toList, String.ofList_toList]

/-- Splitting at the last colon: the text is the first part, a colon and the second, which
has no colon. -/
theorem splitLastColon_eq_some_iff (s a b : String) :
    splitLastColon s = some (a, b) ↔ s = a ++ ":" ++ b ∧ ':' ∉ b.toList :=
  ⟨eq_append_of_splitLastColon, fun ⟨hs, hb⟩ => hs ▸ splitLastColon_append a hb⟩

theorem ne_empty_of_relativeForm {r : String} {parent : Option String} {name : String}
    (h : RelativeForm r parent name) : r ≠ "" := by
  obtain ⟨hname, hform⟩ := h
  have hne := toList_ne_nil_of_isName hname
  intro hr
  cases parent with
  | none =>
    subst hform
    exact hne (by rw [hr]; rfl)
  | some parent =>
    obtain ⟨_, rfl⟩ := hform
    have hlist := congrArg String.toList hr
    simp only [String.toList_append, toList_dot] at hlist
    simp at hlist

/-- Splitting off the schema: a qualified text splits at its last colon, and needs some text
after it; any other text is all relative part. -/
theorem splitSchema_eq_some_iff (t : String) (schema : Option String) (rest : String) :
    splitSchema t = some (schema, rest) ↔
      (IsQualified t ∧ ∃ s, schema = some s ∧ t = s ++ ":" ++ rest ∧ ':' ∉ rest.toList ∧
          rest ≠ "") ∨
        (¬IsQualified t ∧ schema = none ∧ rest = t) := by
  unfold splitSchema IsQualified
  by_cases hq : (t.toList.take 4).map Text.asciiLower = "urn:".toList
  · rw [if_pos hq]
    cases hsplit : splitLastColon t with
    | none =>
      simp only [reduceCtorEq, false_iff]
      rintro (⟨_, s, _, ht, hr, _⟩ | ⟨hq', _⟩)
      · rw [ht, splitLastColon_append s hr] at hsplit
        cases hsplit
      · exact hq' hq
    | some sr =>
      obtain ⟨a, b⟩ := sr
      dsimp only
      constructor
      · intro h
        split_ifs at h with hb
        cases h
        obtain ⟨ht, hcolon⟩ := eq_append_of_splitLastColon hsplit
        exact Or.inl ⟨hq, _, rfl, ht, hcolon, by simpa using hb⟩
      · rintro (⟨_, s, rfl, ht, hr, hne⟩ | ⟨hq', _⟩)
        · have hsame := splitLastColon_append s hr
          rw [← ht, hsplit] at hsame
          cases hsame
          rw [if_neg (by simpa using hne)]
        · exact absurd hq hq'
  · rw [if_neg hq]
    simp only [Option.some.injEq, Prod.mk.injEq, hq, false_and, false_or, not_false_eq_true,
      true_and]
    constructor <;> rintro ⟨rfl, rfl⟩ <;> exact ⟨rfl, rfl⟩

/-- A text is read exactly when its trimmed form is written in the grammar of paths. -/
theorem parse?_eq_some_iff (s : String) (p : AttributePath) :
    parse? s = some p ↔ PathForm (Text.trim s) p := by
  rw [parse?_eq, Option.bind_eq_some_iff]
  generalize Text.trim s = t
  constructor
  · rintro ⟨⟨schema, rest⟩, hsplit, hread⟩
    obtain ⟨rfl, hrel⟩ := (readRelative_eq_some_iff _ _ _).1 hread
    rcases (splitSchema_eq_some_iff t _ rest).1 hsplit with
      ⟨hq, sc, hsc, ht, hr, _⟩ | ⟨hq, hsc, rfl⟩
    · exact Or.inl ⟨hq, sc, rest, hsc, ht, hr, hrel⟩
    · exact Or.inr ⟨hq, hsc, hrel⟩
  · rintro (⟨hq, sc, rest, hsc, ht, hr, hrel⟩ | ⟨hq, hsc, hrel⟩)
    · have hsplit := (splitSchema_eq_some_iff t (some sc) rest).2
        (Or.inl ⟨hq, sc, rfl, ht, hr, ne_empty_of_relativeForm hrel⟩)
      exact ⟨(some sc, rest), hsplit, (readRelative_eq_some_iff _ _ _).2 ⟨hsc, hrel⟩⟩
    · have hsplit := (splitSchema_eq_some_iff t none t).2 (Or.inr ⟨hq, rfl, rfl⟩)
      exact ⟨(none, t), hsplit, (readRelative_eq_some_iff _ _ _).2 ⟨hsc, hrel⟩⟩

theorem relative_of_relativeForm {r : String} {p : AttributePath}
    (h : RelativeForm r p.parent p.name) : p.relative = r := by
  obtain ⟨_, hform⟩ := h
  unfold relative
  cases hp : p.parent with
  | none =>
    rw [hp] at hform
    exact hform.symm
  | some parent =>
    rw [hp] at hform
    exact hform.2.symm

/-- A path written in the grammar is written back as the text it was read from. -/
theorem render_of_pathForm {t : String} {p : AttributePath} (h : PathForm t p) :
    p.render = t := by
  unfold render
  rcases h with ⟨_, sc, rest, hsc, rfl, _, hrel⟩ | ⟨_, hsc, hrel⟩
  · rw [hsc, relative_of_relativeForm hrel]
  · rw [hsc, relative_of_relativeForm hrel]

theorem parse_eq_ok_iff (s : String) (p : AttributePath) :
    parse s = .ok p ↔ parse? s = some p := by
  unfold parse
  cases parse? s <;> simp

/-- Reading a path accepts exactly the grammar of paths on the trimmed text; a path read is
written back as the trimmed text and read again as itself; any other text is refused as an
unknown attribute named by the trimmed text. -/
theorem parse_reads_path_grammar (s : String) :
    (∀ p, parse s = .ok p ↔ PathForm (Text.trim s) p) ∧
      (∀ p, parse s = .ok p → p.render = Text.trim s ∧ parse p.render = .ok p) ∧
      ((¬∃ p, PathForm (Text.trim s) p) → parse s = .error (.unknownAttribute (Text.trim s))) := by
  have hiff (s : String) (p : AttributePath) : parse s = .ok p ↔ PathForm (Text.trim s) p := by
    rw [parse_eq_ok_iff, parse?_eq_some_iff]
  refine ⟨hiff s, fun p hp => ?_, fun hnone => ?_⟩
  · have hform := (hiff s p).1 hp
    have hrender := render_of_pathForm hform
    refine ⟨hrender, (hiff _ p).2 ?_⟩
    rwa [hrender, Text.trim_trim]
  · unfold parse
    cases hp : parse? s with
    | none => rfl
    | some p => exact absurd ⟨p, (parse?_eq_some_iff s p).1 hp⟩ hnone

end AttributePath

end ScimQuery
