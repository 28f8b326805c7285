import Mathlib.Data.List.Infix
import ScimQuery.Filter.Like

/-! # LIKE patterns match literally

A LIKE pattern is read as a sequence of pieces: `%` matches any run of characters, `_` any
one character, and the escape character makes the character after it match only itself.
T-SQL also reads `[...]` as a class: one character among those listed or within a listed
range `a-z`, or, after a leading `^`, one character outside them. Characters compare exactly.
An escape character at the very end, or a `[` that is never closed, matches nothing.

Escaping a text puts the escape character `!` before each of `%`, `_`, `[`, `]` and `!`, so
its pattern is a run of literal pieces. It matches that text alone, and with `%` around it,
after it or before it, exactly the texts that contain it, start with it or end with it.
-/

namespace ScimQuery.Like

/-- A piece of a LIKE pattern. -/
inductive Piece where
  | anyRun
  | anyOne
  | literal (c : Char)
  /-- one character listed by the body, or, when negated, one character not listed -/
  | charClass (negated : Bool) (body : List Char)
  /-- an escape character at the end, or a class never closed -/
  | never

/-- Whether a class body lists a character, as itself or within a range `a-z`. -/
def listed (c : Char) : List Char → Bool
  | a :: '-' :: b :: rest => (a ≤ c && c ≤ b) || listed c rest
  | a :: rest => a == c || listed c rest
  | [] => false

/-- The class of a body: negated when it starts with `^`. -/
def Piece.ofClassBody : List Char → Piece
  | '^' :: body => .charClass true body
  | body => .charClass false body

mutual

/-- The pieces of a pattern. -/
def pieces : List Char → List Piece
  | [] => []
  | c :: rest =>
    if c = escapeChar then escapedPieces rest
    else if c = '%' then .anyRun :: pieces rest
    else if c = '_' then .anyOne :: pieces rest
    else if c = '[' then classPieces [] rest
    else .literal c :: pieces rest

/-- The pieces of a pattern after an escape character: the next character is a literal. -/
def escapedPieces : List Char → List Piece
  | [] => [.never]
  | c :: rest => .literal c :: pieces rest

/-- The pieces of a pattern inside a class, whose body read so far is `acc`, reversed. -/
def classPieces (acc : List Char) : List Char → List Piece
  | [] => [.never]
  | c :: rest =>
    if c = ']' then Piece.ofClassBody acc.reverse :: pieces rest
    else classPieces (c :: acc) rest

end

/-- Whether a text matches a sequence of pieces. -/
def Matches : List Piece → List Char → Prop
  | [], t => t = []
  | .anyRun :: ps, t => ∃ u v, t = u ++ v ∧ Matches ps v
  | .anyOne :: ps, t => ∃ c v, t = c :: v ∧ Matches ps v
  | .literal c :: ps, t => ∃ v, t = c :: v ∧ Matches ps v
  | .charClass negated body :: ps, t =>
    ∃ c v, t = c :: v ∧ listed c body = !negated ∧ Matches ps v
  | .never :: _, _ => False

/-- `t LIKE p ESCAPE '!'`, characters compared exactly. -/
def Likes (t p : String) : Prop := Matches (pieces p.toList) t.toList

section Escaped

theorem toList_percent : "%".toList = ['%'] := rfl

theorem pieces_percent (rest : List Char) : pieces ('%' :: rest) = .anyRun :: pieces rest := by
  simp [pieces, escapeChar]

theorem pieces_escaped_append (c : Char) (rest : List Char) :
    pieces ((if isSpecial c then [escapeChar, c] else [c]) ++ rest) =
      .literal c :: pieces rest := by
  by_cases hs : isSpecial c = true
  · simp [hs, pieces, escapedPieces]
  · have hne : c ≠ escapeChar ∧ c ≠ '%' ∧ c ≠ '_' ∧ c ≠ '[' := by
      simp only [isSpecial, Bool.or_eq_true, decide_eq_true_eq, not_or] at hs
      exact ⟨hs.2, hs.1.1.1.1, hs.1.1.1.2, hs.1.1.2⟩
    simp [hs, pieces, hne.1, hne.2.1, hne.2.2.1, hne.2.2.2]

theorem pieces_escape_append (s : String) (rest : List Char) :
    pieces ((escape s).toList ++ rest) = s.toList.map .literal ++ pieces rest := by
  rw [toList_escape]
  induction s.toList with
  | nil => rfl
  | cons c cs ih => rw [List.flatMap_cons, List.append_assoc, pieces_escaped_append, ih]; rfl

end Escaped

section Matching

@[simp] theorem matches_nil (t : List Char) : Matches [] t ↔ t = [] := Iff.rfl

theorem matches_anyRun (ps : List Piece) (t : List Char) :
    Matches (.anyRun :: ps) t ↔ ∃ u v, t = u ++ v ∧ Matches ps v := Iff.rfl

@[simp] theorem matches_anyRun_nil (t : List Char) : Matches [.anyRun] t :=
  ⟨t, [], by simp, rfl⟩

/-- Literal pieces match their characters at the start of the text, and the rest of the
pieces match what follows. -/
theorem matches_literals (s : List Char) (ps : List Piece) (t : List Char) :
    Matches (s.map .literal ++ ps) t ↔ ∃ v, t = s ++ v ∧ Matches ps v := by
  induction s generalizing t with
  | nil => simp
  | cons c s ih =>
    simp only [List.map_cons, List.cons_append, Matches, ih, List.cons_append]
    constructor
    · rintro ⟨v, rfl, w, rfl, hw⟩
      exact ⟨w, rfl, hw⟩
    · rintro ⟨w, rfl, hw⟩
      exact ⟨s ++ w, rfl, w, rfl, hw⟩

end Matching

variable (s t : String)

/-- The escaped text matches that text alone. -/
theorem likes_escape_iff : Likes t (escape s) ↔ t = s := by
  have h := pieces_escape_append s []
  rw [List.append_nil] at h
  rw [Likes, h, pieces, matches_literals]
  simp [← String.toList_inj]

/-- Unescaped, a bracketed text is a class: `[a]` matches `a` and not itself. -/
example : Likes "a" "[a]" ∧ ¬ Likes "[a]" "[a]" := by
  refine ⟨⟨'a', [], rfl, by decide, rfl⟩, ?_⟩
  rintro ⟨c, v, h, -, rfl⟩
  simp at h

theorem likes_escape_prefix_iff : Likes t (escape s ++ "%") ↔ s.toList <+: t.toList := by
  rw [Likes, String.toList_append, pieces_escape_append, toList_percent, pieces_percent, pieces,
    matches_literals]
  simp [List.IsPrefix, eq_comm]

theorem likes_escape_suffix_iff : Likes t ("%" ++ escape s) ↔ s.toList <:+ t.toList := by
  rw [Likes, String.toList_append, toList_percent, List.singleton_append, pieces_percent,
    matches_anyRun, ← List.append_nil (escape s).toList, pieces_escape_append, pieces]
  simp only [matches_literals, matches_nil]
  generalize t.toList = l
  constructor
  · rintro ⟨u, _, rfl, _, rfl, rfl⟩
    exact ⟨u, by simp⟩
  · rintro ⟨u, rfl⟩
    exact ⟨u, s.toList, rfl, [], by simp⟩

theorem likes_escape_infix_iff : Likes t ("%" ++ escape s ++ "%") ↔ s.toList <:+: t.toList := by
  rw [Likes, String.toList_append, String.toList_append, toList_percent, List.singleton_append,
    List.cons_append, pieces_percent, matches_anyRun, pieces_escape_append, pieces_percent, pieces]
  simp only [matches_literals, matches_anyRun_nil, and_true]
  generalize t.toList = l
  constructor
  · rintro ⟨u, _, rfl, w, rfl⟩
    exact ⟨u, w, by simp⟩
  · rintro ⟨u, w, rfl⟩
    exact ⟨u, s.toList ++ w, by simp, w, rfl⟩

/-- LIKE patterns match literally. For an escaped text, the pattern matches exactly that
text; with `%` around it, exactly the texts that contain it; with `%` after it, exactly the
texts that start with it; and with `%` before it, exactly the texts that end with it. These
are the patterns bound for `co`, `sw` and `ew`. -/
theorem likes_escape (s t : String) :
    (Likes t (escape s) ↔ t = s) ∧
      (Likes t ("%" ++ escape s ++ "%") ↔ s.toList <:+: t.toList) ∧
      (Likes t (escape s ++ "%") ↔ s.toList <+: t.toList) ∧
      (Likes t ("%" ++ escape s) ↔ s.toList <:+ t.toList) :=
  ⟨likes_escape_iff s t, likes_escape_infix_iff s t, likes_escape_prefix_iff s t,
    likes_escape_suffix_iff s t⟩

end ScimQuery.Like
