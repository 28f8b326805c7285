import Mathlib.Data.List.TakeWhile
import ScimQuery.Config.Environment

/-! # Environment references follow their grammar

A text is read from the left into pieces. `${` opens a braced reference whose name runs to the
next `}`, which closes it, or to the end of the text; a `$` followed by a name character opens a
bare reference whose name is the longest run of name characters; any other `$`, and every other
character, stands for itself. Every text has exactly one such reading (`Reads`).

Expansion fails with the first reference to an undefined variable, and otherwise writes the
pieces in order, each reference replaced by its variable's value as it is, never expanded again.
The proof reads a text as expansion does (`pieces`), shows that this reading is the grammar's
and its only one, and that expansion is substitution over it (`expandChars_eq_outcome`).
-/

namespace ScimQuery.Environment

/-- A piece of a text: a character that stands for itself, or a reference to a variable by its
name. -/
inductive Piece where
  | literal (c : Char)
  | reference (name : List Char)
deriving DecidableEq

/-- The grammar of references, read from the left. -/
inductive Reads : List Char → List Piece → Prop
  | nil : Reads [] []
  /-- a character other than `$` stands for itself -/
  | literal {c : Char} {rest : List Char} {ps : List Piece} (hc : c ≠ '$') (h : Reads rest ps) :
      Reads (c :: rest) (.literal c :: ps)
  /-- a `$` followed by neither `{` nor a name character stands for itself -/
  | dollar {rest : List Char} {ps : List Piece}
      (hnext : ∀ c ∈ rest.head?, c ≠ '{' ∧ isNameChar c = false) (h : Reads rest ps) :
      Reads ('$' :: rest) (.literal '$' :: ps)
  /-- `$` and the longest run of name characters after it, when there is one -/
  | bare {name rest : List Char} {ps : List Piece} (hne : name ≠ [])
      (hname : ∀ c ∈ name, isNameChar c = true) (hmax : ∀ c ∈ rest.head?, isNameChar c = false)
      (h : Reads rest ps) : Reads ('$' :: (name ++ rest)) (.reference name :: ps)
  /-- `${`, a name without `}`, and the `}` that closes it -/
  | braced {name rest : List Char} {ps : List Piece} (hname : '}' ∉ name) (h : Reads rest ps) :
      Reads ('$' :: '{' :: (name ++ '}' :: rest)) (.reference name :: ps)
  /-- `${` and a name without `}` that runs to the end of the text -/
  | unclosed {name : List Char} (hname : '}' ∉ name) : Reads ('$' :: '{' :: name) [.reference name]

/-- The names of the variables that pieces refer to, in order. -/
def referenced (ps : List Piece) : List String :=
  ps.filterMap fun
    | .reference name => some (String.ofList name)
    | .literal _ => none

/-- The text of pieces, each reference replaced by its variable's value as it is. -/
def substitute (env : Environment) (ps : List Piece) : List Char :=
  ps.flatMap fun
    | .literal c => [c]
    | .reference name => ((env.get? (String.ofList name)).getD "").toList

/-- Reads a text into pieces the way expansion does. -/
def pieces : List Char → List Piece
  | [] => []
  | '$' :: '{' :: rest =>
    .reference (rest.takeWhile isBracedChar) :: pieces ((rest.dropWhile isBracedChar).drop 1)
  | '$' :: rest =>
    match rest.takeWhile isNameChar with
    | [] => .literal '$' :: pieces rest
    | name => .reference name :: pieces (rest.dropWhile isNameChar)
  | c :: rest => .literal c :: pieces rest
termination_by cs => cs.length
decreasing_by
  all_goals first
    | (have h := (@List.dropWhile_suffix _ rest isBracedChar).length_le; simp; omega)
    | (have h := (@List.dropWhile_suffix _ rest isNameChar).length_le; simp; omega)
    | simp

/-- Expanding pieces: each piece in turn, the value of a reference looked up, the first
undefined one failing. -/
def outcome (env : Environment) : List Piece → Except SettingsError (List Char)
  | [] => .ok []
  | .literal c :: ps => do pure (c :: (← outcome env ps))
  | .reference name :: ps => do
    let value ← env.lookup name
    pure (value ++ (← outcome env ps))

section Pieces

variable {env : Environment} {c : Char} {name : List Char} {ps : List Piece}

@[simp] theorem referenced_literal : referenced (.literal c :: ps) = referenced ps := rfl

@[simp] theorem referenced_reference :
    referenced (.reference name :: ps) = String.ofList name :: referenced ps := rfl

@[simp] theorem substitute_literal : substitute env (.literal c :: ps) = c :: substitute env ps :=
  rfl

@[simp] theorem substitute_reference :
    substitute env (.reference name :: ps) =
      ((env.get? (String.ofList name)).getD "").toList ++ substitute env ps := rfl

end Pieces

/-- Expanding pieces fails with the first reference to an undefined variable, and otherwise
gives their substitution. -/
theorem outcome_eq (env : Environment) (ps : List Piece) :
    outcome env ps =
      match (referenced ps).find? fun n => (env.get? n).isNone with
      | some n => .error (.missingEnvVar n)
      | none => .ok (substitute env ps) := by
  induction ps with
  | nil => rfl
  | cons p ps ih =>
    cases p with
    | literal c =>
      rw [outcome, ih, referenced_literal, substitute_literal]
      cases (referenced ps).find? fun n => (env.get? n).isNone <;> rfl
    | reference name =>
      rw [outcome, referenced_reference, substitute_reference, List.find?_cons, lookup]
      cases env.get? (String.ofList name) with
      | none => rfl
      | some value =>
        rw [ih]
        cases (referenced ps).find? fun n => (env.get? n).isNone <;> rfl

theorem expandChars_eq_outcome (env : Environment) (cs : List Char) :
    env.expandChars cs = outcome env (pieces cs) := by
  fun_induction pieces cs with
  | case1 => rw [expandChars.eq_1]; rfl
  | case2 rest ih => rw [expandChars.eq_2, outcome, ih]
  | case3 rest hbrace hnone ih =>
    rw [expandChars.eq_3 env rest hbrace, hnone, outcome, ih]
  | case4 rest hbrace hname ih =>
    rw [expandChars.eq_3 env rest hbrace, outcome, ← ih]
    split
    · contradiction
    · rfl
  | case5 c rest hbrace hc ih => rw [expandChars.eq_4 env c rest hbrace hc, outcome, ih]

theorem referencesIn_eq_referenced (cs : List Char) : referencesIn cs = referenced (pieces cs) := by
  fun_induction pieces cs with
  | case1 => rw [referencesIn.eq_1]; rfl
  | case2 rest ih => rw [referencesIn.eq_2, referenced_reference, ih]
  | case3 rest hbrace hnone ih =>
    rw [referencesIn.eq_3 rest hbrace, hnone, referenced_literal, ih]
  | case4 rest hbrace hname ih =>
    rw [referencesIn.eq_3 rest hbrace, referenced_reference, ← ih]
    split
    · contradiction
    · rfl
  | case5 c rest hbrace hc ih => rw [referencesIn.eq_4 c rest hbrace hc, referenced_literal, ih]

/-- A run of characters that pass a test, followed by text that does not start with one, is
the longest such run. -/
theorem takeWhile_append_of_maximal {p : Char → Bool} {run rest : List Char}
    (hrun : ∀ c ∈ run, p c = true) (hmax : ∀ c ∈ rest.head?, p c = false) :
    (run ++ rest).takeWhile p = run ∧ (run ++ rest).dropWhile p = rest := by
  have hstop : rest.takeWhile p = [] ∧ rest.dropWhile p = rest := by
    cases rest with
    | nil => exact ⟨rfl, rfl⟩
    | cons c r => simp [hmax c rfl]
  rw [List.takeWhile_append_of_pos hrun, List.dropWhile_append_of_pos hrun, hstop.1, hstop.2,
    List.append_nil]
  exact ⟨rfl, rfl⟩

theorem head_dropWhile {p : Char → Bool} (l : List Char) :
    ∀ c ∈ (l.dropWhile p).head?, p c = false := by
  intro c hc
  have hne : l.dropWhile p ≠ [] := fun h => by simp [h] at hc
  rw [List.head?_eq_some_head hne, Option.mem_some_iff] at hc
  exact hc ▸ List.head_dropWhile_not p hne

theorem isBracedChar_iff {c : Char} : isBracedChar c = true ↔ c ≠ '}' := by
  simp [isBracedChar]

theorem isNameChar_brace : isNameChar '{' = false := by decide +kernel

theorem reads_pieces (cs : List Char) : Reads cs (pieces cs) := by
  fun_induction pieces cs with
  | case1 => exact .nil
  | case2 rest ih =>
    have hname : '}' ∉ rest.takeWhile isBracedChar := fun h =>
      isBracedChar_iff.1 (List.mem_takeWhile_imp h) rfl
    have hhead := head_dropWhile (p := isBracedChar) rest
    have hsplit := (List.takeWhile_append_dropWhile (p := isBracedChar) (l := rest)).symm
    generalize rest.takeWhile isBracedChar = name at hname hsplit ih ⊢
    generalize rest.dropWhile isBracedChar = tail at hhead hsplit ih ⊢
    subst hsplit
    cases tail with
    | nil =>
      rw [List.append_nil, List.drop_nil, pieces.eq_1]
      exact .unclosed hname
    | cons c t =>
      have hc : c = '}' := by simpa [isBracedChar] using hhead c rfl
      subst hc
      exact .braced hname ih
  | case3 rest hbrace hnone ih =>
    refine .dollar (fun c hc => ?_) ih
    obtain ⟨r, rfl⟩ : ∃ r, rest = c :: r := List.head?_eq_some_iff.1 hc
    refine ⟨fun h => hbrace r (h ▸ rfl), ?_⟩
    simpa [List.takeWhile_cons] using hnone
  | case4 rest hbrace hname ih =>
    have hrun : ∀ c ∈ rest.takeWhile isNameChar, isNameChar c = true :=
      fun c hc => List.mem_takeWhile_imp hc
    have hhead := head_dropWhile (p := isNameChar) rest
    have hsplit := (List.takeWhile_append_dropWhile (p := isNameChar) (l := rest)).symm
    generalize rest.takeWhile isNameChar = name at hname hrun hsplit ⊢
    generalize rest.dropWhile isNameChar = tail at hhead hsplit ih ⊢
    subst hsplit
    exact .bare hname hrun hhead ih
  | case5 c rest hbrace hc ih => exact .literal hc ih

theorem pieces_of_reads {cs : List Char} {ps : List Piece} (h : Reads cs ps) : pieces cs = ps := by
  induction h with
  | nil => rw [pieces.eq_1]
  | @literal c rest ps hc _ ih =>
    rw [pieces.eq_4 c rest (fun _ h => absurd h hc) hc, ih]
  | @dollar rest ps hnext _ ih =>
    have hbrace : ∀ r, rest = '{' :: r → False := fun r hr => (hnext '{' (by simp [hr])).1 rfl
    have hnone : rest.takeWhile isNameChar = [] := by
      cases rest with
      | nil => rfl
      | cons c r => simp [(hnext c rfl).2]
    rw [pieces.eq_3 rest hbrace, hnone, ih]
  | @bare name rest ps hne hname hmax _ ih =>
    obtain ⟨c, cs, rfl⟩ := List.exists_cons_of_ne_nil hne
    have hbrace : ∀ r, (c :: cs) ++ rest = '{' :: r → False := by
      intro r hr
      have hc : c = '{' := (List.cons.inj hr).1
      have := hname c List.mem_cons_self
      rw [hc, isNameChar_brace] at this
      cases this
    obtain ⟨htake, hdrop⟩ := takeWhile_append_of_maximal hname hmax
    rw [pieces.eq_3 _ hbrace, htake, hdrop, ih]
  | @braced name rest ps hname _ ih =>
    obtain ⟨htake, hdrop⟩ := @takeWhile_append_of_maximal isBracedChar name ('}' :: rest)
      (fun c hc => isBracedChar_iff.2 fun h => hname (h ▸ hc)) (fun c hc => by
        rw [List.head?_cons, Option.mem_some_iff] at hc
        simp [← hc, isBracedChar])
    rw [pieces.eq_2, htake, hdrop, List.drop_one, List.tail_cons, ih]
  | @unclosed name hname =>
    obtain ⟨htake, hdrop⟩ := @takeWhile_append_of_maximal isBracedChar name []
      (fun c hc => isBracedChar_iff.2 fun h => hname (h ▸ hc)) (by simp)
    rw [List.append_nil] at htake hdrop
    rw [pieces.eq_2, htake, hdrop, List.drop_nil, pieces.eq_1]

/-- A text has exactly one reading. -/
theorem reads_unique {cs : List Char} {ps qs : List Piece} (hp : Reads cs ps) (hq : Reads cs qs) :
    ps = qs :=
  (pieces_of_reads hp).symm.trans (pieces_of_reads hq)

section FirstUndefined

variable (env : Environment) (names : List String)

theorem find?_undefined_eq_none_iff :
    names.find? (fun n => (env.get? n).isNone) = none ↔ ∀ n ∈ names, (env.get? n).isSome := by
  simp [List.find?_eq_none, Option.isSome_iff_ne_none]

theorem find?_undefined_eq_some_iff {n : String} :
    names.find? (fun n => (env.get? n).isNone) = some n ↔
      ∃ pre post, names = pre ++ n :: post ∧ (∀ m ∈ pre, (env.get? m).isSome) ∧
        env.get? n = none := by
  rw [List.find?_eq_some_iff_append, Option.isNone_iff_eq_none]
  constructor
  · rintro ⟨hn, pre, post, rfl, hpre⟩
    exact ⟨pre, post, rfl, fun m hm => by simpa using hpre m hm, hn⟩
  · rintro ⟨pre, post, rfl, hpre, hn⟩
    exact ⟨hn, pre, post, rfl, fun m hm => by simpa using hpre m hm⟩

end FirstUndefined

/-- Expansion fails with the first reference to an undefined variable, and otherwise writes the
text's reading with each reference replaced by its value. -/
theorem expand_eq (env : Environment) (s : String) :
    env.expand s =
      match (references s).find? fun n => (env.get? n).isNone with
      | some n => .error (.missingEnvVar n)
      | none => .ok (String.ofList (substitute env (pieces s.toList))) := by
  rw [expand, expandChars_eq_outcome, outcome_eq, references, referencesIn_eq_referenced]
  cases (referenced (pieces s.toList)).find? fun n => (env.get? n).isNone <;> rfl

/-- Expansion follows the grammar of references. A text has exactly one reading, and the
variables it refers to are those of its references, in order. Expansion succeeds exactly when
each of them is defined, and then writes the reading with every reference replaced by its
variable's value as it is, never expanded again; otherwise it fails naming the first reference
to an undefined variable. -/
theorem expand_reads_references (env : Environment) (s : String) :
    ∃ ps, Reads s.toList ps ∧ (∀ qs, Reads s.toList qs → qs = ps) ∧
      references s = referenced ps ∧
      (∀ out, env.expand s = .ok out ↔
        (∀ n ∈ referenced ps, (env.get? n).isSome) ∧ out = String.ofList (substitute env ps)) ∧
      (∀ e, env.expand s = .error e ↔
        ∃ pre n post, referenced ps = pre ++ n :: post ∧ (∀ m ∈ pre, (env.get? m).isSome) ∧
          env.get? n = none ∧ e = .missingEnvVar n) := by
  refine ⟨pieces s.toList, reads_pieces _, fun qs hq => reads_unique hq (reads_pieces _),
    referencesIn_eq_referenced _, fun out => ?_, fun e => ?_⟩
  · rw [expand_eq, references, referencesIn_eq_referenced, ← find?_undefined_eq_none_iff]
    cases (referenced (pieces s.toList)).find? fun n => (env.get? n).isNone with
    | some n => simp
    | none => exact ⟨fun h => ⟨rfl, (Except.ok.inj h).symm⟩, fun ⟨_, h⟩ => h ▸ rfl⟩
  · rw [expand_eq, references, referencesIn_eq_referenced]
    constructor
    · intro h
      cases hfind : (referenced (pieces s.toList)).find? fun n => (env.get? n).isNone with
      | none => rw [hfind] at h; cases h
      | some n =>
        rw [hfind] at h
        obtain ⟨pre, post, hsplit, hpre, hn⟩ := (find?_undefined_eq_some_iff _ _).1 hfind
        exact ⟨pre, n, post, hsplit, hpre, hn, (Except.error.inj h).symm⟩
    · rintro ⟨pre, n, post, hsplit, hpre, hn, rfl⟩
      rw [(find?_undefined_eq_some_iff _ _).2 ⟨pre, post, hsplit, hpre, hn⟩]

end ScimQuery.Environment
