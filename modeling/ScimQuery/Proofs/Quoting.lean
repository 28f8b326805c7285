import ScimQuery.Sql.Dialect

/-! # Quoted identifiers and literals read back

Each dialect's lexer reads a quoted text from its opening delimiter to the first closing
delimiter that is not part of an escape. In the doubled scheme, used for identifiers by every
dialect and for text literals by PostgreSQL, SQLite and T-SQL, two closing delimiters stand for
one. MySQL also reads backslash escapes in text literals (`readBackslashed`).

Quoting is contained when reading the quoted text back, followed by anything that does not
start with a closing delimiter, gives the text and stops at its last character. This holds for
every identifier and for the literals of the doubled scheme. A MySQL literal is contained only
when every backslash of the text is followed by `%` or `_`, the two escapes that MySQL reads as
themselves: quoting doubles the quote but leaves the backslash, so `'\'` does not close.
-/

namespace ScimQuery.Sql.Dialect

/-- A text with every `closing` doubled, as quoting writes it between its delimiters. -/
def doubling (closing : Char) (cs : List Char) : List Char :=
  cs.flatMap fun c => if c = closing then [c, c] else [c]

@[simp] theorem doubling_nil (closing : Char) : doubling closing [] = [] := rfl

theorem doubling_cons_closing (closing : Char) (cs : List Char) :
    doubling closing (closing :: cs) = closing :: closing :: doubling closing cs := by
  simp [doubling]

theorem doubling_cons_of_ne {closing c : Char} (cs : List Char) (hc : c ≠ closing) :
    doubling closing (c :: cs) = c :: doubling closing cs := by
  simp [doubling, hc]

theorem toList_wrap_append (opening closing : Char) (s : String) (tail : List Char) :
    (wrap opening closing s).toList ++ tail =
      opening :: (doubling closing s.toList ++ closing :: tail) := by
  simp [toList_wrap, doubling]

/-! ### The doubled scheme -/

/-- Reads the rest of a quoted text after its opening delimiter, two `closing` standing for
one: the text, and what follows its closing delimiter. -/
def readDoubled (closing : Char) : List Char → Option (List Char × List Char)
  | [] => none
  | c :: rest =>
    if c = closing then
      match rest with
      | d :: rest' =>
        if d = closing then (readDoubled closing rest').map fun (t, r) => (closing :: t, r)
        else some ([], rest)
      | [] => some ([], [])
    else (readDoubled closing rest).map fun (t, r) => (c :: t, r)

section ReadDoubled

variable {closing c : Char} {rest : List Char}

theorem readDoubled_closing_closing :
    readDoubled closing (closing :: closing :: rest) =
      (readDoubled closing rest).map fun (t, r) => (closing :: t, r) := by
  simp [readDoubled]

theorem readDoubled_closing (hnext : ∀ d ∈ rest.head?, d ≠ closing) :
    readDoubled closing (closing :: rest) = some ([], rest) := by
  cases rest with
  | nil => simp [readDoubled]
  | cons d rest => simp [readDoubled, hnext d rfl]

theorem readDoubled_cons_of_ne (hc : c ≠ closing) :
    readDoubled closing (c :: rest) = (readDoubled closing rest).map fun (t, r) => (c :: t, r) := by
  cases rest <;> simp [readDoubled, hc]

end ReadDoubled

theorem readDoubled_doubling (closing : Char) (cs : List Char) {tail : List Char}
    (htail : ∀ c ∈ tail.head?, c ≠ closing) :
    readDoubled closing (doubling closing cs ++ closing :: tail) = some (cs, tail) := by
  induction cs with
  | nil => exact readDoubled_closing htail
  | cons c cs ih =>
    by_cases hc : c = closing
    · subst hc
      simp [doubling_cons_closing, readDoubled_closing_closing, ih]
    · simp [doubling_cons_of_ne cs hc, readDoubled_cons_of_ne hc, ih]

/-! ### MySQL's backslash escapes -/

/-- What a backslash escape stands for in a MySQL text literal: `\0`, `\b`, `\n`, `\r`, `\t`
and `\Z` are control characters, `\%` and `\_` keep their backslash, and any other escaped
character stands for itself. -/
def unescape : Char → List Char
  | '0' => ['\x00']
  | 'b' => ['\x08']
  | 'n' => ['\n']
  | 'r' => ['\r']
  | 't' => ['\t']
  | 'Z' => ['\x1a']
  | '%' => ['\\', '%']
  | '_' => ['\\', '_']
  | c => [c]

/-- Reads the rest of a MySQL text literal after its opening quote: two quotes stand for one,
and a backslash escapes the character after it. -/
def readBackslashed : List Char → Option (List Char × List Char)
  | [] => none
  | '\'' :: '\'' :: rest => (readBackslashed rest).map fun (t, r) => ('\'' :: t, r)
  | '\'' :: rest => some ([], rest)
  | '\\' :: c :: rest => (readBackslashed rest).map fun (t, r) => (unescape c ++ t, r)
  | ['\\'] => none
  | c :: rest => (readBackslashed rest).map fun (t, r) => (c :: t, r)

/-- Whether every backslash of a text is followed by `%` or `_`. -/
def backslashesKept : List Char → Bool
  | [] => true
  | '\\' :: c :: rest => (c == '%' || c == '_') && backslashesKept rest
  | ['\\'] => false
  | _ :: rest => backslashesKept rest

section ReadBackslashed

variable {c : Char} {rest : List Char}

theorem readBackslashed_quote_quote :
    readBackslashed ('\'' :: '\'' :: rest) =
      (readBackslashed rest).map fun (t, r) => ('\'' :: t, r) := by
  simp [readBackslashed]

theorem readBackslashed_quote (hnext : ∀ d ∈ rest.head?, d ≠ '\'') :
    readBackslashed ('\'' :: rest) = some ([], rest) := by
  cases rest with
  | nil => simp [readBackslashed]
  | cons d rest => simp [readBackslashed, hnext d rfl]

theorem readBackslashed_backslash :
    readBackslashed ('\\' :: c :: rest) =
      (readBackslashed rest).map fun (t, r) => (unescape c ++ t, r) := by
  simp [readBackslashed]

theorem readBackslashed_cons (hq : c ≠ '\'') (hb : c ≠ '\\') :
    readBackslashed (c :: rest) = (readBackslashed rest).map fun (t, r) => (c :: t, r) := by
  cases rest <;> simp [readBackslashed, hq, hb]

end ReadBackslashed

theorem exists_of_map_eq_some {f : List Char → List Char} {o : Option (List Char × List Char)}
    {v r : List Char} (h : (o.map fun (t, r) => (f t, r)) = some (v, r)) :
    ∃ t, o = some (t, r) ∧ v = f t := by
  obtain ⟨⟨t, r'⟩, ho, heq⟩ := Option.map_eq_some_iff.1 h
  obtain ⟨rfl, rfl⟩ := Prod.mk.inj heq
  exact ⟨t, ho, rfl⟩

theorem length_lt_of_readBackslashed {l t r : List Char} (h : readBackslashed l = some (t, r)) :
    r.length < l.length := by
  fun_induction readBackslashed l generalizing t r with
  | case1 | case5 => cases h
  | case3 rest _ =>
    cases h
    exact Nat.lt_succ_self _
  | case2 rest ih | case4 _ rest ih | case6 _ rest _ _ _ _ ih =>
    obtain ⟨t', hr, -⟩ := exists_of_map_eq_some h
    have := ih hr
    simp only [List.length_cons]
    omega

theorem ne_backslash_of_not_escape {c : Char} {rest : List Char}
    (hcons : ∀ d r, c = '\\' → rest = d :: r → False) (hnil : c = '\\' → rest = [] → False) :
    c ≠ '\\' := fun hc => by
  cases rest with
  | nil => exact hnil hc rfl
  | cons d r => exact hcons d r hc rfl

theorem readBackslashed_doubling_cons {c : Char} (hb : c ≠ '\\') (rest tail : List Char) :
    readBackslashed (doubling '\'' (c :: rest) ++ tail) =
      (readBackslashed (doubling '\'' rest ++ tail)).map fun (t, r) => (c :: t, r) := by
  by_cases hq : c = '\''
  · subst hq
    rw [doubling_cons_closing, List.cons_append, List.cons_append, readBackslashed_quote_quote]
  · rw [doubling_cons_of_ne _ hq, List.cons_append, readBackslashed_cons hq hb]

theorem readBackslashed_doubling_escape {c : Char} (hq : c ≠ '\'') (rest tail : List Char) :
    readBackslashed (doubling '\'' ('\\' :: c :: rest) ++ tail) =
      (readBackslashed (doubling '\'' rest ++ tail)).map fun (t, r) => (unescape c ++ t, r) := by
  rw [doubling_cons_of_ne _ (by decide), doubling_cons_of_ne _ hq, List.cons_append,
    List.cons_append, readBackslashed_backslash]

theorem readBackslashed_doubling {cs tail : List Char} (hkept : backslashesKept cs = true)
    (htail : ∀ c ∈ tail.head?, c ≠ '\'') :
    readBackslashed (doubling '\'' cs ++ '\'' :: tail) = some (cs, tail) := by
  fun_induction backslashesKept cs with
  | case1 => exact readBackslashed_quote htail
  | case2 c rest ih =>
    simp only [Bool.and_eq_true, Bool.or_eq_true, beq_iff_eq] at hkept
    obtain ⟨hc, hrest⟩ := hkept
    have hq : c ≠ '\'' := by rcases hc with rfl | rfl <;> decide
    have hu : unescape c = ['\\', c] := by rcases hc with rfl | rfl <;> rfl
    rw [readBackslashed_doubling_escape hq, ih hrest, hu]
    rfl
  | case3 => cases hkept
  | case4 c rest hcons hnil ih =>
    rw [readBackslashed_doubling_cons (ne_backslash_of_not_escape hcons hnil), ih hkept]
    rfl

theorem length_unescape_le (c : Char) : (unescape c).length ≤ 2 := by
  unfold unescape
  split <;> simp

theorem unescape_eq_singleton {c : Char} (hp : c ≠ '%') (hu : c ≠ '_') :
    ∃ e, unescape c = [e] ∧ (e = '\\' → c = '\\') := by
  unfold unescape
  split <;> simp_all

/-- Reading from the second quote of a doubled quote never stops right after the quoted text:
it closes early or runs on past it. -/
theorem readBackslashed_second_quote (cs tail : List Char) {v : List Char} :
    readBackslashed ('\'' :: (doubling '\'' cs ++ '\'' :: tail)) ≠ some (v, tail) := by
  induction cs generalizing v with
  | nil =>
    intro h
    rw [doubling_nil, List.nil_append, readBackslashed_quote_quote] at h
    obtain ⟨t, hr, -⟩ := exists_of_map_eq_some h
    exact Nat.lt_irrefl _ (length_lt_of_readBackslashed hr)
  | cons c cs ih =>
    intro h
    by_cases hq : c = '\''
    · subst hq
      rw [doubling_cons_closing, List.cons_append, List.cons_append,
        readBackslashed_quote_quote] at h
      obtain ⟨t, hr, -⟩ := exists_of_map_eq_some h
      exact ih hr
    · -- the quote is followed by another character, so it closes the literal early
      rw [doubling_cons_of_ne _ hq, List.cons_append,
        readBackslashed_quote (by simpa using hq)] at h
      have hlen := congrArg (List.length ∘ Prod.snd) (Option.some.inj h)
      simp only [Function.comp_apply, List.length_cons, List.length_append] at hlen
      omega

/-- A backslash before a quote of the text lets the literal run on past its end. -/
theorem readBackslashed_escaped_quote (rest tail : List Char) {v : List Char} :
    readBackslashed (doubling '\'' ('\\' :: '\'' :: rest) ++ '\'' :: tail) ≠ some (v, tail) := by
  intro h
  rw [doubling_cons_of_ne _ (by decide), doubling_cons_closing, List.cons_append,
    List.cons_append, List.cons_append, readBackslashed_backslash] at h
  obtain ⟨t, hr, -⟩ := exists_of_map_eq_some h
  exact readBackslashed_second_quote rest tail hr

theorem readBackslashed_escaped_closing (tail : List Char) {v : List Char} :
    readBackslashed (doubling '\'' ['\\'] ++ '\'' :: tail) ≠ some (v, tail) := by
  intro h
  rw [doubling_cons_of_ne _ (by decide), doubling_nil, List.cons_append, List.nil_append,
    readBackslashed_backslash] at h
  obtain ⟨t, hr, -⟩ := exists_of_map_eq_some h
  exact Nat.lt_irrefl _ (length_lt_of_readBackslashed hr)

section ReadBack

variable {tail : List Char} (htail : ∀ c ∈ tail.head?, c ≠ '\'')
include htail

/-- Reading a quoted text that stops right after it gives at most as many characters as the
text has: an escape reads two characters as at most two. -/
theorem length_le_of_readBackslashed {cs v : List Char}
    (h : readBackslashed (doubling '\'' cs ++ '\'' :: tail) = some (v, tail)) :
    v.length ≤ cs.length := by
  fun_induction backslashesKept cs generalizing v with
  | case1 =>
    rw [doubling_nil, List.nil_append, readBackslashed_quote htail] at h
    cases h
    exact Nat.le_refl 0
  | case2 c rest ih =>
    by_cases hq : c = '\''
    · subst hq
      exact absurd h (readBackslashed_escaped_quote rest tail)
    rw [readBackslashed_doubling_escape hq] at h
    obtain ⟨t, hr, rfl⟩ := exists_of_map_eq_some h
    have ht := ih hr
    have hu := length_unescape_le c
    simp only [List.length_append, List.length_cons]
    omega
  | case3 => exact absurd h (readBackslashed_escaped_closing tail)
  | case4 c rest hcons hnil ih =>
    rw [readBackslashed_doubling_cons (ne_backslash_of_not_escape hcons hnil)] at h
    obtain ⟨t, hr, rfl⟩ := exists_of_map_eq_some h
    simpa using ih hr

/-- A quoted text reads back only if its backslashes are all kept. -/
theorem backslashesKept_of_readBackslashed {cs : List Char}
    (h : readBackslashed (doubling '\'' cs ++ '\'' :: tail) = some (cs, tail)) :
    backslashesKept cs = true := by
  fun_induction backslashesKept cs with
  | case1 => rfl
  | case2 c rest ih =>
    by_cases hq : c = '\''
    · subst hq
      exact absurd h (readBackslashed_escaped_quote rest tail)
    rw [readBackslashed_doubling_escape hq] at h
    obtain ⟨t, hr, hv⟩ := exists_of_map_eq_some h
    by_cases hk : c = '%' ∨ c = '_'
    · have hu : unescape c = ['\\', c] := by rcases hk with rfl | rfl <;> rfl
      rw [hu] at hv
      obtain rfl : rest = t := by simpa using hv
      simpa [hk] using ih hr
    · -- any other escape reads as one character: a backslash from `\\` leaves the rest one
      -- character too long, and anything else differs from the backslash
      rw [not_or] at hk
      obtain ⟨e, hu, he⟩ := unescape_eq_singleton hk.1 hk.2
      rw [hu, List.singleton_append, List.cons.injEq] at hv
      obtain rfl : c = '\\' := he hv.1.symm
      have hlen := length_le_of_readBackslashed htail hr
      rw [← hv.2, List.length_cons] at hlen
      omega
  | case3 => exact absurd h (readBackslashed_escaped_closing tail)
  | case4 c rest hcons hnil ih =>
    rw [readBackslashed_doubling_cons (ne_backslash_of_not_escape hcons hnil)] at h
    obtain ⟨t, hr, hv⟩ := exists_of_map_eq_some h
    obtain rfl : rest = t := by simpa using hv
    exact ih hr

/-- A MySQL text literal reads back, stopping at its last character, exactly when every
backslash of the text is followed by `%` or `_`. -/
theorem readBackslashed_doubling_iff (cs : List Char) :
    readBackslashed (doubling '\'' cs ++ '\'' :: tail) = some (cs, tail) ↔
      backslashesKept cs = true :=
  ⟨backslashesKept_of_readBackslashed htail, fun hkept => readBackslashed_doubling hkept htail⟩

end ReadBack

/-! ### Each dialect's rules -/

/-- The delimiters of a quoted identifier: double quotes, backticks in MySQL, brackets in
T-SQL. -/
def identDelimiters : Dialect → Char × Char
  | .mysql => ('`', '`')
  | .tsql => ('[', ']')
  | _ => ('"', '"')

theorem quoteIdent_eq_wrap (d : Dialect) (s : String) :
    d.quoteIdent s = wrap d.identDelimiters.1 d.identDelimiters.2 s := by
  cases d <;> rfl

/-- Reads a quoted identifier: its opening delimiter, then the doubled scheme. -/
def readIdent (d : Dialect) : List Char → Option (List Char × List Char)
  | c :: rest => if c = d.identDelimiters.1 then readDoubled d.identDelimiters.2 rest else none
  | [] => none

/-- Reads a text literal: a quote, or `N` and a quote in T-SQL, then the doubled scheme, or
backslash escapes in MySQL. -/
def readString (d : Dialect) : List Char → Option (List Char × List Char)
  | 'N' :: '\'' :: rest => if d = .tsql then readDoubled '\'' rest else none
  | '\'' :: rest => if d = .mysql then readBackslashed rest else readDoubled '\'' rest
  | _ => none

theorem quoteString_of_ne_tsql {d : Dialect} (hd : d ≠ .tsql) (s : String) :
    d.quoteString s = wrap '\'' '\'' s := by
  cases d
  all_goals first | rfl | exact absurd rfl hd

theorem readString_quote (d : Dialect) (rest : List Char) :
    readString d ('\'' :: rest) =
      if d = .mysql then readBackslashed rest else readDoubled '\'' rest := by
  cases rest <;> rfl

theorem readString_unicode (d : Dialect) (rest : List Char) :
    readString d ('N' :: '\'' :: rest) = if d = .tsql then readDoubled '\'' rest else none := by
  rfl

theorem readIdent_quoteIdent (d : Dialect) (s : String) {tail : List Char}
    (htail : ∀ c ∈ tail.head?, c ≠ d.identDelimiters.2) :
    readIdent d ((d.quoteIdent s).toList ++ tail) = some (s.toList, tail) := by
  rw [quoteIdent_eq_wrap, toList_wrap_append, readIdent, if_pos rfl]
  exact readDoubled_doubling _ _ htail

/-- A text literal reads back and stops at its last character, in MySQL exactly when every
backslash of the text is followed by `%` or `_`. -/
theorem readString_quoteString_iff (d : Dialect) (s : String) {tail : List Char}
    (htail : ∀ c ∈ tail.head?, c ≠ '\'') :
    readString d ((d.quoteString s).toList ++ tail) = some (s.toList, tail) ↔
      (d = .mysql → backslashesKept s.toList = true) := by
  have hdoubled := readDoubled_doubling '\'' s.toList htail
  cases d with
  | mysql =>
    rw [quoteString_of_ne_tsql (by decide), toList_wrap_append, readString_quote, if_pos rfl,
      readBackslashed_doubling_iff htail]
    simp
  | tsql =>
    rw [quoteString]
    split
    · rw [toList_wrap_append, readString_quote, if_neg (by decide), hdoubled]
      simp
    · rw [String.toList_append, List.append_assoc, toList_wrap_append]
      rw [show "N".toList = ['N'] from rfl, List.singleton_append, readString_unicode,
        if_pos rfl, hdoubled]
      simp
  | postgres | sqlite =>
    rw [quoteString_of_ne_tsql (by decide), toList_wrap_append, readString_quote, if_neg (by decide), hdoubled]
    simp

/-- Quoting holds where each dialect's lexer reads doubled delimiters. A quoted identifier,
followed by anything that does not start with its closing delimiter, reads back as the
identifier and stops at its last character, in every dialect. A quoted text literal does the
same, in MySQL exactly when every backslash of the text is followed by `%` or `_`. -/
theorem quoting_reads_back (d : Dialect) (s : String) :
    (∀ tail : List Char, (∀ c ∈ tail.head?, c ≠ d.identDelimiters.2) →
      readIdent d ((d.quoteIdent s).toList ++ tail) = some (s.toList, tail)) ∧
    (∀ tail : List Char, (∀ c ∈ tail.head?, c ≠ '\'') →
      (readString d ((d.quoteString s).toList ++ tail) = some (s.toList, tail) ↔
        (d = .mysql → backslashesKept s.toList = true))) :=
  ⟨fun _ htail => readIdent_quoteIdent d s htail,
    fun _ htail => readString_quoteString_iff d s htail⟩

/-- The MySQL literal of a lone backslash does not close: its backslash escapes the closing
quote. -/
theorem mysql_backslash_literal_unclosed :
    readString .mysql (Dialect.mysql.quoteString "\\").toList = none := by
  rw [quoteString_of_ne_tsql (by decide), toList_wrap]
  rfl

end ScimQuery.Sql.Dialect
