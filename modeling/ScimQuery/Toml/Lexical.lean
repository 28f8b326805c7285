import ScimQuery.Json.Basic
import ScimQuery.Json.Parse
import ScimQuery.Decimal.Nearest

/-! # TOML values written in place

Strings in their four forms, integers, floats, booleans and date-times, as TOML 1.0
writes them, with the escape `\e` for U+001B besides. A value is read from the front of
a list of characters and the rest is returned; anything that is not a value of the
grammar is refused.

Integers are decimal, with single underscores between digits and no leading zero, or
hexadecimal, octal or binary after `0x`, `0o`, `0b`; they must fit a signed or an unsigned
64-bit integer. Floats have a fraction, an exponent or both, or are `inf` or `nan`, and
read as the nearest binary64 value. A date-time is kept as its text under the key by
which date-times are told apart from tables, so that no field that expects a string or a
number accepts it.
-/

namespace ScimQuery.Toml

/-- The characters of a document. -/
abbrev Chars := List Char

/-- Space or tab. -/
def isSpace (c : Char) : Bool := c = ' ' || c = '\t'

/-- Space, tab or a line break. -/
def isSpaceOrBreak (c : Char) : Bool := isSpace c || c = '\n'

/-- A control character that may not stand in a string or a comment: all below U+0020
but the tab, and U+007F. -/
def isControl (c : Char) : Bool := (c.toNat < 0x20 && c ≠ '\t') || c.toNat = 0x7F

/-- A character of a bare key. -/
def isBareKeyChar (c : Char) : Bool :=
  ('A' ≤ c && c ≤ 'Z') || ('a' ≤ c && c ≤ 'z') || ('0' ≤ c && c ≤ '9') || c = '_' || c = '-'

/-- An ASCII decimal digit. -/
def isDigit (c : Char) : Bool := '0' ≤ c && c ≤ '9'

/-- The key under which a date-time value is kept. -/
def dateTimeKey : String := "$__toml_private_datetime"

/-- The character a Unicode escape stands for: a scalar value, no surrogate. -/
def scalar? (n : Nat) : Option Char :=
  if n < 0xD800 || (0xDFFF < n && n ≤ 0x10FFFF) then some (Char.ofNat n) else none

/-- The number written by hexadecimal digits. -/
def hexDigits? (ds : Chars) : Option Nat :=
  ds.foldlM (fun acc c => (Json.hexValue c).map (acc * 16 + ·)) 0

/-- The character of a one-letter escape. -/
def simpleEscape : Char → Option Char
  | 'b' => some '\x08'
  | 'e' => some '\x1b'
  | 't' => some '\t'
  | 'n' => some '\n'
  | 'f' => some '\x0c'
  | 'r' => some '\r'
  | '"' => some '"'
  | '\\' => some '\\'
  | _ => none

/-- Reads a basic string after its opening quote. -/
def basicString : Chars → Chars → Option (String × Chars)
  | [], _ => none
  | '"' :: rest, acc => some (String.ofList acc.reverse, rest)
  | '\\' :: 'u' :: a :: b :: c :: d :: rest, acc =>
    match (hexDigits? [a, b, c, d]).bind scalar? with
    | some ch => basicString rest (ch :: acc)
    | none => none
  | '\\' :: 'U' :: a :: b :: c :: d :: e :: f :: g :: h :: rest, acc =>
    match (hexDigits? [a, b, c, d, e, f, g, h]).bind scalar? with
    | some ch => basicString rest (ch :: acc)
    | none => none
  | '\\' :: e :: rest, acc =>
    match simpleEscape e with
    | some ch => basicString rest (ch :: acc)
    | none => none
  | c :: rest, acc => if isControl c then none else basicString rest (c :: acc)

/-- Reads a literal string after its opening apostrophe. -/
def literalString : Chars → Chars → Option (String × Chars)
  | [], _ => none
  | '\'' :: rest, acc => some (String.ofList acc.reverse, rest)
  | c :: rest, acc => if isControl c then none else literalString rest (c :: acc)

/-- Ends a multi-line string at three delimiters; one or two more right after them are
still part of the text. -/
def closeMultiLine (q : Char) (acc : Chars) (rest : Chars) : String × Chars :=
  match rest with
  | a :: b :: rest' =>
    if a = q && b = q then (String.ofList (q :: q :: acc).reverse, rest')
    else if a = q then (String.ofList (q :: acc).reverse, b :: rest')
    else (String.ofList acc.reverse, rest)
  | [a] => if a = q then (String.ofList (q :: acc).reverse, []) else (String.ofList acc.reverse, rest)
  | [] => (String.ofList acc.reverse, [])

/-- Reads a multi-line basic string after its opening delimiter and first line break. A
backslash at the end of a line drops the break and the blanks that follow it. -/
def multiLineBasic (cs : Chars) (acc : Chars) : Option (String × Chars) :=
  match cs with
  | [] => none
  | '"' :: '"' :: '"' :: rest => some (closeMultiLine '"' acc rest)
  | '\\' :: rest =>
    if (rest.dropWhile isSpace).head? = some '\n' then
      multiLineBasic (((rest.dropWhile isSpace).drop 1).dropWhile isSpaceOrBreak) acc
    else
      match rest with
      | 'u' :: a :: b :: c :: d :: more =>
        match (hexDigits? [a, b, c, d]).bind scalar? with
        | some ch => multiLineBasic more (ch :: acc)
        | none => none
      | 'U' :: a :: b :: c :: d :: e :: f :: g :: h :: more =>
        match (hexDigits? [a, b, c, d, e, f, g, h]).bind scalar? with
        | some ch => multiLineBasic more (ch :: acc)
        | none => none
      | e :: more =>
        match simpleEscape e with
        | some ch => multiLineBasic more (ch :: acc)
        | none => none
      | [] => none
  | c :: rest =>
    if c = '\n' || !isControl c then multiLineBasic rest (c :: acc) else none
termination_by cs.length
decreasing_by
  all_goals simp_wf
  all_goals (try omega)
  have h1 := (List.dropWhile_suffix (p := isSpace) (l := rest)).length_le
  have h2 := (List.dropWhile_suffix (p := isSpaceOrBreak)
    (l := (rest.dropWhile isSpace).tail)).length_le
  rw [List.length_tail] at h2
  omega

/-- Reads a multi-line literal string after its opening delimiter and first line break. -/
def multiLineLiteral : Chars → Chars → Option (String × Chars)
  | [], _ => none
  | '\'' :: '\'' :: '\'' :: rest, acc => some (closeMultiLine '\'' acc rest)
  | c :: rest, acc => if c = '\n' || !isControl c then multiLineLiteral rest (c :: acc) else none

/-- Drops the line break right after the opening delimiter of a multi-line string. -/
def dropFirstBreak : Chars → Chars
  | '\n' :: rest => rest
  | cs => cs

/-- Reads a string of any form. -/
def string? : Chars → Option (String × Chars)
  | '"' :: '"' :: '"' :: rest => multiLineBasic (dropFirstBreak rest) []
  | '"' :: rest => basicString rest []
  | '\'' :: '\'' :: '\'' :: rest => multiLineLiteral (dropFirstBreak rest) []
  | '\'' :: rest => literalString rest []
  | _ => none

/-- Whether a list has two underscores in a row. -/
def hasDoubleUnderscore : Chars → Bool
  | '_' :: '_' :: _ => true
  | _ :: rest => hasDoubleUnderscore rest
  | [] => false

/-- The digits of a run in which single underscores stand between digits. -/
def underscored (ok : Char → Bool) (cs : Chars) : Option Chars :=
  match cs.head?, cs.getLast? with
  | some a, some b =>
    if ok a && ok b && cs.all (fun c => ok c || c = '_') && !hasDoubleUnderscore cs then
      some (cs.filter (· ≠ '_'))
    else none
  | _, _ => none

/-- The value of digits in a base. -/
def digitsIn (base : Nat) (ds : Chars) : Nat :=
  ds.foldl (fun acc c => acc * base + ((Json.hexValue c).getD 0)) 0

/-- Whether an integer fits a signed or an unsigned 64-bit integer. -/
def fitsWord (n : Int) : Bool := Json.i64Min ≤ n && n ≤ Json.u64Max

/-- An integer value, when it fits. -/
def integer (n : Int) : Option Json := if fitsWord n then some (.int n) else none

/-- Reads an integer in a base after its prefix. -/
def prefixed (base : Nat) (ok : Char → Bool) (ds : Chars) : Option Json := do
  integer (digitsIn base (← underscored ok ds))

/-- Whether a character is an octal digit. -/
def isOctal (c : Char) : Bool := '0' ≤ c && c ≤ '7'

/-- Whether a character is a binary digit. -/
def isBinary (c : Char) : Bool := c = '0' || c = '1'

/-- Whether a character is a hexadecimal digit. -/
def isHex (c : Char) : Bool := (Json.hexValue c).isSome

/-- Reads a decimal integer or float from its text without the sign. -/
def decimal (negative : Bool) (body : Chars) : Option Json := do
  let intPart := body.takeWhile (fun c => isDigit c || c = '_')
  let intDigits ← underscored isDigit intPart
  if intDigits.length > 1 && intDigits.head? = some '0' then none
  match body.drop intPart.length with
  | [] =>
    let n : Int := Json.digitsValue intDigits
    integer (if negative then -n else n)
  | after =>
    let (fraction, after) : Option Chars × Chars := match after with
      | '.' :: r =>
        let f := r.takeWhile (fun c => isDigit c || c = '_')
        (some f, r.drop f.length)
      | r => (none, r)
    let fracDigits ← match fraction with
      | some f => (underscored isDigit f)
      | none => some []
    let exponent ← match after with
      | [] => if fraction.isSome then some (0 : Int) else none
      | e :: r =>
        if e = 'e' || e = 'E' then
          let (sign, r) : Int × Chars := match r with
            | '+' :: r' => (1, r')
            | '-' :: r' => (-1, r')
            | r' => (1, r')
          (underscored isDigit r).map fun ds => sign * (Json.digitsValue ds : Int)
        else none
    pure (.float (Decimal.nearest negative (Json.digitsValue (intDigits ++ fracDigits))
      (exponent - fracDigits.length)))

/-- Reads a number from its whole text. -/
def number? (token : Chars) : Option Json :=
  let (negative, signed, body) : Bool × Bool × Chars := match token with
    | '+' :: r => (false, true, r)
    | '-' :: r => (true, true, r)
    | r => (false, false, r)
  match body with
  | ['i', 'n', 'f'] => some (.float (Float.ofBits (Decimal.infinityBits negative)))
  | ['n', 'a', 'n'] => some (.float (0.0 / 0.0))
  | '0' :: 'x' :: ds => if signed then none else prefixed 16 isHex ds
  | '0' :: 'o' :: ds => if signed then none else prefixed 8 isOctal ds
  | '0' :: 'b' :: ds => if signed then none else prefixed 2 isBinary ds
  | _ => decimal negative body

/-- The value of two decimal digits. -/
def twoDigits : Chars → Option Nat
  | [a, b] => if isDigit a && isDigit b then some ((a.toNat - 48) * 10 + (b.toNat - 48)) else none
  | _ => none

/-- The number of days of a month. -/
def daysIn (year month : Nat) : Nat :=
  if month = 2 then
    (if year % 4 = 0 && (year % 100 ≠ 0 || year % 400 = 0) then 29 else 28)
  else if month = 4 || month = 6 || month = 9 || month = 11 then 30
  else 31

/-- Reads a date `YYYY-MM-DD`. -/
def date? (cs : Chars) : Option Chars := do
  let text := cs.take 10
  match text with
  | [y1, y2, y3, y4, '-', m1, m2, '-', d1, d2] =>
    if !([y1, y2, y3, y4].all isDigit) then none
    let year := Json.digitsValue [y1, y2, y3, y4]
    let month ← twoDigits [m1, m2]
    let day ← twoDigits [d1, d2]
    if month < 1 || month > 12 || day < 1 || day > daysIn year month then none
    pure text
  | _ => none

/-- Reads a time `HH:MM:SS` with an optional fraction of a second. -/
def time? (cs : Chars) : Option Chars := do
  match cs.take 8 with
  | [h1, h2, ':', m1, m2, ':', s1, s2] =>
    let hour ← twoDigits [h1, h2]
    let minute ← twoDigits [m1, m2]
    let second ← twoDigits [s1, s2]
    if hour > 23 || minute > 59 || second > 60 then none
    match cs.drop 8 with
    | '.' :: r =>
      let frac := r.takeWhile isDigit
      if frac.isEmpty then none else pure (cs.take (9 + frac.length))
    | _ => pure (cs.take 8)
  | _ => none

/-- Reads a time offset: `Z` or a signed `HH:MM`; none is the empty text. -/
def offset? (cs : Chars) : Option Chars :=
  match cs with
  | 'Z' :: _ | 'z' :: _ => some (cs.take 1)
  | s :: h1 :: h2 :: ':' :: m1 :: m2 :: _ =>
    if s = '+' || s = '-' then do
      let hour ← twoDigits [h1, h2]
      let minute ← twoDigits [m1, m2]
      if hour > 23 || minute > 59 then none else pure (cs.take 6)
    else some []
  | _ => some []

/-- Reads a date-time, a date or a time at the front of the text. -/
def dateTime? (cs : Chars) : Option (Json × Chars) := do
  let keep (text : Chars) : Json := .obj [(dateTimeKey, .str (String.ofList text))]
  match date? cs with
  | some d =>
    let rest := cs.drop d.length
    match rest with
    | sep :: more =>
      if sep = 'T' || sep = 't' || (sep = ' ' && (time? more).isSome) then
        let t ← time? more
        let o ← offset? (more.drop t.length)
        let text := d ++ [sep] ++ t ++ o
        pure (keep text, cs.drop text.length)
      else pure (keep d, rest)
    | [] => pure (keep d, rest)
  | none =>
    let t ← time? cs
    pure (keep t, cs.drop t.length)

/-- Whether the text starts like a date or a time. -/
def startsDateTime (cs : Chars) : Bool :=
  match cs with
  | a :: b :: c :: d :: '-' :: _ => isDigit a && isDigit b && isDigit c && isDigit d
  | a :: b :: ':' :: _ => isDigit a && isDigit b
  | _ => false

/-- A character that can stand in the text of a number. -/
def isNumberChar (c : Char) : Bool := isBareKeyChar c || c = '+' || c = '.'

/-- Reads a value that is not an array or an inline table. -/
def scalarValue? (cs : Chars) : Option (Json × Chars) :=
  match cs with
  | '"' :: _ | '\'' :: _ => (string? cs).map fun (s, rest) => (.str s, rest)
  | 't' :: 'r' :: 'u' :: 'e' :: rest => some (.bool true, rest)
  | 'f' :: 'a' :: 'l' :: 's' :: 'e' :: rest => some (.bool false, rest)
  | _ =>
    if startsDateTime cs then dateTime? cs
    else
      let token := cs.takeWhile isNumberChar
      if token.isEmpty then none
      else (number? token).map fun v => (v, cs.drop token.length)

end ScimQuery.Toml
