import ScimQuery.Text.Blank

/-! # SQL tokens

The text of SQL statements splits into words (names and keywords), quoted names (in
double quotes, backquotes or brackets), string literals in single quotes, numbers and
symbols. A number is decimal, or hexadecimal after `0x`. Blanks and comments (`--` to the end of the line, `/* … */`) separate tokens. A
doubled quote inside a quoted name or string stands for one quote. A string or quoted
name without its closing quote is an unrecognized token, which ends the tokens.
-/

namespace ScimQuery.Store

/-- A kind of SQL token. -/
inductive TokenKind where
  | word
  | quoted
  | string
  | number
  | symbol
  /-- text that is no token: the rest of the statement cannot be read -/
  | unrecognized
deriving DecidableEq, Repr, Inhabited

/-- A token: its kind, its value and the text it was written as. -/
structure SqlToken where
  kind : TokenKind
  value : String
  raw : String
deriving Repr, Inhabited

/-- Whether a character may start a name. -/
def isWordStart (c : Char) : Bool := c.isAlpha || c = '_' || c.toNat ≥ 128

/-- Whether a character may continue a name. -/
def isWordChar (c : Char) : Bool := c.isAlphanum || c = '_' || c = '$' || c.toNat ≥ 128

/-- Reads up to a closing quote, a doubled quote standing for one; `none` when the
quote is never closed. Returns the content and the rest after the quote. -/
def readQuoted (close : Char) (doubled : Bool) : List Char → Option (List Char × List Char)
  | [] => none
  | c :: rest =>
    if c = close then
      match rest with
      | d :: rest' => if doubled && d = close then (readQuoted close doubled rest').map fun (s, r) => (close :: s, r)
        else some ([], rest)
      | [] => some ([], [])
    else (readQuoted close doubled rest).map fun (s, r) => (c :: s, r)

/-- Drops a comment that runs to the end of the line. -/
def dropLine (cs : List Char) : List Char := (cs.dropWhile (· ≠ '\n')).drop 1

/-- Drops a comment up to `*/`, or to the end. -/
def dropBlock : List Char → List Char
  | '*' :: '/' :: rest => rest
  | _ :: rest => dropBlock rest
  | [] => []

/-- The characters of a number: digits with a point and an exponent. -/
def numberPrefix (cs : List Char) : List Char × List Char :=
  let whole := cs.takeWhile Char.isDigit
  let rest := cs.dropWhile Char.isDigit
  let (fraction, rest) := match rest with
    | '.' :: r => ('.' :: r.takeWhile Char.isDigit, r.dropWhile Char.isDigit)
    | r => ([], r)
  let (exponent, rest) := match rest with
    | e :: r =>
      if e = 'e' || e = 'E' then
        let (sign, r') := match r with
          | '+' :: t => (['+'], t)
          | '-' :: t => (['-'], t)
          | t => ([], t)
        let digits := r'.takeWhile Char.isDigit
        if digits.isEmpty then ([], e :: r) else (e :: sign ++ digits, r'.dropWhile Char.isDigit)
      else ([], e :: r)
    | [] => ([], [])
  (whole ++ fraction ++ exponent, rest)

/-- Whether a character is a hexadecimal digit. -/
def isHexDigit (c : Char) : Bool :=
  c.isDigit || ('a' ≤ c && c ≤ 'f') || ('A' ≤ c && c ≤ 'F')

/-- Whether the characters after a `0` go on as a hexadecimal literal: an `x` and a
hexadecimal digit. -/
def startsHex : List Char → Bool
  | x :: h :: _ => (x = 'x' || x = 'X') && isHexDigit h
  | _ => false

/-- The characters of a hexadecimal literal after its `0`: the `x` and the digits. -/
def hexPrefix (cs : List Char) : List Char × List Char :=
  let digits := (cs.drop 1).takeWhile isHexDigit
  ('0' :: cs.take 1 ++ digits, (cs.drop 1).dropWhile isHexDigit)

/-- The symbols of two characters. -/
def twoCharSymbols : List String := ["<=", ">=", "<>", "!=", "==", "||", "<<", ">>"]

/-- Splits a text into tokens; `fuel` bounds the number of tokens. -/
def tokenizeFuel : Nat → List Char → List SqlToken
  | 0, _ => []
  | _, [] => []
  | fuel + 1, c :: rest =>
    if c = ' ' || c = '\t' || c = '\n' || c = '\r' || c = '\x0c' then tokenizeFuel fuel rest
    else if c = '-' && rest.head? = some '-' then tokenizeFuel fuel (dropLine rest)
    else if c = '/' && rest.head? = some '*' then tokenizeFuel fuel (dropBlock (rest.drop 1))
    else if c = '\'' then
      match readQuoted '\'' true rest with
      | some (s, r) => ⟨.string, String.ofList s, "'" ++ String.ofList s ++ "'"⟩ :: tokenizeFuel fuel r
      | none => [⟨.unrecognized, "", String.ofList (c :: rest)⟩]
    else if c = '"' || c = '`' then
      match readQuoted c true rest with
      | some (s, r) => ⟨.quoted, String.ofList s, String.ofList (c :: s ++ [c])⟩ :: tokenizeFuel fuel r
      | none => [⟨.unrecognized, "", String.ofList (c :: rest)⟩]
    else if c = '[' then
      match readQuoted ']' false rest with
      | some (s, r) => ⟨.quoted, String.ofList s, "[" ++ String.ofList s ++ "]"⟩ :: tokenizeFuel fuel r
      | none => [⟨.unrecognized, "", String.ofList (c :: rest)⟩]
    else if c.isDigit || (c = '.' && (rest.head?.map Char.isDigit).getD false) then
      let (n, r) := if c = '0' && startsHex rest then hexPrefix rest else numberPrefix (c :: rest)
      match r with
      | d :: _ =>
        if isWordChar d then [⟨.unrecognized, "", String.ofList (n ++ r.takeWhile isWordChar)⟩]
        else ⟨.number, String.ofList n, String.ofList n⟩ :: tokenizeFuel fuel r
      | [] => ⟨.number, String.ofList n, String.ofList n⟩ :: tokenizeFuel fuel r
    else if isWordStart c then
      let w := c :: rest.takeWhile isWordChar
      ⟨.word, String.ofList w, String.ofList w⟩ :: tokenizeFuel fuel (rest.dropWhile isWordChar)
    else
      let two := String.ofList [c, rest.head?.getD ' ']
      if twoCharSymbols.contains two then ⟨.symbol, two, two⟩ :: tokenizeFuel fuel (rest.drop 1)
      else if "(),;.=<>+-*/%&|~".toList.contains c then
        ⟨.symbol, String.singleton c, String.singleton c⟩ :: tokenizeFuel fuel rest
      else [⟨.unrecognized, "", String.singleton c⟩]

/-- The tokens of a text. -/
def tokenize (s : String) : List SqlToken := tokenizeFuel (s.length + 1) s.toList

end ScimQuery.Store
