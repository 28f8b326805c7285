/-! # LIKE patterns for literal text

The patterns a comparison binds use `!` as their escape character. Escaping puts `!`
before every `%`, `_`, `[`, `]` and `!` of a text, so that the pattern matches exactly
that text; `%` before or after it then makes it match as a part, a prefix or a suffix.
-/

namespace ScimQuery.Like

/-- The escape character of the patterns. -/
def escapeChar : Char := '!'

/-- Whether a character has a meaning in a pattern. -/
def isSpecial (c : Char) : Bool := c = '%' || c = '_' || c = '[' || c = ']' || c = escapeChar

/-- The text with every special character escaped. -/
def escape (s : String) : String :=
  String.ofList (s.toList.flatMap fun c => if isSpecial c then [escapeChar, c] else [c])

theorem toList_escape (s : String) :
    (escape s).toList = s.toList.flatMap fun c => if isSpecial c then [escapeChar, c] else [c] := by
  simp [escape]

theorem escape_append (s t : String) : escape (s ++ t) = escape s ++ escape t := by
  apply String.toList_injective
  simp [toList_escape]

end ScimQuery.Like
