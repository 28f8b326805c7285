import ScimQuery.Text.Blank

/-! # Attribute paths

An attribute path names an attribute of a resource: `name`, or `parent.name` for a
sub-attribute, optionally after a schema URI and a colon. A path is qualified when its
first four characters are `urn:` in any ASCII case; the schema is then everything before
the last colon. Each of the one or two names is `$ref` or an ASCII letter followed by
letters, digits, `_` and `-`. Reading trims the text first, and a text that is no path is
refused with the trimmed text itself.
-/

namespace ScimQuery

/-- An attribute path. -/
structure AttributePath where
  schema : Option String := none
  parent : Option String := none
  name : String
deriving DecidableEq, Repr, Inhabited

namespace AttributePath

/-- Whether a text is one name of a path: `$ref`, or an ASCII letter followed by ASCII
letters, digits, `_` and `-`. -/
def isName (s : String) : Bool :=
  s = "$ref" ||
    match s.toList with
    | c :: rest =>
      (c.isUpper || c.isLower) && rest.all fun d => d.isAlphanum || d = '_' || d = '-'
    | [] => false

/-- Splits a text at its last colon. -/
def splitLastColon (s : String) : Option (String × String) :=
  let cs := s.toList
  let after := (cs.reverse.takeWhile (· ≠ ':')).reverse
  if after.length = cs.length then none
  else some (String.ofList (cs.take (cs.length - after.length - 1)), String.ofList after)

/-- Reads a path from a text; `none` when the trimmed text is no path. -/
def parse? (input : String) : Option AttributePath :=
  let input := Text.trim input
  let qualified := (input.toList.take 4).map Text.asciiLower = "urn:".toList
  let split : Option (Option String × String) :=
    if qualified then
      match splitLastColon input with
      | some (schema, rest) => if rest.isEmpty then none else some (some schema, rest)
      | none => none
    else some (none, input)
  match split with
  | none => none
  | some (schema, rest) =>
    match (rest.toList.splitOn '.').map String.ofList with
    | [name] => if isName name then some ⟨schema, none, name⟩ else none
    | [parent, name] =>
      if isName parent && isName name then some ⟨schema, some parent, name⟩ else none
    | _ => none

/-- `parent.name`, or `name` alone. -/
def relative (p : AttributePath) : String :=
  match p.parent with
  | some parent => parent ++ "." ++ p.name
  | none => p.name

/-- The text of a path: the schema and a colon when there is a schema, then the
relative path. -/
def render (p : AttributePath) : String :=
  match p.schema with
  | some schema => schema ++ ":" ++ p.relative
  | none => p.relative

end AttributePath

end ScimQuery
