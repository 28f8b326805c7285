import ScimQuery.Filter.Value

/-! # Filter trees

A SCIM filter as a tree: comparisons of an attribute path with a literal, combined by
`and`, `or` and `not`. Its text is fully parenthesized: `(l and r)`, `(l or r)`,
`not (c)`, with `path pr` for a presence test and `path op value` otherwise.
-/

namespace ScimQuery

/-- A SCIM filter. -/
inductive FilterNode where
  | comparison (path : String) (op : CompareOp) (value : FilterValue)
  | and (l r : FilterNode)
  | or (l r : FilterNode)
  | not (c : FilterNode)
deriving Inhabited

namespace FilterNode

/-- The text of a filter. -/
def render : FilterNode → String
  | .comparison path .pr _ => path ++ " pr"
  | .comparison path op value => path ++ " " ++ op.name ++ " " ++ value.render
  | .and l r => "(" ++ l.render ++ " and " ++ r.render ++ ")"
  | .or l r => "(" ++ l.render ++ " or " ++ r.render ++ ")"
  | .not c => "not (" ++ c.render ++ ")"

/-- Equality of filters, literals compared by value. -/
def beq : FilterNode → FilterNode → Bool
  | .comparison p o v, .comparison p' o' v' => p == p' && o == o' && v == v'
  | .and l r, .and l' r' => beq l l' && beq r r'
  | .or l r, .or l' r' => beq l l' && beq r r'
  | .not c, .not c' => beq c c'
  | _, _ => false

instance : BEq FilterNode := ⟨beq⟩

/-- A comparison of `path` with `value` by `op`. -/
def compare (path : String) (op : CompareOp) (value : FilterValue) : FilterNode :=
  .comparison path op value

/-- A presence test: the attribute has a value. -/
def present (path : String) : FilterNode := .comparison path .pr .null

/-- An absence test: the attribute equals null. -/
def absent (path : String) : FilterNode := .comparison path .eq .null

end FilterNode

end ScimQuery
