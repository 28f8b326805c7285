import ScimQuery.Config.Settings
import ScimQuery.Text.Alphanumeric

/-! # Environment references

A text may refer to environment variables as `${NAME}` or `$NAME`. In the braced form the
name runs to the next `}` or to the end of the text, and may be empty. In the bare form it
is the longest run of alphanumeric characters and `_`; a `$` without such a run is kept as
it is. Each reference is replaced by the variable's value, which is not expanded again.
The first reference to an undefined variable is an error.
-/

namespace ScimQuery

/-- Environment variables, each name bound at most once. -/
structure Environment where
  vars : List (String × String) := []
deriving Repr, Inhabited

namespace Environment

/-- The value of a variable. -/
def get? (env : Environment) (name : String) : Option String :=
  (env.vars.find? (·.1 = name)).map (·.2)

/-- Binds a variable, replacing an earlier binding of the name. -/
def set (env : Environment) (name value : String) : Environment :=
  ⟨(name, value) :: env.vars.filter (·.1 ≠ name)⟩

/-- Binds variables in order; a later binding of a name wins. -/
def ofList (bindings : List (String × String)) : Environment :=
  bindings.foldl (fun env b => env.set b.1 b.2) {}

/-- Whether a character may continue a bare reference. -/
def isNameChar (c : Char) : Bool := Text.isAlphanumeric c || c = '_'

/-- Whether a character may continue a braced reference. -/
def isBracedChar (c : Char) : Bool := c != '}'

/-- The value of a referenced variable, or the error naming it. -/
def lookup (env : Environment) (name : List Char) : Except SettingsError (List Char) :=
  match env.get? (String.ofList name) with
  | some value => .ok value.toList
  | none => .error (.missingEnvVar (String.ofList name))

/-- Expands the references of a text given as characters. -/
def expandChars (env : Environment) : List Char → Except SettingsError (List Char)
  | [] => .ok []
  | '$' :: '{' :: rest => do
    let value ← env.lookup (rest.takeWhile isBracedChar)
    pure (value ++ (← expandChars env ((rest.dropWhile isBracedChar).drop 1)))
  | '$' :: rest =>
    match rest.takeWhile isNameChar with
    | [] => do pure ('$' :: (← expandChars env rest))
    | name => do
      let value ← env.lookup name
      pure (value ++ (← expandChars env (rest.dropWhile isNameChar)))
  | c :: rest => do pure (c :: (← expandChars env rest))
termination_by cs => cs.length
decreasing_by
  all_goals first
    | (have h := (@List.dropWhile_suffix _ rest isBracedChar).length_le; simp; omega)
    | (have h := (@List.dropWhile_suffix _ rest isNameChar).length_le; simp; omega)
    | simp

/-- The names of the variables a text given as characters refers to, in order. -/
def referencesIn : List Char → List String
  | [] => []
  | '$' :: '{' :: rest =>
    String.ofList (rest.takeWhile isBracedChar) :: referencesIn ((rest.dropWhile isBracedChar).drop 1)
  | '$' :: rest =>
    match rest.takeWhile isNameChar with
    | [] => referencesIn rest
    | name => String.ofList name :: referencesIn (rest.dropWhile isNameChar)
  | _ :: rest => referencesIn rest
termination_by cs => cs.length
decreasing_by
  all_goals first
    | (have h := (@List.dropWhile_suffix _ rest isBracedChar).length_le; simp; omega)
    | (have h := (@List.dropWhile_suffix _ rest isNameChar).length_le; simp; omega)
    | simp

/-- The names of the variables a text refers to: expanding it asks for no others. -/
def references (text : String) : List String := referencesIn text.toList

/-- Expands the references of a text. -/
def expand (env : Environment) (text : String) : Except SettingsError String :=
  (env.expandChars text.toList).map String.ofList

end Environment

end ScimQuery
