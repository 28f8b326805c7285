import ScimQuery.Text.Blank

/-! # SQL dialects

The four dialects differ in how they quote identifiers, write text and boolean literals,
number parameters and page results. Quoting doubles the closing delimiter inside the
quoted text, so that a quoted text always ends at its last character.
-/

namespace ScimQuery.Sql

/-- A SQL dialect. -/
inductive Dialect where
  | postgres
  | mysql
  | sqlite
  | tsql
deriving DecidableEq, Repr, Inhabited

namespace Dialect

/-- All dialects, in the order answers list them by default. -/
def all : List Dialect := [.postgres, .mysql, .sqlite, .tsql]

/-- The name of a dialect. -/
def name : Dialect → String
  | .postgres => "postgres"
  | .mysql => "mysql"
  | .sqlite => "sqlite"
  | .tsql => "tsql"

/-- The dialect of a name, which must be written exactly as `name` writes it. -/
def ofName? : String → Option Dialect
  | "postgres" => some .postgres
  | "mysql" => some .mysql
  | "sqlite" => some .sqlite
  | "tsql" => some .tsql
  | _ => none

/-- Wraps a text in `opening` and `closing`, doubling every `closing` inside it. -/
def wrap (opening closing : Char) (s : String) : String :=
  String.ofList (opening :: s.toList.flatMap (fun c => if c = closing then [c, c] else [c]) ++ [closing])

/-- The characters of a wrapped text: the opening, the text with `closing` doubled, the
closing. -/
theorem toList_wrap (opening closing : Char) (s : String) :
    (wrap opening closing s).toList =
      opening :: s.toList.flatMap (fun c => if c = closing then [c, c] else [c]) ++ [closing] := by
  simp [wrap]

/-- A quoted identifier: double quotes, backticks for MySQL, brackets for T-SQL. -/
def quoteIdent (d : Dialect) (s : String) : String :=
  match d with
  | .mysql => wrap '`' '`' s
  | .tsql => wrap '[' ']' s
  | _ => wrap '"' '"' s

/-- A text literal in single quotes; T-SQL marks a text with non-ASCII characters by `N`. -/
def quoteString (d : Dialect) (s : String) : String :=
  match d with
  | .tsql => if Text.isAscii s then wrap '\'' '\'' s else "N" ++ wrap '\'' '\'' s
  | _ => wrap '\'' '\'' s

/-- A boolean literal: `true`/`false` for PostgreSQL, `1`/`0` elsewhere. -/
def boolText (d : Dialect) (b : Bool) : String :=
  match d with
  | .postgres => if b then "true" else "false"
  | _ => if b then "1" else "0"

/-- The placeholder of the `i`-th parameter, counted from one. -/
def placeholder (d : Dialect) (i : Nat) : String :=
  match d with
  | .postgres => "$" ++ toString i
  | .tsql => "@P" ++ toString i
  | _ => "?"

/-- Whether paging needs an ORDER BY clause in this dialect. -/
def pagingNeedsOrder : Dialect → Bool
  | .tsql => true
  | _ => false

end Dialect

end ScimQuery.Sql
