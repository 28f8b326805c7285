import ScimQuery.Sql.Value
import ScimQuery.Sql.Dialect
import ScimQuery.Text.UpperCase

/-! # SQL tokens and bound statements

A statement is a list of tokens. Fixed words and signs read the same in every dialect;
identifiers, literals and parameter placeholders take the dialect's form. Binding a
token list writes its text and collects the value of every parameter token in order,
so that the `k`-th placeholder stands for the `k`-th value. A float literal that is NaN
or infinite has no SQL text: `Token.fault?` names it, and a statement that holds one is
refused as a whole.
-/

namespace ScimQuery.Sql

/-- The words and signs of SQL that are written the same in every dialect. -/
inductive Word where
  | select | fromKw | whereKw | and | or | not | as | on | join | inner | left
  | groupBy | orderBy | asc | desc | limit | offset | fetch | next | rows | only
  | inKw | like | escape | isNull | isNotNull | distinct | null | trueKw | falseKw
  | comma | dot | star | lparen | rparen | eq | ne | lt | gt | lte | gte
  | space | newline
deriving DecidableEq, Repr

/-- The text of a fixed word or sign. -/
def Word.text : Word → String
  | .select => "SELECT" | .fromKw => "FROM" | .whereKw => "WHERE" | .and => "AND"
  | .or => "OR" | .not => "NOT" | .as => "AS" | .on => "ON" | .join => "JOIN"
  | .inner => "INNER" | .left => "LEFT" | .groupBy => "GROUP BY" | .orderBy => "ORDER BY"
  | .asc => "ASC" | .desc => "DESC" | .limit => "LIMIT" | .offset => "OFFSET"
  | .fetch => "FETCH" | .next => "NEXT" | .rows => "ROWS" | .only => "ONLY"
  | .inKw => "IN" | .like => "LIKE" | .escape => "ESCAPE" | .isNull => "IS NULL"
  | .isNotNull => "IS NOT NULL" | .distinct => "DISTINCT" | .null => "NULL"
  | .trueKw => "TRUE" | .falseKw => "FALSE" | .comma => "," | .dot => "." | .star => "*"
  | .lparen => "(" | .rparen => ")" | .eq => "=" | .ne => "<>" | .lt => "<" | .gt => ">"
  | .lte => "<=" | .gte => ">=" | .space => " " | .newline => "\n"

/-- A SQL token. -/
inductive Token where
  | word (w : Word)
  /-- two spaces per level -/
  | indent (n : Nat)
  | ident (name : String)
  | qualified (schema : Option String) (name : String)
  /-- a signed 64-bit integer literal -/
  | int (n : Int)
  | float (x : Float)
  | string (s : String)
  | bool (b : Bool)
  | litNull
  /-- a function name, written in upper case -/
  | function (name : String)
  | param (v : Value)
deriving Inhabited

/-- Why a token has no SQL text. -/
inductive Fault where
  | nanLiteral
  | infiniteLiteral
deriving DecidableEq, Repr

/-- The message of a fault. -/
def Fault.message : Fault → String
  | .nanLiteral => "Cannot serialize NaN to SQL"
  | .infiniteLiteral => "Cannot serialize Infinity to SQL"

namespace Token

/-- The fault of a token: a float literal that is NaN or infinite. -/
def fault? : Token → Option Fault
  | .float x =>
    if Decimal.isNaN x then some .nanLiteral
    else if Decimal.isFinite x then none else some .infiniteLiteral
  | _ => none

/-- The text of a token in a dialect, a parameter standing at position `index`. -/
def text (d : Dialect) (index : Nat) : Token → String
  | .word w => w.text
  | .indent n => String.ofList (List.replicate (2 * n) ' ')
  | .ident name => d.quoteIdent name
  | .qualified (some schema) name => d.quoteIdent schema ++ "." ++ d.quoteIdent name
  | .qualified none name => d.quoteIdent name
  | .int n => toString n
  | .float x => Decimal.FloatFormat.sql.text x
  | .string s => d.quoteString s
  | .bool b => d.boolText b
  | .litNull => "NULL"
  | .function name => Text.toUpper name
  | .param _ => d.placeholder index

end Token

/-- A statement's text with the values of its parameters in order. -/
structure Bound where
  sql : String
  params : List Value
deriving Inhabited

/-- The text of a bound statement followed, when it has parameters, by a comment line
listing their debug texts. -/
def Bound.display (b : Bound) : String :=
  if b.params.isEmpty then b.sql
  else b.sql ++ "\n-- params: [" ++ ", ".intercalate (b.params.map Value.debug) ++ "]"

/-- The values of the parameter tokens, in order. -/
def paramsOf (ts : List Token) : List Value :=
  ts.filterMap fun
    | .param v => some v
    | _ => none

/-- Binds tokens after `seen` parameters: each parameter token is written with the
placeholder of its own position, every other token as if one parameter had been seen. -/
def bindFrom (d : Dialect) (seen : Nat) : List Token → List String
  | [] => []
  | (.param v) :: rest => (Token.param v).text d (seen + 1) :: bindFrom d (seen + 1) rest
  | t :: rest => t.text d (max seen 1) :: bindFrom d seen rest

/-- The text of a token list with its parameters numbered from one. -/
def bind (d : Dialect) (ts : List Token) : Bound :=
  ⟨String.join (bindFrom d 0 ts), paramsOf ts⟩

theorem paramsOf_append (ts us : List Token) : paramsOf (ts ++ us) = paramsOf ts ++ paramsOf us := by
  simp [paramsOf, List.filterMap_append]

theorem params_bind (d : Dialect) (ts : List Token) : (bind d ts).params = paramsOf ts := rfl

theorem length_bindFrom (d : Dialect) (seen : Nat) (ts : List Token) :
    (bindFrom d seen ts).length = ts.length := by
  induction ts generalizing seen with
  | nil => rfl
  | cons t rest ih => cases t <;> simp [bindFrom, ih]

/-- The first fault among the tokens, if any. -/
def faultOf? (ts : List Token) : Option Fault := ts.findSome? Token.fault?

end ScimQuery.Sql
