import ScimQuery.Sql.Syntax
import ScimQuery.Sql.Token

/-! # Writing SQL trees as tokens

Each node writes its children's tokens between its own. A query writes `SELECT`, then
each item on a line of its own indented one level, then the FROM, JOIN, WHERE,
GROUP BY and ORDER BY clauses and the page, each on a new line. A subquery is always
written with the paging of PostgreSQL, whatever the dialect of the statement around it.
T-SQL pages only ordered results, so a paged query without an order gets
`ORDER BY (SELECT NULL)` there.
-/

namespace ScimQuery.Sql

/-- The two's complement reading of an unsigned 64-bit number as a signed one. -/
def wrapSigned (n : Nat) : Int :=
  if n < Nat.pow 2 63 then n else (n : Int) - Nat.pow 2 64

/-- A fixed word as a token. -/
abbrev w (x : Word) : Token := .word x

/-- The token of a literal. -/
def Literal.token : Literal → Token
  | .int n => .int n
  | .float x => .float x
  | .string s => .string s
  | .bool b => .bool b
  | .null => .litNull

/-- The token of a binary operator. -/
def BinOp.word : BinOp → Word
  | .eq => .eq | .ne => .ne | .lt => .lt | .gt => .gt | .lte => .lte | .gte => .gte
  | .and => .and | .or => .or

/-- `table.` before a column or a star, when a table is given. -/
def tablePrefix : Option String → List Token
  | some t => [.ident t, w .dot]
  | none => []

/-- `NOT` before IN or LIKE when negated. -/
def negation (negated : Bool) : List Token :=
  if negated then [w .space, w .not] else []

/-- A table with its schema and alias. -/
def TableRef.tokens (t : TableRef) : List Token :=
  .qualified t.schema t.table ::
    (match t.aliasName with
     | some a => [w .space, w .as, w .space, .ident a]
     | none => [])

/-- The page clause in a dialect: `LIMIT l OFFSET o`, or for T-SQL
`OFFSET o ROWS FETCH NEXT l ROWS ONLY` with a missing offset taken as zero. -/
def Paging.tokens (d : Dialect) (p : Paging) : List Token :=
  match d with
  | .tsql =>
    [w .offset, w .space, .int (wrapSigned (p.offset.getD 0)), w .space, w .rows] ++
      (match p.limit with
       | some l => [w .space, w .fetch, w .space, w .next, w .space, .int (wrapSigned l),
                    w .space, w .rows, w .space, w .only]
       | none => [])
  | _ =>
    (match p.limit with
     | some l => [w .limit, w .space, .int (wrapSigned l)]
     | none => []) ++
    (match p.offset with
     | some o => (if p.limit.isSome then [w .space] else []) ++ [w .offset, w .space, .int (wrapSigned o)]
     | none => [])

mutual

/-- The tokens of an expression. -/
def Expr.tokens : Expr → List Token
  | .column t c => tablePrefix t ++ [.ident c]
  | .literal l => [l.token]
  | .param v => [.param v]
  | .binary l op r => l.tokens ++ [w .space, w op.word, w .space] ++ r.tokens
  | .not e => [w .not, w .space] ++ e.tokens
  | .function name args distinct =>
    [.function name, w .lparen] ++ (if distinct then [w .distinct, w .space] else []) ++
      Expr.listTokens args ++ [w .rparen]
  | .inList _ [] negated => [w (if negated then .trueKw else .falseKw)]
  | .inList e (v :: vs) negated =>
    e.tokens ++ negation negated ++ [w .space, w .inKw, w .space, w .lparen] ++
      Expr.listTokens (v :: vs) ++ [w .rparen]
  | .inQuery e q negated =>
    e.tokens ++ negation negated ++ [w .space, w .inKw, w .space, w .lparen] ++
      q.tokens .postgres ++ [w .rparen]
  | .isNull e negated => e.tokens ++ [w .space, w (if negated then .isNotNull else .isNull)]
  | .like e p escape negated =>
    e.tokens ++ negation negated ++ [w .space, w .like, w .space] ++ p.tokens ++
      [w .space, w .escape, w .space, .string (String.singleton escape)]
  | .star t => tablePrefix t ++ [w .star]
  | .paren e => [w .lparen] ++ e.tokens ++ [w .rparen]

/-- Expressions separated by `, `. -/
def Expr.listTokens : List Expr → List Token
  | [] => []
  | [e] => e.tokens
  | e :: rest => e.tokens ++ [w .comma, w .space] ++ Expr.listTokens rest

/-- SELECT items, each on a new line indented one level, with an optional alias. -/
def Query.selectTokens (first : Bool) : List (Expr × Option String) → List Token
  | [] => []
  | (e, aliasName) :: rest =>
    (if first then [w .newline, .indent 1] else [w .comma, w .newline, .indent 1]) ++ e.tokens ++
      (match aliasName with
       | some a => [w .space, w .as, w .space, .ident a]
       | none => []) ++
      Query.selectTokens false rest

/-- JOIN clauses, each on a new line. -/
def Query.joinTokens : List (JoinKind × TableRef × Expr) → List Token
  | [] => []
  | (kind, t, on) :: rest =>
    [w .newline, w (match kind with | .inner => .inner | .left => .left), w .space, w .join,
      w .space] ++ t.tokens ++ [w .space, w .on, w .space] ++ on.tokens ++ Query.joinTokens rest

/-- ORDER BY items separated by `, `, each with its direction when one is given. -/
def Query.orderTokens : List (Expr × Option SortDir) → List Token
  | [] => []
  | (e, dir) :: rest =>
    e.tokens ++
      (match dir with
       | some .asc => [w .space, w .asc]
       | some .desc => [w .space, w .desc]
       | none => []) ++
      (match rest with
       | [] => []
       | _ => [w .comma, w .space]) ++
      Query.orderTokens rest

/-- The WHERE clause, when there is a condition. -/
def Query.filterTokens : Option Expr → List Token
  | some e => [w .newline, w .whereKw, w .space] ++ e.tokens
  | none => []

/-- The tokens of a query in a dialect. -/
def Query.tokens (d : Dialect) : Query → List Token
  | ⟨select, source, joins, filter, groupBy, orderBy, paging⟩ =>
    [w .select] ++ Query.selectTokens true select ++
      (match source with
       | some t => [w .newline, w .fromKw, w .space] ++ t.tokens
       | none => []) ++
      Query.joinTokens joins ++
      Query.filterTokens filter ++
      (if groupBy.isEmpty then [] else [w .newline, w .groupBy, w .space] ++ Expr.listTokens groupBy) ++
      (if orderBy.isEmpty then
         (if d.pagingNeedsOrder && paging.isSome then
           [w .newline, w .orderBy, w .space, w .lparen, w .select, w .space, w .null, w .rparen]
         else [])
       else [w .newline, w .orderBy, w .space] ++ Query.orderTokens orderBy) ++
      (match paging with
       | some p => w .newline :: p.tokens d
       | none => [])

end

/-- A query bound in a dialect. -/
def Query.bind (d : Dialect) (q : Query) : Bound := Sql.bind d (q.tokens d)

/-- An expression bound in a dialect. -/
def Expr.bind (d : Dialect) (e : Expr) : Bound := Sql.bind d e.tokens

/-- The values of an expression's parameters, in the order their placeholders appear. -/
def Expr.params (e : Expr) : List Value := paramsOf e.tokens

/-- The text of a query, as PostgreSQL writes it. -/
def Query.render (q : Query) : String := (q.bind .postgres).sql

end ScimQuery.Sql
