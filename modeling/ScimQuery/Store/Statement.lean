import ScimQuery.Store.Lexer
import ScimQuery.Sql.Syntax
import ScimQuery.Decimal.Parse
import ScimQuery.Store.Cell

/-! # SQL statements

The statements that fill a database: CREATE TABLE with column types and constraints,
CREATE INDEX, INSERT of rows of values, UPDATE with SET and WHERE, DELETE, DROP TABLE, and
the transaction statements, which change nothing here. Expressions follow SQLite's
precedence: OR below AND below NOT below the equality tests (`=`, `<>`, IS, IN, LIKE)
below the order tests (`<`, `>`); a minus sign is read into the number after it. A name
in double quotes that is no column the expression can see is a string, and so is a bare
word given as a column's default value.

A statement that does not follow this grammar is refused with SQLite's words: the token
where reading stopped (`near "x": syntax error`), or `incomplete input` when the text
ends too early.
-/

namespace ScimQuery.Store

/-- What an INSERT or UPDATE does with a row that breaks a unique key or a NOT NULL
column. -/
inductive Conflict where
  | abort
  | ignore
  | replace
deriving DecidableEq, Repr, Inhabited

/-- A column as CREATE TABLE declares it. -/
structure ColumnDef where
  name : String
  type : String := ""
  notNull : Bool := false
  primaryKey : Bool := false
  descending : Bool := false
  unique : Bool := false
  defaultValue : Option Sql.Expr := none
deriving Inhabited

/-- A key that a table constraint declares: PRIMARY KEY or UNIQUE over some columns. -/
structure KeyDecl where
  primary : Bool
  columns : List String

/-- A statement. -/
inductive Statement where
  | createTable (name : String) (ifNotExists : Bool) (columns : List ColumnDef)
      (keys : List KeyDecl)
  | createIndex (name : String) (ifNotExists : Bool) (unique : Bool) (table : String)
      (columns : List String)
  | insert (conflict : Conflict) (table : String) (columns : Option (List String))
      (rows : List (List Sql.Expr))
  | update (conflict : Conflict) (table : String) (sets : List (String × Sql.Expr))
      (filter : Option Sql.Expr)
  | delete (table : String) (filter : Option Sql.Expr)
  | dropTable (name : String) (ifExists : Bool)
  | noEffect
deriving Inhabited

/-- Whether a name is a column of the table whose rows a statement's expressions see. -/
abbrev InScope := String → Bool

/-- Reading tokens, knowing the columns in scope, failing with SQLite's message. -/
abbrev Reader := ReaderT InScope (StateT (List SqlToken) (Except String))

namespace Reader

/-- The refusal at a token. -/
def near (t : SqlToken) : String :=
  if t.kind = .unrecognized then "unrecognized token: \"" ++ t.raw ++ "\""
  else "near \"" ++ t.raw ++ "\": syntax error"

/-- The next token, without taking it. -/
def peek : Reader (Option SqlToken) := do pure (← get).head?

/-- Takes the next token. -/
def next : Reader SqlToken := do
  match ← get with
  | t :: rest =>
    if t.kind = .unrecognized then throw (near t)
    set rest
    pure t
  | [] => throw "incomplete input"

/-- Fails at the next token. -/
def failHere : Reader α := do
  match ← get with
  | t :: _ => throw (near t)
  | [] => throw "incomplete input"

/-- Whether a token is a keyword. -/
def isKeyword (t : SqlToken) (k : String) : Bool := t.kind = .word && Text.eqIgnoreAsciiCase t.value k

/-- Whether a token is a symbol. -/
def isSymbol (t : SqlToken) (s : String) : Bool := t.kind = .symbol && t.value = s

/-- Whether the next token is a keyword. -/
def atKeyword (k : String) : Reader Bool := do
  pure (((← peek).map (isKeyword · k)).getD false)

/-- Whether the next token is a symbol. -/
def atSymbol (s : String) : Reader Bool := do
  pure (((← peek).map (isSymbol · s)).getD false)

/-- Takes a keyword when it comes next. -/
def acceptKeyword (k : String) : Reader Bool := do
  if ← atKeyword k then
    let _ ← next
    pure true
  else pure false

/-- Takes a symbol when it comes next. -/
def acceptSymbol (s : String) : Reader Bool := do
  if ← atSymbol s then
    let _ ← next
    pure true
  else pure false

/-- Takes a keyword that must come next. -/
def keyword (k : String) : Reader Unit := do
  if !(← acceptKeyword k) then failHere

/-- Takes a symbol that must come next. -/
def symbol (s : String) : Reader Unit := do
  if !(← acceptSymbol s) then failHere

/-- Words that cannot be names. -/
def reserved : List String :=
  ["SELECT", "FROM", "WHERE", "AND", "OR", "NOT", "NULL", "IS", "IN", "LIKE", "ESCAPE",
   "VALUES", "SET", "INTO", "TABLE", "CREATE", "INSERT", "UPDATE", "DELETE", "DROP",
   "PRIMARY", "UNIQUE", "CHECK", "DEFAULT", "CONSTRAINT", "REFERENCES", "COLLATE",
   "FOREIGN", "ON", "JOIN", "GROUP", "ORDER", "LIMIT", "UNION", "ALL", "AS", "ISNULL",
   "NOTNULL", "BETWEEN", "CASE", "WHEN", "THEN", "ELSE", "END", "EXISTS", "INDEX"]

/-- Takes a name: a word that is no keyword, or a quoted name. -/
def name : Reader String := do
  match ← peek with
  | some t =>
    if t.kind = .quoted || (t.kind = .word && !reserved.any (Text.eqIgnoreAsciiCase t.value)) then
      let _ ← next
      pure t.value
    else failHere
  | none => failHere

/-- Takes names separated by commas, in parentheses; a name may be followed by a
collation and a direction. -/
def nameList : Reader (List String) := do
  symbol "("
  let rec more (fuel : Nat) (acc : List String) : Reader (List String) := do
    match fuel with
    | 0 => failHere
    | fuel + 1 =>
      let n ← name
      if ← acceptKeyword "COLLATE" then let _ ← name
      let _ ← acceptKeyword "ASC"
      let _ ← acceptKeyword "DESC"
      if ← acceptSymbol "," then more fuel (acc ++ [n])
      else
        symbol ")"
        pure (acc ++ [n])
  more ((← get).length + 1) []

/-- The value of a hexadecimal digit. -/
def hexValue (c : Char) : Nat :=
  if c.isDigit then c.toNat - '0'.toNat
  else if 'a' ≤ c ∧ c ≤ 'f' then c.toNat - 'a'.toNat + 10
  else c.toNat - 'A'.toNat + 10

/-- The 64-bit word that hexadecimal digits spell, read as a signed integer; `none` when
more than sixteen digits follow the leading zeros. -/
def hexInteger? (ds : List Char) : Option Int :=
  let ds := ds.dropWhile (· = '0')
  if ds.length > 16 then none
  else
    let u := ds.foldl (fun n c => n * 16 + hexValue c) 0
    some (if u ≥ Nat.pow 2 63 then (u : Int) - (Nat.pow 2 64 : Nat) else u)

/-- A hexadecimal literal `0x…`, negated when `negative`, as a 64-bit word; one too long
for it, or the least integer negated, is refused. `none` when the text is decimal. -/
def hexLiteral? (text : String) (negative : Bool) : Option (Except String Sql.Literal) :=
  match text.toList with
  | '0' :: x :: ds =>
    if x = 'x' || x = 'X' then
      let tooBig : Except String Sql.Literal :=
        .error ("hex literal too big: " ++ (if negative then "-" else "") ++ text)
      some (match hexInteger? ds with
        | some v =>
          if negative then (if v = Json.i64Min then tooBig else .ok (.int (-v)))
          else .ok (.int v)
        | none => tooBig)
    else none
  | _ => none

/-- A number literal, negated when `negative`. -/
def numberLiteral (text : String) (negative : Bool) : Reader Sql.Literal := do
  match hexLiteral? text negative with
  | some (.ok l) => return l
  | some (.error e) => throw e
  | none => pure ()
  if text.toList.all Char.isDigit then
    match Decimal.parseInt64? ((if negative then "-" else "") ++ text) with
    | some n => return .int n
    | none => pure ()
  if isRealLiteral text.toList then
    pure (.float (readReal ((if negative then ['-'] else []) ++ text.toList)))
  else failHere

mutual

/-- Reads an expression; `fuel` bounds its nesting. -/
def expr : Nat → Reader Sql.Expr
  | 0 => failHere
  | fuel + 1 => do
    let first ← andExpr fuel
    let rec loop (n : Nat) (acc : Sql.Expr) : Reader Sql.Expr := do
      match n with
      | 0 => pure acc
      | n + 1 =>
        if ← acceptKeyword "OR" then loop n (.binary acc .or (← andExpr fuel)) else pure acc
    loop ((← get).length) first

/-- Reads a conjunction. -/
def andExpr : Nat → Reader Sql.Expr
  | 0 => failHere
  | fuel + 1 => do
    let first ← notExpr fuel
    let rec loop (n : Nat) (acc : Sql.Expr) : Reader Sql.Expr := do
      match n with
      | 0 => pure acc
      | n + 1 =>
        if ← acceptKeyword "AND" then loop n (.binary acc .and (← notExpr fuel)) else pure acc
    loop ((← get).length) first

/-- Reads a negation. -/
def notExpr : Nat → Reader Sql.Expr
  | 0 => failHere
  | fuel + 1 => do
    if ← acceptKeyword "NOT" then pure (.not (← notExpr fuel)) else equality fuel

/-- Reads the equality tests, IS, IN and LIKE. -/
def equality : Nat → Reader Sql.Expr
  | 0 => failHere
  | fuel + 1 => do
    let first ← ordering fuel
    let rec loop (n : Nat) (acc : Sql.Expr) : Reader Sql.Expr := do
      match n with
      | 0 => pure acc
      | n + 1 =>
        if (← acceptSymbol "=") || (← acceptSymbol "==") then loop n (.binary acc .eq (← ordering fuel))
        else if (← acceptSymbol "<>") || (← acceptSymbol "!=") then loop n (.binary acc .ne (← ordering fuel))
        else if ← acceptKeyword "ISNULL" then loop n (.isNull acc false)
        else if ← acceptKeyword "NOTNULL" then loop n (.isNull acc true)
        else if ← acceptKeyword "IS" then
          let negated ← acceptKeyword "NOT"
          keyword "NULL"
          loop n (.isNull acc negated)
        else
          let negated ← acceptKeyword "NOT"
          if negated && (← acceptKeyword "NULL") then loop n (.isNull acc true)
          else if ← acceptKeyword "IN" then
            symbol "("
            if ← acceptSymbol ")" then loop n (.inList acc [] negated)
            else
              let items ← exprList fuel
              symbol ")"
              loop n (.inList acc items negated)
          else if ← acceptKeyword "LIKE" then
            let pattern ← ordering fuel
            let esc ← if ← acceptKeyword "ESCAPE" then do
                match (← next) with
                | t =>
                  if t.kind = .string && t.value.length = 1 then pure (t.value.toList.headD '\x00')
                  else throw "ESCAPE expression must be a single character"
              else pure '\x00'
            loop n (.like acc pattern esc negated)
          else if negated then failHere
          else pure acc
    loop ((← get).length) first

/-- Reads the order tests. -/
def ordering : Nat → Reader Sql.Expr
  | 0 => failHere
  | fuel + 1 => do
    let first ← unary fuel
    let rec loop (n : Nat) (acc : Sql.Expr) : Reader Sql.Expr := do
      match n with
      | 0 => pure acc
      | n + 1 =>
        if ← acceptSymbol "<" then loop n (.binary acc .lt (← unary fuel))
        else if ← acceptSymbol "<=" then loop n (.binary acc .lte (← unary fuel))
        else if ← acceptSymbol ">" then loop n (.binary acc .gt (← unary fuel))
        else if ← acceptSymbol ">=" then loop n (.binary acc .gte (← unary fuel))
        else pure acc
    loop ((← get).length) first

/-- Reads a signed operand. -/
def unary : Nat → Reader Sql.Expr
  | 0 => failHere
  | fuel + 1 => do
    if ← acceptSymbol "-" then
      match ← peek with
      | some t =>
        if t.kind = .number then
          let _ ← next
          pure (.literal (← numberLiteral t.value true))
        else failHere
      | none => failHere
    else if ← acceptSymbol "+" then unary fuel
    else primary fuel

/-- Reads a literal, a column, a call or a parenthesized expression. -/
def primary : Nat → Reader Sql.Expr
  | 0 => failHere
  | fuel + 1 => do
    match ← peek with
    | none => failHere
    | some t =>
      if t.kind = .number then
        let _ ← next
        pure (.literal (← numberLiteral t.value false))
      else if t.kind = .string then
        let _ ← next
        pure (.literal (.string t.value))
      else if isSymbol t "(" then
        let _ ← next
        let e ← expr fuel
        symbol ")"
        pure (.paren e)
      else if isKeyword t "NULL" then
        let _ ← next
        pure (.literal .null)
      else if isKeyword t "TRUE" then
        let _ ← next
        pure (.literal (.bool true))
      else if isKeyword t "FALSE" then
        let _ ← next
        pure (.literal (.bool false))
      else
        let n ← name
        if ← acceptSymbol "(" then
          if ← acceptSymbol "*" then
            symbol ")"
            pure (.function n [.star none] false)
          else if ← acceptSymbol ")" then pure (.function n [] false)
          else
            let distinct ← acceptKeyword "DISTINCT"
            let args ← exprList fuel
            symbol ")"
            pure (.function n args distinct)
        else if ← acceptSymbol "." then
          let column ← name
          pure (.column (some n) column)
        -- a name in double quotes that is no column in scope is a string
        else if t.kind = .quoted && t.raw.startsWith "\"" && !(← read) n then
          pure (.literal (.string n))
        else pure (.column none n)

/-- Reads expressions separated by commas. -/
def exprList : Nat → Reader (List Sql.Expr)
  | 0 => failHere
  | fuel + 1 => do
    let first ← expr fuel
    if ← acceptSymbol "," then pure (first :: (← exprList fuel)) else pure [first]

end

/-- The depth an expression may have. -/
def depth : Reader Nat := do pure (4 * (← get).length + 4)

/-- Reads a full expression. -/
def fullExpr : Reader Sql.Expr := do expr (← depth)

/-- Words that start a column constraint. -/
def constraintWords : List String :=
  ["CONSTRAINT", "PRIMARY", "NOT", "NULL", "UNIQUE", "CHECK", "DEFAULT", "COLLATE",
   "REFERENCES", "GENERATED", "AS"]

/-- Skips a parenthesized group of tokens. -/
def skipGroup : Nat → Nat → Reader Unit
  | 0, _ => failHere
  | fuel + 1, level => do
    let t ← next
    if isSymbol t "(" then skipGroup fuel (level + 1)
    else if isSymbol t ")" then (if level ≤ 1 then pure () else skipGroup fuel (level - 1))
    else skipGroup fuel level

/-- Skips a conflict clause. -/
def conflictClause : Reader Unit := do
  if ← acceptKeyword "ON" then
    keyword "CONFLICT"
    let _ ← next

/-- Skips the rest of a foreign key clause. -/
def referencesClause : Nat → Reader Unit
  | 0 => pure ()
  | fuel + 1 => do
    match ← peek with
    | some t =>
      if isSymbol t "," || isSymbol t ")" || constraintWords.any (isKeyword t ·) then pure ()
      else if isSymbol t "(" then
        skipGroup ((← get).length + 1) 0
        referencesClause fuel
      else
        let _ ← next
        referencesClause fuel
    | none => pure ()

/-- Reads the type name of a column: words, then numbers in parentheses. -/
def typeName : Reader String := do
  let rec words (fuel : Nat) (acc : List String) : Reader (List String) := do
    match fuel with
    | 0 => pure acc
    | fuel + 1 =>
      match ← peek with
      | some t =>
        if (t.kind = .word && !constraintWords.any (isKeyword t ·)) || t.kind = .quoted then
          let _ ← next
          words fuel (acc ++ [t.value])
        else pure acc
      | none => pure acc
  let ws ← words ((← get).length) []
  if !ws.isEmpty && (← atSymbol "(") then skipGroup ((← get).length + 1) 0
  pure (" ".intercalate ws)

/-- Words that stand for a value of their own. -/
def valueWords : List String := ["TRUE", "FALSE", "CURRENT_DATE", "CURRENT_TIME", "CURRENT_TIMESTAMP"]

/-- Whether a word that is no keyword of a value comes next: as a default value it
stands for its own text. -/
def atBareWord : Reader Bool := do
  match ← peek with
  | some t =>
    pure (t.kind = .word && !reserved.any (Text.eqIgnoreAsciiCase t.value) &&
      !valueWords.any (Text.eqIgnoreAsciiCase t.value))
  | none => pure false

/-- Reads the constraints of a column. -/
def columnConstraints (fuel : Nat) (c : ColumnDef) : Reader ColumnDef := do
  match fuel with
  | 0 => pure c
  | fuel + 1 =>
    if ← acceptKeyword "CONSTRAINT" then
      let _ ← name
      columnConstraints fuel c
    else if ← acceptKeyword "PRIMARY" then
      keyword "KEY"
      let _ ← acceptKeyword "ASC"
      let descending ← acceptKeyword "DESC"
      conflictClause
      let _ ← acceptKeyword "AUTOINCREMENT"
      columnConstraints fuel { c with primaryKey := true, descending }
    else if ← acceptKeyword "NOT" then
      keyword "NULL"
      conflictClause
      columnConstraints fuel { c with notNull := true }
    else if ← acceptKeyword "NULL" then
      conflictClause
      columnConstraints fuel c
    else if ← acceptKeyword "UNIQUE" then
      conflictClause
      columnConstraints fuel { c with unique := true }
    else if ← acceptKeyword "CHECK" then
      if !(← atSymbol "(") then failHere
      skipGroup ((← get).length + 1) 0
      columnConstraints fuel c
    else if ← acceptKeyword "DEFAULT" then
      let value ← if ← atSymbol "(" then fullExpr
        else if ← atBareWord then pure (.literal (.string (← next).value))
        else unary (← depth)
      columnConstraints fuel { c with defaultValue := some value }
    else if ← acceptKeyword "COLLATE" then
      let _ ← name
      columnConstraints fuel c
    else if ← acceptKeyword "REFERENCES" then
      let _ ← name
      referencesClause ((← get).length + 1)
      columnConstraints fuel c
    else pure c

/-- Reads a table constraint, or `none` when none comes next. -/
def tableConstraint : Reader (Option (Option KeyDecl)) := do
  let named ← acceptKeyword "CONSTRAINT"
  if named then
    let _ ← name
  if ← acceptKeyword "PRIMARY" then
    keyword "KEY"
    let cols ← nameList
    conflictClause
    pure (some (some ⟨true, cols⟩))
  else if ← acceptKeyword "UNIQUE" then
    let cols ← nameList
    conflictClause
    pure (some (some ⟨false, cols⟩))
  else if ← acceptKeyword "CHECK" then
    if !(← atSymbol "(") then failHere
    skipGroup ((← get).length + 1) 0
    pure (some none)
  else if ← acceptKeyword "FOREIGN" then
    keyword "KEY"
    let _ ← nameList
    keyword "REFERENCES"
    let _ ← name
    referencesClause ((← get).length + 1)
    pure (some none)
  else if named then failHere
  else pure none

/-- Reads the table constraints after the columns, up to the closing parenthesis; a comma
between two of them may be left out. -/
def tableConstraints : Nat → Reader (List KeyDecl)
  | 0 => failHere
  | fuel + 1 => do
    let key ← match ← tableConstraint with
      | some k => pure k
      | none => failHere
    if ← acceptSymbol ")" then pure key.toList
    else
      let _ ← acceptSymbol ","
      pure (key.toList ++ (← tableConstraints fuel))

/-- Words that start a table constraint. -/
def tableConstraintWords : List String := ["CONSTRAINT", "PRIMARY", "UNIQUE", "CHECK", "FOREIGN"]

/-- Reads the columns of a CREATE TABLE body, then its table constraints. -/
def tableBody : Nat → Reader (List ColumnDef × List KeyDecl)
  | 0 => failHere
  | fuel + 1 => do
    let n ← name
    let type ← typeName
    let c ← columnConstraints ((← get).length + 1) { name := n, type }
    if ← acceptSymbol "," then
      let constraintNext := ((← peek).map fun t => tableConstraintWords.any (isKeyword t ·)).getD false
      if constraintNext then pure ([c], ← tableConstraints fuel)
      else
        let (cs, keys) ← tableBody fuel
        pure (c :: cs, keys)
    else
      symbol ")"
      pure ([c], [])

/-- Reads an optional conflict resolution after `OR`. -/
def orConflict : Reader Conflict := do
  if ← acceptKeyword "OR" then
    let t ← next
    if isKeyword t "IGNORE" then pure .ignore
    else if isKeyword t "REPLACE" then pure .replace
    else if isKeyword t "ABORT" || isKeyword t "FAIL" || isKeyword t "ROLLBACK" then pure .abort
    else throw (near t)
  else pure .abort

/-- Reads an optional WHERE clause. -/
def whereClause : Reader (Option Sql.Expr) := do
  if ← acceptKeyword "WHERE" then pure (some (← fullExpr)) else pure none

/-- Reads a table name, dropping a schema name before it. -/
def tableName : Reader String := do
  let n ← name
  if ← acceptSymbol "." then name else pure n

/-- Reads rows of values, each as long as the first. -/
def valueRows (width : Option Nat) : Nat → Reader (List (List Sql.Expr))
  | 0 => failHere
  | fuel + 1 => do
    symbol "("
    let row ← exprList (← depth)
    symbol ")"
    if width.any (· ≠ row.length) then throw "all VALUES must have the same number of terms"
    if ← acceptSymbol "," then pure (row :: (← valueRows (some row.length) fuel)) else pure [row]

/-- Reads `col = expr` assignments. -/
def assignments : Nat → Reader (List (String × Sql.Expr))
  | 0 => failHere
  | fuel + 1 => do
    let n ← name
    symbol "="
    let e ← fullExpr
    if ← acceptSymbol "," then pure ((n, e) :: (← assignments fuel)) else pure [(n, e)]

/-- Reads one statement; the expressions of an UPDATE or DELETE see the columns of its
table, as `columnsOf` tells them, and those of other statements see none. -/
def statement (columnsOf : String → InScope) : Reader Statement := do
  let t ← next
  let fuel := (← get).length + 1
  if isKeyword t "CREATE" then
    let unique ← acceptKeyword "UNIQUE"
    if ← acceptKeyword "INDEX" then
      let ifNotExists ← do
        if ← acceptKeyword "IF" then
          keyword "NOT"
          keyword "EXISTS"
          pure true
        else pure false
      let n ← tableName
      keyword "ON"
      let table ← name
      let cols ← nameList
      let _ ← whereClause
      pure (.createIndex n ifNotExists unique table cols)
    else
      if unique then failHere
      let _ ← (do if ← acceptKeyword "TEMP" then pure true else acceptKeyword "TEMPORARY")
      keyword "TABLE"
      let ifNotExists ← do
        if ← acceptKeyword "IF" then
          keyword "NOT"
          keyword "EXISTS"
          pure true
        else pure false
      let n ← tableName
      symbol "("
      let (columns, keys) ← tableBody fuel
      let _ ← (do if ← acceptKeyword "WITHOUT" then let _ ← name)
      pure (.createTable n ifNotExists columns keys)
  else if isKeyword t "INSERT" || isKeyword t "REPLACE" then
    let conflict ← if isKeyword t "REPLACE" then pure .replace else orConflict
    keyword "INTO"
    let table ← tableName
    let columns ← if ← atSymbol "(" then some <$> nameList else pure none
    if ← acceptKeyword "DEFAULT" then
      keyword "VALUES"
      pure (.insert conflict table (some []) [[]])
    else
      keyword "VALUES"
      pure (.insert conflict table columns (← valueRows none fuel))
  else if isKeyword t "UPDATE" then
    let conflict ← orConflict
    let table ← tableName
    keyword "SET"
    withReader (fun _ => columnsOf table) do
      let sets ← assignments fuel
      pure (.update conflict table sets (← whereClause))
  else if isKeyword t "DELETE" then
    keyword "FROM"
    let table ← tableName
    withReader (fun _ => columnsOf table) do pure (.delete table (← whereClause))
  else if isKeyword t "DROP" then
    keyword "TABLE"
    let ifExists ← do
      if ← acceptKeyword "IF" then
        keyword "EXISTS"
        pure true
      else pure false
    pure (.dropTable (← tableName) ifExists)
  else if isKeyword t "BEGIN" || isKeyword t "COMMIT" || isKeyword t "END" || isKeyword t "ROLLBACK" then
    let _ ← acceptKeyword "TRANSACTION"
    pure .noEffect
  else throw (near t)

end Reader

/-- Whether a token ends a statement. -/
def isSemicolon (t : SqlToken) : Bool := t.kind = .symbol && t.value = ";"

/-- Splits tokens into statements, each keeping the semicolon that ends it. -/
def splitStatements (ts : List SqlToken) : List (List SqlToken) :=
  let (done, current) := ts.foldl (fun (acc : List (List SqlToken) × List SqlToken) t =>
    if isSemicolon t then (acc.1 ++ [acc.2 ++ [t]], []) else (acc.1, acc.2 ++ [t])) ([], [])
  if current.isEmpty then done else done ++ [current]

/-- Reads one statement from its tokens, which must all be used but for the semicolon
that ends it; `columnsOf` tells the columns of each table. A statement of no tokens has
no effect. -/
def readStatement (columnsOf : String → InScope) (tokens : List SqlToken) :
    Except String Statement := do
  let reading := (Reader.statement columnsOf).run fun _ => false
  match tokens with
  | [] => pure .noEffect
  | [t] => if isSemicolon t then pure .noEffect else reading.run' tokens
  | _ =>
    let (s, rest) ← reading.run tokens
    match rest with
    | [] => pure s
    | [t] => if isSemicolon t then pure s else throw (Reader.near t)
    | t :: _ => throw (Reader.near t)

end ScimQuery.Store
