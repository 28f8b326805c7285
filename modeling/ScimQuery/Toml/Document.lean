import ScimQuery.Toml.Lexical

/-! # TOML documents

A document is read line by line into a tree of tables. Each line is blank, a comment, a
table header `[a.b]`, an array-of-tables header `[[a.b]]`, or a key-value pair whose
key may be dotted. Arrays may spread over lines and hold comments; inline tables stay on
one line and take no trailing comma.

The tree keeps how each table came to be, since that decides what may still be added to
it:
- a table named only as the parent of another is *implicit*, and a header may define it
  later, once;
- a table created by a dotted key is *dotted*: more dotted keys may add to it, but no
  header may define it;
- a table defined by a header takes keys only in its own section;
- an array of tables is entered at its last element, and nothing but another
  `[[...]]` header may name it;
- a value, inline tables and arrays included, is closed.

The finished tree becomes a JSON object: tables are objects, arrays of tables are arrays
of objects, in the order their keys first appeared.
-/

namespace ScimQuery.Toml

/-- An item of a table while a document is read. -/
inductive Item where
  | value (v : Json)
  | table (implicit dotted : Bool) (entries : List (String × Item))
  | tables (elements : List (List (String × Item)))

/-- The items of a table under their keys. -/
abbrev Entries := List (String × Item)

/-- The item under a key. -/
def lookup (es : Entries) (k : String) : Option Item := (es.find? (·.1 = k)).map (·.2)

/-- Puts an item under a key, in place when the key is there, last when it is new. -/
def put (es : Entries) (k : String) (v : Item) : Entries :=
  if es.any (·.1 = k) then es.map fun (k', v') => if k' = k then (k, v) else (k', v')
  else es ++ [(k, v)]

/-- Changes the table at a path below a table of a header: missing tables on the way are
created implicit, an array of tables is entered at its last element, and a value stops
the way. -/
def descend (f : Entries → Option Entries) : List String → Entries → Option Entries
  | [], es => f es
  | k :: rest, es =>
    match lookup es k with
    | none => do pure (put es k (.table true false (← descend f rest [])))
    | some (.table imp dot inner) => do pure (put es k (.table imp dot (← descend f rest inner)))
    | some (.tables ts) =>
      match ts.getLast? with
      | some last => do pure (put es k (.tables (ts.dropLast ++ [← descend f rest last])))
      | none => none
    | some (.value _) => none

/-- Adds a key under a dotted path in a table. The tables of the path are created
dotted; an existing one must be implicit, and the last one dotted. -/
def insertKey : List String → String → Item → Entries → Option Entries
  | [], key, v, es => if es.any (·.1 = key) then none else some (es ++ [(key, v)])
  | k :: rest, key, v, es =>
    match lookup es k with
    | none => do pure (put es k (.table true true (← insertKey rest key v [])))
    | some (.table imp dot inner) =>
      if !imp || (rest.isEmpty && !dot) then none
      else do pure (put es k (.table imp dot (← insertKey rest key v inner)))
    | some (.tables ts) =>
      match ts.getLast?, rest.isEmpty with
      | some last, false => do pure (put es k (.tables (ts.dropLast ++ [← insertKey rest key v last])))
      | _, _ => none
    | some (.value _) => none

/-- Defines the table a `[path]` header names: new, or implicit until now. -/
def defineTable (path : List String) (root : Entries) : Option Entries :=
  match path.reverse with
  | [] => none
  | last :: revPrefix =>
    descend (fun es =>
      match lookup es last with
      | none => some (es ++ [(last, .table false false [])])
      | some (.table true false inner) => some (put es last (.table false false inner))
      | _ => none) revPrefix.reverse root

/-- Adds an element to the array of tables a `[[path]]` header names. -/
def appendTable (path : List String) (root : Entries) : Option Entries :=
  match path.reverse with
  | [] => none
  | last :: revPrefix =>
    descend (fun es =>
      match lookup es last with
      | none => some (es ++ [(last, .tables [[]])])
      | some (.tables ts) => some (put es last (.tables (ts ++ [[]])))
      | _ => none) revPrefix.reverse root

mutual

/-- The JSON form of an item. -/
def Item.toJson : Item → Json
  | .value v => v
  | .table _ _ es => .obj (entriesToJson es)
  | .tables ts => .arr (tablesToJson ts)

/-- The JSON members of a table. -/
def entriesToJson : Entries → List (String × Json)
  | [] => []
  | (k, i) :: rest => (k, i.toJson) :: entriesToJson rest

/-- The JSON objects of an array of tables. -/
def tablesToJson : List Entries → List Json
  | [] => []
  | es :: rest => .obj (entriesToJson es) :: tablesToJson rest

end

/-- Skips a comment after its `#`, up to the line break. -/
def comment? (cs : Chars) : Option Chars :=
  let body := cs.takeWhile (· ≠ '\n')
  if body.any isControl then none else some (cs.drop body.length)

/-- Ends a line: blanks, an optional comment, then a line break or the end. -/
def lineEnd? (cs : Chars) : Option Chars :=
  match cs.dropWhile isSpace with
  | [] => some []
  | '\n' :: rest => some rest
  | '#' :: rest =>
    match comment? rest with
    | some [] => some []
    | some ('\n' :: r) => some r
    | _ => none
  | _ => none

/-- Skips blanks, line breaks and comments, as between the items of an array. -/
def gaps : Nat → Chars → Option Chars
  | 0, _ => none
  | fuel + 1, cs =>
    match cs.dropWhile isSpaceOrBreak with
    | '#' :: rest => do gaps fuel (← comment? rest)
    | other => some other

/-- Reads a key that is not dotted. -/
def simpleKey? (cs : Chars) : Option (String × Chars) :=
  match cs with
  | '"' :: '"' :: '"' :: _ => none
  | '"' :: rest => basicString rest []
  | '\'' :: '\'' :: '\'' :: _ => none
  | '\'' :: rest => literalString rest []
  | _ =>
    let k := cs.takeWhile isBareKeyChar
    if k.isEmpty then none else some (String.ofList k, cs.drop k.length)

/-- Reads a dotted key, with blanks allowed around the dots; the blanks after it are
skipped. -/
def dottedKey : Nat → Chars → Option (List String × Chars)
  | 0, _ => none
  | fuel + 1, cs => do
    let (k, rest) ← simpleKey? cs
    match rest.dropWhile isSpace with
    | '.' :: more =>
      let (ks, r) ← dottedKey fuel (more.dropWhile isSpace)
      pure (k :: ks, r)
    | after => pure ([k], after)

/-- The last part of a dotted key and the path before it. -/
def splitKey (path : List String) : Option (List String × String) :=
  path.getLast?.map fun k => (path.dropLast, k)

mutual

/-- Reads a value. -/
def value : Nat → Chars → Option (Json × Chars)
  | 0, _ => none
  | fuel + 1, cs =>
    match cs with
    | '[' :: rest => arrayItems fuel rest []
    | '{' :: rest =>
      match rest.dropWhile isSpace with
      | '}' :: more => some (.obj [], more)
      | more => inlineEntries fuel more []
    | _ => scalarValue? cs

/-- Reads the items of an array after its opening bracket. -/
def arrayItems : Nat → Chars → List Json → Option (Json × Chars)
  | 0, _, _ => none
  | fuel + 1, cs, acc => do
    match ← gaps (cs.length + 1) cs with
    | ']' :: rest => pure (.arr acc.reverse, rest)
    | cs' =>
      let (v, rest) ← value fuel cs'
      match ← gaps (rest.length + 1) rest with
      | ',' :: more => arrayItems fuel more (v :: acc)
      | ']' :: more => pure (.arr (v :: acc).reverse, more)
      | _ => none

/-- Reads the pairs of an inline table, up to its closing brace. -/
def inlineEntries : Nat → Chars → Entries → Option (Json × Chars)
  | 0, _, _ => none
  | fuel + 1, cs, es => do
    let (path, rest) ← dottedKey (cs.length + 1) cs
    let (pre, key) ← splitKey path
    match rest with
    | '=' :: more =>
      let (v, after) ← value fuel (more.dropWhile isSpace)
      let es ← insertKey pre key (.value v) es
      match after.dropWhile isSpace with
      | ',' :: r => inlineEntries fuel (r.dropWhile isSpace) es
      | '}' :: r => pure (.obj (entriesToJson es), r)
      | _ => none
    | _ => none

end

/-- Reads the lines of a document into the tree; `current` is the path of the header
whose section is being read. -/
def lines : Nat → Chars → Entries → List String → Option Entries
  | 0, _, _, _ => none
  | fuel + 1, cs, root, current =>
    match cs.dropWhile isSpace with
    | [] => some root
    | '\n' :: rest => lines fuel rest root current
    | '#' :: rest => do lines fuel (← lineEnd? ('#' :: rest)) root current
    | '[' :: '[' :: rest => do
      let (path, r) ← dottedKey (rest.length + 1) (rest.dropWhile isSpace)
      match r with
      | ']' :: ']' :: r' => lines fuel (← lineEnd? r') (← appendTable path root) path
      | _ => none
    | '[' :: rest => do
      let (path, r) ← dottedKey (rest.length + 1) (rest.dropWhile isSpace)
      match r with
      | ']' :: r' => lines fuel (← lineEnd? r') (← defineTable path root) path
      | _ => none
    | cs' => do
      let (path, r) ← dottedKey (cs'.length + 1) cs'
      let (pre, key) ← splitKey path
      match r with
      | '=' :: more =>
        let (v, after) ← value (more.length + 1) (more.dropWhile isSpace)
        let root ← descend (insertKey pre key (.value v)) current root
        lines fuel (← lineEnd? after) root current
      | _ => none

/-- Replaces each CR LF pair by a line break. -/
def joinBreaks : Chars → Chars
  | '\r' :: '\n' :: rest => '\n' :: joinBreaks rest
  | c :: rest => c :: joinBreaks rest
  | [] => []

/-- Reads a TOML document as a JSON object, or refuses it. -/
def parse (text : String) : Option Json :=
  let cs := match joinBreaks text.toList with
    | '\uFEFF' :: rest => rest
    | cs => cs
  (lines (cs.length + 1) cs [] []).map fun es => .obj (entriesToJson es)

end ScimQuery.Toml
