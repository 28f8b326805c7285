import ScimQuery.Join.Set
import ScimQuery.Error

/-! # Ordering joins

Joins are put in an order in which each join's source alias is the root's or the target
alias of an earlier join. After removing repeated joins, no join may introduce the root
alias again and no alias may be introduced twice. Then, step by step, the earliest join
whose source alias is introduced is placed next, provided its source table is the table
under that alias. When no join can be placed, the remaining joins either form a cycle or
depend on an alias that nothing introduces; the cycle reported is the first strongly
connected component with a cycle in the order a depth-first search completes them,
starting from the aliases in order of appearance and following the later join first.
-/

namespace ScimQuery

namespace JoinOrder

/-- The first join that repeats an earlier target alias or the root alias. -/
def checkTargets (root : TableReference) : List JoinDescriptor → List JoinDescriptor → Option JoinProblem
  | [], _ => none
  | j :: rest, earlier =>
    if j.target.aliasName = root.aliasName then some (.reintroducesRoot j)
    else match earlier.find? (·.target.aliasName = j.target.aliasName) with
      | some first => some (.introducedTwice j.target.aliasName first j)
      | none => checkTargets root rest (j :: earlier)

/-- The aliases of the remaining joins in order of appearance: the source, then the
target, of each join in turn. -/
def nodesOf (js : List JoinDescriptor) : List String :=
  js.foldl (fun acc j =>
    let acc := if acc.contains j.source.aliasName then acc else acc ++ [j.source.aliasName]
    if acc.contains j.target.aliasName then acc else acc ++ [j.target.aliasName]) []

/-- The working state of the strongly connected components search. -/
structure Search where
  counter : Nat := 0
  index : List (Option Nat)
  low : List Nat
  stack : List Nat := []
  components : List (List Nat) := []

/-- Pops the stack down to and including `v`. -/
def popTo (v : Nat) : List Nat → List Nat × List Nat
  | [] => ([], [])
  | w :: rest =>
    if w = v then ([w], rest)
    else let (comp, rest') := popTo v rest; (w :: comp, rest')

/-- Tarjan's search from `v`, visiting successors in the order given by `succ`;
components are appended in the order they are completed. -/
def visit (succ : Nat → List Nat) : Nat → Nat → Search → Search
  | 0, _, s => s
  | fuel + 1, v, s =>
    let s : Search := { s with
      index := s.index.set v (some s.counter), low := s.low.set v s.counter,
      counter := s.counter + 1, stack := v :: s.stack }
    let s : Search := (succ v).foldl (fun (s : Search) w =>
      match s.index.getD w (none : Option Nat) with
      | none =>
        let s := visit succ fuel w s
        { s with low := s.low.set v (min (s.low.getD v 0) (s.low.getD w 0)) }
      | some iw =>
        if s.stack.contains w then { s with low := s.low.set v (min (s.low.getD v 0) iw) }
        else s) s
    if s.low.getD v 0 = (s.index.getD v (none : Option Nat)).getD 0 then
      let (comp, rest) := popTo v s.stack
      { s with stack := rest, components := s.components ++ [comp] }
    else s

/-- Tarjan's search over the nodes `0, …, n - 1`, started from each node in turn that is
not yet visited. -/
def search (succ : Nat → List Nat) (n : Nat) : Search :=
  (List.range n).foldl (fun s v =>
    if (s.index.getD v (none : Option Nat)).isSome then s else visit succ (n + 1) v s)
    { index := List.replicate n none, low := List.replicate n 0 }

/-- Explains why none of the remaining joins can be placed. -/
def diagnose (remaining : List JoinDescriptor) : JoinProblem :=
  let nodes := nodesOf remaining
  let indexOf (a : String) : Nat := nodes.idxOf a
  let edges := remaining.map fun j => (indexOf j.source.aliasName, indexOf j.target.aliasName)
  -- the later edge out of a node is followed first
  let succ (v : Nat) : List Nat := (edges.filter (·.1 = v)).reverse.map (·.2)
  let s := search succ nodes.length
  let cyclic (comp : List Nat) : Bool :=
    comp.length > 1 || comp.any fun v => edges.contains (v, v)
  match s.components.find? cyclic with
  | some comp =>
    .cycle ((comp.map fun v => nodes.getD v "").mergeSort (fun a b => decide (a ≤ b)))
  | none =>
    match remaining with
    | j :: _ => .neverIntroduced j
    | [] => .cycle []

/-- Places the remaining joins one by one: the earliest whose source alias is
introduced goes next. -/
def place (introduced : List TableReference) :
    Nat → List JoinDescriptor → List JoinDescriptor → Except JoinProblem (List JoinDescriptor)
  | _, [], ordered => .ok ordered.reverse
  | 0, remaining, _ => .error (diagnose remaining)
  | fuel + 1, remaining, ordered =>
    let ready (j : JoinDescriptor) : Bool := introduced.any (·.aliasName = j.source.aliasName)
    match remaining.find? ready with
    | none => .error (diagnose remaining)
    | some j =>
      match introduced.find? (·.aliasName = j.source.aliasName) with
      | some known =>
        if known = j.source then
          place (j.target :: introduced) fuel (remaining.eraseP ready) (j :: ordered)
        else .error (.aliasMismatch j known)
      | none => .error (diagnose remaining)

end JoinOrder

/-- Orders joins so that each join's source is the root or an earlier join's target. -/
def linearize (root : TableReference) (joins : List JoinDescriptor) :
    Except QueryError (List JoinDescriptor) :=
  let set := (JoinSet.ofList joins).joins
  match JoinOrder.checkTargets root set [] with
  | some problem => .error (.inconsistentJoins root.aliasName problem)
  | none =>
    match JoinOrder.place [root] set.length set [] with
    | .ok ordered => .ok ordered
    | .error problem => .error (.inconsistentJoins root.aliasName problem)

end ScimQuery
