import ScimQuery.Attribute.Kind
import ScimQuery.Filter.Value
import ScimQuery.Join.Basic

/-! # Errors

The errors of the library, each a cause with the data that explains it. Their texts are
given by `QueryError.message` alone. Errors are classed as the client's fault (an
unknown resource type or attribute, a literal that does not fit its attribute), as
internal (an inconsistent catalog) or as the database's.
-/

namespace ScimQuery

/-- Why a literal is refused for an attribute. -/
inductive ValueProblem where
  | nullNeedsEquality
  | unsupportedOperator (op : CompareOp) (kind : AttributeKind)
  | notBoolean
  | notInteger
  | notDecimal
  | notTimestamp
deriving Repr

/-- The text of a value problem. -/
def ValueProblem.message : ValueProblem → String
  | .nullNeedsEquality => "null is only valid with eq and ne"
  | .unsupportedOperator op kind =>
    "operator '" ++ op.name ++ "' is not supported for " ++ kind.name ++ " attributes"
  | .notBoolean => "expected a boolean"
  | .notInteger => "expected an integer"
  | .notDecimal => "expected a decimal number"
  | .notTimestamp => "expected an RFC 3339 timestamp"

/-- Why a set of joins cannot be put in an order. -/
inductive JoinProblem where
  | reintroducesRoot (join : JoinDescriptor)
  | introducedTwice (aliasName : String) (first second : JoinDescriptor)
  | aliasMismatch (join : JoinDescriptor) (known : TableReference)
  /-- the aliases of a cycle, sorted -/
  | cycle (aliases : List String)
  | neverIntroduced (join : JoinDescriptor)
  | chainOutOfOrder (qualified : String)
  | unreachable (what : String) (table : TableReference)
deriving Repr

/-- The text of a join problem. -/
def JoinProblem.message : JoinProblem → String
  | .reintroducesRoot j => "join " ++ j.render ++ " re-introduces the root alias"
  | .introducedTwice a first second =>
    "alias '" ++ a ++ "' introduced by both " ++ first.render ++ " and " ++ second.render
  | .aliasMismatch j known =>
    "join " ++ j.render ++ " expects alias '" ++ j.source.aliasName ++ "' to be " ++ j.source.table ++
      " but it is " ++ known.table
  | .cycle aliases => "joins form a cycle between aliases " ++ ", ".intercalate aliases
  | .neverIntroduced j =>
    "join " ++ j.render ++ " depends on alias '" ++ j.source.aliasName ++ "' which is never introduced"
  | .chainOutOfOrder qualified => "join chain of '" ++ qualified ++ "' is not in dependency order"
  | .unreachable what table =>
    "'" ++ what ++ "' reads from " ++ table.render ++ " which its joins never introduce"

/-- Why a resource declaration is refused. -/
inductive DeclarationProblem where
  | aliasTwice (aliasName : String)
  | unknownAlias (aliasName : String)
  | joinTwice (name : String)
  | undeclaredSchema (name schema : String)
  | unknownJoin (name : String)
  | attributeTwice (qualified : String)
  | restrictionNeedsValue (column : String)
deriving Repr

/-- The text of a declaration problem. -/
def DeclarationProblem.message : DeclarationProblem → String
  | .aliasTwice a => "table alias '" ++ a ++ "' declared twice"
  | .unknownAlias a => "unknown table alias '" ++ a ++ "'"
  | .joinTwice n => "join '" ++ n ++ "' declared twice"
  | .undeclaredSchema name schema =>
    "attribute '" ++ name ++ "' uses undeclared schema '" ++ schema ++ "'"
  | .unknownJoin n => "unknown join '" ++ n ++ "'"
  | .attributeTwice q => "attribute '" ++ q ++ "' declared twice"
  | .restrictionNeedsValue c => "restriction on '" ++ c ++ "' needs a value"

/-- An error of the library. -/
inductive QueryError where
  | unknownResourceType (name : String)
  | unknownAttribute (path : String)
  | inconsistentJoins (root : String) (problem : JoinProblem)
  | invalidFilterValue (path : String) (value : FilterValue) (problem : ValueProblem)
  /-- a declaration of the named resource is refused -/
  | invalidDeclaration (resource : String) (problem : DeclarationProblem)
  /-- two resources of one name, up to ASCII case -/
  | registeredTwice (name : String)
  /-- a catalog file that cannot be read -/
  | unreadableCatalog (path : String) (reason : String)
  /-- a catalog file that is no catalog declaration -/
  | malformedCatalog (reason : String)
  | database (message : String)

/-- Who is at fault for an error. -/
inductive ErrorClass where
  | clientInput
  | internal
  | database
deriving DecidableEq, Repr

/-- The SCIM error type of an error the client caused by its filter. -/
inductive ScimErrorType where
  | invalidFilter
  | invalidValue
deriving DecidableEq, Repr

/-- The SCIM name of an error type. -/
def ScimErrorType.name : ScimErrorType → String
  | .invalidFilter => "invalidFilter"
  | .invalidValue => "invalidValue"

namespace QueryError

/-- The text of an error. -/
def message : QueryError → String
  | .unknownResourceType name => "Unknown resource type: " ++ name
  | .unknownAttribute path => "Unknown attribute: " ++ path
  | .inconsistentJoins root problem =>
    "Inconsistent join graph rooted at '" ++ root ++ "': " ++ problem.message
  | .invalidFilterValue path value problem =>
    "Invalid filter value " ++ value.render ++ " for '" ++ path ++ "': " ++ problem.message
  | .invalidDeclaration resource problem =>
    "Invalid resource declaration: " ++ resource ++ ": " ++ problem.message
  | .registeredTwice name => "Invalid resource declaration: resource type '" ++ name ++ "' registered twice"
  | .unreadableCatalog path reason => "Invalid resource declaration: " ++ path ++ ": " ++ reason
  | .malformedCatalog reason => "Invalid resource declaration: " ++ reason
  | .database msg => "Database error: " ++ msg

/-- Who is at fault. -/
def errorClass : QueryError → ErrorClass
  | .unknownResourceType _ | .unknownAttribute _ | .invalidFilterValue .. => .clientInput
  | .database _ => .database
  | _ => .internal

/-- The SCIM error type: an invalid filter for an unknown attribute, an invalid value for
a literal that does not fit. -/
def scimType : QueryError → Option ScimErrorType
  | .unknownAttribute _ => some .invalidFilter
  | .invalidFilterValue .. => some .invalidValue
  | _ => none

end QueryError

end ScimQuery
