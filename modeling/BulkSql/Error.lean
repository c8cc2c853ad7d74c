/-!
What can go wrong, as causes. The wording of every cause is in one function, `Error.message`.
-/
namespace BulkSql

/-- A shape of expression or query text that cannot be handled. -/
inductive Unsupported
  | undefinedFor (operation : String) (types : List String)
  | notOneArgument (function : String) (count : Nat)
  | argumentCount (function : String) (count : Nat)
  | initializerAsScalar (entity : String)
  | initializerSelected (entity : String)
  | initializerInQuery (entity : String)
  | capturedName (name : String)
  | capturedTwice (name : String)
  | updaterShape (shown : String)
  | projectedRows (entity : String)
  | unbalancedClose
  | unbalancedOpen
  | unterminatedQuote
  | unterminatedComment
  | unterminatedDollarQuote
  | strayDollar
  | settingTwice (name first second : String)
  | fromWithoutSource
  | unbalancedSubquery
  | unexpectedSource (token : String)
  | aliasMissing
  | severalSources
  | notSelect (text : String)
  | severalStatements
  | noFrom
  | projectionWithoutFrom
  | emptyProjection
  | quantifiedProjection
  | severalColumns
  | notIdentifier (text : String)
  | stated (reason : String)
  deriving DecidableEq, Repr

namespace Unsupported

def message : Unsupported → String
  | undefinedFor operation types => operation ++ " is not defined for " ++ ", ".intercalate types
  | notOneArgument f n => f ++ " takes one argument, got " ++ toString n
  | argumentCount f n => f ++ " called with " ++ toString n ++ " arguments"
  | initializerAsScalar e => "member-initializer for '" ++ e ++ "' is not a scalar value"
  | initializerSelected e =>
    "cannot select member-initializer for '" ++ e ++ "'; project a single value"
  | initializerInQuery e => "member-initializer for '" ++ e ++ "' cannot appear inside a query"
  | capturedName n => "captured variable '" ++ n ++ "' cannot be used as a session setting name"
  | capturedTwice n => "captured variable '" ++ n ++ "' is bound to two different values"
  | updaterShape shown => "updater must be a member-initializer, got `" ++ shown ++ "`"
  | projectedRows e => "query over '" ++ e
      ++ "' must select whole rows; a projected query cannot drive a bulk statement"
  | unbalancedClose => "unbalanced ')' in query text"
  | unbalancedOpen => "unbalanced '(' in query text"
  | unterminatedQuote => "unterminated quoted text in query"
  | unterminatedComment => "unterminated comment in query"
  | unterminatedDollarQuote => "unterminated dollar-quoted text in query"
  | strayDollar => "stray '$' in query text"
  | settingTwice n v w =>
    "session variable '" ++ n ++ "' is set to both " ++ v ++ " and " ++ w
  | fromWithoutSource => "FROM without a source"
  | unbalancedSubquery => "unbalanced subquery in FROM"
  | unexpectedSource t => "unexpected '" ++ t ++ "' after FROM"
  | aliasMissing => "AS without an alias in FROM"
  | severalSources => "query reads from more than one source"
  | notSelect t => "expected a SELECT statement, got: " ++ t
  | severalStatements => "query text contains more than one statement"
  | noFrom => "query has no FROM clause"
  | projectionWithoutFrom => "projection has no FROM clause"
  | emptyProjection => "projection selects nothing"
  | quantifiedProjection => "projection with a set quantifier cannot be inlined"
  | severalColumns => "projection selects more than one column"
  | notIdentifier t => "'" ++ t ++ "' is not a single identifier"
  | stated reason => reason

end Unsupported

/-- A member that cannot be bound to a column, or is not there to be evaluated. -/
inductive BindingFault
  | rowMember (member : String)
  | otherEntity (constructed target : String)
  | nestedInitializer (member : String)
  | unmappedMember (entity member : String)
  | assignedTwice (member : String)
  | assignedInitializer (member : String)
  | stated (reason : String)
  deriving DecidableEq, Repr

namespace BindingFault

def message : BindingFault → String
  | rowMember m => "cannot evaluate row member '" ++ m ++ "' outside a query"
  | otherEntity c t => "updater constructs '" ++ c ++ "' but the target entity is '" ++ t ++ "'"
  | nestedInitializer m => "member '" ++ m
      ++ "' uses a nested initializer; only direct assignments are supported"
  | unmappedMember e m => "entity '" ++ e ++ "' has no mapped member '" ++ m ++ "'"
  | assignedTwice m => "member '" ++ m ++ "' is assigned more than once"
  | assignedInitializer m => "member '" ++ m ++ "' is assigned a member-initializer"
  | stated reason => reason

end BindingFault

/-- A mapping that is inconsistent or incomplete. -/
inductive MetadataFault
  | emptyIdentifier
  | nulInIdentifier
  | unmappedMember (entity member : String)
  | notExposed (entity member : String)
  | noKey (entity : String)
  | noColumns (entity : String)
  | memberTwice (entity member : String)
  | columnTwice (entity column : String)
  | stated (reason : String)
  deriving DecidableEq, Repr

namespace MetadataFault

def message : MetadataFault → String
  | emptyIdentifier => "Identifier cannot be empty"
  | nulInIdentifier => "Identifier cannot contain NUL character"
  | unmappedMember e m => "entity '" ++ e ++ "' has no mapped member '" ++ m ++ "'"
  | notExposed e m => "entity '" ++ e ++ "' does not expose mapped member '" ++ m ++ "'"
  | noKey e => "entity '" ++ e ++ "' has no primary key columns"
  | noColumns e => "entity '" ++ e ++ "' maps no columns"
  | memberTwice e m => "entity '" ++ e ++ "' maps member '" ++ m ++ "' twice"
  | columnTwice e c => "entity '" ++ e ++ "' maps column '" ++ c ++ "' twice"
  | stated reason => reason

end MetadataFault

/-- Input or options outside what is allowed. -/
inductive ValidationFault
  | negationOverflow
  | absOverflow
  | overflow (left : Int) (operator : String) (right : Int)
  | divisionByZero
  | settingNamespace (name : String)
  | noAssignments (entity : String)
  | misalignedParameters (kind table : String) (placeholders parameters : Nat)
  | tooManyParameters (kind table : String) (parameters limit : Nat)
  | tooManyCells (rows columns : Nat) (table : String) (limit : Nat)
  | aliasNotBare (option name : String)
  | aliasesEqual (name : String)
  | parameterLimit (most given : Nat)
  | optionsDocument
  | stated (reason : String)
  deriving DecidableEq, Repr

namespace ValidationFault

def message : ValidationFault → String
  | negationOverflow => "integer overflow in negation"
  | absOverflow => "integer overflow in abs"
  | overflow a op b => "integer overflow in " ++ toString a ++ " " ++ op ++ " " ++ toString b
  | divisionByZero => "division by zero"
  | settingNamespace n => "invalid session setting namespace '" ++ n ++ "'"
  | noAssignments e => "updater for '" ++ e ++ "' assigns no members"
  | misalignedParameters k t n m =>
    k ++ " on " ++ t ++ ": placeholders(" ++ toString n ++ ") != params(" ++ toString m ++ ")"
  | tooManyParameters k t n m => k ++ " on " ++ t ++ " binds " ++ toString n
      ++ " parameters; the limit is " ++ toString m
  | tooManyCells r c t m => "inserting " ++ toString r ++ " rows x " ++ toString c
      ++ " columns into " ++ t ++ " exceeds the limit of " ++ toString m ++ " parameters"
  | aliasNotBare o n => o ++ " '" ++ n ++ "' must be a lower-case unreserved identifier"
  | aliasesEqual n => "update_alias and join_alias must differ (both '" ++ n ++ "')"
  | parameterLimit most n =>
    "max_parameters must be between 1 and " ++ toString most ++ ", got " ++ toString n
  | optionsDocument => "invalid bulk config: ..."
  | stated reason => reason

end ValidationFault

/-- What the server said about a statement that it refused. -/
structure ServerReport where
  code : String
  message : String
  constraint : Option String := none
  deriving DecidableEq, Repr

/-- A failed operation, by cause. -/
inductive Error
  | unsupported (why : Unsupported)
  | binding (why : BindingFault)
  | metadata (why : MetadataFault)
  | validation (why : ValidationFault)
  | conversion (column reason : String)
  | connection (reason : String)
  /-- A refused statement, or, without a report, one that could not be sent. -/
  | query (report : Option ServerReport)
  | unique (reason : String)
  | foreignKey (reason : String)
  | check (reason : String)
  | pool (reason : String)
  | other (reason : String)
  /-- A token was to be read of which trimming had cut off a part. -/
  | cutToken
  /-- There can be no room for so many connections. -/
  | poolSize (size : Nat)
  deriving DecidableEq, Repr

namespace Error

def message : Error → String
  | unsupported why => "Unsupported expression: " ++ why.message
  | binding why => "Binding error: " ++ why.message
  | metadata why => "Metadata error: " ++ why.message
  | validation why => "Validation error: " ++ why.message
  | conversion c r => "Conversion error on column '" ++ c ++ "': " ++ r
  | connection r => "Connection error: " ++ r
  | query (some report) => "Query error: " ++ report.message
  | query none => "Query error: the statement could not be encoded"
  | unique r => "Unique constraint violation: " ++ r
  | foreignKey r => "Foreign key violation: " ++ r
  | check r => "Check constraint violation: " ++ r
  | pool r => "Pool error: " ++ r
  | other r => r
  | cutToken => "a token reaches past the end of the query text"
  | poolSize n => "a pool has no room for " ++ toString n ++ " connections"

def isUnsupported : Error → Bool
  | unsupported _ => true
  | _ => false

def isBinding : Error → Bool
  | binding _ => true
  | _ => false

/-- The store or the connection reported it. -/
def isExecution : Error → Bool
  | connection _ | query _ | unique _ | foreignKey _ | check _ | pool _ => true
  | _ => false

def isUnique : Error → Bool
  | unique _ => true
  | _ => false

/-- The error that a server's report stands for: three codes name a violated constraint. -/
def ofReport (report : ServerReport) : Error :=
  let reason := report.constraint.getD "unknown" ++ ": " ++ report.message
  match report.code with
  | "23505" => unique reason
  | "23503" => foreignKey reason
  | "23514" => check reason
  | _ => query (some report)

end Error

end BulkSql
