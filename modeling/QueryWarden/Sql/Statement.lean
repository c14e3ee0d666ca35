import QueryWarden.Sql.Tree

/-! Statements. Of a statement that is no query only the kind is kept. -/
namespace QueryWarden.Sql

inductive StatementKind where
  | alterIndex | alterPolicy | alterRole | alterTable | alterView | analyze | assert
  | attachDatabase | cache | call | close | comment | commit | copy | createDatabase
  | createExtension | createFunction | createIndex | createMacro | createPolicy | createProcedure
  | createRole | createSchema | createSecret | createSequence | createTable | createTrigger
  | createType | createView | createVirtualTable | deallocate | declare | delete | detachDatabase
  | directory | discard | drop | dropFunction | dropPolicy | dropProcedure | dropSecret
  | dropTrigger | execute | explain | explainTable | fetch | flush | grant | insert | install
  | kill | listen | load | lockTables | merge | msck | notify | optimizeTable | pragma | prepare
  | releaseSavepoint | revoke | rollback | savepoint | setNames | setNamesDefault | setRole
  | setTimeZone | setTransaction | setVariable | showCollation | showColumns | showCreate
  | showDatabases | showFunctions | showSchemas | showStatus | showTables | showVariable
  | showVariables | showViews | startTransaction | truncate | uncache | unload | unlockTables
  | update | use
deriving Repr, DecidableEq

def StatementKind.name : StatementKind → String
  | alterIndex | alterTable | alterView => "Alter"
  | alterPolicy => "AlterPolicy"
  | alterRole => "AlterRole"
  | analyze => "Analyze"
  | assert => "Assert"
  | attachDatabase => "AttachDatabase"
  | cache => "Cache"
  | call => "Call"
  | close => "Close"
  | comment => "Comment"
  | commit => "Commit"
  | copy => "Copy"
  | createDatabase => "CreateDatabase"
  | createExtension => "CreateExtension"
  | createFunction => "CreateFunction"
  | createIndex | createTable | createView => "Create"
  | createMacro => "CreateMacro"
  | createPolicy => "CreatePolicy"
  | createProcedure => "CreateProcedure"
  | createRole => "CreateRole"
  | createSchema => "CreateSchema"
  | createSecret => "CreateSecret"
  | createSequence => "CreateSequence"
  | createTrigger => "CreateTrigger"
  | createType => "CreateType"
  | createVirtualTable => "CreateVirtualTable"
  | deallocate => "Deallocate"
  | declare => "Declare"
  | delete => "Delete"
  | detachDatabase => "DetachDuckDBDatabase"
  | directory => "Directory"
  | discard => "Discard"
  | drop | dropFunction => "Drop"
  | dropPolicy => "DropPolicy"
  | dropProcedure => "DropProcedure"
  | dropSecret => "DropSecret"
  | dropTrigger => "DropTrigger"
  | execute => "Execute"
  | explain => "Explain"
  | explainTable => "ExplainTable"
  | fetch => "Fetch"
  | flush => "Flush"
  | grant => "Grant"
  | insert => "Insert"
  | install => "Install"
  | kill => "Kill"
  | listen => "LISTEN"
  | load => "Load"
  | lockTables => "LockTables"
  | merge => "Merge"
  | msck => "Msck"
  | notify => "NOTIFY"
  | optimizeTable => "OptimizeTable"
  | pragma => "Pragma"
  | prepare => "Prepare"
  | releaseSavepoint => "ReleaseSavepoint"
  | revoke => "Revoke"
  | rollback => "Rollback"
  | savepoint => "Savepoint"
  | setNames => "SetNames"
  | setNamesDefault => "SetNamesDefault"
  | setRole => "SetRole"
  | setTimeZone => "SetTimeZone"
  | setTransaction => "SetTransaction"
  | setVariable => "SetVariable"
  | showCollation => "ShowCollation"
  | showColumns => "ShowColumns"
  | showCreate => "ShowCreate"
  | showDatabases => "ShowDatabases"
  | showFunctions => "ShowFunctions"
  | showSchemas => "ShowSchemas"
  | showStatus => "ShowStatus"
  | showTables => "ShowTables"
  | showVariable => "ShowVariable"
  | showVariables => "ShowVariables"
  | showViews => "ShowViews"
  | startTransaction => "StartTransaction"
  | truncate => "Truncate"
  | uncache => "UNCache"
  | unload => "Unload"
  | unlockTables => "UnlockTables"
  | update => "Update"
  | use => "Use"

/-- A statement: a query, or something else of a kind. -/
inductive Statement where
  | query (q : Query)
  | other (kind : StatementKind)

end QueryWarden.Sql
