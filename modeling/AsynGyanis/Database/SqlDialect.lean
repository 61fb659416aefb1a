import Mathlib

/-!
# The statements a dialect supplies

A transaction object does not know the text of its control statements: the
dialect of the connection it holds hands them out, and says where the
isolation statement belongs. Three drivers have a dialect. SQLite opens with
`BEGIN IMMEDIATE` and has neither an isolation statement nor a read-only
form; MySQL wants its isolation statement before `START TRANSACTION`;
PostgreSQL wants it after `BEGIN`.
-/

namespace AsynGyanis.Database

inductive DatabaseType where
  | mySql
  | redis
  | sqlite
  | postgreSql
deriving DecidableEq, Repr

def databaseTypeName : DatabaseType → String
  | .mySql => "MySql"
  | .redis => "Redis"
  | .sqlite => "Sqlite"
  | .postgreSql => "PostgreSql"

/-- `default` is the engine's own level: no statement is sent for it. -/
inductive TransactionIsolationLevel where
  | default
  | readUncommitted
  | readCommitted
  | repeatableRead
  | serializable
deriving DecidableEq, Repr

def isolationLevelName : TransactionIsolationLevel → String
  | .default => "引擎默认"
  | .readUncommitted => "读未提交（READ UNCOMMITTED）"
  | .readCommitted => "读已提交（READ COMMITTED）"
  | .repeatableRead => "可重复读（REPEATABLE READ）"
  | .serializable => "串行化（SERIALIZABLE）"

/-! ## Statements -/

/-- What the engine makes of a statement, as far as transactions go. -/
inductive StatementKind where
  | begin_
  | isolation
  | commit
  | rollback
  | savepoint
  | rollbackToSavepoint
  | releaseSavepoint
  | query
deriving DecidableEq, Repr

structure Statement where
  kind : StatementKind
  text : String
deriving DecidableEq, Repr

structure SqlDialect where
  databaseType : DatabaseType
  identifierQuoteCharacter : Char
  beginTransactionStatement : String
  readOnlyTransactionStatement : Option String
  /-- Empty: the engine has no such statement. -/
  isolationLevelStatement : TransactionIsolationLevel → String
  isolationLevelStatementFollowsBegin : Bool
  commitStatement : String
  rollbackStatement : String

namespace SqlDialect

/-- The quote character stands twice where the name contains it. -/
def quoteIdentifier (dialect : SqlDialect) (identifier : String) : String :=
  let quote := dialect.identifierQuoteCharacter
  String.ofList (quote :: (identifier.toList.flatMap fun character =>
    if character = quote then [quote, character] else [character]) ++ [quote])

def savepointStatement (dialect : SqlDialect) (name : String) : String :=
  "SAVEPOINT " ++ dialect.quoteIdentifier name

def rollbackToSavepointStatement (dialect : SqlDialect) (name : String) :
    String :=
  "ROLLBACK TO SAVEPOINT " ++ dialect.quoteIdentifier name

def releaseSavepointStatement (dialect : SqlDialect) (name : String) :
    String :=
  "RELEASE SAVEPOINT " ++ dialect.quoteIdentifier name

end SqlDialect

def setTransactionIsolationLevel : TransactionIsolationLevel → String
  | .readUncommitted => "SET TRANSACTION ISOLATION LEVEL READ UNCOMMITTED"
  | .readCommitted => "SET TRANSACTION ISOLATION LEVEL READ COMMITTED"
  | .repeatableRead => "SET TRANSACTION ISOLATION LEVEL REPEATABLE READ"
  | .serializable => "SET TRANSACTION ISOLATION LEVEL SERIALIZABLE"
  | .default => ""

def sqliteDialect : SqlDialect where
  databaseType := .sqlite
  identifierQuoteCharacter := '"'
  beginTransactionStatement := "BEGIN IMMEDIATE"
  readOnlyTransactionStatement := none
  isolationLevelStatement _ := ""
  isolationLevelStatementFollowsBegin := false
  commitStatement := "COMMIT"
  rollbackStatement := "ROLLBACK"

def mySqlDialect : SqlDialect where
  databaseType := .mySql
  identifierQuoteCharacter := Char.ofNat 0x60
  beginTransactionStatement := "START TRANSACTION"
  readOnlyTransactionStatement := some "START TRANSACTION READ ONLY"
  isolationLevelStatement := setTransactionIsolationLevel
  isolationLevelStatementFollowsBegin := false
  commitStatement := "COMMIT"
  rollbackStatement := "ROLLBACK"

def postgresDialect : SqlDialect where
  databaseType := .postgreSql
  identifierQuoteCharacter := '"'
  beginTransactionStatement := "BEGIN"
  readOnlyTransactionStatement := some "START TRANSACTION READ ONLY"
  isolationLevelStatement := setTransactionIsolationLevel
  isolationLevelStatementFollowsBegin := true
  commitStatement := "COMMIT"
  rollbackStatement := "ROLLBACK"

/-- `DialectRegistry::dialectFor`: Redis takes no part in SQL. -/
def dialectFor : DatabaseType → Except String SqlDialect
  | .mySql => .ok mySqlDialect
  | .sqlite => .ok sqliteDialect
  | .postgreSql => .ok postgresDialect
  | .redis => .error ("方言注册表：" ++ databaseTypeName .redis ++ " 不参与 SQL 查询树翻译，请改用该驱动的命令接口")

end AsynGyanis.Database
