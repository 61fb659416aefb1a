import AsynGyanis.Database.SqlDialect

/-!
# Transactions

A `Transaction` borrows one connection of the pool, begins a transaction on
it and keeps it until the object ends. `isActive` is what its five
operations share: set when `BEGIN` has been accepted, cleared by an accepted
`COMMIT` or `ROLLBACK`, and what the destructor goes by.

The engine at the other end of the connection is an arbitrary answer to
every statement, in view of all that was exchanged before. It may refuse,
it may drop the transaction by itself (a deadlock victim, an implicit
commit) and the link may break. A connection without a link refuses
everything and nothing is sent.

The three-argument constructor is the one the others delegate to. When it
throws, the object has never existed: its destructor does not run, only the
members are destroyed, and the member that holds the connection gives it
back to the pool as it is.
-/

namespace AsynGyanis.Database

/-! ## The connection -/

inductive Reply where
  | accepted (dropsTransaction : Bool)
  | refused (error : String) (nativeErrorCode : Int) (dropsTransaction : Bool)
  | linkLost (error : String) (nativeErrorCode : Int)
deriving DecidableEq, Repr

structure Exchange where
  statement : Statement
  isAccepted : Bool
deriving DecidableEq, Repr

/-- A borrowed connection. `hasOpenTransaction` is the engine's side: a
transaction that this borrower began is open in the session. `exchanges` is
what this borrower sent, oldest first. -/
structure DatabaseConnection where
  databaseType : DatabaseType
  isConnected : Bool
  hasOpenTransaction : Bool
  lastError : String
  lastNativeErrorCode : Int
  exchanges : List Exchange
deriving DecidableEq, Repr

abbrev Engine := List Exchange → Statement → Reply

/-- What an accepted statement makes of the transaction. `SAVEPOINT` where
none is open opens one in SQLite. -/
def StatementKind.leavesOpen (wasOpen : Bool) : StatementKind → Bool
  | .begin_ | .savepoint => true
  | .commit | .rollback => false
  | .isolation | .rollbackToSavepoint | .releaseSavepoint | .query => wasOpen

def kNotConnectedError : String := "未连接到数据库，命令未执行"

/-- The connection of `pool.acquire()`: linked, its session reset. -/
def DatabaseConnection.acquired (databaseType : DatabaseType) : DatabaseConnection where
  databaseType
  isConnected := true
  hasOpenTransaction := false
  lastError := ""
  lastNativeErrorCode := -1
  exchanges := []

namespace DatabaseConnection

def execute (engine : Engine) (c : DatabaseConnection)
    (statement : Statement) : Bool × DatabaseConnection :=
  if c.isConnected = false then
    (false, { c with
      lastError := kNotConnectedError
      lastNativeErrorCode := -1 })
  else
    match engine c.exchanges statement with
    | .accepted dropsTransaction =>
      (true, { c with
        hasOpenTransaction := statement.kind.leavesOpen (c.hasOpenTransaction && !dropsTransaction)
        lastError := ""
        lastNativeErrorCode := -1
        exchanges := c.exchanges ++ [⟨statement, true⟩] })
    | .refused error nativeErrorCode dropsTransaction =>
      (false, { c with
        hasOpenTransaction := c.hasOpenTransaction && !dropsTransaction
        lastError := error
        lastNativeErrorCode := nativeErrorCode
        exchanges := c.exchanges ++ [⟨statement, false⟩] })
    | .linkLost error nativeErrorCode =>
      (false, { c with
        isConnected := false
        lastError := error
        lastNativeErrorCode := nativeErrorCode
        exchanges := c.exchanges ++ [⟨statement, false⟩] })

def disconnect (c : DatabaseConnection) : DatabaseConnection := { c with isConnected := false }

/-- What the pool may be given back. -/
def LeavesNothingOpen (c : DatabaseConnection) : Prop :=
  c.hasOpenTransaction = false ∨ c.isConnected = false

instance (c : DatabaseConnection) : Decidable c.LeavesNothingOpen :=
  inferInstanceAs (Decidable (_ ∨ _))

end DatabaseConnection

/-! ## The object -/

inductive TransactionAccessMode where
  | readWrite
  | readOnly
deriving DecidableEq, Repr

inductive TransactionException where
  | connectionUnavailable (message : String)
  | invalidArgument (message : String)
  | queryExecution (message : String) (nativeErrorCode : Int)
  | transactionTimeout (message : String)
deriving DecidableEq, Repr

/-- `timeLimit` counts milliseconds, the clock nanoseconds. -/
structure Transaction where
  connection : DatabaseConnection
  dialect : SqlDialect
  isActive : Bool
  lastError : String
  timeLimit : Int
  beganAt : Int

/-- A constructor that threw, and the connection its unwinding gave back. -/
structure ConstructionFailure where
  exception : TransactionException
  handedBack : Option DatabaseConnection
deriving DecidableEq, Repr

namespace Transaction

variable (engine : Engine)

variable (t : Transaction)

def executeControlStatement (statement : Statement) : Bool × Transaction :=
  let (isAccepted, connection) := t.connection.execute engine statement
  (isAccepted, { t with
    connection
    lastError := if isAccepted then "" else
      "数据库事务：" ++ statement.text ++ " 执行失败：" ++ connection.lastError })

/-- The object before the constructor's body: members only. -/
def members (connection : DatabaseConnection) (dialect : SqlDialect) : Transaction where
  connection
  dialect
  isActive := false
  lastError := ""
  timeLimit := 0
  beganAt := 0

/-- `throw QueryExecutionException(m_lastError, ..)` in the constructor. -/
def constructionRefused (t : Transaction) : ConstructionFailure where
  exception := .queryExecution t.lastError t.connection.lastNativeErrorCode
  handedBack := some t.connection

def noReadOnlyForm (databaseType : DatabaseType) : String :=
  "数据库事务：引擎 " ++ databaseTypeName databaseType ++ " 没有只读事务形态，无法按 ReadOnly 开启。" ++
    "SQLite 的 BEGIN 只有 deferred / immediate / exclusive 三种，" ++
    "都不区分读写；要防误写请在同一连接上开事务后立刻执行只读约束" ++
    "（应用层判据），或换用 MySQL / PostgreSQL"

def noIsolationStatement (databaseType : DatabaseType)
    (isolationLevel : TransactionIsolationLevel) : String :=
  "数据库事务：引擎 " ++ databaseTypeName databaseType ++
    " 不支持按事务请求隔离级别「" ++ isolationLevelName isolationLevel ++
    "」；请用默认级别（Default），或换用支持 SET TRANSACTION 的引擎"

/-- The tail of the constructor, from `BEGIN` on. -/
def beginOn (beginStatement isolationStatement : String) (isolationAfterBegin : Bool) (now : Int) :
    Except ConstructionFailure Transaction :=
  let (isBegun, t) := t.executeControlStatement engine ⟨.begin_, beginStatement⟩
  if isBegun = false then .error t.constructionRefused
  else
    let t := { t with isActive := true }
    if isolationAfterBegin then
      let (isSet, t) := t.executeControlStatement engine ⟨.isolation, isolationStatement⟩
      -- thrown inside the constructor: `~Transaction` does not run
      if isSet = false then .error t.constructionRefused
      else .ok { t with beganAt := now }
    else .ok { t with beganAt := now }

/-- `Transaction::Transaction(pool, isolationLevel, accessMode)`; `acquired`
is what `pool.acquire()` gave, `now` the clock once `BEGIN` is through. -/
def construct (acquired : Option DatabaseConnection) (isolationLevel : TransactionIsolationLevel)
    (accessMode : TransactionAccessMode) (now : Int) :
    Except ConstructionFailure Transaction :=
  match acquired with
  | none => .error ⟨.connectionUnavailable
      ("数据库事务：无法从连接池获取连接（池已达上限且等待超时、" ++ "连接工厂创建失败或等待名额被拒），事务未开启"), none⟩
  | some connection =>
    match dialectFor connection.databaseType with
    | .error message => .error ⟨.invalidArgument message, some connection⟩
    | .ok dialect =>
      let beginStatement := match accessMode with
        | .readOnly => dialect.readOnlyTransactionStatement
        | .readWrite => some dialect.beginTransactionStatement
      match beginStatement with
      | none => .error ⟨.invalidArgument (noReadOnlyForm connection.databaseType), some connection⟩
      | some beginStatement =>
        let isolationRequested := isolationLevel != .default
        let isolationAfterBegin := isolationRequested && dialect.isolationLevelStatementFollowsBegin
        let isolationStatement :=
          if isolationRequested then
            dialect.isolationLevelStatement isolationLevel
          else ""
        if isolationRequested && isolationStatement.isEmpty then
          .error ⟨.invalidArgument (noIsolationStatement
            connection.databaseType isolationLevel), some connection⟩
        else
          let t := members connection dialect
          if isolationRequested && !isolationAfterBegin then
            let (isSet, t) := t.executeControlStatement engine ⟨.isolation, isolationStatement⟩
            if isSet = false then .error t.constructionRefused
            else t.beginOn engine beginStatement isolationStatement isolationAfterBegin now
          else t.beginOn engine beginStatement isolationStatement isolationAfterBegin now

/-! ## Its operations -/

def isTimeLimitExceeded (now : Int) : Bool := t.isActive && decide (0 < t.timeLimit) &&
    decide (t.timeLimit * 1000000 ≤ now - t.beganAt)

def timeLimitExceededReason (now : Int) : String := "数据库事务：这一整笔事务已越过 setTimeLimit 设的 " ++
    toString t.timeLimit ++ " 毫秒时限（从 BEGIN 起实际用去 " ++
    toString ((now - t.beganAt).tdiv 1000000) ++
    " 毫秒），该事务的后续语句与提交都不再被接受。" ++
    "请另起一笔，或把额度放宽到实际需要的时长；已经发出的语句靠" ++
    "透传下去的语句级超时被打断（掩盖不住的时刻以引擎的中断报错为准）"

def commit (t : Transaction) (now : Int) : Bool × Transaction :=
  if t.isActive = false then (true, t)
  else if t.isTimeLimitExceeded now then
    (false, { t with lastError := t.timeLimitExceededReason now })
  else
    let (isAccepted, t) := t.executeControlStatement engine ⟨.commit, t.dialect.commitStatement⟩
    if isAccepted = false then (false, t)
    else (true, { t with isActive := false })

def rollback (t : Transaction) : Bool × Transaction :=
  if t.isActive = false then (true, t)
  else
    let (isAccepted, t) := t.executeControlStatement engine ⟨.rollback, t.dialect.rollbackStatement⟩
    if isAccepted = false then
      (false, { t with connection := t.connection.disconnect })
    else (true, { t with isActive := false })

/-- `~Transaction`, and then the member that gives the connection back. -/
def destroy : DatabaseConnection :=
  if t.isActive then (t.rollback engine).2.connection else t.connection

def isAsciiWhitespace (character : Char) : Bool :=
  [0x20, 0x09, 0x0A, 0x0D, 0x0C, 0x0B].contains character.toNat

def checkSavepointPremises (name action : String)
    (now : Int) : Except TransactionException (Bool × Transaction) :=
  if name.isEmpty || name.toList.any (·.toNat == 0) then
    .error (.invalidArgument ("数据库事务：" ++ action ++ "保存点需要一个非空且不含 NUL 的名字"))
  else if name.toList.all isAsciiWhitespace then
    .error (.invalidArgument ("数据库事务：" ++ action ++ "保存点的名字不能全是空白字符（它会被原样引起来送进语句）"))
  else if t.isActive = false then
    .ok (false, { t with lastError := "数据库事务：事务已结束（已提交或已回滚），无法" ++ action ++ "保存点" })
  else if t.isTimeLimitExceeded now then
    .ok (false, { t with lastError := t.timeLimitExceededReason now })
  else .ok (true, t)

/-- The shape of the three savepoint operations. -/
def savepointOperation (statement : Statement) (name action : String) (now : Int) :
    Except TransactionException (Bool × Transaction) := do
  let (isPermitted, t) ← t.checkSavepointPremises name action now
  if isPermitted = false then .ok (false, t)
  else .ok (t.executeControlStatement engine statement)

def savepoint (t : Transaction) (name : String) (now : Int) :
    Except TransactionException (Bool × Transaction) :=
  t.savepointOperation engine ⟨.savepoint, t.dialect.savepointStatement name⟩ name "建立" now

def rollbackToSavepoint (t : Transaction) (name : String) (now : Int) :
    Except TransactionException (Bool × Transaction) :=
  t.savepointOperation engine ⟨.rollbackToSavepoint, t.dialect.rollbackToSavepointStatement name⟩
    name "回退到" now

def releaseSavepoint (t : Transaction) (name : String) (now : Int) :
    Except TransactionException (Bool × Transaction) :=
  t.savepointOperation engine ⟨.releaseSavepoint, t.dialect.releaseSavepointStatement name⟩
    name "丢弃" now

/-- A statement of the business through `Queryable(Transaction&)`: the time
limit is asked, `isActive` is not. -/
def query (t : Transaction) (text : String) (now : Int) :
    Except TransactionException (Bool × Transaction) :=
  if t.isTimeLimitExceeded now then
    .error (.transactionTimeout (t.timeLimitExceededReason now))
  else
    let (isAccepted, connection) := t.connection.execute engine ⟨.query, text⟩
    .ok (isAccepted, { t with connection })

def setTimeLimit (limit : Int) : Transaction := { t with timeLimit := limit }

/-! ## Runs -/

inductive Call where
  | commit (now : Int)
  | rollback
  | savepoint (name : String) (now : Int)
  | rollbackToSavepoint (name : String) (now : Int)
  | releaseSavepoint (name : String) (now : Int)
  | query (text : String) (now : Int)
  | setTimeLimit (limit : Int)
deriving DecidableEq, Repr

/-- A call that throws leaves the object as it was. -/
def afterwards (outcome : Except TransactionException (Bool × Transaction)) :
    Transaction :=
  match outcome with
  | .ok (_, t') => t'
  | .error _ => t

def call : Call → Transaction
  | .commit now => (t.commit engine now).2
  | .rollback => (t.rollback engine).2
  | .savepoint name now => t.afterwards (t.savepoint engine name now)
  | .rollbackToSavepoint name now =>
    t.afterwards (t.rollbackToSavepoint engine name now)
  | .releaseSavepoint name now =>
    t.afterwards (t.releaseSavepoint engine name now)
  | .query text now => t.afterwards (t.query engine text now)
  | .setTimeLimit limit => t.setTimeLimit limit

def run (calls : List Call) : Transaction := calls.foldl (call engine) t

end Transaction

end AsynGyanis.Database
