import AsynGyanis.Database.Transaction

/-!
# What a transaction leaves behind

The invariant of the object ties `isActive` to the session: while it is set,
nothing sent so far has ended the transaction; once it is cleared, the
session has no transaction of this object open, and the last statement the
engine accepted from it was the `COMMIT` or the `ROLLBACK` that ended it.
Statements of the business that follow run in autocommit and belong to no
transaction, which is why `ofTransaction` cuts the exchanges at the end.

The destructor then has two cases and both end well: an inactive object has
nothing open, and an active one sends `ROLLBACK`, which is accepted or costs
the connection its link. The constructor is the exception. PostgreSQL's
isolation statement follows an accepted `BEGIN`, and when it is refused the
exception leaves through a body whose destructor does not run.
-/

namespace AsynGyanis.Database

/-! ## Executing a statement -/

namespace DatabaseConnection

variable {engine : Engine} {c : DatabaseConnection} {statement : Statement}

theorem execute_accepted (h : (c.execute engine statement).1) :
    (c.execute engine statement).2.exchanges = c.exchanges ++ [⟨statement, true⟩] ∧
      ∃ isDropped, (c.execute engine statement).2.hasOpenTransaction =
        statement.kind.leavesOpen (c.hasOpenTransaction && !isDropped) := by
  rw [execute] at h ⊢
  split at h
  · cases h
  rename_i hconnected
  rw [if_neg hconnected]
  split at h
  · exact ⟨rfl, _, rfl⟩
  · cases h
  · cases h

theorem execute_refused (h : (c.execute engine statement).1 = false) :
    (((c.execute engine statement).2.isConnected = false ∧
        (c.execute engine statement).2.exchanges = c.exchanges) ∨
      (c.execute engine statement).2.exchanges = c.exchanges ++ [⟨statement, false⟩]) ∧
      ((c.execute engine statement).2.hasOpenTransaction → c.hasOpenTransaction) := by
  rw [execute] at h ⊢
  split at h
  · next hconnected =>
    rw [if_pos hconnected]
    exact ⟨.inl ⟨hconnected, rfl⟩, id⟩
  rename_i hconnected
  rw [if_neg hconnected]
  split at h
  · cases h
  · refine ⟨.inr rfl, ?_⟩
    intro hopen
    exact (Bool.and_eq_true_iff.mp hopen).1
  · exact ⟨.inr rfl, id⟩

theorem execute_closed (hclosed : c.hasOpenTransaction = false) (hbegin : statement.kind ≠ .begin_)
    (hsavepoint : statement.kind ≠ .savepoint) :
    (c.execute engine statement).2.hasOpenTransaction = false := by
  cases haccepted : (c.execute engine statement).1 with
  | true =>
    obtain ⟨_, isDropped, hopen⟩ := execute_accepted haccepted
    rw [hopen, hclosed, Bool.false_and]
    cases hkind : statement.kind with
    | begin_ => exact absurd hkind hbegin
    | savepoint => exact absurd hkind hsavepoint
    | isolation | commit | rollback | rollbackToSavepoint
    | releaseSavepoint | query => rfl
  | false =>
    obtain ⟨_, hopen⟩ := execute_refused haccepted
    refine Bool.eq_false_iff.mpr fun h => ?_
    rw [hopen h] at hclosed
    cases hclosed

end DatabaseConnection

open DatabaseConnection List

/-! ## The statements of one transaction -/

/-- An accepted `COMMIT` or `ROLLBACK`. -/
def Exchange.isEnding (exchange : Exchange) : Bool :=
  exchange.isAccepted && (exchange.statement.kind == .commit ||
    exchange.statement.kind == .rollback)

/-- Up to the statement that ended the transaction, that one included. -/
def ofTransaction : List Exchange → List Exchange
  | [] => []
  | exchange :: rest =>
    if exchange.isEnding then [exchange] else exchange :: ofTransaction rest

/-- The last accepted statement of the transaction. -/
def lastAccepted (exchanges : List Exchange) : Option Exchange :=
  ((ofTransaction exchanges).filter (·.isAccepted)).getLast?

theorem ofTransaction_append_of_ended {before : List Exchange}
    (h : ∃ exchange ∈ before, exchange.isEnding) (after : List Exchange) :
    ofTransaction (before ++ after) = ofTransaction before := by
  induction before with
  | nil =>
    obtain ⟨_, hmem, _⟩ := h
    cases hmem
  | cons first rest ih =>
    rw [cons_append, ofTransaction, ofTransaction]
    split
    · rfl
    rename_i hfirst
    obtain ⟨exchange, hmem, hending⟩ := h
    rcases mem_cons.mp hmem with heq | hrest
    · rw [heq] at hending
      exact absurd hending hfirst
    · rw [ih ⟨exchange, hrest, hending⟩]

theorem ofTransaction_append_of_open {before : List Exchange}
    (h : ∀ exchange ∈ before, exchange.isEnding = false) (after : List Exchange) :
    ofTransaction (before ++ after) = before ++ ofTransaction after := by
  induction before with
  | nil => rfl
  | cons first rest ih =>
    have hfirst := h first mem_cons_self
    have hrest := ih fun exchange hmem => h exchange (.tail _ hmem)
    rw [cons_append, ofTransaction, hrest, hfirst]
    rfl

theorem lastAccepted_ending {before : List Exchange}
    (h : ∀ exchange ∈ before, exchange.isEnding = false)
    {exchange : Exchange} (hending : exchange.isEnding) :
    lastAccepted (before ++ [exchange]) = some exchange := by
  have haccepted : exchange.isAccepted := (Bool.and_eq_true_iff.mp hending).1
  rw [lastAccepted, ofTransaction_append_of_open h, ofTransaction,
    if_pos hending, filter_append, filter_singleton, haccepted,
    cond_true, getLast?_append, getLast?_singleton]
  rfl

/-! ## The invariant -/

namespace Transaction

structure Sound (t : Transaction) : Prop where
  closed : t.isActive = false → t.connection.hasOpenTransaction = false
  unended : t.isActive = true → ∀ exchange ∈ t.connection.exchanges, exchange.isEnding = false
  ended : t.isActive = false →
    (∃ exchange ∈ t.connection.exchanges, exchange.isEnding = true) ∧
      ∃ exchange, lastAccepted t.connection.exchanges = some exchange ∧ exchange.isEnding = true

variable {engine : Engine} {t : Transaction}

/-- A statement that does not end the transaction, whatever the answer. -/
theorem Sound.execute (hsound : t.Sound) (engine : Engine) (statement : Statement)
    (hcommit : statement.kind ≠ .commit) (hrollback : statement.kind ≠ .rollback)
    (hopens : t.isActive = false → statement.kind ≠ .begin_ ∧ statement.kind ≠ .savepoint)
    (lastError : String) :
    Sound { t with
      connection := (t.connection.execute engine statement).2
      lastError } := by
  have hexchanges : ∃ sent, (t.connection.execute engine statement).2.exchanges =
          t.connection.exchanges ++ sent ∧
        ∀ exchange ∈ sent, exchange.isEnding = false := by
    cases haccepted : (t.connection.execute engine statement).1 with
    | true =>
      refine ⟨_, (execute_accepted haccepted).1, ?_⟩
      intro exchange hmem
      rw [mem_singleton] at hmem
      rw [hmem, Exchange.isEnding]
      simp [hcommit, hrollback]
    | false =>
      rcases (execute_refused haccepted).1 with ⟨_, h⟩ | h
      · exact ⟨[], by rw [h, append_nil], by simp⟩
      refine ⟨_, h, ?_⟩
      intro exchange hmem
      rw [mem_singleton] at hmem
      rw [hmem]
      rfl
  obtain ⟨sent, hsent, hnone⟩ := hexchanges
  refine ⟨?_, ?_, ?_⟩
  · intro hactive
    exact execute_closed (hsound.closed hactive) (hopens hactive).1 (hopens hactive).2
  · intro hactive exchange hmem
    have hmem : exchange ∈ t.connection.exchanges ++ sent := hsent ▸ hmem
    rcases mem_append.mp hmem with hbefore | hafter
    · exact hsound.unended hactive exchange hbefore
    · exact hnone exchange hafter
  intro hactive
  obtain ⟨⟨ending, hmem, hending⟩, hlast⟩ := hsound.ended hactive
  show (∃ exchange ∈ (t.connection.execute engine statement).2.exchanges,
      _) ∧ ∃ exchange, lastAccepted
        (t.connection.execute engine statement).2.exchanges = some exchange ∧ _
  rw [hsent]
  refine ⟨⟨ending, mem_append_left _ hmem, hending⟩, ?_⟩
  rw [lastAccepted, ofTransaction_append_of_ended ⟨ending, hmem, hending⟩]
  exact hlast

theorem Sound.finish (hsound : t.Sound) (hactive : t.isActive) (statement : Statement)
    (hkind : statement.kind = .commit ∨ statement.kind = .rollback)
    (haccepted : (t.connection.execute engine statement).1) (lastError : String) :
    Sound { t with
        connection := (t.connection.execute engine statement).2
        lastError
        isActive := false } ∧
      lastAccepted (t.connection.execute engine statement).2.exchanges =
        some ⟨statement, true⟩ := by
  obtain ⟨hexchanges, isDropped, hopen⟩ := execute_accepted haccepted
  have hending : Exchange.isEnding ⟨statement, true⟩ := by
    rw [Exchange.isEnding]
    rcases hkind with h | h <;> rw [h] <;> rfl
  have hlast : lastAccepted (t.connection.execute engine statement).2.exchanges
      = some ⟨statement, true⟩ := by
    rw [hexchanges]
    exact lastAccepted_ending (hsound.unended hactive) hending
  refine ⟨⟨?_, nofun, ?_⟩, hlast⟩
  · intro _
    show (t.connection.execute engine statement).2.hasOpenTransaction = false
    rw [hopen]
    rcases hkind with h | h <;> rw [h] <;> rfl
  intro _
  refine ⟨⟨⟨statement, true⟩, ?_, hending⟩, _, hlast, hending⟩
  show _ ∈ (t.connection.execute engine statement).2.exchanges
  rw [hexchanges]
  exact mem_append_right _ mem_cons_self

theorem Sound.unfinished (hsound : t.Sound) (hactive : t.isActive) (statement : Statement)
    (hrefused : (t.connection.execute engine statement).1 = false)
    (isConnected : Bool) (lastError : String) :
    Sound { t with
      connection := { (t.connection.execute engine statement).2 with
        isConnected }
      lastError } := by
  refine ⟨?_, ?_, ?_⟩
  · intro hinactive
    rw [hactive] at hinactive
    cases hinactive
  · intro _ exchange hmem
    have hmem : exchange ∈ (t.connection.execute engine statement).2.exchanges := hmem
    rcases (execute_refused hrefused).1 with ⟨_, h⟩ | h
    · rw [h] at hmem
      exact hsound.unended hactive exchange hmem
    rw [h] at hmem
    rcases mem_append.mp hmem with hbefore | hafter
    · exact hsound.unended hactive exchange hbefore
    · rw [mem_singleton.mp hafter]
      rfl
  · intro hinactive
    rw [hactive] at hinactive
    cases hinactive

theorem Sound.withLastError (hsound : t.Sound) (lastError : String) : Sound { t with lastError } :=
  ⟨hsound.closed, hsound.unended, hsound.ended⟩

/-! ## One call -/

/-- `commit` keeps the invariant; when it reports success, the transaction
had been ended before the call, or its last accepted statement is the
`COMMIT` just sent. -/
theorem commit_spec (hsound : t.Sound) (now : Int) : (t.commit engine now).2.Sound ∧
      ((t.commit engine now).1 → (t.isActive = false ∧ (t.commit engine now).2 = t) ∨
          lastAccepted (t.commit engine now).2.connection.exchanges =
            some ⟨⟨.commit, t.dialect.commitStatement⟩, true⟩) := by
  rw [commit]
  split
  · next hactive => exact ⟨hsound, fun _ => .inl ⟨hactive, rfl⟩⟩
  rename_i hactive
  rw [Bool.not_eq_false] at hactive
  split
  · exact ⟨hsound.withLastError _, nofun⟩
  rw [executeControlStatement]
  dsimp only
  split
  · next hrefused => exact ⟨hsound.unfinished hactive _ hrefused _ _, nofun⟩
  rename_i haccepted
  rw [Bool.not_eq_false] at haccepted
  obtain ⟨hkept, hlast⟩ := hsound.finish hactive _ (.inl rfl) haccepted ""
  rw [haccepted]
  exact ⟨hkept, fun _ => .inr hlast⟩

theorem rollback_sound (hsound : t.Sound) : (t.rollback engine).2.Sound := by
  rw [rollback]
  split
  · exact hsound
  rename_i hactive
  rw [Bool.not_eq_false] at hactive
  dsimp only
  split
  · next hrefused => exact hsound.unfinished hactive _ hrefused _ _
  rename_i haccepted
  rw [Bool.not_eq_false] at haccepted
  exact (hsound.finish hactive _ (.inr rfl) haccepted _).1

theorem checkSavepointPremises_ok {name action : String} {now : Int}
    {isPermitted : Bool} {t' : Transaction}
    (h : t.checkSavepointPremises name action now = .ok (isPermitted, t')) :
    (isPermitted ∧ t.isActive ∧ t' = t) ∨
      (isPermitted = false ∧ ∃ lastError, t' = { t with lastError }) := by
  rw [checkSavepointPremises] at h
  split at h
  · cases h
  split at h
  · cases h
  split at h
  · cases h
    exact .inr ⟨rfl, _, rfl⟩
  rename_i hactive
  split at h
  · cases h
    exact .inr ⟨rfl, _, rfl⟩
  · cases h
    exact .inl ⟨rfl, by simpa using hactive, rfl⟩

theorem savepointOperation_sound (hsound : t.Sound) (statement : Statement)
    (hcommit : statement.kind ≠ .commit) (hrollback : statement.kind ≠ .rollback)
    (name action : String) (now : Int) :
    (t.afterwards (t.savepointOperation engine statement name action now)).Sound := by
  rw [savepointOperation]
  cases hcheck : t.checkSavepointPremises name action now with
  | error exception => exact hsound
  | ok outcome =>
    obtain ⟨isPermitted, t'⟩ := outcome
    rcases checkSavepointPremises_ok hcheck with
      ⟨hpermitted, hactive, hsame⟩ | ⟨hrefused, lastError, hchanged⟩
    · rw [hpermitted, hsame]
      refine hsound.execute engine statement hcommit hrollback ?_ _
      intro hinactive
      rw [hactive] at hinactive
      cases hinactive
    · rw [hrefused, hchanged]
      exact hsound.withLastError lastError

theorem query_sound (hsound : t.Sound) (text : String) (now : Int) :
    (t.afterwards (t.query engine text now)).Sound := by
  rw [query]
  split
  · exact hsound
  · exact hsound.execute engine ⟨.query, text⟩ nofun nofun (fun _ => ⟨nofun, nofun⟩) t.lastError

theorem call_sound (hsound : t.Sound) (next : Call) : (t.call engine next).Sound := by
  cases next with
  | commit now => exact (commit_spec hsound now).1
  | rollback => exact rollback_sound hsound
  | savepoint name now =>
    refine savepointOperation_sound hsound _ ?_ ?_ name _ now <;> nofun
  | rollbackToSavepoint name now =>
    refine savepointOperation_sound hsound _ ?_ ?_ name _ now <;> nofun
  | releaseSavepoint name now =>
    refine savepointOperation_sound hsound _ ?_ ?_ name _ now <;> nofun
  | query text now => exact query_sound hsound text now
  | setTimeLimit limit => exact ⟨hsound.closed, hsound.unended, hsound.ended⟩

theorem run_sound (engine : Engine) (hsound : t.Sound) (calls : List Call) :
    (t.run engine calls).Sound := by
  induction calls generalizing t with
  | nil => exact hsound
  | cons next rest ih => exact ih (call_sound hsound next)

theorem destroy_leavesNothingOpen (hsound : t.Sound) : (t.destroy engine).LeavesNothingOpen := by
  rw [destroy]
  split
  · next hactive =>
    rw [rollback, hactive, executeControlStatement]
    dsimp only
    rw [if_neg nofun]
    split
    · exact .inr rfl
    rename_i haccepted
    rw [Bool.not_eq_false] at haccepted
    exact .inl ((hsound.finish hactive _ (.inr rfl) haccepted "").1.closed rfl)
  · next hactive =>
    exact .inl (hsound.closed (by simpa using hactive))

/-! ## The constructor -/

/-- The way out of the constructor that no destructor follows: the isolation
statement sent after an accepted `BEGIN` was refused. -/
def IsolationRefusedAfterBegin (c : DatabaseConnection) : Prop :=
  ∃ sent beginText isolationText, c.exchanges = sent ++
    [⟨⟨.begin_, beginText⟩, true⟩, ⟨⟨.isolation, isolationText⟩, false⟩]

/-- What the constructor may leave: a sound object, or a connection that is
clean unless it was left by that way. -/
def ConstructionKeeps (outcome : Except ConstructionFailure Transaction) : Prop :=
  match outcome with
  | .error failure => ∀ c, failure.handedBack = some c →
      ¬ IsolationRefusedAfterBegin c → c.LeavesNothingOpen
  | .ok t => t.Sound

theorem beginOn_keeps (hclosed : t.connection.hasOpenTransaction = false)
    (hsound : Sound { t with isActive := true })
    (beginStatement isolationStatement : String) (isolationAfterBegin : Bool) (now : Int) :
    ConstructionKeeps (t.beginOn engine beginStatement isolationStatement
      isolationAfterBegin now) := by
  rw [beginOn, executeControlStatement]
  dsimp only
  split
  · next hrefused =>
    intro c hback _
    cases hback
    refine .inl (Bool.eq_false_iff.mpr fun hopen => ?_)
    rw [(execute_refused hrefused).2 hopen] at hclosed
    cases hclosed
  rename_i haccepted
  rw [Bool.not_eq_false] at haccepted
  have hbegun := hsound.execute engine ⟨.begin_, beginStatement⟩ nofun nofun nofun ""
  have hsent := (execute_accepted haccepted).1
  split
  · rw [executeControlStatement]
    dsimp only
    split
    · next hrefused =>
      intro c hback hway
      cases hback
      rcases (execute_refused hrefused).1 with
        ⟨hlost, _⟩ | h
      · exact .inr hlost
      refine absurd ⟨t.connection.exchanges, beginStatement, isolationStatement, ?_⟩ hway
      show (execute _ _ _).2.exchanges = _
      rw [h, hsent, append_assoc]
      rfl
    · have hset := hbegun.execute engine ⟨.isolation, isolationStatement⟩ nofun nofun nofun ""
      exact ⟨hset.closed, hset.unended, hset.ended⟩
  · exact ⟨hbegun.closed, hbegun.unended, hbegun.ended⟩

theorem members_sound (databaseType : DatabaseType) (dialect : SqlDialect) :
    Sound { members (.acquired databaseType) dialect with
      isActive := true } := ⟨nofun, fun _ _ hmem => (nomatch hmem), nofun⟩

theorem construct_keeps (engine : Engine) (databaseType : Option DatabaseType)
    (isolationLevel : TransactionIsolationLevel)
    (accessMode : TransactionAccessMode) (now : Int) :
    ConstructionKeeps (construct engine (databaseType.map acquired) isolationLevel accessMode
      now) := by
  cases databaseType with
  | none => exact nofun
  | some databaseType =>
    have hclean : ∀ exception, ConstructionKeeps
        (.error ⟨exception, some (.acquired databaseType)⟩) := by
      intro exception c hback _
      cases hback
      exact .inl rfl
    rw [construct.eq_def, Option.map_some]
    dsimp only
    split
    · exact hclean _
    rename_i dialect hdialect
    split
    · exact hclean _
    generalize (if (isolationLevel != .default) = true then
      dialect.isolationLevelStatement isolationLevel else "") = isolationStatement
    split
    · exact hclean _
    split
    · rw [executeControlStatement]
      dsimp only
      split
      · next hrefused =>
        intro c hback _
        cases hback
        exact .inl (execute_closed rfl nofun nofun)
      refine beginOn_keeps ?_ ?_ _ _ _ _
      · exact execute_closed rfl nofun nofun
      · exact (members_sound databaseType dialect).execute engine
          ⟨.isolation, isolationStatement⟩ nofun nofun nofun _
    · exact beginOn_keeps rfl (members_sound databaseType dialect) _ _
        _ _

/-! ## The whole life -/

/-- Whatever the dialect, the level, the access mode, the calls and the
engine's answers: a constructor that throws hands back a clean connection,
unless it leaves by the one way out that follows an accepted `BEGIN`; the
destructor hands back a clean connection; and where `commit` reports
success, the last accepted statement of the transaction is its `COMMIT`, or
the `ROLLBACK` that had ended it before the call. -/
theorem transaction_leaves_nothing_open (engine : Engine) (databaseType : Option DatabaseType)
    (isolationLevel : TransactionIsolationLevel)
    (accessMode : TransactionAccessMode) (beganAt : Int) :
    match construct engine (databaseType.map acquired) isolationLevel accessMode beganAt with
    | .error failure => ∀ c, failure.handedBack = some c →
        ¬ IsolationRefusedAfterBegin c → c.LeavesNothingOpen
    | .ok t => ∀ calls, ((t.run engine calls).destroy engine).LeavesNothingOpen ∧
        ∀ now, ((t.run engine calls).commit engine now).1 = true →
          ∃ exchange, lastAccepted ((t.run engine calls).commit engine
              now).2.connection.exchanges = some exchange ∧
            (exchange.statement.kind = .commit ∨
              ((t.run engine calls).isActive = false ∧ exchange.statement.kind = .rollback)) := by
  have hkeeps := construct_keeps engine databaseType isolationLevel accessMode beganAt
  cases hconstruct : construct engine (databaseType.map acquired) isolationLevel accessMode
      beganAt with
  | error failure =>
    rw [hconstruct] at hkeeps
    exact hkeeps
  | ok t =>
    rw [hconstruct] at hkeeps
    intro calls
    have hsound := run_sound engine hkeeps calls
    refine ⟨destroy_leavesNothingOpen hsound, ?_⟩
    intro now hsuccess
    rcases (commit_spec hsound now).2 hsuccess with ⟨hover, hsame⟩ | hlast
    · obtain ⟨_, exchange, hlast, hending⟩ := hsound.ended hover
      rw [hsame]
      refine ⟨exchange, hlast, ?_⟩
      rw [Exchange.isEnding, Bool.and_eq_true, Bool.or_eq_true, beq_iff_eq, beq_iff_eq] at hending
      exact hending.2.imp_right fun hrollback => ⟨hover, hrollback⟩
    · exact ⟨_, hlast, .inl rfl⟩

/-- `commit` after `rollback` sends nothing and reports success. -/
theorem commit_after_rollback_reports_success :
    match construct (fun _ _ => .accepted false)
      (some (.acquired .sqlite)) .default .readWrite 0 with
    | .error _ => False
    | .ok t =>
      let t := t.run (fun _ _ => .accepted false) [.rollback]
      (t.commit (fun _ _ => .accepted false) 0).1 = true ∧
        (lastAccepted (t.commit (fun _ _ => .accepted false)
          0).2.connection.exchanges).map (·.statement.kind) = some .rollback :=
  ⟨rfl, rfl⟩

end Transaction

end AsynGyanis.Database
