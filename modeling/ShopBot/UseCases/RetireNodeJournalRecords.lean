import ShopBot.Persistence.Reconciliation

/-! # Retiring journal records

A node keeps a journal record for every operation that it was asked for. Once the task of the
operation is finished the record is retired on the node, and then the task is marked. Each run
takes the first tasks that are not marked.
-/

namespace ShopBot

/-- The tables, with the column of the node tasks that tells when the record was retired. -/
structure JournalTables where
  db : Database
  journalRetiredAt : ℕ → Option DateTime

namespace JournalTables

variable (s : JournalTables)

/-- The finished tasks that are not marked, in the order of their identifiers. -/
def terminalUnretiredTasks : List (NodeTask × ℕ) :=
  (Table.select (fun t => t.status ∈ TERMINAL_TASK_STATUSES) s.db.nodeTasks).filter fun row =>
    s.journalRetiredAt row.2 = none

def listTerminalUnretiredTasks (limit : ℕ) : List (NodeTask × ℕ) :=
  s.terminalUnretiredTasks.take limit

/-- `mark_task_journal_retired`: whether a row was updated. -/
def markTaskJournalRetired (nodeTaskId : ℕ) (idempotencyKey : IdempotencyKey)
    (retiredAt : DateTime) : Bool × JournalTables :=
  match s.db.getNodeTask nodeTaskId with
  | none => (false, s)
  | some t =>
    if t.idempotencyKey = idempotencyKey ∧ t.status ∈ TERMINAL_TASK_STATUSES ∧
        s.journalRetiredAt nodeTaskId = none then
      (true, {
        db := s.db.saveNodeTask nodeTaskId { t with updatedAt := some retiredAt }
        journalRetiredAt :=
          Function.update s.journalRetiredAt nodeTaskId (some retiredAt) })
    else (false, s)

end JournalTables

structure JournalRetirementCandidate where
  nodeTaskId : ℕ
  idempotencyKey : IdempotencyKey
  node : Option Node
  credential : Option String
deriving DecidableEq

structure JournalRetirementResult where
  selected : ℕ
  retired : ℕ := 0
  alreadyRetired : ℕ := 0
  operationInProgress : ℕ := 0
  marked : ℕ := 0
  stale : ℕ := 0
  failed : ℕ := 0
deriving DecidableEq, Repr

def MAX_RETIREMENT_BATCH_SIZE : ℕ := 100

def SUCCESSFUL_RETIREMENT_STATUSES : List String := ["retired", "already_retired"]

/-- The use case; the gateway answers with a status, or raises. -/
structure RetireNodeJournalRecords where
  nodeGateway : Node → String → IdempotencyKey → Option String
  batchSize : ℕ := MAX_RETIREMENT_BATCH_SIZE
  batchSize_pos : 1 ≤ batchSize := by decide
  batchSize_le : batchSize ≤ MAX_RETIREMENT_BATCH_SIZE := by decide

namespace RetireNodeJournalRecords

variable (u : RetireNodeJournalRecords)

def candidateOf (db : Database) (row : NodeTask × ℕ) : JournalRetirementCandidate where
  nodeTaskId := row.2
  idempotencyKey := row.1.idempotencyKey
  node := db.nodes[row.1.nodeId]?
  credential := (db.nodes[row.1.nodeId]?).bind (·.activeCredential)

def loadCandidates (s : JournalTables) : List JournalRetirementCandidate :=
  (s.listTerminalUnretiredTasks u.batchSize).map (candidateOf s.db)

/-- What the node of the candidate answers, if it can be asked and does answer. -/
def reply (c : JournalRetirementCandidate) : Option String :=
  match c.node, c.credential with
  | some node, some credential => u.nodeGateway node credential c.idempotencyKey
  | _, _ => none

/-- One candidate; `clock` tells the time of each mark. -/
def retireCandidate (clock : ℕ → DateTime) (p : JournalRetirementResult × JournalTables)
    (c : JournalRetirementCandidate) : JournalRetirementResult × JournalTables :=
  let (result, s) := p
  match u.reply c with
  | none => ({ result with failed := result.failed + 1 }, s)
  | some status =>
    if status = "operation_in_progress" then
      ({ result with operationInProgress := result.operationInProgress + 1 }, s)
    else if status ∉ SUCCESSFUL_RETIREMENT_STATUSES then
      ({ result with failed := result.failed + 1 }, s)
    else
      let result := if status = "retired" then { result with retired := result.retired + 1 }
        else { result with alreadyRetired := result.alreadyRetired + 1 }
      match s.markTaskJournalRetired c.nodeTaskId c.idempotencyKey
          (clock (result.marked + result.stale)) with
      | (true, s) => ({ result with marked := result.marked + 1 }, s)
      | (false, s) => ({ result with stale := result.stale + 1 }, s)

def execute (clock : ℕ → DateTime) (s : JournalTables) : JournalRetirementResult × JournalTables :=
  let candidates := u.loadCandidates s
  candidates.foldl (u.retireCandidate clock) ({ selected := candidates.length }, s)

/-- Consecutive runs, each with a clock of its own. -/
def runs (clocks : ℕ → ℕ → DateTime) (s : JournalTables) : ℕ → JournalTables
  | 0 => s
  | n + 1 => (u.execute (clocks n) (runs clocks s n)).2

end RetireNodeJournalRecords

end ShopBot
