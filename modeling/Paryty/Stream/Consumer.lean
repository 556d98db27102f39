import Paryty.Lib.Run

/-!
# The stream layer

The producer and the consumer of `cluster/internal/stream` around one broker, as a machine
whose events are the steps of their goroutines:

* `publishTenant` appends a record to a partition. The producer is built with
  `kgo.StickyPartitioner`, which picks a partition without looking at the key, so the
  partition is data of the event.
* The poll loop fetches a batch (`poll`) and sends its records to the work channel one by one
  (`dispatch`); `workerCount` workers receive from that channel (`take`).
* A worker runs `processRecord`: the handler, retries after a backoff, then the dead-letter
  topic.
* `commit` is `CommitMarkedOffsets`, by the auto-commit timer or by `Close`. With
  `kgo.AutoCommitMarks` it commits the marked offsets. The consumer never calls
  `MarkCommitRecords`, so no event marks anything.
* `restart` is the end of the process, by `Close` or by a crash, and the start of the next
  one, which resumes at the committed offsets (at the start of a partition without any).
-/

namespace Paryty.Stream

/-- A partition of a topic. -/
abbrev TopicPartition := String × ℕ

/-- `kgo.Record`, the fields the stream layer reads. -/
structure Record where
  topic : String
  partition : ℕ
  offset : ℕ
  key : String
  value : List UInt8
  headers : List (String × List UInt8)
deriving DecidableEq

namespace Record

/-- The partition a record lies in. -/
def topicPartition (r : Record) : TopicPartition := (r.topic, r.partition)

end Record

/-- `defaultMaxRetries`. -/
def defaultMaxRetries : ℕ := 3

/-- `workerChannelBuffer`. -/
def workerChannelBuffer : ℕ := 10

/-- What `NewConsumerWithDLQ` is configured with. -/
structure Config where
  workerCount : ℕ
  maxRetries : ℕ := defaultMaxRetries
  /-- Both the DLQ producer and the DLQ topic are set. -/
  dlqEnabled : Bool
deriving DecidableEq

/-- Where a worker stands in `processRecord`. -/
inductive Phase
  /-- The handler runs for the given attempt. -/
  | handling (attempt : ℕ)
  /-- Waiting out the backoff before the given attempt. -/
  | waiting (attempt : ℕ)
  /-- Publishing to the dead-letter topic. -/
  | deadLettering
deriving DecidableEq

/-- A record a worker holds. -/
structure Task where
  record : Record
  phase : Phase
deriving DecidableEq

/-- The broker, the consumer process, and what became of the records so far. -/
structure State where
  /-- All partitions' logs together, in publish order. -/
  published : List Record := []
  /-- The group's committed offsets: the next offset to read. -/
  committed : TopicPartition → ℕ := fun _ => 0
  /-- The offsets marked for commit in the client. -/
  marked : TopicPartition → ℕ := fun _ => 0
  /-- The client's fetch positions. -/
  position : TopicPartition → ℕ := fun _ => 0
  /-- The rest of the fetched batch the poll loop is sending to the channel. -/
  fetched : List Record := []
  workCh : List Record := []
  /-- The records the busy workers hold. -/
  inProgress : List Task := []
  draining : Bool := false
  cancelled : Bool := false
  /-- The records this process took from the channel, in order. -/
  taken : List Record := []
  /-- The records whose handler was called, over all processes. -/
  started : List Record := []
  /-- The records the handler accepted. -/
  handled : List Record := []
  /-- The records the dead-letter topic accepted. -/
  deadLettered : List Record := []
  /-- The records given up without a dead letter. -/
  lost : List Record := []

/-- The steps of producer, poll loop, workers, commit timer and process. -/
inductive Event
  | publishTenant (topic tenantID agentID : String) (value : List UInt8) (partition : ℕ)
  | poll (picks : List TopicPartition)
  | dispatch
  | take
  | handlerReturns (task : ℕ) (ok : Bool)
  | backoffElapsed (task : ℕ)
  | contextCancelled (task : ℕ)
  | dlqReturns (task : ℕ) (ok : Bool)
  | commit
  | cancel
  | close
  | restart
deriving DecidableEq

namespace State

/-- The log of one partition. -/
def log (s : State) (tp : TopicPartition) : List Record :=
  s.published.filter (fun r => r.topicPartition = tp)

/-- The records whose processing has ended, one way or another. -/
def finished (s : State) : List Record := s.handled ++ s.deadLettered ++ s.lost

/-- The records handled successfully or published to the dead-letter topic. -/
def completed (s : State) : List Record := s.handled ++ s.deadLettered

/-! ## Producer -/

/-- The record key of a tenant's agent. -/
def recordKey (tenantID agentID : String) : String := tenantID ++ ":" ++ agentID

/-- `PublishTenant`: an empty tenant or agent ID is refused, otherwise the record goes to the
end of the partition the partitioner picked. -/
def publishTenant (s : State) (topic tenantID agentID : String) (value : List UInt8)
    (partition : ℕ) : State :=
  if tenantID = "" ∨ agentID = "" then s
  else
    let offset := (s.log (topic, partition)).length
    { s with published := s.published ++
        [⟨topic, partition, offset, recordKey tenantID agentID, value, []⟩] }

/-! ## Poll loop -/

/-- The next record of a partition enters the fetched batch. -/
def fetch (s : State) (tp : TopicPartition) : Option State :=
  match (s.log tp)[s.position tp]? with
  | none => none
  | some r => some { s with
      position := Function.update s.position tp (s.position tp + 1)
      fetched := s.fetched ++ [r] }

/-- `PollFetches`, once the last batch is dispatched. -/
def poll (s : State) (picks : List TopicPartition) : Option State :=
  if s.draining ∨ s.cancelled ∨ s.fetched ≠ [] then none else picks.foldlM fetch s

/-- `c.workCh <- record`, which waits while the channel is full. -/
def dispatch (cfg : Config) (s : State) : Option State :=
  match s.fetched with
  | [] => none
  | r :: rest =>
    if s.workCh.length < cfg.workerCount * workerChannelBuffer then
      some { s with fetched := rest, workCh := s.workCh ++ [r] }
    else none

/-! ## Workers -/

/-- An idle worker receives the next record and calls the handler. -/
def take (cfg : Config) (s : State) : Option State :=
  match s.workCh with
  | [] => none
  | r :: rest =>
    if s.inProgress.length < cfg.workerCount then
      some { s with
        workCh := rest
        inProgress := s.inProgress ++ [⟨r, .handling 0⟩]
        taken := s.taken ++ [r]
        started := s.started ++ [r] }
    else none

/-- The worker holding task `i` goes on in another phase. -/
def setPhase (s : State) (i : ℕ) (task : Task) (phase : Phase) : State :=
  { s with inProgress := s.inProgress.set i { task with phase := phase } }

/-- The worker holding task `i` is done with it. -/
def release (s : State) (i : ℕ) : State := { s with inProgress := s.inProgress.eraseIdx i }

/-- The handler returns. After an error the next attempt waits for its backoff, unless the
consumer drains or the attempts are used up. -/
def handlerReturns (cfg : Config) (s : State) (i : ℕ) (ok : Bool) : Option State :=
  match s.inProgress[i]? with
  | some ⟨r, .handling attempt⟩ =>
    if ok then some { s.release i with handled := s.handled ++ [r] }
    else if attempt < cfg.maxRetries ∧ ¬ s.draining then
      some (s.setPhase i ⟨r, .handling attempt⟩ (.waiting (attempt + 1)))
    else some (s.setPhase i ⟨r, .handling attempt⟩ .deadLettering)
  | _ => none

/-- The backoff timer fires and the handler is called again. -/
def backoffElapsed (s : State) (i : ℕ) : Option State :=
  match s.inProgress[i]? with
  | some ⟨r, .waiting attempt⟩ => some (s.setPhase i ⟨r, .waiting attempt⟩ (.handling attempt))
  | _ => none

/-- The context is cancelled during a backoff. -/
def contextCancelled (s : State) (i : ℕ) : Option State :=
  match s.inProgress[i]? with
  | some ⟨r, .waiting attempt⟩ =>
    if s.cancelled then some (s.setPhase i ⟨r, .waiting attempt⟩ .deadLettering) else none
  | _ => none

/-- `publishToDLQ` returns. It is best effort: without a DLQ, or when it fails, the record is
dropped. -/
def dlqReturns (cfg : Config) (s : State) (i : ℕ) (ok : Bool) : Option State :=
  match s.inProgress[i]? with
  | some ⟨r, .deadLettering⟩ =>
    if cfg.dlqEnabled ∧ ok then some { s.release i with deadLettered := s.deadLettered ++ [r] }
    else some { s.release i with lost := s.lost ++ [r] }
  | _ => none

/-! ## Commits and process lifetime -/

/-- `CommitMarkedOffsets`. -/
def commitMarkedOffsets (s : State) : State := { s with committed := s.marked }

/-- The process ends and its successor joins the group. -/
def restart (s : State) : State :=
  { s with
    marked := s.committed
    position := s.committed
    fetched := []
    workCh := []
    inProgress := []
    draining := false
    cancelled := false
    taken := [] }

end State

open State in
/-- One step of the stream layer; `none` where the event cannot happen. -/
def step (cfg : Config) (s : State) : Event → Option State
  | .publishTenant topic tenantID agentID value partition =>
    some (s.publishTenant topic tenantID agentID value partition)
  | .poll picks => s.poll picks
  | .dispatch => s.dispatch cfg
  | .take => s.take cfg
  | .handlerReturns i ok => s.handlerReturns cfg i ok
  | .backoffElapsed i => s.backoffElapsed i
  | .contextCancelled i => s.contextCancelled i
  | .dlqReturns i ok => s.dlqReturns cfg i ok
  | .commit => some s.commitMarkedOffsets
  | .cancel => some { s with cancelled := true }
  | .close => some { s with draining := true, cancelled := true }
  | .restart => some s.restart

end Paryty.Stream
