import Paryty.Lib.Interleaving
import Paryty.Twin.AgentAssignment

/-!
# The statements of each lifecycle operation

`Operation.Issues` lists, operation by operation, the statements its program can issue and
whether they stand inside its transaction. `issues_program` says that the list is complete, so a
fact about all statements of a program follows from the list by cases.
-/

namespace Paryty.Twin

/-- The statements an operation can issue; the flag says whether inside its transaction. -/
inductive Operation.Issues : Operation → {β : Type} → Bool → Sql β → Prop
  | countTwins : Issues (.createTwin newID tenantID name description) false
      (.countTwins tenantID name)
  | insertTwin (row : TwinRow) : Issues (.createTwin newID tenantID name description) false
      (.insertTwin row)
  | softDeleteTwin : Issues (.deleteTwin tenantID twinID) true (.softDeleteTwin twinID tenantID)
  | deleteTwinAssignments : Issues (.deleteTwin tenantID twinID) true
      (.deleteTwinAssignments twinID)
  | registerChecksTwin : Issues (.registerAgent agentID twinID tenantID clientID topicPrefix) false
      (.twinExists twinID tenantID)
  | registerClears : Issues (.registerAgent agentID twinID tenantID clientID topicPrefix) false
      (.deleteAssignments agentID)
  | registerInserts : Issues (.registerAgent agentID twinID tenantID clientID topicPrefix) false
      (.insertAssignment { agentID, twinID, tenantID, clientID, topicPrefix })
  | unassignDeletes : Issues (.unassignAgent agentID) false (.deleteAssignments agentID)
  | upsertRegistration : Issues (.upsertAgentRegistration agentID tenantID hostname clientID) false
      (.upsertRegistration agentID tenantID hostname clientID)
  | createInserts : Issues (.createAgent agentID tenantID name) false
      (.insertRegistration { agentID, tenantID, name, status := .pending })
  | deleteUnassigns : Issues (.deleteAgent agentID tenantID) false (.deleteAssignments agentID)
  | deleteDeletes : Issues (.deleteAgent agentID tenantID) false
      (.deleteRegistration agentID tenantID)
  | updateRenames : Issues (.updateAgent agentID tenantID name) false
      (.renameAgent name agentID tenantID)
  | pairChecksBlacklist : Issues (.pairAgent agentID twinID tenantID actorID) false
      (.isBlacklisted tenantID agentID)
  | pairReadsStatus : Issues (.pairAgent agentID twinID tenantID actorID) false
      (.agentStatus agentID tenantID)
  | pairChecksTwin : Issues (.pairAgent agentID twinID tenantID actorID) false
      (.twinExists twinID tenantID)
  | pairClears : Issues (.pairAgent agentID twinID tenantID actorID) true
      (.deleteAssignments agentID)
  | pairInserts : Issues (.pairAgent agentID twinID tenantID actorID) true
      (.insertAssignment { agentID, twinID, tenantID })
  | pairActivates : Issues (.pairAgent agentID twinID tenantID actorID) true
      (.updateAgentStatus agentID tenantID .active)
  | pairUpdatesTwin : Issues (.pairAgent agentID twinID tenantID actorID) true
      (.updateTwinStatus twinID tenantID .active)
  | pairLogs (entry : StatusLogRow) : Issues (.pairAgent agentID twinID tenantID actorID) true
      (.insertStatusLog entry)
  | unpairReadsStatus : Issues (.unpairAgent agentID tenantID actorID) false
      (.agentStatus agentID tenantID)
  | unpairReadsTwin : Issues (.unpairAgent agentID tenantID actorID) false (.assignedTwin agentID)
  | unpairDeletes : Issues (.unpairAgent agentID tenantID actorID) true
      (.deleteAssignments agentID)
  | unpairReleases : Issues (.unpairAgent agentID tenantID actorID) true
      (.updateAgentStatus agentID tenantID .rogue)
  | unpairUpdatesTwin : Issues (.unpairAgent agentID tenantID actorID) true
      (.updateTwinStatus twinID tenantID .unconfigured)
  | unpairLogs (entry : StatusLogRow) : Issues (.unpairAgent agentID tenantID actorID) true
      (.insertStatusLog entry)
  | retireReadsStatus : Issues (.retireAgent agentID tenantID actorID) false
      (.agentStatus agentID tenantID)
  | retireDeletes : Issues (.retireAgent agentID tenantID actorID) true
      (.deleteAssignments agentID)
  | retireRetires : Issues (.retireAgent agentID tenantID actorID) true
      (.updateAgentStatus agentID tenantID .retired)
  | retireLogs (entry : StatusLogRow) : Issues (.retireAgent agentID tenantID actorID) true
      (.insertStatusLog entry)
  | blacklistReadsStatus : Issues (.blacklistAgent agentID tenantID reason actorID) false
      (.agentStatus agentID tenantID)
  | blacklistInserts : Issues (.blacklistAgent agentID tenantID reason actorID) true
      (.upsertBlacklist tenantID agentID reason)
  | blacklistDeletes : Issues (.blacklistAgent agentID tenantID reason actorID) true
      (.deleteAssignments agentID)
  | blacklistUpdates : Issues (.blacklistAgent agentID tenantID reason actorID) true
      (.updateBlacklisted agentID tenantID reason)
  | blacklistLogs (entry : StatusLogRow) : Issues (.blacklistAgent agentID tenantID reason actorID)
      true (.insertStatusLog entry)
  | unregisterLogs (entry : StatusLogRow) : Issues (.unregisterAgent agentID tenantID actorID) true
      (.insertStatusLog entry)
  | unregisterUnassigns : Issues (.unregisterAgent agentID tenantID actorID) true
      (.deleteAssignments agentID)
  | unregisterUnlists : Issues (.unregisterAgent agentID tenantID actorID) true
      (.deleteBlacklist agentID tenantID)
  | unregisterDeletes : Issues (.unregisterAgent agentID tenantID actorID) true
      (.deleteRegistration agentID tenantID)
  | heartbeatReads : Issues (.heartbeat agentID) false (.assignedTwin agentID)

open Operation (Issues)

variable {agentID : AgentID} {twinID : TwinID} {tenantID : TenantID}
  {newID name description clientID topicPrefix hostname actorID reason : String}

lemma all_commit {R : {β : Type} → Bool → Sql β → Prop} {inTx : Bool} : commit.All R inTx := by
  refine .commitTx fun ok => ?_
  cases ok <;> exact .ret _

lemma issues_createTwin : (createTwin newID tenantID name description).All
    (Issues (.createTwin newID tenantID name description)) false := by
  unfold createTwin
  split
  · exact .ret _
  refine .query .countTwins fun existingCount => ?_
  split
  case h_2 => exact .ret _
  split
  · exact .ret _
  refine .query (.insertTwin _) fun inserted => ?_
  split <;> exact .ret _

lemma issues_deleteTwin :
    (deleteTwin tenantID twinID).All (Issues (.deleteTwin tenantID twinID)) false := by
  refine .beginTx (.query .softDeleteTwin fun rowsAffected => ?_)
  split
  case h_2 => exact .ret _
  split
  · exact .ret _
  refine .query .deleteTwinAssignments fun deleted => ?_
  split
  · exact all_commit
  · exact .ret _

lemma issues_registerAgent : (registerAgent agentID twinID tenantID clientID topicPrefix).All
    (Issues (.registerAgent agentID twinID tenantID clientID topicPrefix)) false := by
  refine .query .registerChecksTwin fun twinExists => ?_
  split
  case h_2 => exact .ret _
  split
  · exact .ret _
  refine .query .registerClears fun cleared => ?_
  split
  case h_2 => exact .ret _
  refine .query .registerInserts fun inserted => ?_
  split <;> exact .ret _

lemma issues_unassignAgent :
    (unassignAgent agentID).All (Issues (.unassignAgent agentID)) false := by
  refine .query .unassignDeletes fun deleted => ?_
  split <;> exact .ret _

lemma issues_upsertAgentRegistration :
    (upsertAgentRegistration agentID tenantID hostname clientID).All
      (Issues (.upsertAgentRegistration agentID tenantID hostname clientID)) false := by
  refine .query .upsertRegistration fun upserted => ?_
  split <;> exact .ret _

lemma issues_createAgent :
    (createAgent agentID tenantID name).All (Issues (.createAgent agentID tenantID name)) false := by
  refine .query .createInserts fun inserted => ?_
  split <;> exact .ret _

lemma issues_deleteAgent :
    (deleteAgent agentID tenantID).All (Issues (.deleteAgent agentID tenantID)) false := by
  refine .query .deleteUnassigns fun unassigned => ?_
  split
  case h_2 => exact .ret _
  refine .query .deleteDeletes fun rowsAffected => ?_
  split
  case h_2 => exact .ret _
  split <;> exact .ret _

lemma issues_updateAgent :
    (updateAgent agentID tenantID name).All (Issues (.updateAgent agentID tenantID name)) false := by
  refine .query .updateRenames fun rowsAffected => ?_
  split
  case h_2 => exact .ret _
  split <;> exact .ret _

lemma issues_pairAgent : (pairAgent agentID twinID tenantID actorID).All
    (Issues (.pairAgent agentID twinID tenantID actorID)) false := by
  refine .query .pairChecksBlacklist fun blacklisted => ?_
  split
  case h_2 => exact .ret _
  split
  · exact .ret _
  refine .query .pairReadsStatus fun currentStatus => ?_
  split
  case h_2 => exact .ret _
  split
  · exact .ret _
  refine .query .pairChecksTwin fun twinExists => ?_
  split
  case h_2 => exact .ret _
  split
  · exact .ret _
  refine .beginTx (.query .pairClears fun cleared => ?_)
  split
  case h_2 => exact .ret _
  refine .query .pairInserts fun inserted => ?_
  split
  case h_2 => exact .ret _
  refine .query .pairActivates fun agentUpdated => ?_
  split
  case h_2 => exact .ret _
  refine .query .pairUpdatesTwin fun twinUpdated => ?_
  split
  case h_2 => exact .ret _
  refine .query (.pairLogs _) fun logged => ?_
  split
  · exact all_commit
  · exact .ret _

lemma issues_unpairAgent : (unpairAgent agentID tenantID actorID).All
    (Issues (.unpairAgent agentID tenantID actorID)) false := by
  refine .query .unpairReadsStatus fun currentStatus => ?_
  split
  case h_2 => exact .ret _
  split
  · exact .ret _
  refine .query .unpairReadsTwin fun assigned => ?_
  split
  case h_2 => exact .ret _
  refine .beginTx (.query .unpairDeletes fun deleted => ?_)
  split
  case h_2 => exact .ret _
  refine .query .unpairReleases fun agentUpdated => ?_
  split
  case h_2 => exact .ret _
  refine .query .unpairUpdatesTwin fun twinUpdated => ?_
  split
  case h_2 => exact .ret _
  refine .query (.unpairLogs _) fun logged => ?_
  split
  · exact all_commit
  · exact .ret _

lemma issues_retireAgent : (retireAgent agentID tenantID actorID).All
    (Issues (.retireAgent agentID tenantID actorID)) false := by
  refine .query .retireReadsStatus fun currentStatus => ?_
  split
  case h_2 => exact .ret _
  split
  · exact .ret _
  refine .beginTx (.query .retireDeletes fun deleted => ?_)
  refine .query .retireRetires fun agentUpdated => ?_
  split
  case h_2 => exact .ret _
  refine .query (.retireLogs _) fun logged => ?_
  split
  · exact all_commit
  · exact .ret _

lemma issues_blacklistAgent : (blacklistAgent agentID tenantID reason actorID).All
    (Issues (.blacklistAgent agentID tenantID reason actorID)) false := by
  refine .query .blacklistReadsStatus fun currentStatus => ?_
  split
  · exact .ret _
  refine .beginTx (.query .blacklistInserts fun inserted => ?_)
  split
  case h_2 => exact .ret _
  refine .query .blacklistDeletes fun deleted => ?_
  refine .query .blacklistUpdates fun updated => ?_
  refine .query (.blacklistLogs _) fun logged => ?_
  exact all_commit

lemma issues_unregisterAgent : (unregisterAgent agentID tenantID actorID).All
    (Issues (.unregisterAgent agentID tenantID actorID)) false := by
  refine .beginTx (.query (.unregisterLogs _) fun logged => ?_)
  refine .query .unregisterUnassigns fun unassigned => ?_
  refine .query .unregisterUnlists fun unlisted => ?_
  refine .query .unregisterDeletes fun rowsAffected => ?_
  split
  case h_2 => exact .ret _
  split
  · exact .ret _
  · exact all_commit

lemma issues_getAgentIdentity :
    (getAgentIdentity agentID).All (Issues (.heartbeat agentID)) false := by
  refine .query .heartbeatReads fun assigned => ?_
  split <;> exact .ret _

lemma issues_program (op : Operation) : op.program.All (Issues op) false := by
  cases op with
  | createTwin id tenantID name description => exact .map issues_createTwin
  | deleteTwin tenantID twinID => exact issues_deleteTwin
  | registerAgent agentID twinID tenantID clientID topicPrefix => exact .map issues_registerAgent
  | unassignAgent agentID => exact issues_unassignAgent
  | upsertAgentRegistration agentID tenantID hostname clientID =>
    exact issues_upsertAgentRegistration
  | createAgent agentID tenantID name => exact .map issues_createAgent
  | deleteAgent agentID tenantID => exact issues_deleteAgent
  | updateAgent agentID tenantID name => exact issues_updateAgent
  | pairAgent agentID twinID tenantID actorID => exact issues_pairAgent
  | unpairAgent agentID tenantID actorID => exact issues_unpairAgent
  | retireAgent agentID tenantID actorID => exact issues_retireAgent
  | blacklistAgent agentID tenantID reason actorID => exact issues_blacklistAgent
  | unregisterAgent agentID tenantID actorID => exact issues_unregisterAgent
  | heartbeat agentID => exact .map issues_getAgentIdentity

end Paryty.Twin
