import Mathlib.Data.Fintype.Defs
import Paryty.Lib.Interleaving
import Paryty.Lib.Run

/-!
# The agent's identity

The twin and client ids of the agent are kept in the `Client` of `agent/src/communication/mod.rs`
and, as request metadata, in its `GrpcClient`; a flag says whether both are set. A call changes
them one after the other, the copies in the gRPC client only if its `try_write` gets the lock,
which a request that reads its metadata may hold.

`identity_coherent` says when flag and metadata agree with the ids: the agent starts without ids,
calls that change them do not overlap, set both or none, and meet no request at the locks.
-/

namespace Paryty.Agent

/-! ## State -/

/-- The identity of the client and the metadata of the gRPC client. -/
structure Identity where
  twinID : Option String
  clientID : Option String
  topicPrefix : Option String
  identityValid : Bool
  grpcTwinID : Option String
  grpcClientID : Option String
deriving DecidableEq

/-- The state of a `RwLock`. -/
structure RwLock where
  readers : ℕ := 0
  writer : Bool := false
deriving DecidableEq

/-- `try_write` would succeed. -/
def RwLock.free (lock : RwLock) : Bool := lock.readers = 0 && !lock.writer

/-- The identity and the locks of its copies in the gRPC client. -/
structure SharedIdentity where
  identity : Identity
  twinLock : RwLock := {}
  clientLock : RwLock := {}
deriving DecidableEq

/-- The lock guards a task holds. -/
structure Guards where
  twin : Bool := false
  client : Bool := false
deriving DecidableEq

/-! ## Actions -/

/-- The atomic actions of the calls. -/
inductive Action
  | setTwinID (value : Option String)
  | setClientID (value : Option String)
  | setTopicPrefix (value : Option String)
  | setIdentityValid (value : Bool)
  | tryWriteTwin
  | tryWriteClient
  | updateTwin (value : Option String)
  | updateClient (value : Option String)
  | tryReadTwin
  | releaseTwin
  | tryReadClient
  | releaseClient
deriving DecidableEq

/-- Perform an action. An update without a guard is skipped. -/
def Action.perform : Action → Guards × SharedIdentity → Guards × SharedIdentity
  | setTwinID value, (g, s) => (g, { s with identity := { s.identity with twinID := value } })
  | setClientID value, (g, s) => (g, { s with identity := { s.identity with clientID := value } })
  | setTopicPrefix value, (g, s) =>
    (g, { s with identity := { s.identity with topicPrefix := value } })
  | setIdentityValid value, (g, s) =>
    (g, { s with identity := { s.identity with identityValid := value } })
  | tryWriteTwin, (g, s) =>
    if s.twinLock.free then
      ({ g with twin := true }, { s with twinLock := { s.twinLock with writer := true } })
    else (g, s)
  | tryWriteClient, (g, s) =>
    if s.clientLock.free then
      ({ g with client := true }, { s with clientLock := { s.clientLock with writer := true } })
    else (g, s)
  | updateTwin value, (g, s) =>
    if g.twin then
      ({ g with twin := false }, { s with
        identity := { s.identity with grpcTwinID := value }
        twinLock := { s.twinLock with writer := false } })
    else (g, s)
  | updateClient value, (g, s) =>
    if g.client then
      ({ g with client := false }, { s with
        identity := { s.identity with grpcClientID := value }
        clientLock := { s.clientLock with writer := false } })
    else (g, s)
  | tryReadTwin, (g, s) =>
    if s.twinLock.writer then (g, s)
    else ({ g with twin := true },
      { s with twinLock := { s.twinLock with readers := s.twinLock.readers + 1 } })
  | releaseTwin, (g, s) =>
    if g.twin then
      ({ g with twin := false },
        { s with twinLock := { s.twinLock with readers := s.twinLock.readers - 1 } })
    else (g, s)
  | tryReadClient, (g, s) =>
    if s.clientLock.writer then (g, s)
    else ({ g with client := true },
      { s with clientLock := { s.clientLock with readers := s.clientLock.readers + 1 } })
  | releaseClient, (g, s) =>
    if g.client then
      ({ g with client := false },
        { s with clientLock := { s.clientLock with readers := s.clientLock.readers - 1 } })
    else (g, s)

/-! ## Calls -/

/-- `GrpcClient::update_identity`. -/
def updateIdentity (twinID clientID : Option String) : List Action :=
  [.tryWriteTwin, .tryWriteClient, .updateTwin twinID, .updateClient clientID]

/-- `apply_identity`. -/
def applyIdentity (twinID clientID topicPrefix : Option String) : List Action :=
  let assigned := twinID.isSome && clientID.isSome
  [.setTwinID twinID, .setClientID clientID, .setTopicPrefix topicPrefix,
      .setIdentityValid assigned] ++
    if assigned then updateIdentity twinID clientID else updateIdentity none none

/-- `clear_identity`. -/
def clearIdentity : List Action :=
  [.setTwinID none, .setClientID none, .setTopicPrefix none, .setIdentityValid false] ++
    updateIdentity none none

/-- `attach_identity_metadata`, of every request. -/
def attachIdentityMetadata : List Action :=
  [.tryReadTwin, .releaseTwin, .tryReadClient, .releaseClient]

/-- The commands of the cluster, by what they mean for the identity. -/
inductive AgentCommand
  /-- The ids of the payload, if it can be parsed. -/
  | assignIdentity (payload : Option (Option String × Option String × Option String))
  | unpair
  | other
deriving DecidableEq

/-- `handle_agent_command`. -/
def handleAgentCommand : AgentCommand → List Action
  | .assignIdentity none => []
  | .assignIdentity (some (twinID, clientID, topicPrefix)) =>
    applyIdentity twinID clientID topicPrefix
  | .unpair => clearIdentity
  | .other => []

/-- `resolve_identity`, with the answer of the cluster. -/
def resolveIdentity : Option (String × String) → List Action
  | none => []
  | some (twinID, clientID) =>
    applyIdentity (some twinID) (some clientID)
      (some ("twin/" ++ twinID ++ "/client/" ++ clientID))

/-- A call that uses the identity. -/
inductive IdentityCall
  | applyIdentity (twinID clientID topicPrefix : Option String)
  | clearIdentity
  | resolveIdentity (answer : Option (String × String))
  | command (received : AgentCommand)
  | send
deriving DecidableEq

/-- The actions of a call. -/
def IdentityCall.actions : IdentityCall → List Action
  | applyIdentity twinID clientID topicPrefix =>
    Agent.applyIdentity twinID clientID topicPrefix
  | clearIdentity => Agent.clearIdentity
  | resolveIdentity answer => Agent.resolveIdentity answer
  | command received => handleAgentCommand received
  | send => attachIdentityMetadata

/-! ## The client -/

/-- A call under way. -/
structure IdentityTask where
  call : IdentityCall
  todo : List Action
  guards : Guards := {}
deriving DecidableEq

/-- The shared state and the calls under way. -/
structure IdentityClient (ι : Type) where
  shared : SharedIdentity
  tasks : ι → Option IdentityTask

/-- `Client::new`, from the ids of the configuration. -/
def IdentityClient.new {ι : Type} (twinID clientID : Option String) : IdentityClient ι where
  shared := { identity := {
    twinID
    clientID
    topicPrefix := match twinID, clientID with
      | some twinID, some clientID => some ("twin/" ++ twinID ++ "/client/" ++ clientID)
      | _, _ => none
    identityValid := twinID.isSome && clientID.isSome
    grpcTwinID := none
    grpcClientID := none } }
  tasks _ := none

/-- A call begins, or performs its next action, or returns. -/
inductive IdentityEvent (ι : Type)
  | start (i : ι) (call : IdentityCall)
  | act (i : ι)
deriving DecidableEq

namespace IdentityClient

variable {ι : Type} [DecidableEq ι]

/-- The client after an event, if it can happen. -/
def step (c : IdentityClient ι) : IdentityEvent ι → Option (IdentityClient ι)
  | .start i call =>
    match c.tasks i with
    | some _ => none
    | none => some { c with
        tasks := Function.update c.tasks i (some { call, todo := call.actions }) }
  | .act i =>
    match c.tasks i with
    | none => none
    | some task =>
      match task.todo with
      | [] => some { c with tasks := Function.update c.tasks i none }
      | action :: todo =>
        let (guards, shared) := action.perform (task.guards, c.shared)
        some { shared, tasks := Function.update c.tasks i (some { task with todo, guards }) }

end IdentityClient

/-! ## Coherence -/

/-- The metadata of a request; an id that is no metadata value is left out. -/
def Identity.metadata (isValue : String → Bool) (s : Identity) : Option String × Option String :=
  (s.grpcTwinID.filter isValue, s.grpcClientID.filter isValue)

/-- The flag says whether both ids are set, and requests carry the ids. -/
def Identity.Coherent (isValue : String → Bool) (s : Identity) : Prop :=
  (s.identityValid = true ↔ s.twinID.isSome ∧ s.clientID.isSome) ∧
    s.metadata isValue = (s.twinID, s.clientID)

instance (isValue : String → Bool) (s : Identity) : Decidable (s.Coherent isValue) :=
  inferInstanceAs (Decidable (_ ∧ _))

/-- The ids a call sets; none if it sets no ids. -/
def IdentityCall.ids : IdentityCall → Option (Option String × Option String)
  | applyIdentity twinID clientID _ => some (twinID, clientID)
  | clearIdentity => some (none, none)
  | resolveIdentity none => none
  | resolveIdentity (some (twinID, clientID)) => some (some twinID, some clientID)
  | command (.assignIdentity none) => none
  | command (.assignIdentity (some (twinID, clientID, _))) => some (twinID, clientID)
  | command .unpair => some (none, none)
  | command .other => none
  | send => none

/-- Both ids or none, and ids that are metadata values. -/
def Complete (isValue : String → Bool) (ids : Option String × Option String) : Prop :=
  ids.1.isSome = ids.2.isSome ∧ ids.1.all isValue = true ∧ ids.2.all isValue = true

instance (isValue : String → Bool) (ids : Option String × Option String) :
    Decidable (Complete isValue ids) := inferInstanceAs (Decidable (_ ∧ _ ∧ _))

namespace IdentityClient

variable {ι : Type}

/-- No call that sets ids is under way. -/
def Quiescent (c : IdentityClient ι) : Prop :=
  ∀ i task, c.tasks i = some task → task.call.ids = none

/-- A call that sets ids begins when no other is under way and sets complete ids, and finds the
locks of the gRPC client free. -/
def Admits (isValue : String → Bool) (c : IdentityClient ι) : IdentityEvent ι → Prop
  | .start _ call => ∀ ids, call.ids = some ids → c.Quiescent ∧ Complete isValue ids
  | .act i => ∀ task, c.tasks i = some task →
      (task.todo.head? = some .tryWriteTwin → c.shared.twinLock.free = true) ∧
      (task.todo.head? = some .tryWriteClient → c.shared.clientLock.free = true)

instance [Fintype ι] : DecidablePred (Quiescent (ι := ι)) := fun c =>
  inferInstanceAs (Decidable (∀ i, ∀ task ∈ c.tasks i, task.call.ids = none))

instance [Fintype ι] (isValue : String → Bool) (c : IdentityClient ι) :
    ∀ event, Decidable (c.Admits isValue event)
  | .start _ call => inferInstanceAs
    (Decidable (∀ ids ∈ call.ids, c.Quiescent ∧ Complete isValue ids))
  | .act i => inferInstanceAs (Decidable (∀ task ∈ c.tasks i,
      (task.todo.head? = some .tryWriteTwin → c.shared.twinLock.free = true) ∧
      (task.todo.head? = some .tryWriteClient → c.shared.clientLock.free = true)))

end IdentityClient

/-! ## A call by itself -/

/-- An action that finds the locks free. -/
def Action.alone : Action → Guards × Identity → Guards × Identity
  | setTwinID value, (g, s) => (g, { s with twinID := value })
  | setClientID value, (g, s) => (g, { s with clientID := value })
  | setTopicPrefix value, (g, s) => (g, { s with topicPrefix := value })
  | setIdentityValid value, (g, s) => (g, { s with identityValid := value })
  | tryWriteTwin, (g, s) => ({ g with twin := true }, s)
  | tryWriteClient, (g, s) => ({ g with client := true }, s)
  | updateTwin value, (g, s) =>
    if g.twin then ({ g with twin := false }, { s with grpcTwinID := value }) else (g, s)
  | updateClient value, (g, s) =>
    if g.client then ({ g with client := false }, { s with grpcClientID := value }) else (g, s)
  | tryReadTwin, (g, s) | releaseTwin, (g, s) | tryReadClient, (g, s)
  | releaseClient, (g, s) => (g, s)

/-- What is left of a call, by itself. -/
def IdentityTask.finish (task : IdentityTask) (s : Identity) : Identity :=
  (task.todo.foldl (fun result action => action.alone result) (task.guards, s)).2

section Alone

variable {isValue : String → Bool} {call : IdentityCall} {s : Identity}
  {twinID clientID topicPrefix : Option String}

lemma coherent_applyIdentity : (IdentityTask.finish
    { call, todo := applyIdentity twinID clientID topicPrefix } s).Coherent isValue ↔
      Complete isValue (twinID, clientID) := by
  cases twinID <;> cases clientID <;>
    simp [IdentityTask.finish, applyIdentity, updateIdentity, Action.alone, Identity.Coherent,
      Identity.metadata, Complete, Option.filter]

lemma coherent_clearIdentity :
    (IdentityTask.finish { call, todo := clearIdentity } s).Coherent isValue := by
  simp [IdentityTask.finish, clearIdentity, updateIdentity, Action.alone, Identity.Coherent,
    Identity.metadata]

lemma coherent_actions_iff {ids : Option String × Option String} (hids : call.ids = some ids) :
    (IdentityTask.finish { call, todo := call.actions } s).Coherent isValue ↔
      Complete isValue ids := by
  have hcleared : Complete isValue (none, none) := ⟨rfl, rfl, rfl⟩
  cases call with
  | applyIdentity twinID clientID topicPrefix =>
    obtain rfl := Option.some.inj hids
    exact coherent_applyIdentity
  | clearIdentity =>
    obtain rfl := Option.some.inj hids
    exact iff_of_true coherent_clearIdentity hcleared
  | resolveIdentity answer =>
    cases answer with
    | none => exact absurd hids (by simp [IdentityCall.ids])
    | some answer =>
      obtain rfl := Option.some.inj hids
      exact coherent_applyIdentity
  | command received =>
    cases received with
    | assignIdentity payload =>
      cases payload with
      | none => exact absurd hids (by simp [IdentityCall.ids])
      | some payload =>
        obtain rfl := Option.some.inj hids
        exact coherent_applyIdentity
    | unpair =>
      obtain rfl := Option.some.inj hids
      exact iff_of_true coherent_clearIdentity hcleared
    | other => exact absurd hids (by simp [IdentityCall.ids])
  | send => exact absurd hids (by simp [IdentityCall.ids])

end Alone

/-! ## Runs -/

/-- An action that does not touch the identity. -/
def Action.reads : Action → Bool
  | tryReadTwin | releaseTwin | tryReadClient | releaseClient => true
  | _ => false

lemma identity_perform_of_reads {action : Action} (h : action.reads = true) (g : Guards)
    (s : SharedIdentity) : (action.perform (g, s)).2.identity = s.identity := by
  cases action with
  | tryReadTwin | releaseTwin | tryReadClient | releaseClient =>
    simp only [Action.perform]
    split <;> rfl
  | _ => exact absurd h (by simp [Action.reads])

lemma perform_eq_alone {action : Action} {g : Guards} {s : SharedIdentity}
    (hreads : action.reads = false)
    (htwin : action = .tryWriteTwin → s.twinLock.free = true)
    (hclient : action = .tryWriteClient → s.clientLock.free = true) :
    ((action.perform (g, s)).1, (action.perform (g, s)).2.identity) =
      action.alone (g, s.identity) := by
  cases action with
  | tryWriteTwin => simp [Action.perform, Action.alone, htwin rfl]
  | tryWriteClient => simp [Action.perform, Action.alone, hclient rfl]
  | updateTwin | updateClient =>
    simp only [Action.perform, Action.alone]
    split <;> rfl
  | tryReadTwin | releaseTwin | tryReadClient | releaseClient =>
    exact absurd hreads (by simp [Action.reads])
  | _ => rfl

lemma reads_applyIdentity {twinID clientID topicPrefix : Option String} {action : Action}
    (h : action ∈ applyIdentity twinID clientID topicPrefix) : action.reads = false := by
  cases twinID <;> cases clientID <;>
    simp [applyIdentity, updateIdentity] at h <;>
    rcases h with rfl | rfl | rfl | rfl | rfl | rfl | rfl | rfl <;> rfl

lemma reads_clearIdentity {action : Action} (h : action ∈ clearIdentity) :
    action.reads = false := by
  simp [clearIdentity, updateIdentity] at h
  rcases h with rfl | rfl | rfl | rfl | rfl | rfl | rfl | rfl <;> rfl

lemma reads_of_mem {call : IdentityCall} {action : Action} (h : action ∈ call.actions) :
    action.reads = call.ids.isNone := by
  cases call with
  | applyIdentity twinID clientID topicPrefix => exact reads_applyIdentity h
  | clearIdentity => exact reads_clearIdentity h
  | resolveIdentity answer =>
    cases answer with
    | none => exact absurd h List.not_mem_nil
    | some answer => exact reads_applyIdentity h
  | command received =>
    cases received with
    | assignIdentity payload =>
      cases payload with
      | none => exact absurd h List.not_mem_nil
      | some payload => exact reads_applyIdentity h
    | unpair => exact reads_clearIdentity h
    | other => exact absurd h List.not_mem_nil
  | send =>
    simp [IdentityCall.actions, attachIdentityMetadata] at h
    rcases h with rfl | rfl | rfl | rfl <;> rfl

namespace IdentityClient

variable {ι : Type} [DecidableEq ι] {isValue : String → Bool} {c c' : IdentityClient ι}

/-- What holds between the events of an admitted run. -/
structure Inv (isValue : String → Bool) (c : IdentityClient ι) : Prop where
  reads : ∀ i task, c.tasks i = some task →
    ∀ action ∈ task.todo, action.reads = task.call.ids.isNone
  one : ∀ i j task task', c.tasks i = some task → c.tasks j = some task' →
    task.call.ids ≠ none → task'.call.ids ≠ none → i = j
  settled : c.Quiescent → c.shared.identity.Coherent isValue
  underway : ∀ i task, c.tasks i = some task → task.call.ids ≠ none →
    (task.finish c.shared.identity).Coherent isValue

/-- Tasks other than `i`'s stay, and `i` is free before: quiescence was there before. -/
lemma quiescent_of_update {i : ι} {new : Option IdentityTask} {shared : SharedIdentity}
    (hfree : ∀ task, c.tasks i = some task → task.call.ids = none)
    (h : Quiescent { shared, tasks := Function.update c.tasks i new : IdentityClient ι }) :
    c.Quiescent := by
  intro j task htask
  by_cases hj : j = i
  · subst hj
    exact hfree task htask
  · exact h j task ((Function.update_of_ne hj _ _).trans htask)

lemma inv_start {i : ι} {call : IdentityCall} (h : c.Inv isValue) (hfree : c.tasks i = none)
    (hadmits : c.Admits isValue (.start i call)) :
    Inv isValue { c with
      tasks := Function.update c.tasks i (some { call, todo := call.actions }) } := by
  have hothers {j : ι} {task : IdentityTask} (htask : c.tasks j = some task)
      (hcall : call.ids ≠ none) : task.call.ids = none := by
    obtain ⟨ids, hids⟩ := Option.ne_none_iff_exists'.mp hcall
    exact (hadmits ids hids).1 j task htask
  constructor
  · intro j task htask
    rcases Lib.eq_of_update htask with ⟨-, hnew⟩ | ⟨-, hold⟩
    · obtain rfl := Option.some.inj hnew
      exact fun action haction => reads_of_mem haction
    · exact h.reads j task hold
  · intro j k task task' htask htask' hids hids'
    rcases Lib.eq_of_update htask with ⟨rfl, hnew⟩ | ⟨-, hold⟩ <;>
      rcases Lib.eq_of_update htask' with ⟨rfl, hnew'⟩ | ⟨-, hold'⟩
    · rfl
    · obtain rfl := Option.some.inj hnew
      exact absurd (hothers hold' hids) hids'
    · obtain rfl := Option.some.inj hnew'
      exact absurd (hothers hold hids') hids
    · exact h.one j k task task' hold hold' hids hids'
  · intro hquiescent
    exact h.settled (quiescent_of_update (by simp [hfree]) hquiescent)
  · intro j task htask hids
    rcases Lib.eq_of_update htask with ⟨-, hnew⟩ | ⟨-, hold⟩
    · obtain rfl := Option.some.inj hnew
      obtain ⟨ids, hids⟩ := Option.ne_none_iff_exists'.mp hids
      exact (coherent_actions_iff hids).mpr (hadmits ids hids).2
    · exact h.underway j task hold hids

lemma inv_return {i : ι} {task : IdentityTask} (h : c.Inv isValue)
    (htask : c.tasks i = some task) (htodo : task.todo = []) :
    Inv isValue { c with tasks := Function.update c.tasks i none } := by
  have hrest {j : ι} {task' : IdentityTask}
      (htask' : Function.update c.tasks i none j = some task') :
      j ≠ i ∧ c.tasks j = some task' := by
    rcases Lib.eq_of_update htask' with ⟨-, hnew⟩ | hold
    · exact absurd hnew (by simp)
    · exact hold
  constructor
  · exact fun j task' htask' => h.reads j task' (hrest htask').2
  · exact fun j k task₁ task₂ htask₁ htask₂ =>
      h.one j k task₁ task₂ (hrest htask₁).2 (hrest htask₂).2
  · intro hquiescent
    by_cases hids : task.call.ids = none
    · refine h.settled (quiescent_of_update (fun task' htask' => ?_) hquiescent)
      rw [htask] at htask'
      rwa [← Option.some.inj htask']
    · have hdone := h.underway i task htask hids
      rwa [IdentityTask.finish, htodo] at hdone
  · exact fun j task' htask' => h.underway j task' (hrest htask').2

lemma inv_act {i : ι} {task : IdentityTask} {action : Action} {todo : List Action}
    (h : c.Inv isValue) (htask : c.tasks i = some task) (htodo : task.todo = action :: todo)
    (hadmits : c.Admits isValue (.act i)) :
    Inv isValue {
      shared := (action.perform (task.guards, c.shared)).2
      tasks := Function.update c.tasks i
        (some { task with todo, guards := (action.perform (task.guards, c.shared)).1 }) } := by
  obtain ⟨htwin, hclient⟩ := hadmits task htask
  rw [htodo, List.head?_cons] at htwin hclient
  have hreads : action.reads = task.call.ids.isNone :=
    h.reads i task htask action (by simp [htodo])
  have hcall {j : ι} {task' : IdentityTask} (htask' : Function.update c.tasks i
      (some { task with todo, guards := (action.perform (task.guards, c.shared)).1 }) j =
        some task') : ∃ task₀, c.tasks j = some task₀ ∧ task₀.call = task'.call ∧
          (j ≠ i → task₀ = task') := by
    rcases Lib.eq_of_update htask' with ⟨rfl, hnew⟩ | ⟨hne, hold⟩
    · exact ⟨task, htask, by rw [← Option.some.inj hnew], fun hne => absurd rfl hne⟩
    · exact ⟨task', hold, rfl, fun _ => rfl⟩
  constructor
  · intro j task' htask' a ha
    rcases Lib.eq_of_update htask' with ⟨-, hnew⟩ | ⟨-, hold⟩
    · obtain rfl := Option.some.inj hnew
      exact h.reads i task htask a (by rw [htodo]; exact List.mem_cons_of_mem _ ha)
    · exact h.reads j task' hold a ha
  · intro j k task₁ task₂ htask₁ htask₂ hids₁ hids₂
    obtain ⟨old₁, hold₁, hcall₁, -⟩ := hcall htask₁
    obtain ⟨old₂, hold₂, hcall₂, -⟩ := hcall htask₂
    exact h.one j k old₁ old₂ hold₁ hold₂ (by rwa [hcall₁]) (by rwa [hcall₂])
  · intro hquiescent
    have hnone : task.call.ids = none :=
      hquiescent i { task with todo, guards := _ } (Function.update_self _ _ _)
    have hsame : (action.perform (task.guards, c.shared)).2.identity = c.shared.identity :=
      identity_perform_of_reads (by rw [hreads, hnone]; rfl) _ _
    show Identity.Coherent isValue (action.perform (task.guards, c.shared)).2.identity
    rw [hsame]
    refine h.settled fun j task' htask' => ?_
    by_cases hj : j = i
    · subst hj
      rw [htask] at htask'
      rwa [← Option.some.inj htask']
    · exact hquiescent j task' ((Function.update_of_ne hj _ _).trans htask')
  · intro j task' htask' hids
    -- Only one call that sets ids is under way; if it is not this one, this one reads.
    rcases Lib.eq_of_update htask' with ⟨-, hnew⟩ | ⟨hne, hold⟩
    · obtain rfl := Option.some.inj hnew
      have hsets : action.reads = false := by
        rw [hreads]
        exact Option.isNone_eq_false_iff.mpr (Option.isSome_iff_ne_none.mpr hids)
      have halone := perform_eq_alone (g := task.guards) (s := c.shared) hsets
        (fun h => htwin (congrArg some h)) (fun h => hclient (congrArg some h))
      have hdone := h.underway i task htask hids
      rw [IdentityTask.finish, htodo, List.foldl_cons, ← halone] at hdone
      exact hdone
    · have hnone : task.call.ids = none := by
        by_contra hids'
        exact hne (h.one j i task' task hold htask hids hids')
      have hsame : (action.perform (task.guards, c.shared)).2.identity = c.shared.identity :=
        identity_perform_of_reads (by rw [hreads, hnone]; rfl) _ _
      show (task'.finish (action.perform (task.guards, c.shared)).2.identity).Coherent isValue
      rw [hsame]
      exact h.underway j task' hold hids

lemma inv_step {event : IdentityEvent ι} (h : c.Inv isValue) (hadmits : c.Admits isValue event)
    (hstep : c.step event = some c') : c'.Inv isValue := by
  cases event with
  | start i call =>
    cases hfree : c.tasks i with
    | some task => simp [step, hfree] at hstep
    | none =>
      simp only [step, hfree] at hstep
      obtain rfl := Option.some.inj hstep
      exact inv_start h hfree hadmits
  | act i =>
    cases htask : c.tasks i with
    | none => simp [step, htask] at hstep
    | some task =>
      cases htodo : task.todo with
      | nil =>
        simp only [step, htask, htodo] at hstep
        obtain rfl := Option.some.inj hstep
        exact inv_return h htask htodo
      | cons action todo =>
        simp only [step, htask, htodo] at hstep
        obtain rfl := Option.some.inj hstep
        exact inv_act h htask htodo hadmits

end IdentityClient

/-- A new client is coherent exactly if its configuration has no ids. In every run of a client
without configured ids in which calls that set ids do not overlap, set complete ids and find the
locks free, the identity is coherent whenever no such call is under way. -/
theorem identity_coherent {ι : Type} [DecidableEq ι] (isValue : String → Bool)
    (twinID clientID : Option String) :
    ((IdentityClient.new twinID clientID : IdentityClient ι).shared.identity.Coherent isValue ↔
      twinID = none ∧ clientID = none) ∧
    ∀ (events : List (IdentityEvent ι)) (c : IdentityClient ι), twinID = none → clientID = none →
      Lib.Run IdentityClient.step (IdentityClient.Admits isValue) (.new twinID clientID) events c →
        c.Quiescent → c.shared.identity.Coherent isValue := by
  have hnew : (IdentityClient.new twinID clientID : IdentityClient ι).shared.identity.Coherent
      isValue ↔ twinID = none ∧ clientID = none := by
    cases twinID <;> cases clientID <;>
      simp [IdentityClient.new, Identity.Coherent, Identity.metadata]
  refine ⟨hnew, fun events c htwin hclient run => ?_⟩
  have hstart : (IdentityClient.new twinID clientID : IdentityClient ι).Inv isValue := by
    constructor
    · exact fun i task htask => absurd htask (by simp [IdentityClient.new])
    · exact fun i j task task' htask => absurd htask (by simp [IdentityClient.new])
    · exact fun _ => hnew.mpr ⟨htwin, hclient⟩
    · exact fun i task htask => absurd htask (by simp [IdentityClient.new])
  have hinv : c.Inv isValue :=
    run.invariant (fun _ _ _ h hadmits hstep => IdentityClient.inv_step h hadmits hstep) hstart
  exact hinv.settled

/-- A request and then a call that sets both ids. -/
def sendThenApply : List (IdentityEvent Bool) :=
  .start false .send :: List.replicate 4 (.act false) ++
    .start true (.applyIdentity (some "t") (some "c") none) :: List.replicate 9 (.act true)

theorem identity_coherent_sendThenApply :
    ∃ c, Lib.Run IdentityClient.step (IdentityClient.Admits fun _ => true)
        (.new none none) sendThenApply c ∧
      c.shared.identity.twinID = some "t" ∧
      c.shared.identity.Coherent fun _ => true := by
  have hsome : (sendThenApply.foldlM (Lib.restrict IdentityClient.step
      (IdentityClient.Admits fun _ => true)) (.new none none)).any
        (fun c => decide (c.Quiescent ∧ c.shared.identity.twinID = some "t")) = true := by
    decide +kernel
  obtain ⟨c, hc, hquiescent⟩ := (Option.any_eq_true _ _).mp hsome
  obtain ⟨hquiescent, htwin⟩ := of_decide_eq_true hquiescent
  have run := Lib.run_iff_foldlM_restrict.mpr hc
  exact ⟨c, run, htwin, (identity_coherent (fun _ => true) none none).2 _ c rfl rfl run hquiescent⟩

/-- The same call while the request holds the lock of the twin id. -/
def applyDuringSend : List (IdentityEvent Bool) :=
  [.start false .send, .act false, .start true (.applyIdentity (some "t") (some "c") none)] ++
    List.replicate 9 (.act true) ++ List.replicate 4 (.act false)

/-- Ids of the configuration are never attached to a request, and an update that meets a request at
the lock is lost: `identityValid` is set, every call has returned, and requests carry no twin id. -/
theorem metadata_stale :
    ¬ (IdentityClient.new (some "t") (some "c") : IdentityClient Bool).shared.identity.Coherent
        (fun _ => true) ∧
      ∃ c, Lib.Run IdentityClient.step Lib.Unguarded (.new none none) applyDuringSend c ∧
        c.Quiescent ∧ c.shared.identity.identityValid = true ∧
        c.shared.identity.metadata (fun _ => true) = (none, some "c") ∧
        ¬ c.shared.identity.Coherent fun _ => true := by
  refine ⟨by decide, ?_⟩
  have hsome : (applyDuringSend.foldlM IdentityClient.step (.new none none)).any
      (fun c => decide (c.Quiescent ∧ c.shared.identity.identityValid = true ∧
        c.shared.identity.metadata (fun _ => true) = (none, some "c") ∧
        ¬ c.shared.identity.Coherent fun _ => true)) = true := by
    decide +kernel
  obtain ⟨c, hc, hstale⟩ := (Option.any_eq_true _ _).mp hsome
  exact ⟨c, Lib.run_iff_foldlM.mpr hc, of_decide_eq_true hstale⟩

end Paryty.Agent
