import PlanWeave.Remote.Reservations

namespace PlanWeave

inductive RemoteAgentUseTarget where
  | ownerCanvas
  | workspaceCanvas (workspaceId : OpaqueId)

def runtimeAuthoritySnapshotForTarget : RemoteAgentUseTarget → RuntimeAuthority
  | .ownerCanvas => .ownerCanvas
  | .workspaceCanvas workspaceId => .workspaceCanvas workspaceId

def runtimeAuthorityFor : RemoteAgentUseTarget → RuntimeAuthority
  | .ownerCanvas => .ownerCanvas
  | .workspaceCanvas workspaceId => .workspaceCanvas workspaceId

def retryTarget (authorized : AuthorizedRemoteAgentUse) : RemoteAgentUseTarget :=
  match authorized.runtimeAuthority with
  | .ownerCanvas => .ownerCanvas
  | .workspaceCanvas workspaceId => .workspaceCanvas workspaceId

/-- What `authorizeRemoteAgentUse` answers for a target, with the Agent access that it finds. -/
def authorizeRemoteAgentUse (target : RemoteAgentUseTarget) (access : AgentAccessAuthority) : AuthorizedRemoteAgentUse :=
  ⟨runtimeAuthorityFor target, access⟩

/-- `reauthorizeForRetry`: no snapshot, or no execution target revision in it, ends the retry. -/
def reauthorizeForRetry (operation : RemoteOperation) (access : AgentAccessAuthority) : Option AuthorizedRemoteAgentUse :=
  match operation.agentAccess with
  | none => none
  | some snapshot =>
    if operation.endpointSelection.isNone then none else some (authorizeRemoteAgentUse (retryTarget snapshot) access)

inductive HostAuthorizationDecisionReason where
  | authorized | crossWorkspace | workspaceAclDenied | projectAclDenied | canvasAclDenied | hostMissing | hostRevoked
  | hostOffline | hostAtCapacity | capabilityMismatch | leaseMissing | attemptMismatch | staleResponsibilityRevision
  | staleReviewerRevision | staleExecutionTargetRevision
deriving DecidableEq

def hostAuthorizationCapabilitiesMax : Nat := 128

structure HostAuthorizationFacts where
  workspaceId : OpaqueId
  /-- `none` is the empty string, of a Host that no workspace is bound to. -/
  hostWorkspaceId : Option OpaqueId
  workspaceAllowed : Bool
  projectAllowed : Bool
  canvasAllowed : Bool
  requiredCapabilities : List String
  advertisedCapabilities : List String
  revoked : Bool
  online : Bool
  capacityRemaining : Nat
  leaseActive : Bool
  attempt : RemoteAttemptStatus
  expectedRevisions : AuthorityRevisions
  currentRevisions : AuthorityRevisions

namespace HostAuthorizationFacts

def parses (facts : HostAuthorizationFacts) : Bool :=
  facts.hostWorkspaceId = some facts.workspaceId &&
    facts.requiredCapabilities.length ≤ hostAuthorizationCapabilitiesMax &&
    facts.advertisedCapabilities.length ≤ hostAuthorizationCapabilitiesMax

def evaluateHostAuthorization (facts : HostAuthorizationFacts) : HostAuthorizationDecisionReason :=
  if facts.hostWorkspaceId.isSome ∧ facts.hostWorkspaceId ≠ some facts.workspaceId then .crossWorkspace
  else if !facts.workspaceAllowed then .workspaceAclDenied
  else if !facts.projectAllowed then .projectAclDenied
  else if !facts.canvasAllowed then .canvasAclDenied
  else if facts.revoked then .hostRevoked
  else if !facts.online then .hostOffline
  else if facts.capacityRemaining < 1 then .hostAtCapacity
  else if !facts.requiredCapabilities.all (facts.advertisedCapabilities.contains ·) then .capabilityMismatch
  else if !facts.leaseActive then .leaseMissing
  else if facts.attempt ∉ [.reserved, .activated, .running, .awaitingWriteback] then .attemptMismatch
  else if facts.expectedRevisions.responsibilityRevision ≠ facts.currentRevisions.responsibilityRevision then
    .staleResponsibilityRevision
  else if facts.expectedRevisions.reviewerRevision ≠ facts.currentRevisions.reviewerRevision then .staleReviewerRevision
  else if facts.expectedRevisions.executionTargetRevision ≠ facts.currentRevisions.executionTargetRevision then
    .staleExecutionTargetRevision
  else .authorized

end HostAuthorizationFacts

inductive AgentEndpointUnavailableReason where
  | hostRevoked | hostCredentialExpired | hostOffline | profileInvalid | profileMissing | hostCapabilityMissing
  | atCapacity
deriving DecidableEq

def canvasRuntimeExecutionCapability : String := "planweave.internal.workspace-canvas-execution.v2"

def acpTaskRestoreCapability : String := "acp-task-restore.v1"

structure EndpointCandidate where
  host : AgentHost
  profile : AcpProfileObservation

namespace EndpointCandidate

def unavailableReason (candidate : EndpointCandidate) (activeReservations : Nat) (now hostOfflineAfterMs : Timestamp)
    (enforceCapacity requireWorkspaceCanvasExecution : Bool) : Option AgentEndpointUnavailableReason :=
  let ⟨host, profile⟩ := candidate
  let identityCount := ((host.acpProfiles.getD []).filter fun observed =>
    observed.profileId = profile.profileId ∧ observed.agentId = profile.agentId).length
  if host.revokedAt.isSome then some .hostRevoked
  else if host.credentialExpiresAt.any (· ≤ now) then some .hostCredentialExpired
  else if host.lastSeenAt.all (fun seen => seen + hostOfflineAfterMs < now) then some .hostOffline
  else if identityCount ≠ 1 ∨ profile.status = .invalid then some .profileInvalid
  else if profile.status = .missing then some .profileMissing
  else if !profile.capabilities.all (host.capabilities.contains ·) then some .profileInvalid
  else if requireWorkspaceCanvasExecution && !host.capabilities.contains canvasRuntimeExecutionCapability then
    some .hostCapabilityMissing
  else if enforceCapacity && decide (host.capacity ≤ activeReservations) then some .atCapacity
  else none

def supportsRequiredCapability (candidate : EndpointCandidate) (capability : String) : Bool :=
  candidate.host.capabilities.contains capability &&
    (capability = canvasRuntimeExecutionCapability || capability = acpTaskRestoreCapability ||
      candidate.profile.capabilities.contains capability)

end EndpointCandidate

inductive AuthorizationRefusal where
  | candidateMissing
  | factsInvalid
  | denied (reason : HostAuthorizationDecisionReason)
  | endpointUnauthorized
  | endpointUnknown
  | endpointUnavailable (reason : AgentEndpointUnavailableReason)
  | endpointIncompatible
deriving DecidableEq

namespace AuthorizationRefusal

def ofDecision : HostAuthorizationDecisionReason → Option AuthorizationRefusal
  | .authorized => none
  | reason => some (.denied reason)

def forCapacity : AuthorizationRefusal → Bool
  | denied .hostAtCapacity | endpointUnavailable .atCapacity => true
  | _ => false

end AuthorizationRefusal

/-- What the candidate, identity, access, authority and Endpoint repositories answer about an operation. -/
structure ScopeEvidence where
  /-- `agentId` and `agentProfileId` of the stored candidate. -/
  candidate : Option (OpaqueId × OpaqueId)
  workspaceForHost : Option OpaqueId
  workspaceExists : Bool
  projectAllowed : Bool
  canvasAllowed : Bool
  ownerEndpointScopeAuthorized : Bool
  currentRevisions : AuthorityRevisions
  /-- `endpointAuthorize` accepts the revisions of the Endpoint selection. -/
  endpointAuthorized : Bool
  endpoint : Option EndpointCandidate
  /-- `assertDispatchEndpointIdentity` -/
  endpointIdentity : Bool

namespace RemoteDatabase

def dispatchAvailabilityPolicy (operation : RemoteOperation) (selection : EndpointSelection) :
    EndpointAvailabilityPolicy :=
  match operation.agentAccess with
  | some authorized => deriveEndpointAvailabilityPolicyFromAuthorized authorized
  | none => if selection.authority = .ownerCanvas then .ownerFleet else .workspace

def hostAuthorizationFacts (options : HostReservationOptions) (evidence : ScopeEvidence) (operation : RemoteOperation)
    (attempt : RemoteAttempt) (reservation : HostReservation) (expected : AuthorityRevisions) (host : AgentHost)
    (now : Timestamp) (db : RemoteDatabase) : HostAuthorizationFacts :=
  let ownerScopeAuthorized := operation.agentAccess.any (·.runtimeAuthority = .ownerCanvas) &&
    evidence.ownerEndpointScopeAuthorized
  let activeReservations := db.reservations.count fun row => row.hostId = reservation.hostId ∧ row.status = .active
  { workspaceId := operation.ownership.workspaceId
    hostWorkspaceId := evidence.workspaceForHost
    workspaceAllowed := ownerScopeAuthorized || evidence.workspaceExists
    projectAllowed := ownerScopeAuthorized || evidence.projectAllowed
    canvasAllowed := ownerScopeAuthorized || evidence.canvasAllowed
    requiredCapabilities := operation.requiredCapabilities
    advertisedCapabilities := host.capabilities
    revoked := host.revokedAt.isSome
    online := host.isOnline now options.hostOfflineAfterMs
    -- The reservation that is being authorized does not count against itself.
    capacityRemaining := host.capacity - (activeReservations - 1)
    leaseActive := reservation.status = .active && now < reservation.leaseExpiresAt
    attempt := if attempt.status ∈ [.reserved, .activated, .running, .awaitingWriteback] then attempt.status else .prepared
    expectedRevisions := expected
    currentRevisions := evidence.currentRevisions }

/-- The checks of `finalAuthorize`. -/
def authorizeHost (options : HostReservationOptions) (evidence : ScopeEvidence) (operation : RemoteOperation)
    (attempt : RemoteAttempt) (reservation : HostReservation) (now : Timestamp) (db : RemoteDatabase) :
    Option AuthorizationRefusal :=
  match operation.hostSelection.bind (·.authorityRevisions) with
  | none => none
  | some expected =>
    match evidence.candidate, db.hosts.find reservation.hostId with
    | none, _ => some .candidateMissing
    | some _, none => some (.denied .capabilityMismatch)
    | some (agentId, agentProfileId), some host =>
      if host.fleetHostExecutionProfileAvailability (host.isOnline now options.hostOfflineAfterMs) agentId
          agentProfileId operation.requiredCapabilities ≠ .available then some (.denied .capabilityMismatch)
      else
        let facts := db.hostAuthorizationFacts options evidence operation attempt reservation expected host now
        if !facts.parses then some .factsInvalid
        else AuthorizationRefusal.ofDecision facts.evaluateHostAuthorization

/-- The checks of `authorizeReservedEndpoint`. -/
def authorizeEndpoint (options : HostReservationOptions) (evidence : ScopeEvidence) (operation : RemoteOperation)
    (selection : EndpointSelection) (reservation : HostReservation) (now : Timestamp) (db : RemoteDatabase) :
    Option AuthorizationRefusal :=
  if !evidence.endpointAuthorized then some .endpointUnauthorized
  else match evidence.endpoint with
    | none => some .endpointUnknown
    | some candidate =>
      if candidate.host.id ≠ reservation.hostId then some .endpointUnknown
      else
        let policy := dispatchAvailabilityPolicy operation selection
        match candidate.unavailableReason (db.activeReservations candidate.host.id) now options.hostOfflineAfterMs
            (endpointOccupiesHostCapacity policy) (policy ≠ .ownerFleet) with
        -- The operation holds its reservation already, so a full Host does not refuse it.
        | none | some .atCapacity =>
          if !operation.requiredCapabilities.all candidate.supportsRequiredCapability then some .endpointIncompatible
          else if !evidence.endpointIdentity then some .endpointIncompatible
          else none
        | some reason => some (.endpointUnavailable reason)

def finalAuthorization (options : HostReservationOptions) (evidence : ScopeEvidence) (operation : RemoteOperation)
    (attempt : RemoteAttempt) (reservation : HostReservation) (now : Timestamp) (db : RemoteDatabase) :
    Option AuthorizationRefusal :=
  match operation.endpointSelection with
  | some selection => db.authorizeEndpoint options evidence operation selection reservation now
  | none => db.authorizeHost options evidence operation attempt reservation now

/-- `finalAuthorize` and `authorizeReservedEndpoint`: a refusal expires the reservation. -/
def finalAuthorize (options : HostReservationOptions) (evidence : ScopeEvidence) (operation : RemoteOperation)
    (attempt : RemoteAttempt) (reservation : HostReservation) (now : Timestamp) (db : RemoteDatabase) :
    Except RemoteError (RemoteDatabase × Option AuthorizationRefusal) :=
  match db.finalAuthorization options evidence operation attempt reservation now with
  | none => .ok (db, none)
  | some refusal =>
    if reservation.status = .active then
      (db.release reservation.leaseId reservation.fencingToken reservation.version .expired now).map (·, some refusal)
    else .ok (db, some refusal)

end RemoteDatabase
end PlanWeave
