import PlanWeave.State.Types

namespace PlanWeave

/-- Milliseconds since the epoch. Stored timestamps have one width, so that their text order is this order. -/
abbrev Timestamp := Nat

inductive AcpProfileStatus where
  | ready | missing | invalid
deriving DecidableEq

structure AcpProfileObservation where
  profileId : OpaqueId
  agentId : OpaqueId
  capabilities : List String
  status : AcpProfileStatus

structure AgentHost where
  id : OpaqueId
  capabilities : List String
  capacity : Nat
  lastSeenAt : Option Timestamp
  revokedAt : Option Timestamp
  credentialExpiresAt : Option Timestamp
  /-- `acpProfiles` of the last readiness observation. -/
  acpProfiles : Option (List AcpProfileObservation)

inductive HostAvailability where
  | available | revoked | offline | readinessNotReported | acpProfileMissing | acpProfileInvalid | capabilityMismatch
deriving DecidableEq

namespace AgentHost

def isOnline (host : AgentHost) (now hostOfflineAfterMs : Timestamp) : Bool :=
  host.revokedAt.isNone &&
    host.credentialExpiresAt.all (fun expiry => now < expiry) &&
    host.lastSeenAt.any (fun seen => now ≤ seen + hostOfflineAfterMs)

def fleetHostAvailability (host : AgentHost) (online : Bool) : HostAvailability :=
  if host.revokedAt.isSome then .revoked
  else if !online then .offline
  else match host.acpProfiles with
    | none => .readinessNotReported
    | some profiles =>
      if profiles.isEmpty then .acpProfileMissing
      else if profiles.any (·.status = .invalid) then .acpProfileInvalid
      else
        let readyProfiles := profiles.filter (·.status = .ready)
        if readyProfiles.isEmpty then .acpProfileMissing
        else if readyProfiles.any fun profile => profile.capabilities.all (host.capabilities.contains ·) then .available
        else .capabilityMismatch

/-- `hostExecutionProfileAvailability` runs the same checks for a Host of one workspace. -/
def fleetHostExecutionProfileAvailability (host : AgentHost) (online : Bool) (agentId agentProfileId : OpaqueId)
    (requiredCapabilities : List String) : HostAvailability :=
  match host.fleetHostAvailability online with
  | .available =>
    match (host.acpProfiles.getD []).find? fun profile => profile.profileId = agentProfileId ∧ profile.agentId = agentId with
    | none => .acpProfileMissing
    | some profile =>
      match profile.status with
      | .missing => .acpProfileMissing
      | .invalid => .acpProfileInvalid
      | .ready =>
        if requiredCapabilities.all (host.capabilities.contains ·) then .available else .capabilityMismatch
  | generic => generic

def usable (host : AgentHost) (now : Timestamp) : Bool :=
  host.revokedAt.isNone && host.credentialExpiresAt.all (fun expiry => now < expiry)

end AgentHost
end PlanWeave
