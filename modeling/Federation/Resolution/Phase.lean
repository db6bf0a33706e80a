/-!
# Phases of a resolution

A resolution goes from `start` through the search for a path and the treatment of the policies to
`resolved`, or ends in one of six failures.  A failure of a single hint does not leave `resolving`.

`Phase.canBecome` says which phase may follow which; `Phase.isTerminal` and `Phase.isFailure` name
the ends.
-/

namespace Federation

/-- Where a resolution stands. -/
inductive Phase where
  | start
  | resolving
  | anchorReached
  | policyMerging
  | policyApplying
  | resolved
  | constraintViolation
  | signatureInvalid
  | expired
  | cycleDetected
  | noPath
  | policyConflict
deriving DecidableEq

namespace Phase

/-- The name of a phase. -/
def name : Phase → String
  | start => "start"
  | resolving => "resolving"
  | anchorReached => "anchor_reached"
  | policyMerging => "policy_merging"
  | policyApplying => "policy_applying"
  | resolved => "resolved"
  | constraintViolation => "constraint_violation"
  | signatureInvalid => "signature_invalid"
  | expired => "expired"
  | cycleDetected => "cycle_detected"
  | noPath => "no_path"
  | policyConflict => "policy_conflict"

/-- All phases. -/
def all : List Phase :=
  [start, resolving, anchorReached, policyMerging, policyApplying, resolved, constraintViolation,
    signatureInvalid, expired, cycleDetected, noPath, policyConflict]

/-- The phase of a name. -/
def ofName? (name : String) : Option Phase :=
  all.find? fun phase => phase.name == name

/-- Whether no phase follows. -/
def isTerminal : Phase → Bool
  | start | resolving | anchorReached | policyMerging | policyApplying => false
  | _ => true

/-- Whether the resolution has failed. -/
def isFailure (phase : Phase) : Bool :=
  phase.isTerminal && phase != resolved

/-- Whether a phase may follow another. -/
def canBecome : Phase → Phase → Bool
  | start, resolving => true
  | resolving, anchorReached => true
  | resolving, constraintViolation => true
  | resolving, signatureInvalid => true
  | resolving, expired => true
  | resolving, cycleDetected => true
  | resolving, noPath => true
  | anchorReached, policyMerging => true
  | policyMerging, policyApplying => true
  | policyMerging, policyConflict => true
  | policyApplying, resolved => true
  | policyApplying, policyConflict => true
  | _, _ => false

end Phase

end Federation
