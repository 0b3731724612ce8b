import Keyring.Group.Fetch

/-!
Key rotation: preparing one, publishing it, and finishing those that are pending. To finish is to
catch up in rounds. Outputs whose start key is unknown wait while new keys are fetched, and are
tried again in the next round.
-/

namespace Keyring.Group

open Keyring.Rotation

/-- Prepares a rotation from the newest key; one that is prepared and not published is replaced. -/
def prepare : Action Artifact := do
  let g ← Attempt.get
  Attempt.settle (g.record.requireRank "rotate keys" g.config.ranks.rotation)
  match g.phase with
  | .idle | .prepared _ =>
    let latest ← Attempt.settle g.record.history.latest
    let artifact ← Attempt.request (.prepareRotation latest g.actor.publicKey)
    Attempt.notice (.rotationPrepared g.record.groupId artifact.preKeyId)
    setPhase (.prepared artifact)
    return artifact
  | phase => throw (.invalidPhase "idle" phase.name)

/-- Publishes the prepared rotation, after which the group waits for it to be finished. -/
def publish : Action Unit := do
  let g ← Attempt.get
  match g.phase with
  | .prepared artifact =>
    let _ ← Attempt.request (.publishRotation g.actor.token g.record.groupId artifact)
    Attempt.notice (.rotationPublished g.record.groupId artifact.preKeyId)
    Attempt.set { g with record := { g.record with keyUpdate := true }, phase := .published }
  | phase => throw (.invalidPhase "prepared" phase.name)

def rotate : Action Unit := do
  let _ ← prepare
  publish

/-- Derives the key of an output and commits it. -/
def resolve (round : Nat) (output : Output) (preKey : Key) : Action Unit := do
  let g ← Attempt.get
  let key ← tryCatch (Attempt.request (.deriveKey preKey output g.actor)) fun e => do
    Attempt.metric (.outputHandled .failed)
    throw e
  let _ ← Attempt.request (.commitKey g.actor.token g.record.groupId output key)
  Attempt.notice (.outputResolved round output.preKeyId key.id)
  Attempt.metric (.outputHandled .resolved)

/-- Resolves the outputs whose start key is known; gives the number of those, and the others.
`resolved` and `deferred`, last first, are those of the outputs before. -/
def resolveKnown (round resolved : Nat) (deferred : List Output) :
    List Output → Action (Nat × List Output)
  | [] => return (resolved, deferred.reverse)
  | output :: rest => do
    match (← Attempt.get).record.history.get? output.preKeyId with
    | some preKey =>
      resolve round output preKey
      resolveKnown round (resolved + 1) deferred rest
    | none =>
      Attempt.notice (.outputDeferred round output.preKeyId)
      Attempt.metric (.outputHandled .deferred)
      resolveKnown round resolved (output :: deferred) rest

/-- A round: resolves what can be resolved, then fetches new keys. `left` is the number of rounds
that may still follow. -/
def finishRound (round left : Nat) (pending : List Output) : Action (Nat × List Output) := do
  let (resolved, deferred) ← resolveKnown round 0 [] pending
  let g ← Attempt.get
  let fetched ← fetchNew g.actor.token g.config.keys.fetchThreshold
  Attempt.notice (.roundEnded round fetched deferred.length left)
  return (resolved, deferred)

/-- Rounds until no output waits, or none may follow; gives the number of outputs resolved, the
number of the last round, and the outputs that still wait. `resolved` counts those of the rounds
before. -/
def catchUp (round resolved : Nat) :
    (left : Nat) → List Output → Action (Nat × Nat × List Output)
  | 0, pending => do
    let (more, deferred) ← finishRound round 0 pending
    return (resolved + more, round, deferred)
  | left + 1, pending => do
    let (more, deferred) ← finishRound round (left + 1) pending
    if deferred.isEmpty then return (resolved + more, round, deferred)
    catchUp (round + 1) (resolved + more) left deferred

def finishLabel : Outcome → FinishLabel
  | .completed _ 0 => .noop
  | .completed .. => .completed
  | .incomplete .. => .incomplete

/-- Works off the pending outputs and stores the record. If nothing is pending, the record and the
store stay as they are. -/
def finishPending : Action Outcome := do
  let g ← Attempt.get
  let groupId := g.record.groupId
  let pending ← Attempt.request (.pendingOutputs g.actor.token groupId)
  if pending.isEmpty then
    Attempt.notice (.nothingPending groupId)
    Attempt.metric (.finishEnded .noop)
    return .completed 0 0
  Attempt.notice (.finishStarted groupId pending.length)
  let (resolved, rounds, waiting) ← catchUp 1 0 (g.config.rotation.maxRounds.toNat - 1) pending
  Attempt.metric (.roundsUsed rounds)
  let outcome : Outcome :=
    if waiting.isEmpty then .completed resolved rounds else .incomplete resolved rounds waiting
  if waiting.isEmpty then
    modifyRecord ({ · with keyUpdate := false })
    Attempt.notice (.finishCompleted groupId resolved rounds)
  else
    Attempt.notice (.finishIncomplete groupId resolved rounds waiting.length)
  persist
  Attempt.metric (.finishEnded (finishLabel outcome))
  return outcome

/-- Finishes the pending rotations. The group is idle again after a complete run, and stays where
it was after any other. -/
def finish : Action Outcome := do
  let g ← Attempt.get
  match g.phase with
  | .idle | .published =>
    setPhase .finishing
    let outcome ← tryCatch finishPending fun e => do
      setPhase g.phase
      throw e
    setPhase (if outcome.isComplete then .idle else g.phase)
    return outcome
  | phase => throw (.invalidPhase "idle or published" phase.name)

/-- Recovers from a finish run that was cut. -/
def abandonFinish : Action Unit := do
  let g ← Attempt.get
  if g.phase = .finishing then
    let phase : Phase := if g.record.keyUpdate then .published else .idle
    setPhase phase
    Attempt.notice (.finishAbandoned g.record.groupId phase.name)

/-- What follows a finish run that was cut by its time limit. -/
def finishExpired : Action Outcome := do
  abandonFinish
  let g ← Attempt.get
  let limit := g.config.rotation.timeout.describe
  Attempt.notice (.finishTimedOut g.record.groupId limit)
  throw (.timedOut ("rotation finish exceeded " ++ limit))

end Keyring.Group
