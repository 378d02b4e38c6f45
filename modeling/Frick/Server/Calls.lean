import Frick.Framework.Program
import Frick.Framework.Table
import Frick.Store.Basic

/-!
# The call control plane

`calls/control_plane.rs`: the lifecycle of a call, create → ringing → accept or join → leave → end.
A call is a room, an invite for each invitee, a participant for each device that joined, all kept as
ordinary objects, and a stream of lifecycle events. The control plane holds no lock: each command
reads and writes these objects one at a time, and other commands run in between.

Each command is therefore a `Program` whose operations are the accesses to the object store and to
the event stream, in the order of the source; `CallStore.handle` is the meaning of one access. The
objects are those of one call, in its tenant and app. Writes carry no expected version, so a write
replaces what is there, and an append is never taken for a replay because its request id carries a
counter.

**The media plane** is not part of the model. Its participant cap is a parameter, and what it
answers to a command (a session, a join token) is an argument of the command, as are the clock
readings.
-/

namespace Frick.Server

open Framework

/-! ## Records -/

inductive CallKind where
  | audio | video
  deriving Repr

inductive CallRoomState where
  | ringing | active | ended
  deriving Repr, DecidableEq

inductive CallInviteState where
  | ringing | accepted | declined | cancelled
  deriving Repr, DecidableEq

inductive CallParticipantState where
  | joined | left
  deriving Repr, DecidableEq

inductive CallNetworkQuality where
  | unknown | poor | fair | good | excellent
  deriving Repr

structure CallRoomRecord where
  id : String
  conversationId : String
  state : CallRoomState
  createdBy : String
  kind : CallKind
  createdAt : String
  startedAt : Option String
  endedAt : Option String
  mediaSessionId : Option String
  transport : Option String
  deriving Repr

structure CallInviteRecord where
  id : String
  callId : String
  inviteeUserId : String
  status : CallInviteState
  invitedBy : String
  invitedAt : String
  respondedAt : Option String
  deriving Repr

structure CallParticipantRecord where
  id : String
  callId : String
  userId : String
  deviceId : String
  state : CallParticipantState
  joinedAt : String
  leftAt : Option String
  micEnabled : Bool
  cameraEnabled : Bool
  screenSharing : Bool
  speaking : Option Bool
  networkQuality : Option CallNetworkQuality
  deriving Repr

/-- The events of the `CallEventStream`, with their fields. -/
inductive CallEvent where
  | created (callId conversationId createdBy : String) (kind : CallKind) (createdAt : String)
  | inviteSent (callId inviteeUserId invitedBy : String)
  | inviteAccepted (callId inviteeUserId : String)
  | participantJoined (callId userId deviceId joinedAt : String)
  | participantMediaChanged (callId userId deviceId : String)
      (micEnabled cameraEnabled screenSharing : Bool)
  | participantLeft (callId userId deviceId leftAt : String)
  | ended (callId endedBy endedAt : String)
  deriving Repr

def CallEvent.isEnded : CallEvent → Bool
  | .ended _ _ _ => true
  | _ => false

inductive CallStateReason where
  | noInvitees | capacityExceeded | callNotFound | callEnded | notParticipant
  | inviteAlreadyResolved
  deriving Repr

inductive CallAuthzReason where
  | notCreator | notInvitee | notSelf
  deriving Repr

/-- `CallError`, as far as these commands raise it. -/
inductive CallError where
  | state (reason : CallStateReason) (message : String)
  | authz (reason : CallAuthzReason) (message : String)
  | media (message : String)
  deriving Repr

/-- `CallActor`; its tenant and app are those of the call. -/
structure CallActor where
  userId : String
  deviceId : String
  deriving Repr

/-- `CreateCallInput`, without the hint to the media plane. -/
structure CreateCallInput where
  conversationId : String
  inviteeUserIds : List String
  kind : Option CallKind
  deriving Repr

structure CallMediaStatePatch where
  micEnabled : Option Bool
  cameraEnabled : Option Bool
  screenSharing : Option Bool
  deriving Repr

/-- `MediaSession`, as far as the room keeps it. -/
structure MediaSession where
  mediaSessionId : String
  transport : String
  deriving Repr

structure CallMediaGrant where
  callId : String
  mediaSessionId : String
  userId : String
  deviceId : String
  token : String
  expiresAt : String
  connection : Option (List (String × String))
  deriving Repr

/-! ## The objects of one call -/

/-- The room, the invites, the participants and the event stream. -/
structure CallStore where
  room : Option CallRoomRecord
  invites : Table CallInviteRecord.id
  participants : Table CallParticipantRecord.id
  events : List CallEvent

def CallStore.empty : CallStore := ⟨none, Table.empty _, Table.empty _, []⟩

/-- One access to the object store or the event stream. -/
inductive CallAccess where
  | readRoom
  | readInvite (id : String)
  | readParticipant (id : String)
  | listParticipants
  | writeRoom (room : CallRoomRecord)
  | writeInvite (invite : CallInviteRecord)
  | writeParticipant (participant : CallParticipantRecord)
  | appendEvent (event : CallEvent)

abbrev CallAccess.Reply : CallAccess → Type
  | .readRoom => Option CallRoomRecord
  | .readInvite _ => Option CallInviteRecord
  | .readParticipant _ => Option CallParticipantRecord
  | .listParticipants => List CallParticipantRecord
  | .writeRoom _ | .writeInvite _ | .writeParticipant _ | .appendEvent _ => Unit

/-- The meaning of one access. -/
def CallStore.handle (s : CallStore) : (access : CallAccess) → CallStore × access.Reply
  | .readRoom => (s, s.room)
  | .readInvite id => (s, s.invites.find? id)
  | .readParticipant id => (s, s.participants.find? id)
  | .listParticipants => (s, s.participants.rows)
  | .writeRoom room => ({ s with room := some room }, ())
  | .writeInvite invite => ({ s with invites := s.invites.upsert invite }, ())
  | .writeParticipant participant =>
    ({ s with participants := s.participants.upsert participant }, ())
  | .appendEvent event => ({ s with events := s.events ++ [event] }, ())

/-- A command, or the rest of one. -/
abbrev CallProgram (α : Type) := Program CallAccess CallAccess.Reply CallError α

namespace Calls

open Program

/-! ## Store helpers -/

def readRoom : CallProgram (Option CallRoomRecord) := perform CallAccess.readRoom

def readInvite (callId userId : String) : CallProgram (Option CallInviteRecord) :=
  perform (CallAccess.readInvite (callId ++ ":" ++ userId))

def readParticipant (callId userId deviceId : String) :
    CallProgram (Option CallParticipantRecord) :=
  perform (CallAccess.readParticipant (callId ++ ":" ++ userId ++ ":" ++ deviceId))

def listParticipants (callId : String) : CallProgram (List CallParticipantRecord) := do
  let rows : List CallParticipantRecord ← perform CallAccess.listParticipants
  pure (rows.filter fun participant => participant.callId = callId)

def writeRoom (room : CallRoomRecord) : CallProgram Unit := perform (CallAccess.writeRoom room)

def writeInvite (invite : CallInviteRecord) : CallProgram Unit :=
  perform (CallAccess.writeInvite invite)

def writeParticipant (participant : CallParticipantRecord) : CallProgram Unit :=
  perform (CallAccess.writeParticipant participant)

def appendEvent (event : CallEvent) : CallProgram Unit := perform (CallAccess.appendEvent event)

/-! ## Internals -/

/-- The answer for a call without a room. -/
def callNotFound (callId : String) : CallError :=
  .state .callNotFound ("Call " ++ callId ++ " does not exist")

section

variable (maxParticipants : Option Nat) (actor : CallActor) (callId : String)

def finalizeEnd (endedBy endedAt : String) : CallProgram CallRoomRecord := do
  -- re-read to guard against a delete or end race
  match ← readRoom with
  | none => .fail (callNotFound callId)
  | some room =>
    if room.state = .ended then pure room
    else do
      let ended := { room with state := .ended, endedAt := some endedAt }
      writeRoom ended
      appendEvent (.ended callId endedBy endedAt)
      pure ended

def requireLiveRoom : CallProgram CallRoomRecord := do
  match ← readRoom with
  | none => .fail (callNotFound callId)
  | some room =>
    if room.state = .ended then
      .fail (.state .callEnded ("Call " ++ callId ++ " has already ended"))
    else pure room

/-- `require_invitee_or_creator`; the creator has no invite. -/
def requireInviteeOrCreator (room : CallRoomRecord) (actor : CallActor) :
    CallProgram (Option CallInviteRecord) := do
  if room.createdBy = actor.userId then pure none
  else do
    match ← readInvite room.id actor.userId with
    | some invite => pure (some invite)
    | none => .fail (.authz .notInvitee (actor.userId ++ " was not invited to call " ++ room.id))

def activeParticipantCount : CallProgram Nat := do
  let participants ← listParticipants callId
  pure (participants.countP fun participant => participant.state = .joined)

/-- `assert_participant_capacity`: distinct active users, the actor's included. -/
def assertParticipantCapacity : CallProgram Unit := do
  match maxParticipants with
  | none => pure ()
  | some max => do
    let participants ← listParticipants callId
    let joined := participants.filter fun participant => participant.state = .joined
    let isRejoin := joined.any fun participant =>
      participant.userId = actor.userId && participant.deviceId = actor.deviceId
    let activeUsers := (joined.map (·.userId)).eraseDups
    if isRejoin || activeUsers.contains actor.userId then pure ()
    else if activeUsers.length + 1 > max then
      .fail (.state .capacityExceeded
        ("Call " ++ callId ++ " is full (media plane capacity is " ++ toString max ++ ")"))
    else pure ()

def creatorSelfInvite (userId now : String) : CallInviteRecord :=
  ⟨callId ++ ":" ++ userId, callId, userId, .accepted, userId, now, some now⟩

/-- The answer to an actor who has not joined. -/
def notParticipant (actor : CallActor) (callId : String) : CallError :=
  .state .notParticipant
    (actor.userId ++ "/" ++ actor.deviceId ++ " is not an active participant of " ++ callId)

/-- The actor's participant record, if it is `joined`. -/
def requireJoined : CallProgram CallParticipantRecord := do
  match ← readParticipant callId actor.userId actor.deviceId with
  | none => .fail (notParticipant actor callId)
  | some participant =>
    if participant.state = .joined then pure participant
    else .fail (notParticipant actor callId)

/-! ## Commands -/

inductive CallAnswer where
  | created (room : CallRoomRecord) (invites : List CallInviteRecord)
  | invite (invite : CallInviteRecord)
  | joined (room : CallRoomRecord) (participant : CallParticipantRecord) (grant : CallMediaGrant)
  | participant (participant : CallParticipantRecord)
  | room (room : CallRoomRecord)

/-- `dedupe`: first occurrences, without the creator. -/
def dedupe (values : List String) (exclude : String) : List String :=
  (values.filter fun value => value ≠ exclude).eraseDups

/-- The loop of `create_call` over the invitees. -/
def sendInvites (actor : CallActor) (callId createdAt : String) :
    List String → CallProgram (List CallInviteRecord)
  | [] => pure []
  | invitee :: invitees => do
    let invite : CallInviteRecord :=
      ⟨callId ++ ":" ++ invitee, callId, invitee, .ringing, actor.userId, createdAt, none⟩
    writeInvite invite
    appendEvent (.inviteSent callId invitee actor.userId)
    let invites ← sendInvites actor callId createdAt invitees
    pure (invite :: invites)

/-- `create_call`, with the id it draws. -/
def createCall (input : CreateCallInput)
    (callId createdAt : String) (session : Except CallError MediaSession) :
    CallProgram CallAnswer := do
  let invitees := dedupe input.inviteeUserIds actor.userId
  if invitees.isEmpty then
    .fail (.state .noInvitees "A call must invite at least one user other than the creator")
  else if maxParticipants.any fun max => invitees.length + 1 > max then
    .fail (.state .capacityExceeded ("Call exceeds the media plane capacity of " ++
      toString (maxParticipants.getD 0) ++ " participants"))
  else do
    let session ← ofExcept session
    let kind := input.kind.getD .video
    let room : CallRoomRecord := ⟨callId, input.conversationId, .ringing, actor.userId, kind,
      createdAt, none, none, some session.mediaSessionId, some session.transport⟩
    writeRoom room
    appendEvent (.created callId input.conversationId actor.userId kind createdAt)
    let invites ← sendInvites actor callId createdAt invitees
    pure (.created room invites)

def acceptInvite (now : String) : CallProgram CallAnswer := do
  let room ← requireLiveRoom callId
  match ← requireInviteeOrCreator room actor with
  | none => pure (.invite (creatorSelfInvite callId actor.userId now))
  | some invite =>
    match invite.status with
    | .declined | .cancelled =>
      .fail (.state .inviteAlreadyResolved
        ("Invite for " ++ actor.userId ++ " is resolved and cannot be accepted"))
    | .accepted => pure (.invite invite)
    | .ringing => do
      let updated := { invite with status := .accepted, respondedAt := some now }
      writeInvite updated
      appendEvent (.inviteAccepted callId actor.userId)
      pure (.invite updated)

def declineInvite (now : String) : CallProgram CallAnswer := do
  let room ← requireLiveRoom callId
  match ← requireInviteeOrCreator room actor with
  | none => .fail (.authz .notInvitee "The call creator has no invite to decline")
  | some invite =>
    if invite.status = .accepted then
      .fail (.state .inviteAlreadyResolved "An accepted invite cannot be declined")
    else do
      let updated := { invite with status := .declined, respondedAt := some now }
      writeInvite updated
      pure (.invite updated)

def acceptOnJoin (joinedAt : String) : Option CallInviteRecord → CallProgram Unit
  | none => pure ()
  | some invite =>
    if invite.status = .accepted then pure ()
    else do
      writeInvite { invite with status := .accepted, respondedAt := some joinedAt }
      appendEvent (.inviteAccepted callId actor.userId)

/-- The first join activates the room; `room` is what `join_call` read at its start. -/
def activateRoom (room : CallRoomRecord) (joinedAt : String) : CallProgram CallRoomRecord := do
  if room.state = .ringing then do
    let activated := { room with state := .active, startedAt := some joinedAt }
    writeRoom activated
    pure activated
  else pure room

def joinCall (joinedAt : String)
    (grant : Except CallError CallMediaGrant) : CallProgram CallAnswer := do
  let room ← requireLiveRoom callId
  let invite ← requireInviteeOrCreator room actor
  if invite.any fun invite => invite.status = .declined || invite.status = .cancelled then
    .fail (.state .inviteAlreadyResolved
      ("Invite for " ++ actor.userId ++ " is resolved; cannot join"))
  else do
    assertParticipantCapacity maxParticipants actor callId
    acceptOnJoin actor callId joinedAt invite
    let participant : CallParticipantRecord :=
      ⟨callId ++ ":" ++ actor.userId ++ ":" ++ actor.deviceId, callId, actor.userId,
        actor.deviceId, .joined, joinedAt, none, true, false, false, none, none⟩
    writeParticipant participant
    let activeRoom ← activateRoom room joinedAt
    appendEvent (.participantJoined callId actor.userId actor.deviceId joinedAt)
    let grant ← ofExcept grant
    pure (.joined activeRoom participant grant)

def setMediaState (patch : CallMediaStatePatch) : CallProgram CallAnswer := do
  let _ ← requireLiveRoom callId
  let participant ← requireJoined actor callId
  let updated := { participant with
    micEnabled := patch.micEnabled.getD participant.micEnabled
    cameraEnabled := patch.cameraEnabled.getD participant.cameraEnabled
    screenSharing := patch.screenSharing.getD participant.screenSharing }
  writeParticipant updated
  appendEvent (.participantMediaChanged callId actor.userId actor.deviceId updated.micEnabled
    updated.cameraEnabled updated.screenSharing)
  pure (.participant updated)

/-- `leave_call`; the last one to leave an active call ends it. -/
def leaveCall (leftAt endedAt : String) : CallProgram CallAnswer := do
  match ← readRoom with
  | none => .fail (callNotFound callId)
  | some room =>
    if room.state = .ended then pure (.room room)
    else do
      let participant ← requireJoined actor callId
      writeParticipant { participant with state := .left, leftAt := some leftAt }
      appendEvent (.participantLeft callId actor.userId actor.deviceId leftAt)
      let remaining ← activeParticipantCount callId
      if remaining = 0 ∧ room.state = .active then do
        let ended ← finalizeEnd callId actor.userId endedAt
        pure (.room ended)
      else pure (.room room)

/-- `end_call`: only the creator. -/
def endCall (endedAt : String) : CallProgram CallAnswer := do
  match ← readRoom with
  | none => .fail (callNotFound callId)
  | some room =>
    if room.createdBy ≠ actor.userId then
      .fail (.authz .notCreator "Only the call creator may end the call")
    else if room.state = .ended then pure (.room room)
    else do
      let ended ← finalizeEnd callId actor.userId endedAt
      pure (.room ended)

/-- A command with everything it takes from its surroundings. -/
inductive CallCommand where
  | create (actor : CallActor) (input : CreateCallInput) (createdAt : String)
      (session : Except CallError MediaSession)
  | accept (actor : CallActor) (now : String)
  | decline (actor : CallActor) (now : String)
  | join (actor : CallActor) (joinedAt : String) (grant : Except CallError CallMediaGrant)
  | setMedia (actor : CallActor) (patch : CallMediaStatePatch)
  | leave (actor : CallActor) (leftAt endedAt : String)
  | finish (actor : CallActor) (endedAt : String)

def CallCommand.program : CallCommand → CallProgram CallAnswer
  | .create actor input createdAt session =>
    createCall maxParticipants actor input callId createdAt session
  | .accept actor now => acceptInvite actor callId now
  | .decline actor now => declineInvite actor callId now
  | .join actor joinedAt grant => joinCall maxParticipants actor callId joinedAt grant
  | .setMedia actor patch => setMediaState actor callId patch
  | .leave actor leftAt endedAt => leaveCall actor callId leftAt endedAt
  | .finish actor endedAt => endCall actor callId endedAt

end

end Calls

end Frick.Server
