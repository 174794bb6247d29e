import LiveMediaExt.MediaSubsession
import LiveMediaExt.SourceScheduler

/-!
# The RTSP server and the sessions it streams

A channel becomes a server media session with one subsession for each descriptor. The server
keys sessions by their name as a C string, the scheduler keys subsessions by channel and source.
-/
namespace LiveMediaExt.Rtsp
open Execution Media Subsession Scheduler

structure VideoChannelDescriptor where
  codec : String
  sps : String
  pps : String
  deriving DecidableEq, Repr

structure AudioChannelDescriptor where
  codec : String
  channels : ℕ
  bitsPerSample : ℕ
  samplingFrequency : ℕ
  configString : String
  deriving DecidableEq, Repr

/-- A channel has at least one descriptor, which `createNewSMS` asserts. -/
structure Channel where
  channelId : ℕ
  channelName : String
  videoDescriptor : Option VideoChannelDescriptor
  audioDescriptor : Option AudioChannelDescriptor
  described : videoDescriptor.isSome = true ∨ audioDescriptor.isSome = true
  deriving DecidableEq

/-- What the callee of a `c_str()` sees: the text up to the first NUL. -/
def cStr (s : String) : String := String.ofList (s.toList.takeWhile fun c => c != '\x00')

def Channel.streamName (channel : Channel) : String := cStr channel.channelName

/-- The subsession that the factory constructs for a video codec. -/
def VideoChannelDescriptor.kind (d : VideoChannelDescriptor) : Option SubsessionKind :=
  if d.codec = "H264" then some (.h264 d.sps d.pps) else none

def AudioChannelDescriptor.kind (d : AudioChannelDescriptor) : Option SubsessionKind :=
  if d.codec = "AMR" then some (.amr d.channels d.bitsPerSample d.samplingFrequency)
  else if d.codec = "AAC" then
    some (.aac d.channels d.bitsPerSample d.samplingFrequency d.configString)
  else none

structure ServerMediaSession (β : Type) where
  streamName : String
  subsessions : List (LiveMediaSubsession β)
  deriving DecidableEq

def ServerMediaSession.addSubsession {β : Type} (subsession : LiveMediaSubsession β)
    (sms : ServerMediaSession β) : ServerMediaSession β :=
  { sms with subsessions := sms.subsessions ++ [subsession] }

/-- What `init` sets up: the scheduler, the sessions of the server and the ids of its client
sessions. `newBuffer` is the sample buffer that a new subsession allocates. -/
structure LiveEnvironment (β : Type) where
  scheduler : LiveSourceTaskScheduler0
  serverMediaSessions : List (ServerMediaSession β)
  rtspClientSessions : List ℕ
  newBuffer : β
  nextSubsession : ℕ
  deriving DecidableEq

namespace LiveEnvironment
variable {β : Type}

def createNew (newBuffer : β) : LiveEnvironment β where
  scheduler := .createNew
  serverMediaSessions := []
  rtspClientSessions := []
  newBuffer := newBuffer
  nextSubsession := 0

/-- The constructor of a subsession registers it with the scheduler. -/
def newSubsession (sessionName : String) (channelId sourceId : ℕ) (kind : SubsessionKind)
    (env : LiveEnvironment β) : Except Fault (LiveMediaSubsession β × LiveEnvironment β) := do
  let scheduler ← env.scheduler.addMediaSubsession channelId sourceId env.nextSubsession
  return (.create env.nextSubsession channelId sourceId sessionName kind env.newBuffer,
    { env with scheduler := scheduler, nextSubsession := env.nextSubsession + 1 })

/-- The destructor deregisters it. -/
def deleteSubsession (env : LiveEnvironment β) (subsession : LiveMediaSubsession β) :
    LiveEnvironment β :=
  { env with
    scheduler := env.scheduler.removeMediaSubsession subsession.channelId subsession.sourceId }

/-- `Medium::close` of a session. -/
def closeServerMediaSession (sms : ServerMediaSession β) (env : LiveEnvironment β) :
    LiveEnvironment β :=
  sms.subsessions.foldl deleteSubsession env

/-- The factory constructs nothing where the codec asks for nothing. -/
def createSubsession (sessionName : String) (channelId subsessionId : ℕ)
    (kind : Option SubsessionKind) (env : LiveEnvironment β) :
    Except Fault (Option (LiveMediaSubsession β) × LiveEnvironment β) :=
  match kind with
  | some kind => do
    let (subsession, env) ← env.newSubsession sessionName channelId subsessionId kind
    return (some subsession, env)
  | none => .ok (none, env)

def createVideoSubsession (sessionName : String) (channelId subsessionId : ℕ)
    (videoDescriptor : VideoChannelDescriptor) (env : LiveEnvironment β) :
    Except Fault (Option (LiveMediaSubsession β) × LiveEnvironment β) :=
  env.createSubsession sessionName channelId subsessionId videoDescriptor.kind

def createAudioSubsession (sessionName : String) (channelId subsessionId : ℕ)
    (audioDescriptor : AudioChannelDescriptor) (env : LiveEnvironment β) :
    Except Fault (Option (LiveMediaSubsession β) × LiveEnvironment β) :=
  env.createSubsession sessionName channelId subsessionId audioDescriptor.kind

/-- The second half of `createNewSMS`. -/
def addAudio (channel : Channel) (audioId : ℕ) (sms : ServerMediaSession β)
    (env : LiveEnvironment β) :
    Except Fault (Option (ServerMediaSession β) × LiveEnvironment β) :=
  match channel.audioDescriptor with
  | none => .ok (some sms, env)
  | some audioDescriptor => do
    let (subsession, env) ← env.createAudioSubsession channel.channelName channel.channelId audioId
      audioDescriptor
    match subsession with
    | none => return (none, env.closeServerMediaSession sms)
    | some subsession => return (some (sms.addSubsession subsession), env)

/-- The audio source has id 1 beside a video source and id 0 without. -/
def createNewSMS (channel : Channel) (env : LiveEnvironment β) :
    Except Fault (Option (ServerMediaSession β) × LiveEnvironment β) :=
  let sms : ServerMediaSession β := ⟨channel.streamName, []⟩
  match channel.videoDescriptor with
  | none => env.addAudio channel 0 sms
  | some videoDescriptor => do
    let (subsession, env) ← env.createVideoSubsession channel.channelName channel.channelId 0
      videoDescriptor
    match subsession with
    | none => return (none, env.closeServerMediaSession sms)
    | some subsession => env.addAudio channel 1 (sms.addSubsession subsession)

def lookupServerMediaSession (streamName : String) (env : LiveEnvironment β) :
    Option (ServerMediaSession β) :=
  env.serverMediaSessions.find? fun sms => sms.streamName == streamName

/-- The entry leaves the table; no client refers to the session any more, so it is closed. -/
def removeServerMediaSession (sms : ServerMediaSession β) (env : LiveEnvironment β) :
    LiveEnvironment β :=
  ({ env with
    serverMediaSessions :=
      env.serverMediaSessions.filter fun other => other.streamName != sms.streamName } :
    LiveEnvironment β).closeServerMediaSession sms

/-- The base class returns at once for a null session and replaces one of the same name. -/
def addServerMediaSession (sms : Option (ServerMediaSession β)) (env : LiveEnvironment β) :
    LiveEnvironment β :=
  match sms with
  | none => env
  | some sms =>
    let env :=
      match env.lookupServerMediaSession sms.streamName with
      | some old => env.removeServerMediaSession old
      | none => env
    { env with serverMediaSessions := env.serverMediaSessions ++ [sms] }

/-- `announceStream` asks for the URL of the session, which reads its name. -/
def announceStream (sms : Option (ServerMediaSession β)) : Except Fault String :=
  match sms with
  | none => .error .nullPointer
  | some sms => .ok sms.streamName

def addRtspMediaSession (channel : Channel) (env : LiveEnvironment β) :
    Except Fault (LiveEnvironment β) :=
  match env.lookupServerMediaSession channel.streamName with
  | some _ => .ok env
  | none => do
    let (sms, env) ← env.createNewSMS channel
    let env := env.addServerMediaSession sms
    let _ ← announceStream sms
    return env

/-- Deleting a client session destroys the device sources of that client. -/
def kickClient (env : LiveEnvironment β) (clientId : ℕ) : LiveEnvironment β :=
  if clientId ∈ env.rtspClientSessions then
    { env with
      rtspClientSessions := env.rtspClientSessions.filter fun id => id != clientId
      serverMediaSessions := env.serverMediaSessions.map fun sms =>
        { sms with
          subsessions := sms.subsessions.map fun sub =>
            { sub with
              deviceSources := sub.deviceSources.filter fun src => src.clientId != clientId } } }
  else env

/-- The ids are gathered in a `std::set`, which orders them. -/
def endServerSession (session : String) (env : LiveEnvironment β) : LiveEnvironment β :=
  match env.lookupServerMediaSession session with
  | none => env
  | some sms =>
    let uniqueClientIds : Std.ExtTreeSet ℕ :=
      .ofList (sms.subsessions.flatMap LiveMediaSubsession.getConnectedClientIds)
    uniqueClientIds.toList.foldl kickClient env

def removeRtspMediaSession (channel : Channel) (env : LiveEnvironment β) : LiveEnvironment β :=
  let env := env.endServerSession channel.streamName
  match env.lookupServerMediaSession channel.streamName with
  | some sms => env.removeServerMediaSession sms
  | none => env

end LiveEnvironment

end LiveMediaExt.Rtsp
