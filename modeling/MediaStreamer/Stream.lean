import Mathlib.Logic.Function.Basic
import MediaStreamer.CryptoSuite
import MediaStreamer.Ticker

/-!
# The media stream, its sessions, and the collaborators it calls

`MediaStream` is the record every function of `mediastream.c` reads and writes; its
`MSMediaStreamSessions` hold the handles of the transport and security objects it may own. The
collaborators — oRTP sessions and event queues, the ZRTP/DTLS engines, filters, the quality
indicator, the FEC stream — are outside this file's code, so they are modelled by what the stream
code can observe of them, the `World`, and by the calls it makes on them, `Call`.

**How operations are embedded.** Each function is a pure function from the stream, the
collaborators' observable state and its arguments to the new stream and the ordered list of
calls it makes; `World.performAll` applies such a list. Values the code reads from a
collaborator (a received-packet count, a filter's status) are read from the `World` or passed
as arguments. Handles are natural numbers, one name space per kind of object (`Res`), so that
two objects of different kinds are never confused; new objects take fresh handles from
`World.next`.

Only what a modelled function reads or writes is kept: log messages, the ICE agent's own state
and the encoder's internals are left out.
-/

namespace MediaStreamer.Stream

open CryptoSuite

/-- A pointer to a collaborator object (session, context, queue, filter, ...).
Source: none: infrastructure
Kind: D -/
abbrev Handle := Nat

/-- The address `&stream->sessions` that the ZRTP and DTLS contexts point back to.
Source: none: infrastructure
Kind: D -/
abbrev Addr := Nat

/-- `MSFormatType`.
Source: `media_stream_type_str`, `media_stream_secured`
Kind: D -/
inductive MSFormatType where
  | audio
  | video
  | text
  | unknownMedia
deriving DecidableEq, Repr

/-- `MSStreamState`.
Source: `media_stream_iterate`, `media_stream_alive`
Kind: D -/
inductive MSStreamState where
  | init
  | preparing
  | started
deriving DecidableEq, Repr

/-- `MediaStreamDir`.
Source: `media_stream_set_direction`, `media_stream_iterate`
Kind: D -/
inductive MediaStreamDir where
  | sendRecv
  | sendOnly
  | recvOnly
deriving DecidableEq, Repr

/-- The factory settings the stream code reads: the MTU (`ms_factory_get_mtu`) and the CPU count
(`ms_factory_get_cpu_count`).
Source: `media_stream_enable_dtls`, `media_stream_process_tmmbr`
Kind: D -/
structure MSFactory where
  /-- `ms_factory_get_mtu`. -/
  mtu : Nat
  /-- `ms_factory_get_cpu_count`. -/
  cpuCount : Nat
deriving DecidableEq, Repr

/-- `MSMediaStreamSessions`: the handles a stream may own and may hand over.
Source: `ms_media_stream_sessions_uninit`, `media_stream_reclaim_sessions`
Kind: D -/
structure MSMediaStreamSessions where
  /-- `rtp_session`. -/
  rtpSession : Option Handle
  /-- `srtp_context`, where SDES (and ZRTP/DTLS-derived) SRTP keys are installed. -/
  srtpContext : Option Handle
  /-- `zrtp_context`. -/
  zrtpContext : Option Handle
  /-- `dtls_context`. -/
  dtlsContext : Option Handle
  /-- `ticker`. -/
  ticker : Option Handle
  /-- `fec_session`, the secondary RTP session carrying FlexFEC repair packets. -/
  fecSession : Option Handle
deriving DecidableEq, Repr

/-- The fields of `MediaStream` the modelled functions read or write.
Source: `struct _MediaStream` as used in `mediastream.c`
Kind: D -/
structure MediaStream where
  /-- Where the stream lives: `&stream->sessions`. -/
  addr : Addr
  /-- `type`. -/
  type : MSFormatType
  /-- `state`. -/
  state : MSStreamState
  /-- `sessions`. -/
  sessions : MSMediaStreamSessions
  /-- `factory`. -/
  factory : MSFactory
  /-- `evd`, the event dispatcher. -/
  evd : Option Handle
  /-- `evq`, the event queue registered on the RTP session. -/
  evq : Option Handle
  /-- `owns_sessions`. -/
  ownsSessions : Bool
  /-- `stun_allowed`. -/
  stunAllowed : Bool
  /-- `ice_check_list`. -/
  iceCheckList : Option Handle
  /-- `rtpsend`. -/
  rtpsend : Option Handle
  /-- `rtprecv`. -/
  rtprecv : Option Handle
  /-- `encoder`. -/
  encoder : Option Handle
  /-- `decoder`. -/
  decoder : Option Handle
  /-- `voidsink`. -/
  voidsink : Option Handle
  /-- `rc`, the bitrate controller. -/
  rc : Option Handle
  /-- `rc_enable`. -/
  rcEnable : Bool
  /-- `qi`, the quality indicator. -/
  qi : Option Handle
  /-- `video_quality_controller`. -/
  videoQualityController : Option Handle
  /-- `fec_stream`. -/
  fecStream : Option Handle
  /-- `direction`. -/
  direction : MediaStreamDir
  /-- `start_time`. -/
  startTime : Int
  /-- `last_packet_time`. -/
  lastPacketTime : Int
  /-- `last_packet_count`. -/
  lastPacketCount : Nat
  /-- `last_iterate_time`. -/
  lastIterateTime : Int
  /-- `is_beginning`. -/
  isBeginning : Bool
  /-- `target_bitrate`. -/
  targetBitrate : Int
  /-- `max_target_bitrate`. -/
  maxTargetBitrate : Int
  /-- The video preset of a `VideoStream` (`video_stream_get_video_preset`), `NULL` if unset. -/
  videoPreset : Option String
deriving DecidableEq, Repr

/-- The empty sessions set, every handle `NULL`.
Source: none: infrastructure
Kind: D -/
def MSMediaStreamSessions.empty : MSMediaStreamSessions := ⟨none, none, none, none, none, none⟩

/-- A stream record as its type's constructor allocates it (`ms_new0`) before calling
`media_stream_init`: every field zero, so every handle `NULL` and every flag off.
Source: none: infrastructure
Kind: D -/
def MediaStream.new0 (addr : Addr) (type : MSFormatType) : MediaStream where
  addr := addr
  type := type
  state := .init
  sessions := .empty
  factory := ⟨0, 0⟩
  evd := none
  evq := none
  ownsSessions := false
  stunAllowed := false
  iceCheckList := none
  rtpsend := none
  rtprecv := none
  encoder := none
  decoder := none
  voidsink := none
  rc := none
  rcEnable := false
  qi := none
  videoQualityController := none
  fecStream := none
  direction := .sendRecv
  startTime := 0
  lastPacketTime := 0
  lastPacketCount := 0
  lastIterateTime := 0
  isBeginning := false
  targetBitrate := 0
  maxTargetBitrate := 0
  videoPreset := none

/-! ## What the stream observes of its collaborators -/

/-- A sub-packet of a compound RTCP packet, as the RTCP parser yields it.
Source: none: infrastructure
Kind: D -/
abbrev RtcpBlock := Nat

/-- `OrtpEvent`s the stream's queue can hold; a received RTCP packet is given as the sequence of
sub-packets the parser walks.
Source: `media_stream_iterate` lines 457–473
Kind: D -/
inductive OrtpEvent where
  | rtcpPacketReceived (packet : List RtcpBlock)
  | rtcpPacketEmitted
  | stunPacketReceived
  | zrtpEncryptionChanged
  | dtlsEncryptionChanged
  | other (type : Nat)
deriving DecidableEq, Repr

/-- The event is a received RTCP packet (`ORTP_EVENT_RTCP_PACKET_RECEIVED`).
Source: none: infrastructure
Kind: D -/
def OrtpEvent.isRtcpReceived : OrtpEvent → Bool
  | .rtcpPacketReceived _ => true
  | _ => false

/-- An RTP session as the stream code observes it.
Source: the `rtp_session_*` calls of `mediastream.c`
Kind: D -/
structure RtpSession where
  /-- `rtp_session_get_stats(session)->recv`, the cumulative count of received packets. -/
  recv : Nat
  /-- `rtp_session_get_target_upload_bandwidth`. -/
  targetUploadBandwidth : Int
  /-- `session->bundle`. -/
  bundle : Option Handle
  /-- `session->is_primary`. -/
  isPrimary : Bool
  /-- `session->audio_bandwidth_estimator_enabled`. -/
  audioBandwidthEstimatorEnabled : Bool
  /-- `session->rtp.audio_bw_estimator != NULL`. -/
  audioBwEstimator : Bool
  /-- `rtp_session_get_audio_bandwidth_estimator_duplicate_rate`, an `int` the estimator keeps
  non-negative. -/
  duplicateRate : Nat
  /-- The event queues registered on the session. -/
  eventQueues : List Handle
  /-- `session->fec_stream`. -/
  fecStream : Option Handle
deriving DecidableEq, Repr

/-- The kinds of object a stream may destroy, each with its destructor.
Source: none: infrastructure
Kind: D -/
inductive Res where
  | srtpContext
  | rtpSession
  | zrtpContext
  | dtlsSrtpContext
  | ticker
  | evQueue
  | evDispatcher
  | bitrateController
  | filter
  | qualityIndicator
  | videoQualityController
deriving DecidableEq, Repr

/-- The collaborators' state observable by the stream code.
Source: none: infrastructure
Kind: D -/
structure World where
  /-- Each RTP session, by handle. -/
  rtp : Handle → RtpSession
  /-- The events waiting in each event queue, oldest first. -/
  queue : Handle → List OrtpEvent
  /-- The stream sessions each ZRTP context points back to (`ms_zrtp_set_stream_sessions`). -/
  zrtpSessions : Handle → Option Addr
  /-- The stream sessions each DTLS context points back to. -/
  dtlsSessions : Handle → Option Addr
  /-- The objects destroyed so far, newest first. -/
  destroyed : List (Res × Handle)
  /-- The next fresh handle. -/
  next : Handle

/-- A fresh RTP session: nothing received, no queue registered.
Source: none: infrastructure
Kind: D -/
def RtpSession.new0 : RtpSession := ⟨0, 0, none, false, false, false, 0, [], none⟩

/-- Collaborators in their initial state: fresh RTP sessions, empty queues, contexts bound to
nothing, nothing destroyed.
Source: none: infrastructure
Kind: D -/
def World.empty : World := ⟨fun _ => .new0, fun _ => [], fun _ => none, fun _ => none, [], 0⟩

/-- A stream with its collaborators.
Source: none: infrastructure
Kind: D -/
structure StreamState where
  /-- The stream record. -/
  stream : MediaStream
  /-- Its collaborators. -/
  world : World

/-- What `rtp_session_get_stats(ms->sessions.rtp_session)->recv` reads (a stream without an RTP
session has received nothing).
Source: none: infrastructure
Kind: D -/
def StreamState.recv (s : StreamState) : Nat :=
  match s.stream.sessions.rtpSession with
  | some r => (s.world.rtp r).recv
  | none => 0

/-! ## The calls the stream makes -/

/-- `MSVideoSize`.
Source: `mediastream.c` lines 866–884
Kind: D -/
structure MSVideoSize where
  /-- `width`. -/
  width : Nat
  /-- `height`. -/
  height : Nat
deriving DecidableEq, Repr

/-- A video encoder configuration (`MSVideoConfiguration`): the two bitrates the TMMBR handler
reads or writes, and the frame size it searches by; the frame rate and the rest are left out.
Source: `media_stream_process_tmmbr` lines 866–884
Kind: D -/
structure MSVideoConfiguration where
  /-- `required_bitrate`. -/
  requiredBitrate : Int
  /-- `bitrate_limit`. -/
  bitrateLimit : Int
  /-- `vsize`. -/
  vsize : MSVideoSize
deriving DecidableEq, Repr

/-- The filter methods the stream calls, with their argument.
Source: `mediastream.c` lines 812–897
Kind: D -/
inductive FilterMethod where
  | rtpSendEnableStun (enabled : Bool)
  | rtpSendEnableStunForced (enabled : Bool)
  | setBitrate (bitrate : Int)
  | getConfigurationList
  | getConfiguration
  | setConfiguration (conf : MSVideoConfiguration)
deriving DecidableEq, Repr

/-- `MSSrtpKeySource`: where an SRTP key came from.
Source: `media_stream_enable_srtp`
Kind: D -/
inductive MSSrtpKeySource where
  | unavailable
  | sdes
  | zrtp
  | dtls
deriving DecidableEq, Repr

/-- The direction of an SRTP key: sending or receiving.
Source: `mediastream.c` lines 350–354
Kind: D -/
inductive SrtpDir where
  | send
  | recv
deriving DecidableEq, Repr

/-- FlexFEC parameters (`FecParameters`, built by `fec_params_new(L, D, repair_window)`).
Source: `media_stream_extract_fec_params`
Kind: D -/
structure FecParameters where
  /-- `L`. -/
  L : Int
  /-- `D`. -/
  D : Int
  /-- `repair_window`, in microseconds. -/
  repairWindow : Int
deriving DecidableEq, Repr

/-- `MSTickerParams`: the name and the priority of a new ticker.
Source: `mediastream.c` lines 194–204
Kind: D -/
structure MSTickerParams where
  /-- `name`. -/
  name : List Char
  /-- `prio`. -/
  prio : Ticker.MSTickerPrio
deriving DecidableEq, Repr

/-- Every collaborator call the modelled functions make, with its arguments; a call that creates
an object carries the fresh handle it returns.
Source: none: infrastructure
Kind: D -/
inductive Call where
  | msTickerNewWithParams (params : MSTickerParams) (t : Handle)
  | evDispatcherNew (rtp : Option Handle) (evd : Handle)
  | evQueueNew (evq : Handle)
  | registerEventQueue (rtp : Option Handle) (evq : Handle)
  | unregisterEventQueue (rtp : Handle) (evq : Option Handle)
  | zrtpSetStreamSessions (ctx : Handle) (sessions : Option Addr)
  | dtlsSrtpSetStreamSessions (ctx : Handle) (sessions : Option Addr)
  | evDispatcherConnect (evd : Option Handle)
  | evDispatcherDisconnect (evd : Option Handle)
  | destroy (kind : Res) (h : Handle)
  | dtlsSrtpContextNew (sessions : Addr) (mtu : Nat) (ctx : Handle)
  | filterCallMethod (f : Handle) (m : FilterMethod)
  | iceCheckListSetRtpSession (cl : Handle) (rtp : Option Handle)
  | iceCheckListProcess (cl : Handle) (rtp : Option Handle)
  | setRtcpReportInterval (rtp : Option Handle) (ms : Nat)
  | qualityIndicatorUpdateLocal (qi : Handle)
  | bitrateControllerUpdate (rc : Handle)
  | evDispatcherIterate (evd : Handle)
  | evQueueGet (evq : Handle)
  | bitrateControllerProcessRtcp (rc : Handle) (block : Option RtcpBlock)
  | qualityIndicatorUpdateFromFeedback (qi : Handle) (block : Option RtcpBlock)
  | processRtcp (block : Option RtcpBlock)
  | iceHandleStunPacket (cl : Handle) (rtp : Option Handle)
  | eventDestroy (ev : OrtpEvent)
  | setTargetUploadBandwidth (rtp : Option Handle) (bw : Int)
  | videoQualityControllerNew (vqc : Handle)
  | videoQualityControllerUpdateFromTmmbr (vqc : Handle) (bitrate : Int)
  | setJitterCompensation (rtp : Option Handle) (ms : Nat)
  | rtpSessionNew (h : Handle)
  | setRecvBufSize (rtp : Handle) (size : Int)
  | enableAdaptiveJitterCompensation (rtp : Handle) (yesno : Bool)
  | setSymmetricRtp (rtp : Handle) (yesno : Bool)
  | setLocalAddr (rtp : Handle) (addr : List Char) (rtpPort rtcpPort : Int)
  | signalConnect (rtp : Handle) (signal : List Char)
  | setSsrcChangedThreshold (rtp : Handle) (n : Int)
  | setMulticastLoopback (rtp : Handle) (yesno : Bool)
  | setSendTsOffset (rtp : Handle) (offset : UInt32)
  | disableChecksums (rtp : Handle)
  | setRtpSocketRecvBufferSize (rtp : Handle) (size : Int)
  | setRtpSocketSendBufferSize (rtp : Handle) (size : Int)
  | setSchedulingMode (rtp : Handle) (yesno : Bool)
  | setBlockingMode (rtp : Handle) (yesno : Bool)
  | enableAvpfFeatureTmmbr (rtp : Handle)
  | setProfile (rtp : Handle) (profile : Handle)
  | setPayloadType (rtp : Handle) (pt : Int)
  | setFecStream (rtp : Handle) (fec : Option Handle)
  | rtpBundleAddFecSession (bundle : Option Handle) (rtp : Option Handle) (fec : Handle)
  | fecStreamNew (rtp fec : Option Handle) (params : FecParameters) (fs : Handle)
  | fecStreamInit (fs : Handle)
  | setSrtpKeyB64 (sessions : Addr) (dir : SrtpDir) (suite : MSCryptoSuite) (key : Option Libc.CStr)
      (source : MSSrtpKeySource)
deriving Repr

/-- The objects a sessions set holds, each with its kind (the FEC session is an RTP session).
Source: `mediastream.c` lines 210–232
Kind: D -/
def MSMediaStreamSessions.resources (s : MSMediaStreamSessions) : List (Res × Handle) :=
  (s.rtpSession.map (Res.rtpSession, ·)).toList ++
    (s.srtpContext.map (Res.srtpContext, ·)).toList ++
    (s.zrtpContext.map (Res.zrtpContext, ·)).toList ++
    (s.dtlsContext.map (Res.dtlsSrtpContext, ·)).toList ++
    (s.ticker.map (Res.ticker, ·)).toList ++
    (s.fecSession.map (Res.rtpSession, ·)).toList

/-- The kinds of object a sessions set holds (`ms_media_stream_sessions_uninit` destroys them).
Source: none: infrastructure
Kind: D -/
def Res.ofSessions : Res → Bool
  | .srtpContext | .rtpSession | .zrtpContext | .dtlsSrtpContext | .ticker => true
  | _ => false

/-- Every resource the sessions list is of a kind the sessions hold.
Source: none: infrastructure
Kind: L -/
theorem MSMediaStreamSessions.ofSessions_of_mem_resources {s : MSMediaStreamSessions}
    {r : Res × Handle} (h : r ∈ s.resources) : r.1.ofSessions = true := by
  simp only [MSMediaStreamSessions.resources, List.mem_append, Option.mem_toList,
    Option.mem_def, Option.map_eq_some'] at h
  rcases h with ((((⟨_, _, rfl⟩ | ⟨_, _, rfl⟩) | ⟨_, _, rfl⟩) | ⟨_, _, rfl⟩) | ⟨_, _, rfl⟩) |
    ⟨_, _, rfl⟩ <;> rfl

/-- Change the RTP session `r` points to; `NULL` changes nothing.
Source: none: infrastructure
Kind: D -/
def World.updateRtp (w : World) (r : Option Handle) (f : RtpSession → RtpSession) : World :=
  match r with
  | some r => { w with rtp := Function.update w.rtp r (f (w.rtp r)) }
  | none => w

/-- What a call does to the observable state of the collaborators. Calls not listed change
nothing the stream code can observe.
Source: none: infrastructure
Kind: D -/
def World.perform (w : World) : Call → World
  | .msTickerNewWithParams _ h | .evDispatcherNew _ h | .evQueueNew h | .dtlsSrtpContextNew _ _ h | .rtpSessionNew h
  | .videoQualityControllerNew h | .fecStreamNew _ _ _ h => { w with next := h + 1 }
  | .registerEventQueue r q => w.updateRtp r fun s => { s with eventQueues := s.eventQueues ++ [q] }
  | .unregisterEventQueue r q => w.updateRtp (some r) fun s =>
      { s with eventQueues := match q with
                              | some q => s.eventQueues.erase q
                              | none => s.eventQueues }
  | .zrtpSetStreamSessions c a => { w with zrtpSessions := Function.update w.zrtpSessions c a }
  | .dtlsSrtpSetStreamSessions c a => { w with dtlsSessions := Function.update w.dtlsSessions c a }
  | .destroy k h => { w with destroyed := (k, h) :: w.destroyed }
  | .evQueueGet q => { w with queue := Function.update w.queue q (w.queue q).tail }
  | .setTargetUploadBandwidth r bw => w.updateRtp r fun s => { s with targetUploadBandwidth := bw }
  | .setFecStream r fs => w.updateRtp (some r) fun s => { s with fecStream := fs }
  | _ => w

/-- Perform calls in order.
Source: none: infrastructure
Kind: D -/
def World.performAll (w : World) (cs : List Call) : World := cs.foldl World.perform w

/-- Performing no call leaves the world as it is.
Source: none: infrastructure
Kind: L -/
@[simp] theorem World.performAll_nil (w : World) : w.performAll [] = w := rfl

/-- Performing calls performs the first, then the rest.
Source: none: infrastructure
Kind: L -/
@[simp] theorem World.performAll_cons (w : World) (c : Call) (cs : List Call) :
    w.performAll (c :: cs) = (w.perform c).performAll cs := rfl

/-- Performing two call lists performs the first, then the second.
Source: none: infrastructure
Kind: L -/
@[simp] theorem World.performAll_append (w : World) (cs ds : List Call) :
    w.performAll (cs ++ ds) = (w.performAll cs).performAll ds := List.foldl_append _ _ _ _

/-- The calls made for each handle an optional field holds: `if (x != NULL) f(x)`.
Source: none: infrastructure
Kind: D -/
def ifSome {α : Type} (x : Option α) (f : α → Call) : List Call :=
  match x with
  | some a => [f a]
  | none => []

/-- No call without an object.
Source: none: infrastructure
Kind: L -/
@[simp] theorem ifSome_none {α : Type} (f : α → Call) : ifSome none f = [] := rfl

/-- One call with an object.
Source: none: infrastructure
Kind: L -/
@[simp] theorem ifSome_some {α : Type} (a : α) (f : α → Call) : ifSome (some a) f = [f a] := rfl

/-! ## Which calls touch which part of the world -/

/-- The call points a ZRTP context back at some stream sessions.
Source: none: infrastructure
Kind: D -/
def Call.setsZrtp : Call → Bool
  | .zrtpSetStreamSessions _ _ => true
  | _ => false

/-- The call points a DTLS context back at some stream sessions.
Source: none: infrastructure
Kind: D -/
def Call.setsDtls : Call → Bool
  | .dtlsSrtpSetStreamSessions _ _ => true
  | _ => false

/-- The call changes an RTP session.
Source: none: infrastructure
Kind: D -/
def Call.changesRtp : Call → Bool
  | .registerEventQueue _ _ | .unregisterEventQueue _ _ | .setTargetUploadBandwidth _ _
  | .setFecStream _ _ => true
  | _ => false

/-- The object the call destroys, if it is a destructor.
Source: none: infrastructure
Kind: D -/
def Call.destroys : Call → Option (Res × Handle)
  | .destroy k h => some (k, h)
  | _ => none

/-- Updating an RTP session leaves the ZRTP bindings alone.
Source: none: infrastructure
Kind: L -/
@[simp] theorem World.updateRtp_zrtpSessions (w : World) (r : Option Handle) (f) :
    (w.updateRtp r f).zrtpSessions = w.zrtpSessions := by cases r <;> rfl
/-- Updating an RTP session leaves the DTLS bindings alone.
Source: none: infrastructure
Kind: L -/
@[simp] theorem World.updateRtp_dtlsSessions (w : World) (r : Option Handle) (f) :
    (w.updateRtp r f).dtlsSessions = w.dtlsSessions := by cases r <;> rfl
/-- Updating an RTP session destroys nothing.
Source: none: infrastructure
Kind: L -/
@[simp] theorem World.updateRtp_destroyed (w : World) (r : Option Handle) (f) :
    (w.updateRtp r f).destroyed = w.destroyed := by cases r <;> rfl

/-- `rtp_session_set_target_upload_bandwidth` on session `r`.
Source: none: infrastructure
Kind: L -/
theorem World.perform_setTargetUploadBandwidth (w : World) (r : Handle) (bw : Int) :
    (w.perform (.setTargetUploadBandwidth (some r) bw)).rtp r =
      { w.rtp r with targetUploadBandwidth := bw } :=
  Function.update_same _ _ _

/-- `ms_zrtp_set_stream_sessions` on context `c`.
Source: none: infrastructure
Kind: L -/
theorem World.perform_zrtpSetStreamSessions (w : World) (c : Handle) (a : Option Addr) :
    (w.perform (.zrtpSetStreamSessions c a)).zrtpSessions c = a :=
  Function.update_same _ _ _

/-- `ms_dtls_srtp_set_stream_sessions` on context `c`.
Source: none: infrastructure
Kind: L -/
theorem World.perform_dtlsSrtpSetStreamSessions (w : World) (c : Handle) (a : Option Addr) :
    (w.perform (.dtlsSrtpSetStreamSessions c a)).dtlsSessions c = a :=
  Function.update_same _ _ _

/-- A call that binds no ZRTP context leaves the ZRTP bindings alone.
Source: none: infrastructure
Kind: L -/
theorem World.perform_zrtpSessions (w : World) {c : Call} (h : c.setsZrtp = false) :
    (w.perform c).zrtpSessions = w.zrtpSessions := by
  cases c <;> first | rfl | exact World.updateRtp_zrtpSessions .. | cases h

/-- A call that binds no DTLS context leaves the DTLS bindings alone.
Source: none: infrastructure
Kind: L -/
theorem World.perform_dtlsSessions (w : World) {c : Call} (h : c.setsDtls = false) :
    (w.perform c).dtlsSessions = w.dtlsSessions := by
  cases c <;> first | rfl | exact World.updateRtp_dtlsSessions .. | cases h

/-- A call that changes no RTP session leaves the RTP sessions alone.
Source: none: infrastructure
Kind: L -/
theorem World.perform_rtp (w : World) {c : Call} (h : c.changesRtp = false) :
    (w.perform c).rtp = w.rtp := by
  cases c <;> first | rfl | cases h

/-- A call adds to the destroyed objects exactly what it destroys.
Source: none: infrastructure
Kind: L -/
theorem World.perform_destroyed (w : World) (c : Call) :
    (w.perform c).destroyed = c.destroys.toList ++ w.destroyed := by
  cases c <;> first | rfl | exact World.updateRtp_destroyed ..

/-- **Frame.** A part of the world that no call of a list changes is the same after the list.
Source: none: infrastructure
Kind: L -/
theorem World.performAll_frame {β : Type} (F : World → β) :
    ∀ (cs : List Call) (w : World), (∀ c ∈ cs, ∀ w : World, F (w.perform c) = F w) →
      F (w.performAll cs) = F w
  | [], _, _ => rfl
  | c :: cs, w, h => by
      rw [World.performAll_cons, World.performAll_frame F cs _ fun d hd => h d (.tail _ hd),
        h c (.head _)]

/-- Performing calls adds what they destroy, newest first.
Source: none: infrastructure
Kind: L -/
theorem World.performAll_destroyed :
    ∀ (cs : List Call) (w : World),
      (w.performAll cs).destroyed = (cs.filterMap Call.destroys).reverse ++ w.destroyed
  | [], _ => rfl
  | c :: cs, w => by
      rw [World.performAll_cons, World.performAll_destroyed cs, World.perform_destroyed,
        List.filterMap_cons]
      cases c.destroys <;> simp

/-- Calls that bind no ZRTP context leave the ZRTP bindings alone.
Source: none: infrastructure
Kind: L -/
theorem World.performAll_zrtpSessions {cs : List Call} (w : World)
    (h : ∀ c ∈ cs, c.setsZrtp = false) : (w.performAll cs).zrtpSessions = w.zrtpSessions :=
  World.performAll_frame (·.zrtpSessions) cs w fun c hc w => w.perform_zrtpSessions (h c hc)

/-- Calls that bind no DTLS context leave the DTLS bindings alone.
Source: none: infrastructure
Kind: L -/
theorem World.performAll_dtlsSessions {cs : List Call} (w : World)
    (h : ∀ c ∈ cs, c.setsDtls = false) : (w.performAll cs).dtlsSessions = w.dtlsSessions :=
  World.performAll_frame (·.dtlsSessions) cs w fun c hc w => w.perform_dtlsSessions (h c hc)

/-- Calls that change no RTP session leave the RTP sessions alone.
Source: none: infrastructure
Kind: L -/
theorem World.performAll_rtp {cs : List Call} (w : World)
    (h : ∀ c ∈ cs, c.changesRtp = false) : (w.performAll cs).rtp = w.rtp :=
  World.performAll_frame (·.rtp) cs w fun c hc w => w.perform_rtp (h c hc)

/-- Calls that destroy nothing leave the destroyed objects alone.
Source: none: infrastructure
Kind: L -/
theorem World.performAll_destroyed_of {cs : List Call} (w : World)
    (h : ∀ c ∈ cs, c.destroys = none) : (w.performAll cs).destroyed = w.destroyed :=
  World.performAll_frame (·.destroyed) cs w fun c hc w => by
    simp only [World.perform_destroyed, h c hc, Option.toList_none, List.nil_append]

/-- The call made with an object is the only one.
Source: none: infrastructure
Kind: L -/
@[simp] theorem mem_ifSome {α : Type} {x : Option α} {f : α → Call} {c : Call} :
    c ∈ ifSome x f ↔ ∃ a, x = some a ∧ f a = c := by
  cases x <;> simp [ifSome, eq_comm]

/-- What holds of the call made with an object.
Source: none: infrastructure
Kind: L -/
@[simp] theorem forall_mem_ifSome {α : Type} {x : Option α} {f : α → Call} {P : Call → Prop} :
    (∀ c ∈ ifSome x f, P c) ↔ ∀ a, x = some a → P (f a) := by
  cases x <;> simp [ifSome]

end MediaStreamer.Stream
