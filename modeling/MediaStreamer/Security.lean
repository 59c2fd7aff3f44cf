import MediaStreamer.Lifecycle
import MediaStreamer.Events

/-!
# Key-exchange mechanisms over a stream's runs

A stream's sessions can carry three key-exchange mechanisms: a ZRTP context, a DTLS-SRTP context
and SRTP keys installed by SDES. `media_stream_init` adopts whatever contexts the sessions hold.
`media_stream_enable_dtls` creates a DTLS context when the sessions have none; it does not look at
the ZRTP context. `media_stream_enable_srtp` asks the SRTP layer to install SDES keys and has no
guard of its own. `media_stream_set_ice_check_list`, the tick and `media_stream_reclaim_sessions`
leave the contexts alone.

The SRTP key installers (`ms_media_stream_sessions_set_srtp_{recv,send}_key_b64`) are outside
this file's code: the model records each request and takes the status it returned as an input;
what they do with a key is not modelled. `media_stream_configure_stun_packet_sending` dereferences
the RTP session, so the operations that call it are partial: `none` stands for a `NULL` RTP
session.

* `mediaStreamEnableDtls_sessions` — enabling DTLS sets the DTLS context to a fresh one exactly
  when there was none, whatever the ZRTP context holds.
* `secStep_contexts`, `secRun_contexts` — over every run of the operations, the ZRTP context
  never changes, a DTLS context once held is kept, and a DTLS context appears only through
  `media_stream_enable_dtls`.
* `secRun_atMostOne` — these three run facts, and hence a run keeps at most one of the two
  contexts when it starts so and never enables DTLS on a stream that holds a ZRTP context.
* `enable_dtls_beside_zrtp` — the proviso is needed: a stream initialised with a ZRTP context,
  then asked to enable DTLS, holds both.
* `mediaStreamPrintSummary_no_ice` — `media_stream_print_summary` forgets the ICE check list, so
  no later tick makes an ICE call.
-/

namespace MediaStreamer.Security

open Stream CryptoSuite Libc Lifecycle Events

/-! ## The operations -/

/-- `MSDtlsSrtpParams`: of its fields the stream code reads only the MTU (`0`: the factory's).
Source: `media_stream_enable_dtls`
Kind: D -/
structure MSDtlsSrtpParams where
  /-- `mtu`. -/
  mtu : Nat
deriving DecidableEq, Repr

/-- `media_stream_configure_stun_packet_sending`: tell the RTP sender whether to send dummy STUN
packets to open firewalls, and, when DTLS is in use, whether to force them. `none`: the RTP
session is `NULL`, which the function dereferences.
Source: `mediastream.c` lines 304–323
Kind: D -/
def mediaStreamConfigureStunPacketSending (w : World) (stream : MediaStream) :
    Option (List Call) :=
  match stream.sessions.rtpSession with
  | none => none
  | some r =>
      let stunEnabled := stream.stunAllowed && stream.iceCheckList.isNone &&
        !((w.rtp r).bundle.isSome && !(w.rtp r).isPrimary)
      some (match stream.rtpsend with
        | some f =>
            .filterCallMethod f (.rtpSendEnableStun stunEnabled) ::
              if stream.sessions.dtlsContext.isSome then
                [.filterCallMethod f (.rtpSendEnableStunForced stunEnabled)]
              else []
        | none => [])

/-- `media_stream_enable_dtls(stream, params)`: when the sessions have no DTLS context, create one
(fresh handle) bound to `&stream->sessions`, with the factory's MTU if `params` gives none.
Source: `mediastream.c` lines 325–334
Kind: D -/
def mediaStreamEnableDtls (w : World) (stream : MediaStream) (params : MSDtlsSrtpParams) :
    Option (MediaStream × List Call) :=
  match stream.sessions.dtlsContext with
  | some _ => some (stream, [])
  | none =>
      let mtu := if params.mtu = 0 then stream.factory.mtu else params.mtu
      let stream' := { stream with sessions := { stream.sessions with dtlsContext := some w.next } }
      (mediaStreamConfigureStunPacketSending w stream').map fun cs =>
        (stream', .dtlsSrtpContextNew stream.addr mtu w.next :: cs)

/-- `media_stream_set_ice_check_list(stream, cl)`.
Source: `mediastream.c` lines 336–342
Kind: D -/
def mediaStreamSetIceCheckList (w : World) (stream : MediaStream) (cl : Option Handle) :
    Option (MediaStream × List Call) :=
  let stream' := { stream with iceCheckList := cl }
  (mediaStreamConfigureStunPacketSending w stream').map fun cs =>
    (stream', ifSome cl (fun c => .iceCheckListSetRtpSession c stream.sessions.rtpSession) ++ cs)

/-- `media_stream_enable_srtp(stream, suite, snd_key, rcv_key)`: install the receive key, then,
only if that succeeded, the send key, both as SDES keys. `recvRet` and `sendRet` are what the two
installers return.
Source: `mediastream.c` lines 350–354
Kind: D -/
def mediaStreamEnableSrtp (stream : MediaStream) (suite : MSCryptoSuite)
    (sndKey rcvKey : Option CStr) (recvRet sendRet : Int) : Bool × List Call :=
  if recvRet = 0 then
    (decide (sendRet = 0),
      [.setSrtpKeyB64 stream.addr .recv suite rcvKey .sdes,
        .setSrtpKeyB64 stream.addr .send suite sndKey .sdes])
  else (false, [.setSrtpKeyB64 stream.addr .recv suite rcvKey .sdes])

/-- `media_stream_enable_dtls` changes only the DTLS context, and only when there was none: it
takes a fresh handle, whatever the ZRTP context holds.
Source: `mediastream.c` lines 325–334
Kind: L -/
theorem mediaStreamEnableDtls_sessions {w : World} {stream stream' : MediaStream}
    {params : MSDtlsSrtpParams} {cs : List Call}
    (h : mediaStreamEnableDtls w stream params = some (stream', cs)) :
    stream'.sessions = match stream.sessions.dtlsContext with
      | some _ => stream.sessions
      | none => { stream.sessions with dtlsContext := some w.next } := by
  unfold mediaStreamEnableDtls at h
  split at h
  · cases h; simp only [*]
  · obtain ⟨_, -, he⟩ := Option.map_eq_some'.mp h
    cases he; simp only [*]

/-- `media_stream_set_ice_check_list` changes the stream record only in its check list.
Source: `mediastream.c` lines 336–342
Kind: L -/
theorem mediaStreamSetIceCheckList_fst {w : World} {stream : MediaStream} {cl : Option Handle}
    {r : MediaStream × List Call} (h : mediaStreamSetIceCheckList w stream cl = some r) :
    r.1 = { stream with iceCheckList := cl } := by
  obtain ⟨_, -, rfl⟩ := Option.map_eq_some'.mp h
  rfl

/-! ## Runs -/

/-- The operations a stream's owner may apply after `media_stream_init`.
Source: `mediastream.c` lines 325–354, 430–476, 556–559
Kind: D -/
inductive SecOp where
  /-- `media_stream_enable_dtls`. -/
  | enableDtls (params : MSDtlsSrtpParams)
  /-- `media_stream_enable_srtp`, with the statuses its two installers return. -/
  | enableSrtp (suite : MSCryptoSuite) (sndKey rcvKey : Option CStr) (recvRet sendRet : Int)
  /-- `media_stream_set_ice_check_list`. -/
  | setIceCheckList (cl : Option Handle)
  /-- `media_stream_iterate` at time `curtime`. -/
  | iterate (curtime : Int)
  /-- `media_stream_reclaim_sessions`. -/
  | reclaim

/-- One operation; `none` where the operation dereferences a `NULL` RTP session.
Source: `mediastream.c` lines 325–354, 430–476, 556–559
Kind: D -/
def secStep (s : StreamState) : SecOp → Option StreamState
  | .enableDtls p =>
      (mediaStreamEnableDtls s.world s.stream p).map fun r => ⟨r.1, s.world.performAll r.2⟩
  | .enableSrtp suite snd rcv recvRet sendRet =>
      some ⟨s.stream,
        s.world.performAll (mediaStreamEnableSrtp s.stream suite snd rcv recvRet sendRet).2⟩
  | .setIceCheckList cl =>
      (mediaStreamSetIceCheckList s.world s.stream cl).map fun r => ⟨r.1, s.world.performAll r.2⟩
  | .iterate t =>
      some ⟨(mediaStreamIterate s.world s.stream t).1,
        s.world.performAll (mediaStreamIterate s.world s.stream t).2⟩
  | .reclaim => some ⟨(mediaStreamReclaimSessions s.stream).1, s.world⟩

/-- A run of operations, stopping at the first that fails.
Source: none: infrastructure
Kind: D -/
def secRun (s : StreamState) (ops : List SecOp) : Option StreamState := ops.foldlM secStep s

/-- The sessions hold at most one of a ZRTP and a DTLS context.
Source: none: infrastructure
Kind: D -/
def AtMostOneContext (sessions : MSMediaStreamSessions) : Prop :=
  ¬(sessions.zrtpContext.isSome ∧ sessions.dtlsContext.isSome)

/-- Whether the sessions hold at most one context is decidable.
Source: none: infrastructure
Kind: D -/
instance (sessions : MSMediaStreamSessions) : Decidable (AtMostOneContext sessions) :=
  inferInstanceAs (Decidable ¬_)

/-- A tick leaves the sessions alone.
Source: `mediastream.c` lines 430–476
Kind: L -/
theorem mediaStreamIterate_sessions (w : World) (stream : MediaStream) (t : Int) :
    (mediaStreamIterate w stream t).1.sessions = stream.sessions := by
  rw [mediaStreamIterate_fst, iterateStarted_fst]
  split <;> rfl

/-- **Step.** No operation changes the ZRTP context; only `media_stream_enable_dtls` changes the
DTLS context, and only from `NULL`.
Source: `mediastream.c` lines 325–354, 430–476, 556–559
Kind: L -/
theorem secStep_contexts {s s' : StreamState} {op : SecOp} (h : secStep s op = some s') :
    s'.stream.sessions.zrtpContext = s.stream.sessions.zrtpContext ∧
      (s'.stream.sessions.dtlsContext = s.stream.sessions.dtlsContext ∨
        s.stream.sessions.dtlsContext = none ∧ ∃ p, op = .enableDtls p) := by
  cases op with
  | enableDtls p =>
      obtain ⟨⟨stream', cs⟩, hr, rfl⟩ := Option.map_eq_some'.mp h
      rw [mediaStreamEnableDtls_sessions hr]
      rcases hd : s.stream.sessions.dtlsContext with _ | d
      · exact ⟨rfl, .inr ⟨rfl, p, rfl⟩⟩
      · exact ⟨rfl, .inl hd⟩
  | setIceCheckList cl =>
      obtain ⟨r, hr, rfl⟩ := Option.map_eq_some'.mp h
      rw [mediaStreamSetIceCheckList_fst hr]
      exact ⟨rfl, .inl rfl⟩
  | iterate t =>
      cases h
      simp only [mediaStreamIterate_sessions, true_or, and_self]
  | enableSrtp => cases h; exact ⟨rfl, .inl rfl⟩
  | reclaim => cases h; exact ⟨rfl, .inl rfl⟩

/-- **Run.** Over every run, the ZRTP context never changes, a DTLS context once held is kept,
and a DTLS context appears only through `media_stream_enable_dtls`.
Source: `mediastream.c` lines 325–354, 430–476, 556–559
Kind: L -/
theorem secRun_contexts :
    ∀ (s : StreamState) (ops : List SecOp) {s' : StreamState}, secRun s ops = some s' →
      s'.stream.sessions.zrtpContext = s.stream.sessions.zrtpContext ∧
        (s.stream.sessions.dtlsContext.isSome →
          s'.stream.sessions.dtlsContext = s.stream.sessions.dtlsContext) ∧
        (s'.stream.sessions.dtlsContext ≠ s.stream.sessions.dtlsContext →
          ∃ p, .enableDtls p ∈ ops)
  | s, [], s', h => by cases h; exact ⟨rfl, fun _ => rfl, fun hne => absurd rfl hne⟩
  | s, op :: ops, s', h => by
      obtain ⟨s₁, h₁, hrun⟩ := Option.bind_eq_some.mp h
      obtain ⟨hz₁, hd₁⟩ := secStep_contexts h₁
      obtain ⟨hz, hkeep, hnew⟩ := secRun_contexts s₁ ops hrun
      refine ⟨hz.trans hz₁, fun hs => ?_, fun hne => ?_⟩
      · rcases hd₁ with hd₁ | ⟨hn, -⟩
        · exact (hkeep (hd₁ ▸ hs)).trans hd₁
        · simp [hn] at hs
      · rcases hd₁ with hd₁ | ⟨-, p, rfl⟩
        · obtain ⟨p, hp⟩ := hnew (hd₁ ▸ hne)
          exact ⟨p, .tail _ hp⟩
        · exact ⟨p, .head _⟩

/-- **At most one context.** Over every run, the ZRTP context never changes, a DTLS context once
held is kept, and a DTLS context appears only through `media_stream_enable_dtls`; hence a run that
starts with at most one of a ZRTP and a DTLS context keeps at most one, provided it never enables
DTLS on a stream holding a ZRTP context.
Source: `mediastream.c` lines 325–354, 430–476, 556–559
Kind: C -/
theorem secRun_atMostOne (s : StreamState) (ops : List SecOp) {s' : StreamState}
    (hrun : secRun s ops = some s') :
    s'.stream.sessions.zrtpContext = s.stream.sessions.zrtpContext ∧
      (s.stream.sessions.dtlsContext.isSome →
        s'.stream.sessions.dtlsContext = s.stream.sessions.dtlsContext) ∧
      (s'.stream.sessions.dtlsContext ≠ s.stream.sessions.dtlsContext →
        ∃ p, .enableDtls p ∈ ops) ∧
      (AtMostOneContext s.stream.sessions →
        (s.stream.sessions.zrtpContext = none ∨ ∀ p, .enableDtls p ∉ ops) →
        AtMostOneContext s'.stream.sessions) := by
  obtain ⟨hz, hkeep, hnew⟩ := secRun_contexts s ops hrun
  refine ⟨hz, hkeep, hnew, fun hs hdtls => ?_⟩
  rcases hdtls with hn | hno
  · simp [AtMostOneContext, hz, hn]
  · have hd : s'.stream.sessions.dtlsContext = s.stream.sessions.dtlsContext :=
      not_not.mp fun hne => let ⟨p, hp⟩ := hnew hne; hno p hp
    simpa [AtMostOneContext, hz, hd] using hs

/-- A stream initialised with a ZRTP context, then given an ICE check list, ticked and
reclaimed.
Source: `mediastream.c` lines 112–136, 325–354, 430–476, 556–559
Kind: N+ -/
theorem secRun_atMostOne_zrtp_only :
    let sessions : MSMediaStreamSessions :=
      { MSMediaStreamSessions.empty with rtpSession := some 7, zrtpContext := some 5 }
    let init := mediaStreamInit World.empty (MediaStream.new0 1 .audio) ⟨1400, 1⟩ sessions
    let s : StreamState := ⟨init.1, World.empty.performAll init.2⟩
    let ops := [SecOp.setIceCheckList (some 3), .iterate 10, .reclaim]
    ∃ s', secRun s ops = some s' ∧ AtMostOneContext s'.stream.sessions := by
  intro sessions init s ops
  exact ⟨_, rfl, (secRun_atMostOne s ops rfl).2.2.2 (by decide) (.inr (by simp [ops]))⟩

/-! ## Enabling DTLS beside ZRTP -/

/-- A stream initialised with sessions that hold a ZRTP context (`5`) and no DTLS context, then
asked to enable DTLS: the DTLS context is created (handle `2`) and the ZRTP context is kept, so
`media_stream_enable_dtls` does not leave the DTLS context `NULL` beside a ZRTP context.
Source: `mediastream.c` lines 112–129, 325–334
Kind: N− -/
theorem enable_dtls_beside_zrtp :
    let sessions : MSMediaStreamSessions :=
      { MSMediaStreamSessions.empty with rtpSession := some 7, zrtpContext := some 5 }
    let init := mediaStreamInit World.empty (MediaStream.new0 1 .audio) ⟨1400, 1⟩ sessions
    let s : StreamState := ⟨init.1, World.empty.performAll init.2⟩
    (secStep s (.enableDtls ⟨0⟩)).map
        (fun s' => (s'.stream.sessions.zrtpContext, s'.stream.sessions.dtlsContext)) =
      some (some 5, some 2) :=
  rfl

/-! ## The summary forgets the ICE check list -/

/-- The call is made on the ICE check list.
Source: none: infrastructure
Kind: D -/
def isIceCall : Call → Bool
  | .iceCheckListSetRtpSession .. | .iceCheckListProcess .. | .iceHandleStunPacket .. => true
  | _ => false

/-- `media_stream_print_summary(ms)`: logs the SSRCs, the ICE route, the RTP and FEC statistics,
and sets `ice_check_list` to `NULL`. `none`: the RTP session is `NULL`, which it dereferences.
Source: `mediastream.c` lines 912–928
Kind: D -/
def mediaStreamPrintSummary (ms : MediaStream) : Option MediaStream :=
  ms.sessions.rtpSession.map fun _ => { ms with iceCheckList := none }

/-- Ticks of the stream, each at its time against the world as it then is (whatever the queue
holds): the stream reached and every call made, in order.
Source: `mediastream.c` lines 430–476
Kind: D -/
def tickRun (stream : MediaStream) : List (World × Int) → MediaStream × List Call
  | [] => (stream, [])
  | (w, t) :: ts =>
      ((tickRun (mediaStreamIterate w stream t).1 ts).1,
        (mediaStreamIterate w stream t).2 ++ (tickRun (mediaStreamIterate w stream t).1 ts).2)

section ice

variable {stream : MediaStream} (t : Int)

/-- A tick leaves the ICE check list alone.
Source: `mediastream.c` lines 430–476
Kind: L -/
theorem mediaStreamIterate_iceCheckList (w : World) (stream : MediaStream) :
    (mediaStreamIterate w stream t).1.iceCheckList = stream.iceCheckList := by
  rw [mediaStreamIterate_fst, iterateStarted_fst]
  split <;> rfl

/-- Processing an RTCP packet makes no ICE call.
Source: `mediastream.c` lines 411–413
Kind: L -/
theorem processRtcpPacket_not_ice (stream : MediaStream) (p : Option RtcpBlock) :
    ∀ c ∈ processRtcpPacket stream p, isIceCall c = false := by
  unfold processRtcpPacket
  cases stream.rcEnable <;> cases stream.rc <;> cases stream.qi <;> simp [isIceCall]

/-- Without an ICE check list, handling an event makes no ICE call.
Source: `mediastream.c` lines 457–472
Kind: L -/
theorem handleEvent_not_ice (hcl : stream.iceCheckList = none) (ev : OrtpEvent) :
    ∀ c ∈ (handleEvent stream t ev).2, isIceCall c = false := by
  cases ev with
  | rtcpPacketReceived m =>
      simp only [handleEvent, mediaStreamProcessRtcp, List.forall_mem_append,
        List.forall_mem_flatMap, List.forall_mem_singleton]
      exact ⟨fun p _ => processRtcpPacket_not_ice stream p, rfl⟩
  | stunPacketReceived => simp [handleEvent, hcl, isIceCall]
  | _ => simp [handleEvent, isIceCall]

/-- Without an ICE check list, the drain makes no ICE call.
Source: `mediastream.c` lines 455–474
Kind: L -/
theorem drainEvents_not_ice (q : Handle) :
    ∀ {stream : MediaStream} (evs : List OrtpEvent), stream.iceCheckList = none →
      ∀ c ∈ (drainEvents q t stream evs).2, isIceCall c = false
  | _, [], _ => by simp [drainEvents, isIceCall]
  | stream, ev :: evs, hcl => by
      have hcl' : (handleEvent stream t ev).1.iceCheckList = none := by
        rw [handleEvent_fst]; split <;> exact hcl
      simp only [drainEvents, List.mem_cons, List.mem_append]
      rintro c ((rfl | hc) | hc)
      · rfl
      · exact handleEvent_not_ice t hcl ev c hc
      · exact drainEvents_not_ice q evs hcl' c hc

/-- Without an ICE check list, a tick makes no ICE call.
Source: `mediastream.c` lines 430–476
Kind: L -/
theorem mediaStreamIterate_not_ice (w : World) (hcl : stream.iceCheckList = none) :
    ∀ c ∈ (mediaStreamIterate w stream t).2, isIceCall c = false := by
  have hpre : ∀ c ∈ (iterateStarted stream t).2, isIceCall c = false := by
    unfold iterateStarted
    split
    · simp only [List.forall_mem_append]
      constructor <;> split <;> simp [isIceCall]
    · simp
  have hdrain : ∀ c ∈ (drainQueue w t
      { (iterateStarted stream t).1 with lastIterateTime := t }).2, isIceCall c = false := by
    unfold drainQueue
    split
    · exact drainEvents_not_ice t _ _ (by rw [iterateStarted_fst]; split <;> exact hcl)
    · simp
  simp only [mediaStreamIterate, hcl, ifSome_none, List.nil_append, List.forall_mem_append,
    forall_mem_ifSome]
  exact ⟨⟨⟨hpre, fun _ _ => rfl⟩, fun _ _ => rfl⟩, hdrain⟩

end ice

/-- Ticks keep a stream without an ICE check list from every ICE call.
Source: `mediastream.c` lines 430–476
Kind: L -/
theorem tickRun_not_ice :
    ∀ (stream : MediaStream) (ts : List (World × Int)), stream.iceCheckList = none →
      ∀ c ∈ (tickRun stream ts).2, isIceCall c = false
  | _, [], _ => by simp [tickRun]
  | stream, (w, t) :: ts, hcl => by
      simp only [tickRun, List.mem_append]
      rintro c (hc | hc)
      · exact mediaStreamIterate_not_ice t w hcl c hc
      · exact tickRun_not_ice _ ts ((mediaStreamIterate_iceCheckList t w stream).trans hcl) c hc

/-- **Printing the summary detaches ICE for good.** After `media_stream_print_summary`, however
many ticks follow and whatever their queues hold, the stream neither runs
`ice_check_list_process` nor hands a STUN packet to `ice_handle_stun_packet`: the check list is
forgotten though the caller may still hold it.
Source: `mediastream.c` lines 430–476, 912–928
Kind: C -/
theorem mediaStreamPrintSummary_no_ice {ms ms' : MediaStream}
    (h : mediaStreamPrintSummary ms = some ms') (ts : List (World × Int)) :
    ∀ c ∈ (tickRun ms' ts).2, isIceCall c = false := by
  obtain ⟨_, -, rfl⟩ := Option.map_eq_some'.mp h
  exact tickRun_not_ice _ ts rfl

/-- A stream with ICE check list `3`: once the summary is printed, a tick whose queue holds a
STUN packet releases it without handing it to ICE.
Source: `mediastream.c` lines 430–476, 912–928
Kind: N+ -/
theorem mediaStreamPrintSummary_no_ice_stun :
    let ms : MediaStream := { MediaStream.new0 1 .audio with
      sessions := { MSMediaStreamSessions.empty with rtpSession := some 7 }
      iceCheckList := some 3
      evq := some 1 }
    let w : World := { World.empty with queue := fun _ => [.stunPacketReceived] }
    mediaStreamPrintSummary ms = some { ms with iceCheckList := none } ∧
      ∀ c ∈ (tickRun { ms with iceCheckList := none } [(w, 10)]).2, isIceCall c = false := by
  intro ms w
  exact ⟨rfl, @mediaStreamPrintSummary_no_ice ms _ rfl _⟩

end MediaStreamer.Security
