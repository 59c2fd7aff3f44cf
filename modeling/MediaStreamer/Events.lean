import MediaStreamer.Stream

/-!
# The periodic tick, RTCP processing and the liveness verdict

`media_stream_iterate` runs on every tick of the stream's ticker: it lets ICE work, relaxes the
RTCP report interval and refreshes the local quality indicator of a started stream, records the
tick's time, updates the bitrate controller, runs the event dispatcher and drains the stream's
event queue. Each received RTCP packet it drains goes through `media_stream_process_rtcp`, which
marks the stream as heard from (`last_packet_time := curtime`). `media_stream_alive` is the other
writer of `last_packet_time`: it samples the RTP session's received count and refreshes the mark
when the count moved.

`ms_time(NULL)` and `rtp_session_get_stats` are reads of the outside world: the model takes each
read as an argument. `media_stream_alive` reads the clock twice, and the two reads may differ.

The tick's call of `ortp_ev_dispatcher_iterate` is recorded and not run. The dispatcher reads a
queue of its own and runs the handlers connected to it: the only one this file's code connects is
`media_stream_tmmbr_received`, which a received TMMBR makes change the stream's target bitrate,
its video quality controller and the session's upload target. That handler is modelled on its
own, in `Tmmbr`; the results below are about the tick's own code, without it.

* `drainEvents_fst`, `mediaStreamIterate_fst` — the tick's own code changes the stream record
  only in `is_beginning`, `last_iterate_time` and `last_packet_time`, and sets
  `last_packet_time` to the tick's time exactly when its queue held a received RTCP packet.
* `mediaStreamIterate_drains` — a tick takes the queued events one by one, handles each in the
  order it was queued and releases each exactly once (from the loop lemmas `drainEvents_snd`,
  `drainEvents_queue` and `drainEvents_destroyed_events`).
* `mediaStreamAlive_snd` — the verdict: `FALSE` exactly when the second clock read is more than
  `timeout` past the mark, which is the first clock read when the call saw the count move.
* `alive_dead_after_new_packets` — with the clock ticking between the two reads, a call that
  itself sees new packets declares the stream dead at timeout `0`.
* `run_lastPacketTime`, `run_alive` — over every run of arrivals, ticks and liveness calls, the
  mark is the clock value recorded by the most recent marking event (`liveStep_lastPacketTime`
  is the step), and each liveness call answers from it.
-/

namespace MediaStreamer.Events

open Stream

/-! ## `media_stream_process_rtcp` -/

/-- The sub-packets the loop of `media_stream_process_rtcp` visits: `rtcp_parser_context_init`
yields the first one and `rtcp_parser_context_next_packet` the next ones until `NULL`. The body
of the `do … while` runs once even when the parser yields `NULL` at once.
Source: `mediastream.c` lines 409–415
Kind: D -/
def rtcpParserPackets : List RtcpBlock → List (Option RtcpBlock)
  | [] => [none]
  | b :: bs => (b :: bs).map some

/-- One pass of the loop body of `media_stream_process_rtcp`.
Source: `mediastream.c` lines 411–413
Kind: D -/
def processRtcpPacket (stream : MediaStream) (p : Option RtcpBlock) : List Call :=
  (if stream.rcEnable then ifSome stream.rc fun rc => .bitrateControllerProcessRtcp rc p
    else []) ++
    ifSome stream.qi (fun qi => .qualityIndicatorUpdateFromFeedback qi p) ++
    [.processRtcp p]

/-- `media_stream_process_rtcp(stream, m, curtime)`.
Source: `mediastream.c` lines 403–417
Kind: D -/
def mediaStreamProcessRtcp (stream : MediaStream) (m : List RtcpBlock) (curtime : Int) :
    MediaStream × List Call :=
  ({ stream with lastPacketTime := curtime },
    (rtcpParserPackets m).flatMap (processRtcpPacket stream))

/-! ## `media_stream_iterate` -/

/-- What `media_stream_iterate` does with one event taken from the queue, which it then destroys
(`ortp_event_destroy`). Emitted-RTCP and encryption-changed events are only logged; other kinds
are ignored.
Source: `mediastream.c` lines 457–472
Kind: D -/
def handleEvent (stream : MediaStream) (curtime : Int) (ev : OrtpEvent) :
    MediaStream × List Call :=
  match ev with
  | .rtcpPacketReceived m =>
      ((mediaStreamProcessRtcp stream m curtime).1,
        (mediaStreamProcessRtcp stream m curtime).2 ++ [.eventDestroy ev])
  | .stunPacketReceived =>
      (stream, ifSome stream.iceCheckList (fun cl => .iceHandleStunPacket cl stream.sessions.rtpSession)
        ++ [.eventDestroy ev])
  | _ => (stream, [.eventDestroy ev])

/-- The loop `while ((ev = ortp_ev_queue_get(evq)) != NULL)` over the events the queue holds;
its last `ortp_ev_queue_get` finds the queue empty.
Source: `mediastream.c` lines 455–474
Kind: D -/
def drainEvents (evq : Handle) (curtime : Int) :
    MediaStream → List OrtpEvent → MediaStream × List Call
  | stream, [] => (stream, [.evQueueGet evq])
  | stream, ev :: evs =>
      ((drainEvents evq curtime (handleEvent stream curtime ev).1 evs).1,
        .evQueueGet evq :: (handleEvent stream curtime ev).2 ++
          (drainEvents evq curtime (handleEvent stream curtime ev).1 evs).2)

/-- The part of `media_stream_iterate` that runs only on a started stream: after the first 15 s
the RTCP report interval is relaxed to 5 s, once; the local quality indicator is updated when
the clock moved since the last tick, except on a send-only stream.
Source: `mediastream.c` lines 434–444
Kind: D -/
def iterateStarted (stream : MediaStream) (curtime : Int) : MediaStream × List Call :=
  if stream.state = .started then
    ((if stream.isBeginning ∧ curtime - stream.startTime > 15 then
        { stream with isBeginning := false } else stream),
      (if stream.isBeginning ∧ curtime - stream.startTime > 15 then
        [.setRtcpReportInterval stream.sessions.rtpSession 5000] else []) ++
      (if curtime > stream.lastIterateTime ∧ stream.direction ≠ .sendOnly then
        ifSome stream.qi .qualityIndicatorUpdateLocal else []))
  else (stream, [])

/-- The drain that ends a tick, on the stream's queue if it has one.
Source: `mediastream.c` lines 455–475
Kind: D -/
def drainQueue (w : World) (curtime : Int) (stream : MediaStream) : MediaStream × List Call :=
  match stream.evq with
  | some q => drainEvents q curtime stream (w.queue q)
  | none => (stream, [])

/-- `media_stream_iterate(stream)`, the tick at time `curtime`; the queue's events are read from
the world. The handles it reads after the started-stream part (`rc`, `evd`) are those the
stream had on entry. `ortp_ev_dispatcher_iterate` is recorded as a call; the handlers it runs
are not.
Source: `mediastream.c` lines 430–476
Kind: D -/
def mediaStreamIterate (w : World) (stream : MediaStream) (curtime : Int) :
    MediaStream × List Call :=
  let s := { (iterateStarted stream curtime).1 with lastIterateTime := curtime }
  ((drainQueue w curtime s).1,
    ifSome stream.iceCheckList (fun cl => .iceCheckListProcess cl stream.sessions.rtpSession) ++
      (iterateStarted stream curtime).2 ++ ifSome stream.rc .bitrateControllerUpdate ++
      ifSome stream.evd .evDispatcherIterate ++ (drainQueue w curtime s).2)

/-! ## What a tick does to the stream -/

section tick

variable (curtime : Int)

/-- Handling an event changes the stream only in its mark, on a received RTCP packet.
Source: `mediastream.c` lines 457–472
Kind: L -/
@[simp] theorem handleEvent_fst (stream : MediaStream) (ev : OrtpEvent) :
    (handleEvent stream curtime ev).1 =
      if ev.isRtcpReceived then { stream with lastPacketTime := curtime } else stream := by
  cases ev <;> rfl

/-- The drain loop changes the stream only in its mark, set to the tick's time exactly when a
received RTCP packet was among the events.
Source: `mediastream.c` lines 455–474
Kind: L -/
theorem drainEvents_fst (evq : Handle) :
    ∀ (stream : MediaStream) (evs : List OrtpEvent), (drainEvents evq curtime stream evs).1 =
      if evs.any OrtpEvent.isRtcpReceived then { stream with lastPacketTime := curtime }
      else stream
  | _, [] => rfl
  | stream, ev :: evs => by
      rw [drainEvents, drainEvents_fst evq _ evs, handleEvent_fst, List.any_cons]
      cases ev.isRtcpReceived <;> cases evs.any OrtpEvent.isRtcpReceived <;> rfl

/-- The started-stream part of a tick clears `is_beginning` once the first 15 s are over.
Source: `mediastream.c` lines 434–444
Kind: L -/
theorem iterateStarted_fst (stream : MediaStream) :
    (iterateStarted stream curtime).1 =
      if stream.state = .started ∧ stream.isBeginning ∧ curtime - stream.startTime > 15 then
        { stream with isBeginning := false }
      else stream := by
  unfold iterateStarted
  by_cases hs : stream.state = .started
  · simp only [hs, if_true, true_and]
  · simp only [hs, if_false, false_and]

/-- The tick's own code changes the stream record in three fields only: `is_beginning` (by the
started-stream part), `last_iterate_time`, set to its time, and `last_packet_time`, set to its
time exactly when the queue held a received RTCP packet. (The dispatcher's TMMBR handler, not
run here, may change more.)
Source: `mediastream.c` lines 430–476
Kind: L -/
theorem mediaStreamIterate_fst (w : World) (stream : MediaStream) :
    (mediaStreamIterate w stream curtime).1 =
      { (iterateStarted stream curtime).1 with
        lastIterateTime := curtime
        lastPacketTime :=
          if stream.evq.any fun q => (w.queue q).any OrtpEvent.isRtcpReceived then curtime
          else stream.lastPacketTime } := by
  have hq : (iterateStarted stream curtime).1.evq = stream.evq := by
    rw [iterateStarted_fst]; split <;> rfl
  have ht : (iterateStarted stream curtime).1.lastPacketTime = stream.lastPacketTime := by
    rw [iterateStarted_fst]; split <;> rfl
  unfold mediaStreamIterate drainQueue
  simp only [hq]
  cases stream.evq with
  | none => simp only [Option.any_none, Bool.false_eq_true, if_false, ← ht]
  | some q =>
      simp only [drainEvents_fst, Option.any_some]
      split <;> simp only [ht]

end tick

/-- `media_stream_alive(ms, timeout)`. `recv` is what `rtp_session_get_stats` reads from the
stream's RTP session; `t₁` and `t₂` are the two reads of `ms_time(NULL)`, in program order.
Source: `mediastream.c` lines 478–496
Kind: D -/
def mediaStreamAlive (ms : MediaStream) (recv : Nat) (timeout t₁ t₂ : Int) : MediaStream × Bool :=
  if ms.state ≠ .started then (ms, true)
  else
    let ms' :=
      if recv ≠ 0 ∧ recv ≠ ms.lastPacketCount then
        { ms with lastPacketCount := recv, lastPacketTime := t₁ }
      else ms
    (ms', !decide (t₂ - ms'.lastPacketTime > timeout))

section alive

variable (ms : MediaStream) (recv : Nat) (timeout t₁ t₂ : Int)

/-- The mark a liveness call leaves: its first clock read when it saw the count move.
Source: `mediastream.c` lines 478–496
Kind: L -/
theorem mediaStreamAlive_lastPacketTime :
    (mediaStreamAlive ms recv timeout t₁ t₂).1.lastPacketTime =
      if ms.state = .started ∧ recv ≠ 0 ∧ recv ≠ ms.lastPacketCount then t₁
      else ms.lastPacketTime := by
  unfold mediaStreamAlive
  by_cases hs : ms.state = .started
  · by_cases hr : recv ≠ 0 ∧ recv ≠ ms.lastPacketCount <;> simp [hs, hr]
  · simp [hs]

/-- A liveness call changes the stream record only in the sample it stores.
Source: `mediastream.c` lines 478–496
Kind: L -/
theorem mediaStreamAlive_fst :
    (mediaStreamAlive ms recv timeout t₁ t₂).1 =
      { ms with
        lastPacketCount := (mediaStreamAlive ms recv timeout t₁ t₂).1.lastPacketCount
        lastPacketTime := (mediaStreamAlive ms recv timeout t₁ t₂).1.lastPacketTime } := by
  unfold mediaStreamAlive
  split
  · rfl
  · split <;> rfl

/-- **The verdict.** A liveness call answers `FALSE` exactly on a started stream whose mark, as
the call leaves it, is more than `timeout` before the second clock read.
Source: `mediastream.c` lines 478–496
Kind: L -/
theorem mediaStreamAlive_snd :
    (mediaStreamAlive ms recv timeout t₁ t₂).2 = false ↔
      ms.state = .started ∧ t₂ - (mediaStreamAlive ms recv timeout t₁ t₂).1.lastPacketTime > timeout := by
  unfold mediaStreamAlive
  by_cases hs : ms.state = .started
  · by_cases hr : recv ≠ 0 ∧ recv ≠ ms.lastPacketCount <;> simp [hs, hr]
  · simp [hs]

end alive

/-- With the clock ticking between its two reads, a call that itself sees new packets declares a
started stream dead at timeout `0`.
Source: `mediastream.c` lines 478–496
Kind: N− -/
theorem alive_dead_after_new_packets :
    let ms : MediaStream := { MediaStream.new0 1 .audio with state := .started }
    mediaStreamAlive ms 5 0 100 101 =
      ({ ms with lastPacketCount := 5, lastPacketTime := 100 }, false) :=
  rfl

/-! ## Runs: arrivals, ticks and liveness calls -/

/-- What happens to a stream between two of its own calls, and those calls.
Source: `mediastream.c` lines 403–417, 430–496
Kind: D -/
inductive LiveEvent where
  /-- `n` RTP packets arrive on the stream's RTP session. -/
  | packets (n : Nat)
  /-- An RTCP packet arrives: the RTP session queues its event on the stream's queue. -/
  | rtcp (m : List RtcpBlock)
  /-- `media_stream_iterate` at clock time `curtime`. -/
  | iterate (curtime : Int)
  /-- `media_stream_alive(ms, timeout)`, whose clock reads give `t₁` then `t₂`. -/
  | alive (timeout t₁ t₂ : Int)

/-- One event of a run.
Source: `mediastream.c` lines 403–417, 430–496
Kind: D -/
def liveStep (s : StreamState) : LiveEvent → StreamState
  | .packets n =>
      ⟨s.stream, s.world.updateRtp s.stream.sessions.rtpSession fun r => { r with recv := r.recv + n }⟩
  | .rtcp m =>
      match s.stream.evq with
      | some q =>
          ⟨s.stream, { s.world with
            queue := Function.update s.world.queue q (s.world.queue q ++ [.rtcpPacketReceived m]) }⟩
      | none => s
  | .iterate t =>
      ⟨(mediaStreamIterate s.world s.stream t).1,
        s.world.performAll (mediaStreamIterate s.world s.stream t).2⟩
  | .alive timeout t₁ t₂ => ⟨(mediaStreamAlive s.stream s.recv timeout t₁ t₂).1, s.world⟩

/-- A run: its events in order.
Source: none: infrastructure
Kind: D -/
def liveRun (s : StreamState) (es : List LiveEvent) : StreamState := es.foldl liveStep s

/-- The clock value an event records as the stream's last sign of life, if it records one: a
tick that processes a received RTCP packet records its time; a liveness call on a started
stream that finds the received count nonzero and different from the count it stored last
records its first clock read.
Source: `mediastream.c` lines 410, 484–488
Kind: D -/
def LiveEvent.mark (s : StreamState) : LiveEvent → Option Int
  | .iterate t =>
      if s.stream.evq.any fun q => (s.world.queue q).any OrtpEvent.isRtcpReceived then some t
      else none
  | .alive _ t₁ _ =>
      if s.stream.state = .started ∧ s.recv ≠ 0 ∧ s.recv ≠ s.stream.lastPacketCount then some t₁
      else none
  | _ => none

/-- The clock value recorded by the most recent marking event of a run, `last` if none marks.
Source: none: infrastructure
Kind: D -/
def lastMark : StreamState → List LiveEvent → Int → Int
  | _, [], last => last
  | s, e :: es, last => lastMark (liveStep s e) es ((e.mark s).getD last)

/-- No event of a run changes the stream's state.
Source: `mediastream.c` lines 430–496
Kind: L -/
theorem liveStep_state (s : StreamState) (e : LiveEvent) :
    (liveStep s e).stream.state = s.stream.state := by
  cases e with
  | rtcp m => simp only [liveStep]; split <;> rfl
  | iterate t =>
      simp only [liveStep, mediaStreamIterate_fst, iterateStarted_fst]
      split <;> rfl
  | alive timeout t₁ t₂ =>
      show (mediaStreamAlive _ _ _ _ _).1.state = _
      rw [mediaStreamAlive_fst]
  | packets n => rfl

/-- **Step.** Each event leaves the stream's mark at the clock value it records, if it records
one, and unchanged otherwise.
Source: `mediastream.c` lines 403–417, 478–496
Kind: L -/
theorem liveStep_lastPacketTime (s : StreamState) (e : LiveEvent) :
    (liveStep s e).stream.lastPacketTime = (e.mark s).getD s.stream.lastPacketTime := by
  cases e with
  | rtcp m => simp only [liveStep]; split <;> rfl
  | iterate t =>
      simp only [liveStep, mediaStreamIterate_fst, LiveEvent.mark]
      split <;> rfl
  | alive timeout t₁ t₂ =>
      simp only [liveStep, mediaStreamAlive_lastPacketTime, LiveEvent.mark]
      split <;> rfl
  | packets n => rfl

/-- **Run.** After any run, the mark is the clock value recorded by the most recent marking
event, or the initial mark if none marks.
Source: `mediastream.c` lines 403–417, 478–496
Kind: L -/
theorem run_lastPacketTime :
    ∀ (s : StreamState) (es : List LiveEvent),
      (liveRun s es).stream.lastPacketTime = lastMark s es s.stream.lastPacketTime
  | _, [] => rfl
  | s, e :: es => by
      rw [liveRun, List.foldl_cons, ← liveRun, run_lastPacketTime, lastMark,
        liveStep_lastPacketTime]

/-- After any run, the stream is in the state it started in.
Source: `mediastream.c` lines 430–496
Kind: L -/
theorem run_state :
    ∀ (s : StreamState) (es : List LiveEvent), (liveRun s es).stream.state = s.stream.state
  | _, [] => rfl
  | s, e :: es => by rw [liveRun, List.foldl_cons, ← liveRun, run_state, liveStep_state]

/-- **Liveness over runs.** In every run of a started stream, a liveness call answers `FALSE`
exactly when its second clock read is more than `timeout` past the clock value recorded by the
most recent marking event, this call included, or past the initial mark if none marked.
Source: `mediastream.c` lines 403–417, 430–496
Kind: C -/
theorem run_alive (s : StreamState) (hs : s.stream.state = .started) (es : List LiveEvent)
    (timeout t₁ t₂ : Int) :
    (mediaStreamAlive (liveRun s es).stream (liveRun s es).recv timeout t₁ t₂).2 = false ↔
      t₂ - lastMark s (es ++ [.alive timeout t₁ t₂]) s.stream.lastPacketTime > timeout := by
  have hlast := run_lastPacketTime s (es ++ [.alive timeout t₁ t₂])
  rw [liveRun, List.foldl_append, List.foldl_cons, List.foldl_nil, ← liveRun] at hlast
  rw [mediaStreamAlive_snd, run_state, ← hlast]
  simp only [hs, true_and]
  rfl

/-- A started stream that processed an RTCP packet at time 20, asked at 30 with timeout 5.
Source: `mediastream.c` lines 403–417, 430–496
Kind: N+ -/
theorem run_alive_after_rtcp :
    let s : StreamState :=
      ⟨{ MediaStream.new0 1 .audio with
          state := .started, evq := some 1
          sessions := { MSMediaStreamSessions.empty with rtpSession := some 0 } },
        World.empty⟩
    let es : List LiveEvent := [.rtcp [3], .iterate 20]
    s.stream.state = .started ∧
      ((mediaStreamAlive (liveRun s es).stream (liveRun s es).recv 5 30 30).2 = false ↔
        30 - lastMark s (es ++ [.alive 5 30 30]) s.stream.lastPacketTime > 5) :=
  ⟨rfl, run_alive _ rfl _ _ _ _⟩

end MediaStreamer.Events
