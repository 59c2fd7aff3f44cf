import MediaStreamer.Stream

/-!
# Initialisation, teardown and the reclaiming of sessions

`media_stream_init` adopts a sessions set: it creates the stream's event dispatcher and queue,
registers the queue on the RTP session and points the ZRTP and DTLS contexts back at
`&stream->sessions`. `media_stream_free` undoes this and, when `owns_sessions` is set, destroys
the sessions' objects. `media_stream_reclaim_sessions` hands the sessions over: it copies the
handles out and clears `owns_sessions`, so that teardown does not destroy them.

* `mediaStreamInit_binds` — initialisation points the adopted contexts at the new stream.
* `mediaStreamFree_eq_unbind_append` — teardown unbinds the stream from its sessions, then only
  destroys objects, of the sessions' kinds only when it owns them. From it,
  `mediaStreamFree_zrtpSessions`, `mediaStreamFree_dtlsSessions`, `mediaStreamFree_rtp` and
  `mediaStreamFree_destroyed` say what teardown does to each part of the world.
* `mediaStreamFree_reclaimed` — what teardown does to the objects handed over by a reclaim: it
  destroys none of them; on the RTP session it only unregisters the stream's own queue; and it
  resets the back-pointer of the ZRTP and DTLS contexts to `NULL`, whatever it pointed at.
  After the order "free the old stream, then initialise the new one" the contexts point at the
  new stream.
* `free_after_init_unbinds_contexts` — the other order: a new stream initialised first is left
  with contexts that point nowhere.
-/

namespace MediaStreamer.Lifecycle

open Stream

/-- `ms_media_stream_sessions_uninit`: destroy each object the sessions hold and clear its
handle. The FEC session is not among them.
Source: `mediastream.c` lines 210–232
Kind: D -/
def msMediaStreamSessionsUninit (sessions : MSMediaStreamSessions) :
    MSMediaStreamSessions × List Call :=
  ({ sessions with
      srtpContext := none, rtpSession := none, zrtpContext := none, dtlsContext := none,
      ticker := none },
    ifSome sessions.srtpContext (.destroy .srtpContext) ++
      ifSome sessions.rtpSession (.destroy .rtpSession) ++
      ifSome sessions.zrtpContext (.destroy .zrtpContext) ++
      ifSome sessions.dtlsContext (.destroy .dtlsSrtpContext) ++
      ifSome sessions.ticker (.destroy .ticker))

/-- `media_stream_init`: adopt `sessions`, create the dispatcher and the queue (fresh handles),
register the queue, point the security contexts back at `&stream->sessions`, and connect the
TMMBR handler (`media_stream_add_tmmbr_handler`).
Source: `mediastream.c` lines 112–136
Kind: D -/
def mediaStreamInit (w : World) (stream : MediaStream) (factory : MSFactory)
    (sessions : MSMediaStreamSessions) : MediaStream × List Call :=
  let evd := w.next
  let evq := w.next + 1
  ({ stream with
      sessions := sessions, evd := some evd, evq := some evq, factory := factory,
      stunAllowed := true },
    [.evDispatcherNew sessions.rtpSession evd, .evQueueNew evq,
        .registerEventQueue sessions.rtpSession evq] ++
      ifSome sessions.zrtpContext (fun z => .zrtpSetStreamSessions z (some stream.addr)) ++
      ifSome sessions.dtlsContext (fun d => .dtlsSrtpSetStreamSessions d (some stream.addr)) ++
      [.evDispatcherConnect (some evd)])

/-- `media_stream_free`, with `VIDEO_ENABLED`: the calls it makes. The stream record itself is
released by the caller.
Source: `mediastream.c` lines 234–259
Kind: D -/
def mediaStreamFree (stream : MediaStream) : List Call :=
  [.evDispatcherDisconnect stream.evd] ++
    ifSome stream.sessions.zrtpContext (fun z => .zrtpSetStreamSessions z none) ++
    ifSome stream.sessions.dtlsContext (fun d => .dtlsSrtpSetStreamSessions d none) ++
    ifSome stream.sessions.rtpSession (fun r => .unregisterEventQueue r stream.evq) ++
    ifSome stream.evq (.destroy .evQueue) ++
    ifSome stream.evd (.destroy .evDispatcher) ++
    (if stream.ownsSessions then (msMediaStreamSessionsUninit stream.sessions).2 else []) ++
    ifSome stream.rc (.destroy .bitrateController) ++
    ifSome stream.rtpsend (.destroy .filter) ++
    ifSome stream.rtprecv (.destroy .filter) ++
    ifSome stream.encoder (.destroy .filter) ++
    ifSome stream.decoder (.destroy .filter) ++
    ifSome stream.voidsink (.destroy .filter) ++
    ifSome stream.qi (.destroy .qualityIndicator) ++
    ifSome stream.videoQualityController (.destroy .videoQualityController)

/-- `media_stream_reclaim_sessions`: copy the sessions out and stop owning them.
Source: `mediastream.c` lines 556–559
Kind: D -/
def mediaStreamReclaimSessions (stream : MediaStream) : MediaStream × MSMediaStreamSessions :=
  ({ stream with ownsSessions := false }, stream.sessions)

/-- `media_stream_started`.
Source: `mediastream.c` lines 265–267
Kind: D -/
def mediaStreamStarted (stream : MediaStream) : Bool := stream.startTime != 0

/-! ## What initialisation binds -/

/-- `media_stream_init` points the ZRTP and DTLS contexts of the adopted sessions at the new
stream, whatever they pointed at before.
Source: `mediastream.c` lines 112–136
Kind: L -/
theorem mediaStreamInit_binds (w : World) (stream : MediaStream) (factory : MSFactory)
    (s : MSMediaStreamSessions) :
    let w' := w.performAll (mediaStreamInit w stream factory s).2
    (∀ z ∈ s.zrtpContext, w'.zrtpSessions z = some stream.addr) ∧
      (∀ d ∈ s.dtlsContext, w'.dtlsSessions d = some stream.addr) := by
  constructor
  · intro z hz
    simp only [mediaStreamInit, World.performAll_append, Option.mem_def.mp hz, ifSome_some]
    rw [World.performAll_zrtpSessions _ (by simp [Call.setsZrtp]),
      World.performAll_zrtpSessions _ (by simp [Call.setsZrtp]),
      World.performAll_cons, World.performAll_nil, World.perform_zrtpSetStreamSessions]
  · intro d hd
    simp only [mediaStreamInit, World.performAll_append, Option.mem_def.mp hd, ifSome_some]
    rw [World.performAll_dtlsSessions _ (by simp [Call.setsDtls]), World.performAll_cons,
      World.performAll_nil, World.perform_dtlsSrtpSetStreamSessions]

/-! ## What teardown does -/

/-- A segment `if (x != NULL) destroy(x)` of teardown destroys an object of kind `k`, which is
not of the sessions' kinds unless the stream owns them.
Source: none: infrastructure
Kind: L -/
theorem forall_mem_ifSome_destroy {x : Option Handle} {k : Res} {b : Bool}
    (h : k.ofSessions = false ∨ b = true) :
    ∀ c ∈ ifSome x (.destroy k), ∃ k' a, c = .destroy k' a ∧ (k'.ofSessions = false ∨ b = true) := by
  simp only [forall_mem_ifSome]
  exact fun a _ => ⟨k, a, rfl, h⟩

/-- `media_stream_free` first unbinds the stream from its sessions (the dispatcher, the security
contexts' back-pointers, the queue registered on the RTP session); everything after that only
destroys objects, of the sessions' kinds only when the stream owns its sessions.
Source: `mediastream.c` lines 234–259
Kind: L -/
theorem mediaStreamFree_eq_unbind_append (stream : MediaStream) :
    ∃ rest, mediaStreamFree stream =
        [.evDispatcherDisconnect stream.evd] ++
          ifSome stream.sessions.zrtpContext (fun z => .zrtpSetStreamSessions z none) ++
          ifSome stream.sessions.dtlsContext (fun d => .dtlsSrtpSetStreamSessions d none) ++
          ifSome stream.sessions.rtpSession (fun r => .unregisterEventQueue r stream.evq) ++
          rest ∧
      ∀ c ∈ rest, ∃ k a, c = .destroy k a ∧ (k.ofSessions = false ∨ stream.ownsSessions = true) := by
  refine ⟨?_, by simp only [mediaStreamFree, List.append_assoc]; exact rfl, ?_⟩
  simp only [List.forall_mem_append]
  have uninit : ∀ c ∈ if stream.ownsSessions then (msMediaStreamSessionsUninit stream.sessions).2
      else [], ∃ k a, c = .destroy k a ∧ (k.ofSessions = false ∨ stream.ownsSessions = true) := by
    by_cases ho : stream.ownsSessions
    · rw [if_pos ho]
      simp only [msMediaStreamSessionsUninit, List.forall_mem_append]
      exact ⟨⟨⟨⟨forall_mem_ifSome_destroy (.inr ho), forall_mem_ifSome_destroy (.inr ho)⟩,
        forall_mem_ifSome_destroy (.inr ho)⟩, forall_mem_ifSome_destroy (.inr ho)⟩,
        forall_mem_ifSome_destroy (.inr ho)⟩
    · simp [ho]
  exact ⟨forall_mem_ifSome_destroy (.inl rfl), forall_mem_ifSome_destroy (.inl rfl), uninit,
    forall_mem_ifSome_destroy (.inl rfl), forall_mem_ifSome_destroy (.inl rfl),
    forall_mem_ifSome_destroy (.inl rfl), forall_mem_ifSome_destroy (.inl rfl),
    forall_mem_ifSome_destroy (.inl rfl), forall_mem_ifSome_destroy (.inl rfl),
    forall_mem_ifSome_destroy (.inl rfl), forall_mem_ifSome_destroy (.inl rfl)⟩

/-! ## The three unbinding steps of teardown -/

/-- Resetting the back-pointer of an optional ZRTP context.
Source: none: infrastructure
Kind: L -/
theorem performAll_zrtpReset (w : World) (x : Option Handle) (z : Handle) :
    (w.performAll (ifSome x fun z => .zrtpSetStreamSessions z none)).zrtpSessions z =
      if x = some z then none else w.zrtpSessions z := by
  cases x with
  | none => rfl
  | some a =>
      show Function.update w.zrtpSessions a none z = _
      simp only [Function.update_apply, Option.some.injEq, eq_comm]

/-- Resetting the back-pointer of an optional DTLS context.
Source: none: infrastructure
Kind: L -/
theorem performAll_dtlsReset (w : World) (x : Option Handle) (d : Handle) :
    (w.performAll (ifSome x fun d => .dtlsSrtpSetStreamSessions d none)).dtlsSessions d =
      if x = some d then none else w.dtlsSessions d := by
  cases x with
  | none => rfl
  | some a =>
      show Function.update w.dtlsSessions a none d = _
      simp only [Function.update_apply, Option.some.injEq, eq_comm]

/-- Unregistering the queue `q` (`NULL` erases nothing) from an optional RTP session.
Source: none: infrastructure
Kind: L -/
theorem performAll_unregister (w : World) (x q : Option Handle) (h : Handle) :
    (w.performAll (ifSome x fun r => .unregisterEventQueue r q)).rtp h =
      if x = some h then
        { w.rtp h with eventQueues := q.elim (w.rtp h).eventQueues (w.rtp h).eventQueues.erase }
      else w.rtp h := by
  cases x with
  | none => rfl
  | some r =>
      show Function.update w.rtp r _ h = _
      by_cases hr : r = h
      · subst hr
        rw [Function.update_same, if_pos rfl]
        cases q <;> rfl
      · rw [Function.update_noteq (Ne.symm hr), if_neg (by simpa using hr)]

/-! ## What teardown does to the world -/

section free

variable (stream : MediaStream) (w : World)

/-- Teardown resets the back-pointer of the stream's ZRTP context, whatever it pointed at.
Source: `mediastream.c` lines 234–259
Kind: L -/
theorem mediaStreamFree_zrtpSessions (z : Handle) :
    (w.performAll (mediaStreamFree stream)).zrtpSessions z =
      if stream.sessions.zrtpContext = some z then none else w.zrtpSessions z := by
  obtain ⟨rest, hfree, hrest⟩ := mediaStreamFree_eq_unbind_append stream
  rw [hfree, World.performAll_append,
    World.performAll_zrtpSessions _ fun c hc => by obtain ⟨k, a, rfl, -⟩ := hrest c hc; rfl,
    World.performAll_append, World.performAll_zrtpSessions _ (by
      simp only [forall_mem_ifSome, Call.setsZrtp, implies_true]),
    World.performAll_append, World.performAll_zrtpSessions _ (by
      simp only [forall_mem_ifSome, Call.setsZrtp, implies_true]),
    World.performAll_append, performAll_zrtpReset]
  rfl

/-- Teardown resets the back-pointer of the stream's DTLS context, whatever it pointed at.
Source: `mediastream.c` lines 234–259
Kind: L -/
theorem mediaStreamFree_dtlsSessions (d : Handle) :
    (w.performAll (mediaStreamFree stream)).dtlsSessions d =
      if stream.sessions.dtlsContext = some d then none else w.dtlsSessions d := by
  obtain ⟨rest, hfree, hrest⟩ := mediaStreamFree_eq_unbind_append stream
  rw [hfree, World.performAll_append,
    World.performAll_dtlsSessions _ fun c hc => by obtain ⟨k, a, rfl, -⟩ := hrest c hc; rfl,
    World.performAll_append, World.performAll_dtlsSessions _ (by
      simp only [forall_mem_ifSome, Call.setsDtls, implies_true]),
    World.performAll_append, performAll_dtlsReset, World.performAll_dtlsSessions _ (by
      simp only [List.forall_mem_append, List.forall_mem_singleton, forall_mem_ifSome,
        Call.setsDtls, implies_true, and_self])]

/-- On the RTP sessions, teardown only unregisters the stream's queue from its own session.
Source: `mediastream.c` lines 234–259
Kind: L -/
theorem mediaStreamFree_rtp (h : Handle) :
    (w.performAll (mediaStreamFree stream)).rtp h =
      if stream.sessions.rtpSession = some h then
        { w.rtp h with
          eventQueues := stream.evq.elim (w.rtp h).eventQueues (w.rtp h).eventQueues.erase }
      else w.rtp h := by
  obtain ⟨rest, hfree, hrest⟩ := mediaStreamFree_eq_unbind_append stream
  rw [hfree, World.performAll_append,
    World.performAll_rtp _ fun c hc => by obtain ⟨k, a, rfl, -⟩ := hrest c hc; rfl,
    World.performAll_append, performAll_unregister, World.performAll_rtp _ (by
      simp only [List.forall_mem_append, List.forall_mem_singleton, forall_mem_ifSome,
        Call.changesRtp, implies_true, and_self])]

/-- Teardown of a stream that does not own its sessions destroys no object of the sessions'
kinds.
Source: `mediastream.c` lines 234–259
Kind: L -/
theorem mediaStreamFree_destroyed (ho : stream.ownsSessions = false) {r : Res × Handle}
    (hr : r.1.ofSessions = true) :
    r ∈ (w.performAll (mediaStreamFree stream)).destroyed ↔ r ∈ w.destroyed := by
  obtain ⟨rest, hfree, hrest⟩ := mediaStreamFree_eq_unbind_append stream
  rw [hfree, World.performAll_append, World.performAll_destroyed,
    World.performAll_destroyed_of _ (by
      simp only [List.forall_mem_append, List.forall_mem_singleton, forall_mem_ifSome,
        Call.destroys, implies_true, and_self])]
  simp only [List.mem_append, List.mem_reverse, List.mem_filterMap, or_iff_right_iff_imp]
  rintro ⟨c, hc, hcr⟩
  obtain ⟨k, a, rfl, hk⟩ := hrest c hc
  cases hcr
  rw [ho] at hk
  simp_all

end free

/-! ## Handing sessions over -/

/-- **Teardown after a reclaim.** Freeing a stream whose sessions were reclaimed destroys none of
the handed-over objects and, on the RTP sessions, only unregisters the stream's own queue from
its session. It does reset the ZRTP and DTLS back-pointers to `NULL`, whatever they pointed at:
they point at a new owner `B` when `B` is initialised after the teardown.
Source: `mediastream.c` lines 112–136, 234–259, 556–559
Kind: C -/
theorem mediaStreamFree_reclaimed (A B : MediaStream) (factory : MSFactory) (w : World) :
    let s := (mediaStreamReclaimSessions A).2
    let w' := w.performAll (mediaStreamFree (mediaStreamReclaimSessions A).1)
    (∀ r ∈ s.resources, r ∈ w'.destroyed ↔ r ∈ w.destroyed) ∧
    (∀ h, w'.rtp h = if s.rtpSession = some h then
        { w.rtp h with eventQueues := A.evq.elim (w.rtp h).eventQueues (w.rtp h).eventQueues.erase }
      else w.rtp h) ∧
    (∀ z, w'.zrtpSessions z = if s.zrtpContext = some z then none else w.zrtpSessions z) ∧
    (∀ d, w'.dtlsSessions d = if s.dtlsContext = some d then none else w.dtlsSessions d) ∧
    let w'' := w'.performAll (mediaStreamInit w' B factory s).2
    (∀ z ∈ s.zrtpContext, w''.zrtpSessions z = some B.addr) ∧
      (∀ d ∈ s.dtlsContext, w''.dtlsSessions d = some B.addr) :=
  ⟨fun _ hr => mediaStreamFree_destroyed _ w rfl
      (MSMediaStreamSessions.ofSessions_of_mem_resources hr),
    mediaStreamFree_rtp _ w, mediaStreamFree_zrtpSessions _ w, mediaStreamFree_dtlsSessions _ w,
    mediaStreamInit_binds _ B factory _⟩

/-- The other order: a new owner `B` initialised before the old stream is freed has its ZRTP
context pointed at it, then reset to `NULL` by the teardown.
Source: `mediastream.c` lines 112–136, 234–259
Kind: N− -/
theorem free_after_init_unbinds_contexts :
    let A : MediaStream :=
      { MediaStream.new0 1 .audio with
        sessions := { MSMediaStreamSessions.empty with zrtpContext := some 7 } }
    let B := MediaStream.new0 2 .audio
    let s := (mediaStreamReclaimSessions A).2
    let w₁ := World.empty.performAll (mediaStreamInit World.empty B ⟨1500, 1⟩ s).2
    let w₂ := w₁.performAll (mediaStreamFree (mediaStreamReclaimSessions A).1)
    w₁.zrtpSessions 7 = some B.addr ∧ w₂.zrtpSessions 7 = none :=
  ⟨rfl, rfl⟩

end MediaStreamer.Lifecycle
