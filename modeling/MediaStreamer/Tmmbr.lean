import MediaStreamer.Stream

/-!
# TMMBR handling: the bitrate limit a receiver asks for

A TMMBR (Temporary Maximum Media Bit Rate) request carries a 64-bit bitrate ceiling.
`media_stream_process_tmmbr` corrects it for the audio bandwidth estimator's duplicates, clamps
it to `INT_MAX`, and hands it to `update_bitrate_limit_from_tmmbr`, which caps it to
`max_target_bitrate` and applies it unless it is already the session's upload target: to a
non-video encoder directly, to the stream's target bitrate and to the session's target upload
bandwidth. A video stream then reconfigures its encoder (the "custom" preset) or feeds its video
quality controller, created on first use.

The encoder's replies and `ms_video_find_best_configuration_for_size_and_bitrate` are outside
this file's code: they are inputs of the model, and every result holds whatever they are. The
handler is partial: `none` stands for a `NULL` RTP session, which it dereferences, and for a zero
duplicate rate on an audio stream whose estimator is on, by which it divides.

* `mediaStreamProcessTmmbr_limit` — for every stream with an RTP session and an encoder, a
  duplicate rate of at least 1 where the estimator applies, and every 64-bit value: the applied
  limit `L` lies in `[0, INT_MAX]`; when it is already the session's
  upload target nothing happens; otherwise the stream's target bitrate and the session's upload
  target become `L`, whatever the encoder answers; every bitrate pushed to the encoder or to the
  video quality controller is at most `L`; and the same request handled again changes nothing.
-/

namespace MediaStreamer.Tmmbr

open Stream

/-! ## The model -/

/-- `INT_MAX` of a 32-bit `int`.
Source: `mediastream.c` lines 852–856
Kind: D -/
def intMax : Int := 2147483647

/-- What the encoder answers to the methods the TMMBR handler calls on it.
Source: `media_stream_process_tmmbr`, `update_bitrate_limit_from_tmmbr`
Kind: D -/
structure EncoderReplies where
  /-- The status of `MS_FILTER_SET_BITRATE`, read only to log a warning. -/
  setBitrateStatus : Int
  /-- `MS_VIDEO_ENCODER_GET_CONFIGURATION_LIST`: the encoder's ladder, `NULL` if it has none. -/
  configurationList : Option (List MSVideoConfiguration)
  /-- `MS_VIDEO_ENCODER_GET_CONFIGURATION`: the current configuration. -/
  configuration : MSVideoConfiguration
  /-- The status of `MS_VIDEO_ENCODER_SET_CONFIGURATION`, read only to log a warning. -/
  setConfigurationStatus : Int

/-- `ms_video_find_best_configuration_for_size_and_bitrate(list, vsize, cpu_count, bitrate)`.
Source: `mediastream.c` lines 866–884
Kind: D -/
abbrev FindBestConfiguration :=
  List MSVideoConfiguration → MSVideoSize → Nat → Int → MSVideoConfiguration

/-- The TMMBR value, reduced by `value / duplicate_rate` on an audio stream whose bandwidth
estimator is enabled and present (`uint64_t` arithmetic; the rate is converted to `uint64_t`).
`none`: the rate is `0`, and C divides by zero.
Source: `mediastream.c` lines 846–851
Kind: D -/
def correctedTmmbr (ms : MediaStream) (rtp : RtpSession) (v : UInt64) : Option UInt64 :=
  if ms.type = .audio ∧ rtp.audioBandwidthEstimatorEnabled ∧ rtp.audioBwEstimator then
    if rtp.duplicateRate.toUInt64 = 0 then none else some (v - v / rtp.duplicateRate.toUInt64)
  else some v

/-- `br_int`: the value as an `int`, `INT_MAX` when it does not fit below.
Source: `mediastream.c` lines 852–856
Kind: D -/
def brInt (v : UInt64) : Int :=
  if v < 2147483647 then (v.toNat : Int) else intMax

/-- The cap `update_bitrate_limit_from_tmmbr` applies: `max_target_bitrate`, when it is set and
exceeded.
Source: `mediastream.c` lines 819–823
Kind: D -/
def capToMaxTarget (obj : MediaStream) (brLimit : Int) : Int :=
  if obj.maxTargetBitrate > 0 ∧ brLimit > obj.maxTargetBitrate then obj.maxTargetBitrate
  else brLimit

/-- `update_bitrate_limit_from_tmmbr(obj, br_limit)`: the stream, the calls and the limit applied,
`-1` when none is.
Source: `mediastream.c` lines 812–839
Kind: D -/
def updateBitrateLimitFromTmmbr (w : World) (obj : MediaStream) (brLimit : Int) :
    Option (MediaStream × List Call × Int) :=
  match obj.sessions.rtpSession with
  | none => none
  | some r =>
      match obj.encoder with
      | none => some (obj, [], -1)
      | some enc =>
          let br := capToMaxTarget obj brLimit
          if (w.rtp r).targetUploadBandwidth = br then some (obj, [], -1)
          else
            some ({ obj with targetBitrate := br },
              (if obj.type ≠ .video then [.filterCallMethod enc (.setBitrate br)] else []) ++
                [.setTargetUploadBandwidth (some r) br],
              br)

/-- The video part of `media_stream_process_tmmbr`, once the limit `br` is applied: with the
"custom" preset, reconfigure the encoder for at most `br`; otherwise feed `br` to the video
quality controller, created on first use.
Source: `mediastream.c` lines 861–895
Kind: D -/
def videoTmmbr (w : World) (ms : MediaStream) (br : Int) (replies : EncoderReplies)
    (findBest : FindBestConfiguration) (enc : Handle) : MediaStream × List Call :=
  if ms.videoPreset = some "custom" then
    match replies.configurationList with
    | some list =>
        let current := replies.configuration
        let vconf := findBest list current.vsize ms.factory.cpuCount br
        let newBitrateLimit := if br < vconf.bitrateLimit then br else vconf.bitrateLimit
        (ms, [.filterCallMethod enc .getConfigurationList, .filterCallMethod enc .getConfiguration,
          .filterCallMethod enc (.setConfiguration { current with requiredBitrate := newBitrateLimit })])
    | none => (ms, [.filterCallMethod enc .getConfigurationList])
  else
    match ms.videoQualityController with
    | some vqc => (ms, [.videoQualityControllerUpdateFromTmmbr vqc br])
    | none =>
        ({ ms with videoQualityController := some w.next },
          [.videoQualityControllerNew w.next, .videoQualityControllerUpdateFromTmmbr w.next br])

/-- `media_stream_process_tmmbr(ms, tmmbr_mxtbr)`, with `VIDEO_ENABLED`.
Source: `mediastream.c` lines 841–897
Kind: D -/
def mediaStreamProcessTmmbr (w : World) (ms : MediaStream) (tmmbrMxtbr : UInt64)
    (replies : EncoderReplies) (findBest : FindBestConfiguration) :
    Option (MediaStream × List Call) :=
  match ms.sessions.rtpSession with
  | none => none
  | some r =>
      (correctedTmmbr ms (w.rtp r) tmmbrMxtbr).bind fun v =>
      (updateBitrateLimitFromTmmbr w ms (brInt v)).map
        fun (ms₁, cs₁, br) =>
          if br = -1 then (ms₁, cs₁)
          else
            match ms.type, ms.encoder with
            | .video, some enc =>
                ((videoTmmbr w ms₁ br replies findBest enc).1,
                  cs₁ ++ (videoTmmbr w ms₁ br replies findBest enc).2)
            | _, _ => (ms₁, cs₁)

/-- An RTCP transport-layer feedback packet (`RTPFB`), as `rtcp_RTPFB_get_type` and
`rtcp_RTPFB_tmmbr_get_max_bitrate` read it.
Source: `mediastream.c` lines 899–910
Kind: D -/
inductive RtpfbPacket where
  /-- A TMMBR request with its maximum bitrate. -/
  | tmmbr (maxBitrate : UInt64)
  /-- Any other kind of transport-layer feedback. -/
  | other
deriving DecidableEq, Repr

/-- `media_stream_tmmbr_received`, the handler the event dispatcher runs on each RTPFB packet.
Source: `mediastream.c` lines 899–910
Kind: D -/
def mediaStreamTmmbrReceived (w : World) (ms : MediaStream) (packet : RtpfbPacket)
    (replies : EncoderReplies) (findBest : FindBestConfiguration) :
    Option (MediaStream × List Call) :=
  match packet with
  | .tmmbr v => mediaStreamProcessTmmbr w ms v replies findBest
  | .other => some (ms, [])

/-- The bitrate a call pushes to the encoder or to the video quality controller, if it pushes
one.
Source: none: infrastructure
Kind: D -/
def pushedBitrate : Call → Option Int
  | .filterCallMethod _ (.setBitrate b) => some b
  | .filterCallMethod _ (.setConfiguration conf) => some conf.requiredBitrate
  | .videoQualityControllerUpdateFromTmmbr _ b => some b
  | _ => none

/-! ## The applied limit -/

/-- `br_int` is the value clamped to `INT_MAX`.
Source: `mediastream.c` lines 852–856
Kind: L -/
theorem brInt_eq (v : UInt64) : brInt v = min (v.toNat : Int) intMax := by
  unfold brInt intMax
  by_cases hv : v.toNat < 2147483647
  · rw [if_pos (show v < 2147483647 from hv)]; omega
  · rw [if_neg (show ¬v < 2147483647 from hv)]; omega

/-- The cap keeps a limit non-negative.
Source: `mediastream.c` lines 819–823
Kind: L -/
theorem capToMaxTarget_nonneg (obj : MediaStream) {b : Int} (h : 0 ≤ b) :
    0 ≤ capToMaxTarget obj b := by
  unfold capToMaxTarget; split <;> omega

/-- The corrected value in natural numbers: `v - v / d` when the estimator applies, where the
rate `d` must be at least `1` for C not to divide by zero; `v` otherwise.
Source: `mediastream.c` lines 846–851
Kind: L -/
theorem correctedTmmbr_eq (ms : MediaStream) (rtp : RtpSession) (v : UInt64)
    (hd : rtp.duplicateRate < 2 ^ 64)
    (hpos : ms.type = .audio ∧ rtp.audioBandwidthEstimatorEnabled ∧ rtp.audioBwEstimator →
      1 ≤ rtp.duplicateRate) :
    ∃ v', correctedTmmbr ms rtp v = some v' ∧ v'.toNat =
      if ms.type = .audio ∧ rtp.audioBandwidthEstimatorEnabled ∧ rtp.audioBwEstimator then
        v.toNat - v.toNat / rtp.duplicateRate
      else v.toNat := by
  unfold correctedTmmbr
  split
  · rename_i hest
    have hrate : rtp.duplicateRate.toUInt64.toNat = rtp.duplicateRate := UInt64.toNat_ofNat_of_lt hd
    have hne : rtp.duplicateRate.toUInt64 ≠ 0 := fun h => by
      have h0 : rtp.duplicateRate = 0 := by rw [← hrate, h]; rfl
      have := hpos hest
      omega
    have hdiv : (v / rtp.duplicateRate.toUInt64).toNat = v.toNat / rtp.duplicateRate := by
      rw [UInt64.toNat_div, hrate]
    refine ⟨_, if_neg hne, ?_⟩
    rw [UInt64.toNat_sub_of_le _ _ (show (v / _).toNat ≤ v.toNat from
      hdiv ▸ Nat.div_le_self _ _), hdiv]
  · exact ⟨v, rfl, rfl⟩

/-! ## What one request does -/

section request

variable (w : World) (ms : MediaStream) (v : UInt64) (replies : EncoderReplies)
  (findBest : FindBestConfiguration)

/-- The video part pushes no bitrate above the limit.
Source: `mediastream.c` lines 861–895
Kind: L -/
theorem videoTmmbr_pushed (br : Int) (enc : Handle) :
    ∀ c ∈ (videoTmmbr w ms br replies findBest enc).2, ∀ b ∈ pushedBitrate c, b ≤ br := by
  unfold videoTmmbr
  split
  · split
    · simp only [List.mem_cons, List.mem_singleton, List.not_mem_nil, or_false]
      rintro c (rfl | rfl | rfl) b hb
      · cases hb
      · cases hb
      · cases hb; dsimp only; split <;> omega
    · simp [pushedBitrate]
  · split <;> simp [pushedBitrate]

/-- The video part changes no RTP session, and of the stream only its video quality
controller.
Source: `mediastream.c` lines 861–895
Kind: L -/
theorem videoTmmbr_frame (br : Int) (enc : Handle) :
    (∀ c ∈ (videoTmmbr w ms br replies findBest enc).2, c.changesRtp = false) ∧
      (videoTmmbr w ms br replies findBest enc).1 =
        { ms with
          videoQualityController :=
            (videoTmmbr w ms br replies findBest enc).1.videoQualityController } := by
  unfold videoTmmbr
  split
  · split <;> simp [Call.changesRtp]
  · split <;> simp [Call.changesRtp]

variable {r enc : Handle} {v' : UInt64}

/-- **The handler's spec.** With `L` the capped limit of the corrected value `v'`: nothing happens
when `L` is already the session's upload target; otherwise the stream's target bitrate and the
session's upload target become `L`, after a direct encoder push on a non-video stream, before the
video part on a video stream.
Source: `mediastream.c` lines 812–897
Kind: L -/
theorem mediaStreamProcessTmmbr_eq (hr : ms.sessions.rtpSession = some r)
    (he : ms.encoder = some enc) (hv : correctedTmmbr ms (w.rtp r) v = some v') :
    mediaStreamProcessTmmbr w ms v replies findBest =
      let L := capToMaxTarget ms (brInt v')
      if (w.rtp r).targetUploadBandwidth = L then some (ms, [])
      else if ms.type = .video then
        some ((videoTmmbr w { ms with targetBitrate := L } L replies findBest enc).1,
          [.setTargetUploadBandwidth (some r) L] ++
            (videoTmmbr w { ms with targetBitrate := L } L replies findBest enc).2)
      else
        some ({ ms with targetBitrate := L },
          [.filterCallMethod enc (.setBitrate L), .setTargetUploadBandwidth (some r) L]) := by
  have hL : capToMaxTarget ms (brInt v') ≠ -1 := by
    have := capToMaxTarget_nonneg ms (b := brInt v') (by rw [brInt_eq]; unfold intMax; omega)
    omega
  unfold mediaStreamProcessTmmbr updateBitrateLimitFromTmmbr
  simp only [hr, he, hv, Option.some_bind]
  by_cases hprev : (w.rtp r).targetUploadBandwidth = capToMaxTarget ms (brInt v')
  · simp only [hprev, if_true, Option.map_some']
  · simp only [hprev, if_false, Option.map_some', hL]
    cases ms.type <;> rfl

/-- A request that finds its limit already applied changes nothing: handled on a stream and a
session that differ from `ms` and `w.rtp r` only in what the first handling wrote, the same
value is a no-op.
Source: `mediastream.c` lines 812–839
Kind: L -/
theorem mediaStreamProcessTmmbr_again {w' : World} {ms' : MediaStream}
    (hv : correctedTmmbr ms (w.rtp r) v = some v')
    (hr' : ms'.sessions.rtpSession = some r) (he' : ms'.encoder = some enc)
    (htype : ms'.type = ms.type) (hmax : ms'.maxTargetBitrate = ms.maxTargetBitrate)
    (hrtp : w'.rtp r = { w.rtp r with targetUploadBandwidth := capToMaxTarget ms (brInt v') }) :
    mediaStreamProcessTmmbr w' ms' v replies findBest = some (ms', []) := by
  have hc : correctedTmmbr ms' (w'.rtp r) v = correctedTmmbr ms (w.rtp r) v := by
    unfold correctedTmmbr; rw [htype, hrtp]
  have hm : capToMaxTarget ms' = capToMaxTarget ms := by
    funext b; unfold capToMaxTarget; rw [hmax]
  rw [mediaStreamProcessTmmbr_eq w' ms' v replies findBest hr' he' (hc.trans hv), hm, hrtp]
  exact if_pos rfl

/-- The limit in the words of the specification, on integers: the TMMBR value `v`, less
`v / d` on an audio stream whose audio bandwidth estimator is enabled and present (`d` the
duplicate rate), clamped to `INT_MAX`, then capped to `max_target_bitrate` when that is set and
exceeded.
Source: `mediastream.c` lines 812–856
Kind: D -/
def tmmbrLimit (ms : MediaStream) (rtp : RtpSession) (v : UInt64) : Int :=
  let v' : Nat :=
    if ms.type = .audio ∧ rtp.audioBandwidthEstimatorEnabled ∧ rtp.audioBwEstimator then
      v.toNat - v.toNat / rtp.duplicateRate
    else v.toNat
  let L₀ : Int := min (v' : Int) 2147483647
  if 0 < ms.maxTargetBitrate ∧ ms.maxTargetBitrate < L₀ then ms.maxTargetBitrate else L₀

/-- The limit lies in `[0, INT_MAX]`, so it is never the `-1` failure sentinel.
Source: `mediastream.c` lines 812–856
Kind: L -/
theorem tmmbrLimit_mem (rtp : RtpSession) :
    0 ≤ tmmbrLimit ms rtp v ∧ tmmbrLimit ms rtp v ≤ 2147483647 := by
  unfold tmmbrLimit
  dsimp only
  split_ifs <;> omega

/-- **TMMBR handling.** For a stream with an RTP session and an encoder, a duplicate rate `d ≥ 1`
where the estimator applies, and every 64-bit value `v`, with `L` the limit `tmmbrLimit`
describes: `L` lies in `[0, INT_MAX]`; if `L` is already the session's upload target the
request changes nothing; otherwise the stream's target bitrate and the session's upload target
become `L`, whatever the encoder answers; no bitrate pushed to the encoder or to the video
quality controller exceeds `L`; and the same request handled again is a no-op.
Source: `mediastream.c` lines 812–897
Kind: C -/
theorem mediaStreamProcessTmmbr_limit (hr : ms.sessions.rtpSession = some r)
    (he : ms.encoder = some enc) (hd : (w.rtp r).duplicateRate ≤ 2147483647)
    (hpos : ms.type = .audio ∧ (w.rtp r).audioBandwidthEstimatorEnabled ∧
      (w.rtp r).audioBwEstimator → 1 ≤ (w.rtp r).duplicateRate) {L : Int}
    (hlim : tmmbrLimit ms (w.rtp r) v = L) :
    ∃ ms' cs, mediaStreamProcessTmmbr w ms v replies findBest = some (ms', cs) ∧
      0 ≤ L ∧ L ≤ 2147483647 ∧
      (L = (w.rtp r).targetUploadBandwidth → ms' = ms ∧ cs = []) ∧
      (L ≠ (w.rtp r).targetUploadBandwidth →
        ms'.targetBitrate = L ∧ ((w.performAll cs).rtp r).targetUploadBandwidth = L) ∧
      (∀ c ∈ cs, ∀ b ∈ pushedBitrate c, b ≤ L) ∧
      ∀ replies' : EncoderReplies,
        mediaStreamProcessTmmbr (w.performAll cs) ms' v replies' findBest = some (ms', []) := by
  obtain ⟨v', hcor, hv'⟩ := correctedTmmbr_eq ms (w.rtp r) v (by omega) hpos
  have hcap : capToMaxTarget ms (brInt v') = L := by
    rw [← hlim, brInt_eq, hv']
    rfl
  have hL : 0 ≤ L ∧ L ≤ 2147483647 := hlim ▸ tmmbrLimit_mem ms v (w.rtp r)
  have hset : ∀ cs : List Call, (∀ c ∈ cs, c.changesRtp = false) →
      (w.performAll (.setTargetUploadBandwidth (some r) L :: cs)).rtp r =
        { w.rtp r with targetUploadBandwidth := L } := fun cs hcs => by
    rw [World.performAll_cons, World.performAll_rtp _ hcs, World.perform_setTargetUploadBandwidth]
  rw [mediaStreamProcessTmmbr_eq w ms v replies findBest hr he hcor]
  dsimp only
  rw [hcap]
  by_cases heq : (w.rtp r).targetUploadBandwidth = L
  · rw [if_pos heq]
    refine ⟨ms, [], rfl, hL.1, hL.2, fun _ => ⟨rfl, rfl⟩, fun h => absurd heq.symm h, by simp,
      fun replies' => mediaStreamProcessTmmbr_again w ms v replies' findBest hcor hr he rfl rfl ?_⟩
    rw [hcap, ← heq]
    rfl
  · rw [if_neg heq]
    by_cases hv : ms.type = .video
    · rw [if_pos hv]
      obtain ⟨hVrtp, hV⟩ :=
        videoTmmbr_frame w { ms with targetBitrate := L } replies findBest L enc
      have hw := hset _ hVrtp
      refine ⟨_, _, rfl, hL.1, hL.2, fun h => absurd h.symm heq,
        fun _ => ⟨by rw [hV], congrArg RtpSession.targetUploadBandwidth hw⟩, ?_,
        fun replies' => ?_⟩
      · simpa [pushedBitrate] using videoTmmbr_pushed w _ replies findBest L enc
      · refine mediaStreamProcessTmmbr_again w ms v replies' findBest hcor (by rw [hV]; exact hr)
          (by rw [hV]; exact he) (by rw [hV]) (by rw [hV]) ?_
        rw [hcap]; exact hw
    · rw [if_neg hv]
      have hw : (w.performAll [.filterCallMethod enc (.setBitrate L),
          .setTargetUploadBandwidth (some r) L]).rtp r = { w.rtp r with targetUploadBandwidth := L } :=
        World.perform_setTargetUploadBandwidth w r L
      exact ⟨_, _, rfl, hL.1, hL.2, fun h => absurd h.symm heq,
        fun _ => ⟨rfl, congrArg RtpSession.targetUploadBandwidth hw⟩, by simp [pushedBitrate],
        fun replies' => mediaStreamProcessTmmbr_again w ms v replies' findBest hcor hr he rfl rfl
          (by rw [hcap]; exact hw)⟩

end request

/-- A request for 500 kbit/s on an audio stream capped at 300 kbit/s.
Source: `mediastream.c` lines 812–897
Kind: N+ -/
theorem mediaStreamProcessTmmbr_limit_capped :
    let ms : MediaStream :=
      { MediaStream.new0 1 .audio with
        sessions := { MSMediaStreamSessions.empty with rtpSession := some 0 }
        encoder := some 4, maxTargetBitrate := 300000 }
    let w := World.empty
    let v : UInt64 := 500000
    let replies : EncoderReplies := ⟨0, none, ⟨0, 0, ⟨0, 0⟩⟩, 0⟩
    let findBest : FindBestConfiguration := fun _ vsize _ br => ⟨br, br, vsize⟩
    ms.sessions.rtpSession = some 0 ∧ ms.encoder = some 4 ∧
      (w.rtp 0).duplicateRate ≤ 2147483647 ∧
      (ms.type = .audio ∧ (w.rtp 0).audioBandwidthEstimatorEnabled ∧ (w.rtp 0).audioBwEstimator →
        1 ≤ (w.rtp 0).duplicateRate) ∧ tmmbrLimit ms (w.rtp 0) v = 300000 ∧
      ∃ ms' cs, mediaStreamProcessTmmbr w ms v replies findBest = some (ms', cs) ∧
        0 ≤ (300000 : Int) ∧ (300000 : Int) ≤ 2147483647 ∧
        (300000 = (w.rtp 0).targetUploadBandwidth → ms' = ms ∧ cs = []) ∧
        (300000 ≠ (w.rtp 0).targetUploadBandwidth →
          ms'.targetBitrate = 300000 ∧ ((w.performAll cs).rtp 0).targetUploadBandwidth = 300000) ∧
        (∀ c ∈ cs, ∀ b ∈ pushedBitrate c, b ≤ 300000) ∧
        ∀ replies' : EncoderReplies,
          mediaStreamProcessTmmbr (w.performAll cs) ms' v replies' findBest = some (ms', []) :=
  ⟨rfl, rfl, by decide, by decide, by decide,
    mediaStreamProcessTmmbr_limit _ _ _ _ _ rfl rfl (by decide) (by decide) (by decide)⟩

end MediaStreamer.Tmmbr
