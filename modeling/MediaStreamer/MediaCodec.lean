import MediaStreamer.Libc

/-!
# The MediaCodec H.264 decoder's restarts on a new video size

On the TV boxes of `_tvDevices`, `MediaCodecH264Decoder` runs in "reset on new SPS/PPS" mode:
`setParameterSets` looks at every SPS among the parameter sets it is given and, when the SPS
differs from the last one it kept (`isNewPps`, which for all its name compares SPSs) and its video
size differs from the size in the decoder's `_format`, writes the new size into `_format` and
restarts the codec (`stopImpl`, `startImpl`). In every mode it then hands the parameter sets on
to `MediaCodecDecoder::setParameterSets`.

The crux is that `_format` always has the size of the last SPS kept (`TracksLastSps`): a repeated
SPS is skipped by the byte comparison, but it would have been skipped by the size comparison too.
So the restarts follow the sizes and nothing else: an SPS whose bytes change but whose size does
not restarts nothing.

The NALU type and the size an SPS codes for come from `h264-utils`, which `src/` does not hold;
they are the inputs `H264Utils`, and the results hold whatever they answer.

* `resetOnPsReceivingOf_iff` — the constructor enables the mode exactly on a device whose
  manufacturer and platform are those of a listed device; the model name never decides.
* `isNewPps_eq` — after the call the cache holds the SPS given, and the call answers whether it
  held another one.
* `setParameterSets_eq` — from a decoder that tracks its last SPS, one call restarts the codec
  once for each change of size along the SPSs it is given, then hands the sets on.
* `run_restarts` — over every run from the constructed decoder on a listed device, the codec
  restarts exactly at the changes of size along all the SPSs of the run.
-/

namespace MediaStreamer.MediaCodec

open Libc

/-! ## The devices -/

/-- `MediaCodecH264Decoder::DeviceInfo`: the system properties `ro.product.manufacturer`,
`ro.product.model` and `ro.board.platform`.
Source: `media-codec-h264-decoder.cpp` lines 116–127
Kind: D -/
structure DeviceInfo where
  /-- `manufacturer`. -/
  manufacturer : String
  /-- `model`. -/
  model : String
  /-- `platform`. -/
  platform : String
deriving DecidableEq, Repr

/-- `DeviceInfo::operator==`: the three fields agree.
Source: `media-codec-h264-decoder.cpp` lines 87–89
Kind: D -/
def DeviceInfo.equals (this info : DeviceInfo) : Bool :=
  this.manufacturer == info.manufacturer && this.model == info.model &&
    this.platform == info.platform

/-- `DeviceInfo::weakEquals`: the manufacturer and the platform agree.
Source: `media-codec-h264-decoder.cpp` lines 91–93
Kind: D -/
def DeviceInfo.weakEquals (this info : DeviceInfo) : Bool :=
  this.manufacturer == info.manufacturer && this.platform == info.platform

/-- `MediaCodecH264Decoder::_tvDevices`.
Source: `media-codec-h264-decoder.cpp` lines 214–222
Kind: D -/
def tvDevices : List DeviceInfo :=
  [⟨"Amlogic", "Quad-Core Enjoy TV Box", "gxl"⟩,
   ⟨"rockchip", "X9-LX", "rk3288"⟩,
   ⟨"rockchip", "rk3288", "rk3288"⟩,
   ⟨"rockchip", "rk3399", "rk3399"⟩,
   ⟨"rockchip", "rk3399pro", "rk3399pro"⟩,
   ⟨"rockchip", "rk3368", "rk3368"⟩,
   ⟨"rockchip", "Sasincomm S09", "rk3126c"⟩,
   ⟨"freescale", "Control4-imx8mm", "imx8"⟩]

/-- The `_resetOnPsReceiving` the constructor leaves, on the device `getDeviceInfo()` reports: set
when `std::find` meets the device in `_tvDevices` (with `operator==`), or else when the device
`weakEquals` a listed one; otherwise it keeps its initial `false`, which the class declaration,
outside `src/`, gives it.
Source: `media-codec-h264-decoder.cpp` lines 40–56
Kind: D -/
def resetOnPsReceivingOf (info : DeviceInfo) : Bool :=
  if tvDevices.any (·.equals info) then true
  else tvDevices.any (info.weakEquals ·)

/-- `weakEquals` compares the manufacturer and the platform only.
Source: `media-codec-h264-decoder.cpp` lines 91–93
Kind: L -/
@[simp]
theorem DeviceInfo.weakEquals_iff {a b : DeviceInfo} :
    a.weakEquals b = true ↔ a.manufacturer = b.manufacturer ∧ a.platform = b.platform := by
  simp [DeviceInfo.weakEquals]

/-- An exact match is a weak one, either way round.
Source: `media-codec-h264-decoder.cpp` lines 91–93
Kind: L -/
theorem DeviceInfo.weakEquals_of_equals {a b : DeviceInfo} (h : a.equals b = true) :
    b.weakEquals a = true := by
  simp only [DeviceInfo.equals, Bool.and_eq_true, beq_iff_eq] at h
  simp [h.1.1, h.2]

/-- **Which devices reset.** The exact search is subsumed by the weak one: the mode is on exactly
when a listed device has the manufacturer and the platform of this one, whatever its model.
Source: `media-codec-h264-decoder.cpp` lines 40–56
Kind: C -/
theorem resetOnPsReceivingOf_iff (info : DeviceInfo) :
    resetOnPsReceivingOf info = true ↔
      ∃ t ∈ tvDevices, t.manufacturer = info.manufacturer ∧ t.platform = info.platform := by
  have hweak : tvDevices.any (info.weakEquals ·) = true ↔
      ∃ t ∈ tvDevices, t.manufacturer = info.manufacturer ∧ t.platform = info.platform := by
    simp only [List.any_eq_true, DeviceInfo.weakEquals_iff, @eq_comm _ info.manufacturer,
      @eq_comm _ info.platform]
  unfold resetOnPsReceivingOf
  split_ifs with hexact
  · obtain ⟨t, ht, he⟩ := List.any_eq_true.mp hexact
    exact iff_of_true rfl (hweak.mp (List.any_eq_true.mpr ⟨t, ht, DeviceInfo.weakEquals_of_equals he⟩))
  · exact hweak

example : resetOnPsReceivingOf ⟨"rockchip", "RK3399 TV", "rk3399"⟩ = true := by decide

/-! ## The decoder -/

/-- A buffer's bytes, from `b_rptr` to `b_wptr`.
Source: none: infrastructure
Kind: D -/
abbrev Bytes := List UInt8

/-- `MSVideoSize`.
Source: `media-codec-h264-decoder.cpp` lines 66–79
Kind: D -/
structure MSVideoSize where
  /-- `width`. -/
  width : Int
  /-- `height`. -/
  height : Int
deriving DecidableEq, Repr

/-- What the decoder asks `h264-utils` about a NALU.
Source: `media-codec-h264-decoder.cpp` lines 62–85
Kind: D -/
structure H264Utils where
  /-- `ms_h264_nalu_get_type(m) == MSH264NaluTypeSPS`. -/
  isSps : Bytes → Bool
  /-- `ms_h264_sps_get_video_size(m)`. -/
  spsGetVideoSize : Bytes → MSVideoSize

/-- The decoder's state as `setParameterSets` reads and writes it.
Source: `media-codec-h264-decoder.cpp` lines 40–114
Kind: D -/
structure MediaCodecH264Decoder where
  /-- `_resetOnPsReceiving`. -/
  resetOnPsReceiving : Bool
  /-- `_lastSps`: the last SPS kept; `none` for `nullptr`. -/
  lastSps : Option Bytes
  /-- The `"width"` and `"height"` of `_format`. -/
  format : MSVideoSize
deriving DecidableEq, Repr

/-- `MediaCodecH264Decoder()` on the device `info`, over the `_format` of the base constructor.
Source: `media-codec-h264-decoder.cpp` lines 40–56
Kind: D -/
def MediaCodecH264Decoder.new (info : DeviceInfo) (format : MSVideoSize) :
    MediaCodecH264Decoder :=
  ⟨resetOnPsReceivingOf info, none, format⟩

/-- What the decoder asks of the codec, in order.
Source: none: infrastructure
Kind: D -/
inductive CodecCall
  /-- `stopImpl()`. -/
  | stopImpl
  /-- `startImpl()`. -/
  | startImpl
  /-- `MediaCodecDecoder::setParameterSets(parameterSet, timestamp)`. -/
  | setParameterSets (parameterSet : List Bytes) (timestamp : UInt64)
deriving DecidableEq, Repr

/-- `isNewPps(sps)`: the `_lastSps` it leaves and its answer. It keeps a copy of `sps` unless
`_lastSps` holds the same bytes.
Source: `media-codec-h264-decoder.cpp` lines 101–114
Kind: D -/
def isNewPps (lastSps : Option Bytes) (sps : Bytes) : Option Bytes × Bool :=
  match lastSps with
  | none => (some sps, true)
  | some last =>
    if sps.length ≠ last.length ∨ memcmp last sps sps.length ≠ 0 then (some sps, true)
    else (lastSps, false)

/-- **The SPS cache.** `isNewPps` always leaves `sps` in the cache, and answers whether the cache
held something else.
Source: `media-codec-h264-decoder.cpp` lines 101–114
Kind: L -/
theorem isNewPps_eq (lastSps : Option Bytes) (sps : Bytes) :
    isNewPps lastSps sps = (some sps, decide (lastSps ≠ some sps)) := by
  rcases lastSps with _ | last
  · rfl
  · by_cases hlen : sps.length = last.length
    · have hcmp : memcmp last sps sps.length = 0 ↔ last = sps := by
        rw [hlen]; exact memcmp_eq_zero_iff last sps hlen.symm
      by_cases he : last = sps
      · rw [isNewPps, if_neg (by rw [not_or, not_not, not_not]; exact ⟨hlen, hcmp.mpr he⟩), he]
        simp
      · rw [isNewPps, if_pos (Or.inr fun h => he (hcmp.mp h))]
        simp [he]
    · rw [isNewPps, if_pos (Or.inl hlen)]
      have hne : last ≠ sps := fun h => hlen (by rw [h])
      simp [hne]

section Loop

variable (u : H264Utils)

/-- One turn of the loop of `setParameterSets` in reset mode, on the parameter set `m`.
Source: `media-codec-h264-decoder.cpp` lines 63–83
Kind: D -/
def resetStep (d : MediaCodecH264Decoder) (m : Bytes) : MediaCodecH264Decoder × List CodecCall :=
  if u.isSps m then
    let r := isNewPps d.lastSps m
    let d := { d with lastSps := r.1 }
    if r.2 then
      let vsize := u.spsGetVideoSize m
      if vsize.width ≠ d.format.width ∨ vsize.height ≠ d.format.height then
        ({ d with format := vsize }, [.stopImpl, .startImpl])
      else (d, [])
    else (d, [])
  else (d, [])

/-- The loop of `setParameterSets` over the queue `parameterSet`, in order.
Source: `media-codec-h264-decoder.cpp` lines 63–83
Kind: D -/
def resetLoop (d : MediaCodecH264Decoder) : List Bytes → MediaCodecH264Decoder × List CodecCall
  | [] => (d, [])
  | m :: ms =>
    let r := resetStep u d m
    let r' := resetLoop r.1 ms
    (r'.1, r.2 ++ r'.2)

/-- `MediaCodecH264Decoder::setParameterSets(parameterSet, timestamp)`. Its answer is the base
class's, recorded as the last call.
Source: `media-codec-h264-decoder.cpp` lines 62–85
Kind: D -/
def setParameterSets (d : MediaCodecH264Decoder) (parameterSet : List Bytes) (timestamp : UInt64) :
    MediaCodecH264Decoder × List CodecCall :=
  let r := if d.resetOnPsReceiving then resetLoop u d parameterSet else (d, [])
  (r.1, r.2 ++ [.setParameterSets parameterSet timestamp])

/-- A run: `setParameterSets` on each queue of parameter sets in turn.
Source: `media-codec-h264-decoder.cpp` lines 62–85
Kind: D -/
def run (d : MediaCodecH264Decoder) :
    List (List Bytes × UInt64) → MediaCodecH264Decoder × List CodecCall
  | [] => (d, [])
  | (ps, ts) :: rest =>
    let r := setParameterSets u d ps ts
    let r' := run r.1 rest
    (r'.1, r.2 ++ r'.2)

/-! ## What the restarts follow -/

/-- The sizes the SPSs among `ps` code for, in order.
Source: none: infrastructure
Kind: D -/
def spsSizes (ps : List Bytes) : List MSVideoSize := (ps.filter u.isSps).map u.spsGetVideoSize

/-- The decoder's `_format` has the size of the last SPS it kept.
Source: none: infrastructure
Kind: D -/
def TracksLastSps (d : MediaCodecH264Decoder) : Prop :=
  ∀ s, d.lastSps = some s → u.spsGetVideoSize s = d.format

end Loop

/-- The changes along the sizes `vs` from the size `cur`: each size that differs from the one
before it.
Source: none: infrastructure
Kind: D -/
def sizeChanges : MSVideoSize → List MSVideoSize → List MSVideoSize
  | _, [] => []
  | cur, v :: vs => if v = cur then sizeChanges cur vs else v :: sizeChanges v vs

/-- One restart of the codec per size change.
Source: none: infrastructure
Kind: D -/
def restarts (vs : List MSVideoSize) : List CodecCall :=
  vs.flatMap fun _ => [.stopImpl, .startImpl]

/-- The two fields of a size decide it.
Source: none: infrastructure
Kind: L -/
theorem MSVideoSize.ne_iff {a b : MSVideoSize} :
    a.width ≠ b.width ∨ a.height ≠ b.height ↔ a ≠ b := by
  rcases a with ⟨w, h⟩; rcases b with ⟨w', h'⟩
  simp only [ne_eq, MSVideoSize.mk.injEq]; tauto

/-- One restart for the first change of size, then those of the others.
Source: none: infrastructure
Kind: L -/
@[simp]
theorem restarts_cons (v : MSVideoSize) (vs : List MSVideoSize) :
    restarts (v :: vs) = .stopImpl :: .startImpl :: restarts vs := rfl

section Proofs

variable (u : H264Utils)

/-- **One turn.** On a decoder that tracks its last SPS, a turn on an SPS keeps it and takes its
size, restarting the codec iff the size changes; other parameter sets change nothing.
Source: `media-codec-h264-decoder.cpp` lines 63–83
Kind: L -/
theorem resetStep_eq {d : MediaCodecH264Decoder} (hd : TracksLastSps u d) (m : Bytes) :
    resetStep u d m =
      if u.isSps m then
        ({ d with lastSps := some m, format := u.spsGetVideoSize m },
          if u.spsGetVideoSize m = d.format then [] else [.stopImpl, .startImpl])
      else (d, []) := by
  by_cases hs : u.isSps m
  · by_cases hl : d.lastSps = some m
    · have hf := hd m hl
      simp [resetStep, hs, isNewPps_eq, hl, hf]
    · by_cases hf : u.spsGetVideoSize m = d.format <;>
        simp [resetStep, hs, isNewPps_eq, hl, hf, MSVideoSize.ne_iff]
  · simp [resetStep, hs]

/-- A turn keeps `_format` on the size of the last SPS kept.
Source: `media-codec-h264-decoder.cpp` lines 63–83
Kind: L -/
theorem tracksLastSps_resetStep {d : MediaCodecH264Decoder} (hd : TracksLastSps u d) (m : Bytes) :
    TracksLastSps u (resetStep u d m).1 := by
  intro s h
  rw [resetStep_eq u hd] at h ⊢
  by_cases hs : u.isSps m <;> simp only [hs, if_true, if_false, Bool.false_eq_true] at h ⊢
  · cases h; rfl
  · exact hd s h

/-- **The loop.** On a decoder that tracks its last SPS, the loop keeps the last SPS among the
sets, takes its size, and restarts the codec once per change of size along their SPSs.
Source: `media-codec-h264-decoder.cpp` lines 63–83
Kind: L -/
theorem resetLoop_eq : ∀ {d : MediaCodecH264Decoder} (_ : TracksLastSps u d) (ps : List Bytes),
    resetLoop u d ps =
      ({ d with lastSps := ((ps.filter u.isSps).map some).getLastD d.lastSps,
                format := (spsSizes u ps).getLastD d.format },
        restarts (sizeChanges d.format (spsSizes u ps)))
  | d, _, [] => rfl
  | d, hd, m :: ms => by
    have ih := resetLoop_eq (tracksLastSps_resetStep u hd m) ms
    rw [resetLoop, ih, resetStep_eq u hd]
    by_cases hs : u.isSps m
    · by_cases hf : u.spsGetVideoSize m = d.format <;>
        simp only [hs, hf, if_true, if_false, List.filter_cons, List.map_cons, List.getLastD_cons,
          spsSizes, sizeChanges, List.nil_append, restarts_cons, List.cons_append]
    · simp only [hs, Bool.false_eq_true, if_false, List.filter_cons, spsSizes, List.nil_append]

/-- The loop keeps `_format` on the size of the last SPS kept.
Source: `media-codec-h264-decoder.cpp` lines 63–83
Kind: L -/
theorem tracksLastSps_resetLoop : ∀ {d : MediaCodecH264Decoder} (_ : TracksLastSps u d)
    (ps : List Bytes), TracksLastSps u (resetLoop u d ps).1
  | _, hd, [] => hd
  | _, hd, m :: ms => tracksLastSps_resetLoop (tracksLastSps_resetStep u hd m) ms

/-- **One call in reset mode.** From a decoder that tracks its last SPS, `setParameterSets`
restarts the codec once for each change of size along the SPSs it is given, then hands the sets
on.
Source: `media-codec-h264-decoder.cpp` lines 62–85
Kind: P -/
theorem setParameterSets_eq {d : MediaCodecH264Decoder} (hr : d.resetOnPsReceiving = true)
    (hd : TracksLastSps u d) (ps : List Bytes) (ts : UInt64) :
    setParameterSets u d ps ts =
      ({ d with lastSps := ((ps.filter u.isSps).map some).getLastD d.lastSps,
                format := (spsSizes u ps).getLastD d.format },
        restarts (sizeChanges d.format (spsSizes u ps)) ++ [.setParameterSets ps ts]) := by
  simp only [setParameterSets, hr, if_true, resetLoop_eq u hd]

/-- `setParameterSets` keeps `_format` on the size of the last SPS kept.
Source: `media-codec-h264-decoder.cpp` lines 62–85
Kind: L -/
theorem tracksLastSps_setParameterSets {d : MediaCodecH264Decoder} (hd : TracksLastSps u d)
    (ps : List Bytes) (ts : UInt64) : TracksLastSps u (setParameterSets u d ps ts).1 := by
  simp only [setParameterSets]
  split_ifs
  · exact tracksLastSps_resetLoop u hd ps
  · exact hd

/-- What a run asks of the codec when the restarts follow the sizes: for each call, one restart
per change of size along its SPSs, then the hand-over of its sets.
Source: none: infrastructure
Kind: D -/
def restartLog (cur : MSVideoSize) : List (List Bytes × UInt64) → List CodecCall
  | [] => []
  | (ps, ts) :: rest =>
    restarts (sizeChanges cur (spsSizes u ps)) ++ .setParameterSets ps ts ::
      restartLog ((spsSizes u ps).getLastD cur) rest

/-- **Runs in reset mode.** From a decoder in reset mode that tracks its last SPS, a run asks
the codec for exactly the restarts `restartLog` names.
Source: `media-codec-h264-decoder.cpp` lines 62–85
Kind: L -/
theorem run_eq_restartLog : ∀ {d : MediaCodecH264Decoder} (_ : d.resetOnPsReceiving = true)
    (_ : TracksLastSps u d) (calls : List (List Bytes × UInt64)),
    (run u d calls).2 = restartLog u d.format calls
  | _, _, _, [] => rfl
  | d, hr, hd, (ps, ts) :: rest => by
    have ih := run_eq_restartLog (d := (setParameterSets u d ps ts).1)
      (by rw [setParameterSets_eq u hr hd]; exact hr) (tracksLastSps_setParameterSets u hd ps ts)
      rest
    simp only [run]
    rw [ih, setParameterSets_eq u hr hd]
    simp [restartLog]

/-- **Restarts on a listed device.** On a device that `_tvDevices` matches, every run from the
constructed decoder restarts the codec exactly at the changes of size along its SPSs, each call's
restarts coming before its hand-over.
Source: `media-codec-h264-decoder.cpp` lines 40–85
Kind: C -/
theorem run_restarts (info : DeviceInfo)
    (hdev : ∃ t ∈ tvDevices, t.manufacturer = info.manufacturer ∧ t.platform = info.platform)
    (format : MSVideoSize) (calls : List (List Bytes × UInt64)) :
    (run u (MediaCodecH264Decoder.new info format) calls).2 = restartLog u format calls :=
  run_eq_restartLog u ((resetOnPsReceivingOf_iff info).mpr hdev) (fun _ h => by cases h) calls

/-- A box with another model name on an `rk3288` board: two queues, the second repeating the SPS
of the first.
Source: `media-codec-h264-decoder.cpp` lines 40–85, 214–222
Kind: N+ -/
theorem run_restarts_rk3288 :
    (∃ t ∈ tvDevices, t.manufacturer = "rockchip" ∧ t.platform = "rk3288") ∧
      (run ⟨fun m => m.length == 2, fun m => ⟨(m.headD 0).toNat, 1⟩⟩
          (MediaCodecH264Decoder.new ⟨"rockchip", "TV", "rk3288"⟩ ⟨0, 0⟩)
          [([[7, 8]], 0), ([[7, 8]], 1)]).2 =
        restartLog ⟨fun m => m.length == 2, fun m => ⟨(m.headD 0).toNat, 1⟩⟩ ⟨0, 0⟩
          [([[7, 8]], 0), ([[7, 8]], 1)] :=
  have h : ∃ t ∈ tvDevices, t.manufacturer = "rockchip" ∧ t.platform = "rk3288" :=
    ⟨⟨"rockchip", "X9-LX", "rk3288"⟩, by simp [tvDevices], rfl, rfl⟩
  ⟨h, run_restarts _ ⟨"rockchip", "TV", "rk3288"⟩ h ⟨0, 0⟩ _⟩

end Proofs

end MediaStreamer.MediaCodec
