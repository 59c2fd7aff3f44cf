import Mathlib.Data.List.Infix

/-!
# The VideoToolbox decoder's freeze until a key frame

`VideoToolboxDecoder::feed` decodes a frame only while `_freeze` is clear. `_freeze` is cleared
by the first frame that holds a key-frame NALU, and `videotoolbox-decoder.cpp` sets it nowhere:
neither `destroyDecoder`, which tears the decoding session down when new parameter sets arrive
or when decoding reports `kVTInvalidSessionErr`, nor `createDecoder`, which builds the next
session. So the freeze guards the first session only.

The model keeps of the decoder what `feed` reads and writes: the session, numbered by its
creation, and the freeze flag. What the collaborators answer during one call (the parameter-set
store, `VTDecompressionSessionCreate`, `VTDecompressionSessionDecodeFrame`) is part of the fed
`Frame`, so the results hold whatever they answer.

* `feed_freeze`, `feedRun_unfrozen` — `feed` only ever clears `_freeze`, on a key frame; once
  clear it stays clear over every run.
* `feedRun_decodes_after_key_frame` — from a frozen decoder, every `decodeFrame` of a run comes
  at or after a frame holding a key-frame NALU.
* `feedRun_teardown_unfrozen` — so after the first key frame every teardown is followed by
  decoding without a key frame: an unfrozen decoder whose session was invalidated, or that is
  given new parameter sets, decodes the next frame, key frame or not, against a session it has
  just created (from `feed_unfrozen_decodes` and `feed_invalid_session`).
* `teardown_decodes_without_key_frame` — from the constructed decoder, a run that decodes frames
  without a key-frame NALU against fresh sessions after both kinds of teardown.
-/

namespace MediaStreamer.VideoToolbox

/-! ## The decoder -/

/-- A NALU of an encoded frame, as the freeze test reads it: `_naluHeader->parse(nalu->b_rptr)`,
then `getAbsType().isKeyFramePart()`.
Source: `videotoolbox-decoder.cpp` lines 58–61
Kind: D -/
structure Nalu where
  /-- The NALU's type is part of a key frame. -/
  keyFramePart : Bool
deriving DecidableEq, Repr

/-- How `decodeFrame` ends: `noErr`; `kVTInvalidSessionErr`, thrown as `InvalidSessionError`; or
another failure (no input buffer, or another status), thrown as a `runtime_error`.
Source: `videotoolbox-decoder.cpp` lines 175–216
Kind: D -/
inductive DecodeOutcome
  | noErr
  | invalidSession
  | failure
deriving DecidableEq, Repr

/-- One call `feed(encodedFrame, timestamp)`: the NALUs left once `extractAllPs` has taken the
parameter sets out, and what the collaborators answer during the call.
Source: `videotoolbox-decoder.cpp` lines 47–80
Kind: D -/
structure Frame where
  /-- The frame's NALUs other than parameter sets. -/
  nalus : List Nalu
  /-- `_psStore->hasNewParameters()` after the extraction. -/
  newParameters : Bool
  /-- `_psStore->psGatheringCompleted()`. -/
  gatheringCompleted : Bool
  /-- `createDecoder()` succeeds: the format description and `VTDecompressionSessionCreate`. -/
  createOk : Bool
  /-- How `decodeFrame` ends, if it runs. -/
  decodeOutcome : DecodeOutcome
deriving DecidableEq, Repr

/-- The frame holds a key-frame NALU.
Source: `videotoolbox-decoder.cpp` lines 57–66
Kind: D -/
def Frame.hasKeyFrame (f : Frame) : Bool := f.nalus.any (·.keyFramePart)

/-- The decoder's state as `feed` reads and writes it.
Source: `videotoolbox-decoder.cpp` lines 35–80
Kind: D -/
structure VideoToolboxDecoder where
  /-- `_session`: the decoding session, numbered by creation; `none` for `nullptr`. -/
  session : Option Nat
  /-- `_freeze`. -/
  freeze : Bool
  /-- The number the next session created gets. -/
  next : Nat
deriving DecidableEq, Repr

/-- The decoder as constructed: no session, frozen. `_freeze` is initialised in the class
declaration, outside `videotoolbox-decoder.cpp`; the results below assume a frozen start only
where they say so.
Source: `videotoolbox-decoder.cpp` lines 35–40
Kind: D -/
def VideoToolboxDecoder.init : VideoToolboxDecoder := ⟨none, true, 0⟩

/-- What the decoder asks of VideoToolbox, in order.
Source: none: infrastructure
Kind: D -/
inductive DecoderCall
  /-- `createDecoder()` made session `session`. -/
  | createDecoder (session : Nat)
  /-- `destroyDecoder()` tore `_session` down. -/
  | destroyDecoder (session : Option Nat)
  /-- `decodeFrame` ran on the frame's NALUs against `_session`. -/
  | decodeFrame (session : Option Nat) (nalus : List Nalu)
deriving DecidableEq, Repr

/-- What the `try` block of `feed` throws.
Source: `videotoolbox-decoder.cpp` lines 47–80
Kind: D -/
inductive FeedError
  | runtimeError
  | invalidSessionError
deriving DecidableEq, Repr

/-- `destroyDecoder()`: waits for, invalidates and releases the session and sets `_session` to
`nullptr`. `_freeze` is left as it is.
Source: `videotoolbox-decoder.cpp` lines 155–173
Kind: D -/
def destroyDecoder (d : VideoToolboxDecoder) : VideoToolboxDecoder × List DecoderCall :=
  ({ d with session := none }, [.destroyDecoder d.session])

/-- `createDecoder()`: a new session, or the `runtime_error` it throws. `_freeze` is left as it
is.
Source: `videotoolbox-decoder.cpp` lines 94–153
Kind: D -/
def createDecoder (d : VideoToolboxDecoder) (ok : Bool) :
    Except FeedError (VideoToolboxDecoder × List DecoderCall) :=
  if ok then .ok ({ d with session := some d.next, next := d.next + 1 }, [.createDecoder d.next])
  else .error .runtimeError

/-- `decodeFrame(encodedFrame, timestamp)`: what it throws once the NALUs are handed over.
Source: `videotoolbox-decoder.cpp` lines 175–216
Kind: D -/
def decodeFrame : DecodeOutcome → Except FeedError Unit
  | .noErr => .ok ()
  | .invalidSession => .error .invalidSessionError
  | .failure => .error .runtimeError

/-- The parameter-set check of `feed`: when the store reports new parameter sets, acknowledge
them and destroy the session, if there is one.
Source: `videotoolbox-decoder.cpp` lines 50–53
Kind: D -/
def acknowledgeParameters (d : VideoToolboxDecoder) (f : Frame) :
    VideoToolboxDecoder × List DecoderCall :=
  if f.newParameters ∧ d.session.isSome then destroyDecoder d else (d, [])

/-- `if (_session == nullptr) createDecoder();`
Source: `videotoolbox-decoder.cpp` line 56
Kind: D -/
def ensureSession (d : VideoToolboxDecoder) (ok : Bool) :
    Except FeedError (VideoToolboxDecoder × List DecoderCall) :=
  if d.session.isNone then createDecoder d ok else .ok (d, [])

/-- The loop over the frame's NALUs while `_freeze` is set: a key-frame part clears it.
Source: `videotoolbox-decoder.cpp` lines 57–66
Kind: D -/
def thaw (d : VideoToolboxDecoder) (f : Frame) : VideoToolboxDecoder :=
  if d.freeze ∧ f.hasKeyFrame then { d with freeze := false } else d

/-- The `try` block of `feed`: the state and the calls it reaches, with the value it returns or
the exception it throws.
Source: `videotoolbox-decoder.cpp` lines 48–71
Kind: D -/
def feedTry (d : VideoToolboxDecoder) (f : Frame) :
    VideoToolboxDecoder × List DecoderCall × Except FeedError Bool :=
  let (d₁, c₁) := acknowledgeParameters d f
  if f.nalus = [] then (d₁, c₁, .ok true)
  else if f.gatheringCompleted = false then (d₁, c₁, .error .runtimeError)
  else
    match ensureSession d₁ f.createOk with
    | .error e => (d₁, c₁, .error e)
    | .ok (d₂, c₂) =>
        if (thaw d₂ f).freeze then (thaw d₂ f, c₁ ++ c₂, .ok false)
        else (thaw d₂ f, c₁ ++ c₂ ++ [.decodeFrame (thaw d₂ f).session f.nalus],
          (decodeFrame f.decodeOutcome).map fun _ => true)

/-- `VideoToolboxDecoder::feed(encodedFrame, timestamp)`: the `try` block, and the handler that
destroys the decoder on an `InvalidSessionError` and returns `false` on any exception.
Source: `videotoolbox-decoder.cpp` lines 47–80
Kind: D -/
def feed (d : VideoToolboxDecoder) (f : Frame) : VideoToolboxDecoder × List DecoderCall × Bool :=
  match feedTry d f with
  | (d', cs, .ok b) => (d', cs, b)
  | (d', cs, .error .invalidSessionError) =>
      ((destroyDecoder d').1, cs ++ (destroyDecoder d').2, false)
  | (d', cs, .error .runtimeError) => (d', cs, false)

/-- A sequence of `feed` calls: the decoder reached and every call made, in order.
Source: `videotoolbox-decoder.cpp` lines 47–80
Kind: D -/
def feedRun (d : VideoToolboxDecoder) : List Frame → VideoToolboxDecoder × List DecoderCall
  | [] => (d, [])
  | f :: fs => ((feedRun (feed d f).1 fs).1, (feed d f).2.1 ++ (feedRun (feed d f).1 fs).2)

/-! ## One call of `feed` -/

section step

variable (d : VideoToolboxDecoder) (f : Frame)

/-- The parameter-set check leaves `_freeze` as it is.
Source: `videotoolbox-decoder.cpp` lines 50–53
Kind: L -/
theorem acknowledgeParameters_freeze : (acknowledgeParameters d f).1.freeze = d.freeze := by
  unfold acknowledgeParameters; split <;> rfl

/-- The parameter-set check decodes nothing.
Source: `videotoolbox-decoder.cpp` lines 50–53
Kind: L -/
theorem decodeFrame_not_mem_acknowledgeParameters (s : Option Nat) (ns : List Nalu) :
    .decodeFrame s ns ∉ (acknowledgeParameters d f).2 := by
  unfold acknowledgeParameters destroyDecoder; split <;> simp

/-- Making sure of a session leaves `_freeze` as it is and decodes nothing.
Source: `videotoolbox-decoder.cpp` line 56
Kind: L -/
theorem ensureSession_ok {ok : Bool} {d' : VideoToolboxDecoder} {cs : List DecoderCall}
    (h : ensureSession d ok = .ok (d', cs)) :
    d'.freeze = d.freeze ∧ ∀ s ns, .decodeFrame s ns ∉ cs := by
  unfold ensureSession createDecoder at h
  split_ifs at h <;> cases h <;> simp

/-- The NALU loop clears `_freeze` exactly on a key frame.
Source: `videotoolbox-decoder.cpp` lines 57–66
Kind: L -/
theorem thaw_freeze : (thaw d f).freeze = (d.freeze && !f.hasKeyFrame) := by
  unfold thaw
  cases hz : d.freeze <;> cases hk : f.hasKeyFrame <;> simp [hz, hk]

/-- **What the `try` block can do.** Either it stops before the NALU loop, with `_freeze`
unchanged, nothing decoded and no `InvalidSessionError`; or it runs the loop on the session it
made sure of, and then returns `false` while still frozen, or decodes the frame against that
session and passes on what decoding throws.
Source: `videotoolbox-decoder.cpp` lines 48–71
Kind: L -/
theorem feedTry_cases :
    ((feedTry d f).1.freeze = d.freeze ∧ (∀ s ns, .decodeFrame s ns ∉ (feedTry d f).2.1) ∧
        (feedTry d f).2.2 ≠ .error .invalidSessionError) ∨
      ∃ d₂ c₂, ensureSession (acknowledgeParameters d f).1 f.createOk = .ok (d₂, c₂) ∧
        (feedTry d f).1 = thaw d₂ f ∧
        ((thaw d₂ f).freeze = true ∧
            (feedTry d f).2 = ((acknowledgeParameters d f).2 ++ c₂, .ok false) ∨
          (thaw d₂ f).freeze = false ∧ (feedTry d f).2 =
            ((acknowledgeParameters d f).2 ++ c₂ ++ [.decodeFrame (thaw d₂ f).session f.nalus],
              (decodeFrame f.decodeOutcome).map fun _ => true)) := by
  have hack := acknowledgeParameters_freeze d f
  have hnd := decodeFrame_not_mem_acknowledgeParameters d f
  unfold feedTry
  rcases hA : acknowledgeParameters d f with ⟨d₁, c₁⟩
  rw [hA] at hack hnd
  dsimp only at hack hnd ⊢
  split_ifs
  · exact .inl ⟨hack, hnd, nofun⟩
  · exact .inl ⟨hack, hnd, nofun⟩
  · rcases hens : ensureSession d₁ f.createOk with e | ⟨d₂, c₂⟩
    · refine .inl ⟨hack, hnd, ?_⟩
      unfold ensureSession createDecoder at hens
      split_ifs at hens
      cases hens
      exact nofun
    · refine .inr ⟨d₂, c₂, rfl, ?_⟩
      dsimp only
      split_ifs with hz
      · exact ⟨rfl, .inl ⟨hz, rfl⟩⟩
      · exact ⟨rfl, .inr ⟨by simpa using hz, rfl⟩⟩

/-- The `try` block only ever clears `_freeze`, and only on a key frame.
Source: `videotoolbox-decoder.cpp` lines 48–71
Kind: L -/
theorem feedTry_freeze :
    (feedTry d f).1.freeze = d.freeze ∨ ((feedTry d f).1.freeze = false ∧ f.hasKeyFrame = true) := by
  rcases feedTry_cases d f with ⟨h, -, -⟩ | ⟨d₂, c₂, hens, hst, -⟩
  · exact .inl h
  · rw [hst, thaw_freeze, (ensureSession_ok _ hens).1, acknowledgeParameters_freeze]
    cases d.freeze <;> cases f.hasKeyFrame <;> simp

/-- The `try` block decodes only when unfrozen, and then ends as decoding does.
Source: `videotoolbox-decoder.cpp` lines 48–71
Kind: L -/
theorem feedTry_decodes {s : Option Nat} {ns : List Nalu}
    (h : .decodeFrame s ns ∈ (feedTry d f).2.1) :
    (feedTry d f).1.freeze = false ∧
      (feedTry d f).2.2 = (decodeFrame f.decodeOutcome).map fun _ => true := by
  rcases feedTry_cases d f with
    ⟨-, hnd, -⟩ | ⟨d₂, c₂, hens, hst, ⟨-, hc⟩ | ⟨hz, hc⟩⟩
  · exact absurd h (hnd s ns)
  · rw [hc, List.mem_append] at h
    exact absurd h (not_or.mpr ⟨decodeFrame_not_mem_acknowledgeParameters d f s ns,
      (ensureSession_ok _ hens).2 s ns⟩)
  · rw [hst, hc]; exact ⟨hz, rfl⟩

/-- The handler changes the state only by destroying the session.
Source: `videotoolbox-decoder.cpp` lines 47–80
Kind: L -/
theorem feed_fst_freeze : (feed d f).1.freeze = (feedTry d f).1.freeze := by
  unfold feed
  rcases feedTry d f with ⟨d', cs, e | b⟩
  · cases e <;> rfl
  · rfl

/-- `feed` makes the calls of its `try` block, then at most the destruction of the session.
Source: `videotoolbox-decoder.cpp` lines 48–71
Kind: L -/
theorem feedTry_calls_prefix : (feedTry d f).2.1 <+: (feed d f).2.1 := by
  unfold feed
  rcases feedTry d f with ⟨d', cs, e | b⟩
  · cases e
    · exact List.prefix_refl cs
    · exact List.prefix_append cs _
  · exact List.prefix_refl cs

/-- `feed` decodes only in its `try` block.
Source: `videotoolbox-decoder.cpp` lines 47–80
Kind: L -/
theorem feed_decodes_of_feedTry {s : Option Nat} {ns : List Nalu}
    (h : .decodeFrame s ns ∈ (feed d f).2.1) : .decodeFrame s ns ∈ (feedTry d f).2.1 := by
  unfold feed at h
  rcases hT : feedTry d f with ⟨d', cs, e | b⟩ <;> rw [hT] at h
  · cases e
    · exact h
    · simpa [destroyDecoder] using h
  · exact h

/-- **`feed` never sets `_freeze`.** It keeps it, or clears it on a key frame.
Source: `videotoolbox-decoder.cpp` lines 47–80
Kind: L -/
theorem feed_freeze :
    (feed d f).1.freeze = d.freeze ∨ ((feed d f).1.freeze = false ∧ f.hasKeyFrame = true) := by
  rw [feed_fst_freeze]; exact feedTry_freeze d f

/-- A decoder that is not frozen stays so.
Source: `videotoolbox-decoder.cpp` lines 47–80
Kind: L -/
theorem feed_unfrozen (h : d.freeze = false) : (feed d f).1.freeze = false :=
  (feed_freeze d f).elim (fun h' => h'.trans h) And.left

/-- `feed` decodes only an unfrozen decoder, or a key frame.
Source: `videotoolbox-decoder.cpp` lines 47–80
Kind: L -/
theorem feed_decodes_thawed {s : Option Nat} {ns : List Nalu}
    (h : .decodeFrame s ns ∈ (feed d f).2.1) : d.freeze = false ∨ f.hasKeyFrame = true := by
  have hz : (feed d f).1.freeze = false := by
    rw [feed_fst_freeze]; exact (feedTry_decodes d f (feed_decodes_of_feedTry d f h)).1
  rcases feed_freeze d f with h' | ⟨-, hk⟩
  · exact .inl (h' ▸ hz)
  · exact .inr hk

/-- A decoding session that reports `kVTInvalidSessionErr` is destroyed: `feed` ends without a
session.
Source: `videotoolbox-decoder.cpp` lines 47–80
Kind: L -/
theorem feed_invalid_session {s : Option Nat} {ns : List Nalu}
    (h : .decodeFrame s ns ∈ (feed d f).2.1) (hf : f.decodeOutcome = .invalidSession) :
    (feed d f).1.session = none := by
  have hres := (feedTry_decodes d f (feed_decodes_of_feedTry d f h)).2
  rw [hf] at hres
  unfold feed
  rcases hT : feedTry d f with ⟨d', cs, r⟩
  rw [hT] at hres
  cases hres
  rfl

/-- **The teardown does not freeze.** An unfrozen decoder that has no session, or is given new
parameter sets, creates a session and decodes the frame against it, whether or not the frame
holds a key-frame NALU.
Source: `videotoolbox-decoder.cpp` lines 47–80
Kind: L -/
theorem feed_unfrozen_decodes (hz : d.freeze = false) (hne : f.nalus ≠ [])
    (hg : f.gatheringCompleted = true) (hc : f.createOk = true)
    (hfresh : d.session = none ∨ f.newParameters = true) :
    ∃ pre, pre ++ [.createDecoder d.next, .decodeFrame (some d.next) f.nalus] <+: (feed d f).2.1 := by
  have hA : (acknowledgeParameters d f).1 = { d with session := none } := by
    unfold acknowledgeParameters destroyDecoder
    split_ifs with h
    · rfl
    · rcases d with ⟨_ | _, _, _⟩ <;> simp_all
  have hT : (feedTry d f).2.1 = (acknowledgeParameters d f).2 ++
      [.createDecoder d.next, .decodeFrame (some d.next) f.nalus] := by
    unfold feedTry
    rcases hA' : acknowledgeParameters d f with ⟨d₁, c₁⟩
    rw [hA'] at hA
    subst hA
    simp [hne, hg, ensureSession, createDecoder, hc, thaw, hz]
  exact ⟨_, by rw [← hT]; exact feedTry_calls_prefix d f⟩

end step

/-! ## Runs -/

/-- **Once clear, `_freeze` stays clear** over every later run.
Source: `videotoolbox-decoder.cpp` lines 47–80
Kind: L -/
theorem feedRun_unfrozen :
    ∀ {d : VideoToolboxDecoder} (fs : List Frame), d.freeze = false →
      (feedRun d fs).1.freeze = false
  | _, [], h => h
  | d, f :: fs, h => feedRun_unfrozen fs (feed_unfrozen d f h)

/-- Every decode of a run is made by one of its calls, on a decoder that was unfrozen at the
start or after a key frame fed by that call or an earlier one.
Source: `videotoolbox-decoder.cpp` lines 47–80
Kind: L -/
theorem feedRun_decodes_thawed :
    ∀ {d : VideoToolboxDecoder} (fs : List Frame) {s : Option Nat} {ns : List Nalu},
      .decodeFrame s ns ∈ (feedRun d fs).2 →
      ∃ pre f post, fs = pre ++ f :: post ∧ .decodeFrame s ns ∈ (feed (feedRun d pre).1 f).2.1 ∧
        (d.freeze = false ∨ ∃ g ∈ pre ++ [f], g.hasKeyFrame = true)
  | _, [], _, _, h => absurd h (List.not_mem_nil _)
  | d, f :: fs, s, ns, h => by
      rcases List.mem_append.mp h with h | h
      · refine ⟨[], f, fs, rfl, h, ?_⟩
        rcases feed_decodes_thawed d f h with h' | hk
        · exact .inl h'
        · exact .inr ⟨f, List.mem_singleton_self f, hk⟩
      · obtain ⟨pre, f', post, rfl, hdec, hthaw⟩ := feedRun_decodes_thawed fs h
        refine ⟨f :: pre, f', post, rfl, hdec, ?_⟩
        rcases hthaw with h' | ⟨g, hg, hk⟩
        · rcases feed_freeze d f with h'' | ⟨-, hk⟩
          · exact .inl (h'' ▸ h')
          · exact .inr ⟨f, List.mem_cons_self _ _, hk⟩
        · exact .inr ⟨g, List.mem_cons_of_mem f hg, hk⟩

/-- **Decoding waits for the first key frame.** From a frozen decoder, every `decodeFrame` of a
run is made by a call whose frame, or an earlier frame of the run, held a key-frame NALU.
Source: `videotoolbox-decoder.cpp` lines 47–80
Kind: C -/
theorem feedRun_decodes_after_key_frame {d : VideoToolboxDecoder} (hd : d.freeze = true)
    (fs : List Frame) {s : Option Nat} {ns : List Nalu} (h : .decodeFrame s ns ∈ (feedRun d fs).2) :
    ∃ pre f post, fs = pre ++ f :: post ∧ .decodeFrame s ns ∈ (feed (feedRun d pre).1 f).2.1 ∧
      ∃ g ∈ pre ++ [f], g.hasKeyFrame = true := by
  obtain ⟨pre, f, post, hfs, hdec, hthaw⟩ := feedRun_decodes_thawed fs h
  exact ⟨pre, f, post, hfs, hdec, hthaw.resolve_left (by simp [hd])⟩

/-- The first key frame fed to the constructed decoder is decoded.
Source: `videotoolbox-decoder.cpp` lines 47–80
Kind: N+ -/
theorem feedRun_decodes_after_key_frame_init :
    let key : Frame := ⟨[⟨true⟩], false, true, true, .noErr⟩
    VideoToolboxDecoder.init.freeze = true ∧
      .decodeFrame (some 0) [⟨true⟩] ∈ (feedRun VideoToolboxDecoder.init [key]).2 ∧
      ∃ pre f post, [key] = pre ++ f :: post ∧
        .decodeFrame (some 0) [⟨true⟩] ∈ (feed (feedRun VideoToolboxDecoder.init pre).1 f).2.1 ∧
        ∃ g ∈ pre ++ [f], g.hasKeyFrame = true :=
  ⟨rfl, by decide, feedRun_decodes_after_key_frame rfl _ (by decide)⟩

/-- **A teardown does not freeze again.** From an unfrozen decoder, in particular one that has
been fed a key frame, over every run: the decoder stays unfrozen; a later frame that VideoToolbox
rejects with `kVTInvalidSessionErr` leaves it without a session; and a later frame with NALUs,
complete parameter sets and a session creation that succeeds, fed without a session or with new
parameter sets, is decoded against the session created for it, whether or not it holds a
key-frame NALU.
Source: `videotoolbox-decoder.cpp` lines 47–80, 94–173
Kind: C -/
theorem feedRun_teardown_unfrozen {d : VideoToolboxDecoder} (hz : d.freeze = false)
    (pre : List Frame) (f : Frame) :
    (feedRun d pre).1.freeze = false ∧
      ((∃ s ns, .decodeFrame s ns ∈ (feed (feedRun d pre).1 f).2.1) →
        f.decodeOutcome = .invalidSession → (feed (feedRun d pre).1 f).1.session = none) ∧
      (f.nalus ≠ [] → f.gatheringCompleted = true → f.createOk = true →
        ((feedRun d pre).1.session = none ∨ f.newParameters = true) →
        ∃ cs, cs ++ [.createDecoder (feedRun d pre).1.next,
          .decodeFrame (some (feedRun d pre).1.next) f.nalus] <+: (feed (feedRun d pre).1 f).2.1) :=
  have hz' := feedRun_unfrozen pre hz
  ⟨hz', fun ⟨_, _, h⟩ hf => feed_invalid_session _ f h hf,
    fun hne hg hc hfresh => feed_unfrozen_decodes _ f hz' hne hg hc hfresh⟩

/-- After a key frame (session 0), a frame without a key-frame NALU that the session rejects:
the session is destroyed, and the next such frame is decoded against session 1.
Source: `videotoolbox-decoder.cpp` lines 47–80
Kind: N+ -/
theorem feedRun_teardown_unfrozen_invalid :
    let invalid : Frame := ⟨[⟨false⟩], false, true, true, .invalidSession⟩
    let plain : Frame := ⟨[⟨false⟩], false, true, true, .noErr⟩
    (⟨some 0, false, 1⟩ : VideoToolboxDecoder).freeze = false ∧
      (feedRun ⟨some 0, false, 1⟩ [invalid]).1.session = none ∧
      (feedRun ⟨some 0, false, 1⟩ [invalid]).1.freeze = false ∧
      ((∃ s ns, .decodeFrame s ns ∈ (feed (feedRun ⟨some 0, false, 1⟩ [invalid]).1 plain).2.1) →
        plain.decodeOutcome = .invalidSession →
        (feed (feedRun ⟨some 0, false, 1⟩ [invalid]).1 plain).1.session = none) ∧
      (plain.nalus ≠ [] → plain.gatheringCompleted = true → plain.createOk = true →
        ((feedRun ⟨some 0, false, 1⟩ [invalid]).1.session = none ∨ plain.newParameters = true) →
        ∃ cs, cs ++ [.createDecoder (feedRun ⟨some 0, false, 1⟩ [invalid]).1.next,
          .decodeFrame (some (feedRun ⟨some 0, false, 1⟩ [invalid]).1.next) plain.nalus] <+:
            (feed (feedRun ⟨some 0, false, 1⟩ [invalid]).1 plain).2.1) :=
  ⟨rfl, rfl, @feedRun_teardown_unfrozen ⟨some 0, false, 1⟩ rfl
    [⟨[⟨false⟩], false, true, true, .invalidSession⟩] ⟨[⟨false⟩], false, true, true, .noErr⟩⟩

/-- From the constructed decoder: a key frame, then a frame without a key-frame NALU that comes
with new parameter sets, then two such frames, the first of which the session rejects with
`kVTInvalidSessionErr`. Sessions 1 and 2 each decode a frame without a key-frame NALU right after
they are created.
Source: `videotoolbox-decoder.cpp` lines 47–80, 94–173
Kind: N− -/
theorem teardown_decodes_without_key_frame :
    let key : Frame := ⟨[⟨true⟩], false, true, true, .noErr⟩
    let newParameters : Frame := ⟨[⟨false⟩], true, true, true, .noErr⟩
    let invalid : Frame := ⟨[⟨false⟩], false, true, true, .invalidSession⟩
    let plain : Frame := ⟨[⟨false⟩], false, true, true, .noErr⟩
    (feedRun VideoToolboxDecoder.init [key, newParameters, invalid, plain]).2 =
      [.createDecoder 0, .decodeFrame (some 0) [⟨true⟩], .destroyDecoder (some 0),
        .createDecoder 1, .decodeFrame (some 1) [⟨false⟩], .decodeFrame (some 1) [⟨false⟩],
        .destroyDecoder (some 1), .createDecoder 2, .decodeFrame (some 2) [⟨false⟩]] :=
  rfl

end MediaStreamer.VideoToolbox
