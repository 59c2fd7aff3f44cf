import Mathlib.Data.List.Nodup
import MediaStreamer.VideoToolboxSession

/-!
# The VideoToolbox decoder's output queue across two threads

Decoding is asynchronous: `decodeFrame` hands a frame to `VTDecompressionSessionDecodeFrame` and
returns, and VideoToolbox later calls `outputCb` on a thread of its own. The callback and the
filter thread share `_queue` and `_destroying` under `_mutex`: the callback appends the picture
(or `Frame()` for a failure) unless `_destroying` is set, and `fetch` pops the front.
`destroyDecoder` sets `_destroying` under the lock, waits for the frames still due, invalidates
and releases the session, and clears `_destroying` again outside the lock; `createDecoder` also
clears it, under the lock.

The model is the decoder as both threads see it: the guarded fields, the session `feed` holds
(kept under the discipline `feedRun_session_discipline` proves), where the filter thread stands
inside `destroyDecoder`, and VideoToolbox's side, the frames handed over and not yet output.
Each locked section is one step; so is each call into VideoToolbox, the only other thing the two
threads share. Of VideoToolbox the model assumes what its interface promises: the callback runs
once per accepted frame, in any order, and only until
`VTDecompressionSessionWaitForAsynchronousFrames` returns; a frame that
`VTDecompressionSessionDecodeFrame` refuses is never output, so it is not a step here. The frame
numbers and the logs `accepted`, `dropped` and `fetched` exist only in the model. `_destroying`
is initialised in the class declaration, outside the source; the model starts it clear.

* `run_frames_accounted` — over every interleaving, `_queue` is a FIFO channel from `outputCb` to
  `fetch`, and every frame handed to VideoToolbox is exactly once pending, queued or fetched, or
  dropped.
* `run_pending_dropped` — a frame still due when `destroyDecoder` takes the lock is never queued,
  so never fetched.
* `run_idle_not_destroying` — between calls the filter thread always finds `_destroying` clear,
  so the reset in `createDecoder` never changes anything.
* `feedRun_schedule` — the two threads carry out every run of `feed`: no step it needs is
  refused, and the wait in `destroyDecoder` returns once VideoToolbox has output what was due.
-/

namespace MediaStreamer.VideoToolbox

/-! ## What `_mutex` guards -/

/-- An entry of `_queue`: `Frame(pixbuf)`, or `Frame()` for a frame that did not decode, with
the number of the submitted frame it answers.
Source: `videotoolbox-decoder.cpp` lines 246–267
Kind: D -/
structure OutputFrame where
  /-- The submitted frame it answers (model only). -/
  id : Nat
  /-- `getData()` is not null. -/
  hasData : Bool
deriving DecidableEq, Repr

/-- `_queue` and `_destroying`, the fields `_mutex` guards.
Source: `videotoolbox-decoder.cpp` lines 82–106, 155–173, 231–268
Kind: D -/
structure OutputQueue where
  /-- `_queue`. -/
  queue : List OutputFrame
  /-- `_destroying`. -/
  destroying : Bool
deriving DecidableEq, Repr

/-- `VideoDecoder::Status`, as `fetch` returns it.
Source: `videotoolbox-decoder.cpp` lines 82–92
Kind: D -/
inductive Status
  | noError
  | noFrameAvailable
  | decodingFailure
deriving DecidableEq, Repr

/-- `fetch(frame)`: under the lock, pops the front of `_queue`; `frame` is its data, null for
`Frame()`. The queue, `frame` and the status.
Source: `videotoolbox-decoder.cpp` lines 82–92
Kind: D -/
def fetch (q : OutputQueue) : OutputQueue × Option OutputFrame × Status :=
  match q.queue with
  | [] => (q, none, .noFrameAvailable)
  | f :: rest =>
      let frame := if f.hasData then some f else none
      ({ q with queue := rest }, frame, if frame.isSome then .noError else .decodingFailure)

/-- `outputCb` for submitted frame `id`, under the lock: nothing while `_destroying` is set;
`Frame()` when `status != noErr || imageBuffer == nullptr`, that is when `decoded` is false;
otherwise `Frame(pixbuf)`.
Source: `videotoolbox-decoder.cpp` lines 231–268
Kind: D -/
def outputCb (q : OutputQueue) (id : Nat) (decoded : Bool) : OutputQueue :=
  if q.destroying then q
  else if !decoded then { q with queue := q.queue ++ [⟨id, false⟩] }
  else { q with queue := q.queue ++ [⟨id, true⟩] }

/-- The locked section of `createDecoder`: `if (_destroying) _destroying = false;`
Source: `videotoolbox-decoder.cpp` lines 104–106
Kind: D -/
def resetDestroying (q : OutputQueue) : OutputQueue :=
  if q.destroying then { q with destroying := false } else q

/-- The locked section of `destroyDecoder`: `_destroying = true;`
Source: `videotoolbox-decoder.cpp` lines 162–164
Kind: D -/
def lockDestroying (q : OutputQueue) : OutputQueue := { q with destroying := true }

/-- The last line of `destroyDecoder`, outside the lock: `_destroying = false;`
Source: `videotoolbox-decoder.cpp` line 172
Kind: D -/
def clearDestroying (q : OutputQueue) : OutputQueue := { q with destroying := false }

/-- `fetch` leaves `_destroying` alone and drops the front of the queue.
Source: `videotoolbox-decoder.cpp` lines 82–92
Kind: L -/
@[simp] theorem fetch_fst (q : OutputQueue) : (fetch q).1 = { q with queue := q.queue.tail } := by
  rcases q with ⟨_ | ⟨f, rest⟩, b⟩ <;> rfl

/-- The callback leaves `_destroying` alone.
Source: `videotoolbox-decoder.cpp` lines 231–268
Kind: L -/
@[simp] theorem outputCb_destroying (q : OutputQueue) (id : Nat) (decoded : Bool) :
    (outputCb q id decoded).destroying = q.destroying := by
  unfold outputCb; split_ifs <;> rfl

/-- The callback queues `Frame(pixbuf)` or `Frame()` as `decoded` says, unless `_destroying`.
Source: `videotoolbox-decoder.cpp` lines 231–268
Kind: L -/
@[simp] theorem outputCb_queue (q : OutputQueue) (id : Nat) (decoded : Bool) :
    (outputCb q id decoded).queue =
      if q.destroying then q.queue else q.queue ++ [⟨id, decoded⟩] := by
  rcases q with ⟨queue, _ | _⟩ <;> cases decoded <;> rfl

/-- The reset in `createDecoder` clears `_destroying` and leaves the queue.
Source: `videotoolbox-decoder.cpp` lines 104–106
Kind: L -/
@[simp] theorem resetDestroying_eq (q : OutputQueue) :
    resetDestroying q = { q with destroying := false } := by
  unfold resetDestroying; cases q; split_ifs <;> simp_all

/-! ## The two threads -/

/-- Where the filter thread stands, as far as the callback thread can tell.
Source: `videotoolbox-decoder.cpp` lines 42–45, 155–173
Kind: D -/
inductive FilterPc
  /-- Between calls of the decoder's methods. -/
  | idle
  /-- In `destroyDecoder`, `_destroying` set, in `VTDecompressionSessionWaitForAsynchronousFrames`. -/
  | waiting
  /-- In `destroyDecoder`, the session invalidated and released, before `_destroying = false`. -/
  | released
  /-- The destructor has returned. -/
  | deleted
deriving DecidableEq, Repr

/-- The decoder as the filter thread and VideoToolbox's output thread share it.
Source: `videotoolbox-decoder.cpp` lines 35–268
Kind: D -/
structure VtSystem where
  /-- `_queue` and `_destroying`. -/
  out : OutputQueue
  /-- The decoder as `feed` sees it; `dec.session` is `_session`. -/
  dec : VideoToolboxDecoder
  /-- Where the filter thread stands. -/
  pc : FilterPc
  /-- VideoToolbox's side: the frames handed to the live session whose output is still due. -/
  pending : List Nat
  /-- The number of frames handed to VideoToolbox so far (model only). -/
  submitted : Nat
  /-- The outputs the callback queued, in order (model only). -/
  accepted : List OutputFrame
  /-- The frames whose output came while `_destroying` was set (model only). -/
  dropped : List Nat
  /-- The entries `fetch` took off the queue, in order (model only). -/
  fetched : List OutputFrame
deriving DecidableEq, Repr

/-- The constructed decoder: nothing queued, `_destroying` clear, no session.
Source: `videotoolbox-decoder.cpp` lines 35–40
Kind: D -/
def VtSystem.init : VtSystem :=
  ⟨⟨[], false⟩, VideoToolboxDecoder.init, .idle, [], 0, [], [], []⟩

/-- One step of either thread.
Source: `videotoolbox-decoder.cpp` lines 42–45, 82–92, 94–106, 155–173, 175–216, 231–268
Kind: D -/
inductive VtEvent
  /-- Filter thread, in `decodeFrame`: `VTDecompressionSessionDecodeFrame` accepts a frame. -/
  | decodeFrame
  /-- VideoToolbox's thread: `outputCb` for pending frame `id`; `decoded` is
  `status == noErr && imageBuffer != nullptr`. -/
  | outputCb (id : Nat) (decoded : Bool)
  /-- Filter thread: `fetch`. -/
  | fetch
  /-- Filter thread: `createDecoder`, whose session creation succeeds when `ok`. -/
  | createDecoder (ok : Bool)
  /-- Filter thread: `destroyDecoder` up to the unlock after `_destroying = true`. -/
  | destroyLock
  /-- Filter thread: `destroyDecoder` once the wait returns, invalidating and releasing the
  session. -/
  | destroySession
  /-- Filter thread: the last line of `destroyDecoder`. -/
  | destroyReset
  /-- Filter thread: the destructor returns. -/
  | delete
deriving DecidableEq, Repr

/-- The step an event makes, or `none` when its thread cannot make it: the filter thread runs
one method at a time and calls `createDecoder` only without a session and `decodeFrame` and
`destroyDecoder` only with one (`feedRun_sessionAfter`); the wait returns once nothing is due;
the callback runs for a pending frame.
Source: `videotoolbox-decoder.cpp` lines 42–45, 82–92, 94–106, 155–173, 175–216, 231–268
Kind: D -/
def step (s : VtSystem) : VtEvent → Option VtSystem
  | .decodeFrame =>
      if s.pc = .idle ∧ s.dec.session.isSome then
        some { s with pending := s.pending ++ [s.submitted], submitted := s.submitted + 1 }
      else none
  | .outputCb id decoded =>
      if id ∈ s.pending then
        some { s with
          out := outputCb s.out id decoded
          pending := s.pending.erase id
          accepted := if s.out.destroying then s.accepted else s.accepted ++ [⟨id, decoded⟩]
          dropped := if s.out.destroying then s.dropped ++ [id] else s.dropped }
      else none
  | .fetch =>
      if s.pc = .idle then
        some { s with out := (fetch s.out).1, fetched := s.fetched ++ s.out.queue.take 1 }
      else none
  | .createDecoder ok =>
      if s.pc = .idle ∧ s.dec.session = none then
        some { s with
          out := resetDestroying s.out
          dec := match createDecoder s.dec ok with
            | .ok (d, _) => d
            | .error _ => s.dec }
      else none
  | .destroyLock =>
      if s.pc = .idle ∧ s.dec.session.isSome then
        some { s with out := lockDestroying s.out, pc := .waiting }
      else none
  | .destroySession =>
      if s.pc = .waiting ∧ s.pending = [] then
        some { s with dec := (destroyDecoder s.dec).1, pc := .released }
      else none
  | .destroyReset =>
      if s.pc = .released then some { s with out := clearDestroying s.out, pc := .idle } else none
  | .delete =>
      if s.pc = .idle ∧ s.dec.session = none then some { s with pc := .deleted } else none

/-- A schedule of steps of both threads, or `none` at the first step that cannot be made.
Source: none: infrastructure
Kind: D -/
def run (s : VtSystem) : List VtEvent → Option VtSystem
  | [] => some s
  | e :: es => (step s e).bind (run · es)

/-- A created session is live, whether or not it existed before.
Source: `videotoolbox-decoder.cpp` lines 94–153
Kind: L -/
theorem createDecoder_session (d : VideoToolboxDecoder) (ok : Bool) :
    (match createDecoder d ok with
      | .ok (d', _) => d'
      | .error _ => d).session = if ok then some d.next else d.session := by
  unfold createDecoder; cases ok <;> rfl

/-! ## The invariant -/

/-- What holds in every reachable state.
Source: none: infrastructure
Kind: D -/
structure Invariant (s : VtSystem) : Prop where
  /-- `_queue` is a FIFO channel: what `fetch` took, then what is queued, is what was queued. -/
  fifo : s.fetched ++ s.out.queue = s.accepted
  /-- Every submitted frame is exactly once queued or fetched, dropped, or pending. -/
  accounted : (s.accepted.map OutputFrame.id ++ s.dropped ++ s.pending).Perm (List.range s.submitted)
  /-- `_destroying` is set exactly while `destroyDecoder` runs. -/
  destroying_iff : s.out.destroying = true ↔ s.pc = .waiting ∨ s.pc = .released
  /-- Without a session nothing is due. -/
  pending_nil : s.dec.session = none → s.pending = []
  /-- After the release, and after the destructor, there is no session. -/
  session_none : s.pc = .released ∨ s.pc = .deleted → s.dec.session = none

/-- The constructed decoder satisfies the invariant.
Source: `videotoolbox-decoder.cpp` lines 35–40
Kind: L -/
theorem invariant_init : Invariant VtSystem.init :=
  ⟨rfl, .refl _, by decide, fun _ => rfl, by decide⟩

/-- Between calls the filter thread finds `_destroying` clear.
Source: none: infrastructure
Kind: L -/
theorem Invariant.destroying_of_idle {s : VtSystem} (h : Invariant s) (hpc : s.pc = .idle) :
    s.out.destroying = false := by
  simpa [hpc] using h.destroying_iff

/-- A pending frame has not been queued.
Source: none: infrastructure
Kind: L -/
theorem Invariant.not_accepted_of_pending {s : VtSystem} (h : Invariant s) {id : Nat}
    (hid : id ∈ s.pending) : id ∉ s.accepted.map OutputFrame.id := by
  have hnd := h.accounted.nodup_iff.mpr (List.nodup_range _)
  rw [List.append_assoc] at hnd
  exact fun ha => List.disjoint_of_nodup_append hnd ha (List.mem_append_right _ hid)

/-- A pending frame has a number below the count of submitted frames.
Source: none: infrastructure
Kind: L -/
theorem Invariant.lt_of_pending {s : VtSystem} (h : Invariant s) {id : Nat}
    (hid : id ∈ s.pending) : id < s.submitted :=
  List.mem_range.mp (h.accounted.mem_iff.mp (List.mem_append_right _ hid))

/-- Moving a pending frame to the end of the queued or the dropped frames keeps the count.
Source: none: infrastructure
Kind: L -/
theorem accounted_outputCb {A D P R : List Nat} {id : Nat} (hid : id ∈ P)
    (h : (A ++ D ++ P).Perm R) :
    (A ++ [id] ++ D ++ P.erase id).Perm R ∧ (A ++ (D ++ [id]) ++ P.erase id).Perm R := by
  have hP : (A ++ D ++ P).Perm (A ++ D ++ id :: P.erase id) :=
    (List.perm_cons_erase hid).append_left _
  constructor
  · refine List.Perm.trans ?_ (hP.symm.trans h)
    simpa using (@List.perm_middle _ id D (P.erase id)).symm.append_left A
  · simpa using hP.symm.trans h

/-- **Each step keeps the invariant.**
Source: `videotoolbox-decoder.cpp` lines 42–45, 82–92, 94–106, 155–173, 175–216, 231–268
Kind: L -/
theorem step_invariant {s s' : VtSystem} {e : VtEvent} (h : Invariant s)
    (hs : step s e = some s') : Invariant s' := by
  cases e with
  | decodeFrame =>
      simp only [step, Option.ite_none_right_eq_some, Option.some.injEq] at hs; obtain ⟨hg, rfl⟩ := hs
      refine ⟨h.fifo, ?_, h.destroying_iff, fun hn => ?_, h.session_none⟩
      · simpa [List.range_succ] using h.accounted.append_right [s.submitted]
      · exact absurd hg.2 (by rw [show s.dec.session = none from hn]; decide)
  | outputCb id decoded =>
      simp only [step, Option.ite_none_right_eq_some, Option.some.injEq] at hs; obtain ⟨hg, rfl⟩ := hs
      have hacc := accounted_outputCb hg h.accounted
      refine ⟨?_, ?_, by simpa using h.destroying_iff, fun hn => ?_, h.session_none⟩
      · cases hd : s.out.destroying <;> simp [hd, ← h.fifo]
      · cases hd : s.out.destroying
        · simpa [hd] using hacc.1
        · simpa [hd] using hacc.2
      · simp [h.pending_nil hn]
  | fetch =>
      simp only [step, Option.ite_none_right_eq_some, Option.some.injEq] at hs; obtain ⟨hg, rfl⟩ := hs
      refine ⟨?_, h.accounted, by simpa using h.destroying_iff, h.pending_nil, h.session_none⟩
      rw [fetch_fst, ← h.fifo]
      cases s.out.queue <;> simp
  | createDecoder ok =>
      simp only [step, Option.ite_none_right_eq_some, Option.some.injEq] at hs; obtain ⟨hg, rfl⟩ := hs
      refine ⟨by simpa using h.fifo, h.accounted, by simp [hg.1], fun hn => h.pending_nil ?_,
        by simp [hg.1]⟩
      rw [createDecoder_session] at hn
      cases ok
      · exact hn
      · cases hn
  | destroyLock =>
      simp only [step, Option.ite_none_right_eq_some, Option.some.injEq] at hs; obtain ⟨hg, rfl⟩ := hs
      exact ⟨h.fifo, h.accounted, by simp [lockDestroying], h.pending_nil, by simp⟩
  | destroySession =>
      simp only [step, Option.ite_none_right_eq_some, Option.some.injEq] at hs; obtain ⟨hg, rfl⟩ := hs
      exact ⟨h.fifo, h.accounted, by simpa [hg.1] using h.destroying_iff, fun _ => hg.2, fun _ => rfl⟩
  | destroyReset =>
      simp only [step, Option.ite_none_right_eq_some, Option.some.injEq] at hs; obtain ⟨hg, rfl⟩ := hs
      exact ⟨h.fifo, h.accounted, by simp [clearDestroying], h.pending_nil,
        fun _ => h.session_none (.inl hg)⟩
  | delete =>
      simp only [step, Option.ite_none_right_eq_some, Option.some.injEq] at hs; obtain ⟨hg, rfl⟩ := hs
      exact ⟨h.fifo, h.accounted, by simpa [hg.1] using h.destroying_iff, h.pending_nil,
        fun _ => hg.2⟩

/-- Every schedule keeps the invariant.
Source: none: infrastructure
Kind: L -/
theorem run_invariant_of :
    ∀ {s s' : VtSystem} (es : List VtEvent), Invariant s → run s es = some s' → Invariant s'
  | _, _, [], h, hr => by cases hr; exact h
  | s, _, e :: es, h, hr => by
      simp only [run] at hr
      cases hs : step s e with
      | none => simp [hs] at hr
      | some s₁ =>
          rw [hs, Option.some_bind] at hr
          exact run_invariant_of es (step_invariant h hs) hr

/-- The invariant holds in every state a schedule reaches from the constructed decoder.
Source: `videotoolbox-decoder.cpp` lines 35–268
Kind: L -/
theorem run_invariant {es : List VtEvent} {s : VtSystem} (h : run VtSystem.init es = some s) :
    Invariant s :=
  run_invariant_of es invariant_init h

/-! ## Safety over every interleaving -/

/-- **The output queue loses and duplicates nothing.** Whatever the interleaving of the two
threads, `fetch` hands out the queued outputs in the order `outputCb` queued them, and every frame
handed to VideoToolbox is exactly once still due, queued or fetched, or dropped.
Source: `videotoolbox-decoder.cpp` lines 82–92, 155–173, 231–268
Kind: C -/
theorem run_frames_accounted {es : List VtEvent} {s : VtSystem}
    (h : run VtSystem.init es = some s) :
    s.fetched ++ s.out.queue = s.accepted ∧
      (s.accepted.map OutputFrame.id ++ s.dropped ++ s.pending).Perm (List.range s.submitted) :=
  ⟨(run_invariant h).fifo, (run_invariant h).accounted⟩

/-- A frame is decoded and fetched between a failed session creation and a successful one.
Source: `videotoolbox-decoder.cpp` lines 82–92, 155–173, 231–268
Kind: N+ -/
theorem run_frames_accounted_fetch :
    run VtSystem.init [.createDecoder false, .createDecoder true, .decodeFrame, .outputCb 0 true,
        .fetch] = some ⟨⟨[], false⟩, ⟨some 0, true, 1⟩, .idle, [], 1, [⟨0, true⟩], [], [⟨0, true⟩]⟩ ∧
      [⟨0, true⟩] ++ [] = [(⟨0, true⟩ : OutputFrame)] ∧
      ([0] ++ [] ++ []).Perm (List.range 1) :=
  ⟨rfl, @run_frames_accounted
    [.createDecoder false, .createDecoder true, .decodeFrame, .outputCb 0 true, .fetch]
    ⟨⟨[], false⟩, ⟨some 0, true, 1⟩, .idle, [], 1, [⟨0, true⟩], [], [⟨0, true⟩]⟩ rfl⟩

/-- What stays true of a frame that is due while `_destroying` is set: it is not queued, and it
stays due only while `_destroying` stays set.
Source: none: infrastructure
Kind: D -/
def Doomed (id : Nat) (s : VtSystem) : Prop :=
  id < s.submitted ∧ id ∉ s.accepted.map OutputFrame.id ∧ (id ∈ s.pending → s.out.destroying = true)

/-- Each step keeps a doomed frame doomed.
Source: `videotoolbox-decoder.cpp` lines 155–173, 231–268
Kind: L -/
theorem step_doomed {s s' : VtSystem} {e : VtEvent} {id : Nat} (h : Invariant s)
    (hd : Doomed id s) (hs : step s e = some s') : Doomed id s' := by
  obtain ⟨hlt, hacc, hdue⟩ := hd
  cases e with
  | decodeFrame =>
      simp only [step, Option.ite_none_right_eq_some, Option.some.injEq] at hs; obtain ⟨hg, rfl⟩ := hs
      refine ⟨by simp only; omega, hacc, fun hm => ?_⟩
      rcases List.mem_append.mp hm with hm | hm
      · exact hdue hm
      · simp at hm; omega
  | outputCb j decoded =>
      simp only [step, Option.ite_none_right_eq_some, Option.some.injEq] at hs; obtain ⟨hg, rfl⟩ := hs
      refine ⟨hlt, ?_, fun hm => by simpa using hdue (List.mem_of_mem_erase hm)⟩
      by_cases hji : j = id
      · subst hji; simp [hdue hg, hacc]
      · cases s.out.destroying <;> simp [hacc, Ne.symm hji]
  | fetch =>
      simp only [step, Option.ite_none_right_eq_some, Option.some.injEq] at hs; obtain ⟨hg, rfl⟩ := hs
      exact ⟨hlt, hacc, by simpa using hdue⟩
  | createDecoder ok =>
      simp only [step, Option.ite_none_right_eq_some, Option.some.injEq] at hs; obtain ⟨hg, rfl⟩ := hs
      refine ⟨hlt, hacc, fun hm => ?_⟩
      simpa [h.destroying_of_idle hg.1] using hdue hm
  | destroyLock =>
      simp only [step, Option.ite_none_right_eq_some, Option.some.injEq] at hs; obtain ⟨hg, rfl⟩ := hs
      exact ⟨hlt, hacc, fun _ => rfl⟩
  | destroySession =>
      simp only [step, Option.ite_none_right_eq_some, Option.some.injEq] at hs; obtain ⟨hg, rfl⟩ := hs
      exact ⟨hlt, hacc, hdue⟩
  | destroyReset =>
      simp only [step, Option.ite_none_right_eq_some, Option.some.injEq] at hs; obtain ⟨hg, rfl⟩ := hs
      refine ⟨hlt, hacc, fun hm => ?_⟩
      simp [h.pending_nil (h.session_none (.inl hg))] at hm
  | delete =>
      simp only [step, Option.ite_none_right_eq_some, Option.some.injEq] at hs; obtain ⟨hg, rfl⟩ := hs
      exact ⟨hlt, hacc, hdue⟩

/-- Every schedule keeps a doomed frame doomed.
Source: `videotoolbox-decoder.cpp` lines 155–173, 231–268
Kind: L -/
theorem run_doomed :
    ∀ {s s' : VtSystem} (es : List VtEvent) {id : Nat}, Invariant s → Doomed id s →
      run s es = some s' → Doomed id s'
  | _, _, [], _, _, hd, hr => by cases hr; exact hd
  | s, _, e :: es, _, h, hd, hr => by
      simp only [run] at hr
      cases hs : step s e with
      | none => simp [hs] at hr
      | some s₁ =>
          rw [hs, Option.some_bind] at hr
          exact run_doomed es (step_invariant h hs) (step_doomed h hd hs) hr

/-- **A frame still due when `destroyDecoder` takes the lock is never queued, so never fetched.**
While the filter thread waits in `destroyDecoder`, whatever either thread does next, the frame
appears neither in `_queue` nor among the frames `fetch` hands out.
Source: `videotoolbox-decoder.cpp` lines 155–173, 231–245
Kind: C -/
theorem run_pending_dropped {es es' : List VtEvent} {s s' : VtSystem} {id : Nat}
    (h : run VtSystem.init es = some s) (hpc : s.pc = .waiting) (hid : id ∈ s.pending)
    (h' : run s es' = some s') : ∀ f ∈ s'.fetched ++ s'.out.queue, f.id ≠ id := by
  have hinv := run_invariant h
  have hd : Doomed id s :=
    ⟨hinv.lt_of_pending hid, hinv.not_accepted_of_pending hid,
      fun _ => hinv.destroying_iff.mpr (.inl hpc)⟩
  obtain ⟨-, hacc, -⟩ := run_doomed es' hinv hd h'
  rw [(run_invariant_of es' hinv h').fifo] at *
  exact fun f hf hfid => hacc (List.mem_map.mpr ⟨f, hf, hfid⟩)

/-- Frame 1 is still due when the session is torn down: it is dropped, and only frame 0 is
fetched.
Source: `videotoolbox-decoder.cpp` lines 155–173, 231–268
Kind: N+ -/
theorem run_pending_dropped_teardown :
    run VtSystem.init [.createDecoder true, .decodeFrame, .decodeFrame, .outputCb 0 true,
        .destroyLock] = some ⟨⟨[⟨0, true⟩], true⟩, ⟨some 0, true, 1⟩, .waiting, [1], 2,
          [⟨0, true⟩], [], []⟩ ∧
      run ⟨⟨[⟨0, true⟩], true⟩, ⟨some 0, true, 1⟩, .waiting, [1], 2, [⟨0, true⟩], [], []⟩
        [.outputCb 1 true, .destroySession, .destroyReset, .fetch] =
          some ⟨⟨[], false⟩, ⟨none, true, 1⟩, .idle, [], 2, [⟨0, true⟩], [1], [⟨0, true⟩]⟩ ∧
      ∀ f ∈ [(⟨0, true⟩ : OutputFrame)] ++ [], f.id ≠ 1 :=
  ⟨rfl, rfl, @run_pending_dropped
    [.createDecoder true, .decodeFrame, .decodeFrame, .outputCb 0 true, .destroyLock]
    [.outputCb 1 true, .destroySession, .destroyReset, .fetch]
    ⟨⟨[⟨0, true⟩], true⟩, ⟨some 0, true, 1⟩, .waiting, [1], 2, [⟨0, true⟩], [], []⟩
    ⟨⟨[], false⟩, ⟨none, true, 1⟩, .idle, [], 2, [⟨0, true⟩], [1], [⟨0, true⟩]⟩ 1
    rfl rfl (by decide) rfl⟩

/-- **The reset in `createDecoder` never fires.** Between calls the filter thread always finds
`_destroying` clear, since `destroyDecoder` clears it before it returns; `createDecoder` runs
only then.
Source: `videotoolbox-decoder.cpp` lines 94–106, 155–173
Kind: C -/
theorem run_idle_not_destroying {es : List VtEvent} {s : VtSystem}
    (h : run VtSystem.init es = some s) (hpc : s.pc = .idle) : s.out.destroying = false :=
  (run_invariant h).destroying_of_idle hpc

/-- After a decoder has been torn down once, it is idle with `_destroying` clear.
Source: `videotoolbox-decoder.cpp` lines 94–106, 155–173
Kind: N+ -/
theorem run_idle_not_destroying_teardown :
    run VtSystem.init [.createDecoder true, .destroyLock, .destroySession, .destroyReset] =
        some ⟨⟨[], false⟩, ⟨none, true, 1⟩, .idle, [], 0, [], [], []⟩ ∧
      (⟨[], false⟩ : OutputQueue).destroying = false :=
  ⟨rfl, @run_idle_not_destroying [.createDecoder true, .destroyLock, .destroySession, .destroyReset]
    ⟨⟨[], false⟩, ⟨none, true, 1⟩, .idle, [], 0, [], [], []⟩ rfl rfl⟩

/-! ## `feed`'s calls on the two threads -/

/-- The steps the filter thread makes for one decoder call, VideoToolbox outputting the frames
still due while `destroyDecoder` waits.
Source: `videotoolbox-decoder.cpp` lines 94–216
Kind: D -/
def callSteps (s : VtSystem) : DecoderCall → List VtEvent
  | .createDecoder _ => [.createDecoder true]
  | .destroyDecoder _ =>
      .destroyLock :: s.pending.map (VtEvent.outputCb · true) ++ [.destroySession, .destroyReset]
  | .decodeFrame _ _ => [.decodeFrame]

/-- The decoder calls of the filter thread, one after the other, each with `callSteps`.
Source: none: infrastructure
Kind: D -/
def schedule (s : VtSystem) : List DecoderCall → Option VtSystem
  | [] => some s
  | c :: cs => (run s (callSteps s c)).bind (schedule · cs)

/-- Running two schedules is running the first, then the second from where it ends.
Source: none: infrastructure
Kind: L -/
theorem run_append (s : VtSystem) (es es' : List VtEvent) :
    run s (es ++ es') = (run s es).bind (run · es') := by
  induction es generalizing s with
  | nil => rfl
  | cons e es ih => cases h : step s e <;> simp [run, h, ih]

/-- VideoToolbox outputting every frame due empties what is due and leaves the filter thread
where it is.
Source: `videotoolbox-decoder.cpp` lines 155–173, 231–268
Kind: L -/
theorem run_drain :
    ∀ (ids : List Nat) (s : VtSystem), s.pending = ids →
      ∃ s', run s (ids.map (VtEvent.outputCb · true)) = some s' ∧ s'.pending = [] ∧
        s'.pc = s.pc ∧ s'.dec = s.dec
  | [], s, h => ⟨s, rfl, h, rfl, rfl⟩
  | id :: ids, s, h => by
      simp only [List.map_cons, run, step, h, List.mem_cons_self, if_true, Option.some_bind]
      exact run_drain ids _ (by simp)

/-- One decoder call that keeps the discipline runs on the two threads from an idle decoder, and
leaves it idle, with a session exactly when the replay has one.
Source: `videotoolbox-decoder.cpp` lines 94–216
Kind: L -/
theorem callSteps_run {s : VtSystem} {live : Option Nat} {c : DecoderCall} {cs : List DecoderCall}
    (hc : (sessionAfter live (c :: cs)).isSome) (hpc : s.pc = .idle)
    (hlive : s.dec.session.isSome = live.isSome) :
    ∃ s' live', run s (callSteps s c) = some s' ∧ sessionAfter live (c :: cs) =
      sessionAfter live' cs ∧ s'.pc = .idle ∧ s'.dec.session.isSome = live'.isSome := by
  cases c with
  | createDecoder n =>
      have hn : live = none := by by_contra hn; simp [sessionAfter, hn] at hc
      have hs : s.dec.session = none := by simpa [hn] using hlive
      refine ⟨{ s with
          out := resetDestroying s.out
          dec := { s.dec with session := some s.dec.next, next := s.dec.next + 1 } },
        some n, ?_, by simp [sessionAfter, hn], hpc, rfl⟩
      simp [callSteps, run, step, hpc, hs, createDecoder]
  | destroyDecoder s₀ =>
      have hn : s₀.isSome ∧ s₀ = live := by by_contra hn; simp [sessionAfter, hn] at hc
      obtain ⟨h₁, rfl⟩ := hn
      obtain ⟨s₂, hr₂, hp₂, hpc₂, -⟩ := run_drain s.pending
        { s with out := lockDestroying s.out, pc := .waiting } rfl
      refine ⟨{ s₂ with
          out := clearDestroying s₂.out
          dec := (destroyDecoder s₂.dec).1
          pc := .idle },
        none, ?_, by simp [sessionAfter, h₁], rfl, rfl⟩
      simp only [callSteps, List.cons_append, run, step, hpc, hlive, h₁, and_self, if_true,
        Option.some_bind]
      simp [run_append, hr₂, run, step, hp₂, hpc₂]
  | decodeFrame s₀ ns =>
      have hn : s₀.isSome ∧ s₀ = live := by by_contra hn; simp [sessionAfter, hn] at hc
      obtain ⟨h₁, rfl⟩ := hn
      refine ⟨{ s with pending := s.pending ++ [s.submitted], submitted := s.submitted + 1 }, s₀,
        ?_, by simp [sessionAfter, h₁], hpc, hlive⟩
      simp [callSteps, run, step, hpc, hlive, h₁]

/-- Decoder calls that keep the discipline run on the two threads from an idle decoder whose
session matches the replay's.
Source: `videotoolbox-decoder.cpp` lines 94–216
Kind: L -/
theorem schedule_isSome :
    ∀ (cs : List DecoderCall) {live : Option Nat} {s : VtSystem},
      (sessionAfter live cs).isSome → s.pc = .idle → s.dec.session.isSome = live.isSome →
      (schedule s cs).isSome
  | [], _, _, _, _, _ => rfl
  | c :: cs, _, s, hc, hpc, hlive => by
      obtain ⟨s', live', hr, heq, hpc', hlive'⟩ := callSteps_run hc hpc hlive
      rw [heq] at hc
      simpa [schedule, hr] using schedule_isSome cs hc hpc' hlive'

/-- **The two threads carry out every run of `feed`.** From an idle decoder whose session is
there exactly when `feed`'s is, the filter thread makes every call of the run, VideoToolbox
outputting the frames still due whenever `destroyDecoder` waits: no step the run needs is
refused, and the wait in `destroyDecoder` returns.
Source: `videotoolbox-decoder.cpp` lines 47–80, 94–216
Kind: C -/
theorem feedRun_schedule (d : VideoToolboxDecoder) (fs : List Frame) {s : VtSystem}
    (hpc : s.pc = .idle) (hlive : s.dec.session.isSome = d.session.isSome) :
    (schedule s (feedRun d fs).2).isSome :=
  schedule_isSome _ (by rw [feedRun_sessionAfter]; rfl) hpc hlive

/-- The constructed decoders, fed a key frame and then new parameter sets.
Source: `videotoolbox-decoder.cpp` lines 47–216
Kind: N+ -/
theorem feedRun_schedule_init :
    VtSystem.init.pc = .idle ∧
      VtSystem.init.dec.session.isSome = VideoToolboxDecoder.init.session.isSome ∧
      (schedule VtSystem.init (feedRun VideoToolboxDecoder.init
        [⟨[⟨true⟩], false, true, true, .noErr⟩, ⟨[⟨false⟩], true, true, true, .noErr⟩]).2).isSome :=
  ⟨rfl, rfl, feedRun_schedule _ _ rfl rfl⟩

end MediaStreamer.VideoToolbox
