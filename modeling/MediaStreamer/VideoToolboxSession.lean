import Mathlib.Data.Multiset.Basic
import MediaStreamer.VideoToolbox

/-!
# The VideoToolbox decoder's session and format description

`feed` creates the decoding session when there is none (`createDecoder`) and tears it down when
new parameter sets arrive or decoding reports an invalid session (`destroyDecoder`).
`createDecoder` first builds the format description from the parameter sets
(`formatDescFromSpsPps`, which releases the previous one), then the session;
`destroyDecoder` releases both and sets both fields to `NULL`; the destructor calls
`destroyDecoder` only if there is a session.

The first part replays the calls a run of `feed` makes against the session they find live. The
second follows the two Core Foundation objects the decoder owns across every sequence of
`createDecoder` and `destroyDecoder`, with a ledger of the objects created and not yet released.
Objects are numbered by creation; the numbers exist only in the model. `_session` and
`_formatDesc` are initialised in the class declaration, outside the source; the model starts
them `NULL`.

* `feedRun_session_discipline` — every run of `feed` creates a session only when there is none,
  and destroys and decodes only against the live one.
* `objRun_ledger` — no object is released twice or released without being held, and the objects
  held are exactly the session and the format description the fields point to; in particular
  `destroyDecoder` never releases a `NULL` format description.
* `objRun_destruct_leak` — at destruction one object is never released, the format description
  `_formatDesc` points to, exactly when the last `createDecoder` that built one failed to create
  the session.
* `feedRun_objRun` — the `createDecoder` and `destroyDecoder` calls of every run of `feed` are
  calls the object model accepts, so the two results above hold along `feed`'s runs.
-/

namespace MediaStreamer.VideoToolbox

/-! ## The session discipline of `feed` -/

/-- Replays decoder calls against the session they find live: `createDecoder` only when there is
none, `destroyDecoder` and `decodeFrame` only on the live session. The session live at the end,
or `none` at the first call that breaks the discipline.
Source: none: infrastructure
Kind: D -/
def sessionAfter (live : Option Nat) : List DecoderCall → Option (Option Nat)
  | [] => some live
  | .createDecoder n :: cs => if live = none then sessionAfter (some n) cs else none
  | .destroyDecoder s :: cs => if s.isSome ∧ s = live then sessionAfter none cs else none
  | .decodeFrame s _ :: cs => if s.isSome ∧ s = live then sessionAfter live cs else none

/-- Replaying two call lists is replaying the first, then the second from where it ends.
Source: none: infrastructure
Kind: L -/
theorem sessionAfter_append (live : Option Nat) (cs cs' : List DecoderCall) :
    sessionAfter live (cs ++ cs') = (sessionAfter live cs).bind (sessionAfter · cs') := by
  induction cs generalizing live with
  | nil => rfl
  | cons c cs ih =>
      cases c <;> simp only [List.cons_append, sessionAfter] <;> split_ifs <;> simp [ih]

/-- `destroyDecoder` of the live session keeps the discipline and leaves no session.
Source: `videotoolbox-decoder.cpp` lines 155–173
Kind: L -/
theorem destroyDecoder_sessionAfter {d : VideoToolboxDecoder} (h : d.session.isSome) :
    sessionAfter d.session (destroyDecoder d).2 = some (destroyDecoder d).1.session := by
  simp [destroyDecoder, sessionAfter, h]

section feed

variable (d : VideoToolboxDecoder) (f : Frame)

/-- The parameter-set check destroys only a live session.
Source: `videotoolbox-decoder.cpp` lines 50–53
Kind: L -/
theorem acknowledgeParameters_sessionAfter :
    sessionAfter d.session (acknowledgeParameters d f).2 =
      some (acknowledgeParameters d f).1.session := by
  unfold acknowledgeParameters
  split_ifs with h
  · exact destroyDecoder_sessionAfter h.2
  · rfl

/-- `if (_session == nullptr) createDecoder();` creates a session only when there is none, and
when it returns there is one.
Source: `videotoolbox-decoder.cpp` line 56
Kind: L -/
theorem ensureSession_sessionAfter {d : VideoToolboxDecoder} {ok : Bool} {d' cs}
    (h : ensureSession d ok = .ok (d', cs)) :
    sessionAfter d.session cs = some d'.session ∧ d'.session.isSome := by
  unfold ensureSession createDecoder at h
  split_ifs at h <;> cases h <;> cases hs : d.session <;> simp_all [sessionAfter]

/-- Making sure of a session fails only with a `runtime_error`.
Source: `videotoolbox-decoder.cpp` line 56
Kind: L -/
theorem ensureSession_error {d : VideoToolboxDecoder} {ok : Bool} {e : FeedError}
    (h : ensureSession d ok = .error e) : e = .runtimeError := by
  unfold ensureSession createDecoder at h
  split_ifs at h
  cases h
  rfl

/-- The `try` block of `feed` keeps the discipline, and throws `InvalidSessionError` only with a
session live.
Source: `videotoolbox-decoder.cpp` lines 48–71
Kind: L -/
theorem feedTry_sessionAfter :
    sessionAfter d.session (feedTry d f).2.1 = some (feedTry d f).1.session ∧
      ((feedTry d f).2.2 = .error .invalidSessionError → (feedTry d f).1.session.isSome) := by
  have hA := acknowledgeParameters_sessionAfter d f
  unfold feedTry
  rcases hA' : acknowledgeParameters d f with ⟨d₁, c₁⟩
  rw [hA'] at hA
  dsimp only
  split_ifs
  · exact ⟨hA, nofun⟩
  · exact ⟨hA, nofun⟩
  · rcases hens : ensureSession d₁ f.createOk with e | ⟨d₂, c₂⟩
    · exact ⟨hA, fun h => by cases ensureSession_error hens; cases h⟩
    · obtain ⟨hc₂, hlive⟩ := ensureSession_sessionAfter hens
      obtain ⟨s, hs⟩ := Option.isSome_iff_exists.mp hlive
      have hthaw : (thaw d₂ f).session = d₂.session := by unfold thaw; split_ifs <;> rfl
      dsimp only
      split_ifs
      · simp [sessionAfter_append, hA, hc₂, hthaw]
      · simp [sessionAfter_append, hA, hc₂, hthaw, hs, sessionAfter]

/-- **`feed` keeps the session discipline.** It creates a session only when there is none, and
destroys and decodes only against the live one, the handler's `destroyDecoder` included.
Source: `videotoolbox-decoder.cpp` lines 47–80
Kind: L -/
theorem feed_sessionAfter : sessionAfter d.session (feed d f).2.1 = some (feed d f).1.session := by
  obtain ⟨h₁, h₂⟩ := feedTry_sessionAfter d f
  unfold feed
  rcases hT : feedTry d f with ⟨d', cs, e | b⟩
  all_goals rw [hT] at h₁ h₂
  · cases e
    · exact h₁
    · simp only [sessionAfter_append, h₁, Option.some_bind]
      exact destroyDecoder_sessionAfter (h₂ rfl)
  · exact h₁

end feed

/-- Every run of `feed` keeps the session discipline, and the replay ends on the session the run
leaves.
Source: `videotoolbox-decoder.cpp` lines 47–80
Kind: L -/
theorem feedRun_sessionAfter :
    ∀ (d : VideoToolboxDecoder) (fs : List Frame),
      sessionAfter d.session (feedRun d fs).2 = some (feedRun d fs).1.session
  | _, [] => rfl
  | d, f :: fs => by
      simp only [feedRun, sessionAfter_append, feed_sessionAfter, Option.some_bind]
      exact feedRun_sessionAfter _ fs

/-- What a call needs of the live session: none for `createDecoder`, the session it names for
`destroyDecoder` and `decodeFrame`.
Source: none: infrastructure
Kind: D -/
def DecoderCall.FindsSession : DecoderCall → Option Nat → Prop
  | .createDecoder _, live => live = none
  | .destroyDecoder s, live => s = live ∧ live.isSome
  | .decodeFrame s _, live => s = live ∧ live.isSome

/-- A call that the replay accepts finds the session it needs.
Source: none: infrastructure
Kind: L -/
theorem sessionAfter_call {live : Option Nat} {c : DecoderCall} {cs : List DecoderCall}
    (h : (sessionAfter live (c :: cs)).isSome) : c.FindsSession live := by
  cases c <;> simp only [sessionAfter] at h <;> split_ifs at h with hc
  · exact hc
  · cases h
  · exact ⟨hc.2, hc.2 ▸ hc.1⟩
  · cases h
  · exact ⟨hc.2, hc.2 ▸ hc.1⟩
  · cases h

/-- **Every run of `feed` keeps the session discipline.** Whatever the frames and whatever
VideoToolbox answers, each call of the run finds, as the calls before it leave it, no session
when it is `createDecoder`, so no session is leaked, and the live session when it is
`destroyDecoder` or `decodeFrame`, so `CFRelease` is never given a null session and no frame goes
to a released one.
Source: `videotoolbox-decoder.cpp` lines 47–80, 94–173
Kind: C -/
theorem feedRun_session_discipline (d : VideoToolboxDecoder) (fs : List Frame)
    {pre post : List DecoderCall} {c : DecoderCall} (h : (feedRun d fs).2 = pre ++ c :: post) :
    ∃ live, sessionAfter d.session pre = some live ∧ c.FindsSession live := by
  have hrun := feedRun_sessionAfter d fs
  rw [h, sessionAfter_append] at hrun
  obtain ⟨live, hpre, hc⟩ := Option.bind_eq_some.mp hrun
  exact ⟨live, hpre, sessionAfter_call (by rw [hc]; rfl)⟩

/-- From the constructed decoder, a key frame and then new parameter sets: the second session is
created once the first is destroyed.
Source: `videotoolbox-decoder.cpp` lines 47–80, 94–173
Kind: N+ -/
theorem feedRun_session_discipline_create :
    (feedRun VideoToolboxDecoder.init
        [⟨[⟨true⟩], false, true, true, .noErr⟩, ⟨[⟨false⟩], true, true, true, .noErr⟩]).2 =
      [.createDecoder 0, .decodeFrame (some 0) [⟨true⟩], .destroyDecoder (some 0)] ++
        .createDecoder 1 :: [.decodeFrame (some 1) [⟨false⟩]] ∧
      ∃ live, sessionAfter VideoToolboxDecoder.init.session
          [.createDecoder 0, .decodeFrame (some 0) [⟨true⟩], .destroyDecoder (some 0)] = some live ∧
        (DecoderCall.createDecoder 1).FindsSession live :=
  ⟨rfl, @feedRun_session_discipline VideoToolboxDecoder.init
    [⟨[⟨true⟩], false, true, true, .noErr⟩, ⟨[⟨false⟩], true, true, true, .noErr⟩]
    [.createDecoder 0, .decodeFrame (some 0) [⟨true⟩], .destroyDecoder (some 0)]
    [.decodeFrame (some 1) [⟨false⟩]] (.createDecoder 1) rfl⟩

/-! ## The Core Foundation objects -/

/-- What the decoder asks of Core Foundation about the objects it keeps in `_formatDesc` and
`_session`.
Source: none: infrastructure
Kind: D -/
inductive CfCall
  /-- `utils->createFormatDescription(*_psStore)` returned object `h`. -/
  | createFormatDescription (h : Nat)
  /-- `VTDecompressionSessionCreate` made session `h`. -/
  | createSession (h : Nat)
  /-- `CFRelease(h)`. -/
  | release (h : Nat)
deriving DecidableEq, Repr

/-- The decoder's two Core Foundation fields.
Source: `videotoolbox-decoder.cpp` lines 94–173, 218–229
Kind: D -/
structure DecoderObjects where
  /-- `_session`. -/
  session : Option Nat
  /-- `_formatDesc`. -/
  formatDesc : Option Nat
  /-- The number the next object created gets (model only). -/
  next : Nat
deriving DecidableEq, Repr

/-- The constructed decoder: both fields `NULL`.
Source: `videotoolbox-decoder.cpp` lines 35–40
Kind: D -/
def DecoderObjects.init : DecoderObjects := ⟨none, none, 0⟩

/-- `formatDescFromSpsPps()`: the new format description, then `if (_formatDesc)
CFRelease(_formatDesc); _formatDesc = format_desc;`. `none` when creating the description throws.
Source: `videotoolbox-decoder.cpp` lines 218–229
Kind: D -/
def formatDescFromSpsPps (o : DecoderObjects) (ok : Bool) :
    Option (DecoderObjects × List CfCall) :=
  if ok then
    some ({ o with formatDesc := some o.next, next := o.next + 1 },
      .createFormatDescription o.next :: (o.formatDesc.map CfCall.release).toList)
  else none

/-- `createDecoder()` as far as the two fields go: the format description, then the session. On a
throw (`formatOk` or `sessionOk` false) it keeps what it reached.
Source: `videotoolbox-decoder.cpp` lines 94–153
Kind: D -/
def createDecoderObjects (o : DecoderObjects) (formatOk sessionOk : Bool) :
    DecoderObjects × List CfCall :=
  match formatDescFromSpsPps o formatOk with
  | none => (o, [])
  | some (o₁, cs) =>
      if sessionOk then
        ({ o₁ with session := some o₁.next, next := o₁.next + 1 }, cs ++ [.createSession o₁.next])
      else (o₁, cs)

/-- `destroyDecoder()` as far as the two fields go: `CFRelease(_session); CFRelease(_formatDesc);`
then both `NULL`. `none` when either is `NULL`, which `CFRelease` does not accept.
Source: `videotoolbox-decoder.cpp` lines 155–173
Kind: D -/
def destroyDecoderObjects (o : DecoderObjects) : Option (DecoderObjects × List CfCall) :=
  match o.session, o.formatDesc with
  | some s, some f => some ({ o with session := none, formatDesc := none }, [.release s, .release f])
  | _, _ => none

/-- `~VideoToolboxDecoder()`: `if (_session) destroyDecoder();`, the calls it makes.
Source: `videotoolbox-decoder.cpp` lines 42–45
Kind: D -/
def destructObjects (o : DecoderObjects) : Option (List CfCall) :=
  if o.session.isSome then (destroyDecoderObjects o).map Prod.snd else some []

/-- A call of `feed` that reaches the objects: `createDecoder`, which `feed` makes without a
session, or `destroyDecoder`, which it makes with one (`feedRun_session_discipline`).
Source: `videotoolbox-decoder.cpp` lines 94–173
Kind: D -/
inductive ObjectOp
  /-- `createDecoder()`: whether the format description, then the session, could be created. -/
  | createDecoder (formatOk sessionOk : Bool)
  /-- `destroyDecoder()`. -/
  | destroyDecoder
deriving DecidableEq, Repr

/-- One call; `none` when the discipline does not allow it, or when it would crash.
Source: `videotoolbox-decoder.cpp` lines 94–173, 218–229
Kind: D -/
def objStep (o : DecoderObjects) : ObjectOp → Option (DecoderObjects × List CfCall)
  | .createDecoder formatOk sessionOk =>
      if o.session = none then some (createDecoderObjects o formatOk sessionOk) else none
  | .destroyDecoder => if o.session.isSome then destroyDecoderObjects o else none

/-- A sequence of calls: the fields reached and every Core Foundation call, in order.
Source: none: infrastructure
Kind: D -/
def objRun (o : DecoderObjects) : List ObjectOp → Option (DecoderObjects × List CfCall)
  | [] => some (o, [])
  | op :: ops => (objStep o op).bind fun r =>
      (objRun r.1 ops).map fun r' => (r'.1, r.2 ++ r'.2)

/-- The objects held after the calls `cs`, from `held`; `none` once an object is released that is
not held.
Source: none: infrastructure
Kind: D -/
def cfLedger (held : Multiset Nat) : List CfCall → Option (Multiset Nat)
  | [] => some held
  | .createFormatDescription h :: cs | .createSession h :: cs => cfLedger (h ::ₘ held) cs
  | .release h :: cs => if h ∈ held then cfLedger (held.erase h) cs else none

/-- The objects the fields point to.
Source: none: infrastructure
Kind: D -/
def DecoderObjects.held (o : DecoderObjects) : Multiset Nat :=
  ↑o.session.toList + ↑o.formatDesc.toList

/-- The fields keep to `createDecoder`'s order: a session only with a format description.
Source: none: infrastructure
Kind: D -/
def DecoderObjects.Ordered (o : DecoderObjects) : Prop :=
  o.session.isSome → o.formatDesc.isSome

/-- The ledger after two call lists is the ledger after the first, continued.
Source: none: infrastructure
Kind: L -/
theorem cfLedger_append (held : Multiset Nat) (cs cs' : List CfCall) :
    cfLedger held (cs ++ cs') = (cfLedger held cs).bind (cfLedger · cs') := by
  induction cs generalizing held with
  | nil => rfl
  | cons c cs ih =>
      cases c with
      | release h => simp only [List.cons_append, cfLedger]; split_ifs <;> simp [ih]
      | _ => simp only [List.cons_append, cfLedger, List.append_eq, ih]

/-- Building the format description holds the new one and releases the old one.
Source: `videotoolbox-decoder.cpp` lines 218–229
Kind: L -/
theorem formatDescFromSpsPps_ledger {o o₁ : DecoderObjects} {cs : List CfCall} {ok : Bool}
    (h : formatDescFromSpsPps o ok = some (o₁, cs)) (rest : Multiset Nat) :
    cfLedger (↑o.formatDesc.toList + rest) cs = some (↑o₁.formatDesc.toList + rest) ∧
      o₁.session = o.session ∧ o₁.formatDesc.isSome := by
  unfold formatDescFromSpsPps at h
  split_ifs at h
  cases h
  refine ⟨?_, rfl, rfl⟩
  cases hf : o.formatDesc <;> simp [cfLedger, Multiset.erase_cons_tail_of_mem, Multiset.cons_add]

/-- **Step.** A call the discipline allows keeps the fields in order, and the ledger moves from the
objects the fields held to the objects they hold.
Source: `videotoolbox-decoder.cpp` lines 94–173, 218–229
Kind: L -/
theorem objStep_ledger {o o' : DecoderObjects} {op : ObjectOp} {cs : List CfCall}
    (hord : o.Ordered) (h : objStep o op = some (o', cs)) :
    cfLedger o.held cs = some o'.held ∧ o'.Ordered := by
  cases op with
  | createDecoder formatOk sessionOk =>
      simp only [objStep, Option.ite_none_right_eq_some, Option.some.injEq] at h
      obtain ⟨hs, h⟩ := h
      obtain ⟨rfl, rfl⟩ : o' = (createDecoderObjects o formatOk sessionOk).1 ∧
          cs = (createDecoderObjects o formatOk sessionOk).2 := by rw [h]; exact ⟨rfl, rfl⟩
      unfold createDecoderObjects
      rcases hf : formatDescFromSpsPps o formatOk with _ | ⟨o₁, c₁⟩
      · exact ⟨rfl, hord⟩
      · obtain ⟨hl, hs₁, hd₁⟩ := formatDescFromSpsPps_ledger hf 0
        simp only [add_zero] at hl
        dsimp only
        split_ifs
        · refine ⟨?_, fun _ => hd₁⟩
          simp [cfLedger_append, DecoderObjects.held, hs, hl, hs₁, cfLedger, add_comm,
            ← Multiset.singleton_add]
        · exact ⟨by simpa [DecoderObjects.held, hs, hs₁] using hl, fun h => by simp [hs₁, hs] at h⟩
  | destroyDecoder =>
      simp only [objStep, Option.ite_none_right_eq_some] at h
      obtain ⟨hs, h⟩ := h
      unfold destroyDecoderObjects at h
      split at h
      · cases h
        rename_i s f hs' hf
        refine ⟨?_, fun h => by simp at h⟩
        simp [cfLedger, DecoderObjects.held, hs', hf, Multiset.erase_cons_head]
      · cases h

/-- **Run.** Every sequence of calls the discipline allows keeps the fields in order, and the
ledger moves from the objects the fields held to the objects they hold.
Source: `videotoolbox-decoder.cpp` lines 94–173, 218–229
Kind: L -/
theorem objRun_ledger_of :
    ∀ {o o' : DecoderObjects} (ops : List ObjectOp) {log : List CfCall}, o.Ordered →
      objRun o ops = some (o', log) → cfLedger o.held log = some o'.held ∧ o'.Ordered
  | _, _, [], _, hord, h => by cases h; exact ⟨rfl, hord⟩
  | o, _, op :: ops, _, hord, h => by
      obtain ⟨⟨o₁, c₁⟩, h₁, h⟩ := Option.bind_eq_some.mp h
      obtain ⟨⟨o₂, c₂⟩, h₂, h⟩ := Option.map_eq_some'.mp h
      cases h
      obtain ⟨hl₁, hord₁⟩ := objStep_ledger hord h₁
      obtain ⟨hl₂, hord₂⟩ := objRun_ledger_of ops hord₁ h₂
      exact ⟨by rw [cfLedger_append, hl₁, Option.some_bind, hl₂], hord₂⟩

/-- **No object is released twice, and none is lost while the decoder lives.** From the
constructed decoder, whatever `createDecoder` and `destroyDecoder` calls `feed` makes, every
`CFRelease` releases an object the decoder holds, the objects created and not released are exactly
those `_session` and `_formatDesc` point to, and there is a format description whenever there is
a session, so `destroyDecoder` never releases `NULL`.
Source: `videotoolbox-decoder.cpp` lines 94–173, 218–229
Kind: C -/
theorem objRun_ledger {ops : List ObjectOp} {o : DecoderObjects} {log : List CfCall}
    (h : objRun DecoderObjects.init ops = some (o, log)) :
    cfLedger 0 log = some o.held ∧ (o.session.isSome → o.formatDesc.isSome) :=
  objRun_ledger_of ops (fun h => by cases h) h

/-- Two sessions in a row: both are released, the second's format description is held.
Source: `videotoolbox-decoder.cpp` lines 94–173, 218–229
Kind: N+ -/
theorem objRun_ledger_twice :
    objRun DecoderObjects.init [.createDecoder true true, .destroyDecoder, .createDecoder true true] =
        some (⟨some 3, some 2, 4⟩, [.createFormatDescription 0, .createSession 1, .release 1,
          .release 0, .createFormatDescription 2, .createSession 3]) ∧
      cfLedger 0 [.createFormatDescription 0, .createSession 1, .release 1, .release 0,
          .createFormatDescription 2, .createSession 3] = some (⟨some 3, some 2, 4⟩ : DecoderObjects).held ∧
      ((some 3 : Option Nat).isSome → (some 2 : Option Nat).isSome) :=
  ⟨rfl, @objRun_ledger [.createDecoder true true, .destroyDecoder, .createDecoder true true]
    ⟨some 3, some 2, 4⟩ _ rfl⟩

/-! ## What the destructor leaves -/

/-- What a call tells of `_formatDesc` when it is the last to set it: `createDecoder` that built
the format description, with whether it then created the session.
Source: `videotoolbox-decoder.cpp` lines 94–153, 218–229
Kind: D -/
def ObjectOp.formatBuilt : ObjectOp → Option Bool
  | .createDecoder true sessionOk => some sessionOk
  | _ => none

/-- Whether the last `createDecoder` of a sequence that built a format description created the
session too; `none` if no call built one.
Source: none: infrastructure
Kind: D -/
def lastFormatBuilt : List ObjectOp → Option Bool
  | [] => none
  | op :: ops => (lastFormatBuilt ops).or op.formatBuilt

/-- The decoder holds a format description but no session.
Source: none: infrastructure
Kind: D -/
def DecoderObjects.Stranded (o : DecoderObjects) : Prop :=
  o.session = none ∧ o.formatDesc.isSome

/-- Whether the format description is stranded is decidable.
Source: none: infrastructure
Kind: D -/
instance (o : DecoderObjects) : Decidable o.Stranded :=
  inferInstanceAs (Decidable (_ ∧ _))

/-- A call strands the format description exactly when it builds one and fails to create the
session; a call that builds none leaves it as it was.
Source: `videotoolbox-decoder.cpp` lines 94–173, 218–229
Kind: L -/
theorem objStep_stranded {o o' : DecoderObjects} {op : ObjectOp} {cs : List CfCall}
    (h : objStep o op = some (o', cs)) :
    o'.Stranded ↔ match op.formatBuilt with
      | some sessionOk => sessionOk = false
      | none => o.Stranded := by
  cases op with
  | createDecoder formatOk sessionOk =>
      simp only [objStep, Option.ite_none_right_eq_some, Option.some.injEq] at h
      obtain ⟨hs, h⟩ := h
      obtain rfl : o' = (createDecoderObjects o formatOk sessionOk).1 := by rw [h]
      unfold createDecoderObjects formatDescFromSpsPps
      cases formatOk <;> cases sessionOk <;> simp [ObjectOp.formatBuilt, DecoderObjects.Stranded, hs]
  | destroyDecoder =>
      simp only [objStep, Option.ite_none_right_eq_some] at h
      obtain ⟨hs, h⟩ := h
      unfold destroyDecoderObjects at h
      split at h
      · cases h
        rename_i s f hs' _
        simp [DecoderObjects.Stranded, ObjectOp.formatBuilt, hs']
      · cases h

/-- Over a sequence of calls, the format description is stranded exactly when the last call that
built one failed to create the session, or, if none built one, when it was stranded at the start.
Source: `videotoolbox-decoder.cpp` lines 94–173, 218–229
Kind: L -/
theorem objRun_stranded :
    ∀ {o o' : DecoderObjects} (ops : List ObjectOp) {log : List CfCall},
      objRun o ops = some (o', log) →
      (o'.Stranded ↔ match lastFormatBuilt ops with
        | some sessionOk => sessionOk = false
        | none => o.Stranded)
  | _, _, [], _, h => by cases h; rfl
  | o, _, op :: ops, _, h => by
      obtain ⟨⟨o₁, c₁⟩, h₁, h⟩ := Option.bind_eq_some.mp h
      obtain ⟨⟨o₂, c₂⟩, h₂, h⟩ := Option.map_eq_some'.mp h
      cases h
      rw [objRun_stranded ops h₂, lastFormatBuilt]
      cases lastFormatBuilt ops
      · exact objStep_stranded h₁
      · rfl

/-- The destructor releases the session and its format description if there is a session;
otherwise it releases nothing.
Source: `videotoolbox-decoder.cpp` lines 42–45
Kind: L -/
theorem destructObjects_ledger {o : DecoderObjects} (hord : o.Ordered) :
    ∃ log', destructObjects o = some log' ∧
      cfLedger o.held log' = some (if o.Stranded then o.held else 0) := by
  unfold destructObjects destroyDecoderObjects
  rcases hs : o.session with _ | s
  · refine ⟨[], rfl, ?_⟩
    rcases hf : o.formatDesc with _ | f <;>
      simp [cfLedger, DecoderObjects.Stranded, DecoderObjects.held, hs, hf]
  · obtain ⟨f, hf⟩ := Option.isSome_iff_exists.mp (hord (by simp [hs]))
    refine ⟨[.release s, .release f], by simp [hf], ?_⟩
    simp [cfLedger, DecoderObjects.Stranded, DecoderObjects.held, hs, hf, Multiset.erase_cons_head]

/-- A call sets `_formatDesc` only to a format description it creates.
Source: `videotoolbox-decoder.cpp` lines 94–173, 218–229
Kind: L -/
theorem objStep_formatDesc {o o' : DecoderObjects} {op : ObjectOp} {cs : List CfCall} {f : Nat}
    (h : objStep o op = some (o', cs)) (hf : o'.formatDesc = some f) :
    o.formatDesc = some f ∨ CfCall.createFormatDescription f ∈ cs := by
  cases op with
  | createDecoder formatOk sessionOk =>
      simp only [objStep, Option.ite_none_right_eq_some, Option.some.injEq, Prod.ext_iff] at h
      obtain ⟨-, rfl, rfl⟩ := h
      unfold createDecoderObjects formatDescFromSpsPps at hf ⊢
      cases formatOk <;> cases sessionOk <;> simp_all
  | destroyDecoder =>
      simp only [objStep, Option.ite_none_right_eq_some] at h
      obtain ⟨-, h⟩ := h
      unfold destroyDecoderObjects at h
      split at h
      · cases h; cases hf
      · cases h

/-- Over a sequence of calls, `_formatDesc` ends on the description it started with or on one the
calls created.
Source: `videotoolbox-decoder.cpp` lines 94–173, 218–229
Kind: L -/
theorem objRun_formatDesc :
    ∀ {o o' : DecoderObjects} (ops : List ObjectOp) {log : List CfCall} {f : Nat},
      objRun o ops = some (o', log) → o'.formatDesc = some f →
      o.formatDesc = some f ∨ CfCall.createFormatDescription f ∈ log
  | _, _, [], _, _, h, hf => by cases h; exact .inl hf
  | o, _, op :: ops, _, _, h, hf => by
      obtain ⟨⟨o₁, c₁⟩, h₁, h⟩ := Option.bind_eq_some.mp h
      obtain ⟨⟨o₂, c₂⟩, h₂, h⟩ := Option.map_eq_some'.mp h
      cases h
      rcases objRun_formatDesc ops h₂ hf with h₁f | hmem
      · exact (objStep_formatDesc h₁ h₁f).imp_right (List.mem_append_left _)
      · exact .inr (List.mem_append_right _ hmem)

/-- **The destructor leaks the format description of a failed session creation.** From the
constructed decoder, after any `createDecoder` and `destroyDecoder` calls `feed` makes and then
the destructor (`~VideoToolboxDecoder` calls `destroyDecoder` only `if (_session)`), every release
is of an object held. When the last `createDecoder` that built a format description failed to
create the session, exactly one object is never released: the format description `_formatDesc`
points to, which that call created. Otherwise every object created is released.
Source: `videotoolbox-decoder.cpp` lines 42–45, 94–173, 218–229
Kind: C -/
theorem objRun_destruct_leak {ops : List ObjectOp} {o : DecoderObjects} {log : List CfCall}
    (h : objRun DecoderObjects.init ops = some (o, log)) :
    ∃ log', destructObjects o = some log' ∧
      (lastFormatBuilt ops = some false → ∃ f, o.formatDesc = some f ∧
        CfCall.createFormatDescription f ∈ log ∧ cfLedger 0 (log ++ log') = some {f}) ∧
      (lastFormatBuilt ops ≠ some false → cfLedger 0 (log ++ log') = some 0) := by
  obtain ⟨hl, hord⟩ := objRun_ledger_of ops (fun h => by cases h) h
  rw [show DecoderObjects.init.held = 0 from rfl] at hl
  obtain ⟨log', hd, hl'⟩ := destructObjects_ledger hord
  have hst := objRun_stranded ops h
  have hall : cfLedger 0 (log ++ log') = some (if o.Stranded then o.held else 0) := by
    rw [cfLedger_append, hl, Option.some_bind, hl']
  refine ⟨log', hd, fun hlast => ?_, fun hlast => ?_⟩
  · have hs : o.Stranded := hst.mpr (by simp [hlast])
    obtain ⟨hn, f, hf⟩ := And.imp_right Option.isSome_iff_exists.mp hs
    refine ⟨f, hf, (objRun_formatDesc ops h hf).resolve_left (by simp [DecoderObjects.init]), ?_⟩
    simp [hall, hs, DecoderObjects.held, hn, hf]
  · have hs : ¬o.Stranded := fun hs => hlast <| by
      cases hb : lastFormatBuilt ops with
      | none =>
          rw [hb] at hst
          exact absurd (hst.mp hs) (by simp [DecoderObjects.Stranded, DecoderObjects.init])
      | some b => simp only [hb] at hst; simp [hst.mp hs]
    rw [hall, if_neg hs]

/-- A session creation that fails after the format description was built: the description,
object `0`, is never released.
Source: `videotoolbox-decoder.cpp` lines 42–45, 94–153
Kind: N+ -/
theorem objRun_destruct_leak_session_failed :
    objRun DecoderObjects.init [.createDecoder true false] =
        some (⟨none, some 0, 1⟩, [.createFormatDescription 0]) ∧
      lastFormatBuilt [.createDecoder true false] = some false ∧
      ∃ log', destructObjects ⟨none, some 0, 1⟩ = some log' ∧
        (lastFormatBuilt [.createDecoder true false] = some false → ∃ f,
          (⟨none, some 0, 1⟩ : DecoderObjects).formatDesc = some f ∧
          CfCall.createFormatDescription f ∈ [CfCall.createFormatDescription 0] ∧
          cfLedger 0 ([.createFormatDescription 0] ++ log') = some {f}) ∧
        (lastFormatBuilt [.createDecoder true false] ≠ some false →
          cfLedger 0 ([.createFormatDescription 0] ++ log') = some 0) :=
  ⟨rfl, rfl, @objRun_destruct_leak [.createDecoder true false] ⟨none, some 0, 1⟩ _ rfl⟩

/-! ## The objects along a run of `feed` -/

/-- The object operation a decoder call of `feed` makes: a `createDecoder` that returned built
both objects; `decodeFrame` touches neither. (A `createDecoder` that throws leaves no call in
`feed`'s log; the object model covers it with its own operations.)
Source: `videotoolbox-decoder.cpp` lines 47–80
Kind: D -/
def DecoderCall.objectOp : DecoderCall → Option ObjectOp
  | .createDecoder _ => some (.createDecoder true true)
  | .destroyDecoder _ => some .destroyDecoder
  | .decodeFrame _ _ => none

/-- A run is a step followed by the rest of the run.
Source: none: infrastructure
Kind: L -/
theorem objRun_cons {o o₁ o' : DecoderObjects} {op : ObjectOp} {ops : List ObjectOp}
    {c₁ log : List CfCall} (h₁ : objStep o op = some (o₁, c₁)) (h : objRun o₁ ops = some (o', log)) :
    objRun o (op :: ops) = some (o', c₁ ++ log) := by
  simp only [objRun, h₁, Option.some_bind, h, Option.map_some']

/-- Calls the session replay accepts are accepted by the object model from any state in order
whose session is present exactly when the replay's is, and leave the two agreeing.
Source: `videotoolbox-decoder.cpp` lines 94–173
Kind: L -/
theorem sessionAfter_objRun :
    ∀ (live : Option Nat) (cs : List DecoderCall) {live' : Option Nat} {o : DecoderObjects},
      o.Ordered → o.session.isSome = live.isSome → sessionAfter live cs = some live' →
      ∃ o' log, objRun o (cs.filterMap DecoderCall.objectOp) = some (o', log) ∧
        o'.session.isSome = live'.isSome
  | _, [], _, o, _, hs, h => by cases h; exact ⟨o, [], rfl, hs⟩
  | live, .createDecoder n :: cs, _, o, hord, hs, h => by
      simp only [sessionAfter, Option.ite_none_right_eq_some] at h
      obtain ⟨rfl, h⟩ := h
      have h₁ : objStep o (.createDecoder true true) = some (createDecoderObjects o true true) :=
        if_pos (Option.not_isSome_iff_eq_none.mp (by simp [hs]))
      obtain ⟨o', log, hrun, hs'⟩ :=
        sessionAfter_objRun (some n) cs (objStep_ledger hord h₁).2 rfl h
      exact ⟨o', _, objRun_cons h₁ hrun, hs'⟩
  | live, .destroyDecoder s :: cs, _, o, hord, hs, h => by
      simp only [sessionAfter, Option.ite_none_right_eq_some] at h
      obtain ⟨⟨hsome, rfl⟩, h⟩ := h
      obtain ⟨s', hs'⟩ := Option.isSome_iff_exists.mp (hs.trans hsome)
      obtain ⟨f, hf⟩ := Option.isSome_iff_exists.mp (hord (by simp [hs']))
      have h₁ : objStep o .destroyDecoder =
          some ({ o with session := none, formatDesc := none }, [.release s', .release f]) := by
        simp [objStep, destroyDecoderObjects, hs', hf]
      obtain ⟨o', log, hrun, hs''⟩ := sessionAfter_objRun none cs (objStep_ledger hord h₁).2 rfl h
      exact ⟨o', _, objRun_cons h₁ hrun, hs''⟩
  | live, .decodeFrame s ns :: cs, _, o, hord, hs, h => by
      simp only [sessionAfter, Option.ite_none_right_eq_some] at h
      exact sessionAfter_objRun live cs hord hs h.2

/-- **`feed`'s calls on the objects.** For every decoder state and every sequence of `feed`
calls, the `createDecoder` and `destroyDecoder` calls the run makes are accepted by the object
model from every state in order whose session is present exactly when `feed`'s is:
`createDecoder` always finds `_session` `NULL`, and `destroyDecoder` finds the session and the
format description both set. The objects the run creates are released at most once, the ledger
ends on what the fields hold, and the model ends with a session exactly when `feed` does.
Source: `videotoolbox-decoder.cpp` lines 47–80, 94–173
Kind: C -/
theorem feedRun_objRun (d : VideoToolboxDecoder) (fs : List Frame) {o : DecoderObjects}
    (hord : o.Ordered) (hs : o.session.isSome = d.session.isSome) :
    ∃ o' log, objRun o ((feedRun d fs).2.filterMap DecoderCall.objectOp) = some (o', log) ∧
      cfLedger o.held log = some o'.held ∧ o'.Ordered ∧
      o'.session.isSome = (feedRun d fs).1.session.isSome := by
  obtain ⟨o', log, h, hs'⟩ := sessionAfter_objRun _ _ hord hs (feedRun_sessionAfter d fs)
  obtain ⟨hl, hord'⟩ := objRun_ledger_of _ hord h
  exact ⟨o', log, h, hl, hord', hs'⟩

/-- From the constructed decoder and its constructed objects, a key frame and then new parameter
sets: two sessions are created and the first torn down.
Source: `videotoolbox-decoder.cpp` lines 47–80
Kind: N+ -/
theorem feedRun_objRun_two_sessions :
    DecoderObjects.init.Ordered ∧
      DecoderObjects.init.session.isSome = VideoToolboxDecoder.init.session.isSome ∧
      ∃ o' log, objRun DecoderObjects.init ((feedRun VideoToolboxDecoder.init
          [⟨[⟨true⟩], false, true, true, .noErr⟩, ⟨[⟨false⟩], true, true, true, .noErr⟩]).2.filterMap
          DecoderCall.objectOp) = some (o', log) ∧
        cfLedger DecoderObjects.init.held log = some o'.held ∧ o'.Ordered ∧
        o'.session.isSome = (feedRun VideoToolboxDecoder.init
          [⟨[⟨true⟩], false, true, true, .noErr⟩, ⟨[⟨false⟩], true, true, true, .noErr⟩]).1.session.isSome :=
  ⟨(fun h => by cases h), rfl, @feedRun_objRun VideoToolboxDecoder.init
    [⟨[⟨true⟩], false, true, true, .noErr⟩, ⟨[⟨false⟩], true, true, true, .noErr⟩]
    DecoderObjects.init (fun h => by cases h) rfl⟩

end MediaStreamer.VideoToolbox
