import Mathlib.Data.Multiset.Basic
import MediaStreamer.Fmtp
import MediaStreamer.MediaCodec

/-!
# The MediaCodec H.264 filter's parameter-set blocks

`MediaCodecH264DecoderFilterImpl` owns two message blocks, `_sps` and `_pps`. `addFmtp` fills
both from the `sprop-parameter-sets` attribute of an fmtp, `process` hands the pair to the NAL
unpacker once both are there, `checkSpsChange` and `checkPpsChange` keep a copy of the SPS or
PPS last seen (a changed SPS dropping the PPS), and the destructor frees what is left.

Every block the filter makes (`allocb`, `dupb`) should be freed (`freemsg`) or handed over exactly
once. The model numbers the blocks in the order they are made and keeps, beside the filter, a
`ledger` of the blocks the filter owns: a block made is added, a block freed or handed over is
taken away, and freeing or handing over a block the filter does not own fails. The ledger of a
run therefore says both whether a block is released twice (it fails) and whether one is lost
(it still owns a block neither field holds).

`addFmtp` writes both fields without freeing what they held. Every other operation keeps the
ledger equal to the blocks the fields hold.

* `step_ledger` — one operation: the ledger after it holds the fields' blocks and the blocks
  `addFmtp` overwrote (`overwritten`), and no release fails.
* `run_destroy_ledger` — over every run from the constructed filter, followed by the destructor,
  no release fails and the blocks left owned are exactly those `addFmtp` overwrote; so a run
  that calls `addFmtp` only while both fields are empty frees or hands over every block it
  makes, exactly once.
-/

namespace MediaStreamer.MediaCodecFilter

open Libc Fmtp MediaCodec

/-! ## The filter -/

/-- A message block the filter owns: the number of the `allocb` or `dupb` that made it, and its
bytes.
Source: `media-codec-h264-decoder.cpp` lines 129–208
Kind: D -/
structure Mblk where
  /-- The block's number, in the order the filter made its blocks. -/
  id : Nat
  /-- The bytes from `b_rptr` to `b_wptr`. -/
  data : Bytes
deriving DecidableEq, Repr

/-- The filter's fields, and the number the next block it makes gets.
Source: `media-codec-h264-decoder.cpp` lines 129–208
Kind: D -/
structure FilterImpl where
  /-- `_sps`; `none` for `nullptr`. -/
  sps : Option Mblk
  /-- `_pps`; `none` for `nullptr`. -/
  pps : Option Mblk
  /-- The number of the next block. -/
  next : Nat
deriving DecidableEq, Repr

/-- The filter as constructed: both fields `nullptr`.
Source: `media-codec-h264-decoder.cpp` lines 131–132, 210–211
Kind: D -/
def FilterImpl.init : FilterImpl := ⟨none, none, 0⟩

/-- What the filter does with message blocks, in order.
Source: none: infrastructure
Kind: D -/
inductive BlockCall
  /-- `allocb` made the block `m`. -/
  | allocb (m : Mblk)
  /-- `dupb` made the block `m`, a duplicate of a block the caller owns. -/
  | dupb (m : Mblk)
  /-- `freemsg(m)`. -/
  | freemsg (m : Mblk)
  /-- `setOutOfBandSpsPps(sps, pps)` on the unpacker, which takes both blocks. -/
  | setOutOfBandSpsPps (sps pps : Mblk)
  /-- `H26xDecoderFilter::process()`. -/
  | process
deriving DecidableEq, Repr

/-- `if (field) freemsg(field);`
Source: `media-codec-h264-decoder.cpp` lines 134–135, 167, 172
Kind: D -/
def freeIfHeld : Option Mblk → List BlockCall
  | some b => [.freemsg b]
  | none => []

/-- `updateSps(sps)`: frees `_sps` and keeps a duplicate of `sps`.
Source: `media-codec-h264-decoder.cpp` lines 166–169
Kind: D -/
def updateSps (f : FilterImpl) (sps : Bytes) : FilterImpl × List BlockCall :=
  let b : Mblk := ⟨f.next, sps⟩
  ({ f with sps := some b, next := f.next + 1 }, freeIfHeld f.sps ++ [.dupb b])

/-- `updatePps(pps)`: frees `_pps` and keeps a duplicate of `pps`, or `nullptr`.
Source: `media-codec-h264-decoder.cpp` lines 171–175
Kind: D -/
def updatePps (f : FilterImpl) : Option Bytes → FilterImpl × List BlockCall
  | some pps =>
    let b : Mblk := ⟨f.next, pps⟩
    ({ f with pps := some b, next := f.next + 1 }, freeIfHeld f.pps ++ [.dupb b])
  | none => ({ f with pps := none }, freeIfHeld f.pps)

/-- The test both checks make: `(msgdsize(m) != msgdsize(held)) ||
(memcmp(held->b_rptr, m->b_rptr, msgdsize(m)) != 0)`.
Source: `media-codec-h264-decoder.cpp` lines 180, 197
Kind: D -/
def blockChanged (held : Mblk) (m : Bytes) : Bool :=
  decide (m.length ≠ held.data.length) || decide (memcmp held.data m m.length ≠ 0)

/-- `checkSpsChange(sps)`: the filter after it, its calls, and its answer. A changed SPS
replaces `_sps` and drops `_pps`; the first one is kept and answers `false`.
Source: `media-codec-h264-decoder.cpp` lines 177–192
Kind: D -/
def checkSpsChange (f : FilterImpl) (sps : Bytes) : FilterImpl × List BlockCall × Bool :=
  match f.sps with
  | some cur =>
    if blockChanged cur sps then
      let r₁ := updateSps f sps
      let r₂ := updatePps r₁.1 none
      (r₂.1, r₁.2 ++ r₂.2, true)
    else (f, [], false)
  | none =>
    let r := updateSps f sps
    (r.1, r.2, false)

/-- `checkPpsChange(pps)`: as `checkSpsChange`, on `_pps`, with nothing dropped.
Source: `media-codec-h264-decoder.cpp` lines 194–208
Kind: D -/
def checkPpsChange (f : FilterImpl) (pps : Bytes) : FilterImpl × List BlockCall × Bool :=
  match f.pps with
  | some cur =>
    if blockChanged cur pps then
      let r := updatePps f (some pps)
      (r.1, r.2, true)
    else (f, [], false)
  | none =>
    let r := updatePps f (some pps)
    (r.1, r.2, false)

/-- `process()`: hands both blocks to the unpacker once both are there, then runs the base
filter's `process`.
Source: `media-codec-h264-decoder.cpp` lines 138–145
Kind: D -/
def process (f : FilterImpl) : FilterImpl × List BlockCall :=
  match f.sps, f.pps with
  | some s, some p => ({ f with sps := none, pps := none }, [.setOutOfBandSpsPps s p, .process])
  | _, _ => (f, [.process])

section Fmtp

variable (b64Decode : List Char → Bytes)

/-- `addFmtp(fmtp)`: with a `sprop-parameter-sets` value (read into `char value[256]`) that holds
a comma, `_sps` and `_pps` become fresh blocks with what the two halves decode to; `b64Decode`
is `b64_decode(src, strlen(src), b_wptr, 256)`, from `b64`, outside `src/`. The blocks the fields
held are not freed.
Source: `media-codec-h264-decoder.cpp` lines 147–163
Kind: D -/
def addFmtp (f : FilterImpl) (fmtp : CStr) : FilterImpl × List BlockCall :=
  match fmtpGetValue fmtp.chars "sprop-parameter-sets".toList 256 with
  | some value =>
    match value.span (· ≠ ',') with
    | (b64Sps, _ :: b64Pps) =>
      let s : Mblk := ⟨f.next, b64Decode b64Sps⟩
      let p : Mblk := ⟨f.next + 1, b64Decode b64Pps⟩
      ({ f with sps := some s, pps := some p, next := f.next + 2 }, [.allocb s, .allocb p])
    | (_, []) => (f, [])
  | none => (f, [])

end Fmtp

/-- `~MediaCodecH264DecoderFilterImpl()`: frees the blocks left.
Source: `media-codec-h264-decoder.cpp` lines 133–136
Kind: D -/
def destroy (f : FilterImpl) : List BlockCall := freeIfHeld f.sps ++ freeIfHeld f.pps

/-- What the filter can be asked to do. `updateSps` and `updatePps` are reached through the
checks.
Source: `media-codec-h264-decoder.cpp` lines 129–208
Kind: D -/
inductive Op
  | addFmtp (fmtp : CStr)
  | process
  | checkSpsChange (sps : Bytes)
  | checkPpsChange (pps : Bytes)

/-- One operation: the filter after it and its calls.
Source: `media-codec-h264-decoder.cpp` lines 129–208
Kind: D -/
def step (b64Decode : List Char → Bytes) (f : FilterImpl) : Op → FilterImpl × List BlockCall
  | .addFmtp fmtp => addFmtp b64Decode f fmtp
  | .process => process f
  | .checkSpsChange sps => let r := checkSpsChange f sps; (r.1, r.2.1)
  | .checkPpsChange pps => let r := checkPpsChange f pps; (r.1, r.2.1)

/-- A run: the operations in turn, and all their calls.
Source: `media-codec-h264-decoder.cpp` lines 129–208
Kind: D -/
def run (b64Decode : List Char → Bytes) (f : FilterImpl) : List Op → FilterImpl × List BlockCall
  | [] => (f, [])
  | op :: ops =>
    let r := step b64Decode f op
    let r' := run b64Decode r.1 ops
    (r'.1, r.2 ++ r'.2)

/-! ## The ledger of owned blocks -/

/-- The numbers of the blocks a field holds.
Source: none: infrastructure
Kind: D -/
def idsOf : Option Mblk → Multiset Nat
  | some b => {b.id}
  | none => 0

/-- The numbers of the blocks the filter's fields hold.
Source: none: infrastructure
Kind: D -/
def FilterImpl.held (f : FilterImpl) : Multiset Nat := idsOf f.sps + idsOf f.pps

/-- A field holding a block holds its number.
Source: none: infrastructure
Kind: L -/
@[simp]
theorem idsOf_some (b : Mblk) : idsOf (some b) = {b.id} := rfl

/-- An empty field holds nothing.
Source: none: infrastructure
Kind: L -/
@[simp]
theorem idsOf_none : idsOf none = 0 := rfl

/-- Taking ownership of block `i`: it must not be owned already.
Source: none: infrastructure
Kind: D -/
def acquire (owned : Multiset Nat) (i : Nat) : Option (Multiset Nat) :=
  if i ∈ owned then none else some (i ::ₘ owned)

/-- Giving up block `i`, by freeing it or handing it over: it must be owned.
Source: none: infrastructure
Kind: D -/
def release (owned : Multiset Nat) (i : Nat) : Option (Multiset Nat) :=
  if i ∈ owned then some (owned.erase i) else none

/-- The blocks owned after one call.
Source: none: infrastructure
Kind: D -/
def BlockCall.owning (owned : Multiset Nat) : BlockCall → Option (Multiset Nat)
  | .allocb m | .dupb m => acquire owned m.id
  | .freemsg m => release owned m.id
  | .setOutOfBandSpsPps s p => (release owned s.id).bind (release · p.id)
  | .process => some owned

/-- The blocks owned after the calls `cs`; `none` once a call releases a block not owned.
Source: none: infrastructure
Kind: D -/
def ledger (owned : Multiset Nat) : List BlockCall → Option (Multiset Nat)
  | [] => some owned
  | c :: cs => (c.owning owned).bind (ledger · cs)

/-- What an operation loses: the blocks the fields held when `addFmtp` overwrites them.
Source: `media-codec-h264-decoder.cpp` lines 147–163
Kind: D -/
def overwritten (f : FilterImpl) : Op → Multiset Nat
  | .addFmtp fmtp =>
    match fmtpGetValue fmtp.chars "sprop-parameter-sets".toList 256 with
    | some value => if ',' ∈ value then f.held else 0
    | none => 0
  | _ => 0

/-- What a run loses.
Source: none: infrastructure
Kind: D -/
def runLost (b64Decode : List Char → Bytes) (f : FilterImpl) : List Op → Multiset Nat
  | [] => 0
  | op :: ops => overwritten f op + runLost b64Decode (step b64Decode f op).1 ops

/-- Every block owned, held or lost, was made before the next one.
Source: none: infrastructure
Kind: D -/
def Bounded (f : FilterImpl) (extra : Multiset Nat) : Prop := ∀ i ∈ f.held + extra, i < f.next

/-! ### Ledger lemmas -/

/-- No call leaves the ledger as it is.
Source: none: infrastructure
Kind: L -/
@[simp]
theorem ledger_nil (owned : Multiset Nat) : ledger owned [] = some owned := rfl

/-- The ledger after two call lists is the ledger after the first, continued.
Source: none: infrastructure
Kind: L -/
theorem ledger_append (owned : Multiset Nat) (a b : List BlockCall) :
    ledger owned (a ++ b) = (ledger owned a).bind (ledger · b) := by
  induction a generalizing owned with
  | nil => rfl
  | cons c cs ih =>
    simp only [List.cons_append, ledger]
    cases c.owning owned <;> simp [ih]

/-- `if (x) freemsg(x)` releases exactly what the field held.
Source: none: infrastructure
Kind: L -/
theorem ledger_freeIfHeld (o : Option Mblk) (rest : Multiset Nat) :
    ledger (idsOf o + rest) (freeIfHeld o) = some rest := by
  cases o <;>
    simp [freeIfHeld, idsOf, ledger, BlockCall.owning, release, Multiset.singleton_add]

/-- A block made anew is added to what the filter owns.
Source: none: infrastructure
Kind: L -/
theorem ledger_acquire {owned : Multiset Nat} {b : Mblk} (h : b.id ∉ owned) :
    ledger owned [.dupb b] = some (b.id ::ₘ owned) ∧
      ledger owned [.allocb b] = some (b.id ::ₘ owned) := by
  simp [ledger, BlockCall.owning, acquire, h]

/-- Freeing what a field holds and keeping a fresh duplicate in it.
Source: none: infrastructure
Kind: L -/
theorem ledger_replace (o : Option Mblk) {rest : Multiset Nat} {b : Mblk} (h : b.id ∉ rest) :
    ledger (idsOf o + rest) (freeIfHeld o ++ [.dupb b]) = some (b.id ::ₘ rest) := by
  rw [ledger_append, ledger_freeIfHeld, Option.some_bind, (ledger_acquire h).1]

/-- A filter stays bounded when what it owns afterwards was owned before or made since.
Source: none: infrastructure
Kind: L -/
theorem Bounded.mono {f f' : FilterImpl} {extra extra' : Multiset Nat} (h : Bounded f extra)
    (hn : f.next ≤ f'.next)
    (hs : ∀ i ∈ f'.held + extra', i ∈ f.held + extra ∨ (f.next ≤ i ∧ i < f'.next)) :
    Bounded f' extra' := fun i hi =>
  (hs i hi).elim (fun hm => lt_of_lt_of_le (h i hm) hn) And.right

/-! ### One operation -/

section Steps

variable {f : FilterImpl} {extra : Multiset Nat}

/-- `updateSps` replaces the SPS block it held by a duplicate of the new one.
Source: `media-codec-h264-decoder.cpp` lines 166–169
Kind: L -/
theorem updateSps_ledger (h : Bounded f extra) (sps : Bytes) :
    ledger (f.held + extra) (updateSps f sps).2 = some ((updateSps f sps).1.held + extra) ∧
      Bounded (updateSps f sps).1 extra := by
  have hn : f.next ∉ idsOf f.pps + extra := fun hm =>
    lt_irrefl _ (h _ (by rw [FilterImpl.held, add_assoc]; exact Multiset.mem_add.mpr (.inr hm)))
  refine ⟨?_, h.mono (Nat.le_succ _) fun i hi => ?_⟩
  · rw [FilterImpl.held, add_assoc, updateSps, ledger_replace f.sps hn]
    simp only [FilterImpl.held, idsOf_some, Multiset.singleton_add, Multiset.cons_add]
  · simp only [updateSps, FilterImpl.held, idsOf_some, Multiset.singleton_add, Multiset.cons_add,
      Multiset.mem_cons, Multiset.mem_add] at hi ⊢
    rcases hi with rfl | hi
    · exact .inr ⟨le_rfl, Nat.lt_succ_self _⟩
    · exact .inl (by tauto)

/-- `updatePps` replaces the PPS block it held by a duplicate of the new one, if any.
Source: `media-codec-h264-decoder.cpp` lines 171–175
Kind: L -/
theorem updatePps_ledger (h : Bounded f extra) (pps : Option Bytes) :
    ledger (f.held + extra) (updatePps f pps).2 = some ((updatePps f pps).1.held + extra) ∧
      Bounded (updatePps f pps).1 extra := by
  have hc : f.held + extra = idsOf f.pps + (idsOf f.sps + extra) := by
    rw [FilterImpl.held, add_comm (idsOf f.sps), add_assoc]
  cases pps with
  | none =>
    refine ⟨?_, h.mono le_rfl fun i hi => ?_⟩
    · rw [hc, updatePps, ledger_freeIfHeld]
      simp only [FilterImpl.held, idsOf_none, add_zero]
    · simp only [updatePps, FilterImpl.held, idsOf_none, add_zero, Multiset.mem_add] at hi ⊢
      exact .inl (by tauto)
  | some pps =>
    have hn : f.next ∉ idsOf f.sps + extra := fun hm =>
      lt_irrefl _ (h _ (by rw [hc]; exact Multiset.mem_add.mpr (.inr hm)))
    refine ⟨?_, h.mono (Nat.le_succ _) fun i hi => ?_⟩
    · rw [hc, updatePps, ledger_replace f.pps hn, FilterImpl.held, idsOf_some,
        ← Multiset.singleton_add]
      ac_rfl
    · simp only [updatePps, FilterImpl.held, idsOf_some, Multiset.mem_singleton,
        Multiset.mem_add] at hi ⊢
      rcases hi with (hi | rfl) | hi
      · exact .inl (by tauto)
      · exact .inr ⟨le_rfl, Nat.lt_succ_self _⟩
      · exact .inl (by tauto)

/-- `checkSpsChange` keeps the ledger on the blocks the fields hold.
Source: `media-codec-h264-decoder.cpp` lines 177–192
Kind: L -/
theorem checkSpsChange_ledger (h : Bounded f extra) (sps : Bytes) :
    ledger (f.held + extra) (checkSpsChange f sps).2.1 =
        some ((checkSpsChange f sps).1.held + extra) ∧
      Bounded (checkSpsChange f sps).1 extra := by
  obtain ⟨h₁, b₁⟩ := updateSps_ledger h sps
  unfold checkSpsChange
  split
  · split
    · obtain ⟨h₂, b₂⟩ := updatePps_ledger b₁ none
      exact ⟨by rw [ledger_append, h₁, Option.some_bind, h₂], b₂⟩
    · exact ⟨rfl, h⟩
  · exact ⟨h₁, b₁⟩

/-- `checkPpsChange` keeps the ledger on the blocks the fields hold.
Source: `media-codec-h264-decoder.cpp` lines 194–208
Kind: L -/
theorem checkPpsChange_ledger (h : Bounded f extra) (pps : Bytes) :
    ledger (f.held + extra) (checkPpsChange f pps).2.1 =
        some ((checkPpsChange f pps).1.held + extra) ∧
      Bounded (checkPpsChange f pps).1 extra := by
  obtain ⟨h₁, b₁⟩ := updatePps_ledger h (some pps)
  unfold checkPpsChange
  split
  · split
    · exact ⟨h₁, b₁⟩
    · exact ⟨rfl, h⟩
  · exact ⟨h₁, b₁⟩

/-- `process` hands both blocks to the unpacker, or keeps them.
Source: `media-codec-h264-decoder.cpp` lines 138–145
Kind: L -/
theorem process_ledger (h : Bounded f extra) :
    ledger (f.held + extra) (process f).2 = some ((process f).1.held + extra) ∧
      Bounded (process f).1 extra := by
  unfold process
  split
  · rename_i s p hs hp
    refine ⟨?_, h.mono le_rfl fun i hi => .inl ?_⟩
    · simp [FilterImpl.held, hs, hp, ledger, BlockCall.owning, release, Multiset.singleton_add]
    · simp only [FilterImpl.held, idsOf_none, add_zero, zero_add] at hi
      exact Multiset.mem_add.mpr (.inr hi)
  · exact ⟨by simp [ledger, BlockCall.owning], h⟩

/-- A value holds a comma iff splitting it at its first comma leaves something after.
Source: none: infrastructure
Kind: L -/
theorem span_snd_eq_nil_iff (value : List Char) :
    (value.span (· ≠ ',')).2 = [] ↔ ',' ∉ value := by
  rw [List.span_eq_take_drop, List.dropWhile_eq_nil_iff]
  simp only [ne_eq, decide_eq_true_eq]
  exact ⟨fun h hm => h _ hm rfl, fun h x hx hxe => h (hxe ▸ hx)⟩

/-- `addFmtp` adds the blocks it makes and loses those it overwrites.
Source: `media-codec-h264-decoder.cpp` lines 147–163
Kind: L -/
theorem addFmtp_ledger (b64Decode : List Char → Bytes) (h : Bounded f extra) (fmtp : CStr) :
    ledger (f.held + extra) (addFmtp b64Decode f fmtp).2 =
        some ((addFmtp b64Decode f fmtp).1.held + (overwritten f (.addFmtp fmtp) + extra)) ∧
      Bounded (addFmtp b64Decode f fmtp).1 (overwritten f (.addFmtp fmtp) + extra) := by
  rcases hv : fmtpGetValue fmtp.chars "sprop-parameter-sets".toList 256 with _ | value
  · simp only [addFmtp, overwritten, hv, zero_add]
    exact ⟨rfl, h⟩
  · rcases hs : value.span (· ≠ ',') with ⟨b, _ | ⟨c, p⟩⟩
    · have hc : ',' ∉ value := (span_snd_eq_nil_iff value).mp (by rw [hs])
      simp only [addFmtp, overwritten, hv, hs, hc, if_false, zero_add]
      exact ⟨rfl, h⟩
    · have hc : ',' ∈ value := by
        by_contra hc
        rw [← span_snd_eq_nil_iff, hs] at hc
        exact List.cons_ne_nil _ _ hc
      have hlt : ∀ i ∈ f.held + extra, i < f.next := h
      have h₀ : f.next ∉ f.held + extra := fun hm => lt_irrefl _ (hlt _ hm)
      have h₁ : f.next + 1 ∉ f.next ::ₘ (f.held + extra) := by
        rw [Multiset.mem_cons, not_or]
        exact ⟨by omega, fun hm => by have := hlt _ hm; omega⟩
      simp only [addFmtp, overwritten, hv, hs, hc, if_true]
      refine ⟨?_, fun i hi => ?_⟩
      · show ledger (f.held + extra) ([.allocb ⟨f.next, _⟩] ++ [.allocb ⟨f.next + 1, _⟩]) = _
        rw [ledger_append, (ledger_acquire h₀).2, Option.some_bind, (ledger_acquire h₁).2,
          Multiset.cons_swap]
        simp only [FilterImpl.held, idsOf_some, Multiset.singleton_add, Multiset.cons_add]
      · show i < f.next + 2
        rcases Multiset.mem_add.mp hi with hi | hi
        · simp only [FilterImpl.held, idsOf_some, Multiset.mem_add, Multiset.mem_singleton] at hi
          omega
        · have := hlt i hi
          omega

/-- **One operation.** From a bounded filter, no release of an operation fails, and afterwards
the filter owns the blocks its fields hold, the blocks `addFmtp` overwrote, and what it owned
besides before.
Source: `media-codec-h264-decoder.cpp` lines 129–208
Kind: L -/
theorem step_ledger (b64Decode : List Char → Bytes) (h : Bounded f extra) (op : Op) :
    ledger (f.held + extra) (step b64Decode f op).2 =
        some ((step b64Decode f op).1.held + (overwritten f op + extra)) ∧
      Bounded (step b64Decode f op).1 (overwritten f op + extra) := by
  cases op with
  | addFmtp fmtp => exact addFmtp_ledger b64Decode h fmtp
  | process => simpa only [overwritten, zero_add] using process_ledger h
  | checkSpsChange sps => simpa only [overwritten, zero_add] using checkSpsChange_ledger h sps
  | checkPpsChange pps => simpa only [overwritten, zero_add] using checkPpsChange_ledger h pps

end Steps

/-- **Runs.** Over every run from a bounded filter, no release fails, and the filter ends owning
the blocks its fields hold, the blocks the run lost, and what it owned besides before.
Source: `media-codec-h264-decoder.cpp` lines 133–208
Kind: L -/
theorem run_ledger (b64Decode : List Char → Bytes) :
    ∀ (f : FilterImpl) (extra : Multiset Nat) (_ : Bounded f extra) (ops : List Op),
      ledger (f.held + extra) (run b64Decode f ops).2 =
        some ((run b64Decode f ops).1.held + (runLost b64Decode f ops + extra))
  | _, _, _, [] => by simp [run, runLost]
  | f, extra, h, op :: ops => by
    obtain ⟨h₁, b₁⟩ := step_ledger b64Decode h op
    have ih := run_ledger b64Decode _ _ b₁ ops
    simp only [run, runLost, ledger_append, h₁, Option.some_bind, ih, add_assoc,
      add_left_comm (runLost _ _ _)]

/-- The destructor frees the blocks the fields hold.
Source: `media-codec-h264-decoder.cpp` lines 133–136
Kind: L -/
theorem ledger_destroy (f : FilterImpl) (extra : Multiset Nat) :
    ledger (f.held + extra) (destroy f) = some extra := by
  rw [FilterImpl.held, add_assoc, destroy, ledger_append, ledger_freeIfHeld, Option.some_bind,
    ledger_freeIfHeld]

/-- The constructed filter holds no block.
Source: `media-codec-h264-decoder.cpp` lines 129–136
Kind: L -/
@[simp]
theorem held_init : FilterImpl.init.held = 0 := by
  simp [FilterImpl.held, FilterImpl.init]

/-- The constructed filter numbers its next block above every block owned.
Source: `media-codec-h264-decoder.cpp` lines 129–136
Kind: L -/
theorem bounded_init : Bounded FilterImpl.init 0 := by
  simp [Bounded]

/-- A run followed by the destructor, from any bounded filter.
Source: `media-codec-h264-decoder.cpp` lines 133–208
Kind: L -/
theorem ledger_run_destroy (b64Decode : List Char → Bytes) {f : FilterImpl}
    {extra : Multiset Nat} (h : Bounded f extra) (ops : List Op) :
    ledger (f.held + extra) ((run b64Decode f ops).2 ++ destroy (run b64Decode f ops).1) =
      some (runLost b64Decode f ops + extra) := by
  rw [ledger_append, run_ledger b64Decode _ _ h ops, Option.some_bind, ledger_destroy]

/-- **No block released twice; the lost blocks are those `addFmtp` overwrote.** Over every run
from the constructed filter, followed by its destructor, every free and hand-over releases a
block the filter owns, and the blocks it still owns at the end, never freed nor handed over, are
exactly the blocks the run lost.
Source: `media-codec-h264-decoder.cpp` lines 133–208
Kind: C -/
theorem run_destroy_ledger (b64Decode : List Char → Bytes) (ops : List Op) :
    ledger 0 ((run b64Decode FilterImpl.init ops).2 ++ destroy (run b64Decode FilterImpl.init ops).1) =
      some (runLost b64Decode FilterImpl.init ops) := by
  simpa using ledger_run_destroy b64Decode bounded_init ops

/-- Two `addFmtp` calls with `sprop-parameter-sets=Z0,aO` before any `process`: the first pair of
blocks, `0` and `1`, is never freed nor handed over. -/
example :
    ledger 0
        ((run (fun _ => []) FilterImpl.init
            [.addFmtp ⟨"sprop-parameter-sets=Z0,aO".toList, by decide⟩,
              .addFmtp ⟨"sprop-parameter-sets=Z0,aO".toList, by decide⟩]).2 ++
          destroy (run (fun _ => []) FilterImpl.init
            [.addFmtp ⟨"sprop-parameter-sets=Z0,aO".toList, by decide⟩,
              .addFmtp ⟨"sprop-parameter-sets=Z0,aO".toList, by decide⟩]).1) =
      some {1, 0} :=
  rfl

end MediaStreamer.MediaCodecFilter
