import MediaStreamer.Libc

/-!
# The default ticker priority

`__ms_get_default_prio(is_video)` reads the priority of a media ticker from the environment,
`MS_VIDEO_PRIO` or `MS_AUDIO_PRIO`, through `_ms_ticker_prio_from_env`, which accepts the names
`NORMAL`, `HIGH` and `REALTIME` in any case. When the variable is unset or names none of them,
the video ticker runs at normal priority (high on iOS) and the audio ticker at high priority.

* `msTickerPrioFromEnv_eq_some_iff` — the names accepted are the three priority names, ignoring
  case, and nothing else.
* `msGetDefaultPrio_eq_iff` — the priority chosen is the one the variable names, or the
  platform's default when it names none.
-/

namespace MediaStreamer.Ticker

open Libc

/-- `MSTickerPrio`: the values `_ms_ticker_prio_from_env` can set.
Source: `mediastream.c` lines 70–85
Kind: D -/
inductive MSTickerPrio
  | normal
  | high
  | realtime
deriving DecidableEq, Repr

/-- The name that selects each priority.
Source: `mediastream.c` lines 70–85
Kind: D -/
def MSTickerPrio.name : MSTickerPrio → List Char
  | .normal => "NORMAL".toList
  | .high => "HIGH".toList
  | .realtime => "REALTIME".toList

/-- `_ms_ticker_prio_from_env(penv, &prio)`: the priority it sets when it returns `0`, `none`
when it returns `-1`.
Source: `mediastream.c` lines 70–85
Kind: D -/
def msTickerPrioFromEnv (penv : CStr) : Option MSTickerPrio :=
  if strcasecmp penv.chars "NORMAL".toList = 0 then some .normal
  else if strcasecmp penv.chars "HIGH".toList = 0 then some .high
  else if strcasecmp penv.chars "REALTIME".toList = 0 then some .realtime
  else none

/-- The variable `__ms_get_default_prio` reads.
Source: `mediastream.c` lines 87–110
Kind: D -/
def prioVariable (isVideo : Bool) : String := if isVideo then "MS_VIDEO_PRIO" else "MS_AUDIO_PRIO"

/-- The priority when the variable names none: normal for video (high on iOS), high for audio.
Source: `mediastream.c` lines 87–110
Kind: D -/
def defaultPrio (targetOsIphone isVideo : Bool) : MSTickerPrio :=
  if isVideo then (if targetOsIphone then .high else .normal) else .high

/-- `__ms_get_default_prio(is_video)`. `getenv` is the environment (on Windows Universal, where
the code reads none, the environment that holds nothing); `targetOsIphone` is `TARGET_OS_IPHONE`.
Source: `mediastream.c` lines 87–110
Kind: D -/
def msGetDefaultPrio (getenv : String → Option CStr) (targetOsIphone isVideo : Bool) :
    MSTickerPrio :=
  if isVideo then
    match (getenv "MS_VIDEO_PRIO").bind msTickerPrioFromEnv with
    | some prio => prio
    | none => if targetOsIphone then .high else .normal
  else
    match (getenv "MS_AUDIO_PRIO").bind msTickerPrioFromEnv with
    | some prio => prio
    | none => .high

/-- Both branches read their variable the same way.
Source: `mediastream.c` lines 87–110
Kind: L -/
theorem msGetDefaultPrio_eq (getenv : String → Option CStr) (targetOsIphone isVideo : Bool) :
    msGetDefaultPrio getenv targetOsIphone isVideo =
      ((getenv (prioVariable isVideo)).bind msTickerPrioFromEnv).getD
        (defaultPrio targetOsIphone isVideo) := by
  cases isVideo <;> simp only [msGetDefaultPrio, prioVariable, defaultPrio, Bool.false_eq_true,
    if_true, if_false] <;> split <;> rename_i h <;> simp only [h, Option.getD_some, Option.getD_none]

/-- **The names accepted.** `_ms_ticker_prio_from_env` sets `p` exactly when the value is the
name of `p` up to ASCII case.
Source: `mediastream.c` lines 70–85
Kind: L -/
theorem msTickerPrioFromEnv_eq_some_iff (penv : CStr) (p : MSTickerPrio) :
    msTickerPrioFromEnv penv = some p ↔ penv.chars.map Char.toLower = p.name.map Char.toLower := by
  have hN := strcasecmp_eq_zero_iff penv.chars "NORMAL".toList penv.no_nul (by decide)
  have hH := strcasecmp_eq_zero_iff penv.chars "HIGH".toList penv.no_nul (by decide)
  have hR := strcasecmp_eq_zero_iff penv.chars "REALTIME".toList penv.no_nul (by decide)
  unfold msTickerPrioFromEnv
  rw [if_congr hN rfl rfl, if_congr hH rfl rfl, if_congr hR rfl rfl]
  constructor
  · intro h
    split_ifs at h with h₁ h₂ h₃ <;> cases h <;> assumption
  · intro h
    cases p with
    | normal => exact if_pos h
    | high => exact (if_neg (by rw [h]; decide)).trans (if_pos h)
    | realtime =>
      exact (if_neg (by rw [h]; decide)).trans ((if_neg (by rw [h]; decide)).trans (if_pos h))

/-- **The priority chosen.** A ticker runs at the priority its variable names, ignoring case;
when the variable is unset or names no priority, at the platform's default.
Source: `mediastream.c` lines 87–110
Kind: C -/
theorem msGetDefaultPrio_eq_iff (getenv : String → Option CStr) (targetOsIphone isVideo : Bool)
    (p : MSTickerPrio) :
    msGetDefaultPrio getenv targetOsIphone isVideo = p ↔
      (∃ penv, getenv (prioVariable isVideo) = some penv ∧
        penv.chars.map Char.toLower = p.name.map Char.toLower) ∨
      ((∀ penv, getenv (prioVariable isVideo) = some penv →
        ∀ q : MSTickerPrio, penv.chars.map Char.toLower ≠ q.name.map Char.toLower) ∧
        p = defaultPrio targetOsIphone isVideo) := by
  rw [msGetDefaultPrio_eq]
  rcases getenv (prioVariable isVideo) with _ | penv
  · simp [eq_comm]
  · simp only [Option.some.injEq, exists_eq_left', ne_eq, ← msTickerPrioFromEnv_eq_some_iff]
    cases h : msTickerPrioFromEnv penv <;> simp [h, eq_comm]

end MediaStreamer.Ticker
