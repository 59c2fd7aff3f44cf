import Mathlib.Tactic.DeriveFintype
import MediaStreamer.Libc

/-!
# Crypto suites and their SDP security descriptors

`ms_crypto_suite_build_from_name_params` decodes an SDES `a=crypto` descriptor (a suite name and
its session parameters) into an `MSCryptoSuite`, and `ms_crypto_suite_to_name_params` encodes a
suite back. Names are matched with `keywordcmp` and the three security tokens
`UNENCRYPTED_SRTP`, `UNENCRYPTED_SRTCP` and `UNAUTHENTICATED_SRTP` with `strstr` anywhere in the
parameters.

* `msCryptoSuiteBuildFromNameParams_sound` — **no downgrade**: a decoded suite names the
  descriptor's name exactly, and every token its canonical parameters carry occurs in the given
  parameters; so an unencrypted or unauthenticated suite is only chosen on request.
* `msCryptoSuiteBuildFromNameParams_tokens` — decode-then-encode keeps every requested token
  but one: for `AES_CM_128_HMAC_SHA1_80` the `UNENCRYPTED_*` tests come first in the `if`
  chain, so `UNAUTHENTICATED_SRTP` asked together with one of them is dropped (the suite stays
  authenticated); encode-then-decode returns the suite for every parameter string carrying the
  suite's own tokens, whatever else it holds.
* `unauthenticated_dropped_with_unencrypted` — the input where the token is dropped.
-/

namespace MediaStreamer.CryptoSuite

open Libc

/-- The SRTP crypto suites.
Source: `MSCryptoSuite`, used throughout `mediastream.c` lines 627–737
Kind: D -/
inductive MSCryptoSuite where
  | invalid
  | aes128Sha1_80
  | aes128Sha1_80NoAuth
  | aes128Sha1_80SrtpNoCipher
  | aes128Sha1_80SrtcpNoCipher
  | aes128Sha1_80NoCipher
  | aes128Sha1_32
  | aes128Sha1_32NoAuth
  | aes256Sha1_80
  | aesCm256Sha1_80
  | aes256Sha1_32
  | aeadAes128Gcm
  | aeadAes256Gcm
deriving DecidableEq, Repr, Fintype

/-- An SDP security descriptor: a suite name and the optional (`NULL`) session parameters.
Source: `MSCryptoSuiteNameParams`
Kind: D -/
structure MSCryptoSuiteNameParams where
  /-- The suite name, e.g. `AES_CM_128_HMAC_SHA1_80`. -/
  name : CStr
  /-- The session parameters, `NULL` when there are none. -/
  params : Option CStr
deriving DecidableEq

/-! ## The literals of the table -/

/-- The name `AES_CM_128_HMAC_SHA1_80`, the first of the suite names `mediastream.c` knows.
Source: `mediastream.c` lines 629–635
Kind: D -/
def nameAesCm128HmacSha1_80 : CStr := ⟨"AES_CM_128_HMAC_SHA1_80".toList, by decide⟩
/-- The name `AES_CM_128_HMAC_SHA1_32`.
Source: `mediastream.c` lines 636–641
Kind: D -/
def nameAesCm128HmacSha1_32 : CStr := ⟨"AES_CM_128_HMAC_SHA1_32".toList, by decide⟩
/-- The name `AES_256_CM_HMAC_SHA1_32`.
Source: `mediastream.c` lines 642–671
Kind: D -/
def nameAes256CmHmacSha1_32 : CStr := ⟨"AES_256_CM_HMAC_SHA1_32".toList, by decide⟩
/-- The name `AES_256_CM_HMAC_SHA1_80`.
Source: `mediastream.c` lines 642–671
Kind: D -/
def nameAes256CmHmacSha1_80 : CStr := ⟨"AES_256_CM_HMAC_SHA1_80".toList, by decide⟩
/-- The name `AES_CM_256_HMAC_SHA1_80`.
Source: `mediastream.c` lines 642–671
Kind: D -/
def nameAesCm256HmacSha1_80 : CStr := ⟨"AES_CM_256_HMAC_SHA1_80".toList, by decide⟩
/-- The name `AEAD_AES_128_GCM`.
Source: `mediastream.c` lines 642–671
Kind: D -/
def nameAeadAes128Gcm : CStr := ⟨"AEAD_AES_128_GCM".toList, by decide⟩
/-- The name `AEAD_AES_256_GCM`.
Source: `mediastream.c` lines 642–671
Kind: D -/
def nameAeadAes256Gcm : CStr := ⟨"AEAD_AES_256_GCM".toList, by decide⟩

/-- The security tokens a descriptor's session parameters may carry.
Source: `mediastream.c` lines 630–670
Kind: D -/
inductive SecurityToken where
  | unencryptedSrtp
  | unencryptedSrtcp
  | unauthenticatedSrtp
deriving DecidableEq, Repr, Fintype

/-- The text of each token.
Source: `mediastream.c` lines 630–670
Kind: D -/
def SecurityToken.text : SecurityToken → CStr
  | .unencryptedSrtp => ⟨"UNENCRYPTED_SRTP".toList, by decide⟩
  | .unencryptedSrtcp => ⟨"UNENCRYPTED_SRTCP".toList, by decide⟩
  | .unauthenticatedSrtp => ⟨"UNAUTHENTICATED_SRTP".toList, by decide⟩

/-- The parameters `ms_crypto_suite_to_name_params` writes for the fully unencrypted suite.
Source: `mediastream.c` lines 630–635
Kind: D -/
def paramsUnencryptedSrtpSrtcp : CStr :=
  ⟨"UNENCRYPTED_SRTP UNENCRYPTED_SRTCP".toList, by decide⟩

/-- `parameters && strstr(parameters, token)`: the token occurs in non-`NULL` parameters.
Source: `mediastream.c` lines 630–670
Kind: D -/
def hasToken (parameters : Option CStr) (t : SecurityToken) : Bool :=
  match parameters with
  | some p => p.contains t.text
  | none => false

/-- A token test succeeds exactly on a substring occurrence.
Source: `mediastream.c` lines 630–670
Kind: L -/
theorem hasToken_iff {parameters : Option CStr} {t : SecurityToken} :
    hasToken parameters t ↔ ∃ p, parameters = some p ∧ t.text.chars <:+: p.chars := by
  cases parameters <;> simp [hasToken]

/-! ## Decoding and encoding -/

/-- The tail of a row whose suite takes no token: each token test leads to `goto error`.
Source: `mediastream.c` lines 642–671 (five identical rows)
Kind: D -/
def tokenlessRow (parameters : Option CStr) (cs : MSCryptoSuite) : MSCryptoSuite :=
  if hasToken parameters .unencryptedSrtp && hasToken parameters .unencryptedSrtcp then .invalid
  else if hasToken parameters .unencryptedSrtp then .invalid
  else if hasToken parameters .unencryptedSrtcp then .invalid
  else if hasToken parameters .unauthenticatedSrtp then .invalid
  else cs

/-- The `if` chain of the `AES_CM_128_HMAC_SHA1_80` row, the only row with five suites: both
`UNENCRYPTED_*` tokens, then each one alone, then `UNAUTHENTICATED_SRTP`.
Source: `mediastream.c` lines 629–635
Kind: D -/
def aesCm128HmacSha1_80Row (parameters : Option CStr) : MSCryptoSuite :=
  if hasToken parameters .unencryptedSrtp && hasToken parameters .unencryptedSrtcp then
    .aes128Sha1_80NoCipher
  else if hasToken parameters .unencryptedSrtp then .aes128Sha1_80SrtpNoCipher
  else if hasToken parameters .unencryptedSrtcp then .aes128Sha1_80SrtcpNoCipher
  else if hasToken parameters .unauthenticatedSrtp then .aes128Sha1_80NoAuth
  else .aes128Sha1_80

/-- The `if` chain of the `AES_CM_128_HMAC_SHA1_32` row: an `UNENCRYPTED_*` token is an error,
`UNAUTHENTICATED_SRTP` selects the unauthenticated suite.
Source: `mediastream.c` lines 636–641
Kind: D -/
def aesCm128HmacSha1_32Row (parameters : Option CStr) : MSCryptoSuite :=
  if hasToken parameters .unencryptedSrtp && hasToken parameters .unencryptedSrtcp then .invalid
  else if hasToken parameters .unencryptedSrtp then .invalid
  else if hasToken parameters .unencryptedSrtcp then .invalid
  else if hasToken parameters .unauthenticatedSrtp then .aes128Sha1_32NoAuth
  else .aes128Sha1_32

/-- `ms_crypto_suite_build_from_name_params`: the first keyword equal to the name picks a row;
an unknown name, or a token the row does not allow, gives `MS_CRYPTO_SUITE_INVALID`.
Source: `mediastream.c` lines 627–676
Kind: D -/
def msCryptoSuiteBuildFromNameParams (descrption : MSCryptoSuiteNameParams) : MSCryptoSuite :=
  let name := descrption.name
  let parameters := descrption.params
  if keywordcmp nameAesCm128HmacSha1_80 name = 0 then aesCm128HmacSha1_80Row parameters
  else if keywordcmp nameAesCm128HmacSha1_32 name = 0 then aesCm128HmacSha1_32Row parameters
  else if keywordcmp nameAes256CmHmacSha1_32 name = 0 then tokenlessRow parameters .aes256Sha1_32
  else if keywordcmp nameAes256CmHmacSha1_80 name = 0 then tokenlessRow parameters .aes256Sha1_80
  else if keywordcmp nameAesCm256HmacSha1_80 name = 0 then tokenlessRow parameters .aesCm256Sha1_80
  else if keywordcmp nameAeadAes128Gcm name = 0 then tokenlessRow parameters .aeadAes128Gcm
  else if keywordcmp nameAeadAes256Gcm name = 0 then tokenlessRow parameters .aeadAes256Gcm
  else .invalid

/-- `ms_crypto_suite_is_unencrypted`.
Source: `mediastream.c` lines 678–681
Kind: D -/
def msCryptoSuiteIsUnencrypted (cs : MSCryptoSuite) : Bool :=
  cs == .aes128Sha1_80SrtpNoCipher || cs == .aes128Sha1_80SrtcpNoCipher ||
    cs == .aes128Sha1_80NoCipher

/-- `ms_crypto_suite_is_unauthenticated`.
Source: `mediastream.c` lines 683–685
Kind: D -/
def msCryptoSuiteIsUnauthenticated (cs : MSCryptoSuite) : Bool :=
  cs == .aes128Sha1_80NoAuth || cs == .aes128Sha1_32NoAuth

/-- `ms_crypto_suite_to_name_params`: `none` is the `-1` return with a `NULL` name, given for
`MS_CRYPTO_SUITE_INVALID` only; otherwise the call returns `0` and this descriptor.
Source: `mediastream.c` lines 687–737
Kind: D -/
def msCryptoSuiteToNameParams : MSCryptoSuite → Option MSCryptoSuiteNameParams
  | .invalid => none
  | .aes128Sha1_80 => some ⟨nameAesCm128HmacSha1_80, none⟩
  | .aes128Sha1_32 => some ⟨nameAesCm128HmacSha1_32, none⟩
  | .aes128Sha1_80NoAuth => some ⟨nameAesCm128HmacSha1_80, some SecurityToken.unauthenticatedSrtp.text⟩
  | .aes128Sha1_32NoAuth => some ⟨nameAesCm128HmacSha1_32, some SecurityToken.unauthenticatedSrtp.text⟩
  | .aes128Sha1_80SrtpNoCipher => some ⟨nameAesCm128HmacSha1_80, some SecurityToken.unencryptedSrtp.text⟩
  | .aes128Sha1_80SrtcpNoCipher =>
      some ⟨nameAesCm128HmacSha1_80, some SecurityToken.unencryptedSrtcp.text⟩
  | .aes128Sha1_80NoCipher => some ⟨nameAesCm128HmacSha1_80, some paramsUnencryptedSrtpSrtcp⟩
  | .aes256Sha1_80 => some ⟨nameAes256CmHmacSha1_80, none⟩
  | .aesCm256Sha1_80 => some ⟨nameAesCm256HmacSha1_80, none⟩
  | .aes256Sha1_32 => some ⟨nameAes256CmHmacSha1_32, none⟩
  | .aeadAes128Gcm => some ⟨nameAeadAes128Gcm, none⟩
  | .aeadAes256Gcm => some ⟨nameAeadAes256Gcm, none⟩

/-! ## The tokens each suite names -/

/-- The tokens the canonical descriptor of each suite names (the table of the spec, §6).
Source: `mediastream.c` lines 687–737
Kind: D -/
def suiteTokens : MSCryptoSuite → SecurityToken → Bool
  | .aes128Sha1_80NoAuth, t => t == .unauthenticatedSrtp
  | .aes128Sha1_32NoAuth, t => t == .unauthenticatedSrtp
  | .aes128Sha1_80SrtpNoCipher, t => t == .unencryptedSrtp
  | .aes128Sha1_80SrtcpNoCipher, t => t == .unencryptedSrtcp
  | .aes128Sha1_80NoCipher, t => t == .unencryptedSrtp || t == .unencryptedSrtcp
  | _, _ => false

/-- The canonical parameters carry exactly the suite's tokens, as `strstr` sees them.
Source: `mediastream.c` lines 687–737
Kind: L -/
theorem hasToken_toNameParams {cs : MSCryptoSuite} {np : MSCryptoSuiteNameParams}
    (h : msCryptoSuiteToNameParams cs = some np) (t : SecurityToken) :
    hasToken np.params t = suiteTokens cs t := by
  cases cs <;> simp only [msCryptoSuiteToNameParams, Option.some.injEq, reduceCtorEq] at h <;>
    subst h <;> cases t <;> decide

/-- The suites of the five rows that take no token.
Source: `mediastream.c` lines 642–671
Kind: D -/
def tokenlessSuites : List MSCryptoSuite :=
  [.aes256Sha1_32, .aes256Sha1_80, .aesCm256Sha1_80, .aeadAes128Gcm, .aeadAes256Gcm]

/-- The tokenless suites name no token.
Source: none: infrastructure
Kind: L -/
theorem suiteTokens_of_mem_tokenlessSuites :
    ∀ cs ∈ tokenlessSuites, ∀ t, suiteTokens cs t = false := by
  decide

/-- The name `ms_crypto_suite_to_name_params` gives a suite.
Source: `mediastream.c` lines 687–737
Kind: D -/
def suiteName (cs : MSCryptoSuite) : Option CStr := (msCryptoSuiteToNameParams cs).map (·.name)

/-- **Row selection.** The decoder's name tests select exactly one row, and the descriptor's
name is that row's keyword; a name matching no keyword is the name of no suite.
Source: `mediastream.c` lines 627–676
Kind: L -/
theorem msCryptoSuiteBuildFromNameParams_cases (n : CStr) (p : Option CStr) :
    (n = nameAesCm128HmacSha1_80 ∧
        msCryptoSuiteBuildFromNameParams ⟨n, p⟩ = aesCm128HmacSha1_80Row p) ∨
      (n = nameAesCm128HmacSha1_32 ∧
        msCryptoSuiteBuildFromNameParams ⟨n, p⟩ = aesCm128HmacSha1_32Row p) ∨
      (∃ cs ∈ tokenlessSuites, suiteName cs = some n ∧
        msCryptoSuiteBuildFromNameParams ⟨n, p⟩ = tokenlessRow p cs) ∨
      ((∀ cs, suiteName cs ≠ some n) ∧ msCryptoSuiteBuildFromNameParams ⟨n, p⟩ = .invalid) := by
  have name_of {k : CStr} (h : keywordcmp k n = 0) : some k = some n :=
    congrArg some ((keywordcmp_eq_zero_iff k n).1 h)
  dsimp only [msCryptoSuiteBuildFromNameParams]
  by_cases h1 : keywordcmp nameAesCm128HmacSha1_80 n = 0
  · exact .inl ⟨((keywordcmp_eq_zero_iff _ _).1 h1).symm, by simp only [h1, if_true]⟩
  by_cases h2 : keywordcmp nameAesCm128HmacSha1_32 n = 0
  · exact .inr (.inl ⟨((keywordcmp_eq_zero_iff _ _).1 h2).symm, by simp only [h1, h2, if_true,
      if_false]⟩)
  refine .inr (.inr ?_)
  by_cases h3 : keywordcmp nameAes256CmHmacSha1_32 n = 0
  · exact .inl ⟨.aes256Sha1_32, by decide, name_of h3, by simp only [h1, h2, h3, if_true,
      if_false]⟩
  by_cases h4 : keywordcmp nameAes256CmHmacSha1_80 n = 0
  · exact .inl ⟨.aes256Sha1_80, by decide, name_of h4, by simp only [h1, h2, h3, h4, if_true,
      if_false]⟩
  by_cases h5 : keywordcmp nameAesCm256HmacSha1_80 n = 0
  · exact .inl ⟨.aesCm256Sha1_80, by decide, name_of h5, by simp only [h1, h2, h3, h4, h5,
      if_true, if_false]⟩
  by_cases h6 : keywordcmp nameAeadAes128Gcm n = 0
  · exact .inl ⟨.aeadAes128Gcm, by decide, name_of h6, by simp only [h1, h2, h3, h4, h5, h6,
      if_true, if_false]⟩
  by_cases h7 : keywordcmp nameAeadAes256Gcm n = 0
  · exact .inl ⟨.aeadAes256Gcm, by decide, name_of h7, by simp only [h1, h2, h3, h4, h5, h6, h7,
      if_true, if_false]⟩
  refine .inr ⟨fun cs hcs => ?_, by simp only [h1, h2, h3, h4, h5, h6, h7, if_false]⟩
  have hk (k : CStr) (hk : some k = some n) : keywordcmp k n = 0 :=
    (keywordcmp_eq_zero_iff k n).2 (Option.some.inj hk)
  cases cs <;> simp only [suiteName, msCryptoSuiteToNameParams, Option.map_none',
    Option.map_some', reduceCtorEq] at hcs
  exacts [h1 (hk _ hcs), h1 (hk _ hcs), h1 (hk _ hcs), h1 (hk _ hcs), h1 (hk _ hcs),
    h2 (hk _ hcs), h2 (hk _ hcs), h4 (hk _ hcs), h5 (hk _ hcs), h3 (hk _ hcs), h6 (hk _ hcs),
    h7 (hk _ hcs)]

/-! ## What each row decodes -/

section rows

variable (p : Option CStr)

/-- The five-suite row: a suite's tokens were all requested, and a requested token is dropped
only when it is `UNAUTHENTICATED_SRTP` asked together with an `UNENCRYPTED_*` token.
Source: `mediastream.c` lines 629–635
Kind: L -/
theorem aesCm128HmacSha1_80Row_tokens (t : SecurityToken) :
    (suiteTokens (aesCm128HmacSha1_80Row p) t → hasToken p t) ∧
      (hasToken p t → suiteTokens (aesCm128HmacSha1_80Row p) t ∨
        (t = .unauthenticatedSrtp ∧
          (hasToken p .unencryptedSrtp ∨ hasToken p .unencryptedSrtcp))) := by
  unfold aesCm128HmacSha1_80Row
  cases ha : hasToken p .unencryptedSrtp <;> cases hb : hasToken p .unencryptedSrtcp <;>
    cases hc : hasToken p .unauthenticatedSrtp <;> cases t <;> simp_all [suiteTokens]

/-- The `_32` row: a valid result carries exactly the requested tokens.
Source: `mediastream.c` lines 636–641
Kind: L -/
theorem aesCm128HmacSha1_32Row_tokens (h : aesCm128HmacSha1_32Row p ≠ .invalid)
    (t : SecurityToken) : suiteTokens (aesCm128HmacSha1_32Row p) t = hasToken p t := by
  unfold aesCm128HmacSha1_32Row at h ⊢
  cases ha : hasToken p .unencryptedSrtp <;> cases hb : hasToken p .unencryptedSrtcp <;>
    cases hc : hasToken p .unauthenticatedSrtp <;> cases t <;> simp_all [suiteTokens]

/-- A tokenless row succeeds only on parameters without any token, and then gives its suite.
Source: `mediastream.c` lines 642–671 (five identical rows)
Kind: L -/
theorem tokenlessRow_valid {cs : MSCryptoSuite} (h : tokenlessRow p cs ≠ .invalid) :
    tokenlessRow p cs = cs ∧ ∀ t, hasToken p t = false := by
  unfold tokenlessRow at h ⊢
  cases ha : hasToken p .unencryptedSrtp <;> cases hb : hasToken p .unencryptedSrtcp <;>
    cases hc : hasToken p .unauthenticatedSrtp <;> simp_all
  intro t
  cases t <;> assumption

/-- Every suite of the five-suite row is named `AES_CM_128_HMAC_SHA1_80`.
Source: `mediastream.c` lines 629–635, 687–737
Kind: L -/
theorem suiteName_aesCm128HmacSha1_80Row :
    suiteName (aesCm128HmacSha1_80Row p) = some nameAesCm128HmacSha1_80 := by
  unfold aesCm128HmacSha1_80Row
  cases hasToken p .unencryptedSrtp <;> cases hasToken p .unencryptedSrtcp <;>
    cases hasToken p .unauthenticatedSrtp <;> rfl

/-- A valid result of the `_32` row is named `AES_CM_128_HMAC_SHA1_32`.
Source: `mediastream.c` lines 636–641, 687–737
Kind: L -/
theorem suiteName_aesCm128HmacSha1_32Row (h : aesCm128HmacSha1_32Row p ≠ .invalid) :
    suiteName (aesCm128HmacSha1_32Row p) = some nameAesCm128HmacSha1_32 := by
  unfold aesCm128HmacSha1_32Row at h ⊢
  cases ha : hasToken p .unencryptedSrtp <;> cases hb : hasToken p .unencryptedSrtcp <;>
    cases hc : hasToken p .unauthenticatedSrtp <;> simp_all <;> rfl

end rows

/-- Decoding recovers the name and asks nothing the descriptor did not ask: a valid result is
named by the descriptor's name and its tokens all occur in the parameters.
Source: `mediastream.c` lines 627–676
Kind: L -/
theorem msCryptoSuiteBuildFromNameParams_name_tokens (n : CStr) (p : Option CStr)
    (h : msCryptoSuiteBuildFromNameParams ⟨n, p⟩ ≠ .invalid) :
    suiteName (msCryptoSuiteBuildFromNameParams ⟨n, p⟩) = some n ∧
      ∀ t, suiteTokens (msCryptoSuiteBuildFromNameParams ⟨n, p⟩) t → hasToken p t := by
  rcases msCryptoSuiteBuildFromNameParams_cases n p with
    ⟨rfl, hb⟩ | ⟨rfl, hb⟩ | ⟨cs, _, hn, hb⟩ | ⟨_, hb⟩ <;> rw [hb] at h ⊢
  · exact ⟨suiteName_aesCm128HmacSha1_80Row p, fun t => (aesCm128HmacSha1_80Row_tokens p t).1⟩
  · exact ⟨suiteName_aesCm128HmacSha1_32Row p h,
      fun t ht => aesCm128HmacSha1_32Row_tokens p h t ▸ ht⟩
  · obtain ⟨hrow, -⟩ := tokenlessRow_valid p h
    rw [hrow]
    exact ⟨hn, fun t ht => by
      rw [suiteTokens_of_mem_tokenlessSuites cs ‹_› t] at ht; exact absurd ht Bool.false_ne_true⟩
  · exact absurd rfl h

/-- A named suite is encoded with that name.
Source: `mediastream.c` lines 687–737
Kind: L -/
theorem toNameParams_of_suiteName {cs : MSCryptoSuite} {n : CStr} (h : suiteName cs = some n) :
    ∃ np, msCryptoSuiteToNameParams cs = some np ∧ np.name = n :=
  Option.map_eq_some'.1 h

/-- Each tokenless suite is the only suite of its name.
Source: none: infrastructure
Kind: L -/
theorem eq_of_suiteName_eq_tokenless :
    ∀ cs, ∀ cs' ∈ tokenlessSuites, suiteName cs = suiteName cs' → cs = cs' := by
  decide

/-- Only the suites with an `UNENCRYPTED_*` token are unencrypted, and only those with
`UNAUTHENTICATED_SRTP` unauthenticated.
Source: `mediastream.c` lines 678–685
Kind: L -/
theorem suiteTokens_of_weak :
    ∀ cs, (msCryptoSuiteIsUnencrypted cs →
        suiteTokens cs .unencryptedSrtp ∨ suiteTokens cs .unencryptedSrtcp) ∧
      (msCryptoSuiteIsUnauthenticated cs → suiteTokens cs .unauthenticatedSrtp) := by
  decide

/-! ## Soundness and completeness of decoding -/

/-- **No downgrade.** A descriptor that decodes to a suite is encoded back under exactly its
own name, and every security token of the suite's canonical parameters occurs as a substring of
the descriptor's parameters; hence an unencrypted suite is only chosen when an `UNENCRYPTED_*`
token was given, and an unauthenticated one only on `UNAUTHENTICATED_SRTP`.
Source: `mediastream.c` lines 627–676, 687–737
Kind: C -/
theorem msCryptoSuiteBuildFromNameParams_sound (n : CStr) (p : Option CStr)
    (h : msCryptoSuiteBuildFromNameParams ⟨n, p⟩ ≠ .invalid) :
    ∃ np, msCryptoSuiteToNameParams (msCryptoSuiteBuildFromNameParams ⟨n, p⟩) = some np ∧
      np.name = n ∧
      (∀ t, hasToken np.params t → ∃ s, p = some s ∧ t.text.chars <:+: s.chars) ∧
      (msCryptoSuiteIsUnencrypted (msCryptoSuiteBuildFromNameParams ⟨n, p⟩) →
        hasToken p .unencryptedSrtp ∨ hasToken p .unencryptedSrtcp) ∧
      (msCryptoSuiteIsUnauthenticated (msCryptoSuiteBuildFromNameParams ⟨n, p⟩) →
        hasToken p .unauthenticatedSrtp) := by
  obtain ⟨hname, htok⟩ := msCryptoSuiteBuildFromNameParams_name_tokens n p h
  generalize msCryptoSuiteBuildFromNameParams ⟨n, p⟩ = cs at hname htok ⊢
  obtain ⟨np, hnp, rfl⟩ := toNameParams_of_suiteName hname
  refine ⟨np, hnp, rfl, fun t ht => hasToken_iff.1 (htok t (hasToken_toNameParams hnp t ▸ ht)),
    fun hu => ?_, fun hu => htok _ ((suiteTokens_of_weak cs).2 hu)⟩
  rcases (suiteTokens_of_weak cs).1 hu with h1 | h1
  exacts [.inl (htok _ h1), .inr (htok _ h1)]

/-- The no-downgrade theorem at `AES_CM_128_HMAC_SHA1_80` with `UNENCRYPTED_SRTP`.
Source: `mediastream.c` lines 627–676, 687–737
Kind: N+ -/
theorem msCryptoSuiteBuildFromNameParams_sound_srtpNoCipher :
    msCryptoSuiteBuildFromNameParams ⟨nameAesCm128HmacSha1_80, some SecurityToken.unencryptedSrtp.text⟩
        ≠ .invalid ∧
      ∃ np, msCryptoSuiteToNameParams (msCryptoSuiteBuildFromNameParams
          ⟨nameAesCm128HmacSha1_80, some SecurityToken.unencryptedSrtp.text⟩) = some np ∧
        np.name = nameAesCm128HmacSha1_80 ∧
        (∀ t, hasToken np.params t →
          ∃ s, some SecurityToken.unencryptedSrtp.text = some s ∧ t.text.chars <:+: s.chars) ∧
        (msCryptoSuiteIsUnencrypted (msCryptoSuiteBuildFromNameParams
            ⟨nameAesCm128HmacSha1_80, some SecurityToken.unencryptedSrtp.text⟩) →
          hasToken (some SecurityToken.unencryptedSrtp.text) .unencryptedSrtp ∨
            hasToken (some SecurityToken.unencryptedSrtp.text) .unencryptedSrtcp) ∧
        (msCryptoSuiteIsUnauthenticated (msCryptoSuiteBuildFromNameParams
            ⟨nameAesCm128HmacSha1_80, some SecurityToken.unencryptedSrtp.text⟩) →
          hasToken (some SecurityToken.unencryptedSrtp.text) .unauthenticatedSrtp) :=
  ⟨by decide, msCryptoSuiteBuildFromNameParams_sound _ _ (by decide)⟩

/-- **Decode then encode, encode then decode.** (i) Every token asked in the parameters of a
descriptor that decodes survives in the encoded parameters, except `UNAUTHENTICATED_SRTP` under
the name `AES_CM_128_HMAC_SHA1_80` when an `UNENCRYPTED_*` token is asked too — that row tests
the `UNENCRYPTED_*` tokens first. (ii) Decoding a suite's name with any parameters whose tokens
are the suite's own gives the suite back, whatever else the parameters hold.
Source: `mediastream.c` lines 627–676, 687–737
Kind: C -/
theorem msCryptoSuiteBuildFromNameParams_tokens :
    (∀ (n : CStr) (p : Option CStr), msCryptoSuiteBuildFromNameParams ⟨n, p⟩ ≠ .invalid →
      ∃ np, msCryptoSuiteToNameParams (msCryptoSuiteBuildFromNameParams ⟨n, p⟩) = some np ∧
        ∀ t, hasToken p t → hasToken np.params t ∨
          (t = .unauthenticatedSrtp ∧ n = nameAesCm128HmacSha1_80 ∧
            (hasToken p .unencryptedSrtp ∨ hasToken p .unencryptedSrtcp))) ∧
    (∀ (cs : MSCryptoSuite) (np : MSCryptoSuiteNameParams), msCryptoSuiteToNameParams cs = some np →
      ∀ p : Option CStr, (∀ t, hasToken p t = hasToken np.params t) →
        msCryptoSuiteBuildFromNameParams ⟨np.name, p⟩ = cs) := by
  refine ⟨fun n p h => ?_, fun cs np hnp p hp => ?_⟩
  · rcases msCryptoSuiteBuildFromNameParams_cases n p with
      ⟨rfl, hb⟩ | ⟨rfl, hb⟩ | ⟨cs, -, hn, hb⟩ | ⟨-, hb⟩ <;> rw [hb] at h ⊢
    · obtain ⟨np, hnp, -⟩ := toNameParams_of_suiteName (suiteName_aesCm128HmacSha1_80Row p)
      refine ⟨np, hnp, fun t ht => ?_⟩
      rw [hasToken_toNameParams hnp]
      rcases (aesCm128HmacSha1_80Row_tokens p t).2 ht with h1 | ⟨h2, h3⟩
      exacts [.inl h1, .inr ⟨h2, rfl, h3⟩]
    · obtain ⟨np, hnp, -⟩ := toNameParams_of_suiteName (suiteName_aesCm128HmacSha1_32Row p h)
      exact ⟨np, hnp, fun t ht =>
        .inl (by rw [hasToken_toNameParams hnp, aesCm128HmacSha1_32Row_tokens p h]; exact ht)⟩
    · obtain ⟨hrow, hnone⟩ := tokenlessRow_valid p h
      obtain ⟨np, hnp, -⟩ := toNameParams_of_suiteName hn
      rw [hrow]
      exact ⟨np, hnp, fun t ht => absurd ht (by rw [hnone]; exact Bool.false_ne_true)⟩
    · exact absurd rfl h
  · have hp' (t : SecurityToken) : hasToken p t = suiteTokens cs t :=
      (hp t).trans (hasToken_toNameParams hnp t)
    have hcs : suiteName cs = some np.name := by rw [suiteName, hnp]; rfl
    rcases msCryptoSuiteBuildFromNameParams_cases np.name p with
      ⟨hn, hb⟩ | ⟨hn, hb⟩ | ⟨cs', hmem, hn', hb⟩ | ⟨hn, hb⟩ <;> rw [hb]
    · cases cs <;> simp only [msCryptoSuiteToNameParams, Option.some.injEq, reduceCtorEq] at hnp <;>
        subst hnp <;> first | exact absurd hn (by decide) | (simp only [aesCm128HmacSha1_80Row, hp']; rfl)
    · cases cs <;> simp only [msCryptoSuiteToNameParams, Option.some.injEq, reduceCtorEq] at hnp <;>
        subst hnp <;> first | exact absurd hn (by decide) | (simp only [aesCm128HmacSha1_32Row, hp']; rfl)
    · rw [eq_of_suiteName_eq_tokenless cs cs' hmem (hcs.trans hn'.symm)] at hp' ⊢
      simp only [tokenlessRow, hp', suiteTokens_of_mem_tokenlessSuites cs' hmem, Bool.and_self,
        Bool.false_eq_true, if_false]
    · exact absurd hcs (hn cs)

/-- **The dropped token.** `AES_CM_128_HMAC_SHA1_80` with `UNENCRYPTED_SRTP UNAUTHENTICATED_SRTP`
decodes to the suite that is unencrypted but authenticated, whose parameters do not name
`UNAUTHENTICATED_SRTP`.
Source: `mediastream.c` lines 627–635
Kind: N− -/
theorem unauthenticated_dropped_with_unencrypted :
    msCryptoSuiteBuildFromNameParams ⟨nameAesCm128HmacSha1_80,
        some ⟨"UNENCRYPTED_SRTP UNAUTHENTICATED_SRTP".toList, by decide⟩⟩ =
      .aes128Sha1_80SrtpNoCipher ∧
    hasToken (some ⟨"UNENCRYPTED_SRTP UNAUTHENTICATED_SRTP".toList, by decide⟩)
      .unauthenticatedSrtp = true ∧
    msCryptoSuiteToNameParams .aes128Sha1_80SrtpNoCipher =
      some ⟨nameAesCm128HmacSha1_80, some SecurityToken.unencryptedSrtp.text⟩ ∧
    hasToken (some SecurityToken.unencryptedSrtp.text) .unauthenticatedSrtp = false := by
  decide

end MediaStreamer.CryptoSuite
