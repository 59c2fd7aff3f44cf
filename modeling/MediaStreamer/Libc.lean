import Mathlib.Data.List.Infix
import Mathlib.Data.Nat.Digits
import Mathlib.Tactic.IntervalCases

/-!
# The C library string functions the stream code relies on

`mediastream.c` matches crypto-suite names with `strncmp` (through its `keywordcmp` macro) and
security tokens with `strstr`; `media_stream_extract_fec_params` reads numbers with `atoi`, and
the ticker priority knob is compared with `strcasecmp`, and the H.264 decoders compare parameter
sets with `memcmp`. This file gives each of them the meaning
the C library gives it, on NUL-terminated strings.

* `CStr` — a C string: the characters before its terminator, which therefore hold no NUL.
* `keywordcmp_eq_zero_iff`: `keywordcmp(key, b)` compares `sizeof(key)` bytes, the terminator
  included, so it accepts exactly `key` — neither a prefix nor an extension of it.
* `strstr_isSome_iff`: `strstr` finds a needle iff the needle is a contiguous infix.
* `atoi_numeral`: `atoi` reads every decimal numeral as the number it writes.
* `strcasecmp_eq_zero_iff`: `strcasecmp` finds two C strings equal iff they agree ignoring ASCII
  case.
* `memcmp_eq_zero_iff`: `memcmp` over the common size finds two buffers of one size equal iff
  they are.

Characters are Lean `Char`s; the strings this program compares are ASCII, where a character is
one byte.
-/

namespace MediaStreamer.Libc

/-- The NUL character that ends every C string.
Source: C string convention
Kind: D -/
def nul : Char := Char.ofNat 0

/-- Two characters with one code are equal.
Source: none: infrastructure
Kind: L -/
theorem char_eq_of_toNat_eq {a b : Char} (h : a.toNat = b.toNat) : a = b := by
  rw [← Char.ofNat_toNat a, h, Char.ofNat_toNat]

/-- Only the terminator has code `0`.
Source: none: infrastructure
Kind: L -/
theorem toNat_eq_zero_iff {c : Char} : c.toNat = 0 ↔ c = nul :=
  ⟨fun h => char_eq_of_toNat_eq (show c.toNat = nul.toNat from h), fun h => h ▸ rfl⟩

/-- A C string: the characters before its terminating NUL.
Source: `const char *` arguments throughout `mediastream.c`
Kind: D -/
structure CStr where
  /-- The characters before the terminator. -/
  chars : List Char
  /-- The terminator is the first NUL, so none stands before it. -/
  no_nul : nul ∉ chars
deriving DecidableEq, Repr

/-! ## `strncmp` and the `keywordcmp` macro -/

/-- `strncmp(a, b, n)`: compare at most `n` characters of the C strings `a` and `b`, stopping at
the first difference or at a terminator (which compares as `0`); the result is the difference of
the first differing characters.
Source: libc `strncmp`
Kind: D -/
def strncmp : List Char → List Char → Nat → Int
  | _, _, 0 => 0
  | [], [], _ + 1 => 0
  | [], b :: _, _ + 1 => -(b.toNat : Int)
  | a :: _, [], _ + 1 => a.toNat
  | a :: as, b :: bs, n + 1 => if a = b then strncmp as bs n else (a.toNat : Int) - b.toNat

/-- `#define keywordcmp(key, b) strncmp(key, b, sizeof(key))`: `sizeof` of the literal `key`
counts its terminator.
Source: `mediastream.c` line 621
Kind: D -/
def keywordcmp (key b : CStr) : Int := strncmp key.chars b.chars (key.chars.length + 1)

/-- Comparing `|k| + 1` characters, terminator included, tells C strings apart exactly.
Source: libc `strncmp`
Kind: L -/
theorem strncmp_length_succ_eq_zero_iff :
    ∀ (k b : List Char), nul ∉ k → nul ∉ b → (strncmp k b (k.length + 1) = 0 ↔ k = b)
  | [], [], _, _ => by simp [strncmp]
  | [], c :: _, _, hb => by
      have hc : c ≠ nul := fun h => hb (h ▸ List.mem_cons_self _ _)
      simpa [strncmp, toNat_eq_zero_iff] using hc
  | a :: _, [], hk, _ => by
      have ha : a ≠ nul := fun h => hk (h ▸ List.mem_cons_self _ _)
      simpa [strncmp, toNat_eq_zero_iff] using ha
  | a :: k, c :: b, hk, hb => by
      by_cases hac : a = c
      · subst hac
        simpa [strncmp] using
          strncmp_length_succ_eq_zero_iff k b (fun h => hk (List.mem_cons_of_mem _ h))
            (fun h => hb (List.mem_cons_of_mem _ h))
      · have hne : (a.toNat : Int) - c.toNat ≠ 0 := fun h =>
          hac (char_eq_of_toNat_eq (by omega))
        simp [strncmp, hac, hne]

/-- `keywordcmp(key, b) == 0` accepts exactly the keyword: no prefix and no extension of it.
Source: `mediastream.c` line 621
Kind: P -/
theorem keywordcmp_eq_zero_iff (key b : CStr) : keywordcmp key b = 0 ↔ key = b := by
  rw [keywordcmp, strncmp_length_succ_eq_zero_iff _ _ key.no_nul b.no_nul]
  cases key; cases b; simp

/-! ## `strstr` -/

/-- `strstr(haystack, needle)`: the offset of the first occurrence of `needle` in `haystack`,
`none` standing for `NULL`.
Source: libc `strstr`
Kind: D -/
def strstr : List Char → List Char → Option Nat
  | [], needle => if needle.isPrefixOf [] then some 0 else none
  | c :: t, needle =>
      if needle.isPrefixOf (c :: t) then some 0 else (strstr t needle).map (· + 1)

/-- `strstr` returns non-`NULL` exactly on a contiguous occurrence.
Source: libc `strstr`
Kind: P -/
theorem strstr_isSome_iff (needle : List Char) :
    ∀ haystack, (strstr haystack needle).isSome ↔ needle <:+: haystack
  | [] => by
      by_cases h : needle.isPrefixOf [] <;>
        simp_all [strstr, List.isPrefixOf_iff_prefix, List.infix_nil, List.prefix_nil]
  | c :: t => by
      rw [List.infix_cons_iff, ← strstr_isSome_iff needle t, ← List.isPrefixOf_iff_prefix]
      by_cases h : needle.isPrefixOf (c :: t) <;> simp [strstr, h]

/-- What `strstr` returns is an occurrence.
Source: libc `strstr`
Kind: L -/
theorem strstr_eq_some_prefix (needle : List Char) :
    ∀ haystack k, strstr haystack needle = some k → needle <+: haystack.drop k
  | [], k, h => by
      unfold strstr at h
      split_ifs at h with hp
      cases h
      exact List.isPrefixOf_iff_prefix.mp hp
  | c :: t, k, h => by
      unfold strstr at h
      split_ifs at h with hp
      · cases h
        exact List.isPrefixOf_iff_prefix.mp hp
      · obtain ⟨k', hk', rfl⟩ := Option.map_eq_some'.mp h
        exact strstr_eq_some_prefix needle t k' hk'

/-- `strstr` returns the first occurrence: one at or before every occurrence.
Source: libc `strstr`
Kind: L -/
theorem strstr_le_of_prefix (needle : List Char) :
    ∀ haystack j, needle <+: haystack.drop j → ∃ k, strstr haystack needle = some k ∧ k ≤ j
  | [], j, h => by
      rw [List.drop_nil, ← List.isPrefixOf_iff_prefix] at h
      exact ⟨0, by simp only [strstr, h, if_true], Nat.zero_le j⟩
  | c :: t, j, h => by
      by_cases hp : needle.isPrefixOf (c :: t)
      · exact ⟨0, by simp only [strstr, hp, if_true], Nat.zero_le j⟩
      · cases j with
        | zero => exact absurd (List.isPrefixOf_iff_prefix.mpr h) hp
        | succ j =>
            obtain ⟨k, hk, hkj⟩ := strstr_le_of_prefix needle t j h
            exact ⟨k + 1, by simp [strstr, hp, hk], by omega⟩

/-- `strstr(s, token) != NULL` on C strings.
Source: `mediastream.c` lines 630–670
Kind: D -/
def CStr.contains (s token : CStr) : Bool := (strstr s.chars token.chars).isSome

/-- `strstr` finds a token in a C string iff it is a contiguous part of it.
Source: `mediastream.c` lines 630–670
Kind: L -/
@[simp] theorem CStr.contains_iff (s token : CStr) : s.contains token ↔ token.chars <:+: s.chars :=
  strstr_isSome_iff _ _

/-! ## `atoi` -/

/-- `isspace(c)` in the C locale: space, tab, line feed, vertical tab, form feed, return.
Source: libc `isspace`
Kind: D -/
def isspace (c : Char) : Bool := c.toNat == 32 || (9 ≤ c.toNat && c.toNat ≤ 13)

/-- The decimal digits `atoi` accumulates into `acc`: the leading run of digits of the string.
Source: libc `atoi`
Kind: D -/
def readDigits (acc : Nat) : List Char → Nat
  | [] => acc
  | c :: t => if c.isDigit then readDigits (10 * acc + (c.toNat - 48)) t else acc

/-- `atoi(s)`: skip leading white space, take an optional sign, then read the longest run of
decimal digits (`0` if there is none). C leaves an overflowing value undefined; the strings this
program reads hold at most nine characters, whose value always fits an `int`.
Source: libc `atoi`
Kind: D -/
def atoi (s : List Char) : Int :=
  match s.dropWhile isspace with
  | [] => 0
  | c :: t =>
      if c = '-' then -(readDigits 0 t : Int)
      else if c = '+' then readDigits 0 t
      else readDigits 0 (c :: t)

/-- The numeral spelling the digit list `ds`, most significant digit first.
Source: none: infrastructure
Kind: D -/
def numeral (ds : List Nat) : List Char := ds.map fun d => Char.ofNat (48 + d)

/-- The character of a decimal digit is a digit.
Source: none: infrastructure
Kind: L -/
theorem isDigit_digitChar {d : Nat} (h : d < 10) : (Char.ofNat (48 + d)).isDigit = true := by
  interval_cases d <;> decide

/-- The character of a decimal digit reads back as that digit.
Source: none: infrastructure
Kind: L -/
theorem digitChar_sub {d : Nat} (h : d < 10) : (Char.ofNat (48 + d)).toNat - 48 = d := by
  interval_cases d <;> decide

/-- Reading a numeral accumulates its digits left to right.
Source: libc `atoi`
Kind: L -/
theorem readDigits_numeral :
    ∀ (ds : List Nat) (acc : Nat), (∀ d ∈ ds, d < 10) →
      readDigits acc (numeral ds) = ds.foldl (fun a d => 10 * a + d) acc
  | [], _, _ => rfl
  | d :: ds, acc, h => by
      have hd := h d (List.mem_cons_self _ _)
      simp only [numeral, List.map_cons, readDigits, isDigit_digitChar hd, if_true,
        digitChar_sub hd, List.foldl_cons]
      exact readDigits_numeral ds _ fun e he => h e (List.mem_cons_of_mem _ he)

/-- Accumulating digits left to right computes the value of the numeral they spell.
Source: none: infrastructure
Kind: L -/
theorem foldl_digits_eq_ofDigits (ds : List Nat) :
    ds.foldl (fun a d => 10 * a + d) 0 = Nat.ofDigits 10 ds.reverse := by
  induction ds using List.reverseRecOn with
  | nil => rfl
  | append_singleton ds d ih =>
      simp only [List.foldl_append, List.foldl_cons, List.foldl_nil, ih, List.reverse_append,
        List.reverse_singleton, List.singleton_append, Nat.ofDigits_cons]
      omega

/-- `atoi` reads every decimal numeral (leading zeros allowed) as the number it writes: the
value of its digits, most significant first.
Source: libc `atoi`
Kind: P -/
theorem atoi_numeral (ds : List Nat) (h : ∀ d ∈ ds, d < 10) :
    atoi (numeral ds) = ((Nat.ofDigits 10 ds.reverse : Nat) : Int) := by
  rw [← foldl_digits_eq_ofDigits, ← readDigits_numeral ds 0 h]
  cases ds with
  | nil => rfl
  | cons d ds =>
      have hd := h d (List.mem_cons_self _ _)
      have hsp : isspace (Char.ofNat (48 + d)) = false := by interval_cases d <;> decide
      have hsign : Char.ofNat (48 + d) ≠ '-' ∧ Char.ofNat (48 + d) ≠ '+' := by
        interval_cases d <;> decide
      simp only [atoi, numeral, List.map_cons, List.dropWhile_cons, hsp, hsign.1, hsign.2,
        if_false, Bool.false_eq_true]

/-! ## `strcasecmp` -/

/-- `strcasecmp(a, b)`: compare C strings ignoring ASCII case.
Source: libc `strcasecmp`
Kind: D -/
def strcasecmp : List Char → List Char → Int
  | [], [] => 0
  | [], b :: _ => -(b.toLower.toNat : Int)
  | a :: _, [] => a.toLower.toNat
  | a :: as, b :: bs =>
      if a.toLower = b.toLower then strcasecmp as bs else (a.toLower.toNat : Int) - b.toLower.toNat

/-- A character below the surrogates is the character of its code.
Source: none: infrastructure
Kind: L -/
theorem toNat_ofNat_of_lt {n : Nat} (h : n < 55296) : (Char.ofNat n).toNat = n := by
  rw [Char.ofNat, dif_pos (Or.inl h)]; rfl

/-- Lowering the case never makes a terminator.
Source: none: infrastructure
Kind: L -/
theorem eq_nul_of_toLower_eq_nul {c : Char} (h : c.toLower = nul) : c = nul := by
  unfold Char.toLower at h
  dsimp only at h
  split_ifs at h with hu
  · have h' := congrArg Char.toNat h
    rw [toNat_ofNat_of_lt (by omega)] at h'
    exact absurd h' (by show c.toNat + 32 ≠ 0; omega)
  · exact h

/-- `strcasecmp(a, b) == 0` on C strings exactly when they agree ignoring ASCII case.
Source: libc `strcasecmp`
Kind: L -/
theorem strcasecmp_eq_zero_iff :
    ∀ (a b : List Char), nul ∉ a → nul ∉ b →
      (strcasecmp a b = 0 ↔ a.map Char.toLower = b.map Char.toLower)
  | [], [], _, _ => by simp [strcasecmp]
  | [], c :: _, _, hb => by
      have hc : c.toLower ≠ nul := fun h => hb (eq_nul_of_toLower_eq_nul h ▸ List.mem_cons_self _ _)
      simpa [strcasecmp, toNat_eq_zero_iff] using hc
  | c :: _, [], ha, _ => by
      have hc : c.toLower ≠ nul := fun h => ha (eq_nul_of_toLower_eq_nul h ▸ List.mem_cons_self _ _)
      simpa [strcasecmp, toNat_eq_zero_iff] using hc
  | a :: as, b :: bs, ha, hb => by
      by_cases hab : a.toLower = b.toLower
      · simpa [strcasecmp, hab] using
          strcasecmp_eq_zero_iff as bs (fun h => ha (List.mem_cons_of_mem _ h))
            (fun h => hb (List.mem_cons_of_mem _ h))
      · have hne : (a.toLower.toNat : Int) - b.toLower.toNat ≠ 0 := fun h =>
          hab (char_eq_of_toNat_eq (by omega))
        simp [strcasecmp, hab, hne]

/-! ## `memcmp` -/

/-- `memcmp(a, b, n)`: compare the first `n` bytes of two buffers as unsigned characters; the
result is the difference of the first differing bytes. Reading past either buffer is undefined;
the model answers `0` there, and the callers modelled compare only bytes both buffers hold.
Source: libc `memcmp`
Kind: D -/
def memcmp : List UInt8 → List UInt8 → Nat → Int
  | _, _, 0 => 0
  | a :: as, b :: bs, n + 1 => if a = b then memcmp as bs n else (a.toNat : Int) - b.toNat
  | [], _, _ + 1 => 0
  | _ :: _, [], _ + 1 => 0

/-- On buffers of one size, `memcmp` over that size finds them equal iff they are.
Source: libc `memcmp`
Kind: L -/
theorem memcmp_eq_zero_iff :
    ∀ (a b : List UInt8), a.length = b.length → (memcmp a b a.length = 0 ↔ a = b)
  | [], [], _ => by simp [memcmp]
  | [], _ :: _, h => absurd h (by simp)
  | _ :: _, [], h => absurd h (by simp)
  | a :: as, b :: bs, h => by
      by_cases hab : a = b
      · simpa [memcmp, hab] using memcmp_eq_zero_iff as bs (by simpa using h)
      · have hne : (a.toNat : Int) - b.toNat ≠ 0 := fun h => hab (UInt8.toNat.inj (by omega))
        simp [memcmp, hab, hne]

end MediaStreamer.Libc
