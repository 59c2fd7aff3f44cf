import MediaStreamer.Libc

/-!
# oRTP's `fmtp_get_value`

`media_stream_extract_fec_params` reads the FlexFEC parameters with oRTP's `fmtp_get_value`
(`payloadtype.c`, outside this repository). The model gives it the meaning of its
implementation: search forward for `name` followed by `=` at the start of the searched text or
after `;` or a blank, skipping a rejected occurrence whole; search again after each hit and keep
the last; copy the value up to the next `;`, cut to the buffer.

* `findParamOccurenceOf_sound`, `findParamOccurenceOf_complete` — the forward search returns an
  accepted occurrence, at or before every accepted occurrence, for every name that holds no
  `;`, blank or `=`.
* `findLastParamOccurenceOf_isLastParam` — the repeated search returns the last accepted
  occurrence, or `NULL` when there is none.
* `fmtpGetValue_eq` — so `fmtp_get_value` copies the value after the last accepted occurrence,
  cut to the buffer, on every string.
* `fmtpGetValue_fmtpOf` — on a well-formed attribute list `k₁=v₁;…;kₙ=vₙ`, that is the value of
  the last attribute named `name`.
-/

namespace MediaStreamer.Fmtp

open Libc

/-! ## The search -/

/-- `find_param_occurence_of(fmtp + start, param)`: from offset `pos`, the first occurrence of
`param` that is followed by `=` and either starts the searched text (offset `start`) or follows
`;` or a blank. A rejected occurrence is skipped whole. The search gives up when `fuel` runs out,
which only an empty `param` can make happen (C then loops forever).
Source: oRTP `payloadtype.c`, `find_param_occurence_of`
Kind: D -/
def findParamOccurenceOf (fmtp param : List Char) (start : Nat) : Nat → Nat → Option Nat
  | 0, _ => none
  | fuel + 1, pos =>
      match strstr (fmtp.drop pos) param with
      | none => none
      | some k =>
          if (pos + k = start ∨ fmtp[pos + k - 1]? = some ';' ∨ fmtp[pos + k - 1]? = some ' ') ∧
              fmtp[pos + k + param.length]? = some '=' then
            some (pos + k)
          else findParamOccurenceOf fmtp param start fuel (pos + k + param.length)

/-- `find_last_param_occurence_of(fmtp, param)`: search again after each occurrence found, and
keep the last.
Source: oRTP `payloadtype.c`, `find_last_param_occurence_of`
Kind: D -/
def findLastParamOccurenceOf (fmtp param : List Char) : Nat → Nat → Option Nat → Option Nat
  | 0, _, last => last
  | fuel + 1, pos, last =>
      match findParamOccurenceOf fmtp param pos (fmtp.length + 1) pos with
      | none => last
      | some c => findLastParamOccurenceOf fmtp param fuel (c + param.length) (some c)

/-- `fmtp_get_value(fmtp, param_name, result, result_len)`: the text it leaves in `result` when
it returns `TRUE`, `none` when it returns `FALSE`.
Source: oRTP `payloadtype.c`, `fmtp_get_value`
Kind: D -/
def fmtpGetValue (fmtp paramName : List Char) (resultLen : Nat) : Option (List Char) :=
  (findLastParamOccurenceOf fmtp paramName (fmtp.length + 1) 0 none).map fun c =>
    ((fmtp.drop (c + paramName.length + 1)).takeWhile (· ≠ ';')).take (resultLen - 1)

/-! ## Accepted occurrences -/

/-- A character that may stand in an attribute value: neither separator nor terminator.
Source: none: infrastructure
Kind: D -/
def ValueChar (c : Char) : Prop := c ≠ ';' ∧ c ≠ ' ' ∧ c ≠ nul

/-- A character that may stand in an attribute key: a value character other than `=`.
Source: none: infrastructure
Kind: D -/
def KeyChar (c : Char) : Prop := ValueChar c ∧ c ≠ '='

/-- A name `fmtp_get_value` can look up reliably: not empty, made of key characters, as
`repair-window`, `L` and `D` are.
Source: none: infrastructure
Kind: D -/
def ParamName (name : List Char) : Prop := name ≠ [] ∧ ∀ c ∈ name, KeyChar c

/-- Whether a character may stand in a value is decidable.
Source: none: infrastructure
Kind: D -/
instance (c : Char) : Decidable (ValueChar c) := inferInstanceAs (Decidable (_ ∧ _ ∧ _))

/-- Whether a character may stand in a name is decidable.
Source: none: infrastructure
Kind: D -/
instance (c : Char) : Decidable (KeyChar c) := inferInstanceAs (Decidable (_ ∧ _))

/-- Whether a name is one `fmtp_get_value` finds exactly is decidable.
Source: none: infrastructure
Kind: D -/
instance (name : List Char) : Decidable (ParamName name) :=
  inferInstanceAs (Decidable (_ ∧ ∀ c ∈ name, KeyChar c))

/-- Offset `p` of `s` holds `name=` at the start of the searched text (offset `start`) or after
`;` or a blank: an occurrence `find_param_occurence_of` accepts.
Source: oRTP `payloadtype.c`, `find_param_occurence_of`
Kind: D -/
def IsParamAt (s name : List Char) (start p : Nat) : Prop :=
  name ++ ['='] <+: s.drop p ∧ (p = start ∨ s[p - 1]? = some ';' ∨ s[p - 1]? = some ' ')

/-- The search's two tests, an occurrence and a `=` after it, are one prefix test.
Source: none: infrastructure
Kind: L -/
theorem prefix_append_eq_iff {name l : List Char} :
    name ++ ['='] <+: l ↔ name <+: l ∧ l[name.length]? = some '=' := by
  constructor
  · rintro ⟨t, rfl⟩
    refine ⟨(List.prefix_append _ _).trans (List.prefix_append _ _), ?_⟩
    rw [List.append_assoc, List.getElem?_append_right le_rfl, Nat.sub_self, List.singleton_append,
      List.getElem?_cons_zero]
  · rintro ⟨⟨t, rfl⟩, he⟩
    rw [List.getElem?_append_right le_rfl, Nat.sub_self] at he
    cases t with
    | nil => cases he
    | cons c t =>
        rw [List.getElem?_cons_zero] at he
        cases he
        exact ⟨t, by simp⟩

/-- Inside an occurrence of `name`, `s` reads as `name`.
Source: none: infrastructure
Kind: L -/
theorem getElem?_of_prefix_drop {name s : List Char} {p i : Nat} (h : name <+: s.drop p)
    (hi : i < name.length) : s[p + i]? = name[i]? := by
  obtain ⟨t, ht⟩ := h
  rw [← List.getElem?_drop, ← ht, List.getElem?_append_left hi]

/-- An accepted occurrence ends, with its `=`, inside the string.
Source: none: infrastructure
Kind: L -/
theorem IsParamAt.lt_length {s name : List Char} {start p : Nat} (h : IsParamAt s name start p) :
    p + name.length < s.length := by
  have := h.1.length_le
  simp only [List.length_append, List.length_singleton, List.length_drop] at this
  omega

section search

variable {s name : List Char}

/-- No occurrence is accepted strictly inside another: its previous character would be a
character of `name`, never `;` or a blank. This is why skipping a rejected occurrence whole
loses nothing.
Source: none: infrastructure
Kind: L -/
theorem not_isParamAt_of_overlap (hn : ParamName name) {start p q : Nat}
    (hocc : name <+: s.drop p) (hpq : p < q) (hqp : q < p + name.length) (hstart : q ≠ start) :
    ¬ IsParamAt s name start q := by
  rintro ⟨-, hb⟩
  have hi : q - 1 - p < name.length := by omega
  have hs := getElem?_of_prefix_drop hocc hi
  rw [show p + (q - 1 - p) = q - 1 by omega, List.getElem?_eq_getElem hi] at hs
  obtain ⟨⟨hsemi, hblank, -⟩, -⟩ := hn.2 _ (List.getElem_mem hi)
  rcases hb with h | h | h
  · exact hstart h
  · exact hsemi (Option.some.inj (hs.symm.trans h))
  · exact hblank (Option.some.inj (hs.symm.trans h))

/-- What the forward search returns is an accepted occurrence at or after `pos`.
Source: oRTP `payloadtype.c`, `find_param_occurence_of`
Kind: L -/
theorem findParamOccurenceOf_sound {start : Nat} :
    ∀ fuel pos p, findParamOccurenceOf s name start fuel pos = some p →
      IsParamAt s name start p ∧ pos ≤ p
  | 0, _, _, h => by cases h
  | fuel + 1, pos, p, h => by
      simp only [findParamOccurenceOf] at h
      split at h
      · cases h
      · rename_i k hk
        have hocc := strstr_eq_some_prefix name _ k hk
        rw [List.drop_drop] at hocc
        split_ifs at h with hacc
        · cases h
          exact ⟨⟨prefix_append_eq_iff.mpr ⟨hocc, by rw [List.getElem?_drop]; exact hacc.2⟩,
            hacc.1⟩, by omega⟩
        · have := findParamOccurenceOf_sound fuel _ p h
          exact ⟨this.1, by omega⟩

/-- The forward search from `pos` finds an occurrence at or before every accepted occurrence
`q ≥ pos`, given fuel for the distance to `q`.
Source: oRTP `payloadtype.c`, `find_param_occurence_of`
Kind: L -/
theorem findParamOccurenceOf_complete (hn : ParamName name) {start q : Nat}
    (hq : IsParamAt s name start q) :
    ∀ fuel pos, start ≤ pos → pos ≤ q → q < pos + fuel →
      ∃ p, findParamOccurenceOf s name start fuel pos = some p ∧ p ≤ q
  | 0, pos, _, h₁, h₂ => absurd h₂ (by omega)
  | fuel + 1, pos, hs, h₁, h₂ => by
      have hq' := prefix_append_eq_iff.mp hq.1
      have hocc : name <+: (s.drop pos).drop (q - pos) := by
        rw [List.drop_drop, show pos + (q - pos) = q by omega]; exact hq'.1
      obtain ⟨k, hk, hkq⟩ := strstr_le_of_prefix name _ _ hocc
      have hk' := strstr_eq_some_prefix name _ k hk
      rw [List.drop_drop] at hk'
      simp only [findParamOccurenceOf, hk]
      split_ifs with hacc
      · exact ⟨_, rfl, by omega⟩
      · have hne : pos + k ≠ q := by
          rintro rfl
          exact hacc ⟨hq.2, by rw [← List.getElem?_drop]; exact hq'.2⟩
        have hlen : 0 < name.length := List.length_pos.mpr hn.1
        have hskip : pos + k + name.length ≤ q := by
          by_contra hlt
          exact not_isParamAt_of_overlap hn hk' (by omega) (by omega) (by omega) hq
        exact findParamOccurenceOf_complete hn hq fuel _ (by omega) hskip (by omega)

/-- After an accepted occurrence the repeated search starts on its `=`, where no occurrence can
start; so an occurrence at or after that point is accepted by the new search iff by a search
from the start of the string.
Source: oRTP `payloadtype.c`, `find_param_occurence_of`
Kind: L -/
theorem isParamAt_start_iff (hn : ParamName name) {pos q : Nat}
    (hpos : pos = 0 ∨ s[pos]? = some '=') (hq : pos ≤ q) :
    IsParamAt s name pos q ↔ IsParamAt s name 0 q := by
  rcases hpos with rfl | he
  · rfl
  by_cases hqp : q = pos
  · subst hqp
    have hnot : ¬ name ++ ['='] <+: s.drop q := fun h => by
      obtain ⟨c, t, rfl⟩ := List.exists_cons_of_ne_nil hn.1
      have h0 := getElem?_of_prefix_drop (prefix_append_eq_iff.mp h).1
        (Nat.zero_lt_succ t.length)
      rw [Nat.add_zero, he, List.getElem?_cons_zero] at h0
      exact (hn.2 c (List.mem_cons_self c t)).2 (Option.some.inj h0).symm
    exact ⟨fun h => absurd h.1 hnot, fun h => absurd h.1 hnot⟩
  · simp only [IsParamAt, hqp, show q ≠ 0 by omega, false_or]

/-- The last accepted occurrence: `some c` for the greatest one, `none` when there is none.
Source: oRTP `payloadtype.c`, `find_last_param_occurence_of`
Kind: D -/
def IsLastParam (s name : List Char) : Option Nat → Prop
  | some c => IsParamAt s name 0 c ∧ ∀ q, IsParamAt s name 0 q → q ≤ c
  | none => ∀ q, ¬ IsParamAt s name 0 q

/-- There is one last accepted occurrence.
Source: none: infrastructure
Kind: L -/
theorem IsLastParam.unique {r₁ r₂ : Option Nat} (h₁ : IsLastParam s name r₁)
    (h₂ : IsLastParam s name r₂) : r₁ = r₂ := by
  match r₁, r₂, h₁, h₂ with
  | some _, some _, h₁, h₂ => exact congrArg some (le_antisymm (h₂.2 _ h₁.1) (h₁.2 _ h₂.1))
  | some _, none, h₁, h₂ => exact absurd h₁.1 (h₂ _)
  | none, some _, h₁, h₂ => exact absurd h₂.1 (h₁ _)
  | none, none, _, _ => rfl

/-- Once every accepted occurrence lies before `pos`, the occurrence kept so far is the last.
Source: none: infrastructure
Kind: L -/
theorem isLastParam_of_below {pos : Nat} {last : Option Nat}
    (hlast : ∀ c, last = some c → IsParamAt s name 0 c)
    (hbelow : ∀ q, IsParamAt s name 0 q → q < pos → ∃ c, last = some c ∧ q ≤ c)
    (hall : ∀ q, IsParamAt s name 0 q → q < pos) : IsLastParam s name last := by
  cases last with
  | none => exact fun q hq => by obtain ⟨c, hc, -⟩ := hbelow q hq (hall q hq); cases hc
  | some c =>
      refine ⟨hlast c rfl, fun q hq => ?_⟩
      obtain ⟨c', hc', hqc⟩ := hbelow q hq (hall q hq)
      cases hc'
      exact hqc

/-- **The repeated search finds the last occurrence.** Its loop keeps the last occurrence found
and every accepted occurrence before the search position at or before it; each round either
finds nothing more, or moves past a new occurrence.
Source: oRTP `payloadtype.c`, `find_last_param_occurence_of`
Kind: L -/
theorem findLastParamOccurenceOf_isLastParam (hn : ParamName name) :
    ∀ fuel pos last, (pos = 0 ∨ s[pos]? = some '=') →
      (∀ c, last = some c → IsParamAt s name 0 c) →
      (∀ q, IsParamAt s name 0 q → q < pos → ∃ c, last = some c ∧ q ≤ c) →
      s.length ≤ pos + fuel →
      IsLastParam s name (findLastParamOccurenceOf s name fuel pos last)
  | 0, pos, last, _, hlast, hbelow, hfuel =>
      isLastParam_of_below hlast hbelow fun q hq => by have := hq.lt_length; omega
  | fuel + 1, pos, last, hpos, hlast, hbelow, hfuel => by
      simp only [findLastParamOccurenceOf]
      split
      · rename_i hnone
        refine isLastParam_of_below hlast hbelow fun q hq => ?_
        by_contra hge
        have hq' := (isParamAt_start_iff hn hpos (by omega)).mpr hq
        obtain ⟨p, hp, -⟩ := findParamOccurenceOf_complete hn hq' (s.length + 1) pos le_rfl
          (by omega) (by have := hq.lt_length; omega)
        rw [hnone] at hp
        cases hp
      · rename_i c hc
        obtain ⟨hcp, hpc⟩ := findParamOccurenceOf_sound _ _ _ hc
        have hc0 := (isParamAt_start_iff hn hpos hpc).mp hcp
        have hlen : 0 < name.length := List.length_pos.mpr hn.1
        refine findLastParamOccurenceOf_isLastParam hn fuel _ _
          (.inr ?_) (fun c' h => Option.some.inj h ▸ hc0) (fun q hq hlt => ⟨c, rfl, ?_⟩)
          (by omega)
        · rw [← List.getElem?_drop]
          exact (prefix_append_eq_iff.mp hc0.1).2
        · by_contra hgt
          exact not_isParamAt_of_overlap hn (List.prefix_append _ _ |>.trans hc0.1)
            (by omega) hlt (by omega) hq

/-- `fmtp_get_value` copies the value of the last accepted occurrence of the name, if any.
Source: oRTP `payloadtype.c`, `fmtp_get_value`
Kind: L -/
theorem fmtpGetValue_eq (hn : ParamName name) (resultLen : Nat) :
    ∃ r, IsLastParam s name r ∧ fmtpGetValue s name resultLen = r.map fun c =>
      ((s.drop (c + name.length + 1)).takeWhile (· ≠ ';')).take (resultLen - 1) :=
  ⟨_, findLastParamOccurenceOf_isLastParam hn _ 0 none (.inl rfl) (fun _ h => by cases h)
    (fun _ _ h => absurd h (Nat.not_lt_zero _)) (by omega), rfl⟩

end search

/-! ## Well-formed attribute lists -/

/-- An `fmtp` attribute `key=value`: a key of key characters and a value of value characters
(a value may hold `=`, as base64 does).
Source: none: infrastructure
Kind: D -/
structure FmtpAttr where
  /-- The attribute's name. -/
  key : List Char
  /-- Its value. -/
  value : List Char
  key_chars : ∀ c ∈ key, KeyChar c
  value_chars : ∀ c ∈ value, ValueChar c

/-- `key=value`.
Source: none: infrastructure
Kind: D -/
def FmtpAttr.render (a : FmtpAttr) : List Char := a.key ++ '=' :: a.value

/-- The attributes separated by `;`, as an SDP `a=fmtp` line carries them.
Source: none: infrastructure
Kind: D -/
def renderFmtp : List FmtpAttr → List Char
  | [] => []
  | [a] => a.render
  | a :: b :: r => a.render ++ ';' :: renderFmtp (b :: r)

/-- The value of the last attribute named `name`.
Source: none: infrastructure
Kind: D -/
def lastValue (attrs : List FmtpAttr) (name : List Char) : Option (List Char) :=
  ((attrs.filter fun a => a.key = name).getLast?).map FmtpAttr.value

/-- A later attribute of the name overrides an earlier one.
Source: none: infrastructure
Kind: L -/
theorem lastValue_cons (a : FmtpAttr) (r : List FmtpAttr) (name : List Char) :
    lastValue (a :: r) name =
      (lastValue r name).or (if a.key = name then some a.value else none) := by
  unfold lastValue
  rw [List.filter_cons]
  by_cases h : a.key = name
  · simp only [h, decide_True, if_true, List.getLast?_cons]
    cases (r.filter fun a => decide (a.key = name)).getLast? <;> rfl
  · simp only [h, decide_False, if_false, Bool.false_eq_true, Option.or_none]

/-- Every character of a rendered attribute could stand in a value: `=` and the key's and
value's characters.
Source: none: infrastructure
Kind: L -/
theorem FmtpAttr.valueChar_of_mem_render {a : FmtpAttr} {c : Char} (h : c ∈ a.render) :
    ValueChar c := by
  simp only [FmtpAttr.render, List.mem_append, List.mem_cons] at h
  rcases h with h | rfl | h
  · exact (a.key_chars c h).1
  · decide
  · exact a.value_chars c h

/-- A rendered list holds no terminator, so it is a C string.
Source: none: infrastructure
Kind: L -/
theorem nul_not_mem_renderFmtp : ∀ attrs, nul ∉ renderFmtp attrs
  | [] => List.not_mem_nil _
  | [a] => fun h => (FmtpAttr.valueChar_of_mem_render h).2.2 rfl
  | a :: b :: r => by
      simp only [renderFmtp, List.mem_append, List.mem_cons, not_or]
      exact ⟨fun h => (FmtpAttr.valueChar_of_mem_render h).2.2 rfl, by decide,
        nul_not_mem_renderFmtp (b :: r)⟩

/-- The receive `fmtp` that carries `attrs`.
Source: none: infrastructure
Kind: D -/
def fmtpOf (attrs : List FmtpAttr) : CStr := ⟨renderFmtp attrs, nul_not_mem_renderFmtp attrs⟩

/-- `name=` starts `key=…` iff the key is the name, neither holding `=`.
Source: none: infrastructure
Kind: L -/
theorem prefix_key_iff {name key : List Char} (hn : ∀ c ∈ name, c ≠ '=')
    (hk : ∀ c ∈ key, c ≠ '=') (v : List Char) :
    name ++ ['='] <+: key ++ '=' :: v ↔ name = key := by
  induction name generalizing key with
  | nil =>
      cases key with
      | nil => simp
      | cons y ys =>
          simp only [List.nil_append, List.cons_append, List.cons_prefix_cons]
          exact iff_of_false (fun h => hk y (List.mem_cons_self y ys) h.1.symm)
            (List.cons_ne_nil y ys).symm
  | cons x xs ih =>
      cases key with
      | nil =>
          simp only [List.nil_append, List.cons_append, List.cons_prefix_cons]
          exact iff_of_false (fun h => hn x (List.mem_cons_self x xs) h.1)
            (List.cons_ne_nil x xs)
      | cons y ys =>
          simp only [List.cons_append, List.cons_prefix_cons, List.cons.injEq,
            ih (fun c h => hn c (List.mem_cons_of_mem x h))
              (fun c h => hk c (List.mem_cons_of_mem y h))]

section render

variable {name : List Char}

/-- Within the first attribute, the one occurrence a search from the start accepts is the
attribute itself, when its key is the name.
Source: none: infrastructure
Kind: L -/
theorem isParamAt_render_append (hn : ParamName name) {a : FmtpAttr} {u : List Char} {q : Nat}
    (hq : q ≤ a.render.length) : IsParamAt (a.render ++ u) name 0 q ↔ q = 0 ∧ a.key = name := by
  cases q with
  | zero =>
      simp only [IsParamAt, List.drop_zero, true_or, and_true, true_and, FmtpAttr.render,
        List.append_assoc, List.cons_append]
      rw [prefix_key_iff (fun c h => (hn.2 c h).2) (fun c h => (a.key_chars c h).2), eq_comm]
  | succ q =>
      simp only [IsParamAt, Nat.succ_ne_zero, false_and, iff_false, false_or, Nat.add_sub_cancel]
      rintro ⟨-, h⟩
      have hq' : q < a.render.length := by omega
      rw [List.getElem?_append_left hq', List.getElem?_eq_getElem hq'] at h
      have hc := FmtpAttr.valueChar_of_mem_render (List.getElem_mem hq')
      rcases h with h | h
      · exact hc.1 (Option.some.inj h)
      · exact hc.2.1 (Option.some.inj h)

/-- A single attribute holds an accepted occurrence only at its start, when its key is the name.
Source: none: infrastructure
Kind: L -/
theorem isParamAt_render_iff (hn : ParamName name) {a : FmtpAttr} {q : Nat} :
    IsParamAt a.render name 0 q ↔ q = 0 ∧ a.key = name := by
  by_cases hq : q ≤ a.render.length
  · simpa using isParamAt_render_append (u := []) hn hq
  · exact iff_of_false (fun h => by have := h.lt_length; omega) (fun h => by omega)

/-- Past a `;`, the occurrences a search from the start accepts are those of the rest.
Source: none: infrastructure
Kind: L -/
theorem isParamAt_append_semicolon {p t : List Char} (q : Nat) :
    IsParamAt (p ++ ';' :: t) name 0 (p.length + 1 + q) ↔ IsParamAt t name 0 q := by
  have h0 : (p ++ ';' :: t)[p.length]? = some ';' := by
    rw [List.getElem?_append_right le_rfl, Nat.sub_self, List.getElem?_cons_zero]
  have hs : ∀ i, (p ++ ';' :: t)[p.length + 1 + i]? = t[i]? := fun i => by
    rw [List.getElem?_append_right (by omega), show p.length + 1 + i - p.length = i + 1 by omega,
      List.getElem?_cons_succ]
  have hd : (p ++ ';' :: t).drop (p.length + 1 + q) = t.drop q := by
    rw [show p.length + 1 + q = p.length + (q + 1) by omega, List.drop_append]; rfl
  simp only [IsParamAt, hd]
  cases q with
  | zero => simp only [Nat.add_zero, Nat.add_sub_cancel, h0, or_true, true_or]
  | succ q =>
      rw [show p.length + 1 + (q + 1) - 1 = p.length + 1 + q by omega, hs]
      simp only [show p.length + 1 + (q + 1) ≠ 0 by omega, Nat.succ_ne_zero, false_or,
        Nat.add_sub_cancel]

/-- The accepted occurrences in `a;rest`: `a` itself when its key is the name, and those of
`rest`, shifted past `a;`.
Source: none: infrastructure
Kind: L -/
theorem isParamAt_cons_iff (hn : ParamName name) {a : FmtpAttr} {t : List Char} {q : Nat} :
    IsParamAt (a.render ++ ';' :: t) name 0 q ↔
      (q = 0 ∧ a.key = name) ∨ ∃ q', q = a.render.length + 1 + q' ∧ IsParamAt t name 0 q' := by
  by_cases hq : q ≤ a.render.length
  · rw [isParamAt_render_append hn hq]
    exact ⟨.inl, fun h => h.elim id fun ⟨q', hq', _⟩ => absurd hq (by omega)⟩
  · obtain ⟨q', rfl⟩ : ∃ q', q = a.render.length + 1 + q' :=
      ⟨q - a.render.length - 1, by omega⟩
    rw [isParamAt_append_semicolon]
    refine ⟨fun h => .inr ⟨q', rfl, h⟩, fun h => h.elim (fun h => absurd h.1 (by omega)) ?_⟩
    rintro ⟨q'', he, h⟩
    rwa [show q' = q'' by omega]

/-- The text after `key=` up to the next `;` is the attribute's value.
Source: none: infrastructure
Kind: L -/
theorem value_render_append (a : FmtpAttr) {u : List Char} (hu : u.takeWhile (· ≠ ';') = []) :
    ((a.render ++ u).drop (a.key.length + 1)).takeWhile (· ≠ ';') = a.value := by
  rw [FmtpAttr.render, List.append_assoc, List.cons_append, List.drop_append,
    List.drop_one, List.tail_cons, List.takeWhile_append_of_pos, hu, List.append_nil]
  exact fun c h => decide_eq_true (a.value_chars c h).1

/-- On a rendered list, the last accepted occurrence of `name` starts the last attribute named
`name`, and the text after its `=` up to the next `;` is that attribute's value.
Source: none: infrastructure
Kind: L -/
theorem renderFmtp_isLastParam (hn : ParamName name) :
    ∀ attrs : List FmtpAttr, ∃ r, IsLastParam (renderFmtp attrs) name r ∧
      r.map (fun c => ((renderFmtp attrs).drop (c + name.length + 1)).takeWhile (· ≠ ';')) =
        lastValue attrs name
  | [] => ⟨none, fun q hq => by have := hq.lt_length; simp [renderFmtp] at this, rfl⟩
  | [a] => by
      by_cases hk : a.key = name
      · refine ⟨some 0, ⟨(isParamAt_render_iff hn).mpr ⟨rfl, hk⟩,
          fun q hq => ((isParamAt_render_iff hn).mp hq).1.le⟩, ?_⟩
        subst hk
        simpa [lastValue, renderFmtp] using value_render_append a (u := []) rfl
      · exact ⟨none, fun q hq => hk ((isParamAt_render_iff hn).mp hq).2,
          by simp [lastValue, hk]⟩
  | a :: b :: r => by
      obtain ⟨r', hr', he'⟩ := renderFmtp_isLastParam hn (b :: r)
      have hcons := fun q => isParamAt_cons_iff hn (a := a) (t := renderFmtp (b :: r)) (q := q)
      simp only [renderFmtp] at hcons ⊢
      rw [lastValue_cons, ← he']
      cases r' with
      | some c' =>
          refine ⟨some (a.render.length + 1 + c'),
            ⟨(hcons _).mpr (.inr ⟨c', rfl, hr'.1⟩), fun q hq => ?_⟩, ?_⟩
          · rcases (hcons q).mp hq with ⟨rfl, -⟩ | ⟨q', rfl, hq'⟩
            · exact Nat.zero_le _
            · have := hr'.2 q' hq'; omega
          · simp only [Option.map_some']
            rw [show a.render.length + 1 + c' + name.length + 1 =
                a.render.length + (c' + name.length + 1 + 1) by omega, List.drop_append]
            rfl
      | none =>
          by_cases hk : a.key = name
          · refine ⟨some 0, ⟨(hcons 0).mpr (.inl ⟨rfl, hk⟩), fun q hq => ?_⟩, ?_⟩
            · rcases (hcons q).mp hq with ⟨rfl, -⟩ | ⟨q', -, hq'⟩
              · exact le_rfl
              · exact absurd hq' (hr' q')
            · subst hk
              simp only [Option.map_some', Option.map_none', Option.none_or, if_true, Nat.zero_add]
              rw [value_render_append a (by simp)]
          · refine ⟨none, fun q hq => ?_, by simp only [Option.map_none', Option.none_or, hk,
              if_false]⟩
            rcases (hcons q).mp hq with ⟨-, hk'⟩ | ⟨q', -, hq'⟩
            · exact hk hk'
            · exact hr' q' hq'

end render

/-- `fmtp_get_value` on the C string of an attribute list: the last value of the name, cut.
Source: oRTP `payloadtype.c`, `fmtp_get_value`
Kind: L -/
theorem fmtpGetValue_fmtpOf (attrs : List FmtpAttr) {name : List Char} (hn : ParamName name)
    (resultLen : Nat) :
    fmtpGetValue (fmtpOf attrs).chars name resultLen =
      (lastValue attrs name).map (·.take (resultLen - 1)) := by
  obtain ⟨r, hr, hget⟩ := fmtpGetValue_eq (s := renderFmtp attrs) hn resultLen
  obtain ⟨r', hr', hval⟩ := renderFmtp_isLastParam hn attrs
  rw [fmtpOf, hget, hr.unique hr', ← hval, Option.map_map]
  rfl

end MediaStreamer.Fmtp
