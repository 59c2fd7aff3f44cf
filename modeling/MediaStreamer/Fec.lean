import MediaStreamer.Fmtp
import MediaStreamer.Stream

/-!
# FlexFEC: reading the parameters and setting up the repair stream

`media_stream_handle_fec` runs when the negotiated profile holds a "flexfec" payload type: it
widens the primary session's jitter compensation, creates the FEC session if the stream has none,
configures it and adds it to the transport bundle, reads the FEC parameters from the payload
type's receive `fmtp` (`media_stream_extract_fec_params`) and creates and initialises a FEC
stream.

The parameters are read with oRTP's `fmtp_get_value` (`Fmtp`): the value of the last
occurrence of `name=`, cut to the 10-byte buffer, so at most nine characters, which `atoi` then
reads.

* `repair_window_abc_is_zero` — a repair window that is not a number is read as `0`, not as the
  default.
* `mediaStreamExtractFecParams_lastParam` — on every `fmtp` string, each parameter is `atoi` of
  the first nine characters of the text after the last accepted `name=`, and the default when
  there is none; on an attribute list, of the value of its last attribute of that name.
  `readFecParam_numeral` — so numerals of at most nine digits are read exactly.
* `mediaStreamHandleFec_again` — handling FEC again keeps the FEC session but makes the whole
  set-up call sequence again: it reconfigures the session, adds it to the bundle again and
  replaces the FEC stream by a new one, without destroying the old one;
  `handle_fec_twice_orphans_stream` shows it.
-/

namespace MediaStreamer.Fec

open Stream Libc Fmtp

/-! ## `media_stream_extract_fec_params` -/

/-- One parameter of `media_stream_extract_fec_params`: `atoi` of the value found, `default`
when `fmtp_get_value` finds none.
Source: `mediastream.c` lines 947–965
Kind: D -/
def fecParam (fmtp : CStr) (name : String) (default : Int) : Int :=
  match fmtpGetValue fmtp.chars name.toList 10 with
  | some buffer => atoi buffer
  | none => default

/-- `media_stream_extract_fec_params`: the repair window, `L` and `D` from the receive `fmtp`,
with the defaults 100000, 10 and 0, all read through a 10-byte buffer.
Source: `mediastream.c` lines 938–969
Kind: D -/
def mediaStreamExtractFecParams (recvFmtp : CStr) : FecParameters :=
  ⟨fecParam recvFmtp "L" 10, fecParam recvFmtp "D" 0, fecParam recvFmtp "repair-window" 100000⟩

/-- A repair window that is not a number is read as `0`.
Source: `mediastream.c` lines 938–969
Kind: N− -/
theorem repair_window_abc_is_zero :
    (mediaStreamExtractFecParams ⟨"repair-window=abc".toList, by decide⟩).repairWindow = 0 := by
  decide

/-- What a parameter reads from a well-formed `fmtp`: `atoi` of the first nine characters of the
value of the last attribute of that name, and `default` when there is none.
Source: `mediastream.c` lines 947–965
Kind: D -/
def readFecParam (attrs : List FmtpAttr) (name : String) (default : Int) : Int :=
  match lastValue attrs name.toList with
  | some v => atoi (v.take 9)
  | none => default

/-- A parameter read from a well-formed `fmtp`.
Source: `mediastream.c` lines 947–965
Kind: L -/
theorem fecParam_fmtpOf (attrs : List FmtpAttr) {name : String} (hn : ParamName name.toList)
    (default : Int) : fecParam (fmtpOf attrs) name default = readFecParam attrs name default := by
  unfold fecParam readFecParam
  rw [fmtpGetValue_fmtpOf attrs hn 10]
  cases lastValue attrs name.toList <;> rfl

/-- What a parameter reads when the last accepted occurrence of its name is at offset `r`: `atoi`
of the first nine characters of the text after `name=` up to the next `;`, and `default` when
there is no accepted occurrence.
Source: `mediastream.c` lines 947–965
Kind: D -/
def lastParamValue (s name : List Char) (default : Int) (r : Option Nat) : Int :=
  (r.map fun c => atoi (((s.drop (c + name.length + 1)).takeWhile (· ≠ ';')).take 9)).getD default

/-- One parameter, on every `fmtp`: what it reads at the last accepted occurrence of its name.
Source: `mediastream.c` lines 947–965
Kind: L -/
theorem fecParam_eq (fmtp : CStr) {name : String} (hn : ParamName name.toList) (default : Int) :
    ∃ r, IsLastParam fmtp.chars name.toList r ∧
      fecParam fmtp name default = lastParamValue fmtp.chars name.toList default r := by
  obtain ⟨r, hr, hget⟩ := fmtpGetValue_eq (s := fmtp.chars) hn 10
  refine ⟨r, hr, ?_⟩
  rw [fecParam, hget]
  cases r <;> rfl

/-- **The FEC parameters of every `fmtp`.** Each of `L`, `D` and the repair window is `atoi` of
the first nine characters of the text after the last occurrence of `name=` that starts the
string or follows `;` or a blank, up to the next `;`, and its default (10, 0, 100000) when there
is no such occurrence. On an attribute list `k₁=v₁;…;kₙ=vₙ` that text is the value of the last
attribute of that name.
Source: `mediastream.c` lines 938–969
Kind: C -/
theorem mediaStreamExtractFecParams_lastParam (fmtp : CStr) :
    (∃ rL rD rW, IsLastParam fmtp.chars "L".toList rL ∧ IsLastParam fmtp.chars "D".toList rD ∧
      IsLastParam fmtp.chars "repair-window".toList rW ∧
      mediaStreamExtractFecParams fmtp =
        ⟨lastParamValue fmtp.chars "L".toList 10 rL, lastParamValue fmtp.chars "D".toList 0 rD,
          lastParamValue fmtp.chars "repair-window".toList 100000 rW⟩) ∧
      ∀ attrs, fmtp = fmtpOf attrs → mediaStreamExtractFecParams fmtp =
        ⟨readFecParam attrs "L" 10, readFecParam attrs "D" 0,
          readFecParam attrs "repair-window" 100000⟩ := by
  obtain ⟨rL, hL, eL⟩ := fecParam_eq fmtp (by decide : ParamName "L".toList) 10
  obtain ⟨rD, hD, eD⟩ := fecParam_eq fmtp (by decide : ParamName "D".toList) 0
  obtain ⟨rW, hW, eW⟩ := fecParam_eq fmtp (by decide : ParamName "repair-window".toList) 100000
  refine ⟨⟨rL, rD, rW, hL, hD, hW, by rw [mediaStreamExtractFecParams, eL, eD, eW]⟩, ?_⟩
  rintro attrs rfl
  rw [mediaStreamExtractFecParams, fecParam_fmtpOf attrs (by decide),
    fecParam_fmtpOf attrs (by decide), fecParam_fmtpOf attrs (by decide)]

/-- So a parameter whose last value is a numeral of at most nine digits is read exactly.
Source: `mediastream.c` lines 947–965
Kind: C -/
theorem readFecParam_numeral {attrs : List FmtpAttr} {name : String} {ds : List Nat}
    (hv : lastValue attrs name.toList = some (numeral ds)) (hlen : ds.length ≤ 9)
    (hd : ∀ d ∈ ds, d < 10) (default : Int) :
    readFecParam attrs name default = ((Nat.ofDigits 10 ds.reverse : Nat) : Int) := by
  simp only [readFecParam, hv]
  rw [List.take_of_length_le (by simpa [numeral] using hlen), atoi_numeral ds hd]

/-- `L=12` is read as twelve.
Source: `mediastream.c` lines 947–965
Kind: N+ -/
theorem readFecParam_numeral_twelve :
    let attrs : List FmtpAttr := [⟨"L".toList, numeral [1, 2], by decide, by decide⟩]
    lastValue attrs "L".toList = some (numeral [1, 2]) ∧ [1, 2].length ≤ 9 ∧
      (∀ d ∈ [1, 2], d < 10) ∧ readFecParam attrs "L" 10 = ((Nat.ofDigits 10 [2, 1] : Nat) : Int) :=
  ⟨rfl, by decide, by decide,
    @readFecParam_numeral [⟨"L".toList, numeral [1, 2], by decide, by decide⟩] "L" [1, 2] rfl
      (by decide) (by decide) 10⟩

/-! ## `media_stream_handle_fec` -/

/-- A payload type of an RTP profile, as the FEC set-up reads it.
Source: `mediastream.c` lines 970–997
Kind: D -/
structure PayloadType where
  /-- `mime_type`. -/
  mimeType : CStr
  /-- `recv_fmtp`, `NULL` when the payload type has none. -/
  recvFmtp : Option CStr

/-- An RTP profile: its payload types by payload number, `NULL` for an unused number.
Source: `mediastream.c` lines 970–997
Kind: D -/
structure RtpProfile where
  /-- The profile object. -/
  handle : Handle
  /-- The payload type of each number. -/
  payloads : List (Option PayloadType)

/-- `rtp_profile_get_payload_number_from_mime(profile, mime)`: the first number whose payload type
has the MIME type, ignoring case (`-1`, here `none`, if there is none).
Source: oRTP `rtpprofile.c`
Kind: D -/
def rtpProfileGetPayloadNumberFromMime (profile : RtpProfile) (mime : List Char) : Option Nat :=
  profile.payloads.findIdx? fun
    | some pt => strcasecmp pt.mimeType.chars mime = 0
    | none => false

/-- `rtp_profile_get_payload_from_mime(profile, mime)`.
Source: oRTP `rtpprofile.c`
Kind: D -/
def rtpProfileGetPayloadFromMime (profile : RtpProfile) (mime : List Char) :
    Option PayloadType :=
  (rtpProfileGetPayloadNumberFromMime profile mime).bind fun i => (profile.payloads.get? i).join

/-- `media_stream_handle_fec(ms, profile)`. `none` where it dereferences `NULL`: a stream without
an RTP session, or a FlexFEC payload type without a receive `fmtp`. The FEC session, when one is
created, and the FEC stream take fresh handles.
Source: `mediastream.c` lines 970–997
Kind: D -/
def mediaStreamHandleFec (w : World) (ms : MediaStream) (profile : RtpProfile) :
    Option (MediaStream × List Call) :=
  match rtpProfileGetPayloadFromMime profile "flexfec".toList with
  | none => some (ms, [])
  | some fecPayloadType =>
      match ms.sessions.rtpSession, fecPayloadType.recvFmtp with
      | some rtp, some fmtp =>
          let fec := ms.sessions.fecSession.getD w.next
          let fecStream := if ms.sessions.fecSession.isSome then w.next else w.next + 1
          let payloadTypeNumber := (rtpProfileGetPayloadNumberFromMime profile "flexfec".toList).getD 0
          some ({ ms with
                  sessions := { ms.sessions with fecSession := some fec }
                  fecStream := some fecStream },
            [.setJitterCompensation (some rtp) 200] ++
              (if ms.sessions.fecSession.isSome then [] else [.rtpSessionNew w.next]) ++
              [.setSchedulingMode fec false, .setBlockingMode fec false, .enableAvpfFeatureTmmbr fec,
                .setProfile fec profile.handle, .setPayloadType fec payloadTypeNumber,
                .setFecStream fec none, .rtpBundleAddFecSession (w.rtp rtp).bundle (some rtp) fec,
                .fecStreamNew (some rtp) (some fec) (mediaStreamExtractFecParams fmtp) fecStream,
                .fecStreamInit fecStream])
      | _, _ => none

/-- **Handling FEC again.** On a stream that already has a FEC session, `media_stream_handle_fec`
keeps that session (it creates no RTP session) but widens the jitter compensation, configures the
session again, adds it to the bundle again, and points `fec_stream` at a FEC stream it creates
anew; no call destroys anything, so the FEC stream the stream held before is left behind.
Source: `mediastream.c` lines 970–997
Kind: C -/
theorem mediaStreamHandleFec_again (w : World) (ms : MediaStream) (profile : RtpProfile)
    {rtp fec : Handle} {pt : PayloadType} {fmtp : CStr}
    (hpt : rtpProfileGetPayloadFromMime profile "flexfec".toList = some pt)
    (hfmtp : pt.recvFmtp = some fmtp) (hrtp : ms.sessions.rtpSession = some rtp)
    (hfec : ms.sessions.fecSession = some fec) :
    ∃ n cs, rtpProfileGetPayloadNumberFromMime profile "flexfec".toList = some n ∧
      mediaStreamHandleFec w ms profile = some ({ ms with fecStream := some w.next }, cs) ∧
      cs = [.setJitterCompensation (some rtp) 200, .setSchedulingMode fec false,
        .setBlockingMode fec false, .enableAvpfFeatureTmmbr fec, .setProfile fec profile.handle,
        .setPayloadType fec n, .setFecStream fec none,
        .rtpBundleAddFecSession (w.rtp rtp).bundle (some rtp) fec,
        .fecStreamNew (some rtp) (some fec) (mediaStreamExtractFecParams fmtp) w.next,
        .fecStreamInit w.next] ∧
      ∀ c ∈ cs, c.destroys = none := by
  obtain ⟨n, hn, -⟩ := Option.bind_eq_some.mp hpt
  have hs : { ms.sessions with rtpSession := some rtp, fecSession := some fec } = ms.sessions := by
    rw [← hrtp, ← hfec]
  refine ⟨n, _, hn, ?_, rfl, by simp [Call.destroys]⟩
  simp only [mediaStreamHandleFec, hpt, hfmtp, hrtp, hfec, hn, hs, Option.getD_some,
    Option.isSome_some, if_true, List.singleton_append, List.nil_append, List.cons_append]

/-- Handling FEC on a stream that holds RTP session 0 and FEC session 5, with a FlexFEC payload
type (number 0) whose receive `fmtp` is `L=5`.
Source: `mediastream.c` lines 970–997
Kind: N+ -/
theorem mediaStreamHandleFec_again_fec_session :
    let pt : PayloadType := ⟨⟨"flexfec".toList, by decide⟩, some ⟨"L=5".toList, by decide⟩⟩
    let profile : RtpProfile := ⟨0, [some pt]⟩
    let ms : MediaStream :=
      { MediaStream.new0 1 .video with
        sessions := { MSMediaStreamSessions.empty with rtpSession := some 0, fecSession := some 5 } }
    let w : World := { World.empty with next := 10 }
    rtpProfileGetPayloadFromMime profile "flexfec".toList = some pt ∧
      pt.recvFmtp = some ⟨"L=5".toList, by decide⟩ ∧ ms.sessions.rtpSession = some 0 ∧
      ms.sessions.fecSession = some 5 ∧
      ∃ n cs, rtpProfileGetPayloadNumberFromMime profile "flexfec".toList = some n ∧
        mediaStreamHandleFec w ms profile = some ({ ms with fecStream := some w.next }, cs) ∧
        cs = [.setJitterCompensation (some 0) 200, .setSchedulingMode 5 false,
          .setBlockingMode 5 false, .enableAvpfFeatureTmmbr 5, .setProfile 5 profile.handle,
          .setPayloadType 5 n, .setFecStream 5 none,
          .rtpBundleAddFecSession (w.rtp 0).bundle (some 0) 5,
          .fecStreamNew (some 0) (some 5) (mediaStreamExtractFecParams ⟨"L=5".toList, by decide⟩)
            w.next,
          .fecStreamInit w.next] ∧
        ∀ c ∈ cs, c.destroys = none :=
  ⟨rfl, rfl, rfl, rfl, mediaStreamHandleFec_again _ _ _ rfl rfl rfl rfl⟩

/-- A stream with an RTP session and no FEC session, handled twice with a profile whose FlexFEC
payload type has the receive `fmtp` `L=5`: the first call creates FEC session 10 and FEC stream 11,
the second keeps session 10 but replaces stream 11 by stream 12 and destroys nothing.
Source: `mediastream.c` lines 970–997
Kind: N− -/
theorem handle_fec_twice_orphans_stream :
    let profile : RtpProfile :=
      ⟨0, [some ⟨⟨"flexfec".toList, by decide⟩, some ⟨"L=5".toList, by decide⟩⟩]⟩
    let ms : MediaStream :=
      { MediaStream.new0 1 .video with
        sessions := { MSMediaStreamSessions.empty with rtpSession := some 0 } }
    let w : World := { World.empty with next := 10 }
    ∃ ms₁ cs₁ ms₂ cs₂, mediaStreamHandleFec w ms profile = some (ms₁, cs₁) ∧
      mediaStreamHandleFec (w.performAll cs₁) ms₁ profile = some (ms₂, cs₂) ∧
      ms₁.sessions.fecSession = some 10 ∧ ms₁.fecStream = some 11 ∧
      ms₂.sessions.fecSession = some 10 ∧ ms₂.fecStream = some 12 ∧
      ∀ c ∈ cs₂, c.destroys = none :=
  ⟨_, _, _, _, rfl, rfl, rfl, rfl, rfl, rfl, by decide⟩

end MediaStreamer.Fec
