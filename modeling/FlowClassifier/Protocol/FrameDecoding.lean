import FlowClassifier.Lib.Framing
import FlowClassifier.Protocol.Frames

/-!
The frame decoder is stable: what it answers on some bytes it answers on every extension of
them, so a `FrameStream` yields the same frames however the bytes are cut. What
`encodeFrame` writes is read back with the length and the tag that it has filled in.
-/
namespace FlowClassifier.Protocol

open Lib Foundation Buffers Codec

section Extension

variable {maxPayload : UInt32} {data : Bytes}

/-- The header is in the first 44 bytes. -/
theorem checkFrameHeader_append (h : frameHeaderBytes ≤ data.length) (more : Bytes) :
    checkFrameHeader (data ++ more) maxPayload = checkFrameHeader data maxPayload := by
  unfold frameHeaderBytes at h
  unfold checkFrameHeader
  rw [headerField_append (by omega), headerField_append (by omega), headerField_append (by omega),
    List.take_append_of_le_length (by omega)]

theorem take_magic_append (h : frameMagic.length ≤ data.length) (more : Bytes) :
    (data ++ more).take 4 = data.take 4 :=
  List.take_append_of_le_length h

/-- A long enough stream is refused or accepted by its header. -/
theorem tryDecodeFrame_of_header (hlong : frameHeaderBytes ≤ data.length) :
    tryDecodeFrame maxPayload data =
      match checkFrameHeader data maxPayload with
      | .error e => .error e
      | .ok (kind, payloadLength) =>
        if payloadLength > data.length - frameHeaderBytes then .ok none
        else
          match readFrame kind (data.take (frameHeaderBytes + payloadLength)) with
          | .error e => .error e
          | .ok frame => .ok (some (frame, frameHeaderBytes + payloadLength)) := by
  unfold tryDecodeFrame
  exact if_neg (by omega)

/-- A stream with another magic is refused from the fourth byte on. -/
theorem tryDecodeFrame_of_magic (hlong : frameMagic.length ≤ data.length)
    (hmagic : data.take 4 ≠ frameMagic) : tryDecodeFrame maxPayload data = .error notAFrame := by
  by_cases hshort : data.length < frameHeaderBytes
  · rw [tryDecodeFrame, if_pos hshort, if_neg (by omega), if_pos hmagic]
  · rw [tryDecodeFrame_of_header (by omega), checkFrameHeader, if_pos hmagic]

/-- An answer stands when more arrives. -/
theorem tryDecodeFrame_append {out : Result (Option (Frame × ℕ))}
    (h : tryDecodeFrame maxPayload data = out) (hout : out ≠ .ok none) (more : Bytes) :
    tryDecodeFrame maxPayload (data ++ more) = out := by
  have hlength : (data ++ more).length = data.length + more.length := List.length_append
  by_cases hshort : data.length < frameHeaderBytes
  · rw [tryDecodeFrame, if_pos hshort] at h
    split_ifs at h with hfew hmagic
    · exact absurd h.symm hout
    · rw [← take_magic_append (by omega) more] at hmagic
      rw [← h]
      exact tryDecodeFrame_of_magic (by omega) hmagic
    · exact absurd h.symm hout
  · rw [tryDecodeFrame_of_header (by omega)] at h ⊢
    rw [checkFrameHeader_append (by omega)]
    cases hheader : checkFrameHeader data maxPayload with
    | error e =>
      rw [hheader] at h
      exact h
    | ok checked =>
      rw [hheader] at h
      dsimp only at h ⊢
      split_ifs at h with hmore
      · exact absurd h.symm hout
      · rw [if_neg (by omega), List.take_append_of_le_length (by omega)]
        exact h

/-- How much a frame takes off. -/
theorem tryDecodeFrame_found {frame : Frame} {consumed : ℕ}
    (h : tryDecodeFrame maxPayload data = .ok (some (frame, consumed))) :
    frameHeaderBytes ≤ consumed ∧ consumed ≤ data.length := by
  by_cases hshort : data.length < frameHeaderBytes
  · rw [tryDecodeFrame, if_pos hshort] at h
    split_ifs at h <;> cases h
  · rw [tryDecodeFrame_of_header (by omega)] at h
    cases hheader : checkFrameHeader data maxPayload with
    | error e =>
      rw [hheader] at h
      cases h
    | ok checked =>
      rw [hheader] at h
      dsimp only at h
      split_ifs at h with hmore
      · cases h
      · split at h <;> cases h
        omega

end Extension

theorem stable_tryDecodeFrame (maxPayload : UInt32) :
    Deframer.Stable (tryDecodeFrame maxPayload) where
  empty := rfl
  failed h more := tryDecodeFrame_append h (by simp) more
  found h more := tryDecodeFrame_append h (by simp) more
  pos h := Nat.lt_of_lt_of_le (by decide) (tryDecodeFrame_found h).1
  within h := (tryDecodeFrame_found h).2

section RoundTrip

variable (header : FrameHeader) (payload : Bytes)

theorem length_frameFields : (frameFields header payload).length = 40 := by
  have hmagic : frameMagic.length = 4 := rfl
  simp [frameFields, hmagic]

theorem length_frameBytes :
    (frameBytes header payload).length = frameHeaderBytes + payload.length := by
  simp only [frameBytes, List.length_append, length_frameFields, length_u32Bytes, frameHeaderBytes]

def Supported (version : UInt16) : Prop :=
  protocolVersionMin ≤ version ∧ version ≤ protocolVersion

instance : DecidablePred Supported := fun _ => inferInstanceAs (Decidable (_ ∧ _))

def sentHeader : FrameHeader :=
  { header with
    payloadLength := UInt32.ofNat payload.length
    checksum := frameTag (frameFields header payload) payload }

/-- The frame as its fields, one after the other. -/
theorem frameBytes_eq : frameBytes header payload = frameMagic ++ (u16Bytes header.version ++
      (u16Bytes (kindCode header.kind) ++ (u32Bytes header.flags ++ (u64Bytes header.sequence ++
      (u64Bytes header.epoch ++ (u64Bytes header.boot ++ (u32Bytes (UInt32.ofNat payload.length) ++
      (u32Bytes (frameTag (frameFields header payload) payload) ++ payload)))))))) := by
  simp only [frameBytes, frameFields, List.append_assoc]

theorem headerField_frameBytes :
    headerField (frameBytes header payload) 4 2 = header.version.toNat ∧
    headerField (frameBytes header payload) 6 2 = (kindCode header.kind).toNat ∧
    headerField (frameBytes header payload) 8 4 = header.flags.toNat ∧
    headerField (frameBytes header payload) 12 8 = header.sequence.toNat ∧
    headerField (frameBytes header payload) 20 8 = header.epoch.toNat ∧
    headerField (frameBytes header payload) 28 8 = header.boot.toNat ∧
    headerField (frameBytes header payload) 36 4 = (UInt32.ofNat payload.length).toNat ∧
    headerField (frameBytes header payload) 40 4 =
      (frameTag (frameFields header payload) payload).toNat := by
  have hmagic : frameMagic.length = 4 := rfl
  have hsplit := frameBytes_eq header payload
  simp only [← ofLeBytes_u64Bytes, ← ofLeBytes_u32Bytes, ← ofLeBytes_u16Bytes]
  -- each field is what stands after the fields before it
  refine ⟨?_, ?_, ?_, ?_, ?_, ?_, ?_, ?_⟩
  all_goals repeat first
    | exact headerField_at hsplit (by simp [hmagic]) (by simp)
    | rw [← List.append_assoc] at hsplit

theorem checkFrameHeader_frameBytes {maxPayload : UInt32} (hversion : Supported header.version)
    (hlength : payload.length ≤ maxPayload.toNat) :
    checkFrameHeader (frameBytes header payload) maxPayload =
      .ok (header.kind, payload.length) := by
  obtain ⟨hversion', hkind, -, -, -, -, hpayload, -⟩ := headerField_frameBytes header payload
  have hfits : (UInt32.ofNat payload.length).toNat = payload.length :=
    UInt32.toNat_ofNat_of_lt' (Nat.lt_of_le_of_lt hlength maxPayload.toNat_lt)
  have hmagic : (frameBytes header payload).take 4 = frameMagic := by
    rw [frameBytes_eq]
    exact List.take_left' rfl
  have hmin := UInt16.le_iff_toNat_le.mp hversion.1
  have hmax := UInt16.le_iff_toNat_le.mp hversion.2
  rw [checkFrameHeader, hversion', hkind, hpayload, hfits, kindOfCode_kindCode,
    if_neg (not_not.mpr hmagic), if_neg (by omega)]
  dsimp only
  rw [if_neg (by omega)]

theorem readFrame_frameBytes :
    readFrame header.kind (frameBytes header payload) =
      .ok ⟨sentHeader header payload, payload⟩ := by
  obtain ⟨hversion, -, hflags, hsequence, hepoch, hboot, hpayload, htag⟩ :=
    headerField_frameBytes header payload
  have hfields : (frameBytes header payload).take 40 = frameFields header payload := by
    rw [frameBytes, List.append_assoc]
    exact List.take_left' (length_frameFields header payload)
  have hrest : (frameBytes header payload).drop frameHeaderBytes = payload := by
    apply List.drop_left'
    simp [length_frameFields, frameHeaderBytes]
  rw [readFrame, hfields, hrest, hversion, hflags, hsequence, hepoch, hboot, hpayload, htag,
    if_neg (not_not.mpr rfl)]
  simp only [UInt16.ofNat_toNat, UInt32.ofNat_toNat, UInt64.ofNat_toNat, sentHeader]

/-- What was encoded is decoded, with the length and the tag filled in. -/
theorem tryDecodeFrame_frameBytes {maxPayload : UInt32}
    (hversion : Supported header.version) (hlength : payload.length ≤ maxPayload.toNat) :
    tryDecodeFrame maxPayload (frameBytes header payload) =
      .ok (some (⟨sentHeader header payload, payload⟩, (frameBytes header payload).length)) := by
  have htotal := length_frameBytes header payload
  have htake : (frameBytes header payload).take (frameHeaderBytes + payload.length) =
      frameBytes header payload := by
    rw [← htotal]
    exact List.take_length
  rw [tryDecodeFrame_of_header (by omega),
    checkFrameHeader_frameBytes header payload hversion hlength]
  dsimp only
  rw [if_neg (by omega), htake, readFrame_frameBytes, htotal]

end RoundTrip

namespace FrameStream

variable {maxPayload : UInt32}

def nextFor : ℕ → FrameStream maxPayload → List Frame × Except Failure (FrameStream maxPayload)
  | 0, s => ([], .ok s)
  | fuel + 1, s =>
    match s.next with
    | (.error e, _) => ([], .error e)
    | (.ok none, s) => ([], .ok s)
    | (.ok (some frame), s) =>
      let out := nextFor fuel s
      (frame :: out.1, out.2)

def nextAll (s : FrameStream maxPayload) : List Frame × Except Failure (FrameStream maxPayload) :=
  nextFor (s.buffer.length + 1) s

inductive Ending (maxPayload : UInt32) where
  | waiting (stream : FrameStream maxPayload)
  | refused (failure : Failure)
  | failed (failure : Failure)

/-- Chunks appended one after another, with every frame taken off in between. A chunk that
is refused and a frame that fails end the reading. -/
def consume (s : FrameStream maxPayload) : List Bytes → List Frame × Ending maxPayload
  | [] => ([], .waiting s)
  | chunk :: rest =>
    match s.append chunk with
    | .error e => ([], .refused e)
    | .ok s =>
      match s.nextAll with
      | (frames, .error e) => (frames, .failed e)
      | (frames, .ok s) =>
        let out := s.consume rest
        (frames ++ out.1, out.2)

def Ending.left : Ending maxPayload → Option (Except Failure Bytes)
  | .waiting s => some (.ok s.buffer)
  | .refused _ => none
  | .failed e => some (.error e)

theorem Ending.eq_of_left {a b : Ending maxPayload} (ha : a.left ≠ none) (h : a.left = b.left) :
    a = b := by
  cases a with
  | waiting s =>
    cases b with
    | waiting s' =>
      have hbuffer : s.buffer = s'.buffer := by simpa [left] using h
      rw [FrameStream.ext hbuffer]
    | refused e => cases h
    | failed e => simp [left] at h
  | refused e => exact absurd rfl ha
  | failed e =>
    cases b with
    | waiting s' => simp [left] at h
    | refused e' => cases h
    | failed e' =>
      have hfailure : e = e' := by simpa [left] using h
      rw [hfailure]

theorem nextFor_eq (fuel : ℕ) (s : FrameStream maxPayload) :
    (nextFor fuel s).1 = (drainFor (tryDecodeFrame maxPayload) fuel s.buffer).1 ∧
      (nextFor fuel s).2.map buffer = (drainFor (tryDecodeFrame maxPayload) fuel s.buffer).2 := by
  induction fuel generalizing s with
  | zero => exact ⟨rfl, rfl⟩
  | succ fuel ih =>
    rw [nextFor, drainFor, next]
    cases hdec : tryDecodeFrame maxPayload s.buffer with
    | error e => exact ⟨rfl, rfl⟩
    | ok found =>
      cases found with
      | none => exact ⟨rfl, rfl⟩
      | some frame =>
        obtain ⟨hframes, hrest⟩ := ih (s.compact frame.2)
        exact ⟨congrArg (frame.1 :: ·) hframes, hrest⟩

theorem nextAll_eq (s : FrameStream maxPayload) :
    (s.nextAll.1, s.nextAll.2.map buffer) = drain (tryDecodeFrame maxPayload) s.buffer :=
  Prod.ext (nextFor_eq _ s).1 (nextFor_eq _ s).2

/-- A reading without refusals takes the stream apart as the decoder does. -/
theorem consume_eq {s : FrameStream maxPayload} {chunks : List Bytes}
    (h : (s.consume chunks).2.left ≠ none) : ((s.consume chunks).1, (s.consume chunks).2.left) =
      ((feed (tryDecodeFrame maxPayload) s.buffer chunks).1,
        some (feed (tryDecodeFrame maxPayload) s.buffer chunks).2) := by
  induction chunks generalizing s with
  | nil => rfl
  | cons chunk rest ih =>
    rw [consume] at h ⊢
    unfold append at h ⊢
    split_ifs at h ⊢ with hroom
    · dsimp only at h ⊢
      generalize happended : FrameStream.mk (s.buffer ++ chunk) _ = s' at h ⊢
      have hbuffer : s'.buffer = s.buffer ++ chunk := by rw [← happended]
      have hnext := s'.nextAll_eq
      rw [hbuffer] at hnext
      generalize s'.nextAll = out at h hnext ⊢
      rw [feed, ← hnext]
      obtain ⟨frames, e | s''⟩ := out
      · rfl
      · have hrest := ih h
        obtain ⟨hframes, hleft⟩ := Prod.mk.inj hrest
        exact Prod.ext (congrArg (frames ++ ·) hframes) hleft
    · exact absurd rfl h

/-- However the bytes are cut, the frames, the failure and what is left are the same. -/
theorem consume_congr {chunks chunks' : List Bytes} (hflatten : chunks.flatten = chunks'.flatten)
    (h : ((new maxPayload).consume chunks).2.left ≠ none)
    (h' : ((new maxPayload).consume chunks').2.left ≠ none) :
    (new maxPayload).consume chunks = (new maxPayload).consume chunks' := by
  have hstable := stable_tryDecodeFrame maxPayload
  have hsame : feed (tryDecodeFrame maxPayload) [] chunks =
      feed (tryDecodeFrame maxPayload) [] chunks' := by
    rw [feed_eq_drain hstable hstable.empty, feed_eq_drain hstable hstable.empty, hflatten]
  have hpair : (((new maxPayload).consume chunks).1, ((new maxPayload).consume chunks).2.left) =
      (((new maxPayload).consume chunks').1, ((new maxPayload).consume chunks').2.left) := by
    rw [consume_eq h, consume_eq h']
    show ((feed _ [] chunks).1, some (feed _ [] chunks).2) = _
    rw [hsame]
    rfl
  obtain ⟨hframes, hleft⟩ := Prod.mk.inj hpair
  exact Prod.ext hframes (Ending.eq_of_left h hleft)

theorem Ending.left_ne_none {ending : Ending maxPayload} (h : ∀ e, ending ≠ .refused e) :
    ending.left ≠ none := by
  cases ending with
  | waiting s => exact Option.some_ne_none _
  | refused e => exact absurd rfl (h e)
  | failed e => exact Option.some_ne_none _

end FrameStream

/-- Framing does not depend on how the bytes arrive, what the decoder answers stands, and an
encoded frame is decoded to its payload and its header as sent. -/
theorem framing_independent (maxPayload : UInt32) :
    (∀ chunks chunks' : List Bytes, chunks.flatten = chunks'.flatten →
      (∀ e, ((FrameStream.new maxPayload).consume chunks).2 ≠ .refused e) →
      (∀ e, ((FrameStream.new maxPayload).consume chunks').2 ≠ .refused e) →
      (FrameStream.new maxPayload).consume chunks =
        (FrameStream.new maxPayload).consume chunks') ∧
    (∀ data e, tryDecodeFrame maxPayload data = .error e →
      ∀ more, tryDecodeFrame maxPayload (data ++ more) = .error e) ∧
    (∀ data frame consumed, tryDecodeFrame maxPayload data = .ok (some (frame, consumed)) →
      ∀ more, tryDecodeFrame maxPayload (data ++ more) = .ok (some (frame, consumed))) ∧
    ∀ header payload, Supported header.version → payload.length ≤ maxPayload.toNat →
      ∃ bytes, encodeFrame header payload maxPayload = .ok bytes ∧
        tryDecodeFrame maxPayload bytes =
          .ok (some (⟨sentHeader header payload, payload⟩, bytes.length)) := by
  have hstable := stable_tryDecodeFrame maxPayload
  refine ⟨?_, fun _ _ h => hstable.failed h, fun _ _ _ h => hstable.found h, ?_⟩
  · intro chunks chunks' hflatten h h'
    exact FrameStream.consume_congr hflatten (FrameStream.Ending.left_ne_none h)
      (FrameStream.Ending.left_ne_none h')
  · intro header payload hversion hlength
    refine ⟨frameBytes header payload, ?_, ?_⟩
    · rw [encodeFrame, if_neg (by omega)]
    · exact tryDecodeFrame_frameBytes header payload hversion hlength

theorem not_refused_of_left {maxPayload : UInt32} {ending : FrameStream.Ending maxPayload}
    (h : ending.left.isSome = true) (e : Failure) : ending ≠ .refused e := by
  rintro rfl
  cases h

def shortFrame : Bytes := frameBytes { kind := .heartbeat, sequence := 1 } [1, 2]

theorem framing_independent_sample :
    (FrameStream.new 8).consume [shortFrame] =
        (FrameStream.new 8).consume [shortFrame.take 3, shortFrame.drop 3] ∧
      ∃ bytes, encodeFrame { kind := .heartbeat, sequence := 1 } [1, 2] 8 = .ok bytes ∧
        tryDecodeFrame 8 bytes = .ok (some
          (⟨sentHeader { kind := .heartbeat, sequence := 1 } [1, 2], [1, 2]⟩, bytes.length)) := by
  obtain ⟨hcut, -, -, hround⟩ := framing_independent 8
  refine ⟨hcut _ _ (by simp) ?_ ?_, hround _ _ ?_ ?_⟩
  · apply not_refused_of_left
    decide +kernel
  · apply not_refused_of_left
    decide +kernel
  · decide
  · decide

def misdeclared : FrameHeader := { kind := .heartbeat, payloadLength := 7 }

theorem declared_length_replaced :
    ∃ bytes frame consumed, Supported misdeclared.version ∧
      encodeFrame misdeclared [] 8 = .ok bytes ∧
      tryDecodeFrame 8 bytes = .ok (some (frame, consumed)) ∧ frame.header ≠ misdeclared := by
  have hdecoded : tryDecodeFrame 8 (frameBytes misdeclared []) =
      .ok (some (⟨sentHeader misdeclared [], []⟩, (frameBytes misdeclared []).length)) :=
    tryDecodeFrame_frameBytes misdeclared [] (by decide) (by decide)
  refine ⟨_, _, _, by decide, rfl, hdecoded, fun hsame => ?_⟩
  have hlength : (0 : UInt32) = 7 := congrArg FrameHeader.payloadLength hsame
  revert hlength
  decide

end FlowClassifier.Protocol
