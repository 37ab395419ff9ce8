import FlowClassifier.HashCorrect
import FlowClassifier.Protocol.FrameDecoding

/-!
Changes of at most four consecutive bytes of a frame. Outside the magic, the version, the
kind and the length the header is checked as before, so that only the tag can notice: a
change of what the tag covers gives another checksum, and one of the tag itself no longer
matches the checksum.
-/
namespace FlowClassifier.Protocol

open Lib Foundation Buffers Hash Codec

/-- Other bytes in at most four places next to each other, from offset `lo` up to `hi`. -/
def Burst (lo hi : ℕ) (data data' : Bytes) : Prop :=
  ∃ front old new back : Bytes, data = front ++ old ++ back ∧ data' = front ++ new ++ back ∧
    new.length = old.length ∧ old.length ≤ 4 ∧ new ≠ old ∧
    lo ≤ front.length ∧ front.length + old.length ≤ hi

namespace Burst

variable {lo hi : ℕ} {data data' : Bytes}

theorem length_eq (h : Burst lo hi data data') : data'.length = data.length := by
  obtain ⟨front, old, new, back, rfl, rfl, hlen, -⟩ := h
  simp [hlen]

theorem ne (h : Burst lo hi data data') : data' ≠ data := by
  obtain ⟨front, old, new, back, rfl, rfl, -, -, hne, -⟩ := h
  simpa using hne

theorem take_eq {n : ℕ} (h : Burst lo hi data data') (hn : n ≤ lo) :
    data'.take n = data.take n := by
  obtain ⟨front, old, new, back, rfl, rfl, -, -, -, hlo, -⟩ := h
  rw [List.append_assoc, List.append_assoc, List.take_append_of_le_length (by omega),
    List.take_append_of_le_length (by omega)]

theorem drop_eq {n : ℕ} (h : Burst lo hi data data') (hn : hi ≤ n) :
    data'.drop n = data.drop n := by
  obtain ⟨front, old, new, back, rfl, rfl, hlen, -, -, -, hhi⟩ := h
  simp only [List.drop_append, List.length_append, hlen]
  rw [List.drop_eq_nil_of_le (by omega : new.length ≤ _),
    List.drop_eq_nil_of_le (by omega : old.length ≤ _)]

/-- A field before or after the burst. -/
theorem headerField_eq {offset width : ℕ} (h : Burst lo hi data data')
    (hfield : offset + width ≤ lo ∨ hi ≤ offset) :
    headerField data' offset width = headerField data offset width := by
  rw [headerField, headerField]
  rcases hfield with hbefore | hafter
  · rw [List.take_drop, List.take_drop, h.take_eq hbefore]
  · rw [h.drop_eq hafter]

theorem checkFrameHeader_eq {maxPayload : UInt32} (h : Burst lo hi data data') (hlo : 8 ≤ lo)
    (hlength : 40 ≤ lo ∨ hi ≤ 36) :
    checkFrameHeader data' maxPayload = checkFrameHeader data maxPayload := by
  unfold checkFrameHeader
  rw [h.headerField_eq (by omega), h.headerField_eq (by omega), h.headerField_eq (by omega),
    h.take_eq (by omega)]

/-- A burst in what the tag covers, on either side of the tag. -/
theorem frameTag_ne (h : Burst lo hi data data') (hside : hi ≤ 40 ∨ 44 ≤ lo) :
    frameTag (data'.take 40) (data'.drop 44) ≠ frameTag (data.take 40) (data.drop 44) := by
  obtain ⟨front, old, new, back, rfl, rfl, hlen, hfour, hne, hlo, hhi⟩ := h
  intro htag
  refine hne ?_
  rcases hside with hbefore | hafter
  · -- the tag stands in the bytes after the burst
    have hzeroed (l : Bytes) (hl : l.length = old.length) :
        (front ++ l ++ back).take 40 ++ List.replicate 4 0 ++ (front ++ l ++ back).drop 44 =
          front ++ l ++ (back.take (40 - (front ++ old).length) ++ List.replicate 4 0 ++
            back.drop (44 - (front ++ old).length)) := by
      have hfront : (front ++ l).length = (front ++ old).length := by simp [hl]
      have hshort : (front ++ l).length ≤ 40 := by simp [hl]; omega
      rw [List.take_append, List.drop_append, List.take_of_length_le hshort,
        List.drop_eq_nil_of_le (by omega), hfront]
      simp
    unfold frameTag at htag
    rw [hzeroed new hlen, hzeroed old rfl] at htag
    exact crc32_burst hlen hfour htag
  · have hzeroed (l : Bytes) :
        (front ++ l ++ back).take 40 ++ List.replicate 4 0 ++ (front ++ l ++ back).drop 44 =
          front.take 40 ++ List.replicate 4 0 ++ front.drop 44 ++ l ++ back := by
      rw [List.append_assoc front, List.take_append_of_le_length (by omega),
        List.drop_append_of_le_length (by omega)]
      simp
    unfold frameTag at htag
    rw [hzeroed, hzeroed] at htag
    exact crc32_burst hlen hfour htag

/-- A burst in the tag changes its value. -/
theorem headerField_ne (h : Burst 40 44 data data') :
    headerField data' 40 4 ≠ headerField data 40 4 := by
  intro hfield
  refine h.ne ?_
  have htag : (data'.drop 40).take 4 = (data.drop 40).take 4 :=
    ofLeBytes_injective (by simp [h.length_eq]) hfield
  have hrest : (data'.drop 40).drop 4 = (data.drop 40).drop 4 := by
    rw [List.drop_drop, List.drop_drop, h.drop_eq le_rfl]
  rw [← List.take_append_drop 40 data', ← List.take_append_drop 4 (data'.drop 40), htag, hrest,
    h.take_eq le_rfl, List.take_append_drop, List.take_append_drop]

end Burst

/-- A frame is accepted only under the tag of its bytes. -/
theorem readFrame_of_tag_ne {kind : MessageKind} {data : Bytes}
    (h : headerField data 40 4 ≠ (frameTag (data.take 40) (data.drop 44)).toNat) :
    ∃ e, readFrame kind data = .error e ∧ e.code = .integrityFailure :=
  ⟨_, if_pos h, rfl⟩

/-- A burst in the flags, the sequence, the epoch and the boot, in the tag, or in the payload
is caught by the tag, for a version and a bound under which the frame itself is accepted. -/
theorem tryDecodeFrame_burst {header : FrameHeader} {payload bytes bytes' : Bytes}
    {maxPayload limit : UInt32} (hencode : encodeFrame header payload maxPayload = .ok bytes)
    (hversion : Supported header.version) (hlimit : payload.length ≤ limit.toNat)
    (hburst : Burst 8 36 bytes bytes' ∨ Burst 40 44 bytes bytes' ∨
      Burst 44 bytes.length bytes bytes') :
    ∃ e, tryDecodeFrame limit bytes' = .error e ∧ e.code = .integrityFailure := by
  have hbytes : bytes = frameBytes header payload := by
    rw [encodeFrame] at hencode
    split_ifs at hencode
    · cases hencode
    · exact (Except.ok.inj hencode).symm
  subst hbytes
  have htotal := length_frameBytes header payload
  have hown : headerField (frameBytes header payload) 40 4 =
      (frameTag ((frameBytes header payload).take 40)
        ((frameBytes header payload).drop 44)).toNat := by
    by_contra hne
    obtain ⟨e, herror, -⟩ := @readFrame_of_tag_ne header.kind _ hne
    rw [readFrame_frameBytes] at herror
    cases herror
  have hheader := checkFrameHeader_frameBytes header payload hversion hlimit
  obtain ⟨hlength, hsame, htag⟩ : bytes'.length = (frameBytes header payload).length ∧
      checkFrameHeader bytes' limit = checkFrameHeader (frameBytes header payload) limit ∧
      headerField bytes' 40 4 ≠ (frameTag (bytes'.take 40) (bytes'.drop 44)).toNat := by
    rcases hburst with h | h | h
    · refine ⟨h.length_eq, h.checkFrameHeader_eq le_rfl (Or.inr le_rfl), ?_⟩
      rw [h.headerField_eq (Or.inr (by omega)), hown, Ne, UInt32.toNat_inj]
      exact (h.frameTag_ne (Or.inl (by omega))).symm
    · refine ⟨h.length_eq, h.checkFrameHeader_eq (by omega) (Or.inl le_rfl), ?_⟩
      rw [h.take_eq le_rfl, h.drop_eq le_rfl, ← hown]
      exact h.headerField_ne
    · refine ⟨h.length_eq, h.checkFrameHeader_eq (by omega) (Or.inl (by omega)), ?_⟩
      rw [h.headerField_eq (Or.inl (by omega)), hown, Ne, UInt32.toNat_inj]
      exact (h.frameTag_ne (Or.inr le_rfl)).symm
  obtain ⟨e, herror, hcode⟩ := @readFrame_of_tag_ne header.kind _ htag
  refine ⟨e, ?_, hcode⟩
  rw [tryDecodeFrame_of_header (by omega), hsame, hheader]
  dsimp only
  rw [if_neg (by omega), ← htotal, ← hlength, List.take_length, herror]

/-- The second byte of the payload of a heartbeat is another one. -/
theorem tryDecodeFrame_burst_payload :
    ∃ e, tryDecodeFrame 8 (shortFrame.take 45 ++ [3]) = .error e ∧ e.code = .integrityFailure :=
  @tryDecodeFrame_burst { kind := .heartbeat, sequence := 1 } [1, 2] shortFrame _ 8 8 rfl
    (by decide) (by decide)
    (Or.inr (Or.inr ⟨shortFrame.take 45, [2], [3], [], by decide +kernel, by simp, rfl, by decide,
      by decide, by decide +kernel, by decide +kernel⟩))

/-- A version that the encoder writes and the decoder refuses before it looks at the tag, and
a bound of the decoder below that of the encoder. -/
theorem burst_refused_before_tag :
    (∃ bytes bytes', encodeFrame { version := 0 } [1] 8 = .ok bytes ∧
      Burst 44 bytes.length bytes bytes' ∧
      ∃ e, tryDecodeFrame 8 bytes' = .error e ∧ e.code = .unsupportedVersion) ∧
    ∃ bytes bytes', encodeFrame {} [1] 8 = .ok bytes ∧ Burst 44 bytes.length bytes bytes' ∧
      ∃ e, tryDecodeFrame 0 bytes' = .error e ∧ e.code = .capacityExceeded := by
  have hburst (header : FrameHeader) :
      Burst 44 (frameBytes header [1]).length (frameBytes header [1])
        ((frameBytes header [1]).take 44 ++ [2]) := by
    have hlength := length_frameBytes header [1]
    refine ⟨(frameBytes header [1]).take 44, [1], [2], [], ?_, by simp, rfl, by decide, by decide,
      ?_, ?_⟩
    · rw [List.append_nil, frameBytes, List.take_left']
      simp [length_frameFields]
    · rw [List.length_take, hlength]
      decide
    · rw [List.length_take, hlength]
      decide
  exact ⟨⟨_, _, rfl, hburst _, _, rfl, rfl⟩, _, _, rfl, hburst _, _, rfl, rfl⟩

end FlowClassifier.Protocol
