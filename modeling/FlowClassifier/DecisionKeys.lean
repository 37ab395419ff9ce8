import FlowClassifier.EngineCorrect
import FlowClassifier.Classifier

/-!
What the key of a memo entry determines. A decision reads the records and contracts as
sets, and the flow, the authority and the policy through a few fields. The text of a key
determines its parts, and the encoding under the digest determines the fields and, for
each record and contract, its own digest and state.
-/
namespace FlowClassifier.DecisionKeys

open Lib Foundation Buffers Evidence Workloads Engine DecisionSpec EngineCorrect Store

/-- What a decision reads besides the records and the contracts. -/
structure SameCircumstances (i j : DecisionInput) : Prop where
  id : i.flow.id = j.flow.id
  generation : i.flow.generation = j.flow.generation
  key : i.flow.key = j.flow.key
  authority : i.authority = j.authority
  policy : i.policy = j.policy
  revoked : i.generationRevoked = j.generationRevoked

section Congruence

variable {i j : DecisionInput} (h : SameCircumstances i j)

include h

theorem evaluated_congr (r : EvidenceRecord) : evaluated i r = evaluated j r := by
  have hcurrent : withCurrentness i r = withCurrentness j r := by
    simp only [withCurrentness, currentness, h.authority, h.policy]
  have hmatch : recordMatchesFlow r i.flow = recordMatchesFlow r j.flow := by
    simp only [recordMatchesFlow, h.id, h.generation]
  unfold evaluated evaluate freshCandidate
  rw [hmatch, hcurrent, h.generation]

theorem derived_congr (k : WorkloadContract) : derived i k = derived j k := by
  have hid : contractEvidenceId k i.flow = contractEvidenceId k j.flow := by
    simp only [contractEvidenceId, contractEvidenceChunks, h.id, h.generation]
  have hwindow : freshnessWindow i = freshnessWindow j := by
    simp only [freshnessWindow, h.policy]
  simp only [derived, deriveContractEvidence, hid, hwindow, h.id, h.generation, h.authority]

/-- After the sort the engine reads the input through a few fields only. -/
theorem decide_congr (hsorted : sortedCandidates i = sortedCandidates j) :
    Engine.decide i = Engine.decide j := by
  have hindex : winnerIndex i = winnerIndex j := by
    simp only [winnerIndex, h.revoked, hsorted]
  have hwinner : winner i = winner j := by
    simp only [winner, hindex, hsorted]
  have hcitations : citations i = citations j := by
    simp only [citations, hindex, hwinner, hsorted]
  have hcorroboration : corroboration i = corroboration j := by
    simp only [corroboration, hindex, hwinner, hsorted]
  have hcontradictions : ∀ w, contradictions i w = contradictions j w := by
    intro w
    simp only [contradictions, hsorted]
  have hheader : decisionHeader i = decisionHeader j := by
    simp only [decisionHeader, h.id, h.generation, h.policy, h.authority]
  have hverdict : verdict i = verdict j := by
    simp only [verdict, hwinner, winnerVerdict, openVerdict, hcitations, hcorroboration,
      hcontradictions, hheader, hsorted, h.policy, h.revoked]
  simp only [Engine.decide, hverdict, h.policy]

end Congruence

/-- The order in which records and contracts are given does not matter. -/
theorem decide_eq_of_perm {i j : DecisionInput} (hi : WellFormed i) (hj : WellFormed j)
    (h : SameCircumstances i j) (hevidence : i.evidence.Perm j.evidence)
    (hcontracts : i.activeContracts.Perm j.activeContracts)
    (happlies : ∀ k ∈ i.activeContracts, Applies i k ↔ Applies j k) :
    Engine.decide i = Engine.decide j := by
  have hderived : derived i = derived j := funext (derived_congr h)
  have hevaluated : evaluated i = evaluated j := funext (evaluated_congr h)
  have hfilter : i.activeContracts.filter (Applies i ·) =
      i.activeContracts.filter (Applies j ·) := by
    apply List.filter_congr
    intro k hk
    exact decide_eq_decide.mpr (happlies k hk)
  have hids : ∀ r : EvidenceRecord, r.id ∉ i.evidence.map EvidenceRecord.id ↔
      r.id ∉ j.evidence.map EvidenceRecord.id := fun r =>
    not_congr (hevidence.map _).mem_iff
  have hpool : (candidateRecords i).Perm (candidateRecords j) := by
    unfold candidateRecords
    refine hevidence.append ?_
    rw [hfilter, hderived]
    simp only [hids]
    exact ((hcontracts.filter _).map _).filter _
  apply decide_congr h
  -- both are the sorted evaluations of the same candidate records
  simp only [sortedCandidates, assemble_eq hi, assemble_eq hj, List.map_map]
  have hmapped : ((candidateRecords i).map (evaluated i)).Perm
      ((candidateRecords j).map (evaluated j)) := by
    rw [hevaluated]
    exact hpool.map _
  refine insertionSort_eq_of_perm _ candidateKey candidateBefore_false_iff hmapped ?_
  intro a ha b hb hab
  obtain ⟨r, hr, rfl⟩ := List.mem_map.mp ha
  obtain ⟨s, hs, rfl⟩ := List.mem_map.mp hb
  have hrank : rankKey (evaluated i r).record = rankKey (evaluated i s).record :=
    congrArg (fun k : Bool ×ₗ Rank => (ofLex k).2) hab
  rw [rankKey_evaluated, rankKey_evaluated] at hrank
  rw [eq_of_id_eq hi hr hs (rankKey_eq_iff_id hrank)]

theorem delimited_hexWord : Delimited hexWord := by
  refine Delimited.of_length (n := 16) (fun v => by simp [hexWord]) ?_
  intro a b h
  have hbytes : leBytes 8 a.toNat = leBytes 8 b.toNat :=
    List.reverse_injective (hexText_injective h)
  exact UInt64.toNat_inj.mp (leBytes_injective a.toNat_lt b.toNat_lt hbytes)

theorem digest_ext {d e : Digest256} (h : d.bytes.toList = e.bytes.toList) : d = e := by
  cases d
  cases e
  exact congrArg Digest256.mk (List.Vector.eq _ _ h)

theorem delimited_hexDigest : Delimited fun d : Digest256 => hexText d.bytes.toList :=
  Delimited.of_length (n := 64) (fun d => by simp) fun _ _ h => digest_ext (hexText_injective h)

theorem decisionKeyText_injective {k l : DecisionKey}
    (h : decisionKeyText k = decisionKeyText l) : k = l := by
  simp only [decisionKeyText, List.append_assoc] at h
  obtain ⟨hhi, h⟩ := delimited_hexWord h
  obtain ⟨hlo, h⟩ := delimited_hexWord h
  obtain ⟨hgeneration, h⟩ := delimited_hexWord (List.append_cancel_left h)
  obtain ⟨hdigest, h⟩ := delimited_hexDigest (List.append_cancel_left h)
  have hpolicy := delimited_hexWord.injective (List.append_cancel_left h)
  obtain ⟨⟨_, _⟩, _, _, _⟩ := k
  obtain ⟨⟨_, _⟩, _, _, _⟩ := l
  simp_all

def recordCode (r : EvidenceRecord) : Digest256 × EvidenceState × Tick :=
  (r.contentDigest, r.state, r.freshUntil)

def recordCodeBytes (x : Digest256 × EvidenceState × Tick) : Bytes :=
  blobBytes x.1.bytes.toList ++ (u8Bytes x.2.1.code ++ u64Bytes x.2.2)

def contractCode (k : WorkloadContract) : Digest256 × ContractState := (k.definitionDigest, k.state)

def contractCodeBytes (x : Digest256 × ContractState) : Bytes :=
  blobBytes x.1.bytes.toList ++ u8Bytes x.2.code

theorem delimited_digestBlob : Delimited fun d : Digest256 => blobBytes d.bytes.toList := by
  intro d e r s h
  have hd : d.bytes.toList.length = 32 := List.Vector.toList_length _
  have he : e.bytes.toList.length = 32 := List.Vector.toList_length _
  obtain ⟨hbytes, hrest⟩ := blobBytes_cancel (by omega) (by omega) h
  exact ⟨digest_ext hbytes, hrest⟩

theorem delimited_recordCodeBytes : Delimited recordCodeBytes := by
  rintro ⟨d, state, fresh⟩ ⟨d', state', fresh'⟩ r s h
  simp only [recordCodeBytes, List.append_assoc] at h
  obtain ⟨hdigest, h⟩ := delimited_digestBlob h
  obtain ⟨hstate, h⟩ := delimited_u8Bytes h
  obtain ⟨hfresh, h⟩ := delimited_u64Bytes h
  rw [hdigest, EvidenceState.code_injective hstate, hfresh]
  exact ⟨rfl, h⟩

theorem delimited_contractCodeBytes : Delimited contractCodeBytes := by
  rintro ⟨d, state⟩ ⟨d', state'⟩ r s h
  simp only [contractCodeBytes, List.append_assoc] at h
  obtain ⟨hdigest, h⟩ := delimited_digestBlob h
  obtain ⟨hstate, h⟩ := delimited_u8Bytes h
  rw [hdigest, ContractState.code_injective hstate]
  exact ⟨rfl, h⟩

def sortedRecords (input : DecisionInput) : List EvidenceRecord :=
  input.evidence.insertionSort fun a b => a.id ≤ b.id

def sortedContracts (input : DecisionInput) : List WorkloadContract :=
  input.activeContracts.insertionSort fun a b => a.id ≤ b.id

theorem flatten_evidenceSetDigestChunks (input : DecisionInput) :
    (evidenceSetDigestChunks input).flatten =
      u8Bytes 1 ++ (u64Bytes input.flow.id.hi ++ (u64Bytes input.flow.id.lo ++
      (u64Bytes input.flow.generation ++ (u64Bytes input.policy.generation ++
      (u64Bytes input.authority.authoritySequence ++ (u64Bytes input.authority.epoch ++
      (u64Bytes input.authority.coordinatorBoot ++ (u64Bytes input.authority.tick ++
      (countBytes (sortedRecords input).length ++
      (((sortedRecords input).map recordCode).flatMap recordCodeBytes ++
      (countBytes (sortedContracts input).length ++
      (((sortedContracts input).map contractCode).flatMap contractCodeBytes ++
      boolBytes input.generationRevoked)))))))))))) := by
  have hrecords : ∀ rs : List EvidenceRecord, (rs.flatMap fun r =>
      [blobBytes r.contentDigest.bytes.toList, u8Bytes r.state.code,
        u64Bytes r.freshUntil]).flatten = (rs.map recordCode).flatMap recordCodeBytes := by
    intro rs
    induction rs with
    | nil => rfl
    | cons r rest ih => simp [recordCode, recordCodeBytes, ih]
  have hcontracts : ∀ ks : List WorkloadContract, (ks.flatMap fun k =>
      [blobBytes k.definitionDigest.bytes.toList, u8Bytes k.state.code]).flatten =
        (ks.map contractCode).flatMap contractCodeBytes := by
    intro ks
    induction ks with
    | nil => rfl
    | cons k rest ih => simp [contractCode, contractCodeBytes, ih]
  simp only [evidenceSetDigestChunks, List.flatten_append, List.flatten_cons, List.flatten_nil,
    hrecords, hcontracts, List.append_assoc, List.append_nil, Sorter.sort_insertion,
    sortedRecords, sortedContracts]

theorem length_evidenceSetDigestChunks (input : DecisionInput) :
    (evidenceSetDigestChunks input).flatten.length =
      74 + 45 * input.evidence.length + 37 * input.activeContracts.length := by
  have hdigest : ∀ d : Digest256, d.bytes.toList.length = 32 := fun d =>
    List.Vector.toList_length _
  have hrecord : ∀ x, (recordCodeBytes x).length = 45 := by
    intro x
    simp [recordCodeBytes, hdigest]
  have hcontract : ∀ x, (contractCodeBytes x).length = 37 := by
    intro x
    simp [contractCodeBytes, hdigest]
  simp only [flatten_evidenceSetDigestChunks, List.length_append,
    length_flatMap_of_length hrecord, length_flatMap_of_length hcontract, length_u8Bytes,
    length_u64Bytes, length_countBytes, length_boolBytes, List.length_map, sortedRecords,
    sortedContracts, List.length_insertionSort]
  omega

structure SameEncoding (i j : DecisionInput) : Prop where
  id : i.flow.id = j.flow.id
  generation : i.flow.generation = j.flow.generation
  authoritySequence : i.authority.authoritySequence = j.authority.authoritySequence
  epoch : i.authority.epoch = j.authority.epoch
  coordinatorBoot : i.authority.coordinatorBoot = j.authority.coordinatorBoot
  tick : i.authority.tick = j.authority.tick
  records : (sortedRecords i).map recordCode = (sortedRecords j).map recordCode
  contracts : (sortedContracts i).map contractCode = (sortedContracts j).map contractCode
  revoked : i.generationRevoked = j.generationRevoked

/-- Two encodings within the bound are cut at the same places. -/
theorem sameEncoding_of_flatten {i j : DecisionInput}
    (hi : (evidenceSetDigestChunks i).flatten.length ≤ maxBlobBytes)
    (hj : (evidenceSetDigestChunks j).flatten.length ≤ maxBlobBytes)
    (h : (evidenceSetDigestChunks i).flatten = (evidenceSetDigestChunks j).flatten) :
    SameEncoding i j := by
  rw [length_evidenceSetDigestChunks, maxBlobBytes] at hi hj
  have hrecords : ∀ input : DecisionInput,
      (sortedRecords input).length = input.evidence.length := fun _ =>
    List.length_insertionSort _ _
  have hcontracts : ∀ input : DecisionInput,
      (sortedContracts input).length = input.activeContracts.length := fun _ =>
    List.length_insertionSort _ _
  rw [flatten_evidenceSetDigestChunks, flatten_evidenceSetDigestChunks] at h
  obtain ⟨-, h⟩ := delimited_u8Bytes h
  obtain ⟨hhi, h⟩ := delimited_u64Bytes h
  obtain ⟨hlo, h⟩ := delimited_u64Bytes h
  obtain ⟨hgeneration, h⟩ := delimited_u64Bytes h
  obtain ⟨-, h⟩ := delimited_u64Bytes h
  obtain ⟨hsequence, h⟩ := delimited_u64Bytes h
  obtain ⟨hepoch, h⟩ := delimited_u64Bytes h
  obtain ⟨hboot, h⟩ := delimited_u64Bytes h
  obtain ⟨htick, h⟩ := delimited_u64Bytes h
  obtain ⟨hcount, h⟩ := countBytes_cancel (by rw [hrecords]; omega) (by rw [hrecords]; omega) h
  obtain ⟨hcodes, h⟩ := delimited_recordCodeBytes.flatMap (by simpa using hcount) h
  obtain ⟨hcount', h⟩ := countBytes_cancel (by rw [hcontracts]; omega)
    (by rw [hcontracts]; omega) h
  obtain ⟨hcodes', h⟩ := delimited_contractCodeBytes.flatMap (by simpa using hcount') h
  have hid : i.flow.id = j.flow.id := by
    cases hflow : i.flow.id
    cases hflow' : j.flow.id
    rw [hflow, hflow'] at hhi hlo
    dsimp only at hhi hlo
    rw [hhi, hlo]
  exact ⟨hid, hgeneration, hsequence, hepoch, hboot, htick, hcodes, hcodes',
    delimited_boolBytes.injective h⟩

end FlowClassifier.DecisionKeys
