import FlowClassifier.Codec.SnapshotRoundTrip
import FlowClassifier.PolicyUpdates
import FlowClassifier.Runtime.Connections

/-!
What a call of the coordinator does to the state file. Either the file stays, or it becomes
an image of the state the call leaves behind. Whatever else such an image can be decoded to,
its policy is the one that was in force when it was written.
-/
namespace FlowClassifier

open Lib Foundation Buffers Policies Codec

variable {snapshot : StateSnapshot}

namespace Codec

variable {limits : SnapshotLimits}

/-- A policy that the decoder returns is canonical. -/
theorem yields_decodePolicy (limits : CodecLimits) :
    Yields (decodePolicy limits) fun p => ClassifierPolicy.canonicalize p = .ok p := by
  have hlast : ∀ p : ClassifierPolicy,
      Yields (decodedPolicy p) fun p => ClassifierPolicy.canonicalize p = .ok p := by
    intro p
    unfold decodedPolicy
    split
    next canonical h => exact Yields.pure (ClassifierPolicy.canonicalize_canonical h)
    next e h =>
      intro input x rest hx
      cases hx
  unfold decodePolicy
  repeat refine Yields.bind _ fun _ => ?_
  exact hlast _

theorem relabel_eq_ok {α : Type} {r : Reader α} {label : Bytes → Bytes} {input : Bytes}
    {out : α × Bytes} (h : (relabel r label).run input = .ok out) : r.run input = .ok out := by
  change relabel r label input = _ at h
  unfold relabel at h
  split at h
  · cases h
  · next hr => rw [hr, h]

theorem failIf_eq_ok {bad : Prop} [Decidable bad] {code : ErrorCode} {message input : Bytes}
    {out : Unit × Bytes} (h : (failIf bad code message).run input = .ok out) :
    out = ((), input) := by
  unfold failIf at h
  by_cases hbad : bad
  · rw [if_pos hbad] at h
    cases h
  · rw [if_neg hbad] at h
    cases h
    rfl

/-- The policy of a decoded body is the one that is read after the schema. -/
theorem decodeBody_policy {header state : DurableState}
    {body left : Bytes} (h : (decodeBody limits header).run body = .ok (state, left)) :
    ∃ schema rest after, getU8.run body = .ok (schema, rest) ∧
      (decodePolicy limits.codec).run rest = .ok (state.policy, after) := by
  unfold decodeBody at h
  obtain ⟨schema, rest, hschema, h⟩ := run_bind_eq_ok h
  obtain ⟨_, rest', hchecked, h⟩ := run_bind_eq_ok h
  obtain ⟨policy, after, hpolicy, h⟩ := run_bind_eq_ok h
  have hrest : rest' = rest := congrArg Prod.snd (failIf_eq_ok hchecked)
  -- none of the later steps touches the policy
  have hkept : state.policy = policy := by
    refine (?_ : Yields _ fun s : DurableState => s.policy = policy) _ _ _ h
    repeat refine Yields.bind _ fun _ => ?_
    exact Yields.pure rfl
  exact ⟨schema, rest, after, hschema, by rw [← hrest, hkept]; exact relabel_eq_ok hpolicy⟩

/-- What an image decodes to, seen from its header and its body. -/
theorem decodeSnapshot_eq_ok {data : Bytes} (h : decodeSnapshot limits data = .ok snapshot) :
    ∃ body header left, checkHeader limits data = .ok body ∧
      header.epoch = UInt64.ofNat (headerField data 16 8) ∧
      (decodeBody limits header).run body = .ok (snapshot.state, left) := by
  unfold decodeSnapshot at h
  cases hbody : checkHeader limits data with
  | error e =>
    rw [hbody] at h
    cases h
  | ok body =>
    rw [hbody] at h
    simp only [bind, Except.bind, decodeAll] at h
    split at h
    · cases h
    next state hstate =>
      split at hstate
      · cases hstate
      next out hout =>
        split at hstate
        · cases hstate
        · cases hstate
          cases h
          exact ⟨body, _, _, rfl, rfl, hout⟩

theorem canonical_of_decodeSnapshot {data : Bytes} (h : decodeSnapshot limits data = .ok snapshot) :
    ClassifierPolicy.canonicalize snapshot.state.policy = .ok snapshot.state.policy := by
  obtain ⟨body, header, left, -, -, hbody⟩ := decodeSnapshot_eq_ok h
  obtain ⟨_, rest, after, -, hpolicy⟩ := decodeBody_policy hbody
  exact yields_decodePolicy limits.codec rest _ after hpolicy

/-- An image that was written can only be read back with the policy it was written with. -/
theorem policy_of_decodeSnapshot {written read : StateSnapshot}
    {data : Bytes} (hformat : written.formatVersion = snapshotFormatVersion)
    (hgeneration : written.persistenceGeneration = persistenceGeneration)
    (hcanonical : ClassifierPolicy.canonicalize written.state.policy = .ok written.state.policy)
    (hwritten : encodeSnapshot limits written = .ok data)
    (hread : decodeSnapshot limits data = .ok read) : read.state.policy = written.state.policy := by
  obtain ⟨rfl, hfile, hbody⟩ := encodeSnapshot_eq_ok hwritten
  obtain ⟨body, header, left, hchecked, -, hdecoded⟩ := decodeSnapshot_eq_ok hread
  rw [checkHeader_snapshotBytes written _ hformat hgeneration hfile
    (lt_trans hbody (by unfold wireBound; omega))] at hchecked
  cases hchecked
  obtain ⟨schema, rest, after, hschema, hpolicy⟩ := decodeBody_policy hdecoded
  simp only [snapshotBody, List.flatten_append, List.append_assoc] at hschema hbody
  rw [List.flatten_singleton, reads_getU8] at hschema
  cases hschema
  rw [List.length_append] at hbody
  have hlen := lt_of_le_of_lt (Nat.le_add_left _ _) hbody
  obtain ⟨hok, hbad⟩ := decodes_policy hcanonical _ hlen
  by_cases hreadable : policyReadable limits.codec written.state.policy
  · rw [hok hreadable, Except.ok.injEq, Prod.mk.injEq] at hpolicy
    exact hpolicy.1.symm
  · obtain ⟨e, he⟩ := hbad hreadable
    rw [he] at hpolicy
    cases hpolicy

end Codec

namespace Coordinator

/-- The call leaves the file, or replaces it by an image of the state it leaves behind. -/
structure Saves (co co' : Coordinator) : Prop where
  options : co'.options = co.options
  running : co'.running = true → co.running = true
  file : co'.file = co.file ∨
    co.options.statePath.isEmpty = false ∧ ∃ writtenAt data,
      encodeSnapshot co.options.snapshotLimits
        { writtenAtWallMillis := writtenAt, state := co'.classifier.durableState } = .ok data ∧
      co'.file = some data

section Saves

variable {co co' : Coordinator} {session : CoordinatorSession} {frame : Frame} {env : Readings}

theorem Saves.kept (options : co'.options = co.options) (running : co'.running = co.running)
    (file : co'.file = co.file) : Saves co co' :=
  ⟨options, fun hrunning => running ▸ hrunning, Or.inl file⟩

/-- The classifier before the call does not matter. -/
theorem Saves.of_operation {classifier : Classifier}
    (h : Saves { co with classifier := classifier } co') : Saves co co' :=
  ⟨h.options, h.running, h.file⟩

theorem saves_refuse (co : Coordinator) (e : Failure) : Saves co (co.refuse e).2 :=
  .kept rfl rfl rfl

theorem saves_reject (co : Coordinator) (e : Failure) : Saves co (co.reject e).2 :=
  .kept rfl rfl rfl

theorem saves_reply (co : Coordinator) (r : Reply) : Saves co (co.reply r).2 := by
  unfold reply
  split <;> exact .kept rfl rfl rfl

/-- A file that was written holds the image; a failure may come after the replacement. -/
theorem writeSnapshotFile_file (limits : SnapshotLimits) (file : Option Bytes)
    (state : DurableState) (env : Readings) : (writeSnapshotFile limits file state env).2 = file ∨
      ∃ data, encodeSnapshot limits { writtenAtWallMillis := env.writtenAt, state } = .ok data ∧
        (writeSnapshotFile limits file state env).2 = some data := by
  unfold writeSnapshotFile
  split
  next => exact Or.inl rfl
  next data hdata =>
    split
    next => exact Or.inr ⟨data, hdata, rfl⟩
    next e renamed _ =>
      cases renamed with
      | false => exact Or.inl rfl
      | true => exact Or.inr ⟨data, hdata, rfl⟩

/-- A failed write leaves the file, or has replaced it by this image already. -/
theorem saves_persist (co : Coordinator) (env : Readings) : Saves co (co.persist env).2 := by
  unfold persist
  by_cases hpath : co.options.statePath.isEmpty
  · rw [if_pos hpath]
    exact .kept rfl rfl rfl
  · rw [if_neg hpath]
    rw [Bool.not_eq_true] at hpath
    have hfile := writeSnapshotFile_file co.options.snapshotLimits co.file
      co.classifier.durableState env
    have hwritten : ∀ stats file,
        (writeSnapshotFile co.options.snapshotLimits co.file co.classifier.durableState env).2 =
          file →
        Saves co { co with file := file, stats := stats } := by
      rintro stats _ rfl
      refine ⟨rfl, id, hfile.imp id ?_⟩
      rintro ⟨data, hdata, hsome⟩
      exact ⟨hpath, env.writtenAt, data, hdata, hsome⟩
    split
    next e file heq => exact hwritten _ _ (by rw [heq])
    next file heq => exact hwritten _ _ (by rw [heq])

theorem saves_commit (co : Coordinator) (r : Reply) (env : Readings) :
    Saves co (co.commit r env).2 := by
  unfold commit
  split
  · exact .kept rfl rfl rfl
  · have hpersist := saves_persist co env
    split_ifs
    · split
      next e co' heq =>
        rw [heq] at hpersist
        exact ⟨hpersist.options, hpersist.running, hpersist.file⟩
      next co' heq =>
        rw [heq] at hpersist
        exact hpersist
    · exact .kept rfl rfl rfl

theorem saves_publisherScoped {ρ : Type} {decode : CodecLimits → Bytes → Result ρ}
    {operation : SessionEnvelope → ρ → Result Reply × Classifier} {durable : Bool} :
    Saves co (co.publisherScoped session frame env decode operation durable).2 := by
  unfold publisherScoped
  split
  · exact saves_refuse co _
  · split
    · exact saves_reject co _
    · split
      · exact (saves_refuse _ _).of_operation
      · split_ifs
        · exact (saves_commit _ _ _).of_operation
        · exact (saves_reply _ _).of_operation

theorem saves_handleHello (key : Bytes) : Saves co (co.handleHello key session frame).1.2 := by
  unfold handleHello
  split
  · exact saves_reject co _
  · dsimp only
    split
    · exact saves_reject co _
    · exact saves_reply co _

theorem saves_handleRegisterPublisher (key : Bytes) :
    Saves co (co.handleRegisterPublisher key session frame env).1.2 := by
  unfold handleRegisterPublisher
  split
  · exact saves_reject co _
  · split_ifs
    · exact .kept rfl rfl rfl
    · dsimp only
      split
      · exact (saves_refuse _ _).of_operation
      · exact (saves_commit _ _ _).of_operation

theorem saves_handleClassify : Saves co (co.handleClassify session frame env).2 := by
  unfold handleClassify
  split
  · exact saves_refuse co _
  · split
    · exact saves_reject co _
    · split
      · exact (saves_refuse _ _).of_operation
      · exact (saves_reply _ _).of_operation

theorem saves_handleStats : Saves co (co.handleStats session frame).2 := by
  unfold handleStats
  split
  · exact saves_refuse co _
  · exact saves_reply co _

theorem saves_handleHeartbeat : Saves co (co.handleHeartbeat session env).2 := by
  unfold handleHeartbeat
  dsimp only
  split_ifs
  · exact (saves_reply _ _).of_operation
  · exact saves_reply co _

theorem saves_dispatch (co : Coordinator) (key : Bytes) (session : CoordinatorSession)
    (frame : Frame) (env : Readings) : Saves co (co.dispatch key session frame env).1.2 := by
  unfold dispatch
  cases frame.kind with
  | hello => exact saves_handleHello key
  | registerPublisher => exact saves_handleRegisterPublisher key
  | classify => exact saves_handleClassify
  | statsRequest => exact saves_handleStats
  | heartbeat => exact saves_handleHeartbeat
  | declareWorkload | proposeContract | activateContract | retireContract | registerFlow
  | publishEvidence | withdrawEvidence | revokeGeneration => exact saves_publisherScoped
  | helloAck | classifyResult | statsResponse | errorResponse | declareWorkloadResult
  | contractResult | registerFlowResult | publishEvidenceResult | withdrawResult =>
    exact saves_reject co _

theorem saves_handle (co : Coordinator) (key : Bytes) (session : CoordinatorSession)
    (frame : Frame) (env : Readings) : Saves co (co.handle key session frame env).1.2 := by
  unfold handle
  split_ifs
  · exact .kept rfl rfl rfl
  · have hdispatch := saves_dispatch co.countMessage key session frame env
    exact ⟨hdispatch.options, hdispatch.running, hdispatch.file⟩

theorem saves_closeSession (co : Coordinator) (session : CoordinatorSession) (env : Readings) :
    Saves co (co.closeSession session env) := by
  unfold closeSession
  split_ifs
  · exact .kept rfl rfl rfl
  · exact (saves_persist _ _).of_operation
  · exact .kept rfl rfl rfl

/-- Every call but a start. -/
theorem saves_call (co : Coordinator) {asked : Call} (h : ∀ boot env, asked ≠ .start boot env) :
    Saves co (co.call asked) := by
  cases asked with
  | start boot env => exact absurd rfl (h boot env)
  | stop => exact ⟨rfl, nofun, Or.inl rfl⟩
  | operate op => exact .kept rfl rfl rfl
  | handle key session frame env => exact saves_handle co key session frame env
  | closeSession session env => exact saves_closeSession co session env
  | persist env => exact saves_persist co env

/-- A call leaves the options alone, and the file too or makes it an image of the state. -/
theorem call_saves (co : Coordinator) (asked : Call) : (co.call asked).options = co.options ∧
      ((co.call asked).file = co.file ∨
        ∃ writtenAt data, encodeSnapshot co.options.snapshotLimits
          { writtenAtWallMillis := writtenAt
            state := (co.call asked).classifier.durableState } = .ok data ∧
          (co.call asked).file = some data) := by
  by_cases hstart : ∀ boot env, asked ≠ .start boot env
  · have hsaves := saves_call co hstart
    exact ⟨hsaves.options, hsaves.file.imp_right fun hwritten => hwritten.2⟩
  · push Not at hstart
    obtain ⟨boot, env, rfl⟩ := hstart
    obtain ⟨hfile, hoptions⟩ := start_file co boot env
    exact ⟨hoptions, Or.inl hfile⟩

end Saves

/-- What was read is the image in the file. -/
theorem readSnapshotFile_eq_ok {co : Coordinator} {env : Readings}
    (h : co.readSnapshotFile env = .ok snapshot) : ∃ data, co.file = some data ∧
      decodeSnapshot co.options.snapshotLimits data = .ok snapshot := by
  unfold readSnapshotFile at h
  split at h
  · cases h
  · cases h
  next data _ hfile =>
    dsimp only at h
    split_ifs at h
    · cases h
    · exact ⟨data, hfile, h⟩

/-- The calls of the classifier a start leads to: the stored policy, the stored image and the
next epoch. -/
theorem mem_startOperations {co : Coordinator} {boot : CoordinatorBootId} {env : Readings}
    {op : Operation} (h : op ∈ co.startOperations boot env) :
    (∃ policy, op = .setPolicy policy) ∨ (∃ data snapshot, co.file = some data ∧
        decodeSnapshot co.options.snapshotLimits data = .ok snapshot ∧
        op = .restore snapshot.state boot env.tick) ∨ op = .advanceEpoch boot := by
  unfold startOperations at h
  by_cases hidle : co.running = true ∨ boot = 0
  · rw [if_pos hidle] at h
    cases h
  rw [if_neg hidle] at h
  rcases List.mem_append.mp h with hrecover | hadvance
  · unfold recoverOperations at hrecover
    split_ifs at hrecover
    · cases hrecover
    · split at hrecover
      next _ hread =>
        rcases List.mem_append.mp hrecover with hpolicy | hrestore
        · split_ifs at hpolicy
          · exact Or.inl ⟨_, List.mem_singleton.mp hpolicy⟩
          · cases hpolicy
        · obtain ⟨data, hfile, hdecoded⟩ := readSnapshotFile_eq_ok hread
          exact Or.inr (Or.inl ⟨data, _, hfile, hdecoded, List.mem_singleton.mp hrestore⟩)
      next => cases hrecover
  · split_ifs at hadvance
    · exact Or.inr (Or.inr (List.mem_singleton.mp hadvance))
    · cases hadvance

end Coordinator

end FlowClassifier
