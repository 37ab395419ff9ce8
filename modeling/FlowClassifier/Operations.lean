import FlowClassifier.Classifier

/-!
The classifier as a state machine. An operation is a call of a public member function
with its arguments and with the readings of the clocks during the call; a run is a list
of operations from a newly built classifier.
-/
namespace FlowClassifier

open Foundation Evidence Flows Policies Workloads

inductive Operation where
  | advanceEpoch (boot : CoordinatorBootId)
  | setPolicy (policy : ClassifierPolicy)
  | registerPublisher (id : PublisherId) (boot : PublisherBootId) (maxSource : EvidenceSource)
      (session : SessionId) (description : Bytes) (tick : Tick) (wall : UInt64)
  | endPublisherSession (id : PublisherId) (boot : PublisherBootId) (session : SessionId)
      (tick : Tick)
  | heartbeat (id : PublisherId) (boot : PublisherBootId) (tick : Tick) (wall : UInt64)
  | expirePublisherLiveness (tick : Tick)
  | declareWorkload (id : WorkloadId) (owner : PublisherId) (generation : WorkloadGeneration)
      (description : Bytes) (tick : Tick)
  | proposeContract (contract : WorkloadContract) (tick : Tick)
  | activateContract (id : ContractId) (caller : PublisherId) (tick : Tick)
  | retireContract (id : ContractId) (caller : PublisherId) (tick : Tick)
  | retireWorkload (id : WorkloadId) (generation : WorkloadGeneration) (tick : Tick)
  | registerFlow (key : FlowKey) (generation : FlowGeneration) (session : SessionId)
      (tick : Tick)
  | findFlow (key : FlowKey)
  | findFlowGeneration (id : FlowId) (generation : FlowGeneration)
  | submitEvidence (envelope : SessionEnvelope) (payload : EvidencePayload)
      (tick touchTick : Tick) (wall : UInt64)
  | withdrawEvidence (envelope : SessionEnvelope) (id : EvidenceId) (reason : Bytes)
      (tick : Tick)
  | revokeGeneration (envelope : SessionEnvelope) (flow : FlowId) (generation : FlowGeneration)
      (reason : Bytes) (tick : Tick)
  | classify (query : ClassificationQuery) (tick : Tick)
  | classifyBatch (queries : List (ClassificationQuery × Tick))
  | explain (key : FlowKey) (generation : FlowGeneration) (tick again : Tick)
  | restore (image : DurableState) (boot : CoordinatorBootId) (tick : Tick)

def Operation.Running (op : Operation) : Prop :=
  ∀ image boot tick, op ≠ .restore image boot tick

namespace Classifier

def step (c : Classifier) : Operation → Classifier
  | .advanceEpoch boot => (c.advanceEpoch boot).2
  | .setPolicy policy => (c.setPolicy policy).2
  | .registerPublisher id boot maxSource session description tick wall =>
    (c.registerPublisher id boot maxSource session description tick wall).2
  | .endPublisherSession id boot session tick => (c.endPublisherSession id boot session tick).2
  | .heartbeat id boot tick wall => (c.heartbeat id boot tick wall).2
  | .expirePublisherLiveness tick => (c.expirePublisherLiveness tick).2
  | .declareWorkload id owner generation description tick =>
    (c.declareWorkload id owner generation description tick).2
  | .proposeContract contract tick => (c.proposeContract contract tick).2
  | .activateContract id caller tick => (c.activateContract id caller tick).2
  | .retireContract id caller tick => (c.retireContract id caller tick).2
  | .retireWorkload id generation tick => (c.retireWorkload id generation tick).2
  | .registerFlow key generation session tick => (c.registerFlow key generation session tick).2
  | .findFlow key => (c.findFlow key).2
  | .findFlowGeneration id generation => (c.findFlowGeneration id generation).2
  | .submitEvidence envelope payload tick touchTick wall =>
    (c.submitEvidence envelope payload tick touchTick wall).2
  | .withdrawEvidence envelope id reason tick => (c.withdrawEvidence envelope id reason tick).2
  | .revokeGeneration envelope flow generation reason tick =>
    (c.revokeGeneration envelope flow generation reason tick).2
  | .classify query tick => (c.classify query tick).2
  | .classifyBatch queries => (c.classifyBatch queries).2
  | .explain key generation tick again => (c.explain key generation tick again).2
  | .restore image boot tick => (restore image c boot tick).2

end Classifier
end FlowClassifier
