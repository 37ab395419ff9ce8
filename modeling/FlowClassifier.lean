import FlowClassifier.Revocation
import FlowClassifier.IdleWindow
import FlowClassifier.Runtime.Handshake
import FlowClassifier.Store.Ceilings
import FlowClassifier.SessionEnds
import FlowClassifier.WorkloadRanks
import FlowClassifier.SelfPromotion
import FlowClassifier.Freshness
import FlowClassifier.HeuristicGate
import FlowClassifier.Agreement
import FlowClassifier.DisplayCap
import FlowClassifier.DecisionDigests
import FlowClassifier.Batches
import FlowClassifier.Superseded
import FlowClassifier.Protocol.Bursts
import FlowClassifier.Net.Channel
import FlowClassifier.Topics
import FlowClassifier.SupersessionLog
import FlowClassifier.StatedReasons
import FlowClassifier.Runtime.ExplanationLines
import FlowClassifier.Runtime.Epochs
import FlowClassifier.Runtime.Durability
import FlowClassifier.Store.Eviction
import FlowClassifier.Store.WorkloadChecks
import FlowClassifier.Gauges
import FlowClassifier.Confidences
