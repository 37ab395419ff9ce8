import FlowClassifier.Lib.FiniteMap
import FlowClassifier.Classifications

/-!
`ClassificationIndex`: the decision memo, the decisions and contradictions recorded per
flow and the bounded lists of revocations and supersessions. The memo holds no authority;
whether a generation is revoked is read from the revocation list.
-/
namespace FlowClassifier.Store

open Lib Foundation Classifications

structure DecisionKey where
  flowId : FlowId
  flowGeneration : FlowGeneration
  evidenceDigest : Digest256
  policyGeneration : ClassifierPolicyGeneration

def hexWord (v : UInt64) : Bytes := hexText (leBytes 8 v.toNat).reverse

def decisionKeyText (key : DecisionKey) : Bytes :=
  hexWord key.flowId.hi ++ hexWord key.flowId.lo ++ text "|" ++ hexWord key.flowGeneration ++
    text "|" ++ hexText key.evidenceDigest.bytes.toList ++ text "|" ++
    hexWord key.policyGeneration

structure ClassificationIndexStats where
  decisionsRecorded : UInt64 := 0
  historyEvictions : UInt64 := 0
  memoHits : UInt64 := 0
  memoMisses : UInt64 := 0
  memoEvictions : UInt64 := 0
  revocations : UInt64 := 0
  supersessions : UInt64 := 0
  contradictionsRecorded : UInt64 := 0
  flowsWithHistory : ℕ := 0
  memoEntries : ℕ := 0

structure FlowHistory where
  decisions : List Classification := []
  contradictions : List ClassificationContradiction := []

structure ClassificationIndex where
  history : FiniteMap FlowId FlowHistory := ∅
  memo : FiniteMap Bytes Classification := ∅
  memoOrder : List Bytes := []
  revocations : List RevocationRecord := []
  supersessions : List SupersessionRecord := []
  maxDecisionsPerFlow : UInt32
  maxMemoEntries : UInt32
  maxContradictions : UInt32
  maxSupersessions : UInt32
  maxRevocations : UInt32
  stats : ClassificationIndexStats := {}
  -- set when `erase(begin())` was called on an empty vector: of the program nothing is known
  -- from there on, and what the model goes on with says nothing about it
  erasedEmpty : Bool := false

def lastEntries {α : Type} (bound : ℕ) (xs : List α) : List α := xs.drop (xs.length - bound)

/-- To make room the source erases the first entry, also with bound 0, when there is none. -/
def erasesEmpty {α : Type} (bound : UInt32) (xs : List α) : Bool := xs.isEmpty && bound == 0

/-- A bounded list that makes room by dropping its oldest entry. -/
def pushBounded {α : Type} (bound : UInt32) (xs : List α) (x : α) : List α :=
  if erasesEmpty bound xs then xs
  else (if xs.length ≥ bound.toNat then xs.tail else xs) ++ [x]

namespace ClassificationIndex

def historyOf (d : ClassificationIndex) (flow : FlowId) : FlowHistory :=
  (d.history.lookup flow).getD {}

def previousOf (history : FlowHistory) (generation : FlowGeneration) : Option Classification :=
  history.decisions.reverse.find? fun c => c.flowGeneration == generation

def record (d : ClassificationIndex) (c : Classification) :
    Classification × ClassificationIndex :=
  let before := d.historyOf c.flowId
  let decisions := before.decisions ++ [c]
  let history : FiniteMap _ _ := d.history.insert c.flowId
    { decisions := lastEntries d.maxDecisionsPerFlow.toNat decisions
      contradictions :=
        lastEntries d.maxContradictions.toNat (before.contradictions ++ c.contradictions) }
  ((previousOf before c.flowGeneration).getD {},
    { d with
      history := history
      stats := { d.stats with
        historyEvictions := d.stats.historyEvictions +
          UInt64.ofNat (decisions.length - d.maxDecisionsPerFlow.toNat)
        decisionsRecorded := d.stats.decisionsRecorded + 1
        flowsWithHistory := history.size
        contradictionsRecorded :=
          d.stats.contradictionsRecorded + UInt64.ofNat c.contradictions.length } })

def latest (d : ClassificationIndex) (flow : FlowId) (generation : FlowGeneration) :
    Result Classification :=
  match d.history.lookup flow with
  | none => Status.failure .notFound (text "no classification history for this flow")
  | some history =>
    match previousOf history generation with
    | some c => .ok c
    | none =>
      Status.failure .notFound (text "no classification recorded for this flow generation")

def memoLookup (d : ClassificationIndex) (key : DecisionKey) :
    Option Classification × ClassificationIndex :=
  match d.memo.lookup (decisionKeyText key) with
  | none => (none, { d with stats := { d.stats with memoMisses := d.stats.memoMisses + 1 } })
  | some c => (some c, { d with stats := { d.stats with memoHits := d.stats.memoHits + 1 } })

/-- The eviction loop of `memo_store` over the order of insertion. -/
def evictMemo (d : ClassificationIndex) : List Bytes → ClassificationIndex
  | [] => { d with memoOrder := [] }
  | oldest :: rest =>
    if d.memo.size ≥ d.maxMemoEntries.toNat then
      if (d.memo.lookup oldest).isSome then
        evictMemo
          { d with
            memo := d.memo.erase oldest
            stats := { d.stats with memoEvictions := d.stats.memoEvictions + 1 } }
          rest
      else d.evictMemo rest
    else { d with memoOrder := oldest :: rest }

def memoStore (d : ClassificationIndex) (key : DecisionKey) (c : Classification) :
    ClassificationIndex :=
  let text := decisionKeyText key
  if (d.memo.lookup text).isSome then { d with memo := d.memo.insert text c }
  else
    let d := if d.memo.size ≥ d.maxMemoEntries.toNat then d.evictMemo d.memoOrder else d
    if d.memo.size ≥ d.maxMemoEntries.toNat then d
    else
      let memo : FiniteMap _ _ := d.memo.insert text c
      { d with
        memo := memo
        memoOrder := d.memoOrder ++ [text]
        stats := { d.stats with memoEntries := memo.size } }

def recordSupersession (d : ClassificationIndex) (s : SupersessionRecord) :
    ClassificationIndex :=
  { d with
    supersessions := pushBounded d.maxSupersessions d.supersessions s
    erasedEmpty := d.erasedEmpty || erasesEmpty d.maxSupersessions d.supersessions
    stats := { d.stats with supersessions := d.stats.supersessions + 1 } }

def recordRevocation (d : ClassificationIndex) (r : RevocationRecord) : ClassificationIndex :=
  { d with
    revocations := pushBounded d.maxRevocations d.revocations r
    erasedEmpty := d.erasedEmpty || erasesEmpty d.maxRevocations d.revocations
    stats := { d.stats with revocations := d.stats.revocations + 1 } }

/-- `is_revoked`; a revocation that names an evidence identity is a withdrawal. -/
def isRevoked (d : ClassificationIndex) (flow : FlowId) (generation : FlowGeneration) : Bool :=
  d.revocations.any fun r =>
    r.flowId == flow && r.flowGeneration == generation && r.evidenceId.isEmpty

def supersedes (supersededBy : FlowGeneration) (c : Classification) : Bool :=
  c.flowGeneration < supersededBy && c.state != .stale

def supersedeGeneration (d : ClassificationIndex) (flow : FlowId)
    (supersededBy : FlowGeneration) : ℕ × ClassificationIndex :=
  match d.history.lookup flow with
  | none => (0, d)
  | some history =>
    let mark := fun c : Classification =>
      if supersedes supersededBy c then { c with state := .stale } else c
    ((history.decisions.filter (supersedes supersededBy)).length,
      { d with
        history :=
          d.history.insert flow { history with decisions := history.decisions.map mark } })

def snapshotClassifications (d : ClassificationIndex) : List Classification :=
  (d.history.values.flatMap FlowHistory.decisions).insertionSort fun a b =>
    toLex (a.flowId, a.flowGeneration) ≤ toLex (b.flowId, b.flowGeneration)

def restoreClassification (d : ClassificationIndex) (c : Classification) : ClassificationIndex :=
  let before := d.historyOf c.flowId
  { d with
    history := d.history.insert c.flowId
      { before with
        decisions := lastEntries d.maxDecisionsPerFlow.toNat (before.decisions ++ [c]) } }

def restoreRevocation (d : ClassificationIndex) (r : RevocationRecord) : ClassificationIndex :=
  { d with
    revocations := pushBounded d.maxRevocations d.revocations r
    erasedEmpty := d.erasedEmpty || erasesEmpty d.maxRevocations d.revocations }

def restoreSupersession (d : ClassificationIndex) (s : SupersessionRecord) :
    ClassificationIndex :=
  { d with
    supersessions := pushBounded d.maxSupersessions d.supersessions s
    erasedEmpty := d.erasedEmpty || erasesEmpty d.maxSupersessions d.supersessions }

def clear (d : ClassificationIndex) : ClassificationIndex :=
  { d with
    history := ∅, memo := ∅, memoOrder := [], revocations := [], supersessions := [],
    stats := {} }

end ClassificationIndex
end FlowClassifier.Store
