import FlowClassifier.Protocol.FrameDecoding

/-!
`Channel::receive`. The channel returns a frame as soon as its buffer holds one and reads
from the socket only when it does not. A read is appended as a whole, and the buffer has
room for one frame of the largest size, so a read that carries the end of one frame and
more after it can be refused although every frame in it is valid.
-/
namespace FlowClassifier.Net

open Lib Foundation Protocol

inductive Event where
  /-- The deadline has passed. -/
  | expired
  | waitFailed (failure : Failure)
  /-- Nothing to read within the slice. -/
  | idle
  | readFailed (failure : Failure)
  /-- Bytes from the socket; none at the end of the stream. -/
  | read (chunk : Bytes)

structure ChannelStats where
  framesReceived : UInt64 := 0
  bytesReceived : UInt64 := 0
  receiveFailures : UInt64 := 0
  decodeFailures : UInt64 := 0

structure Channel (maxPayload : UInt32) where
  /-- The socket is valid. -/
  isOpen : Bool := true
  stream : FrameStream maxPayload := .new maxPayload
  stats : ChannelStats := {}

namespace Channel

variable {maxPayload : UInt32}

def countDecodeFailure (c : Channel maxPayload) : Channel maxPayload :=
  { c with stats := { c.stats with decodeFailures := c.stats.decodeFailures + 1 } }

def countReceiveFailure (c : Channel maxPayload) : Channel maxPayload :=
  { c with stats := { c.stats with receiveFailures := c.stats.receiveFailures + 1 } }

def poll (c : Channel maxPayload) : Option (Result Frame) × Channel maxPayload :=
  match c.stream.next with
  | (.error e, stream) => (some (.error e), countDecodeFailure { c with stream := stream })
  | (.ok (some frame), stream) =>
    (some (.ok frame),
      { c with
        stream := stream
        stats := { c.stats with framesReceived := c.stats.framesReceived + 1 } })
  | (.ok none, stream) => (none, { c with stream := stream })

def endOfStream (buffered : ℕ) : Failure :=
  if buffered ≠ 0 then
    ⟨.connectionReset, text "peer closed the stream with " ++ decimal buffered ++
      text " bytes of an incomplete frame buffered"⟩
  else ⟨.connectionClosed, text "peer closed the connection"⟩

def meet (c : Channel maxPayload) : Event → Option (Result Frame) × Channel maxPayload
  | .expired =>
    (some (Status.failure .connectionClosed
      (text "no complete frame arrived within the receive window")), c)
  | .waitFailed e => (some (.error e), c.countReceiveFailure)
  | .idle => (none, c)
  | .readFailed e => (some (.error e), c.countReceiveFailure)
  | .read [] =>
    -- only a partial frame makes the end of the stream a decode failure
    (some (.error (endOfStream c.stream.buffer.length)),
      if c.stream.buffer.length ≠ 0 then c.countDecodeFailure else c)
  | .read chunk =>
    let c : Channel maxPayload :=
      { c with
        stats := { c.stats with
          bytesReceived := c.stats.bytesReceived + UInt64.ofNat chunk.length } }
    match c.stream.append chunk with
    | .error e => (some (.error e), c.countDecodeFailure)
    | .ok stream => (none, { c with stream := stream })

/-- The loop of `receive`, with what is left of the events. Without a result it waits. -/
def receiveLoop (c : Channel maxPayload) :
    List Event → Option (Result Frame) × Channel maxPayload × List Event
  | [] => (c.poll.1, c.poll.2, [])
  | event :: rest =>
    match c.poll with
    | (some result, c) => (some result, c, event :: rest)
    | (none, c) =>
      match c.meet event with
      | (some result, c) => (some result, c, rest)
      | (none, c) => c.receiveLoop rest

def receive (c : Channel maxPayload) (events : List Event) :
    Option (Result Frame) × Channel maxPayload × List Event :=
  if c.isOpen then c.receiveLoop events
  else (some (Status.failure .notRunning (text "channel socket is not open")), c, events)

def receiveAll (c : Channel maxPayload) : ℕ → List Event → List (Option (Result Frame))
  | 0, _ => []
  | n + 1, events =>
    let out := c.receive events
    out.1 :: out.2.1.receiveAll n out.2.2

section Rounds

variable {c : Channel maxPayload}

theorem poll_of_frame {frame : Frame} {bytes rest : Bytes}
    (hframe : tryDecodeFrame maxPayload bytes = .ok (some (frame, bytes.length)))
    (hbuffer : c.stream.buffer = bytes ++ rest) :
    ∃ c' : Channel maxPayload, c.poll = (some (.ok frame), c') ∧ c'.isOpen = c.isOpen ∧
      c'.stream.buffer = rest := by
  have hfound := (stable_tryDecodeFrame maxPayload).found hframe rest
  rw [← hbuffer] at hfound
  unfold poll FrameStream.next
  rw [hfound]
  refine ⟨_, rfl, rfl, ?_⟩
  show c.stream.buffer.drop bytes.length = rest
  rw [hbuffer, List.drop_left]

theorem poll_of_part {frame : Frame} {missing : Bytes}
    (hframe : tryDecodeFrame maxPayload (c.stream.buffer ++ missing) =
      .ok (some (frame, (c.stream.buffer ++ missing).length))) (hmissing : missing ≠ []) :
    c.poll = (none, c) := by
  have hpos := List.length_pos_iff.mpr hmissing
  have hwaiting := waiting_of_part (stable_tryDecodeFrame maxPayload) hframe (by
    rw [List.length_append]
    omega)
  unfold poll FrameStream.next
  rw [hwaiting]

/-- A read is taken exactly when it fits behind what is buffered. -/
theorem meet_read {chunk : Bytes} (hchunk : chunk ≠ [])
    (hfits : c.stream.buffer.length + chunk.length ≤ maxPayload.toNat + frameHeaderBytes) :
    ∃ c' : Channel maxPayload, c.meet (.read chunk) = (none, c') ∧ c'.isOpen = c.isOpen ∧
      c'.stream.buffer = c.stream.buffer ++ chunk := by
  cases chunk with
  | nil => exact absurd rfl hchunk
  | cons b bs =>
    unfold meet FrameStream.append
    dsimp only
    rw [dif_pos (by omega)]
    exact ⟨_, rfl, rfl, rfl⟩

theorem meet_read_refused {chunk : Bytes} (hchunk : chunk ≠ [])
    (hfull : maxPayload.toNat + frameHeaderBytes < c.stream.buffer.length + chunk.length) :
    ∃ c', c.meet (.read chunk) = (some (.error
      (FrameStream.appendFailure maxPayload c.stream.buffer.length chunk.length)), c') := by
  have hbounded := c.stream.bounded
  have hpos := List.length_pos_iff.mpr hchunk
  cases chunk with
  | nil => exact absurd rfl hchunk
  | cons b bs =>
    unfold meet FrameStream.append
    dsimp only
    rw [dif_neg (by omega)]
    exact ⟨_, rfl⟩

end Rounds

structure Sent (maxPayload : UInt32) where
  header : FrameHeader
  payload : Bytes
  version : Supported header.version
  within : payload.length ≤ maxPayload.toNat

namespace Sent

def bytes (f : Sent maxPayload) : Bytes := frameBytes f.header f.payload

def frame (f : Sent maxPayload) : Frame := ⟨sentHeader f.header f.payload, f.payload⟩

theorem decoded (f : Sent maxPayload) :
    tryDecodeFrame maxPayload f.bytes = .ok (some (f.frame, f.bytes.length)) :=
  tryDecodeFrame_frameBytes f.header f.payload f.version f.within

end Sent

def openBytes : List ℕ → ℕ → ℕ
  | [], received => received
  | size :: rest, received =>
    if size ≤ received then openBytes rest (received - size) else received

/-- Behind what has arrived of an unfinished frame there is room for every read. -/
def ReadsFit (room : ℕ) (sizes : List ℕ) (received : ℕ) (reads : List Bytes) : Prop :=
  ∀ before chunk after, reads = before ++ chunk :: after →
    openBytes sizes (received + before.flatten.length) + chunk.length ≤ room

def readsOf (events : List Event) : List Bytes :=
  events.filterMap fun event =>
    match event with
    | .read chunk => some chunk
    | _ => none

def Delivers (events : List Event) : Prop :=
  ∀ event ∈ events, event = .idle ∨ ∃ chunk, chunk ≠ [] ∧ event = .read chunk

section Fitting

variable {room size received : ℕ} {sizes : List ℕ}

theorem readsFit_nil : ReadsFit room sizes received [] := by
  intro before chunk after hreads
  cases before <;> cases hreads

theorem readsFit_of_whole (h : size ≤ received) (reads : List Bytes) :
    ReadsFit room (size :: sizes) received reads ↔ ReadsFit room sizes (received - size) reads := by
  have hopen : ∀ n, openBytes (size :: sizes) (received + n) =
      openBytes sizes (received - size + n) := by
    intro n
    have hsub : received + n - size = received - size + n := by omega
    rw [openBytes, if_pos (by omega), hsub]
  unfold ReadsFit
  simp only [hopen]

theorem readsFit_cons (h : received < size) (chunk : Bytes) (reads : List Bytes) :
    ReadsFit room (size :: sizes) received (chunk :: reads) ↔ received + chunk.length ≤ room ∧
        ReadsFit room (size :: sizes) (received + chunk.length) reads := by
  constructor
  · intro hfit
    constructor
    · have hfirst := hfit [] chunk reads rfl
      rw [openBytes, if_neg (by simpa using h)] at hfirst
      simpa using hfirst
    · intro before next after hreads
      have hlater := hfit (chunk :: before) next after (by rw [hreads]; rfl)
      rw [List.flatten_cons, List.length_append, ← Nat.add_assoc] at hlater
      exact hlater
  · rintro ⟨hfirst, hrest⟩ before next after hreads
    cases before with
    | nil =>
      obtain ⟨rfl, rfl⟩ := List.cons.inj hreads
      rw [openBytes, if_neg (by simpa using h)]
      simpa using hfirst
    | cons first before =>
      obtain ⟨rfl, hlater⟩ := List.cons.inj hreads
      rw [List.flatten_cons, List.length_append, ← Nat.add_assoc]
      exact hrest before next after hlater

end Fitting

section Delivery

variable {c : Channel maxPayload} {events : List Event} (sizes : List ℕ)

/-- What one call does when the next frame is `f`: it returns it and leaves what comes after
it, or it reports an error because a read did not fit. -/
def Returns (f : Sent maxPayload) (sizes : List ℕ) (rest : Bytes) (c : Channel maxPayload)
    (events : List Event) : Prop :=
  let room := maxPayload.toNat + frameHeaderBytes
  let fits := ReadsFit room (f.bytes.length :: sizes) c.stream.buffer.length (readsOf events)
  (∃ c' events', c.receiveLoop events = (some (.ok f.frame), c', events') ∧
    c'.isOpen = c.isOpen ∧ Delivers events' ∧
    c'.stream.buffer ++ (readsOf events').flatten = rest ∧
    (fits ↔ ReadsFit room sizes c'.stream.buffer.length (readsOf events'))) ∨
  (∃ e c' events', c.receiveLoop events = (some (.error e), c', events')) ∧ ¬ fits

/-- A frame that is buffered is returned without a read. -/
theorem returns_of_buffered {f : Sent maxPayload} {kept : Bytes}
    (hbuffer : c.stream.buffer = f.bytes ++ kept) (hdelivers : Delivers events) :
    Returns f sizes (kept ++ (readsOf events).flatten) c events := by
  obtain ⟨c', hpoll, hopen, hkept⟩ := poll_of_frame f.decoded hbuffer
  have hloop : c.receiveLoop events = (some (.ok f.frame), c', events) := by
    cases events with
    | nil => rw [receiveLoop, hpoll]
    | cons event rest => rw [receiveLoop, hpoll]
  refine Or.inl ⟨c', events, hloop, hopen, hdelivers, by rw [hkept], ?_⟩
  have hlength : c.stream.buffer.length = f.bytes.length + kept.length := by
    rw [hbuffer, List.length_append]
  rw [hkept, readsFit_of_whole (by omega)]
  have hsub : c.stream.buffer.length - f.bytes.length = kept.length := by omega
  rw [hsub]

/-- By induction on the events: each round returns, reads or waits. -/
theorem returns_of_delivers {f : Sent maxPayload} {rest : Bytes} (hdelivers : Delivers events)
    (hbytes : c.stream.buffer ++ (readsOf events).flatten = f.bytes ++ rest) :
    Returns f sizes rest c events := by
  induction events generalizing c with
  | nil =>
    have hbuffer : c.stream.buffer = f.bytes ++ rest := by simpa [readsOf] using hbytes
    have hreturns := returns_of_buffered sizes hbuffer hdelivers
    simpa [readsOf] using hreturns
  | cons event events ih =>
    have hlater : Delivers events := fun e he => hdelivers e (List.mem_cons_of_mem _ he)
    rcases List.append_eq_append_iff.mp hbytes with
      ⟨missing, hframe, hreads⟩ | ⟨kept, hbuffer, hrest⟩
    · by_cases hmissing : missing = []
      · subst hmissing
        rw [List.append_nil] at hframe
        rw [List.nil_append] at hreads
        rw [← hreads]
        have hwhole : c.stream.buffer = f.bytes ++ [] := by rw [hframe, List.append_nil]
        exact returns_of_buffered sizes hwhole hdelivers
      -- the frame is not there yet, so the event is met
      have hdecoded := f.decoded
      rw [hframe] at hdecoded
      have hpoll := poll_of_part hdecoded hmissing
      have hpos := List.length_pos_iff.mpr hmissing
      have hshort : c.stream.buffer.length < f.bytes.length := by
        rw [hframe, List.length_append]
        omega
      rcases hdelivers event List.mem_cons_self with rfl | ⟨chunk, hchunk, rfl⟩
      · have hloop : c.receiveLoop (.idle :: events) = c.receiveLoop events := by
          rw [receiveLoop, hpoll]
          rfl
        have hreturns := ih hlater hbytes
        unfold Returns at hreturns ⊢
        rw [hloop]
        exact hreturns
      · have hsplit : readsOf (.read chunk :: events) = chunk :: readsOf events := rfl
        have hfits := @readsFit_cons (maxPayload.toNat + frameHeaderBytes) _ _ sizes hshort chunk
          (readsOf events)
        by_cases hroom : c.stream.buffer.length + chunk.length ≤ maxPayload.toNat + frameHeaderBytes
        · obtain ⟨c', hmeet, hopen, hbuffer⟩ := meet_read hchunk hroom
          have hloop : c.receiveLoop (.read chunk :: events) = c'.receiveLoop events := by
            rw [receiveLoop, hpoll]
            dsimp only
            rw [hmeet]
          have hbytes' : c'.stream.buffer ++ (readsOf events).flatten = f.bytes ++ rest := by
            rw [hbuffer, List.append_assoc]
            exact hbytes
          have hreturns := ih hlater hbytes'
          unfold Returns at hreturns ⊢
          dsimp only at hreturns ⊢
          rw [hloop, hsplit, hfits, ← List.length_append, ← hbuffer, and_iff_right, ← hopen]
          · exact hreturns
          · rw [hbuffer, List.length_append]
            exact hroom
        · obtain ⟨c', hmeet⟩ := meet_read_refused hchunk (Nat.lt_of_not_le hroom)
          have hloop : c.receiveLoop (.read chunk :: events) = (some (.error
              (FrameStream.appendFailure maxPayload c.stream.buffer.length chunk.length)),
              c', events) := by
            rw [receiveLoop, hpoll]
            dsimp only
            rw [hmeet]
          refine Or.inr ⟨⟨_, c', events, hloop⟩, ?_⟩
          rw [hsplit, hfits]
          exact fun hboth => hroom hboth.1
    · rw [hrest]
      exact returns_of_buffered sizes hbuffer hdelivers

end Delivery

/-- The calls return the frames one after another exactly when every read finds room. -/
theorem receiveAll_iff (frames : List (Sent maxPayload)) {c : Channel maxPayload}
    (hopen : c.isOpen = true) {events : List Event} (hdelivers : Delivers events)
    (hbytes : c.stream.buffer ++ (readsOf events).flatten = frames.flatMap Sent.bytes) :
    c.receiveAll frames.length events = frames.map (fun f => some (.ok f.frame)) ↔
      ReadsFit (maxPayload.toNat + frameHeaderBytes) (frames.map fun f => f.bytes.length)
        c.stream.buffer.length (readsOf events) := by
  induction frames generalizing c events with
  | nil =>
    refine iff_of_true rfl ?_
    intro before chunk after hreads
    have hempty : chunk = [] := by
      rw [hreads] at hbytes
      have hflat := (List.append_eq_nil_iff.mp hbytes).2
      rw [List.flatten_append, List.flatten_cons] at hflat
      exact (List.append_eq_nil_iff.mp (List.append_eq_nil_iff.mp hflat).2).1
    have hmem : chunk ∈ readsOf events := by
      rw [hreads]
      simp
    obtain ⟨event, hevent, hread⟩ := List.mem_filterMap.mp hmem
    rcases hdelivers event hevent with rfl | ⟨chunk', hchunk, rfl⟩
    · cases hread
    · cases hread
      exact absurd hempty hchunk
  | cons f frames ih =>
    rw [List.flatMap_cons] at hbytes
    rw [List.length_cons, List.map_cons, List.map_cons, receiveAll, receive, if_pos hopen]
    rcases returns_of_delivers (frames.map fun f => f.bytes.length) hdelivers hbytes with
      ⟨c', events', hloop, hopen', hdelivers', hrest, hfits⟩ | ⟨⟨e, c', events', hloop⟩, hfull⟩
    · rw [hloop, hfits, ← ih (hopen'.trans hopen) hdelivers' hrest]
      simp
    · refine iff_of_false ?_ hfull
      rw [hloop]
      simp

/-- Valid frames sent back to back are returned in order and without an error, however the
socket cuts them, exactly when every read fits behind the bytes of the frame that is still
incomplete when it is made. -/
theorem pipelined_frames_iff (frames : List (Sent maxPayload)) {events : List Event}
    (hdelivers : Delivers events)
    (hbytes : (readsOf events).flatten = frames.flatMap Sent.bytes) :
    ({} : Channel maxPayload).receiveAll frames.length events =
        frames.map (fun f => some (.ok f.frame)) ↔
      ReadsFit (maxPayload.toNat + frameHeaderBytes) (frames.map fun f => f.bytes.length) 0
        (readsOf events) :=
  receiveAll_iff frames rfl hdelivers hbytes

def beat : Sent 64 := ⟨{ kind := .heartbeat }, [], by decide, by decide⟩

def cutEvents : List Event :=
  [.read (beat.bytes ++ beat.bytes.take 20), .idle, .read (beat.bytes.drop 20)]

theorem pipelined_frames_sample :
    ({} : Channel 64).receiveAll 2 cutEvents = [some (.ok beat.frame), some (.ok beat.frame)] := by
  have hlength : beat.bytes.length = 44 := length_frameBytes _ _
  refine (pipelined_frames_iff [beat, beat] ?_ ?_).mpr ?_
  · have hpos : 0 < beat.bytes.length := by omega
    intro event hevent
    simp only [cutEvents, List.mem_cons, List.not_mem_nil, or_false] at hevent
    rcases hevent with rfl | rfl | rfl
    · refine Or.inr ⟨_, ?_, rfl⟩
      rw [← List.length_pos_iff, List.length_append]
      omega
    · exact Or.inl rfl
    · refine Or.inr ⟨_, ?_, rfl⟩
      rw [← List.length_pos_iff, List.length_drop]
      omega
  · have htake := List.take_append_drop 20 beat.bytes
    show [beat.bytes ++ beat.bytes.take 20, beat.bytes.drop 20].flatten = _
    simp [htake]
  · have hfirst : (beat.bytes ++ beat.bytes.take 20).length = 64 := by
      rw [List.length_append, List.length_take]
      omega
    have hsecond : (beat.bytes.drop 20).length = 24 := by
      rw [List.length_drop]
      omega
    show ReadsFit 108 [beat.bytes.length, beat.bytes.length] 0
      [beat.bytes ++ beat.bytes.take 20, beat.bytes.drop 20]
    rw [hlength, readsFit_cons (by omega), readsFit_of_whole (by omega), readsFit_cons (by omega),
      hfirst, hsecond]
    exact ⟨by omega, by omega, readsFit_nil⟩

/-- Three heartbeats in one read of 132 bytes are refused by a channel with room for 108. -/
theorem pipelined_frames_refused :
    let stream := [beat, beat, beat].flatMap Sent.bytes
    stream.length ≤ 16384 ∧
      ∃ e results, ({} : Channel 64).receiveAll 3 [.read stream] = some (.error e) :: results ∧
        e.code = .capacityExceeded := by
  intro stream
  have hlength : beat.bytes.length = 44 := length_frameBytes _ _
  have hstream : stream.length = 132 := by
    simp [stream, hlength]
  have hsome : stream ≠ [] := by
    rw [← List.length_pos_iff]
    omega
  have hpoll : ({} : Channel 64).poll = (none, {}) := rfl
  obtain ⟨c', hmeet⟩ := @meet_read_refused 64 {} stream hsome (by
    show 108 < 0 + stream.length
    omega)
  have hall : ({} : Channel 64).receiveAll 3 [.read stream] =
      some (.error (FrameStream.appendFailure 64 0 stream.length)) :: c'.receiveAll 2 [] := by
    rw [receiveAll, receive, if_pos rfl, receiveLoop, hpoll]
    dsimp only
    rw [hmeet]
    rfl
  exact ⟨by omega, _, _, hall, rfl⟩

end Channel
end FlowClassifier.Net
