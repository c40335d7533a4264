import NetworkLogging.Writer.Run

/-! # The byte count of the pending queue

`pendingBytes` is a `size_t` kept beside `pendingMessages`: `writeMessage` adds
the size of what it appends, `onWriteSuccess` subtracts the size of what it
removes, and nothing else touches either.  So the count is the queue's size
modulo `2 ^ 64` in every reachable world, and the queue's size itself whenever
the queue fits in a 64-bit address space (`pendingBytes_accounts`).

When no caller asks for `NEVER_DISCARD` and no buffer is so large that
`maxBufferSize + size` wraps, the discard test of `writeMessage` keeps the queue
within `maxBufferSize`, with every `size_t` operation exact
(`writeMessage_discard_policy`).
-/
namespace Folly.NetworkLogWriter
open World

/-- The queue and its byte count. -/
def World.queue (w : World) : List Bytes × Nat := (w.state.pendingMessages, w.state.pendingBytes)

variable {p : Params} (w : World)

/-! ## What each handler does to the queue -/

theorem connect_queue : (connect p w).queue = w.queue := by
  cases h : (w.state.connecting || w.usable.isSome)
  · cases hp : p.protocol
    · rw [connect_of_tcp h hp]; rfl
    · rw [connect_of_udp h hp]; rfl
  · rw [connect_of_busy h]; rfl

theorem onConnectSuccess_queue : (onConnectSuccess w).queue = w.queue := by
  cases h : w.state.pendingMessages
  · rw [onConnectSuccess_of_empty h]; rfl
  · rw [onConnectSuccess_of_pending h]; simp [queue]

theorem onWriteError_queue : (onWriteError w).queue = w.queue := by
  cases h : w.usable.isSome
  · rw [onWriteError_of_unusable h]; rfl
  · rw [onWriteError_of_usable h]; simp [queue]

theorem onWriteSuccess_queue : (onWriteSuccess w).queue = (removeFront w).queue := by
  rw [onWriteSuccess_eq]; split <;> simp [queue]

theorem runTask_queue (t : Task) : (runTask p t w).queue = w.queue := by
  cases t
  · exact connect_queue w
  · simp [runTask, queue]
  · rfl

/-- **What a step does to the queue**: nothing, an append by a `writeMessage`
that does not discard, or the removal of the head by `onWriteSuccess`. -/
theorem step_queue {w' : World} {e : Event} (h : step p w e = some w') :
    w'.queue = w.queue ∨
    (∃ buffer flags, e = .writeMessage buffer flags ∧ ¬Discards p w.state.pendingBytes buffer flags ∧
      w'.queue = (w.state.pendingMessages ++ [buffer], sizeAdd w.state.pendingBytes buffer.length)) ∨
    (∃ message rest, w.state.pendingMessages = message :: rest ∧
      w'.queue = (rest, sizeSub w.state.pendingBytes message.length)) := by
  cases e with
  | writeMessage buffer flags =>
    cases h
    by_cases hd : Discards p w.state.pendingBytes buffer flags
    · exact .inl (by rw [writeMessage_of_discards hd]; rfl)
    · refine .inr (.inl ⟨buffer, flags, rfl, hd, ?_⟩)
      rw [writeMessage_of_accepts hd]; split <;> rfl
  | flush | destroy => cases h; exact .inl rfl
  | runTask =>
    simp only [step] at h; split at h <;> cases h
    exact .inl (runTask_queue _ _)
  | timeout =>
    simp only [step] at h; split at h <;> cases h
    exact .inl (connect_queue _)
  | connectSuccess i =>
    simp only [step] at h; split at h <;> cases h
    exact .inl (onConnectSuccess_queue _)
  | connectError i =>
    simp only [step] at h; split at h <;> cases h
    exact .inl (by rw [onConnectError_eq]; rfl)
  | writeDone i =>
    simp only [step] at h; split at h <;> cases h
    split
    · rw [onWriteSuccess_queue]
      cases hq : w.state.pendingMessages with
      | nil => exact .inl (by simp [removeFront, hq, queue])
      | cons message rest => exact .inr (.inr ⟨message, rest, rfl, by simp [removeFront, hq, queue]⟩)
    · exact .inl (onWriteError_queue _)
  | fail i =>
    simp only [step] at h; split at h <;> cases h
    exact .inl rfl
  | close i =>
    simp only [step] at h; split at h <;> cases h
    exact .inl (by rw [onSocketClose_eq]; rfl)
  | join =>
    simp only [step] at h; split at h <;> cases h
    exact .inl rfl

/-! ## The count modulo `2 ^ 64`, in every run -/

/-- `pendingBytes` is the queue's size, as a `size_t`. -/
def Accounted (w : World) : Prop := w.state.pendingBytes = byteSum w.state.pendingMessages % 2 ^ 64

theorem accounted_step {w' : World} {e : Event} (hw : Accounted w) (h : step p w e = some w') :
    Accounted w' := by
  unfold Accounted at *
  rcases step_queue w h with hq | ⟨b, f, -, -, hq⟩ | ⟨m, rest, hm, hq⟩ <;>
    simp only [queue, Prod.mk.injEq] at hq <;> rw [hq.1, hq.2]
  · exact hw
  · simp only [sizeAdd, byteSum_append, byteSum_cons, byteSum_nil, hw]; omega
  · simp only [hm, byteSum_cons] at hw; simp only [sizeSub, hw]; omega

/-- A world whose pending messages fit in a 64-bit address space, as every
world of a running process does. -/
def FitsInMemory (w : World) : Prop := byteSum w.state.pendingMessages < 2 ^ 64

/-- **`pendingBytes` counts the pending queue.**  In every reachable world it is
the queue's size modulo `2 ^ 64`; when the queue fits in memory it is the size
itself, and the head's size never exceeds it, so the subtraction in
`onWriteSuccess` does not wrap. -/
theorem pendingBytes_accounts {w : World} (hw : Reachable p w) :
    w.state.pendingBytes = byteSum w.state.pendingMessages % 2 ^ 64 ∧
    (FitsInMemory w → w.state.pendingBytes = byteSum w.state.pendingMessages ∧
      ∀ message rest, w.state.pendingMessages = message :: rest →
        message.length ≤ w.state.pendingBytes) := by
  have h : Accounted w :=
    hw.induct_inv (show Accounted init from rfl) fun _ _ _ hi _ hs => accounted_step _ hi hs
  refine ⟨h, fun hfit => ⟨by unfold FitsInMemory at hfit; rw [h]; omega, ?_⟩⟩
  intro message rest hm
  unfold Accounted FitsInMemory at *
  rw [hm, byteSum_cons] at h hfit
  omega

/-- The constructor's connect, then three bytes queued before it completes. -/
def queueBeforeConnect : List Event := [.runTask, .writeMessage [1, 2, 3] 0]

/-- The world `queueBeforeConnect` reaches. -/
def queuedBeforeConnect : World := (run tcpDefaults init queueBeforeConnect).get (by decide)

theorem queuedBeforeConnect_accounts :
    queuedBeforeConnect.state.pendingBytes =
        byteSum queuedBeforeConnect.state.pendingMessages % 2 ^ 64 ∧
      (FitsInMemory queuedBeforeConnect →
        queuedBeforeConnect.state.pendingBytes = byteSum queuedBeforeConnect.state.pendingMessages ∧
        ∀ message rest, queuedBeforeConnect.state.pendingMessages = message :: rest →
          message.length ≤ queuedBeforeConnect.state.pendingBytes) :=
  pendingBytes_accounts (ReachableBy.of_run_get queueBeforeConnect (by decide) _)

/-! ## The bound, in the runs that never wrap -/

/-- The steps of the runs the bound is about: no `writeMessage` asks for
`NEVER_DISCARD`, and none offers a buffer for which `maxBufferSize + size`
reaches `2 ^ 64`. -/
def moderate (p : Params) : Event → Bool
  | .writeMessage buffer flags =>
    flags &&& p.neverDiscard == 0 && p.maxBufferSize + buffer.length < 2 ^ 64
  | _ => true

/-- The queue is within `maxBufferSize`, and `pendingBytes` counts it exactly. -/
def Bounded (p : Params) (w : World) : Prop :=
  w.state.pendingBytes = byteSum w.state.pendingMessages ∧
    byteSum w.state.pendingMessages ≤ p.maxBufferSize

theorem bounded_step {w' : World} {e : Event} (hw : Bounded p w) (he : moderate p e = true)
    (h : step p w e = some w') : Bounded p w' := by
  obtain ⟨hb, hmax⟩ := hw
  unfold Bounded
  rcases step_queue w h with hq | ⟨b, f, rfl, hd, hq⟩ | ⟨m, rest, hm, hq⟩ <;>
    simp only [queue, Prod.mk.injEq] at hq <;> rw [hq.1, hq.2]
  · exact ⟨hb, hmax⟩
  · simp only [moderate, Bool.and_eq_true, beq_iff_eq, decide_eq_true_eq] at he
    obtain ⟨hf, hsz⟩ := he
    simp only [Discards, hf, and_true, not_lt, sizeAdd] at hd
    have := p.maxBufferSize_lt
    simp only [sizeAdd, byteSum_append, byteSum_cons, byteSum_nil]
    constructor <;> omega
  · simp only [hm, byteSum_cons] at hb hmax
    have := p.maxBufferSize_lt
    simp only [sizeSub]
    constructor <;> omega

/-- **The discard policy of `writeMessage`.**  A call discards exactly when its
flags lack `NEVER_DISCARD` and `pendingBytes + size` exceeds `maxBufferSize` in
`size_t` arithmetic; a discard changes nothing but the lock and posts nothing.
In the runs where no call asks for `NEVER_DISCARD` and no `maxBufferSize + size`
wraps, every reachable world keeps `pendingBytes` within `maxBufferSize`. -/
theorem writeMessage_discard_policy :
    (∀ (w : World) (buffer : Bytes) (flags : UInt32),
      ((writeMessage p buffer flags w).state.pendingMessages = w.state.pendingMessages ↔
        sizeAdd w.state.pendingBytes buffer.length > p.maxBufferSize ∧
          flags &&& p.neverDiscard = 0) ∧
      (Discards p w.state.pendingBytes buffer flags →
        (writeMessage p buffer flags w).state = w.state ∧
        (writeMessage p buffer flags w).tasks = w.tasks ∧
        (writeMessage p buffer flags w).sockets = w.sockets ∧
        (writeMessage p buffer flags w).writes = w.writes)) ∧
    (∀ w, ReachableBy p (fun e => moderate p e = true) w →
      w.state.pendingBytes ≤ p.maxBufferSize) := by
  refine ⟨fun w buffer flags => ⟨?_, fun hd => ?_⟩, fun w hw => ?_⟩
  · by_cases hd : Discards p w.state.pendingBytes buffer flags
    · simp only [writeMessage_of_discards hd, unlock_state, lock_state, true_iff]; exact hd
    · rw [writeMessage_of_accepts hd]
      refine iff_of_false ?_ hd
      split <;> simp [enqueue, post]
  · simp [writeMessage_of_discards hd]
  · have h : Bounded p w := hw.induct_inv (show Bounded p init from ⟨rfl, Nat.zero_le _⟩)
      fun _ _ _ hi he hs => bounded_step _ hi he hs
    exact h.1 ▸ h.2

/-- A writer with a 10-byte buffer. -/
def tenByteBuffer : Params := ⟨.TCP, 10, by decide, 1⟩

/-- The scenario of the specification: a 6-byte message, an 8-byte one and a
3-byte one. -/
def sixEightThree : List Event :=
  [.runTask, .writeMessage (List.replicate 6 0) 0, .writeMessage (List.replicate 8 0) 0,
    .writeMessage (List.replicate 3 0) 0]

/-- The world `sixEightThree` reaches: the 8-byte message was discarded. -/
def afterSixEightThree : World := (run tenByteBuffer init sixEightThree).get (by decide)

theorem afterSixEightThree_within_buffer :
    afterSixEightThree.state.pendingBytes ≤ tenByteBuffer.maxBufferSize :=
  writeMessage_discard_policy.2 _ (ReachableBy.of_run_get sixEightThree (by decide) _)

end Folly.NetworkLogWriter
