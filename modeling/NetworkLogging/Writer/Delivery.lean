import NetworkLogging.Writer.Accounting
import NetworkLogging.Writer.Connection
import Mathlib.Data.List.Forall2
import Mathlib.Data.List.Sort

/-! # The order in which messages reach the sockets

`writeMessage` appends what it keeps to the back of `pendingMessages`,
`onWriteSuccess` erases the front, and every write the handlers issue is
`pendingMessages.front()`.  So the queue is always the accepted messages less a
prefix of them, and each socket is handed accepted messages in the order they
were accepted.  A message may be written twice, and one may be removed before
its own write completes (`doubleSend_removes_unwritten`).  But no socket
receives a message after one accepted later than it, and none receives a
message while one accepted before it is still queued (`written_in_order`).
This holds across reconnects, read over all sockets in the order they were
created.

Every write goes to the writer's own socket while it is good, the writer never
takes back a socket it has let go of, and a failed socket never becomes good
again.  So a replaced socket is never written again, and since only the writer's
socket is good, a late completion from a replaced one reaches `onWriteError` and
never advances the queue (`released_socket_never_written`).  A failed socket is
never written again either, even while the writer still holds it
(`failed_socket_never_written`).

Neither the accepted messages nor the completed writes are part of the writer's
state.  An observer beside the unchanged `World` keeps them, reading off each
step the buffer `writeMessage` kept and the write whose completion the transport
delivered.
-/
namespace Folly.NetworkLogWriter
open World

/-! ## Walks through the accepted messages -/

/-- `l` lists messages of `A` at positions that never decrease and never pass
`r`. -/
def Walk (A : List Bytes) (r : Nat) (l : List Bytes) : Prop :=
  ∃ idx : List Nat, idx.Sorted (· ≤ ·) ∧ (∀ k ∈ idx, k ≤ r) ∧
    List.Forall₂ (fun k m => A[k]? = some m) idx l

namespace Walk
variable {A : List Bytes} {r : Nat} {l : List Bytes}

theorem nil : Walk A r [] := ⟨[], List.sorted_nil, nofun, .nil⟩

/-- A walk may go on with the message at its bound. -/
theorem snoc {m : Bytes} (hw : Walk A r l) (hm : A[r]? = some m) : Walk A r (l ++ [m]) := by
  obtain ⟨idx, hs, hr, hf⟩ := hw
  refine ⟨idx ++ [r], List.pairwise_append.2 ⟨hs, List.pairwise_singleton _ _,
    fun k hk _ hr' => List.mem_singleton.1 hr' ▸ hr k hk⟩, fun k hk => ?_,
    List.rel_append hf (.cons hm .nil)⟩
  rcases List.mem_append.1 hk with hk | hk
  · exact hr k hk
  · exact (List.mem_singleton.1 hk).le

theorem mono {r' : Nat} (hw : Walk A r l) (hr : r ≤ r') : Walk A r' l :=
  let ⟨idx, hs, hk, hf⟩ := hw
  ⟨idx, hs, fun k h => (hk k h).trans hr, hf⟩

/-- Accepting more messages keeps every walk. -/
theorem append (hw : Walk A r l) (B : List Bytes) : Walk (A ++ B) r l :=
  let ⟨idx, hs, hk, hf⟩ := hw
  ⟨idx, hs, hk, hf.imp fun _ _ h => by
    rw [List.getElem?_append_left (List.getElem?_eq_some_iff.1 h).1, h]⟩

end Walk

/-! ## The invariant -/

/-- The messages the writer has handed to its sockets, socket by socket in
creation order: each socket's completed writes, then its outstanding ones. -/
def handed (C : Nat → List Bytes) (w : World) : List Bytes :=
  (List.range w.socketCount).flatMap fun i => C i ++ w.writes i

/-- The order invariant, over the messages `A` accepted so far and the writes
`C` completed on each socket: the queue is what is left of `A` once a prefix is
removed, and what the sockets have been handed is a walk through `A` bounded by
the position of the queue's head. -/
structure InOrder (A : List Bytes) (C : Nat → List Bytes) (w : World) : Prop where
  fifo : ∃ removed, A = removed ++ w.state.pendingMessages
  /-- The writer's socket is the newest. -/
  newest : ∀ s, w.state.socket = some s → s + 1 = w.socketCount
  /-- A socket not created yet has been handed nothing. -/
  unused : ∀ i, w.socketCount ≤ i → C i = [] ∧ w.writes i = []
  walk : Walk A (A.length - w.state.pendingMessages.length) (handed C w)

/-- The accepted messages after a step from `w`: `writeMessage` adds the buffer
it keeps. -/
def acceptedAfter (p : Params) (w : World) (A : List Bytes) : Event → List Bytes
  | .writeMessage buffer flags =>
    if Discards p w.state.pendingBytes buffer flags then A else A ++ [buffer]
  | _ => A

/-- The completed writes after a step from `w`: a completion on socket `i`
retires its oldest outstanding write. -/
def completedAfter (w : World) (C : Nat → List Bytes) : Event → Nat → List Bytes
  | .writeDone i => Function.update C i (C i ++ (w.writes i).take 1)
  | _ => C

section Invariant
variable {p : Params} {A : List Bytes} {C : Nat → List Bytes} {w w' : World}

theorem inOrder_init : InOrder [] (fun _ => []) init :=
  ⟨⟨[], rfl⟩, nofun, fun _ _ => ⟨rfl, rfl⟩, by simp [handed, init, Walk.nil]⟩

/-- A write on the newest socket goes to the end of what the sockets were handed. -/
theorem handed_issueWrite {i : Nat} {m : Bytes} (hi : i + 1 = w.socketCount) :
    handed C (w.issueWrite i m) = handed C w ++ [m] := by
  simp only [handed, issueWrite, ← hi, List.range_succ, List.flatMap_append,
    List.flatMap_singleton, Function.update_same, List.append_assoc]
  congr 1
  exact List.flatMap_congr fun j hj => by
    rw [Function.update_noteq (List.mem_range.1 hj).ne]

/-- A step that keeps the queue, the writes and the number of sockets, and at
most drops the writer's socket, keeps the invariant. -/
theorem InOrder.frame (h : InOrder A C w) (hq : w'.state.pendingMessages = w.state.pendingMessages)
    (hw : w'.writes = w.writes) (hn : w'.socketCount = w.socketCount)
    (hs : w'.state.socket = none ∨ w'.state.socket = w.state.socket) : InOrder A C w' where
  fifo := hq ▸ h.fifo
  newest s h' := by
    rcases hs with hs | hs
    · rw [hs] at h'; cases h'
    · rw [hn]; exact h.newest s (hs ▸ h')
  unused i hi := hw ▸ h.unused i (hn ▸ hi)
  walk := by unfold handed; rw [hq, hw, hn]; exact h.walk

theorem InOrder.lock (h : InOrder A C w) : InOrder A C w.lock := h.frame rfl rfl rfl (.inr rfl)

theorem InOrder.unlock (h : InOrder A C w) : InOrder A C w.unlock := h.frame rfl rfl rfl (.inr rfl)

theorem InOrder.post (h : InOrder A C w) (t : Task) : InOrder A C (w.post t) :=
  h.frame rfl rfl rfl (.inr rfl)

/-- The head of the queue sits at the walk's bound. -/
theorem InOrder.head {m : Bytes} {rest : List Bytes} (h : InOrder A C w)
    (hq : w.state.pendingMessages = m :: rest) :
    A[A.length - w.state.pendingMessages.length]? = some m := by
  obtain ⟨R, hR⟩ := h.fifo
  rw [hR, hq, List.length_append, List.getElem?_append_right (by omega)]
  simp

/-- **Every write is the queue's head, on the newest socket**: a send keeps the
invariant. -/
theorem InOrder.sendPendingMessages (h : InOrder A C w) :
    InOrder A C (sendPendingMessages w) := by
  cases hq : w.state.pendingMessages with
  | nil =>
    exact h.frame (by simp) (sendPendingMessages_writes_of_empty w hq) (by simp) (.inr (by simp))
  | cons m rest =>
    cases hu : w.usable with
    | none =>
      exact h.frame (by simp) (sendPendingMessages_writes_of_unusable w hu) (by simp)
        (.inr (by simp))
    | some i =>
      have hi := h.newest i (usable_eq_some.1 hu).1
      rw [sendPendingMessages_writes_of_usable w hq hu]
      refine ⟨h.fifo, h.newest, fun j hj => ?_, ?_⟩
      · have hji : j ≠ i := by have : w.socketCount ≤ j := hj; omega
        simpa [issueWrite, hji] using h.unused j hj
      · show Walk A (A.length - w.state.pendingMessages.length) (handed C (w.issueWrite i m))
        rw [handed_issueWrite hi]
        exact h.walk.snoc (h.head hq)

/-- Accepting a buffer keeps the invariant: the walk's bound stays where it is. -/
theorem InOrder.enqueue (h : InOrder A C w) (b : Bytes) :
    InOrder (A ++ [b]) C (enqueue b w) := by
  obtain ⟨R, hR⟩ := h.fifo
  have hlen : w.state.pendingMessages.length ≤ A.length := by rw [hR, List.length_append]; omega
  refine ⟨⟨R, by simp [NetworkLogWriter.enqueue, hR]⟩, h.newest, h.unused,
    (h.walk.append [b]).mono ?_⟩
  simp only [NetworkLogWriter.enqueue, List.length_append, List.length_singleton]
  omega

/-- Erasing the front keeps the invariant: the walk's bound moves on. -/
theorem InOrder.removeFront (h : InOrder A C w) : InOrder A C (removeFront w) := by
  obtain ⟨R, hR⟩ := h.fifo
  have hh : handed C (NetworkLogWriter.removeFront w) = handed C w := by
    simp only [handed, removeFront_writes, removeFront_socketCount]
  cases hq : w.state.pendingMessages with
  | nil => exact h.frame (by simp [hq]) (by simp) (by simp) (.inr (by simp))
  | cons m rest =>
    refine ⟨⟨R ++ [m], by simp [hR, hq]⟩, by simpa using h.newest, by simpa using h.unused, ?_⟩
    rw [hh, removeFront_pendingMessages, hq, List.tail_cons]
    refine h.walk.mono ?_
    rw [hq, List.length_cons]
    omega

/-- Completing socket `i`'s oldest write moves it from the outstanding writes to
the completed ones: no socket's writes, taken together, change. -/
theorem completedAfter_writeDone {i : Nat} {m : Bytes} {rest : List Bytes}
    (hw : w.writes i = m :: rest) (j : Nat) :
    completedAfter w C (.writeDone i) j ++ Function.update w.writes i rest j =
      C j ++ w.writes j := by
  by_cases hj : j = i
  · subst hj; simp [completedAfter, hw]
  · simp [completedAfter, hj]

theorem InOrder.retire {i : Nat} {m : Bytes} {rest : List Bytes} (h : InOrder A C w)
    (hw : w.writes i = m :: rest) :
    InOrder A (completedAfter w C (.writeDone i))
      { w with writes := Function.update w.writes i rest } := by
  have hi : i < w.socketCount := by
    by_contra hn
    have := (h.unused i (by omega)).2
    rw [hw] at this; cases this
  refine ⟨h.fifo, h.newest, fun j hj => ?_, ?_⟩
  · have hji : j ≠ i := by have : w.socketCount ≤ j := hj; omega
    simpa [completedAfter, hji] using h.unused j hj
  · simp only [handed, completedAfter_writeDone hw]; exact h.walk

/-- Creating a socket hands it nothing. -/
theorem InOrder.openSocket (h : InOrder A C w) : InOrder A C w.openSocket where
  fifo := h.fifo
  newest s hs := by cases hs; rfl
  unused i hi := h.unused i (Nat.le_of_succ_le hi)
  walk := by
    have := h.unused w.socketCount le_rfl
    simpa [handed, World.openSocket, List.range_succ, this.1, this.2] using h.walk

theorem InOrder.connect (h : InOrder A C w) (p : Params) : InOrder A C (connect p w) := by
  cases hc : (w.state.connecting || w.usable.isSome)
  · cases hp : p.protocol
    · rw [connect_of_tcp hc hp]
      have h₁ : InOrder A C { w with state := { w.state with connecting := true } } :=
        h.frame rfl rfl rfl (.inr rfl)
      exact h₁.openSocket.lock.unlock
    · rw [connect_of_udp hc hp]; exact h.frame rfl rfl rfl (.inr rfl)
  · rw [connect_of_busy hc]; exact h.lock.unlock

theorem InOrder.onConnectSuccess (h : InOrder A C w) : InOrder A C (onConnectSuccess w) := by
  have h₁ : InOrder A C { w with state := { w.state with connecting := false } } :=
    h.frame rfl rfl rfl (.inr rfl)
  cases hq : w.state.pendingMessages with
  | nil => rw [onConnectSuccess_of_empty hq]; exact h₁.lock.unlock
  | cons m rest => rw [onConnectSuccess_of_pending hq]; exact h₁.lock.sendPendingMessages.unlock

/-- **Every step keeps the order invariant**, once what it accepted and retired
is added to the observation. -/
theorem inOrder_step {e : Event} (h : InOrder A C w) (hs : step p w e = some w') :
    InOrder (acceptedAfter p w A e) (completedAfter w C e) w' := by
  cases e with
  | writeMessage buffer flags =>
    cases hs
    by_cases hd : Discards p w.state.pendingBytes buffer flags
    · rw [writeMessage_of_discards hd, acceptedAfter, if_pos hd]; exact h.lock.unlock
    · rw [writeMessage_of_accepts hd, acceptedAfter, if_neg hd]
      split
      · exact ((h.enqueue buffer).post _).lock.unlock
      · exact (h.enqueue buffer).lock.unlock
  | writeDone i =>
    obtain ⟨-, m, rest, hwi, rfl⟩ := step_writeDone hs
    have h₁ := h.retire hwi
    split
    · rw [onWriteSuccess_eq]
      split
      · exact h₁.removeFront.lock.sendPendingMessages.unlock
      · exact h₁.removeFront.lock.unlock
    · cases hu : ({ w with writes := Function.update w.writes i rest }).usable.isSome
      · rw [onWriteError_of_unusable hu]; exact h₁.frame rfl rfl rfl (.inl rfl)
      · rw [onWriteError_of_usable hu]; exact h₁.lock.sendPendingMessages.unlock
  | flush | destroy => cases hs; exact h.post _
  | runTask =>
    obtain ⟨-, t, ts, -, rfl⟩ := step_runTask hs
    have h₁ : InOrder A C { w with tasks := ts } := h.frame rfl rfl rfl (.inr rfl)
    cases t with
    | connect => exact h₁.connect p
    | sendPendingMessages => exact h₁.sendPendingMessages
    | cleanup => exact h.frame rfl rfl rfl (.inr rfl)
  | timeout =>
    obtain ⟨-, -, rfl⟩ := step_timeout hs
    have h₁ : InOrder A C { w with timerScheduled := false } := h.frame rfl rfl rfl (.inr rfl)
    exact h₁.connect p
  | connectSuccess i =>
    obtain ⟨-, -, -, rfl⟩ := step_connectSuccess hs
    exact InOrder.onConnectSuccess (h.frame rfl rfl rfl (.inr rfl))
  | connectError i =>
    obtain ⟨-, -, -, rfl⟩ := step_connectError hs
    rw [onConnectError_eq]; exact h.frame rfl rfl rfl (.inl rfl)
  | fail i =>
    obtain ⟨-, -, rfl⟩ := step_fail hs
    exact h.frame rfl rfl rfl (.inr rfl)
  | close i =>
    obtain ⟨-, -, rfl⟩ := step_close hs
    rw [onSocketClose_eq]; exact h.frame rfl rfl rfl (.inl rfl)
  | join =>
    obtain ⟨-, rfl⟩ := step_join hs
    exact h.frame rfl rfl rfl (.inl rfl)

end Invariant

/-! ## Sockets the writer cannot write on -/

/-- From `(C, w)` to `(C', w')` every socket that existed and that the writer
could not write on (not the writer's, or failed) keeps what it was handed; the
writer's socket ends as the one it was or a newer one; a failed socket stays
failed; and no socket disappears. -/
structure HandsOff (C : Nat → List Bytes) (w : World) (C' : Nat → List Bytes) (w' : World) :
    Prop where
  others : ∀ i, w.usable ≠ some i → i < w.socketCount → C' i ++ w'.writes i = C i ++ w.writes i
  socket : ∀ s, w'.state.socket = some s → w.state.socket = some s ∨ w.socketCount ≤ s
  failed : ∀ i, i < w.socketCount → (w.sockets i).good = false → (w'.sockets i).good = false
  count : w.socketCount ≤ w'.socketCount

namespace HandsOff
variable {p : Params} {C C₁ C₂ : Nat → List Bytes} {w w₁ w₂ : World}

theorem refl : HandsOff C w C w := ⟨fun _ _ _ => rfl, fun _ h => .inl h, fun _ _ => id, le_rfl⟩

/-- A socket the writer could not write on stays so. -/
theorem usable_ne (h : HandsOff C w C₁ w₁) {i : Nat} (hi : w.usable ≠ some i)
    (hn : i < w.socketCount) : w₁.usable ≠ some i := fun h₁ => by
  obtain ⟨hs, hg⟩ := usable_eq_some.1 h₁
  refine hi (usable_eq_some.2 ⟨(h.socket i hs).resolve_right (by omega), ?_⟩)
  cases hgi : (w.sockets i).good
  · rw [h.failed i hn hgi] at hg; cases hg
  · rfl

theorem trans (h₁ : HandsOff C w C₁ w₁) (h₂ : HandsOff C₁ w₁ C₂ w₂) : HandsOff C w C₂ w₂ where
  others i hi hn := by
    rw [h₂.others i (h₁.usable_ne hi hn) (by have := h₁.count; omega), h₁.others i hi hn]
  socket s hs := (h₂.socket s hs).elim (h₁.socket s) fun h => .inr (h₁.count.trans h)
  failed i hn hg := h₂.failed i (by have := h₁.count; omega) (h₁.failed i hn hg)
  count := h₁.count.trans h₂.count

/-- A step that keeps the sockets, their writes and their number, and at most
drops the writer's socket, hands nothing off. -/
theorem of_frame (hw : w₁.writes = w.writes)
    (hs : w₁.state.socket = none ∨ w₁.state.socket = w.state.socket)
    (hn : w₁.socketCount = w.socketCount) (hk : w₁.sockets = w.sockets) : HandsOff C w C w₁ where
  others _ _ _ := by rw [hw]
  socket s h := by
    rcases hs with hs | hs
    · rw [hs] at h; cases h
    · exact .inl (hs ▸ h)
  failed _ _ h := by rw [hk]; exact h
  count := hn.ge

/-- Replacing socket `i` by one that is failed if `i` was hands nothing off. -/
theorem setSocket {i : Nat} {s : Socket} (hs : (w.sockets i).good = false → s.good = false) :
    HandsOff C w C (w.setSocket i s) where
  others _ _ _ := rfl
  socket _ h := .inl h
  failed j _ hj := by
    by_cases hji : j = i
    · subst hji; simpa [World.setSocket] using hs hj
    · simpa [World.setSocket, hji] using hj
  count := le_rfl

/-- `sendPendingMessages` writes only on the writer's socket, and only while it
is good. -/
theorem sendPendingMessages : HandsOff C w C (sendPendingMessages w) where
  others i hi _ := by
    cases hq : w.state.pendingMessages with
    | nil => rw [sendPendingMessages_writes_of_empty w hq]
    | cons m rest =>
      cases hu : w.usable with
      | none => rw [sendPendingMessages_writes_of_unusable w hu]
      | some j =>
        have hij : i ≠ j := fun h => hi (h ▸ hu)
        rw [sendPendingMessages_writes_of_usable w hq hu]
        simp [issueWrite, hij]
  socket _ h := .inl (by simpa using h)
  failed _ _ h := by simpa using h
  count := by simp

theorem connect (p : Params) : HandsOff C w C (connect p w) := by
  cases hc : (w.state.connecting || w.usable.isSome)
  · cases hp : p.protocol
    · rw [connect_of_tcp hc hp]
      refine ⟨fun _ _ _ => rfl, fun s h => by cases h; exact .inr le_rfl, fun j hj h => ?_,
        Nat.le_succ _⟩
      simpa [World.openSocket, Function.update_noteq (Nat.ne_of_lt hj)] using h
    · rw [connect_of_udp hc hp]; exact of_frame rfl (.inr rfl) rfl rfl
  · rw [connect_of_busy hc]; exact of_frame rfl (.inr rfl) rfl rfl

theorem onConnectSuccess : HandsOff C w C (onConnectSuccess w) := by
  cases hq : w.state.pendingMessages with
  | nil => rw [onConnectSuccess_of_empty hq]; exact of_frame rfl (.inr rfl) rfl rfl
  | cons m rest =>
    rw [onConnectSuccess_of_pending hq]
    have h₁ : HandsOff C w C { w with state := { w.state with connecting := false } }.lock :=
      of_frame rfl (.inr rfl) rfl rfl
    exact h₁.trans (HandsOff.sendPendingMessages.trans (of_frame rfl (.inr rfl) rfl rfl))

theorem onWriteSuccess : HandsOff C w C (onWriteSuccess w) := by
  have hfront : HandsOff C w C (removeFront w).lock :=
    of_frame (by simp) (.inr (by simp)) (by simp) (by simp)
  rw [onWriteSuccess_eq]
  split
  · exact hfront.trans (HandsOff.sendPendingMessages.trans (of_frame rfl (.inr rfl) rfl rfl))
  · exact hfront.trans (of_frame rfl (.inr rfl) rfl rfl)

theorem onWriteError : HandsOff C w C (onWriteError w) := by
  cases hu : w.usable.isSome
  · rw [onWriteError_of_unusable hu]; exact of_frame rfl (.inl rfl) rfl rfl
  · rw [onWriteError_of_usable hu]
    refine HandsOff.trans ?_ (HandsOff.sendPendingMessages.trans (of_frame rfl (.inr rfl) rfl rfl))
    exact of_frame rfl (.inr rfl) rfl rfl

/-- **A step hands messages only to the writer's socket.** -/
theorem of_step {e : Event} (hs : step p w e = some w₁) :
    HandsOff C w (completedAfter w C e) w₁ := by
  cases e with
  | writeMessage buffer flags =>
    cases hs
    by_cases hd : Discards p w.state.pendingBytes buffer flags
    · rw [writeMessage_of_discards hd]; exact of_frame rfl (.inr rfl) rfl rfl
    · rw [writeMessage_of_accepts hd]; split <;> exact of_frame rfl (.inr rfl) rfl rfl
  | writeDone i =>
    obtain ⟨-, m, rest, hwi, rfl⟩ := step_writeDone hs
    have h₁ : HandsOff C w (completedAfter w C (.writeDone i))
        { w with writes := Function.update w.writes i rest } :=
      ⟨fun j _ _ => completedAfter_writeDone hwi j, fun _ h => .inl h, fun _ _ h => h, le_rfl⟩
    split
    · exact h₁.trans HandsOff.onWriteSuccess
    · exact h₁.trans HandsOff.onWriteError
  | flush | destroy => cases hs; exact of_frame rfl (.inr rfl) rfl rfl
  | runTask =>
    obtain ⟨-, t, ts, -, rfl⟩ := step_runTask hs
    have h₁ : HandsOff C w C { w with tasks := ts } := of_frame rfl (.inr rfl) rfl rfl
    cases t with
    | connect => exact h₁.trans (HandsOff.connect p)
    | sendPendingMessages => exact h₁.trans HandsOff.sendPendingMessages
    | cleanup => exact of_frame rfl (.inr rfl) rfl rfl
  | timeout =>
    obtain ⟨-, -, rfl⟩ := step_timeout hs
    have h₁ : HandsOff C w C { w with timerScheduled := false } := of_frame rfl (.inr rfl) rfl rfl
    exact h₁.trans (HandsOff.connect p)
  | connectSuccess i =>
    obtain ⟨-, -, -, rfl⟩ := step_connectSuccess hs
    refine HandsOff.trans (HandsOff.setSocket ?_) HandsOff.onConnectSuccess
    exact id
  | connectError i =>
    obtain ⟨-, -, -, rfl⟩ := step_connectError hs
    have h₁ : HandsOff C w C (w.setSocket i { (w.sockets i) with connectPending := false }) :=
      HandsOff.setSocket id
    rw [onConnectError_eq]; exact h₁.trans (of_frame rfl (.inl rfl) rfl rfl)
  | fail i =>
    obtain ⟨-, -, rfl⟩ := step_fail hs
    exact HandsOff.setSocket fun _ => rfl
  | close i =>
    obtain ⟨-, -, rfl⟩ := step_close hs
    have h₁ : HandsOff C w C (w.setSocket i { (w.sockets i) with good := false }) :=
      HandsOff.setSocket fun _ => rfl
    rw [onSocketClose_eq]; exact h₁.trans (of_frame rfl (.inl rfl) rfl rfl)
  | join =>
    obtain ⟨-, rfl⟩ := step_join hs
    exact of_frame rfl (.inl rfl) rfl rfl

end HandsOff

/-! ## Observed runs -/

/-- A run seen from outside the writer: the world, the buffers `writeMessage`
kept, and, per socket, the writes whose completion the transport delivered,
oldest first. -/
structure Observed where
  world : World
  accepted : List Bytes
  completed : Nat → List Bytes

/-- The observation at the constructor's return. -/
def Observed.init : Observed := ⟨NetworkLogWriter.init, [], fun _ => []⟩

variable (p : Params)

/-- One step, observed. -/
def observe (o : Observed) (e : Event) : Option Observed :=
  (step p o.world e).map fun w' =>
    ⟨w', acceptedAfter p o.world o.accepted e, completedAfter o.world o.completed e⟩

/-- A sequence of steps, observed. -/
def observeRun : Observed → List Event → Option Observed
  | o, [] => some o
  | o, e :: es => (observe p o e).bind fun o' => observeRun o' es

/-- The observations of the runs from `init`. -/
inductive Observes : Observed → Prop
  | base : Observes Observed.init
  | next {o o' : Observed} {e : Event} : Observes o → observe p o e = some o' → Observes o'

variable {p}

theorem observe_eq_some {o o' : Observed} {e : Event} (h : observe p o e = some o') :
    step p o.world e = some o'.world ∧ o'.accepted = acceptedAfter p o.world o.accepted e ∧
      o'.completed = completedAfter o.world o.completed e := by
  obtain ⟨w', hs, rfl⟩ := Option.map_eq_some'.1 h
  exact ⟨hs, rfl, rfl⟩

/-- The observer does not change the run it observes. -/
theorem Observes.reachable {o : Observed} (h : Observes p o) : Reachable p o.world := by
  induction h with
  | base => exact .base
  | next _ ho ih => exact ih.next trivial (observe_eq_some ho).1

theorem Observes.of_observeRun {o o' : Observed} (ho : Observes p o) :
    ∀ es : List Event, observeRun p o es = some o' → Observes p o'
  | [], h => by cases h; exact ho
  | e :: es, h => by
    obtain ⟨o₁, h₁, h₂⟩ := Option.bind_eq_some.1 h
    exact (ho.next h₁).of_observeRun es h₂

/-- The observer can follow every run. -/
theorem Observes.of_reachable {w : World} (h : Reachable p w) :
    ∃ o, Observes p o ∧ o.world = w := by
  induction h with
  | base => exact ⟨Observed.init, .base, rfl⟩
  | @next w₁ w₂ e _ _ hs ih =>
    obtain ⟨o, ho, rfl⟩ := ih
    have hobs : observe p o e = some
        ⟨w₂, acceptedAfter p o.world o.accepted e, completedAfter o.world o.completed e⟩ := by
      simp [observe, hs]
    exact ⟨_, ho.next hobs, rfl⟩

/-- Along a run, the writer hands messages only to the sockets it holds. -/
theorem HandsOff.of_observeRun :
    ∀ {o o' : Observed} (es : List Event), observeRun p o es = some o' →
      HandsOff o.completed o.world o'.completed o'.world
  | _, _, [], h => by cases h; exact .refl
  | o, _, e :: es, h => by
    obtain ⟨o₁, h₁, h₂⟩ := Option.bind_eq_some.1 h
    obtain ⟨hs, -, hc⟩ := observe_eq_some h₁
    have hstep : HandsOff o.completed o.world o₁.completed o₁.world := by
      rw [hc]; exact HandsOff.of_step hs
    exact hstep.trans (HandsOff.of_observeRun es h₂)

theorem inOrder_of_observes {o : Observed} (h : Observes p o) :
    InOrder o.accepted o.completed o.world := by
  induction h with
  | base => exact inOrder_init
  | next _ ho ih =>
    obtain ⟨hs, ha, hc⟩ := observe_eq_some ho
    rw [ha, hc]; exact inOrder_step ih hs

/-- In every reachable world the writer's socket is the newest, and no socket
beyond the newest has a write outstanding. -/
theorem newest_of_reachable {w : World} (h : Reachable p w) :
    (∀ s, w.state.socket = some s → s + 1 = w.socketCount) ∧
      ∀ j, w.socketCount ≤ j → w.writes j = [] := by
  obtain ⟨o, ho, rfl⟩ := Observes.of_reachable h
  have hi := inOrder_of_observes ho
  exact ⟨hi.newest, fun j hj => (hi.unused j hj).2⟩

/-- **Messages reach the sockets in the order they were accepted.**  In every
observed run the queue is the accepted messages less a prefix of them.  Take
what the writer has handed to its sockets, socket by socket in creation order,
each socket's completed writes and then its outstanding ones, in the order it
issued them: these are accepted messages at positions that never decrease and
never pass the queue's head.  So no socket receives a message after one accepted
later than it, a reconnected socket never goes back to a message an older
socket was handed after it, and no message is handed over while one accepted
before it is still queued. -/
theorem written_in_order {o : Observed} (ho : Observes p o) :
    (∃ removed, o.accepted = removed ++ o.world.state.pendingMessages) ∧
    ∃ idx : List Nat, idx.Sorted (· ≤ ·) ∧
      (∀ k ∈ idx, k ≤ o.accepted.length - o.world.state.pendingMessages.length) ∧
      List.Forall₂ (fun k m => o.accepted[k]? = some m) idx (handed o.completed o.world) :=
  ⟨(inOrder_of_observes ho).fifo, (inOrder_of_observes ho).walk⟩

/-- `doubleSend`, both writes completing, a third message and its send, then the
socket failing under that write and a reconnect that sends it again. -/
def doubleSendObserved : Observed :=
  (observeRun tcpDefaults Observed.init
    [.runTask, .connectSuccess 0, .writeMessage [97] 0, .writeMessage [98] 0, .runTask, .runTask,
      .writeDone 0, .writeDone 0, .writeMessage [99] 0, .runTask, .fail 0, .writeDone 0,
      .timeout, .connectSuccess 1]).get (by decide)

theorem doubleSendObserved_in_order :
    (∃ removed, doubleSendObserved.accepted =
        removed ++ doubleSendObserved.world.state.pendingMessages) ∧
    ∃ idx : List Nat, idx.Sorted (· ≤ ·) ∧
      (∀ k ∈ idx, k ≤ doubleSendObserved.accepted.length -
        doubleSendObserved.world.state.pendingMessages.length) ∧
      List.Forall₂ (fun k m => doubleSendObserved.accepted[k]? = some m) idx
        (handed doubleSendObserved.completed doubleSendObserved.world) :=
  written_in_order (Observes.base.of_observeRun _ (Option.some_get _).symm)

/-- **A socket the writer has let go of is never written again, and its late
completions never advance the queue.**  From every reachable observation, take a
socket that exists and is not the writer's.  Along every later run it never
becomes the writer's again, and the messages it has been handed, completed or
outstanding, stay exactly those.  A completion it delivers goes to
`onWriteError`, whatever the writer's own socket is doing, and leaves the queue
as it was. -/
theorem released_socket_never_written {o : Observed} (ho : Observes p o) {i : Nat}
    (hi : o.world.state.socket ≠ some i) (hn : i < o.world.socketCount) :
    (∀ es o', observeRun p o es = some o' →
      o'.world.state.socket ≠ some i ∧
        o'.completed i ++ o'.world.writes i = o.completed i ++ o.world.writes i) ∧
    ∀ w', step p o.world (.writeDone i) = some w' →
      w'.state.pendingMessages = o.world.state.pendingMessages := by
  refine ⟨fun es o' h => ?_, fun w' hs => ?_⟩
  · have hh := HandsOff.of_observeRun es h
    exact ⟨fun h' => (hh.socket i h').elim hi (by omega),
      hh.others i (fun hu => hi (usable_eq_some.1 hu).1) hn⟩
  · obtain ⟨hl, m, rest, -, rfl⟩ := step_writeDone hs
    have hg : (o.world.sockets i).good = false := by
      cases hg : (o.world.sockets i).good
      · rfl
      · exact absurd ((wired_of_reachable ho.reachable).good_current hl i hg) hi
    simp only [hg, Bool.false_eq_true, ↓reduceIte]
    exact congrArg Prod.fst (onWriteError_queue _)

theorem doubleSendObserved_first_released :
    (doubleSendObserved.world.state.socket ≠ some 0 ∧ 0 < doubleSendObserved.world.socketCount) ∧
    (∀ es o', observeRun tcpDefaults doubleSendObserved es = some o' →
      o'.world.state.socket ≠ some 0 ∧
        o'.completed 0 ++ o'.world.writes 0 =
          doubleSendObserved.completed 0 ++ doubleSendObserved.world.writes 0) ∧
    ∀ w', step tcpDefaults doubleSendObserved.world (.writeDone 0) = some w' →
      w'.state.pendingMessages = doubleSendObserved.world.state.pendingMessages :=
  ⟨⟨by decide, by decide⟩, released_socket_never_written
    (Observes.base.of_observeRun _ (Option.some_get _).symm) (by decide) (by decide)⟩

/-- **A failed socket is never handed another message.**  From any observation,
take a socket that exists and has failed, whether or not the writer still holds
it.  Along every later run it stays failed, and the messages it has been
handed, completed or outstanding, stay exactly those: every path to
`socket->write` goes through `sendPendingMessages`, which checks `good()`. -/
theorem failed_socket_never_written {o o' : Observed} {i : Nat}
    (hg : (o.world.sockets i).good = false) (hn : i < o.world.socketCount) (es : List Event)
    (h : observeRun p o es = some o') :
    (o'.world.sockets i).good = false ∧
      o'.completed i ++ o'.world.writes i = o.completed i ++ o.world.writes i := by
  have hh := HandsOff.of_observeRun es h
  refine ⟨hh.failed i hn hg, hh.others i (fun hu => ?_) hn⟩
  rw [(usable_eq_some.1 hu).2] at hg; cases hg

/-- The writer still holds socket 0, which has failed under the write of `[97]`. -/
def failedUnderWrite : Observed :=
  (observeRun tcpDefaults Observed.init
    [.runTask, .connectSuccess 0, .writeMessage [97] 0, .runTask, .fail 0]).get (by decide)

/-- A second message, a `flush` whose send runs while the writer still holds the
failed socket, the failed write's completion, and a reconnect that sends the
queue's head again on socket 1. -/
def afterFailure : List Event :=
  [.writeMessage [98] 0, .flush, .runTask, .writeDone 0, .timeout, .connectSuccess 1]

/-- The observation `afterFailure` leads to from `failedUnderWrite`. -/
def reconnectedAfterFailure : Observed :=
  (observeRun tcpDefaults failedUnderWrite afterFailure).get (by decide)

theorem failedUnderWrite_never_rewritten :
    failedUnderWrite.world.state.socket = some 0 ∧
    ((failedUnderWrite.world.sockets 0).good = false ∧ 0 < failedUnderWrite.world.socketCount ∧
      observeRun tcpDefaults failedUnderWrite afterFailure = some reconnectedAfterFailure) ∧
    (reconnectedAfterFailure.world.sockets 0).good = false ∧
      reconnectedAfterFailure.completed 0 ++ reconnectedAfterFailure.world.writes 0 =
        failedUnderWrite.completed 0 ++ failedUnderWrite.world.writes 0 :=
  have hrun : observeRun tcpDefaults failedUnderWrite afterFailure =
      some reconnectedAfterFailure := (Option.some_get _).symm
  ⟨by decide, ⟨by decide, by decide, hrun⟩,
    failed_socket_never_written (by decide) (by decide) afterFailure hrun⟩

end Folly.NetworkLogWriter
