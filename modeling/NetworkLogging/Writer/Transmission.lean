import NetworkLogging.Writer.Connection

/-! # Sending the queue

A queued message never waits for an external `flush` while the connection is
usable (`queue_never_waits`).  The reason is local to the handlers: every branch
that can leave a non-empty queue behind a usable socket either posts
`sendPendingMessages` (`writeMessage`) or calls it (`onConnectSuccess`,
`onWriteSuccess`, `onWriteError` on a good socket), and a world just produced by
`sendPendingMessages` has a write outstanding on the writer's socket whenever
the queue is not empty (`flowing_sendPendingMessages`).  Every other step either
leaves the socket, the queue and the posted sends alone, or leaves no usable
socket.

What the handlers do not guard is how many writes are outstanding: a posted
send runs whether or not a write of the head is already in flight.  Two sends in
a row put the head on the wire twice, and the second success then removes a
message whose own write has not completed (`doubleSend_removes_unwritten`).
-/
namespace Folly.NetworkLogWriter
open World

/-- A usable socket with no connect outstanding and a non-empty queue behind it
has a write outstanding, or a send is posted. -/
def Flowing (w : World) : Prop :=
  ∀ i, w.state.socket = some i → (w.sockets i).good = true → w.state.pendingMessages ≠ [] →
    (w.sockets i).connectPending = false →
    Task.sendPendingMessages ∈ w.tasks ∨ w.writes i ≠ []

variable {p : Params} {w w' : World}

/-- With no usable socket, or an empty queue, nothing is waiting. -/
theorem flowing_of_idle (h : w.usable = none ∨ w.state.pendingMessages = []) : Flowing w := by
  intro i hs hg hq _
  rcases h with h | h
  · have := usable_eq_none.mp h i hs; rw [hg] at this; cases this
  · exact absurd h hq

/-- **Right after `sendPendingMessages` nothing is waiting.** -/
theorem flowing_sendPendingMessages (w : World) : Flowing (sendPendingMessages w) := by
  intro i hs hg hq _
  simp only [sendPendingMessages_state, sendPendingMessages_sockets] at hs hg hq
  obtain ⟨m, rest, hm⟩ := List.exists_cons_of_ne_nil hq
  rw [sendPendingMessages_writes_of_usable w hm (usable_eq_some.mpr ⟨hs, hg⟩)]
  exact .inr (by simp [issueWrite])

/-- A step that keeps the writer's socket, the queue and the transport's
sockets, keeps every write and every posted send, keeps `Flowing`. -/
theorem Flowing.frame (hf : Flowing w) (hs : w'.state.socket = w.state.socket)
    (hq : w'.state.pendingMessages = w.state.pendingMessages) (hk : w'.sockets = w.sockets)
    (hwr : ∀ i, w.writes i ≠ [] → w'.writes i ≠ [])
    (ht : Task.sendPendingMessages ∈ w.tasks → Task.sendPendingMessages ∈ w'.tasks) :
    Flowing w' := by
  intro i h1 h2 h3 h4
  rw [hs] at h1; rw [hk] at h2 h4; rw [hq] at h3
  exact (hf i h1 h2 h3 h4).imp ht (hwr i)

theorem Flowing.lock (hf : Flowing w) : Flowing w.lock :=
  hf.frame rfl rfl rfl (fun _ h => h) id

theorem Flowing.unlock (hf : Flowing w) : Flowing w.unlock :=
  hf.frame rfl rfl rfl (fun _ h => h) id

theorem Flowing.post (hf : Flowing w) (t : Task) : Flowing (w.post t) :=
  hf.frame rfl rfl rfl (fun _ h => h) (List.mem_append_left _)

/-- Taking a callback other than a send off the event base's queue keeps `Flowing`. -/
theorem Flowing.pop {t : Task} {ts : List Task} (hf : Flowing w) (ht : w.tasks = t :: ts)
    (hne : t ≠ .sendPendingMessages) : Flowing { w with tasks := ts } :=
  hf.frame rfl rfl rfl (fun _ h => h) fun hm => by
    rw [ht, List.mem_cons] at hm; exact hm.resolve_left (Ne.symm hne)

/-- `connect` leaves the writer flowing: it returns at its guard, or opens a
socket whose connect is outstanding, or leaves no usable socket. -/
theorem flowing_connect (p : Params) (hf : Flowing w) : Flowing (connect p w) := by
  cases h : (w.state.connecting || w.usable.isSome)
  · cases hp : p.protocol
    · rw [connect_of_tcp h hp]
      intro i hs _ _ hc
      simp only [unlock_state, lock_state, openSocket, Option.some.injEq] at hs
      subst hs; simp [openSocket] at hc
    · rw [connect_of_udp h hp]
      simp only [Bool.or_eq_false_iff] at h
      exact (flowing_of_idle (.inl (show w.usable = none by simpa using h.2))).lock.unlock
  · rw [connect_of_busy h]; exact hf.lock.unlock

/-- **Every step keeps `Flowing`.** -/
theorem flowing_step {e : Event} (hf : Flowing w) (h : step p w e = some w') : Flowing w' := by
  cases e with
  | writeMessage buffer flags =>
    cases h
    by_cases hd : Discards p w.state.pendingBytes buffer flags
    · rw [writeMessage_of_discards hd]; exact hf.lock.unlock
    · rw [writeMessage_of_accepts hd]
      split
      · exact fun _ _ _ _ _ => .inl (by simp [post])
      · exact (flowing_of_idle (.inl (Option.not_isSome_iff_eq_none.mp ‹_›))).lock.unlock
  | flush | destroy => cases h; exact hf.post _
  | runTask =>
    obtain ⟨-, t, ts, ht, rfl⟩ := step_runTask h
    cases t with
    | connect => exact flowing_connect p (hf.pop ht (by decide))
    | sendPendingMessages => exact flowing_sendPendingMessages _
    | cleanup => exact (hf.pop ht (by decide)).frame rfl rfl rfl (fun _ h => h) id
  | timeout =>
    obtain ⟨-, -, rfl⟩ := step_timeout h
    exact flowing_connect p (hf.frame rfl rfl rfl (fun _ h => h) id)
  | connectSuccess i =>
    obtain ⟨-, -, -, rfl⟩ := step_connectSuccess h
    cases hq : (w.setSocket i _).state.pendingMessages with
    | nil => rw [onConnectSuccess_of_empty hq]; exact (flowing_of_idle (.inr hq)).lock.unlock
    | cons m rest => rw [onConnectSuccess_of_pending hq]; exact (flowing_sendPendingMessages _).unlock
  | connectError i =>
    obtain ⟨-, -, -, rfl⟩ := step_connectError h
    rw [onConnectError_eq]
    exact (flowing_of_idle (.inl (by simp [usable]))).lock.unlock
  | writeDone i =>
    obtain ⟨-, m, rest, -, rfl⟩ := step_writeDone h
    split
    · rw [onWriteSuccess_eq]
      split
      · exact (flowing_sendPendingMessages _).unlock
      · rename_i hc
        refine (flowing_of_idle ?_).lock.unlock
        rw [removeFront_usable, removeFront_pendingMessages]
        cases hq : (List.tail _)
        · exact .inr rfl
        · exact .inl (by simpa [hq] using hc)
    · cases hu : ({ w with writes := Function.update w.writes i rest }).usable.isSome
      · rw [onWriteError_of_unusable hu]
        exact (flowing_of_idle (.inl (by simp [usable]))).lock.unlock
      · rw [onWriteError_of_usable hu]; exact (flowing_sendPendingMessages _).unlock
  | fail i =>
    obtain ⟨-, -, rfl⟩ := step_fail h
    intro j hs hg hq hc
    have hji : j ≠ i := fun hji => by subst hji; simp [setSocket] at hg
    simp only [setSocket, Function.update_noteq hji] at hs hg hq hc ⊢
    exact hf j hs hg hq hc
  | close i =>
    obtain ⟨-, -, rfl⟩ := step_close h
    rw [onSocketClose_eq]
    exact (flowing_of_idle (.inl (by simp [usable]))).lock.unlock
  | join =>
    obtain ⟨-, rfl⟩ := step_join h
    exact flowing_of_idle (.inl (by simp [cleanupAfterJoin, usable]))

theorem flowing_of_reachable (hw : Reachable p w) : Flowing w :=
  hw.induct_inv (fun _ h => by cases h) fun _ _ _ hi _ hs => flowing_step hi hs

/-- **A queued message never waits for `flush`.**  In a reachable world where the
event base has nothing queued, no connect is outstanding, and the writer's
socket is good with messages behind it, a write is outstanding on that socket. -/
theorem queue_never_waits (hw : Reachable p w) (htasks : w.tasks = [])
    (hconn : ∀ j, (w.sockets j).connectPending = false) {i : Nat}
    (hs : w.state.socket = some i) (hg : (w.sockets i).good = true)
    (hq : w.state.pendingMessages ≠ []) : w.writes i ≠ [] :=
  (flowing_of_reachable hw i hs hg hq (hconn i)).resolve_left (by simp [htasks])

/-- Connect, then one message. -/
def sendAfterConnect : List Event := [.runTask, .connectSuccess 0, .writeMessage [1] 0, .runTask]

/-- The world `sendAfterConnect` reaches. -/
def sentAfterConnect : World := (run tcpDefaults init sendAfterConnect).get (by decide)

theorem sentAfterConnect_writing :
    sentAfterConnect.tasks = [] ∧ sentAfterConnect.state.socket = some 0 ∧
      (sentAfterConnect.sockets 0).good = true ∧ sentAfterConnect.state.pendingMessages ≠ [] ∧
      sentAfterConnect.writes 0 ≠ [] := by
  have hr : Reachable tcpDefaults sentAfterConnect :=
    ReachableBy.of_run_get sendAfterConnect (fun _ _ => trivial) _
  have hconn (j : Nat) : (sentAfterConnect.sockets j).connectPending = false := by
    cases hc : (sentAfterConnect.sockets j).connectPending
    · rfl
    · have := (wired_of_reachable hr).connecting_iff.mpr ⟨j, hc⟩
      exact absurd this (by decide)
  exact ⟨by decide, by decide, by decide, by decide,
    queue_never_waits hr (by decide) hconn (by decide) (by decide) (by decide)⟩

/-- Two messages written while the connection is up, then the two posted sends
run.  No in-flight guard stops the second: the head is written twice. -/
def doubleSend : List Event :=
  [.runTask, .connectSuccess 0, .writeMessage [97] 0, .writeMessage [98] 0, .runTask, .runTask]

/-- After `doubleSend` two writes of the head are outstanding.  When both
succeed, the second success removes `[98]` although its write, issued by the
first success, has not completed. -/
theorem doubleSend_removes_unwritten :
    (run tcpDefaults init doubleSend).map (fun w => w.writes 0) = some [[97], [97]] ∧
    (run tcpDefaults init (doubleSend ++ [.writeDone 0, .writeDone 0])).map
      (fun w => (w.state.pendingMessages, w.writes 0)) = some ([], [[98]]) := by
  decide

end Folly.NetworkLogWriter
