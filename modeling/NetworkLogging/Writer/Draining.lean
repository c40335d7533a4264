import NetworkLogging.Writer.Transmission
import NetworkLogging.Writer.Locking

/-! # Draining the queue over a healthy connection

While the writer holds a good socket, the event base's callbacks and the
socket's successful completions either empty the queue or hang the event-base
thread on the lock it holds; no further `writeMessage`, `flush` or timer is
needed, and nothing else can stop the writer
(`healthy_connection_drains_or_hangs`).

The argument is a measure, `backlog`.  A posted callback may issue a write, a
completed connect may issue one, and a completed write removes the head of the
queue and may issue the next.  So when callbacks and an outstanding connect
count twice and messages and writes once, every such step lowers the backlog,
and every run made of them is at most `backlog` steps long.  A world where none
of them can be taken has no callback posted, no connect and no write
outstanding.  There `Flowing`, the invariant of `queue_never_waits`, leaves no
room for a queued message.  The runs are blocking runs: a completed write that
leaves a message behind the socket sends it under the lock it holds, and the
thread hangs there (`Locking`).
-/
namespace Folly.NetworkLogWriter
open World

/-- The writer holds socket `i`, which is good; its loop runs and no `cleanup`
is posted. -/
structure Connected (i : Nat) (w : World) : Prop where
  looping : w.looping = true
  no_cleanup : Task.cleanup ∉ w.tasks
  socket : w.state.socket = some i
  good : (w.sockets i).good = true

/-- What is left for the event base and socket `i` to do.  Each posted callback
and an outstanding connect count twice, since each may issue a write; each
queued message and each outstanding write count once. -/
def backlog (i : Nat) (w : World) : Nat :=
  2 * w.tasks.length + 2 * (w.sockets i).connectPending.toNat + w.state.pendingMessages.length +
    (w.writes i).length

variable {p : Params} {i : Nat} {w w' : World}

@[simp] theorem backlog_lock : backlog i w.lock = backlog i w := rfl

@[simp] theorem backlog_unlock : backlog i w.unlock = backlog i w := rfl

theorem Connected.usable (hc : Connected i w) : w.usable = some i :=
  usable_eq_some.2 ⟨hc.socket, hc.good⟩

/-- A step that keeps the loop, the callbacks, the writer's socket and whether
it is good keeps the connection. -/
theorem Connected.frame (hc : Connected i w) (hl : w'.looping = w.looping)
    (ht : w'.tasks = w.tasks) (hs : w'.state.socket = w.state.socket)
    (hg : (w'.sockets i).good = (w.sockets i).good) : Connected i w' :=
  ⟨hl ▸ hc.looping, ht ▸ hc.no_cleanup, hs ▸ hc.socket, hg ▸ hc.good⟩

theorem Connected.onConnectSuccess (hc : Connected i w) : Connected i (onConnectSuccess w) := by
  cases hq : w.state.pendingMessages with
  | nil => rw [onConnectSuccess_of_empty hq]; exact hc.frame rfl rfl rfl rfl
  | cons m rest =>
    rw [onConnectSuccess_of_pending hq]; exact hc.frame (by simp) (by simp) (by simp) (by simp)

theorem Connected.onWriteSuccess (hc : Connected i w) : Connected i (onWriteSuccess w) := by
  rw [onWriteSuccess_eq]; split <;> exact hc.frame (by simp) (by simp) (by simp) (by simp)

/-- A send issues at most one write. -/
theorem sendPendingMessages_writes_length (j : Nat) :
    ((sendPendingMessages w).writes j).length ≤ (w.writes j).length + 1 := by
  cases hq : w.state.pendingMessages with
  | nil => rw [sendPendingMessages_writes_of_empty w hq]; omega
  | cons m rest =>
    cases hu : w.usable with
    | none => rw [sendPendingMessages_writes_of_unusable w hu]; omega
    | some k =>
      rw [sendPendingMessages_writes_of_usable w hq hu]
      by_cases hj : j = k
      · subst hj; simp [issueWrite]
      · simp [issueWrite, hj]

theorem backlog_sendPendingMessages : backlog i (sendPendingMessages w) ≤ backlog i w + 1 := by
  have := @sendPendingMessages_writes_length w i
  simp only [backlog, sendPendingMessages_tasks, sendPendingMessages_sockets,
    sendPendingMessages_state]
  omega

/-- `onConnectSuccess` issues at most one write. -/
theorem backlog_onConnectSuccess : backlog i (onConnectSuccess w) ≤ backlog i w + 1 := by
  cases hq : w.state.pendingMessages with
  | nil => rw [onConnectSuccess_of_empty hq]; exact Nat.le_succ _
  | cons m rest =>
    rw [onConnectSuccess_of_pending hq, backlog_unlock]
    refine backlog_sendPendingMessages.trans (Nat.add_le_add_right (le_of_eq ?_) 1)
    simp [backlog]

/-- A completed write on a good socket removes the head, and issues the next
write only if a message is left behind it: one less message or one less write. -/
theorem backlog_onWriteSuccess {message : Bytes} {rest : List Bytes}
    (hw : w.writes i = message :: rest) :
    backlog i (onWriteSuccess { w with writes := Function.update w.writes i rest }) <
      backlog i w := by
  rw [onWriteSuccess_eq]
  split
  · rename_i hsend
    obtain ⟨m, q, hq⟩ : ∃ m q, w.state.pendingMessages = m :: q := by
      cases hq : w.state.pendingMessages with
      | nil => simp [hq] at hsend
      | cons m q => exact ⟨m, q, rfl⟩
    have := @backlog_sendPendingMessages i
      (removeFront { w with writes := Function.update w.writes i rest }).lock
    simp only [backlog, unlock_tasks, unlock_sockets, unlock_state, unlock_writes,
      sendPendingMessages_tasks, sendPendingMessages_sockets, sendPendingMessages_state,
      lock_tasks, lock_sockets, lock_state, lock_writes, removeFront_tasks, removeFront_sockets,
      removeFront_pendingMessages, removeFront_writes, hq, List.tail_cons, List.length_cons,
      Function.update_same] at this ⊢
    rw [hw, List.length_cons]
    omega
  · simp only [backlog, unlock_tasks, unlock_sockets, unlock_state, unlock_writes, lock_tasks,
      lock_sockets, lock_state, lock_writes, removeFront_tasks, removeFront_sockets,
      removeFront_pendingMessages, removeFront_writes, Function.update_same, List.length_tail, hw,
      List.length_cons]
    omega

/-- **Every healthy step keeps the connection and lowers the backlog.** -/
theorem backlog_step (hc : Connected i w) {e : Event}
    (he : e = .runTask ∨ e = .connectSuccess i ∨ e = .writeDone i) (hs : step p w e = some w') :
    Connected i w' ∧ backlog i w' < backlog i w := by
  rcases he with rfl | rfl | rfl
  · obtain ⟨-, t, ts, ht, rfl⟩ := step_runTask hs
    have hc₁ : Connected i { w with tasks := ts } :=
      ⟨hc.looping, fun h => hc.no_cleanup (ht ▸ List.mem_cons_of_mem _ h), hc.socket, hc.good⟩
    have hb₁ : backlog i { w with tasks := ts } + 2 = backlog i w := by
      simp only [backlog, ht, List.length_cons]; omega
    cases t with
    | connect =>
      rw [runTask, connect_of_busy (by simp [hc₁.usable]), backlog_unlock, backlog_lock]
      exact ⟨hc₁.frame rfl rfl rfl rfl, by omega⟩
    | sendPendingMessages =>
      rw [runTask]
      have := @backlog_sendPendingMessages i { w with tasks := ts }
      exact ⟨hc₁.frame (by simp) (by simp) (by simp) (by simp), by omega⟩
    | cleanup => exact absurd (ht ▸ List.mem_cons_self _ _) hc.no_cleanup
  · obtain ⟨-, hp, -, rfl⟩ := step_connectSuccess hs
    have hc₁ : Connected i
        (w.setSocket i { (w.sockets i) with established := true, connectPending := false }) :=
      hc.frame rfl rfl rfl (by simp [setSocket])
    have hb₁ : backlog i
        (w.setSocket i { (w.sockets i) with established := true, connectPending := false }) + 2 =
          backlog i w := by
      simp only [backlog, setSocket, Function.update_same, hp, Bool.toNat_true, Bool.toNat_false]
      omega
    have := @backlog_onConnectSuccess i
      (w.setSocket i { (w.sockets i) with established := true, connectPending := false })
    exact ⟨hc₁.onConnectSuccess, by omega⟩
  · obtain ⟨-, m, rest, hwi, rfl⟩ := step_writeDone hs
    rw [if_pos hc.good]
    exact ⟨Connected.onWriteSuccess (hc.frame rfl rfl rfl rfl), backlog_onWriteSuccess hwi⟩

/-- Along a healthy run the connection stays, the world stays reachable, and each
step costs the backlog at least one. -/
theorem backlog_run :
    ∀ (es : List Event) {w w' : World}, Reachable p w → Connected i w →
      (∀ e ∈ es, e = .runTask ∨ e = .connectSuccess i ∨ e = .writeDone i) →
      run p w es = some w' →
        Reachable p w' ∧ Connected i w' ∧ es.length + backlog i w' ≤ backlog i w
  | [], _, _, hr, hc, _, h => by cases h; exact ⟨hr, hc, by simp⟩
  | e :: es, _, _, hr, hc, he, h => by
    obtain ⟨w₁, h₁, h₂⟩ := Option.bind_eq_some.1 h
    obtain ⟨hc₁, hlt⟩ := backlog_step hc (he e (List.mem_cons_self e es)) h₁
    obtain ⟨hr', hc', hle⟩ := backlog_run es (hr.next trivial h₁) hc₁
      (fun e' h' => he e' (List.mem_cons_of_mem e h')) h₂
    exact ⟨hr', hc', by rw [List.length_cons]; omega⟩

/-- While the loop runs, the event base has a callback to run unless none is
posted. -/
theorem tasks_eq_nil_of_quiet (hl : w.looping = true) (h : step p w .runTask = none) :
    w.tasks = [] := by
  cases ht : w.tasks with
  | nil => rfl
  | cons t ts => simp [step, hl, ht] at h

/-- While the loop runs, socket `i` has a write to complete unless none is
outstanding. -/
theorem writes_eq_nil_of_quiet (hl : w.looping = true) (h : step p w (.writeDone i) = none) :
    w.writes i = [] := by
  cases hw : w.writes i with
  | nil => rfl
  | cons m rest => simp [step, hl, hw] at h

/-- A connected writer with no healthy step left has an empty queue: nothing is
posted, nothing is outstanding on its socket, and `Flowing` then rules out a
queued message. -/
theorem drained_of_quiet (hf : Flowing w) (hc : Connected i w) (hr : step p w .runTask = none)
    (hcs : step p w (.connectSuccess i) = none) (hd : step p w (.writeDone i) = none) :
    w.state.pendingMessages = [] := by
  have ht := tasks_eq_nil_of_quiet hc.looping hr
  have hwi := writes_eq_nil_of_quiet hc.looping hd
  have hp : (w.sockets i).connectPending = false := by
    cases h : (w.sockets i).connectPending
    · rfl
    · simp [step, hc.looping, hc.good, h] at hcs
  by_contra hq
  rcases hf i hc.socket hc.good hq hp with h | h
  · rw [ht] at h; cases h
  · exact h hwi

/-- **A healthy connection drains the queue unless the writer hangs.**  From
every reachable world in which the writer holds a good socket `i`, its loop runs
and no `cleanup` is posted, take any blocking run of the event base's callbacks
and of successful completions on `i` (of its connect and of its writes), with no
call from outside.  The run is at most `backlog i w` steps long, and until the
event-base thread hangs the writer still holds `i`.  Wherever no such step can
follow, the thread has hung on the lock it holds or the queue is empty. -/
theorem healthy_connection_drains_or_hangs (hw : Reachable p w) (hc : Connected i w)
    (es : List Event) (he : ∀ e ∈ es, e = .runTask ∨ e = .connectSuccess i ∨ e = .writeDone i)
    (hr : blockingRun p w es = some w') :
    es.length ≤ backlog i w ∧ (w'.selfDeadlock = false → Connected i w') ∧
      (blockingStep p w' .runTask = none → blockingStep p w' (.connectSuccess i) = none →
        blockingStep p w' (.writeDone i) = none →
          w'.selfDeadlock = true ∨ w'.state.pendingMessages = []) := by
  obtain ⟨hr', hc', hle⟩ := backlog_run es hw hc he (run_of_blockingRun es hr)
  refine ⟨by omega, fun _ => hc', fun h₁ h₂ h₃ => ?_⟩
  cases hd : w'.selfDeadlock
  · simp only [blockingStep_of_live hd] at h₁ h₂ h₃
    exact .inr (drained_of_quiet (flowing_of_reachable hr') hc' h₁ h₂ h₃)
  · exact .inl rfl

/-- One successful completion on socket 0 of `sentAfterConnect`, whose write of
the only queued message is outstanding. -/
def oneAck : List Event := [.writeDone 0]

/-- The world `oneAck` leads to: the queue is empty and the thread has not hung. -/
def ackedOnce : World := (blockingRun tcpDefaults sentAfterConnect oneAck).get (by decide)

theorem sentAfterConnect_drains :
    Reachable tcpDefaults sentAfterConnect ∧ Connected 0 sentAfterConnect ∧
    (∀ e ∈ oneAck, e = .runTask ∨ e = .connectSuccess 0 ∨ e = .writeDone 0) ∧
    blockingRun tcpDefaults sentAfterConnect oneAck = some ackedOnce ∧
    oneAck.length ≤ backlog 0 sentAfterConnect ∧
    (ackedOnce.selfDeadlock = false → Connected 0 ackedOnce) ∧
    (blockingStep tcpDefaults ackedOnce .runTask = none →
      blockingStep tcpDefaults ackedOnce (.connectSuccess 0) = none →
      blockingStep tcpDefaults ackedOnce (.writeDone 0) = none →
        ackedOnce.selfDeadlock = true ∨ ackedOnce.state.pendingMessages = []) := by
  have hr : Reachable tcpDefaults sentAfterConnect :=
    ReachableBy.of_run_get sendAfterConnect (fun _ _ => trivial) _
  have hc : Connected 0 sentAfterConnect := ⟨by decide, by decide, by decide, by decide⟩
  have he : ∀ e ∈ oneAck, e = .runTask ∨ e = .connectSuccess 0 ∨ e = .writeDone 0 := by
    simp [oneAck]
  have hrun : blockingRun tcpDefaults sentAfterConnect oneAck = some ackedOnce :=
    (Option.some_get _).symm
  exact ⟨hr, hc, he, hrun, healthy_connection_drains_or_hangs hr hc oneAck he hrun⟩

end Folly.NetworkLogWriter
