import NetworkLogging.Writer.Delivery
import NetworkLogging.Writer.Draining
import NetworkLogging.Writer.Lifecycle

/-! # Reconnecting and draining over a healthy network

Over TCP, a healthy network brings the writer, from every reachable state,
either to rest, connected and with an empty queue, or to a hang of its event-base
thread on the lock it holds (`healthy_network_drains_or_hangs`).  Healthy means
that the transport completes what is outstanding, with success exactly when the
socket is still good, while no socket fails or closes and no caller writes,
flushes or destroys the writer; the event base runs its callbacks and fires its
timer.  Every such blocking run is finite, bounded by `workLeft`, and a world
whose thread has not hung and where none of these steps can be taken holds a
good socket and no queued message.  No lost wakeup, stale completion or timer
left unarmed can stop the writer short of that; only the nested lock can.

`workLeft` counts each posted callback and the armed timer three times, each
queued message once, and what each socket still owes (`load`).  On a good socket
an outstanding connect weighs two and each write one.  On a failed socket the
connect and each write weigh four, since their completions can arm the timer.
Every healthy step pays for what it starts.  Running a callback or firing the
timer opens at most one socket or issues at most one write.  A completed connect
issues at most one write, and a completed write removes a message before it
issues the next.  A completion from a failed socket arms the timer or issues one
write.  With UDP, `connect` re-arms the timer it was called from, and the writer
never rests.

At rest the event base is idle, the timer is not armed and nothing is
outstanding.  The connection invariant (`Wired`) then leaves the writer holding a
good socket, and `Flowing` leaves no queued message behind it.
-/
namespace Folly.NetworkLogWriter
open World

/-- What a socket still owes the writer: its outstanding connect and writes. -/
def load (s : Socket) (writes : List Bytes) : Nat :=
  if s.good then 2 * s.connectPending.toNat + writes.length
  else 4 * s.connectPending.toNat + 4 * writes.length

/-- What the sockets the writer has created still owe it. -/
def socketLoad (w : World) : Nat :=
  ((List.range w.socketCount).map fun j => load (w.sockets j) (w.writes j)).sum

/-- The work a healthy network has left before the writer rests. -/
def workLeft (w : World) : Nat :=
  3 * w.tasks.length + 3 * w.timerScheduled.toNat + w.state.pendingMessages.length + socketLoad w

/-- The steps of a healthy network and idle callers: the event base runs a
callback or fires its timer, or the transport completes a connect or a write. -/
def Healthy : Event → Prop
  | .runTask | .timeout | .connectSuccess _ | .connectError _ | .writeDone _ => True
  | _ => False

/-! ## What each step owes -/

/-- Changing one summand of a sum over `range n` changes the sum by as much. -/
theorem sum_range_update {f g : Nat → Nat} {n j : Nat} (hj : j < n)
    (h : ∀ k, k ≠ j → g k = f k) :
    ((List.range n).map g).sum + f j = ((List.range n).map f).sum + g j := by
  induction n with
  | zero => omega
  | succ n ih =>
    simp only [List.range_succ, List.map_append, List.sum_append, List.map_cons, List.map_nil,
      List.sum_cons, List.sum_nil]
    by_cases hjn : j = n
    · subst hjn
      rw [List.map_congr_left fun k hk => h k (Nat.ne_of_lt (List.mem_range.1 hk))]
      omega
    · rw [h n (Ne.symm hjn)]
      have := ih (by omega)
      omega

variable {p : Params} {w w' : World}

@[simp] theorem socketLoad_lock : socketLoad w.lock = socketLoad w := rfl

@[simp] theorem socketLoad_unlock : socketLoad w.unlock = socketLoad w := rfl

theorem socketLoad_congr (hn : w'.socketCount = w.socketCount) (hk : w'.sockets = w.sockets)
    (hw : w'.writes = w.writes) : socketLoad w' = socketLoad w := by
  simp only [socketLoad, hn, hk, hw]

/-- A step that changes one created socket, or its writes, changes the load by
as much. -/
theorem socketLoad_of_update {j : Nat} (hj : j < w.socketCount)
    (hn : w'.socketCount = w.socketCount) (hs : ∀ k, k ≠ j → w'.sockets k = w.sockets k)
    (hw : ∀ k, k ≠ j → w'.writes k = w.writes k) :
    socketLoad w' + load (w.sockets j) (w.writes j) =
      socketLoad w + load (w'.sockets j) (w'.writes j) := by
  unfold socketLoad
  rw [hn]
  exact @sum_range_update (fun k => load (w.sockets k) (w.writes k))
    (fun k => load (w'.sockets k) (w'.writes k)) _ _ hj fun k hk => by
      simp only [hs k hk, hw k hk]

/-- A write on a good socket adds one. -/
theorem socketLoad_issueWrite {i : Nat} {m : Bytes} (hi : i < w.socketCount)
    (hg : (w.sockets i).good = true) : socketLoad (w.issueWrite i m) = socketLoad w + 1 := by
  have := @socketLoad_of_update w (w.issueWrite i m) i hi rfl (fun _ _ => rfl)
    (fun k hk => by simp [issueWrite, hk])
  have hw : (w.issueWrite i m).writes i = w.writes i ++ [m] := by simp [issueWrite]
  rw [hw, show (w.issueWrite i m).sockets i = w.sockets i from rfl] at this
  simp only [load, hg, if_true, List.length_append, List.length_singleton] at this
  omega

/-- A new socket owes its connect. -/
theorem socketLoad_openSocket (hn : w.writes w.socketCount = []) :
    socketLoad w.openSocket = socketLoad w + 2 := by
  simp only [socketLoad, World.openSocket, List.range_succ, List.map_append, List.sum_append,
    List.map_cons, List.map_nil, List.sum_cons, List.sum_nil, Function.update_same, hn]
  rw [List.map_congr_left fun k hk => by
    rw [Function.update_noteq (Nat.ne_of_lt (List.mem_range.1 hk))]]
  simp [load]

theorem socketLoad_sendPendingMessages (hnew : ∀ s, w.state.socket = some s → s < w.socketCount) :
    socketLoad (sendPendingMessages w) ≤ socketLoad w + 1 := by
  cases hq : w.state.pendingMessages with
  | nil =>
    rw [socketLoad_congr (by simp) (by simp) (sendPendingMessages_writes_of_empty w hq)]; omega
  | cons m rest =>
    cases hu : w.usable with
    | none =>
      rw [socketLoad_congr (by simp) (by simp) (sendPendingMessages_writes_of_unusable w hu)]
      omega
    | some i =>
      obtain ⟨hs, hg⟩ := usable_eq_some.1 hu
      rw [sendPendingMessages_writes_of_usable w hq hu, socketLoad_unlock, socketLoad_lock,
        socketLoad_issueWrite (hnew i hs) hg]

@[simp] theorem socketLoad_removeFront : socketLoad (removeFront w) = socketLoad w :=
  socketLoad_congr (by simp) (by simp) (by simp)

@[simp] theorem workLeft_lock : workLeft w.lock = workLeft w := rfl

@[simp] theorem workLeft_unlock : workLeft w.unlock = workLeft w := rfl

/-- A new socket owes its connect. -/
theorem workLeft_openSocket (hn : w.writes w.socketCount = []) :
    workLeft w.openSocket = workLeft w + 2 := by
  unfold workLeft
  rw [socketLoad_openSocket hn]
  simp only [World.openSocket]
  omega

/-! ## What each handler adds -/

section Handlers
variable (hnew : ∀ s, w.state.socket = some s → s < w.socketCount)
include hnew

/-- A send issues at most one write. -/
theorem workLeft_sendPendingMessages : workLeft (sendPendingMessages w) ≤ workLeft w + 1 := by
  have := socketLoad_sendPendingMessages hnew
  simp only [workLeft, sendPendingMessages_tasks, sendPendingMessages_timerScheduled,
    sendPendingMessages_state]
  omega

theorem workLeft_onConnectSuccess : workLeft (onConnectSuccess w) ≤ workLeft w + 1 := by
  cases hq : w.state.pendingMessages with
  | nil => rw [onConnectSuccess_of_empty hq]; simp [workLeft, socketLoad]
  | cons m rest =>
    rw [onConnectSuccess_of_pending hq, workLeft_unlock]
    have hsend := @workLeft_sendPendingMessages
      { w with state := { w.state with connecting := false } }.lock hnew
    have hw : workLeft { w with state := { w.state with connecting := false } }.lock =
        workLeft w := by
      simp [workLeft, socketLoad]
    omega

/-- A completed write removes a message before it issues the next: it adds
nothing. -/
theorem workLeft_onWriteSuccess : workLeft (onWriteSuccess w) ≤ workLeft w := by
  rw [onWriteSuccess_eq]
  split
  · rename_i hsend
    obtain ⟨m, q, hq⟩ : ∃ m q, w.state.pendingMessages = m :: q := by
      cases hq : w.state.pendingMessages with
      | nil => simp [hq] at hsend
      | cons m q => exact ⟨m, q, rfl⟩
    have := @workLeft_sendPendingMessages (removeFront w).lock (by simpa using hnew)
    have hr : workLeft (removeFront w) + 1 = workLeft w := by
      simp only [workLeft, removeFront_tasks, removeFront_timerScheduled,
        removeFront_pendingMessages, socketLoad_removeFront, hq, List.tail_cons, List.length_cons]
      omega
    rw [workLeft_unlock]; rw [workLeft_lock] at this; omega
  · rw [workLeft_unlock, workLeft_lock]
    simp only [workLeft, removeFront_tasks, removeFront_timerScheduled, removeFront_pendingMessages,
      socketLoad_removeFront, List.length_tail]
    omega

theorem workLeft_onWriteError : workLeft (onWriteError w) ≤ workLeft w + 3 := by
  cases hu : w.usable.isSome
  · rw [onWriteError_of_unusable hu, workLeft_unlock, workLeft_lock]
    simp only [workLeft, socketLoad, Bool.toNat_true]
    omega
  · rw [onWriteError_of_usable hu, workLeft_unlock]
    have := @workLeft_sendPendingMessages w.lock hnew
    rw [workLeft_lock] at this; omega

end Handlers

theorem workLeft_onConnectError : workLeft (onConnectError w) ≤ workLeft w + 3 := by
  rw [onConnectError_eq, workLeft_unlock, workLeft_lock]
  simp only [workLeft, socketLoad, Bool.toNat_true]
  omega

/-- Over TCP, `connect` opens at most one socket. -/
theorem workLeft_connect (hp : p.protocol = .TCP) (hn : w.writes w.socketCount = []) :
    workLeft (connect p w) ≤ workLeft w + 2 := by
  cases hc : (w.state.connecting || w.usable.isSome)
  · rw [connect_of_tcp hc hp, workLeft_unlock, workLeft_lock,
      @workLeft_openSocket { w with state := { w.state with connecting := true } } hn]
    simp [workLeft, socketLoad]
  · rw [connect_of_busy hc, workLeft_unlock, workLeft_lock]; omega

/-! ## What each completion pays -/

/-- Steps that keep the callbacks, the timer and the queue change the work left
as they change the sockets' load. -/
theorem workLeft_congr (ht : w'.tasks = w.tasks) (hr : w'.timerScheduled = w.timerScheduled)
    (hq : w'.state.pendingMessages = w.state.pendingMessages) :
    workLeft w' + socketLoad w = workLeft w + socketLoad w' := by
  simp only [workLeft, ht, hr, hq]; omega

/-- A completed connect no longer owes it: two on a good socket, four on a
failed one. -/
theorem workLeft_connectDone {j : Nat} {s : Socket} (hj : j < w.socketCount)
    (hp : (w.sockets j).connectPending = true) (hg : s.good = (w.sockets j).good)
    (hs : s.connectPending = false) :
    workLeft (w.setSocket j s) + (if (w.sockets j).good then 2 else 4) = workLeft w := by
  have hload := @socketLoad_of_update w (w.setSocket j s) j hj rfl
    (fun k hk => Function.update_noteq hk _ _) (fun _ _ => rfl)
  have hw : workLeft (w.setSocket j s) + socketLoad w = workLeft w + socketLoad (w.setSocket j s) :=
    workLeft_congr rfl rfl rfl
  rw [show (w.setSocket j s).sockets j = s from Function.update_same _ _ _,
    show (w.setSocket j s).writes j = w.writes j from rfl] at hload
  cases hgood : (w.sockets j).good <;>
    simp only [load, hg, hs, hp, hgood, Bool.toNat_true, Bool.toNat_false, if_true,
      Bool.false_eq_true, if_false] at hload ⊢ <;> omega

/-- A completed write no longer owes it: one on a good socket, four on a failed
one. -/
theorem workLeft_writeDone {j : Nat} {m : Bytes} {rest : List Bytes} (hj : j < w.socketCount)
    (hm : w.writes j = m :: rest) :
    workLeft { w with writes := Function.update w.writes j rest } +
      (if (w.sockets j).good then 1 else 4) = workLeft w := by
  have hload := @socketLoad_of_update w { w with writes := Function.update w.writes j rest } j hj
    rfl (fun _ _ => rfl) (fun k hk => Function.update_noteq hk _ _)
  have hw : workLeft { w with writes := Function.update w.writes j rest } + socketLoad w =
      workLeft w + socketLoad { w with writes := Function.update w.writes j rest } :=
    workLeft_congr rfl rfl rfl
  simp only [Function.update_same, hm] at hload
  cases hgood : (w.sockets j).good <;>
    simp only [load, hgood, if_true, Bool.false_eq_true, if_false, List.length_cons]
      at hload ⊢ <;> omega

/-! ## Every healthy step lowers the work left -/

/-- The loop runs and no `cleanup` is posted: the writer is not being destroyed. -/
structure Running (w : World) : Prop where
  looping : w.looping = true
  no_cleanup : Task.cleanup ∉ w.tasks

theorem Running.frame (hr : Running w) (hl : w'.looping = w.looping) (ht : w'.tasks = w.tasks) :
    Running w' :=
  ⟨hl ▸ hr.looping, ht ▸ hr.no_cleanup⟩

theorem connect_keeps_loop (p : Params) (w : World) :
    (connect p w).looping = w.looping ∧ (connect p w).tasks = w.tasks := by
  cases hc : (w.state.connecting || w.usable.isSome)
  · cases hp : p.protocol
    · rw [connect_of_tcp hc hp]; exact ⟨rfl, rfl⟩
    · rw [connect_of_udp hc hp]; exact ⟨rfl, rfl⟩
  · rw [connect_of_busy hc]; exact ⟨rfl, rfl⟩

theorem onConnectError_keeps_loop (w : World) :
    (onConnectError w).looping = w.looping ∧ (onConnectError w).tasks = w.tasks := by
  rw [onConnectError_eq]; exact ⟨rfl, rfl⟩

theorem onWriteError_keeps_loop (w : World) :
    (onWriteError w).looping = w.looping ∧ (onWriteError w).tasks = w.tasks := by
  cases hu : w.usable.isSome
  · rw [onWriteError_of_unusable hu]; exact ⟨rfl, rfl⟩
  · rw [onWriteError_of_usable hu]; simp

/-- **The step lemma.**  Over TCP, from a reachable running world, every healthy
step keeps the writer running and lowers `workLeft`. -/
theorem workLeft_step (hw : Reachable p w) (hp : p.protocol = .TCP) (hr : Running w) {e : Event}
    (he : Healthy e) (h : step p w e = some w') : Running w' ∧ workLeft w' < workLeft w := by
  obtain ⟨hnew, hunused⟩ := newest_of_reachable hw
  have hlt : ∀ s, w.state.socket = some s → s < w.socketCount := fun s hs => by
    have := hnew s hs; omega
  have hl := (wired_of_reachable hw).toLinks
  cases e with
  | runTask =>
    obtain ⟨-, t, ts, ht, rfl⟩ := step_runTask h
    have hr' : Running { w with tasks := ts } :=
      ⟨hr.looping, fun hc => hr.no_cleanup (ht ▸ List.mem_cons_of_mem _ hc)⟩
    have hpop : workLeft { w with tasks := ts } + 3 = workLeft w := by
      simp only [workLeft, socketLoad, ht, List.length_cons]; omega
    cases t with
    | connect =>
      have hc := @workLeft_connect p { w with tasks := ts } hp (hunused _ le_rfl)
      have hk := connect_keeps_loop p { w with tasks := ts }
      exact ⟨hr'.frame hk.1 hk.2, by rw [runTask]; omega⟩
    | sendPendingMessages =>
      have hs := @workLeft_sendPendingMessages { w with tasks := ts } hlt
      exact ⟨hr'.frame (by simp [runTask]) (by simp [runTask]), by rw [runTask]; omega⟩
    | cleanup => exact absurd (ht ▸ List.mem_cons_self _ _) hr.no_cleanup
  | timeout =>
    obtain ⟨-, ht, rfl⟩ := step_timeout h
    have hc := @workLeft_connect p { w with timerScheduled := false } hp (hunused _ le_rfl)
    have hk := connect_keeps_loop p { w with timerScheduled := false }
    have hdisarm : workLeft { w with timerScheduled := false } + 3 = workLeft w := by
      simp only [workLeft, socketLoad, ht, Bool.toNat_true, Bool.toNat_false]; omega
    exact ⟨hr.frame hk.1 hk.2, by rw [timeoutExpired]; omega⟩
  | connectSuccess j =>
    obtain ⟨-, hpend, hg, rfl⟩ := step_connectSuccess h
    have hj : j < w.socketCount := by have := hl.connect_newest j hpend; omega
    have hdone : workLeft
        (w.setSocket j { (w.sockets j) with established := true, connectPending := false }) +
        (if (w.sockets j).good then 2 else 4) = workLeft w :=
      workLeft_connectDone hj hpend rfl rfl
    have hsend := @workLeft_onConnectSuccess
      (w.setSocket j { (w.sockets j) with established := true, connectPending := false }) hlt
    rw [hg, if_pos rfl] at hdone
    exact ⟨hr.frame (congrArg Prod.fst (onConnectSuccess_control _)) (onConnectSuccess_tasks _),
      by omega⟩
  | connectError j =>
    obtain ⟨-, hpend, hg, rfl⟩ := step_connectError h
    have hj : j < w.socketCount := by have := hl.connect_newest j hpend; omega
    have hdone : workLeft (w.setSocket j { (w.sockets j) with connectPending := false }) +
        (if (w.sockets j).good then 2 else 4) = workLeft w :=
      workLeft_connectDone hj hpend rfl rfl
    have harm :=
      @workLeft_onConnectError (w.setSocket j { (w.sockets j) with connectPending := false })
    have hk := onConnectError_keeps_loop
      (w.setSocket j { (w.sockets j) with connectPending := false })
    rw [hg, if_neg Bool.false_ne_true] at hdone
    exact ⟨hr.frame hk.1 hk.2, by omega⟩
  | writeDone j =>
    obtain ⟨-, m, rest, hm, rfl⟩ := step_writeDone h
    have hj : j < w.socketCount := by
      by_contra hj; rw [hunused j (by omega)] at hm; cases hm
    have hdone := workLeft_writeDone hj hm
    cases hg : (w.sockets j).good
    · have harm := @workLeft_onWriteError { w with writes := Function.update w.writes j rest } hlt
      have hk := onWriteError_keeps_loop { w with writes := Function.update w.writes j rest }
      simp only [hg, Bool.false_eq_true, if_false] at hdone ⊢
      exact ⟨hr.frame hk.1 hk.2, by omega⟩
    · have hsend :=
        @workLeft_onWriteSuccess { w with writes := Function.update w.writes j rest } hlt
      simp only [hg, if_true] at hdone ⊢
      exact ⟨hr.frame (congrArg Prod.fst (onWriteSuccess_control _)) (onWriteSuccess_tasks _),
        by omega⟩
  | _ => exact False.elim he

/-- **The run lemma.**  A healthy run from a reachable running world keeps it
running, and each of its steps takes one from `workLeft`. -/
theorem workLeft_run (hp : p.protocol = .TCP) :
    ∀ (es : List Event) {w w' : World}, Reachable p w → Running w → (∀ e ∈ es, Healthy e) →
      run p w es = some w' → Reachable p w' ∧ Running w' ∧ es.length + workLeft w' ≤ workLeft w
  | [], _, _, hw, hr, _, h => by cases h; exact ⟨hw, hr, by simp⟩
  | e :: es, _, _, hw, hr, he, h => by
    obtain ⟨w₁, h₁, h₂⟩ := Option.bind_eq_some.1 h
    obtain ⟨hr₁, hlt⟩ := workLeft_step hw hp hr (he e (List.mem_cons_self e es)) h₁
    obtain ⟨hw', hr', hle⟩ := workLeft_run hp es (hw.next trivial h₁) hr₁
      (fun e' h' => he e' (List.mem_cons_of_mem e h')) h₂
    exact ⟨hw', hr', by rw [List.length_cons]; omega⟩

/-! ## At rest -/

/-- A reachable world whose loop runs and where no healthy step can be taken
holds a good socket and no queued message.  Nothing is posted, the timer is not
armed and nothing is outstanding; `Wired` then leaves the writer a good socket,
and `Flowing` an empty queue. -/
theorem connected_of_rest (hw : Reachable p w) (hl : w.looping = true)
    (hq : ∀ e, Healthy e → step p w e = none) :
    ∃ i, w.state.socket = some i ∧ (w.sockets i).good = true ∧ w.state.pendingMessages = [] := by
  have hwired := wired_of_reachable hw
  have ht := tasks_eq_nil_of_quiet hl (hq .runTask trivial)
  have hwrites : ∀ j, w.writes j = [] := fun j =>
    writes_eq_nil_of_quiet hl (hq (.writeDone j) trivial)
  have htimer : w.timerScheduled = false := by
    have := hq .timeout trivial; simpa [step, hl] using this
  have hpend : ∀ j, (w.sockets j).connectPending = false := by
    intro j
    cases hp : (w.sockets j).connectPending
    · rfl
    cases hg : (w.sockets j).good
    · have := hq (.connectError j) trivial; simp [step, hl, hp, hg] at this
    · have := hq (.connectSuccess j) trivial; simp [step, hl, hp, hg] at this
  have hconn : w.state.connecting = false := by
    cases hc : w.state.connecting
    · rfl
    · obtain ⟨j, hj⟩ := hwired.connecting_iff.1 hc; rw [hpend j] at hj; cases hj
  cases hs : w.state.socket with
  | none =>
    have := hwired.idle_armed (by simp [Started, ht]) hl hs hconn
    rw [htimer] at this; cases this
  | some i =>
    have hg : (w.sockets i).good = true := by
      cases hg : (w.sockets i).good
      · rcases hwired.failed_busy i hs hg with h | h
        · rw [hpend i] at h; cases h
        · exact absurd (hwrites i) h
      · rfl
    exact ⟨i, rfl, hg, drained_of_quiet (flowing_of_reachable hw) ⟨hl, by simp [ht], hs, hg⟩
      (hq .runTask trivial) (hq (.connectSuccess i) trivial) (hq (.writeDone i) trivial)⟩

/-- **A healthy network drains the writer unless the writer hangs.**  Over
TCP, from every reachable world whose loop runs with no `cleanup` posted, every
blocking run of healthy steps is at most `workLeft w` steps long, and until the
event-base thread hangs the loop keeps running.  Wherever such a run stops, the
thread has hung on the lock it holds, or the writer holds a good socket and its
queue is empty: failed connects and failed writes are retried through the timer
until a connect succeeds. -/
theorem healthy_network_drains_or_hangs (hw : Reachable p w) (hp : p.protocol = .TCP)
    (hr : Running w) (es : List Event) (he : ∀ e ∈ es, Healthy e)
    (h : blockingRun p w es = some w') :
    es.length ≤ workLeft w ∧ (w'.selfDeadlock = false → Running w') ∧
      ((∀ e, Healthy e → blockingStep p w' e = none) →
        w'.selfDeadlock = true ∨
          ∃ i, w'.state.socket = some i ∧ (w'.sockets i).good = true ∧
            w'.state.pendingMessages = []) := by
  obtain ⟨hw', hr', hle⟩ := workLeft_run hp es hw hr he (run_of_blockingRun es h)
  refine ⟨by omega, fun _ => hr', fun hq => ?_⟩
  cases hd : w'.selfDeadlock
  · exact .inr (connected_of_rest hw' hr'.looping fun e he =>
      (blockingStep_of_live hd e).symm.trans (hq e he))
  · exact .inl rfl

/-- A writer whose first socket failed before its connect completed, with one
message queued and a send posted. -/
def lostFirstSocket : World :=
  (run tcpDefaults init [.runTask, .writeMessage [1] 0, .fail 0]).get (by decide)

/-- The send finds no usable socket, the connect fails, the timer reconnects,
and the new socket's connect completes with the message queued. -/
def recovery : List Event := [.runTask, .connectError 0, .timeout, .connectSuccess 1]

/-- The world `recovery` leads to from `lostFirstSocket`: `onConnectSuccess`
sends under its own lock, and the event-base thread hangs with the message
still queued. -/
def hungAfterRecovery : World := (blockingRun tcpDefaults lostFirstSocket recovery).get (by decide)

theorem lostFirstSocket_hangs :
    Reachable tcpDefaults lostFirstSocket ∧ tcpDefaults.protocol = .TCP ∧
    Running lostFirstSocket ∧ (∀ e ∈ recovery, Healthy e) ∧
    blockingRun tcpDefaults lostFirstSocket recovery = some hungAfterRecovery ∧
    hungAfterRecovery.selfDeadlock = true ∧ hungAfterRecovery.state.pendingMessages = [[1]] ∧
    recovery.length ≤ workLeft lostFirstSocket ∧
    (hungAfterRecovery.selfDeadlock = false → Running hungAfterRecovery) ∧
    ((∀ e, Healthy e → blockingStep tcpDefaults hungAfterRecovery e = none) →
      hungAfterRecovery.selfDeadlock = true ∨
        ∃ i, hungAfterRecovery.state.socket = some i ∧
          (hungAfterRecovery.sockets i).good = true ∧
          hungAfterRecovery.state.pendingMessages = []) := by
  have hw : Reachable tcpDefaults lostFirstSocket :=
    ReachableBy.of_run_get _ (fun _ _ => trivial) _
  have hr : Running lostFirstSocket := ⟨by decide, by decide⟩
  have he : ∀ e ∈ recovery, Healthy e := by simp [recovery, Healthy]
  have hrun : blockingRun tcpDefaults lostFirstSocket recovery = some hungAfterRecovery :=
    (Option.some_get _).symm
  exact ⟨hw, rfl, hr, he, hrun, by decide, by decide,
    healthy_network_drains_or_hangs hw rfl hr recovery he hrun⟩

end Folly.NetworkLogWriter
