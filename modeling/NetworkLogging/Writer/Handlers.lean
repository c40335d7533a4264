import NetworkLogging.Writer.World

/-! # The handlers of `NetworkLogWriter`

One definition per member function of `NetworkLogWriter.cpp`, in the order the
handlers need each other.  Each takes the lock exactly where the source does:
a handler that calls `sendPendingMessages` while it holds the lock acquires it a
second time, and the instrumentation of `World.lock` records that.  `LOG(...)`
statements are not modelled; whatever the logging pipeline does with them is
outside the writer.

After the definitions come the lemmas that say which parts of the world each
handler changes, so that the run invariants never unfold a handler.
-/
namespace Folly.NetworkLogWriter
open World

variable (p : Params)

/-- `NetworkLogWriter::scheduleReconnect`: arm the timer unless it is armed. -/
def scheduleReconnect (w : World) : World :=
  if !w.timerScheduled then { w with timerScheduled := true } else w

/-- `NetworkLogWriter::sendPendingMessages`: write the head of the queue if the
socket is usable. -/
def sendPendingMessages (w : World) : World :=
  let w := w.lock
  match w.state.pendingMessages, w.usable with
  | message :: _, some i => (w.issueWrite i message).unlock
  | _, _ => w.unlock

/-- `pendingMessages.emplace_back(buffer)` and `pendingBytes += buffer.size()`. -/
def enqueue (buffer : Bytes) (w : World) : World :=
  { w with state := { w.state with
    pendingMessages := w.state.pendingMessages ++ [buffer]
    pendingBytes := sizeAdd w.state.pendingBytes buffer.length } }

/-- The discard test of `writeMessage`, in `size_t` arithmetic. -/
def Discards (pendingBytes : Nat) (buffer : Bytes) (flags : UInt32) : Prop :=
  sizeAdd pendingBytes buffer.length > p.maxBufferSize ∧ flags &&& p.neverDiscard = 0

instance (pendingBytes : Nat) (buffer : Bytes) (flags : UInt32) :
    Decidable (Discards p pendingBytes buffer flags) :=
  inferInstanceAs (Decidable (_ ∧ _))

/-- `NetworkLogWriter::writeMessage(std::string&&, uint32_t)`.  The empty
`NEVER_DISCARD` branch at its top is left out. -/
def writeMessage (buffer : Bytes) (flags : UInt32) (w : World) : World :=
  let w := w.lock
  if Discards p w.state.pendingBytes buffer flags then w.unlock
  else
    let w := enqueue buffer w
    (if w.usable.isSome then w.post .sendPendingMessages else w).unlock

/-- `NetworkLogWriter::flush`. -/
def flush (w : World) : World := w.post .sendPendingMessages

/-- `NetworkLogWriter::connect`.  The `try` block either opens a TCP socket or,
for UDP, throws; the `catch` clears `connecting` and schedules a reconnect.  On
the TCP path `std::make_shared<AsyncSocket>` and `socket->connect` are taken
not to throw: resource exhaustion is left out. -/
def connect (w : World) : World :=
  let w := w.lock
  if w.state.connecting || w.usable.isSome then w.unlock
  else
    let w := { w with state := { w.state with connecting := true } }
    match p.protocol with
    | .TCP => w.openSocket.unlock
    | .UDP => (scheduleReconnect { w with state := { w.state with connecting := false } }).unlock

/-- `NetworkLogWriter::onConnectSuccess`. -/
def onConnectSuccess (w : World) : World :=
  let w := w.lock
  let w := { w with state := { w.state with connecting := false } }
  (if !w.state.pendingMessages.isEmpty then sendPendingMessages w else w).unlock

/-- `NetworkLogWriter::onConnectError`. -/
def onConnectError (w : World) : World :=
  let w := w.lock
  let w := { w with state := { w.state with connecting := false, socket := none } }
  (scheduleReconnect w).unlock

/-- The first block of `onWriteSuccess`: if the queue is not empty,
`state->pendingBytes -= front.size()` and `erase(begin())`. -/
def removeFront (w : World) : World :=
  match w.state.pendingMessages with
  | message :: rest => { w with state := { w.state with
      pendingBytes := sizeSub w.state.pendingBytes message.length
      pendingMessages := rest } }
  | [] => w

/-- `NetworkLogWriter::onWriteSuccess`. -/
def onWriteSuccess (w : World) : World :=
  let w := removeFront w.lock
  (if !w.state.pendingMessages.isEmpty && w.usable.isSome then sendPendingMessages w
    else w).unlock

/-- `NetworkLogWriter::onWriteError`. -/
def onWriteError (w : World) : World :=
  let w := w.lock
  (if w.usable.isSome then sendPendingMessages w
    else scheduleReconnect { w with state := { w.state with socket := none } }).unlock

/-- `NetworkLogWriter::onSocketClose`. -/
def onSocketClose (w : World) : World :=
  let w := w.lock
  let w := { w with state := { w.state with socket := none } }
  (scheduleReconnect w).unlock

/-- The first part of `NetworkLogWriter::cleanup`: post the teardown. -/
def cleanup (w : World) : World := w.post .cleanup

/-- The rest of `NetworkLogWriter::cleanup`, once `eventBaseThread_.join()` has
returned. -/
def cleanupAfterJoin (w : World) : World :=
  let w := w.lock
  { w with state := { w.state with closed := true, socket := none } }.unlock

/-- `NetworkLogWriter::ReconnectTimeout::timeoutExpired`.  `connect` catches
what its `try` block throws, so the outer `catch` is never entered. -/
def timeoutExpired (w : World) : World := connect p w

/-- A posted callback, run by the event-base thread. -/
def runTask : Task → World → World
  | .connect, w => connect p w
  | .sendPendingMessages, w => sendPendingMessages w
  | .cleanup, w => { w with timerScheduled := false, looping := false }

/-! ## What the helpers change -/

section Frames
variable (w : World)

theorem scheduleReconnect_eq : scheduleReconnect w = { w with timerScheduled := true } := by
  cases w with
  | mk _ t => cases t <;> rfl

@[simp] theorem sendPendingMessages_state : (sendPendingMessages w).state = w.state := by
  simp only [sendPendingMessages, lock_state, lock_usable]; split <;> rfl

@[simp] theorem sendPendingMessages_tasks : (sendPendingMessages w).tasks = w.tasks := by
  simp only [sendPendingMessages, lock_state, lock_usable]; split <;> rfl

@[simp] theorem sendPendingMessages_looping : (sendPendingMessages w).looping = w.looping := by
  simp only [sendPendingMessages, lock_state, lock_usable]; split <;> rfl

@[simp] theorem sendPendingMessages_sockets : (sendPendingMessages w).sockets = w.sockets := by
  simp only [sendPendingMessages, lock_state, lock_usable]; split <;> rfl

@[simp] theorem sendPendingMessages_socketCount :
    (sendPendingMessages w).socketCount = w.socketCount := by
  simp only [sendPendingMessages, lock_state, lock_usable]; split <;> rfl

@[simp] theorem sendPendingMessages_timerScheduled :
    (sendPendingMessages w).timerScheduled = w.timerScheduled := by
  simp only [sendPendingMessages, lock_state, lock_usable]; split <;> rfl

@[simp] theorem sendPendingMessages_lockDepth :
    (sendPendingMessages w).lockDepth = w.lockDepth := by
  simp only [sendPendingMessages, lock_state, lock_usable]; split <;> rfl

@[simp] theorem sendPendingMessages_selfDeadlock :
    (sendPendingMessages w).selfDeadlock = (w.selfDeadlock || decide (0 < w.lockDepth)) := by
  simp only [sendPendingMessages, lock_state, lock_usable]; split <;> rfl

@[simp] theorem sendPendingMessages_usable : (sendPendingMessages w).usable = w.usable := by
  simp [usable]

/-- `sendPendingMessages` writes the head of the queue on the usable socket. -/
theorem sendPendingMessages_writes_of_usable {message : Bytes} {rest : List Bytes} {i : Nat}
    (hq : w.state.pendingMessages = message :: rest) (hu : w.usable = some i) :
    (sendPendingMessages w) = (w.issueWrite i message).lock.unlock := by
  simp only [sendPendingMessages, lock_state, lock_usable, hq, hu]
  rfl

theorem sendPendingMessages_writes_of_empty (hq : w.state.pendingMessages = []) :
    (sendPendingMessages w).writes = w.writes := by
  simp only [sendPendingMessages, lock_state, lock_usable, hq]
  rfl

theorem sendPendingMessages_writes_of_unusable (hu : w.usable = none) :
    (sendPendingMessages w).writes = w.writes := by
  simp only [sendPendingMessages, lock_state, lock_usable, hu]
  split
  · contradiction
  · rfl

/-- A send only adds writes: what was outstanding stays outstanding. -/
theorem sendPendingMessages_writes_prefix (j : Nat) :
    w.writes j <+: (sendPendingMessages w).writes j := by
  cases hq : w.state.pendingMessages with
  | nil => rw [sendPendingMessages_writes_of_empty w hq]
  | cons message rest =>
    cases hu : w.usable with
    | none => rw [sendPendingMessages_writes_of_unusable w hu]
    | some i =>
      rw [sendPendingMessages_writes_of_usable w hq hu]
      by_cases hj : j = i
      · subst hj; simp [issueWrite]
      · simp [issueWrite, hj]

@[simp] theorem enqueue_usable (buffer : Bytes) : (enqueue buffer w).usable = w.usable := rfl

@[simp] theorem removeFront_usable : (removeFront w).usable = w.usable := by
  unfold removeFront; split <;> rfl

@[simp] theorem removeFront_writes : (removeFront w).writes = w.writes := by
  unfold removeFront; split <;> rfl

@[simp] theorem removeFront_sockets : (removeFront w).sockets = w.sockets := by
  unfold removeFront; split <;> rfl

@[simp] theorem removeFront_socketCount : (removeFront w).socketCount = w.socketCount := by
  unfold removeFront; split <;> rfl

@[simp] theorem removeFront_looping : (removeFront w).looping = w.looping := by
  unfold removeFront; split <;> rfl

@[simp] theorem removeFront_tasks : (removeFront w).tasks = w.tasks := by
  unfold removeFront; split <;> rfl

@[simp] theorem removeFront_timerScheduled :
    (removeFront w).timerScheduled = w.timerScheduled := by
  unfold removeFront; split <;> rfl

@[simp] theorem removeFront_socket : (removeFront w).state.socket = w.state.socket := by
  unfold removeFront; split <;> rfl

@[simp] theorem removeFront_connecting :
    (removeFront w).state.connecting = w.state.connecting := by
  unfold removeFront; split <;> rfl

@[simp] theorem removeFront_pendingMessages :
    (removeFront w).state.pendingMessages = w.state.pendingMessages.tail := by
  unfold removeFront; split <;> simp_all

@[simp] theorem removeFront_lockDepth : (removeFront w).lockDepth = w.lockDepth := by
  unfold removeFront; split <;> rfl

@[simp] theorem removeFront_selfDeadlock : (removeFront w).selfDeadlock = w.selfDeadlock := by
  unfold removeFront; split <;> rfl

theorem removeFront_lock : removeFront w.lock = (removeFront w).lock := by
  cases h : w.state.pendingMessages <;> simp only [removeFront, lock_state, h]
  rfl

end Frames

/-! ## The branches of the handlers

Each handler, once its tests are decided, is a plain update of the world taken
between `lock` and `unlock`; a handler that sends under the lock shows the
nested `sendPendingMessages`. -/

section Branches
variable {p} {w : World}

theorem writeMessage_of_discards {buffer : Bytes} {flags : UInt32}
    (h : Discards p w.state.pendingBytes buffer flags) :
    writeMessage p buffer flags w = w.lock.unlock := by
  simp only [writeMessage, lock_state, if_pos h]

theorem writeMessage_of_accepts {buffer : Bytes} {flags : UInt32}
    (h : ¬Discards p w.state.pendingBytes buffer flags) :
    writeMessage p buffer flags w =
      (if w.usable.isSome then (enqueue buffer w).post .sendPendingMessages
        else enqueue buffer w).lock.unlock := by
  by_cases hu : w.usable.isSome = true <;>
    simp only [writeMessage, lock_state, if_neg h, enqueue_usable, lock_usable, hu] <;> rfl

theorem connect_of_busy (h : (w.state.connecting || w.usable.isSome) = true) :
    connect p w = w.lock.unlock := by
  simp only [connect, lock_state, lock_usable, if_pos h]

theorem connect_of_tcp (h : (w.state.connecting || w.usable.isSome) = false)
    (hp : p.protocol = .TCP) :
    connect p w = { w with state := { w.state with connecting := true } }.openSocket.lock.unlock := by
  simp only [connect, lock_state, lock_usable, h, hp]
  rfl

theorem connect_of_udp (h : (w.state.connecting || w.usable.isSome) = false)
    (hp : p.protocol = .UDP) :
    connect p w = { w with timerScheduled := true }.lock.unlock := by
  simp only [Bool.or_eq_false_iff] at h
  simp only [connect, lock_state, lock_usable, h.1, h.2, hp, scheduleReconnect_eq]
  obtain ⟨⟨_, _, _, c, _⟩⟩ := w
  cases h.1
  rfl

theorem onConnectSuccess_of_empty (h : w.state.pendingMessages = []) :
    onConnectSuccess w = { w with state := { w.state with connecting := false } }.lock.unlock := by
  simp only [onConnectSuccess, lock_state, h]
  rfl

theorem onConnectSuccess_of_pending {message : Bytes} {rest : List Bytes}
    (h : w.state.pendingMessages = message :: rest) :
    onConnectSuccess w =
      (sendPendingMessages { w with state := { w.state with connecting := false } }.lock).unlock := by
  simp only [onConnectSuccess, lock_state, h]
  rfl

theorem onConnectError_eq :
    onConnectError w =
      { w with state := { w.state with connecting := false, socket := none }
               timerScheduled := true }.lock.unlock := by
  simp only [onConnectError, scheduleReconnect_eq]
  rfl

theorem onWriteSuccess_eq :
    onWriteSuccess w =
      if (!(removeFront w).state.pendingMessages.isEmpty && w.usable.isSome) = true then
        (sendPendingMessages (removeFront w).lock).unlock
      else (removeFront w).lock.unlock := by
  simp only [onWriteSuccess, removeFront_lock, lock_state, lock_usable, removeFront_usable]
  split <;> rfl

theorem onWriteError_of_usable (h : w.usable.isSome = true) :
    onWriteError w = (sendPendingMessages w.lock).unlock := by
  simp only [onWriteError, lock_usable, h]
  rfl

theorem onWriteError_of_unusable (h : w.usable.isSome = false) :
    onWriteError w =
      { w with state := { w.state with socket := none }, timerScheduled := true }.lock.unlock := by
  simp only [onWriteError, lock_usable, h, scheduleReconnect_eq]
  rfl

theorem onSocketClose_eq :
    onSocketClose w =
      { w with state := { w.state with socket := none }, timerScheduled := true }.lock.unlock := by
  simp only [onSocketClose, scheduleReconnect_eq]
  rfl

end Branches

end Folly.NetworkLogWriter
