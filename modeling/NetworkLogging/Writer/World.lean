import NetworkLogging.Bytes
import Mathlib.Logic.Function.Basic

/-! # The network log writer and what it talks to

`NetworkLogWriter` keeps its mutable state in `connectionState_`, a
`folly::Synchronized<ConnectionState>` shared by the caller threads and the
event-base thread.  Everything else the handlers touch is modelled beside it in
one flat record, `World`: the reconnect timer, the event base's queue of posted
callbacks, the transport's sockets, and the lock itself.

The transport is `AsyncSocket` as the handlers see it.  Sockets are numbered in
creation order; `state.socket` holds the number of the one the writer's
`std::shared_ptr` points to.  A socket is `good` from the start of its connect
attempt until it fails or is closed, it is `established` once its connect
succeeded, and it remembers whether its connect is still outstanding and which
writes it has not completed yet, oldest first.

The lock is instrumented rather than abstracted away: `lockDepth` counts the
scopes of the running thread that hold `connectionState_`'s lock, and
`selfDeadlock` records an acquisition made while the thread already held it.
`folly::Synchronized` is not recursive, so in the source such an acquisition
never returns.  In the model it does not block: `lock` sets `selfDeadlock`,
which stays set, and the handler runs on.  `blockingStep` (in `Writer.Locking`)
is the reading in which the thread stops there.
-/
namespace Folly.NetworkLogWriter

/-- `NetworkLogWriter::Protocol`. -/
inductive Protocol
  | TCP
  | UDP
  deriving DecidableEq, Repr

/-- The constructor's arguments the handlers read, and the flag bit of
`LogWriter::NEVER_DISCARD`, which `LogWriter.h` declares outside the source. -/
structure Params where
  protocol : Protocol
  maxBufferSize : Nat
  maxBufferSize_lt : maxBufferSize < 2 ^ 64
  neverDiscard : UInt32

/-- `NetworkLogWriter::ConnectionState`. -/
structure ConnectionState where
  socket : Option Nat
  pendingMessages : List Bytes
  pendingBytes : Nat
  connecting : Bool
  closed : Bool

/-- One `AsyncSocket`, as the transport reports it. -/
structure Socket where
  good : Bool
  established : Bool
  connectPending : Bool

/-- A socket the writer never created: not good, nothing outstanding. -/
def Socket.none : Socket := ⟨false, false, false⟩

/-- The callbacks handed to `eventBase_.runInEventBaseThread`: the constructor's
connect, the send posted by `writeMessage` and `flush`, and `cleanup`'s
teardown. -/
inductive Task
  | connect
  | sendPendingMessages
  | cleanup
  deriving DecidableEq, Repr

/-- The writer, its event base and its transport. -/
structure World where
  state : ConnectionState
  timerScheduled : Bool
  tasks : List Task
  looping : Bool
  sockets : Nat → Socket
  socketCount : Nat
  writes : Nat → List Bytes
  lockDepth : Nat
  selfDeadlock : Bool

/-- `size_t` addition. -/
def sizeAdd (a b : Nat) : Nat := (a + b) % 2 ^ 64

/-- `size_t` subtraction, which wraps below zero. -/
def sizeSub (a b : Nat) : Nat := (a + (2 ^ 64 - b % 2 ^ 64)) % 2 ^ 64

/-- The number of bytes in a list of messages. -/
def byteSum (ms : List Bytes) : Nat := (ms.map List.length).sum

@[simp] theorem byteSum_nil : byteSum [] = 0 := rfl

@[simp] theorem byteSum_cons (m : Bytes) (ms : List Bytes) :
    byteSum (m :: ms) = m.length + byteSum ms := by simp [byteSum]

@[simp] theorem byteSum_append (ms ns : List Bytes) :
    byteSum (ms ++ ns) = byteSum ms + byteSum ns := by simp [byteSum]

namespace World

/-- `connectionState_.lock()`.  A nested acquisition does not block here; it is
recorded in `selfDeadlock`. -/
def lock (w : World) : World :=
  { w with lockDepth := w.lockDepth + 1, selfDeadlock := w.selfDeadlock || decide (0 < w.lockDepth) }

/-- The end of the scope of a `connectionState_.lock()`. -/
def unlock (w : World) : World := { w with lockDepth := w.lockDepth - 1 }

/-- `state->socket && state->socket->good()`, with the socket it names. -/
def usable (w : World) : Option Nat := w.state.socket.filter fun i => (w.sockets i).good

/-- `eventBase_.runInEventBaseThread(task)`. -/
def post (t : Task) (w : World) : World := { w with tasks := w.tasks ++ [t] }

/-- The transport's record of socket `i` becomes `s`. -/
def setSocket (i : Nat) (s : Socket) (w : World) : World :=
  { w with sockets := Function.update w.sockets i s }

/-- `socket->write(this, message.data(), message.size())` on socket `i`. -/
def issueWrite (i : Nat) (message : Bytes) (w : World) : World :=
  { w with writes := Function.update w.writes i (w.writes i ++ [message]) }

/-- `std::make_shared<AsyncSocket>(&eventBase_)`, `socket->connect(...)` and
`state->socket = socket`: a fresh socket, good and connecting, becomes the
writer's. -/
def openSocket (w : World) : World :=
  { w with
    sockets := Function.update w.sockets w.socketCount ⟨true, false, true⟩
    socketCount := w.socketCount + 1
    state := { w.state with socket := some w.socketCount } }

@[simp] theorem lock_state (w : World) : w.lock.state = w.state := rfl
@[simp] theorem lock_timerScheduled (w : World) : w.lock.timerScheduled = w.timerScheduled := rfl
@[simp] theorem lock_tasks (w : World) : w.lock.tasks = w.tasks := rfl
@[simp] theorem lock_looping (w : World) : w.lock.looping = w.looping := rfl
@[simp] theorem lock_sockets (w : World) : w.lock.sockets = w.sockets := rfl
@[simp] theorem lock_socketCount (w : World) : w.lock.socketCount = w.socketCount := rfl
@[simp] theorem lock_writes (w : World) : w.lock.writes = w.writes := rfl
@[simp] theorem lock_usable (w : World) : w.lock.usable = w.usable := rfl
@[simp] theorem lock_lockDepth (w : World) : w.lock.lockDepth = w.lockDepth + 1 := rfl
@[simp] theorem lock_selfDeadlock (w : World) :
    w.lock.selfDeadlock = (w.selfDeadlock || decide (0 < w.lockDepth)) := rfl

@[simp] theorem unlock_state (w : World) : w.unlock.state = w.state := rfl
@[simp] theorem unlock_timerScheduled (w : World) :
    w.unlock.timerScheduled = w.timerScheduled := rfl
@[simp] theorem unlock_tasks (w : World) : w.unlock.tasks = w.tasks := rfl
@[simp] theorem unlock_looping (w : World) : w.unlock.looping = w.looping := rfl
@[simp] theorem unlock_sockets (w : World) : w.unlock.sockets = w.sockets := rfl
@[simp] theorem unlock_socketCount (w : World) : w.unlock.socketCount = w.socketCount := rfl
@[simp] theorem unlock_writes (w : World) : w.unlock.writes = w.writes := rfl
@[simp] theorem unlock_usable (w : World) : w.unlock.usable = w.usable := rfl
@[simp] theorem unlock_lockDepth (w : World) : w.unlock.lockDepth = w.lockDepth - 1 := rfl
@[simp] theorem unlock_selfDeadlock (w : World) : w.unlock.selfDeadlock = w.selfDeadlock := rfl

theorem usable_eq_some {w : World} {i : Nat} :
    w.usable = some i ↔ w.state.socket = some i ∧ (w.sockets i).good = true := by
  cases h : w.state.socket <;> simp [usable, h, Option.filter]
  exact ⟨fun ⟨h1, h2⟩ => ⟨h2, h2 ▸ h1⟩, fun ⟨h1, h2⟩ => ⟨h1 ▸ h2, h1⟩⟩

theorem usable_eq_none {w : World} :
    w.usable = none ↔ ∀ i, w.state.socket = some i → (w.sockets i).good = false := by
  cases h : w.state.socket <;> simp [usable, h, Option.filter]

end World

/-- The writer right after its constructor: nothing queued, no socket, and the
constructor's connect posted to the event base. -/
def init : World where
  state := ⟨none, [], 0, false, false⟩
  timerScheduled := false
  tasks := [.connect]
  looping := true
  sockets := fun _ => Socket.none
  socketCount := 0
  writes := fun _ => []
  lockDepth := 0
  selfDeadlock := false

end Folly.NetworkLogWriter
