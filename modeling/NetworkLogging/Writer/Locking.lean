import NetworkLogging.Writer.Run

/-! # The lock of `connectionState_`

`folly::Synchronized` is not recursive: a thread that locks `connectionState_`
while it already holds the lock waits for itself forever.  `World.lock` records
such an acquisition in `selfDeadlock` and lets the handler run on, so `step` says
what each handler would do.  `blockingStep` is the writer as it runs: once the
event-base thread has hung, it holds the lock and runs nothing more.  No posted
callback runs, the timer does not fire, the transport delivers no completion,
and every caller that locks `connectionState_` waits as well.  Only `flush` and
the posting half of the destructor's `cleanup` need neither the thread nor the
lock, and what they post is never run.

Three handlers call `sendPendingMessages` before their `state` goes out of
scope, and `sendPendingMessages` locks again: `onConnectSuccess` with a
non-empty queue, `onWriteSuccess` with a message left behind a usable socket, and
`onWriteError` on a usable socket.  The first of them is reached by queueing one
message before the constructor's connect completes (`queueThenConnect_relocks`).
-/
namespace Folly.NetworkLogWriter
open World

/-- A step of the writer when a nested acquisition of the lock blocks its thread
for good.  A world whose event-base thread has hung takes only the steps that
need neither that thread nor the lock. -/
def blockingStep (p : Params) (w : World) (e : Event) : Option World :=
  if w.selfDeadlock then
    match e with
    | .flush | .destroy => step p w e
    | _ => none
  else step p w e

/-- The world after a sequence of blocking steps, if each was enabled. -/
def blockingRun (p : Params) : World → List Event → Option World
  | w, [] => some w
  | w, e :: es => (blockingStep p w e).bind fun w' => blockingRun p w' es

variable {p : Params} {w w' : World}

/-- Until a thread hangs, the writer steps as `step` says. -/
theorem blockingStep_of_live (h : w.selfDeadlock = false) (e : Event) :
    blockingStep p w e = step p w e := by
  simp [blockingStep, h]

theorem step_of_blockingStep {e : Event} (h : blockingStep p w e = some w') :
    step p w e = some w' := by
  unfold blockingStep at h
  split at h
  · split at h <;> first | exact h | cases h
  · exact h

/-- Every blocking run is a run of the writer, stopped where its thread hangs. -/
theorem run_of_blockingRun :
    ∀ {w w' : World} (es : List Event), blockingRun p w es = some w' → run p w es = some w'
  | _, _, [], h => h
  | _, _, _ :: es, h => by
    obtain ⟨w₁, h₁, h₂⟩ := Option.bind_eq_some.1 h
    exact Option.bind_eq_some.2 ⟨w₁, step_of_blockingStep h₁, run_of_blockingRun es h₂⟩

/-- The constructor's connect has started and one message is queued. -/
def queuedWhileConnecting : World :=
  (run tcpDefaults init [.runTask, .writeMessage [97] 0]).get (by decide)

/-- The world once that connect completes. -/
def connectedWithQueue : World :=
  (step tcpDefaults queuedWhileConnecting (.connectSuccess 0)).get (by decide)

/-- Queueing a message before the constructor's connect completes is enough:
`onConnectSuccess` then sends under its own lock, and the event-base thread
acquires the lock it holds. -/
theorem queueThenConnect_relocks :
    queuedWhileConnecting.selfDeadlock = false ∧ connectedWithQueue.selfDeadlock = true := by
  decide

end Folly.NetworkLogWriter
