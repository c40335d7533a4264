import NetworkLogging.Writer.Handlers

/-! # Runs of the writer

A run interleaves three kinds of steps.  Caller threads call `writeMessage` and
`flush`, and the destructor starts `cleanup`.  The event-base thread runs one
posted callback at a time, fires the reconnect timer, and delivers the
transport's completions to the handlers.  The transport itself fails sockets
that have an operation outstanding.  Each step is atomic: the lock is released
between steps, and a handler runs with every call it makes.  A nested
acquisition of the lock is recorded and the handler runs on; `blockingStep`
(in `Locking`) stops the thread there instead.

The transport is `AsyncSocket` under these assumptions.  A socket fails only
while a connect or write is outstanding on it, and an unsolicited close arrives
only for an established, good socket.  Every issued connect and write completes
once, with success exactly when its socket is still good, and the writes of one
socket complete in the order they were issued.  A completion is delivered by the
event loop as a step of its own, never from inside the call that issued it
(`socket->connect`, `socket->write`) or from `socket.reset()`.  What `LOG(...)`
prints is not routed back to this writer.  Once the loop has been terminated the
event-base thread runs nothing more, and `cleanup` can return from its join.

The callers' steps are not restricted to the object's lifetime: a run may
`destroy` more than once and may write or flush after the `join`, which a
destructor that runs once forbids in the source.  The results hold for these
runs as well.
-/
namespace Folly.NetworkLogWriter
open World

/-- One step of a run. -/
inductive Event
  | writeMessage (buffer : Bytes) (flags : UInt32)
  | flush
  | runTask
  | timeout
  | connectSuccess (i : Nat)
  | connectError (i : Nat)
  | writeDone (i : Nat)
  | fail (i : Nat)
  | close (i : Nat)
  | destroy
  | join

variable (p : Params)

/-- The world after one step, or `none` when the step is not enabled. -/
def step (w : World) : Event → Option World
  | .writeMessage buffer flags => some (writeMessage p buffer flags w)
  | .flush => some (flush w)
  | .runTask =>
    match w.looping, w.tasks with
    | true, t :: ts => some (runTask p t { w with tasks := ts })
    | _, _ => none
  | .timeout =>
    if w.looping && w.timerScheduled then some (timeoutExpired p { w with timerScheduled := false })
    else none
  | .connectSuccess i =>
    let s := w.sockets i
    if w.looping && s.connectPending && s.good then
      some (onConnectSuccess (w.setSocket i { s with established := true, connectPending := false }))
    else none
  | .connectError i =>
    let s := w.sockets i
    if w.looping && s.connectPending && !s.good then
      some (onConnectError (w.setSocket i { s with connectPending := false }))
    else none
  | .writeDone i =>
    match w.looping, w.writes i with
    | true, _ :: rest =>
      let w' := { w with writes := Function.update w.writes i rest }
      some (if (w.sockets i).good then onWriteSuccess w' else onWriteError w')
    | _, _ => none
  | .fail i =>
    let s := w.sockets i
    if s.good && (s.connectPending || !(w.writes i).isEmpty) then
      some (w.setSocket i { s with good := false })
    else none
  | .close i =>
    let s := w.sockets i
    if w.looping && s.good && s.established then
      some (onSocketClose (w.setSocket i { s with good := false }))
    else none
  | .destroy => some (cleanup w)
  | .join => if !w.looping then some (cleanupAfterJoin w) else none

/-- The world after a sequence of steps, if each was enabled. -/
def run : World → List Event → Option World
  | w, [] => some w
  | w, e :: es => (step p w e).bind fun w' => run w' es

/-- The worlds a run from `init` reaches, taking only steps that satisfy `ok`. -/
inductive ReachableBy (ok : Event → Prop) : World → Prop
  | base : ReachableBy ok init
  | next {w w' : World} {e : Event} :
      ReachableBy ok w → ok e → step p w e = some w' → ReachableBy ok w'

/-- The worlds some run from `init` reaches. -/
def Reachable (w : World) : Prop := ReachableBy p (fun _ => True) w

variable {p}

/-! ## What each step requires and does -/

section Inversion
variable {w w' : World}

theorem step_runTask (h : step p w .runTask = some w') :
    w.looping = true ∧ ∃ t ts, w.tasks = t :: ts ∧ w' = runTask p t { w with tasks := ts } := by
  simp only [step] at h
  split at h
  · cases h; exact ⟨‹_›, _, _, ‹_›, rfl⟩
  · cases h

theorem step_timeout (h : step p w .timeout = some w') :
    w.looping = true ∧ w.timerScheduled = true ∧
      w' = timeoutExpired p { w with timerScheduled := false } := by
  simp only [step, Bool.and_eq_true] at h
  split at h
  · cases h; exact ⟨‹_ ∧ _›.1, ‹_ ∧ _›.2, rfl⟩
  · cases h

theorem step_connectSuccess {i : Nat} (h : step p w (.connectSuccess i) = some w') :
    w.looping = true ∧ (w.sockets i).connectPending = true ∧ (w.sockets i).good = true ∧
      w' = onConnectSuccess
        (w.setSocket i { (w.sockets i) with established := true, connectPending := false }) := by
  simp only [step, Bool.and_eq_true] at h
  split at h
  · rename_i hc; cases h; exact ⟨hc.1.1, hc.1.2, hc.2, rfl⟩
  · cases h

theorem step_connectError {i : Nat} (h : step p w (.connectError i) = some w') :
    w.looping = true ∧ (w.sockets i).connectPending = true ∧ (w.sockets i).good = false ∧
      w' = onConnectError (w.setSocket i { (w.sockets i) with connectPending := false }) := by
  simp only [step, Bool.and_eq_true, Bool.not_eq_true'] at h
  split at h
  · rename_i hc; cases h; exact ⟨hc.1.1, hc.1.2, hc.2, rfl⟩
  · cases h

theorem step_writeDone {i : Nat} (h : step p w (.writeDone i) = some w') :
    w.looping = true ∧ ∃ message rest, w.writes i = message :: rest ∧
      w' = if (w.sockets i).good then
        onWriteSuccess { w with writes := Function.update w.writes i rest }
      else onWriteError { w with writes := Function.update w.writes i rest } := by
  simp only [step] at h
  split at h
  · cases h; exact ⟨‹_›, _, _, ‹_›, rfl⟩
  · cases h

theorem step_fail {i : Nat} (h : step p w (.fail i) = some w') :
    (w.sockets i).good = true ∧ ((w.sockets i).connectPending = true ∨ w.writes i ≠ []) ∧
      w' = w.setSocket i { (w.sockets i) with good := false } := by
  simp only [step, Bool.and_eq_true, Bool.or_eq_true, Bool.not_eq_true', List.isEmpty_eq_false] at h
  split at h
  · rename_i hc; cases h; exact ⟨hc.1, hc.2, rfl⟩
  · cases h

theorem step_close {i : Nat} (h : step p w (.close i) = some w') :
    w.looping = true ∧ (w.sockets i).good = true ∧
      w' = onSocketClose (w.setSocket i { (w.sockets i) with good := false }) := by
  simp only [step, Bool.and_eq_true] at h
  split at h
  · rename_i hc; cases h; exact ⟨hc.1.1, hc.1.2, rfl⟩
  · cases h

theorem step_join (h : step p w .join = some w') :
    w.looping = false ∧ w' = cleanupAfterJoin w := by
  simp only [step, Bool.not_eq_true'] at h
  split at h
  · cases h; exact ⟨‹_›, rfl⟩
  · cases h

end Inversion

/-- **An invariant of every step holds in every reachable world.** -/
theorem ReachableBy.induct_inv {ok : Event → Prop} {Inv : World → Prop} (h0 : Inv init)
    (hs : ∀ w w' e, Inv w → ok e → step p w e = some w' → Inv w')
    {w : World} (hw : ReachableBy p ok w) : Inv w := by
  induction hw with
  | base => exact h0
  | next _ he hst ih => exact hs _ _ _ ih he hst

theorem ReachableBy.of_run {ok : Event → Prop} {w w' : World} (hw : ReachableBy p ok w) :
    ∀ (es : List Event), (∀ e ∈ es, ok e) → run p w es = some w' → ReachableBy p ok w'
  | [], _, h => by cases h; exact hw
  | e :: es, hok, h => by
    simp only [run, Option.bind_eq_some] at h
    obtain ⟨w₁, h₁, h₂⟩ := h
    exact (hw.next (hok e (List.mem_cons_self e es)) h₁).of_run es
      (fun e' he' => hok e' (List.mem_cons_of_mem e he')) h₂

/-- The world a run from `init` ends in, when each of its steps was enabled, is
reachable. -/
theorem ReachableBy.of_run_get {ok : Event → Prop} (es : List Event) (hok : ∀ e ∈ es, ok e)
    (h : (run p init es).isSome) : ReachableBy p ok ((run p init es).get h) :=
  ReachableBy.base.of_run es hok (Option.some_get h).symm

/-- The constructor's defaults: TCP and a 1 MB buffer, with `NEVER_DISCARD` taken
as bit 0. -/
def tcpDefaults : Params := ⟨.TCP, 1024 * 1024, by decide, 1⟩

end Folly.NetworkLogWriter
