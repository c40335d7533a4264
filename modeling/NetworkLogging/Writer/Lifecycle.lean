import NetworkLogging.Writer.Connection

/-! # The lifecycle the handlers implement

The design describes the writer's connection as a machine of five states:
`Disconnected` (no socket, not connecting), `Connecting` (an attempt in
flight), `Connected` (a usable socket), `ReconnectScheduled` (no socket, timer
armed) and the terminal `Closed`.  `Phase` and `Phase.Transition` are that
machine, and `phase` reads a world's state off the writer's own fields.

The writer learns that its socket has failed only from a completion, so
`Connected` is read as "the writer holds a socket and no attempt is in flight":
a socket that has failed unseen is still connected, and leaves that state
through the handler that sees the failure.  `Closed` is the event loop
terminated by `cleanup`'s callback; the `closed` flag is only set after the
join.

`phase_refines` is the refinement.  Every step of every run is a stutter, one
transition of the machine, or, when `connect` throws before attempting anything
(UDP), the two transitions `Disconnected → Connecting → ReconnectScheduled` at
once.  Beyond `Wired` it needs `Staged`: the constructor's connect runs before
anything touches the connection, and the timer is armed only while the writer
holds no socket.
-/
namespace Folly.NetworkLogWriter
open World

/-- The states of the design's lifecycle machine. -/
inductive Phase
  | disconnected
  | connecting
  | connected
  | reconnectScheduled
  | closed
  deriving DecidableEq, Repr

namespace Phase

/-- The transitions of the design's lifecycle machine. -/
inductive Transition : Phase → Phase → Prop
  /-- A connect request, at construction. -/
  | connect : Transition disconnected connecting
  /-- A successful handshake. -/
  | established : Transition connecting connected
  /-- A failed handshake. -/
  | connectFailed : Transition connecting reconnectScheduled
  /-- A write failure on a transport no longer usable, or an unsolicited close. -/
  | lost : Transition connected reconnectScheduled
  /-- The reconnect timer fires and issues a fresh connect. -/
  | retry : Transition reconnectScheduled connecting
  /-- Shutdown, from any other state. -/
  | shutdown {q : Phase} : q ≠ closed → Transition q closed

/-- What one step of the writer may do to its phase: nothing, one transition,
or both transitions of a connect that fails before it is attempted. -/
inductive Step : Phase → Phase → Prop
  | stutter (q : Phase) : Step q q
  | move {q q' : Phase} : Transition q q' → Step q q'
  | failFast : Step disconnected reconnectScheduled

/-- A connected writer never starts connecting directly. -/
theorem Step.not_connected_connecting : ¬Step connected connecting := by
  rintro (_ | ⟨⟨⟩⟩)

end Phase

/-- The fields of the world the lifecycle reads: whether the loop runs,
`connecting`, the writer's socket and the timer. -/
def World.control (w : World) : Bool × Bool × Option Nat × Bool :=
  (w.looping, w.state.connecting, w.state.socket, w.timerScheduled)

/-- The lifecycle state the control fields stand for. -/
def controlPhase : Bool × Bool × Option Nat × Bool → Phase
  | (looping, connecting, socket, timerScheduled) =>
    if !looping then .closed
    else if connecting then .connecting
    else if socket.isSome then .connected
    else if timerScheduled then .reconnectScheduled
    else .disconnected

/-- The lifecycle state of a world. -/
def phase (w : World) : Phase := controlPhase w.control

variable {p : Params} {w w' : World}

theorem phase_congr (h : w'.control = w.control) : phase w' = phase w := congrArg controlPhase h

theorem phase_ne_closed (hl : w.looping = true) : phase w ≠ .closed := by
  simp only [phase, World.control, controlPhase]; split_ifs <;> simp_all

/-! ## What the handlers do to the control fields -/

section Control
variable (w : World)

@[simp] theorem lock_control : w.lock.control = w.control := rfl
@[simp] theorem unlock_control : w.unlock.control = w.control := rfl
@[simp] theorem post_control (t : Task) : (w.post t).control = w.control := rfl
@[simp] theorem setSocket_control (i : Nat) (s : Socket) :
    (w.setSocket i s).control = w.control := rfl

@[simp] theorem sendPendingMessages_control : (sendPendingMessages w).control = w.control := by
  simp [World.control]

theorem writeMessage_control (buffer : Bytes) (flags : UInt32) :
    (writeMessage p buffer flags w).control = w.control := by
  by_cases hd : Discards p w.state.pendingBytes buffer flags
  · rw [writeMessage_of_discards hd]; rfl
  · rw [writeMessage_of_accepts hd]; split <;> rfl

theorem onWriteSuccess_control : (onWriteSuccess w).control = w.control := by
  rw [onWriteSuccess_eq]; split <;> simp [World.control]

theorem onConnectSuccess_control :
    (onConnectSuccess w).control = (w.looping, false, w.state.socket, w.timerScheduled) := by
  cases h : w.state.pendingMessages
  · rw [onConnectSuccess_of_empty h]; rfl
  · rw [onConnectSuccess_of_pending h]; simp [World.control]

theorem onConnectSuccess_tasks : (onConnectSuccess w).tasks = w.tasks := by
  cases h : w.state.pendingMessages
  · rw [onConnectSuccess_of_empty h]; rfl
  · rw [onConnectSuccess_of_pending h]; simp

theorem onWriteSuccess_tasks : (onWriteSuccess w).tasks = w.tasks := by
  rw [onWriteSuccess_eq]; split <;> simp

end Control

/-! ## The invariant -/

/-- Before the constructor's connect has run: it is the next callback and the
only connect queued, and the writer and its transport are as the constructor
left them. -/
structure Pristine (w : World) : Prop where
  tasks : ∃ ts, w.tasks = .connect :: ts ∧ Task.connect ∉ ts
  socket : w.state.socket = none
  connecting : w.state.connecting = false
  timer : w.timerScheduled = false
  sockets : ∀ i, w.sockets i = Socket.none
  writes : ∀ i, w.writes i = []

/-- What the lifecycle needs beyond `Wired`: the constructor's connect runs
first, and the timer is armed only while the writer holds no socket. -/
structure Staged (w : World) extends Wired w : Prop where
  pristine : Task.connect ∈ w.tasks → Pristine w
  timer_dropped : w.timerScheduled = true → w.state.socket = none

theorem staged_init : Staged init :=
  ⟨wired_init, fun _ => ⟨⟨[], rfl, by simp⟩, rfl, rfl, rfl, fun _ => rfl, fun _ => rfl⟩,
    fun h => nomatch h⟩

/-- A step that changes nothing of a pristine world but its queue, the lock and
callbacks queued behind the connect leaves it pristine. -/
theorem Pristine.frame (hp : Pristine w) {extra : List Task} (hx : Task.connect ∉ extra)
    (htk : w'.tasks = w.tasks ++ extra) (hc : w'.control = w.control) (hk : w'.sockets = w.sockets)
    (hwr : w'.writes = w.writes) : Pristine w' := by
  simp only [World.control, Prod.mk.injEq] at hc
  obtain ⟨⟨ts, hts, hn⟩, h1, h2, h3, h4, h5⟩ := hp
  exact ⟨⟨ts ++ extra, by rw [htk, hts]; rfl, by simp [hn, hx]⟩, hc.2.2.1 ▸ h1,
    hc.2.1 ▸ h2, hc.2.2.2 ▸ h3, hk ▸ h4, hwr ▸ h5⟩

/-- Such a step keeps a world pristine while the constructor's connect is queued. -/
theorem Staged.pristine_frame (hs : Staged w) {extra : List Task} (hx : Task.connect ∉ extra)
    (htk : w'.tasks = w.tasks ++ extra) (hc : w'.control = w.control) (hk : w'.sockets = w.sockets)
    (hwr : w'.writes = w.writes) : Task.connect ∈ w'.tasks → Pristine w' := fun hm =>
  (hs.pristine ((List.mem_append.mp (htk ▸ hm)).resolve_right hx)).frame hx htk hc hk hwr

/-- A world that is not pristine has run the constructor's connect. -/
theorem Staged.started (hs : Staged w) (h : Pristine w → False) : Started w :=
  fun hm => h (hs.pristine hm)

/-- Behind a callback other than the constructor's connect, no connect is queued. -/
theorem Staged.not_mem_tail (hs : Staged w) {t : Task} {ts : List Task} (ht : w.tasks = t :: ts)
    (hne : t ≠ .connect) : Task.connect ∉ ts := fun hm => by
  obtain ⟨⟨_, h', _⟩, -⟩ := hs.pristine (ht ▸ List.mem_cons_of_mem _ hm)
  rw [ht] at h'; cases h'; exact hne rfl

/-- A step that keeps the control fields keeps the phase and the timer fact. -/
theorem Staged.calm (hs : Staged w) (hw' : Wired w') (hc : w'.control = w.control)
    (hp : Task.connect ∈ w'.tasks → Pristine w') :
    Staged w' ∧ Phase.Step (phase w) (phase w') := by
  refine ⟨⟨hw', hp, fun ht => ?_⟩, phase_congr hc ▸ .stutter _⟩
  simp only [World.control, Prod.mk.injEq] at hc
  rw [hc.2.2.1]; exact hs.timer_dropped (hc.2.2.2 ▸ ht)

/-! ## Every step -/

/-- `connect` from a world that holds no socket, with its timer disarmed and no
constructor's connect queued, keeps the invariant; afterwards an attempt is in
flight, unless the protocol is UDP and none was in flight before, in which case
the timer is armed. -/
theorem staged_connect (hs : Links w) (hl : w.looping = true) (hsock : w.state.socket = none)
    (hn : Task.connect ∉ w.tasks) (ht : w.timerScheduled = false) :
    Staged (connect p w) ∧
      phase (connect p w) = if w.state.connecting = true ∨ p.protocol = .TCP then .connecting
        else .reconnectScheduled := by
  have hw' : Wired (connect p w) :=
    ⟨(links_connect p hs hl).1, fun _ _ => (links_connect p hs hl).2⟩
  have hu : w.usable = none := by simp [usable, hsock]
  cases hc : w.state.connecting
  · cases hp : p.protocol
    · rw [connect_of_tcp (by simp [hc, hu]) hp] at hw' ⊢
      exact ⟨⟨hw', fun hm => absurd hm (by simpa [openSocket] using hn),
        fun h => by simp [ht, openSocket] at h⟩,
        by simp [phase, World.control, controlPhase, hl, openSocket]⟩
    · rw [connect_of_udp (by simp [hc, hu]) hp] at hw' ⊢
      exact ⟨⟨hw', fun hm => absurd hm (by simpa using hn), fun _ => hsock⟩,
        by simp [phase, World.control, controlPhase, hl, hc, hsock]⟩
  · rw [connect_of_busy (by simp [hc])] at hw' ⊢
    exact ⟨⟨hw', fun hm => absurd hm (by simpa using hn), fun h => by simp [ht] at h⟩,
      by simp [phase, World.control, controlPhase, hl, hc]⟩

/-- Dropping the writer's socket and arming the timer, once the constructor's
connect has run: `connected` becomes `reconnectScheduled`, and every other
phase stays as it is. -/
theorem phase_dropSocket (hw : Wired w) (hn : Started w) (hl : w.looping = true) :
    Phase.Step (phase w) (controlPhase (w.looping, w.state.connecting, none, true)) := by
  cases hc : w.state.connecting
  · cases hsock : w.state.socket
    · simpa [phase, World.control, controlPhase, hl, hc, hsock, hw.idle_armed hn hl hsock hc] using
        Phase.Step.stutter _
    · simpa [phase, World.control, controlPhase, hl, hc, hsock] using Phase.Step.move .lost
  · simpa [phase, World.control, controlPhase, hl, hc] using Phase.Step.stutter _

/-- **One step from a staged world** keeps `Staged`, and moves the phase as the
machine allows. -/
theorem staged_step {e : Event} (hs : Staged w) (h : step p w e = some w') :
    Staged w' ∧ Phase.Step (phase w) (phase w') := by
  have hw' := wired_step hs.toWired h
  cases e with
  | writeMessage buffer flags =>
    cases h
    refine hs.calm hw' (writeMessage_control w buffer flags) ?_
    by_cases hd : Discards p w.state.pendingBytes buffer flags
    · rw [writeMessage_of_discards hd]
      exact hs.pristine_frame (List.not_mem_nil _) (List.append_nil _).symm rfl rfl rfl
    · rw [writeMessage_of_accepts hd]
      split
      · exact hs.pristine_frame (by simp) rfl rfl rfl rfl
      · exact hs.pristine_frame (List.not_mem_nil _) (List.append_nil _).symm rfl rfl rfl
  | flush | destroy => cases h; exact hs.calm hw' rfl (hs.pristine_frame (by simp) rfl rfl rfl rfl)
  | runTask =>
    obtain ⟨hl, t, ts, ht, rfl⟩ := step_runTask h
    cases t with
    | connect =>
      obtain ⟨⟨ts', hts, hn⟩, hsock, hc, htm, -, -⟩ :=
        hs.pristine (ht ▸ List.mem_cons_self _ _)
      rw [ht] at hts; cases hts
      obtain ⟨hst, hph⟩ :=
        @staged_connect p { w with tasks := ts } (hs.toLinks.congr rfl rfl rfl rfl rfl rfl) hl hsock
          hn htm
      refine ⟨hst, ?_⟩
      rw [runTask, hph,
        show phase w = .disconnected by
          simp [phase, World.control, controlPhase, hl, hc, hsock, htm]]
      cases hp : p.protocol
      · simpa [hc, hp] using Phase.Step.move .connect
      · simpa [hc, hp] using Phase.Step.failFast
    | sendPendingMessages =>
      exact hs.calm hw' (sendPendingMessages_control _) fun hm =>
        absurd (by simpa [runTask] using hm) (hs.not_mem_tail ht (by decide))
    | cleanup =>
      exact ⟨⟨hw', fun hm => absurd hm (hs.not_mem_tail ht (by decide)), fun h => nomatch h⟩,
        .move (.shutdown (phase_ne_closed hl))⟩
  | timeout =>
    obtain ⟨hl, htm, rfl⟩ := step_timeout h
    have hsock := hs.timer_dropped htm
    have hn : Started w := hs.started fun hp => by simp [hp.timer] at htm
    obtain ⟨hst, hph⟩ := @staged_connect p { w with timerScheduled := false }
      (hs.toLinks.congr rfl rfl rfl rfl rfl rfl) hl hsock hn rfl
    refine ⟨hst, ?_⟩
    rw [timeoutExpired, hph]
    cases hc : w.state.connecting
    · rw [show phase w = .reconnectScheduled by
        simp [phase, World.control, controlPhase, hl, hc, hsock, htm]]
      cases hp : p.protocol
      · simpa [hc, hp] using Phase.Step.move .retry
      · simpa [hc, hp] using Phase.Step.stutter _
    · rw [show phase w = .connecting by simp [phase, World.control, controlPhase, hl, hc]]
      simpa [hc] using Phase.Step.stutter _
  | connectSuccess i =>
    obtain ⟨hl, hpend, hg, rfl⟩ := step_connectSuccess h
    have hcur := hs.good_current hl i hg
    have hn : Started w := hs.started fun hp => by simp [hp.sockets, Socket.none] at hg
    have hc := hs.connecting_iff.mpr ⟨i, hpend⟩
    have hcon := onConnectSuccess_control
      (w.setSocket i { (w.sockets i) with established := true, connectPending := false })
    refine ⟨⟨hw', fun hm => absurd (by simpa [onConnectSuccess_tasks] using hm) hn,
      fun ht => ?_⟩, ?_⟩
    · simp only [World.control, Prod.mk.injEq] at hcon
      simp [hs.timer_dropped (hcon.2.2.2.symm.trans ht)] at hcur
    · rw [show phase w = .connecting by simp [phase, World.control, controlPhase, hl, hc], phase,
        onConnectSuccess_control]
      simpa [controlPhase, setSocket, hl, hcur] using Phase.Step.move .established
  | connectError i =>
    obtain ⟨hl, hpend, -, rfl⟩ := step_connectError h
    have hn : Started w := hs.started fun hp => by simp [hp.sockets, Socket.none] at hpend
    have hc := hs.connecting_iff.mpr ⟨i, hpend⟩
    rw [onConnectError_eq] at hw' ⊢
    refine ⟨⟨hw', fun hm => absurd hm hn, fun _ => rfl⟩, ?_⟩
    simpa [phase, World.control, controlPhase, hl, hc, setSocket] using
      Phase.Step.move .connectFailed
  | writeDone i =>
    obtain ⟨hl, m, rest, hwi, rfl⟩ := step_writeDone h
    have hn : Started w := hs.started fun hp => by simp [hp.writes] at hwi
    cases hg : (w.sockets i).good
    · simp only [hg, Bool.false_eq_true, ↓reduceIte] at hw' ⊢
      cases hu : ({ w with writes := Function.update w.writes i rest }).usable.isSome
      · rw [onWriteError_of_unusable hu] at hw' ⊢
        exact ⟨⟨hw', fun hm => absurd hm hn, fun _ => rfl⟩, phase_dropSocket hs.toWired hn hl⟩
      · rw [onWriteError_of_usable hu] at hw' ⊢
        exact hs.calm hw' (by simp; rfl) fun hm => absurd (by simpa using hm) hn
    · simp only [hg, ↓reduceIte] at hw' ⊢
      exact hs.calm hw' (onWriteSuccess_control _) fun hm =>
        absurd (by simpa [onWriteSuccess_tasks] using hm) hn
  | fail i =>
    obtain ⟨hg, -, rfl⟩ := step_fail h
    have hn : Started w := hs.started fun hp => by simp [hp.sockets, Socket.none] at hg
    exact hs.calm hw' rfl fun hm => absurd hm hn
  | close i =>
    obtain ⟨hl, hg, rfl⟩ := step_close h
    have hn : Started w := hs.started fun hp => by simp [hp.sockets, Socket.none] at hg
    rw [onSocketClose_eq] at hw' ⊢
    exact ⟨⟨hw', fun hm => absurd hm hn, fun _ => rfl⟩, phase_dropSocket hs.toWired hn hl⟩
  | join =>
    obtain ⟨hl, rfl⟩ := step_join h
    refine ⟨⟨hw', fun hm => ?_, fun _ => rfl⟩, ?_⟩
    · have hp := hs.pristine hm
      exact hp.frame (List.not_mem_nil _) (List.append_nil _).symm
        (by simp [World.control, cleanupAfterJoin, hp.socket]) rfl rfl
    · simpa [phase, World.control, controlPhase, hl, cleanupAfterJoin] using Phase.Step.stutter _

theorem staged_of_reachable (hw : Reachable p w) : Staged w :=
  hw.induct_inv staged_init fun _ _ _ hi _ hs => (staged_step hi hs).1

/-! ## The refinement -/

/-- **The handlers implement the design's lifecycle.**  In every reachable world,
each step leaves the phase as it is, takes one transition of the machine, or,
for the constructor's connect under UDP, which throws before it attempts
anything, goes from `disconnected` through `connecting` to `reconnectScheduled`
at once.  In particular a connected writer never starts a connect directly. -/
theorem phase_refines {e : Event} (hw : Reachable p w) (h : step p w e = some w') :
    Phase.Step (phase w) (phase w') :=
  (staged_step (staged_of_reachable hw) h).2

theorem udpConstructor_fails_fast :
    Phase.Step (phase init) (phase ((step udpDefaults init .runTask).get (by decide))) :=
  phase_refines ReachableBy.base (Option.some_get _).symm

/-- **A connected writer never reconnects directly.**  From a reachable world in
which the writer holds a socket and no attempt is in flight, no step leads to
`connecting`. -/
theorem connected_never_connects {e : Event} (hw : Reachable p w) (hc : phase w = .connected)
    (h : step p w e = some w') : phase w' ≠ .connecting := fun h' =>
  Phase.Step.not_connected_connecting (hc ▸ h' ▸ (staged_step (staged_of_reachable hw) h).2)

/-- The writer once the constructor's connect has succeeded. -/
def connectedOnce : World := (run tcpDefaults init [.runTask, .connectSuccess 0]).get (by decide)

theorem connectedOnce_closes_without_connecting :
    phase connectedOnce = .connected ∧
      phase ((step tcpDefaults connectedOnce (.close 0)).get (by decide)) ≠ .connecting :=
  ⟨by decide, connected_never_connects (ReachableBy.of_run_get _ (fun _ _ => trivial) _)
    (by decide) (Option.some_get _).symm⟩

/-! ## UDP

`connect` throws for UDP before it creates a socket, so a UDP writer never holds
one and never writes, and its timer fires and is armed again for as long as the
loop runs. -/

/-- What a UDP writer keeps: no socket of its own, no attempt in flight, no
socket in the transport and no write. -/
structure Datagram (w : World) : Prop where
  socket : w.state.socket = none
  connecting : w.state.connecting = false
  sockets : ∀ i, w.sockets i = Socket.none
  writes : ∀ i, w.writes i = []

theorem Datagram.frame (hd : Datagram w) (hs : w'.state.socket = w.state.socket)
    (hc : w'.state.connecting = w.state.connecting) (hk : w'.sockets = w.sockets)
    (hwr : w'.writes = w.writes) : Datagram w' :=
  ⟨hs ▸ hd.socket, hc ▸ hd.connecting, hk ▸ hd.sockets, hwr ▸ hd.writes⟩

theorem datagram_connect (hp : p.protocol = .UDP) (hd : Datagram w) : Datagram (connect p w) := by
  rw [connect_of_udp (by simp [hd.connecting, usable, hd.socket]) hp]
  exact hd.frame rfl rfl rfl rfl

theorem datagram_step {e : Event} (hp : p.protocol = .UDP) (hd : Datagram w)
    (h : step p w e = some w') : Datagram w' := by
  cases e with
  | writeMessage buffer flags =>
    cases h
    by_cases hdis : Discards p w.state.pendingBytes buffer flags
    · rw [writeMessage_of_discards hdis]; exact hd.frame rfl rfl rfl rfl
    · rw [writeMessage_of_accepts hdis]; split <;> exact hd.frame rfl rfl rfl rfl
  | flush | destroy => cases h; exact hd.frame rfl rfl rfl rfl
  | runTask =>
    obtain ⟨-, t, ts, -, rfl⟩ := step_runTask h
    cases t with
    | connect => exact datagram_connect hp (hd.frame rfl rfl rfl rfl)
    | sendPendingMessages =>
      exact hd.frame (by simp [runTask]) (by simp [runTask]) (by simp [runTask])
        (sendPendingMessages_writes_of_unusable _ (by simp [usable, hd.socket]))
    | cleanup => exact hd.frame rfl rfl rfl rfl
  | timeout =>
    obtain ⟨-, -, rfl⟩ := step_timeout h
    exact datagram_connect hp (hd.frame rfl rfl rfl rfl)
  | connectSuccess i => have := (step_connectSuccess h).2.1; simp [hd.sockets, Socket.none] at this
  | connectError i => have := (step_connectError h).2.1; simp [hd.sockets, Socket.none] at this
  | writeDone i => obtain ⟨-, _, _, hwi, -⟩ := step_writeDone h; simp [hd.writes] at hwi
  | fail i => have := (step_fail h).1; simp [hd.sockets, Socket.none] at this
  | close i => have := (step_close h).2.1; simp [hd.sockets, Socket.none] at this
  | join =>
    obtain ⟨-, rfl⟩ := step_join h
    exact hd.frame (by simp [cleanupAfterJoin, hd.socket]) rfl rfl rfl

/-- **A UDP writer never sends, and retries for as long as it runs.**  No write
is ever issued, and from the constructor's connect until shutdown the writer is
in `reconnectScheduled`, its timer armed for the next futile connect. -/
theorem udp_never_sends (hp : p.protocol = .UDP) (hw : Reachable p w) :
    (∀ i, w.writes i = []) ∧
      (Started w → w.looping = true → phase w = .reconnectScheduled) := by
  have hd : Datagram w := hw.induct_inv ⟨rfl, rfl, fun _ => rfl, fun _ => rfl⟩
    fun _ _ _ hi _ hs => datagram_step hp hi hs
  refine ⟨hd.writes, fun hs hl => ?_⟩
  have ht := (wired_of_reachable hw).idle_armed hs hl hd.socket hd.connecting
  simp [phase, World.control, controlPhase, hl, hd.connecting, hd.socket, ht]

end Folly.NetworkLogWriter
