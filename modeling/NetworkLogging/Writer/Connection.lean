import NetworkLogging.Writer.Run

/-! # The connection lifecycle

Two facts about every run, whatever the order of timer firings, posted
callbacks and transport completions.

* `connecting` is set exactly while one connect issued by `connect` is
  outstanding, and there is never a second one (`connecting_tracks_connect`).
  `connect` opens a socket only when no attempt is in flight and the writer's
  socket is not usable, and only on a socket newer than every other.
* Once the constructor's connect has run, and until `cleanup` stops the loop,
  the writer always has a way forward (`writer_never_stalls`): an attempt in
  flight, a usable socket, an armed timer, or an operation some socket has not
  completed yet.

Both rest on one invariant, `Links`.  Its key field is that, while the loop
runs, every good socket is the writer's own (`good_current`): a socket stops
being the writer's only through a handler that has just seen it fail or close.
So a completion from an older socket never finds a good socket that is not the
writer's, and a reset never throws away a live connection.
-/
namespace Folly.NetworkLogWriter
open World

/-- What every step keeps of the writer's sockets and its `connecting` flag. -/
structure Links (w : World) : Prop where
  /-- Every outstanding connect is on the newest socket. -/
  connect_newest : ∀ i, (w.sockets i).connectPending = true → i + 1 = w.socketCount
  /-- `connecting` is set exactly while a connect is outstanding. -/
  connecting_iff : w.state.connecting = true ↔ ∃ i, (w.sockets i).connectPending = true
  /-- An outstanding connect is on the writer's socket, unless the writer has
  dropped its socket. -/
  connect_current : ∀ i, (w.sockets i).connectPending = true →
    w.state.socket = none ∨ w.state.socket = some i
  /-- While the loop runs, every good socket is the writer's. -/
  good_current : w.looping = true → ∀ i, (w.sockets i).good = true → w.state.socket = some i
  /-- A failed socket the writer still holds has an operation outstanding. -/
  failed_busy : ∀ i, w.state.socket = some i → (w.sockets i).good = false →
    (w.sockets i).connectPending = true ∨ w.writes i ≠ []

/-- A writer with no socket and no attempt in flight has its timer armed. -/
def IdleArmed (w : World) : Prop :=
  w.state.socket = none → w.state.connecting = false → w.timerScheduled = true

/-- The constructor's connect has run: it is no longer in the event base's
queue, and nothing posts it again. -/
def Started (w : World) : Prop := Task.connect ∉ w.tasks

instance (w : World) : Decidable (Started w) := inferInstanceAs (Decidable (_ ∉ _))

/-- The connection invariant: `Links`, and, once the constructor's connect has
run and while the loop runs, `IdleArmed`. -/
structure Wired (w : World) extends Links w : Prop where
  idle_armed : Started w → w.looping = true → IdleArmed w

variable {p : Params} {w w' : World}

theorem wired_init : Wired init where
  connect_newest _ h := by cases h
  connecting_iff := by simp [init, Socket.none]
  connect_current _ h := by cases h
  good_current _ _ h := by cases h
  failed_busy _ h := by cases h
  idle_armed h := absurd (List.mem_singleton_self _) h

/-! ## Steps that leave the connection alone -/

/-- A step that changes neither the writer's socket, its flags, the timer nor the
transport's sockets, and takes no write from a failed socket the writer holds,
keeps the invariant, provided it does not post the constructor's connect. -/
theorem Wired.frame (hw : Wired w)
    (hs : w'.state.socket = w.state.socket) (hc : w'.state.connecting = w.state.connecting)
    (ht : w'.timerScheduled = w.timerScheduled) (hl : w'.looping = w.looping)
    (hk : w'.sockets = w.sockets) (hn : w'.socketCount = w.socketCount)
    (hwr : ∀ i, w.state.socket = some i → (w.sockets i).good = false → w.writes i ≠ [] →
      w'.writes i ≠ [])
    (htk : Started w' → Started w) : Wired w' where
  connect_newest i h := hn ▸ hw.connect_newest i (hk ▸ h)
  connecting_iff := by rw [hc, hk]; exact hw.connecting_iff
  connect_current i h := hs ▸ hw.connect_current i (hk ▸ h)
  good_current h i hg := hs ▸ hw.good_current (hl ▸ h) i (hk ▸ hg)
  failed_busy i h hg := by
    rw [hk] at hg ⊢
    rcases hw.failed_busy i (hs ▸ h) hg with h' | h'
    · exact .inl h'
    · exact .inr (hwr i (hs ▸ h) hg h')
  idle_armed hst hlp hn' hc' := ht ▸ hw.idle_armed (htk hst) (hl ▸ hlp) (hs ▸ hn') (hc ▸ hc')

theorem Wired.lock (hw : Wired w) : Wired w.lock :=
  hw.frame rfl rfl rfl rfl rfl rfl (fun _ _ _ h => h) id

theorem Wired.unlock (hw : Wired w) : Wired w.unlock :=
  hw.frame rfl rfl rfl rfl rfl rfl (fun _ _ _ h => h) id

/-- `sendPendingMessages` leaves the connection alone: it only adds a write. -/
theorem Wired.sendPendingMessages (hw : Wired w) : Wired (sendPendingMessages w) := by
  refine hw.frame (by simp) (by simp) (by simp) (by simp) (by simp) (by simp) ?_ (by simp [Started])
  intro i _ _ hne
  obtain ⟨t, ht⟩ := sendPendingMessages_writes_prefix w i
  simp [← ht, hne]

theorem Wired.removeFront (hw : Wired w) : Wired (removeFront w) :=
  hw.frame (by simp) (by simp) (by simp) (by simp) (by simp) (by simp) (by simp)
    (by simp [Started])

/-! ## `connect` -/

/-- `Links` reads only the writer's socket and flag, the loop, the transport's
sockets and the writes. -/
theorem Links.congr (hw : Links w) (hs : w'.state.socket = w.state.socket)
    (hc : w'.state.connecting = w.state.connecting) (hl : w'.looping = w.looping)
    (hk : w'.sockets = w.sockets) (hn : w'.socketCount = w.socketCount)
    (hwr : w'.writes = w.writes) : Links w' where
  connect_newest i h := hn ▸ hw.connect_newest i (hk ▸ h)
  connecting_iff := by rw [hc, hk]; exact hw.connecting_iff
  connect_current i h := hs ▸ hw.connect_current i (hk ▸ h)
  good_current h i hg := hs ▸ hw.good_current (hl ▸ h) i (hk ▸ hg)
  failed_busy i h hg := by rw [hk, hwr] at *; exact hw.failed_busy i (hs ▸ h) hg

theorem Links.lock_unlock (hw : Links w) : Links w.lock.unlock := hw.congr rfl rfl rfl rfl rfl rfl

/-- `connect` opens a socket only when none is connecting and the writer's is not
usable, and then on a socket newer than all others. -/
theorem links_openSocket (hw : Links w) (hl : w.looping = true)
    (h : (w.state.connecting || w.usable.isSome) = false) :
    Links { w with state := { w.state with connecting := true } }.openSocket where
  connect_newest i hi := by
    simp only [Bool.or_eq_false_iff] at h
    by_cases hin : i = w.socketCount
    · simp [openSocket, hin]
    · simp only [openSocket, Function.update_noteq hin] at hi
      exact absurd (hw.connecting_iff.mpr ⟨i, hi⟩) (by simp [h.1])
  connecting_iff := by simp only [openSocket, true_iff]; exact ⟨w.socketCount, by simp⟩
  connect_current i hi := by
    simp only [Bool.or_eq_false_iff] at h
    by_cases hin : i = w.socketCount
    · simp [openSocket, hin]
    · simp only [openSocket, Function.update_noteq hin] at hi
      exact absurd (hw.connecting_iff.mpr ⟨i, hi⟩) (by simp [h.1])
  good_current _ i hi := by
    simp only [Bool.or_eq_false_iff] at h
    by_cases hin : i = w.socketCount
    · simp [openSocket, hin]
    · simp only [openSocket, Function.update_noteq hin] at hi
      have := usable_eq_none.mp (by simpa using h.2) i (hw.good_current hl i hi)
      simp [hi] at this
  failed_busy i hi hg := by
    simp only [openSocket, Option.some.injEq] at hi
    subst hi
    simp [openSocket] at hg

/-- **`connect` keeps the invariant and never leaves the writer idle with its
timer disarmed**: it returns at its guard only while an attempt is in flight or
the socket is usable, opens a socket for TCP, and arms the timer for UDP. -/
theorem links_connect (p : Params) (hw : Links w) (hl : w.looping = true) :
    Links (connect p w) ∧ IdleArmed (connect p w) := by
  cases h : (w.state.connecting || w.usable.isSome)
  · cases hp : p.protocol
    · rw [connect_of_tcp h hp]
      exact ⟨(links_openSocket hw hl h).lock_unlock, fun hs => by simp [openSocket] at hs⟩
    · rw [connect_of_udp h hp]
      exact ⟨hw.congr rfl rfl rfl rfl rfl rfl, fun _ _ => rfl⟩
  · rw [connect_of_busy h]
    refine ⟨hw.lock_unlock, fun hs hc => ?_⟩
    simp only [unlock_state, lock_state] at hs hc
    simp [hc, usable, hs] at h

/-! ## Completions and failures -/

/-- There is never a second outstanding connect. -/
theorem Links.pending_unique (hw : Links w) {i j : Nat} (hi : (w.sockets i).connectPending = true)
    (hj : (w.sockets j).connectPending = true) : i = j := by
  have := hw.connect_newest i hi
  have := hw.connect_newest j hj
  omega

/-- Once the outstanding connect on `i` has completed, none is left. -/
theorem Links.no_pending_after (hw : Links w) {i : Nat} (hi : (w.sockets i).connectPending = true)
    (s : Socket) (hs : s.connectPending = false) (j : Nat) :
    (Function.update w.sockets i s j).connectPending = false := by
  by_cases hj : j = i
  · subst hj; simpa using hs
  · rw [Function.update_noteq hj]
    cases hc : (w.sockets j).connectPending
    · rfl
    · exact absurd (hw.pending_unique hc hi) hj

theorem wired_connectSuccess (hw : Wired w) {i : Nat} (hl : w.looping = true)
    (hp : (w.sockets i).connectPending = true) (hg : (w.sockets i).good = true) :
    Wired (onConnectSuccess
      (w.setSocket i { (w.sockets i) with established := true, connectPending := false })) := by
  have hcur := hw.good_current hl i hg
  have hnone :=
    hw.no_pending_after hp { (w.sockets i) with established := true, connectPending := false } rfl
  have key : ∀ w' : World, w'.state.socket = w.state.socket → w'.state.connecting = false →
      w'.looping = w.looping → w'.socketCount = w.socketCount →
      w'.sockets = Function.update w.sockets i
        { (w.sockets i) with established := true, connectPending := false } → Wired w' := by
    intro w' hs hc hl' hn hk
    refine ⟨⟨fun j hj => ?_, ?_, fun j hj => ?_, fun _ j hj => ?_, fun j hj hjg => ?_⟩, ?_⟩
    · rw [hk, hnone] at hj; cases hj
    · simp [hc, hk, hnone]
    · rw [hk, hnone] at hj; cases hj
    · rw [hs]
      by_cases hji : j = i
      · subst hji; exact hcur
      · rw [hk, Function.update_noteq hji] at hj; exact hw.good_current hl j hj
    · rw [hs, hcur] at hj; cases hj
      rw [hk] at hjg; simp [hg] at hjg
    · intro _ _ hs'; rw [hs, hcur] at hs'; cases hs'
  cases hq : (w.setSocket i _).state.pendingMessages with
  | nil => rw [onConnectSuccess_of_empty hq]; exact key _ rfl rfl rfl rfl rfl
  | cons m rest =>
    rw [onConnectSuccess_of_pending hq]
    exact key _ (by simp [setSocket]) (by simp) (by simp [setSocket]) (by simp [setSocket])
      (by simp [setSocket])

/-- A world in which the writer holds no socket and the timer is armed satisfies
the invariant as soon as its connects are in order and no good socket is left
while the loop runs. -/
theorem wired_of_dropped (hs : w.state.socket = none) (ht : w.timerScheduled = true)
    (hng : w.looping = true → ∀ i, (w.sockets i).good = false)
    (hnew : ∀ i, (w.sockets i).connectPending = true → i + 1 = w.socketCount)
    (hc : w.state.connecting = true ↔ ∃ i, (w.sockets i).connectPending = true) : Wired w where
  connect_newest := hnew
  connecting_iff := hc
  connect_current _ _ := .inl hs
  good_current hl i hg := by simp [hng hl i] at hg
  failed_busy _ h := by rw [hs] at h; cases h
  idle_armed _ _ _ _ := ht

theorem wired_connectError (hw : Wired w) {i : Nat} (hp : (w.sockets i).connectPending = true)
    (hg : (w.sockets i).good = false) :
    Wired (onConnectError (w.setSocket i { (w.sockets i) with connectPending := false })) := by
  have hnone := hw.no_pending_after hp { (w.sockets i) with connectPending := false } rfl
  rw [onConnectError_eq]
  refine wired_of_dropped rfl rfl (fun hl j => ?_) (fun j hj => ?_) ?_
  · simp only [unlock_looping, lock_looping, unlock_sockets, lock_sockets, setSocket] at hl ⊢
    by_cases hji : j = i
    · subst hji; simpa using hg
    · rw [Function.update_noteq hji]
      cases hgj : (w.sockets j).good
      · rfl
      · have h1 := hw.good_current hl j hgj
        rcases hw.connect_current i hp with h2 | h2 <;> rw [h1] at h2 <;> cases h2
        exact absurd rfl hji
  · simp only [unlock_sockets, lock_sockets, setSocket, hnone] at hj; cases hj
  · simp [setSocket, hnone]

theorem wired_socketClosed (hw : Wired w) {i : Nat} (hl : w.looping = true)
    (hg : (w.sockets i).good = true) :
    Wired (onSocketClose (w.setSocket i { (w.sockets i) with good := false })) := by
  have hcur := hw.good_current hl i hg
  rw [onSocketClose_eq]
  refine wired_of_dropped rfl rfl (fun _ j => ?_) (fun j hj => ?_) ?_
  · simp only [unlock_sockets, lock_sockets, setSocket]
    by_cases hji : j = i
    · subst hji; simp
    · rw [Function.update_noteq hji]
      cases hgj : (w.sockets j).good
      · rfl
      · have := hw.good_current hl j hgj
        rw [hcur] at this; cases this; exact absurd rfl hji
  · simp only [unlock_sockets, lock_sockets, setSocket] at hj ⊢
    by_cases hji : j = i
    · subst hji; exact hw.connect_newest j (by simpa using hj)
    · rw [Function.update_noteq hji] at hj; exact hw.connect_newest j hj
  · simp only [unlock_state, lock_state, unlock_sockets, lock_sockets, setSocket]
    rw [hw.connecting_iff]
    refine exists_congr fun j => ?_
    by_cases hji : j = i
    · subst hji; simp
    · rw [Function.update_noteq hji]

theorem wired_fail (hw : Wired w) {i : Nat}
    (hbusy : (w.sockets i).connectPending = true ∨ w.writes i ≠ []) :
    Wired (w.setSocket i { (w.sockets i) with good := false }) := by
  have hk : ∀ j, ((w.setSocket i { (w.sockets i) with good := false }).sockets j).connectPending =
      (w.sockets j).connectPending := fun j => by
    by_cases hji : j = i
    · subst hji; simp [setSocket]
    · simp [setSocket, Function.update_noteq hji]
  refine ⟨⟨fun j hj => ?_, ?_, fun j hj => ?_, fun hl j hj => ?_, fun j hj hjg => ?_⟩, ?_⟩
  · exact hw.connect_newest j (hk j ▸ hj)
  · simp only [hk]; exact hw.connecting_iff
  · exact hw.connect_current j (hk j ▸ hj)
  · by_cases hji : j = i
    · subst hji; simp [setSocket] at hj
    · simp only [setSocket, Function.update_noteq hji] at hj; exact hw.good_current hl j hj
  · rw [hk]
    by_cases hji : j = i
    · subst hji; exact hbusy
    · simp only [setSocket, Function.update_noteq hji] at hjg; exact hw.failed_busy j hj hjg
  · exact hw.idle_armed

/-! ## Every step -/

/-- Posting a callback leaves the connection alone. -/
theorem Wired.post (hw : Wired w) (t : Task) : Wired (w.post t) :=
  hw.frame rfl rfl rfl rfl rfl rfl (fun _ _ _ h => h) fun hs hm =>
    hs (List.mem_append_left _ hm)

/-- **Every step keeps the connection invariant.** -/
theorem wired_step {e : Event} (hw : Wired w) (h : step p w e = some w') : Wired w' := by
  cases e with
  | writeMessage buffer flags =>
    cases h
    by_cases hd : Discards p w.state.pendingBytes buffer flags
    · rw [writeMessage_of_discards hd]; exact hw.lock.unlock
    · have he : Wired (enqueue buffer w) := hw.frame rfl rfl rfl rfl rfl rfl
        (fun _ _ _ h => h) id
      rw [writeMessage_of_accepts hd]
      split
      · exact (he.post _).lock.unlock
      · exact he.lock.unlock
  | flush => cases h; exact hw.post _
  | destroy => cases h; exact hw.post _
  | runTask =>
    obtain ⟨hl, t, ts, ht, rfl⟩ := step_runTask h
    have hlinks : Links { w with tasks := ts } := hw.toLinks.congr rfl rfl rfl rfl rfl rfl
    cases t with
    | connect => exact ⟨(links_connect p hlinks hl).1, fun _ _ => (links_connect p hlinks hl).2⟩
    | sendPendingMessages =>
      refine Wired.sendPendingMessages (hw.frame rfl rfl rfl rfl rfl rfl (fun _ _ _ h => h) ?_)
      intro hs hm
      rw [ht, List.mem_cons] at hm
      exact hm.elim (fun h => by cases h) hs
    | cleanup =>
      exact ⟨⟨hw.connect_newest, hw.connecting_iff, hw.connect_current, (fun h => by cases h),
        hw.failed_busy⟩, fun _ h => by cases h⟩
  | timeout =>
    obtain ⟨hl, -, rfl⟩ := step_timeout h
    have hlinks : Links { w with timerScheduled := false } := hw.toLinks.congr rfl rfl rfl rfl rfl rfl
    exact ⟨(links_connect p hlinks hl).1, fun _ _ => (links_connect p hlinks hl).2⟩
  | connectSuccess i =>
    obtain ⟨hl, hp, hg, rfl⟩ := step_connectSuccess h
    exact wired_connectSuccess hw hl hp hg
  | connectError i =>
    obtain ⟨-, hp, hg, rfl⟩ := step_connectError h
    exact wired_connectError hw hp hg
  | writeDone i =>
    obtain ⟨hl, m, rest, hwi, rfl⟩ := step_writeDone h
    split
    · rename_i hg
      have h₁ : Wired { w with writes := Function.update w.writes i rest } :=
        hw.frame rfl rfl rfl rfl rfl rfl (fun j _ hjg hne => by
          have hji : j ≠ i := fun hji => by rw [hji, hg] at hjg; cases hjg
          simpa [Function.update_noteq hji] using hne) id
      rw [onWriteSuccess_eq]
      split
      · exact h₁.removeFront.lock.sendPendingMessages.unlock
      · exact h₁.removeFront.lock.unlock
    · cases hu : w.usable with
      | some j =>
        obtain ⟨hj, hjg⟩ := usable_eq_some.mp hu
        have hu' : ({ w with writes := Function.update w.writes i rest }).usable = some j := hu
        rw [onWriteError_of_usable (by simp [hu'])]
        refine hw.frame (by simp) (by simp) (by simp) (by simp) (by simp) (by simp) ?_
          (by simp [Started])
        intro k hk hkg
        rw [hj] at hk; cases hk; rw [hjg] at hkg; cases hkg
      | none =>
        have hu' : ({ w with writes := Function.update w.writes i rest }).usable = none := hu
        rw [onWriteError_of_unusable (by simp [hu'])]
        refine wired_of_dropped rfl rfl (fun _ j => ?_) hw.connect_newest hw.connecting_iff
        cases hgj : (w.sockets j).good
        · exact hgj
        · have := usable_eq_none.mp hu j (hw.good_current hl j hgj)
          rw [hgj] at this; cases this
  | fail i =>
    obtain ⟨-, hbusy, rfl⟩ := step_fail h
    exact wired_fail hw hbusy
  | close i =>
    obtain ⟨hl, hg, rfl⟩ := step_close h
    exact wired_socketClosed hw hl hg
  | join =>
    obtain ⟨hl, rfl⟩ := step_join h
    refine ⟨⟨hw.connect_newest, hw.connecting_iff, fun _ _ => .inl rfl, fun h => ?_,
      fun _ h => by cases h⟩, fun _ h => ?_⟩ <;> simp [cleanupAfterJoin, hl] at h

theorem wired_of_reachable (hw : Reachable p w) : Wired w :=
  hw.induct_inv wired_init fun _ _ _ hi _ hs => wired_step hi hs

/-! ## The two theorems -/

/-- **`connecting` tracks the one outstanding connect.**  In every reachable
world `connecting` is set exactly when a connect issued by `connect` awaits its
completion, and no two are outstanding.  `connect` issues none while an attempt
is in flight or the socket is usable; its UDP path leaves `connecting` clear;
both completions clear it. -/
theorem connecting_tracks_connect :
    (∀ w, Reachable p w →
      (w.state.connecting = true ↔ ∃ i, (w.sockets i).connectPending = true) ∧
      ∀ i j, (w.sockets i).connectPending = true → (w.sockets j).connectPending = true → i = j) ∧
    (∀ w : World, (w.state.connecting || w.usable.isSome) = true →
      (connect p w).sockets = w.sockets ∧ (connect p w).socketCount = w.socketCount) ∧
    (∀ w : World, (w.state.connecting || w.usable.isSome) = false → p.protocol = .UDP →
      (connect p w).state.connecting = false) ∧
    (∀ w : World, (onConnectSuccess w).state.connecting = false ∧
      (onConnectError w).state.connecting = false) := by
  refine ⟨fun w hw => ?_, fun w h => ?_, fun w h hp => ?_, fun w => ⟨?_, ?_⟩⟩
  · have h := (wired_of_reachable hw).toLinks
    exact ⟨h.connecting_iff, fun _ _ => h.pending_unique⟩
  · rw [connect_of_busy h]; exact ⟨rfl, rfl⟩
  · rw [connect_of_udp h hp]; simp only [Bool.or_eq_false_iff] at h; simpa using h.1
  · cases h : w.state.pendingMessages
    · rw [onConnectSuccess_of_empty h]; rfl
    · rw [onConnectSuccess_of_pending h]; simp
  · rw [onConnectError_eq]; rfl

/-- The constructor's connect, run. -/
def constructorConnect : List Event := [.runTask]

theorem constructorConnect_tracked :
    (((run tcpDefaults init constructorConnect).get (by decide)).state.connecting = true ↔
      ∃ i, (((run tcpDefaults init constructorConnect).get (by decide)).sockets i).connectPending =
        true) ∧
    ∀ i j, (((run tcpDefaults init constructorConnect).get (by decide)).sockets i).connectPending =
        true →
      (((run tcpDefaults init constructorConnect).get (by decide)).sockets j).connectPending = true →
      i = j :=
  connecting_tracks_connect.1 _ (ReachableBy.of_run_get constructorConnect (by decide) _)

/-- Under the connection invariant, once the constructor's connect has run and
while the loop runs, the writer has a usable socket, an armed timer, or a connect
or write in flight.  A set `connecting` counts as the connect it tracks. -/
theorem Wired.way_forward (h : Wired w) (hs : Started w) (hl : w.looping = true) :
    w.usable.isSome = true ∨ w.timerScheduled = true ∨
      ∃ i, (w.sockets i).connectPending = true ∨ w.writes i ≠ [] := by
  cases hsock : w.state.socket with
  | none =>
    cases hc : w.state.connecting
    · exact .inr (.inl (h.idle_armed hs hl hsock hc))
    · obtain ⟨i, hi⟩ := h.connecting_iff.1 hc
      exact .inr (.inr ⟨i, .inl hi⟩)
  | some i =>
    cases hg : (w.sockets i).good
    · exact .inr (.inr ⟨i, h.failed_busy i hsock hg⟩)
    · exact .inl (by simp [usable, hsock, hg, Option.filter])

/-- **The writer never stalls.**  Once the constructor's connect has run, and
until `cleanup` stops the loop, every reachable world has a way forward: a
connect in flight, a usable socket, an armed reconnect timer, or an issued
connect or write that has not completed yet.  No order of failures, stale
completions from older sockets, timer firings or early returns of `connect`
leaves the writer with none of them. -/
theorem writer_never_stalls (hw : Reachable p w) (hs : Started w) (hl : w.looping = true) :
    w.state.connecting = true ∨ w.usable.isSome = true ∨ w.timerScheduled = true ∨
      ∃ i, (w.sockets i).connectPending = true ∨ w.writes i ≠ [] :=
  .inr ((wired_of_reachable hw).way_forward hs hl)

/-- The UDP writer of the constructor's defaults: its connect fails at once. -/
def udpDefaults : Params := ⟨.UDP, 1024 * 1024, by decide, 1⟩

theorem udpConnect_not_stalled :
    Started ((run udpDefaults init constructorConnect).get (by decide)) ∧
    ((run udpDefaults init constructorConnect).get (by decide)).looping = true ∧
    (((run udpDefaults init constructorConnect).get (by decide)).state.connecting = true ∨
      ((run udpDefaults init constructorConnect).get (by decide)).usable.isSome = true ∨
      ((run udpDefaults init constructorConnect).get (by decide)).timerScheduled = true ∨
      ∃ i, (((run udpDefaults init constructorConnect).get (by decide)).sockets i).connectPending =
          true ∨
        ((run udpDefaults init constructorConnect).get (by decide)).writes i ≠ []) :=
  ⟨by decide, rfl, writer_never_stalls (ReachableBy.of_run_get constructorConnect (by decide) _)
    (by decide) rfl⟩

/-- **The way forward is an operation, not a flag.**  In every reachable world
after the constructor's connect, while the loop runs, the writer has a usable
socket, an armed reconnect timer, or an issued connect or write that has not
completed.  `connecting` is not among them: the invariant ties it to an
outstanding connect, so a flag left set with nothing in flight would break
this. -/
theorem writer_has_work_in_flight (hw : Reachable p w) (hs : Started w) (hl : w.looping = true) :
    w.usable.isSome = true ∨ w.timerScheduled = true ∨
      ∃ i, (w.sockets i).connectPending = true ∨ w.writes i ≠ [] :=
  (wired_of_reachable hw).way_forward hs hl

/-- The TCP writer once the constructor's connect has run: its socket's connect
is outstanding. -/
def connectIssued : World := (run tcpDefaults init constructorConnect).get (by decide)

theorem connectIssued_in_flight :
    Started connectIssued ∧ connectIssued.looping = true ∧
      (connectIssued.usable.isSome = true ∨ connectIssued.timerScheduled = true ∨
        ∃ i, (connectIssued.sockets i).connectPending = true ∨ connectIssued.writes i ≠ []) :=
  ⟨by decide, rfl, writer_has_work_in_flight
    (ReachableBy.of_run_get constructorConnect (by decide) _) (by decide) rfl⟩

end Folly.NetworkLogWriter