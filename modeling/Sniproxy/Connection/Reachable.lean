import Sniproxy.Connection.Sound

/-!
# Sniproxy — reachable connections

A connection is reachable when `accept_connection` created it and every later `connection_cb`
invocation ran on a started watcher, with readiness within that watcher's interest and any
answers of the kernel, parser and lookup, and returned normally without reaching `CLOSED` (at
which it is freed). Between two callbacks such a connection satisfies `Idle`: the invariant
`Sound`, a resting state, and each open half's watcher registered for exactly the interest its
buffers call for (`desired`).

* **`reactivateWatcher_registered`** — `reactivate_watcher` registers the interest it computes.
* **`connectionCb_cases`** — a callback from an idle connection either returns an idle connection,
  returns a `CLOSED` one with both watchers stopped, or fails the last assertion of
  `connection_cb`; never any other assertion.
* **`reachable_idle`** — every reachable connection is idle, by induction on the run.
-/

namespace Sniproxy

/-- A watcher registered for exactly the interest `e`: started iff `e` is not empty, and then
with interest `e`. -/
def Registered (w : Watcher) (e : Events) : Prop :=
  (w.active ↔ e ≠ .none) ∧ (w.active → w.events = e)

/-- The interest `reactivate_watcher` computes for a half from its input and output buffers. -/
def interestOf (input output : Buffer) : Events := ⟨bufferRoom input != 0, bufferLen output != 0⟩

/-- **`reactivate_watcher`** registers the watcher for the interest it computes, whatever state
the watcher was in. -/
theorem reactivateWatcher_registered (w : Watcher) (input output : Buffer) :
    Registered (reactivateWatcher w input output) (interestOf input output) := by
  have hev : (if bufferLen output != 0 then
      (if bufferRoom input != 0 then Events.none.union EV_READ else .none).union EV_WRITE
      else if bufferRoom input != 0 then Events.none.union EV_READ else .none) =
      interestOf input output := by
    unfold interestOf
    split_ifs <;> simp_all [Events.union, Events.none, EV_READ, EV_WRITE]
  unfold reactivateWatcher
  simp only [hev]
  split_ifs <;> simp_all [Registered, evIoStop, evIoStart, evIoSet]

/-- The interest `reactivate_watcher` computes is the one the buffers call for. -/
theorem interestOf_eq_desired (c : Connection) (s : Side) :
    interestOf (c.half s).buffer (c.half s.other).buffer = desired c s := by
  unfold interestOf desired
  congr 1 <;> rw [Bool.eq_iff_iff, bne_iff_ne, decide_eq_true_eq]
  · exact bufferRoom_ne_zero_iff _
  · exact not_congr List.length_eq_zero

/-! ## Reactivating the watchers -/

theorem reactivateWatchers_state (c : Connection) : (reactivateWatchers c).state = c.state := by
  unfold reactivateWatchers; dsimp only; split_ifs <;> rfl

/-- `reactivateWatchers` changes nothing but the watchers of open halves. -/
theorem reactivateWatchers_half (c : Connection) (s : Side) :
    (reactivateWatchers c).half s =
      if sideOpen s c then
        { c.half s with watcher :=
            reactivateWatcher (c.half s).watcher (c.half s).buffer (c.half s.other).buffer }
      else c.half s := by
  cases s <;> unfold reactivateWatchers <;> dsimp only <;> split_ifs <;>
    simp_all [clientSocketOpen, serverSocketOpen, Side.other]

theorem reactivateWatchers_log (c : Connection) : (reactivateWatchers c).log = c.log := by
  unfold reactivateWatchers; dsimp only; split_ifs <;> rfl

/-- Reactivation keeps the invariant: it touches only the watchers of open halves. -/
theorem Sound.reactivate {c : Connection} (h : Sound c) :
    Sound (reactivateWatchers c) := by
  have hbuf : ∀ s, ((reactivateWatchers c).half s).buffer = (c.half s).buffer := by
    intro s; rw [reactivateWatchers_half]; split_ifs <;> rfl
  have hopen : ∀ s, sideOpen s (reactivateWatchers c) = sideOpen s c :=
    fun s => sideOpen_congr s (reactivateWatchers_state c)
  refine ⟨fun s => ?_, fun s ha => ?_, fun s => ?_, fun h3 => ?_⟩
  · simpa [reactivateWatchers_log, reactivateWatchers_state] using h.phases s
  · rw [hopen]
    rw [reactivateWatchers_half] at ha
    split_ifs at ha with hs
    · exact hs
    · exact h.watcher_open s ha
  · rw [reactivateWatchers_log, hbuf]; exact h.relay s
  · have := hbuf .server
    simp only [Connection.half_server] at this
    rw [this]; exact h.server_idle (by simpa [reactivateWatchers_state] using h3)

/-- After reactivation every open half is registered for the interest its buffers call for. -/
theorem reactivateWatchers_registered (c : Connection) {s : Side} (hs : sideOpen s c) :
    Registered ((reactivateWatchers c).half s).watcher (desired (reactivateWatchers c) s) := by
  have hbuf : ∀ s, ((reactivateWatchers c).half s).buffer = (c.half s).buffer := by
    intro s; rw [reactivateWatchers_half]; split_ifs <;> rfl
  rw [← interestOf_eq_desired, hbuf, hbuf, reactivateWatchers_half, if_pos hs]
  exact reactivateWatcher_registered _ _ _

/-! ## One callback -/

/-- The invariant between callbacks: `Sound`, a resting state, and every open half's watcher
registered for the interest its buffers call for. -/
structure Idle (c : Connection) : Prop where
  sound : Sound c
  waiting : c.state.Waiting
  registered : ∀ s, sideOpen s c → Registered (c.half s).watcher (desired c s)

/-- The last assertion of `connection_cb`: some watcher is active with a non-empty interest. -/
def oneActive (c : Connection) : Bool :=
  (c.client.watcher.active && c.client.watcher.events != .none) ||
    (c.server.watcher.active && c.server.watcher.events != .none)

/-- Of the three assertions that end `connection_cb`, the first two hold of any sound
connection: only the last can fail. -/
theorem checkWatchers_of_sound {c : Connection} (h : Sound c) :
    checkWatchers c = assert (oneActive c) .oneWatcherActive := by
  have hc : (clientSocketOpen c || !c.client.watcher.active) = true := by
    cases ha : c.client.watcher.active
    · simp
    · simpa using h.watcher_open .client (by simpa using ha)
  have hs : (serverSocketOpen c || !c.server.watcher.active) = true := by
    cases ha : c.server.watcher.active
    · simp
    · simpa using h.watcher_open .server (by simpa using ha)
  simp [checkWatchers, assert, hc, hs, oneActive]

/-- **One callback on an idle connection.** On a started watcher, `connection_cb` first does to
the sockets what `handleEvent` does, keeping the invariant and moving forward; then either the
connection is `CLOSED` and returned as is, or it rests in a waiting state and the watchers are
reactivated, after which the last assertion passes (an idle connection is returned) or fails.
No other assertion fails. -/
theorem connectionCb_cases {c : Connection} {w : Side} (revents : Events) (io : Io) (h : Idle c)
    (hw : (c.half w).watcher.active) :
    ∃ c'', handleEvent c w revents io = .ok c'' ∧ Sound c'' ∧ c.state.Precedes c''.state ∧
      ((c''.state = .CLOSED ∧ connectionCb c w revents io = .ok c'') ∨
       (c''.state.Waiting ∧ oneActive (reactivateWatchers c'') ∧
         connectionCb c w revents io = .ok (reactivateWatchers c'') ∧
         Idle (reactivateWatchers c'')) ∨
       (c''.state.Waiting ∧ oneActive (reactivateWatchers c'') = false ∧
         connectionCb c w revents io = .error .oneWatcherActive)) := by
  obtain ⟨c'', he, hs, hp, hset, -, -⟩ :=
    handleEvent_spec revents io h.sound (h.sound.watcher_open w hw) h.waiting
  refine ⟨c'', he, hs, hp, ?_⟩
  by_cases hcl : c''.state = .CLOSED
  · exact .inl ⟨hcl, by simp [connectionCb, he, hcl]⟩
  have hwait : c''.state.Waiting := by
    cases hst : c''.state <;> simp_all [State.Waiting, State.Settled]
  have hcheck := checkWatchers_of_sound hs.reactivate
  have hcb : connectionCb c w revents io =
      (assert (oneActive (reactivateWatchers c'')) .oneWatcherActive >>= fun _ =>
        .ok (reactivateWatchers c'')) := by
    simp [connectionCb, he, hcl, hcheck]
  right
  cases hone : oneActive (reactivateWatchers c'')
  · exact .inr ⟨hwait, rfl, by simp [hcb, hone, assert]⟩
  · refine .inl ⟨hwait, rfl, by simp [hcb, hone, assert], hs.reactivate,
      by rwa [reactivateWatchers_state], fun s hs' => ?_⟩
    exact reactivateWatchers_registered c''
      (by rwa [sideOpen_congr s (reactivateWatchers_state c'')] at hs')

/-! ## Reachable connections -/

/-- The connections the code can hold between two callbacks: one `accept_connection` created it,
then each `connection_cb` invocation ran on a started watcher, with readiness within its
interest and any answers of the kernel, and returned without reaching `CLOSED`. -/
inductive Reachable : Connection → Prop
  | accept {listener : Listener} {size : ℕ+} {allocated : Bool} {accepted : Except Errno Unit}
      {c : Connection} :
      acceptConnection listener size allocated accepted = some c → Reachable c
  | callback {c c' : Connection} {w : Side} {revents : Events} {io : Io} :
      Reachable c → (c.half w).watcher.active → revents.Within (c.half w).watcher.events →
      connectionCb c w revents io = .ok c' → c'.state ≠ .CLOSED → Reachable c'

/-- What `accept_connection` creates: an `ACCEPTED` connection whose log holds the `accept`, with
empty buffers and the client watcher started for `EV_READ`. -/
theorem acceptConnection_eq {listener : Listener} {size : ℕ+} {allocated : Bool}
    {accepted : Except Errno Unit} {c : Connection}
    (hc : acceptConnection listener size allocated accepted = some c) :
    c = { newConnection listener size with
      state := .ACCEPTED, log := [.accept],
      client := ⟨newBuffer size, evIoStart (evIoInit EV_READ)⟩ } := by
  unfold acceptConnection at hc
  split_ifs at hc
  rcases accepted with _ | ⟨⟩
  · cases hc
  · cases hc; rfl

/-- A freshly accepted connection is idle. -/
theorem accept_idle {listener : Listener} {size : ℕ+} {allocated : Bool}
    {accepted : Except Errno Unit} {c : Connection}
    (hc : acceptConnection listener size allocated accepted = some c) : Idle c := by
  rw [acceptConnection_eq hc]
  refine ⟨⟨fun s => ?_, fun s ha => ?_, fun s => ?_, fun _ => rfl⟩, rfl, fun s hs => ?_⟩
  · cases s <;> simp [SockPhase.next, Syscall.opens, Syscall.uses, phaseOk]
  · cases s <;> simp_all [clientSocketOpen, evIoStart, Watcher.zero, evIoInit, newConnection]
  · cases s <;> rfl
  · cases s
    · simp [Registered, desired, evIoStart, evIoInit, EV_READ, Events.none, newConnection,
        Side.other, newBuffer]
    · simp [serverSocketOpen] at hs

/-- **Every reachable connection is idle.** Induction on the run: `accept_connection` gives an
idle connection, and a callback that returns without reaching `CLOSED` returns one. -/
theorem reachable_idle {c : Connection} (hc : Reachable c) : Idle c := by
  induction hc with
  | accept hc => exact accept_idle hc
  | callback _ hw _ hcb hcl ih =>
    obtain ⟨c'', -, -, -, ⟨hc'', hcb'⟩ | ⟨-, -, hcb', hidle⟩ | ⟨-, -, hcb'⟩⟩ :=
      connectionCb_cases _ _ ih hw <;> rw [hcb] at hcb' <;> cases hcb'
    · exact absurd hc'' hcl
    · exact hidle

/-- A callback on an idle connection that returns, returns a sound connection, later in its
life, resting or `CLOSED`. -/
theorem connectionCb_ok {c c' : Connection} {w : Side} {revents : Events} {io : Io} (h : Idle c)
    (hw : (c.half w).watcher.active) (hcb : connectionCb c w revents io = .ok c') :
    Sound c' ∧ c.state.Precedes c'.state ∧ (c'.state.Waiting ∨ c'.state = .CLOSED) := by
  obtain ⟨c'', -, hs, hp, ⟨hc'', hcb'⟩ | ⟨hwait, -, hcb', hidle⟩ | ⟨-, -, hcb'⟩⟩ :=
    connectionCb_cases revents io h hw <;> rw [hcb] at hcb' <;> cases hcb'
  · exact ⟨hs, hp, .inr hc''⟩
  · exact ⟨hidle.sound, by rwa [reactivateWatchers_state], .inl hidle.waiting⟩

end Sniproxy
