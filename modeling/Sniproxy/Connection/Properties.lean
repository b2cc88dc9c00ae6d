import Sniproxy.Connection.Reachable

/-!
# Sniproxy — what holds of every reachable connection

The per-connection guarantees of `connection.c`, each read off `reachable_idle` and
`connectionCb_cases`:

* **`reachable_sockets_disciplined`** — each socket is opened before it is used or closed,
  closed at most once, never used after its close, and closed by the time the connection is
  `CLOSED`; no assertion of the close functions or of `close_connection` fails.
* **`reachable_watchers_registered`** — a started watcher belongs to an open half, and an open
  half's watcher is registered for exactly the interest its buffers call for.
* **`reachable_relay_conserves_bytes`** — each direction is relayed without loss, duplication or
  reordering.
* **`oneActive_fails_iff`** and **`full_client_buffer_fails_assertion`** — the last assertion of
  `connection_cb` ("at least one watcher is still active") fails exactly when a connection that is
  not yet `CONNECTED` has a full client buffer, which a client can cause by sending a request the
  parser finds incomplete.
-/

namespace Sniproxy

/-! ## Reading the invariant -/

/-- A socket is in the open phase exactly when its half is open. -/
theorem Sound.phase_opened_iff {c : Connection} (h : Sound c) (s : Side) :
    phase s c.log = some .opened ↔ sideOpen s c := by
  obtain ⟨p, hp, hok⟩ := h.phases s
  rw [hp]
  refine ⟨fun he => ?_, fun hs => by rw [phaseOk_of_sideOpen hs hok]⟩
  cases Option.some.inj he
  cases s <;> cases hst : c.state <;> simp_all [phaseOk, clientSocketOpen, serverSocketOpen]

/-- A sound `CLOSED` connection has both watchers stopped. -/
theorem Sound.stopped_of_closed {c : Connection} (h : Sound c) (hc : c.state = .CLOSED)
    (s : Side) : (c.half s).watcher.active = false := by
  cases ha : (c.half s).watcher.active
  · rfl
  · have := h.watcher_open s ha
    cases s <;> simp [clientSocketOpen, serverSocketOpen, hc] at this

/-! ## A run to follow

One connection from its accept to a half-closed state, on which the guarantees of this module and
of the routing and drain modules are shown at work: a client sends three bytes of a request, the
server is connected and takes them, answers two bytes, and closes before they are delivered. -/

/-- The socket address `192.0.2.1:443`, a `struct sockaddr_in` of 16 bytes. -/
def exampleServerAddr : SockAddr := ⟨"192.0.2.1", 443, 16, by decide⟩

/-- A listener whose parser finds `example.com` in any non-empty request and waits for more on an
empty one, and whose lookup sends `example.com` to `exampleServerAddr`. -/
def exampleListener : Listener :=
  ⟨fun req => if req = [] then (-1, none) else (0, some "example.com"), none,
    fun h => if h = some "example.com" then .sockaddr exampleServerAddr else .hostname ""⟩

/-- What `accept_connection` makes on `exampleListener`, with buffers of 4 bytes. -/
def exampleAccepted : Connection :=
  { newConnection exampleListener 4 with
    state := .ACCEPTED, log := [.accept], client := ⟨newBuffer 4, evIoStart (evIoInit EV_READ)⟩ }

theorem exampleAccepted_reachable : Reachable exampleAccepted :=
  .accept (show acceptConnection exampleListener 4 true (.ok ()) = some exampleAccepted from rfl)

/-- The kernel's answers to a first callback: three bytes of a request, a socket, and a `connect`
in progress. -/
def exampleIo : Io := ⟨.ok [22, 3, 1], .ok 0, .ok (), .error .EINPROGRESS⟩

/-- What that callback on the client watcher leaves: parsed, resolved and connecting, with the
server watcher asking to read and to write. -/
def exampleConnected : Connection where
  state := .CONNECTED
  client := ⟨⟨4, [22, 3, 1], by decide, by decide⟩, ⟨EV_READ, true⟩⟩
  server := ⟨newBuffer 4, ⟨⟨true, true⟩, true⟩⟩
  serverAddr := some exampleServerAddr
  hostname := some "example.com"
  listener := exampleListener
  log := [.connect (some exampleServerAddr), .socket, .recv .client [22, 3, 1], .accept]

theorem exampleConnected_reachable : Reachable exampleConnected :=
  .callback (w := .client) exampleAccepted_reachable rfl (by decide)
    (show connectionCb exampleAccepted .client EV_READ exampleIo = .ok exampleConnected from rfl)
    (by decide)

/-- The kernel's answers to a second callback, on the server watcher: the socket takes all three
bytes. -/
def exampleIoSend : Io := ⟨.ok [], .ok 3, .ok (), .ok ()⟩

/-- What that callback leaves: the request delivered, both watchers asking to read. -/
def exampleServed : Connection :=
  { exampleConnected with
    client := ⟨newBuffer 4, ⟨EV_READ, true⟩⟩
    server := ⟨newBuffer 4, ⟨EV_READ, true⟩⟩
    log := .send .server [22, 3, 1] :: exampleConnected.log }

theorem exampleServed_reachable : Reachable exampleServed :=
  .callback (w := .server) exampleConnected_reachable rfl (by decide)
    (show connectionCb exampleConnected .server EV_WRITE exampleIoSend = .ok exampleServed from rfl)
    (by decide)

/-- The server answers two bytes, which wait in the server buffer; the client watcher now asks to
write as well. -/
def exampleAnswered : Connection :=
  { exampleServed with
    client := ⟨newBuffer 4, ⟨⟨true, true⟩, true⟩⟩
    server := ⟨⟨4, [7, 8], by decide, by decide⟩, ⟨EV_READ, true⟩⟩
    log := .recv .server [7, 8] :: exampleServed.log }

theorem exampleAnswered_reachable : Reachable exampleAnswered :=
  .callback (w := .server) exampleServed_reachable rfl (by decide)
    (show connectionCb exampleServed .server EV_READ ⟨.ok [7, 8], .ok 0, .ok (), .ok ()⟩ =
      .ok exampleAnswered from rfl) (by decide)

/-- Then the server closes: `SERVER_CLOSED`, its two bytes not yet delivered. -/
def exampleHalfClosed : Connection :=
  { exampleAnswered with
    state := .SERVER_CLOSED
    server := ⟨⟨4, [7, 8], by decide, by decide⟩, ⟨EV_READ, false⟩⟩
    log := .close .server :: .recv .server [] :: exampleAnswered.log }

theorem exampleHalfClosed_reachable : Reachable exampleHalfClosed :=
  .callback (w := .server) exampleAnswered_reachable rfl (by decide)
    (show connectionCb exampleAnswered .server EV_READ ⟨.ok [], .ok 0, .ok (), .ok ()⟩ =
      .ok exampleHalfClosed from rfl) (by decide)

/-! ## The guarantees -/

/-- What the watchers of a connection look like between two callbacks. -/
structure WatcherDiscipline (c : Connection) : Prop where
  /-- A started watcher belongs to an open half. -/
  active_open : ∀ s, (c.half s).watcher.active → sideOpen s c
  /-- An open half's watcher is started exactly when its buffers call for some interest
  (reading while its own buffer has room, writing while the other half's holds bytes), and then
  with exactly that interest. -/
  registered : ∀ s, sideOpen s c → Registered (c.half s).watcher (desired c s)
  /-- A callback that brings the connection to `CLOSED` leaves both watchers stopped, as
  `free_connection` requires. -/
  closed_stopped : ∀ w revents io c', (c.half w).watcher.active →
    connectionCb c w revents io = .ok c' → c'.state = .CLOSED →
    ∀ s, (c'.half s).watcher.active = false
  /-- So does `close_connection`. -/
  shutdown_stopped : ∀ c', closeConnection c = .ok c' → ∀ s, (c'.half s).watcher.active = false

/-- **Watchers follow the buffers**, in every reachable connection. -/
theorem reachable_watchers_registered {c : Connection} (hc : Reachable c) :
    WatcherDiscipline c := by
  have h := reachable_idle hc
  refine ⟨h.sound.watcher_open, h.registered, fun w revents io c' hw hcb hcl => ?_, ?_⟩
  · exact (connectionCb_ok h hw hcb).1.stopped_of_closed hcl
  · intro c' hcc
    obtain ⟨c'', hcc', hs, hst⟩ := closeConnection_spec h.sound h.waiting
    rw [hcc] at hcc'; cases hcc'
    exact hs.stopped_of_closed hst

theorem exampleHalfClosed_watchers_registered :
    Reachable exampleHalfClosed ∧ WatcherDiscipline exampleHalfClosed :=
  ⟨exampleHalfClosed_reachable, reachable_watchers_registered exampleHalfClosed_reachable⟩

/-- The relay of a connection is intact: the bytes written to the server followed by the client
buffer are the bytes read from the client, and the bytes written to the client followed by the
server buffer are the bytes read from the server. What reached the server is a prefix of the
client's stream, from its first byte. -/
structure RelayIntact (c : Connection) : Prop where
  to_server : sent .server c.log ++ c.client.buffer.data = received .client c.log
  to_client : sent .client c.log ++ c.server.buffer.data = received .server c.log
  prefix_of_client : sent .server c.log <+: received .client c.log

theorem Sound.relayIntact {c : Connection} (h : Sound c) : RelayIntact c := by
  have hc := (h.relay .client).symm
  have hs := (h.relay .server).symm
  simp only [Connection.half_client, Connection.half_server, Side.other] at hc hs
  exact ⟨hc, hs, ⟨_, hc⟩⟩

/-- **Each direction is relayed intact**, in every reachable connection and right after any
callback on it, the last one included: nothing is lost, duplicated, reordered, or crosses to the
other direction, and the bytes `parse_client_request` peeked at were not consumed. -/
theorem reachable_relay_conserves_bytes {c : Connection} (hc : Reachable c) :
    RelayIntact c ∧ ∀ w revents io c', (c.half w).watcher.active →
      connectionCb c w revents io = .ok c' → RelayIntact c' := by
  have h := reachable_idle hc
  exact ⟨h.sound.relayIntact,
    fun w revents io c' hw hcb => (connectionCb_ok h hw hcb).1.relayIntact⟩

theorem exampleHalfClosed_relay_conserves_bytes :
    Reachable exampleHalfClosed ∧ RelayIntact exampleHalfClosed ∧
      ∀ w revents io c', (exampleHalfClosed.half w).watcher.active →
        connectionCb exampleHalfClosed w revents io = .ok c' → RelayIntact c' :=
  ⟨exampleHalfClosed_reachable, reachable_relay_conserves_bytes exampleHalfClosed_reachable⟩

/-! ## The last assertion of `connection_cb` -/

/-- The last assertion asks for some half whose watcher is started with a non-empty interest. -/
theorem oneActive_iff (c : Connection) :
    oneActive c = true ↔ ∃ s, (c.half s).watcher.active ∧ (c.half s).watcher.events ≠ .none := by
  simp [oneActive, Side.exists]

/-- After reactivation, the last assertion asks for an open half whose buffers call for some
interest. -/
theorem oneActive_reactivate_iff {c : Connection} (h : Sound c) :
    oneActive (reactivateWatchers c) = true ↔ ∃ s, sideOpen s c ∧ desired c s ≠ .none := by
  have hdes : ∀ s, desired (reactivateWatchers c) s = desired c s := by
    intro s
    simp only [desired, reactivateWatchers_half]
    split_ifs <;> rfl
  rw [oneActive_iff]
  refine exists_congr fun s => ?_
  by_cases hs : sideOpen s c
  · obtain ⟨hact, hev⟩ := reactivateWatchers_registered c hs
    rw [hdes] at hact hev
    exact ⟨fun ⟨ha, _⟩ => ⟨hs, hact.mp ha⟩, fun ⟨_, hd⟩ => ⟨hact.mpr hd, hev (hact.mpr hd) ▸ hd⟩⟩
  · have hoff : ((reactivateWatchers c).half s).watcher.active = false := by
      rw [reactivateWatchers_half, if_neg hs]
      cases ha : (c.half s).watcher.active
      · rfl
      · exact absurd (h.watcher_open s ha) hs
    simp [hoff, hs]

/-- A half calls for no interest when its buffer is full and the other half's is empty. -/
theorem desired_eq_none (c : Connection) (s : Side) :
    desired c s = .none ↔ bufferRoom (c.half s).buffer = 0 ∧ (c.half s.other).buffer.data = [] := by
  simp only [desired, Events.none, Events.mk.injEq, decide_eq_false_iff_not, not_lt, ne_eq,
    Decidable.not_not, bufferRoom, Nat.sub_eq_zero_iff_le]

/-- In a waiting state, no open half calls for any interest exactly when the connection is not
yet `CONNECTED` and its client buffer is full. Once connected, a full client buffer has bytes
for the server; a half-closed connection still has bytes for its open half. -/
theorem no_interest_iff {c : Connection} (h : Sound c) (hw : c.state.Waiting)
    (hsc : c.state = .SERVER_CLOSED → c.server.buffer.data ≠ [])
    (hcc : c.state = .CLIENT_CLOSED → c.client.buffer.data ≠ []) :
    (∀ s, sideOpen s c → desired c s = .none) ↔
      (c.state = .ACCEPTED ∨ c.state = .RESOLVED) ∧ bufferRoom c.client.buffer = 0 := by
  have hfull : bufferRoom c.client.buffer = 0 → c.client.buffer.data ≠ [] := by
    intro h0 hnil
    simp [bufferRoom, hnil] at h0
    exact absurd c.client.buffer.size_pos (by omega)
  simp only [Side.forall, desired_eq_none, Connection.half_client, Connection.half_server,
    Side.other]
  cases hst : c.state <;> simp only [State.Waiting, hst, Bool.false_eq_true] at hw <;>
    simp only [sideOpen_client, sideOpen_server, clientSocketOpen, serverSocketOpen, hst,
      forall_const, true_implies, false_implies, and_true, true_and, or_false, false_or,
      reduceCtorEq, false_and, iff_false, not_and]
  · simp [h.server_idle (by simp [hst, State.stage])]
  · simp [h.server_idle (by simp [hst, State.stage])]
  · exact fun h0 _ => hfull h0.1
  · exact fun _ => hsc hst
  · exact fun _ => hcc hst

/-- **When the last assertion fails.** A callback on a reachable connection fails the assertion
that ends `connection_cb` ("at least one watcher is still active") exactly when it leaves the
connection `ACCEPTED` or `RESOLVED` with a full client buffer: then the client watcher asks for
nothing, and the server half is not open. In every later state the half-closed rule and the
buffers keep some interest alive. -/
theorem oneActive_fails_iff {c : Connection} (hc : Reachable c) {w : Side} (revents : Events)
    (io : Io) (hw : (c.half w).watcher.active) :
    connectionCb c w revents io = .error .oneWatcherActive ↔
      ∃ c'', handleEvent c w revents io = .ok c'' ∧
        (c''.state = .ACCEPTED ∨ c''.state = .RESOLVED) ∧ bufferRoom c''.client.buffer = 0 := by
  have h := reachable_idle hc
  obtain ⟨c'', he, hs, -, hset, hsc, hcc⟩ :=
    handleEvent_spec revents io h.sound (h.sound.watcher_open w hw) h.waiting
  obtain ⟨c3, he3, -, -, hcases⟩ := connectionCb_cases revents io h hw
  rw [he] at he3; cases he3
  -- the callback fails iff, after reactivation, no open half calls for any interest
  have hfail : connectionCb c w revents io = .error .oneWatcherActive ↔
      c''.state.Waiting ∧ oneActive (reactivateWatchers c'') = false := by
    rcases hcases with ⟨hcl, hcb⟩ | ⟨hwt, hone, hcb, -⟩ | ⟨hwt, hone, hcb⟩ <;> rw [hcb]
    · simp [hcl, State.Waiting]
    · simp [hone]
    · simp [hwt, hone]
  simp only [hfail, he, Except.ok.injEq, exists_eq_left']
  constructor
  · rintro ⟨hwt, hone⟩
    refine (no_interest_iff hs hwt hsc hcc).mp fun s hs' => ?_
    by_contra hne
    simp [(oneActive_reactivate_iff hs).mpr ⟨s, hs', hne⟩] at hone
  · intro hacc
    have hwt : c''.state.Waiting := by rcases hacc.1 with h1 | h1 <;> simp [h1, State.Waiting]
    refine ⟨hwt, Bool.eq_false_iff.mpr fun hone => ?_⟩
    obtain ⟨s, hs', hne⟩ := (oneActive_reactivate_iff hs).mp hone
    exact hne ((no_interest_iff hs hwt hsc hcc).mpr hacc s hs')

/-- A listener whose parser finds every request incomplete. -/
def incompleteListener : Listener := ⟨fun _ => (-1, none), none, fun _ => .hostname ""⟩

/-- The connection `accept_connection` creates for `incompleteListener` with four-byte
buffers. -/
def acceptedAtFour : Connection :=
  { newConnection incompleteListener 4 with
    state := .ACCEPTED, log := [.accept], client := ⟨newBuffer 4, evIoStart (evIoInit EV_READ)⟩ }

theorem acceptedAtFour_reachable : Reachable acceptedAtFour :=
  .accept (show acceptConnection incompleteListener 4 true (.ok ()) = some acceptedAtFour from rfl)

theorem acceptedAtFour_fails_iff :
    Reachable acceptedAtFour ∧ (acceptedAtFour.half .client).watcher.active ∧
      (connectionCb acceptedAtFour .client EV_READ ⟨.ok [0, 0, 0, 0], .ok 0, .ok (), .ok ()⟩ =
          .error .oneWatcherActive ↔
        ∃ c'', handleEvent acceptedAtFour .client EV_READ
            ⟨.ok [0, 0, 0, 0], .ok 0, .ok (), .ok ()⟩ = .ok c'' ∧
          (c''.state = .ACCEPTED ∨ c''.state = .RESOLVED) ∧ bufferRoom c''.client.buffer = 0) :=
  ⟨acceptedAtFour_reachable, rfl, oneActive_fails_iff acceptedAtFour_reachable _ _ rfl⟩

/-- **A full client buffer before `CONNECTED` aborts the callback.** Whatever the buffer capacity,
a client whose first read fills the client buffer with a request the listener's parser finds
incomplete (`-1`) leaves the connection `ACCEPTED` with nothing to wait for: the client buffer
has no room, the server half is not open, and `connection_cb` fails its last assertion. -/
theorem full_client_buffer_fails_assertion (listener : Listener) (size : ℕ+) (bytes : List UInt8)
    (hlen : bytes.length = size) (hparse : (listener.parsePacket (bytes.take 1460)).1 = -1) :
    (acceptConnection listener size true (.ok ())).map
        (fun c => connectionCb c .client EV_READ ⟨.ok bytes, .ok 0, .ok (), .ok ()⟩) =
      some (.error .oneWatcherActive) := by
  have hne : bytes ≠ [] := by rintro rfl; simp at hlen; exact absurd size.pos (by omega)
  -- run the one path: `recv` fills the client buffer, the parser returns `-1` so the state stays
  -- `ACCEPTED`, reactivation stops the client watcher (no room, nothing to write), and the
  -- server watcher was never started
  simp [acceptConnection, connectionCb, handleEvent, receive, transmit, handleState, closeFlushed,
    Connection.recvOn, Connection.syscall, Connection.setHalf, newConnection, newBuffer,
    bufferRoom, bufferLen, bufferRecv, bufferPeek, moved, parseClientRequest, hlen, hparse, hne,
    List.take_of_length_le, reactivateWatchers, reactivateWatcher, checkWatchers, assert,
    clientSocketOpen, serverSocketOpen, Watcher.zero, evIoStart, evIoInit, evIoStop, evIoSet,
    Events.union, Events.none, EV_READ, EV_WRITE]

/-- The abort with a four-byte buffer, filled by one read. -/
theorem full_client_buffer_fails_at_four :
    ([0, 0, 0, 0] : List UInt8).length = ((4 : ℕ+) : Nat) ∧
      (incompleteListener.parsePacket (([0, 0, 0, 0] : List UInt8).take 1460)).1 = -1 ∧
      (acceptConnection incompleteListener 4 true (.ok ())).map
          (fun c => connectionCb c .client EV_READ ⟨.ok [0, 0, 0, 0], .ok 0, .ok (), .ok ()⟩) =
        some (.error .oneWatcherActive) :=
  ⟨rfl, rfl, full_client_buffer_fails_assertion _ 4 [0, 0, 0, 0] rfl rfl⟩

end Sniproxy
