import Sniproxy.Connection.Basic

/-!
# Sniproxy — `connection_cb` and the functions it calls

The per-connection half of `connection.c`, function by function. Each C function that can fail
an `assert` returns `Except Assertion`, an `.error` being the abort the failed assertion causes;
the others are plain functions. `connection_cb` is cut along its own comments:

* **`receive`** — "Receive first in case the socket was closed";
* **`transmit`** — "Transmit";
* **`handleState`** — "Handle any state specific logic" (`parse_client_request`,
  `resolve_server_address`, `initiate_server_connect`);
* **`closeFlushed`** — "Close other socket if we have flushed corresponding buffer";
* **`reactivateWatchers`** and **`checkWatchers`** — "Reactivate watchers" and the three
  assertions after it.

`handleEvent` is the first four, `connectionCb` the whole callback up to its registry update
(unlinking at `CLOSED`, or moving the connection to the head), which `Sniproxy.Registry` adds.
-/

namespace Sniproxy

/-- The assertions of `connection.c`, named by where they sit. -/
inductive Assertion where
  /-- `close_client_socket` / `close_server_socket`: the half is not closed yet. -/
  | closeSocket (s : Side)
  /-- `close_connection`: `con->state != NEW`. -/
  | closeConnectionNew
  /-- `close_connection`: only the client half is left after closing the server half. -/
  | closeConnectionHalf
  /-- `close_connection`: `con->state == CLOSED` at the end. -/
  | closeConnectionClosed
  /-- `resolve_server_address`: past the hostname test the address is a socket address. -/
  | resolveSockaddr
  /-- `resolve_server_address`: the socket address fits `con->server.addr`. -/
  | resolveAddrLen
  /-- `connection_cb`: the watcher of a closed half is not active. -/
  | watcherStopped (s : Side)
  /-- `connection_cb`: at least one watcher is active with a non-empty interest. -/
  | oneWatcherActive
  deriving DecidableEq, Repr

/-- `assert(p)`: abort with `a` unless `p`. -/
def assert (p : Bool) (a : Assertion) : Except Assertion Unit :=
  if p then pure () else throw a

/-! ## Closing a half -/

/-- The body `close_client_socket` and `close_server_socket` share, for the half `s`: assert that
the connection is neither `CLOSED` nor already in `halfClosed`, stop the half's watcher, close its
socket, then move to `CLOSED` if `last` says the other half is gone already, else to
`halfClosed`. -/
def closeSocket (s : Side) (halfClosed : State) (last : State → Bool) (con : Connection) :
    Except Assertion Connection := do
  assert (con.state != .CLOSED && con.state != halfClosed) (.closeSocket s)
  let h := con.half s
  let con := (con.setHalf s { h with watcher := evIoStop h.watcher }).syscall (.close s)
  pure { con with state := if last con.state then .CLOSED else halfClosed }

/-- `close_client_socket`. -/
def closeClientSocket : Connection → Except Assertion Connection :=
  closeSocket .client .CLIENT_CLOSED fun st =>
    st == .SERVER_CLOSED || st == .ACCEPTED || st == .PARSED || st == .RESOLVED

/-- `close_server_socket`. -/
def closeServerSocket : Connection → Except Assertion Connection :=
  closeSocket .server .SERVER_CLOSED fun st => st == .CLIENT_CLOSED

/-- `close_socket` in `connection_cb`: `is_client ? close_client_socket : close_server_socket`. -/
def closeSocketOf : Side → Connection → Except Assertion Connection
  | .client => closeClientSocket
  | .server => closeServerSocket

/-! ## Parse, resolve, connect -/

/-- `parse_client_request`: peek at most 1460 bytes (one TCP MSS) of the client buffer and pass
them to the listener's parser. Incomplete (`-1`): try again on the next event. No hostname (`-2`)
or malformed (`< -2`): close the client half unless the listener has a fallback address (the two
cases differ only in their log line). Otherwise keep the hostname the parser set; `PARSED`. -/
def parseClientRequest (con : Connection) : Except Assertion Connection :=
  let parsed := con.listener.parsePacket (bufferPeek con.client.buffer 1460)
  if parsed.1 = -1 then pure con
  else if parsed.1 ≤ -2 ∧ con.listener.fallbackAddress = none then closeClientSocket con
  else pure { con with hostname := parsed.2, state := .PARSED }

/-- `resolve_server_address`: look the hostname up; a hostname backend is not resolved ("DNS
lookups not supported") and closes the client half. Otherwise assert that the address is a socket
address and that its length fits `con->server.addr`, copy it, and move to `RESOLVED`. -/
def resolveServerAddress (con : Connection) : Except Assertion Connection := do
  let serverAddress := con.listener.lookupServerAddress con.hostname
  match serverAddress with
  | .hostname _ => closeClientSocket con
  | .sockaddr sa =>
    assert serverAddress.isSockaddr .resolveSockaddr
    assert (sa.len ≤ sockaddrStorageSize) .resolveAddrLen
    pure { con with serverAddr := some sa, state := .RESOLVED }

/-- Both assertions of `resolve_server_address` hold: past the hostname test the address is a
socket address, and every socket address fits `struct sockaddr_storage`. -/
theorem resolveServerAddress_eq (con : Connection) :
    resolveServerAddress con = match con.listener.lookupServerAddress con.hostname with
      | .hostname _ => closeClientSocket con
      | .sockaddr sa => pure { con with serverAddr := some sa, state := .RESOLVED } := by
  unfold resolveServerAddress
  cases h : con.listener.lookupServerAddress con.hostname with
  | hostname => simp [h]
  | sockaddr sa => simp [h, assert, Address.isSockaddr, sa.len_le]

/-- Whether `connect` failed for good: `result < 0 && errno != EINPROGRESS`. -/
def connectFailed : Except Errno Unit → Bool
  | .error e => e != .EINPROGRESS
  | .ok () => false

/-- `initiate_server_connect`: if `socket` fails, nothing changes. Otherwise `connect` the new
socket to the server address; on failure close it and go to `SERVER_CLOSED`, else arm the server
watcher for `EV_WRITE`, start it, and go to `CONNECTED`. -/
def initiateServerConnect (con : Connection) (socket connect : Except Errno Unit) : Connection :=
  match socket with
  | .error _ => con
  | .ok () =>
    let con := (con.syscall .socket).syscall (.connect con.serverAddr)
    if connectFailed connect then { con.syscall (.close .server) with state := .SERVER_CLOSED }
    else { con with server := { con.server with watcher := evIoStart (evIoInit EV_WRITE) },
                    state := .CONNECTED }

/-! ## `connection_cb` -/

/-- The bytes a `recv` or `send` moved; none when it failed. -/
def moved : Except Errno (List UInt8) → List UInt8
  | .ok bytes => bytes
  | .error _ => []

/-- `buffer_recv(input_buffer, w->fd, 0)`: receive into the buffer of half `w` from its socket. -/
def Connection.recvOn (con : Connection) (w : Side) (r : Except Errno (List UInt8)) :
    Connection × Except Errno (List UInt8) :=
  let h := con.half w
  let res := bufferRecv h.buffer r
  ((con.setHalf w { h with buffer := res.1 }).syscall (.recv w (moved res.2)), res.2)

/-- `buffer_send(output_buffer, w->fd, 0)`: send the other half's buffer on the socket of `w`. -/
def Connection.sendOn (con : Connection) (w : Side) (r : Except Errno Nat) :
    Connection × Except Errno (List UInt8) :=
  let h := con.half w.other
  let res := bufferSend h.buffer r
  ((con.setHalf w.other { h with buffer := res.1 }).syscall (.send w (moved res.2)), res.2)

/-- The receive block: on a read event with room in the input buffer, one `buffer_recv`. A fatal
error or the end of the stream closes the half and clears `revents`, so that nothing is sent on
the closed socket. -/
def receive (con : Connection) (w : Side) (revents : Events) (r : Except Errno (List UInt8)) :
    Except Assertion (Connection × Events) :=
  if revents.read && bufferRoom (con.half w).buffer != 0 then
    let (con, got) := con.recvOn w r
    match got with
    | .error e =>
      if isTemporarySockerr e then pure (con, revents)
      else return (← closeSocketOf w con, .none)
    | .ok [] => return (← closeSocketOf w con, .none)
    | .ok _ => pure (con, revents)
  else pure (con, revents)

/-- The transmit block: on a write event with bytes in the output buffer, one `buffer_send`; a
fatal error closes the half. -/
def transmit (con : Connection) (w : Side) (revents : Events) (r : Except Errno Nat) :
    Except Assertion Connection :=
  if revents.write && bufferLen (con.half w.other).buffer != 0 then
    let (con, sent) := con.sendOn w r
    match sent with
    | .error e => if isTemporarySockerr e then pure con else closeSocketOf w con
    | .ok _ => pure con
  else pure con

/-- The state-specific block: on the client watcher, parse in `ACCEPTED`, resolve in `PARSED`,
connect in `RESOLVED`, each seeing the state the previous one left. -/
def handleState (con : Connection) (w : Side) (io : Io) : Except Assertion Connection := do
  let con ← (if w == .client && con.state == .ACCEPTED then parseClientRequest con else pure con)
  let con ← (if w == .client && con.state == .PARSED then resolveServerAddress con else pure con)
  pure <| if w == .client && con.state == .RESOLVED then
    initiateServerConnect con io.socket io.connect else con

/-- Close the client half once a closed server's bytes are all delivered, and the server half
once a closed client's bytes are. -/
def closeFlushed (con : Connection) : Except Assertion Connection := do
  let con ← (if con.state == .SERVER_CLOSED && bufferLen con.server.buffer == 0 then
    closeClientSocket con else pure con)
  if con.state == .CLIENT_CLOSED && bufferLen con.client.buffer == 0 then
    closeServerSocket con else pure con

/-- `connection_cb` up to its test for `CLOSED`: everything it does to the sockets. -/
def handleEvent (con : Connection) (w : Side) (revents : Events) (io : Io) :
    Except Assertion Connection := do
  let (con, revents) ← receive con w revents io.recv
  let con ← transmit con w revents io.send
  let con ← handleState con w io
  closeFlushed con

/-- `events |= ev`. -/
def Events.union (a b : Events) : Events := ⟨a.read || b.read, a.write || b.write⟩

/-- `reactivate_watcher(loop, w, input_buffer, output_buffer)`: ask for `EV_READ` while the input
buffer has room and for `EV_WRITE` while the output buffer has bytes; stop the watcher when that
is nothing, restart it when the interest changed, start it when it was stopped. -/
def reactivateWatcher (w : Watcher) (input output : Buffer) : Watcher :=
  let events := Events.none
  let events := if bufferRoom input != 0 then events.union EV_READ else events
  let events := if bufferLen output != 0 then events.union EV_WRITE else events
  if w.active then
    if events = .none then evIoStop w
    else if events ≠ w.events then evIoStart (evIoSet (evIoStop w) events)
    else w
  else if events ≠ .none then evIoStart (evIoSet w events)
  else w

/-- "Reactivate watchers": each open half's watcher, from its own buffer and the other's. -/
def reactivateWatchers (con : Connection) : Connection :=
  let con := if clientSocketOpen con then
    { con with client := { con.client with
        watcher := reactivateWatcher con.client.watcher con.client.buffer con.server.buffer } }
    else con
  if serverSocketOpen con then
    { con with server := { con.server with
        watcher := reactivateWatcher con.server.watcher con.server.buffer con.client.buffer } }
    else con

/-- The three assertions that close `connection_cb`. -/
def checkWatchers (con : Connection) : Except Assertion Unit := do
  assert (clientSocketOpen con || !con.client.watcher.active) (.watcherStopped .client)
  assert (serverSocketOpen con || !con.server.watcher.active) (.watcherStopped .server)
  assert ((con.client.watcher.active && con.client.watcher.events != .none) ||
      (con.server.watcher.active && con.server.watcher.events != .none)) .oneWatcherActive

/-- `connection_cb(loop, w, revents)` on the watcher of half `w`, up to its registry update:
a connection that reaches `CLOSED` is returned as is, to be unlinked and freed. -/
def connectionCb (con : Connection) (w : Side) (revents : Events) (io : Io) :
    Except Assertion Connection := do
  let con ← handleEvent con w revents io
  if con.state == .CLOSED then return con
  let con := reactivateWatchers con
  checkWatchers con
  pure con

/-! ## Creating and closing a connection -/

/-- `new_connection()`: a zero-filled connection in `NEW` with two empty buffers. The listener,
which `accept_connection` stores right after, is passed in. -/
def newConnection (listener : Listener) (size : ℕ+) : Connection where
  state := .NEW
  client := ⟨newBuffer size, .zero⟩
  server := ⟨newBuffer size, .zero⟩
  serverAddr := none
  hostname := none
  listener := listener
  log := []

/-- The connection `accept_connection` creates, if any: `new_connection` may fail
(`allocated = false`) and so may `accept`; otherwise the client watcher is armed for `EV_READ`
and started and the connection is `ACCEPTED`. -/
def acceptConnection (listener : Listener) (size : ℕ+) (allocated : Bool)
    (accepted : Except Errno Unit) : Option Connection :=
  if allocated then
    match accepted with
    | .error _ => none
    | .ok () =>
      let con := (newConnection listener size).syscall .accept
      some { con with client := { con.client with watcher := evIoStart (evIoInit EV_READ) },
                      state := .ACCEPTED }
  else none

/-- `close_connection(con, loop)`: close the server half if open, then the client half if
open, with the assertions around them. -/
def closeConnection (con : Connection) : Except Assertion Connection := do
  assert (con.state != .NEW) .closeConnectionNew
  let con ← (if con.state == .CONNECTED || con.state == .CLIENT_CLOSED then
    closeServerSocket con else pure con)
  assert (con.state == .ACCEPTED || con.state == .PARSED || con.state == .RESOLVED ||
    con.state == .SERVER_CLOSED || con.state == .CLOSED) .closeConnectionHalf
  let con ← (if con.state == .ACCEPTED || con.state == .PARSED || con.state == .RESOLVED ||
      con.state == .SERVER_CLOSED then closeClientSocket con else pure con)
  assert (con.state == .CLOSED) .closeConnectionClosed
  pure con

end Sniproxy
