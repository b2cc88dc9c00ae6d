import Sniproxy.Buffer

/-!
# Sniproxy — the connection record

`struct Connection` (`connection.h`) and what it points to, as far as `connection.c` reads and
writes it:

* **`State`** — the eight stages of a connection, with `client_socket_open` and
  `server_socket_open` derived from the stage alone.
* **`Watcher`** — the two fields of a libev `ev_io` the core uses: its interest set and whether
  it is started. `ev_io_init`, `ev_io_set`, `ev_io_start` and `ev_io_stop` act on these.
* **`Listener`** — the listener a connection came from: its protocol parser, its fallback
  address, and its hostname lookup (`listener_lookup_server_address`, in `listener.c`), taken as
  fields so that every parser and every lookup is covered.
* **`Io`** — the kernel's answers to the system calls one callback can issue.
* **`Connection`** — the record itself, plus `log`, the system calls issued on its sockets
  (newest first). The log is what the kernel sees; it is not a field of the C struct, and no
  modelled function reads it.

Socket descriptors are not numbers here: each system call names the half (`Side`) whose socket it
uses, which is all the per-connection properties need.
-/

namespace Sniproxy

/-- `enum State` (`connection.h`). -/
inductive State where
  | NEW
  | ACCEPTED
  | PARSED
  | RESOLVED
  | CONNECTED
  | SERVER_CLOSED
  | CLIENT_CLOSED
  | CLOSED
  deriving DecidableEq, Repr

/-- The two halves of a connection. -/
inductive Side where
  | client
  | server
  deriving DecidableEq, Repr

/-- The other half. -/
def Side.other : Side → Side
  | .client => .server
  | .server => .client

@[simp] theorem Side.other_other (s : Side) : s.other.other = s := by cases s <;> rfl

@[simp] theorem Side.other_ne (s : Side) : s.other ≠ s := by cases s <;> decide

@[simp] theorem Side.ne_other (s : Side) : s ≠ s.other := by cases s <;> decide

theorem Side.exists {P : Side → Prop} : (∃ s, P s) ↔ P .client ∨ P .server :=
  ⟨fun ⟨s, h⟩ => by cases s <;> simp_all, fun h => h.elim (⟨_, ·⟩) (⟨_, ·⟩)⟩

theorem Side.forall {P : Side → Prop} : (∀ s, P s) ↔ P .client ∧ P .server :=
  ⟨fun h => ⟨h _, h _⟩, fun h s => by cases s <;> simp_all⟩

/-- The half other than `w` is `w.other`. -/
theorem Side.eq_or_eq_other (s w : Side) : s = w ∨ s = w.other := by
  cases s <;> cases w <;> simp [Side.other]

/-- The libev event bits the core uses, `EV_READ` and `EV_WRITE`, as an interest or readiness
set. -/
structure Events where
  read : Bool
  write : Bool
  deriving DecidableEq, Repr

/-- The empty set, `0`. -/
def Events.none : Events := ⟨false, false⟩

/-- `EV_READ`. -/
def EV_READ : Events := ⟨true, false⟩

/-- `EV_WRITE`. -/
def EV_WRITE : Events := ⟨false, true⟩

/-- Readiness `r` within interest `i`: libev reports only bits the watcher asked for. -/
def Events.Within (r i : Events) : Prop := (r.read → i.read) ∧ (r.write → i.write)

instance (r i : Events) : Decidable (r.Within i) := inferInstanceAs (Decidable (_ ∧ _))

/-- A libev `ev_io`, as far as the core reads it: its interest set and whether it is started. -/
structure Watcher where
  events : Events
  active : Bool
  deriving DecidableEq, Repr

/-- `ev_io_init(w, cb, fd, events)`: a stopped watcher with the given interest. -/
def evIoInit (events : Events) : Watcher := ⟨events, false⟩

/-- `ev_io_set(w, fd, events)`. -/
def evIoSet (w : Watcher) (events : Events) : Watcher := { w with events := events }

/-- `ev_io_start(loop, w)`. -/
def evIoStart (w : Watcher) : Watcher := { w with active := true }

/-- `ev_io_stop(loop, w)`. -/
def evIoStop (w : Watcher) : Watcher := { w with active := false }

/-- The watcher a zero-filled (`calloc`) connection starts with. -/
def Watcher.zero : Watcher := evIoInit .none

/-- `sizeof(struct sockaddr_storage)` on Linux, the room `con->server.addr` has. -/
def sockaddrStorageSize : Nat := 128

/-- A socket address as `address.c` holds it: the host and port it names, and its length
(`address_sa_len`), which like that of every socket address fits a `struct sockaddr_storage`. -/
structure SockAddr where
  host : String
  port : Nat
  len : Nat
  len_le : len ≤ sockaddrStorageSize
  deriving DecidableEq, Repr

/-- `struct Address` (`address.c`): a hostname still to be resolved, or a socket address. -/
inductive Address where
  | hostname (name : String)
  | sockaddr (sa : SockAddr)
  deriving DecidableEq, Repr

/-- `address_is_sockaddr(addr)`. -/
def Address.isSockaddr : Address → Bool
  | .sockaddr _ => true
  | .hostname _ => false

/-- `struct Listener`, as far as a connection uses it. -/
structure Listener where
  /-- `parse_packet(buffer, len, &hostname)`: the result code and the hostname it set. -/
  parsePacket : List UInt8 → Int × Option String
  /-- `fallback_address`, used when the request names no host. -/
  fallbackAddress : Option Address
  /-- `listener_lookup_server_address(listener, hostname)` (`listener.c`). -/
  lookupServerAddress : Option String → Address

/-- The system calls a connection issues on its sockets. `accept` hands over the client socket,
`socket` creates the server socket; the others name the half whose socket they use. -/
inductive Syscall where
  | accept
  | socket
  | connect (addr : Option SockAddr)
  | recv (s : Side) (bytes : List UInt8)
  | send (s : Side) (bytes : List UInt8)
  | close (s : Side)
  deriving DecidableEq, Repr

/-- The kernel's answers to the system calls one callback can issue: what the watcher's socket
offers to `recv`, how many bytes `send` may write, and whether `socket` and `connect` succeed. -/
structure Io where
  recv : Except Errno (List UInt8)
  send : Except Errno Nat
  socket : Except Errno Unit
  connect : Except Errno Unit

/-- One half of `struct Connection`: its buffer and its watcher. -/
structure Half where
  buffer : Buffer
  watcher : Watcher

/-- `struct Connection`, with `log`, the system calls issued on its sockets, newest first. The
peer address of the client half is only ever printed, and is left out. -/
structure Connection where
  state : State
  client : Half
  server : Half
  serverAddr : Option SockAddr
  hostname : Option String
  listener : Listener
  log : List Syscall

/-- `IS_TEMPORARY_SOCKERR(errno)`. -/
def isTemporarySockerr (e : Errno) : Bool :=
  e == .EAGAIN || e == .EWOULDBLOCK || e == .EINTR

/-- `client_socket_open(con)`. -/
def clientSocketOpen (con : Connection) : Bool :=
  match con.state with
  | .ACCEPTED | .PARSED | .RESOLVED | .CONNECTED | .SERVER_CLOSED => true
  | _ => false

/-- `server_socket_open(con)`. -/
def serverSocketOpen (con : Connection) : Bool :=
  match con.state with
  | .CONNECTED | .CLIENT_CLOSED => true
  | _ => false

/-- Whether the socket of half `s` is open, by the state alone. -/
def sideOpen : Side → Connection → Bool
  | .client => clientSocketOpen
  | .server => serverSocketOpen

/-! ## Access by half

`connection_cb` serves both watchers and picks its input buffer, output buffer and close function
by `is_client`. These accessors do the same by `Side`, with one simp lemma per field and update,
so that proofs never unfold them. -/

namespace Connection

/-- The half `s` of the connection. -/
def half (c : Connection) : Side → Half
  | .client => c.client
  | .server => c.server

/-- Replace half `s`. -/
def setHalf (c : Connection) : Side → Half → Connection
  | .client, h => { c with client := h }
  | .server, h => { c with server := h }

/-- Append one system call to the log. -/
def syscall (c : Connection) (e : Syscall) : Connection := { c with log := e :: c.log }

@[simp] theorem half_client (c : Connection) : c.half .client = c.client := rfl
@[simp] theorem half_server (c : Connection) : c.half .server = c.server := rfl

@[simp] theorem half_setHalf_self (c : Connection) (s : Side) (h : Half) :
    (c.setHalf s h).half s = h := by cases s <;> rfl

@[simp] theorem half_setHalf_other (c : Connection) (s : Side) (h : Half) :
    (c.setHalf s h).half s.other = c.half s.other := by cases s <;> rfl

@[simp] theorem half_setHalf_other' (c : Connection) (s : Side) (h : Half) :
    (c.setHalf s.other h).half s = c.half s := by cases s <;> rfl

@[simp] theorem state_setHalf (c : Connection) (s : Side) (h : Half) :
    (c.setHalf s h).state = c.state := by cases s <;> rfl

@[simp] theorem log_setHalf (c : Connection) (s : Side) (h : Half) :
    (c.setHalf s h).log = c.log := by cases s <;> rfl

@[simp] theorem listener_setHalf (c : Connection) (s : Side) (h : Half) :
    (c.setHalf s h).listener = c.listener := by cases s <;> rfl

@[simp] theorem hostname_setHalf (c : Connection) (s : Side) (h : Half) :
    (c.setHalf s h).hostname = c.hostname := by cases s <;> rfl

@[simp] theorem serverAddr_setHalf (c : Connection) (s : Side) (h : Half) :
    (c.setHalf s h).serverAddr = c.serverAddr := by cases s <;> rfl

@[simp] theorem state_syscall (c : Connection) (e : Syscall) : (c.syscall e).state = c.state := rfl
@[simp] theorem log_syscall (c : Connection) (e : Syscall) : (c.syscall e).log = e :: c.log := rfl
@[simp] theorem half_syscall (c : Connection) (e : Syscall) (s : Side) :
    (c.syscall e).half s = c.half s := by cases s <;> rfl
@[simp] theorem listener_syscall (c : Connection) (e : Syscall) :
    (c.syscall e).listener = c.listener := rfl

end Connection

/-- Whether a half is open depends on the state alone. -/
theorem sideOpen_congr (s : Side) {c c' : Connection} (h : c.state = c'.state) :
    sideOpen s c = sideOpen s c' := by
  cases s <;> simp [sideOpen, clientSocketOpen, serverSocketOpen, h]

@[simp] theorem sideOpen_client (c : Connection) : sideOpen .client c = clientSocketOpen c := rfl
@[simp] theorem sideOpen_server (c : Connection) : sideOpen .server c = serverSocketOpen c := rfl

end Sniproxy
