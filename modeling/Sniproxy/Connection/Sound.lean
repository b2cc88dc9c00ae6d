import Sniproxy.Connection.Callback
import Sniproxy.Connection.Spec

/-!
# Sniproxy — the invariant of one connection

`Sound c` ties the code's view of a connection (its state and its two watchers) to the kernel's
(the system calls on its sockets) and to the relay (its two buffers):

* each socket is in the phase its state says: the client socket is open exactly in the states
  where `client_socket_open` holds, the server socket in those where `server_socket_open` does;
* a started watcher belongs to an open half;
* each buffer holds what was read from its half and not yet written to the other;
* the server buffer is empty until the connection is `CONNECTED`.

It holds at every point of a callback, not only between callbacks: each function `connection_cb`
calls keeps it, under the precondition its call site guarantees. This module proves that, one
lemma per function, each giving the function's result outright (`closeSocketOf_eq`) or as a
short list of cases, so that the callback's proof never unfolds a callee.
-/

namespace Sniproxy

/-! ## `Except` as the abort of a failed assertion -/

@[simp] theorem Except.pure_eq_ok {ε α : Type} (a : α) : (pure a : Except ε α) = .ok a := rfl

@[simp] theorem Except.throw_eq_error {ε α : Type} (e : ε) :
    (throw e : Except ε α) = .error e := rfl

@[simp] theorem Except.ok_bind {ε α β : Type} (a : α) (f : α → Except ε β) :
    (Except.ok a >>= f) = f a := rfl

@[simp] theorem Except.error_bind {ε α β : Type} (e : ε) (f : α → Except ε β) :
    (Except.error e >>= f) = .error e := rfl

/-- The phases the socket of half `s` may be in at each state. The client socket is open from
`ACCEPTED` to `SERVER_CLOSED`. The server socket is unopened before `CONNECTED`, open while
`CONNECTED` or `CLIENT_CLOSED`, closed in `SERVER_CLOSED` (a failed `connect` closes it too), and
closed or never opened in `CLOSED`. -/
def phaseOk : Side → State → SockPhase → Bool
  | .client, .NEW, p => p == .unopened
  | .client, .CLIENT_CLOSED, p | .client, .CLOSED, p => p == .closed
  | .client, _, p => p == .opened
  | .server, .CONNECTED, p | .server, .CLIENT_CLOSED, p => p == .opened
  | .server, .SERVER_CLOSED, p => p == .closed
  | .server, .CLOSED, p => p != .opened
  | .server, _, p => p == .unopened

/-- The invariant of one connection, at every point of a callback. -/
structure Sound (c : Connection) : Prop where
  phases : ∀ s, ∃ p, phase s c.log = some p ∧ phaseOk s c.state p
  watcher_open : ∀ s, (c.half s).watcher.active → sideOpen s c
  relay : ∀ s, received s c.log = sent s.other c.log ++ (c.half s).buffer.data
  server_idle : c.state.stage ≤ 3 → c.server.buffer.data = []

/-- The states a callback may leave a connection in: any but `NEW` and `PARSED`. -/
def State.Settled (st : State) : Prop := st ≠ .NEW ∧ st ≠ .PARSED

/-! ## The state-level facts

Every fact below is about the state alone (and one socket phase), checked state by state. -/

/-- An open half's socket is in the open phase. -/
theorem phaseOk_of_sideOpen {s : Side} {c : Connection} {p : SockPhase}
    (hs : sideOpen s c) (hp : phaseOk s c.state p) : p = .opened := by
  cases s <;> cases hst : c.state <;>
    simp_all [phaseOk, clientSocketOpen, serverSocketOpen]

/-- Before `CONNECTED` the server socket was never opened. -/
theorem phaseOk_server_early {st : State} {p : SockPhase} (hst : st.stage ≤ 3)
    (hp : phaseOk .server st p) : p = .unopened := by
  cases st <;> simp_all [phaseOk, State.stage]

/-- The state `close_client_socket` or `close_server_socket` leads to from an open half:
the half-closed state if the other half is still open, else `CLOSED`. -/
def halfClosed : Side → State
  | .client => .CLIENT_CLOSED
  | .server => .SERVER_CLOSED

/-- The connection once the socket of half `s` is closed and the state set to `st`. -/
def Connection.closedHalf (c : Connection) (s : Side) (st : State) : Connection :=
  { (c.setHalf s { c.half s with watcher := evIoStop (c.half s).watcher }).syscall (.close s) with
    state := st }

/-- **Closing an open half.** From a state where half `s` is open, `close_socket` succeeds, closes
that socket and stops its watcher, and moves to the half-closed state from `CONNECTED`, to
`CLOSED` from anywhere else. -/
theorem closeSocketOf_eq {s : Side} {c : Connection} (hs : sideOpen s c) :
    closeSocketOf s c =
      .ok (c.closedHalf s (if c.state = .CONNECTED then halfClosed s else .CLOSED)) := by
  cases s <;> cases hst : c.state <;>
    simp_all [closeSocketOf, closeClientSocket, closeServerSocket, closeSocket, assert,
      clientSocketOpen, serverSocketOpen, Connection.closedHalf, halfClosed]

@[simp] theorem closedHalf_state (c : Connection) (s : Side) (st : State) :
    (c.closedHalf s st).state = st := rfl

@[simp] theorem closedHalf_log (c : Connection) (s : Side) (st : State) :
    (c.closedHalf s st).log = .close s :: c.log := by
  cases s <;> rfl

@[simp] theorem closedHalf_half_self (c : Connection) (s : Side) (st : State) :
    (c.closedHalf s st).half s = { c.half s with watcher := evIoStop (c.half s).watcher } := by
  cases s <;> rfl

@[simp] theorem closedHalf_half_other (c : Connection) (s : Side) (st : State) :
    (c.closedHalf s st).half s.other = c.half s.other := by
  cases s <;> rfl

/-- What closing half `s` does to the state, checked state by state: the half is closed in the
new state, the other half is as open as before and its phase still fits, and the state moves
forward to a settled one. -/
theorem close_state_facts {s : Side} {c : Connection} (hs : sideOpen s c) :
    let st' := if c.state = .CONNECTED then halfClosed s else .CLOSED
    phaseOk s st' .closed ∧ (∀ p, phaseOk s.other c.state p → phaseOk s.other st' p) ∧
      sideOpen s.other (c.closedHalf s st') = sideOpen s.other c ∧
      c.state.Precedes st' ∧ st'.Settled ∧ 3 < st'.stage := by
  cases s <;> cases hst : c.state <;>
    simp_all [phaseOk, clientSocketOpen, serverSocketOpen, halfClosed, State.Precedes,
      State.stage, State.Settled, Side.other]

/-- Closing an open half keeps the invariant. -/
theorem Sound.close {s : Side} {c : Connection} (h : Sound c) (hs : sideOpen s c) :
    Sound (c.closedHalf s (if c.state = .CONNECTED then halfClosed s else .CLOSED)) := by
  obtain ⟨hclosed, hother, hopen, -, -, hstage⟩ := close_state_facts hs
  refine ⟨fun s' => ?_, fun s' ha => ?_, fun s' => ?_, fun h3 => by simp at h3; omega⟩
  · obtain ⟨p, hp, hok⟩ := h.phases s'
    rcases Side.eq_or_eq_other s' s with rfl | rfl
    · exact ⟨.closed, by simp [hp, phaseOk_of_sideOpen hs hok], hclosed⟩
    · exact ⟨p, by simp [hp], hother p hok⟩
  · rcases Side.eq_or_eq_other s' s with rfl | rfl
    · simp [evIoStop] at ha
    · rw [hopen]; exact h.watcher_open _ (by simpa using ha)
  · rcases Side.eq_or_eq_other s' s with rfl | rfl
    · simp [h.relay s']
    · simp [h.relay s.other]

/-! ## Receiving and sending -/

/-- `buffer_recv` appends exactly the bytes it read. -/
theorem bufferRecv_data_moved (b : Buffer) (r : Except Errno (List UInt8)) :
    (bufferRecv b r).1.data = b.data ++ moved (bufferRecv b r).2 := by
  cases r <;> simp [moved]

/-- `buffer_send` drops exactly the bytes it wrote. -/
theorem bufferSend_data_moved (b : Buffer) (r : Except Errno Nat) :
    b.data = moved (bufferSend b r).2 ++ (bufferSend b r).1.data := by
  cases r <;> simp [moved]

section Transfer

variable (c : Connection) (w : Side)

@[simp] theorem recvOn_state (r : Except Errno (List UInt8)) : (c.recvOn w r).1.state = c.state := by
  simp [Connection.recvOn]

@[simp] theorem recvOn_log (r : Except Errno (List UInt8)) :
    (c.recvOn w r).1.log = .recv w (moved (c.recvOn w r).2) :: c.log := by
  simp [Connection.recvOn]

@[simp] theorem recvOn_read (r : Except Errno (List UInt8)) :
    (c.recvOn w r).2 = (bufferRecv (c.half w).buffer r).2 := rfl

@[simp] theorem recvOn_half_self (r : Except Errno (List UInt8)) :
    (c.recvOn w r).1.half w = { c.half w with buffer := (bufferRecv (c.half w).buffer r).1 } := by
  simp [Connection.recvOn]

@[simp] theorem recvOn_half_other (r : Except Errno (List UInt8)) :
    (c.recvOn w r).1.half w.other = c.half w.other := by
  simp [Connection.recvOn]

@[simp] theorem sendOn_state (r : Except Errno Nat) : (c.sendOn w r).1.state = c.state := by
  simp [Connection.sendOn]

@[simp] theorem sendOn_log (r : Except Errno Nat) :
    (c.sendOn w r).1.log = .send w (moved (c.sendOn w r).2) :: c.log := by
  simp [Connection.sendOn]

@[simp] theorem sendOn_written (r : Except Errno Nat) :
    (c.sendOn w r).2 = (bufferSend (c.half w.other).buffer r).2 := rfl

@[simp] theorem sendOn_half_self (r : Except Errno Nat) :
    (c.sendOn w r).1.half w = c.half w := by
  simp [Connection.sendOn]

@[simp] theorem sendOn_half_other (r : Except Errno Nat) :
    (c.sendOn w r).1.half w.other =
      { c.half w.other with buffer := (bufferSend (c.half w.other).buffer r).1 } := by
  simp [Connection.sendOn]

@[simp] theorem sideOpen_recvOn (s : Side) (r : Except Errno (List UInt8)) :
    sideOpen s (c.recvOn w r).1 = sideOpen s c := sideOpen_congr s (recvOn_state c w r)

@[simp] theorem sideOpen_sendOn (s : Side) (r : Except Errno Nat) :
    sideOpen s (c.sendOn w r).1 = sideOpen s c := sideOpen_congr s (sendOn_state c w r)

end Transfer

/-- A `recv` on an open half keeps the invariant: the bytes read join the tail of its buffer. -/
theorem Sound.recvOn {c : Connection} {w : Side} (h : Sound c) (hw : sideOpen w c)
    (r : Except Errno (List UInt8)) : Sound (c.recvOn w r).1 := by
  constructor
  · intro s
    obtain ⟨p, hp, hok⟩ := h.phases s
    refine ⟨p, ?_, by simpa using hok⟩
    rcases Side.eq_or_eq_other s w with rfl | rfl
    · simp [hp, phaseOk_of_sideOpen hw hok]
    · simp [hp]
  · intro s ha
    rcases Side.eq_or_eq_other s w with rfl | rfl <;>
      simpa using h.watcher_open _ (by simpa using ha)
  · intro s
    rcases Side.eq_or_eq_other s w with rfl | rfl
    · simp [h.relay s, bufferRecv_data_moved]
    · simp [h.relay w.other]
  · intro h3
    have := h.server_idle (by simpa using h3)
    cases w
    · simpa using this
    · cases hst : c.state <;> simp_all [serverSocketOpen, State.stage]

/-- A `send` on an open half keeps the invariant: the bytes written leave the head of the other
half's buffer. -/
theorem Sound.sendOn {c : Connection} {w : Side} (h : Sound c) (hw : sideOpen w c)
    (r : Except Errno Nat) : Sound (c.sendOn w r).1 := by
  constructor
  · intro s
    obtain ⟨p, hp, hok⟩ := h.phases s
    refine ⟨p, ?_, by simpa using hok⟩
    rcases Side.eq_or_eq_other s w with rfl | rfl
    · simp [hp, phaseOk_of_sideOpen hw hok]
    · simp [hp]
  · intro s ha
    rcases Side.eq_or_eq_other s w with rfl | rfl <;>
      simpa using h.watcher_open _ (by simpa using ha)
  · intro s
    rcases Side.eq_or_eq_other s w with rfl | rfl
    · simp [h.relay s]
    · simp [h.relay w.other, bufferSend_data_moved (c.half w.other).buffer r]
  · intro h3
    have hidle := h.server_idle (by simpa using h3)
    cases w
    · have := bufferSend_data_moved c.server.buffer r
      simp_all [Connection.sendOn, Connection.setHalf, Connection.syscall, Side.other]
    · simpa using hidle

/-! ## The receive and transmit blocks -/

/-- **The receive block.** On an open half it succeeds and keeps the invariant; it either leaves
the state and `revents` as they were, or closes the half and clears `revents`. -/
theorem receive_spec {c : Connection} {w : Side} (revents : Events)
    (r : Except Errno (List UInt8)) (h : Sound c) (hw : sideOpen w c) :
    ∃ c' rev', receive c w revents r = .ok (c', rev') ∧ Sound c' ∧ c.state.Precedes c'.state ∧
      (c'.state = c.state ∧ rev' = revents ∨ rev' = .none ∧ c'.state.Settled) := by
  unfold receive
  split_ifs
  · have h1 := h.recvOn hw r
    have hw1 : sideOpen w (c.recvOn w r).1 := by simpa using hw
    have hst := recvOn_state c w r
    obtain ⟨-, -, -, hpre, hset, -⟩ := close_state_facts hw1
    have hc2 := closeSocketOf_eq hw1
    have hs2 := h1.close hw1
    generalize c.recvOn w r = x at *
    obtain ⟨c1, got⟩ := x
    dsimp only at *
    rcases got with e | _ | ⟨b, bs⟩
    · by_cases ht : isTemporarySockerr e
      · exact ⟨c1, revents, by simp [ht], h1, by rw [hst], .inl ⟨hst, rfl⟩⟩
      · exact ⟨_, .none, by simp [ht, hc2], hs2, by simpa [hst] using hpre, .inr ⟨rfl, hset⟩⟩
    · exact ⟨_, .none, by simp [hc2], hs2, by simpa [hst] using hpre, .inr ⟨rfl, hset⟩⟩
    · exact ⟨c1, revents, rfl, h1, by rw [hst], .inl ⟨hst, rfl⟩⟩
  · exact ⟨c, revents, rfl, h, .refl _, .inl ⟨rfl, rfl⟩⟩

/-- **The transmit block.** When a write is asked for only on an open half, it succeeds and keeps
the invariant; the state is unchanged unless a fatal error closes the half. -/
theorem transmit_spec {c : Connection} {w : Side} {revents : Events} (r : Except Errno Nat)
    (h : Sound c) (hw : revents.write → sideOpen w c) :
    ∃ c', transmit c w revents r = .ok c' ∧ Sound c' ∧ c.state.Precedes c'.state ∧
      (c'.state = c.state ∨ c'.state.Settled) := by
  unfold transmit
  split_ifs with hcond
  · have hw0 : sideOpen w c := hw (by simp_all)
    have h1 := h.sendOn hw0 r
    have hw1 : sideOpen w (c.sendOn w r).1 := by simpa using hw0
    have hst := sendOn_state c w r
    obtain ⟨-, -, -, hpre, hset, -⟩ := close_state_facts hw1
    have hc2 := closeSocketOf_eq hw1
    have hs2 := h1.close hw1
    generalize c.sendOn w r = x at *
    obtain ⟨c1, sent⟩ := x
    dsimp only at *
    rcases sent with e | _
    · by_cases ht : isTemporarySockerr e
      · exact ⟨c1, by simp [ht], h1, by rw [hst], .inl hst⟩
      · exact ⟨_, by simp [ht, hc2], hs2, by simpa [hst] using hpre, .inr hset⟩
    · exact ⟨c1, rfl, h1, by rw [hst], .inl hst⟩
  · exact ⟨c, rfl, h, .refl _, .inl rfl⟩

/-! ## Parse, resolve, connect -/

/-- The stages from `ACCEPTED` to `RESOLVED`. -/
theorem State.early_cases {st : State} (h : 1 ≤ st.stage ∧ st.stage ≤ 3) :
    st = .ACCEPTED ∨ st = .PARSED ∨ st = .RESOLVED := by
  cases st <;> simp_all [State.stage]

/-- Before connecting, the client socket is open and the server socket never opened, as in
`ACCEPTED`. -/
theorem phaseOk_early {st : State} (h : 1 ≤ st.stage ∧ st.stage ≤ 3) (s : Side) (p : SockPhase) :
    phaseOk s st p = phaseOk s .ACCEPTED p := by
  rcases State.early_cases h with rfl | rfl | rfl <;> cases s <;> rfl

theorem sideOpen_early {c : Connection} (h : 1 ≤ c.state.stage ∧ c.state.stage ≤ 3) (s : Side) :
    sideOpen s c = (s == .client) := by
  rcases State.early_cases h with hst | hst | hst <;> cases s <;>
    simp [clientSocketOpen, serverSocketOpen, hst]

/-- Before connecting, `ACCEPTED`, `PARSED` and `RESOLVED` agree on all the invariant reads: the
client socket is open, the server socket never opened, the server buffer empty. So a step between
them that leaves the log and the halves alone keeps it. -/
theorem Sound.early {c c' : Connection} (h : Sound c) (hc : 1 ≤ c.state.stage ∧ c.state.stage ≤ 3)
    (hc' : 1 ≤ c'.state.stage ∧ c'.state.stage ≤ 3) (hlog : c'.log = c.log)
    (hhalf : ∀ s, c'.half s = c.half s) : Sound c' := by
  refine ⟨fun s => ?_, fun s ha => ?_, fun s => ?_, fun _ => ?_⟩
  · obtain ⟨p, hp, hok⟩ := h.phases s
    exact ⟨p, hlog ▸ hp, by rwa [phaseOk_early hc', ← phaseOk_early hc]⟩
  · rw [sideOpen_early hc', ← sideOpen_early hc]
    exact h.watcher_open s (by simpa [hhalf] using ha)
  · simpa [hlog, hhalf] using h.relay s
  · have hs := hhalf .server
    simp only [Connection.half_server] at hs
    rw [hs]; exact h.server_idle hc.2

/-- **`parse_client_request`.** From `ACCEPTED` it succeeds and keeps the invariant, and leaves the
connection `ACCEPTED` (incomplete request), `PARSED`, or `CLOSED` (no usable hostname). -/
theorem parseClientRequest_spec {c : Connection} (h : Sound c) (hst : c.state = .ACCEPTED) :
    ∃ c', parseClientRequest c = .ok c' ∧ Sound c' ∧
      (c'.state = .ACCEPTED ∨ c'.state = .PARSED ∨ c'.state = .CLOSED) := by
  have hopen : sideOpen .client c := by simp [clientSocketOpen, hst]
  unfold parseClientRequest
  dsimp only
  split_ifs
  · exact ⟨c, rfl, h, .inl hst⟩
  · exact ⟨_, closeSocketOf_eq hopen, h.close hopen, .inr (.inr (by simp [hst]))⟩
  · exact ⟨_, rfl, h.early (by simp [hst, State.stage]) (by simp [State.stage]) rfl
      (by intro s; cases s <;> rfl), .inr (.inl rfl)⟩

/-- **`resolve_server_address`.** From `PARSED` it succeeds and keeps the invariant, and leaves
the connection `RESOLVED`, or `CLOSED` when the backend is a hostname. -/
theorem resolveServerAddress_spec {c : Connection} (h : Sound c) (hst : c.state = .PARSED) :
    ∃ c', resolveServerAddress c = .ok c' ∧ Sound c' ∧
      (c'.state = .RESOLVED ∨ c'.state = .CLOSED) := by
  have hopen : sideOpen .client c := by simp [clientSocketOpen, hst]
  rw [resolveServerAddress_eq]
  split
  · exact ⟨_, closeSocketOf_eq hopen, h.close hopen, .inr (by simp [hst])⟩
  · exact ⟨_, rfl, h.early (by simp [hst, State.stage]) (by simp [State.stage]) rfl
      (by intro s; cases s <;> rfl), .inl rfl⟩

/-- **`initiate_server_connect`.** From `RESOLVED` it keeps the invariant, and leaves the
connection `RESOLVED` (no socket), `CONNECTED`, or `SERVER_CLOSED` (the new socket closed again
after a failed `connect`). -/
theorem initiateServerConnect_spec {c : Connection} (h : Sound c) (hst : c.state = .RESOLVED)
    (socket connect : Except Errno Unit) :
    Sound (initiateServerConnect c socket connect) ∧
      ((initiateServerConnect c socket connect).state = .RESOLVED ∨
        (initiateServerConnect c socket connect).state = .CONNECTED ∨
        (initiateServerConnect c socket connect).state = .SERVER_CLOSED) := by
  obtain ⟨pc, hpc, hokc⟩ := h.phases .client
  obtain ⟨ps, hps, hoks⟩ := h.phases .server
  have hpc' : pc = .opened := by simpa [hst, phaseOk] using hokc
  have hps' : ps = .unopened := by simpa [hst, phaseOk] using hoks
  subst hpc' hps'
  have hsw : c.server.watcher.active = false := by
    simpa [hst, serverSocketOpen] using mt (h.watcher_open .server)
  have hcw := h.watcher_open .client
  cases socket with
  | error => exact ⟨h, .inl hst⟩
  | ok =>
    unfold initiateServerConnect
    split_ifs
    · refine ⟨⟨fun s => ?_, fun s ha => ?_, fun s => ?_, fun h3 => ?_⟩, .inr (.inr rfl)⟩
      · cases s <;> simp [Connection.syscall, hpc, hps, SockPhase.next, Syscall.opens,
          Syscall.uses, phaseOk]
      · cases s <;> simp_all [Connection.syscall, clientSocketOpen, serverSocketOpen]
      · simpa [Connection.syscall] using h.relay s
      · simp [Connection.syscall, State.stage] at h3
    · refine ⟨⟨fun s => ?_, fun s ha => ?_, fun s => ?_, fun h3 => ?_⟩, .inr (.inl rfl)⟩
      · cases s <;> simp [Connection.syscall, hpc, hps, SockPhase.next, Syscall.opens,
          Syscall.uses, phaseOk]
      · cases s <;> simp_all [Connection.syscall, clientSocketOpen, serverSocketOpen]
      · cases s <;> simpa [Connection.syscall] using h.relay _
      · simp [Connection.syscall, State.stage] at h3

/-- **The state-specific block.** From a settled state it succeeds, keeps the invariant, moves
forward, and leaves a settled state: whatever parsing leaves `PARSED` is resolved in the same
pass. -/
theorem handleState_spec {c : Connection} {w : Side} (io : Io) (h : Sound c)
    (hset : c.state.Settled) :
    ∃ c', handleState c w io = .ok c' ∧ Sound c' ∧ c.state.Precedes c'.state ∧
      c'.state.Settled := by
  cases w with
  | server => exact ⟨c, rfl, h, .refl _, hset⟩
  | client =>
    unfold handleState
    -- parse, if `ACCEPTED`
    obtain ⟨c1, hc1, hs1, hp1, hn1, hpa⟩ : ∃ c1, (if (Side.client == .client &&
        c.state == .ACCEPTED) = true then parseClientRequest c else pure c) = .ok c1 ∧
        Sound c1 ∧ c.state.Precedes c1.state ∧ c1.state ≠ .NEW ∧
        (c1.state = .PARSED → c.state = .ACCEPTED) := by
      split_ifs with ha
      · simp only [beq_self_eq_true, Bool.true_and, beq_iff_eq] at ha
        obtain ⟨c1, hc1, hs1, hst1⟩ := parseClientRequest_spec h ha
        refine ⟨c1, hc1, hs1, ?_, ?_, fun _ => ha⟩ <;>
          rcases hst1 with hst1 | hst1 | hst1 <;> simp [hst1, ha, State.Precedes, State.stage]
      · exact ⟨c, rfl, h, .refl _, hset.1, fun hp => absurd hp hset.2⟩
    rw [hc1, Except.ok_bind]
    -- resolve, if `PARSED`
    obtain ⟨c2, hc2, hs2, hp2, hn2⟩ : ∃ c2, (if (Side.client == .client &&
        c1.state == .PARSED) = true then resolveServerAddress c1 else pure c1) = .ok c2 ∧
        Sound c2 ∧ c1.state.Precedes c2.state ∧ c2.state.Settled := by
      split_ifs with hp
      · simp only [beq_self_eq_true, Bool.true_and, beq_iff_eq] at hp
        obtain ⟨c2, hc2, hs2, hst2⟩ := resolveServerAddress_spec hs1 hp
        refine ⟨c2, hc2, hs2, ?_, ?_⟩ <;>
          rcases hst2 with hst2 | hst2 <;>
            simp [hst2, hp, State.Precedes, State.stage, State.Settled]
      · simp only [beq_self_eq_true, Bool.true_and, beq_iff_eq] at hp
        exact ⟨c1, rfl, hs1, .refl _, hn1, hp⟩
    rw [hc2, Except.ok_bind]
    -- connect, if `RESOLVED`
    refine ⟨_, rfl, ?_⟩
    split_ifs with hr
    · simp only [beq_self_eq_true, Bool.true_and, beq_iff_eq] at hr
      obtain ⟨hs3, hst3⟩ := initiateServerConnect_spec hs2 hr io.socket io.connect
      refine ⟨hs3, hp1.trans (hp2.trans ?_), ?_⟩ <;>
        rcases hst3 with h3 | h3 | h3 <;> simp [h3, hr, State.Precedes, State.stage, State.Settled]
    · exact ⟨hs2, hp1.trans hp2, hn2⟩

/-! ## Closing flushed halves, and the whole event -/

/-- **The flush block.** From a settled state it succeeds, keeps the invariant and moves forward;
a connection it leaves half-closed still holds bytes for the open half. -/
theorem closeFlushed_spec {c : Connection} (h : Sound c) (hset : c.state.Settled) :
    ∃ c', closeFlushed c = .ok c' ∧ Sound c' ∧ c.state.Precedes c'.state ∧ c'.state.Settled ∧
      (c'.state = .SERVER_CLOSED → c'.server.buffer.data ≠ []) ∧
      (c'.state = .CLIENT_CLOSED → c'.client.buffer.data ≠ []) := by
  unfold closeFlushed
  obtain ⟨c1, hc1, hs1, hp1, hn1, hsc1⟩ : ∃ c1, (if (c.state == .SERVER_CLOSED &&
      bufferLen c.server.buffer == 0) = true then closeClientSocket c else pure c) = .ok c1 ∧
      Sound c1 ∧ c.state.Precedes c1.state ∧ c1.state.Settled ∧
      (c1.state = .SERVER_CLOSED → c1.server.buffer.data ≠ []) := by
    split_ifs with hf
    · simp only [Bool.and_eq_true, beq_iff_eq] at hf
      have hopen : sideOpen .client c := by simp [clientSocketOpen, hf.1]
      obtain ⟨-, -, -, hpre, hset', -⟩ := close_state_facts hopen
      exact ⟨_, closeSocketOf_eq hopen, h.close hopen, hpre, hset', by simp [hf.1]⟩
    · simp only [Bool.and_eq_true, beq_iff_eq, not_and] at hf
      exact ⟨c, rfl, h, .refl _, hset, fun hst => by simpa [bufferLen] using hf hst⟩
  rw [hc1, Except.ok_bind]
  split_ifs with hf
  · simp only [Bool.and_eq_true, beq_iff_eq] at hf
    have hopen : sideOpen .server c1 := by simp [serverSocketOpen, hf.1]
    obtain ⟨-, -, -, hpre, hset', -⟩ := close_state_facts hopen
    exact ⟨_, closeSocketOf_eq hopen, hs1.close hopen,
      hp1.trans hpre, hset', by simp [hf.1], by simp [hf.1]⟩
  · simp only [Bool.and_eq_true, beq_iff_eq, not_and] at hf
    exact ⟨c1, rfl, hs1, hp1, hn1, hsc1, fun hst => by simpa [bufferLen] using hf hst⟩

/-- **Everything a callback does to the sockets.** On the watcher of an open half, from a state a
connection rests in between callbacks, `handleEvent` succeeds (no assertion of the close functions
fails), keeps the invariant, moves forward, and leaves a settled state in which a half-closed
connection still holds bytes for its open half. -/
theorem handleEvent_spec {c : Connection} {w : Side} (revents : Events) (io : Io) (h : Sound c)
    (hw : sideOpen w c) (hwait : c.state.Waiting) :
    ∃ c', handleEvent c w revents io = .ok c' ∧ Sound c' ∧ c.state.Precedes c'.state ∧
      c'.state.Settled ∧
      (c'.state = .SERVER_CLOSED → c'.server.buffer.data ≠ []) ∧
      (c'.state = .CLIENT_CLOSED → c'.client.buffer.data ≠ []) := by
  have hset : c.state.Settled := by
    cases hst : c.state <;> simp_all [State.Waiting, State.Settled]
  obtain ⟨c1, rev1, hc1, hs1, hp1, hr1⟩ := receive_spec revents io.recv h hw
  have hw1 : rev1.write → sideOpen w c1 := by
    rcases hr1 with ⟨hst, rfl⟩ | ⟨rfl, -⟩
    · intro; rwa [sideOpen_congr w hst]
    · simp [Events.none]
  have hset1 : c1.state.Settled := by rcases hr1 with ⟨hst, -⟩ | ⟨-, hs⟩ <;> simp_all
  obtain ⟨c2, hc2, hs2, hp2, hr2⟩ := transmit_spec io.send hs1 hw1
  have hset2 : c2.state.Settled := by rcases hr2 with hst | hs <;> simp_all
  obtain ⟨c3, hc3, hs3, hp3, hset3⟩ := handleState_spec (w := w) io hs2 hset2
  obtain ⟨c4, hc4, hs4, hp4, hset4, hsc, hcc⟩ := closeFlushed_spec hs3 hset3
  refine ⟨c4, ?_, hs4, hp1.trans (hp2.trans (hp3.trans hp4)), hset4, hsc, hcc⟩
  simp [handleEvent, hc1, hc2, hc3, hc4]

/-! ## `close_connection` -/

theorem closeClientSocket_eq {c : Connection} (hs : clientSocketOpen c) :
    closeClientSocket c =
      .ok (c.closedHalf .client (if c.state = .CONNECTED then .CLIENT_CLOSED else .CLOSED)) :=
  closeSocketOf_eq (s := .client) hs

theorem closeServerSocket_eq {c : Connection} (hs : serverSocketOpen c) :
    closeServerSocket c =
      .ok (c.closedHalf .server (if c.state = .CONNECTED then .SERVER_CLOSED else .CLOSED)) :=
  closeSocketOf_eq (s := .server) hs

/-- **`close_connection`.** From any state a connection rests in between callbacks, it succeeds
(none of its assertions fails), keeps the invariant and ends in `CLOSED`. -/
theorem closeConnection_spec {c : Connection} (h : Sound c) (hw : c.state.Waiting) :
    ∃ c', closeConnection c = .ok c' ∧ Sound c' ∧ c'.state = .CLOSED := by
  have hcl : ∀ {c}, Sound c → clientSocketOpen c → c.state ≠ .CONNECTED →
      Sound (c.closedHalf .client .CLOSED) := fun {c} h hs hne => by
    simpa [hne, halfClosed] using h.close (s := .client) hs
  -- the states where only the client half is left
  have honly : c.state = .ACCEPTED ∨ c.state = .RESOLVED ∨ c.state = .SERVER_CLOSED →
      ∃ c', closeConnection c = .ok c' ∧ Sound c' ∧ c'.state = .CLOSED := fun hst => by
    have hs : clientSocketOpen c := by rcases hst with h' | h' | h' <;> simp [clientSocketOpen, h']
    have hne : c.state ≠ .CONNECTED := by rcases hst with h' | h' | h' <;> simp [h']
    refine ⟨_, ?_, hcl h hs hne, rfl⟩
    rcases hst with h' | h' | h' <;> simp [closeConnection, assert, h', closeClientSocket_eq hs]
  cases hst : c.state <;> simp only [State.Waiting, hst, Bool.false_eq_true] at hw
  · exact honly (.inl hst)
  · exact honly (.inr (.inl hst))
  · -- `CONNECTED`: the server half first, then the client half
    have hs : serverSocketOpen c := by simp [serverSocketOpen, hst]
    have h1 : Sound (c.closedHalf .server .SERVER_CLOSED) := by
      simpa [hst, halfClosed] using h.close (s := .server) hs
    have hs1 : clientSocketOpen (c.closedHalf .server .SERVER_CLOSED) := by
      simp [clientSocketOpen]
    exact ⟨_, by simp [closeConnection, assert, hst, closeServerSocket_eq hs,
      closeClientSocket_eq hs1], hcl h1 hs1 (by simp), rfl⟩
  · exact honly (.inr (.inr hst))
  · -- `CLIENT_CLOSED`: only the server half is left
    have hs : serverSocketOpen c := by simp [serverSocketOpen, hst]
    exact ⟨c.closedHalf .server .CLOSED, by simp [closeConnection, assert, hst,
      closeServerSocket_eq hs], by simpa [hst, halfClosed] using h.close (s := .server) hs, rfl⟩

end Sniproxy
