import Sniproxy.Connection.Routing

/-!
# Sniproxy — half-closed connections drain

When one peer closes, `connection_cb` closes its half (`SERVER_CLOSED` or `CLIENT_CLOSED`) and
keeps the other half open, so that the bytes the closed peer sent and the open peer has not yet
received can still be delivered; the flush block closes the open half once they are. This module
proves that it works so on every run, for every answer of the kernel:

* **`Sound.drain`** — once a socket is closed, a longer log that keeps the invariant has read
  nothing more from it, and what its half's buffer lost went out on the other socket, in order.
* **`eof_closes_half`** — the end of a stream, or a fatal `recv` error, closes that half in the
  same callback, which returns; the other half stays open only from `CONNECTED`, and only while
  the closed half holds bytes for it.
* **`half_closed_only_while_undelivered`** — a connection stays half-closed only while the bytes
  the closed peer sent are not all delivered.
* **`half_closed_drains`** — over any run of callbacks from a reachable half-closed connection, it
  stays half-closed the same way, reads nothing more from the closed peer, and delivers the bytes
  that peer left pending in order, each once.
* **`last_bytes_close_half_closed`** — and the callback whose `send` takes the last of them
  closes the connection, the closed peer's whole stream delivered.
-/

namespace Sniproxy

/-! ## Draining a closed socket

The invariant alone says what happens after a close: the socket's phase stays closed, so no later
call reads from it, and the relay equation, taken at both ends, says where the bytes its half's
buffer loses go. -/

/-- In the state where half `s` is closed, its socket is in the closed phase. -/
theorem phaseOk_halfClosed {s : Side} {p : SockPhase} (h : phaseOk s (halfClosed s) p) :
    p = .closed := by
  cases s <;> cases p <;> simp_all [phaseOk, halfClosed]

/-- **Draining a closed socket.** Once the socket of half `s` is closed, a longer log that keeps
the invariant has read nothing more from it, and the bytes its half's buffer lost in between were
written, in order, to the other half's socket. -/
theorem Sound.drain {c c' : Connection} {s : Side} (h : Sound c) (h' : Sound c')
    (hclosed : phase s c.log = some .closed) (hlog : c.log <:+ c'.log) :
    received s c'.log = received s c.log ∧
      ∃ delivered, (c.half s).buffer.data = delivered ++ (c'.half s).buffer.data ∧
        sent s.other c'.log = sent s.other c.log ++ delivered := by
  obtain ⟨newer, hnew⟩ := hlog
  obtain ⟨p, hp, -⟩ := h'.phases s
  rw [← hnew] at hp
  have huntouched := (phase_append_of_closed hclosed newer (by simp [hp])).2
  have hrecv : received s c'.log = received s c.log := by
    rw [← hnew, received_append, received_eq_nil fun e he => (huntouched e he).2, List.append_nil]
  refine ⟨hrecv, sent s.other newer, ?_, by rw [← hnew, sent_append]⟩
  have hrelay := h'.relay s
  rw [hrecv, h.relay s, ← hnew, sent_append, List.append_assoc] at hrelay
  exact List.append_cancel_left hrelay

/-! ## Entering the half-closed state

The end of the stream, or a fatal error, on a `recv` closes the half it was read from and clears
the events, so that nothing is sent on the closed socket. From `CONNECTED` the other half stays
open while it has bytes to deliver; from anywhere else the connection is `CLOSED`. -/

/-- The receive block, on a read event with room in the buffer whose `recv` sees the end of the
stream or fails for good, closes the half and clears the events. -/
theorem receive_closes {c : Connection} {w : Side} {revents : Events}
    {r : Except Errno (List UInt8)} (hread : revents.read)
    (hroom : bufferRoom (c.half w).buffer ≠ 0)
    (heof : r = .ok [] ∨ ∃ e, r = .error e ∧ isTemporarySockerr e = false) :
    Sniproxy.receive c w revents r =
      (Sniproxy.closeSocketOf w (c.recvOn w r).1 >>= fun c' => pure (c', .none)) := by
  have hgot : (c.recvOn w r).2 = .ok [] ∨
      ∃ e, (c.recvOn w r).2 = .error e ∧ isTemporarySockerr e = false := by
    rcases heof with rfl | ⟨e, rfl, he⟩
    · exact .inl (by simp [bufferRecv])
    · exact .inr ⟨e, rfl, he⟩
  unfold Sniproxy.receive
  rw [if_pos (by simp [hread, hroom])]
  generalize c.recvOn w r = x at hgot ⊢
  obtain ⟨c1, got⟩ := x
  rcases hgot with rfl | ⟨e, rfl, he⟩
  · rfl
  · simp [he]

/-- The state-specific block does nothing once a connection is `CONNECTED` or later. -/
theorem handleState_late {c : Connection} {w : Side} {io : Io} (h : 4 ≤ c.state.stage) :
    Sniproxy.handleState c w io = .ok c := by
  have hne : c.state ≠ .ACCEPTED ∧ c.state ≠ .PARSED ∧ c.state ≠ .RESOLVED := by
    refine ⟨?_, ?_, ?_⟩ <;> intro he <;> simp [he, State.stage] at h
  simp [Sniproxy.handleState, hne.1, hne.2.1, hne.2.2]

/-- From a half-closed state a connection moves on only to `CLOSED`. -/
theorem halfClosed_precedes {s : Side} {st : State} (h : (halfClosed s).Precedes st) :
    st = halfClosed s ∨ st = .CLOSED := by
  rcases h with h | h
  · exact .inl h.symm
  · cases s <;> cases st <;> simp_all [State.stage, halfClosed]

/-- Rearming the watchers leaves the buffers alone. -/
theorem reactivateWatchers_buffer (c : Connection) (s : Side) :
    ((reactivateWatchers c).half s).buffer = (c.half s).buffer := by
  rw [reactivateWatchers_half]; split_ifs <;> rfl

/-- **The end of a stream closes its half.** On a reachable connection, a callback on a started
watcher with a read event and room in that half's buffer, whose `recv` sees the end of the stream
or fails for good, returns (no assertion fails) with that half's socket closed. Either the
connection is `CLOSED`, or that half is closed and the other still open; the latter only from
`CONNECTED`, and only while the closed half still holds bytes to deliver to the other. -/
theorem eof_closes_half {c : Connection} {w : Side} {revents : Events} {io : Io}
    (hc : Reachable c) (hw : (c.half w).watcher.active) (hread : revents.read)
    (hroom : bufferRoom (c.half w).buffer ≠ 0)
    (heof : io.recv = .ok [] ∨ ∃ e, io.recv = .error e ∧ isTemporarySockerr e = false) :
    ∃ c', Sniproxy.connectionCb c w revents io = .ok c' ∧ .close w ∈ c'.log ∧
      (c'.state = halfClosed w ∧ c.state = .CONNECTED ∧ (c'.half w).buffer.data ≠ [] ∨
        c'.state = .CLOSED) := by
  have hidle := reachable_idle hc
  have hopen := hidle.sound.watcher_open w hw
  have hw1 : sideOpen w (c.recvOn w io.recv).1 := by simpa using hopen
  -- the receive block closes the half: half-closed from `CONNECTED`, else `CLOSED`
  set c2 := (c.recvOn w io.recv).1.closedHalf w
    (if (c.recvOn w io.recv).1.state = .CONNECTED then halfClosed w else .CLOSED) with hc2
  have hst2 : c2.state = halfClosed w ∧ c.state = .CONNECTED ∨ c2.state = .CLOSED := by
    rw [hc2, closedHalf_state, recvOn_state]; split_ifs with h <;> simp [h]
  have hrecv : Sniproxy.receive c w revents io.recv = .ok (c2, .none) := by
    rw [receive_closes hread hroom heof, closeSocketOf_eq hw1]; rfl
  have hlate : 4 ≤ c2.state.stage := by
    rcases hst2 with ⟨h, -⟩ | h <;> rw [h] <;> cases w <;> decide
  have hset : c2.state.Settled := by
    rcases hst2 with ⟨h, -⟩ | h <;> rw [h] <;> cases w <;> simp [State.Settled, halfClosed]
  -- nothing is sent, nothing left to route, and the flush block may close the other half
  obtain ⟨c3, hc3, -, hpre, -, hsc, hcc⟩ :=
    closeFlushed_spec ((hidle.sound.recvOn hopen io.recv).close hw1) hset
  have he : Sniproxy.handleEvent c w revents io = .ok c3 := by
    simp only [Sniproxy.handleEvent, hrecv, Except.ok_bind, handleState_late hlate, hc3,
      show Sniproxy.transmit c2 w .none io.send = .ok c2 from rfl]
  have hclose : .close w ∈ c3.log := by
    obtain ⟨newer, hnew⟩ := (closeFlushed_advances hc3).log
    rw [← hnew]
    exact List.mem_append_right _ (by simp [hc2])
  have hst3 : c3.state = halfClosed w ∧ c.state = .CONNECTED ∨ c3.state = .CLOSED := by
    rcases hst2 with ⟨h2, hcon⟩ | h2 <;> rw [h2] at hpre
    · exact (halfClosed_precedes hpre).imp (⟨·, hcon⟩) id
    · rcases hpre with h | h
      · exact .inr h.symm
      · cases hs : c3.state <;> simp [hs, State.stage] at h
  rcases hst3 with ⟨h3, hcon⟩ | h3
  · have hdata : (c3.half w).buffer.data ≠ [] := by
      cases w
      · exact hcc h3
      · exact hsc h3
    -- the other half is open and wants to write those bytes
    have hwant : ∃ s, sideOpen s c3 ∧ desired c3 s ≠ .none :=
      ⟨w.other,
        by cases w <;> simp [h3, halfClosed, clientSocketOpen, serverSocketOpen, Side.other],
        fun h => hdata (by rw [desired_eq_none, Side.other_other] at h; exact h.2)⟩
    refine ⟨_, connectionCb_of_wanted hidle hw he (by cases w <;> simp [h3, halfClosed]) hwant,
      by rw [reactivateWatchers_log]; exact hclose, .inl ⟨?_, hcon, ?_⟩⟩
    · rw [reactivateWatchers_state, h3]
    · rwa [reactivateWatchers_buffer]
  · exact ⟨c3, by simp [Sniproxy.connectionCb, he, h3], hclose, .inr h3⟩

theorem eof_closes_half_at_example :
    ∃ c', Sniproxy.connectionCb exampleConnected .client EV_READ ⟨.ok [], .ok 0, .ok (), .ok ()⟩ =
        .ok c' ∧ .close .client ∈ c'.log ∧
      (c'.state = halfClosed .client ∧ exampleConnected.state = .CONNECTED ∧
          (c'.half .client).buffer.data ≠ [] ∨ c'.state = .CLOSED) :=
  eof_closes_half exampleConnected_reachable rfl rfl (by decide) (.inl rfl)

/-! ## Half-closed between callbacks

The flush block closes the open half as soon as the closed half's buffer is empty, so a
half-closed connection between callbacks always has bytes still to deliver. -/

/-- A half whose buffer holds bytes has not yet passed on all it read. -/
theorem Sound.pending {c : Connection} (h : Sound c) {s : Side}
    (hne : (c.half s).buffer.data ≠ []) :
    sent s.other c.log <+: received s c.log ∧ sent s.other c.log ≠ received s c.log := by
  rw [h.relay s]
  exact ⟨List.prefix_append _ _, fun heq => hne (List.append_right_eq_self.mp heq.symm)⟩

/-- A callback that returns leaves a half-closed connection with bytes still to deliver from its
closed half. -/
theorem connectionCb_pending {c c' : Connection} {w : Side} {revents : Events} {io : Io}
    (hidle : Idle c) (hw : (c.half w).watcher.active)
    (hcb : Sniproxy.connectionCb c w revents io = .ok c') (s : Side)
    (hst : c'.state = halfClosed s) : (c'.half s).buffer.data ≠ [] := by
  obtain ⟨c'', he, -, -, -, hsc, hcc⟩ :=
    handleEvent_spec revents io hidle.sound (hidle.sound.watcher_open w hw) hidle.waiting
  -- the callback returns `c''`, or `c''` with its watchers rearmed
  have hsame : c'.state = c''.state ∧ ∀ s, (c'.half s).buffer = (c''.half s).buffer := by
    obtain ⟨c₁, he₁, -, -, ⟨-, hcb₁⟩ | ⟨-, -, hcb₁, -⟩ | ⟨-, -, hcb₁⟩⟩ :=
      connectionCb_cases revents io hidle hw <;> rw [he] at he₁ <;> cases he₁ <;>
      rw [hcb] at hcb₁ <;> cases hcb₁
    · exact ⟨rfl, fun _ => rfl⟩
    · exact ⟨reactivateWatchers_state _, reactivateWatchers_buffer _⟩
  rw [hsame.2 s]
  rw [hsame.1] at hst
  cases s
  · exact hcc hst
  · exact hsc hst

/-- Between callbacks, a half-closed connection has bytes still to deliver. -/
theorem Reachable.pending {c : Connection} (hc : Reachable c) (s : Side)
    (hst : c.state = halfClosed s) : (c.half s).buffer.data ≠ [] := by
  cases hc with
  | accept ha => rw [acceptConnection_eq ha] at hst; cases s <;> cases hst
  | callback hc hw _ hcb _ => exact connectionCb_pending (reachable_idle hc) hw hcb s hst

/-- **A connection stays half-closed only while it has bytes to deliver.** After any callback
that returns on a reachable connection, if the server has closed and the client half is still
open, the client has not yet been sent everything the server sent; and symmetrically. So a
callback that delivers the last byte to the open half of a half-closed connection closes it. -/
theorem half_closed_only_while_undelivered {c c' : Connection} {w : Side} {revents : Events}
    {io : Io} (hc : Reachable c) (hw : (c.half w).watcher.active)
    (hcb : Sniproxy.connectionCb c w revents io = .ok c') :
    (c'.state = .SERVER_CLOSED →
      sent .client c'.log <+: received .server c'.log ∧ sent .client c'.log ≠ received .server c'.log) ∧
    (c'.state = .CLIENT_CLOSED →
      sent .server c'.log <+: received .client c'.log ∧ sent .server c'.log ≠ received .client c'.log) := by
  have hidle := reachable_idle hc
  obtain ⟨hs, -, -⟩ := connectionCb_ok hidle hw hcb
  exact ⟨fun hst => hs.pending (connectionCb_pending hidle hw hcb .server hst),
    fun hst => hs.pending (connectionCb_pending hidle hw hcb .client hst)⟩

theorem half_closed_only_while_undelivered_at_example :
    (exampleHalfClosed.state = .SERVER_CLOSED → sent .client exampleHalfClosed.log <+:
        received .server exampleHalfClosed.log ∧
        sent .client exampleHalfClosed.log ≠ received .server exampleHalfClosed.log) ∧
    (exampleHalfClosed.state = .CLIENT_CLOSED → sent .server exampleHalfClosed.log <+:
        received .client exampleHalfClosed.log ∧
        sent .server exampleHalfClosed.log ≠ received .client exampleHalfClosed.log) :=
  half_closed_only_while_undelivered (w := .server) exampleAnswered_reachable rfl
    (show Sniproxy.connectionCb exampleAnswered .server EV_READ ⟨.ok [], .ok 0, .ok (), .ok ()⟩ =
      .ok exampleHalfClosed from rfl)

/-! ## Runs from a half-closed connection

Along a run from a half-closed connection the state can only stay, since the two half-closed
states share a stage and only `CLOSED` is later. -/

/-- **A half-closed connection drains.** Over any run of callbacks from a reachable connection
whose half `s` is closed, the connection stays so, nothing more is read from the closed peer, and
the bytes that peer had left pending are written to the other peer in order, each once: what the
run delivered is exactly what the buffer lost. -/
theorem half_closed_drains {c c' : Connection} {s : Side} (hc : Reachable c)
    (hst : c.state = halfClosed s) (hrun : Relation.ReflTransGen Callback c c') :
    c'.state = halfClosed s ∧ received s c'.log = received s c.log ∧
      ∃ delivered, (c.half s).buffer.data = delivered ++ (c'.half s).buffer.data ∧
        sent s.other c'.log = sent s.other c.log ++ delivered := by
  -- along the run the state stays and the log grows
  have hstep : c'.state = halfClosed s ∧ c.log <:+ c'.log := by
    induction hrun with
    | refl => exact ⟨hst, List.suffix_refl _⟩
    | tail hrun₁ hstep ih =>
      obtain ⟨w, revents, io, hw, -, hcb, hcl⟩ := hstep
      obtain ⟨-, hpre, -⟩ := connectionCb_ok (reachable_idle (hc.callbacks hrun₁)) hw hcb
      rw [ih.1] at hpre
      exact ⟨(halfClosed_precedes hpre).resolve_right hcl, ih.2.trans (connectionCb_advances hcb).log⟩
  have hs := (reachable_idle hc).sound
  obtain ⟨p, hp, hok⟩ := hs.phases s
  rw [hst] at hok
  exact ⟨hstep.1, hs.drain (reachable_idle (hc.callbacks hrun)).sound
    (phaseOk_halfClosed hok ▸ hp) hstep.2⟩

/-- The client's watcher is called to write and the socket takes one of the two pending bytes:
the other still waits, and the connection stays `SERVER_CLOSED`. -/
def exampleHalfDelivered : Connection :=
  { exampleHalfClosed with
    server := ⟨⟨4, [8], by decide, by decide⟩, ⟨EV_READ, false⟩⟩
    log := .send .client [7] :: exampleHalfClosed.log }

theorem half_closed_drains_at_example :
    exampleHalfDelivered.state = halfClosed .server ∧
      received .server exampleHalfDelivered.log = received .server exampleHalfClosed.log ∧
      ∃ delivered, (exampleHalfClosed.half .server).buffer.data =
          delivered ++ (exampleHalfDelivered.half .server).buffer.data ∧
        sent Side.server.other exampleHalfDelivered.log =
          sent Side.server.other exampleHalfClosed.log ++ delivered :=
  half_closed_drains exampleHalfClosed_reachable rfl
    (.single (.mk .client EV_WRITE ⟨.ok [], .ok 1, .ok (), .ok ()⟩ rfl (by decide)
      (show Sniproxy.connectionCb exampleHalfClosed .client EV_WRITE
        ⟨.ok [], .ok 1, .ok (), .ok ()⟩ = .ok exampleHalfDelivered from rfl) (by decide)))

/-! ## Delivering the last bytes

The callback whose `send` takes all the bytes a half-closed connection still holds ends it. -/

/-- On a write event, with bytes for the half's socket, the transmit block sends them. -/
theorem transmit_sends {c : Connection} {w : Side} {n : Nat}
    (hne : (c.half w.other).buffer.data ≠ []) :
    Sniproxy.transmit c w EV_WRITE (.ok n) = .ok (c.sendOn w (.ok n)).1 := by
  simp [Sniproxy.transmit, EV_WRITE, bufferLen, hne]

/-- **The last bytes close a half-closed connection.** On a reachable connection whose half `s`
is closed, a write event on the open half's watcher whose `send` takes every pending byte ends the
connection in one callback: the log grows by that `send` and the `close` of the open socket, and
the open peer has been sent the closed peer's whole stream. -/
theorem last_bytes_close_half_closed {c : Connection} {s : Side} {io : Io} {n : Nat}
    (hc : Reachable c) (hst : c.state = halfClosed s) (hsend : io.send = .ok n)
    (hall : bufferLen (c.half s).buffer ≤ n) :
    ∃ c', Sniproxy.connectionCb c s.other EV_WRITE io = .ok c' ∧ c'.state = .CLOSED ∧
      c'.log = .close s.other :: .send s.other (c.half s).buffer.data :: c.log ∧
      sent s.other c'.log = received s c'.log := by
  set c1 := (c.sendOn s.other (.ok n)).1 with hc1
  have hsent : Sniproxy.transmit c s.other EV_WRITE io.send = .ok c1 := by
    rw [hsend]; exact transmit_sends (by rw [Side.other_other]; exact hc.pending s hst)
  have hst1 : c1.state = halfClosed s := by rw [hc1, sendOn_state, hst]
  -- the `send` took everything pending
  have hnil : (c1.half s).buffer.data = [] := by
    have hhalf := sendOn_half_other c s.other (.ok n)
    rw [Side.other_other] at hhalf
    rw [hc1, hhalf]
    exact List.drop_eq_nil_of_le hall
  have hevent : Sniproxy.handleEvent c s.other EV_WRITE io =
      .ok (c1.closedHalf s.other .CLOSED) := by
    simp only [Sniproxy.handleEvent, show Sniproxy.receive c s.other EV_WRITE io.recv =
      .ok (c, EV_WRITE) from rfl, hsent, Except.ok_bind,
      handleState_late
        (show 4 ≤ c1.state.stage by cases s <;> simp [hst1, halfClosed, State.stage]),
      closeFlushed_flushed hst1 hnil]
  have hlog : (c1.closedHalf s.other .CLOSED).log =
      .close s.other :: .send s.other (c.half s).buffer.data :: c.log := by
    rw [closedHalf_log, hc1, sendOn_log, sendOn_written, Side.other_other]
    simp [bufferSend, moved, List.take_of_length_le hall]
  refine ⟨_, by simp [Sniproxy.connectionCb, hevent], rfl, hlog, ?_⟩
  rw [hlog]
  simp [(reachable_idle hc).sound.relay s]

theorem last_bytes_close_half_closed_at_example :
    ∃ c', Sniproxy.connectionCb exampleHalfClosed Side.server.other EV_WRITE
        ⟨.ok [], .ok 2, .ok (), .ok ()⟩ = .ok c' ∧ c'.state = .CLOSED ∧
      c'.log = .close Side.server.other ::
        .send Side.server.other (exampleHalfClosed.half .server).buffer.data ::
          exampleHalfClosed.log ∧
      sent Side.server.other c'.log = received .server c'.log :=
  last_bytes_close_half_closed exampleHalfClosed_reachable rfl rfl (by decide)

end Sniproxy
