import Sniproxy.Connection.Properties

/-!
# Sniproxy — runs of callbacks

What a single `connection_cb` can do, said once for every block, and the runs the event loop makes
of it on one connection:

* **`receive_cases`**, **`transmit_cases`**, **`closeSocket_ok`** — what the receive block, the
  transmit block and a close return, so that later proofs never unfold them.
* **`connectionCb_advances`** — a callback moves a connection forward (`Advances`): never back
  in the lifecycle, only adding calls to the log, and keeping its route once chosen.
* **`Callback`**, **`Reachable.callbacks`** — one callback the event loop may make on a
  connection it holds; a run of them from a reachable connection ends in a reachable one.
-/

namespace Sniproxy

/-! ## What each block returns -/

/-- A bind that succeeded ran its first step successfully. -/
theorem Except.bind_eq_ok {ε α β : Type} {x : Except ε α} {f : α → Except ε β} {b : β}
    (h : x >>= f = .ok b) : ∃ a, x = .ok a ∧ f a = .ok b := by
  cases x with
  | error e => cases h
  | ok a => exact ⟨a, rfl, h⟩

/-- What the receive block can return: the connection as it was, the connection after its
`recv`, or that one with the half closed. -/
theorem receive_cases {c c' : Connection} {w : Side} {revents revents' : Events}
    {r : Except Errno (List UInt8)} (hc : Sniproxy.receive c w revents r = .ok (c', revents')) :
    c' = c ∨ c' = (c.recvOn w r).1 ∨ Sniproxy.closeSocketOf w (c.recvOn w r).1 = .ok c' := by
  unfold Sniproxy.receive at hc
  split_ifs at hc
  · generalize c.recvOn w r = x at hc ⊢
    obtain ⟨c1, got⟩ := x
    have hclose : ∀ {x}, (Sniproxy.closeSocketOf w c1 >>= fun c2 => pure (c2, x)) =
        .ok (c', revents') → Sniproxy.closeSocketOf w c1 = .ok c' := fun hc => by
      obtain ⟨c2, hc2, hc⟩ := Except.bind_eq_ok hc
      cases hc; exact hc2
    rcases got with e | _ | ⟨b, bs⟩ <;> dsimp only at hc
    · split_ifs at hc
      · cases hc; exact .inr (.inl rfl)
      · exact .inr (.inr (hclose hc))
    · exact .inr (.inr (hclose hc))
    · cases hc; exact .inr (.inl rfl)
  · cases hc; exact .inl rfl

/-- What the transmit block can return: the connection as it was, or, on a write event, the
connection after its `send`, or that one with the half closed. -/
theorem transmit_cases {c c' : Connection} {w : Side} {revents : Events} {r : Except Errno Nat}
    (hc : Sniproxy.transmit c w revents r = .ok c') :
    c' = c ∨ revents.write ∧
      (c' = (c.sendOn w r).1 ∨ Sniproxy.closeSocketOf w (c.sendOn w r).1 = .ok c') := by
  unfold Sniproxy.transmit at hc
  split_ifs at hc with hcond
  · have hwrite : revents.write := by simp_all
    generalize c.sendOn w r = x at hc ⊢
    obtain ⟨c1, sent⟩ := x
    rcases sent with e | _ <;> dsimp only at hc
    · split_ifs at hc
      · cases hc; exact .inr ⟨hwrite, .inl rfl⟩
      · exact .inr ⟨hwrite, .inr hc⟩
    · cases hc; exact .inr ⟨hwrite, .inl rfl⟩
  · cases hc; exact .inl rfl

/-! ## What every block keeps

Every block of `connection_cb` moves a connection forward: no earlier in the lifecycle, with calls
added at the head of its log and none removed, and with its route kept once chosen. Receiving,
sending, closing and rearming the watchers leave the route alone; only `parse_client_request`
writes the hostname, in `ACCEPTED`, and only `resolve_server_address` the server address, in
`PARSED`. -/

/-- `c'` relays where `c` does: the same listener, hostname and server address. -/
structure SameRoute (c c' : Connection) : Prop where
  listener : c'.listener = c.listener
  hostname : c'.hostname = c.hostname
  serverAddr : c'.serverAddr = c.serverAddr

theorem sameRoute_recvOn (c : Connection) (w : Side) (r : Except Errno (List UInt8)) :
    SameRoute c (c.recvOn w r).1 := by
  cases w <;> exact ⟨rfl, rfl, rfl⟩

theorem sameRoute_sendOn (c : Connection) (w : Side) (r : Except Errno Nat) :
    SameRoute c (c.sendOn w r).1 := by
  cases w <;> exact ⟨rfl, rfl, rfl⟩

theorem sameRoute_closedHalf (c : Connection) (s : Side) (st : State) :
    SameRoute c (c.closedHalf s st) := by
  cases s <;> exact ⟨rfl, rfl, rfl⟩

theorem sameRoute_reactivateWatchers (c : Connection) : SameRoute c (reactivateWatchers c) := by
  unfold reactivateWatchers; dsimp only
  split_ifs <;> exact ⟨rfl, rfl, rfl⟩

/-- `c'` follows `c`: no earlier in the lifecycle, with a log that extends its log, and with what
`c` had settled of its route: the listener always, the hostname once parsed, the server address
once resolved. -/
structure Advances (c c' : Connection) : Prop where
  stage : c.state.stage ≤ c'.state.stage
  log : c.log <:+ c'.log
  listener : c'.listener = c.listener
  hostname : 2 ≤ c.state.stage → c'.hostname = c.hostname
  serverAddr : 3 ≤ c.state.stage → c'.serverAddr = c.serverAddr

theorem Advances.refl (c : Connection) : Advances c c :=
  ⟨le_rfl, List.suffix_refl _, rfl, fun _ => rfl, fun _ => rfl⟩

theorem Advances.trans {c₁ c₂ c₃ : Connection} (h : Advances c₁ c₂) (h' : Advances c₂ c₃) :
    Advances c₁ c₃ :=
  ⟨h.stage.trans h'.stage, h.log.trans h'.log, h'.listener.trans h.listener,
    fun h2 => (h'.hostname (h2.trans h.stage)).trans (h.hostname h2),
    fun h3 => (h'.serverAddr (h3.trans h.stage)).trans (h.serverAddr h3)⟩

theorem SameRoute.advances {c c' : Connection} (h : SameRoute c c')
    (hst : c.state.stage ≤ c'.state.stage) (hlog : c.log <:+ c'.log) : Advances c c' :=
  ⟨hst, hlog, h.listener, fun _ => h.hostname, fun _ => h.serverAddr⟩

/-- What `close_client_socket` or `close_server_socket` returns: its assertion held, and the half
is closed with the state set. -/
theorem closeSocket_ok {s : Side} {halfClosed : State} {last : State → Bool}
    {c c' : Connection} (h : closeSocket s halfClosed last c = .ok c') :
    c.state ≠ .CLOSED ∧ c.state ≠ halfClosed ∧
      c' = c.closedHalf s (if last c.state then .CLOSED else halfClosed) := by
  simp only [closeSocket, assert] at h
  split at h
  · rename_i hg
    simp only [Bool.and_eq_true, bne_iff_ne, ne_eq] at hg
    cases h; exact ⟨hg.1, hg.2, by cases s <;> rfl⟩
  · cases h

/-- A close moves to a half-closed state or to `CLOSED`, both after every state it may start
from. -/
theorem closeSocketOf_advances {s : Side} {c c' : Connection}
    (h : Sniproxy.closeSocketOf s c = .ok c') : Advances c c' := by
  obtain ⟨hcl, st, hst, rfl⟩ : c.state ≠ .CLOSED ∧ ∃ st, (st = .CLOSED ∨ st = halfClosed s) ∧
      c' = c.closedHalf s st := by
    cases s <;> obtain ⟨hcl, -, rfl⟩ := closeSocket_ok (by simpa [Sniproxy.closeSocketOf] using h) <;>
      exact ⟨hcl, _, by split_ifs <;> simp [halfClosed], rfl⟩
  have h5 : c.state.stage ≤ 5 := by cases hs : c.state <;> simp_all [State.stage]
  refine (sameRoute_closedHalf c s st).advances ?_ ⟨[_], (closedHalf_log c s st).symm⟩
  rw [closedHalf_state]
  rcases hst with rfl | rfl
  · exact h5.trans (by decide)
  · cases s <;> exact h5

theorem receive_advances {c c' : Connection} {w : Side} {revents revents' : Events}
    {r : Except Errno (List UInt8)} (hc : Sniproxy.receive c w revents r = .ok (c', revents')) :
    Advances c c' := by
  have hrecv := (sameRoute_recvOn c w r).advances (by simp) ⟨[_], (recvOn_log c w r).symm⟩
  rcases receive_cases hc with rfl | rfl | hc
  · exact .refl _
  · exact hrecv
  · exact hrecv.trans (closeSocketOf_advances hc)

theorem transmit_advances {c c' : Connection} {w : Side} {revents : Events} {r : Except Errno Nat}
    (hc : Sniproxy.transmit c w revents r = .ok c') : Advances c c' := by
  have hsend := (sameRoute_sendOn c w r).advances (by simp) ⟨[_], (sendOn_log c w r).symm⟩
  rcases transmit_cases hc with rfl | ⟨-, rfl | hc⟩
  · exact .refl _
  · exact hsend
  · exact hsend.trans (closeSocketOf_advances hc)

theorem parseClientRequest_advances {c c' : Connection} (hst : c.state = .ACCEPTED)
    (h : parseClientRequest c = .ok c') : Advances c c' := by
  unfold parseClientRequest at h
  dsimp only at h
  split_ifs at h
  · cases h; exact .refl c
  · exact closeSocketOf_advances (s := .client) h
  · cases h
    exact ⟨by simp [hst, State.stage], List.suffix_refl _, rfl, by simp [hst, State.stage],
      by simp [hst, State.stage]⟩

theorem resolveServerAddress_advances {c c' : Connection} (hst : c.state = .PARSED)
    (h : resolveServerAddress c = .ok c') : Advances c c' := by
  rw [resolveServerAddress_eq] at h
  split at h
  · exact closeSocketOf_advances (s := .client) h
  · cases h
    exact ⟨by simp [hst, State.stage], List.suffix_refl _, rfl, fun _ => rfl,
      by simp [hst, State.stage]⟩

theorem initiateServerConnect_advances {c : Connection} (hst : c.state = .RESOLVED)
    (socket connect : Except Errno Unit) : Advances c (initiateServerConnect c socket connect) := by
  unfold initiateServerConnect
  split
  · exact .refl c
  · split_ifs
    · exact ⟨by simp [hst, State.stage], ⟨[_, _, _], rfl⟩, rfl, fun _ => rfl, fun _ => rfl⟩
    · exact ⟨by simp [hst, State.stage], ⟨[_, _], rfl⟩, rfl, fun _ => rfl, fun _ => rfl⟩

/-- A block of `connection_cb` that runs under a guard, and moves the connection forward when it
runs. -/
theorem advances_ite {c c' : Connection} {p : Bool} {f : Connection → Except Assertion Connection}
    (h : (if p = true then f c else pure c) = .ok c') (hf : p = true → f c = .ok c' → Advances c c') :
    Advances c c' := by
  split_ifs at h with hp
  · exact hf hp h
  · cases h; exact .refl c

/-- The guard of each step of the state-specific block: the client watcher, in the state `st'`. -/
theorem state_of_clientGuard {w : Side} {st st' : State} (h : (w == .client && st == st') = true) :
    st = st' := by
  simp only [Bool.and_eq_true, beq_iff_eq] at h
  exact h.2

theorem handleState_advances {c c' : Connection} {w : Side} {io : Io}
    (h : Sniproxy.handleState c w io = .ok c') : Advances c c' := by
  unfold Sniproxy.handleState at h
  obtain ⟨c1, hc1, h⟩ := Except.bind_eq_ok h
  obtain ⟨c2, hc2, h⟩ := Except.bind_eq_ok h
  cases h
  refine (advances_ite hc1 fun hg => parseClientRequest_advances (state_of_clientGuard hg)).trans
    ((advances_ite hc2 fun hg => resolveServerAddress_advances (state_of_clientGuard hg)).trans ?_)
  split_ifs with hg
  · exact initiateServerConnect_advances (state_of_clientGuard hg) _ _
  · exact .refl c2

theorem closeFlushed_advances {c c' : Connection} (h : Sniproxy.closeFlushed c = .ok c') :
    Advances c c' := by
  unfold Sniproxy.closeFlushed at h
  obtain ⟨c1, hc1, h⟩ := Except.bind_eq_ok h
  exact (advances_ite hc1 fun _ => closeSocketOf_advances (s := .client)).trans
    (advances_ite h fun _ => closeSocketOf_advances (s := .server))

theorem handleEvent_advances {c c' : Connection} {w : Side} {revents : Events} {io : Io}
    (h : Sniproxy.handleEvent c w revents io = .ok c') : Advances c c' := by
  unfold Sniproxy.handleEvent at h
  obtain ⟨⟨c1, rev⟩, h1, h⟩ := Except.bind_eq_ok h
  obtain ⟨c2, h2, h⟩ := Except.bind_eq_ok h
  obtain ⟨c3, h3, h4⟩ := Except.bind_eq_ok h
  exact (receive_advances h1).trans <| (transmit_advances h2).trans <|
    (handleState_advances h3).trans (closeFlushed_advances h4)

/-- **A callback moves a connection forward**, also the one that leaves it `CLOSED`. -/
theorem connectionCb_advances {c c' : Connection} {w : Side} {revents : Events} {io : Io}
    (hcb : Sniproxy.connectionCb c w revents io = .ok c') : Advances c c' := by
  unfold Sniproxy.connectionCb at hcb
  obtain ⟨c1, he, hcb⟩ := Except.bind_eq_ok hcb
  split_ifs at hcb
  · cases hcb; exact handleEvent_advances he
  · simp only [Except.pure_eq_ok, Except.ok_bind] at hcb
    obtain ⟨-, -, hcb⟩ := Except.bind_eq_ok hcb
    cases hcb
    exact (handleEvent_advances he).trans ((sameRoute_reactivateWatchers c1).advances
      (by rw [reactivateWatchers_state]) ⟨[], (reactivateWatchers_log c1).symm⟩)

/-! ## Runs of callbacks

`Callback` is one step the event loop may take on a connection it holds, as in `Reachable`; a run
is any sequence of them. -/

/-- One `connection_cb` invocation the event loop may make on a connection it holds, on a started
watcher with readiness within its interest and any answers of the kernel, that returns without
closing the connection. -/
inductive Callback : Connection → Connection → Prop
  | mk {c c' : Connection} (w : Side) (revents : Events) (io : Io) :
      (c.half w).watcher.active → revents.Within (c.half w).watcher.events →
      Sniproxy.connectionCb c w revents io = .ok c' → c'.state ≠ .CLOSED → Callback c c'

/-- A run of callbacks from a reachable connection ends in a reachable one. -/
theorem Reachable.callbacks {c c' : Connection} (hc : Reachable c)
    (hrun : Relation.ReflTransGen Callback c c') : Reachable c' := by
  induction hrun with
  | refl => exact hc
  | tail _ hstep ih =>
    obtain ⟨w, revents, io, hw, hin, hcb, hcl⟩ := hstep
    exact .callback ih hw hin hcb hcl

theorem Callback.advances {c c' : Connection} (h : Callback c c') : Advances c c' := by
  obtain ⟨w, revents, io, -, -, hcb, -⟩ := h
  exact connectionCb_advances hcb

end Sniproxy
