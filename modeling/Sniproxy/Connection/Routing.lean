import Sniproxy.Connection.Run

/-!
# Sniproxy — where a connection's bytes go

`parse_client_request`, `resolve_server_address` and `initiate_server_connect` choose the server a
connection relays to: the listener's parser reads the first bytes the client sent, the listener's
lookup maps the hostname found there to an address, and the new server socket is connected to that
address. This module proves that the choice is made so on every run, for every parser, every lookup
and every answer of the kernel:

* **`ParsedFrom`**, **`ResolvedTo`** — the route of a connection: its hostname is the parser's
  verdict on the first 1460 bytes the client had sent at some earlier point of the log, and its
  server address is the socket address the lookup gives that hostname.
* **`Routed`** — the invariant: no hostname and no server address before parsing, a route from
  then on, and every `connect` and every `socket` of the log towards the routed address.
* **`Quiet`** — the steps that leave the route alone (receiving, sending, closing, rearming the
  watchers). `Routed.quiet` carries the invariant over all of them at once; the three steps that
  make the route have a lemma each (`Routed.parse`, `Routed.resolve`, `Routed.initiate`).
* **`reachable_routed`** — the invariant holds of every reachable connection, by induction on the
  run, and `Routed.connectionCb` also of what the last callback of a connection returns, the one
  that leaves it `CLOSED`.
* **`connects_follow_client_request`** and **`server_bytes_follow_route`** — what this means for
  the kernel: every `connect` goes to the address the lookup gives for what the parser read, and
  a server receives a prefix of the client's stream only after its socket was connected there.
* **`route_chosen_once`** — and the route stays: along any run of callbacks no part of it, once
  chosen, is written again.
* **`complete_request_connects_in_one_callback`** — and a connect does happen: the callback whose
  `recv` completes a routable request parses, resolves and connects in one pass.
* **`unservable_request_closes_in_one_callback`** — when the request cannot be served (no usable
  hostname and no fallback, a hostname backend, a failed `connect`), that same callback closes the
  connection, with no byte written to either peer.
-/

namespace Sniproxy

/-! ## The route -/

/-- The bytes `parse_client_request` hands the parser after the calls `log`: the first 1460 bytes
the client sent. (Until the server is connected the client buffer holds all of them.) -/
def peekedRequest (log : List Syscall) : List UInt8 := (received .client log).take 1460

/-- A verdict `parse_client_request` keeps: not incomplete (`-1`), and without a usable hostname
(`≤ -2`) only when the listener has a fallback address. -/
def Listener.Accepts (l : Listener) (request : List UInt8) : Prop :=
  (l.parsePacket request).1 ≠ -1 ∧ ((l.parsePacket request).1 ≤ -2 → l.fallbackAddress ≠ none)

/-- The hostname of `c` is what its listener's parser found, in a verdict it keeps, in the first
bytes the client had sent when the log was `older`. -/
def ParsedFrom (c : Connection) : Prop :=
  ∃ newer older, c.log = newer ++ older ∧ c.listener.Accepts (peekedRequest older) ∧
    c.hostname = (c.listener.parsePacket (peekedRequest older)).2

/-- The server address of `c` is the socket address its listener's lookup gives its hostname. -/
def ResolvedTo (c : Connection) : Prop :=
  ∃ sa, c.listener.lookupServerAddress c.hostname = .sockaddr sa ∧ c.serverAddr = some sa

/-- The calls that decide where the server socket goes: `socket` and `connect`. -/
def Syscall.routes : Syscall → Bool
  | .socket | .connect _ => true
  | _ => false

/-- **The routing invariant.** Stages are those of `State.stage`: `ACCEPTED` is 1, `PARSED` 2,
`RESOLVED` 3, `CONNECTED` 4, the half-closed states 5, `CLOSED` 6. -/
structure Routed (c : Connection) : Prop where
  /-- Before parsing there is no hostname and no server address. -/
  unparsed : c.state.stage ≤ 1 → c.hostname = none ∧ c.serverAddr = none
  /-- From `PARSED` until `CLOSED` the hostname is the parser's. -/
  parsed : 2 ≤ c.state.stage → c.state.stage ≤ 5 → ParsedFrom c
  /-- From `RESOLVED` until `CLOSED` the server address is the lookup's. -/
  resolved : 3 ≤ c.state.stage → c.state.stage ≤ 5 → ResolvedTo c
  /-- Every `connect` went to the server address, which the parser and the lookup chose. -/
  connects : ∀ a, .connect a ∈ c.log → ParsedFrom c ∧ ResolvedTo c ∧ a = c.serverAddr
  /-- A server socket, once created, was connected to the server address. -/
  opened : .socket ∈ c.log → .connect c.serverAddr ∈ c.log

theorem ParsedFrom.mono {c c' : Connection} (h : ParsedFrom c) (hl : c'.listener = c.listener)
    (hh : c'.hostname = c.hostname) (hlog : ∃ newer, c'.log = newer ++ c.log) : ParsedFrom c' := by
  obtain ⟨n₁, older, hc, hacc, hhost⟩ := h
  obtain ⟨n₂, hc'⟩ := hlog
  exact ⟨n₂ ++ n₁, older, by rw [hc', hc, List.append_assoc], by rw [hl]; exact hacc,
    by rw [hh, hhost, hl]⟩

theorem ResolvedTo.congr {c c' : Connection} (h : ResolvedTo c) (hl : c'.listener = c.listener)
    (hh : c'.hostname = c.hostname) (ha : c'.serverAddr = c.serverAddr) : ResolvedTo c' := by
  unfold ResolvedTo; rw [hl, hh, ha]; exact h

/-! ## Steps that leave the route alone -/

/-- `c'` follows `c` without touching its route: the same listener, hostname and server address,
and a log grown only by calls that do not route. -/
structure Quiet (c c' : Connection) extends SameRoute c c' : Prop where
  log : ∃ newer, c'.log = newer ++ c.log ∧ ∀ e ∈ newer, e.routes = false

/-- A quiet step keeps the invariant when it moves the state forward, and a connection not yet
`CONNECTED` only to `CLOSED`. -/
theorem Routed.quiet {c c' : Connection} (h : Routed c) (hq : Quiet c c')
    (hst : c.state.stage ≤ c'.state.stage)
    (hearly : c'.state.stage ≤ 5 → c'.state.stage = c.state.stage ∨ 4 ≤ c.state.stage) :
    Routed c' := by
  obtain ⟨⟨hl, hh, ha⟩, newer, hlog, hn⟩ := hq
  have hP : ParsedFrom c → ParsedFrom c' := fun hp => hp.mono hl hh ⟨newer, hlog⟩
  have hR : ResolvedTo c → ResolvedTo c' := fun hr => hr.congr hl hh ha
  have hmem : ∀ e, e.routes = true → e ∈ c'.log → e ∈ c.log := fun e he hm => by
    rw [hlog, List.mem_append] at hm
    exact hm.resolve_left fun hm' => by simp [hn e hm'] at he
  refine ⟨fun h1 => ?_, fun h2 h5 => hP (h.parsed ?_ (by omega)),
    fun h3 h5 => hR (h.resolved ?_ (by omega)), fun a hm => ?_, fun hm => ?_⟩
  · rw [hh, ha]; exact h.unparsed (by omega)
  · rcases hearly h5 with h' | h' <;> omega
  · rcases hearly h5 with h' | h' <;> omega
  · obtain ⟨hp, hr, rfl⟩ := h.connects a (hmem (.connect a) rfl hm)
    exact ⟨hP hp, hR hr, ha.symm⟩
  · rw [ha, hlog]; exact List.mem_append_right _ (h.opened (hmem .socket rfl hm))

theorem quiet_recvOn (c : Connection) (w : Side) (r : Except Errno (List UInt8)) :
    Quiet c (c.recvOn w r).1 :=
  ⟨sameRoute_recvOn c w r, [_], recvOn_log c w r, by simp [Syscall.routes]⟩

theorem quiet_sendOn (c : Connection) (w : Side) (r : Except Errno Nat) :
    Quiet c (c.sendOn w r).1 :=
  ⟨sameRoute_sendOn c w r, [_], sendOn_log c w r, by simp [Syscall.routes]⟩

theorem quiet_closedHalf (c : Connection) (s : Side) (st : State) : Quiet c (c.closedHalf s st) :=
  ⟨sameRoute_closedHalf c s st, [_], closedHalf_log c s st, by simp [Syscall.routes]⟩

theorem quiet_reactivateWatchers (c : Connection) : Quiet c (reactivateWatchers c) :=
  ⟨sameRoute_reactivateWatchers c, [], reactivateWatchers_log c, nofun⟩

/-- The stage a step moves to is at least the stage it starts from. -/
theorem State.Precedes.stage_le {a b : State} (h : a.Precedes b) : a.stage ≤ b.stage := by
  rcases h with rfl | h
  · exact le_rfl
  · exact h.le

/-- Closing an open half keeps the invariant. -/
theorem Routed.close {c : Connection} {s : Side} (h : Routed c) (hs : sideOpen s c) :
    Routed (c.closedHalf s (if c.state = .CONNECTED then halfClosed s else .CLOSED)) := by
  obtain ⟨-, -, -, hpre, -, -⟩ := close_state_facts hs
  refine h.quiet (quiet_closedHalf c s _) (by simpa using hpre.stage_le) fun h5 => .inr ?_
  split_ifs at h5 with hc
  · simp [hc, State.stage]
  · simp [State.stage] at h5

theorem Routed.closeSocketOf {c c' : Connection} {s : Side} (h : Routed c) (hs : sideOpen s c)
    (hc : closeSocketOf s c = .ok c') : Routed c' := by
  rw [closeSocketOf_eq hs] at hc
  cases hc
  exact h.close hs

theorem Routed.recvOn {c : Connection} (h : Routed c) (w : Side) (r : Except Errno (List UInt8)) :
    Routed (c.recvOn w r).1 :=
  h.quiet (quiet_recvOn c w r) (by simp) (by simp)

theorem Routed.sendOn {c : Connection} (h : Routed c) (w : Side) (r : Except Errno Nat) :
    Routed (c.sendOn w r).1 :=
  h.quiet (quiet_sendOn c w r) (by simp) (by simp)

theorem Routed.reactivate {c : Connection} (h : Routed c) : Routed (reactivateWatchers c) :=
  h.quiet (quiet_reactivateWatchers c) (by simp [reactivateWatchers_state])
    (by simp [reactivateWatchers_state])

/-- The receive block keeps the invariant. -/
theorem Routed.receive {c c' : Connection} {w : Side} {revents revents' : Events}
    {r : Except Errno (List UInt8)} (h : Routed c) (hw : sideOpen w c)
    (hc : Sniproxy.receive c w revents r = .ok (c', revents')) : Routed c' := by
  rcases receive_cases hc with rfl | rfl | hc
  · exact h
  · exact h.recvOn w r
  · exact (h.recvOn w r).closeSocketOf (by simpa using hw) hc

/-- The transmit block keeps the invariant. -/
theorem Routed.transmit {c c' : Connection} {w : Side} {revents : Events} {r : Except Errno Nat}
    (h : Routed c) (hw : revents.write → sideOpen w c)
    (hc : Sniproxy.transmit c w revents r = .ok c') : Routed c' := by
  rcases transmit_cases hc with rfl | ⟨hwrite, rfl | hc⟩
  · exact h
  · exact h.sendOn w r
  · exact (h.sendOn w r).closeSocketOf (by simpa using hw hwrite) hc

/-- The flush block keeps the invariant. -/
theorem Routed.closeFlushed {c c' : Connection} (h : Routed c)
    (hc : Sniproxy.closeFlushed c = .ok c') : Routed c' := by
  unfold Sniproxy.closeFlushed at hc
  obtain ⟨c1, hc1, h1⟩ : ∃ c1, (if (c.state == .SERVER_CLOSED &&
      bufferLen c.server.buffer == 0) = true then closeClientSocket c else pure c) = .ok c1 ∧
      Routed c1 := by
    split_ifs with hf
    · simp only [Bool.and_eq_true, beq_iff_eq] at hf
      have hopen : sideOpen .client c := by simp [clientSocketOpen, hf.1]
      exact ⟨_, closeSocketOf_eq hopen, h.close hopen⟩
    · exact ⟨c, rfl, h⟩
  rw [hc1, Except.ok_bind] at hc
  split_ifs at hc with hf
  · simp only [Bool.and_eq_true, beq_iff_eq] at hf
    exact h1.closeSocketOf (s := .server) (by simp [serverSocketOpen, hf.1]) hc
  · cases hc; exact h1

/-! ## The steps that make the route

Parsing and resolving happen before the server socket exists, so the log holds no `socket` and no
`connect` yet, and everything the client sent is still in its buffer: this is where `Sound` is
needed. -/

/-- A call that does not use the socket of half `s` writes nothing to it. -/
theorem wroteTo_eq_nil {s : Side} {e : Syscall} (h : e.uses s = false) : e.wroteTo s = [] := by
  cases e with
  | send s' bytes => simp_all [Syscall.uses, Syscall.wroteTo]
  | _ => rfl

/-- Nothing was written to a socket the log never used. -/
theorem sent_eq_nil {s : Side} :
    ∀ {log : List Syscall}, (∀ e ∈ log, e.uses s = false) → sent s log = []
  | [], _ => rfl
  | e :: log, h => by
    rw [sent_cons, sent_eq_nil fun e' he' => h e' (.tail _ he'), wroteTo_eq_nil (h e (.head _))]
    rfl

/-- A call that does not use the socket of half `s` reads nothing from it. -/
theorem readFrom_eq_nil {s : Side} {e : Syscall} (h : e.uses s = false) : e.readFrom s = [] := by
  cases e with
  | recv s' bytes => simp_all [Syscall.uses, Syscall.readFrom]
  | _ => rfl

/-- Nothing was read from a socket the log never used. -/
theorem received_eq_nil {s : Side} :
    ∀ {log : List Syscall}, (∀ e ∈ log, e.uses s = false) → received s log = []
  | [], _ => rfl
  | e :: log, h => by
    rw [received_cons, received_eq_nil fun e' he' => h e' (.tail _ he'),
      readFrom_eq_nil (h e (.head _))]
    rfl

theorem received_append (s : Side) (newer older : List Syscall) :
    received s (newer ++ older) = received s older ++ received s newer := by
  induction newer with
  | nil => simp
  | cons e newer ih => simp [ih]

theorem sent_append (s : Side) (newer older : List Syscall) :
    sent s (newer ++ older) = sent s older ++ sent s newer := by
  induction newer with
  | nil => simp
  | cons e newer ih => simp [ih]

/-- Before `CONNECTED`, no call of the log opened or used the server socket. -/
theorem Sound.server_untouched {c : Connection} (h : Sound c) (hst : c.state.stage ≤ 3) :
    ∀ e ∈ c.log, e.opens .server = false ∧ e.uses .server = false := by
  obtain ⟨p, hp, hok⟩ := h.phases .server
  exact untouched_of_unopened (phaseOk_server_early hst hok ▸ hp)

/-- Before `CONNECTED`, the log holds no `socket` and no `connect`. -/
theorem Sound.no_routes {c : Connection} (h : Sound c) (hst : c.state.stage ≤ 3) :
    ∀ e ∈ c.log, e.routes = false := fun e he => by
  have := h.server_untouched hst e he
  cases e <;> simp_all [Syscall.opens, Syscall.uses, Syscall.routes]

/-- Before `CONNECTED`, the client buffer holds everything the client sent. -/
theorem Sound.client_buffer {c : Connection} (h : Sound c) (hst : c.state.stage ≤ 3) :
    c.client.buffer.data = received .client c.log := by
  have hrelay := h.relay .client
  rw [show Side.client.other = .server from rfl,
    sent_eq_nil fun e he => (h.server_untouched hst e he).2] at hrelay
  simpa using hrelay.symm

/-- Before `CONNECTED`, nothing was written to either socket. -/
theorem Sound.nothing_sent {c : Connection} (h : Sound c) (hst : c.state.stage ≤ 3) (s : Side) :
    sent s c.log = [] := by
  have huse := fun e he => (h.server_untouched hst e he).2
  cases s with
  | server => exact sent_eq_nil huse
  | client =>
    have hrelay := h.relay .server
    rw [received_eq_nil huse] at hrelay
    exact (List.append_eq_nil.mp hrelay.symm).1

/-- A step from a state before `CONNECTED` to one before it, with the log as it was, keeps the
last two fields of the invariant: there is no `socket` and no `connect` to speak of. -/
theorem no_routes_fields {c : Connection} (h : Sound c) (hst : c.state.stage ≤ 3) :
    (∀ a, .connect a ∉ c.log) ∧ .socket ∉ c.log :=
  ⟨fun a ha => by simpa [Syscall.routes] using h.no_routes hst _ ha,
    fun ha => by simpa [Syscall.routes] using h.no_routes hst _ ha⟩

/-- **`parse_client_request`** keeps the invariant: the hostname it sets is the verdict on the
first 1460 bytes of what the client sent. -/
theorem Routed.parse {c c' : Connection} (hs : Sound c) (h : Routed c)
    (hst : c.state = .ACCEPTED) (hc : parseClientRequest c = .ok c') : Routed c' := by
  have hearly : c.state.stage ≤ 3 := by simp [hst, State.stage]
  have hpeek : bufferPeek c.client.buffer 1460 = peekedRequest c.log := by
    simp [bufferPeek, peekedRequest, hs.client_buffer hearly]
  obtain ⟨hnc, hns⟩ := no_routes_fields hs hearly
  simp only [parseClientRequest, hpeek, Except.pure_eq_ok] at hc
  split_ifs at hc with h1 h2
  · cases hc; exact h
  · exact h.closeSocketOf (s := .client) (by simp [clientSocketOpen, hst]) hc
  · cases hc
    refine ⟨fun h1 => by simp [State.stage] at h1, fun _ _ => ?_,
      fun h3 => by simp [State.stage] at h3, fun a ha => absurd ha (hnc a), fun ha => absurd ha hns⟩
    exact ⟨[], c.log, rfl, ⟨h1, fun hle hf => h2 ⟨hle, hf⟩⟩, rfl⟩

/-- **`resolve_server_address`** keeps the invariant: the address it sets is the lookup's for the
parsed hostname. -/
theorem Routed.resolve {c c' : Connection} (hs : Sound c) (h : Routed c)
    (hst : c.state = .PARSED) (hc : resolveServerAddress c = .ok c') : Routed c' := by
  have hearly : c.state.stage ≤ 3 := by simp [hst, State.stage]
  obtain ⟨hnc, hns⟩ := no_routes_fields hs hearly
  have hp := h.parsed (by simp [hst, State.stage]) (by simp [hst, State.stage])
  rw [resolveServerAddress_eq] at hc
  split at hc
  · exact h.closeSocketOf (s := .client) (by simp [clientSocketOpen, hst]) hc
  · rename_i sa hsa
    cases hc
    exact ⟨fun h1 => by simp [State.stage] at h1, fun _ _ => hp, fun _ _ => ⟨sa, hsa, rfl⟩,
      fun a ha => absurd ha (hnc a), fun ha => absurd ha hns⟩

/-- The step `initiate_server_connect` makes once `socket` succeeded: a `socket`, a `connect` to
the server address, then calls that do not route, into `CONNECTED` or a half-closed state. -/
theorem Routed.connect {c c' : Connection} (hs : Sound c) (h : Routed c) (hst : c.state = .RESOLVED)
    (hq : Quiet { c with log := .connect c.serverAddr :: .socket :: c.log } c')
    (h4 : 4 ≤ c'.state.stage) (h5 : c'.state.stage ≤ 5) : Routed c' := by
  have hearly : c.state.stage ≤ 3 := by simp [hst, State.stage]
  obtain ⟨hnc, hns⟩ := no_routes_fields hs hearly
  obtain ⟨⟨hl, hh, ha⟩, newer, hlog, hn⟩ := hq
  have hP : ParsedFrom c' :=
    (h.parsed (by simp [hst, State.stage]) (by omega)).mono hl hh
      ⟨newer ++ [.connect c.serverAddr, .socket], by simp [hlog]⟩
  have hR : ResolvedTo c' :=
    (h.resolved (by simp [hst, State.stage]) (by omega)).congr hl hh ha
  have hcon : .connect c'.serverAddr ∈ c'.log := by simp [hlog, ha]
  refine ⟨fun h1 => absurd h1 (by omega), fun _ _ => hP, fun _ _ => hR,
    fun a hm => ⟨hP, hR, ?_⟩, fun _ => hcon⟩
  rw [hlog, List.mem_append] at hm
  rcases hm with hm | hm
  · simpa [Syscall.routes] using hn _ hm
  · simp only [List.mem_cons, Syscall.connect.injEq] at hm
    rcases hm with rfl | hm | hm
    · exact ha.symm
    · cases hm
    · exact absurd hm (hnc a)

/-- **`initiate_server_connect`** keeps the invariant: the one `connect` it issues goes to the
resolved address. -/
theorem Routed.initiate {c : Connection} (hs : Sound c) (h : Routed c) (hst : c.state = .RESOLVED)
    (socket connect : Except Errno Unit) : Routed (initiateServerConnect c socket connect) := by
  cases socket with
  | error => exact h
  | ok =>
    unfold initiateServerConnect
    split_ifs
    · exact h.connect hs hst ⟨⟨rfl, rfl, rfl⟩, [.close .server], rfl, by simp [Syscall.routes]⟩
        (by simp [State.stage]) (by simp [State.stage])
    · exact h.connect hs hst ⟨⟨rfl, rfl, rfl⟩, [], rfl, by simp⟩
        (by simp [State.stage]) (by simp [State.stage])

/-- The state-specific block keeps the invariant. -/
theorem Routed.handleState {c c' : Connection} {w : Side} {io : Io} (hs : Sound c) (h : Routed c)
    (hc : Sniproxy.handleState c w io = .ok c') : Routed c' := by
  unfold Sniproxy.handleState at hc
  obtain ⟨c1, hc1, hs1, h1⟩ : ∃ c1, (if (w == .client && c.state == .ACCEPTED) = true then
      parseClientRequest c else pure c) = .ok c1 ∧ Sound c1 ∧ Routed c1 := by
    split_ifs with ha
    · simp only [Bool.and_eq_true, beq_iff_eq] at ha
      obtain ⟨c1, hc1, hs1, -⟩ := parseClientRequest_spec hs ha.2
      exact ⟨c1, hc1, hs1, h.parse hs ha.2 hc1⟩
    · exact ⟨c, rfl, hs, h⟩
  rw [hc1, Except.ok_bind] at hc
  obtain ⟨c2, hc2, hs2, h2⟩ : ∃ c2, (if (w == .client && c1.state == .PARSED) = true then
      resolveServerAddress c1 else pure c1) = .ok c2 ∧ Sound c2 ∧ Routed c2 := by
    split_ifs with hp
    · simp only [Bool.and_eq_true, beq_iff_eq] at hp
      obtain ⟨c2, hc2, hs2, -⟩ := resolveServerAddress_spec hs1 hp.2
      exact ⟨c2, hc2, hs2, h1.resolve hs1 hp.2 hc2⟩
    · exact ⟨c1, rfl, hs1, h1⟩
  rw [hc2, Except.ok_bind] at hc
  cases hc
  split_ifs with hr
  · simp only [Bool.and_eq_true, beq_iff_eq] at hr
    exact h2.initiate hs2 hr.2 _ _
  · exact h2

/-! ## Whole callbacks and whole runs -/

/-- Everything a callback does to the sockets keeps the invariant. -/
theorem Routed.handleEvent {c c' : Connection} {w : Side} {revents : Events} {io : Io}
    (hs : Sound c) (h : Routed c) (hw : sideOpen w c)
    (hc : Sniproxy.handleEvent c w revents io = .ok c') : Routed c' := by
  obtain ⟨c1, rev1, hc1, hs1, -, hr1⟩ := receive_spec revents io.recv hs hw
  have hw1 : rev1.write → sideOpen w c1 := by
    rcases hr1 with ⟨hst, rfl⟩ | ⟨rfl, -⟩
    · intro; rwa [sideOpen_congr w hst]
    · simp [Events.none]
  obtain ⟨c2, hc2, hs2, -⟩ := transmit_spec io.send hs1 hw1
  simp only [Sniproxy.handleEvent, hc1, hc2, Except.ok_bind] at hc
  cases hc3 : Sniproxy.handleState c2 w io with
  | error a => simp [hc3] at hc
  | ok c3 =>
    rw [hc3, Except.ok_bind] at hc
    exact (((h.receive hw hc1).transmit hw1 hc2).handleState hs2 hc3).closeFlushed hc

/-- **A callback keeps the invariant**, also when it leaves the connection `CLOSED`. -/
theorem Routed.connectionCb {c c' : Connection} {w : Side} {revents : Events} {io : Io}
    (hidle : Idle c) (h : Routed c) (hw : (c.half w).watcher.active)
    (hc : Sniproxy.connectionCb c w revents io = .ok c') : Routed c' := by
  obtain ⟨c'', he, -, -, ⟨-, hcb⟩ | ⟨-, -, hcb, -⟩ | ⟨-, -, hcb⟩⟩ :=
    connectionCb_cases revents io hidle hw <;> rw [hc] at hcb <;> cases hcb
  · exact h.handleEvent hidle.sound (hidle.sound.watcher_open w hw) he
  · exact (h.handleEvent hidle.sound (hidle.sound.watcher_open w hw) he).reactivate

/-- **Every reachable connection is routed.** -/
theorem reachable_routed {c : Connection} (hc : Reachable c) : Routed c := by
  induction hc with
  | accept hc =>
    rw [acceptConnection_eq hc]
    exact ⟨fun _ => ⟨rfl, rfl⟩, fun h2 => by simp [State.stage] at h2,
      fun h3 => by simp [State.stage] at h3, by simp, by simp⟩
  | callback hr hw _ hcb _ ih => exact ih.connectionCb (reachable_idle hr) hw hcb


/-! ## What the kernel sees -/

/-- **Every `connect` goes where the client's first bytes say.** On a reachable connection, after
any callback that returns, also one that leaves the connection `CLOSED`, every `connect` of the
log went to the socket address the listener's lookup gives for the hostname the listener's parser
found in the first 1460 bytes the client had sent at some point, in a verdict
`parse_client_request` keeps. -/
theorem connects_follow_client_request {c c' : Connection} {w : Side} {revents : Events} {io : Io}
    (hc : Reachable c) (hw : (c.half w).watcher.active)
    (hcb : Sniproxy.connectionCb c w revents io = .ok c') {a : Option SockAddr}
    (ha : .connect a ∈ c'.log) :
    ∃ newer older sa, c'.log = newer ++ older ∧ c'.listener.Accepts (peekedRequest older) ∧
      c'.listener.lookupServerAddress (c'.listener.parsePacket (peekedRequest older)).2 =
        .sockaddr sa ∧ a = some sa := by
  obtain ⟨⟨newer, older, hlog, hacc, hhost⟩, ⟨sa, hsa, hsa'⟩, rfl⟩ :=
    ((reachable_routed hc).connectionCb (reachable_idle hc) hw hcb).connects a ha
  exact ⟨newer, older, sa, hlog, hacc, hhost ▸ hsa, hsa'⟩

theorem connects_follow_client_request_at_example :
    ∃ newer older sa, exampleConnected.log = newer ++ older ∧
      exampleConnected.listener.Accepts (peekedRequest older) ∧
      exampleConnected.listener.lookupServerAddress
        (exampleConnected.listener.parsePacket (peekedRequest older)).2 = .sockaddr sa ∧
      some exampleServerAddr = some sa :=
  connects_follow_client_request (w := .client) exampleAccepted_reachable rfl
    (show Sniproxy.connectionCb exampleAccepted .client EV_READ exampleIo = .ok exampleConnected
      from rfl) (List.mem_cons_self _ _)

/-- **A server gets the client's bytes only once connected where the route says.** After any
callback that returns on a reachable connection, what was written to the server socket is a
prefix of what the client sent; and once anything was, that socket was connected to the server
address, which the listener's lookup gave for the hostname its parser found in the first bytes
the client sent. -/
theorem server_bytes_follow_route {c c' : Connection} {w : Side} {revents : Events} {io : Io}
    (hc : Reachable c) (hw : (c.half w).watcher.active)
    (hcb : Sniproxy.connectionCb c w revents io = .ok c') :
    sent .server c'.log <+: received .client c'.log ∧
      (sent .server c'.log ≠ [] →
        .connect c'.serverAddr ∈ c'.log ∧ ParsedFrom c' ∧ ResolvedTo c') := by
  obtain ⟨hs, -, -⟩ := connectionCb_ok (reachable_idle hc) hw hcb
  have hr := (reachable_routed hc).connectionCb (reachable_idle hc) hw hcb
  refine ⟨⟨_, (hs.relay .client).symm⟩, fun hsent => ?_⟩
  obtain ⟨p, hp, -⟩ := hs.phases .server
  have hopened : p ≠ .unopened := by
    rintro rfl
    exact hsent (sent_eq_nil fun e he => (untouched_of_unopened hp e he).2)
  obtain ⟨e, he, ho⟩ := opens_mem_of_phase hp hopened
  obtain rfl : e = .socket := by cases e <;> simp_all [Syscall.opens]
  have hcon := hr.opened he
  exact ⟨hcon, (hr.connects _ hcon).1, (hr.connects _ hcon).2.1⟩

theorem server_bytes_follow_route_at_example :
    sent .server exampleServed.log <+: received .client exampleServed.log ∧
      (sent .server exampleServed.log ≠ [] → .connect exampleServed.serverAddr ∈ exampleServed.log ∧
        ParsedFrom exampleServed ∧ ResolvedTo exampleServed) :=
  server_bytes_follow_route (w := .server) exampleConnected_reachable rfl
    (show Sniproxy.connectionCb exampleConnected .server EV_WRITE exampleIoSend = .ok exampleServed
      from rfl)

/-! ## A route is chosen once

`Routed` says what the route is; `Advances` says that it stays. Along any run of callbacks the
state never moves back and no callback writes a part of the route already chosen, so a connection
relays to the server its first bytes named until it is closed. -/

/-- **A route is chosen once.** Along any run of callbacks, whatever the kernel answers, the
connection moves no earlier in the lifecycle, its log only grows, its listener never changes, and
its hostname once parsed and its server address once resolved stay as they were. -/
theorem route_chosen_once {c c' : Connection} (hrun : Relation.ReflTransGen Callback c c') :
    Advances c c' := by
  induction hrun with
  | refl => exact .refl c
  | tail _ hstep ih => exact ih.trans hstep.advances

theorem route_chosen_once_at_example : Advances exampleConnected exampleServed :=
  route_chosen_once (.single (.mk .server EV_WRITE exampleIoSend rfl (by decide)
    (show Sniproxy.connectionCb exampleConnected .server EV_WRITE exampleIoSend = .ok exampleServed
      from rfl) (by decide)))

/-! ## A complete request is settled at once

The invariant says where a `connect` goes, not that one happens. The converse: on a reachable
`ACCEPTED` connection, the callback whose `recv` completes the request settles it in the same
pass. It parses, resolves and connects; or, when the request cannot be served, it closes the
connection without a byte written to either peer. -/

/-- `parse_client_request` on a verdict it keeps: the parser's hostname, `PARSED`. -/
theorem parseClientRequest_accepts {c : Connection}
    (hacc : c.listener.Accepts (bufferPeek c.client.buffer 1460)) :
    parseClientRequest c = .ok { c with
      hostname := (c.listener.parsePacket (bufferPeek c.client.buffer 1460)).2,
      state := .PARSED } := by
  simp only [parseClientRequest, if_neg hacc.1, Except.pure_eq_ok]
  rw [if_neg fun h => hacc.2 h.1 h.2]

/-- `parse_client_request` on a request without a usable hostname, with no fallback address:
the client half closes. -/
theorem parseClientRequest_refuses {c : Connection}
    (hv : (c.listener.parsePacket (bufferPeek c.client.buffer 1460)).1 ≤ -2)
    (hfb : c.listener.fallbackAddress = none) : parseClientRequest c = closeClientSocket c := by
  simp only [parseClientRequest]
  rw [if_neg (by omega), if_pos ⟨hv, hfb⟩]

/-- `resolve_server_address` on a hostname the lookup maps to a socket address: `RESOLVED`. -/
theorem resolveServerAddress_sockaddr {c : Connection} {sa : SockAddr}
    (h : c.listener.lookupServerAddress c.hostname = .sockaddr sa) :
    resolveServerAddress c = .ok { c with serverAddr := some sa, state := .RESOLVED } := by
  simp only [resolveServerAddress_eq, h]; rfl

/-- `resolve_server_address` on a hostname the lookup maps to a hostname: not resolved ("DNS
lookups not supported"), the client half closes. -/
theorem resolveServerAddress_hostname {c : Connection} {h : String}
    (hh : c.listener.lookupServerAddress c.hostname = .hostname h) :
    resolveServerAddress c = closeClientSocket c := by
  simp only [resolveServerAddress_eq, hh]

/-- `initiate_server_connect` once `socket` succeeded and `connect` is under way: the server
watcher is armed to write, `CONNECTED`. -/
theorem initiateServerConnect_connects (c : Connection) {connect : Except Errno Unit}
    (hconn : connectFailed connect = false) :
    initiateServerConnect c (.ok ()) connect = { c with
      server := { c.server with watcher := evIoStart (evIoInit EV_WRITE) }, state := .CONNECTED,
      log := .connect c.serverAddr :: .socket :: c.log } := by
  simp only [initiateServerConnect, hconn]; rfl

/-- `initiate_server_connect` once `socket` succeeded and `connect` failed for good: the new
socket is closed again, `SERVER_CLOSED`. -/
theorem initiateServerConnect_fails (c : Connection) {connect : Except Errno Unit}
    (hconn : connectFailed connect = true) :
    initiateServerConnect c (.ok ()) connect = { c with
      state := .SERVER_CLOSED
      log := .close .server :: .connect c.serverAddr :: .socket :: c.log } := by
  simp only [initiateServerConnect, hconn]; rfl

/-- The callback's state-specific block on an `ACCEPTED` connection whose request is complete and
whose hostname the lookup maps to a socket address: `PARSED`, `RESOLVED`, then
`initiate_server_connect`. -/
theorem handleState_resolves {c : Connection} {sa : SockAddr} (io : Io)
    (hst : c.state = .ACCEPTED) (hacc : c.listener.Accepts (bufferPeek c.client.buffer 1460))
    (hlookup : c.listener.lookupServerAddress
      (c.listener.parsePacket (bufferPeek c.client.buffer 1460)).2 = .sockaddr sa) :
    Sniproxy.handleState c .client io = .ok (initiateServerConnect { c with
      hostname := (c.listener.parsePacket (bufferPeek c.client.buffer 1460)).2,
      serverAddr := some sa, state := .RESOLVED } io.socket io.connect) := by
  have hr := resolveServerAddress_sockaddr (c := { c with
    hostname := (c.listener.parsePacket (bufferPeek c.client.buffer 1460)).2, state := .PARSED })
    hlookup
  simp only [Sniproxy.handleState, hst, parseClientRequest_accepts hacc, hr, beq_self_eq_true,
    Bool.and_self, if_true, Except.ok_bind, Except.pure_eq_ok]

/-- The callback's state-specific block on an `ACCEPTED` connection whose request is complete,
routable, and connected: `PARSED`, `RESOLVED` and `CONNECTED` in one pass. -/
theorem handleState_routes {c : Connection} {io : Io} {sa : SockAddr}
    (hst : c.state = .ACCEPTED) (hacc : c.listener.Accepts (bufferPeek c.client.buffer 1460))
    (hlookup : c.listener.lookupServerAddress
      (c.listener.parsePacket (bufferPeek c.client.buffer 1460)).2 = .sockaddr sa)
    (hsocket : io.socket = .ok ()) (hconnect : connectFailed io.connect = false) :
    Sniproxy.handleState c .client io = .ok { c with
      hostname := (c.listener.parsePacket (bufferPeek c.client.buffer 1460)).2,
      serverAddr := some sa, state := .CONNECTED,
      server := { c.server with watcher := evIoStart (evIoInit EV_WRITE) },
      log := .connect (some sa) :: .socket :: c.log } := by
  rw [handleState_resolves io hst hacc hlookup, hsocket, initiateServerConnect_connects _ hconnect]

/-- A read event on a half whose buffer has room, answered with bytes of which some fit, goes
through the receive block without a close: the half reads what fits and the events pass on. -/
theorem receive_reads {c : Connection} {w : Side} {bytes : List UInt8}
    (hroom : bufferRoom (c.half w).buffer ≠ 0)
    (hgot : bytes.take (bufferRoom (c.half w).buffer) ≠ []) :
    Sniproxy.receive c w EV_READ (.ok bytes) = .ok ((c.recvOn w (.ok bytes)).1, EV_READ) := by
  obtain ⟨b, bs, hbs⟩ := List.exists_cons_of_ne_nil hgot
  set c1 := (c.recvOn w (.ok bytes)).1
  have hread : c.recvOn w (.ok bytes) = (c1, .ok (b :: bs)) := by rw [← hbs]; rfl
  simp only [Sniproxy.receive, EV_READ, Bool.true_and, bne_iff_ne, ne_eq, hroom,
    not_false_eq_true, decide_True, if_true, hread]
  rfl

/-- **Reading a request.** On a reachable `ACCEPTED` connection, the callback on the started
client watcher, on a read event whose `recv` brings bytes, reads what fits (`got`, not empty) and
sends nothing; the state-specific block then sees the first 1460 bytes the client sent. -/
theorem handleEvent_reads_request {c : Connection} {io : Io} {bytes got : List UInt8}
    (hc : Reachable c) (hst : c.state = .ACCEPTED) (hw : c.client.watcher.active)
    (hrecv : io.recv = .ok bytes) (hbytes : bytes ≠ [])
    (hgot : bytes.take (bufferRoom c.client.buffer) = got) :
    ∃ c1 : Connection, Sniproxy.handleEvent c .client EV_READ io =
        (Sniproxy.handleState c1 .client io >>= Sniproxy.closeFlushed) ∧
      c1.state = .ACCEPTED ∧ c1.log = .recv .client got :: c.log ∧ c1.listener = c.listener ∧
      c1.server = c.server ∧ c1.client.buffer.data = c.client.buffer.data ++ got ∧ got ≠ [] ∧
      bufferPeek c1.client.buffer 1460 = peekedRequest (.recv .client got :: c.log) := by
  have hidle := reachable_idle hc
  have hearly : c.state.stage ≤ 3 := by simp [hst, State.stage]
  -- the started client watcher asks to read, so the buffer has room and `got` is not empty
  have hroom : bufferRoom c.client.buffer ≠ 0 := by
    have hne := (hidle.registered .client (by simp [clientSocketOpen, hst])).1.mp hw
    rw [Ne, desired_eq_none] at hne
    simpa [hidle.sound.server_idle hearly, Side.other] using hne
  have hgot_ne : got ≠ [] := by
    rw [← hgot]; simpa [List.take_eq_nil_iff, hroom] using hbytes
  have hdata : (c.recvOn .client (.ok bytes)).1.client.buffer.data =
      c.client.buffer.data ++ got := by
    show ((c.recvOn .client (.ok bytes)).1.half .client).buffer.data = _
    rw [recvOn_half_self, ← hgot]; rfl
  refine ⟨(c.recvOn .client (.ok bytes)).1, ?_, by simp [hst], ?_, rfl, rfl, hdata, hgot_ne, ?_⟩
  · -- the receive block reads `got`; the transmit block has nothing to do
    rw [Sniproxy.handleEvent, hrecv, receive_reads (c := c) (w := .client) hroom (hgot ▸ hgot_ne)]
    rfl
  · simp [hgot, moved]
  · simp [bufferPeek, peekedRequest, hdata, hidle.sound.client_buffer hearly]

/-- A callback whose socket work leaves the connection open, with an open half that wants to read
or write, returns it with its watchers rearmed: the last assertion holds. -/
theorem connectionCb_of_wanted {c c' : Connection} {w : Side} {revents : Events} {io : Io}
    (hidle : Idle c) (hw : (c.half w).watcher.active)
    (he : Sniproxy.handleEvent c w revents io = .ok c') (hcl : c'.state ≠ .CLOSED)
    (hwant : ∃ s, sideOpen s c' ∧ desired c' s ≠ .none) :
    Sniproxy.connectionCb c w revents io = .ok (reactivateWatchers c') := by
  obtain ⟨c'', he', hs, -, ⟨hcl', -⟩ | ⟨-, -, hcb, -⟩ | ⟨-, hone, -⟩⟩ :=
    connectionCb_cases revents io hidle hw <;> rw [he] at he' <;> cases he'
  · exact absurd hcl' hcl
  · exact hcb
  · exact absurd ((oneActive_reactivate_iff hs).mpr hwant) (by simp [hone])

/-- **A complete request is routed in one callback.** On a reachable `ACCEPTED` connection, a
read event on its started client watcher whose `recv` brings bytes (`got`, what fits in the
buffer), after which the first 1460 bytes of the client's stream get a verdict
`parse_client_request` keeps and a hostname the lookup maps to a socket address `sa`, with
`socket` succeeding and `connect` not failing for good, returns the connection `CONNECTED` to
`sa` under that hostname, its log grown by exactly that `recv`, a `socket` and one `connect`. -/
theorem complete_request_connects_in_one_callback {c : Connection} {io : Io}
    {bytes got : List UInt8} {sa : SockAddr} (hc : Reachable c) (hst : c.state = .ACCEPTED)
    (hw : c.client.watcher.active) (hrecv : io.recv = .ok bytes) (hbytes : bytes ≠ [])
    (hgot : bytes.take (bufferRoom c.client.buffer) = got)
    (hacc : c.listener.Accepts (peekedRequest (.recv .client got :: c.log)))
    (hlookup : c.listener.lookupServerAddress
      (c.listener.parsePacket (peekedRequest (.recv .client got :: c.log))).2 = .sockaddr sa)
    (hsocket : io.socket = .ok ()) (hconnect : connectFailed io.connect = false) :
    ∃ c', Sniproxy.connectionCb c .client EV_READ io = .ok c' ∧ c'.state = .CONNECTED ∧
      c'.log = .connect (some sa) :: .socket :: .recv .client got :: c.log ∧
      c'.hostname = (c.listener.parsePacket (peekedRequest (.recv .client got :: c.log))).2 ∧
      c'.serverAddr = some sa := by
  obtain ⟨c1, hevent, hst1, hlog1, hl1, -, hdata, hgot_ne, hpeek⟩ :=
    handleEvent_reads_request hc hst hw hrecv hbytes hgot
  have hstate := handleState_routes hst1 (by rw [hpeek, hl1]; exact hacc)
    (by rw [hpeek, hl1]; exact hlookup) hsocket hconnect
  rw [hpeek] at hstate
  set c4 := { c1 with
    hostname := (c1.listener.parsePacket (peekedRequest (.recv .client got :: c.log))).2,
    serverAddr := some sa, state := .CONNECTED,
    server := { c1.server with watcher := evIoStart (evIoInit EV_WRITE) },
    log := .connect (some sa) :: .socket :: c1.log }
  have hevent' : Sniproxy.handleEvent c .client EV_READ io = .ok c4 := by
    rw [hevent, hstate]; rfl
  -- rearmed, the server watcher asks to write the request
  have hwant : ∃ s, sideOpen s c4 ∧ desired c4 s ≠ .none :=
    ⟨.server, by simp [c4, serverSocketOpen], fun h => by
      rw [desired_eq_none] at h
      simp [c4, Side.other, hdata, hgot_ne] at h⟩
  have hq := sameRoute_reactivateWatchers c4
  refine ⟨_, connectionCb_of_wanted (reachable_idle hc) hw hevent' (by simp [c4]) hwant,
    rfl, ?_, ?_, hq.serverAddr⟩
  · rw [reactivateWatchers_log]; simp [c4, hlog1]
  · rw [hq.hostname]; simp [c4, hl1]

theorem complete_request_connects_at_example :
    ∃ c', Sniproxy.connectionCb exampleAccepted .client EV_READ exampleIo = .ok c' ∧
      c'.state = .CONNECTED ∧
      c'.log = .connect (some exampleServerAddr) :: .socket :: .recv .client [22, 3, 1] ::
        exampleAccepted.log ∧
      c'.hostname = (exampleListener.parsePacket
        (peekedRequest (.recv .client [22, 3, 1] :: exampleAccepted.log))).2 ∧
      c'.serverAddr = some exampleServerAddr :=
  complete_request_connects_in_one_callback exampleAccepted_reachable rfl rfl rfl (by decide) rfl
    ⟨by decide, by decide⟩ (by decide) rfl rfl


/-- The verdicts under which the callback cannot serve a complete request: the parser found no
usable hostname and the listener has no fallback address; or the lookup gave a hostname, which is
not resolved; or `socket` succeeded and `connect` failed for good. -/
def Listener.Unservable (l : Listener) (request : List UInt8) (socket connect : Except Errno Unit) :
    Prop :=
  ((l.parsePacket request).1 ≤ -2 ∧ l.fallbackAddress = none) ∨
  (l.Accepts request ∧ ∃ h, l.lookupServerAddress (l.parsePacket request).2 = .hostname h) ∨
  (l.Accepts request ∧ ∃ sa, l.lookupServerAddress (l.parsePacket request).2 = .sockaddr sa ∧
    socket = .ok () ∧ connectFailed connect)

/-- The flush block, on a half-closed connection whose closed half has nothing left to deliver,
closes the open half: `CLOSED`. -/
theorem closeFlushed_flushed {c : Connection} {s : Side} (hst : c.state = halfClosed s)
    (hnil : (c.half s).buffer.data = []) :
    Sniproxy.closeFlushed c = .ok (c.closedHalf s.other .CLOSED) := by
  have hopen : sideOpen s.other c := by
    cases s <;> simp_all [halfClosed, clientSocketOpen, serverSocketOpen, Side.other]
  have hclose := closeSocketOf_eq hopen
  rw [if_neg (by cases s <;> simp [hst, halfClosed])] at hclose
  cases s <;>
    simp_all [Sniproxy.closeFlushed, halfClosed, bufferLen, Sniproxy.closeSocketOf, Side.other]

/-- The state-specific and flush blocks on an `ACCEPTED` connection whose request cannot be
served: `CLOSED`, with only `close`, `socket` and `connect` calls added to the log. -/
theorem settle_unservable {c : Connection} (io : Io) (hst : c.state = .ACCEPTED)
    (hidle : c.server.buffer.data = [])
    (hun : c.listener.Unservable (bufferPeek c.client.buffer 1460) io.socket io.connect) :
    ∃ c', (Sniproxy.handleState c .client io >>= Sniproxy.closeFlushed) = .ok c' ∧
      c'.state = .CLOSED ∧ ∃ newer, c'.log = newer ++ c.log ∧ ∀ s, sent s newer = [] := by
  rcases hun with ⟨hv, hfb⟩ | ⟨hacc, h, hh⟩ | ⟨hacc, sa, hsa, hsock, hconn⟩
  · -- refused by the parser
    refine ⟨c.closedHalf .client .CLOSED, ?_, rfl, [.close .client], rfl, by simp⟩
    have hclose := closeSocketOf_eq (s := .client) (c := c) (by simp [clientSocketOpen, hst])
    simp [Sniproxy.handleState, hst, parseClientRequest_refuses hv hfb,
      show closeClientSocket c = _ from hclose, Sniproxy.closeFlushed]
  · -- the lookup gives a hostname, which is not resolved
    set parsed : Connection := { c with
      hostname := (c.listener.parsePacket (bufferPeek c.client.buffer 1460)).2, state := .PARSED }
    have hclose := closeSocketOf_eq (s := .client) (c := parsed) (by simp [parsed, clientSocketOpen])
    refine ⟨parsed.closedHalf .client .CLOSED, ?_, rfl, [.close .client], rfl, by simp⟩
    simp [Sniproxy.handleState, hst, parseClientRequest_accepts hacc,
      resolveServerAddress_hostname (c := parsed) hh, show closeClientSocket _ = _ from hclose,
      Sniproxy.closeFlushed, parsed]
  · -- `connect` fails for good: the server socket closes, then the client half, nothing to flush
    set resolved : Connection := { c with
      hostname := (c.listener.parsePacket (bufferPeek c.client.buffer 1460)).2,
      serverAddr := some sa, state := .RESOLVED }
    refine ⟨({ resolved with
        state := .SERVER_CLOSED,
        log := .close .server :: .connect resolved.serverAddr :: .socket :: resolved.log } :
          Connection).closedHalf .client .CLOSED, ?_, rfl,
      [.close .client, .close .server, .connect (some sa), .socket], rfl, by simp⟩
    rw [handleState_resolves io hst hacc hsa, hsock, initiateServerConnect_fails _ hconn,
      Except.ok_bind]
    exact closeFlushed_flushed (s := .server) rfl hidle

/-- **A request that cannot be served closes the connection in one callback.** On a reachable
`ACCEPTED` connection, a read event on its started client watcher whose `recv` brings bytes, after
which the first 1460 bytes of the client's stream cannot be served (no usable hostname and no
fallback address, a hostname backend, or a `connect` that fails for good), returns the connection
`CLOSED`, with no byte written to the client or to the server. -/
theorem unservable_request_closes_in_one_callback {c : Connection} {io : Io}
    {bytes got : List UInt8} (hc : Reachable c) (hst : c.state = .ACCEPTED)
    (hw : c.client.watcher.active) (hrecv : io.recv = .ok bytes) (hbytes : bytes ≠ [])
    (hgot : bytes.take (bufferRoom c.client.buffer) = got)
    (hun : c.listener.Unservable (peekedRequest (.recv .client got :: c.log)) io.socket io.connect) :
    ∃ c', Sniproxy.connectionCb c .client EV_READ io = .ok c' ∧ c'.state = .CLOSED ∧
      sent .client c'.log = [] ∧ sent .server c'.log = [] := by
  obtain ⟨c1, hevent, hst1, hlog1, hl1, hserver1, -, -, hpeek⟩ :=
    handleEvent_reads_request hc hst hw hrecv hbytes hgot
  have hs := (reachable_idle hc).sound
  have hearly : c.state.stage ≤ 3 := by simp [hst, State.stage]
  obtain ⟨c', hsettle, hcl, newer, hlog, hnew⟩ := settle_unservable io hst1
    (by rw [hserver1]; exact hs.server_idle hearly) (by rw [hpeek, hl1]; exact hun)
  refine ⟨c', by simp [Sniproxy.connectionCb, hevent, hsettle, hcl], hcl, ?_, ?_⟩ <;>
    simp [hlog, sent_append, hnew, hlog1, hs.nothing_sent hearly]

/-- The kernel's answers to a first callback where the server refuses the connection
(`ECONNREFUSED`, 111 on Linux). -/
def exampleIoRefused : Io := ⟨.ok [22, 3, 1], .ok 0, .ok (), .error (.other 111)⟩

theorem unservable_request_closes_at_example :
    ∃ c', Sniproxy.connectionCb exampleAccepted .client EV_READ exampleIoRefused = .ok c' ∧
      c'.state = .CLOSED ∧ sent .client c'.log = [] ∧ sent .server c'.log = [] :=
  unservable_request_closes_in_one_callback exampleAccepted_reachable rfl rfl rfl (by decide) rfl
    (.inr (.inr ⟨⟨by decide, by decide⟩, exampleServerAddr, by decide, rfl, rfl⟩))

end Sniproxy
