import Sniproxy.Connection.Properties
import Mathlib.Data.List.Nodup

/-!
# Sniproxy — the connection registry

`connection.c` keeps every live connection on one `TAILQ`, `connections`, and changes it in three
places: `accept_connection` inserts a new connection at the head, `connection_cb` moves the
connection it served to the head or, once that connection is `CLOSED`, unlinks and frees it, and
`free_connections` closes and frees them all. This module models the list, the heap it points
into, and the event loop that interleaves accepts and callbacks over any number of connections:

* **`Proxy`** — the list, head first, and the connection records by address.
  `Proxy.acceptConnection`, `Proxy.connectionCb` and `Proxy.freeConnections` are the three
  functions; each runs the per-connection model of `Sniproxy.Connection.Callback`.
* **`Action`**, **`Proxy.Enabled`**, **`Run`** — the runs of the event loop: `calloc` hands out
  memory no live connection uses, and libev calls back only a started watcher, with readiness
  within its interest. A run stops at the first failed assertion.
* **`alone`** — the connection at one address seen alone: made by an accept there, changed by
  each callback on it, gone once `CLOSED`. The registry keeps every connection exactly as if it
  were the only one (`Registry.heap_eq`), and lists exactly the addresses where `alone` has one.
* **`lastActivity`** — when a connection last acted. The list is in strictly decreasing order of
  it, so its tail is the least recently active connection.

The invariant `Registry` holds after every run (`Run.registry`): one lemma per action, then
induction on the run.
-/

namespace Sniproxy

/-- The state `connection.c` keeps across callbacks: the `connections` list, head first, and the
connection records by address, those `new_connection` allocated and `free_connection` has not
freed yet. -/
structure Proxy where
  connections : List Nat
  heap : Nat → Option Connection

/-- `init_connections()`: an empty list, and no connection allocated. -/
def initConnections : Proxy := ⟨[], fun _ => none⟩

namespace Proxy

/-- `accept_connection(listener, loop)` on the registry: the connection `new_connection` put at
address `id`, once accepted, is inserted at the head (`TAILQ_INSERT_HEAD`). If `new_connection`
or `accept` fails, nothing is kept. -/
def acceptConnection (p : Proxy) (id : Nat) (listener : Listener) (size : ℕ+) (allocated : Bool)
    (accepted : Except Errno Unit) : Proxy :=
  match Sniproxy.acceptConnection listener size allocated accepted with
  | some con => ⟨id :: p.connections, Function.update p.heap id (some con)⟩
  | none => p

/-- `connection_cb(loop, w, revents)` on the registry, for the watcher `w` of the connection at
address `id`. After the callback a `CLOSED` connection is unlinked (`TAILQ_REMOVE`) and freed;
any other is moved to the head. An address with no connection has no watcher to call back. -/
def connectionCb (p : Proxy) (id : Nat) (w : Side) (revents : Events) (io : Io) :
    Except Assertion Proxy :=
  match p.heap id with
  | none => pure p
  | some con => do
    let con ← Sniproxy.connectionCb con w revents io
    if con.state == .CLOSED then
      pure ⟨p.connections.erase id, Function.update p.heap id none⟩
    else
      pure ⟨id :: p.connections.erase id, Function.update p.heap id (some con)⟩

/-- The loop of `free_connections`, from the head of the list: each connection is unlinked,
closed by `close_connection`, and freed. -/
def freeEach (heap : Nat → Option Connection) :
    List Nat → Except Assertion (Nat → Option Connection)
  | [] => pure heap
  | id :: rest => do
    (match heap id with
      | some con => discard (closeConnection con)
      | none => pure ())
    freeEach (Function.update heap id none) rest

/-- `free_connections(loop)`: close and free every connection, leaving the list empty. -/
def freeConnections (p : Proxy) : Except Assertion Proxy := do
  let heap ← freeEach p.heap p.connections
  pure ⟨[], heap⟩

end Proxy

/-! ## The event loop -/

/-- What the event loop does next. -/
inductive Action where
  /-- The listener's watcher fires and `accept_connection` runs, `new_connection` returning the
  record at address `id`. -/
  | accept (id : Nat) (listener : Listener) (size : ℕ+) (allocated : Bool)
      (accepted : Except Errno Unit)
  /-- The watcher `w` of the connection at address `id` fires with `revents`. -/
  | event (id : Nat) (w : Side) (revents : Events) (io : Io)

/-- The address an action concerns. -/
def Action.target : Action → Nat
  | .accept id .. => id
  | .event id .. => id

/-- One action of the event loop. -/
def Proxy.step (p : Proxy) : Action → Except Assertion Proxy
  | .accept id listener size allocated accepted =>
    pure (p.acceptConnection id listener size allocated accepted)
  | .event id w revents io => p.connectionCb id w revents io

/-- When the event loop can take an action: `calloc` returns memory that no live connection
uses, and libev calls back only a started watcher, reporting readiness within its interest. -/
def Proxy.Enabled (p : Proxy) : Action → Prop
  | .accept id .. => p.heap id = none
  | .event id w revents _ => ∃ con, p.heap id = some con ∧ (con.half w).watcher.active ∧
      revents.Within (con.half w).watcher.events

/-- The states of the event loop after a run, newest action first: each action was enabled and
failed no assertion. -/
inductive Run : List Action → Proxy → Prop
  | init : Run [] initConnections
  | step {as : List Action} {p p' : Proxy} {a : Action} :
      Run as p → p.Enabled a → p.step a = .ok p' → Run (a :: as) p'

/-! ## One connection seen alone -/

/-- One action on the connection at its own address, seen alone: an accept makes the connection
`accept_connection` creates, if any; a callback runs `connection_cb` and drops a connection that
ends `CLOSED`. A run stops at a failed assertion, so what follows one does not matter. -/
def aloneStep : Option Connection → Action → Option Connection
  | prev, .accept _ listener size allocated accepted =>
    match acceptConnection listener size allocated accepted with
    | some con => some con
    | none => prev
  | some con, .event _ w revents io =>
    match connectionCb con w revents io with
    | .ok con' => if con'.state = .CLOSED then none else some con'
    | .error _ => none
  | none, .event .. => none

/-- The connection at address `id` after a run (newest action first), seen alone: only the
actions on `id` count. There is one exactly when an accept there succeeded and no callback since
has brought the connection to `CLOSED`. -/
def alone (id : Nat) : List Action → Option Connection
  | [] => none
  | a :: as => if a.target = id then aloneStep (alone id as) a else alone id as

/-- When the connection at `id` last acted in a run (newest action first): the position, counted
from the start of the run, of the last action on `id`, or `0` if there was none. -/
def lastActivity (id : Nat) : List Action → Nat
  | [] => 0
  | a :: as => if a.target = id then as.length + 1 else lastActivity id as

theorem lastActivity_le (id : Nat) : ∀ as : List Action, lastActivity id as ≤ as.length
  | [] => le_rfl
  | a :: as => by
    unfold lastActivity
    split_ifs
    · rfl
    · exact (lastActivity_le id as).trans (Nat.le_succ _)

/-- Ordered by last activity, a list of addresses an action does not concern stays so after it. -/
theorem recent_of_ne {l : List Nat} {a : Action} {as : List Action} (hl : ∀ j ∈ l, j ≠ a.target)
    (hr : l.Pairwise fun i j => lastActivity j as < lastActivity i as) :
    l.Pairwise fun i j => lastActivity j (a :: as) < lastActivity i (a :: as) :=
  hr.imp_of_mem fun hi hj h => by simpa [lastActivity, (hl _ hi).symm, (hl _ hj).symm] using h

/-- The address an action concerns, put at the head, is the most recently active. -/
theorem recent_cons {l : List Nat} {a : Action} {as : List Action} (hl : ∀ j ∈ l, j ≠ a.target)
    (hr : l.Pairwise fun i j => lastActivity j as < lastActivity i as) :
    (a.target :: l).Pairwise fun i j => lastActivity j (a :: as) < lastActivity i (a :: as) := by
  refine List.pairwise_cons.mpr ⟨fun j hj => ?_, recent_of_ne hl hr⟩
  simpa [lastActivity, (hl _ hj).symm] using Nat.lt_succ_of_le (lastActivity_le j as)

/-! ## The registry invariant -/

/-- What holds of the registry after every run: the list has no repetition and lists exactly the
allocated records, in strictly decreasing order of last activity; each record is the connection
its address holds seen alone, and a reachable connection. -/
structure Registry (as : List Action) (p : Proxy) : Prop where
  nodup : p.connections.Nodup
  mem_iff : ∀ id, id ∈ p.connections ↔ (p.heap id).isSome
  heap_eq : ∀ id, p.heap id = alone id as
  recent : p.connections.Pairwise fun i j => lastActivity j as < lastActivity i as
  reachable : ∀ id con, p.heap id = some con → Reachable con

theorem Registry.init : Registry [] initConnections :=
  ⟨List.nodup_nil, fun _ => by simp [initConnections], fun _ => rfl, List.Pairwise.nil,
    fun _ _ h => by cases h⟩

/-- What `connection_cb` does to the registry, for the connection at `id`. -/
theorem Proxy.connectionCb_ok {p p' : Proxy} {id : Nat} {con : Connection} {w : Side}
    {revents : Events} {io : Io} (h : p.heap id = some con)
    (hcb : p.connectionCb id w revents io = .ok p') :
    ∃ con', Sniproxy.connectionCb con w revents io = .ok con' ∧
      p' = if con'.state = .CLOSED then ⟨p.connections.erase id, Function.update p.heap id none⟩
        else ⟨id :: p.connections.erase id, Function.update p.heap id (some con')⟩ := by
  simp only [Proxy.connectionCb, h] at hcb
  cases hc : Sniproxy.connectionCb con w revents io with
  | error a => simp [hc] at hcb
  | ok con' =>
    refine ⟨con', rfl, ?_⟩
    by_cases hcl : con'.state = .CLOSED <;> simp_all

section Step

variable {as : List Action} {p p' : Proxy}

/-- An action on one address keeps the invariant when it sets the record there to what the
connection seen alone has, lists the other addresses as before, and keeps the list ordered. -/
theorem Registry.update (h : Registry as p) {a : Action} {l : List Nat} {v : Option Connection}
    (hnodup : l.Nodup) (hid : a.target ∈ l ↔ v.isSome)
    (hother : ∀ j, j ≠ a.target → (j ∈ l ↔ j ∈ p.connections))
    (hrecent : l.Pairwise fun i j => lastActivity j (a :: as) < lastActivity i (a :: as))
    (hstep : aloneStep (alone a.target as) a = v) (hv : ∀ con, v = some con → Reachable con) :
    Registry (a :: as) ⟨l, Function.update p.heap a.target v⟩ := by
  refine ⟨hnodup, fun j => ?_, fun j => ?_, hrecent, fun j c hc => ?_⟩ <;>
    by_cases hj : j = a.target
  · subst hj; simpa using hid
  · simpa [hj, h.mem_iff j] using hother j hj
  · subst hj; simp [alone, hstep]
  · simp [alone, hj, Ne.symm hj, h.heap_eq j]
  · subst hj; exact hv c (by simpa using hc)
  · exact h.reachable j c (by simpa [hj] using hc)

theorem Registry.accept (h : Registry as p) {id : Nat} {listener : Listener} {size : ℕ+}
    {allocated : Bool} {accepted : Except Errno Unit} (hfree : p.heap id = none) :
    Registry (.accept id listener size allocated accepted :: as)
      (p.acceptConnection id listener size allocated accepted) := by
  have hne : ∀ j ∈ p.connections, j ≠ id := fun j hj hji => by
    simpa [hji, hfree] using (h.mem_iff j).mp hj
  have halone : alone id as = none := (h.heap_eq id).symm.trans hfree
  unfold Proxy.acceptConnection
  cases hc : acceptConnection listener size allocated accepted with
  | none =>
    refine ⟨h.nodup, h.mem_iff, fun j => ?_, recent_of_ne hne h.recent, h.reachable⟩
    by_cases hj : j = id
    · subst hj; simp [alone, Action.target, aloneStep, hc, halone, hfree]
    · simp [alone, Action.target, Ne.symm hj, h.heap_eq j]
  | some con =>
    exact h.update (List.nodup_cons.mpr ⟨fun hm => hne id hm rfl, h.nodup⟩)
      (by simp [Action.target])
      (fun j hj => by simp [Action.target] at hj; simp [hj]) (recent_cons hne h.recent)
      (by simp [aloneStep, hc]) fun c hc' => by cases hc'; exact .accept hc

theorem Registry.event (h : Registry as p) {id : Nat} {w : Side} {revents : Events} {io : Io}
    (he : p.Enabled (.event id w revents io)) (hcb : p.connectionCb id w revents io = .ok p') :
    Registry (.event id w revents io :: as) p' := by
  obtain ⟨con, hcon, hw, hwithin⟩ := he
  obtain ⟨con', hcb', rfl⟩ := Proxy.connectionCb_ok hcon hcb
  have hstep : aloneStep (alone id as) (.event id w revents io) =
      if con'.state = .CLOSED then none else some con' := by
    rw [← h.heap_eq id, hcon]; simp [aloneStep, hcb']
  have herase : ∀ j ∈ p.connections.erase id, j ≠ id := fun j hj =>
    ((h.nodup.mem_erase_iff).mp hj).1
  have hother : ∀ j, j ≠ id → (j ∈ p.connections.erase id ↔ j ∈ p.connections) := fun j hj => by
    rw [h.nodup.mem_erase_iff]; exact and_iff_right hj
  have hsub := h.recent.sublist (p.connections.erase_sublist id)
  by_cases hcl : con'.state = .CLOSED
  · simp only [hcl, if_true] at hstep ⊢
    exact h.update (h.nodup.erase id) (by simp [Action.target, h.nodup.not_mem_erase]) hother
      (recent_of_ne herase hsub) hstep (by simp)
  · simp only [hcl, if_false] at hstep ⊢
    refine h.update (List.nodup_cons.mpr ⟨h.nodup.not_mem_erase, h.nodup.erase id⟩)
      (by simp [Action.target])
      (fun j hj => by simp [Action.target] at hj; simp [hj, hother j hj])
      (recent_cons herase hsub) hstep fun c hc => ?_
    cases hc
    exact .callback (h.reachable id con hcon) hw hwithin hcb' hcl

/-- **One action keeps the registry invariant.** -/
theorem Registry.step (h : Registry as p) {a : Action} (he : p.Enabled a)
    (hs : p.step a = .ok p') : Registry (a :: as) p' := by
  cases a with
  | accept id listener size allocated accepted =>
    cases hs
    exact h.accept he
  | event id w revents io => exact h.event he hs

end Step

/-- **The registry invariant holds after every run.** -/
theorem Run.registry {as : List Action} {p : Proxy} (hr : Run as p) : Registry as p := by
  induction hr with
  | init => exact Registry.init
  | step _ he hs ih => exact ih.step he hs

/-! ## Freeing every connection -/

/-- The loop of `free_connections` fails no assertion on reachable connections, and frees every
address it visits. -/
theorem freeEach_eq {heap : Nat → Option Connection} {l : List Nat}
    (h : ∀ id ∈ l, ∀ con, heap id = some con → Reachable con) :
    Proxy.freeEach heap l = .ok fun j => if j ∈ l then none else heap j := by
  induction l generalizing heap with
  | nil => rfl
  | cons id rest ih =>
    have hrest : ∀ j ∈ rest, ∀ con, Function.update heap id none j = some con → Reachable con := by
      intro j hj con hcon
      by_cases hji : j = id
      · subst hji; simp at hcon
      · exact h j (List.mem_cons_of_mem _ hj) con (by simpa [hji] using hcon)
    have hfreed : (fun j => if j ∈ rest then none else Function.update heap id none j) =
        fun j => if j ∈ id :: rest then none else heap j := by
      funext j
      by_cases hji : j = id
      · subst hji; simp
      · simp [hji]
    cases hc : heap id with
    | none => simp [Proxy.freeEach, hc, ih hrest, hfreed]
    | some con =>
      have hi := reachable_idle (h id (List.mem_cons_self _ _) con hc)
      obtain ⟨c', hcc, -⟩ := closeConnection_spec hi.sound hi.waiting
      have hd : (discard (closeConnection con) : Except Assertion Unit) = .ok () := by
        rw [hcc]; rfl
      simp only [Proxy.freeEach, hc, hd, Except.ok_bind, ih hrest, hfreed]

/-- After any run, `free_connections` fails no assertion and leaves nothing listed or
allocated. -/
theorem Registry.freeConnections {as : List Action} {p : Proxy} (h : Registry as p) :
    p.freeConnections = .ok initConnections := by
  have hfreed : (fun j => if j ∈ p.connections then none else p.heap j) = fun _ => none := by
    funext j
    split_ifs with hj
    · rfl
    · simpa using (not_congr (h.mem_iff j)).mp hj
  simp [Proxy.freeConnections, freeEach_eq fun id _ con hc => h.reachable id con hc, hfreed,
    initConnections]

/-! ## The guarantees -/

/-- What the registry promises between callbacks after the run `as`. -/
structure RegistryTracks (as : List Action) (p : Proxy) extends Registry as p : Prop where
  /-- The list holds exactly the connections that were accepted and have not reached `CLOSED`. -/
  live : ∀ id, id ∈ p.connections ↔ (alone id as).isSome
  /-- A callback that brings its connection to `CLOSED` unlinks and frees it. -/
  unlinked : ∀ id w revents io con con' p', p.heap id = some con →
    connectionCb con w revents io = .ok con' → con'.state = .CLOSED →
    p.connectionCb id w revents io = .ok p' → id ∉ p'.connections ∧ p'.heap id = none
  /-- `free_connections` fails no assertion and leaves nothing listed or allocated. -/
  freed : p.freeConnections = .ok initConnections

/-- **The registry tracks the live connections**, most recently active first, after any
interleaving of accepts and callbacks over any number of connections. -/
theorem run_registry_tracks_connections {as : List Action} {p : Proxy} (hr : Run as p) :
    RegistryTracks as p := by
  have h := hr.registry
  refine ⟨h, fun id => by rw [h.mem_iff, h.heap_eq], ?_, h.freeConnections⟩
  intro id w revents io con con' p' hcon hcb hcl hpcb
  obtain ⟨con'', hcb', rfl⟩ := Proxy.connectionCb_ok hcon hpcb
  rw [hcb] at hcb'; cases hcb'
  simp [hcl, h.nodup.not_mem_erase]

/-- A listener's first connection, at address `0`, with four-byte buffers. -/
def acceptAtZero : Action := .accept 0 incompleteListener 4 true (.ok ())

/-- The registry after `acceptAtZero`. -/
def oneConnection : Proxy := initConnections.acceptConnection 0 incompleteListener 4 true (.ok ())

theorem oneConnection_run : Run [acceptAtZero] oneConnection := .step .init rfl rfl

/-- Then a second connection at address `1`, then a read on the first: two bytes of a request the
parser finds incomplete. -/
def twoConnectionsRun : List Action :=
  [.event 0 .client EV_READ ⟨.ok [22, 3], .ok 0, .ok (), .ok ()⟩,
    .accept 1 incompleteListener 4 true (.ok ()), acceptAtZero]

/-- The first connection after that read: the two bytes wait in its client buffer. -/
def acceptedAtFourRead : Connection :=
  { acceptedAtFour with
    client := ⟨⟨4, [22, 3], by decide, by decide⟩, evIoStart (evIoInit EV_READ)⟩
    log := [.recv .client [22, 3], .accept] }

/-- The registry after `twoConnectionsRun`: the first connection, which acted last, back at the
head of the list. -/
def twoConnections : Proxy :=
  ⟨[0, 1], Function.update
    (oneConnection.acceptConnection 1 incompleteListener 4 true (.ok ())).heap 0
    (some acceptedAtFourRead)⟩

theorem twoConnections_run : Run twoConnectionsRun twoConnections :=
  .step (.step oneConnection_run rfl rfl) ⟨_, rfl, rfl, by decide⟩ rfl

theorem twoConnections_registry_tracks :
    Run twoConnectionsRun twoConnections ∧ twoConnections.connections = [0, 1] ∧
      RegistryTracks twoConnectionsRun twoConnections :=
  ⟨twoConnections_run, rfl, run_registry_tracks_connections twoConnections_run⟩

/-- What the lifecycle promises of the allocated connections between callbacks. -/
structure Lifecycle (p : Proxy) : Prop where
  /-- Each rests in `ACCEPTED`, `RESOLVED`, `CONNECTED`, `SERVER_CLOSED` or `CLIENT_CLOSED`:
  never in `NEW`, `PARSED` or `CLOSED`. -/
  waiting : ∀ id con, p.heap id = some con → con.state.Waiting
  /-- A callback on a started watcher that returns moves its connection weakly forward; then the
  connection rests again, or it is `CLOSED` and that callback freed it. -/
  forward : ∀ id w revents io con p', p.heap id = some con → (con.half w).watcher.active →
    p.connectionCb id w revents io = .ok p' →
    ∃ con', connectionCb con w revents io = .ok con' ∧ con.state.Precedes con'.state ∧
      (con'.state.Waiting ∧ p'.heap id = some con' ∨ con'.state = .CLOSED ∧ p'.heap id = none)

/-- **Connections rest only in waiting states, and each callback moves them forward**, after
any run of the event loop. -/
theorem run_connections_move_forward {as : List Action} {p : Proxy} (hr : Run as p) :
    Lifecycle p := by
  have h := hr.registry
  refine ⟨fun id con hcon => (reachable_idle (h.reachable id con hcon)).waiting, ?_⟩
  intro id w revents io con p' hcon hw hpcb
  obtain ⟨con', hcb, rfl⟩ := Proxy.connectionCb_ok hcon hpcb
  obtain ⟨-, hp, hrest⟩ := connectionCb_ok (reachable_idle (h.reachable id con hcon)) hw hcb
  refine ⟨con', hcb, hp, ?_⟩
  by_cases hcl : con'.state = .CLOSED
  · exact .inr ⟨hcl, by simp [hcl]⟩
  · exact .inl ⟨hrest.resolve_right hcl, by simp [hcl]⟩

theorem oneConnection_moves_forward :
    Run [acceptAtZero] oneConnection ∧ Lifecycle oneConnection :=
  ⟨oneConnection_run, run_connections_move_forward oneConnection_run⟩

/-- **Only the last assertion of `connection_cb` can stop the event loop.** After any run, an
enabled action either succeeds, or is a callback whose last assertion ("at least one watcher is
still active") fails; no other assertion of `connection.c` fails. -/
theorem run_step_ok_or_no_watcher {as : List Action} {p : Proxy} (hr : Run as p) {a : Action}
    (he : p.Enabled a) : (∃ p', p.step a = .ok p') ∨ p.step a = .error .oneWatcherActive := by
  cases a with
  | accept id listener size allocated accepted => exact .inl ⟨_, rfl⟩
  | event id w revents io =>
    obtain ⟨con, hcon, hw, -⟩ := he
    cases hcb : connectionCb con w revents io with
    | ok con' =>
      left
      simp only [Proxy.step, Proxy.connectionCb, hcon, hcb, Except.ok_bind]
      split <;> exact ⟨_, rfl⟩
    | error e =>
      obtain ⟨c'', -, -, -, ⟨-, hcb'⟩ | ⟨-, -, hcb', -⟩ | ⟨-, -, hcb'⟩⟩ :=
        connectionCb_cases revents io (reachable_idle (hr.registry.reachable id con hcon)) hw <;>
        rw [hcb] at hcb' <;> cases hcb'
      exact .inr (by simp [Proxy.step, Proxy.connectionCb, hcon, hcb])

theorem oneConnection_step_ok_or_no_watcher :
    Run [acceptAtZero] oneConnection ∧ oneConnection.Enabled (.event 0 .client EV_READ
        ⟨.ok [0], .ok 0, .ok (), .ok ()⟩) ∧
      ((∃ p', oneConnection.step (.event 0 .client EV_READ ⟨.ok [0], .ok 0, .ok (), .ok ()⟩) =
          .ok p') ∨
        oneConnection.step (.event 0 .client EV_READ ⟨.ok [0], .ok 0, .ok (), .ok ()⟩) =
          .error .oneWatcherActive) :=
  have he : oneConnection.Enabled (.event 0 .client EV_READ ⟨.ok [0], .ok 0, .ok (), .ok ()⟩) :=
    ⟨_, rfl, rfl, by decide⟩
  ⟨oneConnection_run, he, run_step_ok_or_no_watcher oneConnection_run he⟩

end Sniproxy
