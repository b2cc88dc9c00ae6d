import Sniproxy.Connection.Basic

/-!
# Sniproxy — what a connection is for

Three abstract views of one connection, against which the code of `connection.c` is checked:

* **the socket discipline** — each of the two sockets is opened once, used only while open,
  and closed at most once. `phase s log` runs a three-state automaton over the system calls of
  the log and is `none` as soon as one breaks the discipline; `close_once` and
  `no_use_after_close` say what a defined phase means in these words.
* **the relay** — `received s log` and `sent s log` are the byte streams read from and written
  to the socket of half `s`. A proxy relays when what it wrote to one side, followed by what it
  still holds for it, is what it read from the other.
* **the lifecycle** — `State.Precedes` orders the stages of a connection:
  `ACCEPTED < PARSED < RESOLVED < CONNECTED < {SERVER_CLOSED, CLIENT_CLOSED} < CLOSED`, the two
  half-closed states being incomparable. `State.Waiting` are the states a connection may rest in
  between two callbacks.
-/

namespace Sniproxy

/-! ## The socket discipline -/

/-- The life of one socket: not opened yet, open, closed. -/
inductive SockPhase where
  | unopened
  | opened
  | closed
  deriving DecidableEq, Repr

/-- The system call that opens the socket of half `s`: `accept` for the client, `socket` for the
server. -/
def Syscall.opens : Syscall → Side → Bool
  | .accept, .client => true
  | .socket, .server => true
  | _, _ => false

/-- The system calls that use the socket of half `s` once it is open. -/
def Syscall.uses : Syscall → Side → Bool
  | .connect _, .server => true
  | .recv s' _, s => s' == s
  | .send s' _, s => s' == s
  | .close s', s => s' == s
  | _, _ => false

/-- One step of the discipline for the socket of half `s`: open it once, use it while open,
close it once, and never touch it again. -/
def SockPhase.next (s : Side) (e : Syscall) : SockPhase → Option SockPhase
  | .unopened => if e.opens s then some .opened else if e.uses s then none else some .unopened
  | .opened =>
    if e.opens s then none else if e == .close s then some .closed else some .opened
  | .closed => if e.opens s || e.uses s then none else some .closed

/-- The phase of the socket of half `s` after a log (newest first); `none` once a call breaks the
discipline. -/
def phase (s : Side) : List Syscall → Option SockPhase
  | [] => some .unopened
  | e :: log => (phase s log).bind (SockPhase.next s e)

@[simp] theorem phase_nil (s : Side) : phase s [] = some .unopened := rfl

@[simp] theorem phase_cons (s : Side) (e : Syscall) (log : List Syscall) :
    phase s (e :: log) = (phase s log).bind (SockPhase.next s e) := rfl

@[simp] theorem close_opens (s s' : Side) : (Syscall.close s).opens s' = false := by
  cases s' <;> rfl

@[simp] theorem close_uses_self (s : Side) : (Syscall.close s).uses s = true := by
  cases s <;> rfl

/-- A call that does not touch a socket leaves its phase as it is. -/
theorem next_untouched {s : Side} {e : Syscall} (p : SockPhase) (ho : e.opens s = false)
    (hu : e.uses s = false) : SockPhase.next s e p = some p := by
  have hc : e ≠ .close s := by rintro rfl; simp at hu
  cases p <;> simp [SockPhase.next, ho, hu, hc]

/-- `recv` and `send` on the open socket keep it open. -/
@[simp] theorem next_recv_opened (s : Side) (bytes : List UInt8) :
    SockPhase.next s (.recv s bytes) .opened = some .opened := by
  cases s <;> rfl

@[simp] theorem next_send_opened (s : Side) (bytes : List UInt8) :
    SockPhase.next s (.send s bytes) .opened = some .opened := by
  cases s <;> rfl

/-- `recv`, `send` and `close` on one half do not touch the other half's socket. -/
@[simp] theorem next_recv_other (s : Side) (bytes : List UInt8) (p : SockPhase) :
    SockPhase.next s.other (.recv s bytes) p = some p := by
  cases s <;> exact next_untouched p rfl rfl

@[simp] theorem next_send_other (s : Side) (bytes : List UInt8) (p : SockPhase) :
    SockPhase.next s.other (.send s bytes) p = some p := by
  cases s <;> exact next_untouched p rfl rfl

@[simp] theorem next_close_other (s : Side) (p : SockPhase) :
    SockPhase.next s.other (.close s) p = some p := by
  cases s <;> exact next_untouched p rfl rfl

@[simp] theorem next_close_opened (s : Side) :
    SockPhase.next s (.close s) .opened = some .closed := by
  cases s <;> rfl

/-- A closed socket stays closed, under calls that do not touch it. -/
theorem next_closed {s : Side} {e : Syscall} {q : SockPhase}
    (h : SockPhase.next s e .closed = some q) :
    q = .closed ∧ e.opens s = false ∧ e.uses s = false := by
  simp only [SockPhase.next] at h
  split_ifs at h with h1
  cases h
  simpa using h1

/-- A step that leaves a socket unopened is a call that does not touch it. -/
theorem next_to_unopened {s : Side} {e : Syscall} {p : SockPhase}
    (h : SockPhase.next s e p = some .unopened) :
    p = .unopened ∧ e.opens s = false ∧ e.uses s = false := by
  cases p <;> simp only [SockPhase.next] at h <;> split_ifs at h <;>
    simp_all

/-- After its socket is closed, a log that keeps the discipline touches it no more. -/
theorem phase_append_of_closed {s : Side} {older : List Syscall}
    (hc : phase s older = some .closed) :
    ∀ newer, phase s (newer ++ older) ≠ none →
      phase s (newer ++ older) = some .closed ∧
        ∀ e ∈ newer, e.opens s = false ∧ e.uses s = false
  | [], _ => ⟨hc, by simp⟩
  | e :: newer, h => by
    obtain ⟨hc', hall⟩ := phase_append_of_closed hc newer (by intro hn; simp [hn] at h)
    rw [List.cons_append, phase_cons, hc', Option.some_bind] at h ⊢
    obtain ⟨q, hq⟩ := Option.ne_none_iff_exists'.mp h
    obtain ⟨rfl, he⟩ := next_closed hq
    exact ⟨hq, List.forall_mem_cons.mpr ⟨he, hall⟩⟩

/-- A socket not opened yet has seen no call that opens or uses it. -/
theorem untouched_of_unopened {s : Side} : ∀ {log : List Syscall},
    phase s log = some .unopened → ∀ e ∈ log, e.opens s = false ∧ e.uses s = false
  | [], _ => by simp
  | e :: log, h => by
    obtain ⟨p, hp, hpq⟩ := Option.bind_eq_some.mp h
    obtain ⟨rfl, he⟩ := next_to_unopened hpq
    exact List.forall_mem_cons.mpr ⟨he, untouched_of_unopened hp⟩

/-- A socket out of its unopened phase was opened by a call of the log. -/
theorem opens_mem_of_phase {s : Side} {p : SockPhase} :
    ∀ {log : List Syscall}, phase s log = some p → p ≠ .unopened → ∃ e ∈ log, e.opens s = true
  | [], h, hp => by cases h; exact absurd rfl hp
  | e :: log, h, hp => by
    obtain ⟨q, hq, hqp⟩ := Option.bind_eq_some.mp h
    by_cases hu : q = .unopened
    · subst hu
      refine ⟨e, .head _, ?_⟩
      simp only [SockPhase.next] at hqp
      split_ifs at hqp with ho
      · exact ho
      all_goals cases hqp
      exact absurd rfl hp
    · obtain ⟨e', he', ho⟩ := opens_mem_of_phase hq hu
      exact ⟨e', .tail _ he', ho⟩

/-! ### The discipline in words -/

/-- The bytes one call read from the socket of half `s`. -/
def Syscall.readFrom (s : Side) : Syscall → List UInt8
  | .recv s' bytes => if s' = s then bytes else []
  | _ => []

/-- The bytes one call wrote to the socket of half `s`. -/
def Syscall.wroteTo (s : Side) : Syscall → List UInt8
  | .send s' bytes => if s' = s then bytes else []
  | _ => []

/-- The byte stream read from the socket of half `s`, oldest byte first. -/
def received (s : Side) : List Syscall → List UInt8
  | [] => []
  | e :: log => received s log ++ e.readFrom s

/-- The byte stream written to the socket of half `s`, oldest byte first. -/
def sent (s : Side) : List Syscall → List UInt8
  | [] => []
  | e :: log => sent s log ++ e.wroteTo s

@[simp] theorem received_nil (s : Side) : received s [] = [] := rfl
@[simp] theorem sent_nil (s : Side) : sent s [] = [] := rfl

@[simp] theorem received_cons (s : Side) (e : Syscall) (log : List Syscall) :
    received s (e :: log) = received s log ++ e.readFrom s := rfl

@[simp] theorem sent_cons (s : Side) (e : Syscall) (log : List Syscall) :
    sent s (e :: log) = sent s log ++ e.wroteTo s := rfl

@[simp] theorem readFrom_recv (s s' : Side) (bytes : List UInt8) :
    (Syscall.recv s' bytes).readFrom s = if s' = s then bytes else [] := rfl

@[simp] theorem wroteTo_send (s s' : Side) (bytes : List UInt8) :
    (Syscall.send s' bytes).wroteTo s = if s' = s then bytes else [] := rfl

@[simp] theorem readFrom_send (s s' : Side) (bytes : List UInt8) :
    (Syscall.send s' bytes).readFrom s = [] := rfl
@[simp] theorem readFrom_close (s s' : Side) : (Syscall.close s').readFrom s = [] := rfl
@[simp] theorem readFrom_socket (s : Side) : Syscall.socket.readFrom s = [] := rfl
@[simp] theorem readFrom_connect (s : Side) (a : Option SockAddr) :
    (Syscall.connect a).readFrom s = [] := rfl
@[simp] theorem wroteTo_recv (s s' : Side) (bytes : List UInt8) :
    (Syscall.recv s' bytes).wroteTo s = [] := rfl
@[simp] theorem wroteTo_close (s s' : Side) : (Syscall.close s').wroteTo s = [] := rfl
@[simp] theorem wroteTo_socket (s : Side) : Syscall.socket.wroteTo s = [] := rfl
@[simp] theorem wroteTo_connect (s : Side) (a : Option SockAddr) :
    (Syscall.connect a).wroteTo s = [] := rfl

/-! ## The lifecycle -/

/-- The stage of a state in a connection's life; the two half-closed states share one. -/
def State.stage : State → Nat
  | .NEW => 0
  | .ACCEPTED => 1
  | .PARSED => 2
  | .RESOLVED => 3
  | .CONNECTED => 4
  | .SERVER_CLOSED => 5
  | .CLIENT_CLOSED => 5
  | .CLOSED => 6

/-- `a` comes no later than `b` in a connection's life: the same state, or an earlier stage.
`SERVER_CLOSED` and `CLIENT_CLOSED` are incomparable. -/
def State.Precedes (a b : State) : Prop := a = b ∨ a.stage < b.stage

instance (a b : State) : Decidable (a.Precedes b) := inferInstanceAs (Decidable (_ ∨ _))

@[refl] theorem State.Precedes.refl (a : State) : a.Precedes a := .inl rfl

@[trans] theorem State.Precedes.trans {a b c : State} (h : a.Precedes b) (h' : b.Precedes c) :
    a.Precedes c := by
  rcases h with rfl | h
  · exact h'
  · rcases h' with rfl | h'
    · exact .inr h
    · exact .inr (Nat.lt_trans h h')

/-- A connection never moves between the two half-closed states. -/
example : ¬ State.SERVER_CLOSED.Precedes .CLIENT_CLOSED ∧
    ¬ State.CLIENT_CLOSED.Precedes .SERVER_CLOSED := by decide

/-- The states a connection may rest in between two callbacks. -/
def State.Waiting : State → Bool
  | .ACCEPTED | .RESOLVED | .CONNECTED | .SERVER_CLOSED | .CLIENT_CLOSED => true
  | _ => false

/-! ## Watcher interest -/

/-- The interest a half should register: reading while its own buffer has room, writing while
the other half's buffer holds bytes for it. -/
def desired (c : Connection) (s : Side) : Events :=
  ⟨(c.half s).buffer.data.length < (c.half s).buffer.size, (c.half s.other).buffer.data ≠ []⟩

end Sniproxy
