import Sniproxy.Registry

/-!
# Sniproxy — the connection dump

`print_connections` writes, for debugging, a header and then one `print_connection` line per
connection of the registry, head first. Each line has three columns: the state, padded to 14
characters; the client half, as its address and `len/size` of its buffer, or `-`; after a tab,
the server half likewise.

* **`printConnection_eq`** — the eight cases of `print_connection` are one layout: a half's
  column is shown exactly when `client_socket_open` or `server_socket_open` holds of the state.
* **`run_dump_shows_open_sockets`** — after any run of the event loop, the line of every
  connection in the registry shows a half exactly when that half's socket is open in the kernel's
  sense: opened and not yet closed (`phase`).

`display_sockaddr` (`util.c`) is not among the sources: the text it writes for the client's
address is an input, and the server's address is shown by a function of `serverAddr`. The file
`mkstemp` and `fdopen` open is not modelled: `printConnections` is what gets written to it.
-/

namespace Sniproxy

/-- The state column of `print_connection`, padded to 14 characters. -/
def stateLabel : State → String
  | .NEW => "NEW           "
  | .ACCEPTED => "ACCEPTED      "
  | .PARSED => "PARSED        "
  | .RESOLVED => "RESOLVED      "
  | .CONNECTED => "CONNECTED     "
  | .SERVER_CLOSED => "SERVER_CLOSED "
  | .CLIENT_CLOSED => "CLIENT_CLOSED "
  | .CLOSED => "CLOSED        "

/-- `%zu/%zu` of a buffer's `len` and `size`. -/
def occupancy (b : Buffer) : String := toString (bufferLen b) ++ "/" ++ toString b.size

/-- `print_connection(file, con)`, given what `display_sockaddr` writes for the client's address
and, as a function of it, for the server's. -/
def printConnection (client : String) (display : Option SockAddr → String) (con : Connection) :
    String :=
  match con.state with
  | .NEW => "NEW           -\t-\n"
  | .ACCEPTED => "ACCEPTED      " ++ client ++ " " ++ occupancy con.client.buffer ++ "\t-\n"
  | .PARSED => "PARSED        " ++ client ++ " " ++ occupancy con.client.buffer ++ "\t-\n"
  | .RESOLVED => "RESOLVED      " ++ client ++ " " ++ occupancy con.client.buffer ++ "\t-\n"
  | .CONNECTED => "CONNECTED     " ++ client ++ " " ++ occupancy con.client.buffer ++ "\t" ++
      display con.serverAddr ++ " " ++ occupancy con.server.buffer ++ "\n"
  | .SERVER_CLOSED => "SERVER_CLOSED " ++ client ++ " " ++ occupancy con.client.buffer ++ "\t-\n"
  | .CLIENT_CLOSED => "CLIENT_CLOSED -\t" ++ display con.serverAddr ++ " " ++
      occupancy con.server.buffer ++ "\n"
  | .CLOSED => "CLOSED        -\t-\n"

/-- `print_connections()` once `mkstemp` and `fdopen` succeeded: the header, then
`print_connection` on each connection of the list, head first (`TAILQ_FOREACH`). The client
address of the connection at address `id` is written as `client id`. -/
def printConnections (client : Nat → String) (display : Option SockAddr → String) (p : Proxy) :
    String :=
  "Running connections:\n" ++ String.join (p.connections.map fun id =>
    match p.heap id with
    | some con => printConnection (client id) display con
    | none => "")

/-- One column of the dump: a half's address and buffer occupancy when `shown`, else `-`. -/
def column (shown : Bool) (addr : String) (b : Buffer) : String :=
  if shown then addr ++ " " ++ occupancy b else "-"

/-- **The dump's one layout.** Whatever the state, `print_connection` writes the state's label,
the client column, a tab, the server column: each half shown exactly when its socket is open by
`client_socket_open` or `server_socket_open`. -/
theorem printConnection_eq (client : String) (display : Option SockAddr → String)
    (con : Connection) :
    printConnection client display con =
      stateLabel con.state ++ column (clientSocketOpen con) client con.client.buffer ++ "\t" ++
        column (serverSocketOpen con) (display con.serverAddr) con.server.buffer ++ "\n" := by
  unfold printConnection
  split <;> rename_i hst <;>
    simp [hst, stateLabel, column, clientSocketOpen, serverSocketOpen, String.append_assoc]

/-- **The dump shows exactly the open sockets.** After any run of the event loop, for every
connection the registry holds, `print_connections` lists it, and its `print_connection` line
shows its client half exactly when the client socket has been opened and not closed, and its
server half exactly when the server socket has. -/
theorem run_dump_shows_open_sockets {as : List Action} {p : Proxy} (hr : Run as p)
    (client : String) (display : Option SockAddr → String) {id : Nat} {con : Connection}
    (hcon : p.heap id = some con) :
    id ∈ p.connections ∧
      printConnection client display con =
        stateLabel con.state ++
          column (decide (phase .client con.log = some .opened)) client con.client.buffer ++
          "\t" ++ column (decide (phase .server con.log = some .opened)) (display con.serverAddr)
            con.server.buffer ++ "\n" := by
  have h := hr.registry
  have hs := (reachable_idle (h.reachable id con hcon)).sound
  refine ⟨(h.mem_iff id).mpr (by simp [hcon]), ?_⟩
  have hd : ∀ s, decide (phase s con.log = some .opened) = sideOpen s con := fun s => by
    rw [Bool.eq_iff_iff, decide_eq_true_iff, hs.phase_opened_iff s]
  rw [printConnection_eq, hd .client, hd .server]
  rfl

theorem run_dump_shows_open_sockets_at_accept :
    Run [acceptAtZero] oneConnection ∧ oneConnection.heap 0 = some acceptedAtFour ∧
      0 ∈ oneConnection.connections ∧
      printConnection "192.0.2.9:5000" (fun _ => "-") acceptedAtFour =
        stateLabel acceptedAtFour.state ++
          column (decide (phase .client acceptedAtFour.log = some .opened)) "192.0.2.9:5000"
            acceptedAtFour.client.buffer ++
          "\t" ++ column (decide (phase .server acceptedAtFour.log = some .opened)) "-"
            acceptedAtFour.server.buffer ++ "\n" :=
  have hcon : oneConnection.heap 0 = some acceptedAtFour := rfl
  ⟨oneConnection_run, hcon,
    run_dump_shows_open_sockets oneConnection_run "192.0.2.9:5000" (fun _ => "-") hcon⟩

end Sniproxy
