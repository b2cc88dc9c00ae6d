import Mathlib.Data.List.Basic

/-!
# Sniproxy — the configuration stanzas

The callbacks the configuration parser calls for the `listener` and `table` stanzas of the
configuration file: `begin_*` makes an empty record, `accept_*_arg` takes one argument of the
stanza's head line, the keyword lines of a listener call `accept_listener_protocol` or
`accept_listener_table_name`, and `end_*` turns the record into configuration.

* **`ListenerConfig`**, **`acceptListenerArg`**, **`endListener`** — the listener head line
  `listener <address> [<port>]`. `isnumeric` (`util.c`) is a parameter, so every result holds for
  any test of what a port looks like.
* **`TableConfig`**, **`TableEntryConfig`**, **`endTableEntry`**, **`endTable`** — a table and its
  entry lines `<hostname> <address> [<port>]`, queued at the tail and drained by `end_table` into
  calls of `add_backend` (`backend.c`), which are recorded as they are made.
* **`acceptOnce`** — what `accept_listener_table_name`, `accept_listener_protocol` and
  `accept_table_arg` share: the first value is kept, and a later one is reported on stderr.
  `accept_username`, the callback of the global `username` line, keeps the last value instead,
  silently (`username_keeps_last_unlike_acceptOnce`).

`parse_config` (`cfg_parser.c`), which reads the file and calls these, is not among the source
files: `feedListenerArgs` and `closeEntries` call the callbacks in turn, as it does within one
stanza. Allocation (`calloc`, `malloc`, `strdup`) is taken to succeed.
-/

namespace Sniproxy

/-! ## C library functions -/

/-- `isspace(c)` in the C locale. -/
def isCSpace (c : Char) : Bool :=
  c == ' ' || c == '\t' || c == '\n' || c == '\x0b' || c == '\x0c' || c == '\r'

/-- The value of the leading decimal digits of `cs`. -/
def digitsValue (cs : List Char) : Nat :=
  (cs.takeWhile Char.isDigit).foldl (fun n c => 10 * n + (c.toNat - '0'.toNat)) 0

/-- `INT_MIN` (`limits.h`) for a 32-bit `int`: `-2 ^ 31`. -/
def INT_MIN : Int := -2147483648

/-- `INT_MAX` for a 32-bit `int`: `2 ^ 31 - 1`. -/
def INT_MAX : Int := 2147483647

/-- `LONG_MIN` for glibc's 64-bit `long`: `-2 ^ 63`. -/
def LONG_MIN : Int := -9223372036854775808

/-- `LONG_MAX` for glibc's 64-bit `long`: `2 ^ 63 - 1`. -/
def LONG_MAX : Int := 9223372036854775807

/-- A C `int`: 32 bits, two's complement. -/
@[ext] structure CInt where
  val : Int
  range : INT_MIN ≤ val ∧ val ≤ INT_MAX
  deriving DecidableEq, Repr

instance : Zero CInt := ⟨⟨0, by decide⟩⟩

/-- `printf("%d", n)`. -/
instance : ToString CInt := ⟨fun n => toString n.val⟩

/-- The conversion of a `long` to `int`, which gcc defines as reduction modulo `2 ^ 32`
(`4294967296`). -/
def CInt.ofLong (v : Int) : CInt :=
  ⟨v.bmod 4294967296, by
    have hle := Int.le_bmod (x := v) (m := 4294967296) (by decide)
    have hlt := Int.bmod_lt (x := v) (m := 4294967296) (by decide)
    unfold INT_MIN INT_MAX
    omega⟩

/-- What `strtol(s, NULL, 10)` reads before it checks the range of `long`: leading white space,
an optional sign, then decimal digits up to the first other character (`0` when there are
none). -/
def readDecimal (s : String) : Int :=
  match s.toList.dropWhile isCSpace with
  | '-' :: cs => -(digitsValue cs : Int)
  | '+' :: cs => digitsValue cs
  | cs => digitsValue cs

/-- `strtol(s, NULL, 10)` with glibc's 64-bit `long`: what `readDecimal` reads, cut to
`LONG_MIN` or `LONG_MAX` when it is out of range. -/
def strtol (s : String) : Int := max LONG_MIN (min (readDecimal s) LONG_MAX)

/-- `atoi(s)`, which glibc defines as `(int) strtol(s, NULL, 10)`. -/
def atoi (s : String) : CInt := CInt.ofLong (strtol s)

example : (atoi " -12x").val = -12 ∧ (atoi "8443").val = 8443 ∧ (atoi "http").val = 0 ∧
    (atoi "99999999999").val = 1215752191 ∧ (atoi "99999999999999999999").val = -1 := by
  decide

/-- `strcasecmp(a, b) == 0`: equal up to the case of ASCII letters. -/
def strcasecmpEq (a b : String) : Bool :=
  a.toList.map Char.toLower == b.toList.map Char.toLower

/-! ## Arguments kept once -/

/-- The pattern of `accept_listener_table_name`, `accept_listener_protocol` and
`accept_table_arg`: a field still `NULL` takes the argument; otherwise `message` and the argument
are printed on stderr and the field keeps its value. The result is always `1`. Returns the
result, the field, and what was printed. -/
def acceptOnce (message : String) (field : Option String) (arg : String) :
    Int × Option String × Option String :=
  match field with
  | none => (1, some arg, none)
  | some v => (1, some v, some (message ++ arg ++ "\n"))

/-- `struct ListenerConfig`: what a `listener` stanza has given so far. -/
structure ListenerConfig where
  address : Option String
  port : Option String
  tableName : Option String
  protocol : Option String
  deriving DecidableEq, Repr

/-- `begin_listener()`: every field `NULL`. -/
def beginListener : ListenerConfig := ⟨none, none, none, none⟩

/-- `accept_listener_arg(listener, arg)`: the result and the updated record. While no address is
set, a numeric argument sets the port and any other sets the address; after the address, only a
numeric argument while no port is set is taken. -/
def acceptListenerArg (isnumeric : String → Bool) (listener : ListenerConfig) (arg : String) :
    Int × ListenerConfig :=
  if listener.address.isNone then
    if isnumeric arg then (1, { listener with port := some arg })
    else (1, { listener with address := some arg })
  else if listener.port.isNone && isnumeric arg then (1, { listener with port := some arg })
  else (-1, listener)

/-- The head arguments of a stanza passed to `accept_listener_arg` in turn: each call's result,
and the record they leave. -/
def feedListenerArgs (isnumeric : String → Bool) (listener : ListenerConfig) :
    List String → List Int × ListenerConfig
  | [] => ([], listener)
  | arg :: args =>
    let r := acceptListenerArg isnumeric listener arg
    let rest := feedListenerArgs isnumeric r.2 args
    (r.1 :: rest.1, rest.2)

/-- `accept_listener_table_name(listener, table_name)`. -/
def acceptListenerTableName (listener : ListenerConfig) (tableName : String) :
    Int × ListenerConfig × Option String :=
  let r := acceptOnce "Duplicate table_name: " listener.tableName tableName
  (r.1, { listener with tableName := r.2.1 }, r.2.2)

/-- `accept_listener_protocol(listener, protocol)`. -/
def acceptListenerProtocol (listener : ListenerConfig) (protocol : String) :
    Int × ListenerConfig × Option String :=
  let r := acceptOnce "Duplicate protocol: " listener.protocol protocol
  (r.1, { listener with protocol := r.2.1 }, r.2.2)

/-- `enum Protocol` (`listener.h`). -/
inductive Protocol where
  | TLS
  | HTTP
  deriving DecidableEq, Repr

/-- `struct Listener` as `end_listener` fills it: the table name, the protocol, and the address and
port it passes to `parse_address` (`address.c`, not among the source files). -/
structure Config.Listener where
  tableName : Option String
  protocol : Protocol
  address : Option String
  port : CInt
  deriving DecidableEq, Repr

/-- A call `add_backend(&table->backends, hostname, address, port)`. `backend.c`, which makes the
backend, is not among the source files, so the call is recorded as it is made. -/
structure AddBackend where
  hostname : Option String
  address : Option String
  port : CInt
  deriving DecidableEq, Repr

/-- `struct Table` as `end_table` fills it: its name, and the `add_backend` calls made on its
backend list, in order. -/
structure Config.Table where
  name : Option String
  backends : List AddBackend
  deriving DecidableEq, Repr

/-- `struct Config`, as far as the stanzas fill it: the listeners and tables (`SLIST`s, head
first). -/
structure Config where
  listeners : List Config.Listener
  tables : List Config.Table

/-- `end_listener(config, lc)`: a listener with `lc`'s table name, `HTTP` if its protocol is
`http` in any case and `TLS` otherwise, and `lc`'s address with `atoi` of its port (`0` if none)
for `parse_address`, inserted at the head of the listeners. -/
def endListener (config : Config) (lc : ListenerConfig) : Int × Config :=
  let protocol := match lc.protocol with
    | some p => if strcasecmpEq p "http" then Protocol.HTTP else .TLS
    | none => .TLS
  let port := match lc.port with
    | some p => atoi p
    | none => 0
  (1, { config with listeners := ⟨lc.tableName, protocol, lc.address, port⟩ :: config.listeners })

/-! ## What the listener head line accepts

`accept_listener_arg` is an automaton on the two fields `address` and `port`. Its first branch,
taken while no address is set, stores a numeric argument with no `port == NULL` test, which its
second branch makes: so any number of ports is accepted, each overwriting the one before, and an
address may follow them. The lemmas below go state by state; `feedListenerArgs_ok_iff` gives the
language of head lines every call accepts, and `feedListenerArgs_stores` what `end_listener` then
receives. -/

section Feed

variable (isnumeric : String → Bool)

@[simp] theorem feedListenerArgs_nil (lc : ListenerConfig) :
    feedListenerArgs isnumeric lc [] = ([], lc) := rfl

@[simp] theorem feedListenerArgs_cons (lc : ListenerConfig) (a : String) (args : List String) :
    feedListenerArgs isnumeric lc (a :: args) =
      ((acceptListenerArg isnumeric lc a).1 ::
          (feedListenerArgs isnumeric (acceptListenerArg isnumeric lc a).2 args).1,
        (feedListenerArgs isnumeric (acceptListenerArg isnumeric lc a).2 args).2) := rfl

/-- A head line of ports followed by one address, split at its first argument. -/
theorem portsThenAddress_cons (x : String) (xs : List String) :
    (∃ ports address, x :: xs = ports ++ [address] ∧ (∀ p ∈ ports, isnumeric p = true) ∧
        isnumeric address = false) ↔
      (isnumeric x = false ∧ xs = []) ∨
        (isnumeric x = true ∧ ∃ ports address, xs = ports ++ [address] ∧
          (∀ p ∈ ports, isnumeric p = true) ∧ isnumeric address = false) := by
  constructor
  · rintro ⟨ports, address, heq, hports, haddr⟩
    rcases List.cons_eq_append_iff.mp heq with ⟨rfl, h⟩ | ⟨ports', rfl, rfl⟩
    · obtain ⟨rfl, rfl⟩ := List.cons.inj h
      exact .inl ⟨haddr, rfl⟩
    · exact .inr ⟨hports x (by simp), ports', address, rfl, fun p hp => hports p (by simp [hp]),
        haddr⟩
  · rintro (⟨hx, rfl⟩ | ⟨hx, ports, address, rfl, hports, haddr⟩)
    · exact ⟨[], x, rfl, by simp, hx⟩
    · refine ⟨x :: ports, address, rfl, fun p hp => ?_, haddr⟩
      rcases List.mem_cons.mp hp with rfl | hp
      exacts [hx, hports p hp]

/-- Address and port set: every further argument is refused. -/
theorem feed_full_ok_iff (a p : String) (t pr : Option String) (args : List String) :
    (∀ r ∈ (feedListenerArgs isnumeric ⟨some a, some p, t, pr⟩ args).1, r = 1) ↔ args = [] := by
  cases args <;> simp [acceptListenerArg]

/-- Address set, no port: one numeric argument more is taken. -/
theorem feed_addressed_ok_iff (a : String) (t pr : Option String) (args : List String) :
    (∀ r ∈ (feedListenerArgs isnumeric ⟨some a, none, t, pr⟩ args).1, r = 1) ↔
      args = [] ∨ ∃ port, args = [port] ∧ isnumeric port = true := by
  cases args with
  | nil => simp
  | cons x xs =>
    cases hx : isnumeric x <;> simp [acceptListenerArg, hx, feed_full_ok_iff, and_assoc]

/-- No address, a port: more ports, each replacing the last, then at most one address. -/
theorem feed_ported_ok_iff (q : String) (t pr : Option String) (args : List String) :
    (∀ r ∈ (feedListenerArgs isnumeric ⟨none, some q, t, pr⟩ args).1, r = 1) ↔
      (∀ a ∈ args, isnumeric a = true) ∨
        ∃ ports address, args = ports ++ [address] ∧ (∀ p ∈ ports, isnumeric p = true) ∧
          isnumeric address = false := by
  induction args generalizing q with
  | nil => simp
  | cons x xs ih =>
    rw [portsThenAddress_cons]
    cases hx : isnumeric x <;> simp [acceptListenerArg, hx, feed_full_ok_iff, ih]

/-- **The head lines every call accepts.** Starting from `begin_listener`, every call of
`accept_listener_arg` returns `1` exactly when the arguments are all ports (none at all
included), or ports followed by one address, or an address followed by one port. The grammar's
`<address> [<port>]` and `<port>` are among them; so are two ports, and a port before an
address. -/
theorem feedListenerArgs_ok_iff (args : List String) :
    (∀ r ∈ (feedListenerArgs isnumeric beginListener args).1, r = 1) ↔
      (∀ a ∈ args, isnumeric a = true) ∨
        (∃ ports address, args = ports ++ [address] ∧ (∀ p ∈ ports, isnumeric p = true) ∧
          isnumeric address = false) ∨
        ∃ address port, args = [address, port] ∧ isnumeric address = false ∧
          isnumeric port = true := by
  cases args with
  | nil => simp
  | cons x xs =>
    rw [portsThenAddress_cons]
    cases hx : isnumeric x <;>
      simp [acceptListenerArg, beginListener, hx, feed_addressed_ok_iff, feed_ported_ok_iff,
        and_assoc]

/-- With no address yet, an accepted head line leaves its one non-numeric argument as the address
and its last numeric argument as the port. -/
theorem feed_unaddressed_stores (p t pr : Option String) (args : List String)
    (hok : ∀ r ∈ (feedListenerArgs isnumeric ⟨none, p, t, pr⟩ args).1, r = 1) :
    (feedListenerArgs isnumeric ⟨none, p, t, pr⟩ args).2 =
      ⟨args.find? (fun a => !isnumeric a), (p.toList ++ args.filter isnumeric).getLast?, t,
        pr⟩ := by
  induction args generalizing p with
  | nil => cases p <;> rfl
  | cons x xs ih =>
    have hrest := (List.forall_mem_cons.mp hok).2
    cases hx : isnumeric x
    · simp only [feedListenerArgs_cons, acceptListenerArg, Option.isNone_none, hx, if_true,
        Bool.false_eq_true, if_false] at hrest ⊢
      cases p with
      | none =>
        rcases (feed_addressed_ok_iff isnumeric x t pr xs).mp hrest with rfl | ⟨q, rfl, hq⟩
        · simp [hx]
        · simp [acceptListenerArg, hx, hq]
      | some q =>
        obtain rfl := (feed_full_ok_iff isnumeric x q t pr xs).mp hrest
        simp [hx]
    · simp only [feedListenerArgs_cons, acceptListenerArg, Option.isNone_none, hx, if_true]
        at hrest ⊢
      rw [ih (some x) hrest]
      simp [hx, List.getLast?_append_of_ne_nil _ (List.cons_ne_nil _ _)]

/-- **What `end_listener` receives.** For every head line every call accepts, the listener record
holds the line's one non-numeric argument, if any, as the address, and its last numeric argument
as the port: in `<address> [<port>]` and `<port>` exactly those, and of several ports only the
last. -/
theorem feedListenerArgs_stores (args : List String)
    (hok : ∀ r ∈ (feedListenerArgs isnumeric beginListener args).1, r = 1) :
    (feedListenerArgs isnumeric beginListener args).2 =
      { beginListener with address := args.find? (fun a => !isnumeric a),
                           port := (args.filter isnumeric).getLast? } :=
  feed_unaddressed_stores isnumeric none none none args hok

end Feed

/-- An `isnumeric`: a non-empty run of decimal digits. -/
def allDigits (s : String) : Bool := !s.toList.isEmpty && s.toList.all Char.isDigit

theorem feedListenerArgs_stores_localhost :
    (∀ r ∈ (feedListenerArgs allDigits beginListener ["localhost", "443"]).1, r = 1) ∧
      (feedListenerArgs allDigits beginListener ["localhost", "443"]).2 =
        { beginListener with address := some "localhost", port := some "443" } :=
  ⟨by decide, feedListenerArgs_stores allDigits ["localhost", "443"] (by decide)⟩

/-- **A second port overwrites the first.** Whatever `isnumeric` is, two numeric head arguments
are both taken, and the first port is lost: `end_listener` sees only the second. -/
theorem second_port_overwrites_first (isnumeric : String → Bool) (p₁ p₂ : String)
    (h₁ : isnumeric p₁ = true) (h₂ : isnumeric p₂ = true) :
    feedListenerArgs isnumeric beginListener [p₁, p₂] =
      ([1, 1], { beginListener with port := some p₂ }) := by
  simp [feedListenerArgs, acceptListenerArg, beginListener, h₁, h₂]

theorem second_port_overwrites_at_8443 :
    allDigits "443" = true ∧ allDigits "8443" = true ∧
      feedListenerArgs allDigits beginListener ["443", "8443"] =
        ([1, 1], { beginListener with port := some "8443" }) :=
  ⟨by decide, by decide,
    second_port_overwrites_first allDigits "443" "8443" (by decide) (by decide)⟩

/-! ## Table stanzas -/

/-- `struct TableEntryConfig`: one entry line `<hostname> <address> [<port>]` of a table. -/
structure TableEntryConfig where
  hostname : Option String
  address : Option String
  port : Option String
  deriving DecidableEq, Repr

/-- `begin_table_entry()`. -/
def beginTableEntry : TableEntryConfig := ⟨none, none, none⟩

/-- `accept_table_entry_arg(entry, arg)`: the hostname, then the address, then the port; a
fourth argument is printed on stderr and ignored. The result is always `1`. -/
def acceptTableEntryArg (entry : TableEntryConfig) (arg : String) :
    Int × TableEntryConfig × Option String :=
  if entry.hostname.isNone then (1, { entry with hostname := some arg }, none)
  else if entry.address.isNone then (1, { entry with address := some arg }, none)
  else if entry.port.isNone then (1, { entry with port := some arg }, none)
  else (1, entry, some ("Unexpected table entry argument: " ++ arg ++ "\n"))

/-- The arguments of an entry line passed to `accept_table_entry_arg` in turn: the entry they
leave, and the lines printed on stderr. -/
def feedTableEntryArgs (entry : TableEntryConfig) : List String → TableEntryConfig × List String
  | [] => (entry, [])
  | arg :: args =>
    let r := acceptTableEntryArg entry arg
    let rest := feedTableEntryArgs r.2.1 args
    (rest.1, r.2.2.toList ++ rest.2)

/-- A complete entry ignores every further argument, reporting each by its own text. -/
theorem feedTableEntryArgs_full (hostname address port : String) (args : List String) :
    feedTableEntryArgs ⟨some hostname, some address, some port⟩ args =
      (⟨some hostname, some address, some port⟩,
        args.map fun a => "Unexpected table entry argument: " ++ a ++ "\n") := by
  induction args with
  | nil => rfl
  | cons a args ih => simp [feedTableEntryArgs, acceptTableEntryArg, ih]

/-- **An entry line's arguments.** The first three become the hostname, the address and the
port, in that order and whatever they look like; each further one is printed on stderr by its
own text and ignored. -/
theorem feedTableEntryArgs_begin (args : List String) :
    feedTableEntryArgs beginTableEntry args =
      (⟨args[0]?, args[1]?, args[2]?⟩,
        (args.drop 3).map fun a => "Unexpected table entry argument: " ++ a ++ "\n") := by
  match args with
  | [] => rfl
  | [_] => rfl
  | [_, _] => rfl
  | _ :: _ :: _ :: rest =>
    simp [feedTableEntryArgs, acceptTableEntryArg, beginTableEntry, feedTableEntryArgs_full]

/-- `struct TableConfig`: the table's name and its queue of entries (`STAILQ`, head first). -/
structure TableConfig where
  name : Option String
  entries : List TableEntryConfig
  deriving DecidableEq, Repr

/-- `begin_table()`: no name, an empty queue. -/
def beginTable : TableConfig := ⟨none, []⟩

/-- `accept_table_arg(table, arg)`. -/
def acceptTableArg (table : TableConfig) (arg : String) : Int × TableConfig × Option String :=
  let r := acceptOnce "Unexpected table argument: " table.name arg
  (r.1, { table with name := r.2.1 }, r.2.2)

/-- `end_table_entry(table, entry)`: the entry joins the tail of the queue
(`STAILQ_INSERT_TAIL`). -/
def endTableEntry (table : TableConfig) (entry : TableEntryConfig) : Int × TableConfig :=
  (1, { table with entries := table.entries ++ [entry] })

/-- Entry lines closed by `end_table_entry` in turn. -/
def closeEntries (table : TableConfig) (entries : List TableEntryConfig) : TableConfig :=
  entries.foldl (fun table entry => (endTableEntry table entry).2) table

/-- The loop of `end_table`: while the queue has a head, remove it and call `add_backend` with
its hostname, its address and, as port, `atoi` of its port string or `0` if it has none. The
queue it leaves and the calls, in order. -/
def drainEntries : List TableEntryConfig → List AddBackend → List TableEntryConfig × List AddBackend
  | [], calls => ([], calls)
  | entry :: rest, calls =>
    let port := match entry.port with
      | some p => atoi p
      | none => 0
    drainEntries rest (calls ++ [⟨entry.hostname, entry.address, port⟩])

/-- `end_table(config, tc)`: a table with `tc`'s name, taken from `tc`, and the backends its
queued entries give, inserted at the head of the tables. Returns the result, the configuration,
and `tc` as it is freed. -/
def endTable (config : Config) (tc : TableConfig) : Int × Config × TableConfig :=
  let drained := drainEntries tc.entries []
  (1, { config with tables := ⟨tc.name, drained.2⟩ :: config.tables }, ⟨none, drained.1⟩)

/-! ## What `end_table` adds -/

@[simp] theorem closeEntries_name (table : TableConfig) (entries : List TableEntryConfig) :
    (closeEntries table entries).name = table.name := by
  induction entries generalizing table with
  | nil => rfl
  | cons e es ih => exact ih _

/-- Closed entries queue up in order after those already queued. -/
@[simp] theorem closeEntries_entries (table : TableConfig) (entries : List TableEntryConfig) :
    (closeEntries table entries).entries = table.entries ++ entries := by
  induction entries generalizing table with
  | nil => simp [closeEntries]
  | cons e es ih => rw [closeEntries, List.foldl_cons, ← closeEntries, ih]; simp [endTableEntry]

/-- The loop of `end_table` empties the queue and calls `add_backend` once per entry, in queue
order. -/
theorem drainEntries_eq (queue : List TableEntryConfig) (calls : List AddBackend) :
    drainEntries queue calls =
      ([], calls ++ queue.map fun e => ⟨e.hostname, e.address, e.port.elim 0 atoi⟩) := by
  induction queue generalizing calls with
  | nil => simp [drainEntries]
  | cons e es ih => cases hp : e.port <;> simp [drainEntries, ih, hp]

/-- **`end_table` adds the entries in file order.** Whatever the table's name and entries
`e₁ … eₙ`, closed by `end_table_entry` in that order, `end_table` calls `add_backend` `n` times,
in the order `e₁ … eₙ`, each with the entry's hostname, address, and port (`atoi` of its port
string, `0` without one); it returns `1`, puts the table at the head of the configuration's
tables, and leaves the `TableConfig` with its queue empty. -/
theorem endTable_adds_backends_in_order (config : Config) (name : Option String)
    (entries : List TableEntryConfig) :
    endTable config (closeEntries { beginTable with name := name } entries) =
      (1, { config with tables := ⟨name, entries.map fun e =>
          ⟨e.hostname, e.address, e.port.elim 0 atoi⟩⟩ :: config.tables }, ⟨none, []⟩) := by
  simp [endTable, drainEntries_eq, beginTable]

end Sniproxy
