import Sniproxy.Config
import Mathlib.Data.Nat.Digits

/-!
# Sniproxy — printing the configuration back

`print_config` writes the loaded configuration in the syntax of the configuration file. This
module models what it writes for the parts the stanza callbacks fill, and proves that the table
stanzas read back, through the same callbacks, as the tables they were printed from:

* **`printTableConfig`** — `print_table_config`: `table [<name>] {`, one line
  `<hostname> <address> [<port>]` per backend, the port left out when it is `0`, and `}`.
  `printTableConfig_eq_stanzaText` writes it as words separated by single blanks.
* **`printListenerBody`** — the keyword lines of `print_listener_config`, `protocol tls|http`
  and `table <name>`. Its head line prints the socket address that `parse_address` (`address.c`,
  not among the sources) made, and is left out.
* **`atoi_toString`** — `atoi`, glibc's `(int) strtol(s, NULL, 10)`, reads back what `%d`
  writes, for every `int`.
* **`printed_tables_read_back_reversed`** — the table stanzas `print_config` writes, read back
  stanza by stanza, give every table with its name and its backends, ports included; but
  `end_table` inserts each table at the head of the list `print_config` walks from its head, so
  the tables come back in reverse order.

`parse_config` (`cfg_parser.c`), which splits the text into words and calls the callbacks, is not
among the sources: `readTableStanza` and `acceptListenerKeyword` call the callbacks on the words
in turn, as it does.
-/

namespace Sniproxy

/-! ## `%d` and `atoi` -/

/-- `Nat.digitChar` of a decimal digit is the digit's character. -/
theorem digitChar_facts : ∀ d < 10,
    (Nat.digitChar d).isDigit = true ∧ (Nat.digitChar d).toNat - '0'.toNat = d := by
  decide

/-- What `Nat.toDigitsCore` puts before `ds`: decimal digits whose value is `n`, given enough
fuel. -/
theorem toDigitsCore_eq : ∀ (fuel n : Nat) (ds : List Char), n < fuel →
    ∃ digits, Nat.toDigitsCore 10 fuel n ds = digits ++ ds ∧
      (∀ c ∈ digits, c.isDigit = true) ∧
      digits.foldl (fun n c => 10 * n + (c.toNat - '0'.toNat)) 0 = n
  | 0, _, _, h => absurd h (Nat.not_lt_zero _)
  | fuel + 1, n, ds, h => by
    obtain ⟨hdig, hval⟩ := digitChar_facts (n % 10) (Nat.mod_lt _ (by decide))
    unfold Nat.toDigitsCore
    dsimp only
    split_ifs with h0
    · refine ⟨[Nat.digitChar (n % 10)], rfl, by simpa using hdig, ?_⟩
      simp only [List.foldl_cons, List.foldl_nil, hval]; omega
    · obtain ⟨digits, heq, hall, hsum⟩ :=
        toDigitsCore_eq fuel (n / 10) (Nat.digitChar (n % 10) :: ds) (by omega)
      refine ⟨digits ++ [Nat.digitChar (n % 10)], by simp [heq], ?_, ?_⟩
      · simpa [or_imp, forall_and] using ⟨hall, hdig⟩
      · simp only [List.foldl_append, hsum, List.foldl_cons, List.foldl_nil, hval]; omega

/-- A run of decimal digits is not skipped as white space. -/
theorem dropWhile_isCSpace_digits {cs : List Char} (h : ∀ c ∈ cs, c.isDigit = true) :
    cs.dropWhile isCSpace = cs := by
  cases cs with
  | nil => rfl
  | cons c cs =>
    refine List.dropWhile_cons_of_neg fun hs => ?_
    have hc := h c (.head _)
    simp only [isCSpace, Bool.or_eq_true, beq_iff_eq] at hs
    rcases hs with ((((hs | hs) | hs) | hs) | hs) | hs <;> subst hs <;> exact absurd hc (by decide)

/-- The characters `Nat.toDigits` writes for `n` are decimal digits of value `n`. -/
theorem toDigits_eq (n : Nat) :
    (∀ c ∈ Nat.toDigits 10 n, c.isDigit = true) ∧ digitsValue (Nat.toDigits 10 n) = n := by
  obtain ⟨digits, heq, hall, hsum⟩ := toDigitsCore_eq (n + 1) n [] (Nat.lt_succ_self n)
  rw [Nat.toDigits, heq, List.append_nil]
  exact ⟨hall, by rw [digitsValue, List.takeWhile_eq_self_iff.mpr hall, hsum]⟩

/-- `readDecimal` reads back what `%d` writes, for every integer: its decimal digits, after a `-`
when it is negative. -/
theorem readDecimal_toString (n : Int) : readDecimal (toString n) = n := by
  unfold readDecimal
  cases n with
  | ofNat m =>
    obtain ⟨hall, hval⟩ := toDigits_eq m
    rw [show (toString (Int.ofNat m)).toList = Nat.toDigits 10 m from rfl,
      dropWhile_isCSpace_digits hall]
    split
    · next cs heq => exact absurd (hall '-' (by simp [heq])) (by decide)
    · next cs heq => exact absurd (hall '+' (by simp [heq])) (by decide)
    · rw [hval]; rfl
  | negSucc m =>
    obtain ⟨-, hval⟩ := toDigits_eq (m + 1)
    rw [show (toString (Int.negSucc m)).toList = '-' :: Nat.toDigits 10 (m + 1) from rfl,
      List.dropWhile_cons_of_neg (by decide)]
    show -((digitsValue (Nat.toDigits 10 (m + 1)) : Nat) : Int) = _
    rw [hval]; rfl

/-- An `int` is its own reduction modulo `2 ^ 32`. -/
theorem CInt.ofLong_val (n : CInt) : CInt.ofLong n.val = n := by
  have hn := n.range
  unfold INT_MIN INT_MAX at hn
  ext
  show n.val.bmod 4294967296 = n.val
  rw [Int.bmod_def]
  split <;> omega

/-- **`atoi` reads back what `%d` writes**, for every `int`: within the range of `int`, `strtol`
cuts nothing and the conversion to `int` changes nothing. -/
theorem atoi_toString (n : CInt) : atoi (toString n) = n := by
  have hn := n.range
  unfold INT_MIN INT_MAX at hn
  rw [atoi, show toString n = toString n.val from rfl, strtol, readDecimal_toString,
    min_eq_left (by unfold LONG_MAX; omega), max_eq_right (by unfold LONG_MIN; omega),
    CInt.ofLong_val]

/-! ## Tables -/

/-- `printf("%s", s)` of a `char *`: the string, or `(null)`, as glibc prints a null pointer. -/
def cString : Option String → String
  | some s => s
  | none => "(null)"

/-- `print_table_config(table)`. The backend fields it prints are those `add_backend` was given
(`backend.c`, which stores them, is not among the sources). -/
def printTableConfig (table : Config.Table) : String :=
  (match table.name with
    | none => "table \x7b\n"
    | some name => "table " ++ name ++ " \x7b\n") ++
  String.join (table.backends.map fun b =>
    if b.port = 0 then "\t" ++ cString b.hostname ++ " " ++ cString b.address ++ "\n"
    else "\t" ++ cString b.hostname ++ " " ++ cString b.address ++ " " ++ toString b.port ++ "\n") ++
  "\x7d\n\n"

/-- The table loop of `print_config`: `print_table_config` on each table, head first
(`SLIST_FOREACH`). -/
def printConfigTables (config : Config) : String :=
  String.join (config.tables.map printTableConfig)

/-- The words `print_table_config` writes on a backend's line: hostname and address, then the
port unless it is `0`. -/
def backendWords (b : AddBackend) : List String :=
  [cString b.hostname, cString b.address] ++ if b.port = 0 then [] else [toString b.port]

/-- The lines of a stanza's body from their words: a tab, the words separated by single blanks,
a newline. -/
def linesText (lines : List (List String)) : String :=
  String.join (lines.map fun words => "\t" ++ " ".intercalate words ++ "\n")

/-- The text of a stanza from its words: the keyword and head words, then `{`; the body lines;
`}` and an empty line. -/
def stanzaText (keyword : String) (head : List String) (lines : List (List String)) : String :=
  " ".intercalate (keyword :: head ++ ["\x7b"]) ++ "\n" ++ linesText lines ++ "\x7d\n\n"

/-- The stanzas `print_config` writes for the tables, as words: each table's name, if any, and
its backends' lines. -/
def tableStanzas (config : Config) : List (List String × List (List String)) :=
  config.tables.map fun t => (t.name.toList, t.backends.map backendWords)

/-- **`print_table_config` writes words separated by single blanks.** -/
theorem printTableConfig_eq_stanzaText (table : Config.Table) :
    printTableConfig table =
      stanzaText "table" table.name.toList (table.backends.map backendWords) := by
  have hline : ∀ b : AddBackend, (if b.port = 0 then
      "\t" ++ cString b.hostname ++ " " ++ cString b.address ++ "\n" else
      "\t" ++ cString b.hostname ++ " " ++ cString b.address ++ " " ++ toString b.port ++ "\n") =
        "\t" ++ " ".intercalate (backendWords b) ++ "\n" := fun b => by
    by_cases hp : b.port = 0 <;>
      simp [hp, backendWords, String.intercalate, String.intercalate.go, String.append_assoc]
  obtain ⟨_ | name, backends⟩ := table <;> simp only [printTableConfig, hline] <;>
    simp [stanzaText, linesText, String.intercalate, String.intercalate.go, Function.comp_def,
      String.append_assoc]

/-- A `table` stanza read as `parse_config` drives the callbacks of `global_grammar` and
`table_stanza_grammar`: `begin_table`, `accept_table_arg` on each head word; per entry line
`begin_table_entry`, `accept_table_entry_arg` on each word and `end_table_entry`; at the closing
brace `end_table`. The configuration it leaves. -/
def readTableStanza (config : Config) (head : List String) (lines : List (List String)) :
    Config :=
  let tc := head.foldl (fun tc arg => (acceptTableArg tc arg).2.1) beginTable
  let tc := closeEntries tc (lines.map fun words => (feedTableEntryArgs beginTableEntry words).1)
  (endTable config tc).2.1

/-- Stanzas read in turn. -/
def readTableStanzas (config : Config) (stanzas : List (List String × List (List String))) :
    Config :=
  stanzas.foldl (fun config st => readTableStanza config st.1 st.2) config

/-- An entry line of the words printed for a backend with a hostname and an address reads back
as that backend: the port is restored by `atoi`, or as `0` when it was left out. -/
theorem read_backendWords {b : AddBackend} (h : b.hostname.isSome ∧ b.address.isSome) :
    (fun e : TableEntryConfig => (⟨e.hostname, e.address, e.port.elim 0 atoi⟩ : AddBackend))
      (feedTableEntryArgs beginTableEntry (backendWords b)).1 = b := by
  obtain ⟨hostname, address, port⟩ := b
  obtain ⟨h₁, h₂⟩ := h
  obtain ⟨hostname, rfl⟩ := Option.isSome_iff_exists.mp h₁
  obtain ⟨address, rfl⟩ := Option.isSome_iff_exists.mp h₂
  by_cases hp : port = 0 <;>
    simp [backendWords, cString, feedTableEntryArgs, acceptTableEntryArg, beginTableEntry, hp,
      atoi_toString]

/-- A table stanza adds one table, with the name its head gives and a backend per entry line. -/
theorem readTableStanza_eq (config : Config) (name : Option String) (lines : List (List String)) :
    readTableStanza config name.toList lines =
      { config with tables := ⟨name, (lines.map fun words =>
          (feedTableEntryArgs beginTableEntry words).1).map fun e =>
            ⟨e.hostname, e.address, e.port.elim 0 atoi⟩⟩ :: config.tables } := by
  cases name <;>
    simp [readTableStanza, endTable, drainEntries_eq, beginTable, acceptTableArg, acceptOnce]

/-- **The printed tables read back, in reverse order.** For every configuration whose backends
all have a hostname and an address, `print_config` writes its tables as the stanzas
`tableStanzas`, words separated by single blanks; read back in the order written, each stanza
gives its table again, with its name and its backends in order, ports included (a port `0`, left
out, comes back as `0`). But `end_table` inserts each table at the head of the list that
`print_config` walks from its head, so the tables come back in reverse order. -/
theorem printed_tables_read_back_reversed (config : Config)
    (hnamed : ∀ t ∈ config.tables, ∀ b ∈ t.backends, b.hostname.isSome ∧ b.address.isSome) :
    printConfigTables config =
        String.join ((tableStanzas config).map fun st => stanzaText "table" st.1 st.2) ∧
      readTableStanzas { config with tables := [] } (tableStanzas config) =
        { config with tables := config.tables.reverse } := by
  refine ⟨?_, ?_⟩
  · simp only [printConfigTables, tableStanzas, List.map_map]
    exact congrArg String.join (List.map_congr_left fun t _ => printTableConfig_eq_stanzaText t)
  suffices h : ∀ (ts acc : List Config.Table),
      (∀ t ∈ ts, ∀ b ∈ t.backends, b.hostname.isSome ∧ b.address.isSome) →
      readTableStanzas { config with tables := acc } (ts.map fun t =>
          (t.name.toList, t.backends.map backendWords)) =
        { config with tables := ts.reverse ++ acc } by
    simpa using h config.tables [] hnamed
  intro ts
  induction ts with
  | nil => intro acc _; rfl
  | cons t ts ih =>
    intro acc hts
    have ht : ((t.backends.map backendWords).map fun words =>
        (feedTableEntryArgs beginTableEntry words).1).map (fun e =>
          (⟨e.hostname, e.address, e.port.elim 0 atoi⟩ : AddBackend)) = t.backends := by
      rw [List.map_map, List.map_map]
      conv_rhs => rw [← List.map_id t.backends]
      exact List.map_congr_left fun b hb => read_backendWords (hts t (.head _) b hb)
    have hstep := readTableStanza_eq { config with tables := acc } t.name
      (t.backends.map backendWords)
    rw [ht] at hstep
    simp only [List.map_cons, readTableStanzas, List.foldl_cons, hstep] at ih ⊢
    rw [ih (t :: acc) fun t' ht' => hts t' (.tail _ ht')]
    simp

/-- Two tables, the first with a backend on the default port. -/
def exampleConfig : Config :=
  ⟨[], [⟨some "https", [⟨some "example.com", some "192.0.2.1", ⟨8443, by decide⟩⟩,
      ⟨some ".*", some "192.0.2.2", 0⟩]⟩,
    ⟨none, [⟨some "example.org", some "192.0.2.3", ⟨80, by decide⟩⟩]⟩]⟩

theorem printed_tables_read_back_at_example :
    (∀ t ∈ exampleConfig.tables, ∀ b ∈ t.backends, b.hostname.isSome ∧ b.address.isSome) ∧
      printConfigTables exampleConfig =
        String.join ((tableStanzas exampleConfig).map fun st => stanzaText "table" st.1 st.2) ∧
      readTableStanzas { exampleConfig with tables := [] } (tableStanzas exampleConfig) =
        { exampleConfig with tables := exampleConfig.tables.reverse } :=
  ⟨by decide, printed_tables_read_back_reversed exampleConfig (by decide)⟩

/-! ## Listeners -/

/-- `print_listener_config(listener)` after its head line. -/
def printListenerBody (l : Config.Listener) : String :=
  (if l.protocol = .TLS then "\tprotocol tls\n" else "\tprotocol http\n") ++
  (match l.tableName with
    | some t => "\ttable " ++ t ++ "\n"
    | none => "") ++
  "\x7d\n\n"

/-- A keyword line of a `listener` stanza, dispatched by `listener_stanza_grammar`: `protocol` to
`accept_listener_protocol`, `table` to `accept_listener_table_name`, each with the line's
argument. Any other line is `parse_config`'s to report and is not read here. -/
def acceptListenerKeyword (lc : ListenerConfig) : List String → ListenerConfig
  | ["protocol", arg] => (acceptListenerProtocol lc arg).2.1
  | ["table", arg] => (acceptListenerTableName lc arg).2.1
  | _ => lc

end Sniproxy
