import StreamDispatch.Echo.Command
import StreamDispatch.Proofs.Completion
import StreamDispatch.Proofs.Starting

/-! Sending messages to an echo server from the command line: what is printed, how the run ends, and
that it ends. -/
namespace StreamDispatch

/-! ### Steps that can fail -/

section Steps

variable {ε α β : Type} {step : Except ε α}

theorem bind_ok {next : α → Except ε β} {result : β} (ran : (step >>= next) = .ok result) :
    ∃ value, step = .ok value ∧ next value = .ok result := by
  cases step with
  | error fault => cases ran
  | ok value => exact ⟨value, rfl, ran⟩

theorem mapError_ok {φ : Type} {change : ε → φ} {value : α}
    (mapped : step.mapError change = .ok value) : step = .ok value := by
  cases step with
  | error fault => cases mapped
  | ok found => exact congrArg Except.ok (Except.ok.inj mapped)

end Steps

/-! ### What is built -/

theorem Settings.service_ok {σ : Type} {settings : Settings σ} {checked : Service σ}
    (found : settings.service = .ok checked) :
    0 < settings.bufferSize ∧ checked =
      { handlers := settings.handlers
        callbacks := settings.callbacks
        allocator := settings.allocator
        bufferSize := settings.bufferSize
        fresh := settings.fresh } := by
  unfold service at found
  grind

theorem Server.build_ok {σ : Type} {settings : ServerSettings σ} {server : Server σ}
    (built : Server.build settings = .ok server) :
    settings.toSettings.service = .ok server.service := by
  obtain ⟨checked, found, same⟩ := bind_ok built
  obtain rfl := Except.ok.inj same
  unfold ServerSettings.service at found
  split at found
  · cases found
  · exact found

theorem Client.build_ok {σ : Type} {settings : ClientSettings σ} {client : Client σ}
    (built : Client.build settings = .ok client) :
    settings.toSettings.service = .ok client.service := by
  obtain ⟨checked, found, same⟩ := bind_ok built
  obtain rfl := Except.ok.inj same
  unfold ClientSettings.service at found
  split at found
  · cases found
  · exact found

namespace Echo

/-! ### What the commands start -/

variable {address target : String} {backlog bufferSize : Nat} {host : Host}
  {messages : List String} {timeout : Duration} {arguments : List String}

theorem framing_ok {width : LengthWidth} {made : Framing}
    (found : framing width.size = .ok made) : made = .prefixed width := by
  have same := mapError_ok found
  rw [Framing.ofLengthField_size] at same
  exact (Except.ok.inj same).symm

/-- A server of the demonstration cuts frames and echoes them. -/
theorem serve_plain {width : LengthWidth} {server : Server Unit}
    (served : serve host address backlog width.size bufferSize = .ok server) :
    0 < bufferSize ∧ server.service.bufferSize = bufferSize ∧
      server.service.Plain (.prefixed width) (· = some []) List.flatten fun state _ => state := by
  obtain ⟨⟨name, port⟩, _, served⟩ := bind_ok served
  obtain ⟨ip, _, served⟩ := bind_ok served
  obtain ⟨framing, made, served⟩ := bind_ok served
  obtain ⟨built, checked, came⟩ := bind_ok served
  obtain rfl := framing_ok made
  obtain ⟨sized, service⟩ := Settings.service_ok (Server.build_ok (mapError_ok checked))
  have same : server.service = built.service := by
    have starts := built.start_startsTo host
    split at came
    · cases came
    · cases came
    · rename_i started ran
      obtain rfl := Except.ok.inj came
      rw [ran] at starts
      cases starts
      rfl
  rw [same, service]
  exact ⟨sized, rfl,
    { callbacks := rfl
      allocator := rfl
      chain := ⟨Stage.echoHandler, rfl, echoHandler_answers⟩
      nothing := ⟨rfl, fun _ => rfl⟩ }⟩

/-- A sender of the demonstration cuts frames and collects them, and it is open once it has
started. -/
theorem connect_plain {width : LengthWidth} {client : Client (List Bytes)}
    (connected : connect host address timeout width.size bufferSize = .ok client) :
    0 < bufferSize ∧ client.service.bufferSize = bufferSize ∧ client.service.fresh = [] ∧
      client.phase = .opened ∧
      client.service.Plain (.prefixed width) (fun _ => True) (fun _ => []) (· ++ ·) := by
  obtain ⟨⟨name, port⟩, _, connected⟩ := bind_ok connected
  obtain ⟨framing, made, connected⟩ := bind_ok connected
  obtain ⟨built, checked, came⟩ := bind_ok connected
  obtain rfl := framing_ok made
  obtain ⟨sized, service⟩ := Settings.service_ok (Client.build_ok (mapError_ok checked))
  obtain ⟨same, opened⟩ : client.service = built.service ∧ client.phase = .opened := by
    have starts := built.startOn_startsTo
      { lookup := (host.lookup name port).map (·.map (Client.Route.mk host)) }
    simp only at came
    split at came
    · cases came
    · rename_i started ran
      obtain rfl := Except.ok.inj came
      rw [ran] at starts
      cases starts
      exact ⟨rfl, rfl⟩
  rw [same, service]
  exact ⟨sized, rfl, rfl, opened,
    { callbacks := rfl
      allocator := rfl
      chain := ⟨repliesHandler, rfl, repliesHandler_answers⟩
      nothing := ⟨rfl, List.append_nil⟩ }⟩

/-! ### How a conversation ends -/

/-- What a run prints and how it ends: the first of the messages on a line each, and success only if
all of them fit. -/
structure Completed.Tells (completed : Completed) (messages : List String) (fit : Prop) :
    Prop where
  stdout : ∃ count, completed.stdout = String.join ((messages.take count).map (· ++ "\n")) ∧
    (fit → count = messages.length)
  code : completed.code = 0 ↔ fit

namespace Exchange

variable {width : LengthWidth} {submitted echoed received : List Bytes} {exchange : Exchange}

theorem Faithful.shown
    (faithful : exchange.Faithful width (messages.map (·.toUTF8.toList)) submitted echoed received) :
    conclude.shown exchange.printed =
      String.join ((messages.take exchange.printed.length).map (· ++ "\n")) := by
  have printed := List.prefix_iff_eq_take.mp faithful.printed_front
  rw [conclude.shown]
  generalize exchange.printed.length = count at printed ⊢
  rw [printed, ← List.map_take, List.map_map]
  simp only [Function.comp_def, Text.Utf8.text_toUTF8]

theorem stdout_conclude (printed : List Bytes) (total : Nat) (result : Except Error Unit) :
    (conclude printed total result).stdout = conclude.shown printed := by
  unfold conclude
  split
  · rfl
  · split <;> rfl

theorem code_conclude (printed : List Bytes) (total : Nat) (result : Except Error Unit) :
    (conclude printed total result).code = 0 ↔ result = .ok () ∧ printed.length = total := by
  unfold conclude
  split
  · simp [Completed.failed]
  · split <;> simp_all

/-- When the task is over, the end tells whether every message fits buffers that are possible. -/
theorem Faithful.tells
    (faithful : exchange.Faithful width (messages.map (·.toUTF8.toList)) submitted echoed received)
    (given : messages ≠ [])
    (calm : exchange.AllFit width (messages.map (·.toUTF8.toList)) → exchange.Calm)
    {result : Except Error Unit} (finished : exchange.task = .finished result) :
    (conclude exchange.printed exchange.total result).Tells messages
      (exchange.Possible ∧ exchange.AllFit width (messages.map (·.toUTF8.toList))) where
  stdout := by
    refine ⟨exchange.printed.length, ?_, fun ⟨_, fits⟩ => ?_⟩
    · rw [stdout_conclude, faithful.shown]
    · rw [((calm fits).task result finished).2, faithful.total, List.length_map]
  code := by
    rw [code_conclude]
    constructor
    · exact fun ⟨_, all⟩ => (faithful.complete (by simpa using given) all).2
    · exact fun ⟨_, fits⟩ => (calm fits).task result finished

theorem Faithful.unfinished
    (faithful : exchange.Faithful width (messages.map (·.toUTF8.toList)) submitted echoed received)
    (given : messages ≠ []) (calm : exchange.Calm) (impossible : ¬ exchange.Possible)
    (result : Except Error Unit) : exchange.task ≠ .finished result := by
  intro finished
  have all := (calm.task result finished).2
  exact impossible (faithful.complete (by simpa using given) all).2.1

end Exchange

/-! ### Conversations of the two commands -/

/-- A conversation that is about to begin, between buffers of these sizes. -/
structure Exchange.Begins (width : LengthWidth) (serverBuffer clientBuffer : Nat)
    (messages : List String) (start : Exchange) : Prop where
  faithful : start.Faithful width (messages.map (·.toUTF8.toList)) [] [] []
  calm : start.Calm
  server : start.serverService.bufferSize = serverBuffer
  client : start.clientService.bufferSize = clientBuffer

/-- What the two commands start begins a conversation. -/
theorem commands_begin {width : LengthWidth} {serverBuffer clientBuffer : Nat} {serverHost : Host}
    {server : Server Unit} {client : Client (List Bytes)}
    (served : serve serverHost address backlog width.size serverBuffer = .ok server)
    (connected : connect host target timeout width.size clientBuffer = .ok client)
    (messages : List String) :
    (Exchange.start width.size server.service client.service
      (messages.map (·.toUTF8.toList))).Begins width serverBuffer clientBuffer messages := by
  obtain ⟨serverRoom, serverSize, serves⟩ := serve_plain served
  obtain ⟨clientRoom, clientSize, fresh, _, asks⟩ := connect_plain connected
  exact
    { faithful := .start serves asks fresh (by omega) (by omega) _
      calm := .start ..
      server := serverSize
      client := clientSize }

namespace Exchange.Begins

variable {width : LengthWidth} {serverBuffer clientBuffer : Nat} {start : Exchange}

theorem possible (begins : start.Begins width serverBuffer clientBuffer messages) :
    start.Possible ↔ serverBuffer ≤ Word.maxCapacity ∧ clientBuffer ≤ Word.maxCapacity := by
  rw [Possible, begins.server, begins.client]

theorem allFit (begins : start.Begins width serverBuffer clientBuffer messages) :
    start.AllFit width (messages.map (·.toUTF8.toList)) ↔
      ∀ payload ∈ messages.map (·.toUTF8.toList),
        Fits width serverBuffer clientBuffer payload := by
  rw [AllFit, begins.server, begins.client]

theorem tells (begins : start.Begins width serverBuffer clientBuffer messages)
    (given : messages ≠ []) (turns : List Turn) :
    let exchange := start.takeAll turns
    exchange.printed <+: messages.map (·.toUTF8.toList) ∧
      (¬ start.Possible → exchange.printed = []) ∧
      ∀ result, exchange.task = .finished result →
        (conclude exchange.printed exchange.total result).Tells messages
          (start.Possible ∧ start.AllFit width (messages.map (·.toUTF8.toList))) := by
  intro exchange
  obtain ⟨_, _, _, later⟩ := begins.faithful.takeAll turns
  refine ⟨later.printed_front, fun impossible => later.printed_nil ?_, fun result finished => ?_⟩
  · rwa [begins.faithful.possible_takeAll]
  · have told := later.tells given (fun fits => begins.calm.takeAll
      ((begins.faithful.allFit_takeAll turns).mp fits) (by simpa using given) begins.faithful turns)
      finished
    rwa [begins.faithful.allFit_takeAll, begins.faithful.possible_takeAll] at told

theorem unfinished (begins : start.Begins width serverBuffer clientBuffer messages)
    (given : messages ≠ []) (impossible : ¬ start.Possible)
    (fits : start.AllFit width (messages.map (·.toUTF8.toList))) (turns : List Turn)
    (result : Except Error Unit) : (start.takeAll turns).task ≠ .finished result := by
  obtain ⟨_, _, _, later⟩ := begins.faithful.takeAll turns
  refine later.unfinished given (begins.calm.takeAll fits (by simpa using given) begins.faithful
    turns) ?_ result
  rwa [begins.faithful.possible_takeAll]

end Exchange.Begins

/-- A run of the sender is the conversation it has. -/
theorem run_converses (service : Service Unit) {client : Client (List Bytes)} {width : Nat}
    (parsed : parse arguments = .ok
      { command := .send target messages timeout, width, bufferSize })
    (connected : connect host target timeout width bufferSize = .ok client) :
    let payloads := messages.map (·.toUTF8.toList)
    let start := Exchange.start width service client.service payloads
    ∃ turns, let exchange := start.takeAll turns
      exchange = start.rounds (Exchange.bound payloads) ∧
        (∀ result, exchange.task = .finished result →
          run host service arguments =
            .completed (conclude exchange.printed exchange.total result)) ∧
        ((∀ result, exchange.task ≠ .finished result) → run host service arguments = .waiting) := by
  intro payloads start
  obtain ⟨turns, ran⟩ := start.rounds_turns (Exchange.bound payloads)
  refine ⟨turns, ran.symm, fun result finished => ?_, fun unfinished => ?_⟩
  · rw [← ran] at finished ⊢
    simp only [run, parsed, connected, converse]
    simp only [start, payloads] at finished
    simp only [finished, start, payloads]
  · rw [← ran] at unfinished
    simp only [run, parsed, connected, converse]
    split
    · rename_i result finished
      exact absurd finished (unfinished result)
    · rfl
    · rfl

/-- Sending messages to a server with the same width. Whatever turns the two sides and the network
take, the replies that are printed are the first of the messages, unchanged. A run that is over has
printed all of them and ends well if both buffers are possible and every message fits them and the
length field; otherwise it fails. With possible buffers a run is over as soon as everybody had enough
turns; with others nothing is printed, and a sender whose messages fit waits for good. The close after
a run succeeds. -/
theorem messages_return (width : LengthWidth) (serverHost host : Host) (address target : String)
    (backlog serverBuffer clientBuffer : Nat) (timeout : Duration) (messages : List String)
    (server : Server Unit) (client : Client (List Bytes)) (given : messages ≠ [])
    (served : serve serverHost address backlog width.size serverBuffer = .ok server)
    (connected : connect host target timeout width.size clientBuffer = .ok client) :
    let payloads := messages.map (·.toUTF8.toList)
    let possible := serverBuffer ≤ Word.maxCapacity ∧ clientBuffer ≤ Word.maxCapacity
    let fit := ∀ payload ∈ payloads, Fits width serverBuffer clientBuffer payload
    let start := Exchange.start width.size server.service client.service payloads
    (∀ turns, let exchange := start.takeAll turns
      exchange.printed <+: payloads ∧ (¬ possible → exchange.printed = []) ∧
        ∀ result, exchange.task = .finished result →
          (conclude exchange.printed exchange.total result).Tells messages (possible ∧ fit)) ∧
    (possible → ∀ rows : List (List Turn), (∀ row ∈ rows, Exchange.Fair row) →
      Exchange.bound payloads ≤ rows.length →
        ∃ result, (start.takeAll rows.flatten).task = .finished result) ∧
    (¬ possible → fit → ∀ turns result, (start.takeAll turns).task ≠ .finished result) ∧
    (∀ arguments, parse arguments = .ok { command := .send target messages timeout
                                          width := width.size
                                          bufferSize := clientBuffer } →
      (possible → ∃ completed, run host server.service arguments = .completed completed ∧
        completed.Tells messages fit) ∧
      (¬ possible → fit → run host server.service arguments = .waiting)) ∧
    ∀ activity, (client.toEndpoint.closeDuring activity true).1 = .done (.ok ()) := by
  intro payloads possible fit start
  have begins := commands_begin served connected messages
  have work := Exchange.workLeft_start width server.service client.service payloads
  have told := begins.tells given
  simp only [begins.possible, begins.allFit] at told
  have waits (impossible : ¬ possible) (fits : fit) :=
    begins.unfinished given (by rwa [begins.possible]) (begins.allFit.mpr fits)
  refine ⟨told, ?_, waits, ?_, ?_⟩
  · intro real rows fair enough
    exact begins.faithful.completes (begins.possible.mpr real) fair (Nat.le_trans work enough)
  · intro arguments parsed
    obtain ⟨turns, rounds, completed, waiting⟩ := run_converses server.service parsed connected
    refine ⟨fun real => ?_, fun impossible fits => waiting (waits impossible fits turns)⟩
    obtain ⟨result, finished⟩ := begins.faithful.rounds_finished (begins.possible.mpr real) work
    rw [← rounds] at finished
    refine ⟨_, completed result finished, ?_⟩
    have tells := (told turns).2.2 result finished
    rwa [and_iff_right real] at tells
  · obtain ⟨_, _, _, opened, _⟩ := connect_plain connected
    intro activity
    unfold Endpoint.closeDuring
    simp only [opened, Phase.checkClose]
    split <;> rfl

/-- The second message does not fit the buffer of the server: the run ends, and it fails. The server
is reached by name, at the second address that the name stands for. -/
theorem messages_return_unless_too_long :
    let loopback : IpAddress := .v4 127 0 0 1
    let host : Host :=
      { Host.loopback [⟨loopback, 49152, 0⟩] with
        resolver := fun _ port => .ok [⟨.unspecified, port, 0⟩, ⟨loopback, port, 0⟩] }
    let arguments := ["send", "--buffer-size", "6", "tcp!localhost!49152", "hi", "hey"]
    ∃ server client,
      serve .isolated "tcp!127.0.0.1!49152" 50 LengthWidth.two.size 4 = .ok server ∧
      parse arguments = .ok
        { command := .send "tcp!localhost!49152" ["hi", "hey"] (.ofSeconds 5)
          width := LengthWidth.two.size
          bufferSize := 6 } ∧
      connect host "tcp!localhost!49152" (.ofSeconds 5) LengthWidth.two.size 6 = .ok client ∧
      ∃ completed, run host server.service arguments = .completed completed ∧
        completed.code ≠ 0 := by
  intro loopback host arguments
  obtain ⟨server, served⟩ : ∃ server,
      serve .isolated "tcp!127.0.0.1!49152" 50 LengthWidth.two.size 4 = .ok server := ⟨_, rfl⟩
  obtain ⟨client, connected⟩ : ∃ client,
      connect host "tcp!localhost!49152" (.ofSeconds 5) LengthWidth.two.size 6 = .ok client :=
    ⟨_, rfl⟩
  obtain ⟨_, _, _, runs, _⟩ := messages_return .two .isolated host
    "tcp!127.0.0.1!49152" "tcp!localhost!49152" 50 4 6 (.ofSeconds 5) ["hi", "hey"]
    server client (by simp) served connected
  obtain ⟨completed, ran, tells⟩ := (runs arguments rfl).1 (by decide)
  refine ⟨server, client, served, rfl, connected, completed, ran, fun success => ?_⟩
  have long := (tells.code.mp success "hey".toUTF8.toList (by simp)).server
  have length : "hey".toUTF8.toList.length = 3 := by
    rw [Text.Utf8.toList_eq]
    rfl
  rw [length] at long
  exact absurd long (by decide)

/-- A server accepts a buffer of more bytes than there can be. A message that fits it does not come
back, whatever turns are taken, and the sender waits for good. -/
theorem reply_never_comes :
    let host : Host := .loopback [⟨.v4 127 0 0 1, 49152, 0⟩]
    let arguments := ["send", "tcp!127.0.0.1!49152", "hi"]
    ∃ server client,
      serve .isolated "tcp!127.0.0.1!49152" 50 LengthWidth.two.size 9223372036854775808 =
        .ok server ∧
      connect host "tcp!127.0.0.1!49152" (.ofSeconds 5) LengthWidth.two.size defaultBufferSize =
        .ok client ∧
      Fits .two 9223372036854775808 defaultBufferSize "hi".toUTF8.toList ∧
      run host server.service arguments = .waiting ∧
      ∀ turns, let exchange := (Exchange.start LengthWidth.two.size server.service client.service
          ["hi".toUTF8.toList]).takeAll turns
        exchange.printed = [] ∧ ∀ result, exchange.task ≠ .finished result := by
  intro host arguments
  obtain ⟨server, served⟩ : ∃ server, serve .isolated "tcp!127.0.0.1!49152" 50
      LengthWidth.two.size 9223372036854775808 = .ok server := ⟨_, rfl⟩
  obtain ⟨client, connected⟩ : ∃ client, connect host "tcp!127.0.0.1!49152" (.ofSeconds 5)
      LengthWidth.two.size defaultBufferSize = .ok client := ⟨_, rfl⟩
  have begins := commands_begin served connected ["hi"]
  have length : "hi".toUTF8.toList.length = 2 := by
    rw [Text.Utf8.toList_eq]
    rfl
  have fits : Fits .two 9223372036854775808 defaultBufferSize "hi".toUTF8.toList :=
    ⟨by rw [length]; decide, by rw [length]; decide, by rw [length]; decide⟩
  have impossible := begins.possible.not.mpr (by decide)
  have unfinished := begins.unfinished (by simp) impossible (begins.allFit.mpr (by simpa using fits))
  obtain ⟨turns, _, _, waiting⟩ := run_converses server.service
    (show parse arguments = .ok _ from rfl) connected
  exact ⟨server, client, served, connected, fits, waiting (unfinished turns), fun turns =>
    ⟨(begins.tells (by simp) turns).2.1 impossible, unfinished turns⟩⟩

end Echo

end StreamDispatch
