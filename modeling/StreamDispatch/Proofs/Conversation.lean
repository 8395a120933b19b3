import StreamDispatch.Echo.Exchange
import StreamDispatch.Proofs.Flags
import StreamDispatch.Proofs.Reading
import StreamDispatch.Proofs.RoundTrip

/-! A conversation between a sender and an echo server. The messages are submitted as frames, the
server echoes frames, the sender receives frames and prints what they carry; whatever turns are
taken, each of these rows is the front of the one before it. -/
namespace StreamDispatch.Echo

variable {σ τ : Type}

/-! ### The two services -/

theorem echoHandler_answers :
    (Stage.echoHandler : Handler Unit).Answers (· = some []) List.flatten fun state _ => state :=
  fun frames session live output => Stage.echoHandler_run frames session live output

theorem repliesHandler_answers :
    repliesHandler.Answers (fun _ => True) (fun _ => []) (· ++ ·) := by
  intro frames session _ _
  refine ⟨session.journal, ?_⟩
  rw [Channel.deliver, List.append_nil]
  rfl

/-! ### One direction -/

/-- What has been carried from one end of a connection to the other, and cut into frames there. -/
structure Link (framing : Framing) (limit : Nat) (source target : Channel) (carried : Nat)
    (frames : List Bytes) : Prop where
  within : carried ≤ source.connection.delivered.length
  reading : target.Reading framing limit (source.connection.delivered.take carried) frames
  ended : target.connection.ended = true →
    source.output = none ∧ carried = source.connection.delivered.length

namespace Link

variable {framing : Framing} {limit carried : Nat} {frames : List Bytes}

theorem sends {source after target : Channel} {more : Bytes}
    (link : Link framing limit source target carried frames)
    (sent : after.connection.delivered = source.connection.delivered ++ more)
    (shut : source.output = none → more = [] ∧ after.output = none) :
    Link framing limit after target carried frames where
  within := by
    rw [sent, List.length_append]
    exact Nat.le_add_right_of_le link.within
  reading := by
    rw [sent, List.take_append_of_le_length link.within]
    exact link.reading
  ended := by
    intro ended
    obtain ⟨none, all⟩ := link.ended ended
    obtain ⟨rfl, still⟩ := shut none
    exact ⟨still, by rw [sent, List.append_nil, all]⟩

/-- The stream is the frames that were cut off it, and more. -/
theorem stream {source target : Channel}
    (link : Link framing limit source target carried frames) :
    ∃ later, source.connection.delivered = frames.flatten ++ later := by
  have whole := List.take_append_drop carried source.connection.delivered
  rw [link.reading.whole, List.append_assoc, List.append_assoc] at whole
  exact ⟨_, whole.symm⟩

end Link

namespace Exchange

/-- What a carry comes to, unless bytes arrive after the end of the stream. -/
theorem carry_eq {source : Session σ} {target after : Session τ} {carried count moved : Nat}
    {bytes : Bytes} (ran : carry source target carried count = (after, moved))
    (taken : bytes = (source.channel.connection.delivered.drop carried).take count)
    (more : target.channel.connection.ended = true → bytes = []) :
    moved = carried + bytes.length ∧ after.state = target.state ∧ after.channel =
      { target.channel with
        connection :=
          { target.channel.connection with
            unread := target.channel.connection.unread ++ bytes
            ended := target.channel.connection.ended || source.channel.atEnd &&
              decide (moved = source.channel.connection.delivered.length) } } := by
  have arrived : (target.arrive bytes).2.channel =
      { target.channel with
        connection :=
          { target.channel.connection with
            unread := target.channel.connection.unread ++ bytes } } ∧
      (target.arrive bytes).2.state = target.state := by
    rw [Session.arrive]
    split
    · rename_i ended
      simp [more ended]
    · rename_i ended
      rw [Session.record, Session.updateChannel,
        Channel.arrive_of_open (Bool.eq_false_iff.mpr ended)]
      exact ⟨rfl, rfl⟩
  obtain ⟨channel, state⟩ := arrived
  rw [carry, ← taken] at ran
  obtain ⟨rfl, rfl⟩ := Prod.mk.inj ran
  refine ⟨rfl, ?_⟩
  split
  · rename_i finished
    rw [finished, Bool.or_true]
    simp [Session.peerEnds, Session.record, Session.updateChannel, Channel.peerEnds, channel, state]
  · rename_i short
    rw [Bool.eq_false_iff.mpr short, Bool.or_false]
    exact ⟨state, channel⟩

end Exchange

namespace Link

variable {framing : Framing} {limit carried count moved : Nat} {frames : List Bytes}
  {source : Session σ} {target after : Session τ}

theorem ended_nothing (link : Link framing limit source.channel target.channel carried frames)
    (ended : target.channel.connection.ended = true) :
    (source.channel.connection.delivered.drop carried).take count = [] := by
  rw [(link.ended ended).2, List.drop_length, List.take_nil]

/-- Carrying bytes over keeps the link and touches nothing but the input of the target. -/
theorem carry (link : Link framing limit source.channel target.channel carried frames)
    (ran : Exchange.carry source target carried count = (after, moved)) :
    Link framing limit source.channel after.channel moved frames ∧ after.state = target.state ∧
      after.channel.output = target.channel.output ∧
      after.channel.connection.delivered = target.channel.connection.delivered := by
  obtain ⟨counted, state, channel⟩ := Exchange.carry_eq ran rfl link.ended_nothing
  refine ⟨⟨?_, ?_, ?_⟩, state, by rw [channel], by rw [channel]⟩
  · have within := link.within
    rw [counted, List.length_take, List.length_drop]
    omega
  · rw [channel]
    refine { link.reading with whole := ?_ }
    have taken : source.channel.connection.delivered.take moved =
        source.channel.connection.delivered.take carried ++
          (source.channel.connection.delivered.drop carried).take count := by
      rw [counted, List.length_take, List.take_add, ← List.take_eq_take_min]
    rw [taken, link.reading.whole, List.append_assoc]
  · rw [channel]
    intro ended
    rcases Bool.or_eq_true_iff.mp ended with before | now
    · obtain ⟨none, all⟩ := link.ended before
      refine ⟨none, ?_⟩
      rw [counted, link.ended_nothing before, all]
      rfl
    · obtain ⟨gone, all⟩ := Bool.and_eq_true_iff.mp now
      exact ⟨Option.isNone_iff_eq_none.mp gone, of_decide_eq_true all⟩

theorem start {service : Service σ} {other : Service τ} (room : 0 < other.bufferSize) :
    Link framing other.bufferSize (service.session 0).channel (other.session 0).channel 0 [] where
  within := Nat.zero_le _
  reading :=
    { whole := rfl
      frame := by simp
      stops := Framing.stops_of_incomplete framing.front_nil
      bounded := Nat.zero_le _
      asked := by simpa [Service.session, Nat.pos_iff_ne_zero] using room
      output := rfl
      reading := fun _ => rfl
      fired := nofun
      free := rfl
      kept := rfl
      unbroken := rfl
      deaf := fun _ => ⟨rfl, rfl⟩ }
  ended := nofun

/-- Output of the target's own is no concern of the link. -/
theorem writes {bytes kept : Bytes}
    (link : Link framing limit source.channel target.channel carried frames)
    (live : target.channel.closed = false) :
    Link framing limit source.channel
      { target.channel.deliver bytes with output := some kept } carried frames :=
  ⟨link.within, { link.reading with output := live }, link.ended⟩

/-- A visit of the target keeps the link, and more frames may have been cut off. -/
theorem visited {answer : List Bytes → Bytes} {absorb : τ → List Bytes → τ}
    (link : Link framing limit source.channel target.channel carried frames)
    (nothing : answer [] = [] ∧ ∀ state, absorb state [] = state)
    (visits : target.Visits framing limit answer absorb after) :
    ∃ more, Link framing limit source.channel after.channel carried (frames ++ more) ∧
      after.state = absorb target.state more ∧
      target.channel.Sends answer more after.channel := by
  obtain ⟨more, reading, state, ended, sends⟩ := visits.reading link.reading nothing
  refine ⟨more, ⟨link.within, reading, ?_⟩, state, sends⟩
  rw [ended]
  exact link.ended

end Link

/-! ### Moves -/

namespace Exchange

inductive Moves (width : LengthWidth) (before : Exchange) : Turn → Exchange → Prop
  | serverVisits {after : Session Unit} (unfired : before.server.channel.closeFired = false)
      (visits : before.server.Visits (.prefixed width) before.serverService.bufferSize
        List.flatten (fun state _ => state) after) :
      Moves width before .serverSweep { before with server := after }
  | serverGone (fired : before.server.channel.closeFired = true) :
      Moves width before .serverSweep before
  | clientVisits {after : Session (List Bytes)}
      (unfired : before.client.channel.closeFired = false)
      (visits : before.client.Visits (.prefixed width) before.clientService.bufferSize
        (fun _ => []) (· ++ ·) after) :
      Moves width before .clientSweep { before with client := after }
  | clientEnds (fired : before.client.channel.closeFired = true) :
      Moves width before .clientSweep { before with clientEnded := true }
  | carriesOut {count moved : Nat} {after : Session Unit}
      (ran : carry before.client before.server before.carriedOut count = (after, moved)) :
      Moves width before (.carryOut count) { before with server := after, carriedOut := moved }
  | carriesBack {count moved : Nat} {after : Session (List Bytes)}
      (ran : carry before.server before.client before.carriedBack count = (after, moved)) :
      Moves width before (.carryBack count) { before with client := after, carriedBack := moved }
  | submits {message frame held gone kept : Bytes} {rest : List Bytes} {journal : Journal}
      (task : before.task = .submitting (message :: rest))
      (written : Framing.encode before.width message = .ok (.ok frame))
      (live : before.client.channel.closed = false)
      (output : before.client.channel.output = some held) (whole : gone ++ kept = held ++ frame) :
      Moves width before .proceed
        { before with
          client := ⟨{ before.client.channel.deliver gone with output := some kept },
            before.client.state, journal⟩
          task := .submitting rest }
  | flushes {held : Bytes} (task : before.task = .submitting [])
      (live : before.client.channel.closed = false)
      (output : before.client.channel.output = some held) :
      Moves width before .proceed
        { before with
          client := ⟨{ before.client.channel.deliver held with output := some [] },
            before.client.state, before.client.journal⟩
          task := .waiting }
  | fails {rest : List Bytes} {error : Error} (task : before.task = .submitting rest)
      (cause : before.client.channel.closed = true ∨
        ∃ message ∈ rest, ∀ frame, Framing.encode before.width message ≠ .ok (.ok frame)) :
      Moves width before .proceed { before with task := .finished (.error error) }
  | finishes (task : before.task = .waiting) (all : before.printed.length = before.total) :
      Moves width before .proceed { before with task := .finished (.ok ()) }
  | prints {frame : Bytes} {rest : List Bytes} (task : before.task = .waiting)
      (missing : before.printed.length ≠ before.total)
      (queue : before.client.state = frame :: rest) :
      Moves width before .proceed
        { before with
          client := { before.client with state := rest }
          printed := before.printed ++ [frame.drop before.width] }
  | rests (cause : (∃ result, before.task = .finished result) ∨
        before.task = .waiting ∧ before.printed.length ≠ before.total ∧
          before.client.state = []) :
      Moves width before .proceed before
  | notices (task : before.task = .waiting) (ended : before.clientEnded = true) :
      Moves width before .notice { before with task := .finished (.ok ()) }
  | overlooks (cause : before.task = .waiting → before.clientEnded = false) :
      Moves width before .notice before

end Exchange

/-! ### What every turn keeps -/

/-- The task has these messages still to submit. -/
def Task.Leaves : Task → List Bytes → Prop
  | .submitting messages, rest => rest = messages
  | .waiting, rest => rest = []
  | .finished _, _ => True

namespace Exchange

/-- Every party has the front of what the one before it has: of the messages some are submitted, of
these some are echoed, of these some are received and of these some are printed. -/
structure Faithful (width : LengthWidth) (payloads submitted echoed received : List Bytes)
    (exchange : Exchange) : Prop where
  serves : exchange.serverService.Plain (.prefixed width) (· = some []) List.flatten
    fun state _ => state
  asks : exchange.clientService.Plain (.prefixed width) (fun _ => True) (fun _ => []) (· ++ ·)
  sized : exchange.width = width.size
  total : exchange.total = payloads.length
  left : ∃ rest, submitted.map (·.drop width.size) ++ rest = payloads ∧ exchange.task.Leaves rest
  frame : ∀ frame ∈ submitted, (Framing.prefixed width).IsFrame frame
  sent : exchange.client.channel.connection.delivered ++
    exchange.client.channel.output.getD [] = submitted.flatten
  flushed : exchange.task = .waiting → exchange.client.channel.output.getD [] = []
  out : Link (.prefixed width) exchange.serverService.bufferSize exchange.client.channel
    exchange.server.channel exchange.carriedOut echoed
  echo : exchange.server.channel.connection.delivered = echoed.flatten
  clear : exchange.server.channel.output.getD [] = []
  back : Link (.prefixed width) exchange.clientService.bufferSize exchange.server.channel
    exchange.client.channel exchange.carriedBack received
  queued : received.map (·.drop width.size) =
    exchange.printed ++ exchange.client.state.map (·.drop width.size)

variable {width : LengthWidth} {payloads submitted echoed received : List Bytes}
  {exchange after : Exchange} {turn : Turn}

theorem Faithful.serverOutput
    (faithful : exchange.Faithful width payloads submitted echoed received)
    (live : exchange.server.channel.closed = false) :
    exchange.server.channel.output = some [] := by
  have output := faithful.out.reading.output
  have clear := faithful.clear
  cases held : exchange.server.channel.output with
  | none => simp [live, held] at output
  | some bytes =>
    rw [held] at clear
    exact congrArg some clear

theorem submit_moves {messages : List Bytes} (task : exchange.task = .submitting messages)
    (output : exchange.client.channel.closed = exchange.client.channel.output.isNone) :
    exchange.Moves width .proceed (exchange.submit messages) := by
  cases closed : exchange.client.channel.closed with
  | true =>
    have refused (action : Action) (other : action.closes = false) :
        exchange.client.perform action = (.error .channelClosed, exchange.client) := by
      rw [Session.perform, Action.apply_refused other closed]
    cases messages with
    | nil =>
      simp only [submit, refused .flush rfl]
      exact .fails task (.inl closed)
    | cons message rest =>
      rw [submit]
      split
      · exact .fails task (.inl closed)
      · exact .fails task (.inl closed)
      · simp only [refused (.send _) rfl]
        exact .fails task (.inl closed)
  | false =>
    rw [closed] at output
    obtain ⟨held, output⟩ := Option.isSome_iff_exists.mp (Option.isNone_eq_false_iff.mp output.symm)
    cases messages with
    | nil =>
      simp only [submit, exchange.client.perform_flush closed output]
      exact .flushes task closed output
    | cons message rest =>
      rw [submit]
      split
      · rename_i failed
        exact .fails task (.inr ⟨message, List.mem_cons_self .., by simp [failed]⟩)
      · rename_i failed
        exact .fails task (.inr ⟨message, List.mem_cons_self .., by simp [failed]⟩)
      · rename_i frame written
        obtain ⟨gone, kept, journal, sent, whole⟩ := Session.perform_send closed output frame
        simp only [sent]
        exact .submits task written closed output whole

theorem print_moves (task : exchange.task = .waiting) :
    exchange.Moves width .proceed exchange.print := by
  unfold print
  split
  · rename_i all
    exact .finishes task all
  · rename_i missing
    split
    · rename_i queue
      exact .rests (.inr ⟨task, missing, queue⟩)
    · rename_i frame rest queue
      exact .prints task missing queue

theorem Faithful.moves (faithful : exchange.Faithful width payloads submitted echoed received)
    (turn : Turn) : exchange.Moves width turn (exchange.take turn) := by
  cases turn with
  | serverSweep =>
    cases fired : exchange.server.channel.closeFired with
    | true =>
      have gone : exchange.server.visit exchange.serverService false = none := by
        simp [Session.visit, fired]
      simp only [take, gone]
      exact .serverGone fired
    | false =>
      obtain ⟨after, visited, visits⟩ := Session.visit_visits faithful.serves
        faithful.out.reading.free fired faithful.serverOutput
      simp only [take, visited]
      exact .serverVisits fired visits
  | clientSweep =>
    cases fired : exchange.client.channel.closeFired with
    | true =>
      have gone : exchange.client.visit exchange.clientService false = none := by
        simp [Session.visit, fired]
      simp only [take, gone]
      exact .clientEnds fired
    | false =>
      obtain ⟨after, visited, visits⟩ := Session.visit_visits faithful.asks
        faithful.back.reading.free fired fun _ => trivial
      simp only [take, visited]
      exact .clientVisits fired visits
  | carryOut count => exact .carriesOut rfl
  | carryBack count => exact .carriesBack rfl
  | proceed =>
    cases task : exchange.task with
    | submitting messages =>
      simp only [take, task]
      exact submit_moves task faithful.back.reading.output
    | waiting =>
      simp only [take, task]
      exact print_moves task
    | finished result =>
      simp only [take, task]
      exact .rests (.inl ⟨result, task⟩)
  | notice =>
    cases task : exchange.task with
    | waiting =>
      simp only [take, task]
      split
      · exact .notices task ‹_›
      · rename_i live
        exact .overlooks fun _ => Bool.eq_false_iff.mpr live
    | submitting | finished =>
      simp only [take, task]
      exact .overlooks (by simp [task])

theorem Moves.faithful (moves : exchange.Moves width turn after)
    (faithful : exchange.Faithful width payloads submitted echoed received) :
    ∃ submitted echoed received, after.Faithful width payloads submitted echoed received := by
  cases moves with
  | serverVisits unfired visits =>
    obtain ⟨more, out, _, sends⟩ := faithful.out.visited faithful.serves.nothing visits
    obtain ⟨bytes, grown, shut⟩ := sends.grows faithful.out.reading.output rfl
    refine ⟨submitted, echoed ++ more, received, { faithful with
      out := out
      back := faithful.back.sends grown shut
      echo := ?_
      clear := sends.clear faithful.clear }⟩
    rw [sends.answered faithful.clear rfl, faithful.echo, List.flatten_append]
  | clientVisits unfired visits =>
    obtain ⟨more, back, state, sends⟩ := faithful.back.visited faithful.asks.nothing visits
    obtain ⟨bytes, grown, shut⟩ := sends.grows faithful.back.reading.output rfl
    refine ⟨submitted, echoed, received ++ more, { faithful with
      out := faithful.out.sends grown shut
      back := back
      sent := sends.quiet.trans faithful.sent
      flushed := fun task => sends.clear (faithful.flushed task)
      queued := ?_ }⟩
    rw [state, List.map_append, faithful.queued, List.append_assoc, List.map_append]
  | carriesOut ran =>
    obtain ⟨out, _, output, delivered⟩ := faithful.out.carry ran
    refine ⟨submitted, echoed, received, { faithful with
      out := out
      echo := delivered.trans faithful.echo
      clear := (congrArg (·.getD []) output).trans faithful.clear
      back := ?_ }⟩
    exact faithful.back.sends (delivered.trans (List.append_nil _).symm) fun none =>
      ⟨rfl, output.trans none⟩
  | carriesBack ran =>
    obtain ⟨back, state, output, delivered⟩ := faithful.back.carry ran
    refine ⟨submitted, echoed, received, { faithful with
      back := back
      sent := ?_
      flushed := fun task => (congrArg (·.getD []) output).trans (faithful.flushed task)
      out := ?_
      queued := by rw [state]; exact faithful.queued }⟩
    · rw [output, delivered]
      exact faithful.sent
    · exact faithful.out.sends (delivered.trans (List.append_nil _).symm) fun none =>
        ⟨rfl, output.trans none⟩
  | @submits message frame held gone kept rest journal task written live output whole =>
    rw [faithful.sized] at written
    obtain ⟨isFrame, carried⟩ := Framing.encode_isFrame written
    obtain ⟨left, same, leaves⟩ := faithful.left
    rw [task] at leaves
    refine ⟨submitted ++ [frame], echoed, received, { faithful with
      left := ⟨rest, ?_, rfl⟩
      frame := ?_
      sent := ?_
      flushed := by simp
      out := faithful.out.sends rfl (by simp [output])
      back := faithful.back.writes live }⟩
    · rw [← same, leaves, List.map_append, List.map_singleton, carried, List.append_assoc]
      rfl
    · intro other member
      rcases List.mem_append.mp member with earlier | last
      · exact faithful.frame other earlier
      · rwa [List.mem_singleton.mp last]
    · have sent := faithful.sent
      rw [output] at sent
      rw [List.flatten_append, ← sent]
      simp [Channel.deliver, whole]
  | flushes task live output =>
    obtain ⟨left, same, leaves⟩ := faithful.left
    rw [task] at leaves
    refine ⟨submitted, echoed, received, { faithful with
      left := ⟨left, same, leaves⟩
      sent := ?_
      flushed := fun _ => rfl
      out := faithful.out.sends rfl (by simp [output])
      back := faithful.back.writes live }⟩
    have sent := faithful.sent
    rw [output] at sent
    simpa [Channel.deliver] using sent
  | prints task missing queue =>
    refine ⟨submitted, echoed, received, { faithful with queued := ?_ }⟩
    rw [faithful.queued, queue, faithful.sized]
    simp
  | fails | finishes | notices =>
    obtain ⟨left, same, _⟩ := faithful.left
    exact ⟨submitted, echoed, received, { faithful with
      left := ⟨left, same, trivial⟩
      flushed := by simp }⟩
  | serverGone | clientEnds | rests | overlooks =>
    exact ⟨submitted, echoed, received, { faithful with }⟩

theorem Faithful.start {server : Service Unit} {client : Service (List Bytes)}
    (serves : server.Plain (.prefixed width) (· = some []) List.flatten fun state _ => state)
    (asks : client.Plain (.prefixed width) (fun _ => True) (fun _ => []) (· ++ ·))
    (fresh : client.fresh = []) (serverRoom : 0 < server.bufferSize)
    (clientRoom : 0 < client.bufferSize) (payloads : List Bytes) :
    (start width.size server client payloads).Faithful width payloads [] [] [] where
  serves := serves
  asks := asks
  sized := rfl
  total := rfl
  left := ⟨payloads, rfl, rfl⟩
  frame := by simp
  sent := rfl
  flushed := nofun
  out := .start serverRoom
  echo := rfl
  clear := rfl
  back := .start clientRoom
  queued := by
    change [] = [] ++ client.fresh.map (·.drop width.size)
    rw [fresh]
    rfl

/-- Whatever turns are taken, every party has the front of what the one before it has. -/
theorem Faithful.takeAll (faithful : exchange.Faithful width payloads submitted echoed received)
    (turns : List Turn) : ∃ submitted echoed received,
      (exchange.takeAll turns).Faithful width payloads submitted echoed received := by
  induction turns generalizing exchange submitted echoed received with
  | nil => exact ⟨submitted, echoed, received, faithful⟩
  | cons turn rest ih =>
    obtain ⟨_, _, _, next⟩ := (faithful.moves turn).faithful faithful
    exact ih next

/-! ### What is printed -/

theorem Faithful.echoed_front
    (faithful : exchange.Faithful width payloads submitted echoed received) :
    echoed <+: submitted := by
  obtain ⟨later, stream⟩ := faithful.out.stream
  have sent := faithful.sent
  rw [stream, List.append_assoc] at sent
  exact ⟨_, (Framing.row_front (fun frame member => (faithful.out.reading.frame frame member).1)
    faithful.frame sent.symm).1⟩

theorem Faithful.received_front
    (faithful : exchange.Faithful width payloads submitted echoed received) :
    received <+: echoed := by
  obtain ⟨later, stream⟩ := faithful.back.stream
  rw [faithful.echo] at stream
  exact ⟨_, (Framing.row_front (fun frame member => (faithful.back.reading.frame frame member).1)
    (fun frame member => (faithful.out.reading.frame frame member).1) stream).1⟩

theorem Faithful.printed_front
    (faithful : exchange.Faithful width payloads submitted echoed received) :
    exchange.printed <+: payloads := by
  obtain ⟨rest, whole, _⟩ := faithful.left
  have carried := (faithful.received_front.trans faithful.echoed_front).map (·.drop width.size)
  rw [faithful.queued] at carried
  exact (List.prefix_append _ _).trans (carried.trans ⟨rest, whole⟩)

end Exchange

end StreamDispatch.Echo
