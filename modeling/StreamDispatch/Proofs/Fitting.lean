import StreamDispatch.Proofs.Conversation

/-! Which conversations come out well. If every message fits the length field and both buffers no
party ever closes or is closed; and if one does not, some reply is missing at the end. -/
namespace StreamDispatch

namespace Framing

/-- A frame is its length field and its payload, which is no longer than the field can say. -/
theorem IsFrame.length_drop {width : LengthWidth} {frame : Bytes}
    (whole : (prefixed width).IsFrame frame) :
    (frame.drop width.size).length ≤ width.maxPayload ∧
      frame.length = width.size + (frame.drop width.size).length := by
  obtain ⟨short, same⟩ := encode_ok_iff.mp whole.encode
  have length := congrArg List.length same
  rw [List.length_append, Bytes.length_ofNat] at length
  exact ⟨short, length⟩

end Framing

/-- The payload fits a length field of this width, and its frame fits both buffers. -/
structure Echo.Fits (width : LengthWidth) (serverBuffer clientBuffer : Nat) (payload : Bytes) :
    Prop where
  short : payload.length ≤ width.maxPayload
  server : width.size + payload.length ≤ serverBuffer
  client : width.size + payload.length ≤ clientBuffer

theorem Session.Visits.stays_open {σ : Type} {framing : Framing} {limit : Nat}
    {answer : List Bytes → Bytes} {absorb : σ → List Bytes → σ} {session after : Session σ}
    (visits : session.Visits framing limit answer absorb after)
    (live : session.channel.closed = false) (unasked : session.channel.closeRequested = false)
    (reading : session.channel.reading = true)
    (unbroken : session.channel.connection.broken = false)
    (more : session.channel.connection.ended = false) :
    after.channel.closed = false ∧ after.channel.connection.ended = false := by
  cases visits with
  | opens _ channel _ | waits _ _ _ _ channel _ | balks _ channel _ =>
    rw [channel]
    exact ⟨live, more⟩
  | reads cut _ _ _ _ _ _ channel _ =>
    rw [channel]
    exact ⟨live, more⟩
  | closes _ cause => simp [live, unasked, reading, unbroken, more] at cause

namespace Echo

/-- A target that is sent a legal stream always has room. -/
theorem Link.room {framing : Framing} {limit carried : Nat} {frames : List Bytes}
    {source target : Channel} (link : Link framing limit source target carried frames)
    (legal : framing.Legal limit source.connection.delivered) (least : framing.minLength ≤ limit) :
    target.pending.length < limit ∧ target.closeRequested = false := by
  have whole := List.take_append_drop carried source.connection.delivered
  rw [link.reading.whole, List.append_assoc] at whole
  rw [← whole] at legal
  have short := legal.of_append.rest_short least
  rw [Framing.cut_row (fun frame member => (link.reading.frame frame member).1)
    link.reading.stops] at short
  refine ⟨short, Bool.eq_false_iff.mpr fun asked => ?_⟩
  exact absurd (link.reading.asked.mp asked) (Nat.not_le_of_lt short)

theorem Link.carry_open {σ τ : Type} {framing : Framing} {limit carried count moved : Nat}
    {frames : List Bytes} {source : Session σ} {target after : Session τ}
    (link : Link framing limit source.channel target.channel carried frames)
    (ran : Exchange.carry source target carried count = (after, moved))
    (output : source.channel.closed = source.channel.output.isNone)
    (sourceLive : source.channel.closed = false) (live : target.channel.closed = false) :
    after.channel.closed = false ∧ after.channel.connection.ended = false := by
  obtain ⟨next, _, same, _⟩ := link.carry ran
  constructor
  · rw [next.reading.output, same, ← link.reading.output, live]
  · refine Bool.eq_false_iff.mpr fun ended => ?_
    rw [(next.ended ended).1, sourceLive] at output
    simp at output

namespace Exchange

variable {width : LengthWidth} {payloads submitted echoed received : List Bytes}
  {exchange after : Exchange} {turn : Turn}

/-- Both buffers can be as large as they should be. -/
def Possible (exchange : Exchange) : Prop :=
  exchange.serverService.bufferSize ≤ Word.maxCapacity ∧
    exchange.clientService.bufferSize ≤ Word.maxCapacity

def AllFit (width : LengthWidth) (payloads : List Bytes) (exchange : Exchange) : Prop :=
  ∀ payload ∈ payloads,
    Fits width exchange.serverService.bufferSize exchange.clientService.bufferSize payload

/-! ### If every reply was printed -/

/-- Where a buffer is larger than any can be nothing is received. -/
theorem Faithful.received_nil
    (faithful : exchange.Faithful width payloads submitted echoed received)
    (impossible : ¬ exchange.Possible) : received = [] := by
  rcases Decidable.not_and_iff_or_not.mp impossible with server | client
  · have front := faithful.received_front
    rw [(faithful.out.reading.deaf (Nat.lt_of_not_le server)).1] at front
    exact List.prefix_nil.mp front
  · exact (faithful.back.reading.deaf (Nat.lt_of_not_le client)).1

theorem Faithful.printed_nil
    (faithful : exchange.Faithful width payloads submitted echoed received)
    (impossible : ¬ exchange.Possible) : exchange.printed = [] := by
  have queued := faithful.queued
  rw [faithful.received_nil impossible, List.map_nil] at queued
  exact (List.append_eq_nil_iff.mp queued.symm).1

/-- If there is a reply for every message they are the messages, and each of them fits buffers that
are possible. -/
theorem Faithful.complete (faithful : exchange.Faithful width payloads submitted echoed received)
    (some : payloads ≠ []) (all : exchange.printed.length = exchange.total) :
    exchange.printed = payloads ∧ exchange.Possible ∧ exchange.AllFit width payloads := by
  rw [faithful.total] at all
  have printed := faithful.printed_front.eq_of_length all
  refine ⟨printed, ?_, ?_⟩
  · by_contra impossible
    exact some (printed.symm.trans (faithful.printed_nil impossible))
  obtain ⟨rest, whole, _⟩ := faithful.left
  have queued := congrArg List.length faithful.queued
  have given := congrArg List.length whole
  simp only [List.length_append, List.length_map] at queued given
  have echoedLength := faithful.echoed_front.length_le
  have receivedLength := faithful.received_front.length_le
  obtain rfl : rest = [] := List.length_eq_zero_iff.mp (by omega)
  obtain rfl := faithful.received_front.eq_of_length (by omega)
  obtain rfl := faithful.echoed_front.eq_of_length (by omega)
  rw [List.append_nil] at whole
  intro payload member
  rw [← whole] at member
  obtain ⟨frame, present, rfl⟩ := List.mem_map.mp member
  obtain ⟨isFrame, server⟩ := faithful.out.reading.frame frame present
  obtain ⟨short, length⟩ := isFrame.length_drop
  have client := (faithful.back.reading.frame frame present).2
  rw [length] at server client
  exact ⟨short, server, client⟩

/-! ### If every message fits -/

/-- Both sides are open, and the sender's task has met no failure. -/
structure Calm (exchange : Exchange) : Prop where
  server : exchange.server.channel.closed = false ∧
    exchange.server.channel.connection.ended = false
  client : exchange.client.channel.closed = false ∧
    exchange.client.channel.connection.ended = false
  runs : exchange.clientEnded = false
  task : ∀ result, exchange.task = .finished result →
    result = .ok () ∧ exchange.printed.length = exchange.total

theorem Moves.services (moves : exchange.Moves width turn after) :
    after.serverService = exchange.serverService ∧
      after.clientService = exchange.clientService := by
  cases moves <;> exact ⟨rfl, rfl⟩

theorem Moves.possible (moves : exchange.Moves width turn after) :
    after.Possible ↔ exchange.Possible := by
  rw [Possible, Possible, moves.services.1, moves.services.2]

theorem Moves.allFit (moves : exchange.Moves width turn after) :
    after.AllFit width payloads ↔ exchange.AllFit width payloads := by
  rw [AllFit, AllFit, moves.services.1, moves.services.2]

theorem Faithful.services_takeAll
    (faithful : exchange.Faithful width payloads submitted echoed received) (turns : List Turn) :
    (exchange.takeAll turns).serverService = exchange.serverService ∧
      (exchange.takeAll turns).clientService = exchange.clientService := by
  induction turns generalizing exchange submitted echoed received with
  | nil => exact ⟨rfl, rfl⟩
  | cons turn rest ih =>
    have moves := faithful.moves turn
    obtain ⟨_, _, _, next⟩ := moves.faithful faithful
    obtain ⟨server, client⟩ := ih next
    exact ⟨server.trans moves.services.1, client.trans moves.services.2⟩

theorem Faithful.possible_takeAll
    (faithful : exchange.Faithful width payloads submitted echoed received) (turns : List Turn) :
    (exchange.takeAll turns).Possible ↔ exchange.Possible := by
  have same := faithful.services_takeAll turns
  rw [Possible, Possible, same.1, same.2]

theorem Faithful.allFit_takeAll
    (faithful : exchange.Faithful width payloads submitted echoed received) (turns : List Turn) :
    (exchange.takeAll turns).AllFit width payloads ↔ exchange.AllFit width payloads := by
  have same := faithful.services_takeAll turns
  rw [AllFit, AllFit, same.1, same.2]

theorem AllFit.frames (fits : exchange.AllFit width payloads)
    (faithful : exchange.Faithful width payloads submitted echoed received) :
    ∀ frame ∈ submitted, frame.length ≤ exchange.serverService.bufferSize ∧
      frame.length ≤ exchange.clientService.bufferSize := by
  intro frame member
  obtain ⟨rest, whole, _⟩ := faithful.left
  have given : frame.drop width.size ∈ payloads := by
    rw [← whole]
    exact List.mem_append_left _ (List.mem_map_of_mem member)
  obtain ⟨_, server, client⟩ := fits _ given
  rw [(faithful.frame frame member).length_drop.2]
  exact ⟨server, client⟩

/-- If every message fits, no side ever has a full buffer. -/
theorem AllFit.room (fits : exchange.AllFit width payloads) (some : payloads ≠ [])
    (faithful : exchange.Faithful width payloads submitted echoed received) :
    (exchange.server.channel.pending.length < exchange.serverService.bufferSize ∧
      exchange.server.channel.closeRequested = false) ∧
    (exchange.client.channel.pending.length < exchange.clientService.bufferSize ∧
      exchange.client.channel.closeRequested = false) := by
  obtain ⟨payload, member⟩ := List.exists_mem_of_ne_nil _ some
  obtain ⟨_, server, client⟩ := fits payload member
  have least : (Framing.prefixed width).minLength = width.size := Nat.zero_add _
  have frames := fits.frames faithful
  have sent := Framing.Legal.of_row faithful.frame fun frame member => (frames frame member).1
  rw [← faithful.sent] at sent
  have echoes : (Framing.prefixed width).Legal exchange.clientService.bufferSize echoed.flatten :=
    .of_row (fun frame member => (faithful.out.reading.frame frame member).1)
      fun frame member => (frames frame (faithful.echoed_front.subset member)).2
  rw [← faithful.echo] at echoes
  exact ⟨faithful.out.room sent.of_append (by omega), faithful.back.room echoes (by omega)⟩

theorem Moves.calm (moves : exchange.Moves width turn after) (fits : exchange.AllFit width payloads)
    (some : payloads ≠ [])
    (faithful : exchange.Faithful width payloads submitted echoed received)
    (calm : exchange.Calm) : after.Calm := by
  obtain ⟨⟨_, serverUnasked⟩, ⟨_, clientUnasked⟩⟩ := fits.room some faithful
  cases moves with
  | serverVisits unfired visits =>
    have reading := faithful.out.reading.reading calm.server.1
    exact { calm with
      server := visits.stays_open calm.server.1 serverUnasked reading
        faithful.out.reading.unbroken calm.server.2 }
  | clientVisits unfired visits =>
    have reading := faithful.back.reading.reading calm.client.1
    exact { calm with
      client := visits.stays_open calm.client.1 clientUnasked reading
        faithful.back.reading.unbroken calm.client.2 }
  | carriesOut ran =>
    exact { calm with
      server := faithful.out.carry_open ran faithful.back.reading.output calm.client.1
        calm.server.1 }
  | carriesBack ran =>
    exact { calm with
      client := faithful.back.carry_open ran faithful.out.reading.output calm.server.1
        calm.client.1 }
  | submits task written live output whole =>
    exact { calm with client := ⟨live, calm.client.2⟩, task := nofun }
  | flushes task live output =>
    exact { calm with client := ⟨live, calm.client.2⟩, task := nofun }
  | fails task cause =>
    rcases cause with closed | ⟨message, member, refused⟩
    · simp [calm.client.1] at closed
    · obtain ⟨rest, whole, leaves⟩ := faithful.left
      rw [task] at leaves
      have given : message ∈ payloads := by
        rw [← whole, leaves]
        exact List.mem_append_right _ member
      have written := Framing.encode_ok_iff.mpr ⟨(fits message given).short, rfl⟩
      rw [faithful.sized] at refused
      exact absurd written (refused _)
  | finishes task all =>
    exact { calm with task := fun result finished => ⟨(Task.finished.inj finished).symm, all⟩ }
  | prints task missing queue =>
    exact { calm with task := by simp [task] }
  | clientEnds fired =>
    have closed := faithful.back.reading.fired fired
    simp [calm.client.1] at closed
  | notices task ended => simp [calm.runs] at ended
  | serverGone | rests | overlooks => exact calm

theorem Calm.takeAll (calm : exchange.Calm) (fits : exchange.AllFit width payloads)
    (some : payloads ≠ [])
    (faithful : exchange.Faithful width payloads submitted echoed received) (turns : List Turn) :
    (exchange.takeAll turns).Calm := by
  induction turns generalizing exchange submitted echoed received with
  | nil => exact calm
  | cons turn rest ih =>
    have moves := faithful.moves turn
    obtain ⟨_, _, _, next⟩ := moves.faithful faithful
    exact ih (moves.calm fits some faithful calm) (moves.allFit.mpr fits) next

theorem Calm.start (width : Nat) (server : Service Unit) (client : Service (List Bytes))
    (payloads : List Bytes) : (start width server client payloads).Calm where
  server := ⟨rfl, rfl⟩
  client := ⟨rfl, rfl⟩
  runs := rfl
  task := nofun

end Exchange

end Echo

end StreamDispatch
