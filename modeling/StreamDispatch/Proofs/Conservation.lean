import StreamDispatch.Proofs.Coherence
import StreamDispatch.Proofs.Consumption
import StreamDispatch.Proofs.Turns

/-! Inbound conservation. Whatever handlers and callbacks do, as long as handlers only take bytes
off the front of their buffer, the bytes a peer sent are those that chain runs took, those that are
pending and those that are unread, in this order. -/
namespace StreamDispatch

variable {σ : Type}

/-! ### The journal in turn -/

/-- What an event claims about the bytes that wait for the chain. -/
def Event.Fits (waiting : Bytes) : Event → Prop
  | .chained offered left _ => offered = waiting ∧ left <:+ offered
  | .closed leftover => leftover = waiting
  | _ => True

/-- Every event fits what waited for the chain when it happened. -/
def Journal.InTurn : Bytes → Journal → Prop
  | _, [] => True
  | waiting, event :: rest => event.Fits waiting ∧ InTurn (Journal.await waiting event) rest

namespace Journal

variable {waiting : Bytes} {journal events before after : Journal}

theorem inTurn_append :
    InTurn waiting (journal ++ events) ↔
      InTurn waiting journal ∧ InTurn (journal.foldl await waiting) events := by
  induction journal generalizing waiting with
  | nil => simp [InTurn]
  | cons event rest ih => simp [InTurn, ih, and_assoc]

theorem InTurn.fits {event : Event} (turn : InTurn [] (before ++ event :: after)) :
    event.Fits before.awaiting := (inTurn_append.mp turn).2.1

theorem inTurn_own (own : ∀ event ∈ events, event.isOwn = true) : InTurn waiting events := by
  induction events generalizing waiting with
  | nil => trivial
  | cons event rest ih =>
    refine ⟨?_, ih fun other member => own other (List.mem_cons_of_mem _ member)⟩
    have mine := own event (List.mem_cons_self ..)
    cases event <;> trivial

end Journal

/-- What is placed on the way from a point of a unit to the next. -/
def Point.placement : Point → Option Placement
  | .read pending fresh => some (.extend pending fresh)
  | .chained _ rest whole => some (.compact rest whole)
  | _ => none

/-! ### The balance -/

/-- The bytes that wait for the chain stand between those that were consumed and those that are
unread, and every chain run and every close was given what waited at that time. -/
structure Balance (waiting : Bytes) (session : Session σ) : Prop where
  whole : session.journal.sent =
    session.journal.consumed ++ waiting ++ session.channel.connection.unread
  waits : session.journal.awaiting = waiting
  turn : Journal.InTurn [] session.journal

namespace Balance

variable {service : Service σ} {waiting : Bytes} {session after : Session σ} {events : Journal}

theorem extend (balance : Balance waiting session)
    (grown : after.journal = session.journal ++ events)
    (unread : after.channel.connection.unread = session.channel.connection.unread)
    (sent : events.sent = []) (consumed : events.consumed = [])
    (waits : events.foldl Journal.await waiting = waiting)
    (turn : Journal.InTurn waiting events) : Balance waiting after where
  whole := by simpa [grown, unread, sent, consumed] using balance.whole
  waits := by rw [grown, Journal.awaiting_append, balance.waits, waits]
  turn := by
    rw [grown, Journal.inTurn_append]
    refine ⟨balance.turn, ?_⟩
    change Journal.InTurn session.journal.awaiting events
    rwa [balance.waits]

theorem extend_own (balance : Balance waiting session)
    (grown : after.journal = session.journal ++ events)
    (unread : after.channel.connection.unread = session.channel.connection.unread)
    (own : ∀ event ∈ events, event.isOwn = true) : Balance waiting after :=
  balance.extend grown unread (Journal.sent_own own) (Journal.consumed_own own)
    (Journal.foldl_await_own own) (Journal.inTurn_own own)

theorem handled (balance : Balance waiting session) (work : session.Handled after) :
    Balance waiting after := by
  obtain ⟨events, grown, own⟩ := work.grows
  exact balance.extend_own grown work.sameInward.unread own

theorem read (balance : Balance waiting session) {room : Nat} {channel : Channel}
    (taken : session.channel.connection.unread.take room ++ channel.connection.unread =
      session.channel.connection.unread) :
    Balance (waiting ++ session.channel.connection.unread.take room)
      (Session.record { session with channel }
        (.read (session.channel.connection.unread.take room))) where
  whole := by
    simp only [Session.record, Journal.sent_append, Journal.consumed_append, List.append_assoc,
      taken]
    simpa [Journal.sent, Journal.consumed] using balance.whole
  waits := by simp [Session.record, Journal.await, balance.waits]
  turn := Journal.inTurn_append.mpr ⟨balance.turn, trivial, trivial⟩

/-- A chain run moves the bytes it takes from those that wait to those that are consumed. -/
theorem run (balance : Balance waiting session) {rest : Bytes} (left : rest <:+ waiting)
    (fault : Option Error)
    (grown : after.journal = session.journal ++ [.chained waiting rest fault])
    (unread : after.channel.connection.unread = session.channel.connection.unread) :
    Balance rest after where
  whole := by
    obtain ⟨taken, rfl⟩ := left
    rw [grown, Journal.sent_append, Journal.consumed_append, unread, balance.whole]
    simp [Journal.sent, Journal.consumed]
  waits := by simp [grown, Journal.await]
  turn := by
    rw [grown]
    exact Journal.inTurn_append.mpr ⟨balance.turn, ⟨balance.waits.symm, left⟩, trivial⟩

/-- What waits for the chain at a point of a unit. -/
def AtPoint : Point → Session σ → Prop
  | .read pending fresh, session => Balance (pending ++ fresh) session
  | .offered buffer, session => Balance buffer session ∧ session.channel.pending = buffer
  | .chained _ rest _, session => Balance rest session
  | .calling call, session =>
    Balance session.channel.pending session ∧
      ∀ leftover, call = .closing leftover → leftover = session.channel.pending
  | .begun, session | .over, session | .stuck, session => Balance session.channel.pending session

theorem atPoint_report (balance : Balance session.channel.pending session) (error : Error)
    (pending : Bytes) : AtPoint (.calling (.report error pending)) session := ⟨balance, by simp⟩

theorem called (call : Call) (result : Except Panic Unit) (bufferSize : Nat) (pending : Bytes)
    (balance : Balance session.channel.pending session) :
    AtPoint (call.next bufferSize pending result) session := by
  cases call <;> cases result
  case fed.ok left _ =>
    rw [Call.next]
    split
    · exact balance.atPoint_report _ _
    · exact balance
  all_goals first | exact balance | exact balance.atPoint_report _ _

theorem calls (call : Call) (balance : Balance session.channel.pending session)
    (given : ∀ leftover, call = .closing leftover → leftover = session.channel.pending)
    (work : (session.record call.event).Handled after) : Balance after.channel.pending after := by
  have noted : Balance session.channel.pending (session.record call.event) := by
    have grown : (session.record call.event).journal = session.journal ++ [call.event] := rfl
    refine balance.extend grown rfl ?_ ?_ ?_ ⟨?_, trivial⟩
    · cases call <;> rfl
    · cases call <;> rfl
    · cases call <;> rfl
    · cases call with
      | closing leftover => exact given leftover rfl
      | opening | idle _ | fed _ | report _ _ => trivial
  have same : after.channel.pending = session.channel.pending := work.sameInward.pending
  rw [same]
  exact noted.handled work

theorem move (takes : service.TakesFromFront) {point next : Point}
    (move : Move service point session next after)
    (placed : ∀ placement, point.placement = some placement →
      (service.place placement session).1 = .done placement.bytes)
    (stands : AtPoint point session) : AtPoint next after := by
  cases move with
  | opens => exact ⟨stands, by simp⟩
  | closes =>
    rw [Session.updateChannel, Channel.release_eq]
    refine ⟨{ stands with }, ?_⟩
    rintro leftover ⟨⟩
    rfl
  | idles | overflows => exact ⟨stands, by simp⟩
  | reads _ found =>
    obtain ⟨_, _, _, rfl, rfl⟩ := Channel.probe_data found
    exact Balance.read stands (List.take_append_drop ..)
  | @joins pending fresh _ after buffer ran =>
    obtain ⟨same, grown⟩ := Service.place_after ran
    have answer := placed (.extend pending fresh) rfl
    rw [ran, Placement.bytes_extend] at answer
    obtain rfl := Outcome.done.inj answer
    have kept : Balance _ after := stands.extend_own grown (by rw [same]) (Placement.events_own _)
    exact ⟨{ kept with }, rfl⟩
  | @joinFails pending fresh _ _ _ ran =>
    have answer := placed (.extend pending fresh) rfl
    simp [ran] at answer
  | runs ran =>
    obtain ⟨_, middle, _, work, grown, channel⟩ := Service.chain_after ran
    have left := Service.chain_suffix takes ran
    refine (stands.1.handled work).run left _ grown ?_
    rcases channel with ⟨_, same⟩ | ⟨_, _, _, same⟩ <;> rw [same]
  | runHangs ran =>
    have work := Service.chain_hung ran
    obtain ⟨balance, rfl⟩ := stands
    have kept := balance.handled work
    rwa [← work.sameInward.pending] at kept
  | @keeps rest offered _ after left result ran =>
    obtain ⟨same, grown⟩ := Service.place_after ran
    have answer := placed (.compact rest offered) rfl
    rw [ran, Placement.bytes_compact] at answer
    obtain rfl := Outcome.done.inj answer
    have kept : Balance _ after := stands.extend_own grown (by rw [same]) (Placement.events_own _)
    refine ⟨{ kept with }, ?_⟩
    cases result <;> simp [Call.ofResult]
  | @keepFails rest offered _ _ _ _ ran =>
    have answer := placed (.compact rest offered) rfl
    simp [ran] at answer
  | calls call ran =>
    have kept := calls call stands.1 stands.2 (Run.attempt_handled ran)
    refine called call _ _ _ ?_
    cases call <;> exact { kept with }
  | callHangs call ran => exact calls call stands.1 stands.2 (Run.attempt_handled ran)

theorem arrive (balance : Balance waiting session) (bytes : Bytes)
    (more : session.channel.connection.ended = false) :
    Balance waiting ((session.updateChannel (·.arrive bytes)).record (.arrived bytes)) := by
  rw [Session.record, Session.updateChannel, Channel.arrive_of_open more]
  exact
    { whole := by
        have whole := balance.whole
        simp only [Journal.sent_append, Journal.consumed_append, whole, List.append_assoc]
        simp [Journal.sent, Journal.consumed]
      waits := by simp [Journal.await, balance.waits]
      turn := Journal.inTurn_append.mpr ⟨balance.turn, trivial, trivial⟩ }

theorem peerEnds (balance : Balance waiting session) : Balance waiting session.peerEnds := by
  have grown : session.peerEnds.journal = session.journal ++ [.ended] := rfl
  exact balance.extend grown rfl rfl rfl rfl ⟨trivial, trivial⟩

theorem perform (balance : Balance session.channel.pending session) (action : Action) :
    Balance (session.perform action).2.channel.pending (session.perform action).2 := by
  have work := session.perform_handled action
  have kept := balance.handled work
  rwa [← work.sameInward.pending] at kept

theorem step (takes : service.TakesFromFront) (empty : service.allocator.HandsOutEmpty)
    (session : Session σ) (step : Session.Step)
    (balance : Balance session.channel.pending session) :
    Balance (session.step service step).channel.pending (session.step service step) := by
  apply Session.step_keeps (fun session => Balance session.channel.pending session)
  · intro session bytes more balance
    have still : (session.channel.arrive bytes).pending = session.channel.pending := by
      rw [Channel.arrive_of_open more]
    exact still ▸ balance.arrive bytes more
  · intro session balance
    exact balance.peerEnds
  · intro session balance
    exact { balance with }
  · intro session action balance
    exact balance.perform action
  · intro session balance
    exact { balance with }
  · intro session _ _ balance
    exact session.work_keeps (fun session => Balance session.channel.pending session) AtPoint
      (fun balance => { balance with })
      (fun first => move takes first fun placement _ =>
        Service.place_of_handsOutEmpty empty placement _)
      (fun _ balance => { balance with }) (fun _ balance => balance) balance
  · exact balance

theorem of_lived (takes : service.TakesFromFront) (empty : service.allocator.HandsOutEmpty)
    (lived : session.Lived service) : Balance session.channel.pending session := by
  obtain ⟨id, steps, rfl⟩ := lived
  exact Session.live_keeps (fun session => Balance session.channel.pending session)
    (step takes empty) { whole := rfl, waits := rfl, turn := by trivial } steps

end Balance

/-! ### The end of the stream -/

namespace Session

variable {service : Service σ}

/-- A channel that is closed without being asked to, and not by a failing read, has read everything
the peer sent. -/
theorem exhausted_of_closed {session : Session σ} {events : Journal} {leftover : Bytes}
    (coherent : Coherent session.channel session.journal)
    (live : session.channel.closed = false) (unasked : session.channel.closeRequested = false)
    (whole : session.channel.connection.broken = false)
    (grown : (session.step service (.visit false)).journal = session.journal ++ events)
    (closed : .closed leftover ∈ events) : (session.step service (.visit false)).Exhausted := by
  rcases session.step_cases service (.visit false) with same | ⟨_, _, other, _⟩ | ⟨other, _⟩ |
      ⟨other, _⟩ | ⟨_, other, _⟩ | ⟨_, ⟨other, _⟩ | ⟨other, _⟩ | ⟨_, _, same⟩⟩
  · rw [same, List.self_eq_append_right] at grown
    simp [grown] at closed
  all_goals try simp at other
  rw [same] at grown ⊢
  obtain ⟨shrinks, ended⟩ := session.work_unread service
  obtain ⟨added, same, news⟩ :=
    session.work_turn service fun unopened => (coherent.unopened unopened).1
  obtain rfl := List.append_cancel_left (same.symm.trans grown)
  have fires : .closed leftover ∈ added.callbacks := List.mem_filter.mpr ⟨closed, rfl⟩
  rcases news with ⟨_, silent, _⟩ | ⟨turn, fired, made, _⟩
  · simp [silent] at fires
  · rw [← fired] at fires
    obtain ⟨fault, rfl⟩ := Turn.closed_closing fires
    obtain ⟨_, found⟩ := made.starts
    rcases Channel.probe_closed found with
      shut | asked | given | broken | ⟨nothing, finished⟩
    · simp [live] at shut
    · simp [unasked] at asked
    · simp [coherent.given given] at live
    · simp [whole] at broken
    · rw [nothing] at shrinks
      exact ⟨ended.trans finished, List.suffix_nil.mp shrinks⟩

end Session

/-- Inbound conservation in every life. Whatever handlers that take from the front, callbacks and
the peer do, and however often they fail, panic or hang: what the peer sent is what chain runs took,
then what is pending, then what is unread; each chain run is offered what the one before left and
behind it what was read since; the close callback is given what is pending; and a channel that was
closed because its peer ended the stream, and not because its connection failed, has read
everything. -/
theorem Service.inbound_conserved (service : Service σ) (takes : service.TakesFromFront)
    (empty : service.allocator.HandsOutEmpty) (id : Nat) (steps : List Session.Step) :
    let session := (service.session id).live service steps
    session.journal.sent =
        session.journal.consumed ++ session.channel.pending ++ session.channel.connection.unread ∧
      session.journal.awaiting = session.channel.pending ∧
      (∀ (before : Journal) offered left fault after,
        session.journal = before ++ .chained offered left fault :: after →
          offered = before.awaiting ∧ left <:+ offered) ∧
      (∀ (before : Journal) leftover after, session.journal = before ++ .closed leftover :: after →
        leftover = before.awaiting) ∧
      ∀ earlier later events leftover, steps = earlier ++ .visit false :: later →
        let before := (service.session id).live service earlier
        (before.step service (.visit false)).journal = before.journal ++ events →
          .closed leftover ∈ events → before.channel.closed = false →
          before.channel.closeRequested = false → before.channel.connection.broken = false →
          session.Exhausted := by
  have balance := Balance.of_lived takes empty ⟨id, steps, rfl⟩
  refine ⟨balance.whole, balance.waits, ?_, ?_, ?_⟩
  · intro before offered left fault after split
    have turn := balance.turn
    rw [split] at turn
    exact turn.fits
  · intro before leftover after split
    have turn := balance.turn
    rw [split] at turn
    exact turn.fits
  · rintro earlier later events leftover rfl _ grown closed live unasked whole
    have coherent := Coherent.of_lived (Session.live_lived service id earlier)
    rw [Session.live_append]
    exact Session.live_keeps Session.Exhausted Session.Exhausted.step
      (Session.exhausted_of_closed coherent live unasked whole grown closed) later

/-- A chain that takes pairs of bytes and panics at one of them. -/
def Service.pairing : Service Unit where
  handlers := [(Stage.take 2).handler, (Stage.panic (some [3, 4]) (.text "pair")).handler]
  bufferSize := 4
  fresh := ()

theorem Service.pairing_takesFromFront : pairing.TakesFromFront := by
  intro handler member
  simp only [pairing, List.mem_cons, List.not_mem_nil, or_false] at member
  rcases member with rfl | rfl <;> exact Stage.takesFromFront _ (by simp)

/-- The panic takes its pair too, and the close is given what is left. -/
theorem Service.inbound_conserved_pairing :
    pairing.TakesFromFront ∧ pairing.allocator.HandsOutEmpty ∧
      let session := (pairing.session 0).live pairing
        [.visit false, .arrive [1, 2, 3], .visit false, .arrive [4, 5], .peerEnds, .visit false,
          .visit false]
      (session.journal.sent = session.journal.consumed ++ session.channel.pending ++
        session.channel.connection.unread) ∧
      session.journal.consumed = [1, 2, 3, 4] ∧ session.channel.pending = [5] :=
  ⟨pairing_takesFromFront, Allocator.empty_handsOutEmpty,
    (pairing.inbound_conserved pairing_takesFromFront Allocator.empty_handsOutEmpty 0 _).1,
    by decide, by decide⟩

end StreamDispatch
