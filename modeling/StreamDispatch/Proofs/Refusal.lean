import StreamDispatch.Proofs.Conservation
import StreamDispatch.Proofs.Moments

/-! What a refused allocation does to the bytes in hand. A unit places bytes twice: the ones it
read behind the pending ones, and what the chain left. If the allocator panics there, the pending
bytes and the bytes that wait for the chain come apart, and the channel goes on with the pending
ones. -/
namespace StreamDispatch

variable {σ : Type}

namespace Placement

theorem place_panicked {allocator : Allocator σ} {placement : Placement} {state next : σ}
    {payload : Panic} (placed : placement.place allocator state = (.error payload, next)) :
    ∃ bytes, placement = .copied bytes := by
  cases placement with
  | inPlace bytes => simp [place] at placed
  | copied bytes => exact ⟨bytes, rfl⟩

theorem place_of_emptyOrPanics {allocator : Allocator σ} (cautious : allocator.EmptyOrPanics)
    {placement : Placement} {state next : σ} {bytes : Bytes}
    (placed : placement.place allocator state = (.ok bytes, next)) : bytes = placement.bytes := by
  cases placement with
  | inPlace content => exact (Except.ok.inj (Prod.mk.inj placed).1).symm
  | copied content =>
    have answer := cautious content.length state
    simp only [place] at placed
    rcases asked : allocator content.length state with ⟨_ | given, last⟩ <;>
      rw [asked] at placed answer
    · simp at placed
    · obtain rfl := answer given rfl
      exact (Except.ok.inj (Prod.mk.inj placed).1).symm

end Placement

namespace Service

variable {service : Service σ} {session after : Session σ} {placement : Placement}

def Refuses (service : Service σ) (placement : Placement) (session : Session σ) : Prop :=
  ∃ payload after, service.place placement session = (.panicked payload, after)

theorem place_of_emptyOrPanics (cautious : service.allocator.EmptyOrPanics) {bytes : Bytes}
    (placed : service.place placement session = (.done bytes, after)) :
    bytes = placement.bytes := by
  unfold place at placed
  simp only at placed
  split at placed
  · rename_i found
    obtain rfl := Outcome.done.inj (Prod.mk.inj placed).1
    exact Placement.place_of_emptyOrPanics cautious found
  · simp at placed

theorem place_of_accepted (cautious : service.allocator.EmptyOrPanics)
    (accepted : ¬ service.Refuses placement session) :
    (service.place placement session).1 = .done placement.bytes := by
  rcases service.place_cases session placement with ⟨bytes, last, placed⟩ | ⟨payload, last, placed⟩
  · rw [placed, place_of_emptyOrPanics cautious placed]
  · exact absurd ⟨payload, last, placed⟩ accepted

/-- A chain run leaves the pending bytes alone, whatever it does to its buffer. -/
theorem chain_pending {buffer rest : Bytes} {result : Except Error Unit}
    (ran : service.chain buffer session = (.done (result, rest), after)) :
    after.channel.pending = session.channel.pending := by
  obtain ⟨_, middle, _, work, _, ⟨_, same⟩ | ⟨_, _, _, same⟩⟩ := chain_after ran <;> rw [same] <;>
    exact work.sameInward.pending

theorem Refuses.copied (refuses : service.Refuses placement session) :
    ∃ bytes, placement = .copied bytes := by
  obtain ⟨payload, last, placed⟩ := refuses
  unfold place at placed
  simp only at placed
  split at placed
  · simp at placed
  · rename_i found
    exact Placement.place_panicked found

end Service

/-- What waits for the chain has come apart from what is pending. Either bytes that were read are
pending no more, or bytes that the chain consumed are pending again. -/
inductive Session.Apart (session : Session σ) (waiting : Bytes) : Prop where
  | skips (lost : Bytes) (some : lost ≠ []) (same : waiting = session.channel.pending ++ lost)
  | repeats (taken : Bytes) (some : taken ≠ []) (same : session.channel.pending = taken ++ waiting)
      (consumed : taken <:+ session.journal.consumed)

theorem Session.Apart.ne {session : Session σ} {waiting : Bytes} (apart : session.Apart waiting) :
    session.channel.pending ≠ waiting := by
  cases apart with
  | skips lost some same => simp [same, some]
  | repeats taken some same _ => simp [same, some]

/-- The bytes that the peer sent are still accounted for, but not by what is pending. -/
def Session.Missed (session : Session σ) : Prop :=
  ∃ waiting, Balance waiting session ∧ session.Apart waiting

namespace Balance

variable {service : Service σ} {point next : Point} {session here after : Session σ}

/-- The bytes in hand at a point of a unit, beside the pending ones. -/
def InHand : Point → Session σ → Prop
  | .read pending fresh, here => here.channel.pending = pending ∧ fresh ≠ []
  | .chained _ rest offered, here => ∃ taken, here.channel.pending = taken ++ rest ∧
    here.channel.pending.length = offered ∧ taken <:+ here.journal.consumed
  | _, _ => True

theorem inHand (takes : service.TakesFromFront) (move : Move service point session next after)
    (stands : AtPoint point session) : InHand next after := by
  cases move with
  | opens | closes | idles | overflows | joins | joinFails | runHangs | keeps | keepFails
  | callHangs => trivial
  | reads _ found =>
    obtain ⟨_, _, some, _, rfl⟩ := Channel.probe_data found
    exact ⟨rfl, some⟩
  | @runs buffer _ _ result rest ran =>
    obtain ⟨taken, whole⟩ := Service.chain_suffix takes ran
    obtain ⟨_, middle, _, _, grown, _⟩ := Service.chain_after ran
    have pending : after.channel.pending = buffer := (Service.chain_pending ran).trans stands.2
    refine ⟨taken, by rw [pending, whole], by rw [pending], ?_⟩
    have ran : Journal.consumed [.chained buffer rest (Service.fault? result)] = taken := by
      simp [Journal.consumed, ← whole]
    rw [grown, Journal.consumed_append, ran]
    exact List.suffix_append ..
  | @calls reached result _ call _ =>
    rcases call.next_cases service.bufferSize reached.channel.pending result with
      same | ⟨_, _, same⟩ <;> rw [same] <;> trivial

theorem refused (move : Move service point here next after) {placement : Placement}
    (placed : point.placement = some placement) (refuses : service.Refuses placement here)
    (stands : AtPoint point here) (hand : InHand point here) :
    (∃ error pending, next = .calling (.report error pending)) ∧ after.Missed := by
  have copied := refuses.copied
  obtain ⟨payload, last, ran⟩ := refuses
  cases move with
  | opens | closes | idles | overflows | reads | runs | runHangs | calls | callHangs =>
    simp [Point.placement] at placed
  | joins accepted | keeps accepted =>
    obtain rfl := Option.some.inj placed
    rw [ran] at accepted
    simp at accepted
  | @joinFails pending fresh _ _ _ failed =>
    obtain ⟨same, grown⟩ := Service.place_after failed
    have kept : Balance (pending ++ fresh) after :=
      stands.extend_own grown (by rw [same]) (Placement.events_own _)
    exact ⟨⟨_, _, rfl⟩, _, kept, .skips fresh hand.2 (by rw [same, hand.1])⟩
  | @keepFails rest offered _ _ _ _ failed =>
    obtain ⟨same, grown⟩ := Service.place_after failed
    have kept : Balance rest after :=
      stands.extend_own grown (by rw [same]) (Placement.events_own _)
    obtain ⟨taken, whole, length, consumed⟩ := hand
    obtain rfl := Option.some.inj placed
    have some : taken ≠ [] := by
      rintro rfl
      obtain ⟨bytes, copied⟩ := copied
      rw [whole] at length
      simp [Placement.compact, ← length] at copied
    refine ⟨⟨_, _, rfl⟩, rest, kept, .repeats taken some (by rw [same, whole]) ?_⟩
    rw [grown, Journal.consumed_append, Journal.consumed_own (Placement.events_own _),
      List.append_nil]
    exact consumed

end Balance

/-- Application code moves neither the bytes that wait for the chain nor the pending ones. -/
theorem Session.Missed.handled {session after : Session σ} (missed : session.Missed)
    (work : session.Handled after) : after.Missed := by
  obtain ⟨waiting, balance, apart⟩ := missed
  have pending := work.sameInward.pending
  obtain ⟨events, grown, own⟩ := work.grows
  refine ⟨waiting, balance.handled work, ?_⟩
  cases apart with
  | skips lost some same => exact .skips lost some (by rw [pending, same])
  | repeats taken some same consumed =>
    refine .repeats taken some (by rw [pending, same]) ?_
    rwa [grown, Journal.consumed_append, Journal.consumed_own own, List.append_nil]

theorem Session.Missed.report {session : Session σ} (missed : session.Missed) (error : Error)
    (pending : Bytes) : (session.record (Call.report error pending).event).Missed := by
  obtain ⟨waiting, balance, apart⟩ := missed
  have grown : (session.record (Call.report error pending).event).journal =
      session.journal ++ [.failed error pending] := rfl
  refine ⟨waiting, balance.extend grown rfl rfl rfl rfl ⟨trivial, trivial⟩, ?_⟩
  cases apart with
  | skips lost some same => exact .skips lost some same
  | repeats taken some same consumed =>
    refine .repeats taken some same ?_
    rw [grown, Journal.consumed_append]
    simpa [Journal.consumed] using consumed

/-- The unit has reported a refusal, or is about to. -/
def Point.isAside : Point → Bool
  | .calling (.report ..) | .over | .stuck => true
  | _ => false

/-- From a report a unit goes on to its end. -/
theorem Move.aside {service : Service σ} {point next : Point} {session after : Session σ}
    (move : Move service point session next after) (aside : point.isAside = true) :
    next.isAside = true ∧ (session.Missed → after.Missed) := by
  cases move with
  | opens | closes | idles | overflows | reads | joins | joinFails | runs | runHangs | keeps
  | keepFails => simp [Point.isAside] at aside
  | calls call ran | callHangs call ran =>
    cases call with
    | report error pending =>
      exact ⟨rfl, fun missed => (missed.report error pending).handled (Run.attempt_handled ran)⟩
    | opening | idle _ | fed _ | closing _ => simp [Point.isAside] at aside

namespace Session

variable {service : Service σ} {session here : Session σ} {closing : Bool} {point : Point}

def Refused (service : Service σ) (session : Session σ) (closing : Bool) : Prop :=
  ∃ point here placement, session.Passes service closing point here ∧
    point.placement = some placement ∧ service.Refuses placement here

/-- Up to a refusal the bytes are in balance at every point of a unit. -/
private theorem Passes.balanced (takes : service.TakesFromFront)
    (cautious : service.allocator.EmptyOrPanics)
    (balance : Balance session.channel.pending session)
    (passes : session.Passes service closing point here) :
    Balance.AtPoint point here ∧ Balance.InHand point here ∨
      session.Refused service closing ∧ point.isAside = true ∧ here.Missed := by
  have begun : Balance (session.begin closing).channel.pending (session.begin closing) := by
    cases closing <;> exact { balance with }
  refine passes.keeps (fun point here => Balance.AtPoint point here ∧ Balance.InHand point here ∨
    session.Refused service closing ∧ point.isAside = true ∧ here.Missed)
    (.inl ⟨begun, trivial⟩) ?_
  rintro point here next there passing move (⟨stands, hand⟩ | ⟨refused, aside⟩)
  · by_cases refuses : ∃ placement, point.placement = some placement ∧
        service.Refuses placement here
    · obtain ⟨placement, placed, refuses⟩ := refuses
      obtain ⟨⟨_, _, rfl⟩, missed⟩ := Balance.refused move placed refuses stands hand
      exact .inr ⟨⟨point, here, placement, passing, placed, refuses⟩, rfl, missed⟩
    · have accepted : ∀ placement, point.placement = some placement →
          (service.place placement here).1 = .done placement.bytes :=
        fun placement placed => Service.place_of_accepted cautious
          fun refusal => refuses ⟨placement, placed, refusal⟩
      exact .inl ⟨Balance.move takes move accepted stands, Balance.inHand takes move stands⟩
  · obtain ⟨later, kept⟩ := move.aside aside.1
    exact .inr ⟨refused, later, kept aside.2⟩

/-- From a refusal on to the end of its visit the bytes are missed. -/
theorem Refused.missed (takes : service.TakesFromFront)
    (cautious : service.allocator.EmptyOrPanics)
    (balance : Balance session.channel.pending session)
    (refused : session.Refused service closing) :
    (session.step service (.visit closing)).Missed := by
  obtain ⟨point, here, placement, passes, placed, refuses⟩ := refused
  obtain ⟨stands, hand⟩ : Balance.AtPoint point here ∧ Balance.InHand point here := by
    rcases passes.balanced takes cautious balance with balanced | ⟨_, aside, _⟩
    · exact balanced
    · cases point <;> simp [Point.placement, Point.isAside] at placed aside
  obtain ⟨last, final, course, isLast, same⟩ := passes.ends
  rw [same]
  cases course with
  | rest => cases point <;> simp [Point.placement, Point.isLast] at placed isLast
  | move first later =>
    obtain ⟨⟨_, _, rfl⟩, missed⟩ := Balance.refused first placed refuses stands hand
    obtain ⟨_, waiting, kept, apart⟩ := later.keeps
      (fun point here => point.isAside = true ∧ here.Missed)
      (fun move stands => (move.aside stands.1).imp_right fun kept => kept stands.2) ⟨rfl, missed⟩
    rcases Point.eq_of_isLast isLast with rfl | rfl
    · refine ⟨waiting, { kept with }, ?_⟩
      cases apart with
      | skips lost some same => exact .skips lost some same
      | repeats taken some same consumed => exact .repeats taken some same consumed
    · exact ⟨waiting, kept, apart⟩

theorem visit_balance (takes : service.TakesFromFront)
    (cautious : service.allocator.EmptyOrPanics)
    (balance : Balance session.channel.pending session)
    (accepted : ¬ session.Refused service closing) :
    Balance (session.step service (.visit closing)).channel.pending
      (session.step service (.visit closing)) := by
  have stands {point : Point} {here : Session σ}
      (passes : session.Passes service closing point here) : Balance.AtPoint point here := by
    rcases passes.balanced takes cautious balance with ⟨stands, _⟩ | ⟨refused, _⟩
    · exact stands
    · exact absurd refused accepted
  exact visit_ends (fun last => Balance last.channel.pending last)
    (fun final passes => { stands passes with }) (fun final passes => stands passes) balance
    { balance with }

def RefusedIn (service : Service σ) (session : Session σ) (steps : List Step) : Prop :=
  ∃ earlier closing later, steps = earlier ++ .visit closing :: later ∧
    (session.live service earlier).Refused service closing

theorem step_balance (takes : service.TakesFromFront)
    (cautious : service.allocator.EmptyOrPanics) (session : Session σ) (step : Step)
    (accepted : ∀ closing, step = .visit closing → ¬ session.Refused service closing)
    (balance : Balance session.channel.pending session) :
    Balance (session.step service step).channel.pending (session.step service step) := by
  cases step with
  | arrive bytes =>
    simp only [Session.step, arrive]
    split
    · exact balance
    · rename_i more
      have open' : session.channel.connection.ended = false := by simpa using more
      have still : (session.channel.arrive bytes).pending = session.channel.pending := by
        rw [Channel.arrive_of_open open']
      exact still ▸ balance.arrive bytes open'
  | peerEnds => exact balance.peerEnds
  | breaks => exact { balance with }
  | act action => exact balance.perform action
  | visit closing => exact visit_balance takes cautious balance (accepted closing rfl)

end Session

/-! ### Exactly once -/

namespace Journal

variable {journal events : Journal}

def runs (journal : Journal) : List Bytes :=
  journal.flatMap fun event => match event with
    | .chained offered _ _ => [offered]
    | _ => []

@[simp] theorem runs_append (journal events : Journal) :
    runs (journal ++ events) = journal.runs ++ runs events := by
  simp [runs]

theorem runs_own (own : ∀ event ∈ events, event.isOwn = true) : events.runs = [] :=
  flatMap_own _ (fun event mine => by cases event <;> first | rfl | simp [Event.isOwn] at mine) own

theorem consumed_of_runs (none : events.runs = []) : events.consumed = [] := by
  refine List.flatMap_eq_nil_iff.mpr fun event member => ?_
  have silent := List.flatMap_eq_nil_iff.mp none event member
  cases event <;> first | rfl | simp at silent

/-- A chain run was offered something else than what the run before it left and, behind that, what
was read since. -/
def Astray (journal : Journal) : Prop :=
  ∃ before offered left fault after, journal = before ++ .chained offered left fault :: after ∧
    offered ≠ awaiting before

theorem Astray.extend (astray : journal.Astray) (events : Journal) :
    (journal ++ events).Astray := by
  obtain ⟨before, offered, left, fault, after, rfl, other⟩ := astray
  exact ⟨before, offered, left, fault, after ++ events, by simp, other⟩

theorem Astray.of_append (astray : (journal ++ events).Astray) (none : events.runs = []) :
    journal.Astray := by
  obtain ⟨before, offered, left, fault, after, split, other⟩ := astray
  rcases List.append_eq_append_iff.mp split with ⟨more, rfl, same⟩ | ⟨more, rfl, same⟩
  · rw [same] at none
    simp [runs] at none
  · rcases List.append_eq_cons_iff.mp same.symm with ⟨rfl, rfl⟩ | ⟨rest, rfl, _⟩
    · simp [runs] at none
    · exact ⟨before, offered, left, fault, rest, rfl, other⟩

/-- The chain was offered every byte until it consumed it, in the order of the stream, and none
after that. -/
structure ExactlyOnce (journal : Journal) : Prop where
  ordered : journal.consumed <+: journal.sent
  straight : ¬ journal.Astray

theorem ExactlyOnce.extend (once : journal.ExactlyOnce) (none : events.runs = []) :
    (journal ++ events).ExactlyOnce where
  ordered := by
    rw [consumed_append, consumed_of_runs none, List.append_nil, sent_append]
    exact once.ordered.trans (List.prefix_append ..)
  straight := fun astray => once.straight (astray.of_append none)

end Journal

theorem Balance.exactlyOnce {waiting : Bytes} {session : Session σ}
    (balance : Balance waiting session) : session.journal.ExactlyOnce where
  ordered := by
    rw [balance.whole, List.append_assoc]
    exact List.prefix_append ..
  straight := by
    rintro ⟨before, offered, left, fault, after, split, other⟩
    have turn := balance.turn
    rw [split] at turn
    exact other turn.fits.1

/-! ### What follows a refusal -/

namespace Strays

variable {service : Service σ} {point next : Point} {session after : Session σ} {runs : List Bytes}
  {events : Journal}

/-- The chain has not run again, and the buffer is something else than what waits for it. -/
structure Ahead (runs : List Bytes) (buffer : Bytes) (session : Session σ) : Prop where
  still : session.journal.runs = runs
  other : buffer ≠ session.journal.awaiting

theorem Ahead.extend {buffer : Bytes} (ahead : Ahead runs buffer session)
    (grown : after.journal = session.journal ++ events) (none : events.runs = [])
    (waits : ∀ waiting, events.foldl Journal.await waiting = waiting) :
    Ahead runs buffer after where
  still := by rw [grown, Journal.runs_append, none, List.append_nil, ahead.still]
  other := by rw [grown, Journal.awaiting_append, waits]; exact ahead.other

theorem Ahead.extend_own {buffer : Bytes} (ahead : Ahead runs buffer session)
    (grown : after.journal = session.journal ++ events)
    (own : ∀ event ∈ events, event.isOwn = true) : Ahead runs buffer after :=
  ahead.extend grown (Journal.runs_own own) fun _ => Journal.foldl_await_own own

theorem Ahead.handled {buffer : Bytes} (ahead : Ahead runs buffer session)
    (work : session.Handled after) : Ahead runs buffer after := by
  obtain ⟨events, grown, own⟩ := work.grows
  exact ahead.extend_own grown own

def AtPoint (runs : List Bytes) : Point → Session σ → Prop
  | .read pending fresh, here => Ahead runs (pending ++ fresh) here
  | .offered buffer, here => Ahead runs buffer here ∧ here.channel.pending = buffer
  | .chained .., _ => False
  | .begun, here | .calling _, here | .over, here | .stuck, here =>
    Ahead runs here.channel.pending here

theorem calls (call : Call) (ahead : Ahead runs session.channel.pending session)
    (work : (session.record call.event).Handled after) :
    Ahead runs after.channel.pending after := by
  have pending : after.channel.pending = session.channel.pending := work.sameInward.pending
  have grown : (session.record call.event).journal = session.journal ++ [call.event] := rfl
  have noted : Ahead runs session.channel.pending (session.record call.event) :=
    ahead.extend grown (by cases call <;> rfl) fun _ => by cases call <;> rfl
  rw [pending]
  exact noted.handled work

theorem move (move : Move service point session next after)
    (placed : ∀ placement, point.placement = some placement →
      (service.place placement session).1 = .done placement.bytes)
    (stands : session.journal.Astray ∨ AtPoint runs point session) :
    after.journal.Astray ∨ AtPoint runs next after := by
  rcases stands with astray | stands
  · obtain ⟨events, grown⟩ := move.onward.journal
    rw [← grown]
    exact .inl (astray.extend events)
  cases move with
  | opens | idles | overflows => exact .inr stands
  | closes =>
    rw [Session.updateChannel, Channel.release_eq]
    exact .inr { stands with }
  | reads _ found =>
    obtain ⟨_, _, _, _, rfl⟩ := Channel.probe_data found
    refine .inr ⟨?_, ?_⟩
    · rw [Session.record, Journal.runs_append]
      exact (List.append_nil _).trans stands.still
    · rw [Session.record, Journal.awaiting_append]
      exact fun same => stands.other (List.append_cancel_right same)
  | @joins pending fresh _ last buffer ran =>
    obtain ⟨same, grown⟩ := Service.place_after ran
    have answer := placed (.extend pending fresh) rfl
    rw [ran, Placement.bytes_extend] at answer
    obtain rfl := Outcome.done.inj answer
    have kept : Ahead runs (pending ++ fresh) last :=
      stands.extend_own grown (Placement.events_own _)
    exact .inr ⟨{ kept with }, rfl⟩
  | @joinFails pending fresh _ _ _ ran =>
    have answer := placed (.extend pending fresh) rfl
    simp [ran] at answer
  | @runs buffer _ _ result rest ran =>
    obtain ⟨_, middle, _, work, grown, _⟩ := Service.chain_after ran
    exact .inl ⟨middle.journal, buffer, rest, Service.fault? result, [], grown,
      (stands.1.handled work).other⟩
  | runHangs ran =>
    have work := Service.chain_hung ran
    obtain ⟨ahead, rfl⟩ := stands
    have kept := ahead.handled work
    rw [← work.sameInward.pending] at kept
    exact .inr kept
  | keeps | keepFails => exact absurd stands id
  | @calls reached result _ call ran =>
    have kept := calls call stands (Run.attempt_handled ran)
    refine .inr ?_
    rcases call.next_cases service.bufferSize reached.channel.pending result with
      same | ⟨_, _, same⟩ <;> rw [same] <;> cases call <;> exact { kept with }
  | callHangs call ran => exact .inr (calls call stands (Run.attempt_handled ran))

/-- The chain has gone astray, or will as soon as it runs again. -/
def Holds (runs : List Bytes) (session : Session σ) : Prop :=
  session.journal.Astray ∨ Ahead runs session.channel.pending session

theorem visit (cautious : service.allocator.EmptyOrPanics) (session : Session σ) {closing : Bool}
    (accepted : ¬ session.Refused service closing)
    (ahead : Ahead runs session.channel.pending session) :
    Holds runs (session.step service (.visit closing)) := by
  have begun : Ahead runs (session.begin closing).channel.pending (session.begin closing) := by
    cases closing <;> exact { ahead with }
  exact Session.visit_keeps (fun point here => here.journal.Astray ∨ AtPoint runs point here)
    (Holds runs) (fun _ => .inr begun)
    (fun passes first => move first fun placement placed =>
      Service.place_of_accepted cautious fun refuses =>
        accepted ⟨_, _, placement, passes, placed, refuses⟩)
    (fun final stands => stands.imp_right fun ahead => { ahead with })
    (fun final _ stands => stands) (.inr ahead) (.inr { ahead with })

theorem step (cautious : service.allocator.EmptyOrPanics) (session : Session σ)
    (step : Session.Step)
    (accepted : ∀ closing, step = .visit closing → ¬ session.Refused service closing)
    (holds : Holds runs session) : Holds runs (session.step service step) := by
  rcases holds with astray | ahead
  · obtain ⟨events, grown⟩ := (session.step_onward service step).journal
    rw [Holds, ← grown]
    exact .inl (astray.extend events)
  cases step with
  | arrive bytes =>
    simp only [Session.step, Session.arrive]
    split
    · exact .inr ahead
    · rename_i more
      rw [Session.record, Session.updateChannel, Channel.arrive_of_open (by simpa using more)]
      exact .inr (ahead.extend rfl rfl fun _ => rfl)
  | peerEnds => exact .inr (ahead.extend rfl rfl fun _ => rfl)
  | breaks => exact .inr { ahead with }
  | act action =>
    have work := session.perform_handled action
    have kept := ahead.handled work
    rw [← work.sameInward.pending] at kept
    exact .inr kept
  | visit closing => exact visit cautious session (accepted closing rfl) ahead

end Strays

/-! ### Exactly once up to a refusal -/

/-- Exactly-once input in every life, with handlers that take from the front and an allocator that
may panic. Up to the first refusal the chain is given every byte once and in order, and so it stays
as long as the chain does not run again. With the first chain run after a refusal it goes astray:
bytes that were read are missing, or bytes that were consumed are offered once more. -/
theorem Service.exactly_once_until_refused (service : Service σ) (takes : service.TakesFromFront)
    (cautious : service.allocator.EmptyOrPanics) (id : Nat) (earlier : List Session.Step)
    (accepted : ¬ (service.session id).RefusedIn service earlier) (closing : Bool)
    (later : List Session.Step) :
    let before := (service.session id).live service earlier
    let after := before.step service (.visit closing)
    let final := after.live service later
    before.journal.ExactlyOnce ∧ after.journal.ExactlyOnce ∧
      (final.journal.runs = after.journal.runs → final.journal.ExactlyOnce) ∧
      (before.Refused service closing → ∃ waiting,
        after.journal.sent = after.journal.consumed ++ waiting ++ after.channel.connection.unread ∧
          after.Apart waiting) ∧
      (¬ after.RefusedIn service later → (final.journal.ExactlyOnce ↔
        (before.Refused service closing → final.journal.runs = after.journal.runs))) := by
  intro before after final
  have balance : Balance before.channel.pending before :=
    Session.live_keeps_spared (fun session => session.Refused service)
      (fun session => Balance session.channel.pending session)
      (Session.step_balance takes cautious) accepted { whole := rfl, waits := rfl, turn := trivial }
  have once : after.journal.ExactlyOnce := by
    by_cases refused : before.Refused service closing
    · obtain ⟨waiting, kept, _⟩ := refused.missed takes cautious balance
      exact kept.exactlyOnce
    · exact (Session.visit_balance takes cautious balance refused).exactlyOnce
  have quiet (same : final.journal.runs = after.journal.runs) : final.journal.ExactlyOnce := by
    obtain ⟨events, grown⟩ := (after.live_onward service later).journal
    rw [← grown, Journal.runs_append, List.append_right_eq_self] at same
    rw [← grown]
    exact once.extend same
  refine ⟨balance.exactlyOnce, once, quiet, fun refused => ?_,
    fun calm => ⟨fun straight refused => ?_, fun still => ?_⟩⟩
  · obtain ⟨waiting, kept, apart⟩ := refused.missed takes cautious balance
    exact ⟨waiting, kept.whole, apart⟩
  · obtain ⟨waiting, kept, apart⟩ := refused.missed takes cautious balance
    have ahead : Strays.Ahead after.journal.runs after.channel.pending after :=
      ⟨rfl, by rw [kept.waits]; exact apart.ne⟩
    have holds := Session.live_keeps_spared (fun session => session.Refused service)
      (Strays.Holds after.journal.runs) (Strays.step cautious) calm (.inr ahead)
    rcases holds with astray | ahead
    · exact absurd astray straight.straight
    · exact ahead.still
  · by_cases refused : before.Refused service closing
    · exact quiet (still refused)
    · have kept := Session.visit_balance takes cautious balance refused
      have last := Session.live_keeps_spared (fun session => session.Refused service)
        (fun session => Balance session.channel.pending session)
        (Session.step_balance takes cautious) calm kept
      exact last.exactlyOnce

/-! ### Refusals on the way -/

/-- Hands out empty buffers, but panics when asked for some capacities. -/
def Allocator.refusing (refuses : Nat → Bool) : Allocator σ := fun capacity state =>
  if refuses capacity then (.error (.text "no room"), state) else (.ok [], state)

theorem Allocator.refusing_emptyOrPanics (refuses : Nat → Bool) :
    (Allocator.refusing refuses : Allocator σ).EmptyOrPanics := by
  intro capacity state content answer
  unfold refusing at answer
  split at answer
  · simp at answer
  · exact (Except.ok.inj answer).symm

/-- Stages in a buffer of eight bytes, with an allocator that refuses some capacities. -/
def Service.staged (stages : List Stage) (refuses : Nat → Bool) : Service Unit where
  handlers := stages.map Stage.handler
  allocator := .refusing refuses
  bufferSize := 8
  fresh := ()

theorem Service.staged_takesFromFront {stages : List Stage} (refuses : Nat → Bool)
    (keeps : ∀ stage ∈ stages, ∀ content, stage ≠ .replace content) :
    (staged stages refuses).TakesFromFront := by
  intro handler member
  obtain ⟨stage, mine, rfl⟩ := List.mem_map.mp member
  exact stage.takesFromFront (keeps stage mine)

/-- The unit that opens a channel places nothing. -/
theorem Session.Refused.opened {service : Service σ} {session : Session σ} {closing : Bool}
    (refused : session.Refused service closing) : session.channel.opened = true := by
  obtain ⟨point, here, placement, passes, placed, _⟩ := refused
  rw [← session.begin_opened closing]
  by_contra unopened
  have stands := passes.keeps
    (fun point here => point = .begun ∨ point = .calling .opening ∨ point.isAside = true)
    (.inl rfl) fun passing move stands => by
      rcases stands with rfl | rfl | aside
      · rcases passing.previous with ⟨_, rfl⟩ | ⟨_, _, _, back⟩
        · cases move with
          | opens => exact .inr (.inl rfl)
          | closes opened _ | idles opened _ | overflows opened _ | reads opened _ =>
            exact absurd opened unopened
        · exact absurd rfl back.not_begun
      · cases move with
        | @calls reached result =>
          rcases Call.opening.next_cases service.bufferSize reached.channel.pending result with
            same | ⟨_, _, same⟩ <;> rw [same] <;> exact .inr (.inr rfl)
        | callHangs => exact .inr (.inr rfl)
      · exact .inr (.inr (move.aside aside).1)
  rcases stands with rfl | rfl | aside
  · simp [Point.placement] at placed
  · simp [Point.placement] at placed
  · cases point <;> simp [Point.placement, Point.isAside] at placed aside

/-- The chain takes the byte 1, and the allocator refuses to keep the other two. -/
theorem Service.exactly_once_until_refused_single :
    let service := staged [.take 1] (· == 2)
    let earlier : List Session.Step := [.visit false, .arrive [1, 2, 3]]
    service.TakesFromFront ∧ service.allocator.EmptyOrPanics ∧
      ¬ (service.session 0).RefusedIn service earlier ∧
      (((service.session 0).live service earlier).step service
        (.visit false)).journal.ExactlyOnce := by
  intro service earlier
  have takes : service.TakesFromFront := staged_takesFromFront _ (by simp)
  have cautious : service.allocator.EmptyOrPanics := Allocator.refusing_emptyOrPanics _
  have accepted : ¬ (service.session 0).RefusedIn service earlier := by
    rintro ⟨first, closing, rest, same, refused⟩
    rcases first with _ | ⟨head, _ | ⟨next, tail⟩⟩
    · exact absurd refused.opened (by decide)
    · simp [earlier] at same
    · simp [earlier] at same
  exact ⟨takes, cautious, accepted,
    (service.exactly_once_until_refused takes cautious 0 earlier accepted false []).2.1⟩

/-- Two lives in which the allocator panics once. The first loses the bytes 2 and 10, which were
read and were to go behind the pending byte, so that a line is put together from what is left; the
second consumes the byte 1 twice, since what the chain left of the buffer could not be kept.
Neither channel is closed or asked to close. -/
theorem Service.refusal_skips_and_repeats :
    let skipping := staged [.lines, .collect] (2 < ·)
    let repeating := staged [.take 1] (· == 2)
    let skipped := (skipping.session 0).live skipping [.visit false, .arrive [1], .visit false,
      .arrive [2, 10], .visit false, .arrive [10], .visit false]
    let repeated := (repeating.session 0).live repeating [.visit false, .arrive [1, 2, 3],
      .visit false, .arrive [4], .visit false]
    (skipping.TakesFromFront ∧ skipping.allocator.EmptyOrPanics ∧
      skipped.journal.sent = [1, 2, 10, 10] ∧ skipped.journal.consumed = [1, 10] ∧
      skipped.channel.closed = false ∧ skipped.channel.closeRequested = false ∧
      ¬ skipped.journal.ExactlyOnce) ∧
    repeating.TakesFromFront ∧ repeating.allocator.EmptyOrPanics ∧
      repeated.journal.sent = [1, 2, 3, 4] ∧ repeated.journal.consumed = [1, 1] ∧
      repeated.channel.closed = false ∧ repeated.channel.closeRequested = false ∧
      ¬ repeated.journal.ExactlyOnce := by
  refine ⟨⟨staged_takesFromFront _ (by simp), Allocator.refusing_emptyOrPanics _, by decide,
    by decide, by decide, by decide, fun once => ?_⟩, staged_takesFromFront _ (by simp),
    Allocator.refusing_emptyOrPanics _, by decide, by decide, by decide, by decide, fun once => ?_⟩
  · exact absurd once.ordered (by decide)
  · exact absurd once.ordered (by decide)

end StreamDispatch
