import StreamDispatch.Proofs.Refusal

/-! How much a channel holds. As long as its handlers never make their buffer longer, what is
pending stays within the buffer size at every moment, and the allocator is asked only for buffers
that the bytes in hand need: for so many bytes, and never for more than the buffer size. -/
namespace StreamDispatch

variable {σ : Type}

/-! ### Handlers that never lengthen their buffer -/

/-- However the handler ends, its buffer is then no longer than it was. -/
def Handler.NeverLengthens (handler : Handler σ) : Prop :=
  ∀ session, (handler.onBuffer.run session).2.state.2.length ≤ session.state.2.length

def Service.NeverLengthens (service : Service σ) : Prop :=
  ∀ handler ∈ service.handlers, handler.NeverLengthens

theorem Handler.TakesFromFront.neverLengthens {handler : Handler σ}
    (takes : handler.TakesFromFront) : handler.NeverLengthens := by
  intro session
  exact ((takes session.state.2).run session).length_le

theorem Handler.runBuffer_length {handlers : List (Handler σ)}
    (shrink : ∀ handler ∈ handlers, handler.NeverLengthens) (session : Session (σ × Bytes)) :
    (runBuffer handlers session).2.state.2.length ≤ session.state.2.length := by
  induction handlers generalizing session with
  | nil => exact Nat.le_refl _
  | cons handler rest ih =>
    have first := shrink handler (List.mem_cons_self ..) session
    have later := ih fun other member => shrink other (List.mem_cons_of_mem _ member)
    rw [runBuffer, Run.bind_apply]
    split
    · rename_i result after ran
      rw [ran] at first
      rcases result with _ | _ | _ | _
      · exact first
      · exact first
      · exact Nat.le_trans (later after) first
      · exact first
    · rename_i after ran
      rw [ran] at first
      exact first
    · rename_i after ran
      rw [ran] at first
      exact first

theorem Service.chain_length {service : Service σ} (shrinks : service.NeverLengthens)
    {buffer rest : Bytes} {result : Except Error Unit} {session after : Session σ}
    (ran : service.chain buffer session = (.done (result, rest), after)) :
    rest.length ≤ buffer.length := by
  obtain ⟨ended, middle, lent, _⟩ := Service.chain_after ran
  rw [Run.lend_left lent]
  exact Handler.runBuffer_length shrinks _

/-! ### What the allocator is asked for -/

namespace Journal

def requests (journal : Journal) : List Nat :=
  journal.flatMap fun event => match event with
    | .asked capacity => [capacity]
    | _ => []

@[simp] theorem requests_append (journal events : Journal) :
    requests (journal ++ events) = journal.requests ++ requests events := by
  simp [requests]

end Journal

theorem Handled.requests {origin channel : Channel} {start journal : Journal}
    (work : Handled origin start channel journal) : journal.requests = start.requests := by
  induction work with
  | nothing => rfl
  | noted _ _ ih => rw [Journal.requests_append, ih]; exact List.append_nil _
  | acted action _ _ ih =>
    rw [Journal.requests_append, ih]
    cases action <;> exact List.append_nil _

@[simp] theorem Placement.requests_events (placement : Placement) :
    placement.events.requests = placement.request?.toList := by
  cases placement <;> rfl

/-- The capacity that the allocator is asked for on the way from a point of a unit to the next. -/
def Point.request? (point : Point) : Option Nat := point.placement.bind Placement.request?

/-- A unit asks for what it places, and for nothing else. -/
theorem Move.requests {service : Service σ} {point next : Point} {session after : Session σ}
    (move : Move service point session next after) :
    after.journal.requests = session.journal.requests ++ point.request?.toList := by
  have silent : session.journal.requests = session.journal.requests ++ [] :=
    (List.append_nil _).symm
  cases move with
  | opens | closes | idles | overflows => exact silent
  | reads => exact Journal.requests_append ..
  | joins placed | joinFails placed | keeps placed | keepFails placed =>
    have grown := (Service.place_after placed).2
    simp only [Session.updateChannel, grown, Journal.requests_append, Placement.requests_events]
    rfl
  | runs ran =>
    obtain ⟨_, _, _, work, grown, _⟩ := Service.chain_after ran
    rw [grown, Journal.requests_append, work.requests]
    rfl
  | runHangs ran => exact (Service.chain_hung ran).requests.trans silent
  | calls call ran | callHangs call ran =>
    have work : _ = (session.journal ++ [call.event]).requests :=
      (Run.attempt_handled ran).requests
    refine work.trans ?_
    rw [Journal.requests_append]
    cases call <;> rfl

namespace Placement

/-- New bytes are copied only behind pending ones. -/
theorem extend_copied {pending fresh bytes : Bytes}
    (copied : extend pending fresh = .copied bytes) :
    pending ≠ [] ∧ bytes = pending ++ fresh := by
  have whole : (extend pending fresh).bytes = bytes := by rw [copied]; rfl
  rw [bytes_extend] at whole
  refine ⟨?_, whole.symm⟩
  rintro rfl
  simp [extend] at copied

/-- What a chain left is copied only if it took something and left something. -/
theorem compact_copied {rest bytes : Bytes} {offered : Nat}
    (copied : compact rest offered = .copied bytes) :
    rest.length ≠ offered ∧ rest ≠ [] ∧ bytes = rest := by
  have whole : (compact rest offered).bytes = bytes := by rw [copied]; rfl
  rw [bytes_compact] at whole
  refine ⟨?_, ?_, whole.symm⟩
  · intro same
    simp [compact, same] at copied
  · rintro rfl
    unfold compact at copied
    split at copied <;> simp at copied

theorem request?_eq_some {placement : Placement} {capacity : Nat} :
    placement.request? = some capacity ↔
      ∃ bytes, placement = .copied bytes ∧ bytes.length = capacity := by
  cases placement <;> simp [request?]

end Placement

theorem Point.request_pos {point : Point} {placement : Placement} {capacity : Nat}
    (placed : point.placement = some placement) (asked : placement.request? = some capacity) :
    0 < capacity := by
  obtain ⟨bytes, rfl, rfl⟩ := Placement.request?_eq_some.mp asked
  cases point with
  | read pending fresh =>
    obtain ⟨some, rfl⟩ := Placement.extend_copied (Option.some.inj placed)
    exact List.length_pos_iff.mpr (List.append_ne_nil_of_left_ne_nil some fresh)
  | chained result rest offered =>
    obtain ⟨_, some, rfl⟩ := Placement.compact_copied (Option.some.inj placed)
    exact List.length_pos_iff.mpr some
  | _ => simp [placement] at placed

/-- Nothing is asked for if nothing was pending before a read, or if the chain took nothing or
everything. -/
theorem Point.request?_none {point : Point}
    (spared : (∃ fresh, point = .read [] fresh) ∨
      ∃ result rest offered, point = .chained result rest offered ∧
        (rest = [] ∨ rest.length = offered)) : point.request? = none := by
  apply Option.eq_none_iff_forall_ne_some.mpr
  intro capacity asked
  rcases spared with ⟨fresh, rfl⟩ | ⟨result, rest, offered, rfl, kept⟩
  · have alone : (Placement.extend [] fresh).request? = some capacity := asked
    obtain ⟨bytes, copied, _⟩ := Placement.request?_eq_some.mp alone
    exact (Placement.extend_copied copied).1 rfl
  · have left : (Placement.compact rest offered).request? = some capacity := asked
    obtain ⟨bytes, copied, _⟩ := Placement.request?_eq_some.mp left
    obtain ⟨took, some, _⟩ := Placement.compact_copied copied
    exact kept.elim some took

/-! ### The bound at every point of a unit -/

/-- The bytes in hand at a point of a unit, beside the pending ones, are within a bound. -/
def Point.Fits (bound : Nat) : Point → Session σ → Prop
  | .read held fresh, here =>
    held = here.channel.pending ∧ fresh ≠ [] ∧ held.length + fresh.length ≤ bound
  | .offered buffer, here => buffer = here.channel.pending ∧ buffer ≠ []
  | .chained _ rest whole, here => whole = here.channel.pending.length ∧ rest.length ≤ whole
  | _, _ => True

/-- What is pending and whatever was asked for are within a bound. -/
structure Bounded (bound : Nat) (session : Session σ) : Prop where
  pending : session.channel.pending.length ≤ bound
  requests : ∀ capacity ∈ session.journal.requests, 0 < capacity ∧ capacity ≤ bound

structure Within (bound : Nat) (point : Point) (here : Session σ) : Prop extends
    Bounded bound here where
  fits : point.Fits bound here

namespace Within

variable {service : Service σ} {point next : Point} {session here there : Session σ} {bound : Nat}

theorem placed (within : Within bound point here) {placement : Placement}
    (placed : point.placement = some placement) : placement.bytes.length ≤ bound := by
  have hand := within.fits
  cases point with
  | read pending fresh =>
    obtain rfl := Option.some.inj placed
    rw [Placement.bytes_extend, List.length_append]
    exact hand.2.2
  | chained result rest offered =>
    obtain rfl := Option.some.inj placed
    obtain ⟨rfl, short⟩ := hand
    rw [Placement.bytes_compact]
    exact Nat.le_trans short within.pending
  | _ => simp [Point.placement] at placed

theorem asked (within : Within bound point here) {placement : Placement} {capacity : Nat}
    (placed : point.placement = some placement) (asked : placement.request? = some capacity) :
    0 < capacity ∧ capacity ≤ bound := by
  have short := within.placed placed
  have some := Point.request_pos placed asked
  obtain ⟨bytes, rfl, rfl⟩ := Placement.request?_eq_some.mp asked
  exact ⟨some, short⟩

theorem requests_move (within : Within bound point here)
    (move : Move service point here next there) :
    ∀ capacity ∈ there.journal.requests, 0 < capacity ∧ capacity ≤ bound := by
  intro capacity member
  rw [move.requests] at member
  rcases List.mem_append.mp member with earlier | now
  · exact within.requests capacity earlier
  · obtain ⟨placement, placed, asked⟩ :=
      Option.bind_eq_some_iff.mp (Option.mem_toList.mp now)
    exact within.asked placed asked

theorem move (shrinks : service.NeverLengthens) (cautious : service.allocator.EmptyOrPanics)
    (move : Move service point here next there)
    (within : Within service.bufferSize point here) : Within service.bufferSize next there := by
  have requests := within.requests_move move
  have held := within.pending
  have fits := within.fits
  cases move with
  | opens | idles | overflows => exact ⟨⟨held, requests⟩, trivial⟩
  | closes =>
    refine ⟨⟨?_, requests⟩, trivial⟩
    rw [Session.updateChannel, Channel.release_eq]
    exact held
  | reads _ found =>
    obtain ⟨_, _, some, taken, rfl⟩ := Channel.probe_data found
    have room : _ ≤ service.room here.channel := taken ▸ List.length_take_le ..
    refine ⟨⟨held, requests⟩, rfl, some, ?_⟩
    rw [Service.room] at room
    omega
  | @joins pending fresh _ _ buffer placed =>
    have short := within.placed rfl
    obtain rfl := Service.place_of_emptyOrPanics cautious placed
    refine ⟨⟨short, requests⟩, rfl, ?_⟩
    rw [Placement.bytes_extend]
    exact List.append_ne_nil_of_right_ne_nil pending fits.2.1
  | joinFails placed | keepFails placed =>
    refine ⟨⟨?_, requests⟩, trivial⟩
    rw [(Service.place_after placed).1]
    exact held
  | runs ran =>
    have still := Service.chain_pending ran
    obtain ⟨rfl, _⟩ := fits
    exact ⟨⟨still ▸ held, requests⟩, still ▸ rfl, Service.chain_length shrinks ran⟩
  | runHangs ran =>
    exact ⟨⟨(Service.chain_hung ran).sameInward.pending ▸ held, requests⟩, trivial⟩
  | keeps placed =>
    have short := within.placed rfl
    obtain rfl := Service.place_of_emptyOrPanics cautious placed
    exact ⟨⟨short, requests⟩, trivial⟩
  | @calls reached result _ call ran =>
    have still : reached.channel.pending = here.channel.pending :=
      (Run.attempt_handled ran).sameInward.pending
    refine ⟨⟨?_, requests⟩, ?_⟩
    · cases call <;> exact still ▸ held
    · rcases call.next_cases service.bufferSize reached.channel.pending result with
        same | ⟨_, _, same⟩ <;> rw [same] <;> trivial
  | callHangs call ran =>
    exact ⟨⟨(Run.attempt_handled ran).sameInward.pending ▸ held, requests⟩, trivial⟩

end Within

namespace Bounded

variable {service : Service σ} {point : Point} {session here : Session σ} {bound : Nat}

theorem fresh (service : Service σ) (id : Nat) : Bounded bound (service.session id) :=
  ⟨Nat.zero_le _, by simp [Service.session, Journal.requests]⟩

theorem begun (bounded : Bounded bound session) (closing : Bool) :
    Bounded bound (session.begin closing) := by
  constructor
  · rw [Session.begin_pending]
    exact bounded.pending
  · rw [Session.begin_journal]
    exact bounded.requests

/-- Application code changes neither what is pending nor what was asked for. -/
theorem handled (bounded : Bounded bound session) {after : Session σ}
    (work : session.Handled after) : Bounded bound after := by
  constructor
  · rw [work.sameInward.pending]
    exact bounded.pending
  · rw [Handled.requests work]
    exact bounded.requests

theorem step (shrinks : service.NeverLengthens) (cautious : service.allocator.EmptyOrPanics)
    (session : Session σ) (step : Session.Step) (bounded : Bounded service.bufferSize session) :
    Bounded service.bufferSize (session.step service step) := by
  apply Session.step_keeps (Bounded service.bufferSize)
  · intro session bytes more bounded
    rw [Session.record, Session.updateChannel, Channel.arrive_of_open more]
    refine ⟨bounded.pending, ?_⟩
    rw [Journal.requests_append]
    simpa [Journal.requests] using bounded.requests
  · intro session bounded
    refine ⟨bounded.pending, ?_⟩
    simpa [Session.peerEnds, Session.record, Session.updateChannel, Journal.requests]
      using bounded.requests
  · intro session bounded
    exact ⟨bounded.pending, bounded.requests⟩
  · intro session action bounded
    exact bounded.handled (session.perform_handled action)
  · intro session bounded
    exact ⟨bounded.pending, bounded.requests⟩
  · intro session _ _ bounded
    apply session.work_keeps (Bounded service.bufferSize) (Within service.bufferSize)
    · intro bounded
      exact ⟨⟨bounded.pending, bounded.requests⟩, trivial⟩
    · intro point here next there move within
      exact within.move shrinks cautious move
    · intro final within
      exact ⟨within.pending, within.requests⟩
    · intro final within
      exact within.toBounded
    · exact bounded
  · exact bounded

theorem live (shrinks : service.NeverLengthens) (cautious : service.allocator.EmptyOrPanics)
    (id : Nat) (steps : List Session.Step) :
    Bounded service.bufferSize ((service.session id).live service steps) :=
  Session.live_keeps (Bounded service.bufferSize) (step shrinks cautious) (fresh service id) steps

theorem passes (shrinks : service.NeverLengthens) (cautious : service.allocator.EmptyOrPanics)
    (bounded : Bounded service.bufferSize session) {closing : Bool}
    (passes : session.Passes service closing point here) :
    Within service.bufferSize point here := by
  apply passes.reached.keeps (Within service.bufferSize)
  · intro point here next there move within
    exact within.move shrinks cautious move
  · exact ⟨bounded.begun closing, trivial⟩

theorem does (shrinks : service.NeverLengthens) (cautious : service.allocator.EmptyOrPanics)
    (bounded : Bounded service.bufferSize session) {deed : Deed} {step : Session.Step}
    (does : session.Does service deed step) :
    deed.moment.channel.pending.length ≤ service.bufferSize ∧
      deed.after.channel.pending.length ≤ service.bufferSize := by
  have found : deed.moment.channel.pending.length ≤ service.bufferSize := by
    cases step with
    | arrive bytes | peerEnds | breaks => exact absurd does id
    | act action =>
      obtain rfl := does
      exact bounded.pending
    | visit closing =>
      obtain ⟨point, here, passes, member⟩ := does
      obtain ⟨events, _, _, work⟩ := Point.deeds_handled member
      rw [work.sameInward.pending]
      exact (bounded.passes shrinks cautious passes).pending
  refine ⟨found, ?_⟩
  rw [deed.handled.sameInward.pending]
  exact found

theorem sees (shrinks : service.NeverLengthens) (cautious : service.allocator.EmptyOrPanics)
    (bounded : Bounded service.bufferSize session) {step : Session.Step} {moment : Moment}
    (sees : session.Sees service step moment) :
    moment.channel.pending.length ≤ service.bufferSize := by
  cases sees with
  | begins => exact bounded.pending
  | passes passes => exact (bounded.passes shrinks cautious passes).pending
  | finds does => exact (bounded.does shrinks cautious does).1
  | leaves does => exact (bounded.does shrinks cautious does).2
  | ends => exact (Bounded.step shrinks cautious session step bounded).pending

end Bounded

/-! ### The bound in every life -/

/-- What a unit of work holds at one of its points, and what it asks the allocator for on the way to
the next one. -/
structure Frugal (service : Service σ) (point : Point) (here : Session σ) : Prop where
  pending : here.channel.pending.length ≤ service.bufferSize
  read : ∀ held fresh, point = .read held fresh → held = here.channel.pending ∧
    0 < fresh.length ∧ fresh.length ≤ service.bufferSize - here.channel.pending.length
  offered : ∀ buffer, point = .offered buffer →
    0 < buffer.length ∧ buffer.length ≤ service.bufferSize
  /-- What the chain was offered is still pending, and it left no more than that. -/
  chained : ∀ result rest whole, point = .chained result rest whole →
    whole = here.channel.pending.length ∧ rest.length ≤ whole
  /-- A copy is asked for with a capacity within the bound, and the buffer that is then made has
  just that length. -/
  asked : ∀ placement capacity, point.placement = some placement →
    placement.request? = some capacity → 0 < capacity ∧ capacity ≤ service.bufferSize ∧
      ∀ buffer after, service.place placement here = (.done buffer, after) →
        buffer.length = capacity
  requests : ∀ next there, Move service point here next there →
    there.journal.requests = here.journal.requests ++ point.request?.toList
  /-- Nothing is asked for in front of the chain if nothing was pending, nor behind it if the chain
  left everything or nothing. -/
  spared : (∃ fresh, point = .read [] fresh) ∨
    (∃ result rest whole, point = .chained result rest whole ∧
      (rest = [] ∨ rest.length = whole)) → point.request? = none

theorem Within.frugal {service : Service σ} (cautious : service.allocator.EmptyOrPanics)
    {point : Point} {here : Session σ} (within : Within service.bufferSize point here) :
    Frugal service point here where
  pending := within.pending
  read := by
    rintro held fresh rfl
    obtain ⟨rfl, some, room⟩ := within.fits
    exact ⟨rfl, List.length_pos_iff.mpr some, Nat.le_sub_of_add_le (by omega)⟩
  offered := by
    rintro buffer rfl
    obtain ⟨rfl, some⟩ := within.fits
    exact ⟨List.length_pos_iff.mpr some, within.pending⟩
  chained := by
    rintro result rest whole rfl
    exact within.fits
  asked := by
    intro placement capacity placed asked
    obtain ⟨some, short⟩ := within.asked placed asked
    refine ⟨some, short, fun buffer after made => ?_⟩
    obtain ⟨bytes, rfl, rfl⟩ := Placement.request?_eq_some.mp asked
    rw [Service.place_of_emptyOrPanics cautious made]
    rfl
  requests := fun _ _ move => move.requests
  spared := Point.request?_none

/-- The memory of a channel in every life, with handlers that never lengthen their buffer and an
allocator that may panic. What is pending is within the buffer size at every moment, also while
handlers and callbacks act; all that was ever asked of the allocator is; and every unit of work is
frugal at every point that it passes. -/
theorem Service.memory_bounded (service : Service σ) (shrinks : service.NeverLengthens)
    (cautious : service.allocator.EmptyOrPanics) (id : Nat) (steps : List Session.Step) :
    let session := (service.session id).live service steps
    (∀ step moment, session.Sees service step moment →
      moment.channel.pending.length ≤ service.bufferSize) ∧
    (∀ capacity ∈ session.journal.requests, 0 < capacity ∧ capacity ≤ service.bufferSize) ∧
    ∀ closing point here, session.Passes service closing point here →
      Frugal service point here := by
  intro session
  have bounded : Bounded service.bufferSize session := Bounded.live shrinks cautious id steps
  refine ⟨?_, bounded.requests, ?_⟩
  · intro step moment sees
    exact bounded.sees shrinks cautious sees
  · intro closing point here passes
    exact (bounded.passes shrinks cautious passes).frugal cautious

/-- The chain takes one byte of three, and the other two are copied. A fourth byte is to go behind
them, but the allocator refuses that copy. -/
theorem Service.memory_bounded_staged :
    let service := staged [.take 1] (· == 3)
    let session := (service.session 0).live service
      [.visit false, .arrive [1, 2, 3], .visit false, .arrive [4], .visit false]
    service.NeverLengthens ∧ service.allocator.EmptyOrPanics ∧
      session.channel.pending = [2, 3] ∧ session.journal.requests = [2, 3] ∧
      ∀ capacity ∈ session.journal.requests, 0 < capacity ∧ capacity ≤ service.bufferSize := by
  intro service session
  have shrinks : service.NeverLengthens := fun handler member =>
    (staged_takesFromFront _ (by simp) handler member).neverLengthens
  have cautious : service.allocator.EmptyOrPanics := Allocator.refusing_emptyOrPanics _
  have bounded := (service.memory_bounded shrinks cautious 0
    [.visit false, .arrive [1, 2, 3], .visit false, .arrive [4], .visit false]).2.1
  exact ⟨shrinks, cautious, by decide, by decide, bounded⟩

end StreamDispatch
