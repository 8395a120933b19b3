import StreamDispatch.Proofs.Lifecycles

/-! Closing an open endpoint. It may be dropped at once, drain while the caller waits, or be dropped
when the wait is over; all of these end in the same place, and nothing that comes late changes it. -/
namespace StreamDispatch

variable {σ Machine Attempt : Type}

namespace Hub

variable {service : Service σ} {hub : Hub σ}

/-! ### Loops that come to rest -/

theorem settleWithin_sweeps (service : Service σ) (rounds : Nat) (hub : Hub σ) :
    ∃ orders : List (List Nat),
      hub.settleWithin service rounds = hub.run service (orders.map .sweep) := by
  induction rounds generalizing hub with
  | zero => exact ⟨[], rfl⟩
  | succ rounds ih =>
    rw [settleWithin]
    split
    · obtain ⟨orders, same⟩ := ih (hub.sweep service hub.live.ids)
      exact ⟨hub.live.ids :: orders, same⟩
    · exact ⟨[], rfl⟩

theorem settle_sweeps (service : Service σ) (hub : Hub σ) : ∃ orders : List (List Nat),
    hub.settle service = hub.run service (orders.map .sweep) :=
  settleWithin_sweeps service _ hub

/-- In a closing loop that is at rest whoever is left has a unit of work that never ends. -/
theorem terminated_of_rest (closing : hub.signals.closing = true)
    (accepted : hub.signals.acceptDone = true) (rest : hub.isRestless service = false)
    (free : hub.Free) :
    hub.signals.terminated = true := by
  by_contra running
  have stirred : hub.live.channels ≠ [] → hub.live.channels.any (restless service true) = true := by
    intro some
    obtain ⟨session, present⟩ := List.exists_mem_of_ne_nil _ some
    exact List.any_eq_true.mpr ⟨session, present, by simp [restless, free session present]⟩
  cases live : hub.live.members with
  | nil => simp [isRestless, running, accepted, ChannelSet.isEmpty, live] at rest
  | cons first others =>
    have some := stirred (by simp [ChannelSet.channels, live])
    simp [isRestless, running, closing, some] at rest

theorem Draining.settleWithin {visits rounds : Nat} (draining : hub.Draining service visits)
    (ended : visits = 0 → hub.Ended) (enough : visits ≤ rounds)
    (free : (hub.settleWithin service rounds).Free) :
    (hub.settleWithin service rounds).signals.terminated = true := by
  induction rounds generalizing hub visits with
  | zero =>
    obtain rfl := Nat.le_zero.mp enough
    exact ended rfl (draining.emptied free)
  | succ rounds ih =>
    rw [Hub.settleWithin] at free ⊢
    split at free <;> rename_i rest
    · have wider : hub.Draining service (visits - 1 + 1) :=
        { draining with within := fun member found => (draining.within member found).mono (by omega) }
      obtain ⟨nearer, finished⟩ := wider.sweep fun id (member : id ∈ hub.live.ids) => member
      rw [if_pos rest]
      exact ih nearer (fun _ => finished) (by omega) free
    · rw [if_neg rest]
      exact terminated_of_rest draining.closing draining.accepted (by simpa using rest) free

/-- A closing loop that accepts nobody ends when it comes to rest. -/
theorem Draining.settle (draining : hub.Draining service 3)
    (free : (hub.settle service).Free) :
    (hub.settle service).signals.terminated = true := by
  by_cases empty : hub.live.members = []
  · have vacant : hub.Draining service 1 :=
      { draining with within := fun member found => by simp [empty] at found }
    exact vacant.settleWithin (by simp) (by simp [ChannelSet.channels, empty]) free
  · refine draining.settleWithin (by simp) ?_ free
    cases live : hub.live.members with
    | nil => exact absurd live empty
    | cons first others =>
      simp only [ChannelSet.channels, live, List.map_cons, List.foldr_cons, effort]
      omega

theorem Draining.rounds {rounds : List Step} (draining : hub.Draining service 3)
    (covering : Rounds service 3 hub rounds)
    (free : (hub.run service rounds).Free) :
    (hub.run service rounds).signals.terminated = true := by
  obtain ⟨drained, ended⟩ := covering.drain draining (by simp)
  exact ended (drained.emptied free)

end Hub

/-! ### Ways of closing -/

namespace Endpoint

variable {endpoint after : Endpoint σ} {outcome : Outcome (Except Error Unit)}

/-- The ways of closing an endpoint for good. -/
inductive Closing (endpoint : Endpoint σ) : Outcome (Except Error Unit) → Endpoint σ → Prop where
  | now : Closing endpoint (.done endpoint.closeNow.1) endpoint.closeNow.2
  | bounded (activity : List Hub.Step) :
      Closing endpoint (endpoint.closeDuring (·.run endpoint.service activity) true).1
        (endpoint.closeDuring (·.run endpoint.service activity) true).2
  /-- Gracefully without a bound: nobody is at work, every unit of work ends, and once accepting is
  over the sweeps come by everybody three times. -/
  | unbounded (earlier rounds : List Hub.Step) (free : endpoint.hub.Free)
      (finishing : endpoint.hub.beginClosing.Finishes endpoint.service (earlier ++ rounds))
      (accepted : (endpoint.hub.beginClosing.run endpoint.service earlier).signals.acceptDone = true)
      (covering : Hub.Rounds endpoint.service 3
        (endpoint.hub.beginClosing.run endpoint.service earlier) rounds) :
      Closing endpoint
        (endpoint.closeDuring (·.run endpoint.service (earlier ++ rounds)) false).1
        (endpoint.closeDuring (·.run endpoint.service (earlier ++ rounds)) false).2
  /-- Gracefully while the loops do what there is to do and nothing else happens. -/
  | quiet (timeout : Option Duration)
      (finishing : timeout = none → endpoint.hub.Free ∧ ∀ orders : List (List Nat),
        endpoint.hub.beginClosing.endAccepting.Finishes endpoint.service (orders.map .sweep)) :
      Closing endpoint (endpoint.close timeout).1 (endpoint.close timeout).2

theorem closeDuring_returns {activity : Hub σ → Hub σ} {bounded : Bool}
    (ends : bounded = true ∨ (activity endpoint.hub.beginClosing).signals.terminated = true) :
    (endpoint.closeDuring activity bounded).1 ≠ .hung := by
  unfold closeDuring
  split
  · nofun
  · nofun
  · by_cases ended : (activity endpoint.hub.beginClosing).signals.terminated = true
    · simp [ended]
    · simp [ended, ends.resolve_right ended]

theorem Orderly.draining (orderly : endpoint.Orderly) {steps : List Hub.Step}
    (accepted : (endpoint.hub.beginClosing.run endpoint.service steps).signals.acceptDone = true) :
    (endpoint.hub.beginClosing.run endpoint.service steps).Draining endpoint.service 3 := by
  obtain ⟨before, ran⟩ := orderly.ran
  have whole : endpoint.hub.beginClosing.run endpoint.service steps =
      Hub.run endpoint.service (before ++ .closing :: steps) {} := by
    rw [Hub.run_append, ← ran]
    rfl
  have asked := (endpoint.hub.beginClosing.run_rises endpoint.service steps).closing rfl
  rw [whole] at accepted asked ⊢
  exact Hub.draining_run endpoint.service _ asked accepted

/-- Every way of closing an open endpoint returns, and its loop has run until then. -/
theorem Closing.closesTo (closing : endpoint.Closing outcome after) (orderly : endpoint.Orderly) :
    outcome ≠ .hung ∧ ∃ steps,
      ClosesTo (endpoint.hub.run endpoint.service steps) endpoint outcome after := by
  cases closing with
  | now => exact ⟨nofun, [], endpoint.closeNow_closesTo⟩
  | bounded activity =>
    exact ⟨closeDuring_returns (.inl rfl), _, endpoint.closeDuring_run activity true⟩
  | unbounded earlier rounds free finishing accepted covering =>
    refine ⟨closeDuring_returns (.inr ?_), _, endpoint.closeDuring_run (earlier ++ rounds) false⟩
    have begun : endpoint.hub.beginClosing.Free := free
    have still := begun.run finishing
    rw [Hub.run_append] at still ⊢
    exact (orderly.draining accepted).rounds covering still
  | quiet timeout finishing =>
    obtain ⟨orders, same⟩ := endpoint.hub.beginClosing.endAccepting.settle_sweeps endpoint.service
    have reached : endpoint.hub.beginClosing.endAccepting.settle endpoint.service =
        endpoint.hub.run endpoint.service (.closing :: .acceptDone :: orders.map .sweep) := same
    have accepted : (endpoint.hub.beginClosing.run endpoint.service
        [.acceptDone]).signals.acceptDone = true := rfl
    constructor
    · apply closeDuring_returns
      cases timeout with
      | some duration => exact .inl rfl
      | none =>
        obtain ⟨free, finish⟩ := finishing rfl
        have begun : endpoint.hub.beginClosing.endAccepting.Free := free
        have still := begun.run (finish orders)
        rw [← same] at still
        exact .inr ((orderly.draining accepted).settle still)
    · have closes := endpoint.closeDuring_closesTo (·.endAccepting.settle endpoint.service)
        timeout.isSome
      rw [reached] at closes
      exact ⟨_, closes⟩

theorem Closing.ended (closing : endpoint.Closing outcome after) (orderly : endpoint.Orderly)
    (open' : endpoint.phase = .opened) :
    outcome = .done (.ok ()) ∧ after.phase = .closed ∧ after.service = endpoint.service ∧
      ∃ steps, after.hub = endpoint.hub.run endpoint.service steps ∧
        after.hub.signals.terminated = true := by
  obtain ⟨returns, steps, closes⟩ := closing.closesTo orderly
  cases closes with
  | unstarted idle => simp [open', Phase.state] at idle
  | again closed => simp [open'] at closed
  | drained _ ended => exact ⟨rfl, rfl, rfl, steps, rfl, ended⟩
  | dropped => exact ⟨rfl, rfl, rfl, steps ++ [.forceClose], by rw [Hub.run_append]; rfl, rfl⟩
  | waits => exact absurd rfl returns

end Endpoint

/-! ### Where they end -/

/-- What a close of an endpoint leaves behind. -/
structure Endpoint.Closed (before : Endpoint σ) (outcome : Outcome (Except Error Unit))
    (after : Endpoint σ) : Prop where
  returned : outcome = .done (.ok ())
  terminated : after.hub.signals.terminated = true
  vacant : after.hub.live.members = []
  closed : ∀ id ∈ before.hub.live.ids, ∃ session ∈ after.hub.departed,
    session.channel.id = id ∧ session.channel.closed = true
  idle : ∀ steps order, (after.hub.run after.service steps).sweep after.service order =
    after.hub.run after.service steps
  /-- A connection that is admitted afterwards is closed at once and not kept. -/
  refused : ∀ steps, let entered := ((after.hub.run after.service steps).enroll after.service).2
    entered.live.members = [] ∧
      entered.remains = (after.hub.run after.service steps).remains ++ [.late]
  /-- Nothing comes of those who left or are refused. -/
  still : ∀ steps later, let entered := ((after.hub.run after.service steps).enroll after.service).2
    (entered.run after.service later).live.members = [] ∧ ∃ late,
      (entered.run after.service later).remains = entered.remains ++ List.replicate late .late

theorem Endpoint.Closing.closed {endpoint after : Endpoint σ}
    {outcome : Outcome (Except Error Unit)} (closing : endpoint.Closing outcome after)
    (orderly : endpoint.Orderly) (open' : endpoint.phase = .opened) :
    endpoint.Closed outcome after := by
  obtain ⟨returned, _, same, steps, ran, finished⟩ := closing.ended orderly open'
  obtain ⟨before, past⟩ := orderly.ran
  have whole : after.hub = Hub.run endpoint.service (before ++ steps) {} := by
    rw [ran, Hub.run_append, ← past]
  have ceased : after.hub.Over := by
    rw [whole] at finished ⊢
    exact Hub.over_of_terminated endpoint.service (before ++ steps) finished
  refine ⟨returned, finished, ceased.vacant, ?_, ?_, ?_, ?_⟩
  · intro id member
    have sound : endpoint.hub.Sound endpoint.service := past ▸ .run endpoint.service before
    have known := Hub.known_run sound (List.mem_append_right _ member) steps
    rw [← ran, Hub.known, ChannelSet.ids, ceased.vacant, List.map_nil, List.append_nil] at known
    obtain ⟨session, present, mine⟩ := List.mem_map.mp known
    exact ⟨session, present, mine, ceased.shut session present⟩
  · intro steps order
    exact (ceased.run after.service steps).1.sweep after.service order
  · intro steps entered
    obtain ⟨entered, refused⟩ := (ceased.run after.service steps).1.enroll after.service
    exact ⟨entered.vacant, refused⟩
  · intro steps later entered
    have entered := ((ceased.run after.service steps).1.enroll after.service).1
    obtain ⟨still, late⟩ := entered.run after.service later
    exact ⟨still.vacant, late⟩

/-- Where application code never hangs nobody is at work between two steps, and every unit of work
ends. -/
theorem Endpoint.Orderly.finishing {endpoint : Endpoint σ} (orderly : endpoint.Orderly)
    (ends : endpoint.service.Ends) :
    endpoint.hub.Free ∧ ∀ steps, endpoint.hub.beginClosing.Finishes endpoint.service steps := by
  obtain ⟨steps, ran⟩ := orderly.ran
  refine ⟨?_, fun later => .of_ends ends later _⟩
  rw [ran]
  exact Hub.Free.fresh.run (.of_ends ends steps _)

/-- Every way of closing an open server or client ends in the same place, whatever led to it: the
call returns, the endpoint is reported as closed, its loop has ended with nobody in it and everybody
closed, and nothing changes that any more. A close without a bound asks that nobody is at work and
every unit of work ends, which is so where application code never hangs. -/
theorem Endpoint.closings_meet (service : Service σ) (serverSettings : ServerSettings σ)
    (clientSettings : ClientSettings σ) :
    (∀ steps, let server := Server.handle.run steps { service, settings := serverSettings }
      (server.phase = .opened → ∀ outcome after, server.toEndpoint.Closing outcome after →
        server.toEndpoint.Closed outcome after ∧
          { server with toEndpoint := after }.state = .closed) ∧
      (server.service.Ends → server.hub.Free ∧
        ∀ later, server.hub.beginClosing.Finishes server.service later)) ∧
    (∀ steps, let client := Client.handle.run steps { service, settings := clientSettings }
      (client.phase = .opened → ∀ outcome after, client.toEndpoint.Closing outcome after →
        client.toEndpoint.Closed outcome after ∧
          { client with toEndpoint := after }.state = .closed) ∧
      (client.service.Ends → client.hub.Free ∧
        ∀ later, client.hub.beginClosing.Finishes client.service later)) := by
  have fresh : Orderly { service } := ⟨fun _ => rfl, [], rfl⟩
  constructor
  · intro steps server
    have orderly : server.toEndpoint.Orderly := (Server.handle_proper.run fresh steps).1
    refine ⟨fun open' outcome after closing => ?_, orderly.finishing⟩
    have phase := (closing.ended orderly open').2.1
    exact ⟨closing.closed orderly open', by simp [Server.state, phase, Phase.state]⟩
  · intro steps client
    have orderly : client.toEndpoint.Orderly := (Client.handle_proper.run fresh steps).1
    refine ⟨fun open' outcome after closing => ?_, orderly.finishing⟩
    have phase := (closing.ended orderly open').2.1
    exact ⟨closing.closed orderly open', by simp [Client.state, phase, Phase.state]⟩

/-- A server whose close callback panics waits without a bound for two channels, and a client whose
first start got no further than a connection is closed at once. -/
theorem Endpoint.closings_meet_panicking :
    let service : Service Unit :=
      { handlers := [], bufferSize := 4, fresh := ()
        callbacks := { onClose := fun _ => .panic (.text "not now") } }
    let settings : ServerSettings Unit := { fresh := () }
    let server := Server.handle.run (.start Host.isolated ::
      [.enroll, .sweep [0], .arrive 0 [1], .enroll].map .meanwhile) { service, settings }
    let rounds := [.acceptDone] ++ [.sweep [0, 1], .sweep [1, 0], .sweep [0, 1]]
    let drained := server.toEndpoint.closeDuring (·.run server.service rounds) false
    let address : SocketAddress := ⟨.unspecified, 1, 0⟩
    let attempt : Client.Attempt := { lookup := .ok [⟨.loopback [address], address⟩] }
    let unnamed := { attempt with named := .error (.system .networkUnreachable) }
    let clientSettings : ClientSettings Unit := { fresh := () }
    let client := Client.handle.run [.start unnamed, .start attempt]
      { service, settings := clientSettings }
    server.hub.live.ids = [0, 1] ∧ server.toEndpoint.Closed drained.1 drained.2 ∧
      client.hub.live.ids = [1] ∧
        client.toEndpoint.Closed (.done client.toEndpoint.closeNow.1)
          client.toEndpoint.closeNow.2 := by
  intro service settings server rounds drained address attempt unnamed clientSettings client
  obtain ⟨servers, clients⟩ := closings_meet service settings clientSettings
  obtain ⟨meets, finishes⟩ := servers (.start Host.isolated ::
    [.enroll, .sweep [0], .arrive 0 [1], .enroll].map .meanwhile)
  have ends : service.Ends := ⟨by simp [service], fun call => by cases call <;> trivial⟩
  obtain ⟨free, finish⟩ := finishes ends
  have covering : Hub.Rounds server.service 3
      (server.hub.beginClosing.run server.service [.acceptDone])
      [.sweep [0, 1], .sweep [1, 0], .sweep [0, 1]] :=
    .round [] [0, 1] (by decide) (.round [] [1, 0] (by decide) (.round [] [0, 1] (by decide)
      (.done _)))
  have closing := Closing.unbounded [.acceptDone] _ free (finish _) rfl covering
  exact ⟨by decide, (meets rfl _ _ closing).1, by decide,
    ((clients [.start unnamed, .start attempt]).1 rfl _ _ .now).1⟩

/-- The first of three channels is stuck in its chain, the second holds output back and the third was
not opened yet. Two of them drain before the wait expires, and the stuck one is dropped. -/
example :
    let service : Service Unit :=
      { handlers := [⟨.hang, fun _ => .done (.ok none)⟩], bufferSize := 4, fresh := () }
    let server := Server.handle.run
      ([.start Host.isolated] ++ [.enroll, .sweep [0], .arrive 0 [1], .sweep [0], .enroll, .sweep [1],
        .act 1 (.send [7]), .enroll].map .meanwhile) { service, settings := { fresh := () } }
    let (_, after) := server.toEndpoint.closeDuring
      (·.run service [.acceptDone, .sweep [0, 1, 2], .sweep [2, 1, 0], .sweep [0, 1, 2]]) true
    server.hub.live.ids = [0, 1, 2] ∧ after.hub.live.ids = [] ∧
      after.hub.departed.map (fun session => (session.channel.id, session.channel.locked,
        session.channel.closed, session.channel.connection.delivered)) =
        [(1, false, true, [7]), (2, false, true, []), (0, true, true, [])] := by
  decide

end StreamDispatch
