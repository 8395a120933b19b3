import StreamDispatch.Proofs.Afterlife
import StreamDispatch.Proofs.Starting

/-! The lives of endpoints. Servers and clients start in their own ways and report their state in
their own ways, and everything else they have in common: whatever is asked of them in whatever order,
they go from created to opened to closed and never back. -/
namespace StreamDispatch

variable {σ Machine Attempt : Type}

theorem EndpointState.created_of_rank {state : EndpointState}
    (low : state.rank ≤ created.rank) : state = .created := by
  cases state with
  | created => rfl
  | opened | closed => simp [rank] at low

namespace Phase

variable {phase : Phase} {fault : StateFault}

theorem checkClose_error (refused : phase.checkClose = .error fault) :
    phase.state = .created ∧ fault = .notStarted := by
  cases phase <;> simp_all [checkClose, state]

theorem checkClose_unstarted (idle : phase.state = .created) :
    phase.checkClose = .error .notStarted := by
  cases phase <;> simp_all [checkClose, state]

theorem checkClose_false (harmless : phase.checkClose = .ok false) : phase = .closed := by
  cases phase <;> simp_all [checkClose]

theorem checkClose_true (allowed : phase.checkClose = .ok true) : phase = .opened := by
  cases phase <;> simp_all [checkClose]

end Phase

namespace Endpoint

/-! ### What can be asked -/

/-- What is done to an endpoint, and what goes on in its dispatch loop. -/
inductive Step (Attempt : Type) where
  | start (attempt : Attempt)
  /-- A graceful close: what happens while it waits, and whether the wait is bounded. -/
  | close (activity : List Hub.Step) (bounded : Bool)
  | closeNow
  | meanwhile (step : Hub.Step)

inductive Answer where
  | started (result : Except Panic (Except Error Unit))
  | closed (outcome : Outcome (Except Error Unit))
  | nothing

def Answer.isSuccess : Answer → Bool
  | .started (.ok (.ok ())) => true
  | _ => false

theorem Answer.started_of_isSuccess {result : Except Panic (Except Error Unit)}
    (success : (Answer.started result).isSuccess = true) : result = .ok (.ok ()) := by
  match result with
  | .ok (.ok ()) => rfl
  | .ok (.error _) | .error _ => cases success

inductive Step.Closes : Step Attempt → Prop where
  | close (activity : List Hub.Step) (bounded : Bool) : Closes (.close activity bounded)
  | closeNow : Closes .closeNow

/-- There is no dispatch loop before the endpoint is opened. -/
def meanwhile (step : Hub.Step) (endpoint : Endpoint σ) : Endpoint σ :=
  if endpoint.phase.state = .created then endpoint
  else { endpoint with hub := endpoint.hub.step endpoint.service step }

/-- The state that is reported; `early` if the end of the dispatch loop counts as closed. -/
def reported (early : Bool) (endpoint : Endpoint σ) : EndpointState :=
  if early = true ∧ endpoint.phase = .opened ∧ endpoint.hub.signals.terminated = true then .closed
  else endpoint.phase.state

/-- The ways a close of an endpoint can go, when its loop has come so far as `reached`. -/
inductive ClosesTo (reached : Hub σ) (endpoint : Endpoint σ) :
    Outcome (Except Error Unit) → Endpoint σ → Prop where
  | unstarted (idle : endpoint.phase.state = .created) :
      ClosesTo reached endpoint (.done (.error (.state .notStarted))) endpoint
  | again (closed : endpoint.phase = .closed) : ClosesTo reached endpoint (.done (.ok ())) endpoint
  | drained (open' : endpoint.phase = .opened) (ended : reached.signals.terminated = true) :
      ClosesTo reached endpoint (.done (.ok ()))
        { endpoint with hub := reached, phase := .closed }
  | dropped (open' : endpoint.phase = .opened) :
      ClosesTo reached endpoint (.done (.ok ()))
        { endpoint with hub := reached.forceClose, phase := .closed }
  | waits (open' : endpoint.phase = .opened) (running : reached.signals.terminated = false) :
      ClosesTo reached endpoint .hung { endpoint with hub := reached }

inductive StartsTo (endpoint : Endpoint σ) :
    Except Panic (Except Error Unit) → Endpoint σ → Prop where
  | refused (unfit : endpoint.phase.beginOpen = .error fault) :
      StartsTo endpoint (.ok (.error (.state fault))) endpoint
  | failed {phase : Phase} (free : endpoint.phase = .created) (unopened : phase.state = .created)
      (failure : answer ≠ .ok (.ok ())) : StartsTo endpoint answer { endpoint with phase }
  /-- The start of a client got as far as a connection, and the id of its channel is spent. -/
  | spent (free : endpoint.phase = .created) (failure : answer ≠ .ok (.ok ())) :
      StartsTo endpoint answer { endpoint with hub := endpoint.hub.spend }
  | opened (free : endpoint.phase = .created)
      (running : (endpoint.hub.run endpoint.service steps).signals.terminated = false) :
      StartsTo endpoint (.ok (.ok ()))
        { endpoint with phase := .opened, hub := endpoint.hub.run endpoint.service steps }

theorem closeDuring_closesTo (activity : Hub σ → Hub σ) (bounded : Bool) (endpoint : Endpoint σ) :
    ClosesTo (activity endpoint.hub.beginClosing) endpoint
      (endpoint.closeDuring activity bounded).1 (endpoint.closeDuring activity bounded).2 := by
  unfold closeDuring
  split
  · rename_i refused
    obtain ⟨idle, rfl⟩ := Phase.checkClose_error refused
    exact .unstarted idle
  · rename_i harmless
    exact .again (Phase.checkClose_false harmless)
  · rename_i allowed
    have open' := Phase.checkClose_true allowed
    by_cases ended : (activity endpoint.hub.beginClosing).signals.terminated = true
    · simp only [ended, if_true]
      exact .drained open' ended
    · simp only [ended]
      cases bounded with
      | true => exact .dropped open'
      | false => exact .waits open' (by simpa using ended)

theorem closeDuring_run (activity : List Hub.Step) (bounded : Bool) (endpoint : Endpoint σ) :
    let result := endpoint.closeDuring (·.run endpoint.service activity) bounded
    ClosesTo (endpoint.hub.run endpoint.service (.closing :: activity)) endpoint result.1 result.2 :=
  endpoint.closeDuring_closesTo (fun hub => hub.run endpoint.service activity) bounded

theorem closeNow_closesTo (endpoint : Endpoint σ) :
    ClosesTo (endpoint.hub.run endpoint.service []) endpoint (.done endpoint.closeNow.1)
      endpoint.closeNow.2 := by
  unfold closeNow
  split
  · rename_i refused
    obtain ⟨idle, rfl⟩ := Phase.checkClose_error refused
    exact .unstarted idle
  · rename_i harmless
    exact .again (Phase.checkClose_false harmless)
  · rename_i allowed
    exact .dropped (Phase.checkClose_true allowed)

/-! ### What is kept -/

/-- The loop of an endpoint has run, and before the endpoint is opened it was told nothing. -/
structure Orderly (endpoint : Endpoint σ) : Prop where
  untold : endpoint.phase.state = .created → endpoint.hub.signals = {}
  ran : ∃ steps, endpoint.hub = Hub.run endpoint.service steps {}

variable {endpoint after : Endpoint σ} {early : Bool}

theorem Orderly.created (orderly : endpoint.Orderly) (free : endpoint.phase = .created) :
    endpoint.hub.signals = {} :=
  orderly.untold (by rw [free]; rfl)

theorem Orderly.later (orderly : endpoint.Orderly) (phase : Phase) (steps : List Hub.Step)
    (started : phase.state ≠ .created) :
    Orderly { endpoint with phase, hub := endpoint.hub.run endpoint.service steps } where
  untold := fun unstarted => absurd unstarted started
  ran := by
    obtain ⟨earlier, same⟩ := orderly.ran
    exact ⟨earlier ++ steps, by rw [same, Hub.run_append]⟩

theorem Orderly.startsTo (orderly : endpoint.Orderly) {answer : Except Panic (Except Error Unit)}
    (starts : endpoint.StartsTo answer after) : after.Orderly := by
  cases starts with
  | refused => exact orderly
  | failed free => exact ⟨fun _ => orderly.created free, orderly.ran⟩
  | spent free =>
    obtain ⟨earlier, same⟩ := orderly.ran
    have spends : endpoint.hub.step endpoint.service .spend = endpoint.hub.spend := by
      simp [Hub.step, orderly.created free]
    refine ⟨fun _ => orderly.created free, earlier ++ [.spend], ?_⟩
    rw [Hub.run_append, ← same]
    exact spends.symm
  | @opened steps => exact orderly.later .opened steps (by decide)

theorem Orderly.closesTo (orderly : endpoint.Orderly) {steps : List Hub.Step}
    {outcome : Outcome (Except Error Unit)}
    (closes : ClosesTo (endpoint.hub.run endpoint.service steps) endpoint outcome after) :
    after.Orderly := by
  cases closes with
  | unstarted | again => exact orderly
  | drained => exact orderly.later .closed steps (by decide)
  | dropped =>
    have forced := orderly.later .closed (steps ++ [.forceClose]) (by decide)
    rwa [Hub.run_append] at forced
  | waits open' =>
    have same := orderly.later .opened steps (by decide)
    rwa [← open'] at same

theorem Orderly.meanwhile (orderly : endpoint.Orderly) (step : Hub.Step) :
    (endpoint.meanwhile step).Orderly := by
  unfold Endpoint.meanwhile
  split
  · exact orderly
  · rename_i started
    exact orderly.later endpoint.phase [step] started

theorem reported_of_closed (closed : endpoint.phase = .closed) :
    endpoint.reported early = .closed := by
  simp [reported, closed, Phase.state]

theorem rank_le_closed {state later : EndpointState} (closed : later = .closed) :
    state.rank ≤ later.rank := by
  subst closed
  cases state <;> decide

theorem rank_le_reported (endpoint : Endpoint σ) :
    endpoint.phase.state.rank ≤ (endpoint.reported early).rank := by
  unfold reported
  split
  · exact rank_le_closed rfl
  · exact Nat.le_refl _

/-- In an open endpoint that is reported as closed the loop is over, and no callback fires. -/
theorem callbacks_of_closed (orderly : endpoint.Orderly) (open' : endpoint.phase = .opened)
    (closed : endpoint.reported early = .closed) (steps : List Hub.Step) :
    (endpoint.hub.run endpoint.service steps).Over ∧
      (endpoint.hub.run endpoint.service steps).callbacks = endpoint.hub.callbacks := by
  obtain ⟨earlier, ran⟩ := orderly.ran
  have finished : endpoint.hub.signals.terminated = true := by
    by_contra running
    simp [reported, running, open', Phase.state] at closed
  have ceased : endpoint.hub.Over := by
    rw [ran] at finished ⊢
    exact Hub.over_of_terminated _ earlier finished
  exact ⟨(ceased.run _ steps).1, ceased.callbacks_run _ steps⟩

/-- A start only moves an endpoint forward, and opens it only if it was reported as created. -/
theorem reported_startsTo (early : Bool) {answer : Except Panic (Except Error Unit)}
    (starts : endpoint.StartsTo answer after) :
    (endpoint.reported early).rank ≤ (after.reported early).rank ∧
      (answer = .ok (.ok ()) → endpoint.reported early = .created ∧
        after.reported early = .opened) := by
  cases starts with
  | refused => exact ⟨Nat.le_refl _, nofun⟩
  | failed free unopened failure =>
    have before : endpoint.reported early = .created := by simp [reported, free, Phase.state]
    exact ⟨before ▸ Nat.zero_le _, fun success => absurd success failure⟩
  | spent free failure =>
    have before : endpoint.reported early = .created := by simp [reported, free, Phase.state]
    exact ⟨before ▸ Nat.zero_le _, fun success => absurd success failure⟩
  | opened free running =>
    have before : endpoint.reported early = .created := by simp [reported, free, Phase.state]
    exact ⟨before ▸ Nat.zero_le _, fun _ => ⟨before, by simp [reported, running, Phase.state]⟩⟩

theorem reported_closesTo {steps : List Hub.Step} {outcome : Outcome (Except Error Unit)}
    (closes : ClosesTo (endpoint.hub.run endpoint.service steps) endpoint outcome after) :
    (endpoint.reported early).rank ≤ (after.reported early).rank := by
  cases closes with
  | unstarted | again => exact Nat.le_refl _
  | drained | dropped => exact rank_le_closed (reported_of_closed rfl)
  | waits open' running =>
    -- The loop has not ended now, so it had not ended before.
    have before : endpoint.hub.signals.terminated ≠ true := fun finished => by
      simp [(endpoint.hub.run_rises endpoint.service steps).terminated finished] at running
    simp [reported, before, running]

theorem reported_meanwhile (step : Hub.Step) :
    (endpoint.reported early).rank ≤ ((endpoint.meanwhile step).reported early).rank := by
  unfold meanwhile
  split
  · exact Nat.le_refl _
  · by_cases before : early = true ∧ endpoint.phase = .opened ∧
        endpoint.hub.signals.terminated = true
    · obtain ⟨withLoop, open', finished⟩ := before
      have still := (endpoint.hub.step_rises endpoint.service step).terminated finished
      simp [reported, withLoop, open', finished, still]
    · rw [reported, if_neg before]
      exact rank_le_reported { endpoint with hub := endpoint.hub.step endpoint.service step }

/-- Once an endpoint is reported as closed, closing it again succeeds and does nothing that shows. -/
theorem closed_closesTo (orderly : endpoint.Orderly) {steps : List Hub.Step}
    (closed : endpoint.reported early = .closed) {outcome : Outcome (Except Error Unit)}
    (closes : ClosesTo (endpoint.hub.run endpoint.service steps) endpoint outcome after) :
    outcome = .done (.ok ()) ∧ after.reported early = .closed ∧
      after.hub.callbacks = endpoint.hub.callbacks := by
  cases closes with
  | unstarted idle =>
    have unopened : endpoint.phase ≠ .opened := by
      intro open'
      simp [open', Phase.state] at idle
    simp [reported, unopened, idle] at closed
  | again => exact ⟨rfl, closed, rfl⟩
  | drained open' =>
    obtain ⟨ceased, same⟩ := callbacks_of_closed orderly open' closed steps
    exact ⟨rfl, reported_of_closed rfl, same⟩
  | dropped open' =>
    obtain ⟨ceased, same⟩ := callbacks_of_closed orderly open' closed (steps ++ [.forceClose])
    rw [Hub.run_append] at same
    exact ⟨rfl, reported_of_closed rfl, same⟩
  | waits open' running =>
    obtain ⟨ceased, _⟩ := callbacks_of_closed orderly open' closed steps
    exact absurd (ceased.terminated.symm.trans running) (by decide)

end Endpoint

/-! ### Servers and clients -/

/-- How an endpoint is handled from outside. -/
structure Handle (σ Machine Attempt : Type) where
  start : Attempt → Machine → Except Panic (Except Error Unit) × Machine
  endpoint : Machine → Endpoint σ
  put : Machine → Endpoint σ → Machine
  state : Machine → EndpointState

def Server.handle : Handle σ (Server σ) Host where
  start host server := server.start host
  endpoint server := server.toEndpoint
  put server endpoint := { server with toEndpoint := endpoint }
  state := Server.state

/-- The start of a client never panics. -/
def Client.handle : Handle σ (Client σ) Client.Attempt where
  start attempt client := (.ok (client.startOn attempt).1, (client.startOn attempt).2)
  endpoint client := client.toEndpoint
  put client endpoint := { client with toEndpoint := endpoint }
  state := Client.state

namespace Handle

open Endpoint (Step Answer)

variable {early : Bool}

section

variable (handle : Handle σ Machine Attempt)

def step (machine : Machine) : Step Attempt → Answer × Machine
  | .start attempt =>
    let (result, after) := handle.start attempt machine
    (.started result, after)
  | .close activity bounded =>
    let endpoint := handle.endpoint machine
    let (outcome, after) := endpoint.closeDuring (·.run endpoint.service activity) bounded
    (.closed outcome, handle.put machine after)
  | .closeNow =>
    let (result, after) := (handle.endpoint machine).closeNow
    (.closed (.done result), handle.put machine after)
  | .meanwhile step => (.nothing, handle.put machine ((handle.endpoint machine).meanwhile step))

def run (steps : List (Step Attempt)) (machine : Machine) : Machine :=
  steps.foldl (fun machine step => (handle.step machine step).2) machine

def answers : List (Step Attempt) → Machine → List Answer
  | [], _ => []
  | step :: rest, machine => (handle.step machine step).1 :: answers rest (handle.step machine step).2

/-- What a kind of endpoint has to bring along. -/
structure Proper (early : Bool) (handle : Handle σ Machine Attempt) : Prop where
  endpoint_put : ∀ machine endpoint, handle.endpoint (handle.put machine endpoint) = endpoint
  put_endpoint : ∀ machine, handle.put machine (handle.endpoint machine) = machine
  state_eq : ∀ machine, handle.state machine = (handle.endpoint machine).reported early
  starts : ∀ attempt machine, (handle.endpoint machine).Orderly →
    (handle.endpoint machine).StartsTo (handle.start attempt machine).1
      (handle.endpoint (handle.start attempt machine).2)
  refused : ∀ attempt machine, (handle.endpoint machine).phase ≠ .created →
    ∃ fault, handle.start attempt machine = (.ok (.error (.state fault)), machine)

end

end Handle

theorem Server.handle_proper : (Server.handle (σ := σ)).Proper false where
  endpoint_put _ _ := rfl
  put_endpoint _ := rfl
  state_eq _ := rfl
  starts host server orderly := by
    have starts := server.start_startsTo host
    simp only [handle] at orderly starts ⊢
    generalize (server.start host).1 = answer at starts ⊢
    generalize (server.start host).2 = after at starts ⊢
    cases starts with
    | refused unfit => exact .refused unfit
    | unwound free => exact .failed free rfl nofun
    | failed free =>
      have unopened : server.phase.state = .created := by rw [free]; rfl
      exact .failed free unopened nofun
    | opened free =>
      have running : (server.hub.run server.service []).signals.terminated = false :=
        congrArg (·.terminated) (orderly.created free)
      exact .opened free running
  refused host server started := by
    have starts := server.start_startsTo host
    simp only [handle] at started ⊢
    generalize server.start host = result at starts ⊢
    obtain ⟨answer, after⟩ := result
    cases starts with
    | refused => exact ⟨_, rfl⟩
    | unwound free | failed free | opened free => exact absurd free started

/-- What happens in the loop of a client when it is connected. -/
theorem Client.connected_hub {client : Client σ} (untold : client.hub.signals = {}) :
    client.connected.hub = client.hub.run client.service [.enroll, .acceptDone] := by
  simp [connected, untold, Hub.run, Hub.step]

theorem Client.handle_proper : (Client.handle (σ := σ)).Proper true where
  endpoint_put _ _ := rfl
  put_endpoint _ := rfl
  state_eq client := by simp [handle, Client.state, Endpoint.reported]
  starts attempt client orderly := by
    have starts := client.startOn_startsTo attempt
    simp only [handle] at orderly starts ⊢
    generalize (client.startOn attempt).1 = answer at starts ⊢
    generalize (client.startOn attempt).2 = after at starts ⊢
    cases starts with
    | refused unfit => exact .refused unfit
    | failed free =>
      have unopened : client.phase.state = .created := by rw [free]; rfl
      exact .failed free unopened nofun
    | spent free => exact .spent free nofun
    | opened free =>
      have untold := orderly.created free
      have running :
          (client.hub.run client.service [.enroll, .acceptDone]).signals.terminated = false := by
        simp [Hub.run, Hub.step, Hub.enroll, untold]
      have opens : client.toEndpoint.StartsTo (.ok (.ok ())) { client.toEndpoint with
          phase := .opened, hub := client.hub.run client.service [.enroll, .acceptDone] } :=
        .opened free running
      rwa [← Client.connected_hub untold] at opens
  refused attempt client started := by
    have starts := client.startOn_startsTo attempt
    simp only [handle] at started ⊢
    generalize client.startOn attempt = result at starts ⊢
    obtain ⟨answer, after⟩ := result
    cases starts with
    | refused => exact ⟨_, rfl⟩
    | failed free | spent free | opened free => exact absurd free started

namespace Handle

open Endpoint (Step Answer)

variable {handle : Handle σ Machine Attempt} {early : Bool} {machine : Machine}

namespace Proper

/-- What one step does: it keeps the endpoint orderly, its state never falls, and only an endpoint
that is reported as created is opened. -/
theorem step (proper : handle.Proper early) (orderly : (handle.endpoint machine).Orderly)
    (step : Step Attempt) :
    (handle.endpoint (handle.step machine step).2).Orderly ∧
      (handle.state machine).rank ≤ (handle.state (handle.step machine step).2).rank ∧
      ((handle.step machine step).1.isSuccess = true →
        handle.state machine = .created ∧ handle.state (handle.step machine step).2 = .opened) := by
  simp only [proper.state_eq]
  cases step with
  | start attempt =>
    have starts := proper.starts attempt machine orderly
    obtain ⟨forward, opens⟩ := Endpoint.reported_startsTo early starts
    refine ⟨orderly.startsTo starts, forward, fun success => opens ?_⟩
    exact Answer.started_of_isSuccess success
  | close activity bounded =>
    have closes := (handle.endpoint machine).closeDuring_run activity bounded
    simp only [Handle.step, proper.endpoint_put]
    exact ⟨orderly.closesTo closes, Endpoint.reported_closesTo closes, nofun⟩
  | closeNow =>
    have closes := (handle.endpoint machine).closeNow_closesTo
    simp only [Handle.step, proper.endpoint_put]
    exact ⟨orderly.closesTo closes, Endpoint.reported_closesTo closes, nofun⟩
  | meanwhile step =>
    simp only [Handle.step, proper.endpoint_put]
    exact ⟨orderly.meanwhile step, Endpoint.reported_meanwhile step, nofun⟩

theorem run (proper : handle.Proper early) (orderly : (handle.endpoint machine).Orderly)
    (steps : List (Step Attempt)) :
    (handle.endpoint (handle.run steps machine)).Orderly ∧
      (handle.state machine).rank ≤ (handle.state (handle.run steps machine)).rank := by
  induction steps generalizing machine with
  | nil => exact ⟨orderly, Nat.le_refl _⟩
  | cons first rest ih =>
    obtain ⟨still, forward, _⟩ := proper.step orderly first
    obtain ⟨final, further⟩ := ih still
    exact ⟨final, Nat.le_trans forward further⟩

theorem answers_started (proper : handle.Proper early)
    (orderly : (handle.endpoint machine).Orderly) (started : handle.state machine ≠ .created)
    (steps : List (Step Attempt)) :
    (handle.answers steps machine).countP Answer.isSuccess = 0 := by
  induction steps generalizing machine with
  | nil => rfl
  | cons first rest ih =>
    obtain ⟨still, forward, opens⟩ := proper.step orderly first
    have later : handle.state (handle.step machine first).2 ≠ .created := by
      intro created
      rw [created] at forward
      exact started (EndpointState.created_of_rank forward)
    rw [answers, List.countP_cons_of_neg, ih still later]
    exact fun success => started (opens success).1

theorem answers_once (proper : handle.Proper early) (orderly : (handle.endpoint machine).Orderly)
    (steps : List (Step Attempt)) :
    (handle.answers steps machine).countP Answer.isSuccess ≤ 1 := by
  induction steps generalizing machine with
  | nil => exact Nat.zero_le _
  | cons first rest ih =>
    obtain ⟨still, _, opens⟩ := proper.step orderly first
    rw [answers]
    by_cases success : (handle.step machine first).1.isSuccess = true
    · have opened := (opens success).2
      have none := proper.answers_started still (by simp [opened]) rest
      rw [List.countP_cons_of_pos success]
      omega
    · rw [List.countP_cons_of_neg success]
      exact ih still

theorem close_created (proper : handle.Proper early) (created : handle.state machine = .created)
    {call : Step Attempt} (closes : call.Closes) :
    handle.step machine call = (.closed (.done (.error (.state .notStarted))), machine) := by
  have idle : (handle.endpoint machine).phase.state = .created := by
    rw [proper.state_eq, Endpoint.reported] at created
    split at created
    · cases created
    · exact created
  have refused := Phase.checkClose_unstarted idle
  cases closes with
  | close | closeNow =>
    simp [Handle.step, Endpoint.closeDuring, Endpoint.closeNow, refused, proper.put_endpoint]

theorem start_started (proper : handle.Proper early) (started : handle.state machine ≠ .created)
    (attempt : Attempt) : ∃ fault,
      handle.step machine (.start attempt) = (.started (.ok (.error (.state fault))), machine) := by
  have claimed : (handle.endpoint machine).phase ≠ .created := by
    intro free
    exact started (by simp [proper.state_eq, Endpoint.reported, free, Phase.state])
  obtain ⟨fault, refused⟩ := proper.refused attempt machine claimed
  exact ⟨fault, by simp [Handle.step, refused]⟩

theorem close_closed (proper : handle.Proper early) (orderly : (handle.endpoint machine).Orderly)
    (closed : handle.state machine = .closed) {call : Step Attempt} (closes : call.Closes) :
    (handle.step machine call).1 = .closed (.done (.ok ())) ∧
      handle.state (handle.step machine call).2 = .closed ∧
      (handle.endpoint (handle.step machine call).2).hub.callbacks =
        (handle.endpoint machine).hub.callbacks := by
  rw [proper.state_eq] at closed
  rw [proper.state_eq]
  cases closes with
  | close activity bounded =>
    obtain ⟨same, still, silent⟩ := Endpoint.closed_closesTo orderly closed
      ((handle.endpoint machine).closeDuring_run activity bounded)
    simp only [Handle.step, proper.endpoint_put]
    exact ⟨congrArg Answer.closed same, still, silent⟩
  | closeNow =>
    obtain ⟨same, still, silent⟩ := Endpoint.closed_closesTo orderly closed
      (handle.endpoint machine).closeNow_closesTo
    simp only [Handle.step, proper.endpoint_put]
    exact ⟨congrArg Answer.closed same, still, silent⟩

end Proper

/-- A life that only goes forward, from when the endpoint was made. -/
structure Forward (handle : Handle σ Machine Attempt) (made : Machine) : Prop where
  monotone : ∀ earlier later, (handle.state (handle.run earlier made)).rank ≤
    (handle.state (handle.run (earlier ++ later) made)).rank
  openedOnce : ∀ steps, (handle.answers steps made).countP Answer.isSuccess ≤ 1
  unstarted : ∀ steps, handle.state (handle.run steps made) = .created →
    ∀ call : Step Attempt, call.Closes → handle.step (handle.run steps made) call =
      (.closed (.done (.error (.state .notStarted))), handle.run steps made)
  started : ∀ steps, handle.state (handle.run steps made) ≠ .created →
    ∀ attempt, ∃ fault, handle.step (handle.run steps made) (.start attempt) =
      (.started (.ok (.error (.state fault))), handle.run steps made)
  /-- Closing again succeeds, and no callback fires. -/
  closed : ∀ steps, handle.state (handle.run steps made) = .closed →
    ∀ call : Step Attempt, call.Closes →
      let result := handle.step (handle.run steps made) call
      result.1 = .closed (.done (.ok ())) ∧ handle.state result.2 = .closed ∧
        (handle.endpoint result.2).hub.callbacks =
          (handle.endpoint (handle.run steps made)).hub.callbacks

theorem Proper.forward (proper : handle.Proper early) {made : Machine}
    (orderly : (handle.endpoint made).Orderly) : handle.Forward made where
  monotone earlier later := by
    rw [Handle.run, Handle.run, List.foldl_append]
    exact (proper.run (proper.run orderly earlier).1 later).2
  openedOnce := proper.answers_once orderly
  unstarted steps created _ closes := proper.close_created created closes
  started steps started := proper.start_started started
  closed steps closed _ closes := proper.close_closed (proper.run orderly steps).1 closed closes

end Handle

/-- The lives of all endpoints go forward, whatever they are asked in whatever order, whatever their
starts come to, and whatever goes on in their loops in between. -/
theorem Endpoint.lives_forward (service : Service σ) (serverSettings : ServerSettings σ)
    (clientSettings : ClientSettings σ) :
    Server.handle.Forward { service, settings := serverSettings } ∧
      Client.handle.Forward { service, settings := clientSettings } := by
  have fresh : Orderly { service } := ⟨fun _ => rfl, [], rfl⟩
  exact ⟨Server.handle_proper.forward fresh, Client.handle_proper.forward fresh⟩

/-- A client is closed once its peer has gone, although nobody closed it and its phase is open. -/
example :
    let service : Service Unit := { handlers := [], bufferSize := 1, fresh := () }
    let address : SocketAddress := ⟨.unspecified, 1, 0⟩
    let client := Client.handle.run ([.start { lookup := .ok [⟨.loopback [address], address⟩] }] ++
      [.sweep [0], .peerEnds 0, .sweep [0], .sweep [0]].map .meanwhile)
      { service, settings := { fresh := () } }
    client.phase = .opened ∧ client.state = .closed := by
  decide

end StreamDispatch
