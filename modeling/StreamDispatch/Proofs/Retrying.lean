import StreamDispatch.Proofs.Afterlife
import StreamDispatch.Proofs.Starting

/-! Starts of a client that fail, wherever they fail, and the start after them. -/
namespace StreamDispatch.Client

/-! ### What an attempt comes to -/

namespace Route

/-- The hook has no objection to the new socket. -/
def Tunes (route : Route) : Prop := route.host.tune = .ok (.ok ())

/-- No connection over this address: the hook fails, or the connection does. -/
inductive Refuses (route : Route) (cause : IoError) : Prop where
  | untuned (fails : route.host.tune = .ok (.error cause)) : Refuses route cause
  | unconnected (tunes : route.Tunes) (fails : route.host.connect route.address = .error cause) :
      Refuses route cause

end Route

namespace Attempt

/-- The attempts that fail before there is a connection, and what they report: the target cannot be
looked up, it stands for nothing, the last of its addresses is refused like all before it, or the
hook panics at one of them. -/
inductive Fails (attempt : Attempt) : Error → Prop where
  | unresolved {cause : IoError} (lost : attempt.lookup = .error cause) : Fails attempt (.io cause)
  | nowhere (none : attempt.lookup = .ok []) : Fails attempt (.io .noAddress)
  | refused (tried : List Route) {last : Route} {cause : IoError}
      (found : attempt.lookup = .ok (tried ++ [last]))
      (before : ∀ route ∈ tried, ∃ cause, route.Refuses cause) (refuses : last.Refuses cause) :
      Fails attempt (.io cause)
  | unwound (tried : List Route) {untried : List Route} {route : Route} {payload : Panic}
      (found : attempt.lookup = .ok (tried ++ route :: untried))
      (before : ∀ route ∈ tried, ∃ cause, route.Refuses cause)
      (panics : route.host.tune = .error payload) : Fails attempt (.panic payload)

/-- The attempts that make a connection, over the first address that is not refused. -/
inductive Reaches (attempt : Attempt) : Prop where
  | over (tried : List Route) {untried : List Route} {route : Route}
      (found : attempt.lookup = .ok (tried ++ route :: untried))
      (before : ∀ route ∈ tried, ∃ cause, route.Refuses cause)
      (tunes : route.Tunes) (connects : route.host.connect route.address = .ok ()) :
      Reaches attempt

end Attempt

variable {σ : Type} {client : Client σ} {attempt : Attempt} {error : Error} {cause : IoError}
  {tried : List Route} {route : Route} {payload : Panic}

theorem connectOne_refused (refuses : route.Refuses cause) :
    connectOne route = .ok (.error cause) := by
  cases refuses with
  | untuned fails => simp [connectOne, fails, bind, Except.bind, pure, Except.pure]
  | unconnected tunes fails =>
    rw [Route.Tunes] at tunes
    simp [connectOne, tunes, fails, bind, Except.bind, pure, Except.pure]

theorem connectOne_unwound (panics : route.host.tune = .error payload) :
    connectOne route = .error payload := by
  simp [connectOne, panics, bind, Except.bind]

theorem connectOne_connected (tunes : route.Tunes)
    (connects : route.host.connect route.address = .ok ()) :
    connectOne route = .ok (.ok ()) := by
  rw [Route.Tunes] at tunes
  simp [connectOne, tunes, connects, bind, Except.bind, pure, Except.pure]

/-- One address is refused, or the hook panics at it, or it is connected to. -/
theorem connectOne_cases (route : Route) :
    (∃ cause, route.Refuses cause) ∨ (∃ payload, route.host.tune = .error payload) ∨
      route.Tunes ∧ route.host.connect route.address = .ok () := by
  cases tuned : route.host.tune with
  | error payload => exact .inr (.inl ⟨payload, rfl⟩)
  | ok answer =>
    cases answer with
    | error cause => exact .inl ⟨cause, .untuned tuned⟩
    | ok _ =>
      cases connected : route.host.connect route.address with
      | error cause => exact .inl ⟨cause, .unconnected tuned connected⟩
      | ok _ => exact .inr (.inr ⟨tuned, rfl⟩)

/-- Addresses that are refused are passed over. -/
theorem connectAny_skip (before : ∀ route ∈ tried, ∃ cause, route.Refuses cause) (last : IoError)
    (rest : List Route) :
    ∃ cause, connectAny last (tried ++ rest) = connectAny cause rest := by
  induction tried generalizing last with
  | nil => exact ⟨last, rfl⟩
  | cons route later ih =>
    obtain ⟨⟨cause, refuses⟩, others⟩ := List.forall_mem_cons.mp before
    obtain ⟨final, skipped⟩ := ih others cause
    exact ⟨final, by simp only [List.cons_append, connectAny, connectOne_refused refuses, skipped]⟩

namespace Attempt

theorem Fails.connect (fails : attempt.Fails error) : attempt.connect = .error error := by
  cases fails with
  | unresolved lost => simp [Attempt.connect, lost]
  | nowhere none => simp [Attempt.connect, none, connectAny]
  | @refused tried last cause found before refuses =>
    obtain ⟨earlier, skipped⟩ := connectAny_skip before .noAddress [last]
    simp [Attempt.connect, found, skipped, connectAny, connectOne_refused refuses]
  | @unwound tried untried route payload found before panics =>
    obtain ⟨earlier, skipped⟩ := connectAny_skip before .noAddress (route :: untried)
    simp [Attempt.connect, found, skipped, connectAny, connectOne_unwound panics]

theorem Reaches.connect (reaches : attempt.Reaches) : attempt.connect = .ok () := by
  obtain @⟨tried, untried, route, found, before, tunes, connects⟩ := reaches
  obtain ⟨earlier, skipped⟩ := connectAny_skip before .noAddress (route :: untried)
  simp [Attempt.connect, found, skipped, connectAny, connectOne_connected tunes connects]

/-- There is no third kind of attempt. -/
theorem fails_or_reaches (attempt : Attempt) :
    (∃ error, attempt.Fails error) ∨ attempt.Reaches := by
  cases found : attempt.lookup with
  | error cause => exact .inl ⟨_, .unresolved found⟩
  | ok routes =>
    -- The addresses that were tried so far stand in front, all of them refused.
    suffices split : ∀ untried tried : List Route, routes = tried ++ untried →
        (∀ route ∈ tried, ∃ cause, route.Refuses cause) →
        (∃ error, attempt.Fails error) ∨ attempt.Reaches from split routes [] rfl (by simp)
    intro untried
    induction untried with
    | nil =>
      intro tried same before
      rw [List.append_nil] at same
      subst same
      rcases List.eq_nil_or_concat routes with rfl | ⟨front, last, rfl⟩
      · exact .inl ⟨_, .nowhere found⟩
      · rw [List.concat_eq_append] at found before
        obtain ⟨cause, refuses⟩ := before last (by simp)
        have earlier : ∀ route ∈ front, ∃ cause, route.Refuses cause :=
          fun route member => before route (by simp [member])
        exact .inl ⟨_, .refused front found earlier refuses⟩
    | cons route rest ih =>
      rintro tried rfl before
      rcases connectOne_cases route with ⟨cause, refuses⟩ | ⟨payload, panics⟩ | ⟨tunes, connects⟩
      · refine ih (tried ++ [route]) (by simp) fun other member => ?_
        rcases List.mem_append.mp member with earlier | now
        · exact before other earlier
        · rw [List.mem_singleton.mp now]
          exact ⟨cause, refuses⟩
      · exact .inl ⟨_, .unwound tried found before panics⟩
      · exact .inr (.over tried found before tunes connects)

end Attempt

/-! ### One start -/

/-- A start that fails before there is a connection reports why and leaves no trace. -/
theorem startOn_fails (free : client.phase = .created) (fails : attempt.Fails error) :
    client.startOn attempt = (.error error, client) := by
  have begun : client.beginOpen = .ok { client.toEndpoint with phase := .starting } := by
    simp [Endpoint.beginOpen, Phase.beginOpen, free]
  simp only [startOn, begun, fails.connect, Endpoint.released free]

theorem startOn_connects (free : client.phase = .created) (reaches : attempt.Reaches)
    (named : attempt.named = .ok ()) : client.startOn attempt = (.ok (), client.connected) := by
  have begun : client.beginOpen = .ok { client.toEndpoint with phase := .starting } := by
    simp [Endpoint.beginOpen, Phase.beginOpen, free]
  simp only [startOn, begun, reaches.connect, named, connected]

/-! ### Rows of starts -/

/-- Starts one after the other, whatever comes of them. -/
def startAll (attempts : List Attempt) (client : Client σ) : Client σ :=
  attempts.foldl (fun client attempt => (client.startOn attempt).2) client

/-- Starts that all fail before there is a connection leave no trace. -/
theorem startAll_fails {attempts : List Attempt} (free : client.phase = .created)
    (fails : ∀ attempt ∈ attempts, ∃ error, attempt.Fails error) :
    client.startAll attempts = client := by
  induction attempts with
  | nil => rfl
  | cons attempt rest ih =>
    obtain ⟨⟨error, now⟩, later⟩ := List.forall_mem_cons.mp fails
    rw [startAll, List.foldl_cons, startOn_fails free now]
    exact ih later

/-- What a client is after it was made. -/
structure Untouched (client : Client σ) : Prop where
  state : client.state = .created
  phase : client.phase = .created
  channel : client.channel = none
  live : client.hub.live = {}
  departed : client.hub.departed = []
  signals : client.hub.signals = {}
  silent : client.hub.callbacks = []

/-- What a client is once it is connected: its one channel is the first, and it is as new. -/
structure Started (client : Client σ) : Prop where
  state : client.state = .opened
  channel : client.channel = some 0
  live : client.hub.live.members = [(0, client.service.session 0)]
  departed : client.hub.departed = []
  signals : client.hub.signals = { acceptDone := true }
  silent : client.hub.callbacks = []

theorem untouched_of_build {settings : ClientSettings σ} (built : build settings = .ok client) :
    client.Untouched := by
  unfold build at built
  cases checked : settings.service with
  | error fault => simp [checked, bind, Except.bind] at built
  | ok service =>
    simp only [checked, bind, Except.bind, pure, Except.pure] at built
    obtain rfl := Except.ok.inj built
    exact ⟨rfl, rfl, rfl, rfl, rfl, rfl, rfl⟩

theorem Untouched.connected (untouched : client.Untouched) : client.connected.Started := by
  have enrolled : client.hub.enroll client.service =
      (0, { client.hub with
        live := { nextId := 1, members := [(0, client.service.session 0)] } }) := by
    simp [Hub.enroll, untouched.live, untouched.signals, ChannelSet.issue, ChannelSet.insert,
      ChannelSet.remove, Word.bound]
  constructor
  · simp [Client.state, Client.connected, enrolled, untouched.signals, Phase.state]
  · simp [Client.connected, enrolled]
  · simp [Client.connected, enrolled]
  · simp [Client.connected, enrolled, untouched.departed]
  · simp [Client.connected, enrolled, untouched.signals]
  · simp [Client.connected, enrolled, Hub.callbacks, ChannelSet.channels, untouched.departed,
      Service.session, Journal.callbacks]

/-- Starts of a client that fail before there is a connection. Each reports why and leaves the
client as it was made: created, without a channel, nobody in its loop, nothing signalled and no
callback fired. So the next start is tried as the first one would have been, and if it connects, the
client is the very one that it would be if the first start had connected; whatever happens to the
one from then on happens to the other. -/
theorem failed_starts_retryable {settings : ClientSettings σ} {made : Client σ}
    (built : build settings = .ok made) {attempts : List Attempt}
    (fails : ∀ attempt ∈ attempts, ∃ error, attempt.Fails error) :
    (∀ before attempt later error, attempts = before ++ attempt :: later → attempt.Fails error →
      (made.startAll before).Untouched ∧
        (made.startAll before).startOn attempt = (.error error, made)) ∧
      (made.startAll attempts).Untouched ∧
      ∀ next first : Attempt, next.Reaches → next.named = .ok () →
        first.Reaches → first.named = .ok () →
        ∃ started, (made.startAll attempts).startOn next = (.ok (), started) ∧
          made.startOn first = (.ok (), started) ∧ started.Started := by
  have untouched := untouched_of_build built
  have undone {row : List Attempt} (part : ∀ attempt ∈ row, attempt ∈ attempts) :
      made.startAll row = made :=
    startAll_fails untouched.phase fun attempt member => fails attempt (part attempt member)
  refine ⟨?_, ?_, ?_⟩
  · intro before attempt later error split failing
    have same : made.startAll before = made := undone fun other member => by simp [split, member]
    rw [same]
    exact ⟨untouched, startOn_fails untouched.phase failing⟩
  · rwa [undone fun _ member => member]
  · intro next first reaches named reached told
    rw [undone fun _ member => member]
    exact ⟨made.connected, startOn_connects untouched.phase reaches named,
      startOn_connects untouched.phase reached told, untouched.connected⟩

/-- Failures of every kind, one of them behind an address that was refused, and a start that
connects over its second address. -/
theorem failed_starts_retryable_everywhere :
    let settings : ClientSettings Unit :=
      { handlers := [⟨.done (.ok .stop), fun _ => .done (.ok none)⟩]
        executor := some .multiThreaded
        fresh := () }
    let address : SocketAddress := ⟨.unspecified, 7000, 0⟩
    let cause : IoError := .application .other "socket refused"
    let deaf : Route := ⟨Host.loopback [], address⟩
    let untuned : Route := ⟨{ Host.loopback [address] with tune := .ok (.error cause) }, address⟩
    let unwinding : Route :=
      ⟨{ Host.loopback [address] with tune := .error (.text "socket panicked") }, address⟩
    let serving : Route := ⟨Host.loopback [address], address⟩
    let attempts : List Attempt :=
      [⟨.error .unknownHost, .ok ()⟩, ⟨.ok [], .ok ()⟩, ⟨.ok [untuned], .ok ()⟩,
        ⟨.ok [untuned, deaf], .ok ()⟩, ⟨.ok [deaf, unwinding, serving], .ok ()⟩]
    ∃ made started : Client Unit, build settings = .ok made ∧
      (made.startAll attempts).Untouched ∧
      (made.startOn ⟨.ok [deaf, unwinding, serving], .ok ()⟩).1 =
        .error (.panic (.text "socket panicked")) ∧
      (made.startAll attempts).startOn ⟨.ok [deaf, serving], .ok ()⟩ = (.ok (), started) ∧
      made.startOn ⟨.ok [serving], .ok ()⟩ = (.ok (), started) ∧ started.Started := by
  intro settings address cause deaf untuned unwinding serving attempts
  have refused : deaf.Refuses (.system .connectionRefused) := .unconnected rfl (by decide)
  have objected : untuned.Refuses cause := .untuned rfl
  have fails : ∀ attempt ∈ attempts, ∃ error, attempt.Fails error := by
    simp only [attempts, List.forall_mem_cons, List.not_mem_nil, false_imp_iff, implies_true,
      and_true]
    exact ⟨⟨_, .unresolved rfl⟩, ⟨_, .nowhere rfl⟩,
      ⟨_, .refused [] rfl (by simp) objected⟩,
      ⟨_, .refused [untuned] rfl (by simpa using ⟨_, objected⟩) refused⟩,
      ⟨_, .unwound [deaf] rfl (by simpa using ⟨_, refused⟩) rfl⟩⟩
  have connects : serving.host.connect serving.address = .ok () := by decide
  obtain ⟨_, untouched, retry⟩ := failed_starts_retryable (rfl : build settings = .ok _) fails
  obtain ⟨started, again, atOnce, shape⟩ := retry ⟨.ok [deaf, serving], .ok ()⟩
    ⟨.ok [serving], .ok ()⟩ (.over [deaf] rfl (by simpa using ⟨_, refused⟩) rfl connects)
    rfl (.over [] rfl (by simp) rfl connects) rfl
  exact ⟨_, started, rfl, untouched, rfl, again, atOnce, shape⟩

end StreamDispatch.Client
