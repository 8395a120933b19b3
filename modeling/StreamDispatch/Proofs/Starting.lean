import StreamDispatch.Client
import StreamDispatch.Server

/-! Starting an endpoint. A start is refused, or it fails and gives the phase back, or it opens the
endpoint. A server has one more way out: a panic of the socket hook unwinds through its start, and
nothing gives the phase back. -/
namespace StreamDispatch

variable {σ : Type}

theorem Phase.beginOpen_created {phase claimed : Phase} (claims : phase.beginOpen = .ok claimed) :
    phase = .created ∧ claimed = .starting := by
  cases phase <;> simp_all [beginOpen]

namespace Endpoint

variable {endpoint claimed : Endpoint σ} {fault : StateFault}

theorem beginOpen_ok (claims : endpoint.beginOpen = .ok claimed) :
    endpoint.phase = .created ∧ claimed = { endpoint with phase := .starting } := by
  unfold beginOpen at claims
  cases begun : endpoint.phase.beginOpen with
  | error fault => simp [begun] at claims
  | ok phase =>
    obtain ⟨free, rfl⟩ := Phase.beginOpen_created begun
    rw [begun] at claims
    exact ⟨free, (Except.ok.inj claims).symm⟩

theorem beginOpen_error (unfit : endpoint.beginOpen = .error fault) :
    endpoint.phase.beginOpen = .error fault := by
  unfold beginOpen at unfit
  cases begun : endpoint.phase.beginOpen with
  | error cause =>
    rw [begun] at unfit
    obtain rfl := Except.error.inj unfit
    rfl
  | ok phase => simp [begun] at unfit

/-- A claim that is given back leaves no trace. -/
theorem released (free : endpoint.phase = .created) :
    { { endpoint with phase := .starting } with phase := Phase.created } = endpoint := by
  cases endpoint
  simp_all

end Endpoint

/-- The hook for new sockets panics on this host. -/
def Host.Unwinds (host : Host) : Prop := ∃ payload, host.tune = .error payload

namespace Server

variable {server : Server σ} {host : Host}

/-- The ways out of a start. -/
inductive StartsTo (host : Host) (server : Server σ) :
    Except Panic (Except Error Unit) → Server σ → Prop where
  | refused (unfit : server.phase.beginOpen = .error fault) :
      StartsTo host server (.ok (.error (.state fault))) server
  /-- Nothing gives the phase back. -/
  | unwound (free : server.phase = .created) (unwinds : host.tune = .error payload) :
      StartsTo host server (.error payload) { server with phase := .starting }
  | failed (free : server.phase = .created) (whole : ¬ host.Unwinds)
      (unready : server.listen host ≠ .ok (.ok ()) ∨
        ∀ address, host.boundTo server.settings.endpoint ≠ .ok address) :
      StartsTo host server (.ok (.error (.io cause))) server
  | opened {found : SocketAddress} (free : server.phase = .created) (whole : ¬ host.Unwinds)
      (ready : server.listen host = .ok (.ok ()))
      (bound : host.boundTo server.settings.endpoint = .ok found) :
      StartsTo host server (.ok (.ok ()))
        { server with phase := .opened, address := some found }

theorem listen_unwound {payload : Panic} (unwound : server.listen host = .error payload) :
    host.tune = .error payload := by
  unfold listen at unwound
  cases tuned : host.tune with
  | error cause =>
    simp only [tuned, bind, Except.bind] at unwound
    rw [Except.error.inj unwound]
  | ok outcome => cases outcome <;> simp [tuned, bind, Except.bind, pure, Except.pure] at unwound

theorem listen_whole {outcome : Except IoError Unit} (listened : server.listen host = .ok outcome) :
    ¬ host.Unwinds := by
  rintro ⟨payload, unwinds⟩
  simp [listen, unwinds, bind, Except.bind] at listened

theorem start_startsTo (host : Host) (server : Server σ) :
    StartsTo host server (server.start host).1 (server.start host).2 := by
  unfold start
  cases begun : server.beginOpen with
  | error fault => exact .refused (Endpoint.beginOpen_error begun)
  | ok claimed =>
    obtain ⟨free, rfl⟩ := Endpoint.beginOpen_ok begun
    cases listened : server.listen host with
    | error payload => exact .unwound free (listen_unwound listened)
    | ok outcome =>
      have whole := listen_whole listened
      simp only [Endpoint.released free]
      cases outcome with
      | error cause => exact .failed free whole (.inl (by simp [listened]))
      | ok _ =>
        cases bound : host.boundTo server.settings.endpoint with
        | error cause => exact .failed free whole (.inr (by simp [bound]))
        | ok address => exact .opened free whole listened bound

/-! ### Starts that fail -/

/-- Starts on one host after the other, whatever comes of it. -/
def startAll (hosts : List Host) (server : Server σ) : Server σ :=
  hosts.foldl (fun server host => (server.start host).2) server

def FailsAll (server : Server σ) : List Host → Prop
  | [] => True
  | host :: rest => (server.start host).1 ≠ .ok (.ok ()) ∧ (server.start host).2.FailsAll rest

theorem start_fails (fails : (server.start host).1 ≠ .ok (.ok ())) :
    (server.start host).2 = server ∧ (server.phase = .created → ¬ host.Unwinds) ∨
      (server.start host).2 = { server with phase := .starting } ∧ server.phase = .created ∧
        host.Unwinds := by
  generalize result : (server.start host).1 = answer at fails
  have starts := start_startsTo host server
  rw [result] at starts
  generalize (server.start host).2 = after at starts ⊢
  cases starts with
  | refused unfit => exact .inl ⟨rfl, fun free => by simp [free, Phase.beginOpen] at unfit⟩
  | unwound free unwinds => exact .inr ⟨rfl, free, _, unwinds⟩
  | failed free whole => exact .inl ⟨rfl, fun _ => whole⟩
  | opened => exact absurd rfl fails

/-- Once the start is claimed for good nothing changes any more. -/
theorem startAll_starting (claimed : server.phase = .starting) (hosts : List Host) :
    server.startAll hosts = server := by
  induction hosts with
  | nil => rfl
  | cons host rest ih =>
    have refused : server.start host = (.ok (.error (.state .starting)), server) := by
      simp [start, Endpoint.beginOpen, Phase.beginOpen, claimed]
    rw [startAll, List.foldl_cons, refused]
    exact ih

/-- After starts that all failed, the server is what it was if the hook never panicked, and its
start is claimed for good if it did. -/
theorem startAll_fails {hosts : List Host} (free : server.phase = .created)
    (fails : server.FailsAll hosts) :
    server.startAll hosts = server ∧ (∀ host ∈ hosts, ¬ host.Unwinds) ∨
      server.startAll hosts = { server with phase := .starting } ∧ ∃ host ∈ hosts, host.Unwinds := by
  induction hosts with
  | nil => exact .inl ⟨rfl, by simp⟩
  | cons host rest ih =>
    obtain ⟨first, later⟩ := fails
    rw [startAll, List.foldl_cons]
    rcases start_fails first with ⟨same, whole⟩ | ⟨same, _, unwinds⟩ <;> rw [same] at later ⊢
    · refine (ih later).imp (fun ⟨kept, calm⟩ => ⟨kept, ?_⟩) fun ⟨claimed, other, member, panics⟩ =>
        ⟨claimed, other, List.mem_cons_of_mem _ member, panics⟩
      exact List.forall_mem_cons.mpr ⟨whole free, calm⟩
    · exact .inr ⟨startAll_starting rfl rest, host, List.mem_cons_self .., unwinds⟩

/-- What starts that all failed leave behind: the address is unknown, nobody is there and nothing is
signalled, and from outside the server counts as created. If the hook never panicked the server is
the one that was made, and the next start is tried. One panic of the hook is enough, and every later
start is refused without a try. -/
theorem failed_starts_undone_unless_unwound (service : Service σ) (settings : ServerSettings σ)
    (hosts : List Host) (fails : FailsAll { service, settings } hosts) :
    let made : Server σ := { service, settings }
    let server := made.startAll hosts
    server.state = .created ∧ server.localAddress = .error (.state .noListener) ∧
      server.hub.live.members = [] ∧ server.hub.departed = [] ∧ server.hub.signals = {} ∧
      ((∀ host ∈ hosts, ¬ host.Unwinds) → server = made ∧ server.phase = .created ∧
        ∀ next, (∀ fault, (server.start next).1 ≠ .ok (.error (.state fault))) ∧
          ((server.start next).1 = .ok (.ok ()) ↔ server.listen next = .ok (.ok ()) ∧
            ∃ address, next.boundTo settings.endpoint = .ok address)) ∧
      ((∃ host ∈ hosts, host.Unwinds) → server.phase = .starting ∧
        ∀ next, server.start next = (.ok (.error (.state .starting)), server)) := by
  intro made server
  have free : made.phase = .created := rfl
  rcases startAll_fails free fails with ⟨same, calm⟩ | ⟨same, host, member, panics⟩
  · have untouched : server = made := same
    rw [untouched]
    refine ⟨rfl, rfl, rfl, rfl, rfl, fun _ => ⟨rfl, rfl, fun next => ?_⟩,
      fun ⟨host, member, panics⟩ => absurd panics (calm host member)⟩
    have starts := start_startsTo next made
    generalize (made.start next).2 = after at starts
    generalize (made.start next).1 = answer at starts ⊢
    cases starts with
    | refused unfit => exact absurd unfit (by simp [made, Phase.beginOpen])
    | unwound _ unwinds =>
      refine ⟨by simp, by simp, fun ⟨listened, _⟩ => ?_⟩
      exact absurd ⟨_, unwinds⟩ (listen_whole listened)
    | failed _ _ unready =>
      refine ⟨by simp, by simp, fun ⟨listened, address, bound⟩ => ?_⟩
      rcases unready with deaf | lost
      · exact absurd listened deaf
      · exact absurd bound (lost address)
    | opened _ _ ready bound => exact ⟨by simp, fun _ => ⟨ready, _, bound⟩, fun _ => rfl⟩
  · have claimed : server = { made with phase := .starting } := same
    rw [claimed]
    refine ⟨rfl, rfl, rfl, rfl, rfl, fun calm => absurd panics (calm host member), fun _ => ⟨rfl, ?_⟩⟩
    exact fun next => rfl

/-- Starts that fail at every place there is, once without a panic of the hook and once with one. -/
theorem failed_starts_undone_unless_unwound_everywhere :
    let service : Service Unit := { handlers := [], bufferSize := 1, fresh := () }
    let made : Server Unit := { service, settings := { fresh := () } }
    let refused : IoError := .application .other "socket refused"
    let untuned := { Host.isolated with tune := .ok (.error refused) }
    let taken := { Host.isolated with bind := fun _ => .error refused }
    let deaf := { Host.isolated with listen := fun _ => .error refused }
    let lost := { Host.isolated with boundTo := fun _ => .error refused }
    let unwinding := { Host.isolated with tune := .error (.text "socket panicked") }
    made.FailsAll [untuned, taken, deaf, lost] ∧
      made.startAll [untuned, taken, deaf, lost] = made ∧
      made.FailsAll [untuned, unwinding, lost] ∧
      (made.startAll [untuned, unwinding, lost]).phase = .starting ∧
      (made.startAll [untuned, unwinding, lost]).start Host.isolated =
        (.ok (.error (.state .starting)), made.startAll [untuned, unwinding, lost]) := by
  intro service made refused untuned taken deaf lost unwinding
  have fails : made.FailsAll [untuned, taken, deaf, lost] :=
    ⟨nofun, nofun, nofun, nofun, trivial⟩
  have unwound : made.FailsAll [untuned, unwinding, lost] := ⟨nofun, nofun, nofun, trivial⟩
  obtain ⟨_, _, _, _, _, undone, _⟩ := failed_starts_undone_unless_unwound _ _ _ fails
  obtain ⟨_, _, _, _, _, _, claimed⟩ := failed_starts_undone_unless_unwound _ _ _ unwound
  have calm : ∀ host ∈ [untuned, taken, deaf, lost], ¬ host.Unwinds := by
    simp [Host.Unwinds, untuned, taken, deaf, lost, Host.isolated]
  have panics : ∃ host ∈ [untuned, unwinding, lost], host.Unwinds :=
    ⟨unwinding, by simp, _, rfl⟩
  exact ⟨fails, (undone calm).1, unwound, (claimed panics).1, (claimed panics).2 _⟩

/-- A start that the socket hook panics out of is not undone: the phase stays claimed, and a start
that would have been fine is refused because one is under way. -/
theorem unwound_start_not_undone :
    let settings : ServerSettings Unit :=
      { handlers := [⟨.done (.ok .stop), fun _ => .done (.ok none)⟩]
        executor := some .multiThreaded
        fresh := () }
    let unwinding := { Host.isolated with tune := .error (.text "socket panicked") }
    ∃ made : Server Unit, Server.build settings = .ok made ∧
      (made.start unwinding).1 = .error (.text "socket panicked") ∧
      (made.startAll [unwinding]).phase ≠ .created ∧
      (made.start Host.isolated).1 = .ok (.ok ()) ∧
      ((made.startAll [unwinding]).start Host.isolated).1 = .ok (.error (.state .starting)) :=
  ⟨_, rfl, rfl, nofun, rfl, rfl⟩

end Server

namespace Client

/-- What a connected client is made of: its channel has entered the loop, and no other will. -/
def connected (client : Client σ) : Client σ :=
  { client with
    phase := .opened
    hub := { (client.hub.enroll client.service).2 with
      signals := { (client.hub.enroll client.service).2.signals with acceptDone := true } }
    channel := some (client.hub.enroll client.service).1 }

/-- The ways out of a start. -/
inductive StartsTo (client : Client σ) : Except Error Unit → Client σ → Prop where
  | refused (unfit : client.phase.beginOpen = .error fault) :
      StartsTo client (.error (.state fault)) client
  | failed (free : client.phase = .created) : StartsTo client (.error error) client
  /-- There was a connection, but no channel came of it. -/
  | spent (free : client.phase = .created) :
      StartsTo client (.error error) { client with hub := client.hub.spend }
  | opened (free : client.phase = .created) : StartsTo client (.ok ()) client.connected

theorem startOn_startsTo (attempt : Attempt) (client : Client σ) :
    StartsTo client (client.startOn attempt).1 (client.startOn attempt).2 := by
  unfold startOn
  cases begun : client.beginOpen with
  | error fault => exact .refused (Endpoint.beginOpen_error begun)
  | ok claimed =>
    obtain ⟨free, rfl⟩ := Endpoint.beginOpen_ok begun
    simp only [Endpoint.released free]
    cases attempt.connect with
    | error error => exact .failed free
    | ok _ =>
      cases attempt.named with
      | error cause =>
        simp only [← free]
        exact .spent free
      | ok _ => exact .opened free

end Client

end StreamDispatch
