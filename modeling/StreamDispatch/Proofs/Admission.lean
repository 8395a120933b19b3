import StreamDispatch.Proofs.Lifecycles
import StreamDispatch.Proofs.Membership
import StreamDispatch.Proofs.Parts

/-! How channels get into the sets of servers and clients. Whatever becomes of an endpoint, its
channels come in one by one under ids that were handed out for them, so the history of its set is
one of those in which nobody ever takes the place of another. -/
namespace StreamDispatch

variable {σ α β : Type}

/-! ### Sets seen from outside -/

namespace ChannelSet

/-- The same set with something else in place of every channel. -/
def map (f : α → β) (set : ChannelSet α) : ChannelSet β where
  nextId := set.nextId
  members := set.members.map fun member => (member.1, f member.2)

variable {f : α → β}

theorem map_remove (set : ChannelSet α) (id : Nat) :
    (set.remove id).map f = (set.map f).remove id := by
  simp only [map, remove, List.filter_map]
  rfl

theorem map_insert (set : ChannelSet α) (id : Nat) (channel : α) :
    (set.insert id channel).map f = (set.map f).insert id (f channel) := by
  have same : ((set.remove id).map f).members = ((set.map f).remove id).members := by
    rw [map_remove]
  simp only [map] at same
  simp [insert, map, same]

theorem map_update (set : ChannelSet α) (id : Nat) (change : α → α)
    (kept : ∀ channel, (id, channel) ∈ set.members → f (change channel) = f channel) :
    (set.update id change).map f = set.map f := by
  simp only [map, update, List.map_map, mk.injEq, true_and]
  refine List.map_congr_left fun member present => ?_
  simp only [Function.comp_apply]
  split
  · rename_i mine
    subst mine
    rw [kept _ present]
  · rfl

end ChannelSet

/-! ### Dispatch loops -/

namespace Hub

/-- A connection comes in, whether or not it can be set up. -/
def Happening.connects : Happening σ → Bool
  | .enroll | .spend => true
  | .touch .. | .sweep _ | .closing | .acceptDone | .forceClose => false

/-- Who lives in a loop: the set of its sessions, with only the ids of their channels in it. -/
def residents (hub : Hub σ) : ChannelSet Nat := hub.live.map fun session => session.channel.id

/-- Who lives in a loop is told by a history of its set, in which every channel goes in under an id
of its own and at most so many ids are handed out. -/
structure Told (connections : Nat) (hub : Hub σ) : Prop where
  keyed : hub.Keyed
  history : ∃ steps : List (ChannelSet.Step Nat),
    ChannelSet.EntersFresh [] steps {} ∧ steps.countP (·.issues) ≤ connections ∧
      hub.residents = ChannelSet.run steps {}

namespace Told

variable {service : Service σ} {hub after : Hub σ} {count : Nat}

theorem fresh : Told 0 ({} : Hub σ) where
  keyed := fun _ found => nomatch found
  history := ⟨[], trivial, Nat.le_refl _, rfl⟩

theorem mono (told : hub.Told count) {more : Nat} (le : count ≤ more) : hub.Told more := by
  obtain ⟨keyed, steps, fresh, few, same⟩ := told
  exact ⟨keyed, steps, fresh, few.trans le, same⟩

theorem extend (told : hub.Told count) (later : List (ChannelSet.Step Nat)) (keyed : after.Keyed)
    (fresh : ∀ held, ChannelSet.EntersFresh held later hub.residents)
    (same : after.residents = hub.residents.run later) :
    after.Told (count + later.countP (·.issues)) := by
  obtain ⟨_, steps, before, few, start⟩ := told
  refine ⟨keyed, steps ++ later, before.append ?_, ?_, ?_⟩
  · rwa [← start]
  · rw [List.countP_append]
    exact Nat.add_le_add_right few _
  · rw [same, start, ChannelSet.run_append]

theorem keep (told : hub.Told count) (keyed : after.Keyed)
    (same : after.residents = hub.residents) : after.Told count :=
  told.extend [] keyed (fun _ => trivial) same

theorem signals (told : hub.Told count) (signals : Signals) :
    { hub with signals : Hub σ }.Told count :=
  told.keep told.keyed rfl

theorem spend (told : hub.Told count) : hub.spend.Told (count + 1) :=
  told.extend [.issue] told.keyed (fun _ => trivial) rfl

theorem enroll (told : hub.Told count) (service : Service σ) :
    (hub.enroll service).2.Told (count + 1) := by
  rcases hub.enroll_cases service with ⟨_, same⟩ | ⟨_, same⟩ <;> rw [same]
  · -- After the end of the loop nobody is kept, and only the id is gone.
    exact told.spend.keep told.keyed rfl
  · refine told.extend [.issue, .insert hub.live.nextId hub.live.nextId] ?_
      (fun _ => ⟨List.mem_cons_self .., trivial⟩) ?_
    · intro member found
      rcases ChannelSet.mem_insert found with old | rfl
      · exact told.keyed member old
      · rfl
    · exact ChannelSet.map_insert hub.live.issue.2 hub.live.nextId _

theorem visit (told : hub.Told count) (service : Service σ) (closing : Bool) (id : Nat) :
    (hub.visit service closing id).Told count := by
  have keyed := told.keyed.visit service closing id
  rcases hub.visit_cases service closing id with
    ⟨same, _⟩ | ⟨session, present, ⟨_, same⟩ | ⟨_, same⟩⟩ <;> rw [same] at keyed ⊢
  · exact told
  · exact told.extend [.remove id] keyed (fun _ => trivial) (hub.live.map_remove id)
  · -- Work changes a session where it stands, and sessions keep their ids.
    refine told.keep keyed (hub.live.map_update id (fun _ => session.step service _) ?_)
    intro old found
    rw [Session.step_id, told.keyed _ present, told.keyed _ found]

theorem sweep (told : hub.Told count) (service : Service σ) (order : List Nat) :
    (hub.sweep service order).Told count := by
  have visited : (hub.visits service hub.signals.closing order).Told count := by
    generalize hub.signals.closing = closing
    induction order generalizing hub with
    | nil => exact told
    | cons id rest ih => exact ih (told.visit service closing id)
  rcases hub.sweep_cases service order with ⟨_, same⟩ | ⟨_, ⟨_, _, same⟩ | ⟨_, same⟩⟩ <;>
    rw [same]
  · exact told
  · exact visited.signals _
  · exact visited

theorem forceClose (told : hub.Told count) : hub.forceClose.Told count :=
  told.extend [.clear] (fun _ found => nomatch found) (fun _ => trivial) rfl

theorem undergo (told : hub.Told count) (service : Service σ) (happening : Happening σ) :
    (hub.undergo service happening).Told (count + [happening].countP (·.connects)) := by
  cases happening with
  | enroll =>
    rw [Hub.undergo]
    split
    · exact told.mono (Nat.le_add_right ..)
    · exact told.enroll service
  | spend =>
    rw [Hub.undergo]
    split
    · exact told.mono (Nat.le_add_right ..)
    · exact told.spend
  | touch id change =>
    refine told.keep (told.keyed.undergo service _) (hub.live.map_update id _ ?_)
    exact fun session _ => change.keeps session
  | sweep order => exact told.sweep service order
  | closing | acceptDone => exact told.signals _
  | forceClose => exact told.forceClose

theorem undergoAll (told : hub.Told count) (service : Service σ)
    (happenings : List (Happening σ)) :
    (hub.undergoAll service happenings).Told (count + happenings.countP (·.connects)) := by
  induction happenings generalizing hub count with
  | nil => exact told
  | cons first rest ih =>
    have more := ih (told.undergo service first)
    rwa [Nat.add_assoc, ← List.countP_append] at more

/-- As long as ids last the next one is nobody's. -/
theorem vacant (told : hub.Told count) (few : count < Word.bound) :
    hub.live.find? hub.live.nextId = none := by
  obtain ⟨_, steps, fresh, counted, same⟩ := told
  have next : (ChannelSet.run steps {}).nextId = hub.live.nextId := congrArg (·.nextId) same.symm
  have unused := ChannelSet.next_unused (Nat.lt_of_le_of_lt counted few) fresh
  rw [next] at unused
  cases found : hub.live.find? hub.live.nextId with
  | none => rfl
  | some session =>
    have present : (hub.live.nextId, session.channel.id) ∈ hub.residents.members :=
      List.mem_map.mpr ⟨_, ChannelSet.find?_mem found, rfl⟩
    rw [same, ChannelSet.mem_run] at present
    exact absurd (ChannelSet.entered_of_stands present) unused

end Told

end Hub

/-! ### Endpoints -/

namespace Endpoint

/-- What goes on at every kind of endpoint. -/
inductive Event (σ : Type) where
  /-- A graceful close: what happens while it waits, and whether the wait is bounded. -/
  | close (activity : List (Hub.Happening σ)) (bounded : Bool)
  | closeNow
  | meanwhile (happenings : List (Hub.Happening σ))

/-- The connections that come in while it goes on, set up or not. -/
def Event.connections : Event σ → Nat
  | .close activity _ => activity.countP (·.connects)
  | .closeNow => 0
  | .meanwhile happenings => happenings.countP (·.connects)

def undergo (endpoint : Endpoint σ) : Event σ → Endpoint σ
  | .close activity bounded =>
    (endpoint.closeDuring (·.undergoAll endpoint.service activity) bounded).2
  | .closeNow => endpoint.closeNow.2
  | .meanwhile happenings =>
    { endpoint with hub := endpoint.hub.undergoAll endpoint.service happenings }

variable {endpoint after : Endpoint σ} {reached : Hub σ} {count more : Nat}

theorem ClosesTo.told {outcome : Outcome (Except Error Unit)}
    (closes : ClosesTo reached endpoint outcome after) (before : endpoint.hub.Told more)
    (told : reached.Told more) : after.hub.Told more := by
  cases closes with
  | unstarted | again => exact before
  | drained | waits => exact told
  | dropped => exact told.forceClose

theorem undergo_told (told : endpoint.hub.Told count) (event : Event σ) :
    (endpoint.undergo event).hub.Told (count + event.connections) := by
  cases event with
  | close activity bounded =>
    have closing : endpoint.hub.beginClosing.Told count := told.signals _
    exact (endpoint.closeDuring_closesTo _ bounded).told (told.mono (Nat.le_add_right ..))
      (closing.undergoAll endpoint.service activity)
  | closeNow => exact endpoint.closeNow_closesTo.told told told
  | meanwhile happenings => exact told.undergoAll endpoint.service happenings

end Endpoint

namespace Server

inductive Life : Nat → Server σ → Prop where
  | made (service : Service σ) (settings : ServerSettings σ) : Life 0 { service, settings }
  | start (before : Life connections server) (host : Host) : Life connections (server.start host).2
  | takeIn (before : Life connections server) (address : SocketAddress) (arrival : Arrival) :
      Life (connections + 1) (server.takeIn address arrival).2
  | undergo (before : Life connections server) (event : Endpoint.Event σ) :
      Life (connections + event.connections)
        { server with toEndpoint := server.toEndpoint.undergo event }

variable {server : Server σ} {count : Nat}

theorem start_told (told : server.hub.Told count) (host : Host) :
    (server.start host).2.hub.Told count := by
  have starts := server.start_startsTo host
  generalize (server.start host).1 = answer at starts
  generalize (server.start host).2 = after at starts ⊢
  cases starts <;> exact told

theorem takeIn_told (told : server.hub.Told count) (address : SocketAddress) (arrival : Arrival) :
    (server.takeIn address arrival).2.hub.Told (count + 1) := by
  unfold takeIn
  split
  · exact told.mono (Nat.le_succ _)
  · split
    · exact told.spend
    · exact told.enroll server.service

theorem Life.told (life : Life count server) : server.hub.Told count := by
  induction life with
  | made => exact .fresh
  | start _ host told => exact start_told told host
  | takeIn _ address arrival told => exact takeIn_told told address arrival
  | undergo _ event told => exact Endpoint.undergo_told told event

end Server

namespace Client

inductive Life : Nat → Client σ → Prop where
  | made (service : Service σ) (settings : ClientSettings σ) : Life 0 { service, settings }
  | start (before : Life connections client) (attempt : Attempt) :
      Life (connections + 1) (client.startOn attempt).2
  | undergo (before : Life connections client) (event : Endpoint.Event σ) :
      Life (connections + event.connections)
        { client with toEndpoint := client.toEndpoint.undergo event }

variable {client : Client σ} {count : Nat}

theorem startOn_told (told : client.hub.Told count) (attempt : Attempt) :
    (client.startOn attempt).2.hub.Told (count + 1) := by
  have still : client.hub.Told (count + 1) := told.mono (Nat.le_succ _)
  unfold startOn
  cases begun : client.beginOpen with
  | error fault => exact still
  | ok claimed =>
    obtain ⟨free, rfl⟩ := Endpoint.beginOpen_ok begun
    cases attempt.connect with
    | error error => exact still
    | ok _ =>
      cases attempt.named with
      | error cause => exact told.spend
      | ok _ => exact (told.enroll client.service).signals _

theorem Life.told (life : Life count client) : client.hub.Told count := by
  induction life with
  | made => exact .fresh
  | start _ attempt told => exact startOn_told told attempt
  | undergo _ event told => exact Endpoint.undergo_told told event

end Client

/-- The dispatch loops of servers and clients. -/
inductive Hub.Owned (connections : Nat) : Hub σ → Prop where
  | server (life : Server.Life connections server) : Owned connections server.hub
  | client (life : Client.Life connections client) : Owned connections client.hub

theorem Hub.Owned.told {hub : Hub σ} {count : Nat} (owned : Hub.Owned count hub) :
    hub.Told count := by
  cases owned with
  | server life => exact life.told
  | client life => exact life.told

/-- Sets of channels neither confuse nor lose channels. Whatever was done to a new set, the ids that
it handed out are distinct as long as there are ids. It holds exactly the channels whose insert is
the latest under their id and comes after the latest remove of the id and the latest clear; it says
how many they are and whether there are any; and taking out what is not in it changes nothing. If
every channel went in under an id of its own, none ever took the place of another, and there are as
many as were put in since the last clear and not taken out again. The sets of servers and clients
are of this kind, whatever becomes of them. -/
theorem ChannelSet.history_decides (α σ : Type) :
    (∀ steps : List (Step α),
      let set := run steps {}
      (steps.countP (·.issues) ≤ Word.bound → (issued steps {}).Nodup) ∧
      (∀ id channel, ((id, channel) ∈ set.members ↔ Stands steps id channel) ∧
        (set.find? id = some channel ↔ Stands steps id channel)) ∧
      (set.size : ℕ∞) = {id | ∃ channel, Stands steps id channel}.encard ∧
      (set.isEmpty = true ↔ ∀ id channel, ¬ Stands steps id channel) ∧
      (∀ id, (∀ channel, ¬ Stands steps id channel) → set.remove id = set) ∧
      (steps.countP (·.issues) ≤ Word.bound → EntersFresh [] steps {} →
        (∀ earlier id channel later, steps = earlier ++ .insert id channel :: later →
          (run earlier {}).find? id = none) ∧
        set.size = outstanding steps)) ∧
    ∀ connections (hub : Hub σ), hub.Owned connections →
      hub.Keyed ∧ ∃ steps, EntersFresh [] steps {} ∧ steps.countP (·.issues) ≤ connections ∧
        hub.residents = run steps {} ∧
        (connections < Word.bound →
          hub.live.find? hub.live.nextId = none ∧ hub.live.size = outstanding steps) := by
  constructor
  · intro steps set
    have distinct : set.ids.Nodup := ids_nodup steps List.nodup_nil
    refine ⟨issued_nodup, fun id channel => ⟨mem_run, (find?_eq_some distinct).trans mem_run⟩,
      size_run steps, ?_, fun id absent => ?_, fun few fresh => ⟨?_, size_of_fresh few fresh⟩⟩
    · simp only [isEmpty, List.isEmpty_iff, List.eq_nil_iff_forall_not_mem, Prod.forall, set,
        mem_run]
    · exact remove_absent fun channel present => absent channel (mem_run.mp present)
    · rintro earlier id channel later rfl
      exact vacant_of_fresh (entered_nodup few fresh)
  · intro connections hub owned
    obtain ⟨keyed, steps, fresh, counted, same⟩ := owned.told
    refine ⟨keyed, steps, fresh, counted, same, fun few => ⟨owned.told.vacant few, ?_⟩⟩
    have alike : hub.live.size = hub.residents.size := (List.length_map _).symm
    rw [alike, same, size_of_fresh (counted.trans few.le) fresh]

/-- An id that is handed out before a clear and used after it, and a server with one connection. -/
theorem ChannelSet.history_decides_across_clear :
    let steps : List (Step Char) :=
      [.issue, .issue, .insert 1 'a', .insert 0 'b', .remove 1, .issue, .clear, .insert 2 'c',
        .issue]
    let service : Service Unit := { handlers := [], bufferSize := 1, fresh := () }
    let server : Server Unit := { service, settings := { fresh := () } }
    let busy := (server.takeIn ⟨.unspecified, 1, 0⟩ {}).2
    steps.countP (·.issues) ≤ Word.bound ∧ EntersFresh [] steps {} ∧
      issued steps {} = [0, 1, 2, 3] ∧ (issued steps {}).Nodup ∧
      (2, 'c') ∈ (run steps {}).members ∧ Stands steps 2 'c' ∧
      (run steps {}).size = outstanding steps ∧ outstanding steps = 1 ∧
      busy.hub.Owned 1 ∧ 1 < Word.bound ∧ busy.hub.live.nextId = 1 ∧
      busy.hub.live.find? busy.hub.live.nextId = none := by
  intro steps service server busy
  have few : steps.countP (·.issues) ≤ Word.bound := by decide
  have fresh : EntersFresh [] steps {} := by decide
  have held : (2, 'c') ∈ (run steps {}).members := by decide
  have owned : busy.hub.Owned 1 := .server (.takeIn (.made service _) ⟨.unspecified, 1, 0⟩ {})
  obtain ⟨decided, endpoints⟩ := history_decides Char Unit
  obtain ⟨distinct, members, _, _, _, counted⟩ := decided steps
  obtain ⟨_, _, _, _, _, vacant⟩ := endpoints 1 _ owned
  exact ⟨few, fresh, by decide, distinct few, held, (members 2 'c').1.mp held,
    (counted few fresh).2, by decide, owned, by decide, by decide, (vacant (by decide)).1⟩

/-- Two channels that share an id count as one. -/
example :
    let steps : List (ChannelSet.Step Char) := [.issue, .insert 0 'a', .insert 0 'b']
    ¬ ChannelSet.EntersFresh [] steps {} ∧ (ChannelSet.run steps {}).size = 1 ∧
      ChannelSet.outstanding steps = 2 := by
  decide

end StreamDispatch
