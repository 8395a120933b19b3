import StreamDispatch.Proofs.Parts
import StreamDispatch.Stage.Basic

/-! Channels are apart. What a dispatch loop does to one of its channels is what it would do to the
channel alone: other channels, and the order in which a sweep comes to them, make no difference. All
that channels share are the signals and the end of the loop. -/
namespace StreamDispatch

variable {σ : Type}

namespace Hub

variable {service : Service σ} {hub : Hub σ} {id : Nat}

/-! ### What channels share -/

theorem visits_nextId (service : Service σ) (closing : Bool) (order : List Nat) (hub : Hub σ) :
    (hub.visits service closing order).live.nextId = hub.live.nextId := by
  induction order generalizing hub with
  | nil => rfl
  | cons first rest ih =>
    refine (ih _).trans ?_
    rcases hub.visit_cases service closing first with ⟨same, _⟩ | ⟨_, _, ⟨_, same⟩ | ⟨_, same⟩⟩ <;>
      rw [same] <;> rfl

theorem sweep_signals (service : Service σ) (order : List Nat) (hub : Hub σ) :
    (hub.sweep service order).signals =
      { hub.signals with
        terminated := hub.signals.terminated || hub.signals.acceptDone &&
          (hub.visits service hub.signals.closing order).live.members.isEmpty } := by
  have signals := hub.visits_signals service hub.signals.closing order
  rcases hub.sweep_cases service order with ⟨ended, same⟩ | ⟨running, news⟩
  · rw [same, ended, Bool.true_or, ← ended]
  · rw [running, Bool.false_or]
    rcases news with ⟨accepted, none, same⟩ | ⟨more, same⟩ <;> rw [same]
    · simp [accepted, none]
    · rw [signals]
      have still : (hub.signals.acceptDone &&
          (hub.visits service hub.signals.closing order).live.members.isEmpty) = false := by
        simpa [List.isEmpty_iff] using more
      rw [still, ← running]

theorem sweep_nextId (service : Service σ) (order : List Nat) (hub : Hub σ) :
    (hub.sweep service order).live.nextId = hub.live.nextId := by
  have visited := visits_nextId service hub.signals.closing order hub
  rcases hub.sweep_cases service order with ⟨_, same⟩ | ⟨_, ⟨_, _, same⟩ | ⟨_, same⟩⟩ <;> rw [same]
  · exact visited
  · exact visited

theorem enroll_shared (hub : Hub σ) (service : Service σ) :
    (hub.enroll service).2.signals = hub.signals ∧
      (hub.enroll service).2.live.nextId = (hub.live.nextId + 1) % Word.bound := by
  rcases hub.enroll_cases service with ⟨_, same⟩ | ⟨_, same⟩ <;> rw [same] <;> exact ⟨rfl, rfl⟩

theorem undergo_enroll_signals (service : Service σ) (hub : Hub σ) :
    (hub.undergo service .enroll).signals = hub.signals := by
  rw [undergo]
  split
  · rfl
  · exact (hub.enroll_shared service).1

theorem part_members_nil {hub other : Hub σ} (same : ∀ id, hub.part id = other.part id) :
    hub.live.members.isEmpty = other.live.members.isEmpty := by
  have through {first second : Hub σ} (same : ∀ id, first.part id = second.part id)
      (none : first.live.members = []) : second.live.members = [] := by
    refine List.eq_nil_iff_forall_not_mem.mpr fun member found => ?_
    have mine : member ∈ (second.part member.1).live.members :=
      ChannelSet.mem_only.mpr ⟨found, rfl⟩
    rw [← same] at mine
    simp [part, ChannelSet.only, none] at mine
  rw [Bool.eq_iff_iff, List.isEmpty_iff, List.isEmpty_iff]
  exact ⟨through same, through fun id => (same id).symm⟩

/-! ### The order of visits -/

/-- The same happenings, with other orders of the same visits in sweeps. -/
inductive Reordered : List (Happening σ) → List (Happening σ) → Prop where
  | nil : Reordered [] []
  | same (happening : Happening σ) (later : Reordered steps others) :
      Reordered (happening :: steps) (happening :: others)
  | sweep (perm : order.Perm permuted) (later : Reordered steps others) :
      Reordered (.sweep order :: steps) (.sweep permuted :: others)

/-- Two loops that differ at most in the order of their sessions. -/
structure Matched (hub other : Hub σ) : Prop where
  parts : ∀ id, hub.part id = other.part id
  nextId : hub.live.nextId = other.live.nextId
  signals : hub.signals = other.signals
  keyed : hub.Keyed
  otherKeyed : other.Keyed

namespace Matched

variable {other : Hub σ}

theorem sweep (matched : Matched hub other) (service : Service σ) {order permuted : List Nat}
    (perm : order.Perm permuted) :
    Matched (hub.undergo service (.sweep order)) (other.undergo service (.sweep permuted)) := by
  have visits (id : Nat) : order.filter (· == id) = permuted.filter (· == id) := by
    rw [List.filter_beq, List.filter_beq, perm.count_eq]
  have visited : (hub.visits service hub.signals.closing order).live.members.isEmpty =
      (other.visits service other.signals.closing permuted).live.members.isEmpty := by
    apply part_members_nil
    intro id
    rw [part_visits matched.keyed, part_visits matched.otherKeyed, matched.parts, matched.signals,
      visits]
  exact
    { parts := by
        intro id
        rw [part_undergo matched.keyed, part_undergo matched.otherKeyed, matched.parts,
          matched.signals, matched.nextId, follow, follow, visits]
      nextId := by
        rw [undergo, undergo, sweep_nextId, sweep_nextId, matched.nextId]
      signals := by
        rw [undergo, undergo, sweep_signals, sweep_signals, visited, matched.signals]
      keyed := matched.keyed.undergo service _
      otherKeyed := matched.otherKeyed.undergo service _ }

theorem undergo (matched : Matched hub other) (service : Service σ) (happening : Happening σ) :
    Matched (hub.undergo service happening) (other.undergo service happening) := by
  have parts (id : Nat) : (hub.undergo service happening).part id =
      (other.undergo service happening).part id := by
    rw [part_undergo matched.keyed, part_undergo matched.otherKeyed, matched.parts,
      matched.signals, matched.nextId]
  have keyed := matched.keyed.undergo service happening
  have otherKeyed := matched.otherKeyed.undergo service happening
  have signals := matched.signals
  cases happening with
  | enroll =>
    refine ⟨parts, ?_, ?_, keyed, otherKeyed⟩ <;> rw [Hub.undergo, Hub.undergo, signals] <;> split
    · exact matched.nextId
    · rw [(hub.enroll_shared service).2, (other.enroll_shared service).2, matched.nextId]
    · exact signals
    · rw [(hub.enroll_shared service).1, (other.enroll_shared service).1, signals]
  | spend =>
    refine ⟨parts, ?_, ?_, keyed, otherKeyed⟩ <;> rw [Hub.undergo, Hub.undergo, signals] <;> split
    · exact matched.nextId
    · simp only [Hub.spend, ChannelSet.issue, matched.nextId]
    · exact signals
    · exact signals
  | touch => exact ⟨parts, matched.nextId, signals, keyed, otherKeyed⟩
  | sweep order => exact matched.sweep service (.refl order)
  | closing | acceptDone | forceClose =>
    refine ⟨parts, matched.nextId, ?_, keyed, otherKeyed⟩
    simp only [Hub.undergo, forceClose, signals]

theorem undergoAll {steps others : List (Happening σ)} (matched : Matched hub other)
    (service : Service σ) (reordered : Reordered steps others) :
    Matched (hub.undergoAll service steps) (other.undergoAll service others) := by
  induction reordered generalizing hub other with
  | nil => exact matched
  | same happening _ ih => exact ih (matched.undergo service happening)
  | sweep perm _ ih => exact ih (matched.sweep service perm)

end Matched

/-! ### One channel alone -/

/-- What is left of a happening if all channels but one are taken away. -/
def Happening.concerning (id : Nat) : Happening σ → Option (Happening σ)
  | .enroll | .spend => none
  | .touch touched change => if touched = id then some (.touch touched change) else none
  | .sweep order => some (.sweep (order.filter (· == id)))
  | .closing => some .closing
  | .acceptDone => some .acceptDone
  | .forceClose => some .forceClose

/-- The ids that a happening hands out to sessions. -/
def issues (hub : Hub σ) : Happening σ → List Nat
  | .enroll => if hub.signals.acceptDone then [] else [hub.live.nextId]
  | .spend | .touch _ _ | .sweep _ | .closing | .acceptDone | .forceClose => []

/-- The ids that are handed out, the first one first. -/
def issued (service : Service σ) : List (Happening σ) → Hub σ → List Nat
  | [], _ => []
  | first :: rest, hub => hub.issues first ++ issued service rest (hub.undergo service first)

theorem issued_append (service : Service σ) (earlier later : List (Happening σ)) (hub : Hub σ) :
    issued service (earlier ++ later) hub =
      issued service earlier hub ++ issued service later (hub.undergoAll service earlier) := by
  induction earlier generalizing hub with
  | nil => rfl
  | cons first rest ih =>
    rw [List.cons_append, issued, ih, issued, List.append_assoc]
    rfl

theorem issue_cases (service : Service σ) (hub : Hub σ) (happening : Happening σ) :
    hub.issues happening = [] ∧
        ((hub.undergo service happening).live.nextId = hub.live.nextId ∨
          (hub.undergo service happening).live.nextId = (hub.live.nextId + 1) % Word.bound) ∨
      hub.issues happening = [hub.live.nextId] ∧
        (hub.undergo service happening).live.nextId = (hub.live.nextId + 1) % Word.bound := by
  cases happening with
  | enroll =>
    rw [issues, undergo]
    split
    · exact .inl ⟨rfl, .inl rfl⟩
    · exact .inr ⟨rfl, (hub.enroll_shared service).2⟩
  | spend =>
    rw [issues, undergo]
    split
    · exact .inl ⟨rfl, .inl rfl⟩
    · exact .inl ⟨rfl, .inr rfl⟩
  | sweep order => exact .inl ⟨rfl, .inl (sweep_nextId service order hub)⟩
  | touch | closing | acceptDone | forceClose => exact .inl ⟨rfl, .inl rfl⟩

/-- As long as ids do not run out they are handed out in turn. -/
theorem issued_rise (service : Service σ) {happenings : List (Happening σ)} {count : Nat}
    (next : hub.live.nextId = count % Word.bound)
    (few : count + happenings.length ≤ Word.bound) :
    (issued service happenings hub).Nodup ∧ ∀ id ∈ issued service happenings hub, count ≤ id := by
  induction happenings generalizing hub count with
  | nil => exact ⟨List.nodup_nil, by simp [issued]⟩
  | cons first rest ih =>
    rw [List.length_cons] at few
    have inRange : hub.live.nextId = count := next.trans (Nat.mod_eq_of_lt (by omega))
    rw [issued]
    rcases issue_cases service hub first with ⟨none, same | taken⟩ | ⟨one, taken⟩
    · rw [none]
      exact ih (same.trans next) (by omega)
    · obtain ⟨distinct, above⟩ := ih (inRange ▸ taken) (by omega)
      rw [none]
      exact ⟨distinct, fun id member => Nat.le_of_succ_le (above id member)⟩
    · obtain ⟨distinct, above⟩ := ih (inRange ▸ taken) (by omega)
      rw [one, inRange]
      refine ⟨List.nodup_cons.mpr ⟨fun member => ?_, distinct⟩, fun id member => ?_⟩
      · exact absurd (above count member) (Nat.not_succ_le_self count)
      · rcases List.mem_cons.mp member with rfl | later
        · exact Nat.le_refl _
        · exact Nat.le_of_succ_le (above id later)

theorem issued_nodup (service : Service σ) {happenings : List (Happening σ)}
    (few : happenings.length ≤ Word.bound) : (issued service happenings {}).Nodup := by
  have next : ({} : Hub σ).live.nextId = 0 % Word.bound := rfl
  exact (issued_rise service next (by rwa [Nat.zero_add])).1

theorem follow_enroll (unissued : id ∉ hub.issues .enroll) (own : Hub σ) :
    own.follow service hub.signals hub.live.nextId id .enroll = own := by
  refine if_pos ?_
  cases done : hub.signals.acceptDone with
  | true => rfl
  | false =>
    have differs : hub.live.nextId ≠ id := by
      rintro rfl
      simp [issues, done] at unissued
    simpa using differs

theorem part_absent (keyed : hub.Keyed) {happenings : List (Happening σ)}
    (unissued : id ∉ issued service happenings hub) (absent : hub.part id = {}) :
    (hub.undergoAll service happenings).part id = {} := by
  induction happenings generalizing hub with
  | nil => exact absent
  | cons first rest ih =>
    rw [issued, List.mem_append, not_or] at unissued
    refine ih (keyed.undergo service first) unissued.2 ?_
    rw [part_undergo keyed, absent]
    cases first with
    | enroll => exact follow_enroll unissued.1 {}
    | touch touched change =>
      rw [follow]
      split <;> rfl
    | sweep order => rw [follow, visits_absent rfl, ite_self]
    | spend | closing | acceptDone | forceClose => rfl

/-- A loop without sessions that is to hand this id out. -/
def vacant (id : Nat) (signals : Signals) : Hub σ := { live := { nextId := id }, signals }

theorem vacant_keyed (id : Nat) (signals : Signals) : (vacant id signals : Hub σ).Keyed :=
  fun _ found => nomatch found

/-- A loop with many channels beside a loop with one of them. The loop of one may end sooner, but
only when nothing is left to do. -/
structure Lone (id : Nat) (hub alone : Hub σ) : Prop where
  part : alone.part id = hub.part id
  sole : ∀ member ∈ alone.live.members, member.1 = id
  closing : alone.signals.closing = hub.signals.closing
  acceptDone : alone.signals.acceptDone = hub.signals.acceptDone
  ends : hub.signals.terminated = true → alone.signals.terminated = true
  empty : alone.signals.terminated = true → alone.live.members = []
  keyed : hub.Keyed
  aloneKeyed : alone.Keyed

namespace Lone

variable {alone : Hub σ}

theorem part_members (sole : ∀ member ∈ hub.live.members, member.1 = id) :
    (hub.part id).live.members = hub.live.members :=
  List.filter_eq_self.mpr fun member found => by simpa using sole member found

theorem undergo_sole (sole : ∀ member ∈ alone.live.members, member.1 = id) (service : Service σ)
    {happening : Happening σ} (other : happening ≠ .enroll) :
    ∀ member ∈ (alone.undergo service happening).live.members, member.1 = id :=
  undergo_members (fun key _ => key = id) happening (fun _ => .inr other) (fun _ _ _ same => same)
    (fun _ _ _ same => same) sole

theorem visits (lone : Lone id hub alone) (service : Service σ) (order : List Nat) :
    (alone.visits service alone.signals.closing (order.filter (· == id))).part id =
      (hub.visits service hub.signals.closing order).part id := by
  rw [part_visits lone.keyed, part_visits lone.aloneKeyed, lone.part, lone.closing,
    List.filter_filter]
  simp only [Bool.and_self]

theorem visits_nil (lone : Lone id hub alone) (service : Service σ) {order : List Nat}
    (none : (hub.visits service hub.signals.closing order).live.members = []) :
    (alone.visits service alone.signals.closing (order.filter (· == id))).live.members = [] := by
  have sole := visits_members service alone.signals.closing (fun key _ => key = id)
    (fun _ _ same => same) (order.filter (· == id)) lone.sole
  rw [← part_members sole, lone.visits]
  simp [Hub.part, ChannelSet.only, none]

theorem sweep (lone : Lone id hub alone) (service : Service σ) (order : List Nat) :
    Lone id (hub.undergo service (.sweep order))
      (alone.undergo service (.sweep (order.filter (· == id)))) where
  part := by
    rw [part_undergo lone.keyed, part_undergo lone.aloneKeyed, lone.part, follow, follow,
      lone.closing, List.filter_filter]
    simp only [Bool.and_self]
    cases finished : alone.signals.terminated with
    | false =>
      have running : hub.signals.terminated ≠ true := fun ended => by
        simp [lone.ends ended] at finished
      rw [if_neg running, if_neg (by simp)]
    | true =>
      have absent : (hub.part id).live.members = [] := by
        rw [← lone.part, part_members lone.sole, lone.empty finished]
      rw [visits_absent absent, ite_self, ite_self]
  sole := undergo_sole lone.sole service (by simp)
  closing := by
    rw [undergo, undergo, sweep_signals, sweep_signals]
    exact lone.closing
  acceptDone := by
    rw [undergo, undergo, sweep_signals, sweep_signals]
    exact lone.acceptDone
  ends := by
    rw [undergo, undergo, sweep_signals, sweep_signals]
    intro ended
    simp only [Bool.or_eq_true, Bool.and_eq_true, List.isEmpty_iff] at ended ⊢
    rcases ended with before | ⟨accepted, none⟩
    · exact .inl (lone.ends before)
    · exact .inr ⟨lone.acceptDone.trans accepted, lone.visits_nil service none⟩
  empty := by
    rw [undergo]
    intro ended
    rcases alone.sweep_cases service (order.filter (· == id)) with
      ⟨finished, same⟩ | ⟨running, ⟨_, none, same⟩ | ⟨_, same⟩⟩ <;> rw [same] at ended ⊢
    · exact lone.empty finished
    · exact none
    · simp [visits_signals, running] at ended
  keyed := lone.keyed.undergo service _
  aloneKeyed := lone.aloneKeyed.undergo service _

theorem undergo_other (lone : Lone id hub alone) (service : Service σ) {happening : Happening σ}
    (blind : (hub.part id).follow service hub.signals hub.live.nextId id happening = hub.part id)
    (signals : (hub.undergo service happening).signals = hub.signals) :
    Lone id (hub.undergo service happening) alone :=
  { lone with
    part := by rw [part_undergo lone.keyed, blind, lone.part]
    closing := by rw [signals, lone.closing]
    acceptDone := by rw [signals, lone.acceptDone]
    ends := by
      rw [signals]
      exact lone.ends
    keyed := lone.keyed.undergo service happening }

theorem touch (lone : Lone id hub alone) (service : Service σ) (change : Session.Change σ) :
    Lone id (hub.undergo service (.touch id change))
      (alone.undergo service (.touch id change)) where
  part := by
    rw [part_undergo lone.keyed, part_undergo lone.aloneKeyed, lone.part]
    rfl
  sole := undergo_sole lone.sole service (by simp)
  closing := lone.closing
  acceptDone := lone.acceptDone
  ends := lone.ends
  empty := fun finished => by simp [Hub.undergo, Hub.touch, ChannelSet.update, lone.empty finished]
  keyed := lone.keyed.undergo service _
  aloneKeyed := lone.aloneKeyed.undergo service _

theorem forceClose (lone : Lone id hub alone) (service : Service σ) :
    Lone id (hub.undergo service .forceClose) (alone.undergo service .forceClose) where
  part := by
    rw [part_undergo lone.keyed, part_undergo lone.aloneKeyed, lone.part]
    rfl
  sole := undergo_sole lone.sole service (by simp)
  closing := rfl
  acceptDone := lone.acceptDone
  ends := fun _ => rfl
  empty := fun _ => rfl
  keyed := lone.keyed.undergo service _
  aloneKeyed := lone.aloneKeyed.undergo service _

theorem undergo (lone : Lone id hub alone) (service : Service σ) (happening : Happening σ)
    (unissued : id ∉ hub.issues happening) :
    Lone id (hub.undergo service happening)
      (match happening.concerning id with
        | some own => alone.undergo service own
        | none => alone) := by
  cases happening with
  | enroll =>
    exact lone.undergo_other service (follow_enroll unissued _) (undergo_enroll_signals service hub)
  | spend =>
    refine lone.undergo_other service rfl ?_
    rw [Hub.undergo]
    split <;> rfl
  | touch touched change =>
    rw [Happening.concerning]
    by_cases mine : touched = id
    · subst mine
      rw [if_pos rfl]
      exact lone.touch service change
    · rw [if_neg mine]
      exact lone.undergo_other service (if_neg mine) rfl
  | sweep order => exact lone.sweep service order
  | closing => exact { lone with closing := rfl }
  | acceptDone => exact { lone with acceptDone := rfl }
  | forceClose => exact lone.forceClose service

theorem undergoAll (lone : Lone id hub alone) (service : Service σ)
    (happenings : List (Happening σ)) (unissued : id ∉ issued service happenings hub) :
    Lone id (hub.undergoAll service happenings)
      (alone.undergoAll service (happenings.filterMap (·.concerning id))) := by
  induction happenings generalizing hub alone with
  | nil => exact lone
  | cons first rest ih =>
    rw [issued, List.mem_append, not_or] at unissued
    have later := ih (lone.undergo service first unissued.1) unissued.2
    rw [List.filterMap_cons]
    cases own : first.concerning id <;> rw [own] at later <;> exact later

/-- A channel enters a loop that never knew its id, and a loop of its own under the same signals. -/
theorem enter (keyed : hub.Keyed) (service : Service σ) (absent : hub.part hub.live.nextId = {}) :
    Lone hub.live.nextId (hub.undergo service .enroll)
      ((vacant hub.live.nextId hub.signals).undergo service .enroll) := by
  have signals := undergo_enroll_signals service hub
  have vacantSignals := undergo_enroll_signals service (vacant hub.live.nextId hub.signals)
  have vacantKeyed : (vacant hub.live.nextId hub.signals : Hub σ).Keyed := vacant_keyed _ _
  have members : ((vacant hub.live.nextId hub.signals).undergo service .enroll).live.members = [] ∨
      hub.signals.terminated = false ∧
        ((vacant hub.live.nextId hub.signals).undergo service .enroll).live.members =
          [(hub.live.nextId, service.session hub.live.nextId)] := by
    rw [Hub.undergo]
    split
    · exact .inl rfl
    · rcases (vacant hub.live.nextId hub.signals).enroll_cases service with
        ⟨_, same⟩ | ⟨running, same⟩ <;> rw [same]
      · exact .inl rfl
      · exact .inr ⟨running, rfl⟩
  exact
    { part := by
        rw [part_undergo keyed, part_undergo vacantKeyed, absent]
        rfl
      sole := by
        rcases members with none | ⟨_, one⟩
        · simp [none]
        · simp [one]
      closing := by rw [signals, vacantSignals, vacant]
      acceptDone := by rw [signals, vacantSignals, vacant]
      ends := by
        rw [signals, vacantSignals]
        exact fun ended => ended
      empty := by
        rw [vacantSignals]
        intro ended
        rcases members with none | ⟨running, _⟩
        · exact none
        · rw [vacant, running] at ended
          simp at ended
      keyed := keyed.undergo service .enroll
      aloneKeyed := vacantKeyed.undergo service .enroll }

/-- What is a snapshot of all live channels is one of the channel alone, as far as it goes. -/
theorem snapshot (lone : Lone id hub alone) {order : List Nat} (perm : order.Perm hub.live.ids) :
    (order.filter (· == id)).Perm alone.live.ids := by
  have ids : alone.live.ids = hub.live.ids.filter (· == id) := by
    rw [ChannelSet.ids, ← part_members lone.sole, lone.part]
    simp only [Hub.part, ChannelSet.only, ChannelSet.ids, List.filter_map]
    rfl
  rw [ids]
  exact perm.filter _

end Lone

/-! ### Nobody gets lost -/

theorem mem_known_visits (keyed : hub.Keyed) (member : id ∈ hub.known) (service : Service σ)
    (closing : Bool) (order : List Nat) : id ∈ (hub.visits service closing order).known := by
  induction order generalizing hub with
  | nil => exact member
  | cons first rest ih =>
    exact ih (keyed.visit service closing first)
      (mem_known_visit keyed member service closing first)

theorem mem_known_undergo (keyed : hub.Keyed) (member : id ∈ hub.known) (service : Service σ)
    (happening : Happening σ) : id ∈ (hub.undergo service happening).known := by
  cases happening with
  | enroll =>
    rw [undergo]
    split
    · exact member
    · exact mem_known_enroll member service
  | spend =>
    rw [undergo]
    split <;> exact member
  | touch touched change => exact (known_touch hub touched change.keeps).symm ▸ member
  | sweep order =>
    have visited := mem_known_visits keyed member service hub.signals.closing order
    rw [undergo]
    rcases hub.sweep_cases service order with ⟨_, same⟩ | ⟨_, ⟨_, _, same⟩ | ⟨_, same⟩⟩ <;>
      rw [same]
    · exact member
    · exact visited
    · exact visited
  | closing | acceptDone => exact member
  | forceClose => exact (known_forceClose keyed).symm ▸ member

/-- Whoever is known is found, live or let go. -/
theorem find?_known (member : id ∈ hub.known) : ∃ session, hub.find? id = some session := by
  unfold find?
  cases found : hub.live.find? id with
  | some session => exact ⟨session, rfl⟩
  | none =>
    rcases List.mem_append.mp member with gone | live
    · obtain ⟨session, present, same⟩ := List.mem_map.mp gone
      refine Option.isSome_iff_exists.mp (List.find?_isSome.mpr ⟨session, present, ?_⟩)
      simpa using same
    · exact absurd live (ChannelSet.find?_none found)

theorem mem_known_undergoAll (keyed : hub.Keyed) (member : id ∈ hub.known) (service : Service σ)
    (happenings : List (Happening σ)) : id ∈ (hub.undergoAll service happenings).known := by
  induction happenings generalizing hub with
  | nil => exact member
  | cons first rest ih =>
    exact ih (keyed.undergo service first) (mem_known_undergo keyed member service first)

theorem enroll_known (service : Service σ) (accepts : hub.signals.acceptDone = false) :
    hub.live.nextId ∈ (hub.undergo service .enroll).known := by
  rw [undergo, if_neg (by simp [accepts])]
  rcases known_enroll hub service with same | same <;> rw [same] <;> simp

/-- Channels are apart. Let a channel enter a loop at any time, whatever happened before, and let
anything happen after that, as long as no two channels are given one id. Then the channel has the
session that it has in a loop of its own that undergoes only what concerns it, and both loops keep
it, or both have let it go. The visits of the other loop are snapshots where those of the first loop
are; it is closed when the first one is closed, and it only ends sooner once it is empty. And in
which order sweeps come to the channels makes no difference to anyone. -/
theorem channels_apart (service : Service σ) (earlier later : List (Happening σ))
    (accepts : (undergoAll service earlier {}).signals.acceptDone = false)
    (distinct : (issued service (earlier ++ .enroll :: later) {}).Nodup) :
    let before := undergoAll service earlier {}
    let id := before.live.nextId
    let among (happenings : List (Happening σ)) := before.undergoAll service (.enroll :: happenings)
    let apart (happenings : List (Happening σ)) :=
      (vacant id before.signals).undergoAll service
        (.enroll :: happenings.filterMap (·.concerning id))
    (∃ session, (among later).find? id = some session ∧ (apart later).find? id = some session) ∧
      (apart later).live.find? id = (among later).live.find? id ∧
      (∀ first order rest, later = first ++ .sweep order :: rest →
        order.Perm (among first).live.ids →
        (order.filter (· == id)).Perm (apart first).live.ids) ∧
      (apart later).signals.closing = (among later).signals.closing ∧
      (apart later).signals.acceptDone = (among later).signals.acceptDone ∧
      ((among later).signals.terminated = true → (apart later).signals.terminated = true) ∧
      ((apart later).signals.terminated = true → (apart later).live.members = []) ∧
      ∀ others, Reordered (earlier ++ .enroll :: later) others →
        let reordered := undergoAll service others {}
        reordered.signals = (among later).signals ∧
          ∀ id, reordered.find? id = (among later).find? id ∧
            reordered.live.find? id = (among later).live.find? id := by
  intro before id among apart
  have start : ({} : Hub σ).Keyed := fun _ found => nomatch found
  have keyed : before.Keyed := start.undergoAll service earlier
  have entry : before.issues (.enroll : Happening σ) = [id] := if_neg (by simp [before, accepts])
  rw [issued_append, issued, entry] at distinct
  obtain ⟨_, once, before'⟩ := List.nodup_append.mp distinct
  have never : id ∉ issued service later (before.undergo service .enroll) :=
    (List.nodup_cons.mp once).1
  have unknown : id ∉ issued service earlier {} := fun member =>
    before' id member id (List.mem_append_left _ (List.mem_singleton_self id)) rfl
  have absent : before.part id = {} := part_absent start unknown rfl
  have lone (first rest : List (Happening σ)) (part : later = first ++ rest) :
      Lone id (among first) (apart first) := by
    refine (Lone.enter keyed service absent).undergoAll service first fun member => never ?_
    rw [part, issued_append]
    exact List.mem_append_left _ member
  have whole := lone later [] (List.append_nil _).symm
  have found := find?_of_part whole.part
  obtain ⟨session, present⟩ := find?_known (mem_known_undergoAll (keyed.undergo service .enroll)
    (enroll_known service accepts) service later)
  refine ⟨⟨session, present, found.1.trans present⟩, found.2, ?_, whole.closing, whole.acceptDone,
    whole.ends, whole.empty, ?_⟩
  · intro first order rest split perm
    exact (lone first _ split).snapshot perm
  · intro others reordered
    have matched : Matched ({} : Hub σ) {} := ⟨fun _ => rfl, rfl, rfl, start, start⟩
    have same := matched.undergoAll service reordered
    rw [undergoAll_append] at same
    refine ⟨same.signals.symm, fun id => ?_⟩
    obtain ⟨session, live⟩ := find?_of_part (same.parts id)
    exact ⟨session.symm, live.symm⟩

end Hub

/-- What comes is cut in pieces of one byte, and these come back. The chain panics over a 9. -/
def Service.nines : Service Unit where
  handlers := [(Stage.take 1).handler, (Stage.panic (some [9]) (.text "nine")).handler,
    Stage.echoHandler]
  bufferSize := 4
  fresh := ()

/-- The first channel panics, is locked for a while and is closed last. The second one does not see
any of it, and it does not matter which of them sweeps come to first. -/
theorem Hub.channels_apart_nines :
    let arrive (id : Nat) (bytes : Bytes) : Happening Unit :=
      .touch id (.ofStep Service.nines (.arrive bytes))
    let earlier : List (Happening Unit) := [.enroll, .sweep [0], arrive 0 [9]]
    let later : List (Happening Unit) :=
      [.sweep [0, 1], arrive 1 [7], .touch 0 .lock, .sweep [1, 0], .closing, .acceptDone,
        .sweep [0, 1], .sweep [0, 1], .touch 0 .unlock, .sweep [0], .sweep [0], .sweep []]
    let before := Hub.undergoAll Service.nines earlier {}
    let hub := before.undergoAll Service.nines (.enroll :: later)
    let alone := (vacant 1 before.signals).undergoAll Service.nines
      (.enroll :: later.filterMap (·.concerning 1))
    before.live.nextId = 1 ∧ before.signals.acceptDone = false ∧
      (issued Service.nines (earlier ++ .enroll :: later) {}).Nodup ∧
      hub.signals.terminated = true ∧
      (hub.find? 0).map (·.channel.connection.delivered) = some [] ∧
      (hub.find? 1).map (·.channel.connection.delivered) = some [7] ∧
      ∃ session, hub.find? 1 = some session ∧ alone.find? 1 = some session := by
  intro arrive earlier later before hub alone
  have accepts : before.signals.acceptDone = false := rfl
  have distinct : (issued Service.nines (earlier ++ .enroll :: later) {}).Nodup :=
    issued_nodup Service.nines (by decide)
  have apart := channels_apart Service.nines earlier later accepts distinct
  exact ⟨rfl, accepts, distinct, by decide, by decide, by decide, apart.1⟩

end StreamDispatch
