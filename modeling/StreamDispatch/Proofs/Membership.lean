import Mathlib.Data.List.Perm.Subperm
import Mathlib.Data.Set.Card
import StreamDispatch.Proofs.Population

/-! Who is in a set of channels, told from its history alone. A set remembers its members and the id
to hand out next. Everything it has to say about them can be read off the steps that were taken: ids
come in turn, the last step that settles an id decides about it, and channels that go in under ids
of their own never meet. -/
namespace StreamDispatch.ChannelSet

variable {α : Type}

/-! ### Histories -/

def run (steps : List (Step α)) (set : ChannelSet α) : ChannelSet α := steps.foldl step set

@[simp] theorem run_append (earlier later : List (Step α)) (set : ChannelSet α) :
    set.run (earlier ++ later) = (set.run earlier).run later := by
  simp [run]

namespace Step

def issues : Step α → Bool
  | .issue => true
  | .insert .. | .remove _ | .clear => false

/-- What is put in, and under which id. -/
def entry? : Step α → Option (Nat × α)
  | .insert id channel => some (id, channel)
  | .issue | .remove _ | .clear => none

/-- Whoever is in under the id is taken out, and nobody takes the place. -/
def dismisses (id : Nat) : Step α → Bool
  | .remove other => id == other
  | .clear => true
  | .issue | .insert .. => false

/-- Whoever was in under the id before no longer matters. -/
def settles (id : Nat) : Step α → Bool
  | .insert other _ | .remove other => id == other
  | .clear => true
  | .issue => false

end Step

def issued : List (Step α) → ChannelSet α → List Nat
  | [], _ => []
  | .issue :: later, set => set.issue.1 :: issued later set.issue.2
  | .insert id channel :: later, set => issued later (set.insert id channel)
  | .remove id :: later, set => issued later (set.remove id)
  | .clear :: later, set => issued later set.clear

/-- The ids that a history puts channels in under. -/
def entered (steps : List (Step α)) : List Nat :=
  steps.filterMap fun step => step.entry?.map (·.1)

/-- The latest insert under the id is of this channel, and it comes after the latest remove of the
id and after the latest clear. -/
def Stands (steps : List (Step α)) (id : Nat) (channel : α) : Prop :=
  ∃ earlier later, steps = earlier ++ .insert id channel :: later ∧
    ∀ step ∈ later, step.settles id = false

/-- Every channel goes in under an id of its own, one that was handed out and nothing went in under
yet. Such ids are held until they are used. -/
def EntersFresh (held : List Nat) : List (Step α) → ChannelSet α → Prop
  | [], _ => True
  | .issue :: later, set => EntersFresh (set.issue.1 :: held) later set.issue.2
  | .insert id channel :: later, set =>
    id ∈ held ∧ EntersFresh (held.erase id) later (set.insert id channel)
  | .remove id :: later, set => EntersFresh held later (set.remove id)
  | .clear :: later, set => EntersFresh held later set.clear

instance decidableEntersFresh : (held : List Nat) → (steps : List (Step α)) →
    (set : ChannelSet α) → Decidable (EntersFresh held steps set)
  | _, [], _ => .isTrue trivial
  | held, .issue :: later, set => decidableEntersFresh (set.issue.1 :: held) later set.issue.2
  | held, .insert id channel :: later, set =>
    have := decidableEntersFresh (held.erase id) later (set.insert id channel)
    inferInstanceAs (Decidable (id ∈ held ∧ _))
  | held, .remove id :: later, set => decidableEntersFresh held later (set.remove id)
  | held, .clear :: later, set => decidableEntersFresh held later set.clear

/-- The number of channels put in since the last clear and not taken out again. -/
def outstanding : List (Step α) → Nat
  | [] => 0
  | .insert id _ :: later => outstanding later + if later.any (·.dismisses id) then 0 else 1
  | .issue :: later | .remove _ :: later | .clear :: later => outstanding later

/-! ### Ids in turn -/

/-- Ids are handed out in turn, whatever else is done to the set, and start over after the last
word. -/
theorem issued_eq (steps : List (Step α)) {set : ChannelSet α} (count : Nat)
    (next : set.nextId = count % Word.bound) :
    issued steps set =
      (List.range' count (steps.countP (·.issues))).map (· % Word.bound) := by
  induction steps generalizing set count with
  | nil => rfl
  | cons first later ih =>
    cases first with
    | issue =>
      have after : set.issue.2.nextId = (count + 1) % Word.bound := by simp [issue, next]
      rw [issued, ih _ after, List.countP_cons_of_pos rfl, List.range'_succ, List.map_cons, ← next]
      rfl
    | insert id channel => exact @ih (set.insert id channel) count next
    | remove id => exact @ih (set.remove id) count next
    | clear => exact @ih set.clear count next

theorem issued_append (earlier later : List (Step α)) (set : ChannelSet α) :
    issued (earlier ++ later) set = issued earlier set ++ issued later (set.run earlier) := by
  induction earlier generalizing set with
  | nil => rfl
  | cons first rest ih =>
    cases first with
    | issue => exact congrArg (set.nextId :: ·) (ih set.issue.2)
    | insert id channel => exact ih (set.insert id channel)
    | remove id => exact ih (set.remove id)
    | clear => exact ih set.clear

theorem issued_nodup {steps : List (Step α)} (few : steps.countP (·.issues) ≤ Word.bound) :
    (issued steps {}).Nodup := by
  rw [issued_eq steps 0 rfl]
  refine List.Nodup.map_on (fun first member second other same => ?_) List.nodup_range'
  simp only [List.mem_range'_1, Nat.zero_add] at member other
  rwa [Nat.mod_eq_of_lt (by omega), Nat.mod_eq_of_lt (by omega)] at same

/-! ### Who is in -/

/-- Everything that is put in and not settled later, in the order in which it came. -/
def lasting : List (Step α) → List (Nat × α)
  | [] => []
  | step :: later =>
    (step.entry?.toList.filter fun member => !later.any (·.settles member.1)) ++ lasting later

theorem members_step (set : ChannelSet α) (step : Step α) :
    (set.step step).members =
      (set.members.filter fun member => !step.settles member.1) ++ step.entry?.toList := by
  cases step <;>
    simp [ChannelSet.step, issue, insert, remove, clear, Step.settles, Step.entry?, bne]

theorem members_run (steps : List (Step α)) (set : ChannelSet α) :
    (set.run steps).members =
      (set.members.filter fun member => !steps.any (·.settles member.1)) ++ lasting steps := by
  induction steps generalizing set with
  | nil => simp [run, lasting]
  | cons first later ih =>
    rw [run, List.foldl_cons, ← run, ih, members_step, List.filter_append, List.filter_filter,
      lasting, List.append_assoc]
    simp [Bool.and_comm]

theorem members_fresh (steps : List (Step α)) : (run steps {}).members = lasting steps := by
  simp [members_run]

theorem ids_nodup (steps : List (Step α)) {set : ChannelSet α} (distinct : set.ids.Nodup) :
    (set.run steps).ids.Nodup := by
  induction steps generalizing set with
  | nil => exact distinct
  | cons first later ih =>
    refine @ih (set.step first) ?_
    cases first with
    | issue => exact distinct
    | insert id channel => exact nodup_insert distinct id channel
    | remove id => exact nodup_remove distinct id
    | clear => exact List.nodup_nil

theorem stands_cons {first : Step α} {later : List (Step α)} {id : Nat} {channel : α} :
    Stands (first :: later) id channel ↔
      first = .insert id channel ∧ (∀ step ∈ later, step.settles id = false) ∨
        Stands later id channel := by
  constructor
  · rintro ⟨earlier, rest, split, quiet⟩
    rcases List.cons_eq_append_iff.mp split with ⟨rfl, same⟩ | ⟨more, rfl, rfl⟩
    · obtain ⟨rfl, rfl⟩ := List.cons.inj same
      exact .inl ⟨rfl, quiet⟩
    · exact .inr ⟨more, rest, rfl, quiet⟩
  · rintro (⟨rfl, quiet⟩ | ⟨earlier, rest, rfl, quiet⟩)
    · exact ⟨[], later, rfl, quiet⟩
    · exact ⟨first :: earlier, rest, rfl, quiet⟩

theorem mem_lasting {steps : List (Step α)} {id : Nat} {channel : α} :
    (id, channel) ∈ lasting steps ↔ Stands steps id channel := by
  induction steps with
  | nil => simp [lasting, Stands]
  | cons first later ih =>
    rw [lasting, List.mem_append, ih, stands_cons, List.mem_filter]
    refine or_congr_left (and_congr ?_ (by simp))
    cases first <;> simp [Step.entry?, eq_comm]

theorem mem_run {steps : List (Step α)} {id : Nat} {channel : α} :
    (id, channel) ∈ (run steps {}).members ↔ Stands steps id channel := by
  rw [members_fresh, mem_lasting]

theorem find?_eq_some {set : ChannelSet α} (distinct : set.ids.Nodup) {id : Nat} {channel : α} :
    set.find? id = some channel ↔ (id, channel) ∈ set.members := by
  refine ⟨find?_mem, fun present => ?_⟩
  cases found : set.find? id with
  | none => exact absurd (List.mem_map.mpr ⟨_, present, rfl⟩) (find?_none found)
  | some other =>
    have same := List.inj_on_of_nodup_map distinct (find?_mem found) present rfl
    exact congrArg some (Prod.ext_iff.mp same).2

theorem size_run (steps : List (Step α)) :
    ((run steps {}).size : ℕ∞) = {id | ∃ channel, Stands steps id channel}.encard := by
  have distinct : (run steps {}).ids.Nodup := ids_nodup steps List.nodup_nil
  have same : {id | ∃ channel, Stands steps id channel} = (run steps {}).ids.toFinset := by
    ext id
    simp [ids, mem_run]
  rw [same, Set.encard_coe_eq_coe_finsetCard, List.toFinset_card_of_nodup distinct, ids,
    List.length_map, size]

theorem remove_absent {set : ChannelSet α} {id : Nat}
    (absent : ∀ channel, (id, channel) ∉ set.members) : set.remove id = set := by
  have kept : set.members.filter (fun member => member.1 != id) = set.members := by
    refine List.filter_eq_self.mpr fun member present => bne_iff_ne.mpr ?_
    rintro rfl
    exact absent _ present
  rw [remove, kept]

/-! ### Ids of their own -/

/-- What is put in under ids of its own uses ids that were held before or were handed out. -/
theorem entered_subperm {steps : List (Step α)} {held : List Nat} {set : ChannelSet α}
    (fresh : EntersFresh held steps set) : (entered steps).Subperm (held ++ issued steps set) := by
  induction steps generalizing held set with
  | nil => exact List.nil_subperm
  | cons first later ih =>
    cases first with
    | issue => exact (ih fresh).trans List.perm_middle.symm.subperm
    | insert id channel =>
      -- The id is held no more once it is used.
      obtain ⟨own, fresh⟩ := fresh
      have used : (id :: entered later).Subperm
          (id :: (held.erase id ++ issued later (set.insert id channel))) :=
        (List.subperm_cons id).mpr (ih fresh)
      exact used.trans ((List.perm_cons_erase own).symm.append_right _).subperm
    | remove id => exact @ih held (set.remove id) fresh
    | clear => exact @ih held set.clear fresh

theorem entered_nodup {steps : List (Step α)} (few : steps.countP (·.issues) ≤ Word.bound)
    (fresh : EntersFresh [] steps {}) : (entered steps).Nodup := by
  rw [List.nodup_iff_count_le_one]
  intro id
  exact ((entered_subperm fresh).count_le id).trans (List.nodup_iff_count_le_one.mp
    (issued_nodup few) id)

/-- A history goes on as long as more channels come in under ids of their own. -/
theorem EntersFresh.append {steps later : List (Step α)} {held : List Nat} {set : ChannelSet α}
    (fresh : EntersFresh held steps set)
    (more : ∀ held, EntersFresh held later (set.run steps)) :
    EntersFresh held (steps ++ later) set := by
  induction steps generalizing held set with
  | nil => exact more held
  | cons first rest ih =>
    cases first with
    | insert id channel => exact ⟨fresh.1, ih fresh.2 more⟩
    | issue => exact @ih _ set.issue.2 fresh more
    | remove id => exact @ih _ (set.remove id) fresh more
    | clear => exact @ih _ set.clear fresh more

/-- As long as ids last the next one was never used. -/
theorem next_unused {steps : List (Step α)} (few : steps.countP (·.issues) < Word.bound)
    (fresh : EntersFresh [] steps {}) : (run steps {}).nextId ∉ entered steps := by
  have distinct : (issued (steps ++ [.issue]) {}).Nodup :=
    issued_nodup (by simpa [List.countP_append, Step.issues] using few)
  rw [issued_append] at distinct
  intro used
  have before : (run steps {}).nextId ∈ issued steps {} := (entered_subperm fresh).subset used
  exact (List.nodup_append.mp distinct).2.2 _ before _ (List.mem_cons_self ..) rfl

theorem entered_of_stands {steps : List (Step α)} {id : Nat} {channel : α}
    (stands : Stands steps id channel) : id ∈ entered steps := by
  obtain ⟨earlier, later, rfl, _⟩ := stands
  simp [entered, Step.entry?]

theorem vacant_of_fresh {earlier later : List (Step α)} {id : Nat} {channel : α}
    (distinct : (entered (earlier ++ .insert id channel :: later)).Nodup) :
    (run earlier {}).find? id = none := by
  cases found : (run earlier {}).find? id with
  | none => rfl
  | some other =>
    have before : id ∈ entered earlier := entered_of_stands (mem_run.mp (find?_mem found))
    rw [entered, List.filterMap_append] at distinct
    exact absurd rfl ((List.nodup_append.mp distinct).2.2 id before id (List.mem_cons_self ..))

/-- Only removes and clears can settle an id under which nothing more is put in. -/
theorem any_settles {steps : List (Step α)} {id : Nat} (never : id ∉ entered steps) :
    steps.any (·.settles id) = steps.any (·.dismisses id) := by
  induction steps with
  | nil => rfl
  | cons first later ih =>
    rw [List.any_cons, List.any_cons]
    cases first with
    | insert other channel =>
      have differs : id ≠ other := List.ne_of_not_mem_cons never
      rw [ih (List.not_mem_of_not_mem_cons never), Step.settles, beq_false_of_ne differs]
      rfl
    | issue | remove | clear =>
      rw [ih never]
      rfl

theorem length_lasting {steps : List (Step α)} (distinct : (entered steps).Nodup) :
    (lasting steps).length = outstanding steps := by
  induction steps with
  | nil => rfl
  | cons first later ih =>
    cases first with
    | insert id channel =>
      obtain ⟨never, distinct⟩ : id ∉ entered later ∧ (entered later).Nodup :=
        List.nodup_cons.mp distinct
      rw [lasting, outstanding, List.length_append, ih distinct, Nat.add_comm, ← any_settles never]
      cases settled : later.any (·.settles id) <;>
        simp only [Step.entry?, Option.toList_some, List.filter_singleton, settled] <;> rfl
    | issue | remove | clear => simpa [lasting, outstanding, Step.entry?] using ih distinct

/-- If every channel goes in under an id of its own, the set has as many members as were put in
since the last clear and not taken out again. -/
theorem size_of_fresh {steps : List (Step α)} (few : steps.countP (·.issues) ≤ Word.bound)
    (fresh : EntersFresh [] steps {}) : (run steps {}).size = outstanding steps := by
  rw [size, members_fresh, length_lasting (entered_nodup few fresh)]

end StreamDispatch.ChannelSet
