import DeviceSupport.Proofs.Dispatch.Request
import DeviceSupport.Proofs.Message

/-! The order of trials, and how often a backend is used.

Kernel actions are numbered as they are declared, whether they are sent or not (`lanes_split`).
Trials follow the declared order up to the one that settles the run, at most one of them is
repeated (`repeated_split`), and each uses its backend once for itself and once for its repeat. -/
namespace DeviceSupport
set_option autoImplicit false

/-! ## Numbers of kernel actions -/

/-- How many kernel actions there are in a list. -/
def kernelCount (actions : List Action) : Nat := actions.countP (·.isKernel)

/-- Where an action runs when `next` kernel actions come before it. -/
def laneAt (next : UInt16) (action : Action) : Lane :=
  if action.isKernel then .kernel next else .handler

theorem lanes_cons (next : UInt16) (action : Action) (actions : List Action) :
    lanes next (action :: actions) = (action, laneAt next action) ::
      lanes (next + UInt16.ofNat (kernelCount [action])) actions := by
  unfold laneAt
  rw [lanes]
  cases h : action.isKernel with
  | true =>
    have hcount : kernelCount [action] = 1 := by simp [kernelCount, h]
    rw [hcount]
    rfl
  | false =>
    have hcount : kernelCount [action] = 0 := by simp [kernelCount, h]
    rw [hcount, show UInt16.ofNat 0 = 0 from rfl, UInt16.add_zero]
    rfl

theorem lanes_split {next : UInt16} {actions : List Action} {before : List (Action × Lane)}
    {action : Action} {lane : Lane} {after : List (Action × Lane)}
    (h : lanes next actions = before ++ (action, lane) :: after) :
    (∃ later, actions = before.map (·.1) ++ action :: later) ∧
      lane = laneAt (next + UInt16.ofNat (kernelCount (before.map (·.1)))) action := by
  -- The numbers are those of a word, so that the count stays inside `UInt16.ofNat`.
  induction before generalizing next actions with
  | nil =>
    cases actions with
    | nil => nomatch h
    | cons a actions =>
      rw [lanes_cons, List.nil_append] at h
      obtain ⟨hhead, -⟩ := List.cons.inj h
      cases hhead
      refine ⟨⟨actions, rfl⟩, ?_⟩
      rw [List.map_nil, kernelCount, List.countP_nil, show UInt16.ofNat 0 = 0 from rfl,
        UInt16.add_zero]
  | cons b before ih =>
    cases actions with
    | nil => nomatch h
    | cons a actions =>
      rw [lanes_cons, List.cons_append] at h
      obtain ⟨rfl, hrest⟩ := List.cons.inj h
      obtain ⟨⟨later, hactions⟩, hlane⟩ := ih hrest
      refine ⟨⟨later, by rw [hactions]; rfl⟩, ?_⟩
      have hcount : kernelCount (((a, laneAt next a) :: before).map (·.1)) =
          kernelCount [a] + kernelCount (before.map (·.1)) := by
        rw [List.map_cons, kernelCount, kernelCount, kernelCount, ← List.countP_append]
        rfl
      rw [hlane, hcount, UInt16.ofNat_add, UInt16.add_assoc]

theorem map_fst_lanes (next : UInt16) (actions : List Action) :
    (lanes next actions).map (·.1) = actions := by
  induction actions generalizing next with
  | nil => rfl
  | cons action actions ih => rw [lanes_cons, List.map_cons, ih]

namespace Call
variable {σ : Type}

/-! ## Messages -/

theorem sent?_message (c : Call σ) {action : Action} {lane : Lane} {s : Stage σ}
    {m : Message.Request} (h : c.sent? action lane s = some (.message m)) :
    lane = .kernel m.target.kernelIndex := by
  rcases c.sent?_cases h with ⟨index, rfl, -, hm⟩ | ⟨_, _, -, -, -, ⟨-, hm⟩ | ⟨-, hm⟩⟩
  · obtain rfl := Sent.message.inj hm
    have htarget : (c.message action index s).target = c.target action index :=
      Message.Request.target_make _ _ _ _ _ _
    rw [htarget]
    rfl
  · nomatch hm
  · nomatch hm

theorem trial_message (c : Call σ) {retried : Bool} {action : Action} {lane : Lane} {s : Stage σ}
    {m : Message.Request} (h : .message m ∈ (c.trial retried action lane s).sent) :
    lane = .kernel m.target.kernelIndex := by
  obtain ⟨stage, hsent, -⟩ := c.exists_of_mem_sent h
  exact c.sent?_message hsent

/-! ## Repeats -/

theorem countP_repeated_le (c : Call σ) (retried : Bool) (actions : List (Action × Lane))
    (s : Stage σ) :
    (c.trials retried actions s).countP Trial.repeated + retried.toNat ≤ 1 := by
  refine c.trials_rec (P := fun retried _ ts => ts.countP Trial.repeated + retried.toNat ≤ 1)
    (fun retried _ => ?_) (fun retried action lane s _ ts ih => ?_) retried actions s
  · rw [List.countP_nil, Nat.zero_add]
    exact Bool.toNat_le retried
  · have honce : (c.trial retried action lane s).repeated = true → retried = false :=
      fun h => ((c.repeated_iff retried action lane s).mp h).2.2.2
    rw [List.countP_cons]
    cases hrepeated : (c.trial retried action lane s).repeated with
    | true =>
      obtain rfl := honce hrepeated
      rw [hrepeated] at ih
      exact ih
    | false =>
      rw [hrepeated, Bool.or_false] at ih
      exact ih

theorem length_trials_le (c : Call σ) (retried : Bool) (actions : List (Action × Lane))
    (s : Stage σ) : (c.trials retried actions s).length ≤ actions.length :=
  c.trials_rec (P := fun _ actions ts => ts.length ≤ actions.length)
    (fun _ _ => Nat.zero_le _) (fun _ _ _ _ _ _ ih => Nat.succ_le_succ ih) retried actions s

theorem length_sent_trials_le (c : Call σ) (retried : Bool) (actions : List (Action × Lane))
    (s : Stage σ) :
    ((c.trials retried actions s).flatMap Trial.sent).length ≤
      (c.trials retried actions s).length + (c.trials retried actions s).countP Trial.repeated := by
  refine c.trials_rec
    (P := fun _ _ ts => (ts.flatMap Trial.sent).length ≤ ts.length + ts.countP Trial.repeated)
    (fun _ _ => Nat.le_refl 0) (fun retried action lane s _ ts ih => ?_) retried actions s
  have hsent := c.length_sent_le retried action lane s
  rw [List.flatMap_cons, List.length_append, List.length_cons, List.countP_cons]
  omega

/-- Without a trial that settles the run, every action has its trial. -/
theorem trials_complete (c : Call σ) (retried : Bool) (actions : List (Action × Lane))
    (s : Stage σ) (h : ∀ t ∈ c.trials retried actions s, t.settles = false) :
    (c.trials retried actions s).map (fun t => (t.action, t.lane)) = actions := by
  induction actions generalizing retried s with
  | nil => rfl
  | cons next rest ih =>
    obtain ⟨action, lane⟩ := next
    rw [trials_cons] at h ⊢
    obtain ⟨hsettles, hrest⟩ := List.forall_mem_cons.mp h
    rw [hsettles, if_neg Bool.false_ne_true] at hrest ⊢
    rw [List.map_cons, trial_action, trial_lane, ih _ _ hrest]

theorem getLast?_of_settles (c : Call σ) {retried : Bool} {actions : List (Action × Lane)}
    {s : Stage σ} {t : Trial σ} (hmem : t ∈ c.trials retried actions s)
    (h : t.settles = true) : (c.trials retried actions s).getLast? = some t := by
  obtain ⟨before, after, hsplit⟩ := List.append_of_mem hmem
  obtain ⟨⟨rest, -, hafter⟩, -⟩ := c.trials_split hsplit
  rw [if_pos h] at hafter
  rw [hsplit, hafter]
  exact List.getLast?_concat

/-- A repeat that fails decides what its action comes to. -/
theorem trial_second (c : Call σ) {retried : Bool} {action : Action} {lane : Lane}
    {s stage : Stage σ} {fault : Fault}
    (h : (c.trial retried action lane s).second = some (.error fault, stage)) :
    (c.trial retried action lane s).outcome = .error fault := by
  have hlast := c.conclude_last retried action lane s
  rw [h, Option.getD_some, conclude_error] at hlast
  exact (Prod.mk.inj hlast).1.symm

/-- The repeat goes to the first handler that asks for more. -/
theorem repeated_split (c : Call σ) {actions : List (Action × Lane)} {s : Stage σ}
    {before after : List (Trial σ)} {t : Trial σ}
    (h : c.trials false actions s = before ++ t :: after) :
    t.repeated = true ↔
      t.lane = .handler ∧ c.typeOpen = true ∧
        (∃ needed, t.first.1 = .error (.needLargerBuffer needed)) ∧
        ∀ u ∈ before, u.lane = .handler →
          ∀ needed, u.first.1 ≠ .error (.needLargerBuffer needed) := by
  -- Each trial is repeated by its own answer and by what was repeated before it.
  have hiff {before after : List (Trial σ)} {t : Trial σ}
      (h : c.trials false actions s = before ++ t :: after) :
      t.repeated = true ↔ (∃ needed, t.first.1 = .error (.needLargerBuffer needed)) ∧
        t.lane = .handler ∧ c.typeOpen = true ∧ before.any Trial.repeated = false := by
    obtain ⟨-, -, -, ht⟩ := c.trials_split h
    have hrepeated := c.repeated_iff (false || before.any Trial.repeated) t.action t.lane t.start
    rw [← c.trial_first, ← ht, Bool.false_or] at hrepeated
    exact hrepeated
  have hearlier : ∀ u ∈ before, ∃ first rest, before = first ++ u :: rest ∧
      (u.repeated = true ↔ (∃ needed, u.first.1 = .error (.needLargerBuffer needed)) ∧
        u.lane = .handler ∧ c.typeOpen = true ∧ first.any Trial.repeated = false) := by
    intro u hu
    obtain ⟨first, rest, rfl⟩ := List.append_of_mem hu
    rw [List.append_assoc, List.cons_append] at h
    exact ⟨first, rest, rfl, hiff h⟩
  rw [hiff h]
  constructor
  · rintro ⟨hasks, hlane, hopen, hnone⟩
    refine ⟨hlane, hopen, hasks, fun u hu hulane needed hneeded => ?_⟩
    obtain ⟨first, rest, rfl, hrepeated⟩ := hearlier u hu
    rw [List.any_append, List.any_cons, Bool.or_eq_false_iff, Bool.or_eq_false_iff] at hnone
    rw [hrepeated.mpr ⟨⟨needed, hneeded⟩, hulane, hopen, hnone.1⟩] at hnone
    exact Bool.noConfusion hnone.2.1
  · rintro ⟨hlane, hopen, hasks, hnone⟩
    refine ⟨hasks, hlane, hopen, List.any_eq_false.mpr fun u hu hrepeated => ?_⟩
    obtain ⟨first, rest, -, hiff⟩ := hearlier u hu
    obtain ⟨⟨needed, hneeded⟩, hulane, -⟩ := hiff.mp hrepeated
    exact hnone u hu hulane needed hneeded

/-- A trial of a whole call is that of the action at its place. -/
theorem allTrials_order (c : Call σ) {s : Stage σ} {before after : List (Trial σ)} {t : Trial σ}
    (h : c.allTrials s = before ++ t :: after) :
    (∃ later, c.primitive.actions = before.map (·.action) ++ t.action :: later) ∧
      t.lane = laneAt (UInt16.ofNat (kernelCount (before.map (·.action)))) t.action := by
  obtain ⟨⟨rest, hlanes, -⟩, -⟩ := c.trials_split h
  obtain ⟨hactions, hlane⟩ := lanes_split hlanes
  rw [List.map_map] at hactions hlane
  rw [UInt16.zero_add] at hlane
  exact ⟨hactions, hlane⟩

end Call

end DeviceSupport
