import DeviceSupport.Proofs.Dispatch.Recording

/-! Trials: what becomes of the actions of a call, one after the other.

A `Trial` keeps what happened to one action: where it started, what it came to at first, whether it
was repeated with a larger response, and what reached a backend. `Call.trials` are the trials of a
run in their order. `run_eq` says that they decide the run, and `trials_split` says all that one
trial owes to those before it; what a run as a whole does follows from these two. -/
namespace DeviceSupport
set_option autoImplicit false

structure Trial (σ : Type) where
  action : Action
  lane : Lane
  start : Stage σ
  /-- What the action came to at first, before its answer was converted. -/
  first : Except Fault Unit × Stage σ
  /-- What its repeat came to, if there was one. -/
  second : Option (Except Fault Unit × Stage σ)
  sent : List Sent
  outcome : Except Fault Unit
  stop : Stage σ

namespace Trial
variable {σ : Type}

def repeated (t : Trial σ) : Bool := t.second.isSome

/-- The repeat asked for a larger response once more. -/
def insists (t : Trial σ) : Bool :=
  match t.second with
  | some (.error (.needLargerBuffer _), _) => true
  | _ => false

/-- No action is tried after this one. -/
def settles (t : Trial σ) : Bool :=
  match t.outcome with
  | .ok () => true
  | .error _ => t.insists

theorem settles_of_ok {t : Trial σ} {u : Unit} (h : t.outcome = .ok u) : t.settles = true := by
  rw [settles, h]

theorem settles_of_error {t : Trial σ} {fault : Fault} (h : t.outcome = .error fault) :
    t.settles = t.insists := by
  rw [settles, h]

theorem error_of_settles {t : Trial σ} (h : t.settles = false) :
    ∃ fault, t.outcome = .error fault := by
  unfold settles at h
  split at h
  · exact Bool.noConfusion h
  · next fault houtcome => exact ⟨fault, houtcome⟩

end Trial

/-- The stage with a response of another size, all zeros. -/
def Stage.enlarged {σ : Type} (s : Stage σ) (needed : UInt32) : Stage σ :=
  { s with response := s.response.reallocate needed.toNat }

namespace Call
variable {σ : Type}

def trial (c : Call σ) (retried : Bool) (action : Action) (lane : Lane) (s : Stage σ) : Trial σ :=
  let first := c.attempt action lane s
  match c.enlargement? lane retried first.1 with
  | none =>
    let done := c.conclude action first
    { action, lane, start := s, first, second := none
      sent := (c.sentFirst? action lane s).toList
      outcome := done.1, stop := done.2 }
  | some needed =>
    let second := c.invoke action lane (first.2.enlarged needed)
    let done := c.conclude action second
    { action, lane, start := s, first, second := some second
      sent := (c.sentFirst? action lane s).toList ++
        (c.sent? action lane (first.2.enlarged needed)).toList
      outcome := done.1, stop := done.2 }

/-- The trials of a run, up to the one that settles it. -/
def trials (c : Call σ) (retried : Bool) : List (Action × Lane) → Stage σ → List (Trial σ)
  | [], _ => []
  | (action, lane) :: rest, s =>
    let t := c.trial retried action lane s
    t :: if t.settles then [] else c.trials (retried || t.repeated) rest t.stop

/-- The trials of a whole call. -/
def allTrials (c : Call σ) (s : Stage σ) : List (Trial σ) :=
  c.trials false (lanes 0 c.primitive.actions) s

/-! ## One trial -/

section
variable (c : Call σ) (retried : Bool) (action : Action) (lane : Lane) (s : Stage σ)

@[simp] theorem trial_action : (c.trial retried action lane s).action = action := by
  unfold trial
  dsimp only
  split <;> rfl

@[simp] theorem trial_lane : (c.trial retried action lane s).lane = lane := by
  unfold trial
  dsimp only
  split <;> rfl

@[simp] theorem trial_start : (c.trial retried action lane s).start = s := by
  unfold trial
  dsimp only
  split <;> rfl

theorem trial_first : (c.trial retried action lane s).first = c.attempt action lane s := by
  unfold trial
  dsimp only
  split <;> rfl

/-- A trial comes to what its last run comes to. -/
theorem conclude_last :
    c.conclude action ((c.trial retried action lane s).second.getD
        (c.trial retried action lane s).first) =
      ((c.trial retried action lane s).outcome, (c.trial retried action lane s).stop) := by
  unfold trial
  dsimp only
  split <;> rfl

theorem trial_of_attempt {answer : Except Fault Unit} {stop : Stage σ}
    (hattempt : c.attempt action lane s = (answer, stop))
    (hkept : c.enlargement? lane retried answer = none) :
    ((c.trial retried action lane s).outcome, (c.trial retried action lane s).stop) =
      c.conclude action (answer, stop) := by
  rw [trial]
  dsimp only
  rw [hattempt]
  dsimp only
  rw [hkept]

theorem trial_of_repeat {answer : Except Fault Unit} {stop : Stage σ} {needed : UInt32}
    (hattempt : c.attempt action lane s = (answer, stop))
    (hlarger : c.enlargement? lane retried answer = some needed) :
    ((c.trial retried action lane s).outcome, (c.trial retried action lane s).stop) =
      c.conclude action (c.invoke action lane (stop.enlarged needed)) := by
  rw [trial]
  dsimp only
  rw [hattempt]
  dsimp only
  rw [hlarger]

theorem conclude_error (fault : Fault) : c.conclude action (.error fault, s) = (.error fault, s) :=
  rfl

theorem run_cons (last : Fault) (rest : List (Action × Lane)) :
    c.run last retried ((action, lane) :: rest) s =
      match (c.trial retried action lane s).outcome with
      | .ok () => (.ok action, (c.trial retried action lane s).stop)
      | .error fault =>
        if (c.trial retried action lane s).insists then
          (.error fault, (c.trial retried action lane s).stop)
        else c.run fault (retried || (c.trial retried action lane s).repeated) rest
          (c.trial retried action lane s).stop := by
  obtain ⟨larger, henlarge⟩ : ∃ larger,
      c.enlargement? lane retried (c.attempt action lane s).1 = larger := ⟨_, rfl⟩
  rw [run, trial]
  dsimp only
  cases larger with
  | none =>
    simp only [henlarge]
    rcases c.conclude action (c.attempt action lane s) with ⟨fault | _, stop⟩
    · simp [Trial.insists, Trial.repeated]
    · rfl
  | some needed =>
    simp only [henlarge, Stage.enlarged]
    generalize c.invoke action lane _ = second
    obtain ⟨outcome, stop⟩ := second
    cases outcome with
    | error fault => cases fault <;> simp [conclude_error, Trial.insists, Trial.repeated]
    | ok u =>
      dsimp only
      generalize c.conclude action (.ok u, stop) = done
      rcases done with ⟨fault | _, stop⟩
      · simp [Trial.insists, Trial.repeated]
      · rfl

theorem enlargement?_eq_some_iff (answer : Except Fault Unit) (needed : UInt32) :
    c.enlargement? lane retried answer = some needed ↔
      answer = .error (.needLargerBuffer needed) ∧ lane = .handler ∧ c.typeOpen = true ∧
        retried = false := by
  unfold enlargement?
  split
  · next asked =>
    rw [Except.error.injEq, Fault.needLargerBuffer.injEq]
    by_cases hagain : lane = .handler ∧ c.typeOpen = true ∧ retried = false
    · rw [if_pos hagain, Option.some.injEq]
      exact (and_iff_left hagain).symm
    · rw [if_neg hagain]
      exact ⟨fun h => (nomatch h), fun h => absurd h.2 hagain⟩
  · next hother =>
    exact ⟨fun h => (nomatch h), fun h => absurd h.1 (hother needed)⟩

/-- An action is repeated when its handler asks for more, unless one was repeated before. -/
theorem repeated_iff :
    (c.trial retried action lane s).repeated = true ↔
      (∃ needed, (c.attempt action lane s).1 = .error (.needLargerBuffer needed)) ∧
        lane = .handler ∧ c.typeOpen = true ∧ retried = false := by
  have hrepeated : (c.trial retried action lane s).repeated =
      (c.enlargement? lane retried (c.attempt action lane s).1).isSome := by
    rw [trial]
    dsimp only
    split <;> next h => rw [h]; rfl
  rw [hrepeated, Option.isSome_iff_exists]
  constructor
  · rintro ⟨needed, h⟩
    obtain ⟨hasked, hagain⟩ := (c.enlargement?_eq_some_iff retried lane _ needed).mp h
    exact ⟨⟨needed, hasked⟩, hagain⟩
  · rintro ⟨⟨needed, hasked⟩, hagain⟩
    exact ⟨needed, (c.enlargement?_eq_some_iff retried lane _ needed).mpr ⟨hasked, hagain⟩⟩

theorem length_sent_le :
    (c.trial retried action lane s).sent.length ≤
      1 + if (c.trial retried action lane s).repeated then 1 else 0 := by
  have hone (sent : Option Sent) : sent.toList.length ≤ 1 := by
    cases sent <;> simp
  rw [trial]
  dsimp only
  split
  · exact hone _
  · rw [List.length_append]
    exact Nat.add_le_add (hone _) (hone _)

end

/-! ## A trial among the others -/

theorem trials_cons (c : Call σ) (retried : Bool) (action : Action) (lane : Lane)
    (rest : List (Action × Lane)) (s : Stage σ) :
    c.trials retried ((action, lane) :: rest) s =
      c.trial retried action lane s ::
        if (c.trial retried action lane s).settles then []
        else c.trials (retried || (c.trial retried action lane s).repeated) rest
          (c.trial retried action lane s).stop := rfl

/-- A property of the trials of every run, by induction over its actions. -/
theorem trials_rec {P : Bool → List (Action × Lane) → List (Trial σ) → Prop} (c : Call σ)
    (hnil : ∀ retried actions, P retried actions [])
    (hcons : ∀ retried action lane s rest ts,
      P (retried || (c.trial retried action lane s).repeated) rest ts →
        P retried ((action, lane) :: rest) (c.trial retried action lane s :: ts))
    (retried : Bool) (actions : List (Action × Lane)) (s : Stage σ) :
    P retried actions (c.trials retried actions s) := by
  induction actions generalizing retried s with
  | nil => exact hnil retried []
  | cons next rest ih =>
    obtain ⟨action, lane⟩ := next
    rw [trials_cons]
    refine hcons retried action lane s rest _ ?_
    split
    · exact hnil _ rest
    · exact ih _ _

/-- What one trial of a run owes to the trials before it. -/
theorem trials_split (c : Call σ) {retried : Bool} {actions : List (Action × Lane)} {s : Stage σ}
    {before after : List (Trial σ)} {t : Trial σ}
    (h : c.trials retried actions s = before ++ t :: after) :
    (∃ rest, actions = before.map (fun u => (u.action, u.lane)) ++ (t.action, t.lane) :: rest ∧
      after = if t.settles then []
        else c.trials (retried || before.any Trial.repeated || t.repeated) rest t.stop) ∧
    (∀ u ∈ before, u.settles = false) ∧
    t.start = (before.getLast?.map Trial.stop).getD s ∧
    t = c.trial (retried || before.any Trial.repeated) t.action t.lane t.start := by
  -- Each trial before `t` leaves its stage to the next and may raise `retried` for all that follow.
  induction before generalizing retried actions s with
  | nil =>
    cases actions with
    | nil => nomatch h
    | cons next rest =>
      obtain ⟨action, lane⟩ := next
      rw [trials_cons, List.nil_append] at h
      obtain ⟨rfl, rfl⟩ := List.cons.inj h
      refine ⟨⟨rest, ?_, ?_⟩, fun u hu => absurd hu List.not_mem_nil, ?_, ?_⟩
      · rw [trial_action, trial_lane]
        rfl
      · rw [List.any_nil, Bool.or_false]
      · exact c.trial_start retried action lane s
      · rw [List.any_nil, Bool.or_false, trial_action, trial_lane, trial_start]
  | cons u before ih =>
    cases actions with
    | nil => nomatch h
    | cons next rest =>
      obtain ⟨action, lane⟩ := next
      rw [trials_cons, List.cons_append] at h
      obtain ⟨rfl, hrest⟩ := List.cons.inj h
      cases hsettles : (c.trial retried action lane s).settles with
      | true =>
        rw [hsettles, if_pos rfl] at hrest
        exact absurd hrest.symm (List.append_ne_nil_of_right_ne_nil _ (List.cons_ne_nil _ _))
      | false =>
        rw [hsettles, if_neg Bool.false_ne_true] at hrest
        obtain ⟨⟨later, hactions, hafter⟩, hbefore, hstart, htrial⟩ := ih hrest
        refine ⟨⟨later, ?_, ?_⟩, ?_, ?_, ?_⟩
        · rw [hactions, List.map_cons, trial_action, trial_lane]
          rfl
        · rw [hafter, List.any_cons, Bool.or_assoc retried]
        · exact List.forall_mem_cons.mpr ⟨hsettles, hbefore⟩
        · rw [hstart, List.getLast?_cons]
          cases before.getLast? <;> rfl
        · rw [List.any_cons, ← Bool.or_assoc]
          exact htrial

theorem exists_trial (c : Call σ) {retried : Bool} {actions : List (Action × Lane)} {s : Stage σ}
    {t : Trial σ} (h : t ∈ c.trials retried actions s) :
    ∃ retried, t = c.trial retried t.action t.lane t.start := by
  obtain ⟨before, after, hsplit⟩ := List.append_of_mem h
  obtain ⟨-, -, -, ht⟩ := c.trials_split hsplit
  exact ⟨_, ht⟩

/-! ## The run -/

/-- What the trials of a run come to; without any, `last` is the fault. -/
def answer (last : Fault) (trials : List (Trial σ)) : Except Fault Action :=
  match trials.getLast? with
  | none => .error last
  | some t => t.outcome.map fun _ => t.action

theorem answer_of_last {last : Fault} {trials : List (Trial σ)} {t : Trial σ}
    (h : trials.getLast? = some t) : (answer last trials).map (fun _ => ()) = t.outcome := by
  rw [answer, h]
  cases houtcome : t.outcome with
  | error fault => simp only [houtcome, Except.map]
  | ok u => simp only [houtcome, Except.map]

/-- A run succeeds by its last trial. -/
theorem exists_last_of_answer {last : Fault} {trials : List (Trial σ)}
    (h : (answer last trials).map (fun _ => ()) = .ok ()) :
    ∃ t, trials.getLast? = some t ∧ t.outcome = .ok () := by
  cases hlast : trials.getLast? with
  | none =>
    rw [answer, hlast] at h
    nomatch h
  | some t => exact ⟨t, rfl, (answer_of_last hlast).symm.trans h⟩

theorem answer_cons (last fault : Fault) (t : Trial σ) (trials : List (Trial σ))
    (h : t.outcome = .error fault) : answer last (t :: trials) = answer fault trials := by
  unfold answer
  rw [List.getLast?_cons]
  cases trials.getLast? with
  | none =>
    rw [Option.getD_none]
    dsimp only
    rw [h]
    rfl
  | some u => rfl

theorem run_eq (c : Call σ) (last : Fault) (retried : Bool) (actions : List (Action × Lane))
    (s : Stage σ) :
    c.run last retried actions s =
      (answer last (c.trials retried actions s),
        ((c.trials retried actions s).getLast?.map Trial.stop).getD s) := by
  -- `last` becomes the fault of each trial that failed, so that it has to be general.
  induction actions generalizing last retried s with
  | nil => rfl
  | cons next rest ih =>
    obtain ⟨action, lane⟩ := next
    have haction := c.trial_action retried action lane s
    rw [run_cons, trials_cons]
    generalize c.trial retried action lane s = t at haction ⊢
    cases houtcome : t.outcome with
    | ok u =>
      rw [if_pos (Trial.settles_of_ok houtcome)]
      simp [answer, houtcome, haction, Except.map]
    | error fault =>
      rw [Trial.settles_of_error houtcome]
      cases hinsists : t.insists with
      | true => simp [answer, houtcome, Except.map]
      | false =>
        simp only [Bool.false_eq_true, if_false]
        rw [ih, answer_cons last fault t _ houtcome, List.getLast?_cons]
        cases (c.trials (retried || t.repeated) rest t.stop).getLast? <;> rfl

/-! ## The record of a run -/

theorem trial_recorded (c : Call σ) (retried : Bool) (action : Action) (lane : Lane) (s : Stage σ)
    (log : List Sent) :
    (c.recorded.trial retried action lane (s.recorded log)).outcome =
        (c.trial retried action lane s).outcome ∧
      (c.recorded.trial retried action lane (s.recorded log)).insists =
        (c.trial retried action lane s).insists ∧
      (c.recorded.trial retried action lane (s.recorded log)).repeated =
        (c.trial retried action lane s).repeated ∧
      (c.recorded.trial retried action lane (s.recorded log)).stop =
        (c.trial retried action lane s).stop.recorded
          (log ++ (c.trial retried action lane s).sent) := by
  have hattempt := c.attempt_recorded action lane s log
  have henlarge (answer : Except Fault Unit) : c.recorded.enlargement? lane retried answer =
      c.enlargement? lane retried answer := rfl
  obtain ⟨larger, hlarger⟩ : ∃ larger,
      c.enlargement? lane retried (c.attempt action lane s).1 = larger := ⟨_, rfl⟩
  rw [trial, trial]
  dsimp only
  rw [hattempt]
  cases larger with
  | none =>
    simp only [henlarge, hlarger]
    rw [conclude_recorded]
    exact ⟨rfl, rfl, rfl, rfl⟩
  | some needed =>
    simp only [henlarge, hlarger]
    have hagain : ((c.attempt action lane s).2.recorded
        (log ++ (c.sentFirst? action lane s).toList)).enlarged needed =
          ((c.attempt action lane s).2.enlarged needed).recorded
            (log ++ (c.sentFirst? action lane s).toList) := rfl
    rw [hagain, invoke_recorded, conclude_recorded, List.append_assoc]
    refine ⟨rfl, ?_, rfl, rfl⟩
    unfold Trial.insists
    rcases c.invoke action lane ((c.attempt action lane s).2.enlarged needed) with
      ⟨fault | _, again⟩
    · cases fault <;> rfl
    · rfl

theorem run_recorded (c : Call σ) (last : Fault) (retried : Bool) (actions : List (Action × Lane))
    (s : Stage σ) (log : List Sent) :
    c.recorded.run last retried actions (s.recorded log) =
      ((c.run last retried actions s).1,
        (c.run last retried actions s).2.recorded
          (log ++ (c.trials retried actions s).flatMap Trial.sent)) := by
  induction actions generalizing last retried s log with
  | nil =>
    rw [trials, List.flatMap_nil, List.append_nil]
    rfl
  | cons next rest ih =>
    obtain ⟨action, lane⟩ := next
    obtain ⟨houtcome, hinsists, hrepeated, hstop⟩ := c.trial_recorded retried action lane s log
    rw [run_cons, run_cons, trials_cons, houtcome, hinsists, hrepeated, hstop]
    generalize c.trial retried action lane s = t
    rw [List.flatMap_cons, ← List.append_assoc]
    cases houtcome : t.outcome with
    | ok u =>
      rw [if_pos (Trial.settles_of_ok houtcome), List.flatMap_nil, List.append_nil]
    | error fault =>
      rw [Trial.settles_of_error houtcome]
      cases hinsists : t.insists with
      | true => simp
      | false =>
        simp only [Bool.false_eq_true, if_false]
        exact ih fault (retried || t.repeated) t.stop (log ++ t.sent)

end Call

end DeviceSupport
