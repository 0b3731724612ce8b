import Keyring.Proofs.Group.Convergence
import Keyring.Proofs.Group.SingleOutput

namespace Keyring.Group

open Keyring.Memory Keyring.Rotation

section Boards

variable {g g' : Group} {b b' : Board} {rounds rounds' : Nat}

theorem BreaksOff.ready (h : BreaksOff g b g' b') (hready : b.Ready) : b'.Ready := by
  cases h with
  | within d hd hbefore done todo hwaiting => exact (hready.after d).brokenOff done
  | unsaved hwaiting rounds hends => exact hready.after rounds

theorem EndsWith.waiting_eq_nil (h : EndsWith g b rounds)
    (hends : EndsWith g b rounds') (hempty : (b.after g.actor rounds').waiting = []) :
    (b.after g.actor rounds).waiting = [] := by
  by_contra hne
  exact hne (Board.waiting_after_eq_nil hempty (h.eq_last hne ▸ hends.le_last))

/-- If a run would have left nothing waiting, then after one that was broken off while outputs still
wait, the run made again leaves nothing waiting either, and ends at the same board. -/
theorem BreaksOff.after_eq (h : BreaksOff g b g' b') (hends : EndsWith g b rounds)
    (hempty : (b.after g.actor rounds).waiting = []) (hne : b'.waiting ≠ [])
    (hends' : EndsWith g' b' rounds') :
    g' = g ∧ b'.after g.actor rounds' = b.after g.actor rounds := by
  cases h with
  | unsaved hwaiting m hm => exact absurd (hm.waiting_eq_nil hends hempty) hne
  | within d hd hbefore done todo hwaiting =>
      refine ⟨rfl, ?_⟩
      -- The first round of the run that is made again is the one that was broken off.
      have hagain : ∀ n, ((b.after g.actor d).brokenOff g.actor done).after g.actor (n + 1) =
          b.after g.actor (d + n + 1) := Board.after_brokenOff hwaiting
      obtain ⟨n, rfl, -⟩ := id hends
      obtain ⟨n', rfl, -⟩ := id hends'
      rw [hagain]
      refine Board.after_eq_after ?_ hempty
      rw [← hagain]
      by_contra hleft
      have hlast := hends'.eq_last hleft
      have hle := hends.le_last
      rw [hagain] at hleft
      exact hleft (Board.waiting_after_eq_nil hempty (by omega))

end Boards

/-- Where a broken off finish run leaves the group and the simulation. -/
def LeftAt (g : Group) (b : Board) (store : Store) (g₁ : Group) (s₁ : State) : Prop :=
  ∃ g' b' phase, BreaksOff g b g' b' ∧ (phase = .idle ∨ phase = .published) ∧
    s₁.server.delayed = [] ∧ Stands State.settled { g' with phase } store b' g₁ s₁

variable {g g₁ : Group} {s s₁ : State} {faults faults₁ : Faults} {fuel : Nat} {e : Failure}
  {trace : List Event}

theorem finish_breaksOff (h : Joined g s) (hfuel : 2 ≤ fuel) (clock : Clock) :
    Attempt.Ensures (withFaults world) fuel finish (fun _ _ _ => True)
      (fun halt g₁ x₁ => ∃ g' b', BreaksOff g (g.board s) g' b' ∧ x₁.2.server.delayed = [] ∧
        Stands State.settled { g' with phase := phaseAfter g.phase halt } s.store b' g₁ x₁.2)
      g (faults, { s with clock }) := by
  have hstands : Stands _ g s.store (g.board s) g (faults, { s with clock }) :=
    h.stands (fun x : Faults × State => x.2.settled) rfl
  refine finish_ensures follows_withFaults h.undelayed hstands h.ready hfuel h.phase ?_ ?_ ?_
  · exact fun _ _ _ _ => trivial
  · exact fun _ _ _ _ _ _ _ => trivial
  · intro _ g' b' hbreaks halt g₁ x₁ hstands₁ hsteady₁
    exact ⟨g', b', hbreaks, hsteady₁, hstands₁.group, hstands₁.log, hstands₁.pending,
      hstands₁.store, hstands₁.plain⟩

theorem finishExpired_ensures {S : Type} {w : World S} {x : S} (hphase : g.phase = .finishing)
    {Q : Outcome → Group → S → Prop} {X : Halt → Group → S → Prop}
    (hX : ∀ e phase, phase = .idle ∨ phase = .published → X (.failed e) { g with phase } x) :
    Attempt.Ensures w fuel finishExpired Q X g x := by
  simp only [finishExpired, abandonFinish, hphase, setPhase, Attempt.ensures_bind,
    Attempt.ensures_get, if_true, Attempt.ensures_set, Attempt.ensures_notice,
    Attempt.ensures_throw]
  apply hX _ _
  cases g.record.keyUpdate
  · exact .inl rfl
  · exact .inr rfl

theorem finishInTime_breaksOff (faults : Faults) (h : Joined g s) (hfuel : 2 ≤ fuel) :
    Attempt.Meets (fun _ _ _ => True) (fun halt g₁ x₁ => (∃ e, halt = .failed e) →
      LeftAt g (g.board s) s.store g₁ x₁.2)
      (Operation.finishInTime.run (withFaults world) fuel g (faults, s)) := by
  rw [Operation.run, Attempt.meets_runWithin]
  refine (finish_breaksOff h hfuel (s.clock.start g.config.rotation.timeout)).mono ?_ ?_
  · exact fun _ _ _ _ => trivial
  · rintro halt g₁ x₁ ⟨g', b', hbreaks, hdelayed, hstands⟩
    have hstands₁ : Stands State.settled { g' with phase := phaseAfter g.phase halt } s.store b' g₁
        ((withFaults world).stopTimer x₁).2 := hstands.of_view_eq rfl
    cases halt with
    | failed e => exact fun _ => ⟨g', b', g.phase, hbreaks, h.phase, hdelayed, hstands₁⟩
    | cut =>
        apply finishExpired_ensures hstands.phase_eq
        intro e phase hphase _
        exact ⟨g', b', phase, hbreaks, hphase, hdelayed, hstands₁.setPhase phase⟩
    | exhausted => exact fun ⟨e, he⟩ => nomatch he

theorem leftAt_of_error {op : Operation Outcome} (hop : op = .finish ∨ op = .finishInTime)
    (h : Joined g s) (hfuel : 2 ≤ fuel)
    (hrun : op.run (withFaults world) fuel g (faults, s) =
      ⟨.finished (.error e), g₁, (faults₁, s₁), trace⟩) :
    LeftAt g (g.board s) s.store g₁ s₁ := by
  rcases hop with rfl | rfl
  · obtain ⟨g', b', hbreaks, hdelayed, hstands⟩ :=
      (finish_breaksOff h hfuel s.clock).of_run hrun
    exact ⟨g', b', g.phase, hbreaks, h.phase, hdelayed, hstands⟩
  · have hleft := finishInTime_breaksOff faults h hfuel
    rw [hrun] at hleft
    exact hleft ⟨e, rfl⟩

theorem BreaksOff.eq_of_waiting_eq_nil {g' : Group} {b b' : Board} (h : BreaksOff g b g' b')
    (hempty : b.waiting = []) : g' = g ∧ b' = b := by
  cases h with
  | unsaved hwaiting rounds hends => exact absurd hempty hwaiting
  | within d hd hbefore done todo hwaiting =>
      cases d with
      | zero =>
          have hdone : done = [] := by
            rw [Board.after, hempty] at hwaiting
            exact (List.append_eq_nil_iff.mp hwaiting.symm).1
          rw [hdone, Board.brokenOff_nil]
          exact ⟨rfl, rfl⟩
      | succ d =>
          refine absurd ?_ (hbefore d (Nat.lt_succ_self d))
          exact Board.waiting_after_eq_nil (m := 0) hempty (Nat.zero_le _)

/-- How a finish run without faults ends. -/
inductive EndsAt (g : Group) (s : State) : Outcome → Group → State → Prop where
  | idle {s' : State} (hempty : s.server.pending = []) (hsettled : s'.settled = s.settled) :
      EndsAt g s (.completed 0 0) { g with phase := .idle } s'
  | worked {g' : Group} {s' : State} (hne : s.server.pending ≠ []) (rounds : Nat)
      (hends : EndsWith g (g.board s) rounds)
      (hstands : Stands State.settled (concluded g ((g.board s).after g.actor rounds))
        (s.store.set (storeKey g.config.store.space g.record.groupId) g'.record.save)
        ((g.board s).after g.actor rounds) g' s') :
      EndsAt g s (outcomeAfter g.actor (g.board s) rounds) g' s'

theorem exists_endsAt (h : Joined g s) (hfuel : 2 ≤ fuel) :
    ∃ outcome g' s' trace, Operation.finish.run world fuel g s.repaired =
      ⟨.finished (.ok outcome), g', s', trace⟩ ∧ EndsAt g s outcome g' s' := by
  have hstands : Stands _ g s.store (g.board s) g s.repaired := h.stands State.settled rfl
  have hsteady : s.repaired.server.delayed = [] ∧ s.repaired.Calm :=
    ⟨h.undelayed, s.calm_repaired⟩
  refine Attempt.Ensures.exists_run (finish_ensures follows_world hsteady hstands h.ready hfuel
    h.phase ?_ ?_ (fun hh => hh.elim))
  · exact fun hempty s' hview _ => .idle hempty hview
  · exact fun hne rounds hends g' s' hstands' _ => .worked hne rounds hends hstands'

theorem EndsAt.of_run {outcome : Outcome} (h : Joined g s) (hfuel : 2 ≤ fuel)
    (hrun : Operation.finish.run world fuel g s.repaired =
      ⟨.finished (.ok outcome), g₁, s₁, trace⟩) : EndsAt g s outcome g₁ s₁ := by
  obtain ⟨outcome', g', s', trace', hrun', hend⟩ := exists_endsAt h hfuel
  rw [hrun] at hrun'
  obtain ⟨houtcome, rfl, rfl, -⟩ := Run.mk.inj hrun'
  obtain rfl : outcome = outcome' := by simpa using houtcome
  exact hend

theorem EndsAt.eq_of_pending_eq_nil {outcome : Outcome} (h : EndsAt g s outcome g₁ s₁)
    (hnone : s.server.pending = []) : g₁ = { g with phase := .idle } ∧ s₁.settled = s.settled := by
  cases h with
  | idle _ hsettled => exact ⟨rfl, hsettled⟩
  | worked hne => exact absurd hnone hne

theorem EndsAt.exists_complete {resolved rounds : Nat}
    (h : EndsAt g s (.completed resolved rounds) g₁ s₁) (hne : s.server.pending ≠ []) :
    ∃ last, EndsWith g (g.board s) last ∧ ((g.board s).after g.actor last).waiting = [] ∧
      Stands State.settled (concluded g ((g.board s).after g.actor last))
        (s.store.set (storeKey g.config.store.space g.record.groupId) g₁.record.save)
        ((g.board s).after g.actor last) g₁ s₁ := by
  generalize houtcome : Outcome.completed resolved rounds = outcome at h
  cases h with
  | idle hempty => exact absurd hempty hne
  | worked hne last hends hstands =>
      have hcomplete := isComplete_outcomeAfter g.actor (g.board s) last
      rw [← houtcome] at hcomplete
      exact ⟨last, hends, List.isEmpty_iff.mp hcomplete.symm, hstands⟩

theorem exists_record_eq {S : Type} {view : S → State} {x : S} {store : Store} {b : Board}
    (hempty : b.waiting = []) (h : Stands view (concluded g b) store b g₁ x) :
    ∃ history : History, g₁.record = { g.record with keyUpdate := false, history } ∧
      history.keys = b.held := by
  obtain ⟨history, rfl, -, hkeys⟩ := h.group
  refine ⟨history, ?_, hkeys⟩
  rw [concluded, noted, if_pos (List.isEmpty_iff.mpr hempty)]

theorem Record.save_withHistory (r : Record) {h h' : History} (hkeys : h.keys = h'.keys) :
    ({ r with history := h } : Record).save = ({ r with history := h' } : Record).save := by
  simp only [Record.save, Record.toJson, History.toJson, hkeys]

theorem Joined.of_stands {g' : Group} {phase : Phase} {store : Store} {b' : Board}
    (hphase : phase = .idle ∨ phase = .published) (hready : b'.Ready)
    (hdelayed : s₁.server.delayed = [])
    (hstands : Stands State.settled { g' with phase } store b' g₁ s₁) :
    Joined g₁ s₁ ∧ g₁.board s₁ = b' := by
  have hlog : s₁.server.log = b'.log := hstands.log
  have hpending : s₁.server.pending = b'.waiting := hstands.pending
  obtain ⟨history, rfl, hsound, hkeys⟩ := hstands.group
  refine ⟨⟨hphase, hsound, ?_, ?_, ?_, hdelayed, hstands.plain.2⟩, ?_⟩
  · exact hkeys ▸ hready.held_ne_nil
  · rw [hlog]
    exact hkeys ▸ hready.held_within
  · exact hlog ▸ hready.chronicle
  · rw [board, hlog, hpending]
    exact congrArg (fun keys => Board.mk keys b'.log b'.waiting) hkeys

/-- A finish run that is made again once nothing fails any more, after one that was broken off by
any faults or by its time limit, where a run without faults would have been complete. It is
complete; if anything is still pending then, or nothing was at the start, it leaves the same keys,
the same flag and the same store as the run without faults would have; if nothing is pending any
more, it leaves everything as it is. -/
theorem finish_again {op : Operation Outcome} {resolved rounds : Nat} {g₂ : Group} {s₂ : State}
    {trace₂ : List Event} (hop : op = .finish ∨ op = .finishInTime) (h : Joined g s)
    (hfuel : 2 ≤ fuel)
    (hcut : op.run (withFaults world) fuel g (faults, s) =
      ⟨.finished (.error e), g₁, (faults₁, s₁), trace⟩)
    (hgoal : Operation.finish.run world fuel g s.repaired =
      ⟨.finished (.ok (.completed resolved rounds)), g₂, s₂, trace₂⟩) :
    ∃ outcome g₃ s₃ trace₃,
      Operation.finish.run world fuel g₁ s₁.repaired = ⟨.finished (.ok outcome), g₃, s₃, trace₃⟩ ∧
        outcome.isComplete = true ∧
        (s.server.pending = [] ∨ s₁.server.pending ≠ [] →
          g₃.record.history.keys = g₂.record.history.keys ∧
            g₃.record.keyUpdate = g₂.record.keyUpdate ∧ s₃.store = s₂.store) ∧
        (s₁.server.pending = [] →
          outcome = .completed 0 0 ∧ g₃ = { g₁ with phase := .idle } ∧
            s₃.settled = s₁.settled) := by
  obtain ⟨g', b', phase, hbreaks, hphase, hdelayed, hstands⟩ := leftAt_of_error hop h hfuel hcut
  obtain ⟨hjoined, hboard⟩ := Joined.of_stands hphase (hbreaks.ready h.ready) hdelayed hstands
  obtain ⟨outcome, g₃, s₃, trace₃, hrun, hend⟩ := exists_endsAt hjoined hfuel
  refine ⟨outcome, g₃, s₃, trace₃, hrun, ?_⟩
  have hpending : s₁.server.pending = b'.waiting := hstands.pending
  have hend₂ := EndsAt.of_run h hfuel hgoal
  cases hend with
  | idle hempty hsettled =>
      refine ⟨rfl, ?_, fun _ => ⟨rfl, rfl, hsettled⟩⟩
      rintro (hnone | hsome)
      · obtain ⟨rfl, hsettled₂⟩ := hend₂.eq_of_pending_eq_nil hnone
        obtain ⟨rfl, rfl⟩ := hbreaks.eq_of_waiting_eq_nil hnone
        have hstore : s₃.store = s₁.store := (congrArg State.store hsettled :)
        have hstore₂ : s₂.store = s.store := (congrArg State.store hsettled₂ :)
        refine ⟨?_, ?_, hstore.trans (hstands.store.trans hstore₂.symm)⟩
        · exact congrArg Board.held hboard
        · obtain ⟨_, rfl, -, -⟩ := hstands.group
          rfl
      · exact absurd hempty hsome
  | worked hne rounds₃ hends₃ hstands₃ =>
      obtain ⟨rounds₂, hends₂, hcomplete, hstands₂⟩ := hend₂.exists_complete fun hnone => by
        obtain ⟨-, rfl⟩ := hbreaks.eq_of_waiting_eq_nil hnone
        exact hne (hpending.trans hnone)
      rw [hboard] at hends₃ hstands₃ ⊢
      obtain ⟨history, rfl, -, -⟩ := hstands.group
      obtain ⟨rfl, hafter⟩ := hbreaks.after_eq hends₂ hcomplete (hpending ▸ hne) hends₃
      have hempty₃ : (b'.after g'.actor rounds₃).waiting = [] := by rw [hafter, hcomplete]
      obtain ⟨history₃, hrecord₃, hkeys₃⟩ := exists_record_eq hempty₃ hstands₃
      obtain ⟨history₂, hrecord₂, hkeys₂⟩ := exists_record_eq hcomplete hstands₂
      have hkeys : history₃.keys = history₂.keys := by rw [hkeys₃, hkeys₂, hafter]
      have hsave : g₃.record.save = g₂.record.save := by
        rw [hrecord₃, hrecord₂]
        exact Record.save_withHistory { g'.record with keyUpdate := false } hkeys
      have hcomplete₃ := isComplete_outcomeAfter g'.actor b' rounds₃
      rw [hempty₃] at hcomplete₃
      refine ⟨hcomplete₃, fun _ => ⟨?_, ?_, ?_⟩, fun hempty => absurd hempty hne⟩
      · rw [hrecord₃, hrecord₂]
        exact hkeys
      · rw [hrecord₃, hrecord₂]
      · have hstore₃ : s₃.store = s₁.store.set _ g₃.record.save := hstands₃.store
        have hstore₂ : s₂.store = s.store.set _ g₂.record.save := hstands₂.store
        have hstore₁ : s₁.store = s.store := hstands.store
        rw [hstore₃, hstore₂, hstore₁, hsave]

section Divergence

/-- A member whose record is stored, and who has some of a well-formed log. -/
structure Kept (g : Group) (s : State) : Prop where
  sound : g.record.history.Sound
  held_ne_nil : g.record.history.keys ≠ []
  held_within : g.record.history.keys <+: s.server.log
  chronicle : Chronicle s.server.log
  stored : s.store.get? (storeKey g.config.store.space g.record.groupId) = some g.record.save

/-- A finish run that is broken off by a planted fault, with some outputs left pending, and made
again without the fault: it is complete then, as it is if there is no fault, and yet the member
knows a key in one case and not in the other. -/
def Diverges (g : Group) (s : State) (faults : Faults) (left : List Output) : Prop :=
  ∃ e g₁ x₁ t₁ goal g₂ s₂ t₂ outcome g₃ s₃ t₃,
    Operation.finish.run (withFaults world) 4 g (faults, s) = ⟨.finished (.error e), g₁, x₁, t₁⟩ ∧
      x₁.2.server.pending = left ∧
    Operation.finish.run world 4 g s = ⟨.finished (.ok goal), g₂, s₂, t₂⟩ ∧
      goal.isComplete = true ∧
    Operation.finish.run world 4 g₁ x₁.2 = ⟨.finished (.ok outcome), g₃, s₃, t₃⟩ ∧
      outcome.isComplete = true ∧
    ∃ id, ¬ (id ∈ Key.ids g₃.record.history.keys ↔ id ∈ Key.ids g₂.record.history.keys)

theorem Diverges.of_ensures {g : Group} {s : State} {faults : Faults} {x₁ : Faults × State}
    {keys₂ keys₃ : List Key} {n₂ m₂ n₃ m₃ : Nat}
    (hcut : Attempt.Ensures (withFaults world) 4 finish (fun _ _ _ => False)
      (fun halt g' x' => (∃ e, halt = .failed e) ∧ g' = g ∧ x' = x₁) g (faults, s))
    (hgoal : Attempt.Ensures world 4 finish
      (fun outcome g' _ => outcome = .completed n₂ m₂ ∧ g'.record.history.keys = keys₂)
      (fun _ _ _ => False) g s)
    (hagain : Attempt.Ensures world 4 finish
      (fun outcome g' _ => outcome = .completed n₃ m₃ ∧ g'.record.history.keys = keys₃)
      (fun _ _ _ => False) g x₁.2)
    (id : String) (hid : ¬ (id ∈ Key.ids keys₃ ↔ id ∈ Key.ids keys₂)) :
    Diverges g s faults x₁.2.server.pending := by
  obtain ⟨e, _, _, t₁, hrun₁, rfl, rfl⟩ := hcut.exists_failure
  obtain ⟨_, g₂, s₂, t₂, hrun₂, rfl, rfl⟩ := hgoal.exists_run
  obtain ⟨_, g₃, s₃, t₃, hrun₃, rfl, rfl⟩ := hagain.exists_run
  exact ⟨e, _, _, t₁, _, g₂, s₂, t₂, _, g₃, s₃, t₃, hrun₁, rfl, hrun₂, rfl, hrun₃, rfl, id, hid⟩

/-- The sample member, who takes a batch of more than two keys as a sign that there are more. -/
def eagerMember : Group :=
  { sampleMember with config := { keys := { fetchThreshold := 2 } } }

def sampleStore : Store :=
  Store.set {} (storeKey "group_data" "group") sampleMember.record.save

def longLog : List Key :=
  [.sample "first" 1, .sample "second" 2, .sample "third" 3, .sample "fourth" 4]

/-- The key that an output gives to the sample member, as it enters a log. -/
def derived (pre : Key) (o : Output) (time : UInt64) : Key :=
  { Engine.rotatedKey pre o sampleMember.actor with time }

section Derived

variable (pre : Key) {last : Key} {o : Output} {log : List Key} (hpre : pre.id = o.preKeyId)

include hpre

theorem derived_id_ne {id : String} (time : UInt64) (hid : id.length ≤ o.preKeyId.length) :
    (derived pre o time).id ≠ id := by
  intro h
  have hlt := o.length_lt_derivedId
  have heq : (derived pre o time).id = o.derivedId := by
    rw [derived, Output.derivedId, ← hpre]
    rfl
  rw [← heq, h] at hlt
  omega

variable (hkeys : ∀ k ∈ log, k.id.length ≤ o.preKeyId.length)

include hkeys

theorem derived_id_not_mem (time : UInt64) : (derived pre o time).id ∉ Key.ids log := by
  intro hmem
  obtain ⟨k, hk, hid⟩ := List.mem_map.mp hmem
  exact derived_id_ne pre hpre time (hkeys k hk) hid.symm

theorem chronicle_derived (hc : Chronicle log) (hlast : log.getLast? = some last) :
    Chronicle (log ++ [derived pre o last.time]) := by
  apply hc.snoc (derived_id_not_mem pre hpre hkeys last.time)
  intro last' hlast'
  obtain rfl : last = last' := Option.some.inj (hlast.symm.trans hlast')
  exact UInt64.le_refl _

theorem commit_derived (hlast : log.getLast? = some last) (hle : pre.time + 1 ≤ last.time)
    {s : State} (hlog : s.server.log = log) (token groupId : String) :
    world.answer (.commitKey token groupId o (Engine.rotatedKey pre o sampleMember.actor)) s =
      (some (.ok ()), { s with
        server := { s.server with
          log := log ++ [derived pre o last.time]
          pending := s.server.pending.filter (· ≠ o)
          committed := s.server.committed ++
            [(o, Engine.rotatedKey pre o sampleMember.actor)] } }) := by
  have hnew : (Engine.rotatedKey pre o sampleMember.actor).id ∉ Key.ids log :=
    derived_id_not_mem pre hpre hkeys 0
  have htime : max (pre.time + 1) last.time = last.time := if_pos hle
  simp only [world, State.answer, Server.commit_eq, hlog, Server.enter_eq hnew hlast]
  rw [show (Engine.rotatedKey pre o sampleMember.actor).time = pre.time + 1 from rfl, htime]
  rfl

end Derived

/-- An output that waits for the member to fetch, and the key that it gives. -/
def waitingOutput : Output :=
  ⟨"second", "output"⟩

def waitingKey : Key :=
  derived (.sample "second" 2) waitingOutput 4

/-- A server with that output, which holds keys back, or follows a script. -/
def waitingState (delayed : List (Nat × List Key)) (scripted : List (List Key))
    (cursors : List Cursor) : State where
  server := { log := longLog, pending := [waitingOutput], delayed, scripted, cursors }
  store := sampleStore

section Waiting

variable {delayed : List (Nat × List Key)} {scripted : List (List Key)} {cursors : List Cursor}

theorem chronicle_longLog : Chronicle longLog :=
  ⟨by decide, by decide⟩

theorem kept_waiting : Kept eagerMember (waitingState delayed scripted cursors) :=
  ⟨joined_sample.sound, List.cons_ne_nil _ _, ⟨longLog.tail, rfl⟩, chronicle_longLog, rfl⟩

theorem length_longLog : ∀ k ∈ longLog, k.id.length ≤ waitingOutput.preKeyId.length := by
  decide

theorem commit_waiting {s : State} (hlog : s.server.log = longLog) (token groupId : String) :
    world.answer (.commitKey token groupId waitingOutput
        (Engine.rotatedKey (.sample "second" 2) waitingOutput sampleMember.actor)) s =
      (some (.ok ()), { s with
        server := { s.server with
          log := longLog ++ [waitingKey]
          pending := s.server.pending.filter (· ≠ waitingOutput)
          committed := s.server.committed ++ [(waitingOutput,
            Engine.rotatedKey (.sample "second" 2) waitingOutput sampleMember.actor)] } }) :=
  commit_derived (.sample "second" 2) rfl length_longLog rfl (by decide) hlog token groupId

theorem waitingKey_ne {id : String} (hid : id.length ≤ waitingOutput.preKeyId.length) :
    waitingKey.id ≠ id :=
  derived_id_ne (.sample "second" 2) rfl 4 hid

theorem chronicle_waitingKey : Chronicle (longLog ++ [waitingKey]) :=
  chronicle_derived (.sample "second" 2) rfl length_longLog chronicle_longLog rfl

theorem joined_waiting : Joined eagerMember (waitingState [] [] cursors) :=
  ⟨.inl rfl, joined_sample.sound, List.cons_ne_nil _ _, ⟨longLog.tail, rfl⟩, chronicle_longLog,
    rfl, rfl⟩

end Waiting

theorem finish_again_waiting :
    Joined eagerMember (waitingState [] [] []) ∧
      ∃ e g₁ faults₁ s₁ trace n m g₂ s₂ trace₂ outcome g₃ s₃ trace₃,
        Operation.finish.run (withFaults world) 4 eagerMember
            ([("fetch_keys", ⟨1, 1⟩)], waitingState [] [] []) =
          ⟨.finished (.error e), g₁, (faults₁, s₁), trace⟩ ∧
        Operation.finish.run world 4 eagerMember (waitingState [] [] []).repaired =
          ⟨.finished (.ok (.completed n m)), g₂, s₂, trace₂⟩ ∧
        Operation.finish.run world 4 g₁ s₁.repaired = ⟨.finished (.ok outcome), g₃, s₃, trace₃⟩ ∧
          s₁.server.pending ≠ [] ∧ g₃.record.history.keys = g₂.record.history.keys ∧
            s₃.store = s₂.store := by
  have hsound : eagerMember.record.history.Sound := joined_sample.sound
  have hcut : Attempt.Ensures (withFaults world) 4 finish (fun _ _ _ => False)
      (fun halt g' x' => (∃ e, halt = .failed e) ∧ g' = eagerMember ∧
        x' = ([("fetch_keys", ⟨0, 0⟩)], waitingState [] [] [⟨1, "first"⟩]))
      eagerMember ([("fetch_keys", ⟨1, 1⟩)], waitingState [] [] []) :=
    finish_of_deferred_failure (.inl rfl) hsound rfl rfl rfl rfl
  have hgoal : Attempt.Ensures world 4 finish (fun outcome g' _ => outcome = .completed 1 2 ∧
      g'.record.history.keys = longLog ++ [waitingKey])
      (fun _ _ _ => False) eagerMember (waitingState [] [] []).repaired :=
    finish_after_deferral (.inl rfl) hsound rfl rfl (by decide) rfl rfl rfl rfl
      (commit_waiting rfl _ _) rfl rfl (fun _ _ => ⟨_, rfl⟩) chronicle_waitingKey
  obtain ⟨e, g₁, x₁, trace, hrun₁, rfl, rfl⟩ := hcut.exists_failure
  obtain ⟨_, g₂, s₂, trace₂, hrun₂, rfl, -⟩ := hgoal.exists_run
  have hcut' : Operation.finish.run (withFaults world) 4 eagerMember
      ([("fetch_keys", ⟨1, 1⟩)], waitingState [] [] []) = _ := hrun₁
  have hgoal' : Operation.finish.run world 4 eagerMember (waitingState [] [] []).repaired = _ :=
    hrun₂
  obtain ⟨outcome, g₃, s₃, trace₃, hrun₃, -, hsame, -⟩ :=
    finish_again (.inl rfl) joined_waiting (by decide) hcut' hgoal'
  obtain ⟨hkeys, -, hstore⟩ := hsame (.inr (List.cons_ne_nil _ _))
  exact ⟨joined_waiting, e, _, _, _, trace, 1, 2, g₂, s₂, trace₂, outcome, g₃, s₃, trace₃, hrun₁,
    hrun₂, hrun₃, List.cons_ne_nil _ _, hkeys, hstore⟩

/-- Fetches of the run that is made again count, so it gets a key that is held back for longer. -/
theorem diverges_of_delay : Diverges eagerMember (waitingState [(4, [.sample "late" 5])] [] [])
    [("fetch_keys", ⟨1, 1⟩)] [waitingOutput] := by
  have hsound : eagerMember.record.history.Sound := joined_sample.sound
  have hne : waitingKey.id ≠ "late" := waitingKey_ne (by decide)
  have hlate : Chronicle (longLog ++ [waitingKey, .sample "late" 5]) := by
    refine chronicle_waitingKey.snoc (k := .sample "late" 5) ?_ ?_
    · simpa [longLog, Key.sample] using hne.symm
    · intro last hlast
      obtain rfl : waitingKey = last := by simpa using hlast
      exact (by decide : (4 : UInt64) ≤ 5)
  have hcut : Attempt.Ensures (withFaults world) 4 finish (fun _ _ _ => False)
      (fun halt g' x' => (∃ e, halt = .failed e) ∧ g' = eagerMember ∧
        x' = ([("fetch_keys", ⟨0, 0⟩)], waitingState [(4, [.sample "late" 5])] [] [⟨1, "first"⟩]))
      eagerMember ([("fetch_keys", ⟨1, 1⟩)], waitingState [(4, [.sample "late" 5])] [] []) :=
    finish_of_deferred_failure (.inl rfl) hsound rfl rfl rfl rfl
  have hgoal : Attempt.Ensures world 4 finish (fun outcome g' _ => outcome = .completed 1 2 ∧
      g'.record.history.keys = longLog ++ [waitingKey])
      (fun _ _ _ => False) eagerMember (waitingState [(4, [.sample "late" 5])] [] []) :=
    finish_after_deferral (.inl rfl) hsound rfl rfl (by decide) rfl rfl rfl rfl
      (commit_waiting rfl _ _) rfl rfl (fun _ _ => ⟨_, rfl⟩) chronicle_waitingKey
  have hagain : Attempt.Ensures world 4 finish (fun outcome g' _ => outcome = .completed 1 2 ∧
      g'.record.history.keys = longLog ++ [waitingKey, .sample "late" 5])
      (fun _ _ _ => False) eagerMember (waitingState [(4, [.sample "late" 5])] [] [⟨1, "first"⟩]) :=
    finish_after_deferral (.inl rfl) hsound rfl rfl (by decide) rfl rfl rfl rfl
      (commit_waiting rfl _ _) rfl rfl (fun _ _ => ⟨_, rfl⟩) hlate
  apply Diverges.of_ensures hcut hgoal hagain "late"
  intro h
  have hmem : "late" ∈ Key.ids (longLog ++ [waitingKey]) := h.mp (by simp [Key.sample])
  simp [longLog, Key.sample, hne.symm] at hmem

/-- A scripted batch that was fetched by the run that was broken off is not given out again. -/
theorem diverges_of_script : Diverges eagerMember
    (waitingState [] [[.sample "x" 1, .sample "y" 1, .sample "z" 1]] [])
    [("fetch_keys", ⟨1, 1⟩)] [waitingOutput] := by
  have hsound : eagerMember.record.history.Sound := joined_sample.sound
  have hne : waitingKey.id ≠ "x" := waitingKey_ne (by decide)
  have hbatch : Chronicle ([.sample "first" 1, .sample "x" 1, .sample "y" 1, .sample "z" 1] ++
      longLog.tail) := ⟨by decide, by decide⟩
  have hlog : Chronicle ([.sample "first" 1, .sample "x" 1, .sample "y" 1, .sample "z" 1] ++
      longLog.tail ++ [waitingKey]) :=
    chronicle_derived (.sample "second" 2) rfl (by decide) hbatch rfl
  have hcut : Attempt.Ensures (withFaults world) 4 finish (fun _ _ _ => False)
      (fun halt g' x' => (∃ e, halt = .failed e) ∧ g' = eagerMember ∧
        x' = ([("fetch_keys", ⟨0, 0⟩)], waitingState [] [] [⟨1, "first"⟩]))
      eagerMember ([("fetch_keys", ⟨1, 1⟩)],
        waitingState [] [[.sample "x" 1, .sample "y" 1, .sample "z" 1]] []) :=
    finish_of_deferred_failure (.inl rfl) hsound rfl rfl rfl rfl
  have hgoal : Attempt.Ensures world 4 finish (fun outcome g' _ => outcome = .completed 1 2 ∧
      g'.record.history.keys = [.sample "first" 1, .sample "x" 1, .sample "y" 1, .sample "z" 1] ++
        longLog.tail ++ [waitingKey])
      (fun _ _ _ => False) eagerMember
      (waitingState [] [[.sample "x" 1, .sample "y" 1, .sample "z" 1]] []) :=
    finish_after_deferral (.inl rfl) hsound rfl rfl (by decide) rfl rfl rfl rfl
      (commit_waiting rfl _ _) rfl rfl (fun _ _ => ⟨_, rfl⟩) hlog
  have hagain : Attempt.Ensures world 4 finish (fun outcome g' _ => outcome = .completed 1 2 ∧
      g'.record.history.keys = longLog ++ [waitingKey])
      (fun _ _ _ => False) eagerMember (waitingState [] [] [⟨1, "first"⟩]) :=
    finish_after_deferral (.inl rfl) hsound rfl rfl (by decide) rfl rfl rfl rfl
      (commit_waiting rfl _ _) rfl rfl (fun _ _ => ⟨_, rfl⟩) chronicle_waitingKey
  apply Diverges.of_ensures hcut hgoal hagain "x"
  intro h
  have hmem : "x" ∈ Key.ids (longLog ++ [waitingKey]) := h.mpr (by simp [Key.sample])
  simp [longLog, Key.sample, hne.symm] at hmem

/-- An output that the member can resolve at once, and the key that it gives. -/
def readyOutput : Output :=
  ⟨"first", "output"⟩

def readyKey : Key :=
  derived (.sample "first" 1) readyOutput 2

/-- A server with that output, and with a key that the member does not have. -/
def readyState : State where
  server := { log := [.sample "first" 1, .sample "next" 2], pending := [readyOutput] }
  store := sampleStore

def committedState : State where
  server := {
    log := [.sample "first" 1, .sample "next" 2, readyKey]
    committed :=
      [(readyOutput, Engine.rotatedKey (.sample "first" 1) readyOutput sampleMember.actor)] }
  engine := { derivations := 1 }
  store := sampleStore

theorem kept_ready : Kept sampleMember readyState :=
  ⟨joined_sample.sound, List.cons_ne_nil _ _, ⟨[.sample "next" 2], rfl⟩,
    ⟨by decide, by decide⟩, rfl⟩

/-- If the new key is committed and not fetched, nothing is pending any more, and the run that is
made again has nothing to do. -/
theorem diverges_of_commit :
    Diverges sampleMember readyState [("fetch_keys", ⟨0, 1⟩)] [] := by
  have hsound : sampleMember.record.history.Sound := joined_sample.sound
  have hkeys : ∀ k ∈ [Key.sample "first" 1, .sample "next" 2],
      k.id.length ≤ readyOutput.preKeyId.length := by decide
  have hlast : [Key.sample "first" 1, .sample "next" 2].getLast? = some (.sample "next" 2) := rfl
  have hid : (Key.sample "first" 1).id = readyOutput.preKeyId := rfl
  have hcommit := fun (s : State) hlog => commit_derived _ hid hkeys hlast (by decide) (s := s)
    hlog sampleMember.actor.token sampleMember.record.groupId
  have hlog : Chronicle [.sample "first" 1, .sample "next" 2, readyKey] :=
    chronicle_derived _ hid hkeys kept_ready.chronicle hlast
  have hcut : Attempt.Ensures (withFaults world) 4 finish (fun _ _ _ => False)
      (fun halt g' x' => (∃ e, halt = .failed e) ∧ g' = sampleMember ∧
        x' = ([("fetch_keys", ⟨0, 0⟩)], committedState))
      sampleMember ([("fetch_keys", ⟨0, 1⟩)], readyState) := by
    have hcommit' : (withFaults world).answer (.commitKey sampleMember.actor.token
        sampleMember.record.groupId readyOutput
        (Engine.rotatedKey (.sample "first" 1) readyOutput sampleMember.actor))
        ([("fetch_keys", ⟨0, 1⟩)], { readyState with engine := { derivations := 1 } }) =
        (some (.ok ()), ([("fetch_keys", ⟨0, 1⟩)], committedState)) := by
      have h := hcommit { readyState with engine := { derivations := 1 } } rfl
      exact congrArg (fun r => (r.1, ([("fetch_keys", (⟨0, 1⟩ : Fault))], r.2))) h
    exact finish_of_resolved_failure (.inl rfl) hsound rfl rfl rfl rfl hcommit' rfl
  have hgoal : Attempt.Ensures world 4 finish (fun outcome g' _ => outcome = .completed 1 1 ∧
      g'.record.history.keys = [.sample "first" 1, .sample "next" 2, readyKey])
      (fun _ _ _ => False) sampleMember readyState :=
    finish_of_resolution (.inl rfl) hsound rfl rfl rfl rfl (hcommit _ rfl) rfl
      (fun _ _ => ⟨_, rfl⟩) hlog
  have hagain : Attempt.Ensures world 4 finish (fun outcome g' _ => outcome = .completed 0 0 ∧
      g'.record.history.keys = [.sample "first" 1])
      (fun _ _ _ => False) sampleMember committedState := by
    apply finish_of_finishPending (.inl rfl)
    exact ⟨rfl, rfl⟩
  apply Diverges.of_ensures hcut hgoal hagain "next"
  intro h
  exact absurd (h.mpr (by decide)) (by decide)

/-- A finish run made again does not always make up for one that was broken off: not if the cut
comes after the last commit, and, even if outputs are still pending then, not if the server holds
keys back or follows a script. -/
theorem finish_again_diverges :
    (Kept sampleMember readyState ∧
        Diverges sampleMember readyState [("fetch_keys", ⟨0, 1⟩)] []) ∧
      (Kept eagerMember (waitingState [(4, [.sample "late" 5])] [] []) ∧
        Diverges eagerMember (waitingState [(4, [.sample "late" 5])] [] [])
          [("fetch_keys", ⟨1, 1⟩)] [waitingOutput]) ∧
      (Kept eagerMember (waitingState [] [[.sample "x" 1, .sample "y" 1, .sample "z" 1]] []) ∧
        Diverges eagerMember (waitingState [] [[.sample "x" 1, .sample "y" 1, .sample "z" 1]] [])
          [("fetch_keys", ⟨1, 1⟩)] [waitingOutput]) :=
  ⟨⟨kept_ready, diverges_of_commit⟩, ⟨kept_waiting, diverges_of_delay⟩,
    ⟨kept_waiting, diverges_of_script⟩⟩

end Divergence

end Keyring.Group
