import Keyring.Proofs.Group.Account
import Keyring.Proofs.Group.Effect
import Keyring.Proofs.Memory.Deadline
import Keyring.Proofs.Memory.Storing

namespace Keyring.Group

open Attempt Memory Rotation

/-- A finish run under way: of the group only the history has changed, and nothing is stored. -/
structure UnderWay (g : Group) (store : Store) (g' : Group) (s : State) : Prop where
  group : ∃ h : History, g' = ({ g with phase := .finishing } : Group).withHistory h
  store_eq : s.store = store

/-- The phase in which a finish run that was cut leaves a group. -/
abbrev phaseLeft (g : Group) : Phase :=
  if g.record.keyUpdate then .published else .idle

/-- What a finish run tells that its time limit has cut. -/
def expirySignals (g : Group) : List Signal := [
  .notice (.finishAbandoned g.record.groupId g.phaseLeft.name),
  .notice (.finishTimedOut g.record.groupId g.config.rotation.timeout.describe)]

/-- A finish run under a time limit that ends as the one without. -/
structure Uncut (plain timed : Run Group State (Except Failure Outcome)) : Prop where
  finished : ∃ result, plain.ending = .finished result
  ending_eq : timed.ending = plain.ending
  state_eq : timed.state = plain.state
  server_eq : timed.world.server = plain.world.server
  engine_eq : timed.world.engine = plain.world.engine
  store_eq : timed.world.store = plain.world.store
  trace_eq : timed.trace = plain.trace

/-- A finish run that its time limit cuts, compared with the one without the limit: the history is
the one in the last stage of that run before the limit ends. -/
structure Expired (wait limit : Nat) (g : Group) (s : State) (stages : List (Group × State))
    (plain timed : Run Group State (Except Failure Outcome)) : Prop where
  ending : timed.ending = .finished (.error
    (.timedOut ("rotation finish exceeded " ++ g.config.rotation.timeout.describe)))
  store_eq : timed.world.store = s.store
  severed : ∃ trace, Severed wait limit plain.trace trace ∧
    timed.trace = trace ++ g.expirySignals.map .told
  left : ∃ earlier g₁ s₁ later, stages = earlier ++ (g₁, s₁) :: later ∧
    s₁.clock.now < s.clock.now + limit ∧ (∀ x ∈ later, s.clock.now + limit < x.2.clock.now) ∧
    timed.state = { g.withHistory g₁.record.history with phase := g.phaseLeft }

section Limit

variable {σ S α : Type} {w : World S} {fuel : Nat} {limit : Duration} {body expired : Program σ α}
  {state : σ} {world : S} {r : Run σ S α}

theorem runWithin_of_cut (hr : body.run w fuel state (w.startTimer limit world) = r)
    (hcut : r.ending = .cut) :
    Program.runWithin w fuel limit body expired state world =
      (expired.run w fuel r.state (w.stopTimer r.world)).after r.trace := by
  simp only [Program.runWithin, hr, hcut]

theorem runWithin_of_uncut (hr : body.run w fuel state (w.startTimer limit world) = r)
    (huncut : r.ending ≠ .cut) :
    Program.runWithin w fuel limit body expired state world =
      ⟨r.ending, r.state, w.stopTimer r.world, r.trace⟩ := by
  simp only [Program.runWithin, hr]

end Limit

variable {fuel : Nat} {g : Group} {s : State}

theorem outlasts_underWay {store : Store} {q : Request} (hq : q.isWrite = false) :
    Outlasts world.recorded (fun g' x => UnderWay g store g' x.2) q :=
  fun _ x h => ⟨h.group, (x.2.store_answer hq).trans h.store_eq⟩

theorem underWay_grows {store : Store} :
    OutlastsGrowth fun g' (x : List Event × State) => UnderWay g store g' x.2 := by
  rintro g' x batch h ⟨⟨history, rfl⟩, hstore⟩ -
  exact ⟨⟨h, rfl⟩, hstore⟩

theorem finishPending_underWay (fuel : Nat) (g : Group) (s : State) :
    Ensures world.recorded fuel finishPending (fun _ _ _ => True)
      (fun halt g' x => halt = .cut → UnderWay g s.store g' x.2 ∨
        ∃ key text reply, x.1.getLast? = some (.ofReply (.writeStore key text) reply))
      { g with phase := .finishing } ([], s) := by
  let I : Group → List Event × State → Prop := fun g' x => UnderWay g s.store g' x.2
  simp only [finishPending, ensures_bind, ensures_get]
  have hask : Preserves world.recorded fuel I
      (Attempt.request (.pendingOutputs g.actor.token g.record.groupId)) :=
    .request (outlasts_underWay rfl)
  refine (hask _ _ ⟨⟨_, rfl⟩, rfl⟩).mono ?_ fun _ _ _ h _ => .inl h
  intro (pending : List Output) g₁ x₁ h₁
  split
  · trivial
  · simp only [ensures_bind, ensures_notice]
    have hround : ∀ q : Request, q.isOfRound → Outlasts world.recorded I q := by
      intro q hq
      cases q with
      | writeStore key text => cases hq
      | _ => exact outlasts_underWay rfl
    -- After the rounds the record is stored, and a cut there shows in the last call.
    refine (preserves_catchUp hround underWay_grows 1 0 _ pending g₁ x₁ h₁).mono ?_
      fun _ _ _ h _ => .inl h
    rintro ⟨resolved, rounds, waiting⟩ g₂ ⟨calls, s₂⟩ -
    have hend : ∀ g₂ (outcome : Outcome) m, Ensures world.recorded fuel (do
          persist
          Attempt.metric m
          return outcome) (fun _ _ _ => True)
        (fun halt g' x => halt = .cut → UnderWay g s.store g' x.2 ∨
          ∃ key text reply, x.1.getLast? = some (.ofReply (.writeStore key text) reply))
        g₂ (calls, s₂) := by
      intro g₂ outcome m
      rw [ensures_bind]
      apply Group.persist_recorded
      · exact fun _ _ => trivial
      · exact fun text reply _ _ _ _ _ => .inr ⟨_, text, reply, List.getLast?_concat⟩
    simp only [ensures_bind, ensures_metric]
    split
    · simp only [modifyRecord, ensures_bind, ensures_get, ensures_set, ensures_notice]
      exact ensures_bind.mp (hend _ (.completed resolved rounds) _)
    · simp only [ensures_bind, ensures_notice]
      exact ensures_bind.mp (hend _ (.incomplete resolved rounds waiting) _)

/-- A finish run that is cut is still under way, unless storing the record was what was cut. -/
theorem finish_underWay (fuel : Nat) (g : Group) (s : State) :
    Ensures world.recorded fuel finish (fun _ _ _ => True)
      (fun halt g' x => halt = .cut → UnderWay g s.store g' x.2 ∨
        ∃ key text reply, x.1.getLast? = some (.ofReply (.writeStore key text) reply)) g ([], s) := by
  by_cases hphase : g.phase = .idle ∨ g.phase = .published
  · apply finish_of_finishPending hphase
    refine (finishPending_underWay fuel g s).mono (fun _ _ _ _ => trivial) fun halt g' x h => ?_
    cases halt with
    | failed e => simp
    | cut => exact h
    | exhausted => exact h
  · simp only [finish, ensures_bind, ensures_get]
    split
    · exact absurd (.inl ‹_›) hphase
    · exact absurd (.inr ‹_›) hphase
    · simp [ensures_throw]

theorem run_finishExpired (hphase : g.phase = .finishing) :
    finishExpired.run.run world fuel g s = ⟨.finished (.error
      (.timedOut ("rotation finish exceeded " ++ g.config.rotation.timeout.describe))),
      { g with phase := g.phaseLeft }, s, g.expirySignals.map .told⟩ := by
  obtain ⟨record, actor, config, phase⟩ := g
  obtain rfl : phase = .finishing := hphase
  rfl

theorem underWay_of_cut (hending : (finish.run.run world fuel g s).ending = .cut) {q : Request}
    (hfetch : q.isFetch = true)
    (hlast : (finish.run.run world fuel g s).trace.getLast? = some (.dropped q)) :
    UnderWay g s.store (finish.run.run world fuel g s).state
      (finish.run.run world fuel g s).world := by
  have hmeets := (finish_underWay fuel g s).of_recorded rfl
  unfold Meets at hmeets
  rw [hending] at hmeets
  rcases hmeets rfl with hway | ⟨key, text, reply, hwrite⟩
  · exact hway
  · -- The last call would be both a write and a request for keys.
    have hcalls : (finish.run.run world fuel g s).calls.getLast? = some (.dropped q) := by
      obtain ⟨front, hfront⟩ := List.getLast?_eq_some_iff.mp hlast
      rw [Run.calls, hfront, List.filter_append]
      exact List.getLast?_concat
    have hsame : Event.dropped q = .ofReply (.writeStore key text) reply :=
      Option.some.inj (hcalls.symm.trans hwrite)
    cases reply with
    | some r => cases hsame
    | none =>
        obtain rfl := Event.dropped.inj hsame
        cases hfetch

section Limited

variable {wait : Nat}

theorem ahead_started (hwaits : s.Waits wait)
    (hapart : ¬ wait ∣ g.config.rotation.timeout.millisecondsUp) :
    s.Ahead wait (s.clock.now + g.config.rotation.timeout.millisecondsUp)
      (world.startTimer g.config.rotation.timeout s) := by
  have hlimit : g.config.rotation.timeout.millisecondsUp ≠ 0 := by
    intro hzero
    rw [hzero] at hapart
    exact hapart (Nat.dvd_zero wait)
  refine ⟨hwaits, rfl, rfl, rfl, by omega, ?_⟩
  rwa [Nat.add_sub_cancel_left]

theorem uncut_of_early (hwaits : s.Waits wait)
    (hapart : ¬ wait ∣ g.config.rotation.timeout.millisecondsUp)
    (hfuel : g.config.rotation.timeout.millisecondsUp < fuel * wait)
    (hearly : (Operation.finish.run world fuel g s).fetches * wait <
      g.config.rotation.timeout.millisecondsUp) :
    Uncut (Operation.finish.run world fuel g s) (Operation.finishInTime.run world fuel g s) := by
  have helapsed : Elapsed wait fuel s (Operation.finish.run world fuel g s) :=
    hwaits.elapsed_run fuel finish.run g
  rcases (ahead_started hwaits hapart).run fuel finish.run g with hstep | hstop
  · cases hending : (Operation.finish.run world fuel g s).ending with
    | cut => exact absurd hending helapsed.uncut
    | exhausted =>
        -- So many fetches would have taken longer than the limit.
        have hspent := Nat.mul_le_mul_right wait (helapsed.exhausted hending)
        omega
    | finished result =>
        have hfinished := hstep.ending_eq.trans hending
        have htimed : Operation.finishInTime.run world fuel g s = ⟨_, _, _, _⟩ :=
          runWithin_of_uncut rfl (hfinished ▸ nofun)
        rw [htimed]
        exact ⟨⟨result, hending⟩, hstep.ending_eq, hstep.state_eq, hstep.ahead.server_eq,
          hstep.ahead.engine_eq, hstep.ahead.store_eq, hstep.trace_eq⟩
  · have hlate := hstop.severed.late
    rw [Nat.add_sub_cancel_left] at hlate
    exact absurd hearly (Nat.not_lt.mpr hlate.le)

theorem expired_of_late (hwaits : s.Waits wait)
    (hapart : ¬ wait ∣ g.config.rotation.timeout.millisecondsUp)
    (hlate : g.config.rotation.timeout.millisecondsUp <
      (Operation.finish.run world fuel g s).fetches * wait) :
    Expired wait (g.config.rotation.timeout.millisecondsUp) g s (finish.run.stages world fuel g s)
      (Operation.finish.run world fuel g s) (Operation.finishInTime.run world fuel g s) := by
  have hnow : (Operation.finish.run world fuel g s).world.clock.now = _ :=
    (hwaits.elapsed_run fuel finish.run g).now_eq
  rcases (ahead_started hwaits hapart).run fuel finish.run g with hstep | hstop
  · have hearly : (Operation.finish.run world fuel g s).world.clock.now < _ := hstep.ahead.early
    have hfetches : (finish.run.run world fuel g s).fetches =
        (Operation.finish.run world fuel g s).fetches := rfl
    rw [hfetches] at hnow
    omega
  · obtain ⟨hending, hsevered, earlier, s₁, later, hstages, hbefore, hbehind⟩ := hstop
    obtain ⟨q, hfetch, hlast⟩ := hsevered.getLast?
    obtain ⟨⟨h, hgroup⟩, hstore⟩ := underWay_of_cut hending hfetch hlast
    have htimed : Operation.finishInTime.run world fuel g s = Run.after _ _ :=
      runWithin_of_cut rfl hending
    rw [run_finishExpired (congrArg Group.phase hgroup), hgroup] at htimed
    rw [Nat.add_sub_cancel_left] at hsevered
    rw [htimed]
    exact ⟨rfl, hstore, ⟨_, hsevered, rfl⟩, earlier, _, s₁, later, hstages, hbefore, hbehind,
      by rw [hgroup]; rfl⟩

end Limited

/-- A time limit either leaves a finish run as it is, or cuts it. With that much fuel, no fetch loop
comes to its end before the limit does. -/
theorem finishInTime_cuts_finish {wait : Nat} (huntimed : s.clock.deadline = none)
    (hdelay : s.server.delay = some wait) (hwait : 0 < wait)
    (hapart : ¬ wait ∣ g.config.rotation.timeout.millisecondsUp)
    (hfuel : g.config.rotation.timeout.millisecondsUp < fuel * wait) :
    let limit := g.config.rotation.timeout.millisecondsUp
    let plain := Operation.finish.run world fuel g s
    let timed := Operation.finishInTime.run world fuel g s
    (plain.fetches * wait < limit → Uncut plain timed) ∧
      (limit < plain.fetches * wait →
        Expired wait limit g s (finish.run.stages world fuel g s) plain timed) := by
  intro limit plain timed
  have hwaits : s.Waits wait := ⟨huntimed, hdelay, hwait⟩
  exact ⟨uncut_of_early hwaits hapart hfuel, expired_of_late hwaits hapart⟩

section InVain

variable {wait : Nat} {last : Key} {o : Output}

/-- A simulation without a time limit whose fetches wait, and then bring no keys after a certain
one. -/
structure Barren (wait : Nat) (last : Key) (s : State) : Prop where
  waits : s.Waits wait
  working : s.server.failing = false
  undelayed : s.server.delayed = []
  unscripted : s.server.scripted = []
  ended : Server.keysAfter s.server.log last.cursor = []

theorem Barren.answer (h : Barren wait last s) (token groupId : String) :
    ∃ s', world.answer (.fetchKeys token groupId last.cursor) s = (some (.ok []), s') ∧
      Barren wait last s' ∧ s'.clock.now = s.clock.now + wait := by
  have hfetch : s.server.fetch last.cursor =
      ({ s.server with cursors := last.cursor :: s.server.cursors }, .ok []) := by
    simp [Server.fetch, h.working, h.undelayed, h.unscripted, h.ended]
  obtain ⟨r, s', hanswer, hwaits, hnow⟩ := h.waits.answer (.fetchKeys token groupId last.cursor)
  obtain ⟨c, hstop, -⟩ := State.stopFor_untimed h.waits (.fetchKeys token groupId last.cursor)
    h.waits.untimed
  have hstop' : s.fetchStop s.clock = (true, c) := hstop
  have heq : world.answer (.fetchKeys token groupId last.cursor) s = (some (.ok []),
      { s with server := { s.server with cursors := last.cursor :: s.server.cursors }, clock := c }) := by
    simp only [world, State.answer, State.behind, hstop', hfetch]
  obtain rfl := (Prod.mk.inj (hanswer.symm.trans heq)).2
  exact ⟨_, heq, ⟨hwaits, h.working, h.undelayed, h.unscripted, h.ended⟩, hnow⟩

/-- A member whose last key is this one, and who does not have the start key of an output. -/
structure Lacks (last : Key) (o : Output) (g : Group) : Prop where
  sound : g.record.history.Sound
  last_eq : g.record.history.keys.getLast? = some last
  unknown : o.preKeyId ∉ Key.ids g.record.history.keys

theorem finishRound_barren (hg : Lacks last o g) (hs : Barren wait last s) (round left : Nat) :
    Ensures world (fuel + 1) (finishRound round left [o])
      (fun r g' s' => r = (0, [o]) ∧ Lacks last o g' ∧ Barren wait last s' ∧
        s'.clock.now = s.clock.now + wait) (fun _ _ _ => False) g s := by
  have hget : g.record.history.get? o.preKeyId = none :=
    (hg.sound.get?_eq_none_iff _).mpr hg.unknown
  obtain ⟨s', hanswer, hbarren, hnow⟩ := hs.answer g.actor.token g.record.groupId
  simp only [finishRound, resolveKnown, ensures_bind, ensures_get, hget, ensures_notice,
    ensures_metric, ensures_pure]
  apply fetchNew_of_gather hg.sound hg.last_eq
  rw [ensures_gather_succ, ensures_request]
  have hrequest : world.answer (Sweep.request ⟨g.actor.token, g.record.groupId,
      g.config.keys.fetchThreshold, last.cursor, []⟩) s = (some (.ok []), s') := hanswer
  rw [hrequest]
  have hnone : g.record.history.keys ++ [] = g.record.history.keys := List.append_nil _
  refine ⟨rfl, hnone.symm ▸ hg.sound.chronicle, fun h hsound hkeys => ?_⟩
  have hkept : h.keys = g.record.history.keys := hkeys.trans hnone
  exact ⟨rfl, ⟨hsound, hkept ▸ hg.last_eq, hkept ▸ hg.unknown⟩, hbarren, hnow⟩

theorem catchUp_barren (hg : Lacks last o g) (hs : Barren wait last s) (round left : Nat) :
    Ensures world (fuel + 1) (catchUp round 0 left [o])
      (fun r _ s' => r = (0, round + left, [o]) ∧ Barren wait last s' ∧
        s'.clock.now = s.clock.now + (left + 1) * wait) (fun _ _ _ => False) g s := by
  induction left generalizing round g s with
  | zero =>
      simp only [catchUp, ensures_bind]
      refine (finishRound_barren hg hs round 0).mono ?_ fun _ _ _ h => h
      rintro _ g' s' ⟨rfl, -, hbarren, hnow⟩
      refine ⟨rfl, hbarren, ?_⟩
      rw [Nat.zero_add, Nat.one_mul]
      exact hnow
  | succ left ih =>
      simp only [catchUp, ensures_bind]
      refine (finishRound_barren hg hs round (left + 1)).mono ?_ fun _ _ _ h => h
      rintro _ g' s' ⟨rfl, hlacks, hbarren, hnow⟩
      refine (ih hlacks hbarren (round + 1)).mono ?_ fun _ _ _ h => h
      rintro _ g'' s'' ⟨rfl, hbarren', hnow'⟩
      refine ⟨by simp only [Prod.mk.injEq, and_true, true_and]; omega, hbarren', ?_⟩
      have hrounds : (left + 1 + 1) * wait = (left + 1) * wait + wait := Nat.succ_mul (left + 1) wait
      omega

theorem finish_in_vain (hphase : g.phase = .idle ∨ g.phase = .published) (hg : Lacks last o g)
    (hs : Barren wait last s) (hpending : s.server.pending = [o]) :
    (Operation.finish.run world (fuel + 1) g s).ending =
        .finished (.ok (.incomplete 0 (1 + g.furtherRounds) [o])) ∧
      (Operation.finish.run world (fuel + 1) g s).fetches = g.furtherRounds + 1 := by
  have hpersist : ∀ g' s', Barren wait last s' →
      Ensures world (fuel + 1) persist (fun _ _ s'' => s''.clock.now = s'.clock.now)
        (fun _ _ _ => False) g' s' := by
    intro g' s' hs'
    simp only [persist, Record.store, ensures_bind, ensures_get, ensures_notice]
    obtain ⟨r, s'', hanswer, -, hnow⟩ := hs'.waits.answer
      (.writeStore (storeKey g'.config.store.space g'.record.groupId) g'.record.save)
    obtain ⟨clock, hwrite | hwrite⟩ := answer_writeStore
      (storeKey g'.config.store.space g'.record.groupId) g'.record.save s'
    · cases hwrite.symm.trans hanswer
    · obtain rfl := (Prod.mk.inj (hwrite.symm.trans hanswer)).2
      rw [ensures_request, hwrite]
      exact hnow
  have hfinish : Ensures world (fuel + 1) finish
      (fun outcome _ s' => outcome = .incomplete 0 (1 + g.furtherRounds) [o] ∧
        s'.clock.now = s.clock.now + (g.furtherRounds + 1) * wait)
      (fun _ _ _ => False) g s := by
    apply finish_of_finishPending hphase
    have hanswer : world.answer (.pendingOutputs g.actor.token g.record.groupId) s =
        (some (.ok [o]), s) := by
      rw [← hpending]
      rfl
    simp only [finishPending, ensures_bind, ensures_get]
    rw [ensures_request, hanswer]
    simp only [List.isEmpty_cons, Bool.false_eq_true, if_false, ensures_bind, ensures_notice]
    have hlacks : Lacks last o { g with phase := .finishing } := ⟨hg.sound, hg.last_eq, hg.unknown⟩
    refine (catchUp_barren hlacks hs 1 _).mono ?_ fun _ _ _ h => h.elim
    rintro _ g' s' ⟨rfl, hbarren, hnow⟩
    simp only [ensures_bind, ensures_metric, List.isEmpty_cons, Bool.false_eq_true, if_false,
      ensures_notice]
    refine (hpersist g' s' hbarren).mono ?_ fun _ _ _ h => h.elim
    exact fun _ _ s'' hkept => ⟨rfl, hkept.trans hnow⟩
  obtain ⟨outcome, g', s', trace, hrun, rfl, htime⟩ := hfinish.exists_run
  have helapsed := (hs.waits.elapsed_run (fuel + 1) finish.run g).now_eq
  have hrun' : Operation.finish.run world (fuel + 1) g s = _ := hrun
  rw [hrun] at helapsed
  rw [hrun']
  exact ⟨rfl, Nat.eq_of_mul_eq_mul_right hs.waits.pos
    (Nat.add_left_cancel (helapsed.symm.trans htime))⟩

end InVain

section Hurried

/-- The sample member with a number of rounds and ten milliseconds for them. -/
def hurried (rounds : UInt32) : Group :=
  { sampleMember with
    config := { rotation := { maxRounds := rounds, timeout := ⟨10000000, by decide⟩ } } }

/-- A server whose fetches wait and have nothing to give, with an output whose start key is unknown. -/
def vainState (wait : Nat) : State where
  server := {
    log := [Key.sample "first" 1]
    pending := [⟨"ghost", "output"⟩]
    delay := some wait }

theorem barren_vainState {wait : Nat} (hwait : 0 < wait) :
    Barren wait (.sample "first" 1) (vainState wait) := by
  have hended : Server.keysAfter [.sample "first" 1] (Key.sample "first" 1).cursor = [] := by decide
  exact ⟨⟨rfl, rfl, hwait⟩, rfl, rfl, rfl, hended⟩

theorem finish_hurried (rounds : UInt32) {wait : Nat} (hwait : 0 < wait) :
    (Operation.finish.run world 2 (hurried rounds) (vainState wait)).ending =
        .finished (.ok (.incomplete 0 (1 + (rounds.toNat - 1)) [⟨"ghost", "output"⟩])) ∧
      (Operation.finish.run world 2 (hurried rounds) (vainState wait)).fetches =
        rounds.toNat - 1 + 1 := by
  have hunknown : "ghost" ∉ Key.ids sampleMember.record.history.keys := by decide
  have hlacks : Lacks (.sample "first" 1) ⟨"ghost", "output"⟩ (hurried rounds) :=
    ⟨joined_sample.sound, rfl, hunknown⟩
  exact finish_in_vain (.inl rfl) hlacks (barren_vainState hwait) rfl

theorem finishInTime_cuts_second_fetch :
    Uncut (Operation.finish.run world 2 (hurried 1) (vainState 7))
        (Operation.finishInTime.run world 2 (hurried 1) (vainState 7)) ∧
      (Operation.finish.run world 2 (hurried 2) (vainState 7)).fetches = 2 ∧
      Expired 7 10 (hurried 2) (vainState 7)
        (finish.run.stages world 2 (hurried 2) (vainState 7))
        (Operation.finish.run world 2 (hurried 2) (vainState 7))
        (Operation.finishInTime.run world 2 (hurried 2) (vainState 7)) := by
  have hseven : 0 < 7 := by decide
  have hone : (Operation.finish.run world 2 (hurried 1) (vainState 7)).fetches = 1 :=
    (finish_hurried 1 hseven).2
  have htwo : (Operation.finish.run world 2 (hurried 2) (vainState 7)).fetches = 2 :=
    (finish_hurried 2 hseven).2
  have hearly : (Operation.finish.run world 2 (hurried 1) (vainState 7)).fetches * 7 < 10 := by
    rw [hone]
    decide
  have hlate : 10 < (Operation.finish.run world 2 (hurried 2) (vainState 7)).fetches * 7 := by
    rw [htwo]
    decide
  have huntimed : (vainState 7).clock.deadline = none := rfl
  have hdelay : (vainState 7).server.delay = some 7 := rfl
  have hapart : ¬ 7 ∣ 10 := by decide
  have hfuel : 10 < 2 * 7 := by decide
  have hshort : _ ∧ _ :=
    finishInTime_cuts_finish (g := hurried 1) huntimed hdelay hseven hapart hfuel
  have hlong : _ ∧ _ :=
    finishInTime_cuts_finish (g := hurried 2) huntimed hdelay hseven hapart hfuel
  exact ⟨hshort.1 hearly, htwo, hlong.2 hlate⟩

end Hurried

end Keyring.Group
