import Keyring.Proofs.Memory.Following
import Keyring.Proofs.Memory.Frame
import Keyring.Proofs.Program.Stages

namespace Keyring

open Memory

/-- The time that a request takes when a fetch waits for some time. -/
def Request.time (wait : Nat) (q : Request) : Nat :=
  if q.isFetch then wait else 0

theorem fetchesIn_called_mul (q : Request) (r : q.Reply) (wait : Nat) :
    fetchesIn [.called q r] * wait = q.time wait := by
  rw [fetchesIn_called, Request.time]
  split <;> simp

theorem Request.time_left {wait left : Nat} (q : Request) (h : ¬ wait ∣ left)
    (hle : q.time wait ≤ left) : q.time wait < left ∧ ¬ wait ∣ left - q.time wait := by
  have hdvd : wait ∣ q.time wait := by
    unfold time
    split
    · exact Nat.dvd_refl wait
    · exact Nat.dvd_zero wait
  constructor
  · exact Nat.lt_of_le_of_ne hle fun heq => h (heq ▸ hdvd)
  · intro hleft
    have hsum := Nat.dvd_add hleft hdvd
    rw [Nat.sub_add_cancel hle] at hsum
    exact h hsum

namespace Memory

/-- A simulation without a time limit in which a fetch waits for some time. -/
structure State.Waits (wait : Nat) (s : State) : Prop where
  untimed : s.clock.deadline = none
  delayed : s.server.delay = some wait
  pos : 0 < wait

/-- A simulation without a time limit, and the same one ahead of a deadline at which no fetch ends. -/
structure State.Ahead (wait deadline : Nat) (s t : State) : Prop where
  waits : s.Waits wait
  same : t = { s with clock := t.clock }
  now_eq : t.clock.now = s.clock.now
  timed : t.clock.deadline = some deadline
  early : s.clock.now < deadline
  apart : ¬ wait ∣ deadline - s.clock.now

namespace State

variable {wait deadline : Nat} {s t : State} {c : Clock} {q : Request}

/-- The stop that a request comes to before it is answered. -/
def stopFor (s : State) : Request → Clock → Bool × Clock
  | .fetchKeys .. => s.fetchStop
  | .readStore _ => Clock.giveWay
  | .writeStore .. => Clock.pass
  | _ => fun c => (true, c)

theorem exists_answer (q : Request) (s : State) : ∃ (r : q.Reply) (s' : State), ∀ clock : Clock,
    world.answer q { s with clock := clock } =
      match s.stopFor q clock with
      | (false, clock) => (none, { s with clock := clock })
      | (true, clock) => (some r, { s' with clock := clock }) := by
  cases q with
  | fetchKeys token groupId cursor =>
      refine ⟨(s.server.fetch cursor).2, { s with server := (s.server.fetch cursor).1 }, ?_⟩
      intro clock
      have hstop : ({ s with clock := clock } : State).fetchStop = s.fetchStop := rfl
      rcases hpassed : s.fetchStop clock with ⟨_ | _, _⟩ <;>
        simp only [world, answer, behind, stopFor, hstop, hpassed]
  | readStore key =>
      refine ⟨.ok (s.store.get? key), s, ?_⟩
      intro clock
      rcases hpassed : clock.giveWay with ⟨_ | _, _⟩ <;>
        simp only [world, answer, behind, stopFor, hpassed]
  | writeStore key text =>
      refine ⟨.ok (), { s with store := s.store.set key text }, ?_⟩
      intro clock
      rcases hpassed : clock.pass with ⟨_ | _, _⟩ <;>
        simp only [world, answer, behind, stopFor, hpassed]
  | deriveKey preKey output actor =>
      exact ⟨(s.engine.derive preKey output actor).2,
        { s with engine := (s.engine.derive preKey output actor).1 }, fun _ => rfl⟩
  | _ =>
      simp only [world, answer, stopFor]
      exact ⟨_, ⟨_, _, _, s.clock⟩, fun _ => rfl⟩

theorem stopFor_untimed (hs : s.Waits wait) (q : Request) (hc : c.deadline = none) :
    ∃ c', s.stopFor q c = (true, c') ∧ c'.deadline = none ∧ c'.now = c.now + q.time wait := by
  have hdue : c.due = false := Clock.due_of_untimed hc
  cases q with
  | fetchKeys token groupId cursor =>
      refine ⟨c.goTo (c.now + wait), ?_, hc, rfl⟩
      simp only [stopFor, fetchStop, hs.delayed, Clock.wait, if_neg hs.pos.ne', hc]
  | readStore key =>
      obtain ⟨stops, hstop⟩ := Clock.exists_giveWay hdue
      exact ⟨_, hstop, hc, rfl⟩
  | writeStore key text =>
      obtain ⟨stops, hstop⟩ := Clock.exists_pass hdue
      exact ⟨_, hstop, hc, rfl⟩
  | _ => exact ⟨_, rfl, hc, rfl⟩

theorem stopFor_timed (hs : s.Waits wait) (q : Request) (hc : c.deadline = some deadline)
    (hearly : c.now < deadline) :
    (∃ c', s.stopFor q c = (true, c') ∧ c'.deadline = some deadline ∧
        c'.now = c.now + q.time wait ∧ c'.now ≤ deadline) ∨
      (q.isFetch = true ∧ deadline < c.now + q.time wait ∧ ∃ c', s.stopFor q c = (false, c')) := by
  have hdue : c.due = false := Clock.due_of_early hc hearly
  cases q with
  | fetchKeys token groupId cursor =>
      simp only [stopFor, fetchStop, hs.delayed, Clock.wait, if_neg hs.pos.ne', hc]
      by_cases hend : c.now + wait ≤ deadline
      · rw [if_pos hend]
        exact .inl ⟨_, rfl, hc, rfl, hend⟩
      · rw [if_neg hend, if_pos hearly]
        exact .inr ⟨rfl, Nat.not_le.mp hend, _, rfl⟩
  | readStore key =>
      obtain ⟨stops, hstop⟩ := Clock.exists_giveWay hdue
      exact .inl ⟨_, hstop, hc, rfl, hearly.le⟩
  | writeStore key text =>
      obtain ⟨stops, hstop⟩ := Clock.exists_pass hdue
      exact .inl ⟨_, hstop, hc, rfl, hearly.le⟩
  | _ => exact .inl ⟨_, rfl, hc, rfl, hearly.le⟩

theorem Waits.answer (h : s.Waits wait) (q : Request) : ∃ r s', world.answer q s = (some r, s') ∧
    s'.Waits wait ∧ s'.clock.now = s.clock.now + q.time wait := by
  obtain ⟨r, s', hanswer⟩ := exists_answer q s
  obtain ⟨c', hstop, huntimed, hnow⟩ := stopFor_untimed h q h.untimed
  have hanswer' := hanswer s.clock
  rw [hstop] at hanswer'
  have hkept := delay_answer q s
  rw [show State.answer q s = _ from hanswer'] at hkept
  exact ⟨r, { s' with clock := c' }, hanswer', ⟨huntimed, hkept.trans h.delayed, h.pos⟩, hnow⟩

theorem Ahead.server_eq (h : Ahead wait deadline s t) : t.server = s.server :=
  (congrArg State.server h.same :)

theorem Ahead.engine_eq (h : Ahead wait deadline s t) : t.engine = s.engine :=
  (congrArg State.engine h.same :)

theorem Ahead.store_eq (h : Ahead wait deadline s t) : t.store = s.store :=
  (congrArg State.store h.same :)

theorem Ahead.answer (h : Ahead wait deadline s t) (q : Request) :
    ∃ r s', world.answer q s = (some r, s') ∧ s'.Waits wait ∧
      s'.clock.now = s.clock.now + q.time wait ∧
      ((∃ t', world.answer q t = (some r, t') ∧ Ahead wait deadline s' t') ∨
        q.isFetch = true ∧ deadline < s'.clock.now ∧ ∃ t', world.answer q t = (none, t')) := by
  obtain ⟨r, s', hanswer⟩ := exists_answer q s
  obtain ⟨c, hstop, huntimed, hnow⟩ := stopFor_untimed h.waits q h.waits.untimed
  have hplain := hanswer s.clock
  rw [hstop] at hplain
  have hwaits : ({ s' with clock := c } : State).Waits wait := by
    obtain ⟨r', s'', hanswer', hwaits', -⟩ := h.waits.answer q
    rwa [(Prod.mk.inj (hanswer'.symm.trans hplain)).2] at hwaits'
  refine ⟨r, { s' with clock := c }, hplain, hwaits, hnow, ?_⟩
  have hlater := hanswer t.clock
  rw [← h.same] at hlater
  rcases stopFor_timed h.waits q h.timed (h.now_eq ▸ h.early) with
    ⟨c', hstop', htimed', hnow', hle⟩ | ⟨hfetch, hlate, c', hstop'⟩
  · rw [hstop'] at hlater
    rw [h.now_eq] at hnow'
    have hearly := h.early
    obtain ⟨hless, hapart⟩ := q.time_left h.apart (by omega)
    refine .inl ⟨{ s' with clock := c' }, hlater, hwaits, rfl, hnow'.trans hnow.symm, htimed', ?_, ?_⟩
    · show c.now < deadline
      omega
    · show ¬ wait ∣ deadline - c.now
      rwa [hnow, ← Nat.sub_sub]
  · rw [hstop'] at hlater
    rw [h.now_eq, ← hnow] at hlate
    exact .inr ⟨hfetch, hlate, _, hlater⟩

end State

section Runs

variable {σ α : Type} {wait deadline fuel : Nat} {s s' t : State} {r r' : Run σ State α}
  {events : List Event}

/-- A run without a time limit, which is not cut, and takes the time of its fetches. -/
structure Elapsed (wait fuel : Nat) (s : State) (r : Run σ State α) : Prop where
  uncut : r.ending ≠ .cut
  exhausted : r.ending = .exhausted → fuel ≤ r.fetches
  waits : r.world.Waits wait
  now_eq : r.world.clock.now = s.clock.now + r.fetches * wait

/-- A run ahead of a deadline that does the same as one without a deadline. -/
structure InStep (wait deadline : Nat) (r r' : Run σ State α) : Prop where
  ahead : r.world.Ahead wait deadline r'.world
  ending_eq : r'.ending = r.ending
  state_eq : r'.state = r.state
  trace_eq : r'.trace = r.trace

/-- A run ahead of a deadline that is cut, and so stays in the last stage before the deadline. -/
structure Stopped (wait deadline : Nat) (s : State) (stages : List (σ × State))
    (r r' : Run σ State α) : Prop where
  ending : r'.ending = .cut
  severed : Severed wait (deadline - s.clock.now) r.trace r'.trace
  stage : ∃ earlier s₁ later, stages = earlier ++ (r'.state, s₁) :: later ∧
    s₁.clock.now < deadline ∧ ∀ x ∈ later, deadline < x.2.clock.now

theorem Elapsed.after (h : Elapsed wait fuel s' r)
    (hnow : s'.clock.now = s.clock.now + fetchesIn events * wait) :
    Elapsed wait fuel s (r.after events) := by
  refine ⟨h.uncut, fun hend => ?_, h.waits, ?_⟩
  · rw [Run.fetches_after]
    exact Nat.le_add_left_of_le (h.exhausted hend)
  · rw [Run.fetches_after, Nat.add_mul, ← Nat.add_assoc, ← hnow]
    exact h.now_eq

theorem InStep.after (h : InStep wait deadline r r') (events : List Event) :
    InStep wait deadline (r.after events) (r'.after events) :=
  ⟨h.ahead, h.ending_eq, h.state_eq, congrArg (events ++ ·) h.trace_eq⟩

theorem Stopped.after {stages : List (σ × State)} (h : Stopped wait deadline s' stages r r')
    (hnow : s'.clock.now = s.clock.now + fetchesIn events * wait) (hearly : s'.clock.now < deadline)
    (first : List (σ × State)) :
    Stopped wait deadline s (first ++ stages) (r.after events) (r'.after events) := by
  obtain ⟨hend, hsevered, earlier, s₁, later, hstages, hbefore, hbehind⟩ := h
  refine ⟨hend, ?_, first ++ earlier, s₁, later, ?_, hbefore, hbehind⟩
  · rw [hnow, ← Nat.sub_sub] at hsevered
    exact hsevered.prepend (by omega)
  · rw [hstages, List.append_assoc]
    rfl

namespace State

theorem time_fetch (sweep : Sweep) (wait : Nat) : sweep.request.time wait = wait :=
  rfl

theorem Waits.elapsed_loop (h : s.Waits wait) (fuel : Nat) (sweep : Sweep) :
    Elapsed wait fuel s (sweep.loop world fuel s) := by
  induction fuel generalizing sweep s with
  | zero =>
      have hnone : fetchesIn [] * wait = 0 := by rw [fetchesIn_nil, Nat.zero_mul]
      exact ⟨by simp [Sweep.loop, Sweep.run], fun _ => Nat.zero_le _, h,
        (congrArg (s.clock.now + ·) hnone).symm⟩
  | succ fuel ih =>
      obtain ⟨r, s', hanswer, hwaits, hnow⟩ := h.answer sweep.request
      rw [Sweep.loop_succ, hanswer]
      cases r with
      | error e =>
          refine ⟨by simp, by simp, hwaits, ?_⟩
          rw [Run.fetches, fetchesIn_called_mul]
          exact hnow
      | ok batch =>
          have hone : fetchesIn (sweep.events batch) = 1 := sweep.fetchesIn_events batch
          have hbatch : s'.clock.now = s.clock.now + fetchesIn (sweep.events batch) * wait := by
            rw [hone, Nat.one_mul]
            exact hnow
          dsimp only
          cases sweep.take batch with
          | inr keys => exact ⟨by simp, by simp, hwaits, hbatch⟩
          | inl sweep' =>
              have hrest := ih hwaits sweep'
              refine { hrest.after hbatch with exhausted := fun hend => ?_ }
              rw [Run.fetches_after, hone, Nat.add_comm 1]
              exact Nat.succ_le_succ (hrest.exhausted hend)

theorem Waits.elapsed_run (h : s.Waits wait) (fuel : Nat) (p : Program σ α) (g : σ) :
    Elapsed wait fuel s (p.run world fuel g s) := by
  induction p generalizing g s with
  | done a =>
      have hnone : fetchesIn [] * wait = 0 := by rw [fetchesIn_nil, Nat.zero_mul]
      exact ⟨by simp [Program.run], by simp [Program.run], h,
        (congrArg (s.clock.now + ·) hnone).symm⟩
  | ask q next ih =>
      obtain ⟨r, s', hanswer, hwaits, hnow⟩ := h.answer q
      simp only [Program.run, hanswer]
      refine (ih r hwaits g).after ?_
      rwa [fetchesIn_called_mul]
  | gather sweep next ih =>
      have hloop := h.elapsed_loop fuel sweep
      rw [Program.run_gather]
      cases hend : (sweep.loop world fuel s).ending with
      | finished r => exact (ih r hloop.waits g).after hloop.now_eq
      | cut => exact absurd hend hloop.uncut
      | exhausted =>
          exact ⟨by simp, fun _ => hloop.exhausted hend, hloop.waits, hloop.now_eq⟩
  | tell signal next ih =>
      have hnone : fetchesIn [.told signal] = 0 := fetchesIn_told [signal]
      exact (ih h g).after (by rw [hnone, Nat.zero_mul, Nat.add_zero])
  | read next ih => exact ih g h g
  | write g' next ih => exact ih h g'

theorem Waits.le_now_of_mem_stages (h : s.Waits wait) {p : Program σ α} {g : σ} {x : σ × State}
    (hx : x ∈ p.stages world fuel g s) : s.clock.now ≤ x.2.clock.now := by
  induction p generalizing g s with
  | done a =>
      obtain rfl := List.mem_singleton.mp hx
      exact Nat.le_refl _
  | ask q next ih =>
      obtain ⟨r, s', hanswer, hwaits, hnow⟩ := h.answer q
      simp only [Program.stages, hanswer] at hx
      rcases List.mem_cons.mp hx with rfl | hx
      · exact Nat.le_refl _
      · have hle := ih r hwaits hx
        omega
  | gather sweep next ih =>
      have hloop := h.elapsed_loop fuel sweep
      rw [Program.stages_gather] at hx
      rcases List.mem_cons.mp hx with rfl | hx
      · exact Nat.le_refl _
      · have hnow := hloop.now_eq
        split at hx
        · rename_i r hend
          have hle := ih r hloop.waits hx
          omega
        · exact absurd hx List.not_mem_nil
  | tell signal next ih => exact ih h hx
  | read next ih => exact ih g h hx
  | write g' next ih => exact ih h hx

theorem Ahead.loop (h : Ahead wait deadline s t) (fuel : Nat) (sweep : Sweep) :
    InStep wait deadline (sweep.loop world fuel s) (sweep.loop world fuel t) ∨
      ((sweep.loop world fuel t).ending = .cut ∧ Severed wait (deadline - s.clock.now)
        (sweep.loop world fuel s).trace (sweep.loop world fuel t).trace) := by
  induction fuel generalizing sweep s t with
  | zero => exact .inl ⟨h, rfl, rfl, rfl⟩
  | succ fuel ih =>
      obtain ⟨r, s', hanswer, hwaits, hnow, ⟨t', hanswer', hahead⟩ | ⟨hfetch, hlate, t', hanswer'⟩⟩ :=
        h.answer sweep.request
      · rw [Sweep.loop_succ, Sweep.loop_succ, hanswer, hanswer']
        cases r with
        | error e => exact .inl ⟨hahead, rfl, rfl, rfl⟩
        | ok batch =>
            dsimp only
            cases sweep.take batch with
            | inr keys => exact .inl ⟨hahead, rfl, rfl, rfl⟩
            | inl sweep' =>
                have hone : fetchesIn (sweep.events batch) = 1 := sweep.fetchesIn_events batch
                have hbatch : s'.clock.now = s.clock.now + fetchesIn (sweep.events batch) * wait := by
                  rw [hone, Nat.one_mul]
                  exact hnow
                have hearly := hahead.early
                refine (ih hahead sweep').imp (fun hstep => hstep.after _) ?_
                rintro ⟨hend, hsevered⟩
                rw [hbatch, ← Nat.sub_sub] at hsevered
                exact ⟨hend, hsevered.prepend (by omega)⟩
      · have hfirst : ∃ after, (sweep.loop world (fuel + 1) s).trace =
            .called sweep.request r :: after := by
          rw [Sweep.loop_succ, hanswer]
          cases r with
          | error e => exact ⟨_, rfl⟩
          | ok batch =>
              dsimp only
              cases sweep.take batch with
              | inr keys => exact ⟨_, rfl⟩
              | inl sweep' => exact ⟨_, rfl⟩
        have hcut : sweep.loop world (fuel + 1) t = ⟨.cut, (), t', [.dropped sweep.request]⟩ := by
          rw [Sweep.loop_succ, hanswer']
        obtain ⟨after, hfirst⟩ := hfirst
        have hearly := h.early
        rw [time_fetch] at hnow
        rw [hfirst, hcut]
        exact .inr ⟨rfl, .first r after hfetch (by omega) (by omega)⟩

/-- A run with a deadline is the one without, or is cut at the first fetch that would end after the
deadline. -/
theorem Ahead.run (h : Ahead wait deadline s t) (fuel : Nat) (p : Program σ α) (g : σ) :
    InStep wait deadline (p.run world fuel g s) (p.run world fuel g t) ∨
      Stopped wait deadline s (p.stages world fuel g s) (p.run world fuel g s)
        (p.run world fuel g t) := by
  induction p generalizing g s t with
  | done a => exact .inl ⟨h, rfl, rfl, rfl⟩
  | ask q next ih =>
      obtain ⟨r, s', hanswer, hwaits, hnow, ⟨t', hanswer', hahead⟩ | ⟨hfetch, hlate, t', hanswer'⟩⟩ :=
        h.answer q
      · simp only [Program.run, Program.stages, hanswer, hanswer']
        rw [← fetchesIn_called_mul q r wait] at hnow
        exact (ih r hahead g).imp (fun hstep => hstep.after _) fun hstop =>
          hstop.after hnow hahead.early [(g, s)]
      · simp only [Program.run, Program.stages, hanswer, hanswer']
        have hearly := h.early
        rw [Request.time, if_pos hfetch] at hnow
        refine .inr ⟨rfl, .first r _ hfetch (by omega) (by omega), [], s, _, rfl, hearly, ?_⟩
        exact fun x hx => Nat.lt_of_lt_of_le hlate (hwaits.le_now_of_mem_stages hx)
  | gather sweep next ih =>
      have hloop := h.waits.elapsed_loop fuel sweep
      rw [Program.run_gather, Program.run_gather, Program.stages_gather]
      rcases h.loop fuel sweep with hstep | ⟨hcut, hsevered⟩
      · rw [hstep.ending_eq, hstep.trace_eq]
        cases hend : (sweep.loop world fuel s).ending with
        | finished r =>
            exact (ih r hstep.ahead g).imp (fun hstep => hstep.after _) fun hstop =>
              hstop.after hloop.now_eq hstep.ahead.early [(g, s)]
        | cut => exact absurd hend hloop.uncut
        | exhausted => exact .inl ⟨hstep.ahead, rfl, rfl, rfl⟩
      · -- The loop is cut, and without a deadline it would have ended after it.
        have hlate : deadline < (sweep.loop world fuel s).world.clock.now := by
          have hearly := h.early
          have hnow := hloop.now_eq
          have hleft : deadline - s.clock.now < (sweep.loop world fuel s).fetches * wait :=
            hsevered.late
          omega
        rw [hcut]
        cases hend : (sweep.loop world fuel s).ending with
        | finished r =>
            refine .inr ⟨rfl, hsevered.append _, [], s, _, rfl, h.early, ?_⟩
            exact fun x hx => Nat.lt_of_lt_of_le hlate (hloop.waits.le_now_of_mem_stages hx)
        | cut => exact absurd hend hloop.uncut
        | exhausted => exact .inr ⟨rfl, hsevered, [], s, _, rfl, h.early, by simp⟩
  | tell signal next ih =>
      have hnone : fetchesIn [.told signal] = 0 := fetchesIn_told [signal]
      exact (ih h g).imp (fun hstep => hstep.after _) fun hstop =>
        hstop.after (by rw [hnone, Nat.zero_mul, Nat.add_zero]) h.early []
  | read next ih => exact ih g h g
  | write g' next ih => exact ih h g'

end State

end Runs

end Memory

end Keyring
