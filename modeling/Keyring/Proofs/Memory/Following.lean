import Keyring.Memory.Faults
import Keyring.Proofs.Memory.Settled

namespace Keyring.Memory

/-- A simulation in which nothing fails and no time limit runs. -/
structure State.Calm (s : State) : Prop where
  fetches : s.server.failing = false
  derives : s.engine.failing = false
  untimed : s.clock.deadline = none

namespace Clock

variable {c : Clock}

/-- Without a deadline a stop is passed, and there is no deadline behind it. -/
def Passes (stop : Clock → Bool × Clock) : Prop :=
  ∀ c, c.deadline = none → (stop c).1 = true ∧ (stop c).2.deadline = none

theorem due_of_untimed (h : c.deadline = none) : c.due = false := by
  rw [due, h]
  rfl

theorem due_of_early {deadline : Nat} (htimed : c.deadline = some deadline)
    (hearly : c.now < deadline) : c.due = false := by
  simpa [due, htimed] using hearly

theorem exists_pass (h : c.due = false) : ∃ stops, c.pass = (true, { c with stops }) := by
  unfold pass
  split
  · exact ⟨_, rfl⟩
  · rw [h]
    exact ⟨_, rfl⟩

theorem exists_giveWay (h : c.due = false) : ∃ stops, c.giveWay = (true, { c with stops }) := by
  obtain ⟨stops, hpass⟩ := exists_pass h
  have hlater : ({ c with stops } : Clock).due = false := h
  refine ⟨turnLength, ?_⟩
  simp only [giveWay, hpass, hlater, Bool.false_eq_true, if_false]

theorem passes_pass : Passes pass := by
  intro c h
  obtain ⟨stops, hpass⟩ := exists_pass (due_of_untimed h)
  rw [hpass]
  exact ⟨rfl, h⟩

theorem passes_wait (time : Nat) : Passes (wait time) := by
  intro c h
  unfold wait
  split
  · exact passes_pass c h
  · simp only [h]
    exact ⟨trivial, h⟩

theorem passes_giveWay : Passes giveWay := by
  intro c h
  obtain ⟨stops, hpass⟩ := exists_giveWay (due_of_untimed h)
  rw [hpass]
  exact ⟨rfl, h⟩

end Clock

namespace State

/-- A simulation once nothing fails any more and no time limit runs. -/
def repaired (s : State) : State :=
  { s with
    server := { s.server with failing := false }
    engine := { s.engine with failing := false }
    clock := s.clock.clear }

theorem calm_repaired (s : State) : s.repaired.Calm :=
  ⟨rfl, rfl, rfl⟩

/-- How an answer compares with that of the settled simulation: both are the same, or else the
simulation is not calm, and fails or cuts the request without a trace. -/
structure Agrees {α : Type} (s : State) (answer settledAnswer : Option (Except Failure α) × State) :
    Prop where
  delayed : answer.2.server.delayed = []
  calm : s.Calm → answer.2.Calm
  reply : (∃ r t, answer.1 = some r ∧ settledAnswer = (some r, t) ∧
      t.settled = answer.2.settled) ∨
    (¬ s.Calm ∧ answer.2.settled = s.settled ∧ ∀ r, answer.1 = some r → ∃ e, r = .error e)

namespace Agrees

variable {α : Type} {s t t' : State} {r : Except Failure α}

theorem same (hdelayed : t.server.delayed = []) (hcalm : s.Calm → t.Calm)
    (h : t'.settled = t.settled) : Agrees s (some r, t) (some r, t') :=
  ⟨hdelayed, hcalm, .inl ⟨r, t', rfl, rfl, h⟩⟩

theorem hindered {e : Failure} (hdelayed : t.server.delayed = []) (hcalm : ¬ s.Calm)
    (h : t.settled = s.settled) (settledAnswer : Option (Except Failure α) × State) :
    Agrees s (some (.error e), t) settledAnswer :=
  ⟨hdelayed, fun hs => absurd hs hcalm, .inr ⟨hcalm, h, fun _ hr => ⟨e, (Option.some.inj hr).symm⟩⟩⟩

end Agrees

section Stops

variable {α : Type} {s : State} {stop settledStop : Clock → Bool × Clock}
  {reply : State → Except Failure α × State}

theorem agrees_behind (hdelayed : s.server.delayed = []) (hstop : Clock.Passes stop)
    (hsettled : Clock.Passes settledStop)
    (hreply : ∀ clock clock', (s.Calm → ({ s with clock } : State).Calm) →
      Agrees s (some (reply { s with clock }).1, (reply { s with clock }).2)
        (some (reply { s.settled with clock := clock' }).1,
          (reply { s.settled with clock := clock' }).2)) :
    Agrees s (s.behind stop reply) (s.settled.behind settledStop reply) := by
  have hpassed := hsettled s.settled.clock rfl
  rcases hc' : settledStop s.settled.clock with ⟨r', clock'⟩
  rw [hc'] at hpassed
  obtain rfl : r' = true := hpassed.1
  rcases hc : stop s.clock with ⟨_ | _, clock⟩
  · have htimed : ¬ s.Calm := fun hcalm => by
      have hpassed := (hstop s.clock hcalm.untimed).1
      rw [hc] at hpassed
      exact Bool.false_ne_true hpassed
    simp only [behind, hc]
    exact ⟨hdelayed, fun hcalm => absurd hcalm htimed, .inr ⟨htimed, rfl, by simp⟩⟩
  · simp only [behind, hc, hc']
    refine hreply clock clock' fun hcalm => ⟨hcalm.fetches, hcalm.derives, ?_⟩
    have hdeadline := (hstop s.clock hcalm.untimed).2
    rwa [hc] at hdeadline

theorem passes_fetchStop (s : State) : Clock.Passes s.fetchStop := by
  unfold fetchStop
  split
  · exact Clock.passes_wait _
  · exact fun c h => ⟨rfl, h⟩

end Stops

variable {s : State}

/-- Every request is answered as in the settled simulation, unless something fails or a time limit
cuts it. -/
theorem answer_agrees (q : Request) (hdelayed : s.server.delayed = []) :
    Agrees s (answer q s) (answer q s.settled) := by
  have hkept : ∀ t : State, t.server.failing = s.server.failing →
      t.engine.failing = s.engine.failing → t.clock = s.clock → s.Calm → t.Calm := by
    intro t hserver hengine hclock hcalm
    exact ⟨hserver.trans hcalm.fetches, hengine.trans hcalm.derives, hclock ▸ hcalm.untimed⟩
  cases q with
  | fetchKeys token groupId cursor =>
      simp only [answer]
      apply agrees_behind hdelayed (passes_fetchStop s) (passes_fetchStop s.settled)
      intro clock clock' hclock
      cases hfailing : s.server.failing with
      | true =>
          simp only [Server.fetch_of_failing hfailing]
          refine .hindered (s := s) (t := { s with clock }) hdelayed (fun hcalm => ?_) rfl _
          exact Bool.false_ne_true (hcalm.fetches.symm.trans hfailing)
      | false =>
          have hfetch := Server.fetch_eq hfailing hdelayed cursor
          have hsettled := Server.fetch_eq (s := s.settled.server) rfl hdelayed cursor
          simp only [hfetch, hsettled]
          exact .same hdelayed (fun hcalm => ⟨hfailing, hcalm.derives, (hclock hcalm).untimed⟩) rfl
  | deriveKey preKey output actor =>
      cases hfailing : s.engine.failing with
      | true =>
          simp only [answer, Engine.derive, hfailing, if_true]
          refine .hindered hdelayed (fun hcalm => ?_) rfl _
          exact Bool.false_ne_true (hcalm.derives.symm.trans hfailing)
      | false =>
          by_cases hid : preKey.id = output.preKeyId
          · simp only [answer, Engine.derive, settled, hfailing, hid, ne_eq, not_true_eq_false,
              Bool.false_eq_true, if_false]
            exact .same hdelayed (hkept _ rfl hfailing.symm rfl) rfl
          · simp only [answer, Engine.derive, settled, hfailing, hid, ne_eq, not_false_eq_true,
              Bool.false_eq_true, if_true, if_false]
            exact .same hdelayed (hkept _ rfl rfl rfl) rfl
  | readStore key =>
      simp only [answer]
      apply agrees_behind hdelayed Clock.passes_giveWay Clock.passes_giveWay
      exact fun clock clock' hclock => .same hdelayed hclock rfl
  | writeStore key value =>
      simp only [answer]
      apply agrees_behind hdelayed Clock.passes_pass Clock.passes_pass
      intro clock clock' hclock
      exact .same hdelayed (fun hcalm => ⟨hcalm.1, hcalm.2, (hclock hcalm).3⟩) rfl
  | uploadPage token kind groupId sessionId userId index payload =>
      by_cases hreject : s.server.failingPages.contains index = true
      · simp only [answer, Server.receivePage, settled, hreject, if_true]
        exact .same hdelayed (hkept _ rfl rfl rfl) rfl
      · by_cases hsession : (!s.server.openings.any (·.sessionId == sessionId)) = true
        all_goals
          simp only [answer, Server.receivePage, settled, hreject, hsession, if_true, if_false,
            Bool.false_eq_true]
          exact .same hdelayed (hkept _ rfl rfl rfl) rfl
  | rejectJoin token kind groupId userId =>
      by_cases hany : s.server.joinRequests.any (·.userId == userId) = true
      all_goals
        simp only [answer, Server.rejectJoin, settled, hany, if_true, if_false, Bool.false_eq_true]
        exact .same hdelayed (hkept _ rfl rfl rfl) rfl
  | openTransfer | listJoins | leaveGroup | publishRotation | pendingOutputs | commitKey |
    sealPage | prepareRotation =>
      exact .same hdelayed (hkept _ rfl rfl rfl) rfl

end State

theorem follows_world :
    Follows world State.settled (fun s => s.server.delayed = [] ∧ s.Calm) False := by
  refine ⟨fun q s hs => ?_, fun s => rfl⟩
  have h := State.answer_agrees q hs.1
  refine ⟨⟨h.delayed, h.calm hs.2⟩, ?_⟩
  rcases h.reply with hsame | ⟨hcalm, -⟩
  · exact .inl hsame
  · exact absurd hs.2 hcalm

theorem follows_withFaults :
    Follows (withFaults world) (fun s => s.2.settled) (fun s => s.2.server.delayed = []) True := by
  refine ⟨fun q s hs => ?_, fun s => rfl⟩
  have h := State.answer_agrees q hs
  rcases hstrike : s.1.strike q.name with ⟨faults, _ | _⟩
  · simp only [withFaults, hstrike]
    refine ⟨h.delayed, ?_⟩
    rcases h.reply with hsame | ⟨-, hview, herror⟩
    · exact .inl hsame
    · exact .inr ⟨trivial, hview, herror⟩
  · simp only [withFaults, hstrike]
    exact ⟨hs, .inr ⟨trivial, trivial, fun r hr => ⟨_, (Option.some.inj hr).symm⟩⟩⟩

end Keyring.Memory
