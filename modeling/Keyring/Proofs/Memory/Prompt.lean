import Keyring.Proofs.Memory.Following
import Keyring.Proofs.Memory.Frame

namespace Keyring.Memory

/-- A simulation in which nothing fails or waits, no keys are held back, and time is left. -/
structure State.Prompt (s : State) : Prop where
  fetches : s.server.failing = false
  derives : s.engine.failing = false
  undelayed : s.server.delayed = []
  unwaiting : s.server.delay = none
  early : s.clock.due = false

namespace Clock

variable {c : Clock}

theorem pass_of_early (h : c.due = false) : ∃ c', c.pass = (true, c') ∧ c'.due = false := by
  obtain ⟨stops, hpass⟩ := exists_pass h
  exact ⟨_, hpass, h⟩

theorem giveWay_of_early (h : c.due = false) : ∃ c', c.giveWay = (true, c') ∧ c'.due = false := by
  obtain ⟨stops, hpass⟩ := exists_giveWay h
  exact ⟨_, hpass, h⟩

theorem due_start {limit : Duration} (h : limit.nanoseconds ≠ 0) (c : Clock) :
    (c.start limit).due = false := by
  have hspan : 0 < limit.millisecondsUp := by
    unfold Duration.millisecondsUp
    omega
  exact due_of_early rfl (Nat.lt_add_of_pos_right hspan)

end Clock

namespace State

variable {s : State}

theorem behind_of_early {α : Type} {stop : Clock → Bool × Clock}
    (hstop : ∃ c, stop s.clock = (true, c) ∧ c.due = false) (reply : State → α × State) :
    ∃ clock : Clock, clock.due = false ∧ s.behind stop reply =
      (some (reply { s with clock }).1, (reply { s with clock }).2) := by
  obtain ⟨clock, hpassed, hearly⟩ := hstop
  refine ⟨clock, hearly, ?_⟩
  simp only [behind, hpassed]

theorem fetchStop_of_unwaiting (h : s.server.delay = none) (c : Clock) :
    s.fetchStop c = (true, c) := by
  rw [fetchStop, h]

theorem Prompt.answer_eq (h : s.Prompt) (q : Request) :
    ∃ clock : Clock, clock.due = false ∧
      answer q s = ((answer q { s with clock := {} }).1,
        { (answer q { s with clock := {} }).2 with clock }) := by
  have hlater : ∀ {α : Type} {stop : Clock → Bool × Clock} (reply : State → α × State),
      (∃ c, stop s.clock = (true, c) ∧ c.due = false) →
      (∃ c, stop ({} : Clock) = (true, c) ∧ c.due = false) →
      (∀ clock clock' : Clock, reply { s with clock } = ((reply { s with clock := clock' }).1,
        { (reply { s with clock := clock' }).2 with clock })) →
      ∃ clock : Clock, clock.due = false ∧ s.behind stop reply =
        (({ s with clock := {} } : State).behind stop reply |>.1,
          { (({ s with clock := {} } : State).behind stop reply).2 with clock }) := by
    intro α stop reply hstop hstop' hreply
    obtain ⟨clock, hearly, heq⟩ := behind_of_early hstop reply
    obtain ⟨clock', -, heq'⟩ := behind_of_early (s := { s with clock := {} }) hstop' reply
    refine ⟨clock, hearly, ?_⟩
    rw [heq, heq', hreply clock clock']
  cases q with
  | fetchKeys token groupId cursor =>
      have hpassed := fetchStop_of_unwaiting h.unwaiting
      exact hlater (fun s => ((s.server.fetch cursor).2,
          { s with server := (s.server.fetch cursor).1 }))
        ⟨_, hpassed _, h.early⟩ ⟨_, hpassed _, rfl⟩ fun _ _ => rfl
  | readStore key =>
      exact hlater (fun s => ((.ok (s.store.get? key) : Except Failure _), s))
        (Clock.giveWay_of_early h.early) (Clock.giveWay_of_early rfl) fun _ _ => rfl
  | writeStore key text =>
      exact hlater (fun s => ((.ok () : Except Failure Unit),
          { s with store := s.store.set key text }))
        (Clock.pass_of_early h.early) (Clock.pass_of_early rfl) fun _ _ => rfl
  | _ => exact ⟨s.clock, h.early, rfl⟩

/-- The simulation after a fetch, if no batches are scripted. -/
def fetchedFrom (cursor : Cursor) (s : State) : State :=
  { s with server := { s.server with cursors := cursor :: s.server.cursors } }

theorem Prompt.fetchedFrom (h : s.Prompt) (cursor : Cursor) : (s.fetchedFrom cursor).Prompt :=
  ⟨h.fetches, h.derives, h.undelayed, h.unwaiting, h.early⟩

theorem Prompt.answer_fetchKeys (h : s.Prompt) (hscripted : s.server.scripted = [])
    (token groupId : String) (cursor : Cursor) :
    answer (.fetchKeys token groupId cursor) s =
      (some (.ok (Server.keysAfter s.server.log cursor)), s.fetchedFrom cursor) := by
  simp only [answer, behind, fetchStop_of_unwaiting h.unwaiting,
    Server.fetch_eq h.fetches h.undelayed, hscripted, List.headD_nil, List.tail_nil,
    State.fetchedFrom]

end State

/-- A simulation in which nothing fails or waits follows its settled form while time is left. -/
theorem follows_prompt : Follows world State.settled State.Prompt False := by
  refine ⟨fun q s hs => ?_, fun s => rfl⟩
  have hcalm : ({ s with clock := {} } : State).Calm := ⟨hs.fetches, hs.derives, rfl⟩
  obtain ⟨⟨hundelayed, hcalm'⟩, hreply⟩ :=
    follows_world.answer q { s with clock := {} } ⟨hs.undelayed, hcalm⟩
  obtain ⟨clock, hearly, heq⟩ := hs.answer_eq q
  have hdelay : (world.answer q s).2.server.delay = none :=
    (State.delay_answer q s).trans hs.unwaiting
  have hanswer : world.answer q s = ((world.answer q { s with clock := {} }).1,
      { (world.answer q { s with clock := {} }).2 with clock }) := heq
  rw [hanswer] at hdelay ⊢
  exact ⟨⟨hcalm'.fetches, hcalm'.derives, hundelayed, hdelay, hearly⟩, hreply⟩

end Keyring.Memory
