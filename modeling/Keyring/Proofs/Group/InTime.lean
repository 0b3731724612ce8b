import Keyring.Proofs.Group.Convergence
import Keyring.Proofs.Group.Effect
import Keyring.Proofs.Memory.Prompt

namespace Keyring.Group

open Attempt Memory Rotation

/-- The requests of a fetch loop that finds a number of keys, all in one batch: if the batch is not
short, there is one request more. -/
def fetchesFor (threshold : UInt64) (found : Nat) : Nat :=
  if threshold.toNat < found then 2 else 1

/-- The requests of the fetch loops of a number of rounds. -/
def fetchCount (threshold : UInt64) (actor : Actor) : Nat → Board → Nat
  | 0, _ => 0
  | n + 1, b =>
    fetchesFor threshold ((b.round actor).log.length - b.held.length) +
      fetchCount threshold actor n (b.round actor)

/-- Whether the server has been asked for keys a number of times. -/
def Asked (n : Nat) (_ : Group) (s : State) : Prop :=
  s.server.cursors.length = n

variable {fuel n : Nat} {g g₀ : Group} {s : State} {store : Store} {b : Board}
  {keys rest : List Key}

section Gather

variable {sweep : Sweep} {Q : List Key → Group → State → Prop} {X : Halt → Group → State → Prop}

theorem ensures_gather_prompt (h : s.Prompt) (hscripted : s.server.scripted = [])
    {next : Sweep ⊕ List Key}
    (htake : sweep.take (Server.keysAfter s.server.log sweep.cursor) = next)
    (hnext : next.elim
      (fun sweep' => Ensures world fuel (Attempt.gather sweep') Q X g (s.fetchedFrom sweep.cursor))
      (fun found => Q found g (s.fetchedFrom sweep.cursor))) :
    Ensures world (fuel + 1) (Attempt.gather sweep) Q X g s := by
  have hanswer : world.answer sweep.request s =
      (some (.ok (Server.keysAfter s.server.log sweep.cursor)), s.fetchedFrom sweep.cursor) :=
    h.answer_fetchKeys hscripted _ _ _
  rw [ensures_gather_succ, ensures_request, hanswer]
  simp only [htake]
  cases next with
  | inl sweep' => exact hnext
  | inr found => exact hnext

end Gather

theorem gather_asked (h : s.Prompt) (hscripted : s.server.scripted = [])
    (hlog : s.server.log = keys ++ rest) (hc : Chronicle (keys ++ rest)) {last : Key}
    (hlast : keys.getLast? = some last) (hfuel : 2 ≤ fuel) (token groupId : String)
    (threshold : UInt64) :
    Ensures world fuel (Attempt.gather { token, groupId, threshold, cursor := last.cursor })
      (fun _ => Asked (s.server.cursors.length + fetchesFor threshold rest.length))
      (fun _ _ _ => True) g s := by
  obtain ⟨fuel, rfl⟩ : ∃ n, fuel = n + 2 := ⟨fuel - 2, by omega⟩
  have hfirst : Server.keysAfter s.server.log last.cursor = rest := by
    rw [hlog, Server.keysAfter_append hc hlast]
  rcases Sweep.take_cases { token, groupId, threshold, cursor := last.cursor } rest with
    ⟨hfinal, htake⟩ | ⟨last', hmore, hrest, htake⟩
  · refine ensures_gather_prompt h hscripted ((congrArg _ hfirst).trans htake) ?_
    have hshort : ¬ threshold.toNat < rest.length := by
      rcases hfinal with rfl | hle
      · exact Nat.not_lt_zero _
      · exact Nat.not_lt.mpr hle
    rw [fetchesFor, if_neg hshort]
    exact rfl
  · refine ensures_gather_prompt h hscripted ((congrArg _ hfirst).trans htake) ?_
    -- The second request finds nothing more.
    have hlast₂ : s.server.log.getLast? = some last' := by
      rw [hlog, List.getLast?_append, hrest]
      rfl
    have hsecond : Server.keysAfter s.server.log last'.cursor = [] :=
      Server.keysAfter_last (hlog ▸ hc) hlast₂
    rw [fetchesFor, if_pos hmore]
    refine ensures_gather_prompt (h.fetchedFrom _) hscripted (congrArg _ hsecond) ?_
    exact rfl

theorem fetchNew_asked (h : s.Prompt) (hscripted : s.server.scripted = [])
    (hlog : s.server.log = g.record.history.keys ++ rest) (hc : Chronicle s.server.log)
    (hne : g.record.history.keys ≠ []) (hfuel : 2 ≤ fuel) (token : String) (threshold : UInt64) :
    Ensures world fuel (fetchNew token threshold)
      (fun _ => Asked (s.server.cursors.length + fetchesFor threshold rest.length))
      (fun _ _ _ => True) g s := by
  have hlast := List.getLast?_eq_some_getLast hne
  simp only [fetchNew, ensures_bind, ensures_get, ensures_settle, History.cursor_eq hlast]
  refine (gather_asked h hscripted hlog (hlog ▸ hc) hlast hfuel token _ threshold).mono ?_
    fun _ _ _ _ => trivial
  intro gathered g' s' hasked
  have happend : ∀ batch, Ensures world fuel (append batch)
      (fun _ => Asked (s.server.cursors.length + fetchesFor threshold rest.length))
      (fun _ _ _ => True) g' s' := fun batch =>
    (preserves_append (fun _ _ _ _ h _ => h) batch g' s' hasked).mono (fun _ _ _ h => h)
      fun _ _ _ _ => trivial
  split
  · rw [ensures_bind, ensures_notice]
    exact happend _
  · exact happend _

theorem outlasts_asked_resolving {q : Request} (hq : q.isResolving) :
    Outlasts world (Asked n) q := by
  intro g s hasked
  cases q with
  | deriveKey preKey output actor => exact hasked
  | commitKey token groupId output key => exact hasked
  | _ => exact nomatch hq

theorem outlasts_asked_write {q : Request} (hq : q.isWrite) : Outlasts world (Asked n) q := by
  intro g s hasked
  cases q with
  | writeStore key text =>
      have hkept : (world.answer (.writeStore key text) s).2.server.cursors = s.server.cursors :=
        State.behind_server Server.cursors _ (fun _ => rfl) s
      exact (congrArg List.length hkept).trans hasked
  | _ => exact nomatch hq

/-- A round leads to the next board; it fetches once, or twice if it finds many keys. -/
theorem finishRound_asked (h : s.Prompt) (hstands : Stands State.settled g₀ store b g s)
    (hready : b.Ready) (hfuel : 2 ≤ fuel) (round left : Nat) :
    Ensures world fuel (finishRound round left b.waiting)
      (fun result g' s' => (result.2 = (b.round g₀.actor).waiting ∧ s'.Prompt ∧
          Stands State.settled g₀ store (b.round g₀.actor) g' s') ∧
        Asked (s.server.cursors.length + fetchesFor g₀.config.keys.fetchThreshold
          ((b.round g₀.actor).log.length - b.held.length)) g' s')
      (fun _ _ _ => True) g s := by
  obtain ⟨history, hg, hsound, hkeys⟩ := hstands.group
  have hsound' : g.record.history.Sound := by rw [hg]; exact hsound
  have hheld : g.record.history.keys = b.held := by rw [hg]; exact hkeys
  -- Boards do not tell how often the server was asked: for that the round is gone through again.
  have hasked : Ensures world fuel (finishRound round left b.waiting)
      (fun _ => Asked (s.server.cursors.length + fetchesFor g₀.config.keys.fetchThreshold
        ((b.round g₀.actor).log.length - b.held.length)))
      (fun _ _ _ => True) g s := by
    have hresolve : Ensures world fuel (resolveKnown round 0 [] b.waiting)
        (fun _ g' s' => g' = g ∧ s'.Prompt ∧
          Stands State.settled g₀ store (b.brokenOff g₀.actor b.waiting) g s')
        (fun _ _ _ => True) g s :=
      resolveKnown_ensures follows_prompt h hsound' round 0 [] b.waiting
        (fun s' hview hprompt => ⟨rfl, hprompt, hstands.settle b.waiting hview⟩)
        (fun hh => hh.elim)
    have hunasked : Preserves world fuel (Asked s.server.cursors.length)
        (resolveKnown round 0 [] b.waiting) :=
      preserves_resolveKnown (fun _ => outlasts_asked_resolving) round 0 [] b.waiting
    simp only [finishRound, ensures_bind]
    refine (hresolve.and (hunasked g s rfl)).mono ?_ fun _ _ _ _ => trivial
    rintro result g₁ s₁ ⟨⟨rfl, hprompt₁, hstands₁⟩, hasked₁⟩
    obtain ⟨rest, hrest⟩ := hready.held_within.trans (b.log_prefix_round g₀.actor)
    have hlog₁ : s₁.server.log = (b.round g₀.actor).log := hstands₁.log
    have hfound : (b.round g₀.actor).log.length - b.held.length = rest.length := by
      rw [← hrest, List.length_append, Nat.add_sub_cancel_left]
    simp only [ensures_bind, ensures_get]
    rw [hfound, ← hasked₁, ← hstands.config_eq]
    refine fetchNew_asked hprompt₁ hstands₁.plain.2 ?_ ?_ ?_ hfuel _ _
    · rw [hlog₁, hheld, hrest]
    · rw [hlog₁]
      exact hready.round.chronicle
    · rw [hheld]
      exact hready.held_ne_nil
  exact ((finishRound_ensures (X := fun _ _ _ => True) follows_prompt h hstands hready hfuel round
    left (fun _ _ hstands' hprompt' => ⟨rfl, hprompt', hstands'⟩) fun hh => hh.elim).and
      hasked).mono (fun _ _ _ h => h) fun _ _ _ _ => trivial

theorem catchUp_asked (h : s.Prompt) (hstands : Stands State.settled g₀ store b g s)
    (hready : b.Ready) (hfuel : 2 ≤ fuel) (round resolved left : Nat) :
    Ensures world fuel (catchUp round resolved left b.waiting)
      (fun result g' s' => ∃ d, result.2.1 = round + d ∧ Asked (s.server.cursors.length +
        fetchCount g₀.config.keys.fetchThreshold g₀.actor (d + 1) b) g' s')
      (fun _ _ _ => True) g s := by
  induction left generalizing b round resolved g s with
  | zero =>
      simp only [catchUp, ensures_bind]
      refine (finishRound_asked h hstands hready hfuel round 0).mono ?_ fun _ _ _ _ => trivial
      rintro result g₁ s₁ ⟨-, hasked₁⟩
      exact ⟨0, rfl, hasked₁⟩
  | succ left ih =>
      simp only [catchUp, ensures_bind]
      refine (finishRound_asked h hstands hready hfuel round (left + 1)).mono ?_
        fun _ _ _ _ => trivial
      rintro ⟨more, deferred⟩ g₁ s₁ ⟨⟨rfl, hprompt₁, hstands₁⟩, hasked₁⟩
      dsimp only
      split
      · exact ⟨0, rfl, hasked₁⟩
      · refine (ih hprompt₁ hstands₁ hready.round (round + 1) _).mono ?_ fun _ _ _ h => h
        rintro result g' s' ⟨d, hresult, hasked⟩
        refine ⟨d + 1, by omega, ?_⟩
        rw [hasked₁, Nat.add_assoc] at hasked
        exact hasked

theorem finishPending_asked (h : s.Prompt) (hstands : Stands State.settled g₀ store b g s)
    (hready : b.Ready) (hfuel : 2 ≤ fuel) :
    Ensures world fuel finishPending
      (fun outcome => Asked (s.server.cursors.length +
        fetchCount g₀.config.keys.fetchThreshold g₀.actor outcome.rounds b))
      (fun _ _ _ => True) g s := by
  have hpersist : ∀ {n : Nat} {g s}, Asked n g s →
      Ensures world fuel persist (fun _ => Asked n) (fun _ _ _ => True) g s := fun hasked =>
    (preserves_persist (fun _ => outlasts_asked_write) _ _ hasked).mono (fun _ _ _ h => h)
      fun _ _ _ _ => trivial
  have hanswer : world.answer (.pendingOutputs g.actor.token g.record.groupId) s =
      (some (.ok b.waiting), s) := by
    rw [← hstands.pending]
    rfl
  simp only [finishPending, ensures_bind, ensures_get]
  rw [ensures_request, hanswer]
  dsimp only
  split
  · exact rfl
  · simp only [ensures_bind, ensures_notice]
    refine (catchUp_asked h hstands hready hfuel 1 0 _).mono ?_ fun _ _ _ _ => trivial
    rintro ⟨resolved, rounds, waiting⟩ g₁ s₁ ⟨d, hrounds, hasked⟩
    obtain rfl : rounds = d + 1 := by
      rw [Nat.add_comm]
      exact hrounds
    cases waiting with
    | nil =>
        simp only [List.isEmpty_nil, if_true, modifyRecord, ensures_bind, ensures_get, ensures_set,
          ensures_notice, ensures_metric]
        exact hpersist hasked
    | cons o rest =>
        simp only [List.isEmpty_cons, Bool.false_eq_true, if_false, ensures_bind, ensures_notice,
          ensures_metric]
        exact hpersist hasked

theorem finish_asked (h : s.Prompt) (hstands : Stands State.settled g₀ store b g s)
    (hready : b.Ready) (hfuel : 2 ≤ fuel) (hphase : g.phase = .idle ∨ g.phase = .published) :
    Ensures world fuel finish
      (fun outcome => Asked (s.server.cursors.length +
        fetchCount g₀.config.keys.fetchThreshold g₀.actor outcome.rounds b))
      (fun _ _ _ => True) g s := by
  apply finish_of_finishPending hphase
  refine (finishPending_asked h (hstands.setPhase .finishing) hready hfuel).mono
    (fun _ _ _ h => h) fun halt g' s' _ => ?_
  cases halt with
  | failed e => trivial
  | cut => trivial
  | exhausted => trivial

/-- How a finish run has gone in a simulation in which nothing fails or waits. -/
structure RanInTime (g : Group) (s : State) (outcome : Outcome) (g' : Group) (s' : State) :
    Prop where
  fetches : s'.server.cursors.length = s.server.cursors.length +
    fetchCount g.config.keys.fetchThreshold g.actor outcome.rounds (g.board s)
  noop : s.server.pending = [] →
    outcome = .completed 0 0 ∧ g'.record.history = g.record.history
  rounds : s.server.pending ≠ [] → ∃ rounds, EndsWith g (g.board s) rounds ∧
    outcome = outcomeAfter g.actor (g.board s) rounds ∧
    g'.record.history.keys = ((g.board s).after g.actor rounds).held

/-- A finish run is not cut by a time limit that leaves any time at all. -/
theorem exists_ranInTime (h : Joined g s) (hlimit : g.config.rotation.timeout.nanoseconds ≠ 0)
    (hfetches : s.server.failing = false) (hderives : s.engine.failing = false)
    (hunwaiting : s.server.delay = none) (hfuel : 2 ≤ fuel) :
    ∃ outcome g' s' trace, Operation.finishInTime.run world fuel g s =
        ⟨.finished (.ok outcome), g', s', trace⟩ ∧ RanInTime g s outcome g' s' := by
  -- The timer starts here, with some time left; a prompt state stays one, so it never cuts the run.
  let started : State := world.startTimer g.config.rotation.timeout s
  have hprompt : started.Prompt :=
    ⟨hfetches, hderives, h.undelayed, hunwaiting, Clock.due_start hlimit s.clock⟩
  have hstands : Stands State.settled g s.store (g.board s) g started :=
    h.stands State.settled rfl
  have hasked := finish_asked hprompt hstands h.ready hfuel h.phase
  have hfinish : Ensures world fuel finish
      (fun outcome g' _ => (s.server.pending = [] →
          outcome = .completed 0 0 ∧ g'.record.history = g.record.history) ∧
        (s.server.pending ≠ [] → ∃ rounds, EndsWith g (g.board s) rounds ∧
          outcome = outcomeAfter g.actor (g.board s) rounds ∧
          g'.record.history.keys = ((g.board s).after g.actor rounds).held))
      (fun _ _ _ => False) g started := by
    refine finish_ensures follows_prompt hprompt hstands h.ready hfuel h.phase ?_ ?_
      (fun hh => hh.elim)
    · exact fun hempty _ _ _ => ⟨fun _ => ⟨rfl, rfl⟩, fun hne => absurd hempty hne⟩
    · intro hne rounds hends g' s' hstands' _
      refine ⟨fun hempty => absurd hempty hne, fun _ => ⟨rounds, hends, rfl, ?_⟩⟩
      obtain ⟨history, rfl, -, hkeys⟩ := hstands'.group
      exact hkeys
  refine Meets.exists_run ((meets_runWithin _ _ _).mpr ((hfinish.and hasked).mono ?_ ?_))
  · rintro outcome g' s' ⟨⟨hnoop, hrounds⟩, hasked⟩
    exact ⟨hasked, hnoop, hrounds⟩
  · exact fun halt g' s' hfalse => hfalse.1.elim

end Keyring.Group
