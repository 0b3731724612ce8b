import Keyring.Proofs.Group.Account
import Keyring.Proofs.Group.Resume

namespace Keyring

theorem Group.mem_ids_learn {held fetched : List Key} {id : String} :
    id ∈ Key.ids (learn held fetched) ↔ id ∈ Key.ids held ∨ id ∈ Key.ids fetched := by
  simp only [learn, Key.ids, List.map_append, List.mem_append]
  constructor
  · rintro (h | h)
    · exact .inl h
    · exact .inr ((List.filter_sublist.map Key.id).subset h)
  · rintro (h | h)
    · exact .inl h
    · by_cases hheld : id ∈ held.map Key.id
      · exact .inl hheld
      · obtain ⟨k, hk, rfl⟩ := List.mem_map.mp h
        exact .inr (List.mem_map_of_mem (List.mem_filter.mpr ⟨hk, by simpa [Key.ids] using hheld⟩))

namespace Group

open Rotation

/-- What a finish run has done that gives up on outputs: the rounds before the last one, and the
last one, in which those outputs are tried before it fetches. -/
structure GivesUp (g : Group) (calls : List Event) (unresolved : List Output) (g' : Group)
    (pending : List Output) (before : List Round) (last : Round) : Prop where
  account : Account g calls pending (before ++ [last])
  used : before.length + 1 = max 1 g.config.rotation.maxRounds.toNat
  waiting : unresolved.Sublist pending
  unknown : ∀ o ∈ unresolved, o.preKeyId ∉ Key.ids (heldAfter g.record.history.keys before)
  history : g'.record.history.keys = learn (heldAfter g.record.history.keys before) last.brought
  late : ∀ o ∈ unresolved,
    o.preKeyId ∈ Key.ids g'.record.history.keys ↔ o.preKeyId ∈ Key.ids last.brought

variable {S : Type} {w : World S} {fuel : Nat} {g g' : Group} {s s' : S} {calls : List Event}
  {pending unresolved : List Output} {rounds : List Round} {resolved count : Nat} {trace : List Event}

theorem waitingAfter_outputs_sublist (pending : List Output) (rounds : List Round) :
    ((waitingAfter pending rounds).map Prod.fst).Sublist pending := by
  have h := (waitingAfter_sublist pending rounds).map Prod.fst
  rwa [List.zipIdx_map_fst] at h

theorem Concluded.givesUp (haccount : Account g calls pending rounds)
    (h : Concluded g calls pending rounds (.incomplete resolved count unresolved) g') :
    ∃ before last, GivesUp g calls unresolved g' pending before last := by
  obtain ⟨hused, hunknown⟩ := h.incomplete rfl
  have hlength : rounds.length = max 1 g.config.rotation.maxRounds.toNat :=
    h.rounds_eq.symm.trans hused
  obtain rfl | ⟨before, last, rfl⟩ := rounds.eq_nil_or_concat'
  · rw [List.length_nil] at hlength
    omega
  · have hbefore : before ≠ before ++ [last] := by simp
    have hunheld : ∀ o ∈ unresolved,
        o.preKeyId ∉ Key.ids (heldAfter g.record.history.keys before) := fun o ho =>
      hunknown o ho before (List.prefix_append _ _) hbefore
    have hhistory := h.history.trans heldAfter_snoc
    have hwaiting : unresolved = _ := h.unresolved_eq
    refine ⟨before, last, haccount, by simpa using hlength, ?_, hunheld, hhistory, ?_⟩
    · rw [hwaiting]
      exact waitingAfter_outputs_sublist _ _
    · intro o ho
      rw [hhistory, mem_ids_learn]
      exact ⟨fun hheld => hheld.resolve_left (hunheld o ho), .inr⟩

/-- A run that gives up on outputs has last tried them before the fetches of its last round. -/
theorem finish_gives_up (hsound : g.record.history.Sound)
    (hrun : Operation.finish.run w fuel g s =
      ⟨.finished (.ok (.incomplete resolved count unresolved)), g', s', trace⟩) :
    ∃ pending before last,
      GivesUp g (trace.filter Event.isCall) unresolved g' pending before last := by
  have hrecorded : Attempt.Ensures w.recorded fuel finish _ _ g ([], s) := finish_recorded hsound
  have hmeets := hrecorded.of_recorded rfl
  have hrun' : finish.run.run w fuel g s = _ := hrun
  rw [hrun'] at hmeets
  obtain ⟨pending, rounds, haccount, hconcluded⟩ := hmeets
  exact ⟨pending, hconcluded.givesUp haccount⟩

section Late

open Memory

theorem run_one_round : ∃ g' s' trace,
    Operation.finish.run world 2 (sampleMember.withRounds 1) sampleState =
        ⟨.finished (.ok (.incomplete 0 1 [⟨"second", "output"⟩])), g', s', trace⟩ ∧
      "second" ∈ Key.ids g'.record.history.keys := by
  have hjoined := joined_sample.withRounds 1
  obtain ⟨o, g', s', trace, hrun, -, -, hends⟩ :=
    (finish_rejoins hjoined ⟨rfl, rfl, rfl⟩ (Nat.le_refl 2)).exists_run
  cases hends with
  | idle hempty => exact absurd hempty (List.cons_ne_nil _ _)
  | worked _ rounds hends hstands =>
      obtain ⟨d, rfl, hd, -⟩ := hends
      obtain rfl : d = 0 := Nat.le_zero.mp hd
      obtain ⟨history, rfl, -, hkeys⟩ := hstands.group
      refine ⟨_, s', trace, hrun, ?_⟩
      show "second" ∈ Key.ids history.keys
      rw [hkeys]
      decide

theorem finish_gives_up_one_round : ∃ g' s' trace pending before last,
    (sampleMember.withRounds 1).record.history.Sound ∧
    Operation.finish.run world 2 (sampleMember.withRounds 1) sampleState =
        ⟨.finished (.ok (.incomplete 0 1 [⟨"second", "output"⟩])), g', s', trace⟩ ∧
      GivesUp (sampleMember.withRounds 1) (trace.filter Event.isCall) [⟨"second", "output"⟩] g'
        pending before last := by
  have hsound := (joined_sample.withRounds 1).sound
  obtain ⟨g', s', trace, hrun, -⟩ := run_one_round
  obtain ⟨pending, before, last, hgives⟩ := finish_gives_up hsound hrun
  exact ⟨g', s', trace, pending, before, last, hsound, hrun, hgives⟩

/-- A run can give up on an output whose start key is then held. -/
theorem finish_leaves_resolvable : 1 ≤ (sampleMember.withRounds 1).config.rotation.maxRounds ∧
    ∃ resolved rounds unresolved g' s' trace,
      Operation.finish.run world 2 (sampleMember.withRounds 1) sampleState =
          ⟨.finished (.ok (.incomplete resolved rounds unresolved)), g', s', trace⟩ ∧
        ∃ o ∈ unresolved, o.preKeyId ∈ Key.ids g'.record.history.keys := by
  obtain ⟨g', s', trace, hrun, hheld⟩ := run_one_round
  exact ⟨by decide, 0, 1, _, g', s', trace, hrun, _, List.mem_singleton_self _, hheld⟩

end Late

end Group

end Keyring
