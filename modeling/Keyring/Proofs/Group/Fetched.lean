import Keyring.Proofs.Group.Append
import Keyring.Proofs.Program.Swept

namespace Keyring.Group

variable {S : Type} {w : World S} {fuel : Nat} {g : Group} {s s' : S} {newest : Key}
  {token : String} {threshold : UInt64} {calls : List FetchCall}

/-- The keys that some calls brought, without those that the history held. -/
def unheld (g : Group) (calls : List FetchCall) : List Key :=
  (calls.flatMap FetchCall.keys).filter fun k => k.id ∉ Key.ids g.record.history.keys

/-- What calls that have ended a fetch loop make of a member's group: a failed one is the failure of
the whole; if there is none, the keys that are new are added as a batch, whole or not at all. -/
inductive Fetched (g : Group) (calls : List FetchCall) :
    Ending (Except Failure Nat) → Group → Prop
  | failed {c : FetchCall} {e : Failure} (hc : c ∈ calls) (hreply : c.reply = some (.error e)) :
      Fetched g calls (.finished (.error e)) g
  | taken {h : History} (hbrought : ∀ c ∈ calls, ∃ batch, c.reply = some (.ok batch))
      (happend : g.record.history.append (g.unheld calls) = .ok h)
      (hkeys : h.keys = g.record.history.keys ++ g.unheld calls) :
      Fetched g calls (.finished (.ok (g.unheld calls).length)) (g.withHistory h)
  | refused {e : Failure} (hbrought : ∀ c ∈ calls, ∃ batch, c.reply = some (.ok batch))
      (happend : g.record.history.append (g.unheld calls) = .error e) :
      Fetched g calls (.finished (.error e)) g

theorem fetchNew_of_swept (hsound : g.record.history.Sound)
    (hnewest : g.record.history.keys.getLast? = some newest)
    (h : Swept w token g.record.groupId threshold.toNat newest.cursor s s' calls)
    (hfuel : calls.length ≤ fuel) {before : List Event} {Q : Nat → Group → List Event × S → Prop}
    {X : Halt → Group → List Event × S → Prop}
    (hbrought : (∀ c ∈ calls, ∃ batch, c.reply = some (.ok batch)) →
      Attempt.Ensures w.recorded fuel (append (g.unheld calls)) Q X g
        (before ++ calls.map (FetchCall.event token g.record.groupId), s'))
    (hfailed : ∀ c ∈ calls, ∀ e, c.reply = some (.error e) →
      X (.failed e) g (before ++ calls.map (FetchCall.event token g.record.groupId), s')) :
    Attempt.Ensures w.recorded fuel (fetchNew token threshold) Q X g (before, s) := by
  rw [ensures_fetchNew hsound hnewest]
  refine Sweep.ensures_of_swept ?_ hfuel hbrought hfailed
  exact h

theorem exists_swept_of_finished (hsound : g.record.history.Sound)
    (hnewest : g.record.history.keys.getLast? = some newest) {result : Except Failure Nat}
    (hended : ((fetchNew token threshold).run.run w fuel g s).ending = .finished result) :
    ∃ calls s', calls.length ≤ fuel ∧
      Swept w token g.record.groupId threshold.toNat newest.cursor s s' calls := by
  let sweep : Sweep := { token, groupId := g.record.groupId, threshold, cursor := newest.cursor }
  let R : Ending (Except Failure Nat) → Group → S → Prop := fun ending _ _ =>
    (∃ result, ending = .finished result) → ∃ result, (sweep.run w fuel s).1 = .finished result
  have hrun : Attempt.Ensures w fuel (fetchNew token threshold)
      (fun n => R (.finished (.ok n))) (fun halt => R halt.ending) g s := by
    rw [ensures_fetchNew hsound hnewest, Attempt.ensures_gather]
    rcases hsweep : sweep.run w fuel s with ⟨(e | gathered) | _ | _, s₁, events⟩
    · exact fun _ => ⟨_, by rw [hsweep]⟩
    · exact (Attempt.ensures_true _).mono (fun _ _ _ _ _ => ⟨_, by rw [hsweep]⟩)
        fun _ _ _ _ _ => ⟨_, by rw [hsweep]⟩
    · exact fun ⟨_, h⟩ => nomatch h
    · exact fun ⟨_, h⟩ => nomatch h
  obtain ⟨gathered, hsweep⟩ := Attempt.meets_ending.mp hrun ⟨result, hended⟩
  exact Sweep.exists_swept hsweep

theorem fetched_of_swept (hsound : g.record.history.Sound)
    (hnewest : g.record.history.keys.getLast? = some newest)
    (h : Swept w token g.record.groupId threshold.toNat newest.cursor s s' calls)
    (hfuel : calls.length ≤ fuel) :
    let r := (fetchNew token threshold).run.run w fuel g s
    (∃ result, r.ending = .finished result) ∧
      r.calls = calls.map (FetchCall.event token g.record.groupId) ∧ r.world = s' ∧
        Fetched g calls r.ending r.state := by
  refine Attempt.Ensures.run_of_recorded (R := fun ending calls' g' s₁ =>
    (∃ result, ending = .finished result) ∧
      calls' = calls.map (FetchCall.event token g.record.groupId) ∧ s₁ = s' ∧
        Fetched g calls ending g') (fetchNew_of_swept hsound hnewest h hfuel ?_ ?_)
  · intro hbrought
    rw [ensures_append]
    cases happend : g.record.history.append (g.unheld calls) with
    | ok h =>
        have hkeys := (hsound.of_append_eq_ok happend).2
        exact ⟨⟨_, rfl⟩, rfl, rfl, .taken hbrought happend hkeys⟩
    | error e => exact ⟨⟨_, rfl⟩, rfl, rfl, .refused hbrought happend⟩
  · exact fun c hc e hreply => ⟨⟨_, rfl⟩, rfl, rfl, .failed hc hreply⟩

/-- Fetching new keys, call by call and key by key. A loop that does not come to an end leaves no
result, whatever the number of its requests. -/
theorem fetchNew_exact (hsound : g.record.history.Sound) (token : String) (threshold : UInt64)
    (w : World S) (fuel : Nat) (s : S) :
    let r := (fetchNew token threshold).run.run w fuel g s
    (g.record.history.keys = [] →
      r.ending = .finished (.error .emptyHistory) ∧ r.state = g ∧ r.calls = []) ∧
    ∀ newest, g.record.history.keys.getLast? = some newest →
      let Ends := fun calls s' => calls.length ≤ fuel ∧
        Swept w token g.record.groupId threshold.toNat newest.cursor s s' calls
      ((∃ result, r.ending = .finished result) ↔ ∃ calls s', Ends calls s') ∧
      ∀ calls s', Ends calls s' →
        r.calls = calls.map (FetchCall.event token g.record.groupId) ∧ r.world = s' ∧
          Fetched g calls r.ending r.state := by
  intro r
  refine ⟨fun hempty => ?_, fun newest hnewest => ⟨⟨?_, ?_⟩, ?_⟩⟩
  · refine Attempt.Ensures.run_of_recorded (R := fun ending calls g' _ =>
      ending = .finished (.error .emptyHistory) ∧ g' = g ∧ calls = []) ?_
    rw [ensures_fetchNew_empty hempty]
    exact ⟨rfl, rfl, rfl⟩
  · rintro ⟨result, hended⟩
    exact exists_swept_of_finished hsound hnewest hended
  · rintro ⟨calls, s', hfuel, hswept⟩
    exact (fetched_of_swept hsound hnewest hswept hfuel).1
  · rintro calls s' ⟨hfuel, hswept⟩
    exact (fetched_of_swept hsound hnewest hswept hfuel).2

section Resent

open Memory

/-- A server that sends a key again which the member has, and then goes on. -/
def resending : State where
  server := { scripted := [[.sample "first" 1, .sample "next" 2], [.sample "last" 3]] }

def resentCalls : List FetchCall := [
  ⟨⟨1, "first"⟩, some (.ok [.sample "first" 1, .sample "next" 2])⟩,
  ⟨⟨2, "next"⟩, some (.ok [.sample "last" 3])⟩]

theorem swept_resent : ∃ s', Swept world "token" "team" 1 ⟨1, "first"⟩ resending s' resentCalls :=
  ⟨_, ⟨_, rfl, _, rfl, rfl⟩, rfl,
    .cons_cons ⟨_, _, rfl, by decide, rfl, rfl⟩ (.singleton _),
    _, rfl, .inr ⟨_, rfl, .inr (by decide)⟩⟩

theorem fetchNew_exact_resent :
    let g := holder [.sample "first" 1]
    let r := (fetchNew "token" 1).run.run world 2 g resending
    g.record.history.Sound ∧ r.calls = resentCalls.map (FetchCall.event "token" "team") ∧
      r.ending = .finished (.ok 2) ∧
        r.state.record.history.keys = [.sample "first" 1, .sample "next" 2, .sample "last" 3] := by
  intro g r
  have hsound : g.record.history.Sound := sound_holder ⟨by decide, by decide⟩
  obtain ⟨s', hswept⟩ := swept_resent
  obtain ⟨hcalls, -, hfetched⟩ :=
    ((fetchNew_exact hsound "token" 1 world 2 resending).2 (.sample "first" 1) rfl).2
      resentCalls s' ⟨by decide, hswept⟩
  refine ⟨hsound, hcalls, ?_⟩
  have hnew : g.unheld resentCalls = [.sample "next" 2, .sample "last" 3] := by decide
  generalize r.ending = ending at hfetched ⊢
  generalize r.state = g' at hfetched ⊢
  cases hfetched with
  | failed hc hreply =>
      have hbrought : ∀ c ∈ resentCalls, ∃ batch, c.reply = some (.ok batch) := by
        simp [resentCalls]
      obtain ⟨batch, hbatch⟩ := hbrought _ hc
      rw [hreply] at hbatch
      exact nomatch hbatch
  | taken _ _ hkeys =>
      rw [hnew] at hkeys ⊢
      exact ⟨rfl, hkeys⟩
  | refused _ happend =>
      have hextends : Extends g.record.history.keys (g.unheld resentCalls) := by
        rw [hnew]
        exact ⟨by decide, by decide, by decide⟩
      rw [(hsound.append_eq_ok_iff _).mpr hextends] at happend
      exact nomatch happend

end Resent

end Keyring.Group
