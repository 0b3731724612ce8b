import Keyring.Group.Rotation
import Keyring.Proofs.Memory.Untimed
import Keyring.Proofs.Program.Returns

namespace Keyring.Group

open Attempt Memory Rotation

variable {fuel : Nat} {g g' g₁ : Group} {s s' s₁ : State}

/-- Whether the start key of an output is unknown to the group. -/
def awaits (g : Group) (o : Output) : Bool :=
  (g.record.history.get? o.preKeyId).isNone

theorem filter_awaits_of_ready {o : Output} (h : g.awaits o = false) (outputs : List Output) :
    (outputs.filter (· ≠ o)).filter g.awaits = outputs.filter g.awaits := by
  rw [List.filter_filter]
  apply List.filter_congr
  intro o' _
  cases hwait : g.awaits o' with
  | true =>
      have hne : o' ≠ o := fun heq => by simp [heq, h] at hwait
      simp [hne]
  | false => rfl

theorem pending_resolve {round : Nat} {o : Output} {k : Key}
    (h : Returns world fuel (resolve round o k) g s () g' s') :
    g = g' ∧ s'.server.pending = s.server.pending.filter (· ≠ o) := by
  simp only [resolve, returns_bind, returns_get, returns_notice, returns_metric] at h
  obtain ⟨_, _, _, ⟨rfl, rfl, rfl⟩, key, g₁, s₁, hderive, _, _, s₂, hcommit, _, _, _, ⟨rfl, rfl⟩,
    rfl, rfl⟩ := h
  rw [returns_tryCatch (fun e g s => by simp)] at hderive
  obtain ⟨hanswer, rfl⟩ := returns_request.mp hderive
  obtain ⟨hanswer', rfl⟩ := returns_request.mp hcommit
  obtain rfl := (Prod.mk.inj hanswer).2
  obtain rfl := (Prod.mk.inj hanswer').2
  exact ⟨rfl, rfl⟩

/-- Within a round the history stays, and so all copies of an output are treated alike: the server is
left with the outputs that the group defers, in the same order. -/
theorem pending_resolveKnown {round resolved n : Nat} {deferred outputs waiting : List Output}
    (hrun : Returns world fuel (resolveKnown round resolved deferred outputs) g s (n, waiting) g' s')
    (hdeferred : s.server.pending.filter g.awaits = deferred.reverse ++ outputs.filter g.awaits)
    (htodo : ∀ o ∈ s.server.pending, g.awaits o = false → o ∈ outputs) :
    s'.server.pending = waiting := by
  induction outputs generalizing resolved deferred s with
  | nil =>
      obtain ⟨hr, rfl, rfl⟩ := returns_pure.mp hrun
      obtain rfl : deferred.reverse = waiting := (Prod.mk.inj hr).2
      rw [List.filter_nil, List.append_nil, List.filter_eq_self.mpr] at hdeferred
      · exact hdeferred
      · intro o ho
        by_contra hknown
        exact nomatch htodo o ho (by simpa using hknown)
  | cons o rest ih =>
      simp only [resolveKnown, returns_bind, returns_get] at hrun
      obtain ⟨_, _, _, ⟨rfl, rfl, rfl⟩, hrun⟩ := hrun
      cases hget : g.record.history.get? o.preKeyId with
      | some k =>
          rw [hget] at hrun
          obtain ⟨_, _, s₁, hresolve, hrest⟩ := returns_bind.mp hrun
          obtain ⟨rfl, hpending⟩ := pending_resolve hresolve
          have hready : g.awaits o = false := by simp [awaits, hget]
          rw [List.filter_cons_of_neg (by simp [hready])] at hdeferred
          apply ih hrest
          · rw [hpending, filter_awaits_of_ready hready, hdeferred]
          · intro o' ho' hready'
            rw [hpending, List.mem_filter] at ho'
            rcases List.mem_cons.mp (htodo o' ho'.1 hready') with rfl | hrest'
            · simp at ho'
            · exact hrest'
      | none =>
          rw [hget] at hrun
          simp only [returns_bind, returns_notice, returns_metric] at hrun
          obtain ⟨_, _, _, ⟨rfl, rfl⟩, _, _, _, ⟨rfl, rfl⟩, hrest⟩ := hrun
          have hwait : g.awaits o = true := by simp [awaits, hget]
          apply ih hrest
          · rw [hdeferred, List.filter_cons_of_pos hwait, List.reverse_cons, List.append_assoc,
              List.singleton_append]
          · intro o' ho' hready'
            rcases List.mem_cons.mp (htodo o' ho' hready') with rfl | hrest'
            · exact absurd hwait (by simp [hready'])
            · exact hrest'

theorem pending_fetchNew {token : String} {threshold : UInt64} {added : Nat}
    (h : Returns world fuel (fetchNew token threshold) g s added g' s') :
    s'.server.pending = s.server.pending := by
  have hgather : ∀ (sweep : Sweep) pending, Preserves world fuel
      (fun (_ : Group) s => s.server.pending = pending) (Attempt.gather sweep) :=
    fun sweep pending => .gather fun cursor _ s hs => (pending_fetchKeys _ _ cursor s).trans hs
  have happend : ∀ keys pending, Preserves world fuel
      (fun (_ : Group) s => s.server.pending = pending) (append keys) := by
    intro keys pending
    refine Preserves.get.bind fun g => (Preserves.settle _).bind fun history => ?_
    refine (Preserves.tellAll _).bind fun _ => ?_
    exact fun _ _ hs => hs
  have hfetch : Preserves world fuel (fun (_ : Group) s' => s'.server.pending = s.server.pending)
      (fetchNew token threshold) := by
    refine Preserves.get.bind fun g => (Preserves.settle _).bind fun cursor => ?_
    refine (hgather _ _).bind fun gathered => ?_
    dsimp only
    split
    · exact (Preserves.notice _).bind fun _ => happend _ _
    · exact happend _ _
  exact (hfetch g s rfl).of_returns h

theorem pending_finishRound {round left more : Nat} {pending waiting : List Output}
    (h : Returns world fuel (finishRound round left pending) g s (more, waiting) g' s')
    (hpending : s.server.pending = pending) : s'.server.pending = waiting := by
  simp only [finishRound, returns_bind, returns_get, returns_notice, returns_pure] at h
  obtain ⟨⟨n, deferred⟩, g₁, s₁, hknown, _, _, _, ⟨rfl, rfl, rfl⟩, _, _, _, hfetch, _, _, _,
    ⟨rfl, rfl⟩, hr, rfl, rfl⟩ := h
  obtain rfl : deferred = waiting := (Prod.mk.inj hr).2
  rw [pending_fetchNew hfetch]
  exact pending_resolveKnown hknown (by simp [hpending]) (fun o ho _ => hpending ▸ ho)

theorem returns_catchUp_succ {round resolved left : Nat} {pending : List Output}
    {r : Nat × Nat × List Output} :
    Returns world fuel (catchUp round resolved (left + 1) pending) g s r g' s' ↔
      ∃ more waiting g₁ s₁,
        Returns world fuel (finishRound round (left + 1) pending) g s (more, waiting) g₁ s₁ ∧
        ((waiting = [] ∧ (resolved + more, round, waiting) = r ∧ g₁ = g' ∧ s₁ = s') ∨
          (waiting ≠ [] ∧
            Returns world fuel (catchUp (round + 1) (resolved + more) left waiting) g₁ s₁ r g'
              s')) := by
  rw [catchUp, returns_bind]
  constructor
  · rintro ⟨⟨more, waiting⟩, g₁, s₁, hround, hrest⟩
    refine ⟨more, waiting, g₁, s₁, hround, ?_⟩
    cases waiting with
    | nil => exact .inl ⟨rfl, returns_pure.mp hrest⟩
    | cons o rest => exact .inr ⟨List.cons_ne_nil o rest, hrest⟩
  · rintro ⟨more, waiting, g₁, s₁, hround, ⟨rfl, hend⟩ | ⟨hwait, hrest⟩⟩
    · exact ⟨(more, []), g₁, s₁, hround, returns_pure.mpr hend⟩
    · refine ⟨(more, waiting), g₁, s₁, hround, ?_⟩
      dsimp only
      rwa [if_neg (by simpa using hwait)]

theorem returns_catchUp_zero {round resolved : Nat} {pending : List Output}
    {r : Nat × Nat × List Output} :
    Returns world fuel (catchUp round resolved 0 pending) g s r g' s' ↔
      ∃ more waiting, Returns world fuel (finishRound round 0 pending) g s (more, waiting) g' s' ∧
        (resolved + more, round, waiting) = r := by
  rw [catchUp, returns_bind]
  constructor
  · rintro ⟨⟨more, waiting⟩, g₁, s₁, hround, hend⟩
    obtain ⟨hr, rfl, rfl⟩ := returns_pure.mp hend
    exact ⟨more, waiting, hround, hr⟩
  · rintro ⟨more, waiting, hround, hr⟩
    exact ⟨(more, waiting), g', s', hround, returns_pure.mpr ⟨hr, rfl, rfl⟩⟩

theorem pending_catchUp {round resolved left n rounds : Nat} {pending waiting : List Output}
    (h : Returns world fuel (catchUp round resolved left pending) g s (n, rounds, waiting) g' s')
    (hpending : s.server.pending = pending) : s'.server.pending = waiting := by
  induction left generalizing round resolved pending g s with
  | zero =>
      obtain ⟨more, deferred, hround, hr⟩ := returns_catchUp_zero.mp h
      obtain ⟨-, -, rfl⟩ : resolved + more = n ∧ round = rounds ∧ deferred = waiting := by
        simpa using hr
      exact pending_finishRound hround hpending
  | succ left ih =>
      obtain ⟨more, deferred, g₁, s₁, hround, ⟨-, hr, rfl, rfl⟩ | ⟨-, hrest⟩⟩ :=
        returns_catchUp_succ.mp h
      · obtain ⟨-, -, rfl⟩ : resolved + more = n ∧ round = rounds ∧ deferred = waiting := by
          simpa using hr
        exact pending_finishRound hround hpending
      · exact ih hrest (pending_finishRound hround hpending)

end Keyring.Group
