import Keyring.Proofs.Group.Ended
import Keyring.Proofs.Group.Retry

namespace Keyring.Group

open Attempt Memory Rotation

variable {fuel : Nat} {a b n : UInt32} {store store' : Store} {g g' g₁ g₂ g₃ : Group}
  {s s' s₁ s₂ s₃ : State} {o₁ o₂ : Outcome} {t₁ t₂ : List Event}

section Twin

theorem Twin.persist (h : Twin n store store' g s g' s')
    (hrun : Returns world fuel persist g s () g₁ s₁) :
    g = g₁ ∧ s₁.server = s.server ∧ s₁.engine = s.engine ∧
      ∃ s₁', Returns world fuel Group.persist g' s' () g' s₁' ∧
        Twin n (store.set (storeKey g.config.store.space g.record.groupId) g.record.save)
          (store'.set (storeKey g.config.store.space g.record.groupId) g.record.save) g s₁ g'
          s₁' := by
  obtain ⟨rfl, hserver, hengine, huntimed, huntimed', rfl, rfl⟩ := h
  obtain ⟨clock, hclock, hpersist⟩ := returns_persist (g := g) huntimed
  obtain ⟨clock', hclock', hpersist'⟩ := returns_persist (g := g.withRounds n) huntimed'
  obtain ⟨rfl, rfl⟩ := (hpersist g₁ s₁).mp hrun
  exact ⟨rfl, rfl, rfl, _, (hpersist' _ _).mpr ⟨rfl, rfl⟩,
    rfl, hserver, hengine, hclock, hclock', rfl, rfl⟩

theorem Twin.closed (h : Twin n store store' g s g' s') (waiting : List Output) :
    Twin n store store' (g.closed waiting) s (g'.closed waiting) s' := by
  obtain ⟨rfl, hworld⟩ := h
  exact ⟨closed_withRounds g n waiting, hworld⟩

theorem Twin.stored (h : Twin n store store' g s g' s') (hserver : s₁.server = s.server)
    (hengine : s₁.engine = s.engine) (huntimed : s₁.clock.deadline = none) (b : UInt32) :
    Twin n s₁.store store' (g.withRounds b) s₁ g' s' := by
  refine ⟨h.group, ?_, ?_, huntimed, h.alike.untimed', rfl, h.alike.store_eq'⟩
  · rw [h.alike.server_eq, hserver]
  · rw [h.alike.engine_eq, hengine]

end Twin

/-- How a single finish run ends that is given the rounds of two. -/
structure Joint (n : UInt32) (o₁ o₂ : Outcome) (g₂ : Group) (s₂ : State) (o : Outcome) (g₃ : Group)
    (s₃ : State) : Prop where
  group : g₃ = g₂.withRounds n
  server : s₃.server = s₂.server
  engine : s₃.engine = s₂.engine
  entries : s₃.store.entries = s₂.store.entries
  isComplete : o.isComplete = o₂.isComplete
  unresolved : o.unresolved = o₂.unresolved
  resolved : o.resolved = o₁.resolved + o₂.resolved
  rounds : o.rounds = o₁.rounds + o₂.rounds

theorem Twin.joint (h : Twin n store store' g₂ s₂ g₃ s₃) (hstore : store'.entries = store.entries)
    (resolved₁ rounds₁ resolved₂ rounds₂ : Nat) (waiting₁ waiting₂ : List Output) :
    Joint n (outcomeWith resolved₁ rounds₁ waiting₁) (outcomeWith resolved₂ rounds₂ waiting₂) g₂ s₂
      (outcomeWith (resolved₁ + resolved₂) (rounds₁ + rounds₂) waiting₂) g₃ s₃ where
  group := h.group
  server := h.alike.server_eq
  engine := h.alike.engine_eq
  entries := by rw [h.alike.store_eq, h.alike.store_eq', hstore]
  isComplete := by simp
  unresolved := by simp
  resolved := by simp
  rounds := by simp

theorem finishPending_joint (hleft : n.toNat - 1 = b.toNat - 1 + 1 + (a.toNat - 1))
    (huntimed : s.clock.deadline = none)
    (hfirst : Returns world fuel finishPending (g.withRounds a) s o₁ g₁ s₁)
    (hsecond : Returns world fuel finishPending (g₁.withRounds b) s₁ o₂ g₂ s₂) :
    ∃ o g₃ s₃, Returns world fuel finishPending (g.withRounds n) s o g₃ s₃ ∧
      Joint n o₁ o₂ g₂ s₂ o g₃ s₃ ∧ (o₁.isComplete = true → o₂.isComplete = true) := by
  rcases returns_finishPending.mp hfirst with ⟨hnone, rfl, rfl, rfl⟩ |
    ⟨hsome, resolved₁, rounds₁, waiting₁, gl, sl, hloop₁, hpersist₁, rfl⟩
  · rcases returns_finishPending.mp hsecond with ⟨-, rfl, rfl, rfl⟩ | ⟨hsome, -⟩
    · have htwin : Twin n s.store s.store (g.withRounds b) s (g.withRounds n) s :=
        ⟨rfl, rfl, rfl, huntimed, huntimed, rfl, rfl⟩
      exact ⟨_, _, s, returns_finishPending.mpr (.inl ⟨hnone, rfl, rfl, rfl⟩),
        htwin.joint rfl 0 0 0 0 [] [], fun _ => rfl⟩
    · exact absurd hnone hsome
  · have htwin : Twin n s.store s.store (g.withRounds a) s (g.withRounds n) s :=
      ⟨rfl, rfl, rfl, huntimed, huntimed, rfl, rfl⟩
    obtain ⟨gl', sl', htwin₁, hended, hgone⟩ := catchUp_longer (b.toNat - 1) htwin hloop₁
    have hleft' : b.toNat - 1 + 1 + (g.withRounds a).furtherRounds =
        (g.withRounds n).furtherRounds := hleft.symm
    rw [hleft'] at hended hgone
    obtain ⟨rfl, hserver, hengine, s₁', hpersist₁', htwin₁'⟩ :=
      (htwin₁.closed waiting₁).persist hpersist₁
    have hpending : s₁.server.pending = waiting₁ := by rw [hserver, pending_catchUp hloop₁ rfl]
    rcases returns_finishPending.mp hsecond with ⟨hnone, rfl, rfl, rfl⟩ |
      ⟨hwait, resolved₂, rounds₂, waiting₂, gn, sn, hloop₂, hpersist₂, rfl⟩
    · obtain rfl : waiting₁ = [] := hpending.symm.trans hnone
      refine ⟨outcomeWith resolved₁ rounds₁ [], _, s₁', returns_finishPending.mpr (.inr ⟨hsome,
        resolved₁, rounds₁, [], gl', sl', hended rfl, hpersist₁', rfl⟩), ?_, fun _ => rfl⟩
      have hjoint := htwin₁'.joint rfl resolved₁ rounds₁ 0 0 [] []
      exact { hjoint with group := htwin₁'.group }
    · rw [hpending] at hwait hloop₂
      -- The longer run has not stored its record yet where the second run starts.
      have htwin₂ : Twin n s₁.store s.store (gl.withRounds b) s₁ gl' sl' :=
        htwin₁.stored hserver hengine htwin₁'.alike.untimed b
      rw [closed_of_ne_nil gl hwait] at hloop₂
      obtain ⟨_, gn', sn', hmore, rfl, htwin₃⟩ :=
        mirrored_catchUp rounds₁ resolved₁ 1 0 (b.toNat - 1) waiting₁ htwin₂ hloop₂
      obtain ⟨rfl, -, -, s₃, hpersist₃, htwin₄⟩ := (htwin₃.closed waiting₂).persist hpersist₂
      refine ⟨_, _, s₃, returns_finishPending.mpr (.inr ⟨hsome, _, _, waiting₂, gn', sn',
        hgone hwait _ _ _ hmore, hpersist₃, rfl⟩), htwin₄.joint ?_ _ _ _ _ waiting₁ waiting₂, ?_⟩
      · -- What the first run stored is overwritten.
        have hkey := ((akin_catchUp hloop₂).1.closed waiting₂).storeKey_eq
        rw [htwin₁'.alike.store_eq, hkey, closed_of_ne_nil gl hwait]
        exact (Assoc.put_put _ _ _ _).symm
      · intro hcomplete
        rw [outcomeWith_isComplete, List.isEmpty_iff] at hcomplete
        exact absurd hcomplete hwait

/-- Two finish runs in a row, of at most `a` and `b` rounds, do what a single one of at most `a + b`
rounds does. -/
theorem finish_resumes (ha : 1 ≤ a.toNat) (hb : 1 ≤ b.toNat)
    (hab : a.toNat + b.toNat < UInt32.size) (huntimed : s.clock.deadline = none)
    (hfirst : Operation.finish.run world fuel (g.withRounds a) s =
      ⟨.finished (.ok o₁), g₁, s₁, t₁⟩)
    (hsecond : Operation.finish.run world fuel (g₁.withRounds b) s₁ =
      ⟨.finished (.ok o₂), g₂, s₂, t₂⟩) :
    ∃ o g₃ s₃ t₃, Operation.finish.run world fuel (g.withRounds (a + b)) s =
      ⟨.finished (.ok o), g₃, s₃, t₃⟩ ∧ Joint (a + b) o₁ o₂ g₂ s₂ o g₃ s₃ := by
  have hleft : (a + b).toNat - 1 = b.toNat - 1 + 1 + (a.toNat - 1) := by
    rw [UInt32.toNat_add, Nat.mod_eq_of_lt hab]
    omega
  obtain ⟨hphase, gm, hpending₁, rfl⟩ := returns_finish.mp ⟨t₁, hfirst⟩
  obtain ⟨-, gn, hpending₂, rfl⟩ := returns_finish.mp ⟨t₂, hsecond⟩
  have hfirst' : Returns world fuel finishPending
      (({ g with phase := .finishing } : Group).withRounds a) s o₁ gm s₁ := hpending₁
  have hsecond' : Returns world fuel finishPending (gm.withRounds b) s₁ o₂ gn s₂ := by
    have hfinishing : gm.phase = .finishing := phase_finishPending hpending₁
    rw [show gm = { gm with phase := .finishing } by rw [← hfinishing]]
    exact hpending₂
  obtain ⟨o, g₃, s₃, hpending₃, hjoint, hcomplete⟩ :=
    finishPending_joint hleft huntimed hfirst' hsecond'
  obtain ⟨t₃, hrun⟩ : Returns world fuel finish (g.withRounds (a + b)) s o _ s₃ :=
    returns_finish.mpr ⟨hphase, g₃, hpending₃, rfl⟩
  refine ⟨o, _, s₃, t₃, hrun, { hjoint with group := ?_ }⟩
  -- A complete first run leaves nothing for the second, which is then complete, too.
  rw [hjoint.group, hjoint.isComplete]
  cases hcomplete₂ : o₂.isComplete with
  | true => rfl
  | false =>
      have hcomplete₁ : o₁.isComplete = false := by
        by_contra h
        exact absurd (hcomplete (by simpa using h)) (by simp [hcomplete₂])
      simp only [hcomplete₁, Bool.false_eq_true, if_false]
      rfl

section Sample

theorem Joined.withRounds (h : Joined g s) (n : UInt32) : Joined (g.withRounds n) s :=
  ⟨h.phase, h.sound, h.held_ne_nil, h.held_within, h.chronicle, h.undelayed, h.unscripted⟩

/-- A finish run leaves the group fit for another one. -/
theorem finish_rejoins (h : Joined g s) (hcalm : s.Calm) (hfuel : 2 ≤ fuel) :
    Ensures world fuel finish (fun o g' s' => Joined g' s' ∧ s'.Calm ∧ EndsAt g s o g' s')
      (fun _ _ _ => False) g s := by
  have hsteady : s.server.delayed = [] ∧ s.Calm := ⟨h.undelayed, hcalm⟩
  refine finish_ensures follows_world hsteady (h.stands State.settled rfl) h.ready hfuel h.phase ?_
    ?_ (fun hh => hh.elim)
  · intro hempty s' hview hsteady'
    have hstands := (h.stands State.settled hview).setPhase .idle
    have hjoined := (Joined.of_stands (.inl rfl) h.ready hsteady'.1 hstands).1
    exact ⟨hjoined, hsteady'.2, .idle hempty hview⟩
  · intro hne rounds hends g' s' hstands hsteady'
    refine ⟨(Joined.of_stands ?_ (h.ready.after rounds) hsteady'.1 hstands).1, hsteady'.2,
      .worked hne rounds hends hstands⟩
    split
    · exact .inl rfl
    · exact h.phase

theorem finish_resumes_sample : ∃ o₁ g₁ s₁ t₁ o₂ g₂ s₂ t₂ o g₃ s₃ t₃,
    Operation.finish.run world 2 (sampleMember.withRounds 1) sampleState =
      ⟨.finished (.ok o₁), g₁, s₁, t₁⟩ ∧
    Operation.finish.run world 2 (g₁.withRounds 1) s₁ = ⟨.finished (.ok o₂), g₂, s₂, t₂⟩ ∧
    Operation.finish.run world 2 (sampleMember.withRounds 2) sampleState =
      ⟨.finished (.ok o), g₃, s₃, t₃⟩ ∧
    o₁.isComplete = false ∧ Joint 2 o₁ o₂ g₂ s₂ o g₃ s₃ := by
  have hfirst := finish_rejoins (joined_sample.withRounds 1) ⟨rfl, rfl, rfl⟩ (Nat.le_refl 2)
  obtain ⟨o₁, g₁, s₁, t₁, hrun₁, hjoined, hcalm, hends⟩ := hfirst.exists_run
  have hsecond := finish_rejoins (hjoined.withRounds 1) hcalm (Nat.le_refl 2)
  obtain ⟨o₂, g₂, s₂, t₂, hrun₂, -⟩ := hsecond.exists_run
  have hrun₁' : Operation.finish.run world 2 (sampleMember.withRounds 1) sampleState = _ := hrun₁
  have hrun₂' : Operation.finish.run world 2 (g₁.withRounds 1) s₁ = _ := hrun₂
  obtain ⟨o, g₃, s₃, t₃, hrun, hjoint⟩ :=
    finish_resumes (by decide) (by decide) (by decide) rfl hrun₁' hrun₂'
  refine ⟨o₁, g₁, s₁, t₁, o₂, g₂, s₂, t₂, o, g₃, s₃, t₃, hrun₁, hrun₂, hrun, ?_, hjoint⟩
  cases hends with
  | idle hempty => exact absurd hempty (by decide)
  | worked _ rounds hends =>
      obtain ⟨d, rfl, hd, -⟩ := hends
      obtain rfl : d = 0 := Nat.le_zero.mp hd
      rw [isComplete_outcomeAfter]
      decide

end Sample

end Keyring.Group
