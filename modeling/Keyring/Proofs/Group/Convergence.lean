import Keyring.Group.Operation
import Keyring.Key.Sample
import Keyring.Proofs.Group.Finish
import Keyring.Proofs.Memory.Following
import Keyring.Proofs.Rotation.Depth

namespace Keyring.Group

open Keyring.Memory Keyring.Rotation

/-- The outcome that the depths of the pending outputs foretell: with nothing pending a run is over
at once; if no output is too deep, all are resolved, in as many rounds as the deepest asks for; else
the others are resolved in all rounds allowed, and those that are too deep stay, in their order. -/
structure Foretold (limit : ℕ) (pending : List Output) (deep : Output → ℕ∞) (outcome : Outcome) :
    Prop where
  idle : pending = [] → outcome = .completed 0 0
  complete : pending ≠ [] → (∀ o ∈ pending, deep o ≤ limit) →
    ∃ rounds : ℕ, (rounds : ℕ∞) = ⨆ o ∈ pending, deep o ∧
      outcome = .completed pending.length rounds
  incomplete : (∃ o ∈ pending, (limit : ℕ∞) < deep o) →
    outcome = .incomplete (pending.countP fun o => decide (deep o ≤ limit)) limit
      (pending.filter fun o => decide ((limit : ℕ∞) < deep o))

section Rounds

variable {g : Group} {b : Board} {rounds : Nat}

theorem EndsWith.eq_last (h : EndsWith g b rounds) (hne : (b.after g.actor rounds).waiting ≠ []) :
    rounds = g.furtherRounds + 1 := by
  obtain ⟨d, rfl, -, -, hend⟩ := h
  rcases hend with hempty | rfl
  · exact absurd hempty hne
  · rfl

theorem EndsWith.le_last (h : EndsWith g b rounds) : rounds ≤ g.furtherRounds + 1 := by
  obtain ⟨d, rfl, hd, -⟩ := h
  omega

/-- A run that leaves nothing waiting took as many rounds as the deepest output asks for. -/
theorem EndsWith.eq_iSup (h : EndsWith g b rounds) (hready : b.Ready) (hne : b.waiting ≠ [])
    (hempty : (b.after g.actor rounds).waiting = []) :
    (rounds : ℕ∞) = ⨆ o ∈ b.waiting, depth b.held b.log b.waiting o := by
  obtain ⟨d, rfl, -, hbefore, -⟩ := h
  rw [(Board.explored hready _).waiting_eq, List.filter_eq_nil_iff] at hempty
  have hlast : (b.after g.actor d).waiting ≠ [] := by
    cases d with
    | zero => exact hne
    | succ d => exact hbefore d (Nat.lt_succ_self d)
  obtain ⟨o, ho⟩ := List.exists_mem_of_ne_nil _ hlast
  rw [(Board.explored hready _).waiting_eq, List.mem_filter, decide_eq_true_eq] at ho
  refine le_antisymm ?_ ?_
  · calc ((d + 1 : ℕ) : ℕ∞) ≤ depth b.held b.log b.waiting o := by
          simpa using Order.add_one_le_of_lt ho.2
      _ ≤ ⨆ o ∈ b.waiting, depth b.held b.log b.waiting o :=
          le_iSup₂ (f := fun o _ => depth b.held b.log b.waiting o) o ho.1
  · apply iSup₂_le
    intro p hp
    simpa using hempty p hp

theorem waiting_eq_filter (h : EndsWith g b rounds) (hready : b.Ready) :
    (b.after g.actor rounds).waiting = b.waiting.filter fun o =>
      decide (((g.furtherRounds + 1 : ℕ) : ℕ∞) < depth b.held b.log b.waiting o) := by
  by_cases hempty : (b.after g.actor rounds).waiting = []
  · rw [hempty, eq_comm, List.filter_eq_nil_iff]
    rw [(Board.explored hready _).waiting_eq, List.filter_eq_nil_iff] at hempty
    intro o ho hlast
    have hle : depth b.held b.log b.waiting o ≤ (rounds : ℕ∞) := by simpa using hempty o ho
    have hlast' : ((g.furtherRounds + 1 : ℕ) : ℕ∞) < (rounds : ℕ∞) :=
      lt_of_lt_of_le (of_decide_eq_true hlast) hle
    have := h.le_last
    exact absurd (ENat.natCast_lt_natCast.mp hlast') (by omega)
  · rw [(Board.explored hready _).waiting_eq, h.eq_last hempty]

theorem EndsWith.foretold (h : EndsWith g b rounds) (hready : b.Ready) (hne : b.waiting ≠ []) :
    Foretold (g.furtherRounds + 1) b.waiting (depth b.held b.log b.waiting)
      (outcomeAfter g.actor b rounds) := by
  have hwaiting := waiting_eq_filter h hready
  refine ⟨fun hempty => absurd hempty hne, ?_, ?_⟩
  · intro _ hall
    have hempty : (b.after g.actor rounds).waiting = [] := by
      rw [hwaiting, List.filter_eq_nil_iff]
      intro o ho hlast
      exact absurd (of_decide_eq_true hlast) (not_lt.mpr (hall o ho))
    refine ⟨rounds, h.eq_iSup hready hne hempty, ?_⟩
    simp only [outcomeAfter, hempty]
    rfl
  · rintro ⟨o, ho, hlast⟩
    have hleft : (b.after g.actor rounds).waiting ≠ [] := by
      rw [hwaiting]
      exact List.ne_nil_of_mem (List.mem_filter.mpr ⟨ho, decide_eq_true hlast⟩)
    have hcount : b.waiting.length - (b.after g.actor rounds).waiting.length =
        b.waiting.countP fun o =>
          decide (depth b.held b.log b.waiting o ≤ ((g.furtherRounds + 1 : ℕ) : ℕ∞)) := by
      have hsplit := List.length_eq_countP_add_countP
        (fun o => decide (((g.furtherRounds + 1 : ℕ) : ℕ∞) < depth b.held b.log b.waiting o))
        (l := b.waiting)
      simp only [decide_eq_true_eq, not_lt] at hsplit
      rw [hwaiting, ← List.countP_eq_length_filter]
      omega
    have hrounds : rounds = g.furtherRounds + 1 := h.eq_last hleft
    simp only [outcomeAfter, hcount, List.isEmpty_iff, hleft, if_false]
    rw [hwaiting, hrounds]

end Rounds

/-- What a member and a simulation have in common when the member may finish rotations: the log is
well formed and given out as it is, and the member has some of it. -/
structure Joined (g : Group) (s : State) : Prop where
  phase : g.phase = .idle ∨ g.phase = .published
  sound : g.record.history.Sound
  held_ne_nil : g.record.history.keys ≠ []
  held_within : g.record.history.keys <+: s.server.log
  chronicle : Chronicle s.server.log
  undelayed : s.server.delayed = []
  unscripted : s.server.scripted = []

def board (g : Group) (s : State) : Board :=
  ⟨g.record.history.keys, s.server.log, s.server.pending⟩

namespace Joined

variable {g : Group} {s : State}

theorem ready (h : Joined g s) : (g.board s).Ready :=
  ⟨h.chronicle, h.held_within, h.held_ne_nil⟩

theorem stands (h : Joined g s) {S : Type} (view : S → State) {world : S}
    (hview : view world = s.settled) : Stands view g s.store (g.board s) g world := by
  refine ⟨⟨g.record.history, rfl, h.sound, rfl⟩, ?_, ?_, ?_, ?_⟩
  · rw [hview]
    rfl
  · rw [hview]
    rfl
  · rw [hview]
    rfl
  · rw [hview]
    exact ⟨h.undelayed, h.unscripted⟩

end Joined

def sampleMember : Group where
  record := Record.make "group" 0 (History.empty.extend [Key.sample "first" 1])
  actor := ⟨"user", "public", "private", "token"⟩
  config := {}

/-- A server with both keys, and with a pending output that starts from the second. -/
def sampleState : State where
  server := {
    log := [Key.sample "first" 1, Key.sample "second" 2]
    pending := [⟨"second", "output"⟩] }

theorem joined_sample : Joined sampleMember sampleState where
  phase := .inl rfl
  sound := History.Sound.ofKeys ⟨by decide, by decide⟩
  held_ne_nil := List.cons_ne_nil _ _
  held_within := ⟨[Key.sample "second" 2], rfl⟩
  chronicle := ⟨by decide, by decide⟩
  undelayed := rfl
  unscripted := rfl

/-- What a finish run achieves when nothing fails. Outputs that are too deep stay pending; if there
was anything pending, the member ends with the whole log of the server. -/
theorem finish_converges {g : Group} {s : State} {fuel : Nat} (h : Joined g s) (hcalm : s.Calm)
    (hrounds : 1 ≤ g.config.rotation.maxRounds.toNat) (hfuel : 2 ≤ fuel) :
    let limit := g.config.rotation.maxRounds.toNat
    let deep := depth g.record.history.keys s.server.log s.server.pending
    ∃ outcome g' s' trace,
      Operation.finish.run world fuel g s = ⟨.finished (.ok outcome), g', s', trace⟩ ∧
        Foretold limit s.server.pending deep outcome ∧
        s'.server.pending = s.server.pending.filter (fun o => decide ((limit : ℕ∞) < deep o)) ∧
        (s.server.pending ≠ [] → g'.record.history.keys = s'.server.log) := by
  intro limit deep
  have hready := h.ready
  have hlimit : limit = g.furtherRounds + 1 := by
    simp only [furtherRounds, limit]
    omega
  rw [hlimit]
  refine Attempt.Ensures.exists_run (finish_ensures follows_world ⟨h.undelayed, hcalm⟩
    (h.stands State.settled rfl) hready hfuel h.phase ?_ ?_ (fun hh => hh.elim))
  · intro hempty s' hview _
    have hpending : s.server.pending = [] := hempty
    have hpending' : s'.server.pending = s.server.pending :=
      congrArg (fun t => t.server.pending) hview
    refine ⟨⟨fun _ => rfl, fun hne => absurd hpending hne, ?_⟩, ?_, fun hne => absurd hpending hne⟩
    · rintro ⟨o, ho, -⟩
      rw [hpending] at ho
      exact absurd ho List.not_mem_nil
    · rw [hpending', hpending]
      rfl
  · intro hne rounds hends g' s' hstands _
    refine ⟨hends.foretold hready hne, ?_, fun _ => ?_⟩
    · exact hstands.pending.trans (waiting_eq_filter hends hready)
    · obtain ⟨d, rfl, -⟩ := hends
      obtain ⟨history, rfl, -, hkeys⟩ := hstands.group
      calc history.keys = ((g.board s).after g.actor (d + 1)).log := by
            rw [hkeys, Board.held_after_succ]
        _ = s'.server.log := hstands.log.symm

theorem finish_converges_sample :
    Joined sampleMember sampleState ∧ sampleState.Calm ∧
      1 ≤ sampleMember.config.rotation.maxRounds.toNat ∧
      ∃ outcome g' s' trace,
        Operation.finish.run world 2 sampleMember sampleState =
            ⟨.finished (.ok outcome), g', s', trace⟩ ∧
          outcome = .completed 1 2 ∧ g'.record.history.keys = s'.server.log := by
  have hcalm : sampleState.Calm := ⟨rfl, rfl, rfl⟩
  have hrounds : 1 ≤ sampleMember.config.rotation.maxRounds.toNat := by decide
  have hdeep : depth sampleMember.record.history.keys sampleState.server.log
      sampleState.server.pending ⟨"second", "output"⟩ = 2 :=
    depth_of_log (by decide) (by decide)
  obtain ⟨outcome, g', s', trace, hrun, hforetold, -, hkeys⟩ :=
    finish_converges joined_sample hcalm hrounds (Nat.le_refl 2)
  refine ⟨joined_sample, hcalm, hrounds, outcome, g', s', trace, hrun, ?_, hkeys (by decide)⟩
  obtain ⟨rounds, hsup, houtcome⟩ := hforetold.complete (by decide) (by
    intro o ho
    rw [List.mem_singleton.mp ho, hdeep]
    exact Nat.ofNat_le_cast.mpr (by decide))
  have hsup' : (rounds : ℕ∞) = (2 : ℕ) := by
    rw [hsup, ← hdeep.trans (by rfl : (2 : ℕ∞) = (2 : ℕ))]
    simp only [sampleState, List.mem_singleton, iSup_iSup_eq_left]
  obtain rfl : rounds = 2 := ENat.natCast_inj.mp hsup'
  exact houtcome

end Keyring.Group
