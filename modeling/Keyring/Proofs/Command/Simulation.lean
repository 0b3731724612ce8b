import Keyring.Command.Run
import Keyring.Proofs.Group.Convergence
import Keyring.Proofs.Group.Delivery
import Keyring.Proofs.Key.Samples
import Keyring.Proofs.Rotation.Chain

namespace Keyring.Simulation

open Memory Rotation

def newestId (lagging : Nat) : String :=
  Key.sampleId (history + lagging - 1)

/-- The board from which a simulated run starts. -/
def board (pending missing lagging : Nat) : Board :=
  ⟨Key.samples history, (server pending missing lagging).log,
    (server pending missing lagging).pending⟩

/-- The board of a member that has all keys of the log. -/
def caughtUp (pending missing lagging : Nat) : Board :=
  { board pending missing lagging with held := Key.samples (history + lagging) }

/-- The rounds before the first output is resolved: one if the member does not have all keys. -/
def roundsBehind (lagging : Nat) : Nat :=
  if 0 < lagging then 1 else 0

section Rounds

variable (actor : Actor) (pending missing lagging : Nat)

theorem waiting_board : (board pending missing lagging).waiting =
    (chain (newestId lagging) 0 pending).reverse ++ lost missing :=
  rfl

theorem within_samples {n : Nat} (hn : n ≤ history + lagging) :
    Within (newestId lagging) (Key.samples n) := by
  constructor
  · intro i hi
    obtain ⟨j, hj, rfl⟩ := Key.mem_ids_samples.mp hi
    exact Key.length_sampleId_le (by omega)
  · intro i hi
    obtain ⟨j, -, rfl⟩ := Key.mem_ids_samples.mp hi
    simp [Key.sampleId, String.toList_append]

theorem linked_caughtUp :
    Linked (caughtUp pending missing lagging) (newestId lagging) 0 pending missing where
  held_eq := rfl
  waiting_eq := rfl
  within := within_samples lagging (le_refl _)
  mem := Key.mem_ids_samples.mpr ⟨history + lagging - 1, by unfold history; omega, rfl⟩

theorem length_log_caughtUp : (caughtUp pending missing lagging).log.length = history + lagging :=
  Key.length_samples _

theorem round_board (h : 0 < lagging) : (board pending missing lagging).round actor =
    caughtUp pending missing lagging := by
  have hwithin : Within (newestId lagging) (Key.samples history) :=
    within_samples lagging (Nat.le_add_right _ _)
  have hnew : newestId lagging ∉ Key.ids (Key.samples history) := by
    intro hmem
    obtain ⟨i, hi, heq⟩ := Key.mem_ids_samples.mp hmem
    have hnumber : i = history + lagging - 1 := Key.sampleId_injective heq
    omega
  apply Board.round_of_unknown
  -- The chain starts from the newest key of the server, which the member does not have yet.
  intro o ho
  rw [waiting_board] at ho
  rcases List.mem_append.mp ho with ho | ho
  · exact hwithin.knows_of_mem_chain hnew (List.mem_reverse.mp ho)
  · exact hwithin.knows_of_mem_lost ho

theorem after_board (rounds : Nat) :
    ((board pending missing lagging).after actor rounds).waiting =
        ((chain (newestId lagging) 0 pending).drop (rounds - roundsBehind lagging)).reverse ++
          lost missing ∧
      ((board pending missing lagging).after actor rounds).log.length =
        history + lagging + min (rounds - roundsBehind lagging) pending := by
  by_cases hbehind : 0 < lagging
  · rw [roundsBehind, if_pos hbehind]
    cases rounds with
    | zero =>
        rw [Nat.zero_sub, Nat.zero_min]
        exact ⟨rfl, length_log_caughtUp pending missing lagging⟩
    | succ rounds =>
        rw [Board.after, round_board actor pending missing lagging hbehind, Nat.add_sub_cancel,
          ← length_log_caughtUp pending missing lagging]
        exact (linked_caughtUp pending missing lagging).after actor rounds
  · obtain rfl : lagging = 0 := by omega
    rw [← length_log_caughtUp pending missing 0]
    exact (linked_caughtUp pending missing 0).after actor rounds

theorem fetchCount_board {threshold : UInt64} (hthreshold : 1 ≤ threshold.toNat) {rounds : Nat}
    (hrounds : 1 ≤ rounds) :
    Group.fetchCount threshold actor rounds (board pending missing lagging) =
      if threshold.toNat < lagging then rounds + 1 else rounds := by
  have hcaughtUp := (linked_caughtUp pending missing lagging).fetchCount_eq actor hthreshold
  by_cases hbehind : 0 < lagging
  · obtain ⟨later, rfl⟩ := Nat.exists_eq_add_of_le' hrounds
    have hfound : (caughtUp pending missing lagging).log.length -
        (board pending missing lagging).held.length = lagging := by
      rw [length_log_caughtUp, board, Key.length_samples, Nat.add_sub_cancel_left]
    rw [Group.fetchCount, round_board actor pending missing lagging hbehind, hcaughtUp, hfound,
      Group.fetchesFor]
    split <;> omega
  · obtain rfl : lagging = 0 := by omega
    rw [if_neg (Nat.not_lt_zero _)]
    exact hcaughtUp rounds

theorem waiting_after_eq_nil_iff (rounds : Nat) :
    ((board pending missing lagging).after actor rounds).waiting = [] ↔
      missing = 0 ∧ pending ≤ rounds - roundsBehind lagging := by
  rw [(after_board actor pending missing lagging rounds).1, List.append_eq_nil_iff,
    List.reverse_eq_nil_iff, List.drop_eq_nil_iff, length_chain, lost_eq_nil_iff, and_comm]

end Rounds

/-- What a simulated run comes to. -/
structure Summary where
  complete : Bool
  rounds : Nat
  resolved : Nat
  /-- The start keys of the outputs that still wait. -/
  unresolved : List String
  fetchCalls : Nat
  localKeys : Nat
  deriving DecidableEq

def Summary.toJson (c : Summary) : Json :=
  .record [
    ("complete", .bool c.complete),
    ("fetch_calls", .natural c.fetchCalls),
    ("local_keys", .natural c.localKeys),
    ("resolved", .natural c.resolved),
    ("rounds", .natural c.rounds),
    ("unresolved_pre_keys", .array (c.unresolved.map .text))]

/-- What a run comes to that may take `limit` rounds. The outputs of the chain are resolved one a
round, oldest first, and those that remain are listed newest first; a lost output is never
resolved. -/
def summary (limit threshold pending missing lagging : Nat) : Summary :=
  if pending = 0 ∧ missing = 0 then
    { complete := true, rounds := 0, resolved := 0, unresolved := [], fetchCalls := 0,
      localKeys := history }
  else
    let complete := decide (missing = 0 ∧ pending + roundsBehind lagging ≤ limit)
    let rounds := if complete then pending + roundsBehind lagging else limit
    let resolved := min pending (limit - roundsBehind lagging)
    { complete, rounds, resolved
      unresolved :=
        (((chain (newestId lagging) 0 pending).drop resolved).reverse.map fun o => o.preKeyId) ++
          (List.range missing).map fun i => "missing-" ++ Decimal.render i
      fetchCalls := if threshold < lagging then rounds + 1 else rounds
      localKeys := history + lagging + resolved }

/-- Whether a summary is that of a run with this outcome. -/
structure Summary.Describes (c : Summary) (outcome : Outcome) (fetchCalls localKeys : Nat) :
    Prop where
  complete : outcome.isComplete = c.complete
  rounds : outcome.rounds = c.rounds
  resolved : outcome.resolved = c.resolved
  unresolved : outcome.unresolved.map (fun o => o.preKeyId) = c.unresolved
  fetchCalls : fetchCalls = c.fetchCalls
  localKeys : localKeys = c.localKeys

section Summary

variable {g : Group} {limit pending missing lagging rounds : Nat}

theorem rounds_eq (hlimit : limit = g.furtherRounds + 1) (hne : ¬ (pending = 0 ∧ missing = 0))
    (h : g.EndsWith (board pending missing lagging) rounds) :
    rounds = if missing = 0 ∧ pending + roundsBehind lagging ≤ limit then
      pending + roundsBehind lagging else limit := by
  obtain ⟨d, rfl, hd, hbefore, hend⟩ := h
  simp only [ne_eq, waiting_after_eq_nil_iff] at hbefore hend
  -- Something waited after every round but the last; then nothing did, or the limit was reached.
  split
  · rename_i hall
    have hearliest : d + 1 ≤ pending + roundsBehind lagging := by
      by_contra hlater
      exact hbefore (pending + roundsBehind lagging - 1) (by omega) ⟨hall.1, by omega⟩
    rcases hend with ⟨-, hle⟩ | rfl
    · omega
    · omega
  · rename_i hsome
    rcases hend with ⟨hmissing, hle⟩ | rfl
    · exact absurd ⟨hmissing, by omega⟩ hsome
    · exact hlimit.symm

theorem describes_summary (hlimit : limit = g.furtherRounds + 1)
    (hne : ¬ (pending = 0 ∧ missing = 0)) {threshold : UInt64} (hthreshold : 1 ≤ threshold.toNat)
    (h : g.EndsWith (board pending missing lagging) rounds) :
    (summary limit threshold.toNat pending missing lagging).Describes
      (Group.outcomeAfter g.actor (board pending missing lagging) rounds)
      (Group.fetchCount threshold g.actor rounds (board pending missing lagging))
      ((board pending missing lagging).after g.actor rounds).held.length := by
  have hrounds := rounds_eq hlimit hne h
  obtain ⟨d, rfl, hd, -⟩ := h
  obtain ⟨hwaiting, hlength⟩ := after_board g.actor pending missing lagging (d + 1)
  have hcomplete : ((board pending missing lagging).after g.actor (d + 1)).waiting.isEmpty =
      decide (missing = 0 ∧ pending + roundsBehind lagging ≤ limit) := by
    rw [Bool.eq_iff_iff, List.isEmpty_iff, waiting_after_eq_nil_iff, decide_eq_true_iff]
    split at hrounds <;> omega
  have hresolved : min (d + 1 - roundsBehind lagging) pending =
      min pending (limit - roundsBehind lagging) := by
    split at hrounds <;> omega
  -- The summary counts what was resolved up to the end of the chain, the board goes on past it.
  have hleft := drop_min_chain (newestId lagging) 0 pending (d + 1 - roundsBehind lagging)
  rw [hresolved] at hleft
  have houtcome : Group.outcomeAfter g.actor (board pending missing lagging) (d + 1) =
      Group.outcomeWith (pending + missing -
          ((board pending missing lagging).after g.actor (d + 1)).waiting.length) (d + 1)
        ((board pending missing lagging).after g.actor (d + 1)).waiting := by
    have htotal : (board pending missing lagging).waiting.length = pending + missing := by
      rw [waiting_board, List.length_append, List.length_reverse, length_chain, length_lost]
    rw [← htotal]
    rfl
  rw [houtcome, summary, if_neg hne]
  constructor
  · rw [Group.outcomeWith_isComplete, hcomplete]
  · simp only [Group.outcomeWith_rounds, decide_eq_true_eq]
    exact hrounds
  · rw [Group.outcomeWith_resolved, hwaiting, List.length_append, List.length_reverse,
      List.length_drop, length_chain, length_lost]
    simp only
    omega
  · rw [Group.outcomeWith_unresolved, hwaiting, ← hleft, List.map_append]
    simp only [lost, List.map_map]
    rfl
  · rw [fetchCount_board g.actor pending missing lagging hthreshold (Nat.le_add_left 1 d)]
    simp only [decide_eq_true_eq]
    rw [← hrounds]
  · rw [Board.held_after_succ, hlength, hresolved]

end Summary

section Run

variable {config : Config}

theorem joined_server {lagging : Nat} (hfits : history + lagging < 2 ^ 64)
    (pending missing : Nat) {g : Group} (hgroup : group config = .ok g) :
    Group.Joined g { server := server pending missing lagging } ∧
      g.board { server := server pending missing lagging } = board pending missing lagging ∧
      g.config = config := by
  have hc : Chronicle (Key.samples history) := Key.chronicle_samples (by decide)
  rw [group, History.ofKeys_eq hc] at hgroup
  obtain rfl := Except.ok.inj hgroup
  refine ⟨⟨.inl rfl, History.Sound.ofKeys hc, ?_, Key.samples_prefix history lagging,
    Key.chronicle_samples hfits.le, rfl, rfl⟩, rfl, rfl⟩
  exact List.cons_ne_nil _ _

theorem exists_group (config : Config) : ∃ g, group config = .ok g := by
  rw [group, History.ofKeys_eq (Key.chronicle_samples (by decide))]
  exact ⟨_, rfl⟩

/-- A simulated run comes to an end, and to what its summary says. -/
theorem run_describes (hvalid : config.validate = .ok ()) {lagging : Nat}
    (hfits : history + lagging < 2 ^ 64) (pending missing : Nat) {g : Group}
    (hgroup : group config = .ok g) :
    ∃ outcome g' s trace, run g pending missing lagging = ⟨.finished (.ok outcome), g', s, trace⟩ ∧
      (summary config.rotation.maxRounds.toNat config.keys.fetchThreshold.toNat pending missing
        lagging).Describes outcome s.server.cursors.length g'.record.history.size := by
  obtain ⟨hjoined, hboard, rfl⟩ := joined_server hfits pending missing hgroup
  obtain ⟨-, hthreshold, hrounds, hlimit, -, -⟩ := (Config.validate_eq_ok_iff _).mp hvalid
  obtain ⟨outcome, g', s, trace, hrun, hfetches, hnoop, hfinished⟩ :=
    Group.exists_ranInTime hjoined hlimit rfl rfl rfl (show 2 ≤ 3 by decide)
  refine ⟨outcome, g', s, trace, hrun, ?_⟩
  rw [hboard] at hfetches hfinished
  by_cases hempty : pending = 0 ∧ missing = 0
  · obtain ⟨rfl, rfl⟩ := hempty
    obtain ⟨rfl, hhistory⟩ := hnoop rfl
    have hkeys : g.record.history.keys = Key.samples history := congrArg Board.held hboard
    rw [summary, if_pos ⟨rfl, rfl⟩]
    refine ⟨rfl, rfl, rfl, rfl, hfetches, ?_⟩
    rw [hhistory, History.size, hkeys, Key.length_samples]
  · have hwaiting : (board pending missing lagging).waiting ≠ [] := by
      rw [waiting_board, ne_eq, List.append_eq_nil_iff, List.reverse_eq_nil_iff, lost_eq_nil_iff,
        ← List.length_eq_zero_iff, length_chain]
      exact hempty
    obtain ⟨rounds, hends, rfl, hkeys⟩ := hfinished hwaiting
    have hone : g.config.rotation.maxRounds.toNat = g.furtherRounds + 1 := by
      have hpositive : g.config.rotation.maxRounds.toNat ≠ 0 :=
        fun hzero => hrounds (UInt32.toNat_inj.mp hzero)
      rw [Group.furtherRounds]
      omega
    have hpositive : 1 ≤ g.config.keys.fetchThreshold.toNat :=
      Nat.one_le_iff_ne_zero.mpr fun hzero => hthreshold (UInt64.toNat_inj.mp hzero)
    have hdescribes := describes_summary hone hempty hpositive hends
    rw [Group.rounds_outcomeAfter] at hfetches
    refine ⟨hdescribes.complete, hdescribes.rounds, hdescribes.resolved, hdescribes.unresolved, ?_,
      ?_⟩
    · rw [hfetches, ← hdescribes.fetchCalls]
      exact Nat.zero_add _
    · rw [History.size, hkeys]
      exact hdescribes.localKeys

end Run

/-- What the command writes about a run, and the complaint with which it fails: it fails if it is
strict and the run is not complete. -/
def Summary.output (c : Summary) (strict : Bool) (log : List Signal → List String)
    (before : List Signal) : Command.Output where
  out := log before ++ (c.toJson.pretty ++ "\n") ::
    if c.complete then [] else log [.notice (.simulationIncomplete c.unresolved.length)]
  complaint :=
    if strict && !c.complete then
      some ⟨(Failure.rotationIncomplete c.unresolved.length c.rounds).message, none⟩
    else none

namespace Summary.Describes

variable {c : Summary} {outcome : Outcome} {fetchCalls localKeys : Nat}
  (h : c.Describes outcome fetchCalls localKeys)

include h

theorem length_unresolved : outcome.unresolved.length = c.unresolved.length := by
  rw [← h.unresolved, List.length_map]

theorem toJson_eq {r : Run Group State (Except Failure Outcome)}
    (hfetches : fetchCalls = r.world.server.cursors.length)
    (hkeys : localKeys = r.state.record.history.size) :
    Simulation.toJson outcome r = c.toJson := by
  rw [Simulation.toJson, Summary.toJson, h.complete, ← hfetches, h.fetchCalls, ← hkeys,
    h.localKeys, h.resolved, h.rounds, ← h.unresolved, List.map_map]
  rfl

theorem ensureComplete_eq : outcome.ensureComplete =
    if c.complete then .ok outcome
    else .error (.rotationIncomplete c.unresolved.length c.rounds) := by
  rw [← h.complete, ← h.rounds, ← h.length_unresolved]
  cases outcome with
  | completed resolved rounds => rfl
  | incomplete resolved rounds outputs => rfl

end Summary.Describes

/-- The command writes the summary of the run, and fails if it is strict and the run is not
complete. -/
theorem perform_simulateRotation {config : Config} (hvalid : config.validate = .ok ())
    (log : List Signal → List String) (pending missing lagging : UInt64) (strict : Bool)
    (hfits : history + lagging.toNat < 2 ^ 64) :
    ∃ before, Command.perform config log
        (some (.simulateRotation pending missing lagging strict)) =
      (summary config.rotation.maxRounds.toNat config.keys.fetchThreshold.toNat pending.toNat
        missing.toNat lagging.toNat).output strict log before := by
  obtain ⟨g, hgroup⟩ := exists_group config
  obtain ⟨outcome, g', s, trace, hrun, h⟩ :=
    run_describes hvalid hfits pending.toNat missing.toNat hgroup
  refine ⟨preparation ++ .notice (.simulationStarted pending.toNat missing.toNat lagging.toNat) ::
    trace.filterMap Event.signal?, ?_⟩
  simp only [Command.perform, hgroup, hrun]
  rw [Summary.output, h.toJson_eq rfl rfl, h.ensureComplete_eq, h.complete, h.length_unresolved]
  congr 1
  cases (summary _ _ _ _ _).complete with
  | true => simp
  | false => cases strict <;> rfl

theorem perform_simulateRotation_lost :
    ({} : Config).validate = .ok () ∧ history + (3 : UInt64).toNat < 2 ^ 64 ∧
      ∃ before, Command.perform {} (fun _ => []) (some (.simulateRotation 2 1 3 true)) =
        Summary.output ⟨false, 10, 2, ["missing-0"], 10, 10⟩ true (fun _ => []) before := by
  have hvalid : ({} : Config).validate = .ok () := by decide
  have hfits : history + (3 : UInt64).toNat < 2 ^ 64 := by decide
  have hsummary : summary ({} : Config).rotation.maxRounds.toNat
      ({} : Config).keys.fetchThreshold.toNat (2 : UInt64).toNat (1 : UInt64).toNat
        (3 : UInt64).toNat = ⟨false, 10, 2, ["missing-0"], 10, 10⟩ := by
    decide +kernel
  have h := perform_simulateRotation hvalid (fun _ => []) 2 1 3 true hfits
  rw [hsummary] at h
  exact ⟨hvalid, hfits, h⟩

end Keyring.Simulation
