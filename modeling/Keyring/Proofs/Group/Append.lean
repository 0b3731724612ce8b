import Keyring.Key.Sample
import Keyring.Memory.World
import Keyring.Proofs.Group.Fetch
import Keyring.Proofs.History.Misfit

namespace Keyring.Group

variable {S : Type} {g : Group}

/-- What has become of a member's group when a batch of keys was to be added. -/
structure Appended (g : Group) (batch : List Key) (ending : Ending (Except Failure Nat))
    (g' : Group) : Prop where
  accepted : ending = .finished (.ok batch.length) ↔ Extends g.record.history.keys batch
  grown : Extends g.record.history.keys batch → ∃ h : History, g' = g.withHistory h ∧ h.Sound ∧
    h.keys = g.record.history.keys ++ batch ∧
    (∀ id i, g.record.history.lookup id = some i → h.lookup id = some i) ∧
    ∀ id k, g.record.history.get? id = some k → h.get? id = some k
  refused : ¬ Extends g.record.history.keys batch → g' = g ∧ ∃ position e,
    FirstMisfit g.record.history.keys batch position e ∧ ending = .finished (.error e)

/-- A batch is added as a whole, or refused for its first misfit, and nothing has changed then. -/
theorem append_exact (hsound : g.record.history.Sound) (batch : List Key) (w : World S)
    (fuel : Nat) (s : S) :
    Appended g batch ((append batch).run.run w fuel g s).ending
      ((append batch).run.run w fuel g s).state := by
  refine (Attempt.meets_ending (R := fun ending g' _ => Appended g batch ending g')).mp
    ((ensures_append batch).mpr ?_)
  by_cases hextends : Extends g.record.history.keys batch
  · rw [(hsound.append_eq_ok_iff batch).mpr hextends]
    exact {
      accepted := iff_of_true rfl hextends
      grown := fun _ => ⟨_, rfl, hsound.extend ((extends_iff_chronicle hsound.chronicle).mp hextends),
        rfl, fun _ _ => hsound.lookup_extend hextends, fun _ _ => hsound.get?_extend hextends⟩
      refused := fun hnot => absurd hextends hnot }
  · obtain ⟨position, e, hfirst, happend⟩ := hsound.append_of_not_extends hextends
    rw [happend]
    exact {
      accepted := iff_of_false (fun h => nomatch h) hextends
      grown := fun h => absurd h hextends
      refused := fun _ => ⟨rfl, position, e, hfirst, rfl⟩ }

/-- A member who holds some keys. -/
def holder (keys : List Key) : Group where
  record := .make "team" 0 (.extend .empty keys)
  actor := ⟨"user", "public", "private", "token"⟩
  config := {}

theorem sound_holder {keys : List Key} (hc : Chronicle keys) :
    (holder keys).record.history.Sound :=
  .ofKeys hc

/-- A batch whose second key is older than its first one. -/
def unsorted : List Key :=
  [.sample "new" 9, .sample "late" 5, .sample "first" 10]

theorem firstMisfit_unsorted : FirstMisfit [.sample "first" 1] unsorted 1
    (.keyOutOfOrder "late" 5 9) where
  misfit := by
    have hlast : [Key.sample "first" 1, .sample "new" 9].getLast? = some (.sample "new" 9) := rfl
    exact ⟨.sample "late" 5, rfl, .late (by decide) hlast (by decide)⟩
  fits := by
    intro i k hi hk e hmisfit
    obtain rfl : i = 0 := by omega
    obtain rfl : Key.sample "new" 9 = k := Option.some.inj hk
    cases hmisfit with
    | repeated hknown => exact absurd hknown (by decide)
    | @late last _ hlast hlate =>
        obtain rfl : Key.sample "first" 1 = last := Option.some.inj hlast
        exact absurd hlate (by decide)

theorem append_exact_unsorted :
    let g := holder [.sample "first" 1]
    let r := (append unsorted).run.run Memory.world 0 g {}
    g.record.history.Sound ∧ r.state = g ∧
      r.ending = .finished (.error (.keyOutOfOrder "late" 5 9)) := by
  have hsound : (holder [.sample "first" 1]).record.history.Sound :=
    sound_holder ⟨by decide, by decide⟩
  have hnot : ¬ Extends [.sample "first" 1] unsorted := fun h => absurd h.ordered (by decide)
  obtain ⟨hstate, position, e, hfirst, hending⟩ :=
    (append_exact hsound unsorted Memory.world 0 {}).refused hnot
  obtain ⟨-, rfl⟩ := hfirst.unique firstMisfit_unsorted
  exact ⟨hsound, hstate, hending⟩

end Keyring.Group
