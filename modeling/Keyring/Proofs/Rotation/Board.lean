import Keyring.Memory.Engine
import Keyring.Proofs.Memory.Log

namespace Keyring.Rotation

open Keyring.Memory

/-- The id of the key that an output gives. -/
def Output.derivedId (o : Output) : String :=
  Engine.rotatedKeyId o.preKeyId o.serverOutput

/-- Whether the start key of an output is among the keys held. -/
def knows (held : List Key) (o : Output) : Bool :=
  held.any (·.id == o.preKeyId)

/-- A log after an output has been resolved, if its start key is held. -/
def resolveInto (actor : Actor) (held log : List Key) (o : Output) : List Key :=
  match held.find? (·.id == o.preKeyId) with
  | some k => Server.enter log (Engine.rotatedKey k o actor)
  | none => log

/-- The standing of a finish run between two rounds. -/
structure Board where
  held : List Key
  log : List Key
  waiting : List Output

/-- A round: the outputs with known start keys are resolved, and the member fetches the log. -/
def Board.round (actor : Actor) (b : Board) : Board :=
  let log := b.waiting.foldl (resolveInto actor b.held) b.log
  ⟨log, log, b.waiting.filter (!knows b.held ·)⟩

def Board.after (actor : Actor) : Nat → Board → Board
  | 0, b => b
  | n + 1, b => after actor n (b.round actor)

/-- A board of a member whose keys are a prefix of a log. -/
structure Board.Ready (b : Board) : Prop where
  chronicle : Chronicle b.log
  held_within : b.held <+: b.log
  held_ne_nil : b.held ≠ []

section Resolve

variable {actor : Actor} {held log : List Key} {o : Output} {outputs : List Output}

theorem knows_iff : knows held o = true ↔ o.preKeyId ∈ Key.ids held :=
  Server.any_id_iff held o.preKeyId

theorem resolveInto_of_unknown (h : knows held o = false) : resolveInto actor held log o = log := by
  have hnone : held.find? (·.id == o.preKeyId) = none := by
    simpa [knows] using h
  rw [resolveInto, hnone]

theorem exists_resolveInto_eq (actor : Actor) (log : List Key) (h : knows held o = true) :
    ∃ k, held.find? (·.id == o.preKeyId) = some k ∧
      (Engine.rotatedKey k o actor).id = o.derivedId ∧
      resolveInto actor held log o = Server.enter log (Engine.rotatedKey k o actor) := by
  have hsome : (held.find? (·.id == o.preKeyId)).isSome = true := by
    rw [List.find?_isSome]
    simpa [knows] using h
  obtain ⟨k, hk⟩ := Option.isSome_iff_exists.mp hsome
  have hid : k.id = o.preKeyId := by simpa using List.find?_some hk
  refine ⟨k, hk, ?_, ?_⟩
  · rw [Output.derivedId, ← hid]
    rfl
  · rw [resolveInto, hk]

theorem prefix_resolveInto (actor : Actor) (held log : List Key) (o : Output) :
    log <+: resolveInto actor held log o := by
  cases h : knows held o with
  | false =>
      rw [resolveInto_of_unknown h]
  | true =>
      obtain ⟨k, -, -, heq⟩ := exists_resolveInto_eq actor log h
      rw [heq]
      exact Server.prefix_enter log _

theorem chronicle_resolveInto (hc : Chronicle log) :
    Chronicle (resolveInto actor held log o) := by
  cases h : knows held o with
  | false => rwa [resolveInto_of_unknown h]
  | true =>
      obtain ⟨k, -, -, heq⟩ := exists_resolveInto_eq actor log h
      rw [heq]
      exact Server.chronicle_enter hc _

theorem mem_ids_resolveInto (id : String) :
    id ∈ Key.ids (resolveInto actor held log o) ↔
      id ∈ Key.ids log ∨ (knows held o = true ∧ id = o.derivedId) := by
  cases h : knows held o with
  | false => simp [resolveInto_of_unknown h]
  | true =>
      obtain ⟨k, -, hid, heq⟩ := exists_resolveInto_eq actor log h
      rw [heq, Server.mem_ids_enter, hid]
      simp

theorem resolveInto_of_mem (h : o.derivedId ∈ Key.ids log) :
    resolveInto actor held log o = log := by
  cases hk : knows held o with
  | false => exact resolveInto_of_unknown hk
  | true =>
      obtain ⟨k, -, hid, heq⟩ := exists_resolveInto_eq actor log hk
      rw [heq, Server.enter_of_mem (hid ▸ h)]

theorem prefix_foldl_resolveInto (actor : Actor) (held log : List Key) (outputs : List Output) :
    log <+: outputs.foldl (resolveInto actor held) log := by
  induction outputs generalizing log with
  | nil => exact List.prefix_refl log
  | cons o rest ih => exact (prefix_resolveInto actor held log o).trans (ih _)

theorem chronicle_foldl_resolveInto (hc : Chronicle log) :
    Chronicle (outputs.foldl (resolveInto actor held) log) := by
  induction outputs generalizing log with
  | nil => exact hc
  | cons o rest ih => exact ih (chronicle_resolveInto hc)

theorem mem_ids_foldl_resolveInto (id : String) :
    id ∈ Key.ids (outputs.foldl (resolveInto actor held) log) ↔
      id ∈ Key.ids log ∨ ∃ o ∈ outputs, knows held o = true ∧ o.derivedId = id := by
  induction outputs generalizing log with
  | nil => simp
  | cons o rest ih =>
      rw [List.foldl_cons, ih, mem_ids_resolveInto]
      simp only [List.mem_cons, exists_eq_or_imp]
      constructor
      · rintro ((hlog | ⟨hk, rfl⟩) | hrest)
        · exact .inl hlog
        · exact .inr (.inl ⟨hk, rfl⟩)
        · exact .inr (.inr hrest)
      · rintro (hlog | ⟨hk, rfl⟩ | hrest)
        · exact .inl (.inl hlog)
        · exact .inl (.inr ⟨hk, rfl⟩)
        · exact .inr hrest

theorem foldl_resolveInto_filter (keep : Output → Bool) (outputs : List Output)
    (h : ∀ o ∈ outputs, keep o = false → ∀ log', log <+: log' →
      resolveInto actor held log' o = log') :
    (outputs.filter keep).foldl (resolveInto actor held) log =
      outputs.foldl (resolveInto actor held) log := by
  induction outputs generalizing log with
  | nil => rfl
  | cons o rest ih =>
      have hrest : ∀ log', log <+: log' → ∀ p ∈ rest, keep p = false → ∀ log'', log' <+: log'' →
          resolveInto actor held log'' p = log'' := fun log' hlog' p hp hkeep log'' hlog'' =>
        h p (by simp [hp]) hkeep log'' (hlog'.trans hlog'')
      cases hkeep : keep o with
      | true =>
          rw [List.filter_cons_of_pos hkeep, List.foldl_cons, List.foldl_cons]
          exact ih (hrest _ (prefix_resolveInto actor held log o))
      | false =>
          rw [List.filter_cons_of_neg (by simp [hkeep]), List.foldl_cons,
            h o (by simp) hkeep log (List.prefix_refl log)]
          exact ih (hrest log (List.prefix_refl log))

theorem foldl_resolveInto_foldl (outputs : List Output) :
    outputs.foldl (resolveInto actor held) (outputs.foldl (resolveInto actor held) log) =
      outputs.foldl (resolveInto actor held) log := by
  rw [← foldl_resolveInto_filter (fun _ => false) outputs]
  · simp
  · intro o ho _ log' hlog'
    cases hk : knows held o with
    | false => exact resolveInto_of_unknown hk
    | true =>
        have hmem : o.derivedId ∈ Key.ids (outputs.foldl (resolveInto actor held) log) :=
          (mem_ids_foldl_resolveInto o.derivedId).mpr (.inr ⟨o, ho, hk, rfl⟩)
        exact resolveInto_of_mem ((hlog'.map Key.id).subset hmem)

end Resolve

namespace Board

variable {actor : Actor} {b : Board}

theorem after_add (actor : Actor) (m n : Nat) (b : Board) :
    b.after actor (m + n) = (b.after actor m).after actor n := by
  induction m generalizing b with
  | zero => rw [Nat.zero_add, after]
  | succ m ih =>
      rw [Nat.succ_add, after, ih]
      rfl

theorem round_after (actor : Actor) (n : Nat) (b : Board) :
    (b.after actor n).round actor = b.after actor (n + 1) := by
  rw [after_add]
  rfl

theorem held_after_succ (actor : Actor) (n : Nat) (b : Board) :
    (b.after actor (n + 1)).held = (b.after actor (n + 1)).log := by
  rw [← round_after]
  rfl

theorem Ready.round (h : b.Ready) : (b.round actor).Ready where
  chronicle := chronicle_foldl_resolveInto h.chronicle
  held_within := List.prefix_refl _
  held_ne_nil := fun hnil =>
    h.held_ne_nil (List.prefix_nil.mp (hnil ▸ h.held_within.trans (prefix_foldl_resolveInto ..)))

theorem Ready.after (h : b.Ready) (n : Nat) : (b.after actor n).Ready := by
  induction n generalizing b with
  | zero => exact h
  | succ n ih => exact ih h.round

theorem log_prefix_round (actor : Actor) (b : Board) : b.log <+: (b.round actor).log :=
  prefix_foldl_resolveInto ..

theorem waiting_after_sublist (actor : Actor) (n : Nat) (b : Board) :
    (b.after actor n).waiting.Sublist b.waiting := by
  induction n generalizing b with
  | zero => exact List.Sublist.refl _
  | succ n ih => exact (ih (b.round actor)).trans List.filter_sublist

theorem waiting_after_eq_nil {m n : Nat} (h : (b.after actor m).waiting = []) (hle : m ≤ n) :
    (b.after actor n).waiting = [] := by
  obtain ⟨k, rfl⟩ := Nat.exists_eq_add_of_le hle
  have hsub := (b.after actor m).waiting_after_sublist actor k
  rw [← after_add, h] at hsub
  exact List.sublist_nil.mp hsub

theorem round_of_waiting_eq_nil (h : b.waiting = []) : b.round actor = ⟨b.log, b.log, []⟩ := by
  simp [Board.round, h]

theorem round_of_unknown (h : ∀ o ∈ b.waiting, knows b.held o = false) :
    b.round actor = ⟨b.log, b.log, b.waiting⟩ := by
  have hnone : b.waiting.filter (knows b.held) = [] :=
    List.filter_eq_nil_iff.mpr fun o ho => by simp [h o ho]
  have hall : b.waiting.filter (!knows b.held ·) = b.waiting :=
    List.filter_eq_self.mpr fun o ho => by simp [h o ho]
  have hlog : b.waiting.foldl (resolveInto actor b.held) b.log = b.log := by
    rw [← foldl_resolveInto_filter (knows b.held), hnone]
    · rfl
    · exact fun o _ hk _ _ => resolveInto_of_unknown hk
  rw [Board.round, hlog, hall]

theorem after_of_waiting_eq_nil (h : b.waiting = []) (hheld : b.held = b.log) (n : Nat) :
    b.after actor n = b := by
  have hround : b.round actor = b := by
    obtain ⟨held, log, waiting⟩ := b
    simp only at h hheld
    rw [round_of_waiting_eq_nil h, h, hheld]
  induction n with
  | zero => rfl
  | succ n ih => rw [after, hround, ih]

theorem after_eq_after {m n : Nat} (hm : (b.after actor (m + 1)).waiting = [])
    (hn : (b.after actor (n + 1)).waiting = []) :
    b.after actor (m + 1) = b.after actor (n + 1) := by
  have hle : ∀ m k, (b.after actor (m + 1)).waiting = [] →
      b.after actor (m + 1 + k) = b.after actor (m + 1) := fun m k h => by
    rw [after_add, after_of_waiting_eq_nil h (held_after_succ actor m b)]
  rcases Nat.le_total m n with h | h
  · obtain ⟨k, rfl⟩ := Nat.exists_eq_add_of_le h
    rw [← hle m k hm, Nat.add_right_comm]
  · obtain ⟨k, rfl⟩ := Nat.exists_eq_add_of_le h
    rw [← hle n k hn, Nat.add_right_comm]

/-- What is left of the waiting outputs on the server when the first of them have been gone
through. -/
def remaining (b : Board) (done : List Output) : List Output :=
  b.waiting.filter fun o => !(done.contains o && knows b.held o)

theorem remaining_nil (b : Board) : b.remaining [] = b.waiting := by
  simp [remaining]

theorem remaining_waiting (actor : Actor) (b : Board) :
    b.remaining b.waiting = (b.round actor).waiting := by
  apply List.filter_congr
  intro o ho
  simp [ho]

/-- Where a round stands when it is broken off after some outputs. -/
def brokenOff (actor : Actor) (b : Board) (done : List Output) : Board :=
  ⟨b.held, done.foldl (resolveInto actor b.held) b.log, b.remaining done⟩

theorem brokenOff_nil (actor : Actor) (b : Board) : b.brokenOff actor [] = b := by
  rw [brokenOff, remaining_nil]
  rfl

theorem Ready.brokenOff (h : b.Ready) (done : List Output) : (b.brokenOff actor done).Ready where
  chronicle := chronicle_foldl_resolveInto h.chronicle
  held_within := h.held_within.trans (prefix_foldl_resolveInto ..)
  held_ne_nil := h.held_ne_nil

/-- A round that was broken off leads, when it is made again, to where it would have led. -/
theorem round_brokenOff {done todo : List Output} (h : b.waiting = done ++ todo) :
    (b.brokenOff actor done).round actor = b.round actor := by
  have hlog : (b.remaining done).foldl (resolveInto actor b.held)
      (done.foldl (resolveInto actor b.held) b.log) =
        b.waiting.foldl (resolveInto actor b.held) b.log := by
    rw [remaining, foldl_resolveInto_filter, h, List.foldl_append, List.foldl_append,
      foldl_resolveInto_foldl]
    -- An output that the server has taken off its list has left its key in the log.
    intro o _ hgone log' hlog'
    simp only [Bool.not_eq_false', Bool.and_eq_true, List.contains_iff_mem] at hgone
    have hmem : o.derivedId ∈ Key.ids (done.foldl (resolveInto actor b.held) b.log) :=
      (mem_ids_foldl_resolveInto o.derivedId).mpr (.inr ⟨o, hgone.1, hgone.2, rfl⟩)
    exact resolveInto_of_mem ((hlog'.map Key.id).subset hmem)
  have hwaiting : (b.remaining done).filter (!knows b.held ·) =
      b.waiting.filter (!knows b.held ·) := by
    rw [remaining, List.filter_filter]
    apply List.filter_congr
    intro o _
    cases knows b.held o <;> simp
  simp only [Board.round, brokenOff, hlog, hwaiting]

theorem after_brokenOff {d : Nat} {done todo : List Output}
    (h : (b.after actor d).waiting = done ++ todo) (n : Nat) :
    ((b.after actor d).brokenOff actor done).after actor (n + 1) = b.after actor (d + (n + 1)) := by
  rw [after_add actor d (n + 1)]
  show (((b.after actor d).brokenOff actor done).round actor).after actor n = _
  rw [round_brokenOff h]
  rfl

theorem countP_knows_eq (actor : Actor) (b : Board) :
    b.waiting.countP (knows b.held) = b.waiting.length - (b.round actor).waiting.length := by
  have hsplit := List.length_eq_countP_add_countP (knows b.held) (l := b.waiting)
  have hrest : (b.round actor).waiting.length = b.waiting.countP fun o => ¬ knows b.held o := by
    rw [Board.round, ← List.countP_eq_length_filter]
    exact List.countP_congr fun o _ => by simp
  omega

end Board

end Keyring.Rotation
