import Mathlib.Data.List.Nodup
import Keyring.Group.Basic
import Keyring.Proofs.Program.Recorded
import Keyring.Proofs.Rotation.Board

/-!
The course of a finish run: what it did with the outputs in each of its rounds, read off its
calls. Outputs are told apart by where they stand in the pending list, since that list may have
one output twice.
-/

namespace Keyring.Group

open Keyring.Rotation

/-- What became of an output whose start key is held. -/
inductive Fate where
  /-- There is no key: the derivation failed, or was cut. -/
  | underived (e : Option Failure)
  /-- There is a key, and its commit was answered or cut. -/
  | derived (key : Key) (reply : Option (Except Failure Unit))

/-- An output whose start key is held, and what a run did with it. -/
structure Handling where
  output : Output
  /-- Where the output stands in the pending list. -/
  position : Nat
  startKey : Key
  fate : Fate

namespace Handling

def place (h : Handling) : Output × Nat :=
  (h.output, h.position)

/-- The derivation from the start key, and if it gives a key, the commit of that key. -/
def calls (g : Group) (h : Handling) : List Event :=
  match h.fate with
  | .underived e => [.ofReply (.deriveKey h.startKey h.output g.actor) (e.map .error)]
  | .derived key reply =>
    [.called (.deriveKey h.startKey h.output g.actor) (.ok key),
      .ofReply (.commitKey g.actor.token g.record.groupId h.output key) reply]

/-- Whether a key was derived and committed. -/
def Resolved (h : Handling) : Prop :=
  ∃ key, h.fate = .derived key (some (.ok ()))

end Handling

/-- What a run did in a round. -/
structure Round where
  handled : List Handling
  fetches : List FetchCall

namespace Round

def positions (r : Round) : List Nat :=
  r.handled.map Handling.position

def calls (g : Group) (r : Round) : List Event :=
  r.handled.flatMap (Handling.calls g) ++
    r.fetches.map (FetchCall.event g.actor.token g.record.groupId)

/-- The keys that a round fetches. -/
def brought (r : Round) : List Key :=
  r.fetches.flatMap FetchCall.keys

end Round

/-- The keys held after keys have been fetched: those with a known id are skipped. -/
def learn (held fetched : List Key) : List Key :=
  held ++ fetched.filter fun k => !(Key.ids held).contains k.id

/-- The keys held after some rounds. -/
def heldAfter (held : List Key) (rounds : List Round) : List Key :=
  rounds.foldl (fun held r => learn held r.brought) held

/-- The outputs that have not been handled in some rounds, with their positions. -/
def waitingAfter (pending : List Output) (rounds : List Round) : List (Output × Nat) :=
  pending.zipIdx.filter fun p => !(rounds.flatMap Round.positions).contains p.2

/-- The number of outputs handled in some rounds. -/
def handledCount (rounds : List Round) : Nat :=
  (rounds.flatMap Round.handled).length

/-- The waiting outputs whose start key is held. -/
def ready (held : List Key) (waiting : List (Output × Nat)) : List (Output × Nat) :=
  waiting.filter fun p => knows held p.1

/-- Outputs handled in a round, as far as the round went: an output follows another only once that
one is resolved. -/
structure Begun (held : List Key) (waiting : List (Output × Nat)) (handled : List Handling) :
    Prop where
  places : handled.map Handling.place <+: ready held waiting
  startKey : ∀ h ∈ handled, h.startKey ∈ held ∧ h.startKey.id = h.output.preKeyId
  resolved : ∀ h ∈ handled.dropLast, h.Resolved

/-- Outputs handled in a round that has come to its end. -/
structure Whole (held : List Key) (waiting : List (Output × Nat)) (handled : List Handling) :
    Prop where
  places : handled.map Handling.place = ready held waiting
  startKey : ∀ h ∈ handled, h.startKey ∈ held ∧ h.startKey.id = h.output.preKeyId
  resolved : ∀ h ∈ handled, h.Resolved

/-- Rounds that have come to their end, one after the other. -/
inductive Course (held : List Key) (pending : List Output) : List Round → Prop where
  | start : Course held pending []
  | round {rounds : List Round} (r : Round) (before : Course held pending rounds)
      (whole : Whole (heldAfter held rounds) (waitingAfter pending rounds) r.handled) :
      Course held pending (rounds ++ [r])

variable {held : List Key} {pending : List Output} {waiting : List (Output × Nat)}
  {handled : List Handling} {rounds : List Round} {r : Round}

section Handlings

theorem Whole.begun (h : Whole held waiting handled) : Begun held waiting handled :=
  ⟨h.places ▸ List.prefix_refl _, h.startKey, fun a ha => h.resolved a (List.dropLast_subset _ ha)⟩

theorem ready_cons_of_knows {p : Output × Nat} (hk : knows held p.1 = true) :
    ready held (p :: waiting) = p :: ready held waiting :=
  List.filter_cons_of_pos hk

theorem ready_cons_of_unknown {p : Output × Nat} (hk : knows held p.1 = false) :
    ready held (p :: waiting) = ready held waiting :=
  List.filter_cons_of_neg (by simp [hk])

theorem Whole.nil : Whole held [] [] :=
  ⟨rfl, by simp, by simp⟩

theorem Whole.skip {p : Output × Nat} (h : Whole held waiting handled)
    (hk : knows held p.1 = false) : Whole held (p :: waiting) handled :=
  ⟨(ready_cons_of_unknown hk).symm ▸ h.places, h.startKey, h.resolved⟩

theorem Begun.skip {p : Output × Nat} (h : Begun held waiting handled)
    (hk : knows held p.1 = false) : Begun held (p :: waiting) handled :=
  ⟨(ready_cons_of_unknown hk).symm ▸ h.places, h.startKey, h.resolved⟩

variable {a : Handling} (hkey : a.startKey ∈ held) (hid : a.startKey.id = a.output.preKeyId)

include hkey hid

theorem knows_of_startKey : knows held a.place.1 = true := by
  rw [knows_iff]
  exact List.mem_map.mpr ⟨a.startKey, hkey, hid⟩

theorem Whole.cons (h : Whole held waiting handled) (ha : a.Resolved) :
    Whole held (a.place :: waiting) (a :: handled) := by
  refine ⟨?_, ?_, ?_⟩
  · rw [List.map_cons, h.places, ready_cons_of_knows (knows_of_startKey hkey hid)]
  · simpa using ⟨⟨hkey, hid⟩, h.startKey⟩
  · simpa using ⟨ha, h.resolved⟩

theorem Begun.cons (h : Begun held waiting handled) (ha : a.Resolved) :
    Begun held (a.place :: waiting) (a :: handled) := by
  refine ⟨?_, ?_, ?_⟩
  · rw [List.map_cons, ready_cons_of_knows (knows_of_startKey hkey hid)]
    exact List.cons_prefix_cons.mpr ⟨rfl, h.places⟩
  · simpa using ⟨⟨hkey, hid⟩, h.startKey⟩
  · intro b hb
    cases handled with
    | nil => simp at hb
    | cons c rest =>
        rcases List.mem_cons.mp hb with rfl | hb
        · exact ha
        · exact h.resolved b hb

theorem Begun.single : Begun held (a.place :: waiting) [a] := by
  refine ⟨?_, ?_, by simp⟩
  · rw [ready_cons_of_knows (knows_of_startKey hkey hid)]
    exact List.cons_prefix_cons.mpr ⟨rfl, List.nil_prefix⟩
  · simpa using ⟨hkey, hid⟩

end Handlings

section Places

theorem heldAfter_snoc : heldAfter held (rounds ++ [r]) = learn (heldAfter held rounds) r.brought := by
  simp [heldAfter]

theorem handledCount_snoc (rounds : List Round) (r : Round) :
    handledCount (rounds ++ [r]) = handledCount rounds + r.handled.length := by
  simp [handledCount]

theorem Begun.positions_sublist (h : Begun held waiting r.handled) :
    r.positions.Sublist (waiting.map Prod.snd) := by
  have hmap : r.positions = (r.handled.map Handling.place).map Prod.snd := by
    simp [Round.positions, Handling.place]
  rw [hmap]
  exact (h.places.sublist.trans List.filter_sublist).map Prod.snd

theorem waitingAfter_sublist (pending : List Output) (rounds : List Round) :
    (waitingAfter pending rounds).Sublist pending.zipIdx :=
  List.filter_sublist

theorem positions_waitingAfter_sublist (pending : List Output) (rounds : List Round) :
    ((waitingAfter pending rounds).map Prod.snd).Sublist (List.range pending.length) := by
  have h := (waitingAfter_sublist pending rounds).map Prod.snd
  rwa [List.zipIdx_map_snd, ← List.range_eq_range'] at h

theorem getElem?_of_mem_waitingAfter {p : Output × Nat} (hp : p ∈ waitingAfter pending rounds) :
    pending[p.2]? = some p.1 := by
  have hmem := (waitingAfter_sublist pending rounds).subset hp
  simpa using List.mem_zipIdx_iff_getElem?.mp hmem

theorem not_mem_of_mem_waitingAfter {p : Output × Nat} (hp : p ∈ waitingAfter pending rounds) :
    p.2 ∉ rounds.flatMap Round.positions := by
  have hnew := (List.mem_filter.mp hp).2
  simpa using hnew

theorem Begun.mem_waiting (h : Begun held waiting handled) {a : Handling} (ha : a ∈ handled) :
    a.place ∈ waiting :=
  (List.mem_filter.mp (h.places.subset (List.mem_map_of_mem ha))).1

theorem Whole.waitingAfter_snoc
    (h : Whole held (waitingAfter pending rounds) r.handled) :
    waitingAfter pending (rounds ++ [r]) =
      (waitingAfter pending rounds).filter fun p => !knows held p.1 := by
  have hhandled : ∀ p ∈ waitingAfter pending rounds, p.2 ∈ r.positions ↔ knows held p.1 = true := by
    intro p hp
    constructor
    · intro hmem
      obtain ⟨a, ha, hposition⟩ := List.mem_map.mp hmem
      have hready : a.place ∈ ready held (waitingAfter pending rounds) :=
        h.places ▸ List.mem_map_of_mem ha
      have hsame := getElem?_of_mem_waitingAfter (List.mem_filter.mp hready).1
      have hplace : a.place.2 = p.2 := hposition
      rw [hplace, getElem?_of_mem_waitingAfter hp, Option.some.injEq] at hsame
      rw [hsame]
      exact (List.mem_filter.mp hready).2
    · intro hk
      have hready : p ∈ r.handled.map Handling.place :=
        h.places ▸ List.mem_filter.mpr ⟨hp, hk⟩
      obtain ⟨a, ha, rfl⟩ := List.mem_map.mp hready
      exact List.mem_map_of_mem ha
  have hsplit : waitingAfter pending (rounds ++ [r]) =
      (waitingAfter pending rounds).filter fun p => !r.positions.contains p.2 := by
    simp only [waitingAfter, List.filter_filter]
    apply List.filter_congr
    intro p _
    simp [Bool.and_comm]
  rw [hsplit]
  apply List.filter_congr
  intro p hp
  rw [Bool.eq_iff_iff]
  simp [hhandled p hp]

end Places

/-- What the rounds of a run do with the pending outputs. -/
structure Fair (held : List Key) (pending : List Output) (rounds : List Round) : Prop where
  once : (rounds.flatMap Round.positions).Nodup
  ascending : ∀ r ∈ rounds, r.positions.Pairwise (· < ·)
  placed : ∀ r ∈ rounds, ∀ h ∈ r.handled, pending[h.position]? = some h.output
  startKey : ∀ before r after, rounds = before ++ r :: after → ∀ h ∈ r.handled,
    h.startKey ∈ heldAfter held before ∧ h.startKey.id = h.output.preKeyId

theorem Fair.start : Fair held pending [] :=
  ⟨List.nodup_nil, by simp, by simp, by simp⟩

theorem Fair.snoc (h : Fair held pending rounds)
    (hr : Begun (heldAfter held rounds) (waitingAfter pending rounds) r.handled) :
    Fair held pending (rounds ++ [r]) := by
  have hpositions := hr.positions_sublist
  have hrange := hpositions.trans (positions_waitingAfter_sublist pending rounds)
  refine ⟨?_, ?_, ?_, ?_⟩
  · rw [List.flatMap_append, List.flatMap_singleton]
    refine List.nodup_append.mpr ⟨h.once, List.nodup_range.sublist hrange, ?_⟩
    rintro i hi _ hi' rfl
    obtain ⟨p, hp, rfl⟩ := List.mem_map.mp (hpositions.subset hi')
    exact not_mem_of_mem_waitingAfter hp hi
  · intro a ha
    rcases List.mem_append.mp ha with ha | ha
    · exact h.ascending a ha
    · rw [List.mem_singleton.mp ha]
      exact List.pairwise_lt_range.sublist hrange
  · intro a ha b hb
    rcases List.mem_append.mp ha with ha | ha
    · exact h.placed a ha b hb
    · rw [List.mem_singleton.mp ha] at hb
      exact getElem?_of_mem_waitingAfter (hr.mem_waiting hb)
  · intro before a after heq b hb
    rcases List.eq_nil_or_concat after with rfl | ⟨front, last, rfl⟩
    · obtain ⟨rfl, hlast⟩ := List.append_inj' heq rfl
      obtain rfl : r = a := by simpa using hlast
      exact hr.startKey b hb
    · rw [List.concat_eq_append, ← List.cons_append, ← List.append_assoc] at heq
      exact h.startKey before a front (List.append_inj' heq rfl).1 b hb

/-- The places handled in a course and those that wait after it are all the places there are. -/
theorem Fair.handledCount_add (h : Fair held pending rounds) :
    handledCount rounds + (waitingAfter pending rounds).length = pending.length := by
  have hpositions : rounds.flatMap Round.positions =
      (rounds.flatMap Round.handled).map Handling.position := by
    rw [List.map_flatMap]
    rfl
  have hrange : ∀ i ∈ rounds.flatMap Round.positions, i < pending.length := by
    intro i hi
    obtain ⟨r, hr, hi⟩ := List.mem_flatMap.mp hi
    obtain ⟨a, ha, rfl⟩ := List.mem_map.mp hi
    exact (List.getElem?_eq_some_iff.mp (h.placed r hr a ha)).1
  have hhandled : (List.range pending.length).countP
      (fun i => (rounds.flatMap Round.positions).contains i) = handledCount rounds := by
    rw [List.countP_eq_length_filter, handledCount, ← List.length_map Handling.position,
      ← hpositions]
    apply List.Perm.length_eq
    rw [List.perm_ext_iff_of_nodup (List.nodup_range.filter _) h.once]
    intro i
    simp only [List.mem_filter, List.mem_range, List.contains_iff_mem]
    exact ⟨fun hi => hi.2, fun hi => ⟨hrange i hi, hi⟩⟩
  have hwaiting : (waitingAfter pending rounds).length = (List.range pending.length).countP
      (fun i => !(rounds.flatMap Round.positions).contains i) := by
    have hmap : List.range pending.length = pending.zipIdx.map Prod.snd := by
      rw [List.zipIdx_map_snd, List.range_eq_range']
    rw [hmap, List.countP_map, List.countP_eq_length_filter]
    rfl
  have hsplit := List.length_eq_countP_add_countP (l := List.range pending.length)
    fun i => (rounds.flatMap Round.positions).contains i
  rw [List.length_range] at hsplit
  rw [hwaiting, ← hhandled]
  simpa only [Bool.not_eq_true, Bool.decide_eq_false] using hsplit.symm

namespace Course

theorem fair (h : Course held pending rounds) : Fair held pending rounds := by
  induction h with
  | start => exact Fair.start
  | round r _ whole ih => exact ih.snoc whole.begun

theorem resolved (h : Course held pending rounds) :
    ∀ a ∈ rounds.flatMap Round.handled, a.Resolved := by
  induction h with
  | start => simp
  | round r _ whole ih =>
      intro a ha
      rw [List.flatMap_append, List.flatMap_singleton] at ha
      exact (List.mem_append.mp ha).elim (ih a) (whole.resolved a)

/-- An output that waits at the end was unknown in every round. -/
theorem unknown (h : Course held pending rounds) {p : Output × Nat}
    (hp : p ∈ waitingAfter pending rounds) {before : List Round} (hbefore : before <+: rounds)
    (hne : before ≠ rounds) : p.1.preKeyId ∉ Key.ids (heldAfter held before) := by
  induction h with
  | start => exact absurd (List.prefix_nil.mp hbefore) hne
  | @round rounds r _ whole ih =>
      rw [whole.waitingAfter_snoc, List.mem_filter] at hp
      rcases List.prefix_concat_iff.mp hbefore with rfl | hbefore
      · exact absurd rfl hne
      · by_cases heq : before = rounds
        · subst heq
          rw [← knows_iff]
          simpa using hp.2
        · exact ih hp.1 hbefore heq

end Course

end Keyring.Group
