import Keyring.Proofs.Group.Effect
import Keyring.Proofs.Group.StoredHistory

/-!
Groups over a course of operations, each of which runs in a world of its own of which nothing is
known, and may be broken off at any request.
-/

namespace Keyring

theorem History.Sound.lookup_of_prefix {h h' : History} (hs : h.Sound) (hs' : h'.Sound)
    (hbefore : h.keys <+: h'.keys) {id : String} {i : Nat} (hlookup : h.lookup id = some i) :
    h'.lookup id = some i := by
  obtain ⟨k, hk, hid⟩ := (hs.lookup_eq_some_iff id i).mp hlookup
  obtain ⟨rest, hrest⟩ := hbefore
  obtain ⟨hlt, -⟩ := List.getElem?_eq_some_iff.mp hk
  refine (hs'.lookup_eq_some_iff id i).mpr ⟨k, ?_, hid⟩
  rw [← hrest, List.getElem?_append_left hlt, hk]

namespace Group

open Attempt Memory

variable {S α : Type} {g g' g₀ g₁ g₂ : Group}

structure Fixed (g g' : Group) : Prop where
  groupId : g'.record.groupId = g.record.groupId
  parentGroupId : g'.record.parentGroupId = g.record.parentGroupId
  rank : g'.record.rank = g.record.rank
  createTime : g'.record.createTime = g.record.createTime
  joinedTime : g'.record.joinedTime = g.record.joinedTime
  actor : g'.actor = g.actor
  config : g'.config = g.config

theorem Fixed.refl (g : Group) : Fixed g g :=
  ⟨rfl, rfl, rfl, rfl, rfl, rfl, rfl⟩

theorem Fixed.trans (h : Fixed g₀ g₁) (h' : Fixed g₁ g₂) : Fixed g₀ g₂ where
  groupId := h'.groupId.trans h.groupId
  parentGroupId := h'.parentGroupId.trans h.parentGroupId
  rank := h'.rank.trans h.rank
  createTime := h'.createTime.trans h.createTime
  joinedTime := h'.joinedTime.trans h.joinedTime
  actor := h'.actor.trans h.actor
  config := h'.config.trans h.config

/-- A group whose history goes on from the one that it had, with the same positions. -/
structure Continues (g g' : Group) : Prop extends Fixed g g' where
  keys : g.record.history.keys <+: g'.record.history.keys
  lookup : ∀ id i, g.record.history.lookup id = some i → g'.record.history.lookup id = some i
  sound : g'.record.history.Sound

theorem Continues.refl (hsound : g.record.history.Sound) : Continues g g :=
  ⟨.refl g, List.prefix_refl _, fun _ _ h => h, hsound⟩

theorem Continues.trans (h : Continues g₀ g₁) (h' : Continues g₁ g₂) : Continues g₀ g₂ :=
  ⟨h.toFixed.trans h'.toFixed, h.keys.trans h'.keys,
    fun id i hlookup => h'.lookup id i (h.lookup id i hlookup), h'.sound⟩

theorem Continues.of_append {batch : List Key} {history : History}
    (hsound : g.record.history.Sound) (happend : g.record.history.append batch = .ok history) :
    Continues g (g.withHistory history) := by
  obtain ⟨hsound', hkeys⟩ := hsound.of_append_eq_ok happend
  have hbefore : g.record.history.keys <+: history.keys := hkeys ▸ List.prefix_append _ _
  exact ⟨⟨rfl, rfl, rfl, rfl, rfl, rfl, rfl⟩, hbefore,
    fun _ _ hlookup => hsound.lookup_of_prefix hsound' hbefore hlookup, hsound'⟩

theorem Continues.of_turned (hsound : g.record.history.Sound) (phase : Rotation.Phase)
    (keyUpdate : Bool) : Continues g (g.turned phase keyUpdate) :=
  ⟨⟨rfl, rfl, rfl, rfl, rfl, rfl, rfl⟩, List.prefix_refl _, fun _ _ h => h, hsound⟩

theorem Operation.run_fixed (w : World S) (fuel : Nat) (op : Operation α) (g : Group) (s : S) :
    Fixed g (op.run w fuel g s).state :=
  op.run_preserves (w := w) (I := fun g' _ => Fixed g g') (fun _ _ _ _ h => h)
    (fun _ _ _ _ _ h _ => h.trans ⟨rfl, rfl, rfl, rfl, rfl, rfl, rfl⟩)
    (fun _ _ _ _ _ h => h.trans ⟨rfl, rfl, rfl, rfl, rfl, rfl, rfl⟩)
    (fun _ _ _ h => h) (fun _ _ h => h) (.refl g)

theorem Operation.run_continues (w : World S) (fuel : Nat) (op : Operation α)
    (hsound : g.record.history.Sound) (s : S) : Continues g (op.run w fuel g s).state :=
  op.run_preserves (w := w) (I := fun g' _ => Continues g g') (fun _ _ _ _ h => h)
    (fun _ _ _ _ _ h happend => h.trans (.of_append h.sound happend))
    (fun _ _ _ phase keyUpdate h => h.trans (.of_turned h.sound phase keyUpdate))
    (fun _ _ _ h => h) (fun _ _ h => h) (.refl hsound)

/-- An operation that was run on a group, and what came of it. -/
structure Episode where
  {α : Type}
  op : Operation α
  before : Group
  ending : Ending (Except Failure α)
  /-- The requests of the run with their answers. -/
  calls : List Event
  after : Group

def Operation.episode (w : World S) (fuel : Nat) (op : Operation α) (g : Group) (s : S) :
    Episode :=
  ⟨op, g, (op.run w fuel g s).ending, (op.run w fuel g s).calls, (op.run w fuel g s).state⟩

/-- A course of operations on a group that comes to another group. Nothing is known of the world in
which an operation runs, nor need the next one run in the same. -/
inductive Life (g₀ : Group) : List Episode → Group → Prop where
  | start : Life g₀ [] g₀
  | step {S α : Type} {es : List Episode} {g : Group} (h : Life g₀ es g) (w : World S) (fuel : Nat)
      (op : Operation α) (s : S) :
      Life g₀ (es ++ [op.episode w fuel g s]) (op.run w fuel g s).state

variable {es es' : List Episode}

theorem Life.invariant {P : Group → Prop}
    (hrun : ∀ {S α : Type} (w : World S) (fuel : Nat) (op : Operation α) (g : Group) (s : S),
      P g → P (op.run w fuel g s).state) (hstart : P g₀) (h : Life g₀ es g) : P g := by
  induction h with
  | start => exact hstart
  | step h w fuel op s ih => exact hrun w fuel op _ s ih

theorem Life.forall_episodes {Q : Episode → Prop}
    (hrun : ∀ {S α : Type} {es : List Episode} {g : Group}, Life g₀ es g →
      ∀ (w : World S) (fuel : Nat) (op : Operation α) (s : S), Q (op.episode w fuel g s))
    (h : Life g₀ es g) : ∀ e ∈ es, Q e := by
  induction h with
  | start => simp
  | step h w fuel op s ih =>
      intro e he
      rcases List.mem_append.mp he with he | he
      · exact ih e he
      · rw [List.mem_singleton.mp he]
        exact hrun h w fuel op s

theorem Life.fixed (h : Life g₀ es g) : Fixed g₀ g :=
  h.invariant (fun w fuel op g s hfixed => hfixed.trans (op.run_fixed w fuel g s)) (.refl g₀)

theorem Life.continues (hsound : g₀.record.history.Sound) (h : Life g₀ es g) : Continues g₀ g :=
  h.invariant (fun w fuel op _ s hcontinues =>
    hcontinues.trans (op.run_continues w fuel hcontinues.sound s)) (.refl hsound)

/-- A group as it is when it has just been made, or loaded from a store. -/
inductive Fresh : Group → Prop where
  | made (record : Record) (actor : Actor) (config : Config) : Fresh { record, actor, config }
  | loaded {S σ : Type} {w : World S} {fuel : Nat} {groupId : String} {actor : Actor}
      {config : Config} {x x' : σ} {s s' : S} {g : Group} {trace : List Event}
      (hrun : (load groupId actor config).run.run w fuel x s =
        ⟨.finished (.ok g), x', s', trace⟩) : Fresh g

theorem Fresh.phase_eq (h : Fresh g) : g.phase = .idle := by
  cases h with
  | made record actor config => rfl
  | @loaded S σ w fuel groupId actor config x x' s s' g trace hrun =>
      -- The phase is not stored, so whatever the store returns the group begins outside a rotation.
      have hload : Ensures w fuel (load groupId actor config) (fun g _ _ => g.phase = .idle)
          (fun _ _ _ => True) x s := by
        rw [load, ensures_bind]
        exact (ensures_true _).mono (fun _ _ _ _ => rfl) fun _ _ _ _ => trivial
      exact hload.of_run hrun

/-- Whatever is done with a group: between any two moments of its life the history only grows, with
distinct ids and times that do not go back, every position that was once looked up is still the one
that is found, and what no operation changes is as it was. -/
theorem append_only (hsound : g₀.record.history.Sound) (h : Life g₀ es g₁)
    (h' : Life g₁ es' g₂) : Continues g₁ g₂ ∧ Chronicle g₂.record.history.keys :=
  have hcontinues := h'.continues (h.continues hsound).sound
  ⟨hcontinues, hcontinues.sound.chronicle⟩

theorem append_only_late : ∃ es g, sampleMember.record.history.Sound ∧
    Life sampleMember [] sampleMember ∧ Life sampleMember es g ∧ es.length = 2 ∧
    Continues sampleMember g ∧ Chronicle g.record.history.keys ∧
    g.record.history.keys = sampleMember.record.history.keys ++ [.sample "next" 2] := by
  have hsound : sampleMember.record.history.Sound := joined_sample.sound
  obtain ⟨e, g₁, s₁, t₁, hlate, hsound₁, hkeys₁, rfl⟩ := fetch_late.exists_failure
  obtain ⟨_, g₂, s₂, t₂, hagain, rfl, hkeys₂, rfl⟩ :=
    (fetch_again hsound₁ hkeys₁ sampleStore [⟨1, "first"⟩] 127).exists_run
  have hlate' : (Operation.fetch.run (withFaults world) 4 sampleMember
      ([("store_set", ⟨0, 1⟩)], lateState sampleStore [] 127)).state = g₁ :=
    congrArg Run.state hlate
  have hagain' : (Operation.fetch.run (withFaults world) 4 g₁
      ([("store_set", ⟨0, 0⟩)], lateState sampleStore [⟨1, "first"⟩] 127)).state = g₂ :=
    congrArg Run.state hagain
  have hstart : Life sampleMember [] sampleMember := .start
  have hlife := hstart.step (withFaults world) 4 .fetch
    ([("store_set", ⟨0, 1⟩)], lateState sampleStore [] 127)
  rw [hlate'] at hlife
  have hlife' := hlife.step (withFaults world) 4 .fetch
    ([("store_set", ⟨0, 0⟩)], lateState sampleStore [⟨1, "first"⟩] 127)
  rw [hagain'] at hlife'
  obtain ⟨hcontinues, hchronicle⟩ := append_only hsound hstart hlife'
  exact ⟨_, g₂, hsound, hstart, hlife', rfl, hcontinues, hchronicle, hkeys₂.trans hkeys₁⟩

end Group

end Keyring
