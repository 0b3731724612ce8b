import Keyring.Proofs.Group.Retry
import Keyring.Proofs.Group.RoundTrip
import Keyring.Proofs.Group.Saving

namespace Keyring.Group

open Attempt Memory

variable {S : Type} {w : World S} {fuel : Nat} {stored : S → Option String} {g g' g₀ : Group}
  {s s' s₀ : S} {saved : Prop}

/-- A group that has just been loaded from the store, or stored there. -/
inductive Started (w : World S) (fuel : Nat) : Group → S → Prop where
  | loaded {σ : Type} {x x' : σ} {g : Group} {s₀ s : S} {trace : List Event}
      (hrun : (load g.record.groupId g.actor g.config).run.run w fuel x s₀ =
        ⟨.finished (.ok g), x', s, trace⟩) : Started w fuel g s
  | persisted {g : Group} {s₀ s : S} {trace : List Event} (hsound : g.record.history.Sound)
      (hrun : Operation.persist.run w fuel g s₀ = ⟨.finished (.ok ()), g, s, trace⟩) :
      Started w fuel g s

/-- What a run of operations comes to. The proposition says that, since the record was last stored,
no operation that gave no result has added keys. -/
inductive Reached (w : World S) (fuel : Nat) (g₀ : Group) (s₀ : S) : Prop → Group → S → Prop where
  | start : Reached w fuel g₀ s₀ True g₀ s₀
  | returned {saved : Prop} {α : Type} {op : Operation α} {a : α} {g g' : Group} {s s' : S}
      {trace : List Event} (h : Reached w fuel g₀ s₀ saved g s)
      (hrun : op.run w fuel g s = ⟨.finished (.ok a), g', s', trace⟩) :
      Reached w fuel g₀ s₀ (saved ∨ op.stores a) g' s'
  | gone {saved : Prop} {α : Type} {op : Operation α} {ending : Ending (Except Failure α)}
      {g g' : Group} {s s' : S} {trace : List Event} (h : Reached w fuel g₀ s₀ saved g s)
      (hrun : op.run w fuel g s = ⟨ending, g', s', trace⟩)
      (hnone : ∀ a, ending ≠ .finished (.ok a)) :
      Reached w fuel g₀ s₀ (saved ∧ g'.record.history.keys = g.record.history.keys) g' s'

/-- Whether loading a group gives the history that it has, if its record can be read. -/
def LoadsBack (w : World S) (fuel : Nat) (g : Group) (s : S) : Prop :=
  ∀ (σ : Type) (x : σ) text s',
    w.answer (.readStore (storeKey g.config.store.space g.record.groupId)) s =
      (some (.ok text), s') →
    ∃ g' trace, (load g.record.groupId g.actor g.config).run.run w fuel x s =
        ⟨.finished (.ok g'), x, s', trace⟩ ∧
      g'.record.history.keys = g.record.history.keys

/-- Whether the stored record of a group has the same history. -/
def InStep (stored : S → Option String) (g : Group) (s : S) : Prop :=
  ∃ text r, stored s = some text ∧ (Record.restore text).2 = .ok r ∧
    r.history.keys = g.record.history.keys

section Loading

variable {σ : Type} {x : σ} {groupId : String} {actor : Actor} {config : Config}

theorem load_ensures (hst : Storing w (storeKey config.store.space groupId) stored)
    {text : Option String}
    (hanswer : w.answer (.readStore (storeKey config.store.space groupId)) s =
      (some (.ok text), s')) {Q : Group → σ → S → Prop} {X : Halt → σ → S → Prop}
    (hnone : stored s = none → X (.failed (.groupNotFound groupId)) x s')
    (hQ : ∀ text r, stored s = some text → (Record.restore text).2 = .ok r →
      Q { record := r, actor, config } x s')
    (hX : ∀ text e, stored s = some text → (Record.restore text).2 = .error e →
      X (.failed e) x s') :
    Ensures w fuel (load groupId actor config) Q X x s := by
  simp only [load, Record.load, Record.fetch?, ensures_bind]
  rw [ensures_request, hanswer]
  obtain rfl := hst.read hanswer
  cases hstored : stored s with
  | none => exact hnone hstored
  | some text =>
      dsimp only
      cases hresult : (Record.restore text).2 with
      | ok r =>
          have hloaded := hQ text r hstored hresult
          split
          all_goals
            simp only [ensures_bind, ensures_tellAll, ensures_pure, ensures_settle, ensures_notice]
            exact hloaded
      | error e =>
          have hfailed := hX text e hstored hresult
          split
          all_goals
            simp only [ensures_bind, ensures_tellAll, ensures_settle]
            exact hfailed

theorem load_restores (hst : Storing w (storeKey config.store.space groupId) stored) :
    Ensures w fuel (load groupId actor config) (fun g x' s' => x' = x ∧ stored s' = stored s ∧
      ∃ text, stored s = some text ∧ (Record.restore text).2 = .ok g.record)
      (fun _ _ _ => True) x s := by
  rcases hanswer : w.answer (.readStore (storeKey config.store.space groupId)) s with
    ⟨_ | _ | text, s'⟩
  · simp only [load, Record.load, Record.fetch?, ensures_bind]
    rw [ensures_request, hanswer]
    trivial
  · simp only [load, Record.load, Record.fetch?, ensures_bind]
    rw [ensures_request, hanswer]
    trivial
  · have hstored : stored s' = stored s := by
      have hsame := hst.other (q := .readStore (storeKey config.store.space groupId)) s rfl
      rwa [hanswer] at hsame
    refine load_ensures hst hanswer ?_ ?_ ?_
    · exact fun _ => trivial
    · exact fun text r htext hrestore => ⟨rfl, hstored, text, htext, hrestore⟩
    · exact fun _ _ _ _ => trivial

end Loading

section Course

theorem InStep.loadsBack
    (hst : Storing w (storeKey g.config.store.space g.record.groupId) stored)
    (h : InStep stored g s) : LoadsBack w fuel g s := by
  obtain ⟨text, r, htext, hrestore, hkeys⟩ := h
  intro σ x read s' hanswer
  have hload : Ensures w fuel (load g.record.groupId g.actor g.config)
      (fun g' x' s'' => x' = x ∧ s'' = s' ∧ g'.record.history.keys = g.record.history.keys)
      (fun _ _ _ => False) x s := by
    refine load_ensures hst hanswer ?_ ?_ ?_
    · intro hnone
      exact nomatch hnone.symm.trans htext
    · intro text' r' htext' hrestore'
      obtain rfl := Option.some.inj (htext.symm.trans htext')
      obtain rfl := Except.ok.inj (hrestore.symm.trans hrestore')
      exact ⟨rfl, rfl, hkeys⟩
    · intro text' e htext' hrestore'
      obtain rfl := Option.some.inj (htext.symm.trans htext')
      exact nomatch hrestore.symm.trans hrestore'
  obtain ⟨g', _, _, trace, hrun, rfl, rfl, hkeys'⟩ := hload.exists_run
  exact ⟨g', trace, hrun, hkeys'⟩

theorem InStep.of_save (hsound : g.record.history.Sound)
    (hstored : stored s = some g.record.save) : InStep stored g s :=
  ⟨_, g.record.reindexed, hstored, congrArg Prod.snd (Record.restore_save hsound), rfl⟩

theorem InStep.of_eq (h : InStep stored g s) (hstored : stored s' = stored s)
    (hkeys : g'.record.history.keys = g.record.history.keys) : InStep stored g' s' := by
  obtain ⟨text, r, htext, hrestore, hr⟩ := h
  exact ⟨text, r, hstored.trans htext, hrestore, hr.trans hkeys.symm⟩

/-- What is certain of a group in a run of operations: it has the store key it started with, and if
`saved` holds its stored record has the same history. -/
structure Steady (stored : S → Option String) (g₀ : Group) (saved : Prop) (g : Group) (s : S) :
    Prop where
  akin : Akin g₀ g
  sound : g.record.history.Sound
  inStep : saved → InStep stored g s

theorem Started.steady (hst : Storing w (storeKey g.config.store.space g.record.groupId) stored)
    (h : Started w fuel g s) : Steady stored g True g s := by
  cases h with
  | loaded hrun =>
      obtain ⟨-, hstored, text, htext, hrestore⟩ := (load_restores hst).of_run hrun
      exact ⟨⟨rfl, rfl⟩, Record.sound_of_restore hrestore,
        fun _ => ⟨text, _, hstored.trans htext, hrestore, rfl⟩⟩
  | persisted hsound hrun =>
      have hreturned := (persist_saves hst hsound).of_run hrun
      rcases hreturned.stored_eq with hstored | ⟨hno, -, -⟩
      · exact ⟨⟨rfl, rfl⟩, hsound, fun _ => .of_save hsound hstored⟩
      · exact nomatch hno

theorem Steady.returned (h : Steady stored g₀ saved g s) {stores : Bool}
    (hreturned : Returned (stored s) g stores g' (stored s')) :
    Steady stored g₀ (saved ∨ stores) g' s' := by
  refine ⟨h.akin.trans hreturned.akin, hreturned.sound, ?_⟩
  rcases hreturned.stored_eq with hstored | ⟨hno, hstored, hkeys⟩
  · exact fun _ => .of_save hreturned.sound hstored
  · rintro (hsaved | hstores)
    · exact (h.inStep hsaved).of_eq hstored hkeys
    · exact absurd hstores (by simp [hno])

theorem Steady.gone (h : Steady stored g₀ saved g s) (hgone : Gone (stored s) g g' (stored s')) :
    Steady stored g₀ (saved ∧ g'.record.history.keys = g.record.history.keys) g' s' := by
  refine ⟨h.akin.trans hgone.akin, hgone.sound, ?_⟩
  rintro ⟨hsaved, hkeys⟩
  rcases hgone.stored_eq with hstored | hstored
  · exact .of_save hgone.sound hstored
  · exact (h.inStep hsaved).of_eq hstored hkeys

theorem Reached.steady
    (hst : Storing w (storeKey g₀.config.store.space g₀.record.groupId) stored)
    (hstart : Started w fuel g₀ s₀) (h : Reached w fuel g₀ s₀ saved g s) :
    Steady stored g₀ saved g s := by
  induction h with
  | start => exact hstart.steady hst
  | @returned saved α op a g g' s s' trace h hrun ih =>
      rw [← ih.akin.storeKey_eq] at hst
      have hsaves : Meets _ _ (op.run w fuel g s) := op.run_saves hst ih.sound
      rw [hrun] at hsaves
      exact ih.returned hsaves
  | @gone saved α op ending g g' s s' trace h hrun hnone ih =>
      rw [← ih.akin.storeKey_eq] at hst
      have hsaves : Meets _ _ (op.run w fuel g s) := op.run_saves hst ih.sound
      rw [hrun] at hsaves
      match ending with
      | .finished (.ok a) => exact absurd rfl (hnone a)
      | .finished (.error e) => exact ih.gone hsaves
      | .cut => exact ih.gone hsaves
      | .exhausted => exact ih.gone hsaves

/-- In a run of operations on a group that was loaded from the store, or stored there, loading the
group gives the history that it has in memory, unless an operation that gave no result has added
keys since the record was last stored. -/
theorem stored_history_follows
    (hst : Storing w (storeKey g₀.config.store.space g₀.record.groupId) stored)
    (hstart : Started w fuel g₀ s₀) (h : Reached w fuel g₀ s₀ saved g s) (hsaved : saved) :
    LoadsBack w fuel g s := by
  have hsteady := h.steady hst hstart
  rw [← hsteady.akin.storeKey_eq] at hst
  exact (hsteady.inStep hsaved).loadsBack hst

end Course

section Behind

/-- A server with a key that the sample member does not have. -/
def lateState (store : Store) (cursors : List Cursor) (stops : Nat) : State where
  server := { log := [.sample "first" 1, .sample "next" 2], cursors }
  store
  clock := { stops }

theorem persist_late : Ensures (withFaults world) 4 persist
    (fun _ g s => g = sampleMember ∧ s = ([("store_set", ⟨0, 1⟩)], lateState sampleStore [] 127))
    (fun _ _ _ => False) sampleMember ([("store_set", ⟨1, 1⟩)], lateState {} [] 128) := by
  simp only [persist, Record.store, ensures_bind, ensures_get, ensures_notice]
  rw [ensures_request]
  exact ⟨rfl, rfl⟩

theorem fetch_late : Ensures (withFaults world) 4 fetch (fun _ _ _ => False)
    (fun halt g s => (∃ e, halt = .failed e) ∧ g.record.history.Sound ∧
      g.record.history.keys = [.sample "first" 1, .sample "next" 2] ∧
      s = ([("store_set", ⟨0, 0⟩)], lateState sampleStore [⟨1, "first"⟩] 127))
    sampleMember ([("store_set", ⟨0, 1⟩)], lateState sampleStore [] 127) := by
  have hsound : sampleMember.record.history.Sound := joined_sample.sound
  have hlast : sampleMember.record.history.keys.getLast? = some (.sample "first" 1) := rfl
  simp only [fetch, ensures_bind, ensures_get]
  refine fetchNew_of_sweep (r := .ok [.sample "next" 2]) hsound hlast rfl ?_
    (fun e he => by simp at he)
  intro batch hbatch
  obtain rfl := Except.ok.inj hbatch
  refine ⟨⟨by decide, by decide⟩, fun h hsound' hkeys => ?_⟩
  simp only [List.length_singleton, Nat.lt_one_iff, if_true, ensures_bind]
  simp only [persist, Record.store, ensures_bind, ensures_get, ensures_notice]
  rw [ensures_request]
  exact ⟨⟨_, rfl⟩, hsound', hkeys, rfl⟩

theorem fetch_again (hsound : g.record.history.Sound)
    (hkeys : g.record.history.keys = [.sample "first" 1, .sample "next" 2]) (store : Store)
    (cursors : List Cursor) (stops : Nat) :
    Ensures (withFaults world) 4 fetch
      (fun added g' s => added = 0 ∧ g'.record.history.keys = g.record.history.keys ∧
        s = ([("store_set", ⟨0, 0⟩)], lateState store (⟨2, "next"⟩ :: cursors) stops))
      (fun _ _ _ => False) g ([("store_set", ⟨0, 0⟩)], lateState store cursors stops) := by
  have hlast : g.record.history.keys.getLast? = some (.sample "next" 2) := by rw [hkeys]; rfl
  simp only [fetch, ensures_bind, ensures_get]
  refine fetchNew_of_sweep (r := .ok []) hsound hlast rfl ?_ (fun e he => by simp at he)
  intro batch hbatch
  obtain rfl := Except.ok.inj hbatch
  rw [List.append_nil]
  exact ⟨hsound.chronicle, fun h _ hkeys' => ⟨rfl, hkeys', rfl⟩⟩

theorem persist_again (g : Group) (store : Store) (cursors : List Cursor) (stops : Nat) :
    Ensures (withFaults world) 4 persist
    (fun _ g' s => g = g' ∧ ∃ store,
      s = ([("store_set", ⟨0, 0⟩)], lateState store cursors stops))
    (fun _ _ _ => False) g ([("store_set", ⟨0, 0⟩)], lateState store cursors (stops + 1)) := by
  simp only [persist, Record.store, ensures_bind, ensures_get, ensures_notice]
  rw [ensures_request]
  exact ⟨rfl, _, rfl⟩

theorem load_late (cursors : List Cursor) : Ensures (withFaults world) 4
    (load "group" sampleMember.actor sampleMember.config)
    (fun g _ _ => g.record.history.keys = [.sample "first" 1]) (fun _ _ _ => False) ()
    ([("store_set", ⟨0, 0⟩)], lateState sampleStore cursors 127) := by
  have hanswer : (withFaults world).answer (.readStore (storeKey "group_data" "group"))
      ([("store_set", ⟨0, 0⟩)], lateState sampleStore cursors 127) =
      (some (.ok (some sampleMember.record.save)),
        ([("store_set", ⟨0, 0⟩)], lateState sampleStore cursors 128)) := rfl
  refine load_ensures (storing_withFaults (storing_world _)) hanswer ?_ ?_ ?_
  · exact nofun
  · intro text r htext hrestore
    obtain rfl := Option.some.inj htext
    rw [Record.restore_save joined_sample.sound] at hrestore
    rw [← Except.ok.inj hrestore]
    rfl
  · intro text e htext hrestore
    obtain rfl := Option.some.inj htext
    rw [Record.restore_save joined_sample.sound] at hrestore
    exact nomatch hrestore

/-- The history that is loaded can be behind the one in memory after a fetch that succeeds. -/
theorem stored_history_falls_behind : ∃ s t e g₁ s₁ t₁ g₂ s₂ t₂ g₃ s₃ t₃,
    Operation.persist.run (withFaults world) 4 sampleMember
        ([("store_set", ⟨1, 1⟩)], lateState {} [] 128) =
      ⟨.finished (.ok ()), sampleMember, s, t⟩ ∧
    Operation.fetch.run (withFaults world) 4 sampleMember s = ⟨.finished (.error e), g₁, s₁, t₁⟩ ∧
    Operation.fetch.run (withFaults world) 4 g₁ s₁ = ⟨.finished (.ok 0), g₂, s₂, t₂⟩ ∧
    (load "group" sampleMember.actor sampleMember.config).run.run (withFaults world) 4 () s₂ =
      ⟨.finished (.ok g₃), (), s₃, t₃⟩ ∧
    g₃.record.history.keys ≠ g₂.record.history.keys := by
  obtain ⟨_, _, _, t, hpersist, rfl, rfl⟩ := persist_late.exists_run
  obtain ⟨e, g₁, _, t₁, hlate, hsound, hkeys, rfl⟩ := fetch_late.exists_failure
  obtain ⟨_, g₂, _, t₂, hagain, rfl, hkeys₂, rfl⟩ := (fetch_again hsound hkeys _ _ _).exists_run
  obtain ⟨g₃, _, s₃, t₃, hload, hkeys₃⟩ := (load_late _).exists_run
  refine ⟨_, t, e, g₁, _, t₁, g₂, _, t₂, g₃, s₃, t₃, hpersist, hlate, hagain, hload, ?_⟩
  rw [hkeys₃, hkeys₂, hkeys]
  decide

theorem stored_history_follows_late : ∃ s t e g₁ s₁ t₁ s₂ t₂ g₃ s₃ t₃,
    Operation.persist.run (withFaults world) 4 sampleMember
        ([("store_set", ⟨1, 1⟩)], lateState {} [] 128) =
      ⟨.finished (.ok ()), sampleMember, s, t⟩ ∧
    Operation.fetch.run (withFaults world) 4 sampleMember s = ⟨.finished (.error e), g₁, s₁, t₁⟩ ∧
    Operation.persist.run (withFaults world) 4 g₁ s₁ = ⟨.finished (.ok ()), g₁, s₂, t₂⟩ ∧
    Operation.fetch.run (withFaults world) 4 g₁ s₂ = ⟨.finished (.ok 0), g₃, s₃, t₃⟩ ∧
    LoadsBack (withFaults world) 4 g₃ s₃ := by
  obtain ⟨_, _, _, t, hpersist, rfl, rfl⟩ := persist_late.exists_run
  obtain ⟨e, g₁, _, t₁, hlate, hsound, hkeys, rfl⟩ := fetch_late.exists_failure
  obtain ⟨_, _, _, t₂, hstore, rfl, store, rfl⟩ :=
    (persist_again g₁ sampleStore [⟨1, "first"⟩] 126).exists_run
  obtain ⟨_, g₃, _, t₃, hagain, rfl, -, rfl⟩ :=
    (fetch_again hsound hkeys store [⟨1, "first"⟩] 126).exists_run
  have hlate' : Operation.fetch.run (withFaults world) 4 sampleMember
      ([("store_set", ⟨0, 1⟩)], lateState sampleStore [] 127) = _ := hlate
  have hstore' : Operation.persist.run (withFaults world) 4 g₁
      ([("store_set", ⟨0, 0⟩)], lateState sampleStore [⟨1, "first"⟩] 127) = _ := hstore
  have hagain' : Operation.fetch.run (withFaults world) 4 g₁
      ([("store_set", ⟨0, 0⟩)], lateState store [⟨1, "first"⟩] 126) = _ := hagain
  have hreached := ((Reached.start.gone hlate' (fun a ha => by simp at ha)).returned
    hstore').returned hagain'
  exact ⟨_, t, e, g₁, _, t₁, _, t₂, g₃, _, t₃, hpersist, hlate, hstore, hagain,
    stored_history_follows (storing_withFaults (storing_world _))
      (.persisted joined_sample.sound hpersist) hreached (.inl (.inr rfl))⟩

end Behind

end Keyring.Group
