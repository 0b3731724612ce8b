import Keyring.Proofs.Group.Effect
import Keyring.Proofs.Group.Finish
import Keyring.Proofs.Memory.Storing

namespace Keyring

namespace Group

open Attempt Rotation

variable {S α : Type} {w : World S} {fuel : Nat} {key : String} {stored : S → Option String}
  {g : Group} {s : S}

/-- A group with a property, while a text is stored. -/
structure Rests (stored : S → Option String) (text : Option String) (P : Group → Prop) (g : Group)
    (s : S) : Prop where
  group : P g
  stored_eq : stored s = text

section Writing

theorem persist_storing (hst : Storing w key stored)
    (hkey : storeKey g.config.store.space g.record.groupId = key)
    {Q : Unit → Group → S → Prop} {X : Halt → Group → S → Prop}
    (hQ : ∀ s', stored s' = some g.record.save → Q () g s')
    (hfailed : ∀ e s₁ s', w.answer (.writeStore key g.record.save) s₁ = (some (.error e), s') →
      stored s' = stored s → X (.failed e) g s')
    (hcut : ∀ s', stored s' = stored s ∨ stored s' = some g.record.save → X .cut g s') :
    Ensures w fuel persist Q X g s := by
  subst hkey
  simp only [persist, Record.store, ensures_bind, ensures_get, ensures_notice]
  rw [ensures_request]
  rcases hanswer : w.answer (.writeStore
    (storeKey g.config.store.space g.record.groupId) g.record.save) s with ⟨_ | _ | _, s'⟩
  · exact hcut s' (hst.dropped hanswer)
  · exact hfailed _ s s' hanswer (hst.refused hanswer)
  · exact hQ s' (hst.accepted hanswer)

end Writing

section Resting

variable {text : Option String} {P : Group → Prop}

theorem outlasts_of_storing (hst : Storing w key stored) {q : Request} (hq : q.isWrite = false) :
    Outlasts w (Rests stored text P) q :=
  fun _ _ h => ⟨h.group, (hst.other _ hq).trans h.stored_eq⟩

theorem fetchNew_storing (hst : Storing w key stored) (token : String) (threshold : UInt64)
    {Q : Nat → Group → S → Prop} {X : Halt → Group → S → Prop}
    (hQ : ∀ batch h s', g.record.history.append batch = .ok h → stored s' = stored s →
      Q batch.length (g.withHistory h) s')
    (hX : ∀ halt s', stored s' = stored s → X halt g s') :
    Ensures w fuel (fetchNew token threshold) Q X g s := by
  simp only [fetchNew, ensures_bind, ensures_get, ensures_settle]
  cases g.record.history.cursor with
  | error e => exact hX _ s rfl
  | ok cursor =>
      have hgather : Preserves w fuel (Rests stored (stored s) (g = ·))
          (gather ⟨token, g.record.groupId, threshold, cursor, []⟩) :=
        .gather fun _ _ _ h => ⟨h.group, (hst.other _ rfl).trans h.stored_eq⟩
      refine (hgather g s ⟨rfl, rfl⟩).mono ?_ ?_
      · rintro gathered _ s' ⟨rfl, hstored⟩
        have happend : ∀ batch, Ensures w fuel (append batch) Q X g s' := by
          intro batch
          simp only [append, ensures_bind, ensures_get, ensures_settle]
          cases h : g.record.history.append batch with
          | error e => exact hX _ s' hstored
          | ok history =>
              simp only [ensures_tellAll]
              exact hQ batch history s' h hstored
        split
        · simp only [ensures_bind, ensures_notice]
          exact happend _
        · exact happend _
      · rintro halt _ s' ⟨rfl, hstored⟩
        exact hX halt s' hstored

theorem rests_catchUp (hst : Storing w key stored)
    (hP : ∀ g batch h, P g → g.record.history.append batch = .ok h → P (g.withHistory h))
    (round resolved left : Nat) (pending : List Output) :
    Preserves w fuel (Rests stored text P) (catchUp round resolved left pending) := by
  apply preserves_catchUp
  · intro q hq
    cases q with
    | writeStore key text => exact nomatch hq
    | _ => exact outlasts_of_storing hst rfl
  · exact fun g s batch h hrests happend =>
      ⟨hP g batch h hrests.group happend, hrests.stored_eq⟩

end Resting

/-- The group once nothing waits any more. -/
abbrev upToDate (g : Group) : Group :=
  { g with record := { g.record with keyUpdate := false } }

/-- A group that is like another one, but for its history and its phase. -/
structure Akin (g g' : Group) : Prop where
  groupId : g'.record.groupId = g.record.groupId
  config : g'.config = g.config

theorem Akin.trans {g g' g'' : Group} (h : Akin g g') (h' : Akin g' g'') : Akin g g'' :=
  ⟨h'.groupId.trans h.groupId, h'.config.trans h.config⟩

theorem Akin.storeKey_eq {g g' : Group} (h : Akin g g') :
    storeKey g'.config.store.space g'.record.groupId =
      storeKey g.config.store.space g.record.groupId := by
  rw [h.groupId, h.config]

/-- A finish run stores nothing but the record at its end. Whatever holds of the group and lasts
while its history grows, holds until then; and only then the group can be marked as up to date. -/
theorem finishPending_storing {P : Group → Prop}
    (hst : Storing w (storeKey g.config.store.space g.record.groupId) stored)
    (hP : ∀ g batch h, P g → g.record.history.append batch = .ok h → P (g.withHistory h))
    (hakin : ∀ g', P g' → Akin g g') {g₁ : Group} (hg₁ : P g₁)
    {Q : Outcome → Group → S → Prop} {X : Halt → Group → S → Prop}
    (hnoop : ∀ s', stored s' = stored s → Q (.completed 0 0) g₁ s')
    (hQ : ∀ outcome g', P g' → ∀ g'', g'' = g' ∨ g'' = g'.upToDate → ∀ s',
      stored s' = some g''.record.save → Q outcome g'' s')
    (hX : ∀ halt g' s', P g' → stored s' = stored s → X halt g' s')
    (hfailed : ∀ g', P g' → ∀ g'', g'' = g' ∨ g'' = g'.upToDate → ∀ e s₁ s',
      w.answer (.writeStore (storeKey g.config.store.space g.record.groupId) g''.record.save) s₁ =
        (some (.error e), s') → stored s' = stored s → X (.failed e) g'' s')
    (hcut : ∀ g', P g' → ∀ g'', g'' = g' ∨ g'' = g'.upToDate → ∀ s',
      stored s' = stored s ∨ stored s' = some g''.record.save → X .cut g'' s') :
    Ensures w fuel finishPending Q X g₁ s := by
  simp only [finishPending, ensures_bind, ensures_get]
  have hask : Preserves w fuel (Rests stored (stored s) (g₁ = ·))
      (Attempt.request (.pendingOutputs g₁.actor.token g₁.record.groupId)) :=
    .request (outlasts_of_storing hst rfl)
  refine (hask g₁ s ⟨rfl, rfl⟩).mono ?_ ?_
  · rintro (pending : List Output) _ s₁ ⟨rfl, hstored₁⟩
    split
    · exact hnoop s₁ hstored₁
    · simp only [ensures_bind, ensures_notice]
      have hloop : Preserves w fuel (Rests stored (stored s) P)
          (catchUp 1 0 (g₁.config.rotation.maxRounds.toNat - 1) pending) :=
        rests_catchUp hst hP 1 0 _ pending
      refine (hloop g₁ s₁ ⟨hg₁, hstored₁⟩).mono ?_ fun halt g' s' h =>
        hX halt g' s' h.group h.stored_eq
      rintro ⟨resolved, rounds, waiting⟩ g₂ s₂ ⟨hg₂, hstored₂⟩
      have hkey : ∀ g'', g'' = g₂ ∨ g'' = g₂.upToDate →
          storeKey g''.config.store.space g''.record.groupId =
            storeKey g.config.store.space g.record.groupId := by
        intro g'' hg''
        rw [← (hakin g₂ hg₂).storeKey_eq]
        rcases hg'' with rfl | rfl <;> rfl
      have hend : ∀ g'', g'' = g₂ ∨ g'' = g₂.upToDate → ∀ outcome m,
          Ensures w fuel (do
            persist
            Attempt.metric m
            return outcome) Q X g'' s₂ := by
        intro g'' hg'' outcome m
        rw [ensures_bind]
        refine persist_storing hst (hkey g'' hg'') ?_ ?_ ?_
        · exact fun s' hs' => hQ outcome g₂ hg₂ g'' hg'' s' hs'
        · exact fun e s₃ s' hanswer hs' =>
            hfailed g₂ hg₂ g'' hg'' e s₃ s' hanswer (hs'.trans hstored₂)
        · exact fun s' hs' => hcut g₂ hg₂ g'' hg'' s' (hs'.imp_left fun h => h.trans hstored₂)
      simp only [ensures_bind, ensures_metric]
      split
      · simp only [modifyRecord, ensures_bind, ensures_get, ensures_set, ensures_notice]
        exact ensures_bind.mp (hend g₂.upToDate (.inr rfl) _ _)
      · simp only [ensures_bind, ensures_notice]
        exact ensures_bind.mp (hend g₂ (.inl rfl) _ _)
  · rintro halt _ s₁ ⟨rfl, hstored₁⟩
    exact hX halt g₁ s₁ hg₁ hstored₁

end Group

end Keyring
