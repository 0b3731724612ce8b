import Keyring.Proofs.Group.Storing

namespace Keyring.Group

open Attempt Rotation

variable {S α : Type} {w : World S} {fuel : Nat} {key : String} {stored : S → Option String}
  {text : Option String} {g g' : Group} {s s' : S}

/-- Whether a result of an operation means that it has stored the record. -/
def Operation.stores : {α : Type} → Operation α → α → Bool
  | _, .persist, _ => true
  | _, .fetch, added => 0 < added
  | _, .finish, outcome => 0 < outcome.rounds
  | _, .finishInTime, outcome => 0 < outcome.rounds
  | _, _, _ => false

/-- What an operation that gives a result leaves, if it started with a text stored. -/
structure Returned (text : Option String) (g : Group) (stores : Bool) (g' : Group)
    (text' : Option String) : Prop where
  akin : Akin g g'
  sound : g'.record.history.Sound
  stored_eq : text' = some g'.record.save ∨
    stores = false ∧ text' = text ∧ g'.record.history.keys = g.record.history.keys

/-- What an operation that gives no result leaves. -/
structure Gone (text : Option String) (g g' : Group) (text' : Option String) : Prop where
  akin : Akin g g'
  sound : g'.record.history.Sound
  stored_eq : text' = some g'.record.save ∨ text' = text

theorem Gone.setPhase {text' : Option String} (h : Gone text g g' text') (phase : Phase) :
    Gone text g { g' with phase } text' :=
  ⟨⟨h.akin.groupId, h.akin.config⟩, h.sound, h.stored_eq⟩

section Quiet

/-- A group that another one has become without a change of the history. -/
structure Unmoved (g g' : Group) : Prop where
  akin : Akin g g'
  history : g'.record.history = g.record.history

/-- Whether an attempt changes neither the history nor what is stored. -/
def Quiet (w : World S) (fuel : Nat) (stored : S → Option String) (a : Action α) : Prop :=
  ∀ text g, Preserves w fuel (Rests stored text (Unmoved g)) a

theorem Quiet.ensures {a : Action α} (ha : Quiet w fuel stored a)
    (hsound : g.record.history.Sound) :
    Ensures w fuel a (fun _ g' s' => Returned (stored s) g false g' (stored s'))
      (fun _ g' s' => Gone (stored s) g g' (stored s')) g s := by
  refine (ha (stored s) g g s ⟨⟨⟨rfl, rfl⟩, rfl⟩, rfl⟩).mono ?_ ?_
  · rintro x g' s' ⟨⟨hakin, hhistory⟩, hstored⟩
    exact ⟨hakin, hhistory ▸ hsound, .inr ⟨rfl, hstored, by rw [hhistory]⟩⟩
  · rintro halt g' s' ⟨⟨hakin, hhistory⟩, hstored⟩
    exact ⟨hakin, hhistory ▸ hsound, .inr hstored⟩

theorem Operation.quiet (hst : Storing w key stored) (op : Operation α)
    (hwrite : ∀ key text, op.asks (.writeStore key text) = false) (hlearn : op.learns = false) :
    Quiet w fuel stored op.action := by
  intro text g₀
  apply op.preserves
  · intro q hq
    cases q with
    | writeStore key text => exact absurd hq (by simp [hwrite])
    | _ => exact outlasts_of_storing hst rfl
  · exact fun h => absurd h (by simp [hlearn])
  · exact fun _ g s phase keyUpdate ⟨⟨hakin, hhistory⟩, hstored⟩ =>
      ⟨⟨⟨hakin.groupId, hakin.config⟩, hhistory⟩, hstored⟩

end Quiet

section Loud

variable (hst : Storing w (storeKey g.config.store.space g.record.groupId) stored)
  (hsound : g.record.history.Sound)

include hst hsound

theorem persist_saves :
    Ensures w fuel persist (fun _ g' s' => Returned (stored s) g true g' (stored s'))
      (fun _ g' s' => Gone (stored s) g g' (stored s')) g s := by
  refine persist_storing hst rfl ?_ ?_ ?_
  · exact fun s' hs' => ⟨⟨rfl, rfl⟩, hsound, .inl hs'⟩
  · exact fun e s₁ s' _ hs' => ⟨⟨rfl, rfl⟩, hsound, .inr hs'⟩
  · exact fun s' hs' => ⟨⟨rfl, rfl⟩, hsound, hs'.symm⟩

theorem fetch_saves :
    Ensures w fuel fetch (fun added g' s' => Returned (stored s) g (0 < added) g' (stored s'))
      (fun _ g' s' => Gone (stored s) g g' (stored s')) g s := by
  simp only [fetch, ensures_bind, ensures_get]
  apply fetchNew_storing hst
  · intro batch h s₁ happend hstored
    obtain ⟨hsound', hkeys⟩ := hsound.of_append_eq_ok happend
    by_cases hadded : 0 < batch.length
    · simp only [if_pos hadded, ensures_bind]
      refine persist_storing (g := g.withHistory h) hst rfl ?_ ?_ ?_
      · exact fun s' hs' => ⟨⟨rfl, rfl⟩, hsound', .inl hs'⟩
      · exact fun e s₂ s' _ hs' => ⟨⟨rfl, rfl⟩, hsound', .inr (hs'.trans hstored)⟩
      · exact fun s' hs' => ⟨⟨rfl, rfl⟩, hsound', hs'.symm.imp_right fun h => h.trans hstored⟩
    · simp only [if_neg hadded, ensures_pure]
      have hnil : batch = [] := List.length_eq_zero_iff.mp (Nat.eq_zero_of_not_pos hadded)
      refine ⟨⟨rfl, rfl⟩, hsound', .inr ⟨decide_eq_false hadded, hstored, ?_⟩⟩
      rw [hkeys, hnil, List.append_nil]
  · exact fun halt s₁ hstored => ⟨⟨rfl, rfl⟩, hsound, .inr hstored⟩

theorem finish_saves :
    Ensures w fuel finish
      (fun outcome g' s' => Returned (stored s) g (0 < outcome.rounds) g' (stored s'))
      (fun _ g' s' => Gone (stored s) g g' (stored s')) g s := by
  by_cases hphase : g.phase = .idle ∨ g.phase = .published
  · apply finish_of_finishPending hphase
    let P : Group → Prop := fun g' => Akin g g' ∧ g'.record.history.Sound
    have hend : ∀ g', P g' → ∀ g'', g'' = g' ∨ g'' = g'.upToDate → P g'' := by
      rintro g' ⟨hakin, hsound'⟩ g'' (rfl | rfl)
      · exact ⟨hakin, hsound'⟩
      · exact ⟨⟨hakin.groupId, hakin.config⟩, hsound'⟩
    have hstart : P { g with phase := .finishing } := ⟨⟨rfl, rfl⟩, hsound⟩
    refine finishPending_storing (P := P) hst ?_ (fun _ h => h.1) hstart ?_ ?_ ?_ ?_ ?_
    · exact fun g' _ _ ⟨hakin, hsound'⟩ happend =>
        ⟨⟨hakin.groupId, hakin.config⟩, (hsound'.of_append_eq_ok happend).1⟩
    · exact fun s' hstored => ⟨⟨rfl, rfl⟩, hsound, .inr ⟨rfl, hstored, rfl⟩⟩
    · intro outcome g' hg' g'' hg'' s' hstored
      obtain ⟨hakin, hsound'⟩ := hend g' hg' g'' hg''
      exact ⟨⟨hakin.groupId, hakin.config⟩, hsound', .inl hstored⟩
    · rintro halt g' s' ⟨hakin, hsound'⟩ hstored
      have hgone : Gone (stored s) g g' (stored s') := ⟨hakin, hsound', .inr hstored⟩
      cases halt with
      | failed e => exact hgone.setPhase _
      | cut => exact hgone
      | exhausted => exact hgone
    · intro g' hg' g'' hg'' e s₁ s' hanswer hstored
      obtain ⟨hakin, hsound'⟩ := hend g' hg' g'' hg''
      exact ⟨⟨hakin.groupId, hakin.config⟩, hsound', .inr hstored⟩
    · intro g' hg' g'' hg'' s' hstored
      obtain ⟨hakin, hsound'⟩ := hend g' hg' g'' hg''
      exact ⟨hakin, hsound', hstored.symm⟩
  · simp only [finish, ensures_bind, ensures_get]
    split
    · exact absurd (.inl ‹_›) hphase
    · exact absurd (.inr ‹_›) hphase
    · exact ⟨⟨rfl, rfl⟩, hsound, .inr rfl⟩

/-- What every operation leaves in the store. -/
theorem Operation.run_saves (op : Operation α) :
    Meets (fun a g' s' => Returned (stored s) g (op.stores a) g' (stored s'))
      (fun _ g' s' => Gone (stored s) g g' (stored s')) (op.run w fuel g s) := by
  cases op with
  | persist => exact persist_saves hst hsound
  | fetch => exact fetch_saves hst hsound
  | invite userId recipientKey =>
      exact ((invite userId recipientKey).quiet hst (fun _ _ => rfl) rfl).ensures hsound
  | listJoins cursor => exact ((listJoins cursor).quiet hst (fun _ _ => rfl) rfl).ensures hsound
  | accept userId recipientKey =>
      exact ((accept userId recipientKey).quiet hst (fun _ _ => rfl) rfl).ensures hsound
  | reject userId => exact ((reject userId).quiet hst (fun _ _ => rfl) rfl).ensures hsound
  | leave => exact (leave.quiet hst (fun _ _ => rfl) rfl).ensures hsound
  | prepare => exact (prepare.quiet hst (fun _ _ => rfl) rfl).ensures hsound
  | publish => exact (publish.quiet hst (fun _ _ => rfl) rfl).ensures hsound
  | rotate => exact (rotate.quiet hst (fun _ _ => rfl) rfl).ensures hsound
  | finish => exact finish_saves hst hsound
  | finishInTime =>
      rw [Operation.run, meets_runWithin]
      have hfinish : Ensures w fuel Group.finish _ _ g (w.startTimer g.config.rotation.timeout s) :=
        finish_saves hst hsound
      simp only [hst.started] at hfinish
      refine hfinish.mono ?_ ?_
      · intro outcome g' s' h
        rw [← hst.stopped s'] at h
        exact h
      · intro halt g' s' h
        rw [← hst.stopped s'] at h
        cases halt with
        | failed e => exact h
        | exhausted => exact h
        | cut =>
            simp only [finishExpired, abandonFinish, Group.setPhase, ensures_bind, ensures_get]
            split
            · exact h.setPhase _
            · exact h

end Loud

end Keyring.Group
