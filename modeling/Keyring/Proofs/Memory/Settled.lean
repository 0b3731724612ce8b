import Keyring.Memory.World
import Keyring.Proofs.Memory.Log
import Keyring.Proofs.Program.Ensures

/-!
Worlds that answer as a simulation does, unless they are hindered: a request may then fail or go
unanswered, without a trace in the simulation. What a request does is said of the settled
simulation, in which nothing fails and nothing waits.
-/

namespace Keyring.Memory

/-- A simulation without faults, delays, clock, and counts of what has been asked. -/
def State.settled (s : State) : State where
  server := { s.server with failing := false, delay := none, cursors := [] }
  engine := { s.engine with failing := false, derivations := 0 }
  store := s.store
  clock := {}

/-- A world whose states, as long as they are `steady`, show a settled simulation. Every request is
answered as in the simulation, or, if the world is `hindered`, fails or stays unanswered. -/
structure Follows {S : Type} (w : World S) (view : S → State) (steady : S → Prop)
    (hindered : Prop) : Prop where
  answer : ∀ q s, steady s →
    steady (w.answer q s).2 ∧
      ((∃ r t, (w.answer q s).1 = some r ∧ State.answer q (view s) = (some r, t) ∧
          t.settled = view (w.answer q s).2) ∨
        (hindered ∧ view (w.answer q s).2 = view s ∧
          ∀ r, (w.answer q s).1 = some r → ∃ e, r = .error e))
  settled_view : ∀ s, (view s).settled = view s

namespace Follows

variable {S σ : Type} {w : World S} {view : S → State} {steady : S → Prop} {hindered : Prop}
  {fuel : Nat} {g : σ} {s : S} {X : Halt → σ → S → Prop}

theorem ensures_request (hf : Follows w view steady hindered) (hs : steady s) (q : Request)
    {x : q.Answer} {t : State} (ht : State.answer q (view s) = (some (.ok x), t))
    {Q : q.Answer → σ → S → Prop}
    (hQ : ∀ s', view s' = t.settled → steady s' → Q x g s')
    (hX : hindered → ∀ halt s', view s' = view s → steady s' → X halt g s') :
    Attempt.Ensures w fuel (Attempt.request q) Q X g s := by
  rw [Attempt.ensures_request]
  obtain ⟨hsteady, hanswer⟩ := hf.answer q s hs
  rcases hw : w.answer q s with ⟨r, s'⟩
  rw [hw] at hsteady hanswer
  rcases hanswer with ⟨r', t', hr, ht', hview⟩ | ⟨hhindered, hview, herror⟩
  · rw [ht] at ht'
    obtain ⟨hx, rfl⟩ := Prod.mk.inj ht'
    obtain rfl := Option.some.inj hx
    simp only at hr hview
    rw [hr]
    exact hQ s' hview.symm hsteady
  · match r, herror with
    | none, _ => exact hX hhindered .cut s' hview hsteady
    | some r, herror =>
        obtain ⟨e, rfl⟩ := herror r rfl
        exact hX hhindered (.failed e) s' hview hsteady

theorem ensures_pendingOutputs (hf : Follows w view steady hindered) (hs : steady s)
    (token groupId : String) {Q : List Rotation.Output → σ → S → Prop}
    (hQ : ∀ s', view s' = view s → steady s' → Q (view s).server.pending g s')
    (hX : hindered → ∀ halt s', view s' = view s → steady s' → X halt g s') :
    Attempt.Ensures w fuel (Attempt.request (.pendingOutputs token groupId)) Q X g s :=
  hf.ensures_request hs _ rfl (fun s' hview => hQ s' (hview.trans (hf.settled_view s))) hX

theorem ensures_deriveKey (hf : Follows w view steady hindered) (hs : steady s) {preKey : Key}
    {output : Rotation.Output} (actor : Actor) (hid : preKey.id = output.preKeyId)
    {Q : Key → σ → S → Prop}
    (hQ : ∀ s', view s' = view s → steady s' → Q (Engine.rotatedKey preKey output actor) g s')
    (hX : hindered → ∀ halt s', view s' = view s → steady s' → X halt g s') :
    Attempt.Ensures w fuel (Attempt.request (.deriveKey preKey output actor)) Q X g s := by
  have hfailing : (view s).engine.failing = false :=
    (congrArg (fun t => t.engine.failing) (hf.settled_view s)).symm
  have hderive : State.answer (.deriveKey preKey output actor) (view s) =
      (some (.ok (Engine.rotatedKey preKey output actor)),
        { view s with
          engine := { (view s).engine with derivations := (view s).engine.derivations + 1 } }) := by
    simp only [State.answer, Engine.derive, hfailing, hid, ne_eq, not_true_eq_false, if_false]
    rfl
  exact hf.ensures_request hs _ hderive
    (fun s' hview => hQ s' (hview.trans (hf.settled_view s))) hX

theorem ensures_commitKey (hf : Follows w view steady hindered) (hs : steady s)
    (token groupId : String) (output : Rotation.Output) (key : Key) {Q : Unit → σ → S → Prop}
    (hQ : ∀ s', view s' = { view s with server := (view s).server.commit output key } →
      steady s' → Q () g s')
    (hX : hindered → ∀ halt s', view s' = view s → steady s' → X halt g s') :
    Attempt.Ensures w fuel (Attempt.request (.commitKey token groupId output key)) Q X g s := by
  refine hf.ensures_request hs _ rfl (fun s' hview => hQ s' (hview.trans ?_)) hX
  have hsettled := hf.settled_view s
  rw [← hsettled]
  rfl

theorem ensures_writeStore (hf : Follows w view steady hindered) (hs : steady s)
    (key value : String) {Q : Unit → σ → S → Prop}
    (hQ : ∀ s', view s' = { view s with store := (view s).store.set key value } →
      steady s' → Q () g s')
    (hX : hindered → ∀ halt s', view s' = view s → steady s' → X halt g s') :
    Attempt.Ensures w fuel (Attempt.request (.writeStore key value)) Q X g s := by
  have hsettled := hf.settled_view s
  rw [← hsettled] at hQ
  have hwrite : State.answer (.writeStore key value) (view s) =
      (some (.ok ()), { view s with
        store := (view s).store.set key value, clock := { stops := turnLength - 1 } }) := by
    rw [← hsettled]
    rfl
  refine hf.ensures_request hs _ hwrite (fun s' hview => hQ s' (hview.trans ?_)) hX
  rw [← hsettled]
  rfl

/-- Whether the settled simulation gives fetches the keys of its log, and no others. -/
def Plain (t : State) : Prop :=
  t.server.delayed = [] ∧ t.server.scripted = []

theorem ensures_gather_succ (hf : Follows w view steady hindered) (hs : steady s)
    (hplain : Plain (view s)) (sweep : Sweep) {Q : List Key → σ → S → Prop}
    (hQ : ∀ s', view s' = view s → steady s' →
      match sweep.take (Server.keysAfter (view s).server.log sweep.cursor) with
      | .inl sweep => Attempt.Ensures w fuel (Attempt.gather sweep) Q X g s'
      | .inr keys => Q keys g s')
    (hX : hindered → ∀ halt s', view s' = view s → steady s' → X halt g s') :
    Attempt.Ensures w (fuel + 1) (Attempt.gather sweep) Q X g s := by
  have hsettled := hf.settled_view s
  have hfetch : ∃ t, State.answer sweep.request (view s) =
      (some (.ok (Server.keysAfter (view s).server.log sweep.cursor)), t) ∧
        t.settled = view s := by
    obtain ⟨hdelayed, hscripted⟩ := hplain
    rw [← hsettled] at hdelayed hscripted ⊢
    simp only [State.settled] at hdelayed hscripted
    simp [Sweep.request, State.answer, State.behind, State.fetchStop, State.settled, Server.fetch,
      hdelayed, hscripted]
  obtain ⟨t, ht, hview⟩ := hfetch
  rw [Attempt.ensures_gather_succ]
  exact hf.ensures_request hs _ ht (fun s' hview' => hQ s' (hview'.trans hview)) hX

/-- A fetch loop from the end of a prefix of the log gathers the rest of the log. -/
theorem ensures_gather (hf : Follows w view steady hindered) (hs : steady s)
    (hplain : Plain (view s)) {keys rest : List Key} (hlog : (view s).server.log = keys ++ rest)
    (hc : Chronicle (keys ++ rest)) {last : Key} (hlast : keys.getLast? = some last)
    (hfuel : 2 ≤ fuel) (token groupId : String) (threshold : UInt64)
    {Q : List Key → σ → S → Prop}
    (hQ : ∀ s', view s' = view s → steady s' → Q rest g s')
    (hX : hindered → ∀ halt s', view s' = view s → steady s' → X halt g s') :
    Attempt.Ensures w fuel
      (Attempt.gather { token, groupId, threshold, cursor := last.cursor }) Q X g s := by
  obtain ⟨fuel, rfl⟩ : ∃ n, fuel = n + 2 := ⟨fuel - 2, by omega⟩
  refine hf.ensures_gather_succ hs hplain _ (fun s₁ hview₁ hsteady₁ => ?_) hX
  rw [hlog, Server.keysAfter_append hc hlast]
  rcases Sweep.take_cases _ rest with ⟨-, htake⟩ | ⟨last', -, hrest, htake⟩
  · rw [htake]
    simpa [Sweep.gathered] using hQ s₁ hview₁ hsteady₁
  · -- A batch that is not short leads to a second request, which finds nothing more.
    rw [htake]
    refine hf.ensures_gather_succ hsteady₁ (hview₁ ▸ hplain) _ (fun s₂ hview₂ hsteady₂ => ?_)
      fun hh halt s₂ hview₂ => hX hh halt s₂ (hview₂.trans hview₁)
    have hlast₂ : (keys ++ rest).getLast? = some last' := by
      rw [List.getLast?_append, hrest]
      rfl
    rw [hview₁, hlog, Server.keysAfter_last hc hlast₂, Sweep.take_of_final (.inl rfl)]
    simpa [Sweep.gathered] using hQ s₂ (hview₂.trans hview₁) hsteady₂

end Follows

end Keyring.Memory
