import Keyring.Group.Fetch
import Keyring.Proofs.History.Sound
import Keyring.Proofs.Memory.Settled

namespace Keyring.Group

open Keyring.Memory

variable {S : Type} {w : World S} {view : S → State} {steady : S → Prop} {hindered : Prop}
  {fuel : Nat} {g : Group} {s : S} {X : Halt → Group → S → Prop}

abbrev withHistory (g : Group) (history : History) : Group :=
  { g with record := { g.record with history } }

theorem ensures_append (batch : List Key) {Q : Nat → Group → S → Prop} :
    Attempt.Ensures w fuel (append batch) Q X g s ↔
      match g.record.history.append batch with
      | .ok h => Q batch.length (g.withHistory h) s
      | .error e => X (.failed e) g s := by
  simp only [append, Attempt.ensures_bind, Attempt.ensures_get, Attempt.ensures_settle]
  cases g.record.history.append batch with
  | ok h => simp only [Attempt.ensures_tellAll, Attempt.ensures_bind, Attempt.ensures_set,
      Attempt.ensures_pure]
  | error e => rfl

theorem append_ensures {batch : List Key} (hsound : g.record.history.Sound)
    (hc : Chronicle (g.record.history.keys ++ batch)) {Q : Nat → Group → S → Prop}
    (hQ : ∀ h : History, h.Sound → h.keys = g.record.history.keys ++ batch →
      Q batch.length (g.withHistory h) s) :
    Attempt.Ensures w fuel (append batch) Q X g s := by
  rw [ensures_append, hsound.append_eq hc]
  exact hQ _ (hsound.extend hc) rfl

theorem ensures_fetchNew_empty (hempty : g.record.history.keys = []) {token : String}
    {threshold : UInt64} {Q : Nat → Group → S → Prop} :
    Attempt.Ensures w fuel (fetchNew token threshold) Q X g s ↔
      X (.failed .emptyHistory) g s := by
  have hcursor : g.record.history.cursor = .error .emptyHistory := by
    rw [History.cursor, History.latest, hempty]
    rfl
  simp only [fetchNew, Attempt.ensures_bind, Attempt.ensures_get, Attempt.ensures_settle, hcursor]

theorem ensures_fetchNew {last : Key} (hsound : g.record.history.Sound)
    (hlast : g.record.history.keys.getLast? = some last) (token : String) (threshold : UInt64)
    {Q : Nat → Group → S → Prop} :
    Attempt.Ensures w fuel (fetchNew token threshold) Q X g s ↔
      Attempt.Ensures w fuel
        (Attempt.gather { token, groupId := g.record.groupId, threshold, cursor := last.cursor })
        (fun gathered => Attempt.Ensures w fuel
          (append (gathered.filter fun k => k.id ∉ Key.ids g.record.history.keys)) Q X) X g s := by
  have hfresh : ∀ gathered : List Key,
      (gathered.filter fun k => !g.record.history.contains k.id) =
        gathered.filter fun k => k.id ∉ Key.ids g.record.history.keys := by
    intro gathered
    refine List.filter_congr fun k _ => ?_
    rw [Bool.eq_iff_iff, Bool.not_eq_true', Bool.eq_false_iff, decide_eq_true_iff, Ne,
      hsound.contains_iff]
  simp only [fetchNew, Attempt.ensures_bind, Attempt.ensures_get, Attempt.ensures_settle,
    History.cursor_eq hlast, hfresh]
  refine iff_of_eq (congrArg (fun Q => Attempt.Ensures w fuel _ Q X g s) ?_)
  funext gathered g' s'
  split
  · simp only [Attempt.ensures_bind, Attempt.ensures_notice]
  · rfl

theorem fetchNew_of_gather {last : Key} (hsound : g.record.history.Sound)
    (hlast : g.record.history.keys.getLast? = some last) (token : String) (threshold : UInt64)
    {Q : Nat → Group → S → Prop}
    (h : Attempt.Ensures w fuel
      (Attempt.gather { token, groupId := g.record.groupId, threshold, cursor := last.cursor })
      (fun batch g' s' => g' = g ∧ Chronicle (g.record.history.keys ++ batch) ∧
        ∀ history : History, history.Sound → history.keys = g.record.history.keys ++ batch →
          Q batch.length (g.withHistory history) s') X g s) :
    Attempt.Ensures w fuel (fetchNew token threshold) Q X g s := by
  refine (ensures_fetchNew hsound hlast token threshold).mpr (h.mono ?_ fun _ _ _ h => h)
  rintro batch g' s' ⟨rfl, hc, hQ⟩
  have hfresh : (batch.filter fun k => k.id ∉ Key.ids g'.record.history.keys) = batch := by
    rw [List.filter_eq_self]
    exact fun k hk => decide_eq_true (hc.not_mem_ids hk)
  rw [hfresh]
  exact append_ensures hsound hc hQ

/-- A member whose history is a prefix of the log has the whole log after fetching. -/
theorem fetchNew_ensures (hf : Follows w view steady hindered) (hs : steady s)
    (hplain : Follows.Plain (view s)) (hsound : g.record.history.Sound)
    (hne : g.record.history.keys ≠ []) (hheld : g.record.history.keys <+: (view s).server.log)
    (hc : Chronicle (view s).server.log) (hfuel : 2 ≤ fuel) (token : String) (threshold : UInt64)
    {Q : Nat → Group → S → Prop}
    (hQ : ∀ n (h : History) s', h.Sound → h.keys = (view s).server.log → view s' = view s →
      steady s' → Q n (g.withHistory h) s')
    (hX : hindered → ∀ halt s', view s' = view s → steady s' → X halt g s') :
    Attempt.Ensures w fuel (fetchNew token threshold) Q X g s := by
  obtain ⟨rest, hlog⟩ := hheld
  have hlast := List.getLast?_eq_some_getLast hne
  rw [← hlog] at hc
  apply fetchNew_of_gather hsound hlast token threshold
  refine hf.ensures_gather hs hplain hlog.symm hc hlast hfuel token _ threshold ?_ hX
  intro s' hview hsteady
  exact ⟨rfl, hc, fun h hsound' hkeys => hQ _ h s' hsound' (hkeys.trans hlog) hview hsteady⟩

end Keyring.Group
