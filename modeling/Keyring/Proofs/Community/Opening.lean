import Mathlib.Logic.Function.Basic
import Keyring.Community.Basic
import Keyring.Key.Sample
import Keyring.Proofs.Group.StoredHistory
import Keyring.Proofs.Memory.Untimed

/-!
Groups that are opened through one registry by any number of calls at the same time. An opening
looks for the group in the registry, loads it, and enters it unless the registry has it by then;
between two of its steps all other calls may take theirs.
-/

namespace Keyring

namespace Community

theorem registry_setRegistry (cm : Community) (store : String) (r : Registry Handle) :
    (cm.setRegistry store r).registry store = r := by
  rw [registry, setRegistry, named, Assoc.lookup_put_self, Option.getD_some]

theorem registry_load (cm : Community) (store groupId : String) (actor : Actor) :
    (cm.load store groupId actor).2.2.registry store = cm.registry store :=
  rfl

inductive Call where
  | openGroup (groupId : String) (actor : Actor)
  | insert (g : Group)
  | get (groupId : String)
  | remove (groupId : String)

inductive Stage where
  | waiting
  /-- The registry did not have the group. -/
  | missed
  | loaded (g : Group)
  | ended (r : Except Failure (Option Handle))

namespace Call

def groupId : Call → String
  | openGroup groupId _ => groupId
  | insert g => g.record.groupId
  | get groupId => groupId
  | remove groupId => groupId

/-- Whether a call puts another handle in the place of the one that a group has, or none. -/
def Displaces (c : Call) (groupId : String) : Prop :=
  (∃ g, c = insert g ∧ g.record.groupId = groupId) ∨ c = remove groupId

theorem not_displaces_openGroup (groupId : String) (actor : Actor) (id : String) :
    ¬ (openGroup groupId actor).Displaces id := by
  rintro (⟨g, hg, -⟩ | hremove)
  · exact nomatch hg
  · exact nomatch hremove

/-- The next step of a call, if it has not ended. -/
def advance (store : String) : Call → Stage → Community → Option (Stage × Community)
  | openGroup groupId _, .waiting, cm =>
    match cm.lookUp store groupId with
    | (some h, cm) => some (.ended (.ok (some h)), cm)
    | (none, cm) => some (.missed, cm)
  | openGroup groupId actor, .missed, cm =>
    match cm.load store groupId actor with
    | (.finished (.ok g), _, cm) => some (.loaded g, cm)
    | (.finished (.error e), _, cm) => some (.ended (.error e), cm)
    | (_, _, cm) => some (.ended (.error (.store "not loaded")), cm)
  | openGroup groupId _, .loaded g, cm =>
    let (h, _, cm) := cm.register store groupId g
    some (.ended (.ok (some h)), cm)
  | insert g, .waiting, cm =>
    let (cm, h) := cm.addCell ⟨g, store⟩
    some (.ended (.ok (some h)), cm.enter store g.record.groupId h)
  | get groupId, .waiting, cm =>
    let (h, cm) := cm.lookUp store groupId
    some (.ended (.ok h), cm)
  | remove groupId, .waiting, cm =>
    let (h, cm) := cm.remove store groupId
    some (.ended (.ok h), cm)
  | _, _, _ => none

/-- What a step of a call does to the registry. -/
inductive Effect (r : Registry Handle) : Call → Stage → Stage → Registry Handle → Prop where
  | found {groupId : String} {actor : Actor} {h : Handle} (hfound : r.get? groupId = some h) :
      Effect r (openGroup groupId actor) .waiting (.ended (.ok (some h))) r
  | missed {groupId : String} {actor : Actor} (hmissed : r.get? groupId = none) :
      Effect r (openGroup groupId actor) .waiting .missed r
  | loaded {groupId : String} {actor : Actor} (g : Group) :
      Effect r (openGroup groupId actor) .missed (.loaded g) r
  | failed {groupId : String} {actor : Actor} (e : Failure) :
      Effect r (openGroup groupId actor) .missed (.ended (.error e)) r
  | registered {groupId : String} {actor : Actor} {g : Group} (fresh : Handle) :
      Effect r (openGroup groupId actor) (.loaded g)
        (.ended (.ok (some (r.insertIfAbsent groupId fresh).2))) (r.insertIfAbsent groupId fresh).1
  | inserted {g : Group} (h : Handle) :
      Effect r (insert g) .waiting (.ended (.ok (some h))) (r.insert g.record.groupId h)
  | got {groupId : String} : Effect r (get groupId) .waiting (.ended (.ok (r.get? groupId))) r
  | removed {groupId : String} :
      Effect r (remove groupId) .waiting (.ended (.ok (r.get? groupId))) (r.remove groupId)

variable {store id : String} {c : Call} {stage stage' : Stage} {cm cm' : Community}

theorem effect_advance (h : c.advance store stage cm = some (stage', cm')) :
    Effect (cm.registry store) c stage stage' (cm'.registry store) := by
  cases c with
  | openGroup groupId actor =>
      cases stage with
      | waiting =>
          simp only [advance, lookUp] at h
          split at h
          next handle _ heq =>
            obtain ⟨hfound, rfl⟩ := Prod.mk.inj heq
            obtain ⟨rfl, rfl⟩ := Prod.mk.inj (Option.some.inj h)
            exact .found hfound
          next heq =>
            obtain ⟨hmissed, rfl⟩ := Prod.mk.inj heq
            obtain ⟨rfl, rfl⟩ := Prod.mk.inj (Option.some.inj h)
            exact .missed hmissed
      | missed =>
          have hload := registry_load cm store groupId actor
          rw [advance] at h
          split at h
          next g _ _ heq =>
            obtain ⟨rfl, rfl⟩ := Prod.mk.inj (Option.some.inj h)
            rw [heq] at hload
            rw [hload]
            exact .loaded g
          next e _ _ heq =>
            obtain ⟨rfl, rfl⟩ := Prod.mk.inj (Option.some.inj h)
            rw [heq] at hload
            rw [hload]
            exact .failed e
          next heq =>
            obtain ⟨rfl, rfl⟩ := Prod.mk.inj (Option.some.inj h)
            rw [heq] at hload
            rw [hload]
            exact .failed _
      | loaded g =>
          obtain ⟨rfl, rfl⟩ := Prod.mk.inj (Option.some.inj h)
          rw [registry_setRegistry]
          exact .registered _
      | ended => exact nomatch h
  | insert g =>
      cases stage with
      | waiting =>
          obtain ⟨rfl, rfl⟩ := Prod.mk.inj (Option.some.inj h)
          rw [enter, registry_setRegistry]
          exact .inserted _
      | missed => exact nomatch h
      | loaded => exact nomatch h
      | ended => exact nomatch h
  | get groupId =>
      cases stage with
      | waiting =>
          obtain ⟨rfl, rfl⟩ := Prod.mk.inj (Option.some.inj h)
          exact .got
      | missed => exact nomatch h
      | loaded => exact nomatch h
      | ended => exact nomatch h
  | remove groupId =>
      cases stage with
      | waiting =>
          obtain ⟨rfl, rfl⟩ := Prod.mk.inj (Option.some.inj h)
          rw [registry_setRegistry]
          exact .removed
      | missed => exact nomatch h
      | loaded => exact nomatch h
      | ended => exact nomatch h

namespace Effect

variable {r r' : Registry Handle}

theorem get?_of_ended {result : Option Handle} (he : Effect r c stage (.ended (.ok result)) r')
    (hc : c ≠ remove c.groupId) : r'.get? c.groupId = result := by
  cases he with
  | found hfound => exact hfound
  | registered fresh => exact r.get?_insertIfAbsent_self _ fresh
  | inserted h => exact r.get?_insert_self _ h
  | got => rfl
  | removed => exact absurd rfl hc

theorem get?_of_ne (he : Effect r c stage stage' r') (hid : id ≠ c.groupId) :
    r'.get? id = r.get? id := by
  cases he with
  | found | missed | loaded | failed | got => rfl
  | registered fresh => exact r.get?_insertIfAbsent_of_ne hid fresh
  | inserted h => exact r.get?_insert_of_ne hid h
  | removed => exact r.get?_remove_of_ne hid

theorem keeps {h : Handle} (he : Effect r c stage stage' r') (hc : ¬ c.Displaces id)
    (hr : r.get? id = some h) : r'.get? id = some h := by
  by_cases hid : id = c.groupId
  · subst hid
    cases he with
    | found | missed | loaded | failed | got => exact hr
    | registered fresh =>
        simp only [groupId] at hr ⊢
        rw [Registry.insertIfAbsent_of_get? hr]
        exact hr
    | inserted => exact absurd (.inl ⟨_, rfl, rfl⟩) hc
    | removed => exact absurd (.inr rfl) hc
  · rw [he.get?_of_ne hid, hr]

theorem ended_of_waiting {actor : Actor} {h : Handle}
    (he : Effect r (openGroup id actor) .waiting stage' r') (hr : r.get? id = some h) :
    stage' = .ended (.ok (some h)) := by
  cases he with
  | found hfound =>
      obtain rfl := Option.some.inj (hfound.symm.trans hr)
      rfl
  | missed hmissed => exact nomatch hmissed.symm.trans hr

theorem eq_or_ended {actor : Actor} (he : Effect r (openGroup id actor) stage stage' r') :
    r' = r ∨ ∃ h, stage' = .ended (.ok (some h)) := by
  cases he with
  | found | missed | loaded | failed => exact .inl rfl
  | registered fresh => exact .inr ⟨_, rfl⟩

end Effect

end Call

/-- Calls under way in a community. -/
structure Traffic (κ : Type) where
  community : Community
  stage : κ → Stage

namespace Traffic

variable {κ : Type} [DecidableEq κ]

/-- A step of one call, or of something else that leaves the registry of the store alone. -/
inductive Step (store : String) (calls : κ → Call) : Option κ → Traffic κ → Traffic κ → Prop where
  | move (k : κ) {t : Traffic κ} {stage : Stage} {cm : Community}
      (h : (calls k).advance store (t.stage k) t.community = some (stage, cm)) :
      Step store calls (some k) t ⟨cm, Function.update t.stage k stage⟩
  | other {t : Traffic κ} {cm : Community}
      (h : cm.registry store = t.community.registry store) :
      Step store calls none t { t with community := cm }

/-- Steps in a row, with the calls that take them. -/
inductive Steps (store : String) (calls : κ → Call) :
    List (Option κ) → Traffic κ → Traffic κ → Prop where
  | nil {t : Traffic κ} : Steps store calls [] t t
  | snoc {ks : List (Option κ)} {k : Option κ} {t₀ t t' : Traffic κ}
      (hsteps : Steps store calls ks t₀ t) (hstep : Step store calls k t t') :
      Steps store calls (ks ++ [k]) t₀ t'

def handle? (store : String) (t : Traffic κ) (groupId : String) : Option Handle :=
  (t.community.registry store).get? groupId

variable {store id : String} {calls : κ → Call} {t t' t₁ : Traffic κ} {k : κ}
  {ks : List (Option κ)}

theorem Step.effect (h : Step store calls (some k) t t') :
    Call.Effect (t.community.registry store) (calls k) (t.stage k) (t'.stage k)
      (t'.community.registry store) := by
  cases h with
  | move _ h => simpa only [Function.update_self] using Call.effect_advance h

theorem Step.keeps {l : Option κ} {h : Handle} (hstep : Step store calls l t t')
    (hl : ∀ k, l = some k → ¬ (calls k).Displaces id) (ht : t.handle? store id = some h) :
    t'.handle? store id = some h := by
  cases hstep with
  | move k hmove => exact (Call.effect_advance hmove).keeps (hl k rfl) ht
  | other hother =>
      rw [handle?, hother]
      exact ht

theorem Steps.keeps {h : Handle} (hsteps : Steps store calls ks t t')
    (hks : ∀ k, some k ∈ ks → ¬ (calls k).Displaces id) (ht : t.handle? store id = some h) :
    t'.handle? store id = some h := by
  induction hsteps with
  | nil => exact ht
  | snoc hsteps hstep ih =>
      refine hstep.keeps (fun k hk => ?_) (ih (fun k hk => ?_) ht)
      · exact hks k (List.mem_append_right _ (hk ▸ List.mem_singleton_self _))
      · exact hks k (List.mem_append_left _ hk)

theorem Step.ended {l : Option κ} {r : Except Failure (Option Handle)}
    (hstep : Step store calls l t t') (ht : t.stage k = .ended r) : t'.stage k = .ended r := by
  cases hstep with
  | move j hmove =>
      by_cases hj : k = j
      · subst hj
        rw [ht] at hmove
        have hnone : (calls k).advance store (.ended r) t.community = none := by
          cases calls k <;> rfl
        exact nomatch hnone.symm.trans hmove
      · exact (Function.update_of_ne hj _ _).trans ht
  | other => exact ht

theorem Steps.ended {r : Except Failure (Option Handle)} (hsteps : Steps store calls ks t t')
    (ht : t.stage k = .ended r) : t'.stage k = .ended r := by
  induction hsteps with
  | nil => exact ht
  | snoc _ hstep ih => exact hstep.ended (ih ht)

theorem Steps.move {cm cm' : Community} {stages : κ → Stage} {stage stage' : Stage}
    (hsteps : Steps store calls ks t ⟨cm, Function.update stages k stage⟩)
    (h : (calls k).advance store stage cm = some (stage', cm')) :
    Steps store calls (ks ++ [some k]) t ⟨cm', Function.update stages k stage'⟩ := by
  have hstep : Step store calls (some k) ⟨cm, Function.update stages k stage⟩
      ⟨cm', Function.update (Function.update stages k stage) k stage'⟩ :=
    .move k (by simpa only [Function.update_self] using h)
  rw [Function.update_idem] at hstep
  exact hsteps.snoc hstep

/-- The steps of an opening between which nothing happens lead where the whole opening leads. -/
theorem steps_openGroup {actor : Actor} (hk : calls k = .openGroup id actor)
    (ht : t.stage k = .waiting) : ∃ ks, (∀ l ∈ ks, l = some k) ∧
      Steps store calls ks t ⟨(t.community.openGroup store id actor).2.2,
        Function.update t.stage k
          (.ended ((t.community.openGroup store id actor).1.map some))⟩ := by
  obtain ⟨cm, stages⟩ := t
  have hstart : Steps store calls [] ⟨cm, stages⟩ ⟨cm, Function.update stages k .waiting⟩ := by
    rw [← ht, Function.update_eq_self]
    exact .nil
  rcases hlook : cm.lookUp store id with ⟨_ | h, cm₁⟩
  · have hmissed : Steps store calls [some k] ⟨cm, stages⟩
        ⟨cm₁, Function.update stages k .missed⟩ :=
      hstart.move (by rw [hk, Call.advance, hlook])
    rcases hload : cm₁.load store id actor with ⟨(e | g) | _ | _, trace, cm₂⟩
    · refine ⟨[some k, some k], by simp, ?_⟩
      simp only [openGroup, hlook, hload]
      exact hmissed.move (by rw [hk, Call.advance, hload]; rfl)
    · refine ⟨[some k, some k, some k], by simp, ?_⟩
      simp only [openGroup, hlook, hload]
      have hloaded : Steps store calls [some k, some k] ⟨cm, stages⟩
          ⟨cm₂, Function.update stages k (.loaded g)⟩ :=
        hmissed.move (by rw [hk, Call.advance, hload])
      exact hloaded.move (by rw [hk, Call.advance]; rfl)
    all_goals
      refine ⟨[some k, some k], by simp, ?_⟩
      simp only [openGroup, hlook, hload]
      exact hmissed.move (by rw [hk, Call.advance, hload]; rfl)
  · refine ⟨[some k], by simp, ?_⟩
    simp only [openGroup, hlook]
    exact hstart.move (by rw [hk, Call.advance, hlook]; rfl)

theorem Step.handle?_of_ended {result : Option Handle} (hstep : Step store calls (some k) t t')
    (hk : calls k ≠ .remove (calls k).groupId) (hended : t'.stage k = .ended (.ok result)) :
    t'.handle? store (calls k).groupId = result := by
  have heffect := hstep.effect
  rw [hended] at heffect
  exact heffect.get?_of_ended hk

section Opening

variable {actor : Actor}

theorem Step.handle?_of_opened {h : Handle} (hk : calls k = .openGroup id actor)
    (hstep : Step store calls (some k) t t') (hended : t'.stage k = .ended (.ok (some h))) :
    t'.handle? store id = some h := by
  have hlast := hstep.handle?_of_ended (by rw [hk]; exact nofun) hended
  rwa [hk] at hlast

/-- An opening of a group that the registry has leaves the handle; it comes to the same one if it
succeeds, and that at once if it only begins. -/
theorem Step.shares {h : Handle} (hk : calls k = .openGroup id actor)
    (ht : t.handle? store id = some h) (hstep : Step store calls (some k) t t') :
    t'.handle? store id = some h ∧
    (t.stage k = .waiting → t'.stage k = .ended (.ok (some h))) ∧
    ∀ result, t'.stage k = .ended (.ok result) → result = some h := by
  have hkept : t'.handle? store id = some h := by
    refine hstep.keeps (fun l hl => ?_) ht
    obtain rfl := Option.some.inj hl
    rw [hk]
    exact Call.not_displaces_openGroup id actor id
  refine ⟨hkept, fun hwaiting => ?_, fun result hresult => ?_⟩
  · have heffect := hstep.effect
    rw [hk, hwaiting] at heffect
    exact heffect.ended_of_waiting ht
  · have hlast := hstep.handle?_of_ended (by rw [hk]; exact nofun) hresult
    rw [hk] at hlast
    exact hlast.symm.trans hkept

theorem Step.registry_of_failed {e : Failure} (hk : calls k = .openGroup id actor)
    (hstep : Step store calls (some k) t t₁) (hsteps : Steps store calls ks t₁ t')
    (hfailed : t'.stage k = .ended (.error e)) :
    t₁.community.registry store = t.community.registry store := by
  have heffect := hstep.effect
  rw [hk] at heffect
  rcases heffect.eq_or_ended with heq | ⟨h, hended⟩
  · exact heq
  · exact nomatch hfailed.symm.trans (hsteps.ended hended)

end Opening

/-- While a group is neither inserted nor removed, openings of it share one handle. What a call
gives is what the registry has at the call's last step; once an opening has succeeded, its handle
stays, every opening that begins then has it at once, and every other one that succeeds has it, too;
an opening that fails has changed nothing; and no call touches the handle of another group. -/
theorem openings_share_handle (store : String) (calls : κ → Call) :
    (∀ {k t t' result}, Step store calls (some k) t t' → calls k ≠ .remove (calls k).groupId →
      t'.stage k = .ended (.ok result) → t'.handle? store (calls k).groupId = result) ∧
    (∀ {id actor k h ks t t₁ t'}, calls k = .openGroup id actor →
      Step store calls (some k) t t₁ → t₁.stage k = .ended (.ok (some h)) →
      Steps store calls ks t₁ t' → (∀ j, some j ∈ ks → ¬ (calls j).Displaces id) →
      t'.handle? store id = some h ∧
        ∀ {j actor' t''}, calls j = .openGroup id actor' → Step store calls (some j) t' t'' →
          t''.handle? store id = some h ∧
          (t'.stage j = .waiting → t''.stage j = .ended (.ok (some h))) ∧
          ∀ result, t''.stage j = .ended (.ok result) → result = some h) ∧
    (∀ {id actor k e ks t t₁ t'}, calls k = .openGroup id actor →
      Step store calls (some k) t t₁ → Steps store calls ks t₁ t' →
      t'.stage k = .ended (.error e) →
      t₁.community.registry store = t.community.registry store) ∧
    ∀ {k id t t'}, Step store calls (some k) t t' → id ≠ (calls k).groupId →
      t'.handle? store id = t.handle? store id := by
  refine ⟨Step.handle?_of_ended, ?_, Step.registry_of_failed, ?_⟩
  · intro id actor k h ks t t₁ t' hk hstep hended hsteps hks
    have hkept := hsteps.keeps hks (hstep.handle?_of_opened hk hended)
    exact ⟨hkept, fun hj hstep' => hstep'.shares hj hkept⟩
  · intro k id t t' hstep hid
    exact hstep.effect.get?_of_ne hid

section Race

open Keyring.Group Memory

theorem load_of_stored (cm : Community) (store groupId : String) (actor : Actor)
    (hfaults : cm.faults = []) (hclock : cm.clock.deadline = none) {text : String} {r : Record}
    (hstored : (cm.store store).get? (storeKey cm.config.store.space groupId) = some text)
    (hread : (Record.restore text).2 = .ok r) :
    ∃ trace clock, clock.deadline = none ∧ cm.load store groupId actor =
      (.finished (.ok { record := r, actor, config := cm.config }), trace,
        { cm.setStore store (cm.store store) with clock }) := by
  obtain ⟨clock, hdeadline, hbehind⟩ := State.behind_untimed Clock.passes_giveWay
    (s := (cm.memory store).2) hclock fun s =>
      ((.ok (s.store.get? (storeKey cm.config.store.space groupId)) :
        Except Failure (Option String)), s)
  have hanswer : Community.world.answer (.readStore (storeKey cm.config.store.space groupId))
      (cm.memory store) = (some (.ok (some text)), ([], { (cm.memory store).2 with clock })) := by
    rw [Community.world, withFaults, memory, hfaults]
    refine (congrArg (fun r => (r.1, ([], r.2))) hbehind).trans ?_
    rw [← hstored]
    rfl
  have hload : Attempt.Ensures Community.world 0 (Group.load groupId actor cm.config)
      (fun g x s => g = { record := r, actor, config := cm.config } ∧ x = () ∧
        s = ([], { (cm.memory store).2 with clock }))
      (fun _ _ _ => False) () (cm.memory store) := by
    refine load_ensures (storing_withFaults (storing_world _)) hanswer ?_ ?_ ?_
    · intro hnone
      simpa using hnone.symm.trans hstored
    · intro text' r' htext' hread'
      obtain rfl := Option.some.inj (htext'.symm.trans hstored)
      obtain rfl := Except.ok.inj (hread'.symm.trans hread)
      exact ⟨rfl, rfl, rfl⟩
    · intro text' e htext' hread'
      obtain rfl := Option.some.inj (htext'.symm.trans hstored)
      simpa using hread'.symm.trans hread
  obtain ⟨_, _, _, trace, hrun, rfl, rfl, rfl⟩ := hload.exists_run
  refine ⟨trace, clock, hdeadline, ?_⟩
  simp only [load, hrun, absorb]
  rw [← hfaults]
  rfl

def raceRecord : Record :=
  .make "g" 1 (History.empty.extend [.sample "a" 1])

def raceCommunity : Community where
  config := {}
  stores := [("main", ⟨[(storeKey "group_data" "g", raceRecord.save)], 1⟩)]

def racers (_ : Bool) : Call :=
  .openGroup "g" ⟨"u", "", "", "t"⟩

theorem openings_share_handle_race : ∃ h t,
    Steps "main" racers [some false, some true, some false, some true, some false, some true]
      ⟨raceCommunity, fun _ => .waiting⟩ t ∧
    t.stage false = .ended (.ok (some h)) ∧ t.stage true = .ended (.ok (some h)) ∧
    t.handle? "main" "g" = some h := by
  have hread : (Record.restore raceRecord.save).2 = .ok raceRecord.reindexed := by
    rw [Record.restore_save]
    exact .ofKeys ⟨by decide, by decide⟩
  have hloads {cm cm' : Community} {k : Bool} {g : Group} {trace : List Event}
      (h : cm.load "main" "g" ⟨"u", "", "", "t"⟩ = (.finished (.ok g), trace, cm')) :
      (racers k).advance "main" .missed cm = some (.loaded g, cm') := by
    rw [racers, Call.advance, h]
  obtain ⟨_, clock₁, hclock₁, hload₁⟩ :=
    load_of_stored raceCommunity.hold.hold "main" "g" ⟨"u", "", "", "t"⟩ rfl rfl rfl hread
  obtain ⟨_, clock₂, -, hload₂⟩ := load_of_stored
    { raceCommunity.setStore "main" (raceCommunity.store "main") with clock := clock₁ }
    "main" "g" ⟨"u", "", "", "t"⟩ rfl hclock₁ rfl hread
  have hstart : Steps "main" racers [] ⟨raceCommunity, fun _ => .waiting⟩
      ⟨raceCommunity, fun _ => .waiting⟩ := .nil
  have hlooked := (hstart.snoc (.move false rfl)).snoc (.move true rfl)
  obtain ⟨t, g, hloaded, hstage, hstage'⟩ : ∃ t g,
      Steps "main" racers [some false, some true, some false, some true]
        ⟨raceCommunity, fun _ => .waiting⟩ t ∧
      t.stage false = .loaded g ∧ t.stage true = .loaded g :=
    ⟨_, _, (hlooked.snoc (.move false (hloads hload₁))).snoc (.move true (hloads hload₂)), rfl,
      rfl⟩
  have henters {k : Bool} {t : Traffic Bool} (h : t.stage k = .loaded g) :
      ∃ h cm, Step "main" racers (some k) t
        ⟨cm, Function.update t.stage k (.ended (.ok (some h)))⟩ :=
    ⟨_, _, .move k (by rw [h]; rfl)⟩
  obtain ⟨h, cm, hfirst⟩ := henters hstage
  obtain ⟨h', cm', hsecond⟩ := henters (k := true)
    (t := ⟨cm, Function.update t.stage false (.ended (.ok (some h)))⟩) hstage'
  have hshare := (openings_share_handle "main" racers).2.1 rfl hfirst rfl .nil nofun
  obtain ⟨hkept, -, hsame⟩ := hshare.2 (j := true) rfl hsecond
  obtain rfl := Option.some.inj (hsame (some h') rfl)
  exact ⟨h', _, (hloaded.snoc hfirst).snoc hsecond, rfl, rfl, hkept⟩

end Race

end Traffic

end Community

end Keyring
