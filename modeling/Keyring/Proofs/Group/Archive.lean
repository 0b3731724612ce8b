import Keyring.Group.Storage
import Keyring.Key.Sample
import Keyring.Proofs.Group.RoundTrip
import Keyring.Proofs.Memory.Untimed

namespace Keyring.Group

open Attempt Memory

variable {σ : Type} {n : Nat} {x : σ} {space : String} {s : State}

namespace Record

/-- Whether two records are equal but for the form of their indices: all fields agree, the keys and
their order, and the position that is found for each id. -/
structure Same (r r' : Record) : Prop where
  groupId_eq : r'.groupId = r.groupId
  parentGroupId_eq : r'.parentGroupId = r.parentGroupId
  rank_eq : r'.rank = r.rank
  keyUpdate_eq : r'.keyUpdate = r.keyUpdate
  createTime_eq : r'.createTime = r.createTime
  joinedTime_eq : r'.joinedTime = r.joinedTime
  keys_eq : r'.history.keys = r.history.keys
  lookup_eq : ∀ id, r'.history.lookup id = r.history.lookup id

theorem same_reindexed {r : Record} (hs : r.history.Sound) : r.Same r.reindexed := by
  refine ⟨rfl, rfl, rfl, rfl, rfl, rfl, rfl, fun id => ?_⟩
  have hs' : r.reindexed.history.Sound := History.Sound.ofKeys hs.chronicle
  apply Option.ext
  intro i
  rw [hs'.lookup_eq_some_iff, hs.lookup_eq_some_iff]
  rfl

end Record

theorem storeKey_injective (space : String) {groupId groupId' : String}
    (h : storeKey space groupId = storeKey space groupId') : groupId = groupId' := by
  simpa [storeKey, String.ext_iff] using h

inductive Access where
  | save (r : Record)
  | load (groupId : String)

namespace Access

/-- Uses a store under the name of a client; a load gives what it finds. -/
def perform (space : String) : Access → Attempt σ (Option Record)
  | save r => do
    r.store space
    return none
  | load groupId => Record.fetch? space groupId

def savedFor? (groupId : String) : Access → Option Record
  | save r => if r.groupId = groupId then some r else none
  | load _ => none

/-- The record of the last save for a group. -/
def lastSaved (groupId : String) (accesses : List Access) : Option Record :=
  accesses.reverse.findSome? (savedFor? groupId)

theorem lastSaved_snoc (groupId : String) (accesses : List Access) (a : Access) :
    lastSaved groupId (accesses ++ [a]) =
      (a.savedFor? groupId).or (lastSaved groupId accesses) := by
  rw [lastSaved, List.reverse_append, List.reverse_singleton, List.singleton_append,
    List.findSome?_cons]
  cases a.savedFor? groupId with
  | none => rfl
  | some r => rfl

/-- Whether a store has, after some uses, the record of the last save for every group, and nothing
for groups without one. -/
structure Filed (space : String) (accesses : List Access) (s : State) : Prop where
  untimed : s.clock.deadline = none
  sound : ∀ groupId r, lastSaved groupId accesses = some r → r.history.Sound
  get?_eq : ∀ groupId,
    s.store.get? (storeKey space groupId) = (lastSaved groupId accesses).map Record.save

theorem store_ensures (hs : s.clock.deadline = none) (r : Record) {Q : Unit → σ → State → Prop}
    {X : Halt → σ → State → Prop}
    (hQ : ∀ s', s'.clock.deadline = none →
      s'.store = s.store.set (storeKey space r.groupId) r.save → Q () x s') :
    Ensures world n (r.store space) Q X x s := by
  simp only [Record.store, ensures_bind, ensures_notice]
  rw [ensures_request]
  obtain ⟨clock, huntimed, hanswer⟩ :=
    answer_writeStore_untimed hs (storeKey space r.groupId) r.save
  rw [hanswer]
  exact hQ _ huntimed rfl

/-- What a stored text says, if there is one. -/
def reading : Option String → Except Failure (Option Record)
  | none => .ok none
  | some text => (Record.restore text).2.map some

theorem fetch?_ensures (hs : s.clock.deadline = none) (groupId : String)
    {Q : Option Record → σ → State → Prop} {X : Halt → σ → State → Prop}
    (h : ∀ s' : State, s'.clock.deadline = none → s'.store = s.store →
      match reading (s.store.get? (storeKey space groupId)) with
      | .ok found => Q found x s'
      | .error e => X (.failed e) x s') :
    Ensures world n (Record.fetch? space groupId) Q X x s := by
  obtain ⟨clock, huntimed, hbehind⟩ := State.behind_untimed Clock.passes_giveWay hs fun s =>
    ((.ok (s.store.get? (storeKey space groupId)) : Except Failure (Option String)), s)
  have hread : world.answer (.readStore (storeKey space groupId)) s =
      (some (.ok (s.store.get? (storeKey space groupId))), { s with clock }) := hbehind
  have hfound := h { s with clock } huntimed rfl
  simp only [Record.fetch?, ensures_bind]
  rw [ensures_request, hread]
  cases hget : s.store.get? (storeKey space groupId) with
  | none =>
      rw [hget] at hfound
      exact hfound
  | some text =>
      rw [hget, reading] at hfound
      dsimp only
      cases hrestore : (Record.restore text).2 with
      | ok r =>
          rw [hrestore] at hfound
          split
          all_goals
            simp only [ensures_bind, ensures_tellAll, ensures_pure, ensures_settle]
            exact hfound
      | error e =>
          rw [hrestore] at hfound
          split
          all_goals
            simp only [ensures_bind, ensures_tellAll, ensures_settle]
            exact hfound

/-- What a use of a store finds after other uses. -/
def finds (accesses : List Access) : Access → Option Record
  | save _ => none
  | load groupId => (lastSaved groupId accesses).map Record.reindexed

theorem perform_ensures {accesses : List Access} (h : Filed space accesses s) (a : Access)
    (hvalid : ∀ r, a = .save r → r.history.Sound) :
    Ensures world n (a.perform space)
      (fun found x' s' => x' = x ∧ Filed space (accesses ++ [a]) s' ∧ found = a.finds accesses)
      (fun _ _ _ => False) x s := by
  cases a with
  | save r =>
      simp only [perform, ensures_bind]
      apply store_ensures h.untimed
      intro s' huntimed hstore
      rw [ensures_pure]
      refine ⟨rfl, ⟨huntimed, fun groupId r' hlast => ?_, fun groupId => ?_⟩, rfl⟩
      · rw [lastSaved_snoc, savedFor?] at hlast
        split at hlast
        · obtain rfl := Option.some.inj hlast
          exact hvalid r rfl
        · exact h.sound groupId r' hlast
      · rw [hstore, lastSaved_snoc, savedFor?]
        split
        · rename_i hid
          rw [hid]
          exact Assoc.lookup_put_self _ _ _
        · rename_i hid
          have hkey : storeKey space groupId ≠ storeKey space r.groupId := fun heq =>
            hid (storeKey_injective space heq).symm
          exact (Assoc.lookup_put_of_ne hkey _ _).trans (h.get?_eq groupId)
  | load groupId =>
      apply fetch?_ensures h.untimed groupId
      intro s' huntimed hstore
      have hfiled : Filed space (accesses ++ [.load groupId]) s' := by
        refine ⟨huntimed, fun groupId' r hlast => ?_, fun groupId' => ?_⟩
        · rw [lastSaved_snoc] at hlast
          exact h.sound groupId' r hlast
        · rw [hstore, lastSaved_snoc]
          exact h.get?_eq groupId'
      rw [h.get?_eq groupId, finds]
      cases hlast : lastSaved groupId accesses with
      | none => exact ⟨rfl, hfiled, rfl⟩
      | some r =>
          rw [Option.map_some, reading, Record.restore_save (h.sound groupId r hlast)]
          exact ⟨rfl, hfiled, rfl⟩

theorem performAll_ensures {before : List Access} (accesses : List Access)
    (h : Filed space before s) (hvalid : ∀ r, .save r ∈ accesses → r.history.Sound) :
    Ensures world n (accesses.mapM (perform space))
      (fun found x' s' => x' = x ∧ Filed space (before ++ accesses) s' ∧
        ∀ (i : Nat) (a : Access), accesses[i]? = some a →
          found[i]? = some (a.finds (before ++ accesses.take i)))
      (fun _ _ _ => False) x s := by
  induction accesses generalizing before x s with
  | nil =>
      rw [ensures_mapM_nil]
      exact ⟨rfl, by rwa [List.append_nil], fun _ _ ha => nomatch ha⟩
  | cons a rest ih =>
      rw [ensures_mapM_cons]
      refine (perform_ensures h a fun r ha => hvalid r (by simp [ha])).mono ?_ fun _ _ _ h => h
      rintro found x s' ⟨rfl, hfiled, rfl⟩
      refine (ih hfiled fun r hr => hvalid r (List.mem_cons_of_mem a hr)).mono ?_ fun _ _ _ h => h
      rintro founds x s'' ⟨rfl, hfiled', hfounds⟩
      rw [List.append_assoc, List.singleton_append] at hfiled'
      refine ⟨rfl, hfiled', fun i a' ha' => ?_⟩
      cases i with
      | zero =>
          obtain rfl := Option.some.inj ha'
          simp
      | succ i => simpa using hfounds i a' ha'

theorem ending_load (hs : s.clock.deadline = none) (groupId : String) :
    ((Record.fetch? space groupId).run.run world n x s).ending =
      .finished (reading (s.store.get? (storeKey space groupId))) := by
  refine (meets_ending (R := fun ending _ _ => ending = _)).mp (fetch?_ensures hs groupId ?_)
  intro s' _ _
  cases reading (s.store.get? (storeKey space groupId)) with
  | ok found => rfl
  | error e => rfl

theorem ending_load_after_save {r : Record} {groupId : String} (hid : r.groupId ≠ groupId)
    (hs : s.clock.deadline = none) :
    ((r.store space >>= fun _ => Record.fetch? space groupId).run.run world n x s).ending =
      ((Record.fetch? space groupId).run.run world n x s).ending := by
  rw [ending_load hs]
  refine (meets_ending (R := fun ending _ _ => ending = _)).mp ?_
  have hkey : storeKey space groupId ≠ storeKey space r.groupId := fun heq =>
    hid (storeKey_injective space heq).symm
  refine ensures_bind.mpr (store_ensures hs r fun s' huntimed hstore => ?_)
  refine fetch?_ensures huntimed groupId fun s'' _ _ => ?_
  rw [hstore, Store.set, Store.get?, Assoc.lookup_put_of_ne hkey]
  show match reading (s.store.get? (storeKey space groupId)) with | .ok found => _ | .error e => _
  cases reading (s.store.get? (storeKey space groupId)) with
  | ok found => rfl
  | error e => rfl

/-- In a store that starts empty, all uses come through. A load finds nothing if no record of its
group was saved before, and else the record of the last save, whole; and what a further load gives
is the same with and without a save for another group before it. -/
theorem store_keeps_records (space : String) (accesses : List Access)
    (hvalid : ∀ r, .save r ∈ accesses → r.history.Sound) (hempty : s.store.entries = [])
    (hs : s.clock.deadline = none) : ∃ found s' trace,
    (accesses.mapM (perform space)).run.run world n x s =
      ⟨.finished (.ok found), x, s', trace⟩ ∧
    (∀ i groupId, accesses[i]? = some (.load groupId) → ∃ r, found[i]? = some r ∧
      Option.Rel Record.Same (lastSaved groupId (accesses.take i)) r) ∧
    ∀ (r : Record) groupId, r.groupId ≠ groupId →
      ((r.store space >>= fun _ => Record.fetch? space groupId).run.run world n x s').ending =
        ((Record.fetch? space groupId).run.run world n x s').ending := by
  have hfiled : Filed space [] s := by
    refine ⟨hs, nofun, fun groupId => ?_⟩
    rw [Store.get?, hempty]
    rfl
  obtain ⟨found, _, s', trace, hrun, rfl, hfiled', hfound⟩ :=
    (performAll_ensures (n := n) (x := x) accesses hfiled hvalid).exists_run
  refine ⟨found, s', trace, hrun, fun i groupId hload => ?_, fun r groupId hid => ?_⟩
  · refine ⟨_, hfound i _ hload, ?_⟩
    rw [List.nil_append, finds]
    cases hlast : lastSaved groupId (accesses.take i) with
    | none => exact .none
    | some r =>
        refine .some (Record.same_reindexed (hvalid r ?_))
        obtain ⟨a, ha, hsaved⟩ := List.exists_of_findSome?_eq_some hlast
        have hmem := List.mem_of_mem_take (List.mem_reverse.mp ha)
        cases a with
        | save r' =>
            rw [savedFor?] at hsaved
            split at hsaved
            · obtain rfl := Option.some.inj hsaved
              exact hmem
            · exact nomatch hsaved
        | load => exact nomatch hsaved
  · exact ending_load_after_save hid hfiled'.untimed

/-- A record with texts that need escapes, and with numbers at the ends of their ranges. -/
def awkwardRecord (groupId : String) (parentGroupId : Option String) (rank : UInt32) : Record where
  groupId
  parentGroupId
  rank
  keyUpdate := true
  createTime := 18446744073709551615
  joinedTime := 0
  history := .extend .empty
    [⟨"\"quoted\"", "\n", "back\\slash", "", 0⟩, ⟨"😀", "\t", "é", "\x00", 18446744073709551615⟩]

theorem sound_awkwardRecord (groupId : String) (parentGroupId : Option String) (rank : UInt32) :
    (awkwardRecord groupId parentGroupId rank).history.Sound :=
  .ofKeys ⟨by decide, by decide⟩

def awkwardAccesses : List Access := [
  .load "a",
  .save (awkwardRecord "a" none 3),
  .save (awkwardRecord "a_id_a" (some "\"") 4294967295),
  .save (awkwardRecord "a" (some "") 0),
  .load "a_id_a",
  .load "a"]

theorem store_keeps_records_awkward : ∃ found s' trace,
    (awkwardAccesses.mapM (perform "space")).run.run world 0 () {} =
      ⟨.finished (.ok found), (), s', trace⟩ ∧
    found[0]? = some none ∧
    (∃ r, found[4]? = some (some r) ∧
      (awkwardRecord "a_id_a" (some "\"") 4294967295).Same r) ∧
    ∃ r, found[5]? = some (some r) ∧ (awkwardRecord "a" (some "") 0).Same r := by
  have hvalid : ∀ r, .save r ∈ awkwardAccesses → r.history.Sound := by
    intro r hr
    simp only [awkwardAccesses, List.mem_cons, Access.save.injEq, List.not_mem_nil, or_false,
      reduceCtorEq, false_or] at hr
    rcases hr with rfl | rfl | rfl
    all_goals exact sound_awkwardRecord _ _ _
  obtain ⟨found, s', trace, hrun, hfound, -⟩ :=
    store_keeps_records (n := 0) (x := ()) "space" awkwardAccesses hvalid (s := {}) rfl rfl
  refine ⟨found, s', trace, hrun, ?_, ?_, ?_⟩
  · obtain ⟨r, hr, hsame⟩ := hfound 0 "a" rfl
    cases hsame
    exact hr
  · obtain ⟨r, hr, hsame⟩ := hfound 4 "a_id_a" rfl
    have hlast : lastSaved "a_id_a" (awkwardAccesses.take 4) =
      some (awkwardRecord "a_id_a" (some "\"") 4294967295) := rfl
    rw [hlast] at hsame
    cases hsame with
    | some hsame => exact ⟨_, hr, hsame⟩
  · obtain ⟨r, hr, hsame⟩ := hfound 5 "a" rfl
    have hlast : lastSaved "a" (awkwardAccesses.take 5) = some (awkwardRecord "a" (some "") 0) :=
      rfl
    rw [hlast] at hsame
    cases hsame with
    | some hsame => exact ⟨_, hr, hsame⟩

end Access

end Keyring.Group
