import Mathlib.Data.List.Infix
import Keyring.Proofs.Concurrency.Operations

namespace Keyring

open Memory

namespace Memory.Server

theorem fetch_of_unscripted {s : Server} (hscript : s.scripted = []) (c : Cursor) :
    (s.fetch c = (s, .error (.gateway "fetch unavailable"))) ∨
      ∃ s', s.fetch c = (s', .ok (keysAfter (s.log ++ s.due) c)) ∧ s'.log = s.log ++ s.due ∧
        s'.scripted = [] := by
  by_cases hfailing : s.failing = true
  · exact .inl (by rw [fetch, if_pos hfailing])
  · right
    have hdue : s.due = ((s.delayed.partition
        (·.1 ≤ (c :: s.cursors).length)).1.map Prod.snd).flatten := by
      rw [due, if_neg hfailing, List.partition_eq_filter_filter]
      rfl
    refine ⟨{ s with
      cursors := c :: s.cursors
      delayed := (s.delayed.partition (·.1 ≤ (c :: s.cursors).length)).2
      log := s.log ++ s.due }, ?_, rfl, hscript⟩
    rw [fetch, if_neg hfailing, hdue]
    simp only [hscript]

end Memory.Server

namespace Concurrency

theorem grows_answer {q : Request} (hq : q.isFetch = false) (s : State)
    (hc : Chronicle s.server.log) :
    Grows s.server.log (State.answer q s).2.server.log ∧
      (State.answer q s).2.server.scripted = s.server.scripted := by
  have hself : Grows s.server.log s.server.log := ⟨List.prefix_refl _, hc⟩
  cases q with
  | commitKey token groupId output key =>
      exact ⟨⟨Server.prefix_enter _ _, Server.chronicle_enter hc key⟩, rfl⟩
  | fetchKeys => exact nomatch hq
  | openTransfer => exact ⟨hself, rfl⟩
  | uploadPage token kind groupId sessionId userId index payload =>
      simp only [State.answer, Server.receivePage]
      split
      · exact ⟨hself, rfl⟩
      · split
        · exact ⟨hself, rfl⟩
        · exact ⟨hself, rfl⟩
  | rejectJoin token groupId rank userId =>
      simp only [State.answer, Server.rejectJoin]
      split
      · exact ⟨hself, rfl⟩
      · exact ⟨hself, rfl⟩
  | listJoins => exact ⟨hself, rfl⟩
  | leaveGroup => exact ⟨hself, rfl⟩
  | publishRotation => exact ⟨hself, rfl⟩
  | pendingOutputs => exact ⟨hself, rfl⟩
  | sealPage => exact ⟨hself, rfl⟩
  | prepareRotation => exact ⟨hself, rfl⟩
  | deriveKey => exact ⟨hself, rfl⟩
  | readStore key =>
      simp only [State.answer, State.behind]
      split
      · exact ⟨hself, rfl⟩
      · exact ⟨hself, rfl⟩
  | writeStore key value =>
      simp only [State.answer, State.behind]
      split
      · exact ⟨hself, rfl⟩
      · exact ⟨hself, rfl⟩

end Concurrency

namespace Program

variable {S σ α : Type} {w : World S} {state state' : σ} {world world' : S} {rest : Program σ α}
  {events : List Event}

theorem step_ask {q : Request} {next : Except Failure q.Answer → Program σ α}
    (h : (ask q next).step w state world = (some (rest, state'), world', events)) :
    ∃ r, w.answer q world = (some r, world') ∧ rest = next r ∧ state' = state := by
  rw [step] at h
  split at h
  · exact absurd (Prod.mk.inj h).1 (by simp)
  · rename_i r t hanswer
    simp only [Prod.mk.injEq, Option.some.injEq] at h
    obtain ⟨⟨rfl, rfl⟩, rfl, -⟩ := h
    exact ⟨r, hanswer, rfl, rfl⟩

variable {s : Sweep} {next : Except Failure (List Key) → Program σ α}

/-- Whether a fetch loop leads on to a program by events in which it gets a batch. -/
def LeadsTo (s : Sweep) (next : Except Failure (List Key) → Program σ α) (batch : List Key)
    (rest : Program σ α) (events : List Event) : Prop :=
  match s.take batch with
  | .inr keys => rest = next (.ok keys) ∧ (gather s next).endsLoop events = true
  | .inl s' => rest = gather s' next ∧ (gather s next).endsLoop events = false

theorem exists_step_gather {batch : List Key}
    (hanswer : w.answer s.request world = (some (.ok batch), world'))
    (next : Except Failure (List Key) → Program σ α) (state : σ) :
    ∃ rest events, (gather s next).step w state world = (some (rest, state), world', events) ∧
      LeadsTo s next batch rest events := by
  let events : List Event := .called s.request (.ok batch) :: (s.signals batch).map .told
  unfold LeadsTo
  cases htake : s.take batch with
  | inr keys =>
      refine ⟨next (.ok keys), events, ?_, rfl, ?_⟩
      · simp only [step, hanswer, htake, events]
      · simp [events, endsLoop, Sweep.request, htake]
  | inl s' =>
      refine ⟨gather s' next, events, ?_, rfl, ?_⟩
      · simp only [step, hanswer, htake, events]
      · simp [events, endsLoop, Sweep.request, htake]

theorem step_gather
    (h : (gather s next).step w state world = (some (rest, state'), world', events)) :
    ∃ r : Except Failure (List Key), w.answer s.request world = (some r, world') ∧
      state' = state ∧
      match r with
      | .error e => rest = next (.error e) ∧ (gather s next).endsLoop events = false
      | .ok batch => LeadsTo s next batch rest events := by
  rcases hanswer : w.answer s.request world with ⟨_ | e | batch, t⟩
  · rw [step, hanswer] at h
    exact absurd (Prod.mk.inj h).1 (by simp)
  · rw [step, hanswer] at h
    simp only [Prod.mk.injEq, Option.some.injEq] at h
    obtain ⟨⟨rfl, rfl⟩, rfl, rfl⟩ := h
    exact ⟨.error e, rfl, rfl, rfl, rfl⟩
  · obtain ⟨rest₁, events₁, hstep, hleads⟩ := exists_step_gather hanswer next state
    rw [hstep] at h
    simp only [Prod.mk.injEq, Option.some.injEq] at h
    obtain ⟨⟨rfl, rfl⟩, rfl, rfl⟩ := h
    exact ⟨.ok batch, rfl, rfl, hleads⟩

end Program

namespace Sweep.GoesOn

variable {s : Sweep} {g : Group} {log : List Key}

/-- The keys behind the cursor are those that the loop has not gathered yet. -/
theorem append_keysAfter (h : s.GoesOn g log) {log' : List Key} (hlog : Grows log log') :
    g.record.history.keys ++ s.gathered ++ Server.keysAfter log' s.cursor = log' := by
  obtain ⟨rest, rfl⟩ := h.gathered_within.trans hlog.prefix_log
  obtain ⟨last, hlast, hcursor⟩ := h.cursor_eq
  rw [hcursor, Server.keysAfter_append hlog.chronicle hlast]

theorem take {batch : List Key} (hbatch : g.record.history.keys ++ s.gathered ++ batch = log) :
    match s.take batch with
    | .inl s => s.GoesOn g log ∧ g.record.history.keys ++ s.gathered = log
    | .inr keys => g.record.history.keys ++ keys = log := by
  rcases s.take_cases batch with ⟨-, htake⟩ | ⟨last, -, hlast, htake⟩
  · rw [htake, ← hbatch, List.append_assoc]
  · have hgathered : Sweep.gathered { s with
        cursor := last.cursor, batches := batch :: s.batches } = s.gathered ++ batch := by
      simp [Sweep.gathered]
    rw [htake]
    refine ⟨⟨?_, last, ?_, rfl⟩, ?_⟩
    · rw [hgathered, ← List.append_assoc, hbatch]
    · rw [hgathered, ← List.append_assoc, List.getLast?_append, hlast]
      rfl
    · rw [hgathered, ← List.append_assoc, hbatch]

end Sweep.GoesOn

namespace Concurrency

theorem answer_fetch {s s' : State} (hscript : s.server.scripted = []) (sweep : Sweep)
    {r : Except Failure (List Key)} (h : world.answer sweep.request s = (some r, s')) :
    s'.server.scripted = [] ∧
      ((∃ e, r = .error e ∧ s'.server.log = s.server.log) ∨
        (r = .ok (Server.keysAfter s'.server.log sweep.cursor) ∧
          s'.server.log = s.server.log ++ s.server.due)) := by
  simp only [world, Sweep.request, State.answer, State.behind] at h
  split at h
  · exact absurd (Prod.mk.inj h).1 (by simp)
  · obtain ⟨hr, rfl⟩ := Prod.mk.inj h
    obtain rfl := Option.some.inj hr
    rcases Server.fetch_of_unscripted hscript sweep.cursor with hfail | ⟨t, hfetch, hlog, ht⟩
    · simp only [hfail]
      exact ⟨hscript, .inl ⟨_, rfl, trivial⟩⟩
    · simp only [hfetch]
      exact ⟨ht, .inr ⟨by rw [hlog], hlog⟩⟩

/-- What the answer to its request leads a safe program to. -/
theorem safe_of_step {α : Type} {Q : α → View → Group → Prop} {rest rest' : Program Group α}
    {seen : Option (List Key)} {g g' : Group} {s s' : State} {events : List Event}
    (h : rest.Safe Q ⟨seen, s.server.log⟩ g) (hwaits : rest.Waits) (hc : Chronicle s.server.log)
    (hscript : s.server.scripted = [])
    (hfit : ∀ sweep next, rest = .gather sweep next → Chronicle (s.server.log ++ s.server.due))
    (hstep : rest.step world g s = (some (rest', g'), s', events)) :
    Grows s.server.log s'.server.log ∧ s'.server.scripted = [] ∧ g' = g ∧
      rest'.Safe Q
        ⟨if rest.endsLoop events then some s'.server.log else seen, s'.server.log⟩ g := by
  cases rest with
  | ask q next =>
      obtain ⟨-, hq, hnext⟩ := h
      obtain ⟨r, hanswer, rfl, rfl⟩ := Program.step_ask hstep
      obtain ⟨hgrows, hscript'⟩ := grows_answer hq s hc
      have hs' : (State.answer q s).2 = s' := congrArg Prod.snd hanswer
      rw [hs'] at hgrows hscript'
      exact ⟨hgrows, hscript'.trans hscript, rfl, hnext _ hgrows r⟩
  | gather sweep next =>
      obtain ⟨hdate, hgoes, hnext⟩ := h
      obtain ⟨r, hanswer, rfl, hrest⟩ := Program.step_gather hstep
      obtain ⟨hscript', hcases⟩ := answer_fetch hscript sweep hanswer
      rcases hcases with ⟨e, rfl, hlog⟩ | ⟨rfl, hlog⟩
      · have hgrows : Grows s.server.log s'.server.log := by
          rw [hlog]
          exact ⟨List.prefix_refl _, hc⟩
        obtain ⟨rfl, hends⟩ := hrest
        refine ⟨hgrows, hscript', rfl, ?_⟩
        rw [hends]
        exact (hnext _ hgrows).2 e
      · have hgrows : Grows s.server.log s'.server.log := by
          rw [hlog]
          exact ⟨List.prefix_append _ _, hfit sweep next rfl⟩
        -- The log may have grown since the loop's last request; the batch reaches its new end.
        have htaken := Sweep.GoesOn.take (hgoes.append_keysAfter hgrows)
        refine ⟨hgrows, hscript', rfl, ?_⟩
        cases htake : sweep.take (Server.keysAfter s'.server.log sweep.cursor) with
        | inr keys =>
            simp only [Program.LeadsTo, htake] at htaken hrest
            obtain ⟨rfl, hends⟩ := hrest
            rw [hends]
            exact (hnext _ hgrows).1 keys htaken
        | inl sweep' =>
            simp only [Program.LeadsTo, htake] at htaken hrest
            obtain ⟨rfl, hends⟩ := hrest
            rw [hends]
            exact ⟨hdate.grows hgrows, htaken.1, fun log hlog' => hnext log (hgrows.trans hlog')⟩
  | _ => exact hwaits.elim

abbrev Ended {α : Type} (_ : Except Failure α) : View → Group → Prop :=
  UpToDate

/-- Whether a member's history and operation fit a log. -/
structure Member.Fits (m : Member) (log : List Key) : Prop where
  upToDate : UpToDate ⟨m.fetched, log⟩ m.group
  task_safe : ∀ task, m.task = some task →
    task.rest.Waits ∧ task.rest.Safe Ended ⟨m.fetched, log⟩ m.group

namespace Member.Fits

variable {m : Member} {log : List Key}

theorem grows (h : m.Fits log) {log' : List Key} (hlog : Grows log log') : m.Fits log' := by
  refine ⟨h.upToDate.grows hlog, fun task htask => ?_⟩
  obtain ⟨hwaits, hsafe⟩ := h.task_safe task htask
  exact ⟨hwaits, hsafe.grows hwaits hlog⟩

theorem free (h : m.Fits log) : ({ m with task := none } : Member).Fits log :=
  ⟨h.upToDate, fun _ htask => nomatch htask⟩

theorem resume {α : Type} (op : Group.Operation α) {rest : Program Group (Except Failure α)}
    (hsafe : rest.Safe Ended ⟨m.fetched, log⟩ m.group) :
    (m.resume op rest).Fits log ∧
      m.group.record.history.keys <+: (m.resume op rest).group.record.history.keys := by
  obtain ⟨hkeys, hrest, hend⟩ := hsafe.settle
  unfold Member.resume
  rcases hsettle : rest.settle m.group with ⟨rest', group⟩
  rw [hsettle] at hkeys hrest hend
  cases rest' with
  | done r => exact ⟨⟨hrest, fun _ htask => nomatch htask⟩, hkeys⟩
  | ask q next =>
      refine ⟨⟨hrest.upToDate trivial, fun task htask => ?_⟩, hkeys⟩
      obtain rfl := Option.some.inj htask
      exact ⟨trivial, hrest⟩
  | gather sweep next =>
      refine ⟨⟨hrest.upToDate trivial, fun task htask => ?_⟩, hkeys⟩
      obtain rfl := Option.some.inj htask
      exact ⟨trivial, hrest⟩
  | tell | read | write =>
      rcases hend with hwaits | ⟨r, hr⟩
      · exact hwaits.elim
      · exact nomatch hr

end Member.Fits

theorem safe_of_sustains {α : Type} {a : Attempt Group α} (ha : a.Sustains) {v : View} {g : Group}
    (h : UpToDate v g) : a.run.Safe Ended v g := by
  apply (ha v g h).mono
  intro r v g hr
  cases r with
  | ok x => exact hr
  | error e => exact hr

variable {ι : Type}

/-- Whether a system may start from here: the server has a log that all members share, and no member
is at work. -/
structure System.Initial (sys : System ι) : Prop where
  chronicle : Chronicle sys.server.log
  unscripted : sys.server.scripted = []
  within : ∀ i, Within (sys.members i).group sys.server.log
  free : ∀ i, (sys.members i).task = none
  unfetched : ∀ i, (sys.members i).fetched = none

/-- Whether all members fit the server's log. -/
structure System.Consistent (sys : System ι) : Prop where
  chronicle : Chronicle sys.server.log
  unscripted : sys.server.scripted = []
  members : ∀ i, (sys.members i).Fits sys.server.log

theorem System.Initial.consistent {sys : System ι} (h : sys.Initial) : sys.Consistent := by
  refine ⟨h.chronicle, h.unscripted, fun i => ⟨⟨h.within i, ?_⟩, ?_⟩⟩
  · simp [h.unfetched i]
  · simp [h.free i]

/-- What every step leaves as it was, and lets only grow. -/
structure System.Continues (sys sys' : System ι) : Prop where
  consistent : sys'.Consistent
  log_grows : sys.server.log <+: sys'.server.log
  keys_within : ∀ i, sys.keys i <+: sys'.keys i

namespace System.Consistent

variable {sys sys' : System ι} (h : sys.Consistent) (hlog : Grows sys.server.log sys'.server.log)
  (hscript : sys'.server.scripted = [])

include h hlog hscript

theorem continues_of_members_eq (hmembers : sys'.members = sys.members) : sys.Continues sys' := by
  refine ⟨⟨hlog.chronicle, hscript, fun i => ?_⟩, hlog.prefix_log, fun i => ?_⟩
  · rw [hmembers]
    exact (h.members i).grows hlog
  · rw [System.keys, System.keys, hmembers]

theorem continues_of_update [DecidableEq ι] {i : ι} {m : Member}
    (hmembers : sys'.members = Function.update sys.members i m) (hm : m.Fits sys'.server.log)
    (hkeys : sys.keys i <+: m.group.record.history.keys) : sys.Continues sys' := by
  refine ⟨⟨hlog.chronicle, hscript, fun j => ?_⟩, hlog.prefix_log, fun j => ?_⟩
  · rw [hmembers]
    by_cases hj : j = i
    · subst hj
      rwa [Function.update_self]
    · rw [Function.update_of_ne hj]
      exact (h.members j).grows hlog
  · rw [System.keys, System.keys, hmembers]
    by_cases hj : j = i
    · subst hj
      rwa [Function.update_self]
    · rw [Function.update_of_ne hj]

end System.Consistent

theorem Step.continues [DecidableEq ι] {sys sys' : System ι} (hstep : Step sys sys')
    (h : sys.Consistent) : sys.Continues sys' := by
  have hself : Grows sys.server.log sys.server.log := ⟨List.prefix_refl _, h.chronicle⟩
  cases hstep with
  | push keys hfit =>
      exact h.continues_of_members_eq ⟨List.prefix_append _ _, hfit⟩ h.unscripted rfl
  | tune server hlog hscript =>
      exact h.continues_of_members_eq (hlog ▸ hself) hscript rfl
  | equip engines stores => exact h.continues_of_members_eq hself h.unscripted rfl
  | begin i op hfree =>
      have hsafe := safe_of_sustains (Group.sustains_action op) (h.members i).upToDate
      obtain ⟨hfits, hkeys⟩ := Member.Fits.resume op hsafe
      exact h.continues_of_update hself h.unscripted rfl hfits hkeys
  | answer i task clock htask hfit rest group s events hstep =>
      obtain ⟨hwaits, hsafe⟩ := (h.members i).task_safe task htask
      obtain ⟨hgrows, hscript, rfl, hrest⟩ :=
        safe_of_step hsafe hwaits h.chronicle h.unscripted hfit hstep
      obtain ⟨hfits, hkeys⟩ := Member.Fits.resume (m := { sys.members i with
        fetched := if task.rest.endsLoop events then some s.server.log
          else (sys.members i).fetched }) task.op hrest
      exact h.continues_of_update hgrows hscript rfl hfits hkeys
  | giveUp i task htask =>
      have hfree := (h.members i).free
      rcases task with ⟨op, rest⟩
      cases op with
      | finishInTime =>
          have hsafe := safe_of_sustains Group.sustains_finishExpired hfree.upToDate
          obtain ⟨hfits, hkeys⟩ := Member.Fits.resume .finishInTime hsafe
          exact h.continues_of_update hself h.unscripted rfl hfits hkeys
      | _ => exact h.continues_of_update hself h.unscripted rfl hfree (List.prefix_refl _)

theorem System.Consistent.continues [DecidableEq ι] {sys sys' : System ι} (h : sys.Consistent)
    (hrun : Relation.ReflTransGen Step sys sys') : sys.Continues sys' := by
  induction hrun with
  | refl => exact ⟨h, List.prefix_refl _, fun i => List.prefix_refl _⟩
  | tail _ hstep ih =>
      obtain ⟨hconsistent, hlog, hkeys⟩ := ih
      obtain ⟨hconsistent', hlog', hkeys'⟩ := hstep.continues hconsistent
      exact ⟨hconsistent', hlog.trans hlog', fun i => (hkeys i).trans (hkeys' i)⟩

end Concurrency

end Keyring
