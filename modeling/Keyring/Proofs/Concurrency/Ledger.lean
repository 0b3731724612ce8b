import Keyring.Key.Sample
import Keyring.Memory.Faults
import Keyring.Proofs.Concurrency.Genuine
import Keyring.Proofs.Memory.Storing

namespace Keyring

open Memory Rotation

/-- Whether a server answers for outputs: each is pending or committed, and each commitment has its
key in the log, where no id comes twice. -/
structure Memory.Server.Accounts (s : Server) (outputs : List Output) : Prop where
  distinct : (Key.ids s.log).Nodup
  kept : ∀ o ∈ outputs, o ∈ s.pending ∨ o ∈ s.committed.map Prod.fst
  derived : ∀ o k, (o, k) ∈ s.committed → k.id = o.derivedId ∧ k.id ∈ Key.ids s.log

namespace Memory.Server.Accounts

variable {s s' : Server} {outputs : List Output}

theorem grow {keys : List Key} (h : s.Accounts outputs) (hlog : s'.log = s.log ++ keys)
    (hpending : s'.pending = s.pending) (hcommitted : s'.committed = s.committed)
    (hfresh : (Key.ids (s.log ++ keys)).Nodup) : s'.Accounts outputs := by
  constructor
  · rwa [hlog]
  · rw [hpending, hcommitted]
    exact h.kept
  · rw [hlog, hcommitted]
    intro o k hmem
    obtain ⟨hid, hlogged⟩ := h.derived o k hmem
    refine ⟨hid, ?_⟩
    rw [Key.ids, List.map_append]
    exact List.mem_append_left _ hlogged

theorem of_eq (h : s.Accounts outputs) (hlog : s'.log = s.log) (hpending : s'.pending = s.pending)
    (hcommitted : s'.committed = s.committed) : s'.Accounts outputs := by
  have hself : s.log ++ [] = s.log := List.append_nil s.log
  refine h.grow (hlog.trans hself.symm) hpending hcommitted ?_
  rw [hself]
  exact h.distinct

theorem pushOutput (h : s.Accounts outputs) (o : Output) :
    (s.pushOutput o).Accounts (outputs ++ [o]) := by
  refine ⟨h.distinct, fun o' ho' => ?_, h.derived⟩
  rcases List.mem_append.mp ho' with ho' | ho'
  · exact (h.kept o' ho').imp_left fun hpending => List.mem_append_left _ hpending
  · exact .inl (List.mem_append_right _ ho')

theorem commit (h : s.Accounts outputs) {o : Output} {k : Key} (hid : k.id = o.derivedId) :
    (s.commit o k).Accounts outputs := by
  rw [commit_eq]
  constructor
  · by_cases hk : k.id ∈ Key.ids s.log
    · rw [enter_of_mem hk]
      exact h.distinct
    · obtain ⟨time, hlog, -⟩ := enter_of_not_mem hk
      rw [hlog, Key.ids, List.map_append, List.nodup_append]
      refine ⟨h.distinct, List.nodup_singleton _, fun id hmem id' hmem' heq => ?_⟩
      rw [heq, List.mem_singleton.mp hmem'] at hmem
      exact hk hmem
  · intro o' ho'
    rw [List.map_append]
    by_cases heq : o' = o
    · exact .inr (List.mem_append_right _ (heq ▸ List.mem_singleton_self _))
    · rcases h.kept o' ho' with hpending | hcommitted
      · exact .inl (List.mem_filter.mpr ⟨hpending, decide_eq_true heq⟩)
      · exact .inr (List.mem_append_left _ hcommitted)
  · intro o' k' hmem
    rw [mem_ids_enter]
    rcases List.mem_append.mp hmem with hmem | hmem
    · exact (h.derived o' k' hmem).imp_right .inl
    · obtain ⟨rfl, rfl⟩ := Prod.mk.inj (List.mem_singleton.mp hmem)
      exact ⟨hid, .inr rfl⟩

theorem countP_eq_one (h : s.Accounts outputs) {o : Output} {k : Key}
    (hmem : (o, k) ∈ s.committed) : s.log.countP (·.id = k.id) = 1 := by
  have hcount := List.count_eq_one_of_mem h.distinct (h.derived o k hmem).2
  rw [Key.ids, List.count, List.countP_map] at hcount
  rw [← hcount]
  exact List.countP_congr fun x _ => by simp

end Memory.Server.Accounts

namespace Program

variable {α β : Type} {p : Program Group α} {g g' : Group} {calls : List (Σ q : Request, q.Reply)}

/-- Whether a program makes these requests in this order, if each is answered as said. -/
def Asks : Program Group α → Group → List (Σ q : Request, q.Reply) → Prop
  | _, _, [] => True
  | p, g, ⟨q, r⟩ :: rest => ∃ next g', p.settle g = (.ask q next, g') ∧ (next r).Asks g' rest

theorem settle_bind {q : Request} {next : q.Reply → Program Group α} (f : α → Program Group β)
    (h : p.settle g = (.ask q next, g')) :
    (p.bind f).settle g = (.ask q fun r => (next r).bind f, g') := by
  induction p generalizing g with
  | done a => exact nomatch (Prod.mk.inj h).1
  | ask q' next' ih =>
      obtain ⟨hask, rfl⟩ := Prod.mk.inj h
      cases hask
      rfl
  | gather s next' ih => exact nomatch (Prod.mk.inj h).1
  | tell s next' ih => exact ih h
  | read next' ih => exact ih g h
  | write g'' next' ih => exact ih h

theorem Asks.bind (h : p.Asks g calls) (f : α → Program Group β) : (p.bind f).Asks g calls := by
  induction calls generalizing p g with
  | nil => trivial
  | cons call rest ih =>
      obtain ⟨next, g', hsettle, hrest⟩ := h
      exact ⟨_, g', settle_bind f hsettle, ih hrest⟩

end Program

theorem Group.asks_finish {record : Record} {config : Config} {actor : Actor} {o : Output}
    {preKey : Key} (hget : record.history.get? o.preKeyId = some preKey) (k : Key) :
    finish.run.Asks ⟨record, actor, config, .idle⟩
      [⟨.pendingOutputs actor.token record.groupId, .ok [o]⟩,
        ⟨.deriveKey preKey o actor, .ok k⟩,
        ⟨.commitKey actor.token record.groupId o k, .ok ()⟩] := by
  let g : Group := ⟨record, actor, config, .finishing⟩
  let calls : List (Σ q : Request, q.Reply) :=
    [⟨.deriveKey preKey o actor, .ok k⟩, ⟨.commitKey actor.token record.groupId o k, .ok ()⟩]
  have hresolve : (resolve 1 o preKey).run.Asks g calls :=
    ⟨_, _, rfl, _, _, rfl, trivial⟩
  have hknown : (resolveKnown 1 0 [] [o]).run.Asks g calls := by
    obtain ⟨next, g', hsettle, hrest⟩ :=
      hresolve.bind (ExceptT.bindCont fun _ => resolveKnown 1 1 [] [])
    refine ⟨next, g', ?_, hrest⟩
    have hread (f : Group → Action (Nat × List Output)) :
        (Attempt.get >>= f).run.settle g = (f g).run.settle g :=
      rfl
    have hfound : g.record.history.get? o.preKeyId = some preKey := hget
    rw [resolveKnown, hread, hfound]
    exact hsettle
  have hround (left : Nat) : (finishRound 1 left [o]).run.Asks g calls := hknown.bind _
  have hcatch (left : Nat) : (catchUp 1 0 left [o]).run.Asks g calls := by
    cases left with
    | zero => exact (hround _).bind _
    | succ left => exact (hround _).bind _
  refine ⟨_, _, rfl, ?_⟩
  exact (((hcatch (config.rotation.maxRounds.toNat - 1)).bind _).bind _).bind _

namespace Memory

variable {outputs : List Output}

theorem Server.fetch_ledger (s : Server) (c : Cursor) :
    ((s.fetch c).1.log = s.log ∨ (s.fetch c).1.log = s.log ++ s.due) ∧
      (s.fetch c).1.pending = s.pending ∧ (s.fetch c).1.committed = s.committed := by
  by_cases hfailing : s.failing = true
  · rw [fetch_of_failing hfailing]
    exact ⟨.inl rfl, rfl, rfl⟩
  · have hdue : s.due = ((s.delayed.partition
        (·.1 ≤ (c :: s.cursors).length)).1.map Prod.snd).flatten := by
      rw [due, if_neg hfailing, List.partition_eq_filter_filter]
      rfl
    rw [hdue, fetch, if_neg hfailing]
    dsimp only
    split
    · exact ⟨.inr rfl, rfl, rfl⟩
    · exact ⟨.inr rfl, rfl, rfl⟩

theorem Server.Accounts.fetch {s : Server} (h : s.Accounts outputs) (c : Cursor)
    (hfresh : (Key.ids (s.log ++ s.due)).Nodup) :
    (s.fetch c).1.Accounts outputs ∧ s.log <+: (s.fetch c).1.log := by
  obtain ⟨hlog | hlog, hpending, hcommitted⟩ := s.fetch_ledger c
  · exact ⟨h.of_eq hlog hpending hcommitted, hlog ▸ List.prefix_refl _⟩
  · exact ⟨h.grow hlog hpending hcommitted hfresh, hlog ▸ List.prefix_append _ _⟩

theorem accounts_answer {q : Request} (hq : q.Genuine) (hfetch : q.isFetch = false) {s : State}
    (h : s.server.Accounts outputs) : (State.answer q s).2.server.Accounts outputs ∧
      s.server.log <+: (State.answer q s).2.server.log := by
  have hsame {s' : State} (hlog : s'.server.log = s.server.log)
      (hpending : s'.server.pending = s.server.pending)
      (hcommitted : s'.server.committed = s.server.committed) :
      s'.server.Accounts outputs ∧ s.server.log <+: s'.server.log :=
    ⟨h.of_eq hlog hpending hcommitted, hlog ▸ List.prefix_refl _⟩
  cases q with
  | commitKey token groupId output key => exact ⟨h.commit hq, Server.prefix_enter _ _⟩
  | fetchKeys => exact nomatch hfetch
  | uploadPage token kind groupId sessionId userId index payload =>
      apply hsame
      all_goals
        simp only [State.answer, Server.receivePage]
        split
        · rfl
        · split
          · rfl
          · rfl
  | rejectJoin token groupId rank userId =>
      apply hsame
      all_goals
        simp only [State.answer, Server.rejectJoin]
        split
        · rfl
        · rfl
  | readStore key | writeStore key value =>
      apply hsame
      all_goals
        simp only [State.answer, State.behind]
        split
        · rfl
        · rfl
  | _ => exact hsame rfl rfl rfl

theorem Engine.id_of_derive {e : Engine} {preKey key : Key} {output : Output} {actor : Actor}
    (h : (e.derive preKey output actor).2 = .ok key) : key.id = output.derivedId := by
  unfold derive at h
  split at h
  · exact nomatch h
  · split at h
    · exact nomatch h
    · rename_i hid
      rw [← Except.ok.inj h, Output.derivedId, ← not_not.mp hid]
      rfl

theorem trusts_answer {q : Request} {s s' : State} {r : q.Reply}
    (h : world.answer q s = (some r, s')) : q.Trusts r := by
  cases q with
  | deriveKey preKey output actor =>
      have hderive := Option.some.inj (Prod.mk.inj h).1
      cases r with
      | ok key => exact Engine.id_of_derive hderive
      | error e => trivial
  | _ => cases r <;> trivial

theorem trusts_withFaults {q : Request} {s s' : Faults × State} {r : q.Reply}
    (h : (withFaults world).answer q s = (some r, s')) : q.Trusts r := by
  obtain ⟨faults, hanswer | hanswer⟩ := answer_withFaults (w := world) q s
  · obtain rfl := Option.some.inj (Prod.mk.inj (hanswer.symm.trans h)).1
    cases q <;> trivial
  · exact trusts_answer (Prod.ext (Prod.mk.inj (hanswer.symm.trans h)).1 rfl)

end Memory

namespace Concurrency

variable {ι : Type} [DecidableEq ι]

/-- A step of a system in which requests may fail, with the outputs that are pushed in it. -/
inductive Move (sys : System ι) : List Output → System ι → Prop where
  /-- New keys are added to the server's log. -/
  | push (keys : List Key) (hfresh : (Key.ids (sys.server.log ++ keys)).Nodup) :
      Move sys [] { sys with server := sys.server.pushKeys keys }
  | pushOutput (output : Output) :
      Move sys [output] { sys with server := sys.server.pushOutput output }
  /-- The server changes in any way but for its log and its outputs. -/
  | tune (server : Server) (hlog : server.log = sys.server.log)
      (hpending : server.pending = sys.server.pending)
      (hcommitted : server.committed = sys.server.committed) : Move sys [] { sys with server }
  /-- Engines and stores change in any way. -/
  | equip (engines : Nat → Engine) (stores : Nat → Store) : Move sys [] { sys with engines, stores }
  /-- In place of a member comes one who is free, with any group. -/
  | enter (i : ι) (m : Member) (hfree : m.task = none) : Move sys [] (sys.withMember i m)
  /-- A member who is free begins an operation. -/
  | begin {α : Type} (i : ι) (op : Group.Operation α) (hfree : (sys.members i).task = none) :
      Move sys [] (sys.withMember i ((sys.members i).resume op op.action.run))
  /-- The request that a member waits for is answered, unless a planted fault strikes it. If it is a
  fetch, the keys that enter the log with it are new. -/
  | answer (i : ι) (task : Task) (faults : Faults) (clock : Clock)
      (htask : (sys.members i).task = some task)
      (hfresh : ∀ sweep next, task.rest = .gather sweep next →
        (Key.ids (sys.server.log ++ sys.server.due)).Nodup)
      (rest : Program Group (Except Failure task.α)) (group : Group) (s : Faults × State)
      (events : List Event)
      (hstep : task.rest.step (withFaults world) (sys.members i).group
        (faults, sys.around (sys.members i) clock) = (some (rest, group), s, events)) :
      Move sys []
        (sys.absorb i (Member.resume { sys.members i with group } task.op rest) s.2)
  /-- A member gives an operation up. -/
  | giveUp (i : ι) (task : Task) (htask : (sys.members i).task = some task) :
      Move sys [] (sys.withMember i ((sys.members i).giveUp task.op))

/-- Moves in a row, with the outputs that are pushed in them. -/
inductive Moves (sys₀ : System ι) : List Output → System ι → Prop where
  | nil : Moves sys₀ [] sys₀
  | snoc {pushed more : List Output} {sys sys' : System ι} (hmoves : Moves sys₀ pushed sys)
      (hmove : Move sys more sys') : Moves sys₀ (pushed ++ more) sys'

/-- Whether a member, if at work, waits with a genuine request. -/
def Member.IsGenuine (m : Member) : Prop :=
  ∀ task, m.task = some task → task.rest.Waits ∧ task.rest.Genuine fun _ => True

namespace Member.IsGenuine

variable {m : Member}

theorem free (h : m.task = none) : m.IsGenuine :=
  fun _ htask => nomatch h.symm.trans htask

theorem resume {α : Type} (m : Member) (op : Group.Operation α)
    {rest : Program Group (Except Failure α)} (h : rest.Genuine fun _ => True) :
    (m.resume op rest).IsGenuine := by
  obtain ⟨hrest, hend⟩ := h.settle m.group
  unfold Member.resume
  rcases hsettle : rest.settle m.group with ⟨rest', group⟩
  rw [hsettle] at hrest hend
  cases rest' with
  | done r => exact free rfl
  | ask q next | gather sweep next =>
      intro task htask
      obtain rfl := Option.some.inj htask
      exact ⟨trivial, hrest⟩
  | tell | read | write =>
      rcases hend with hwaits | ⟨r, hr⟩
      · exact hwaits.elim
      · exact nomatch hr

theorem begin {α : Type} (m : Member) (op : Group.Operation α) {a : Group.Action α}
    (ha : a.IsGenuine) : (m.resume op a.run).IsGenuine :=
  resume m op (ha.mono fun _ _ => trivial)

theorem giveUp {α : Type} (m : Member) (op : Group.Operation α) : (m.giveUp op).IsGenuine := by
  cases op with
  | finishInTime => exact begin _ _ Group.genuine_finishExpired
  | _ => exact free rfl

end Member.IsGenuine

/-- Whether a system's server answers for outputs, and all its members are genuine. -/
structure System.Accounts (sys : System ι) (outputs : List Output) : Prop where
  server : sys.server.Accounts outputs
  members : ∀ i, (sys.members i).IsGenuine

/-- The answer to a genuine request keeps the accounts of the server, and leads to a genuine
program. -/
theorem genuine_of_step {α : Type} {rest rest' : Program Group (Except Failure α)} {g g' : Group}
    {s s' : Faults × State} {events : List Event} {outputs : List Output}
    (h : rest.Genuine fun _ => True) (hwaits : rest.Waits) (hserver : s.2.server.Accounts outputs)
    (hfresh : ∀ sweep next, rest = .gather sweep next →
      (Key.ids (s.2.server.log ++ s.2.server.due)).Nodup)
    (hstep : rest.step (withFaults world) g s = (some (rest', g'), s', events)) :
    rest'.Genuine (fun _ => True) ∧ s'.2.server.Accounts outputs ∧
      s.2.server.log <+: s'.2.server.log := by
  have hself : s.2.server.Accounts outputs ∧ s.2.server.log <+: s.2.server.log :=
    ⟨hserver, List.prefix_refl _⟩
  cases rest with
  | ask q next =>
      obtain ⟨⟨hq, hfetch⟩, hnext⟩ := h
      obtain ⟨r, hanswer, rfl, rfl⟩ := Program.step_ask hstep
      refine ⟨hnext r (trusts_withFaults hanswer), ?_⟩
      obtain ⟨faults, hfaults | hfaults⟩ := answer_withFaults (w := world) q s
      · obtain rfl := (Prod.mk.inj (hfaults.symm.trans hanswer)).2
        exact hself
      · obtain rfl := (Prod.mk.inj (hfaults.symm.trans hanswer)).2
        exact accounts_answer hq hfetch hserver
  | gather sweep next =>
      obtain ⟨r, hanswer, rfl, hrest⟩ := Program.step_gather hstep
      refine ⟨?_, ?_⟩
      · cases r with
        | error e =>
            obtain ⟨rfl, -⟩ := hrest
            exact h (.error e)
        | ok batch =>
            simp only [Program.LeadsTo] at hrest
            split at hrest
            · obtain ⟨rfl, -⟩ := hrest
              exact h (.ok _)
            · obtain ⟨rfl, -⟩ := hrest
              exact h
      · obtain ⟨faults, hfaults | hfaults⟩ := answer_withFaults (w := world) sweep.request s
        · obtain rfl := (Prod.mk.inj (hfaults.symm.trans hanswer)).2
          exact hself
        · obtain rfl := (Prod.mk.inj (hfaults.symm.trans hanswer)).2
          simp only [world, Sweep.request, State.answer, State.behind]
          split
          · exact hself
          · exact hserver.fetch _ (hfresh sweep next rfl)
  | _ => exact hwaits.elim

namespace System.Accounts

variable {sys sys' : System ι} {outputs outputs' : List Output}

omit [DecidableEq ι] in
theorem of_members_eq (h : sys.Accounts outputs) (hserver : sys'.server.Accounts outputs')
    (hmembers : sys'.members = sys.members) : sys'.Accounts outputs' := by
  refine ⟨hserver, ?_⟩
  rw [hmembers]
  exact h.members

theorem of_update (h : sys.Accounts outputs) (hserver : sys'.server.Accounts outputs') {i : ι}
    {m : Member} (hmembers : sys'.members = Function.update sys.members i m) (hm : m.IsGenuine) :
    sys'.Accounts outputs' := by
  refine ⟨hserver, fun j => ?_⟩
  rw [hmembers]
  by_cases hj : j = i
  · subst hj
    rwa [Function.update_self]
  · rw [Function.update_of_ne hj]
    exact h.members j

end System.Accounts

theorem Move.accounts {sys sys' : System ι} {outputs more : List Output}
    (hmove : Move sys more sys') (h : sys.Accounts outputs) :
    sys'.Accounts (outputs ++ more) ∧ sys.server.log <+: sys'.server.log := by
  have hserver : sys.server.Accounts (outputs ++ []) := by
    rw [List.append_nil]
    exact h.server
  cases hmove with
  | push keys hfresh =>
      exact ⟨h.of_members_eq (hserver.grow rfl rfl rfl hfresh) rfl, List.prefix_append _ _⟩
  | pushOutput output =>
      exact ⟨h.of_members_eq (h.server.pushOutput output) rfl, List.prefix_refl _⟩
  | tune server hlog hpending hcommitted =>
      exact ⟨h.of_members_eq (hserver.of_eq hlog hpending hcommitted) rfl,
        hlog ▸ List.prefix_refl _⟩
  | equip engines stores => exact ⟨h.of_members_eq hserver rfl, List.prefix_refl _⟩
  | enter i m hfree =>
      exact ⟨h.of_update hserver rfl (.free hfree), List.prefix_refl _⟩
  | begin i op hfree =>
      exact ⟨h.of_update hserver rfl (.begin _ _ (Group.genuine_action op)), List.prefix_refl _⟩
  | answer i task faults clock htask hfresh rest group s events hstep =>
      obtain ⟨hwaits, hgenuine⟩ := h.members i task htask
      obtain ⟨hrest, hserver', hlog⟩ :=
        genuine_of_step hgenuine hwaits hserver hfresh hstep
      exact ⟨h.of_update hserver' rfl (.resume _ _ hrest), hlog⟩
  | giveUp i task htask =>
      exact ⟨h.of_update hserver rfl (.giveUp _ _), List.prefix_refl _⟩

theorem Moves.accounts {sys sys' : System ι} {outputs pushed : List Output}
    (hmoves : Moves sys pushed sys') (h : sys.Accounts outputs) :
    sys'.Accounts (outputs ++ pushed) ∧ sys.server.log <+: sys'.server.log := by
  induction hmoves with
  | nil =>
      rw [List.append_nil]
      exact ⟨h, List.prefix_refl _⟩
  | snoc _ hmove ih =>
      obtain ⟨haccounts, hlog⟩ := ih
      obtain ⟨haccounts', hlog'⟩ := hmove.accounts haccounts
      rw [List.append_assoc] at haccounts'
      exact ⟨haccounts', hlog.trans hlog'⟩

/-- Whether a system may start from here: the server's log has no id twice, nothing has been
committed yet, and no member is at work. -/
structure System.Fresh (sys : System ι) : Prop where
  distinct : (Key.ids sys.server.log).Nodup
  uncommitted : sys.server.committed = []
  free : ∀ i, (sys.members i).task = none

omit [DecidableEq ι] in
theorem System.Fresh.accounts {sys : System ι} (h : sys.Fresh) :
    sys.Accounts sys.server.pending := by
  refine ⟨⟨h.distinct, fun o ho => .inl ho, ?_⟩, fun i => .free (h.free i)⟩
  rw [h.uncommitted]
  exact nofun

/-- No rotation is lost or doubled, however the work of the members mixes: every output that was
pending at first or has been pushed since is pending or committed; every committed key has the id
that its output derives, and the log has exactly one key of that id; and the log only grows at its
end. -/
theorem rotations_accounted {sys₀ sys sys' : System ι} {pushed more : List Output}
    (h₀ : sys₀.Fresh) (hmoves : Moves sys₀ pushed sys) (hmoves' : Moves sys more sys') :
    (∀ o ∈ sys₀.server.pending ++ pushed ++ more,
      o ∈ sys'.server.pending ∨ o ∈ sys'.server.committed.map Prod.fst) ∧
    (∀ o k, (o, k) ∈ sys'.server.committed →
      k.id = Engine.rotatedKeyId o.preKeyId o.serverOutput ∧
        sys'.server.log.countP (·.id = k.id) = 1) ∧
    sys.server.log <+: sys'.server.log := by
  obtain ⟨haccounts, -⟩ := hmoves.accounts h₀.accounts
  obtain ⟨⟨hserver, -⟩, hlog⟩ := hmoves'.accounts haccounts
  refine ⟨hserver.kept, fun o k hmem => ?_, hlog⟩
  exact ⟨(hserver.derived o k hmem).1, hserver.countP_eq_one hmem⟩

section Race

variable {q : Request} {r : q.Reply} {calls : List (Σ q : Request, q.Reply)}

/-- Whether a member waits for the answers to these requests, and makes no others before them. -/
def Member.Waits (m : Member) (calls : List (Σ q : Request, q.Reply)) : Prop :=
  ∀ call rest, calls = call :: rest → ∃ task next, m.task = some task ∧
    task.rest = .ask call.1 next ∧ (next call.2).Asks m.group rest

theorem Member.waits_resume {α : Type} {m : Member} {p : Program Group (Except Failure α)}
    (op : Group.Operation α) (h : p.Asks m.group calls) : (m.resume op p).Waits calls := by
  rintro ⟨q, r⟩ rest rfl
  obtain ⟨next, g', hsettle, hrest⟩ := h
  refine ⟨⟨op, .ask q next⟩, next, ?_, rfl, ?_⟩
  · simp only [Member.resume, hsettle]
  · simpa only [Member.resume, hsettle] using hrest

theorem exists_move_begin {α : Type} (sys : System ι) (i : ι) (op : Group.Operation α)
    (hfree : (sys.members i).task = none) (h : op.action.run.Asks (sys.members i).group calls) :
    ∃ m, Move sys [] (sys.withMember i m) ∧ m.Waits calls :=
  ⟨_, .begin i op hfree, Member.waits_resume op h⟩

theorem exists_move_answer (sys : System ι) (i : ι)
    (h : (sys.members i).Waits (⟨q, r⟩ :: calls)) {s : State}
    (hanswer : world.answer q (sys.around (sys.members i) {}) = (some r, s)) :
    ∃ m, Move sys [] (sys.absorb i m s) ∧ m.Waits calls := by
  obtain ⟨task, next, htask, hrest, hasks⟩ := h _ _ rfl
  have hstep : task.rest.step (withFaults world) (sys.members i).group
      ([], sys.around (sys.members i) {}) =
        (some (next r, (sys.members i).group), ([], s), [.called q r]) := by
    simp only [hrest, Program.step, withFaults, Faults.strike, hanswer]
  refine ⟨_, .answer i task [] {} htask ?_ _ _ _ _ hstep, Member.waits_resume task.op hasks⟩
  rw [hrest]
  simp

def racer (privateKey : String) : Member where
  group := {
    record := .make "team" 0 (.extend .empty [.sample "a" 1])
    actor := ⟨"user", "public", privateKey, "token"⟩
    config := {} }
  engine := 0
  store := 0

/-- Two members who hold the one key of the log. -/
def race : System Bool where
  server := { log := [.sample "a" 1] }
  engines _ := {}
  stores _ := {}
  members
    | true => racer "this"
    | false => racer "that"

def raceOutput : Output := ⟨"a", "output"⟩

/-- Both members ask for the pending outputs before either of them commits, so both commit the same
one. -/
theorem rotations_accounted_race : race.Fresh ∧ ∃ sys k k',
    Moves race [raceOutput] sys ∧ sys.server.pending = [] ∧
    sys.server.committed = [(raceOutput, k), (raceOutput, k')] ∧
    k.id = Engine.rotatedKeyId "a" "output" ∧ sys.server.log.countP (·.id = k.id) = 1 := by
  have hfresh : race.Fresh := by
    refine ⟨by decide, rfl, fun i => ?_⟩
    cases i with
    | false => rfl
    | true => rfl
  have hget : (racer "").group.record.history.get? "a" = some (.sample "a" 1) := by
    have hsound : (racer "").group.record.history.Sound := .ofKeys ⟨by decide, by decide⟩
    rw [hsound.get?_eq_find?]
    rfl
  let actor (i : Bool) : Actor := (race.members i).group.actor
  let key (i : Bool) : Key := Engine.rotatedKey (.sample "a" 1) raceOutput (actor i)
  let pushed : System Bool := { race with server := race.server.pushOutput raceOutput }
  obtain ⟨m₁, hmove₁, hwaits₁⟩ := exists_move_begin pushed false .finish rfl
    (Group.asks_finish (o := raceOutput) hget (key false))
  let sys₁ := pushed.withMember false m₁
  obtain ⟨m₂, hmove₂, hwaits₂⟩ := exists_move_begin sys₁ true .finish rfl
    (Group.asks_finish (o := raceOutput) hget (key true))
  let sys₂ := sys₁.withMember true m₂
  obtain ⟨m₃, hmove₃, hwaits₃⟩ := exists_move_answer sys₂ false hwaits₁ rfl
  let sys₃ := sys₂.absorb false m₃ (sys₂.around m₁ {})
  obtain ⟨m₄, hmove₄, hwaits₄⟩ := exists_move_answer sys₃ true hwaits₂ rfl
  let sys₄ := sys₃.absorb true m₄ (sys₃.around m₂ {})
  let sys₅ : System Bool := { sys₄ with engines := fun _ => {}, stores := fun _ => {} }
  obtain ⟨m₅, hmove₅, hwaits₅⟩ := exists_move_answer sys₅ false hwaits₃ rfl
  let sys₆ := sys₅.absorb false m₅ { sys₅.around m₃ {} with engine := { derivations := 1 } }
  let sys₇ : System Bool := { sys₆ with engines := fun _ => {}, stores := fun _ => {} }
  obtain ⟨m₆, hmove₆, hwaits₆⟩ := exists_move_answer sys₇ true hwaits₄ rfl
  let sys₈ := sys₇.absorb true m₆ { sys₇.around m₄ {} with engine := { derivations := 1 } }
  obtain ⟨m₇, hmove₇, -⟩ := exists_move_answer sys₈ false hwaits₅ rfl
  let sys₉ := sys₈.absorb false m₇
    { sys₈.around m₅ {} with server := sys₈.server.commit raceOutput (key false) }
  obtain ⟨m₈, hmove₈, -⟩ := exists_move_answer sys₉ true hwaits₆ rfl
  have hpushed : Moves race [raceOutput] pushed := .snoc .nil (.pushOutput raceOutput)
  have hbegun := (hpushed.snoc hmove₁).snoc hmove₂
  have hasked := ((hbegun.snoc hmove₃).snoc hmove₄).snoc (.equip (fun _ => {}) fun _ => {})
  have hderived := ((hasked.snoc hmove₅).snoc (.equip (fun _ => {}) fun _ => {})).snoc hmove₆
  have hcommitted := (hderived.snoc hmove₇).snoc hmove₈
  obtain ⟨-, haccounted, -⟩ := rotations_accounted hfresh hcommitted .nil
  obtain ⟨hid, hcount⟩ := haccounted raceOutput (key false) (.head _)
  exact ⟨hfresh, _, key false, key true, hcommitted, rfl, rfl, hid, hcount⟩

end Race

end Concurrency

end Keyring
