import Keyring.Key.Sample
import Keyring.Proofs.Concurrency.Consistent

namespace Keyring

open Memory

namespace Concurrency

variable {ι : Type} [DecidableEq ι]

theorem Member.fetched_resume {α : Type} (m : Member) (op : Group.Operation α)
    (rest : Program Group (Except Failure α)) : (m.resume op rest).fetched = m.fetched := by
  unfold Member.resume
  split
  · rfl
  · rfl

/-- Whether a server answers fetches from its log, at once. -/
structure Ready (server : Server) : Prop where
  working : server.failing = false
  undelayed : server.delayed = []
  prompt : server.delay = none
  unscripted : server.scripted = []

theorem exists_answer {sys : System ι} {i : ι} {α : Type} {op : Group.Operation α} {sweep : Sweep}
    {next : Except Failure (List Key) → Program Group (Except Failure α)}
    (hc : Chronicle sys.server.log) (hready : Ready sys.server)
    (htask : (sys.members i).task = some ⟨op, .gather sweep next⟩) :
    ∃ sys', Step sys sys' ∧ sys'.server.log = sys.server.log ∧ Ready sys'.server ∧
      (∀ j, j ≠ i → sys'.members j = sys.members j) ∧
      match sweep.take (Server.keysAfter sys.server.log sweep.cursor) with
      | .inr _ => (sys'.members i).fetched = some sys'.server.log
      | .inl sweep => (sys'.members i).task = some ⟨op, .gather sweep next⟩ ∧
          (sys'.members i).group = (sys.members i).group := by
  let server : Server := { sys.server with cursors := sweep.cursor :: sys.server.cursors }
  have hlater : Ready server := ⟨hready.working, hready.undelayed, hready.prompt, hready.unscripted⟩
  have hfit : Chronicle (sys.server.log ++ sys.server.due) := by
    simpa [Server.due, hready.working, hready.undelayed] using hc
  have hanswer : world.answer sweep.request (sys.around (sys.members i) {}) =
      (some (.ok (Server.keysAfter sys.server.log sweep.cursor)),
        { sys.around (sys.members i) {} with server }) := by
    have hfetch := Server.fetch_eq hready.working hready.undelayed sweep.cursor
    simp [world, Sweep.request, State.answer, State.behind, State.fetchStop, System.around,
      hready.prompt, hfetch, hready.unscripted, server]
  obtain ⟨rest, events, hstep, hleads⟩ :=
    Program.exists_step_gather hanswer next (sys.members i).group
  refine ⟨_, .answer i _ {} htask (fun _ _ _ => hfit) _ _ _ _ hstep, rfl, hlater,
    fun j hj => Function.update_of_ne hj _ _, ?_⟩
  unfold Program.LeadsTo at hleads
  cases htake : sweep.take (Server.keysAfter sys.server.log sweep.cursor) with
  | inr keys =>
      rw [htake] at hleads
      obtain ⟨rfl, hends⟩ := hleads
      simp only [System.absorb, Function.update_self, Member.fetched_resume, hends, if_true]
  | inl sweep' =>
      rw [htake] at hleads
      obtain ⟨rfl, -⟩ := hleads
      simp only [System.absorb, Function.update_self]
      exact ⟨rfl, rfl⟩

theorem settle_fetch {g : Group} {last : Key} (hlast : g.record.history.keys.getLast? = some last) :
    ∃ sweep next, Group.fetch.run.settle g = (.gather sweep next, g) ∧ sweep.batches = [] ∧
      sweep.cursor = last.cursor := by
  refine ⟨⟨g.actor.token, g.record.groupId, g.config.keys.fetchThreshold, last.cursor, []⟩, ?_⟩
  simp only [Group.fetch, Group.fetchNew, Attempt.run_bind, Attempt.get, ExceptT.run_mk,
    Program.bind, Program.settle, Attempt.settle, History.cursor_eq hlast, Attempt.gather]
  exact ⟨_, rfl, trivial, trivial⟩

theorem exists_begun {sys : System ι} (h : sys.Consistent) {i : ι}
    (hfree : (sys.members i).task = none) :
    ∃ sys' sweep next, Step sys sys' ∧ sys'.server = sys.server ∧
      (∀ j, j ≠ i → sys'.members j = sys.members j) ∧
      (sys'.members i).task = some ⟨.fetch, .gather sweep next⟩ ∧
      sweep.GoesOn (sys.members i).group sys.server.log := by
  have hwithin := (h.members i).upToDate.within
  have hlast := List.getLast?_eq_some_getLast hwithin.keys_ne_nil
  obtain ⟨sweep, next, hsettle, hbatches, hcursor⟩ := settle_fetch hlast
  have hgathered : sweep.gathered = [] := by
    simp [Sweep.gathered, hbatches]
  refine ⟨_, sweep, next, .begin i .fetch hfree, rfl, fun j hj => Function.update_of_ne hj _ _,
    ?_, ?_, _, ?_, hcursor⟩
  · have hbegin : (sys.members i).resume .fetch Group.fetch.run =
        { sys.members i with task := some ⟨.fetch, .gather sweep next⟩ } := by
      rw [Member.resume, hsettle]
    show (Function.update sys.members i _ i).task = _
    rw [Function.update_self]
    exact congrArg Member.task hbegin
  · rw [hgathered, List.append_nil]
    exact hwithin.keys_within
  · rw [hgathered, List.append_nil]
    exact hlast

/-- A free member can fetch up to the end of the log of a ready server. -/
theorem exists_fetched {sys : System ι} (h : sys.Consistent) (hready : Ready sys.server) {i : ι}
    (hfree : (sys.members i).task = none) :
    ∃ sys', Relation.ReflTransGen Step sys sys' ∧ sys'.server.log = sys.server.log ∧
      Ready sys'.server ∧ (∀ j, j ≠ i → sys'.members j = sys.members j) ∧
      (sys'.members i).fetched = some sys'.server.log := by
  obtain ⟨begun, sweep, next, hstep, hserver, hothers, htask, hgoes⟩ := exists_begun h hfree
  have hself : Grows sys.server.log sys.server.log := ⟨List.prefix_refl _, h.chronicle⟩
  have htaken := Sweep.GoesOn.take (hgoes.append_keysAfter hself)
  obtain ⟨sys₁, hstep₁, hlog₁, hready₁, hothers₁, hanswer₁⟩ :=
    exists_answer (hserver ▸ h.chronicle) (hserver ▸ hready) htask
  rw [hserver] at hlog₁ hanswer₁
  cases htake : sweep.take (Server.keysAfter sys.server.log sweep.cursor) with
  | inr keys =>
      rw [htake] at hanswer₁
      refine ⟨sys₁, .tail (.single hstep) hstep₁, hlog₁, hready₁, fun j hj => ?_, hanswer₁⟩
      exact (hothers₁ j hj).trans (hothers j hj)
  | inl sweep₁ =>
      -- The batch was not short, so the loop asks once more, and gets nothing.
      rw [htake] at hanswer₁ htaken
      obtain ⟨hgoes₁, hwhole⟩ := htaken
      have hnone : Server.keysAfter sys₁.server.log sweep₁.cursor = [] := by
        have hrest := hgoes₁.append_keysAfter hself
        rw [hwhole] at hrest
        rw [hlog₁]
        exact List.append_right_eq_self.mp hrest
      obtain ⟨sys₂, hstep₂, hlog₂, hready₂, hothers₂, hanswer₂⟩ :=
        exists_answer (hlog₁ ▸ h.chronicle) hready₁ hanswer₁.1
      rw [hnone] at hanswer₂
      refine ⟨sys₂, .tail (.tail (.single hstep) hstep₁) hstep₂, hlog₂.trans hlog₁, hready₂,
        fun j hj => ?_, hanswer₂⟩
      exact (hothers₂ j hj).trans ((hothers₁ j hj).trans (hothers j hj))

def holder (keys : List Key) : Member where
  group := {
    record := .make "team" 0 (.extend .empty keys)
    actor := ⟨"user", "public", "private", "token"⟩
    config := {} }
  engine := 0
  store := 0

/-- Two members, of whom one has not yet fetched the second key. -/
def pair : System Bool where
  server := { log := [Key.sample "first" 1, Key.sample "second" 2] }
  engines _ := {}
  stores _ := {}
  members
    | true => holder [Key.sample "first" 1, Key.sample "second" 2]
    | false => holder [Key.sample "first" 1]

theorem initial_pair : pair.Initial where
  chronicle := ⟨by decide, by decide⟩
  unscripted := rfl
  within
    | true => ⟨.ofKeys ⟨by decide, by decide⟩, List.cons_ne_nil _ _, List.prefix_refl _⟩
    | false => ⟨.ofKeys ⟨by decide, by decide⟩, List.cons_ne_nil _ _, ⟨[.sample "second" 2], rfl⟩⟩
  free
    | true => rfl
    | false => rfl
  unfetched
    | true => rfl
    | false => rfl

theorem exists_fetched_pair : ∃ sys, Relation.ReflTransGen Step pair sys ∧
    sys.server.log = pair.server.log ∧ ∀ i, (sys.members i).fetched = some sys.server.log := by
  have hready : Ready pair.server := ⟨rfl, rfl, rfl, rfl⟩
  obtain ⟨sys₁, hrun₁, hlog₁, hready₁, hothers₁, hfetched₁⟩ :=
    exists_fetched initial_pair.consistent hready (initial_pair.free false)
  have hfree₁ : (sys₁.members true).task = none :=
    (congrArg Member.task (hothers₁ true (by decide))).trans (initial_pair.free true)
  obtain ⟨sys₂, hrun₂, hlog₂, -, hothers₂, hfetched₂⟩ :=
    exists_fetched (initial_pair.consistent.continues hrun₁).consistent hready₁ hfree₁
  refine ⟨sys₂, hrun₁.trans hrun₂, hlog₂.trans hlog₁, ?_⟩
  rintro (_ | _)
  · rw [hothers₂ false (by decide), hfetched₁, hlog₂]
  · exact hfetched₂

/-- Members agree in every state that a system comes to: the server's log is a chronicle that only
grows at its end, and the history of each member is a prefix of it that only grows. So of any two
histories one is a prefix of the other, and those of members whose last fetch loops have come to the
end of the present log are equal. -/
theorem members_agree {sys₀ sys sys' : System ι} (h₀ : sys₀.Initial)
    (hrun : Relation.ReflTransGen Step sys₀ sys) (hrun' : Relation.ReflTransGen Step sys sys') :
    Chronicle sys'.server.log ∧ sys.server.log <+: sys'.server.log ∧
      (∀ i, sys'.keys i ≠ [] ∧ sys'.keys i <+: sys'.server.log ∧ sys.keys i <+: sys'.keys i) ∧
      (∀ i j, sys'.keys i <+: sys'.keys j ∨ sys'.keys j <+: sys'.keys i) ∧
      ∀ i j, (sys'.members i).fetched = some sys'.server.log →
        (sys'.members j).fetched = some sys'.server.log → sys'.keys i = sys'.keys j := by
  obtain ⟨hconsistent, -, -⟩ := h₀.consistent.continues hrun
  obtain ⟨⟨hchronicle, -, hmembers⟩, hlog, hkeys⟩ := hconsistent.continues hrun'
  have hheld : ∀ i, sys'.keys i <+: sys'.server.log := fun i =>
    (hmembers i).upToDate.within.keys_within
  have hwhole : ∀ i, (sys'.members i).fetched = some sys'.server.log →
      sys'.keys i = sys'.server.log := fun i hfetched =>
    (hheld i).eq_of_length_le ((hmembers i).upToDate.seen_within _ hfetched).length_le
  refine ⟨hchronicle, hlog, fun i => ?_, fun i j => ?_, fun i j hi hj => ?_⟩
  · exact ⟨(hmembers i).upToDate.within.keys_ne_nil, hheld i, hkeys i⟩
  · exact List.prefix_or_prefix_of_prefix (hheld i) (hheld j)
  · rw [hwhole i hi, hwhole j hj]

theorem members_agree_pair :
    pair.Initial ∧ ∃ sys, Relation.ReflTransGen Step pair sys ∧
      (∀ i, (sys.members i).fetched = some sys.server.log) ∧
      pair.keys false ≠ pair.keys true ∧ sys.keys false = sys.keys true := by
  obtain ⟨sys, hrun, -, hfetched⟩ := exists_fetched_pair
  obtain ⟨-, -, -, -, hequal⟩ := members_agree initial_pair .refl hrun
  exact ⟨initial_pair, sys, hrun, hfetched, by decide,
    hequal false true (hfetched false) (hfetched true)⟩

end Concurrency

end Keyring
