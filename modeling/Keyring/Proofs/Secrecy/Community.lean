import Keyring.Community.Members
import Keyring.Proofs.Secrecy.Operations
import Keyring.Proofs.Secrecy.World

namespace Keyring.Community

inductive Cell.Resembles : Cell → Cell → Prop where
  | mk {g g' : Group} (hg : g.Resembles g') (store : String) : Resembles ⟨g, store⟩ ⟨g', store⟩

structure Resembles (cm cm' : Community) : Prop where
  config_eq : cm.config = cm'.config
  server : cm.server.Resembles cm'.server
  engine_eq : cm.engine = cm'.engine
  faults_eq : cm.faults = cm'.faults
  clock_eq : cm.clock = cm'.clock
  stores : Assoc.Rel (fun _ => Memory.Store.Resembles) cm.stores cm'.stores
  registries_eq : cm.registries = cm'.registries
  cells : List.Forall₂ Cell.Resembles cm.cells cm'.cells
  members_eq : cm.members = cm'.members
  lone : Option.Rel Cell.Resembles cm.lone cm'.lone

/-- What the memories of two such communities have in common. -/
abbrev SameMemory (m m' : Memory.Faults × Memory.State) : Prop :=
  m.1 = m'.1 ∧ m.2.Resembles m'.2

theorem respects_world : world.Respects SameMemory :=
  Memory.respects_withFaults Memory.respects_world

/-- Two courses of events that tell the same, with `V` between their results, and that leave
communities behind which differ in nothing but secret material. -/
structure SameCourse {α β : Type} (V : α → β → Prop) (r : α × List Event × Community)
    (r' : β × List Event × Community) : Prop where
  result : V r.1 r'.1
  signals_eq : Event.signals r.2.1 = Event.signals r'.2.1
  community : r.2.2.Resembles r'.2.2

section Parts

variable {cm cm' : Community}

theorem Resembles.store (h : cm.Resembles cm') (name : String) :
    (cm.store name).Resembles (cm'.store name) := by
  have hlookup := h.stores.lookup name
  unfold Community.store named
  generalize cm.stores.lookup name = found, cm'.stores.lookup name = found' at hlookup ⊢
  cases hlookup with
  | none => exact .nil
  | some hstore => exact hstore

theorem Resembles.setStore (h : cm.Resembles cm') (name : String) {s s' : Memory.Store}
    (hs : s.Resembles s') : (cm.setStore name s).Resembles (cm'.setStore name s') :=
  { h with stores := h.stores.put hs }

theorem Resembles.registry_eq (h : cm.Resembles cm') (store : String) :
    cm.registry store = cm'.registry store := by
  rw [registry, registry, h.registries_eq]

theorem Resembles.setRegistry (h : cm.Resembles cm') (store : String) (r : Registry Handle) :
    (cm.setRegistry store r).Resembles (cm'.setRegistry store r) :=
  { h with registries_eq := congrArg (Assoc.put store r) h.registries_eq }

theorem Resembles.hold (h : cm.Resembles cm') : cm.hold.Resembles cm'.hold :=
  { h with clock_eq := congrArg (fun c : Memory.Clock => c.pass.2) h.clock_eq }

theorem Resembles.handle?_eq (h : cm.Resembles cm') (member : String) :
    cm.handle? member = cm'.handle? member := by
  rw [handle?, handle?, h.members_eq]

theorem Resembles.cell (h : cm.Resembles cm') (i : Handle) :
    Option.Rel Cell.Resembles cm.cells[i]? cm'.cells[i]? := by
  have hcells := List.forall₂_drop i h.cells
  rw [← List.head?_drop, ← List.head?_drop]
  generalize cm.cells.drop i = rest, cm'.cells.drop i = rest' at hcells ⊢
  cases hcells with
  | nil => exact .none
  | cons hc _ => exact .some hc

theorem Resembles.look (h : cm.Resembles cm') (member : String) :
    (cm.look member).2.Resembles (cm'.look member).2 := by
  have hcell : Option.Rel Cell.Resembles (cm.cell? member) (cm'.cell? member) := by
    unfold cell?
    rw [h.handle?_eq]
    cases cm'.handle? member with
    | none => exact .none
    | some i => exact h.cell i
  unfold Community.look
  generalize cm.cell? member = cell, cm'.cell? member = cell' at hcell ⊢
  cases hcell with
  | none => exact h
  | some _ => exact h.hold

theorem Resembles.write (h : cm.Resembles cm') (store key : String) {text text' : String}
    (ht : Group.Record.TextResembles text text') :
    (cm.write store key text).Resembles (cm'.write store key text') :=
  h.hold.setStore store ((h.store store).set key ht)

theorem Resembles.enter (h : cm.Resembles cm') (store groupId : String) (i : Handle) :
    (cm.enter store groupId i).Resembles (cm'.enter store groupId i) := by
  unfold Community.enter
  rw [h.registry_eq]
  exact h.hold.setRegistry store _

theorem Resembles.remove (h : cm.Resembles cm') (store groupId : String) :
    (cm.remove store groupId).2.Resembles (cm'.remove store groupId).2 := by
  unfold Community.remove
  rw [h.registry_eq]
  exact h.hold.setRegistry store _

theorem Resembles.assign (h : cm.Resembles cm') (member : String) (i : Handle) :
    (cm.assign member i).Resembles (cm'.assign member i) :=
  { h with members_eq := congrArg (Assoc.put member i) h.members_eq }

theorem Resembles.forget (h : cm.Resembles cm') (member : String) :
    (cm.forget member).Resembles (cm'.forget member) :=
  { h with
    members_eq := congrArg (List.filter fun m : String × Handle => m.1 ≠ member) h.members_eq }

theorem Resembles.addCell (h : cm.Resembles cm') {c c' : Cell} (hc : c.Resembles c') :
    (cm.addCell c).1.Resembles (cm'.addCell c').1 ∧ (cm.addCell c).2 = (cm'.addCell c').2 :=
  ⟨{ h with cells := List.rel_append h.cells (.cons hc .nil) }, h.cells.length_eq⟩

theorem Resembles.memory (h : cm.Resembles cm') (store : String) :
    SameMemory (cm.memory store) (cm'.memory store) :=
  ⟨h.faults_eq, h.server, h.engine_eq, h.store store, h.clock_eq⟩

theorem Resembles.absorb (h : cm.Resembles cm') (store : String)
    {m m' : Memory.Faults × Memory.State} (hm : SameMemory m m') :
    (cm.absorb store m).Resembles (cm'.absorb store m') :=
  { h.setStore store hm.2.store with
    faults_eq := hm.1
    server := hm.2.server
    engine_eq := hm.2.engine_eq
    clock_eq := hm.2.clock_eq }

end Parts

section Deeds

variable {α β : Type} {V : α → β → Prop}

/-- Deeds that run alike on what differs in nothing but secret material. -/
def Deed.Resembles (V : α → β → Prop) (deed : Deed α) (deed' : Deed β) : Prop :=
  ∀ g g' m m', g.Resembles g' → SameMemory m m' →
    (deed g m).Resembles Group.Resembles SameMemory V (deed' g' m')

theorem fuel_eq {m m' : Memory.Faults × Memory.State} (h : SameMemory m m') (limit : Duration) :
    fuel limit m = fuel limit m' := by
  rw [fuel, fuel, h.2.fetchBound_eq, h.1]

theorem Deed.resembles_operation {α : Type} (op : Group.Operation α) :
    Resembles (Agree op.Compares) (operation op) (operation op) := by
  intro g g' m m' hg hm
  unfold operation
  rw [fuel_eq hm, hg.config_eq]
  exact op.resembles_run respects_world _ hg hm

theorem Deed.resembles_action {a : Group.Action α} {b : Group.Action β} (h : Group.Alike V a b) :
    Resembles (Agree V) (action a) (action b) := by
  intro g g' m m' hg hm
  unfold action
  rw [fuel_eq hm]
  exact Program.Resembles.run h respects_world _ hg hm

theorem Deed.resembles_dropped (limit : Duration) {a : Group.Action α} {b : Group.Action β}
    (h : Group.Alike V a b) : Resembles (Agree V) (dropped limit a) (dropped limit b) := by
  intro g g' m m' hg hm
  unfold dropped
  rw [fuel_eq hm]
  obtain ⟨hending, hstate, hworld, hsignals⟩ := Program.Resembles.run h respects_world
    (fuel limit m') hg (respects_world.startTimer limit hm)
  exact ⟨hending, hstate, respects_world.stopTimer hworld, hsignals⟩

variable {cm cm' : Community} {deed : Deed α} {deed' : Deed β}

theorem Resembles.act (h : cm.Resembles cm') {c c' : Cell} (hc : c.Resembles c')
    (hdeed : Deed.Resembles V deed deed') :
    (cm.act c deed).Resembles Cell.Resembles Community.Resembles V (cm'.act c' deed') := by
  obtain ⟨hg, store⟩ := hc
  obtain ⟨hending, hstate, hworld, hsignals⟩ := hdeed _ _ _ _ hg (h.memory store)
  exact ⟨hending, .mk hstate store, h.absorb store hworld, hsignals⟩

theorem forall₂_set {γ : Type} {R : γ → γ → Prop} {xs ys : List γ} (h : List.Forall₂ R xs ys)
    {x y : γ} (hxy : R x y) (i : Nat) : List.Forall₂ R (xs.set i x) (ys.set i y) := by
  induction h generalizing i with
  | nil => exact .nil
  | cons hfirst hrest ih =>
      cases i with
      | zero => exact .cons hxy hrest
      | succ i => exact .cons hfirst (ih i)

theorem Resembles.onMember (h : cm.Resembles cm') (member : String)
    (hdeed : Deed.Resembles V deed deed') :
    Option.Rel (SameCourse (Ending.Rel V)) (cm.onMember member deed)
      (cm'.onMember member deed') := by
  unfold Community.onMember
  rw [h.handle?_eq]
  cases cm'.handle? member with
  | none => exact .none
  | some i =>
      have hcell := h.cell i
      dsimp only [Option.bind_eq_bind, Option.bind_some]
      generalize cm.cells[i]? = cell, cm'.cells[i]? = cell' at hcell ⊢
      cases hcell with
      | none => exact .none
      | some hc =>
          have hact := h.hold.act hc hdeed
          refine .some ⟨hact.ending, hact.signals_eq, ?_⟩
          exact { hact.world with cells := forall₂_set hact.world.cells hact.state i }

theorem Resembles.onLone (h : cm.Resembles cm') (hdeed : Deed.Resembles V deed deed') :
    Option.Rel (SameCourse (Ending.Rel V)) (cm.onLone deed) (cm'.onLone deed') := by
  have hlone := h.lone
  unfold Community.onLone
  generalize cm.lone = lone, cm'.lone = lone' at hlone ⊢
  cases hlone with
  | none => exact .none
  | some hc =>
      have hact := h.act hc hdeed
      exact .some ⟨hact.ending, hact.signals_eq, { hact.world with lone := .some hact.state }⟩

theorem Resembles.leave (h : cm.Resembles cm') (member : String) :
    Option.Rel (fun r r' =>
        Option.Rel (fun x x' => Event.signals x.2 = Event.signals x'.2) r.1 r'.1 ∧
          r.2.Resembles r'.2)
      (cm.leave member) (cm'.leave member) := by
  have hshared (i : Handle) : cm.shared member i = cm'.shared member i := by
    rw [shared, shared, h.members_eq, h.registries_eq]
  unfold Community.leave
  rw [h.handle?_eq]
  cases cm'.handle? member with
  | none => exact .none
  | some i =>
      have hcell := h.cell i
      dsimp only [Option.bind_eq_bind, Option.bind_some]
      generalize cm.cells[i]? = cell, cm'.cells[i]? = cell' at hcell ⊢
      cases hcell with
      | none => exact .none
      | some hc =>
          dsimp only [Option.bind_some]
          rw [hshared]
          split
          · exact .some ⟨.none, h⟩
          · have hact := h.act hc (Deed.resembles_operation .leave)
            exact .some ⟨.some hact.signals_eq, hact.world.forget member⟩

end Deeds

section Openings

variable {cm cm' : Community} {actor actor' : Actor}

/-- Requests and tasks of a community run on no state of their own. -/
abbrev Stateless (_ _ : Unit) : Prop :=
  True

theorem stateless : Stateless () () :=
  trivial

theorem Resembles.call (h : cm.Resembles cm') {q q' : Request} {A : q.Answer → q'.Answer → Prop}
    (hq : Request.Resembles q q' A) :
    SameCourse (Ending.Rel (Agree A)) (cm.call q) (cm'.call q') := by
  have hask : Program.Resembles Stateless (Agree A) (.ask q .done) (.ask q' .done) :=
    .ask hq fun _ _ hr => .done hr
  have hrun := hask.run respects_world 0 stateless (h.memory "main")
  exact ⟨hrun.ending, hrun.signals_eq, h.absorb "main" hrun.world⟩

theorem alike_load (groupId : String) (ha : actor.Resembles actor') (config : Config) :
    Program.Resembles Stateless (Agree Group.Resembles)
      (Group.load groupId actor config).run (Group.load groupId actor' config).run :=
  Group.resembles_load groupId ha config

theorem Resembles.load (h : cm.Resembles cm') (store groupId : String)
    (ha : actor.Resembles actor') :
    SameCourse (Ending.Rel (Agree Group.Resembles)) (cm.load store groupId actor)
      (cm'.load store groupId actor') := by
  unfold Community.load
  rw [h.config_eq]
  have hrun := (alike_load groupId ha cm'.config).run respects_world 0 stateless (h.memory store)
  exact ⟨hrun.ending, hrun.signals_eq, h.absorb store hrun.world⟩

theorem Resembles.register (h : cm.Resembles cm') (store groupId : String) {g g' : Group}
    (hg : g.Resembles g') :
    SameCourse Eq (cm.register store groupId g) (cm'.register store groupId g') := by
  obtain ⟨hadded, hfresh⟩ := h.hold.addCell (.mk hg store)
  unfold Community.register
  dsimp only
  rw [h.registry_eq, hfresh]
  exact ⟨rfl, rfl, hadded.setRegistry store _⟩

theorem Resembles.openGroup (h : cm.Resembles cm') (store groupId : String)
    (ha : actor.Resembles actor') :
    SameCourse (Agree Eq) (cm.openGroup store groupId actor)
      (cm'.openGroup store groupId actor') := by
  unfold Community.openGroup lookUp
  rw [h.registry_eq]
  cases (cm'.registry store).get? groupId with
  | some i => exact ⟨.ok rfl, rfl, h.hold⟩
  | none =>
      obtain ⟨hending, hsignals, hcommunity⟩ := h.hold.load store groupId ha
      dsimp only
      generalize cm.hold.load store groupId actor = loaded,
        cm'.hold.load store groupId actor' = loaded' at hending hsignals hcommunity ⊢
      obtain ⟨ending, trace, next⟩ := loaded
      obtain ⟨ending', trace', next'⟩ := loaded'
      cases hending with
      | cut => exact ⟨.error _, hsignals, hcommunity⟩
      | exhausted => exact ⟨.error _, hsignals, hcommunity⟩
      | finished hr =>
          cases hr with
          | error e => exact ⟨.error e, hsignals, hcommunity⟩
          | ok hg =>
              obtain ⟨hhandle, hmore, hentered⟩ := hcommunity.register store groupId hg
              refine ⟨.ok hhandle, ?_, hentered⟩
              show Event.signals (_ ++ _) = Event.signals (_ ++ _)
              rw [Event.signals_append, Event.signals_append, hsignals, hmore]

theorem Resembles.openMember (h : cm.Resembles cm') (member store groupId : String)
    (ha : actor.Resembles actor') :
    SameCourse (Agree Eq) (cm.openMember member store groupId actor)
      (cm'.openMember member store groupId actor') := by
  obtain ⟨hhandle, hsignals, hcommunity⟩ := h.openGroup store groupId ha
  unfold Community.openMember
  rw [h.handle?_eq]
  generalize cm.openGroup store groupId actor = opened,
    cm'.openGroup store groupId actor' = opened' at hhandle hsignals hcommunity ⊢
  obtain ⟨r, trace, next⟩ := opened
  obtain ⟨r', trace', next'⟩ := opened'
  cases hhandle with
  | error e => exact ⟨.error e, hsignals, hcommunity⟩
  | ok hi =>
      subst hi
      exact ⟨.ok rfl, hsignals, hcommunity.assign member _⟩

theorem forall₂_replicate {γ δ : Type} {R : γ → δ → Prop} {x : γ} {y : δ} (hxy : R x y) (n : Nat) :
    List.Forall₂ R (List.replicate n x) (List.replicate n y) := by
  induction n with
  | zero => exact .nil
  | succ n ih => exact .cons hxy ih

/-- Tasks that load a group, as far as they have come. -/
abbrev TasksResemble (tasks tasks' : List (Program Unit (Except Failure Group))) : Prop :=
  List.Forall₂ (Program.Resembles Stateless (Agree Group.Resembles)) tasks tasks'

theorem Resembles.step (h : cm.Resembles cm') (store : String)
    {p p' : Program Unit (Except Failure Group)}
    (hp : Program.Resembles Stateless (Agree Group.Resembles) p p') :
    SameCourse (Program.Resembles Stateless (Agree Group.Resembles))
      (((p.step world () (cm.memory store)).1.map (·.1)).getD p,
        (p.step world () (cm.memory store)).2.2,
        cm.absorb store (p.step world () (cm.memory store)).2.1)
      (((p'.step world () (cm'.memory store)).1.map (·.1)).getD p',
        (p'.step world () (cm'.memory store)).2.2,
        cm'.absorb store (p'.step world () (cm'.memory store)).2.1) := by
  obtain ⟨hnext, hworld, hsignals⟩ := hp.step respects_world stateless (h.memory store)
  refine ⟨?_, hsignals, h.absorb store hworld⟩
  dsimp only
  generalize (p.step world () (cm.memory store)).1 = next,
    (p'.step world () (cm'.memory store)).1 = next' at hnext ⊢
  cases hnext with
  | none => exact hp
  | some hr => exact hr.1

theorem Resembles.stepAll (h : cm.Resembles cm') (store : String)
    {tasks tasks' : List (Program Unit (Except Failure Group))} (ht : TasksResemble tasks tasks') :
    SameCourse TasksResemble (Community.stepAll store tasks cm)
      (Community.stepAll store tasks' cm') := by
  induction ht generalizing cm cm' with
  | nil => exact ⟨.nil, rfl, h⟩
  | cons hp _ ih =>
      obtain ⟨hnext, hsignals, hcommunity⟩ := h.step store hp
      obtain ⟨hothers, hmore, hlast⟩ := ih hcommunity
      refine ⟨.cons hnext hothers, ?_, hlast⟩
      show Event.signals (_ ++ _) = Event.signals (_ ++ _)
      rw [Event.signals_append, Event.signals_append]
      exact congrArg₂ _ hsignals hmore

theorem agree_loaded? {p p' : Program Unit (Except Failure Group)}
    (hp : Program.Resembles Stateless (Agree Group.Resembles) p p') :
    Agree Group.Resembles (loaded? p) (loaded? p') := by
  cases hp with
  | done hr => exact hr
  | ask | gather | tell | read | write => exact .error _

theorem Resembles.registerAll (h : cm.Resembles cm') (store groupId : String)
    {tasks tasks' : List (Program Unit (Except Failure Group))} (ht : TasksResemble tasks tasks') :
    SameCourse (List.Forall₂ (Agree Eq)) (Community.registerAll store groupId tasks cm)
      (Community.registerAll store groupId tasks' cm') := by
  induction ht generalizing cm cm' with
  | nil => exact ⟨.nil, rfl, h⟩
  | @cons p p' _ _ hp _ ih =>
      obtain ⟨hnext, hsignals, hcommunity⟩ := h.step store hp
      have hloaded := agree_loaded? hnext
      unfold Community.registerAll
      dsimp only at hsignals hcommunity hloaded ⊢
      generalize loaded? (((p.step world () (cm.memory store)).1.map (·.1)).getD p) = loaded,
        loaded? (((p'.step world () (cm'.memory store)).1.map (·.1)).getD p') = loaded'
        at hloaded ⊢
      cases hloaded with
      | error e =>
          obtain ⟨hothers, hmore, hlast⟩ := ih hcommunity
          refine ⟨.cons (.error e) hothers, ?_, hlast⟩
          dsimp only
          rw [Event.signals_append, Event.signals_append, hsignals, hmore]
      | ok hg =>
          obtain ⟨hhandle, hentered, hregistered⟩ := hcommunity.register store groupId hg
          obtain ⟨hothers, hmore, hlast⟩ := ih hregistered
          refine ⟨.cons (.ok hhandle) hothers, ?_, hlast⟩
          dsimp only
          simp only [Event.signals_append, hsignals, hentered, hmore]

theorem Resembles.openMany (h : cm.Resembles cm') (store groupId : String)
    (ha : actor.Resembles actor') (n : Nat) :
    SameCourse (List.Forall₂ (Agree Eq)) (cm.openMany store groupId actor n)
      (cm'.openMany store groupId actor' n) := by
  have hgathered {cm cm' : Community} (h : cm.Resembles cm') :
      Resembles { cm with clock := cm.clock.gather n } { cm' with clock := cm'.clock.gather n } :=
    { h with clock_eq := congrArg (Memory.Clock.gather n) h.clock_eq }
  have htasks : TasksResemble (List.replicate n (Group.load groupId actor cm.config).run)
      (List.replicate n (Group.load groupId actor' cm'.config).run) := by
    rw [h.config_eq]
    exact forall₂_replicate (alike_load groupId ha cm'.config) n
  unfold Community.openMany
  rw [h.registry_eq]
  cases (cm'.registry store).get? groupId with
  | some i => exact ⟨forall₂_replicate (.ok rfl) n, rfl, hgathered h⟩
  | none =>
      obtain ⟨hstepped, hsignals, hcommunity⟩ := h.stepAll store htasks
      obtain ⟨hresults, hmore, hlast⟩ := hcommunity.registerAll store groupId hstepped
      refine ⟨hresults, ?_, hgathered hlast⟩
      dsimp only
      rw [Event.signals_append, Event.signals_append, hsignals, hmore]

end Openings

end Keyring.Community
