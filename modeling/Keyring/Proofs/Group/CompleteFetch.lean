import Keyring.Proofs.Group.Fetched
import Keyring.Proofs.Key.Samples
import Keyring.Proofs.Memory.Following

namespace Keyring

/-- The keys of a batch: all that there are, or as many as a limit allows. -/
def upTo (limit : Option Nat) (keys : List Key) : List Key :=
  match limit with
  | none => keys
  | some size => keys.take size

/-- A server of a log. As long as its states are steady, it answers a fetch from a key of the log
with the keys behind that one, as many as its limit allows. -/
def Serves {S : Type} (w : World S) (token groupId : String) (log : List Key) (limit : Option Nat)
    (steady : S → Prop) : Prop :=
  ∀ s, steady s → ∀ i k, log[i]? = some k → ∃ s', steady s' ∧
    w.answer (.fetchKeys token groupId k.cursor) s =
      (some (.ok (upTo limit (log.drop (i + 1)))), s')

/-- Whether a number of keys makes up so many full batches and a rest that is less than one. Without
a limit no batch is full. -/
def Batched (limit : Option Nat) (keys full rest : Nat) : Prop :=
  match limit with
  | none => full = 0 ∧ rest = keys
  | some size => keys = full * size + rest ∧ rest < size

/-- The requests that bring a number of full batches and a rest: after a rest that is not short there
is one more, which brings nothing. -/
def requestsFor (threshold full rest : Nat) : Nat :=
  full + 1 + if threshold < rest then 1 else 0

section Batches

variable {limit : Option Nat} {threshold full rest : Nat} {keys : List Key}

theorem upTo_eq_self (hlimit : ∀ size ∈ limit, threshold < size)
    (hshort : (upTo limit keys).length ≤ threshold) : upTo limit keys = keys := by
  cases limit with
  | none => rfl
  | some size =>
      have hsize := hlimit size rfl
      simp only [upTo, List.length_take] at hshort ⊢
      exact List.take_of_length_le (by omega)

theorem upTo_prefix (limit : Option Nat) (keys : List Key) : upTo limit keys <+: keys := by
  cases limit with
  | none => exact List.prefix_rfl
  | some size => exact List.take_prefix size keys

theorem requestsFor_of_short (hlimit : ∀ size ∈ limit, threshold < size)
    (hbatched : Batched limit keys.length full rest)
    (hshort : (upTo limit keys).length ≤ threshold) : requestsFor threshold full rest = 1 := by
  rw [upTo_eq_self hlimit hshort] at hshort
  cases limit with
  | none =>
      obtain ⟨rfl, rfl⟩ := hbatched
      rw [requestsFor, if_neg (Nat.not_lt.mpr hshort)]
  | some size =>
      obtain ⟨hkeys, hrest⟩ := hbatched
      have hsize := hlimit size rfl
      have hfull : full = 0 := by
        rcases Nat.eq_zero_or_pos full with h | h
        · exact h
        · have := Nat.le_mul_of_pos_left size h
          omega
      subst hfull
      rw [requestsFor, if_neg (by omega)]

theorem requestsFor_of_more {later : List Key} (hbatched : Batched limit keys.length full rest)
    (hlater : upTo limit keys ++ later = keys) (hmore : threshold < (upTo limit keys).length) :
    ∃ full' rest', Batched limit later.length full' rest' ∧
      requestsFor threshold full rest = requestsFor threshold full' rest' + 1 := by
  have hlength : (upTo limit keys).length + later.length = keys.length := by
    rw [← List.length_append, hlater]
  have hempty : full = 0 → threshold < rest →
      requestsFor threshold full rest = requestsFor threshold 0 0 + 1 := by
    intro hfull hrest
    rw [requestsFor, requestsFor, hfull, if_pos hrest, if_neg (Nat.not_lt_zero threshold)]
  cases limit with
  | none =>
      obtain ⟨rfl, rfl⟩ := hbatched
      simp only [upTo] at hlength hmore
      exact ⟨0, 0, ⟨rfl, by omega⟩, hempty rfl hmore⟩
  | some size =>
      obtain ⟨hkeys, hrest⟩ := hbatched
      simp only [upTo, List.length_take] at hlength hmore
      cases full with
      | zero => exact ⟨0, 0, ⟨by omega, by omega⟩, hempty rfl (by omega)⟩
      | succ full =>
          rw [Nat.succ_mul] at hkeys
          refine ⟨full, rest, ⟨by omega, hrest⟩, ?_⟩
          simp only [requestsFor]
          omega

end Batches

variable {S : Type} {w : World S} {token groupId : String} {log : List Key} {limit : Option Nat}
  {steady : S → Prop} {threshold full rest : Nat}

theorem Serves.answer_last (h : Serves w token groupId log limit steady) {held later : List Key}
    (hlog : held ++ later = log) {last : Key} (hlast : held.getLast? = some last) {s : S}
    (hs : steady s) : ∃ s', steady s' ∧
      w.answer (.fetchKeys token groupId last.cursor) s =
        (some (.ok (upTo limit later)), s') := by
  obtain ⟨front, rfl⟩ := List.getLast?_eq_some_iff.mp hlast
  obtain ⟨s', hs', hanswer⟩ := h s hs front.length last (by simp [← hlog])
  have hlater : log.drop (front.length + 1) = later := by
    simp [← hlog]
  rw [hlater] at hanswer
  exact ⟨s', hs', hanswer⟩

theorem Serves.swept (h : Serves w token groupId log limit steady)
    (hlimit : ∀ size ∈ limit, threshold < size) {held later : List Key} (hlog : held ++ later = log)
    {last : Key} (hlast : held.getLast? = some last) {s : S} (hs : steady s)
    (hbatched : Batched limit later.length full rest) :
    ∃ calls s', Swept w token groupId threshold last.cursor s s' calls ∧
      (∀ c ∈ calls, ∃ batch, c.reply = some (.ok batch)) ∧
      calls.flatMap FetchCall.keys = later ∧ calls.length = requestsFor threshold full rest := by
  -- The keys behind the batch are fewer, as a batch that is followed by a request is not empty.
  induction hn : later.length using Nat.strong_induction_on generalizing held later last s full rest
  rename_i n ih
  obtain ⟨s₁, hs₁, hanswer⟩ := h.answer_last hlog hlast hs
  obtain ⟨beyond, hbeyond⟩ := upTo_prefix limit later
  by_cases hshort : (upTo limit later).length ≤ threshold
  · have hall := upTo_eq_self hlimit hshort
    refine ⟨[⟨last.cursor, some (.ok (upTo limit later))⟩], s₁, ?_, by simp, ?_, ?_⟩
    · exact Swept.cons_iff.mpr ⟨rfl, s₁, hanswer, .inl ⟨rfl, rfl, .inr ⟨_, rfl, .inr hshort⟩⟩⟩
    · simpa [FetchCall.keys] using hall
    · exact (requestsFor_of_short hlimit hbatched hshort).symm
  · have hmore := Nat.not_le.mp hshort
    obtain ⟨full', rest', hbatched', hrequests⟩ := requestsFor_of_more hbatched hbeyond hmore
    have hne : upTo limit later ≠ [] := List.ne_nil_of_length_pos (by omega)
    have hlast' := List.getLast?_eq_some_getLast hne
    have hfewer : beyond.length < n := by
      rw [← hn, ← hbeyond, List.length_append]
      omega
    have hheld : (held ++ upTo limit later) ++ beyond = log := by
      rw [List.append_assoc, hbeyond, hlog]
    obtain ⟨calls, s', hswept, hbrought, hkeys, hcount⟩ :=
      ih beyond.length hfewer hheld (by rw [List.getLast?_append, hlast']; rfl) hs₁ hbatched' rfl
    refine ⟨⟨last.cursor, some (.ok (upTo limit later))⟩ :: calls, s', ?_, ?_, ?_, ?_⟩
    · exact Swept.cons_iff.mpr ⟨rfl, s₁, hanswer, .inr ⟨_, _, rfl, hmore, hlast', hswept⟩⟩
    · exact List.forall_mem_cons.mpr ⟨⟨_, rfl⟩, hbrought⟩
    · rw [List.flatMap_cons, hkeys]
      exact hbeyond
    · rw [List.length_cons, hcount, hrequests]

namespace Memory

/-- A simulated server in which nothing fails, and which holds back or makes up no keys, serves its
log without a limit. -/
theorem serves_world (token groupId : String) {log : List Key} (hc : Chronicle log) :
    Serves world token groupId log none fun s => s.Calm ∧ Follows.Plain s ∧ s.server.log = log := by
  rintro s ⟨hcalm, ⟨hdelayed, hscripted⟩, rfl⟩ i k hk
  obtain ⟨hpassed, huntimed⟩ := s.passes_fetchStop s.clock hcalm.untimed
  rcases hstop : s.fetchStop s.clock with ⟨passed, clock⟩
  rw [hstop] at hpassed huntimed
  obtain rfl : passed = true := hpassed
  have hfetch := Server.fetch_eq hcalm.fetches hdelayed k.cursor
  rw [hscripted, List.headD_nil, Server.keysAfter_get? hc hk] at hfetch
  refine ⟨{ s with clock, server := { s.server with cursors := k.cursor :: s.server.cursors } },
    ⟨⟨hcalm.fetches, hcalm.derives, huntimed⟩, ⟨hdelayed, hscripted⟩, rfl⟩, ?_⟩
  simp only [world, State.answer, State.behind, hstop, hfetch, upTo, hscripted, List.tail_nil]

/-- A server that hands out a log in batches of limited size, and does nothing else. -/
def pagedWorld (log : List Key) (limit : Option Nat) : World Unit where
  answer
    | .fetchKeys _ _ cursor, s => (some (.ok (upTo limit (Server.keysAfter log cursor))), s)
    | _, s => (none, s)

theorem serves_paged (token groupId : String) {log : List Key} (hc : Chronicle log)
    (limit : Option Nat) : Serves (pagedWorld log limit) token groupId log limit fun _ => True := by
  intro s _ i k hk
  exact ⟨s, trivial, by simp only [pagedWorld, Server.keysAfter_get? hc hk]⟩

end Memory

namespace Group

/-- Fetching new keys brings the whole log, whatever part of it the member has. If the limit divides
the number of new keys, the last request brings none. -/
theorem fetchNew_complete {g : Group} {s : S} {fuel : Nat} {threshold : UInt64}
    (hserves : Serves w token g.record.groupId log limit steady) (hs : steady s)
    (hc : Chronicle log) (hsound : g.record.history.Sound) (hne : g.record.history.keys ≠ [])
    (hheld : g.record.history.keys <+: log)
    (hlimit : ∀ size ∈ limit, threshold.toNat < size)
    (hbatched : Batched limit (log.length - g.record.history.keys.length) full rest)
    (hfuel : requestsFor threshold.toNat full rest ≤ fuel) :
    let r := (fetchNew token threshold).run.run w fuel g s
    r.ending = .finished (.ok (log.length - g.record.history.keys.length)) ∧
      (∃ h : History, r.state = g.withHistory h ∧ h.Sound ∧ h.keys = log) ∧
      r.calls.length = requestsFor threshold.toNat full rest ∧
      ∀ e ∈ r.calls, ∃ cursor batch,
        e = .called (.fetchKeys token g.record.groupId cursor) (.ok batch) := by
  obtain ⟨later, hlog⟩ := hheld
  have hlength : log.length - g.record.history.keys.length = later.length := by
    rw [← hlog, List.length_append, Nat.add_sub_cancel_left]
  rw [hlength] at hbatched ⊢
  have hlast := List.getLast?_eq_some_getLast hne
  obtain ⟨calls, s', hswept, hbrought, hkeys, hcount⟩ :=
    hserves.swept hlimit hlog hlast hs hbatched
  have hnew : g.unheld calls = later := by
    rw [unheld, hkeys, List.filter_eq_self]
    exact fun k hk => decide_eq_true ((hlog ▸ hc).not_mem_ids hk)
  refine Attempt.Ensures.run_of_recorded (R := fun ending calls' g' _ =>
    ending = .finished (.ok later.length) ∧
      (∃ h : History, g' = g.withHistory h ∧ h.Sound ∧ h.keys = log) ∧
      calls'.length = requestsFor threshold.toNat full rest ∧
      ∀ e ∈ calls', ∃ cursor batch,
        e = .called (.fetchKeys token g.record.groupId cursor) (.ok batch))
    (fetchNew_of_swept hsound hlast hswept (hcount ▸ hfuel) (fun _ => ?_) ?_)
  · rw [hnew]
    refine append_ensures hsound (hlog ▸ hc) fun h hsound' hkeys' => ?_
    refine ⟨rfl, ⟨h, rfl, hsound', hkeys'.trans hlog⟩, by simpa using hcount, ?_⟩
    intro e he
    obtain ⟨c, hmem, rfl⟩ := List.mem_map.mp he
    obtain ⟨batch, hreply⟩ := hbrought c hmem
    exact ⟨c.cursor, batch, by rw [FetchCall.event, hreply]; rfl⟩
  · intro c hmem e hreply
    obtain ⟨batch, hbatch⟩ := hbrought c hmem
    rw [hreply] at hbatch
    cases hbatch

open Memory in
theorem fetchNew_complete_samples :
    Chronicle (Key.samples 7) ∧ Key.samples 2 <+: Key.samples 7 ∧
      Batched (some 2) 5 2 1 ∧ Batched none 5 0 5 ∧
      (let r := (fetchNew "token" 1).run.run (pagedWorld (Key.samples 7) (some 2)) 3
        (holder (Key.samples 2)) ()
      r.ending = .finished (.ok 5) ∧ r.state.record.history.keys = Key.samples 7 ∧
        r.calls.length = 3) ∧
      let r := (fetchNew "token" 1).run.run world 2 (holder (Key.samples 2))
        { server := { log := Key.samples 7 } }
      r.ending = .finished (.ok 5) ∧ r.state.record.history.keys = Key.samples 7 ∧
        r.calls.length = 2 := by
  have hc : Chronicle (Key.samples 7) := Key.chronicle_samples (by decide)
  have hheld : Key.samples 2 <+: Key.samples 7 := Key.samples_prefix 2 5
  have hsound := sound_holder (hc.of_isPrefix hheld)
  have hpaged : Batched (some 2) 5 2 1 := ⟨rfl, by decide⟩
  have hwhole : Batched none 5 0 5 := ⟨rfl, rfl⟩
  refine ⟨hc, hheld, hpaged, hwhole, ?_, ?_⟩
  · have hlimit : ∀ size ∈ some 2, (1 : UInt64).toNat < size := by decide
    have hfuel : requestsFor (1 : UInt64).toNat 2 1 ≤ 3 := by decide
    obtain ⟨hending, ⟨h, hstate, -, hkeys⟩, hcount, -⟩ :=
      fetchNew_complete (serves_paged "token" "team" hc (some 2)) trivial hc hsound
        (List.cons_ne_nil _ _) hheld hlimit hpaged hfuel
    exact ⟨hending, hstate ▸ hkeys, hcount⟩
  · have hlimit : ∀ size ∈ (none : Option Nat), (1 : UInt64).toNat < size := nofun
    have hfuel : requestsFor (1 : UInt64).toNat 0 5 ≤ 2 := by decide
    obtain ⟨hending, ⟨h, hstate, -, hkeys⟩, hcount, -⟩ :=
      fetchNew_complete (s := { server := { log := Key.samples 7 } })
        (serves_world "token" "team" hc) ⟨⟨rfl, rfl, rfl⟩, ⟨rfl, rfl⟩, rfl⟩ hc hsound
        (List.cons_ne_nil _ _) hheld hlimit hwhole hfuel
    exact ⟨hending, hstate ▸ hkeys, hcount⟩

end Group

end Keyring
