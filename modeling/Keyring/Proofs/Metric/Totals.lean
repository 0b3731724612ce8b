import Mathlib.Algebra.BigOperators.Group.List.Basic
import Mathlib.Algebra.GroupWithZero.Nat
import Mathlib.Data.List.Nodup
import Keyring.Metric

namespace Keyring.Metric

/-- What the counter of a name shows. -/
def counted (name : String) (ms : List Metric) : Nat :=
  ((totals ms).lookup name).getD 0

/-- The values in the histogram of a name. -/
def recorded (name : String) (ms : List Metric) : List Nat :=
  ((samples ms).lookup name).getD []

section Update

variable {α β : Type} {name : String}

theorem lookup_update_self (start : α) (change : α → α) (es : List (String × α)) :
    (update name start change es).lookup name = some (change ((es.lookup name).getD start)) := by
  induction es with
  | nil => simp [update]
  | cons e rest ih =>
      obtain ⟨n, a⟩ := e
      by_cases h : n = name
      · simp [update, h]
      · have h' : (name == n) = false := by simp [Ne.symm h]
        simp [update, h, List.lookup_cons, h', ih]

theorem lookup_update_of_ne {n : String} (hn : name ≠ n) (start : α) (change : α → α)
    (es : List (String × α)) : (update n start change es).lookup name = es.lookup name := by
  have hn' : (name == n) = false := by simp [hn]
  induction es with
  | nil => simp [update, List.lookup_cons, hn']
  | cons e rest ih =>
      obtain ⟨m, a⟩ := e
      by_cases h : m = n
      · simp [update, h, List.lookup_cons, hn']
      · simp [update, h, List.lookup_cons, ih]

theorem lookup_foldl_update (start : α) (gather : α → β → α) (cs : List (String × β))
    (es : List (String × α)) :
    ((cs.foldl (fun es c => update c.1 start (gather · c.2) es) es).lookup name).getD start =
      ((cs.filter (·.1 = name)).map Prod.snd).foldl gather ((es.lookup name).getD start) := by
  induction cs generalizing es with
  | nil => rfl
  | cons c rest ih =>
      rw [List.foldl_cons, ih]
      by_cases h : c.1 = name
      · rw [h, lookup_update_self, List.filter_cons_of_pos (by simpa using h)]
        rfl
      · rw [lookup_update_of_ne (Ne.symm h), List.filter_cons_of_neg (by simpa using h)]

end Update

/-- A counter. -/
inductive Counter where
  | keysAppended
  | fetchCalls
  | pageUploads (success : Bool)
  | outputs (fate : OutputFate)
  | finishes (label : FinishLabel)
  deriving DecidableEq

namespace Counter

def name : Counter → String
  | keysAppended => "groupkey_keys_appended_total"
  | fetchCalls => "groupkey_key_fetch_calls_total"
  | pageUploads success =>
    labelled "groupkey_page_uploads_total" "result" (if success then "success" else "failed")
  | outputs fate => labelled "groupkey_rotation_outputs_total" "result" fate.name
  | finishes label => labelled "groupkey_rotation_finish_total" "outcome" label.name

def all : List Counter := [
  keysAppended, fetchCalls, pageUploads true, pageUploads false, outputs .resolved,
  outputs .deferred, outputs .failed, finishes .noop, finishes .completed, finishes .incomplete]

theorem mem_all (c : Counter) : c ∈ all := by
  cases c with
  | keysAppended => decide
  | fetchCalls => decide
  | pageUploads success => cases success <;> decide
  | outputs fate => cases fate <;> decide
  | finishes label => cases label <;> decide

theorem name_injective : Function.Injective name := by
  have hnames : (all.map name).Nodup := by decide
  exact fun c c' h => List.inj_on_of_nodup_map hnames (mem_all c) (mem_all c') h

end Counter

/-- The counter that a measurement adds to, and how much. -/
def entry? : Metric → Option (Counter × Nat)
  | keysAppended n => some (.keysAppended, n)
  | batchFetched _ => some (.fetchCalls, 1)
  | pageUploaded success => some (.pageUploads success, 1)
  | outputHandled fate => some (.outputs fate, 1)
  | roundsUsed _ => none
  | finishEnded label => some (.finishes label, 1)

theorem counter?_eq (m : Metric) : m.counter? = m.entry?.map fun e => (e.1.name, e.2) := by
  cases m <;> rfl

/-- What a measurement adds to a counter. -/
def share (c : Counter) (m : Metric) : Nat :=
  match m.entry? with
  | some (c', k) => if c' = c then k else 0
  | none => 0

theorem counted_eq (c : Counter) (ms : List Metric) :
    counted c.name ms = (ms.map (share c)).sum := by
  rw [counted, totals, lookup_foldl_update 0 (· + ·), List.lookup_nil, Option.getD_none,
    ← List.sum_eq_foldl]
  induction ms with
  | nil => rfl
  | cons m rest ih =>
      have hcounter := m.counter?_eq
      rw [List.map_cons, List.sum_cons, ← ih, share]
      cases hentry : m.entry? with
      | none =>
          rw [hentry] at hcounter
          rw [List.filterMap_cons_none hcounter, Nat.zero_add]
      | some e =>
          obtain ⟨c', k⟩ := e
          rw [hentry] at hcounter
          rw [List.filterMap_cons_some hcounter]
          by_cases h : c' = c
          · simp [h]
          · simp [h, Counter.name_injective.ne h]

theorem recorded_eq (name : String) (ms : List Metric) :
    recorded name ms =
      ((ms.filterMap sample?).filter (·.1 = name)).map Prod.snd := by
  have hgather : ∀ values start : List Nat,
      values.foldl (fun acc value => acc ++ [value]) start = start ++ values := by
    intro values
    induction values with
    | nil => simp
    | cons value rest ih => simp [ih]
  rw [recorded, samples, lookup_foldl_update [] (fun acc value => acc ++ [value]),
    List.lookup_nil, Option.getD_none, hgather, List.nil_append]

theorem counted_eq_countP {c : Counter} {p : Metric → Bool}
    (hshare : ∀ m, share c m = if p m then 1 else 0) (ms : List Metric) :
    counted c.name ms = ms.countP p := by
  rw [counted_eq]
  induction ms with
  | nil => rfl
  | cons m rest ih => rw [List.map_cons, List.sum_cons, ih, hshare, List.countP_cons, Nat.add_comm]

def appendedCount : Metric → Nat
  | keysAppended n => n
  | _ => 0

def batchSize? : Metric → Option Nat
  | batchFetched n => some n
  | _ => none

def finish? : Metric → Option FinishLabel
  | finishEnded label => some label
  | _ => none

variable (ms : List Metric)

theorem counted_outputs (fate : OutputFate) :
    counted (labelled "groupkey_rotation_outputs_total" "result" fate.name) ms =
      ms.count (.outputHandled fate) :=
  counted_eq_countP (c := .outputs fate) (fun m => by cases m <;> simp [share, entry?]) ms

theorem counted_uploads (success : Bool) :
    counted (labelled "groupkey_page_uploads_total" "result"
      (if success then "success" else "failed")) ms = ms.count (.pageUploaded success) :=
  counted_eq_countP (c := .pageUploads success) (fun m => by cases m <;> simp [share, entry?]) ms

theorem counted_finishes (label : FinishLabel) :
    counted (labelled "groupkey_rotation_finish_total" "outcome" label.name) ms =
      (ms.filterMap finish?).count label := by
  rw [List.count_filterMap]
  exact counted_eq_countP (c := .finishes label)
    (fun m => by cases m <;> simp [share, entry?, finish?]) ms

theorem counted_fetches :
    counted "groupkey_key_fetch_calls_total" ms = (ms.filterMap batchSize?).length := by
  rw [List.length_filterMap_eq_countP]
  exact counted_eq_countP (c := .fetchCalls)
    (fun m => by cases m <;> simp [share, entry?, batchSize?]) ms

theorem counted_appended :
    counted "groupkey_keys_appended_total" ms = (ms.map appendedCount).sum := by
  have hshare : share .keysAppended = appendedCount := by
    funext m
    cases m <;> rfl
  exact hshare ▸ counted_eq .keysAppended ms

theorem recorded_batches :
    recorded "groupkey_key_fetch_batch_size" ms = ms.filterMap batchSize? := by
  rw [recorded_eq]
  induction ms with
  | nil => rfl
  | cons m rest ih =>
      cases m with
      | batchFetched n => simp [sample?, batchSize?, ih]
      | _ => simp [List.filterMap_cons, sample?, batchSize?, ih]

end Keyring.Metric
