import Keyring.Group.Basic
import Keyring.Program.Run
import Keyring.Proofs.Metric.Totals

/-!
Tallies of a trace: the measurements in it next to the calls in it and to the group that it
leaves. A measurement that is owed for the answer to a call is made up for later.
-/

namespace Keyring

namespace Metric

/-- Whether a measurement is one of the answer to a call. -/
def isOfCall : Metric → Bool
  | batchFetched _ | pageUploaded _ | outputHandled .resolved | outputHandled .failed => true
  | _ => false

end Metric

namespace Event

def metric? (e : Event) : Option Metric :=
  e.signal?.bind Signal.metric?

/-- The measurement that the answer to a call calls for. -/
def due? : Event → Option Metric
  | called (.fetchKeys ..) (.ok batch) => some (.batchFetched batch.length)
  | called (.uploadPage ..) (.ok ()) => some (.pageUploaded true)
  | called (.uploadPage ..) (.error _) => some (.pageUploaded false)
  | called (.commitKey ..) (.ok ()) => some (.outputHandled .resolved)
  | called (.deriveKey ..) (.error _) => some (.outputHandled .failed)
  | _ => none

/-- The measurement of the answer to a call that was made. -/
def measured? (e : Event) : Option Metric :=
  e.metric?.filter Metric.isOfCall

def appendedCount (e : Event) : Nat :=
  (e.metric?.map Metric.appendedCount).getD 0

def finish? (e : Event) : Option FinishLabel :=
  e.metric?.bind Metric.finish?

/-- Whether a server answered that no output is pending. -/
def foundNothing : Event → Bool
  | called (.pendingOutputs ..) (.ok []) => true
  | _ => false

end Event

namespace Group

/-- Where a trace stands that began when the history had a size. All that calls call for was
measured but for what is still owed; what was measured of the history agrees with it; finish runs
ended with these labels; and the server may have answered that nothing is pending. -/
structure Tally (owed : List Metric) (size : Nat) (labels : List FinishLabel) (nothing : Bool)
    (g : Group) (t : List Event) : Prop where
  balanced : t.filterMap Event.due? = t.filterMap Event.measured? ++ owed
  grown : g.record.history.size = size + (t.map Event.appendedCount).sum
  labels_eq : t.filterMap Event.finish? = labels
  nothing_eq : t.any Event.foundNothing = nothing

namespace Tally

variable {owed owed' : List Metric} {size : Nat} {labels : List FinishLabel} {nothing : Bool}
  {g g' : Group} {t u : List Event}

theorem start (g : Group) : Tally [] g.record.history.size [] false g [] :=
  ⟨rfl, rfl, rfl, rfl⟩

theorem of_size_eq (h : Tally owed size labels nothing g t)
    (hsize : g'.record.history.size = g.record.history.size) :
    Tally owed size labels nothing g' t :=
  ⟨h.balanced, hsize.trans h.grown, h.labels_eq, h.nothing_eq⟩

/-- What is owed after more events: what they call for, less what they measure. -/
theorem append (h : Tally owed size labels nothing g t)
    (hbalanced : owed ++ u.filterMap Event.due? = u.filterMap Event.measured? ++ owed')
    (hgrown : g'.record.history.size =
      g.record.history.size + (u.map Event.appendedCount).sum) :
    Tally owed' size (labels ++ u.filterMap Event.finish?) (nothing || u.any Event.foundNothing)
      g' (t ++ u) where
  balanced := by
    rw [List.filterMap_append, List.filterMap_append, h.balanced, List.append_assoc, hbalanced,
      List.append_assoc]
  grown := by rw [hgrown, h.grown, List.map_append, List.sum_append, Nat.add_assoc]
  labels_eq := by rw [List.filterMap_append, h.labels_eq]
  nothing_eq := by rw [List.any_append, h.nothing_eq]

theorem extend {labels' : List FinishLabel} {nothing' : Bool} (h : Tally [] size labels nothing g t)
    (hu : Tally owed g.record.history.size labels' nothing' g' u) :
    Tally owed size (labels ++ labels') (nothing || nothing') g' (t ++ u) := by
  rw [← hu.labels_eq, ← hu.nothing_eq]
  exact h.append hu.balanced hu.grown

theorem quiet (h : Tally [] size labels nothing g t)
    (hu : Tally [] g.record.history.size [] false g u) :
    Tally [] size labels nothing g (t ++ u) := by
  simpa using h.extend hu

theorem owe (h : Tally owed size labels nothing g t) {q : Request} {r : q.Reply} {m : Metric}
    (hcall : Tally [m] g.record.history.size [] false g [.called q r]) :
    Tally (owed ++ [m]) size labels nothing g (t ++ [.called q r]) := by
  have hnext := h.append (congrArg (owed ++ ·) hcall.balanced) hcall.grown
  rwa [hcall.labels_eq, hcall.nothing_eq, List.append_nil, Bool.or_false] at hnext

theorem tell {signal : Signal} (h : Tally owed size labels nothing g t)
    (hmeasured : owed = [Event.told signal].filterMap Event.measured? ++ owed')
    (happended : (Event.told signal).appendedCount = 0)
    (hfinish : (Event.told signal).finish? = none) :
    Tally owed' size labels nothing g (t ++ [.told signal]) := by
  have hnext := h.append (u := [.told signal]) ((List.append_nil owed).trans hmeasured)
    (congrArg (g.record.history.size + ·) happended.symm)
  have hfound : [Event.told signal].any Event.foundNothing = false := rfl
  rwa [List.filterMap_cons_none hfinish, List.filterMap_nil, List.append_nil, hfound,
    Bool.or_false] at hnext

theorem pay {success : Bool} (h : Tally (.pageUploaded success :: owed) size labels nothing g t) :
    Tally owed size labels nothing g (t ++ [.told (.metric (.pageUploaded success))]) :=
  h.tell rfl rfl rfl

theorem notice (h : Tally owed size labels nothing g t) (n : Log.Notice) :
    Tally owed size labels nothing g (t ++ [.told (.notice n)]) :=
  h.tell rfl rfl rfl

end Tally

end Group

end Keyring
