import Mathlib.Data.List.Range
import Keyring.Key.Sample
import Keyring.Proofs.History.Chronicle
import Keyring.Proofs.Text.Decimal

namespace Keyring.Key

def sampleId (i : Nat) : String :=
  "key-" ++ Decimal.render i

theorem sampleId_injective : Function.Injective sampleId := by
  intro i j h
  have htext : ("key-" ++ Decimal.render i).toList = ("key-" ++ Decimal.render j).toList :=
    congrArg String.toList h
  rw [String.toList_append, String.toList_append, List.append_cancel_left_eq] at htext
  exact Decimal.render_injective (String.toList_inj.mp htext)

theorem length_sampleId_le {i j : Nat} (h : i ≤ j) : (sampleId i).length ≤ (sampleId j).length := by
  simpa [sampleId] using Decimal.length_render_le h

theorem samplesFrom_eq_map (start n : Nat) : samplesFrom start n =
    (List.range' start n).map fun i => sample (sampleId i) i.toUInt64 := by
  induction n generalizing start with
  | zero => rfl
  | succ n ih =>
      rw [samplesFrom, ih, List.range'_succ]
      rfl

theorem samples_eq_map (n : Nat) :
    samples n = (List.range n).map fun i => sample (sampleId i) i.toUInt64 := by
  rw [samples, samplesFrom_eq_map, List.range_eq_range']

theorem ids_samples (n : Nat) : ids (samples n) = (List.range n).map sampleId := by
  rw [samples_eq_map, ids, List.map_map]
  rfl

theorem mem_ids_samples {n : Nat} {id : String} :
    id ∈ ids (samples n) ↔ ∃ i, i < n ∧ sampleId i = id := by
  simp [ids_samples]

@[simp] theorem length_samples (n : Nat) : (samples n).length = n := by
  simp [samples_eq_map]

theorem samples_prefix (m n : Nat) : samples m <+: samples (m + n) := by
  rw [samples_eq_map, samples_eq_map, List.range_add, List.map_append]
  exact List.prefix_append _ _

theorem chronicle_samples {n : Nat} (h : n ≤ UInt64.size) : Chronicle (samples n) where
  distinct := by
    rw [ids_samples]
    exact List.nodup_range.map sampleId_injective
  ordered := by
    rw [samples_eq_map, List.pairwise_map]
    refine List.pairwise_lt_range.imp_of_mem fun {i j} hi hj hij => ?_
    have hlt : j < n := List.mem_range.mp hj
    have htime : ∀ k, k < n → k.toUInt64.toNat = k := fun k hk =>
      UInt64.toNat_ofNat_of_lt (by omega)
    show i.toUInt64 ≤ j.toUInt64
    rw [UInt64.le_iff_toNat_le, htime i (by omega), htime j hlt]
    exact hij.le

end Keyring.Key
