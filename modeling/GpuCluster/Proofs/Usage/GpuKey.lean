import Std.Data.String.ToInt
import GpuCluster.Proofs.Text.Decimal
import GpuCluster.Proofs.Text.Pieces
import GpuCluster.Usage.Snapshot

/-!
# Keys of GPUs

* `colon_not_mem_toString` : a printed number has no colon, so it ends where the next field begins;
* `gpuKey_inj_of_pod` : the keys of one pod tell its GPUs apart;
* `gpuKey_inj` : so do those of any pods, as long as a slash ends each namespace and a colon each
  name.
-/

namespace GpuCluster.Usage

variable {i j : Int} {x y : Int32} {u v podNamespace podNamespace' podName podName' : String}

theorem colon_not_mem_toString (i : Int) : ':' ∉ (toString i).toList := by
  have hdigits (n : Nat) : ':' ∉ n.repr.toList := Decimal.not_mem_toString (by decide) n
  rw [Int.toString_eq_repr, Int.repr_eq_if]
  split
  next => exact hdigits _
  next =>
    rw [String.toList_append]
    exact List.not_mem_append (by decide) (hdigits _)

/-- The fields of a key and its marks, from left to right. -/
theorem toList_gpuKey (podNamespace podName : String) (x : Int32) (u : String) :
    (gpuKey podNamespace podName x u).toList = podNamespace.toList ++ '/' ::
      (podName.toList ++ ':' :: ((toString x.toInt).toList ++ ':' :: u.toList)) := by
  have hslash : "/".toList = ['/'] := rfl
  have hcolon : ":".toList = [':'] := rfl
  simp only [gpuKey, String.toList_append, hslash, hcolon, List.append_assoc, List.cons_append,
    List.nil_append]

/-- A printed number and what follows its colon can be read back. -/
theorem toString_colon_inj :
    (toString i).toList ++ ':' :: u.toList = (toString j).toList ++ ':' :: v.toList ↔
      i = j ∧ u = v := by
  rw [Text.append_mark_inj (colon_not_mem_toString i) (colon_not_mem_toString j),
    String.toList_inj, String.toList_inj, Int.toString_eq_repr, Int.toString_eq_repr, Int.repr_inj]

/-- The keys of one pod tell its GPUs apart, whatever it is called. -/
theorem gpuKey_inj_of_pod :
    gpuKey podNamespace podName x u = gpuKey podNamespace podName y v ↔ x = y ∧ u = v := by
  rw [← String.toList_inj, toList_gpuKey, toList_gpuKey, List.append_cancel_left_eq,
    List.cons_inj_right, List.append_cancel_left_eq, List.cons_inj_right, toString_colon_inj,
    Int32.toInt_inj]

/-- The keys of any pods tell their GPUs apart if no namespace has a slash and no name a colon. -/
theorem gpuKey_inj (hnamespace : '/' ∉ podNamespace.toList)
    (hnamespace' : '/' ∉ podNamespace'.toList)
    (hname : ':' ∉ podName.toList) (hname' : ':' ∉ podName'.toList) :
    gpuKey podNamespace podName x u = gpuKey podNamespace' podName' y v ↔
      podNamespace = podNamespace' ∧ podName = podName' ∧ x = y ∧ u = v := by
  rw [← String.toList_inj, toList_gpuKey, toList_gpuKey,
    Text.append_mark_inj hnamespace hnamespace', Text.append_mark_inj hname hname',
    toString_colon_inj, String.toList_inj, String.toList_inj, Int32.toInt_inj]

/-- A slash or a colon in a name may be taken for the end of a field. -/
example : gpuKey "a" "b/c" 0 "" = gpuKey "a/b" "c" 0 "" ∧
    gpuKey "a" "b:0" 1 "u" = gpuKey "a" "b" 0 "1:u" := by
  decide

end GpuCluster.Usage
