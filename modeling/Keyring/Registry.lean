import Keyring.Assoc

namespace Keyring

/-- The handles of open groups, by group id. -/
structure Registry (η : Type) where
  handles : List (String × η) := []

namespace Registry

variable {η : Type}

def get? (r : Registry η) (groupId : String) : Option η :=
  r.handles.lookup groupId

def insert (r : Registry η) (groupId : String) (handle : η) : Registry η :=
  ⟨Assoc.put groupId handle r.handles⟩

/-- Enters a handle unless the group has one; gives the handle that the group has then. -/
def insertIfAbsent (r : Registry η) (groupId : String) (handle : η) : Registry η × η :=
  match r.get? groupId with
  | some kept => (r, kept)
  | none => (r.insert groupId handle, handle)

def remove (r : Registry η) (groupId : String) : Registry η :=
  ⟨r.handles.filter (·.1 ≠ groupId)⟩

theorem get?_insert_self (r : Registry η) (groupId : String) (handle : η) :
    (r.insert groupId handle).get? groupId = some handle :=
  Assoc.lookup_put_self groupId handle r.handles

theorem get?_insert_of_ne (r : Registry η) {groupId other : String} (h : other ≠ groupId)
    (handle : η) : (r.insert groupId handle).get? other = r.get? other :=
  Assoc.lookup_put_of_ne h handle r.handles

theorem get?_remove_of_ne (r : Registry η) {groupId other : String} (h : other ≠ groupId) :
    (r.remove groupId).get? other = r.get? other :=
  Assoc.lookup_erase_of_ne h r.handles

theorem get?_insertIfAbsent_self (r : Registry η) (groupId : String) (handle : η) :
    (r.insertIfAbsent groupId handle).1.get? groupId =
      some (r.insertIfAbsent groupId handle).2 := by
  unfold insertIfAbsent
  split
  · assumption
  · exact r.get?_insert_self groupId handle

theorem get?_insertIfAbsent_of_ne (r : Registry η) {groupId other : String}
    (h : other ≠ groupId) (handle : η) :
    (r.insertIfAbsent groupId handle).1.get? other = r.get? other := by
  unfold insertIfAbsent
  split
  · rfl
  · exact r.get?_insert_of_ne h handle

theorem insertIfAbsent_of_get? {r : Registry η} {groupId : String} {kept : η}
    (h : r.get? groupId = some kept) (handle : η) :
    r.insertIfAbsent groupId handle = (r, kept) := by
  simp [insertIfAbsent, h]

def size (r : Registry η) : Nat :=
  r.handles.length

def isEmpty (r : Registry η) : Bool :=
  r.handles.isEmpty

end Registry

end Keyring
