import Keyring.Text.Decimal

namespace Keyring.Text.Position

def lineMark : List Char := " at line ".toList

def columnMark : List Char := " column ".toList

/-- What stands before and after the last place of a mark. -/
def splitLast? (mark : List Char) : List Char → Option (List Char × List Char)
  | [] => none
  | c :: rest =>
    match splitLast? mark rest with
    | some (before, after) => some (c :: before, after)
    | none => if mark.isPrefixOf (c :: rest) then some ([], (c :: rest).drop mark.length) else none

theorem eq_append_of_splitLast? {mark cs before after : List Char}
    (h : splitLast? mark cs = some (before, after)) : cs = before ++ mark ++ after := by
  induction cs generalizing before with
  | nil => simp [splitLast?] at h
  | cons c rest ih =>
    unfold splitLast? at h
    split at h
    · rename_i b a found
      simp only [Option.some.injEq, Prod.mk.injEq] at h
      obtain ⟨rfl, rfl⟩ := h
      simp [ih found]
    · split at h
      · rename_i starts
        obtain ⟨tail, joined⟩ := List.isPrefixOf_iff_prefix.1 starts
        simp only [Option.some.injEq, Prod.mk.injEq] at h
        obtain ⟨rfl, rfl⟩ := h
        simp [← joined]
      · simp at h

def number? (cs : List Char) : Option Nat :=
  if cs.isEmpty then none else (Decimal.extend Decimal.max64 0 cs).toOption

/-- The text before a position at the end of a text, and the line of the position. -/
def split? (text : String) : Option (String × Nat) := do
  let (before, after) ← splitLast? lineMark text.toList
  let column := after.dropWhile Decimal.isDigit
  if columnMark.isPrefixOf column then
    let line ← number? (after.takeWhile Decimal.isDigit)
    let _ ← number? (column.drop columnMark.length)
    return (String.ofList before, line)
  else none

end Keyring.Text.Position
