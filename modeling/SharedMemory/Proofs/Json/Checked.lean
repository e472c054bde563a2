import SharedMemory.Proofs.Json.Entries
/-!
# Records that are checked after they were read

A record may have to pass a check that makes another value of it. Nothing of the text is read
differently for it, so a text is accepted exactly if its record is read and passes.
-/
namespace SharedMemory.Json

variable {σ α β : Type}

/-- A text is accepted if a value stands at its front and nothing but blanks comes after it. -/
private theorem readAll_eq_ok_iff {read : Read α} {text : String} {a : α} :
    readAll read text = .ok a ↔
      ∃ rest, read text.toList = .ok (a, rest) ∧ skipBlanks rest = [] := by
  unfold readAll
  cases hread : read text.toList with
  | error e => simp [bind, Except.bind]
  | ok result =>
    obtain ⟨b, rest⟩ := result
    change (if (skipBlanks rest).isEmpty then Except.ok b else Except.error Rejection.malformed) =
      Except.ok a ↔ _
    cases hend : skipBlanks rest <;> simp [hend, and_assoc]

namespace RecordShape

/-- The record with a check at its end. -/
def checked (shape : RecordShape σ α) (check : α → Except Rejection β) : RecordShape σ β where
  name := shape.name
  empty := shape.empty
  fields := shape.fields
  strict := shape.strict
  fillsGaps := shape.fillsGaps
  complete p := (shape.complete p).bind check

variable (shape : RecordShape σ α) (check : α → Except Rejection β)

private theorem readEntries_checked (fuel : Nat) :
    (shape.checked check).readEntries fuel = shape.readEntries fuel := by
  induction fuel with
  | zero => rfl
  | succ fuel ih =>
    funext first p cs
    rw [readEntries, readEntries, ih]
    rfl

private theorem readElements_checked (fields : List (Field σ)) :
    (shape.checked check).readElements fields = shape.readElements fields := by
  induction fields with
  | nil => rfl
  | cons field fields ih =>
    funext count p cs
    rw [readElements, readElements, ih]
    rfl

private theorem read_checked (cs : List Char) :
    (shape.checked check).read cs =
      (shape.read cs).bind fun result => (check result.1).map fun b => (b, result.2) := by
  have hend : ∀ fields : Except Rejection (σ × List Char),
      (fields.bind fun result =>
        ((shape.complete result.1).bind check).bind fun b => .ok (b, result.2)) =
      (fields.bind fun result =>
        (shape.complete result.1).bind fun a => .ok (a, result.2)).bind fun result =>
          (check result.1).map fun b => (b, result.2) := by
    intro fields
    cases fields with
    | error e => rfl
    | ok result =>
      cases hcomplete : shape.complete result.1 with
      | error e => simp only [Except.bind, hcomplete]
      | ok a => cases hcheck : check a <;> simp only [Except.bind, Except.map, hcomplete, hcheck]
  unfold read
  split
  · rw [readEntries_checked]
    exact hend _
  · rw [readElements_checked]
    exact hend _
  · exact hend _

theorem readAll_checked_eq_ok_iff {text : String} {b : β} :
    readAll (shape.checked check).read text = .ok b ↔
      ∃ a, readAll shape.read text = .ok a ∧ check a = .ok b := by
  simp only [readAll_eq_ok_iff, read_checked]
  constructor
  · rintro ⟨rest, hread, hend⟩
    obtain ⟨⟨a, rest'⟩, hfields, hchecked⟩ := of_bind_eq_ok hread
    dsimp only at hchecked
    cases hcheck : check a with
    | error e =>
      rw [hcheck] at hchecked
      cases hchecked
    | ok b' =>
      rw [hcheck] at hchecked
      cases hchecked
      exact ⟨a, ⟨_, hfields, hend⟩, hcheck⟩
  · rintro ⟨a, ⟨rest, hread, hend⟩, hcheck⟩
    refine ⟨rest, ?_, hend⟩
    simp only [hread, hcheck, Except.bind, Except.map]

end RecordShape

end SharedMemory.Json
