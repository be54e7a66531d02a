import Enrollment.Files.Tree
import Enrollment.Proofs.Except

/-!
# Files that are written and read

A file that was written is read with what was written into it (`FileTree.read_of_write`): the
directories on the way to it are none of the files, so the path leads to the same place again.
What reading can come to is in `readFile_cases`.
-/

namespace Enrollment.FileTree

/-- What the file at a place holds, if a file stands there. -/
def content? (t : FileTree) (place : Place) : Option Octets :=
  match t.node? place with
  | some (.file bytes) => some bytes
  | _ => none

section
variable {t t' : FileTree} {place other : Place} {node : Node} {path : Path} {bytes : Octets}

theorem lookup_putNode_self (nodes : List (Place × Node)) :
    (putNode place node nodes).lookup place = some node := by
  induction nodes with
  | nil => simp [putNode]
  | cons entry more ih =>
    obtain ⟨p, old⟩ := entry
    by_cases h : p = place
    · simp [putNode, h]
    · have hne : (place == p) = false := beq_false_of_ne (Ne.symm h)
      rw [putNode, if_neg h, List.lookup_cons, hne]
      exact ih

theorem lookup_putNode_ne (h : other ≠ place) (nodes : List (Place × Node)) :
    (putNode place node nodes).lookup other = nodes.lookup other := by
  induction nodes with
  | nil => simp [putNode, h]
  | cons entry more ih =>
    obtain ⟨p, old⟩ := entry
    by_cases hp : p = place
    · have hne : (other == place) = false := beq_false_of_ne h
      rw [putNode, if_pos hp, List.lookup_cons, List.lookup_cons, hp, hne]
    · rw [putNode, if_neg hp, List.lookup_cons, List.lookup_cons, ih]

theorem node?_put_ne (h : other ≠ place) : (t.put place node).node? other = t.node? other := by
  simp only [node?, put, lookup_putNode_ne h]

theorem node?_put_self (h : t.node? place ≠ some .directory) :
    (t.put place node).node? place = some node := by
  have hhome : place.isPrefixOf t.home = false := by
    cases hprefix : place.isPrefixOf t.home with
    | false => rfl
    | true => exact absurd (by rw [node?, if_pos hprefix]) h
  simp only [node?, put, hhome, lookup_putNode_self]
  rfl

/-- A walk passes directories only, so it goes the same way after a file was put somewhere. -/
theorem walk_put (h : t.node? place ≠ some .directory) {shown : String} {start stop : Place}
    {names : List String} (hwalk : t.walk shown start names = .ok stop) :
    (t.put place node).walk shown start names = .ok stop := by
  induction names generalizing start with
  | nil => exact hwalk
  | cons name more ih =>
    rw [walk] at hwalk ⊢
    cases hnode : t.node? start with
    | none => rw [hnode] at hwalk; cases hwalk
    | some found =>
      rw [hnode] at hwalk
      cases found with
      | file => cases hwalk
      | directory =>
        have hne : start ≠ place := by
          rintro rfl
          exact h hnode
        rw [node?_put_ne hne, hnode]
        simp only at hwalk ⊢
        split
        · next hlong => rw [if_pos hlong] at hwalk; cases hwalk
        · next hlong =>
          rw [if_neg hlong] at hwalk
          exact ih hwalk

/-! ## Reading and writing -/

/-- A path is read if it leads to a file. -/
theorem read_eq_ok_iff : t.read path = .ok bytes ↔
    ∃ place, t.locate path = .ok place ∧ t.node? place = some (.file bytes) := by
  constructor
  · intro h
    rw [read] at h
    split at h
    · cases h
    · next place hplace =>
      split at h
      · cases h
      · cases h
      · next old hnode =>
        cases h
        exact ⟨place, hplace, hnode⟩
  · rintro ⟨place, hplace, hnode⟩
    simp only [read, hplace, hnode]

/-- A path is updated if it leads to no directory. -/
theorem update_eq_ok_iff {content : Octets → Octets} : t.update path content = .ok t' ↔
    ∃ place, t.locate path = .ok place ∧ t.node? place ≠ some .directory ∧
      t.put place (.file (content ((t.content? place).getD []))) = t' := by
  constructor
  · intro h
    rw [update] at h
    split at h
    · cases h
    · next place hplace =>
      refine ⟨place, hplace, ?_⟩
      split at h
      · cases h
      · next old hnode =>
        cases h
        rw [content?, hnode]
        exact ⟨nofun, rfl⟩
      · next hnode =>
        cases h
        rw [content?, hnode]
        exact ⟨nofun, rfl⟩
  · rintro ⟨place, hplace, hnode, rfl⟩
    rw [update, hplace, content?]
    simp only
    split
    · next hdirectory => exact absurd hdirectory hnode
    · next old hfile => simp only [hfile, Option.getD_some]
    · next hnone => simp only [hnone, Option.getD_none]

/-- A file that is put where a path leads is read with its content. -/
theorem read_put (hplace : t.locate path = .ok place) (hfile : t.node? place ≠ some .directory) :
    (t.put place (.file bytes)).read path = .ok bytes :=
  read_eq_ok_iff.2 ⟨place, walk_put hfile hplace, node?_put_self hfile⟩

/-- **A file that was written holds what was written.** -/
theorem read_of_write (h : t.write path bytes = .ok t') : t'.read path = .ok bytes := by
  obtain ⟨place, hplace, hfile, rfl⟩ := update_eq_ok_iff.1 h
  exact read_put hplace hfile

end

end Enrollment.FileTree

namespace Enrollment

end Enrollment
