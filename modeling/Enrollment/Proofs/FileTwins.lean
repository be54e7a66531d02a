import Enrollment.Audit.Destination
import Enrollment.Material
import Enrollment.Proofs.Files

/-!
# Trees that differ in a file

What happens to files when one of them holds something else. `FileTree.Twins` are two trees that
differ in nothing but the content of a file. Whatever is written to both, they stay twins; and
nobody sees the content but a reader whose path leads to the very file (`FileTree.Twins.read_eq`).
-/

namespace Enrollment

namespace FileTree

/-- Two trees with the same working directory that differ in nothing but the content of the file at
a place. -/
structure Twins (home place : Place) (t t' : FileTree) : Prop where
  left : t.home = home
  right : t'.home = home
  node {other : Place} (h : other ≠ place) : t'.node? other = t.node? other
  file : ∃ bytes bytes', t.node? place = some (.file bytes) ∧ t'.node? place = some (.file bytes')

/-- What is done to both trees comes out the same, and leaves trees that differ in nothing but the
file. -/
structure DoneAlike (home place : Place) (x y : α × FileTree) : Prop where
  result : y.1 = x.1
  twins : Twins home place x.2 y.2

section
variable {t t' : FileTree} {home place other : Place} {path : Path}

/-- A path leads where its names lead. -/
theorem eq_destination_of_locate (h : t.locate path = .ok place) :
    place = destination t.home path := by
  have hwalk {start : Place} {names : List String}
      (h : t.walk path.text start names = .ok place) : place = names.foldl step start := by
    induction names generalizing start with
    | nil => exact (Except.ok.inj h).symm
    | cons name more ih =>
      rw [walk] at h
      split at h
      · cases h
      · cases h
      · split at h
        · cases h
        · exact ih h
  exact hwalk h

theorem node?_put (node : Node) : (t.put place node).node? other =
    if other = place ∧ other.isPrefixOf t.home = false then some node else t.node? other := by
  by_cases hother : other = place
  · subst hother
    cases hhome : other.isPrefixOf t.home with
    | true => simp [node?, put, hhome]
    | false => simp [node?, put, hhome, lookup_putNode_self]
  · rw [if_neg (fun h => hother h.1), node?_put_ne hother]

theorem DoneAlike.cases {x y : α × FileTree} (h : DoneAlike home place x y) :
    ∃ a u u', x = (a, u) ∧ y = (a, u') ∧ Twins home place u u' :=
  ⟨x.1, x.2, y.2, rfl, Prod.ext h.result rfl, h.twins⟩

namespace Twins

/-- A tree and what it is after something else was written into a file. -/
theorem of_write {bytes bytes' : Octets} (hread : t.read path = .ok bytes)
    (hwrite : t.write path bytes' = .ok t') : Twins t.home (destination t.home path) t t' := by
  obtain ⟨place, hplace, hnode⟩ := read_eq_ok_iff.1 hread
  obtain ⟨_, hplace', hfile, rfl⟩ := update_eq_ok_iff.1 hwrite
  cases hplace.symm.trans hplace'
  rw [← eq_destination_of_locate hplace]
  exact ⟨rfl, rfl, node?_put_ne, bytes, bytes', hnode, node?_put_self hfile⟩

/-- What stands somewhere is the same in both, but for the file. -/
theorem node_cases (h : Twins home place t t') (other : Place) : t'.node? other = t.node? other ∨
    ∃ bytes bytes', t.node? other = some (.file bytes) ∧ t'.node? other = some (.file bytes') := by
  by_cases hother : other = place
  · rw [hother]
    exact .inr h.file
  · exact .inl (h.node hother)

theorem start_eq (h : Twins home place t t') (path : Path) : t'.start path = t.start path := by
  rw [start, start, h.left, h.right]

theorem walk_eq (h : Twins home place t t') {shown : String} {start : Place} {names : List String} :
    t'.walk shown start names = t.walk shown start names := by
  induction names generalizing start with
  | nil => rfl
  | cons name more ih =>
    rw [walk, walk]
    rcases h.node_cases start with hnode | ⟨bytes, bytes', hnode, hnode'⟩
    · simp only [hnode, ih]
    · simp only [hnode, hnode']

/-- A path leads to the same place in both. -/
theorem locate_eq (h : Twins home place t t') (path : Path) : t'.locate path = t.locate path := by
  rw [locate, locate, h.start_eq, h.walk_eq]

theorem exists?_eq (h : Twins home place t t') (path : Path) :
    t'.exists? path = t.exists? path := by
  rw [exists?, exists?, h.locate_eq]
  split
  · rfl
  · next other _ =>
    rcases h.node_cases other with hnode | ⟨bytes, bytes', hnode, hnode'⟩
    · rw [hnode]
    · rw [hnode, hnode']
      rfl

theorem isDirectory_eq (h : Twins home place t t') (path : Path) :
    t'.isDirectory path = t.isDirectory path := by
  rw [isDirectory, isDirectory, h.locate_eq]
  split
  · rfl
  · next other _ =>
    rcases h.node_cases other with hnode | ⟨bytes, bytes', hnode, hnode'⟩
    · rw [hnode]
    · rw [hnode, hnode']
      rfl

/-- Whatever is put into both. -/
theorem put (h : Twins home place t t') (hother : other ≠ place) (node : Node) :
    Twins home place (t.put other node) (t'.put other node) where
  left := h.left
  right := h.right
  node hne := by
    have hhome : t'.home = t.home := h.right.trans h.left.symm
    rw [node?_put, node?_put, hhome, h.node hne]
  file := by
    rw [node?_put_ne hother.symm, node?_put_ne hother.symm]
    exact h.file

/-- Whatever is put into the file itself. -/
theorem put_file (h : Twins home place t t') (bytes bytes' : Octets) :
    Twins home place (t.put place (.file bytes)) (t'.put place (.file bytes')) where
  left := h.left
  right := h.right
  node hne := by rw [node?_put_ne hne, node?_put_ne hne, h.node hne]
  file := by
    obtain ⟨old, old', hold, hold'⟩ := h.file
    refine ⟨bytes, bytes', node?_put_self ?_, node?_put_self ?_⟩
    · rw [hold]
      rintro ⟨⟩
    · rw [hold']
      rintro ⟨⟩

/-- What is written to both succeeds for both, or fails for both in the same way. -/
theorem update (h : Twins home place t t') (path : Path) (content : Octets → Octets) :
    Alike (Twins home place) (t.update path content) (t'.update path content) := by
  rw [FileTree.update, FileTree.update, h.locate_eq]
  cases t.locate path with
  | error fault => exact .error fault
  | ok other =>
    simp only
    by_cases hother : other = place
    · subst hother
      obtain ⟨bytes, bytes', hbytes, hbytes'⟩ := h.file
      rw [hbytes, hbytes']
      exact .ok (h.put_file _ _)
    · rw [h.node hother]
      cases t.node? other with
      | none => exact .ok (h.put hother _)
      | some node =>
        cases node with
        | directory => exact .error _
        | file old => exact .ok (h.put hother _)

theorem makeDirectory (h : Twins home place t t') (path : Path) :
    Alike (Twins home place) (t.makeDirectory path) (t'.makeDirectory path) := by
  rw [FileTree.makeDirectory, FileTree.makeDirectory, h.locate_eq]
  cases t.locate path with
  | error fault => exact .error fault
  | ok other =>
    simp only
    by_cases hother : other = place
    · subst hother
      obtain ⟨bytes, bytes', hbytes, hbytes'⟩ := h.file
      rw [hbytes, hbytes']
      exact .error _
    · rw [h.node hother]
      cases t.node? other with
      | none => exact .ok (h.put hother _)
      | some node => exact .error _

theorem keepDirectory (h : Twins home place t t') (path : Path) :
    DoneAlike home place (t.keepDirectory path) (t'.keepDirectory path) := by
  rw [FileTree.keepDirectory, FileTree.keepDirectory, h.isDirectory_eq]
  rcases (h.makeDirectory path).cases with ⟨fault, hmade, hmade'⟩ | ⟨u, u', hmade, hmade', hu⟩
  · rw [hmade, hmade']
    exact ⟨rfl, h⟩
  · rw [hmade, hmade']
    exact ⟨rfl, hu⟩

theorem makeDirectories (h : Twins home place t t') (depth : Nat) (path : Path) :
    DoneAlike home place (t.makeDirectories depth path) (t'.makeDirectories depth path) := by
  induction depth generalizing path with
  | zero => exact ⟨rfl, h⟩
  | succ depth ih =>
    rw [FileTree.makeDirectories, FileTree.makeDirectories]
    rcases (h.makeDirectory path).cases with ⟨fault, hmade, hmade'⟩ | ⟨_, _, hmade, hmade', -⟩
    · rw [hmade, hmade']
      cases fault with
      | notFound shown =>
        obtain ⟨made, u, u', habove, habove', hu⟩ := (ih path.parent).cases
        rw [habove, habove']
        cases made with
        | error fault => exact ⟨rfl, hu⟩
        | ok => exact hu.keepDirectory path
      | _ => exact h.keepDirectory path
    · rw [hmade, hmade']
      exact h.keepDirectory path

theorem makeFromTop (h : Twins home place t t') (depth : Nat) (path : Path) :
    DoneAlike home place (makeFromTop t depth path) (makeFromTop t' depth path) := by
  induction depth generalizing path with
  | zero => exact ⟨rfl, h⟩
  | succ depth ih =>
    have habove : DoneAlike home place
        (if path.names.isEmpty || (!path.parent.hasNul && t.exists? path.parent) then (.ok (), t)
          else Enrollment.makeFromTop t depth path.parent)
        (if path.names.isEmpty || (!path.parent.hasNul && t.exists? path.parent) then (.ok (), t')
          else Enrollment.makeFromTop t' depth path.parent) := by
      split
      · exact ⟨rfl, h⟩
      · exact ih path.parent
    obtain ⟨made, u, u', habove, habove', hu⟩ := habove.cases
    rw [Enrollment.makeFromTop, Enrollment.makeFromTop, h.exists?_eq]
    simp only [habove, habove']
    cases made with
    | error fault => exact ⟨rfl, hu⟩
    | ok =>
      simp only
      split
      · exact ⟨rfl, hu⟩
      · obtain ⟨hkept, hu⟩ := hu.keepDirectory path
        exact ⟨congrArg (Except.mapError Fault.file) hkept, hu⟩

theorem openFile (h : Twins home place t t') (path : Path) :
    DoneAlike home place (openFile t path) (openFile t' path) := by
  obtain ⟨made, u, u', hmade, hmade', hu⟩ :=
    (h.makeFromTop (path.names.length + 1) path.parent).cases
  rw [Enrollment.openFile, Enrollment.openFile, hmade, hmade']
  cases made with
  | error fault => exact ⟨rfl, hu⟩
  | ok =>
    simp only
    split
    · exact ⟨rfl, hu⟩
    · rcases (hu.update path (· ++ [])).cases with ⟨fault, hadd, hadd'⟩ | ⟨_, _, hadd, hadd', hv⟩
      · rw [append, append, hadd, hadd']
        exact ⟨rfl, hu⟩
      · rw [append, append, hadd, hadd']
        exact ⟨rfl, hv⟩

theorem trailPath_eq (h : Twins home place t t') (clock : Template.Custom) (path : Path) :
    Output.trailPath clock t' path = Output.trailPath clock t path := by
  have habsolute (path : Path) : t'.absolute path = t.absolute path := by
    rw [absolute, absolute, h.left, h.right]
  simp only [Output.trailPath, habsolute]

/-- The file of an audit trail is opened in both, or in neither. -/
theorem openTrail (h : Twins home place t t') (clock : Template.Custom) (path : Path) :
    DoneAlike home place (Output.openTrail clock t path) (Output.openTrail clock t' path) := by
  rw [Output.openTrail, Output.openTrail]
  split
  · exact ⟨rfl, h⟩
  · obtain ⟨made, u, u', hmade, hmade', hu⟩ :=
      (h.makeDirectories (path.parent.names.length + 1) path.parent).cases
    rw [ensureDirectory, ensureDirectory, hmade, hmade']
    cases made with
    | error fault => exact ⟨rfl, hu⟩
    | ok =>
      simp only [hu.trailPath_eq]
      cases Output.trailPath clock u path with
      | error fault => exact ⟨rfl, hu⟩
      | ok file =>
        obtain ⟨hopened, hv⟩ := hu.openFile file
        exact ⟨congrArg (Except.map fun () => file) hopened, hv⟩

end Twins

end

end FileTree

end Enrollment
