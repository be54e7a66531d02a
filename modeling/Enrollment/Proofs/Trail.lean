import Enrollment.Proofs.FileTwins

/-!
# What the audit trail does to files

The file of a trail is made, with the directories above it, when the trail is set up; after that,
lines are added to it and nothing is taken away. No other file changes. So a trail changes what a
file holds exactly if it is the file of the trail, and either was not there before or gets a line
(`Output.content?_writeAll_iff`).
-/

namespace Enrollment

namespace FileTree

/-- Two trees with the same working directory and the same files; the directories may differ. -/
structure SameFiles (t t' : FileTree) : Prop where
  home : t'.home = t.home
  content? (place : Place) : t'.content? place = t.content? place

/-- Two trees with the same working directory and the same files, except that in the second one a
path leads to a file that holds `bytes`. -/
structure Altered (t : FileTree) (path : Path) (bytes : Octets) (t' : FileTree) : Prop where
  home : t'.home = t.home
  read : t'.read path = .ok bytes
  content? {place : Place} (h : place ≠ destination t.home path) :
    t'.content? place = t.content? place

section
variable {t t' t'' : FileTree} {place other : Place} {path : Path} {bytes : Octets}

theorem content?_put_ne {node : Node} (h : other ≠ place) :
    (t.put place node).content? other = t.content? other := by
  rw [content?, content?, node?_put_ne h]

theorem content?_of_read (h : t.read path = .ok bytes) :
    t.content? (destination t.home path) = some bytes := by
  obtain ⟨place, hplace, hnode⟩ := read_eq_ok_iff.1 h
  rw [← eq_destination_of_locate hplace, content?, hnode]

/-! ## Directories -/

theorem SameFiles.refl (t : FileTree) : SameFiles t t := ⟨rfl, fun _ => rfl⟩

theorem SameFiles.trans (h : SameFiles t t') (h' : SameFiles t' t'') : SameFiles t t'' :=
  ⟨h'.home.trans h.home, fun place => (h'.content? place).trans (h.content? place)⟩

/-- A directory is made only where nothing stands, so it takes the place of no file. -/
theorem sameFiles_of_makeDirectory (h : t.makeDirectory path = .ok t') : SameFiles t t' := by
  rw [makeDirectory] at h
  split at h
  · cases h
  · next place _ =>
    split at h
    · cases h
    · next hnode =>
      cases h
      refine ⟨rfl, fun other => ?_⟩
      by_cases hother : other = place
      · subst hother
        have hmade : (t.put other .directory).node? other = some .directory :=
          node?_put_self (by rw [hnode]; rintro ⟨⟩)
        rw [content?, content?, hmade, hnode]
      · exact content?_put_ne hother

theorem sameFiles_keepDirectory (t : FileTree) (path : Path) :
    SameFiles t (t.keepDirectory path).2 := by
  rw [keepDirectory]
  split
  · next hmade => exact sameFiles_of_makeDirectory hmade
  · exact .refl t

theorem sameFiles_makeDirectories (t : FileTree) (depth : Nat) (path : Path) :
    SameFiles t (t.makeDirectories depth path).2 := by
  induction depth generalizing path with
  | zero => exact .refl t
  | succ depth ih =>
    rw [makeDirectories]
    split
    · have habove := ih path.parent
      split
      · next hmade =>
        rw [hmade] at habove
        exact habove
      · next u hmade =>
        rw [hmade] at habove
        exact habove.trans (sameFiles_keepDirectory u path)
    · exact sameFiles_keepDirectory t path

theorem sameFiles_makeFromTop (t : FileTree) (depth : Nat) (path : Path) :
    SameFiles t (makeFromTop t depth path).2 := by
  induction depth generalizing path with
  | zero => exact .refl t
  | succ depth ih =>
    have habove : SameFiles t
        (if path.names.isEmpty || (!path.parent.hasNul && t.exists? path.parent) then (.ok (), t)
          else makeFromTop t depth path.parent : Except Fault Unit × FileTree).2 := by
      split
      · exact .refl t
      · exact ih path.parent
    rw [makeFromTop]
    simp only
    split
    · next hmade =>
      rw [hmade] at habove
      exact habove
    · next u hmade =>
      rw [hmade] at habove
      split
      · exact habove
      · exact habove.trans (sameFiles_keepDirectory u path)

/-! ## Files -/

theorem SameFiles.altered (h : SameFiles t t') (h' : Altered t' path bytes t'') :
    Altered t path bytes t'' where
  home := h'.home.trans h.home
  read := h'.read
  content? hplace := (h'.content? (h.home ▸ hplace)).trans (h.content? _)

/-- A file is altered in view of what it held, or of nothing if it was not there. -/
theorem altered_of_update {content : Octets → Octets} (h : t.update path content = .ok t') :
    Altered t path (content ((t.content? (destination t.home path)).getD [])) t' := by
  obtain ⟨place, hplace, hfile, rfl⟩ := update_eq_ok_iff.1 h
  rw [← eq_destination_of_locate hplace]
  refine ⟨rfl, read_put hplace hfile, fun hother => content?_put_ne ?_⟩
  rwa [eq_destination_of_locate hplace]

/-- A file that can be read can be altered. -/
theorem exists_update_of_read (h : t.read path = .ok bytes) (content : Octets → Octets) :
    ∃ t', t.update path content = .ok t' := by
  obtain ⟨place, hplace, hnode⟩ := read_eq_ok_iff.1 h
  exact ⟨_, update_eq_ok_iff.2 ⟨place, hplace, by rw [hnode]; rintro ⟨⟩, rfl⟩⟩

/-- More can be added to the file that was altered. -/
theorem Altered.append (h : Altered t path bytes t') (more : Octets) :
    ∃ t'', t'.append path more = .ok t'' ∧ Altered t path (bytes ++ more) t'' := by
  obtain ⟨t'', happend⟩ := exists_update_of_read h.read (· ++ more)
  have haltered := altered_of_update happend
  rw [content?_of_read h.read, Option.getD_some] at haltered
  refine ⟨t'', happend, haltered.home.trans h.home, haltered.read, fun {place} hplace => ?_⟩
  rw [haltered.content? (h.home ▸ hplace), h.content? hplace]

/-- A file that is opened is made if it is not there, and otherwise holds what it held. -/
theorem altered_of_openFile (h : openFile t path = (.ok (), t')) :
    Altered t path ((t.content? (destination t.home path)).getD []) t' := by
  have hsame := sameFiles_makeFromTop t (path.names.length + 1) path.parent
  rw [openFile] at h
  split at h
  · cases h
  · next u hmade =>
    rw [hmade] at hsame
    split at h
    · cases h
    · split at h
      · cases h
      · next hadd =>
        cases h
        have haltered := altered_of_update hadd
        rw [List.append_nil, hsame.home, hsame.content?] at haltered
        exact hsame.altered haltered

/-- The path of a trail is found in the name that it was configured with, wherever directories
are. -/
theorem SameFiles.trailPath_eq (h : SameFiles t t') (clock : Template.Custom) (path : Path) :
    Output.trailPath clock t' path = Output.trailPath clock t path := by
  simp only [Output.trailPath, absolute, h.home]

/-- The file of a trail is the one that the name of the trail comes to. -/
theorem altered_of_openTrail {clock : Template.Custom} {file : Path}
    (h : Output.openTrail clock t path = (.ok file, t')) :
    Output.trailPath clock t path = .ok file ∧
      Altered t file ((t.content? (destination t.home file)).getD []) t' := by
  have hsame := sameFiles_makeDirectories t (path.parent.names.length + 1) path.parent
  rw [Output.openTrail, ensureDirectory] at h
  split at h
  · cases h
  · split at h
    · cases h
    · next u hmade =>
      rw [hmade] at hsame
      rw [hsame.trailPath_eq] at h
      cases hpath : Output.trailPath clock t path with
      | error fault =>
        rw [hpath] at h
        cases h
      | ok named =>
        simp only [hpath] at h
        cases hopen : openFile u named with
        | mk opened v =>
          rw [hopen] at h
          cases opened with
          | error fault => cases h
          | ok =>
            cases h
            have haltered := altered_of_openFile hopen
            rw [hsame.home, hsame.content?] at haltered
            exact ⟨rfl, hsame.altered haltered⟩

end

end FileTree

/-! ## Lines -/

/-- Whether a trail takes a record: one that can be written down. -/
def Configuration.Audit.takes (c : Configuration.Audit) (r : Record) : Bool :=
  r.isAudited && c.level.weight ≤ r.level.weight && r.isWritable

/-- The lines of the records that a trail takes. -/
def Configuration.Audit.lines (c : Configuration.Audit) (m : Imprint) (rs : List Record) : Octets :=
  (rs.filter c.takes).flatMap fun r => Octets.ofText (r.line m.stamp)

section
variable {c : Configuration.Audit} {m : Imprint} {r : Record} {rs : List Record}

theorem Record.ofText_line_ne_nil (stamp : String) (r : Record) :
    Octets.ofText (r.line stamp) ≠ [] := by
  have hend : '\n' ∈ (r.line stamp).toList := by
    rw [line, String.toList_append]
    exact List.mem_append_right _ (by decide)
  intro h
  have hmem : (10 : UInt8) ∈ Octets.ofText (r.line stamp) :=
    List.mem_flatMap.2 ⟨'\n', hend, by decide⟩
  rw [h] at hmem
  cases hmem

theorem Configuration.Audit.lines_cons :
    c.lines m (r :: rs) = c.lines m [r] ++ c.lines m rs := by
  rw [lines, lines, lines, ← List.flatMap_append, ← List.filter_append, List.singleton_append]

theorem Configuration.Audit.lines_eq_nil_iff (m : Imprint) :
    c.lines m rs = [] ↔ ¬∃ r ∈ rs, c.takes r := by
  rw [lines, List.flatMap_eq_nil_iff]
  constructor
  · rintro h ⟨r, hr, htakes⟩
    exact r.ofText_line_ne_nil m.stamp (h r (List.mem_filter.2 ⟨hr, htakes⟩))
  · intro h r hr
    obtain ⟨hmem, htakes⟩ := List.mem_filter.1 hr
    exact absurd ⟨r, hmem, htakes⟩ h

end

/-! ## Outputs -/

/-- An output with a trail that goes to the terminal and to a file, which holds `text` by now; no
other file has changed. -/
structure Output.Trails (o : Output) (t : FileTree) (c : Configuration.Audit) (log : Path)
    (text : Octets) : Prop where
  destinations : o.destinations = [⟨c.level, .terminal⟩, ⟨c.level, .file log⟩]
  altered : t.Altered log text o.files

/-- An output with a trail that goes to the terminal only; no file has changed. -/
structure Output.TrailsOff (o : Output) (t : FileTree) (c : Configuration.Audit) : Prop where
  destinations : o.destinations = [⟨c.level, .terminal⟩]
  files : o.files = t

namespace Output

section
variable {o : Output} {t : FileTree} {c : Configuration.Audit} {log : Path} {text : Octets}
  {clock : Template.Custom} {m : Imprint} {rs : List Record} {place : Place}

/-- A trail is set up with a file or without. -/
theorem trails_of_configure (h : ({ files := t } : Output).configure clock c = (.ok (), o)) :
    (c.logFile = none ∧ o.TrailsOff t c) ∨
    ∃ name log, c.logFile = some name ∧ trailPath clock t name = .ok log ∧
      o.Trails t c log ((t.content? (FileTree.destination t.home log)).getD []) := by
  rw [configure] at h
  simp only at h
  split at h
  · next hnone =>
    cases h
    exact .inl ⟨hnone, rfl, rfl⟩
  · next name hname =>
    split at h
    · cases h
    · next log files hopen =>
      cases h
      obtain ⟨hpath, haltered⟩ := FileTree.altered_of_openTrail hopen
      exact .inr ⟨name, log, hname, hpath, rfl, haltered⟩

theorem Trails.say (h : o.Trails t c log text) (words : String) :
    (o.say words).Trails t c log text :=
  ⟨h.destinations, h.altered⟩

theorem Trails.write (h : o.Trails t c log text) (m : Imprint) (r : Record) :
    (o.write m r).Trails t c log (text ++ c.lines m [r]) := by
  rw [Output.write, h.destinations]
  cases hadmits : r.isAudited && c.level.weight ≤ r.level.weight with
  | false =>
    have hlevel (target : Target) : (⟨c.level, target⟩ : Destination).admits r = false := hadmits
    simp only [List.filter, hlevel, List.foldl_nil, Configuration.Audit.lines,
      Configuration.Audit.takes, hadmits, Bool.false_and, List.flatMap_nil, List.append_nil]
    exact h
  | true =>
    have hlevel (target : Target) : (⟨c.level, target⟩ : Destination).admits r = true := hadmits
    simp only [List.filter, hlevel, List.foldl_cons, List.foldl_nil, record,
      Configuration.Audit.lines, Configuration.Audit.takes, hadmits, Bool.true_and]
    cases hwritable : r.isWritable with
    | false =>
      simp only [Bool.false_eq_true, if_false, List.flatMap_nil, List.append_nil]
      exact (h.say _).say _
    | true =>
      obtain ⟨files, happend, haltered⟩ := h.altered.append (Octets.ofText (r.line m.stamp))
      simp only [if_true, send, Output.say, happend, List.flatMap_cons, List.flatMap_nil,
        List.append_nil]
      exact ⟨h.destinations, haltered⟩

/-- **A trail only grows**: the lines of all records that it takes follow what its file held. -/
theorem Trails.writeAll (h : o.Trails t c log text) (m : Imprint) (rs : List Record) :
    (o.writeAll m rs).Trails t c log (text ++ c.lines m rs) := by
  induction rs generalizing o text with
  | nil => simpa [Output.writeAll, Configuration.Audit.lines] using h
  | cons r rs ih =>
    have hmore := ih (h.write m r)
    rw [List.append_assoc, ← Configuration.Audit.lines_cons] at hmore
    exact hmore

theorem TrailsOff.writeAll (h : o.TrailsOff t c) (m : Imprint) (rs : List Record) :
    (o.writeAll m rs).TrailsOff t c := by
  induction rs generalizing o with
  | nil => exact h
  | cons r rs ih =>
    refine ih ?_
    rw [write, h.destinations, List.filter]
    split
    · simp only [List.filter, List.foldl_cons, List.foldl_nil, record, send]
      split <;> exact ⟨h.destinations, h.files⟩
    · exact h

end

end Output

/-- Whether a trail changes what the file at a place holds: it is the file of the trail, and it was
not there or gets a line. -/
def Configuration.Audit.Touches (c : Configuration.Audit) (clock : Template.Custom) (t : FileTree)
    (place : Place) (rs : List Record) : Prop :=
  ∃ name log, c.logFile = some name ∧ Output.trailPath clock t name = .ok log ∧
    FileTree.destination t.home log = place ∧ (t.content? place = none ∨ ∃ r ∈ rs, c.takes r)

/-- **What a trail does to files**: when it is set up and records are written, a file holds what it
held exactly if the trail does not touch it. -/
theorem Output.content?_writeAll_iff {t : FileTree} {clock : Template.Custom}
    {c : Configuration.Audit} {o : Output}
    (h : ({ files := t } : Output).configure clock c = (.ok (), o)) (m : Imprint)
    (rs : List Record) (place : Place) :
    (o.writeAll m rs).files.content? place = t.content? place ↔ ¬c.Touches clock t place rs := by
  rcases trails_of_configure h with ⟨hnone, hoff⟩ | ⟨name, log, hname, hlog, htrails⟩
  · refine iff_of_true (by rw [(hoff.writeAll m rs).files]) ?_
    rintro ⟨name, -, hname, -⟩
    rw [hnone] at hname
    cases hname
  · have haltered := (htrails.writeAll m rs).altered
    -- The trail has one file only.
    have hfile {place : Place} (h : c.Touches clock t place rs) :
        FileTree.destination t.home log = place ∧
          (t.content? place = none ∨ ∃ r ∈ rs, c.takes r) := by
      obtain ⟨_, _, hname', hlog', hplace, h⟩ := h
      rw [hname] at hname'
      cases hname'
      rw [hlog] at hlog'
      cases hlog'
      exact ⟨hplace, h⟩
    by_cases hplace : place = FileTree.destination t.home log
    · subst hplace
      have hself := FileTree.content?_of_read haltered.read
      rw [haltered.home] at hself
      have htouches : c.Touches clock t (FileTree.destination t.home log) rs ↔
          t.content? (FileTree.destination t.home log) = none ∨ ∃ r ∈ rs, c.takes r :=
        ⟨fun h => (hfile h).2, fun h => ⟨name, log, hname, hlog, rfl, h⟩⟩
      rw [hself, htouches, not_or, ← Configuration.Audit.lines_eq_nil_iff m]
      cases t.content? (FileTree.destination t.home log) with
      | none => simp
      | some bytes => simp
    · exact iff_of_true (haltered.content? hplace) fun h => hplace (hfile h).1.symm

end Enrollment
