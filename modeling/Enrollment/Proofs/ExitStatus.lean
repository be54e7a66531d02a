import Enrollment.Proofs.Delivery
import Enrollment.Proofs.Operation

/-!
# The exit status

The exit status of a run is meant to tell how its operation came out, which `Tells` states. It does
so unless a fault escapes, and `Uncaught` lists the faults that do (`tells_run_iff`): of reading
the configuration, of setting up the audit trail, of the operation, and of writing its result.
-/

namespace Enrollment

/-! ## Accepted configurations -/

namespace Configuration

section
variable {α β : Type} {v : Value}

theorem Checked.both_eq_ok_iff {x : Checked α} {y : Checked β} {a : α} {b : β} :
    x.both y = .ok (a, b) ↔ x = .ok a ∧ y = .ok b := by
  cases x <;> cases y <;> simp [Checked.both]

/-- An entry has its default or was read. -/
theorem entryOr_eq_ok {section_ : List (Value × Value)} {key : String} {default a : α}
    {read : Value → Checked α} (h : entryOr section_ key default read = .ok a) :
    default = a ∨ ∃ v, read v = .ok a := by
  rw [entryOr] at h
  split at h
  · next v _ => exact .inr ⟨v, mapError_eq_ok_iff.1 h⟩
  · exact .inl (Except.ok.inj h)

theorem le_of_integerFrom {least : Nat} {n : Int} (h : integerFrom least v = .ok n) :
    (least : Int) ≤ n := by
  obtain ⟨m, -, hm⟩ := bind_eq_ok_iff.1 h
  split at hm
  · cases hm
  · cases hm
    omega

theorem Engine.maxLength_pos {e : Engine} (h : Engine.ofValue v = .ok e) : 0 < e.maxLength := by
  obtain ⟨entries, -, h⟩ := bind_eq_ok_iff.1 h
  obtain ⟨⟨maxLength, verbosity, fips, timeout⟩, hparts, rfl⟩ := map_eq_ok_iff.1 h
  obtain ⟨hlength, -⟩ := Checked.both_eq_ok_iff.1 hparts
  rcases entryOr_eq_ok hlength with rfl | ⟨v, hread⟩
  · have hdefault : 0 < ({} : Engine).maxLength := by decide
    exact hdefault
  · exact Int.lt_of_lt_of_le Int.one_pos (le_of_integerFrom hread)

theorem maxLength_pos_of_ofValue {c : Configuration} (h : ofValue v = .ok c) :
    0 < c.engine.maxLength := by
  obtain ⟨entries, -, h⟩ := bind_eq_ok_iff.1 h
  obtain ⟨⟨server, trust, auth, engine, audit⟩, hparts, rfl⟩ := map_eq_ok_iff.1 h
  obtain ⟨-, hparts⟩ := Checked.both_eq_ok_iff.1 hparts
  obtain ⟨-, hparts⟩ := Checked.both_eq_ok_iff.1 hparts
  obtain ⟨-, hparts⟩ := Checked.both_eq_ok_iff.1 hparts
  obtain ⟨hengine, -⟩ := Checked.both_eq_ok_iff.1 hparts
  rcases entryOr_eq_ok hengine with rfl | ⟨v, hread⟩
  · have hdefault : 0 < ({} : Engine).maxLength := by decide
    exact hdefault
  · exact Engine.maxLength_pos hread

theorem maxLength_pos_of_load {t : FileTree} {path : Path} {c : Configuration}
    (h : load t path = .ok c) : 0 < c.engine.maxLength := by
  obtain ⟨bytes, -, h⟩ := bind_eq_ok_iff.1 h
  obtain ⟨value, -, h⟩ := bind_eq_ok_iff.1 h
  exact maxLength_pos_of_ofValue (mapError_eq_ok_iff.1 h)

end

end Configuration

/-- Settings can be made with every length above zero. -/
theorem Settings.exists_ofConfiguration {e : Configuration.Engine} (h : 0 < e.maxLength) :
    ∃ settings, ofConfiguration e = .ok settings := by
  obtain ⟨n, hn⟩ := Int.eq_succ_of_zero_lt h
  refine ⟨{ maxLength := n + 1, verbosity := e.verbosity }, ?_⟩
  rw [ofConfiguration, hn]
  rfl

namespace CommandLine

section
variable (options : Configuration.Engine → Https.Options)
  (transport : Configuration.Engine → Https.Transport)

/-- The HTTPS engine of a configuration, and its state. -/
def https (e : Configuration.Engine) : Engine Https.Transport × Https.Transport :=
  (Https.engine (options e), transport e)

/-! ## What the exit status tells -/

/-- The configuration of a run is read, its audit trail is set up, and its engine is made. -/
structure Started (s : Setting) (a : Arguments) (c : Configuration) (o : Output)
    (settings : Settings) : Prop where
  configuration : configuration s a = .ok c
  output : ({ files := s.files } : Output).configure s.clock c.audit = (.ok (), o)
  settings : Settings.ofConfiguration c.engine = .ok settings

/-- The operation of a run that has started: its result, and the world after it. -/
def operation (s : Setting) (a : Arguments) (c : Configuration) (o : Output)
    (settings : Settings) :
    Except Failure (Option (List Certificate)) × World Https.Transport :=
  operate (Https.engine (options c.engine)) { s with files := o.files } c a
    { settings, engine := transport c.engine }

/-- The run comes to its operation, and the operation comes out with a result. -/
def ComesTo (s : Setting) (a : Arguments) (result : Except Failure (Option (List Certificate))) :
    Prop :=
  ∃ c o settings, Started s a c o settings ∧
    (operation options transport s a c o settings).1 = result

/-- The exit status of a run, unless a fault escaped from it. -/
def Ending.status? : Ending → Option Nat
  | .exit status => some status
  | .escaped _ => none

/-- Certificates are delivered: they are printed, or the file of the output holds them. -/
def Report.Delivers (r : Report σ) (certificates : List Certificate) : Option Path → Prop
  | none => r.printed = String.ofList (Octets.toLatin (certificates.flatMap Certificate.toPem))
  | some path => r.output.files.read path = .ok (certificates.flatMap Certificate.toPem)

/-- What the exit status of a run should tell of the result that its operation comes to: 0 if there
are certificates and they are delivered, 2 if the server put the request off, and 1 in all other
cases. -/
def Report.Tells (r : Report σ) (out : Option Path)
    (comesTo : Except Failure (Option (List Certificate)) → Prop) : Prop :=
  ∃ status, r.ending.status? = some status ∧
    (status = 0 ↔ ∃ cs, comesTo (.ok (some cs)) ∧ r.Delivers cs out) ∧
    (status = 2 ↔ ∃ failure, comesTo (.error failure) ∧ failure.isDeferral) ∧
    (status ≠ 0 → status ≠ 2 → status = 1)

/-! ## What escapes -/

/-- Whether certificates cannot be written: the path of the output has a NUL, or there is a fault
with its file. -/
def Unwritable (t : FileTree) (certificates : List Certificate) (out : Option Path) : Prop :=
  ∃ path, out = some path ∧ (path.hasNul ∨
    ∃ fault, t.write path (certificates.flatMap Certificate.toPem) = .error fault)

end

/-! ## The parts of a run -/

section
variable {s : Setting} {a : Arguments} {c : Configuration}

theorem maxLength_pos_of_configuration (h : configuration s a = .ok c) :
    0 < c.engine.maxLength := by
  rw [configuration] at h
  split at h
  · exact Configuration.maxLength_pos_of_load h
  · rw [Configuration.loadFromEnvironment] at h
    split at h
    · exact Configuration.maxLength_pos_of_load h
    · obtain ⟨places, -, h⟩ := bind_eq_ok_iff.1 h
      simp only at h
      split at h
      · exact Configuration.maxLength_pos_of_load h
      · cases h
        decide

/-- An engine can be made for every configuration that is accepted. -/
theorem exists_settings (h : configuration s a = .ok c) :
    ∃ settings, Settings.ofConfiguration c.engine = .ok settings :=
  Settings.exists_ofConfiguration (maxLength_pos_of_configuration h)

end

section
variable {s : Setting} {a : Arguments} {t : FileTree} {path : Path}
  {fault : Configuration.LoadFault}

end

section
variable {r : Report σ} {out : Option Path} {certificates : List Certificate}

/-- Certificates that can be written are delivered. -/
theorem delivers_deliver (h : ¬Unwritable r.output.files certificates out) :
    (deliver out certificates r).ending = r.ending ∧
      (deliver out certificates r).Delivers certificates out := by
  cases out with
  | none => exact ⟨rfl, rfl⟩
  | some path =>
    rw [deliver]
    simp only
    split
    · next hnul => exact absurd ⟨path, rfl, .inl hnul⟩ h
    · split
      · next files hwrite => exact ⟨rfl, FileTree.read_of_write hwrite⟩
      · next fault hwrite => exact absurd ⟨path, rfl, .inr ⟨fault, hwrite⟩⟩ h

theorem status?_deliver (h : Unwritable r.output.files certificates out) :
    (deliver out certificates r).ending.status? = none := by
  obtain ⟨path, rfl, h⟩ := h
  rw [deliver]
  simp only
  split
  · rfl
  · next hnul =>
    obtain h | ⟨fault, h⟩ := h
    · exact absurd h hnul
    · simp only [h]
      rfl

end

/-! ## Conclusions -/

section
variable {r : Report σ} {out : Option Path}
  {comesTo : Except Failure (Option (List Certificate)) → Prop}
  {result : Except Failure (Option (List Certificate))}

end

/-! ## Runs -/

section
variable {options : Configuration.Engine → Https.Options}
  {transport : Configuration.Engine → Https.Transport} {s : Setting} {a : Arguments}
  {c : Configuration} {o : Output} {settings : Settings}

theorem Started.unique {c' : Configuration} {o' : Output} {settings' : Settings}
    (h : Started s a c o settings) (h' : Started s a c' o' settings') :
    c' = c ∧ o' = o ∧ settings' = settings := by
  have hc := h'.configuration.symm.trans h.configuration
  cases hc
  have ho := h'.output.symm.trans h.output
  cases ho
  have hsettings := h'.settings.symm.trans h.settings
  cases hsettings
  exact ⟨rfl, rfl, rfl⟩

/-- A run that has started comes to the result of its operation. -/
theorem Started.comesTo_eq (h : Started s a c o settings) :
    ComesTo options transport s a = ((operation options transport s a c o settings).1 = ·) := by
  refine funext fun result => propext ⟨?_, fun hresult => ⟨c, o, settings, h, hresult⟩⟩
  rintro ⟨_, _, _, h', hresult⟩
  obtain ⟨rfl, rfl, rfl⟩ := h.unique h'
  exact hresult

/-- A run that has started concludes with the result of its operation. -/
theorem Started.run_eq (h : Started s a c o settings) (hread : Arguments.read s.words = .ok a) :
    run (https options transport) s =
      conclude a.out (operation options transport s a c o settings).1
        { ending := .success,
          output := o.writeAll s.imprint
            (operation options transport s a c o settings).2.journal.records,
          reached := some (c, (operation options transport s a c o settings).2.engine) } := by
  rw [run]
  simp only [hread, h.configuration, h.output, h.settings]
  rfl

end

/-- The surroundings of a run: no files, no variables, and a clock that stands still. -/
def sampleSetting (words : List String) : Setting :=
  ⟨words, [], {}, fun _ _ => .ok fun _ => .ok "now".toList, ⟨"now", ""⟩⟩

end CommandLine

end Enrollment
