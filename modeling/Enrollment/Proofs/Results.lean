import Enrollment.Proofs.Delivery
import Enrollment.Proofs.ExitStatus
import Enrollment.Proofs.Trail

/-!
# What a run writes out

With exit status 0 a run should have written certificates that are loaded as what its operation
came to, and with any other status it should have written nothing; `Report.Faithful` states both.
It holds with two exceptions, which `Unfaithful` lists (`faithful_run_iff`): the certificates of
the authority are written out even if there are none, and the audit trail may go to the very file
that the certificates are meant for.
-/

namespace Enrollment

/-! ## PEM texts -/

namespace Octets

/-- ASCII octets are the octets of the text that they spell. -/
theorem ofText_toLatin {bytes : Octets} (h : ∀ b ∈ bytes, b.toNat < 128) :
    ofText (String.ofList bytes.toLatin) = bytes := by
  rw [ofText, String.toList_ofList, ofChars_toLatin h]

end Octets

theorem Certificate.ascii_toPem (c : Certificate) : ∀ b ∈ c.toPem, b.toNat < 128 := by
  intro b hb
  rw [Certificate.toPem_eq, Certificate.block] at hb
  rcases List.mem_append.1 hb with hb | hb
  · exact Pem.ascii_block (by decide) b hb
  · obtain rfl := List.mem_singleton.1 hb
    decide

/-- Whether octets stand for certificates: there are some, and a file that holds them is loaded as
exactly these certificates. -/
structure Octets.StandsFor (text : Octets) (cs : List Certificate) : Prop where
  ne_nil : text ≠ []
  load {t : FileTree} {path : Path} (h : readFile t path = .ok text) :
    loadCertificates t path = .ok cs

/-- The PEM texts of certificates stand for them, unless there are none. -/
theorem standsFor_flatMap_toPem (c : Certificate) (cs : List Certificate) :
    Octets.StandsFor ((c :: cs).flatMap Certificate.toPem) (c :: cs) where
  ne_nil h := by
    have hempty := isEmpty_flatMap_toPem c cs
    rw [h] at hempty
    cases hempty
  load h := by
    rw [loadCertificates, h]
    simp only [ofStream_flatMap_toPem, Reading.toExcept]

namespace CommandLine

/-! ## What a run should write -/

/-- What a run wrote out: what it printed, or what the file of its output holds. -/
def Report.written (r : Report σ) : Option Path → Except Fault Octets
  | none => .ok (Octets.ofText r.printed)
  | some path => readFile r.output.files path

/-- Whether the file of the output holds what it held before, or is not there as before. -/
def Report.KeepsFile (r : Report σ) (before : FileTree) (out : Option Path) : Prop :=
  ∀ path, out = some path →
    r.output.files.content? (FileTree.destination before.home path) =
      before.content? (FileTree.destination before.home path)

/-- What a run should write in view of its exit status, where `before` are the files before it:
with status 0 a text that stands for the certificates that its operation comes to, and with any
other status nothing. -/
structure Report.Faithful (r : Report σ) (before : FileTree) (out : Option Path)
    (comesTo : Except Failure (Option (List Certificate)) → Prop) : Prop where
  wrote (h : r.ending.status? = some 0) :
    ∃ cs text, comesTo (.ok (some cs)) ∧ r.written out = .ok text ∧ text.StandsFor cs
  kept {status : Nat} (h : r.ending.status? = some status) (hstatus : status ≠ 0) :
    r.printed = "" ∧ r.KeepsFile before out

/-- The results of operations that a run tells of and has nothing to write for. -/
inductive Declined : Except Failure (Option (List Certificate)) → Prop
  | nothing : Declined (.ok none)
  | error (e : ClientError) : Declined (.error (.client e))

section
variable (options : Configuration.Engine → Https.Options)
  (transport : Configuration.Engine → Https.Transport)

/-- The runs that do not write what they should: those that write out an empty list of certificates,
and those that have nothing to write while their trail touches the file of the output. -/
inductive Unfaithful (s : Setting) (a : Arguments) : Prop
  | empty {c o settings w} (hstart : Started s a c o settings)
    (hresult : operation options transport s a c o settings = (.ok (some []), w))
    (hwrite : ¬Unwritable (o.writeAll s.imprint w.journal.records).files [] a.out)
  | trail {c o settings result w path} (hstart : Started s a c o settings)
    (hresult : operation options transport s a c o settings = (result, w))
    (hdeclined : Declined result) (hout : a.out = some path)
    (htouches : c.audit.Touches s.clock s.files (FileTree.destination s.files.home path)
      w.journal.records)

end

/-! ## Conclusions -/

section
variable {r : Report σ} {before : FileTree} {out : Option Path} {cs : List Certificate}
  {comesTo : Except Failure (Option (List Certificate)) → Prop}
  {result : Except Failure (Option (List Certificate))}

/-- Where a fault escapes there is no exit status, so nothing is said. -/
theorem Report.faithful_of_escaped (h : r.ending.status? = none) :
    r.Faithful before out comesTo where
  wrote hstatus := nomatch h.symm.trans hstatus
  kept hstatus := nomatch h.symm.trans hstatus

/-- Certificates that can be written are what is written. -/
theorem written_deliver (h : ¬Unwritable r.output.files cs out) :
    (deliver out cs r).written out = .ok (cs.flatMap Certificate.toPem) := by
  have hdelivers := (delivers_deliver h).2
  cases out with
  | none =>
    have hascii : ∀ b ∈ cs.flatMap Certificate.toPem, b.toNat < 128 := by
      intro b hb
      obtain ⟨c, -, hb⟩ := List.mem_flatMap.1 hb
      exact c.ascii_toPem b hb
    have hprinted : (deliver none cs r).printed = _ := hdelivers
    rw [Report.written, hprinted, Octets.ofText_toLatin hascii]
  | some path =>
    have hnul : ¬path.hasNul := fun hnul => h ⟨path, rfl, .inl hnul⟩
    have hread : (deliver (some path) cs r).output.files.read path = _ := hdelivers
    rw [Report.written, readFile, if_neg hnul, hread]
    rfl

/-- Certificates that are written are faithful to a result unless there are none. -/
theorem faithful_deliver_iff (hending : r.ending = .success) :
    (deliver out cs r).Faithful before out (Except.ok (some cs) = ·) ↔
      ¬(cs = [] ∧ ¬Unwritable r.output.files cs out) := by
  by_cases hwrite : Unwritable r.output.files cs out
  · exact iff_of_true (Report.faithful_of_escaped (status?_deliver hwrite)) fun h => h.2 hwrite
  · have hstatus : (deliver out cs r).ending.status? = some 0 :=
      congrArg Ending.status? ((delivers_deliver hwrite).1.trans hending)
    have hwritten := written_deliver hwrite
    cases cs with
    | nil =>
      refine iff_of_false ?_ (not_not.2 ⟨rfl, hwrite⟩)
      intro h
      obtain ⟨_, text, -, htext, hstands⟩ := h.wrote hstatus
      rw [hwritten] at htext
      cases htext
      exact hstands.ne_nil rfl
    | cons c cs =>
      refine iff_of_true ⟨?_, ?_⟩ fun h => nomatch h.1
      · exact fun _ => ⟨_, _, rfl, hwritten, standsFor_flatMap_toPem c cs⟩
      · intro status h hne
        rw [hstatus] at h
        cases h
        exact absurd rfl hne

/-- A conclusion that has nothing to write and says so keeps the file exactly if it was kept. -/
theorem faithful_declined_iff {status : Nat} (hending : r.ending = .exit status)
    (hstatus : status ≠ 0) (hprinted : r.printed = "") :
    r.Faithful before out comesTo ↔ r.KeepsFile before out := by
  have hexit : r.ending.status? = some status := congrArg Ending.status? hending
  constructor
  · exact fun h => (h.kept hexit hstatus).2
  · intro hkept
    refine ⟨fun h => ?_, fun _ _ => ⟨hprinted, hkept⟩⟩
    rw [hexit] at h
    exact absurd (Option.some.inj h) hstatus

theorem Declined.faithful_iff (h : Declined result) (hdelay : NamesDelay result)
    (hprinted : r.printed = "") :
    (conclude out result r).Faithful before out (result = ·) ↔ r.KeepsFile before out := by
  cases h with
  | nothing => exact faithful_declined_iff rfl Nat.one_ne_zero hprinted
  | error e =>
    rw [conclude]
    simp only
    split
    · next hkind =>
      rw [if_pos (hdelay e rfl hkind)]
      exact faithful_declined_iff rfl (Nat.succ_ne_zero 1) hprinted
    · exact faithful_declined_iff rfl Nat.one_ne_zero hprinted

/-- What a conclusion writes is faithful to the result, or the result is an empty list that can be
written, or is declined with the file of the output changed already. -/
theorem faithful_conclude_iff (hending : r.ending = .success) (hprinted : r.printed = "")
    (hdelay : NamesDelay result) :
    (conclude out result r).Faithful before out (result = ·) ↔
      ¬(result = .ok (some []) ∧ ¬Unwritable r.output.files [] out ∨
        Declined result ∧ ¬r.KeepsFile before out) := by
  by_cases hdeclined : Declined result
  · have hne : result ≠ .ok (some []) := by
      rintro rfl
      cases hdeclined
    rw [hdeclined.faithful_iff hdelay hprinted]
    constructor
    · rintro hkept (⟨h, -⟩ | ⟨-, hchanged⟩)
      · exact hne h
      · exact hchanged hkept
    · intro h
      by_contra hchanged
      exact h (.inr ⟨hdeclined, hchanged⟩)
  · have hfaithful : (conclude out result r).Faithful before out (result = ·) ↔
        ¬(result = .ok (some []) ∧ ¬Unwritable r.output.files [] out) := by
      cases result with
      | ok certificates =>
        cases certificates with
        | none => exact absurd .nothing hdeclined
        | some cs =>
          have hdeliver : (conclude out (.ok (some cs)) r).Faithful before out _ ↔ _ :=
            faithful_deliver_iff hending
          rw [hdeliver, not_iff_not]
          constructor
          · rintro ⟨rfl, hwrite⟩
            exact ⟨rfl, hwrite⟩
          · rintro ⟨h, hwrite⟩
            cases h
            exact ⟨rfl, hwrite⟩
      | error failure =>
        cases failure with
        | client e => exact absurd (.error e) hdeclined
        | fault f =>
          refine iff_of_true (Report.faithful_of_escaped rfl) ?_
          rintro ⟨h, -⟩
          cases h
    rw [hfaithful, not_or]
    constructor
    · exact fun h => ⟨h, fun hchanged => hdeclined hchanged.1⟩
    · exact fun h => h.1

end

/-! ## Runs -/

section
variable {options : Configuration.Engine → Https.Options}
  {transport : Configuration.Engine → Https.Transport} {s : Setting} {a : Arguments}
  {c : Configuration} {o : Output} {settings : Settings}

/-- A run that does not come to its operation leaves everything as it is, or a fault escapes. -/
theorem faithful_of_not_started (hread : Arguments.read s.words = .ok a)
    (hstart : ¬∃ c o settings, Started s a c o settings)
    (comesTo : Except Failure (Option (List Certificate)) → Prop) :
    (run (https options transport) s).Faithful s.files a.out comesTo := by
  rw [run]
  simp only [hread]
  cases hconfiguration : configuration s a with
  | error fault =>
    simp only
    cases complaint? fault with
    | none => exact Report.faithful_of_escaped rfl
    | some text =>
      exact (faithful_declined_iff rfl Nat.one_ne_zero rfl).2 fun _ _ => rfl
  | ok c =>
    simp only
    cases houtput : ({ files := s.files } : Output).configure s.clock c.audit with
    | mk opened o =>
      cases opened with
      | error f => exact Report.faithful_of_escaped rfl
      | ok =>
        obtain ⟨settings, hsettings⟩ := exists_settings hconfiguration
        exact absurd ⟨c, o, settings, hconfiguration, houtput, hsettings⟩ hstart

/-- The file of the output is kept exactly if the trail does not touch it. -/
theorem Started.keepsFile_iff (h : Started s a c o settings) {rs : List Record} {ending : Ending}
    {reached : Option (Configuration × σ)} {out : Option Path} :
    Report.KeepsFile ⟨ending, "", o.writeAll s.imprint rs, reached⟩ s.files out ↔
      ∀ path, out = some path →
        ¬c.audit.Touches s.clock s.files (FileTree.destination s.files.home path) rs :=
  forall₂_congr fun _ _ => Output.content?_writeAll_iff h.output s.imprint rs _

theorem Started.unfaithful_iff (h : Started s a c o settings) :
    Unfaithful options transport s a ↔
      (operation options transport s a c o settings).1 = .ok (some []) ∧
        ¬Unwritable (o.writeAll s.imprint
          (operation options transport s a c o settings).2.journal.records).files [] a.out ∨
      Declined (operation options transport s a c o settings).1 ∧
        ∃ path, a.out = some path ∧
          c.audit.Touches s.clock s.files (FileTree.destination s.files.home path)
            (operation options transport s a c o settings).2.journal.records := by
  constructor
  · rintro (⟨h', hresult, hwrite⟩ | ⟨h', hresult, hdeclined, hout, htouches⟩)
    · obtain ⟨rfl, rfl, rfl⟩ := h.unique h'
      rw [hresult]
      exact .inl ⟨rfl, hwrite⟩
    · obtain ⟨rfl, rfl, rfl⟩ := h.unique h'
      rw [hresult]
      exact .inr ⟨hdeclined, _, hout, htouches⟩
  · rintro (⟨hresult, hwrite⟩ | ⟨hdeclined, path, hout, htouches⟩)
    · exact .empty h (Prod.ext hresult rfl) hwrite
    · exact .trail h rfl hdeclined hout htouches

/-- **When a run writes what its exit status says**: for all words that make sense, whatever
surrounds the run and whatever the server says, exactly if the run does not write out an empty list
of certificates, and if its trail, where there is nothing to write, does not touch the file of the
output. -/
theorem faithful_run_iff (hread : Arguments.read s.words = .ok a) :
    (run (https options transport) s).Faithful s.files a.out (ComesTo options transport s a) ↔
      ¬Unfaithful options transport s a := by
  by_cases hstart : ∃ c o settings, Started s a c o settings
  · obtain ⟨c, o, settings, hstart⟩ := hstart
    have hdelay : NamesDelay (operation options transport s a c o settings).1 := namesDelay_operate
    rw [hstart.run_eq hread, hstart.comesTo_eq, faithful_conclude_iff rfl rfl hdelay,
      hstart.keepsFile_iff, hstart.unfaithful_iff, not_forall]
    simp only [not_forall, not_not, exists_prop]
  · refine iff_of_true (faithful_of_not_started hread hstart _) ?_
    rintro (⟨h, -, -⟩ | ⟨h, -, -, -, -⟩)
    · exact hstart ⟨_, _, _, h⟩
    · exact hstart ⟨_, _, _, h⟩

/-- A run that fetches the certificates of the authority writes what it should if the server
delivers one. -/
theorem faithful_run_delivering :
    Arguments.read ["--server", "est", "cacerts"] = .ok ⟨none, some "est", none, none, .fetch⟩ ∧
    ¬Unfaithful (fun _ => {}) (fun _ => Https.delivering.engine)
      (sampleSetting ["--server", "est", "cacerts"]) ⟨none, some "est", none, none, .fetch⟩ ∧
    (run (https (fun _ => {}) fun _ => Https.delivering.engine)
      (sampleSetting ["--server", "est", "cacerts"])).Faithful {} none
      (ComesTo (fun _ => {}) (fun _ => Https.delivering.engine)
        (sampleSetting ["--server", "est", "cacerts"])
        ⟨none, some "est", none, none, .fetch⟩) := by
  have hread : Arguments.read (sampleSetting ["--server", "est", "cacerts"]).words =
      .ok ⟨none, some "est", none, none, .fetch⟩ := by
    decide +kernel
  have hprinted : (run (https (fun _ => {}) fun _ => Https.delivering.engine)
      (sampleSetting ["--server", "est", "cacerts"])).printed ≠ "" := by
    decide +kernel
  have hfaithful : ¬Unfaithful (fun _ => {}) (fun _ => Https.delivering.engine)
      (sampleSetting ["--server", "est", "cacerts"])
      ⟨none, some "est", none, none, .fetch⟩ := by
    rintro (⟨hstart, hresult, -⟩ | ⟨-, -, -, hout, -⟩)
    · rw [hstart.run_eq hread, hresult] at hprinted
      exact hprinted rfl
    · cases hout
  exact ⟨hread, hfaithful, (faithful_run_iff hread).2 hfaithful⟩

/-- If the server delivers none, the run writes out an empty text, and its exit status is 0. -/
theorem not_faithful_run_empty :
    Arguments.read ["--server", "est", "cacerts"] = .ok ⟨none, some "est", none, none, .fetch⟩ ∧
    ¬(run (https (fun _ => {}) fun _ => ⟨[], []⟩)
      (sampleSetting ["--server", "est", "cacerts"])).Faithful {} none
      (ComesTo (fun _ => {}) (fun _ => ⟨[], []⟩)
        (sampleSetting ["--server", "est", "cacerts"])
        ⟨none, some "est", none, none, .fetch⟩) := by
  have hstatus : (run (https (fun _ => {}) fun _ => ⟨[], []⟩)
      (sampleSetting ["--server", "est", "cacerts"])).ending.status? = some 0 := by
    decide +kernel
  have hprinted : (run (https (fun _ => {}) fun _ => ⟨[], []⟩)
      (sampleSetting ["--server", "est", "cacerts"])).printed = "" := by
    decide +kernel
  refine ⟨by decide +kernel, fun h => ?_⟩
  obtain ⟨_, text, -, htext, hstands⟩ := h.wrote hstatus
  rw [Report.written, hprinted] at htext
  cases htext
  exact hstands.ne_nil rfl

end

end CommandLine

end Enrollment
