import Enrollment.Engine.Scripted
import Enrollment.Proofs.Calls
import Enrollment.Proofs.Certificates

/-!
# Padding

A response may have NUL octets at its end. `Engine.padded` is an engine with some more of them
behind every response. Requests for certificates end as they do without the padding
(`Client.petition_padded`). The certificates of the authority are measured before the padding is
taken off, so they come out the same unless the padded response is too long: `Client.Overruns`
(`Client.step_padded_iff`).
-/

namespace Enrollment

/-- Octets with NULs behind them. -/
def Octets.padded (count : Nat) (bytes : Octets) : Octets := bytes ++ List.replicate count 0

/-- An engine with NULs behind every response. -/
def Engine.padded (E : Engine σ) (count : Nat) : Engine σ where
  answer restricted call t :=
    let (answer, t) := E.answer restricted call t
    ({ answer with result := answer.result.map (Option.map (Octets.padded count)) }, t)
  restrict := E.restrict

/-- Fetching the certificates of the authority is answered with a response that is too long with
NULs behind it. -/
inductive Client.Overruns (E : Engine σ) (c : Client) (settings : Settings) (engine : σ)
    (count : Nat) : Prop
  | intro {call bytes} (hcall : c.Calls settings.maxLength .fetch call)
    (hanswer : (E.answer settings.fips call engine).1.result = .ok (some bytes))
    (hcount : 0 < count) (hlong : settings.maxLength < bytes.length + count)

/-! ## Reading -/

section
variable {bytes : Octets} {count : Nat}

@[simp] theorem Octets.length_padded : (bytes.padded count).length = bytes.length + count := by
  rw [padded, List.length_append, List.length_replicate]

@[simp] theorem Octets.padded_zero : bytes.padded 0 = bytes := List.append_nil bytes

theorem Octets.isEmpty_padded (h : 0 < count) : (bytes.padded count).isEmpty = false := by
  rw [List.isEmpty_eq_false_iff, ← List.length_pos_iff, length_padded]
  exact Nat.add_pos_right _ h

@[simp] theorem Octets.dropTrailingNul_padded :
    (bytes.padded count).dropTrailingNul = bytes.dropTrailingNul :=
  dropTrailingNul_append_zeros bytes count

/-- A response reads the same with NULs behind it. -/
@[simp] theorem Reading.ofStream_padded :
    Reading.ofStream (bytes.padded count) = Reading.ofStream bytes := by
  have hview : (upTo none (bytes.padded count)).dropTrailingNul =
      (upTo none bytes).dropTrailingNul := Octets.dropTrailingNul_padded
  rw [ofStream, ofStream, hview]

@[simp] theorem responseOctets_padded (data : Option Octets) :
    responseOctets (data.map (Octets.padded count)) = responseOctets data := by
  cases data with
  | none => rfl
  | some bytes => exact Octets.dropTrailingNul_padded

/-- Whether a failure says that a response is too long. -/
def Failure.isTooLong : Failure → Bool
  | .client e => e.kind = .bufferSize
  | .fault _ => false

theorem readBlocks_not_tooLong {fuel index : Nat} :
    ∀ failure ∈ (readBlocks fuel index bytes).failure, failure.isTooLong = false := by
  induction fuel generalizing index bytes with
  | zero => rintro _ ⟨⟩
  | succ fuel ih =>
    rw [readBlocks]
    simp only
    split
    · rintro _ ⟨⟩
    · rintro _ ⟨⟩
      rfl
    · split
      · rintro _ ⟨⟩
        rfl
      · rintro _ ⟨⟩
        rfl
      · exact ih

theorem Reading.not_tooLong :
    ∀ failure ∈ (Reading.ofStream bytes).failure, failure.isTooLong = false := by
  rw [ofStream]
  split
  · split
    · rintro _ ⟨⟩
    · rintro _ ⟨⟩
      rfl
  · exact readBlocks_not_tooLong

/-- What cannot be read is not refused for its length. -/
theorem Reading.not_tooLong_of_toExcept {failure : Failure}
    (h : (Reading.ofStream bytes).toExcept = .error failure) : failure.isTooLong = false := by
  rw [toExcept] at h
  split at h
  · cases h
  · next hfailure =>
    cases h
    exact not_tooLong failure hfailure

theorem firstCertificate_not_tooLong {failure : Failure}
    (h : firstCertificate bytes = .error failure) : failure.isTooLong = false := by
  have hreading := @Reading.not_tooLong bytes
  rw [firstCertificate] at h
  cases hread : Reading.ofStream bytes with
  | mk certificates ended =>
    rw [hread] at h hreading
    cases certificates with
    | cons c more => cases h
    | nil =>
      cases ended with
      | some f =>
        cases h
        exact hreading _ rfl
      | none => cases h; rfl

end

/-! ## Requests for certificates -/

section
variable {E : Engine σ} {c : Client} {w : World σ} {count : Nat}

theorem World.call_padded {call : EngineCall} : World.call (E.padded count) w call =
    ((World.call E w call).1.map (Option.map (Octets.padded count)), (World.call E w call).2) := rfl

/-- What an answer means does not depend on the padding. -/
theorem concludeEnroll_padded {a : Action} {server : String} {maxLength : Nat}
    {answer : Except Failure (Option Octets)} :
    concludeEnroll a server maxLength (answer.map (Option.map (Octets.padded count))) w =
      concludeEnroll a server maxLength answer w := by
  cases answer with
  | error failure => rfl
  | ok data =>
    change interpretResponse a server maxLength (data.map (Octets.padded count)) w =
      interpretResponse a server maxLength data w
    simp only [interpretResponse, responseOctets_padded]

/-- **A request for a certificate ends as it does without the padding.** -/
theorem Client.petition_padded {p : Petition} {key : KeyValue} {asked : ModeValue}
    {disablePop : Bool} : c.petition (E.padded count) p key asked disablePop w =
      c.petition E p key asked disablePop w := by
  simp only [petition, World.call_padded, concludeEnroll_padded]

theorem Client.request_padded {p : Petition} {key : KeyValue} {asked : ModeValue}
    {disablePop : Bool} : c.request (E.padded count) p key asked disablePop w =
      c.request E p key asked disablePop w := by
  simp only [request, petition_padded]

/-! ## Certificates of the authority -/

section
variable {server : String} {maxLength : Nat} {bytes : Octets}

/-- A fetched response that is too long is refused for its length. -/
theorem concludeFetch_of_long (hbytes : bytes.isEmpty = false) (hlong : maxLength < bytes.length) :
    (concludeFetch server maxLength (.ok (some bytes)) w).1 =
      .error (.ofCause .bufferSize (.tooLong bytes.length maxLength)) := by
  simp only [concludeFetch, Option.getD_some, hbytes, Bool.false_eq_true, if_false, if_pos hlong]

/-- A fetched response that is short enough is not refused for its length. -/
theorem concludeFetch_not_tooLong (hfits : bytes.length ≤ maxLength) {failure : Failure}
    (h : (concludeFetch server maxLength (.ok (some bytes)) w).1 = .error failure) :
    failure.isTooLong = false := by
  simp only [concludeFetch, Option.getD_some, if_neg (Nat.not_lt.2 hfits)] at h
  split at h
  · cases h
  · split at h
    · next hfailure =>
      cases h
      exact Reading.not_tooLong_of_toExcept hfailure
    · cases h

/-- A fetched response that is short enough gives the same with the padding. -/
theorem concludeFetch_padded (hfits : bytes.length + count ≤ maxLength) :
    (concludeFetch server maxLength (.ok (some (bytes.padded count))) w).1 =
      (concludeFetch server maxLength (.ok (some bytes)) w).1 := by
  have hshort : ¬maxLength < bytes.length := by omega
  have hpadded : ¬maxLength < (bytes.padded count).length := by rwa [Octets.length_padded, not_lt]
  simp only [concludeFetch, Option.getD_some, if_neg hshort, if_neg hpadded,
    Reading.ofStream_padded]
  cases count with
  | zero => rw [Octets.padded_zero]
  | succ count =>
    rw [Octets.isEmpty_padded (Nat.succ_pos count)]
    cases bytes with
    | nil => rfl
    | cons => rfl

/-- What a fetched response comes to with the padding is the same, unless there is some padding
and the response is too long with it. -/
theorem concludeFetch_padded_iff :
    (concludeFetch server maxLength (.ok (some (bytes.padded count))) w).1 =
        (concludeFetch server maxLength (.ok (some bytes)) w).1 ↔
      ¬(0 < count ∧ maxLength < bytes.length + count) := by
  rcases Nat.eq_zero_or_pos count with rfl | hcount
  · rw [Octets.padded_zero]
    exact iff_of_true rfl fun h => Nat.lt_irrefl 0 h.1
  rw [← Octets.length_padded]
  rcases Nat.lt_or_ge maxLength (bytes.padded count).length with hlong | hfits
  · refine iff_of_false ?_ (not_not.2 ⟨hcount, hlong⟩)
    rw [concludeFetch_of_long (Octets.isEmpty_padded hcount) hlong]
    intro hsame
    rcases Nat.lt_or_ge maxLength bytes.length with hbefore | hbefore
    · have hbytes : bytes.isEmpty = false := by
        rw [List.isEmpty_eq_false_iff, ← List.length_pos_iff]
        exact Nat.zero_lt_of_lt hbefore
      rw [concludeFetch_of_long hbytes hbefore, Octets.length_padded] at hsame
      simp [Failure.ofCause] at hsame
      omega
    · cases concludeFetch_not_tooLong hbefore hsame.symm
  · refine iff_of_true (concludeFetch_padded ?_) fun h => Nat.not_lt.2 hfits h.2
    rwa [← Octets.length_padded]

end

/-- Fetching comes to the same with the padding, unless it overruns. -/
theorem Client.fetch_padded_iff :
    (c.store.fetch (E.padded count) w).1 = (c.store.fetch E w).1 ↔
      ¬c.Overruns E w.settings w.engine count := by
  by_cases hcalls : ∃ call, c.Calls w.settings.maxLength .fetch call
  · obtain ⟨call, hcall⟩ := hcalls
    obtain ⟨hcomplete, anchors, hanchors, rfl⟩ := Client.calls_fetch_iff.1 hcall
    have hoverruns : c.Overruns E w.settings w.engine count ↔
        ∃ bytes, (World.call E w (.caCertificates anchors c.store.endpoint c.store.srp
          w.settings.maxLength)).1 = .ok (some bytes) ∧
        0 < count ∧ w.settings.maxLength < bytes.length + count := by
      constructor
      · rintro ⟨hcall', hanswer, hcount, hlong⟩
        obtain ⟨-, anchors', hanchors', rfl⟩ := Client.calls_fetch_iff.1 hcall'
        cases hanchors.symm.trans hanchors'
        exact ⟨_, hanswer, hcount, hlong⟩
      · rintro ⟨bytes, hanswer, hcount, hlong⟩
        exact ⟨hcall, hanswer, hcount, hlong⟩
    simp only [Store.fetch, hcomplete, hanchors, Bool.not_true, Bool.false_eq_true, ↓reduceIte,
      World.call_padded, hoverruns]
    cases (World.call E w (.caCertificates anchors c.store.endpoint c.store.srp
      w.settings.maxLength)).1 with
    | error failure =>
      refine iff_of_true rfl ?_
      rintro ⟨_, ⟨⟩, -⟩
    | ok data =>
      cases data with
      | none =>
        refine iff_of_true rfl ?_
        rintro ⟨_, ⟨⟩, -⟩
      | some bytes =>
        refine concludeFetch_padded_iff.trans (not_congr ⟨fun h => ⟨bytes, rfl, h⟩, ?_⟩)
        rintro ⟨_, ⟨⟩, h⟩
        exact h
  · refine iff_of_true ?_ ?_
    · rw [Store.fetch, Store.fetch]
      simp only
      split
      · rfl
      · next hcomplete =>
        split
        · rfl
        · next anchors hanchors =>
          rw [Bool.not_eq_true, Bool.not_eq_false'] at hcomplete
          exact absurd ⟨_, .fetch hcomplete hanchors⟩ hcalls
    · rintro ⟨hcall, -, -, -⟩
      exact hcalls ⟨_, hcall⟩

/-- **What padding changes**: nothing of a request for a certificate, and of the certificates of
the authority nothing unless the padded response is too long. -/
theorem Client.step_padded_iff (E : Engine σ) (c : Client) (w : World σ) (count : Nat) :
    (∀ request key asked disablePop,
      c.step (E.padded count) (.enroll request key asked disablePop) w =
        c.step E (.enroll request key asked disablePop) w) ∧
    (∀ old key asked disablePop,
      c.step (E.padded count) (.reenroll old key asked disablePop) w =
        c.step E (.reenroll old key asked disablePop) w) ∧
    ((c.step (E.padded count) .fetch w).1 = (c.step E .fetch w).1 ↔
      ¬c.Overruns E w.settings w.engine count) := by
  refine ⟨fun request key asked disablePop => ?_, fun old key asked disablePop => ?_, ?_⟩
  · simp only [step, request_padded]
  · exact request_padded
  · rw [step_fetch, step_fetch, map_inj fun _ _ => StepResult.certificates.inj, fetch_padded_iff]

end

/-- A world whose engine answers with nothing, and takes no response of more than one octet. -/
def scantWorld : World Scripted.State :=
  { settings := { maxLength := 1 }, engine := ⟨[.ok (some [])], []⟩ }

/-- Nothing but padding is refused for its length, where nothing at all is not. -/
theorem Client.not_padded_nothing :
    (sampleClient.step (Scripted.engine none) .fetch scantWorld).1 = .ok (.certificates []) ∧
    (sampleClient.step ((Scripted.engine none).padded 2) .fetch scantWorld).1 =
      .error (.ofCause .bufferSize (.tooLong 2 1)) ∧
    (sampleClient.step ((Scripted.engine none).padded 2) .fetch scantWorld).1 ≠
      (sampleClient.step (Scripted.engine none) .fetch scantWorld).1 := by
  have hplain : (sampleClient.step (Scripted.engine none) .fetch scantWorld).1 =
      .ok (.certificates []) := rfl
  have hpadded : (sampleClient.step ((Scripted.engine none).padded 2) .fetch scantWorld).1 =
      .error (.ofCause .bufferSize (.tooLong 2 1)) := rfl
  refine ⟨hplain, hpadded, ?_⟩
  rw [hplain, hpadded]
  rintro ⟨⟩

end Enrollment
