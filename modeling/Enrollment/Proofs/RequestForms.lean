import Enrollment.Proofs.Deferral
import Enrollment.Proofs.Pem
import Enrollment.Proofs.Telling

/-!
# The forms of a signing request

A signing request can be passed as it is, as DER, as PEM, or as text: PEM or base64, with white
space around it (`SigningRequest.Form`). No form is taken for another, because DER opens with the
tag of a sequence and base64 holds no hyphen; and so every form reads as the request, and enrolling
with it is enrolling with the request, down to the octets that the engine gets
(`SigningRequest.forms_agree`).
-/

namespace Enrollment

open Der X509

/-! ## Text in white space -/

namespace Text

/-- A text with white space around it, or without. -/
inductive Surrounded (core : List Char) : String → Prop
  | intro {before after : List Char} (hbefore : ∀ c ∈ before, isBlank c)
    (hafter : ∀ c ∈ after, isBlank c) : Surrounded core (String.ofList (before ++ core ++ after))

/-- The white space around a text is trimmed, and nothing else, if the text neither begins nor ends
with some. -/
theorem Surrounded.trim_eq {core : List Char} {text : String} (h : Surrounded core text)
    (hfirst : ∀ c ∈ core.head?, isBlank c = false)
    (hlast : ∀ c ∈ core.getLast?, isBlank c = false) : trim text.toList = core := by
  obtain ⟨hbefore, hafter⟩ := h
  rename_i before after
  have hfront : (before ++ core ++ after).dropWhile isBlank =
      (core ++ after).dropWhile isBlank := by
    rw [List.append_assoc, List.dropWhile_append_of_pos hbefore]
  have hback : (core ++ after).rdropWhile isBlank = core := by
    have hcore : core.rdropWhile isBlank = core := by
      rw [List.rdropWhile_eq_self_iff]
      intro hne
      rw [hlast _ (List.getLast?_eq_some_getLast hne)]
      exact Bool.false_ne_true
    have hdrop : (core ++ after).rdropWhile isBlank = core.rdropWhile isBlank := by
      unfold List.rdropWhile
      rw [List.reverse_append, List.dropWhile_append_of_pos fun c hc =>
        hafter c (List.mem_reverse.1 hc)]
    rw [hdrop, hcore]
  rw [String.toList_ofList, trim, trimBy_eq, hfront]
  cases core with
  | nil =>
    rw [List.nil_append, List.dropWhile_eq_nil_iff.2 hafter]
    rfl
  | cons c more =>
    have hc : ¬isBlank c = true := by simp [hfirst c rfl]
    rw [List.cons_append, List.dropWhile_cons_of_neg hc]
    exact hback

end Text

/-! ## Base64 text -/

namespace Base64

/-- No letter is white space. -/
theorem isBlank_of_isLetter {b : UInt8} (h : isLetter b = true) :
    Text.isBlank (Char.ofNat b.toNat) = false := by
  have hlow := (bounds_of_isLetter h).1
  rw [Text.isBlank, Pem.isWhiteSpace_of_isLetter h, Octets.toNat_ofNat_toNat, Bool.false_or,
    Bool.and_eq_false_iff]
  right
  exact decide_eq_false (by omega)

/-- White space around base64 text is trimmed. -/
theorem trim_of_surrounded {data : Octets} {text : String}
    (h : Text.Surrounded (encode data).toLatin text) :
    Text.trim text.toList = (encode data).toLatin := by
  have hblank : ∀ c ∈ (encode data).toLatin, Text.isBlank c = false := by
    intro c hc
    obtain ⟨b, hb, rfl⟩ := List.mem_map.1 hc
    exact isBlank_of_isLetter (mem_encode hb)
  exact h.trim_eq (fun c hc => hblank c (List.mem_of_mem_head? hc))
    fun c hc => hblank c (List.mem_of_mem_getLast? hc)

/-- The text of octets does not begin with the fill. -/
theorem head?_encode_ne_pad (data : Octets) : ((encode data).head? == some pad) = false := by
  have hdigit {n : Nat} (h : n < 64) : (some (digit n) == some pad) = false := digit_ne_pad n h
  fun_cases encode data with
  | case1 => rfl
  | case2 a => exact hdigit (first_lt a)
  | case3 a b => exact hdigit (first_lt a)
  | case4 a b c rest => exact hdigit (first_lt a)

/-- What is written is read back from characters. -/
theorem readChars_encode (data : Octets) : readChars (encode data).toLatin = .ok data := by
  have hall := Octets.all_toLatin fun b hb => (bounds_of_isLetter (@mem_encode b data hb)).2.1
  rw [readChars, if_pos hall, Octets.map_toLatin, readStrict, head?_encode_ne_pad]
  exact readFrom_encode true data 0

end Base64

/-! ## Reading each form -/

namespace SigningRequest

/-- The values that a signing request can be passed as. The line feed at the end of a PEM text is
white space like any other. -/
inductive Form (r : SigningRequest) : RequestValue → Prop
  | object : Form r (.request r)
  | der : Form r (.plain (.octets r.der))
  | pem : Form r (.plain (.octets r.toPem))
  | pemText {core : List Char} {text : String} (hcore : core ++ ['\n'] = r.toPem.toLatin)
    (htext : Text.Surrounded core text) : Form r (.plain (.text text))
  | base64Text {text : String} (htext : Text.Surrounded (Base64.encode r.der).toLatin text) :
    Form r (.plain (.text text))

variable {r : SigningRequest}

/-- PEM opens with a hyphen. -/
theorem not_pemStart_of_head? {bytes : Octets} (h : ∀ b ∈ bytes.head?, b ≠ 45) :
    pemStart.isPrefixOf bytes = false := by
  cases hprefix : pemStart.isPrefixOf bytes with
  | false => rfl
  | true =>
    obtain ⟨rest, rfl⟩ := List.isPrefixOf_iff_prefix.1 hprefix
    exact absurd rfl (h 45 rfl)

/-- DER opens with the tag of a sequence. -/
theorem head?_der (r : SigningRequest) : r.der.head? = some tagSequence := by
  have hreads := r.reads
  rw [RequestContent.ofDer] at hreads
  split at hreads
  · cases hreads
  · next hoctets =>
    obtain ⟨e, he, hparts⟩ := Option.bind_eq_some_iff.1 hoctets
    obtain ⟨parts, hparts, -⟩ := Option.bind_eq_some_iff.1 hparts
    have hder : r.der = (Element.make tagSequence (parts.flatMap Element.encode)).encode :=
      calc r.der = e.encode := (Element.eq_encode_of_readOne he).1
        _ = _ := congrArg Element.encode (Element.eq_make_of_partsOf? hparts)
    simp only [hder, Element.encode, Element.make, List.cons_append, List.head?_cons]

theorem ofOctets_der (r : SigningRequest) : ofOctets r.der = .ok r := by
  have hstart : pemStart.isPrefixOf r.der = false := by
    refine not_pemStart_of_head? ?_
    rw [head?_der]
    rintro _ ⟨⟩
    decide
  rw [ofOctets, hstart]
  simp only [Bool.false_eq_true, if_false, ofDer_der, Except.mapError]

/-- A PEM text reads with blanks behind it, and without the line feed at its end. -/
theorem ofOctets_block (r : SigningRequest) {tail : Octets}
    (htail : tail.dropWhile Pem.isFiller = []) :
    ofOctets (Pem.block label r.der ++ tail) = .ok r := by
  have hstart : pemStart.isPrefixOf (Pem.block label r.der ++ tail) = true := rfl
  rw [ofOctets, if_pos hstart, ofPem,
    Pem.find?_block (by decide) r.der tail htail (by decide : label ∈ labels)]
  simp only [ofDer_der, Except.mapError]

theorem ofText_block {text : String}
    (htext : Text.Surrounded (Pem.block label r.der).toLatin text) : ofText text = .ok r := by
  have htrim : Text.trim text.toList = (Pem.block label r.der).toLatin := by
    refine htext.trim_eq ?_ ?_
    · rintro _ ⟨⟩
      decide
    · have hend : (Pem.block label r.der).getLast? = some 45 := by
        have hblock : Pem.block label r.der = Pem.beginLine label ++ (10 :: (Pem.bodyLines r.der ++
            (Pem.endMark ++ label ++ [45, 45, 45, 45]))) ++ [45] := by
          simp [Pem.block, Pem.endLine, Pem.dashes, Octets.ofAscii]
        rw [hblock, List.getLast?_concat]
      rw [Octets.toLatin, List.getLast?_map, hend]
      rintro _ ⟨⟩
      decide
  have hoctets : Octets.ofChars (Pem.block label r.der).toLatin = Pem.block label r.der :=
    Octets.ofChars_toLatin (Pem.ascii_block (by decide))
  have hstart : pemStart.isPrefixOf (Pem.block label r.der) = true := rfl
  rw [ofText, htrim]
  simp only [hoctets, hstart, if_true]
  simpa using ofOctets_block r (List.dropWhile_nil)

theorem ofText_base64 {text : String}
    (htext : Text.Surrounded (Base64.encode r.der).toLatin text) : ofText text = .ok r := by
  have hoctets : Octets.ofChars (Base64.encode r.der).toLatin = Base64.encode r.der :=
    Octets.ofChars_toLatin fun b hb => (Base64.bounds_of_isLetter (Base64.mem_encode hb)).2.1
  have hstart : pemStart.isPrefixOf (Base64.encode r.der) = false :=
    not_pemStart_of_head? fun b hb =>
      (Base64.bounds_of_isLetter (Base64.mem_encode (List.mem_of_mem_head? hb))).2.2
  rw [ofText, Base64.trim_of_surrounded htext]
  simp only [hoctets, hstart, Bool.false_eq_true, if_false, Base64.readChars_encode]
  exact ofOctets_der r

/-- Every form that has to be read reads as the request. -/
theorem Form.ofValue_eq {v : Value} (h : r.Form (.plain v)) : ofValue v = .ok r := by
  cases h with
  | der => exact ofOctets_der r
  | pem =>
    rw [toPem, Pem.encode_eq]
    exact ofOctets_block r rfl
  | @pemText core text hcore htext =>
    have hpem : r.toPem.toLatin = (Pem.block label r.der).toLatin ++ ['\n'] := by
      rw [toPem, Pem.encode_eq, Octets.toLatin, List.map_append]
      rfl
    obtain rfl := List.append_cancel_right (hcore.trans hpem)
    exact ofText_block htext
  | base64Text htext => exact ofText_base64 htext

theorem Form.toObject_eq {value : RequestValue} (h : r.Form value) :
    value.toObject = .ok (.request r) := by
  cases value with
  | request q =>
    cases h
    rfl
  | unencodable => cases h
  | plain v => exact map_eq_ok_iff.2 ⟨r, h.ofValue_eq, rfl⟩

end SigningRequest

/-! ## Enrolling with each form -/

section
variable {E : Engine σ} {c : Client} {w : World σ} {value : RequestValue} {key : KeyValue}
  {asked : ModeValue} {disablePop : Bool} {call : EngineCall}

/-- What a request is read as is all of it that counts. -/
theorem Client.step_enroll_congr {other : RequestValue} {object : RequestObject}
    (h : value.toObject = .ok object) (hother : other.toObject = .ok object) :
    c.step E (.enroll value key asked disablePop) w =
      c.step E (.enroll other key asked disablePop) w := by
  rw [step_enroll_read h, step_enroll_read hother]

/-- The engine gets the request as it is written. -/
theorem Client.payload_of_calls {maxLength : Nat} {r : SigningRequest}
    (h : value.toObject = .ok (.request r))
    (hcall : c.Calls maxLength (.enroll value key asked disablePop) call) :
    ∃ request arguments, call = .certificate .enroll request arguments ∧
      request.payload = r.der := by
  cases hcall with
  | enroll hread _ _ _ hcall =>
    cases h.symm.trans hread
    obtain ⟨anchors, privateKey, payload, arguments, -, -, hpayload, -, rfl⟩ :=
      Store.prepare_eq_ok hcall
    cases hpayload
    exact ⟨_, arguments, rfl, rfl⟩

/-- **All forms are one request.** Each one reads as it, and enrolling with it is enrolling with the
request itself: the same comes of it, after the same call of the engine, with the request as it is
written. -/
theorem SigningRequest.forms_agree (r : SigningRequest) {value : RequestValue}
    (h : r.Form value) :
    (∀ v, value = .plain v → ofValue v = .ok r) ∧ value.toObject = .ok (.request r) ∧
    ∀ {σ : Type} (E : Engine σ) (c : Client) (w : World σ) (key : KeyValue) (asked : ModeValue)
      (disablePop : Bool),
      c.step E (.enroll value key asked disablePop) w =
        c.step E (.enroll (.request r) key asked disablePop) w ∧
      c.made E w (.enroll value key asked disablePop) =
        c.made E w (.enroll (.request r) key asked disablePop) ∧
      ∀ call ∈ c.made E w (.enroll value key asked disablePop), ∃ request arguments,
        call = .certificate .enroll request arguments ∧ request.payload = r.der := by
  have hread := h.toObject_eq
  refine ⟨?_, hread, fun E c w key asked disablePop => ⟨?_, ?_, ?_⟩⟩
  · rintro v rfl
    exact h.ofValue_eq
  · exact Client.step_enroll_congr hread rfl
  · show (c.step E.recorded _ (w.record [])).2.2.engine.2 = _
    rw [c.step_enroll_congr hread (rfl : (RequestValue.request r).toObject = _)]
    rfl
  · intro call hcall
    exact Client.payload_of_calls hread (Client.mem_made_iff.1 hcall)

end

/-- The base64 text of a request between line ends. -/
def sampleRequestText : String :=
  String.ofList (['\n'] ++ (Base64.encode Https.sampleRequest).toLatin ++ ['\r', '\n'])

/-- An enrolment with a text reaches the engine with the octets that the text spells. -/
theorem SigningRequest.forms_agree_text : ∃ r : SigningRequest,
    r.der = Https.sampleRequest ∧ r.Form (.plain (.text sampleRequestText)) ∧
    ∃ request arguments, Https.sampleClient.made (Https.engine {}) (Https.deferring "120")
        (.enroll (.plain (.text sampleRequestText)) (.secret Https.sampleKey) (.mode .http) false) =
      [.certificate .enroll request arguments] ∧ request.payload = Https.sampleRequest := by
  have hreads : (SigningRequest.ofDer Https.sampleRequest).isOk = true := by decide +kernel
  obtain ⟨r, hr⟩ : ∃ r, SigningRequest.ofDer Https.sampleRequest = .ok r := by
    cases hr : SigningRequest.ofDer Https.sampleRequest with
    | ok r => exact ⟨r, rfl⟩
    | error fault =>
      rw [hr] at hreads
      cases hreads
  have hder := SigningRequest.der_of_ofDer hr
  have hform : r.Form (.plain (.text sampleRequestText)) := by
    rw [sampleRequestText, ← hder]
    refine .base64Text (.intro ?_ ?_)
    · exact List.forall_mem_singleton.2 rfl
    · exact List.forall_mem_cons.2 ⟨rfl, List.forall_mem_singleton.2 rfl⟩
  have hder_form : r.Form (.plain (.octets Https.sampleRequest)) := by
    rw [← hder]
    exact .der
  obtain ⟨-, -, htext⟩ := r.forms_agree hform
  obtain ⟨-, hmade, hpayload⟩ := htext (Https.engine {}) Https.sampleClient (Https.deferring "120")
    (.secret Https.sampleKey) (.mode .http) false
  obtain ⟨-, -, hoctets⟩ := r.forms_agree hder_form
  obtain ⟨-, hsame, -⟩ := hoctets (Https.engine {}) Https.sampleClient (Https.deferring "120")
    (.secret Https.sampleKey) (.mode .http) false
  have hcalls : (Https.sampleClient.made (Https.engine {}) (Https.deferring "120")
      Https.sampleStep).length = 1 := by decide +kernel
  obtain ⟨call, hcall⟩ := List.length_eq_one_iff.1 hcalls
  rw [(hmade.trans hsame.symm).trans hcall] at hpayload ⊢
  obtain ⟨request, arguments, rfl, hrequest⟩ := hpayload call (List.mem_singleton.2 rfl)
  exact ⟨r, hder, hform, request, arguments, rfl, hrequest.trans hder⟩

end Enrollment
