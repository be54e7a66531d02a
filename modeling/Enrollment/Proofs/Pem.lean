import Enrollment.Pem
import Enrollment.Proofs.Base64
import Enrollment.Proofs.Spelling

/-!
# PEM sections read back

`Pem.encode` writes a BEGIN line, base64 in lines of 64 characters and an END line. Between the
two lines stand only letters of base64 and line feeds, no line is empty, and no hyphen occurs, so
every mark that the reader looks for is found where it was written. `find?_block` is the round
trip for a block with blanks behind it.
-/

namespace Enrollment

namespace Octets

/-! ## Runs of ASCII -/

/-- ASCII octets spell the characters of the same numbers. -/
theorem utf8Chars?_ascii {bytes : Octets} (h : ∀ b ∈ bytes, b.toNat < 128) :
    utf8Chars? bytes = some bytes.toLatin := by
  unfold utf8Chars? toLatin
  induction bytes with
  | nil => rfl
  | cons b rest ih =>
    have hb : b < 0x80 := UInt8.lt_iff_toNat_lt.2 (h b (.head _))
    have hfront : utf8Front b rest = .char (Char.ofNat b.toNat) 1 := if_pos hb
    rw [utf8CharsFrom, hfront]
    simp only [Nat.sub_self, ih fun c hc => h c (.tail _ hc), Option.map_some, List.map_cons]

/-- The number of the character of an octet. -/
theorem toNat_ofNat_toNat (b : UInt8) : (Char.ofNat b.toNat).toNat = b.toNat := by
  have hb := b.toNat_lt
  exact toNat_charOfNat (.inl (by omega))

/-- ASCII octets are the UTF-8 spelling of the characters of the same numbers. -/
theorem ofChars_toLatin {bytes : Octets} (h : ∀ b ∈ bytes, b.toNat < 128) :
    ofChars bytes.toLatin = bytes := by
  induction bytes with
  | nil => rfl
  | cons b bytes ih =>
    obtain ⟨hb, hmore⟩ := List.forall_mem_cons.1 h
    have hchar : ofChar (Char.ofNat b.toNat) = [b] := by
      rw [ofChar]
      simp only [toNat_ofNat_toNat, hb, if_true, UInt8.ofNat_toNat]
    rw [toLatin, List.map_cons, ofChars, List.flatMap_cons, hchar]
    exact congrArg (b :: ·) (ih hmore)

/-- The numbers of the characters are the octets. -/
theorem map_toLatin (bytes : Octets) :
    bytes.toLatin.map (fun c => UInt8.ofNat c.toNat) = bytes := by
  rw [toLatin, List.map_map]
  refine (List.map_congr_left fun b _ => ?_).trans (List.map_id _)
  simp only [Function.comp_apply, toNat_ofNat_toNat, UInt8.ofNat_toNat, id]

theorem all_toLatin {bytes : Octets} (h : ∀ b ∈ bytes, b.toNat < 128) :
    bytes.toLatin.all (·.toNat < 128) = true := by
  rw [List.all_eq_true]
  intro c hc
  obtain ⟨b, hb, rfl⟩ := List.mem_map.1 hc
  rw [toNat_ofNat_toNat]
  exact decide_eq_true (h b hb)

/-! ## Pieces -/

/-- The pieces of a run are the run. -/
theorem flatten_chunks (width : Nat) (bytes : Octets) : (bytes.chunks width).flatten = bytes := by
  have hgo : ∀ (fuel : Nat) (rest : Octets), (chunks.go width fuel rest).flatten = rest := by
    intro fuel
    induction fuel with
    | zero => intro rest; cases rest <;> simp [chunks.go]
    | succ fuel ih =>
      intro rest
      cases rest with
      | nil => simp [chunks.go]
      | cons b more => simp only [chunks.go, List.flatten_cons, ih, List.take_append_drop]
  exact hgo _ _

/-- No piece is empty. -/
theorem ne_nil_of_mem_chunks {width : Nat} (hwidth : 0 < width) {bytes piece : Octets}
    (h : piece ∈ bytes.chunks width) : piece ≠ [] := by
  have hgo : ∀ (fuel : Nat) (rest : Octets), piece ∈ chunks.go width fuel rest → piece ≠ [] := by
    intro fuel
    induction fuel with
    | zero =>
      intro rest hmem
      cases rest with
      | nil => simp [chunks.go] at hmem
      | cons b more => simp [chunks.go] at hmem; simp [hmem]
    | succ fuel ih =>
      intro rest hmem
      cases rest with
      | nil => simp [chunks.go] at hmem
      | cons b more =>
        simp only [chunks.go, List.mem_cons] at hmem
        rcases hmem with rfl | hmem
        · obtain ⟨width, rfl⟩ := Nat.exists_eq_add_of_lt hwidth
          simp
        · exact ih _ hmem
  exact hgo _ _ h

end Octets

namespace Pem

/-! ## Looking for a mark -/

section
variable {marker before rest : Octets}

/-- What holds no beginning of the mark is passed over. -/
theorem seekFrom_append {first : UInt8} {more : Octets} (h : ∀ b ∈ before, b ≠ first) :
    seekFrom (first :: more) (first :: more) (before ++ rest) =
      (seekFrom (first :: more) (first :: more) rest).map fun (passed, rest) =>
        (before ++ passed, rest) := by
  induction before with
  | nil => simp
  | cons b before ih =>
    have hb : (b == first) = false := by simpa using h b (.head _)
    rw [List.cons_append, seekFrom, hb]
    simp only [Bool.false_eq_true, if_false, ih fun c hc => h c (.tail _ hc), Option.map_map]
    rfl

/-- What is left of a mark is found at the front of a run. -/
theorem seekFrom_self (marker pending rest : Octets) :
    seekFrom marker pending (pending ++ rest) = some (pending, rest) := by
  induction pending with
  | nil => cases rest <;> rfl
  | cons p pending ih =>
    rw [List.cons_append, seekFrom]
    simp only [beq_self_eq_true, if_true, ih, Option.map_some]

/-- A mark is found behind a run in which nothing begins it. -/
theorem seek_append {first : UInt8} {more : Octets} (h : ∀ b ∈ before, b ≠ first) :
    seek (first :: more) (before ++ (first :: more ++ rest)) = some (before, rest) := by
  rw [seek, seekFrom_append h, seekFrom_self]
  simp

/-- A mark that begins with a hyphen is found behind a run without hyphens. -/
theorem seek_dash {mark : Octets} (hmark : mark.head? = some 45) (h : ∀ b ∈ before, b ≠ 45) :
    seek mark (before ++ (mark ++ rest)) = some (before, rest) := by
  obtain ⟨more, rfl⟩ := List.head?_eq_some_iff.1 hmark
  exact seek_append h

/-- A mark is not found where nothing begins it. -/
theorem seek_eq_none {first : UInt8} {more bytes : Octets} (h : ∀ b ∈ bytes, b ≠ first) :
    seek (first :: more) bytes = none := by
  have happend : seekFrom (first :: more) (first :: more) (bytes ++ []) = _ := seekFrom_append h
  rw [List.append_nil] at happend
  rw [seek, happend]
  rfl

end

/-! ## The lines between the two marks -/

/-- The base64 lines of a section. -/
def bodyLines (data : Octets) : Octets := ofLines ((Base64.encode data).chunks lineWidth)

/-- A section without the line feed at its end. -/
def block (label data : Octets) : Octets :=
  beginLine label ++ (10 :: (bodyLines data ++ endLine label))

/-- A section is its block and a line feed. -/
theorem encode_eq (label data : Octets) : encode label data = block label data ++ [10] := by
  simp [encode, block, bodyLines, ofLines]

/-- A line of base64: letters, and at least one. -/
def IsLine (line : Octets) : Prop := line ≠ [] ∧ ∀ b ∈ line, Base64.isLetter b = true

theorem isLine_of_mem_chunks {data line : Octets}
    (h : line ∈ (Base64.encode data).chunks lineWidth) : IsLine line := by
  refine ⟨Octets.ne_nil_of_mem_chunks (by decide) h, fun b hb => ?_⟩
  have hmem : b ∈ ((Base64.encode data).chunks lineWidth).flatten :=
    List.mem_flatten.2 ⟨line, h, hb⟩
  rw [Octets.flatten_chunks] at hmem
  exact Base64.mem_encode hmem

/-- Lines hold letters and line feeds. -/
theorem mem_ofLines {lines : List Octets} (h : ∀ line ∈ lines, IsLine line) {b : UInt8}
    (hb : b ∈ ofLines lines) : Base64.isLetter b = true ∨ b = 10 := by
  rw [ofLines, List.mem_flatMap] at hb
  obtain ⟨line, hline, hb⟩ := hb
  rcases List.mem_append.1 hb with hb | hb
  · exact .inl ((h line hline).2 b hb)
  · exact .inr (by simpa using hb)

/-- Between the two marks stand letters and line feeds. -/
theorem mem_bodyLines {data : Octets} {b : UInt8} (h : b ∈ bodyLines data) :
    Base64.isLetter b = true ∨ b = 10 :=
  mem_ofLines (fun _ => isLine_of_mem_chunks) h

theorem bounds_of_mem_bodyLines {data : Octets} {b : UInt8} (h : b ∈ bodyLines data) :
    b.toNat < 128 ∧ b ≠ 45 ∧ b ≠ 13 := by
  rcases mem_bodyLines h with hb | rfl
  · obtain ⟨hlow, hhigh, hdash⟩ := Base64.bounds_of_isLetter hb
    refine ⟨hhigh, hdash, ?_⟩
    rintro rfl
    exact absurd hlow (by decide)
  · decide

/-- Without the line feeds, the lines are the base64 text. -/
theorem filter_bodyLines {data : Octets} (p : UInt8 → Bool)
    (hletter : ∀ b, Base64.isLetter b = true → p b = true) (hfeed : p 10 = false) :
    (bodyLines data).filter p = Base64.encode data := by
  have hlines : ∀ lines : List Octets, (∀ line ∈ lines, IsLine line) →
      (ofLines lines).filter p = lines.flatten := by
    intro lines h
    induction lines with
    | nil => rfl
    | cons line lines ih =>
      have hline : line.filter p = line :=
        List.filter_eq_self.2 fun b hb => hletter b ((h line (.head _)).2 b hb)
      have htail := ih fun l hl => h l (.tail _ hl)
      rw [ofLines] at htail ⊢
      rw [List.flatMap_cons, List.filter_append, htail, List.filter_append, hline]
      simp [hfeed]
  rw [bodyLines, hlines _ fun _ => isLine_of_mem_chunks, Octets.flatten_chunks]

/-- The lines do not begin with a blank. -/
theorem dropWhile_bodyLines (data : Octets) {more : Octets}
    (hmore : more.dropWhile isFiller = more) :
    (10 :: (bodyLines data ++ more)).dropWhile isFiller = bodyLines data ++ more := by
  rw [List.dropWhile_cons_of_pos (by decide)]
  cases hlines : (Base64.encode data).chunks lineWidth with
  | nil => simp only [bodyLines, hlines, ofLines, List.flatMap_nil, List.nil_append, hmore]
  | cons line lines =>
    obtain ⟨hne, hletters⟩ : IsLine line := isLine_of_mem_chunks (by rw [hlines]; exact .head _)
    obtain ⟨b, letters, rfl⟩ := List.exists_cons_of_ne_nil hne
    have hlow := (Base64.bounds_of_isLetter (hletters b (.head _))).1
    have hb : isFiller b = false := by
      cases hfiller : isFiller b with
      | false => rfl
      | true =>
        simp only [isFiller, Bool.or_eq_true, beq_iff_eq] at hfiller
        rcases hfiller with ((rfl | rfl) | rfl) | rfl <;> exact absurd hlow (by decide)
    simp only [bodyLines, hlines, ofLines, List.flatMap_cons, List.cons_append]
    exact List.dropWhile_cons_of_neg (by simp [hb])

/-- Among lines there is no empty one, neither right away nor after a line feed. -/
theorem seekFrom_ofLines {lines : List Octets} (h : ∀ line ∈ lines, IsLine line) :
    seekFrom [10, 10] [10, 10] (ofLines lines) = none ∧
      seekFrom [10, 10] [10] (ofLines lines) = none := by
  induction lines with
  | nil => exact ⟨rfl, rfl⟩
  | cons line lines ih =>
    obtain ⟨hne, hletters⟩ := h line (.head _)
    have hfeed : ∀ b ∈ line, b ≠ 10 := by
      rintro b hb rfl
      exact absurd (hletters _ hb) (by decide)
    have htail := (ih fun l hl => h l (.tail _ hl)).2
    have hline : ofLines (line :: lines) = line ++ 10 :: ofLines lines := by simp [ofLines]
    have hfirst : seekFrom [10, 10] [10, 10] (ofLines (line :: lines)) = none := by
      rw [hline, seekFrom_append hfeed, seekFrom]
      simp only [beq_self_eq_true, if_true, htail, Option.map_none]
    refine ⟨hfirst, ?_⟩
    -- the first letter of the line breaks the match off, and then the mark is looked for anew
    obtain ⟨b, more, rfl⟩ := List.exists_cons_of_ne_nil hne
    have hb : (b == 10) = false := by simpa using hfeed b (.head _)
    rw [hline, List.cons_append, seekFrom] at hfirst ⊢
    simpa only [hb, Bool.false_eq_true, if_false] using hfirst

/-- There are no headers in front of the lines. -/
theorem splitBody_bodyLines (data : Octets) :
    splitBody (bodyLines data) = ([], bodyLines data) := by
  have hfeeds : seek [10, 10] (bodyLines data) = none := by
    rw [seek, bodyLines, (seekFrom_ofLines fun _ => isLine_of_mem_chunks).1]
    rfl
  have hreturns : seek [13, 10, 13, 10] (bodyLines data) = none :=
    seek_eq_none fun b hb => (bounds_of_mem_bodyLines hb).2.2
  rw [splitBody, hfeeds, hreturns]
  rfl

/-- No letter is white space. -/
theorem isWhiteSpace_of_isLetter {b : UInt8} (h : Base64.isLetter b = true) :
    Text.isWhiteSpace (Char.ofNat b.toNat) = false := by
  obtain ⟨hlow, hhigh, -⟩ := Base64.bounds_of_isLetter h
  unfold Text.isWhiteSpace
  simp only [Octets.toNat_ofNat_toNat, Bool.or_eq_false_iff, Bool.and_eq_false_iff,
    decide_eq_false_iff_not, beq_eq_false_iff_ne]
  omega

/-- The lines spell the octets. -/
theorem data?_bodyLines (data : Octets) : data? (bodyLines data) = some data := by
  have hascii : ∀ b ∈ bodyLines data, b.toNat < 128 := fun b hb => (bounds_of_mem_bodyLines hb).1
  have hfilter : (bodyLines data).toLatin.filter (fun c => !Text.isWhiteSpace c) =
      (Base64.encode data).toLatin := by
    rw [Octets.toLatin, List.filter_map,
      filter_bodyLines _ (fun b hb => by simp [isWhiteSpace_of_isLetter hb]) (by decide)]
    rfl
  have hall : (Base64.encode data).toLatin.all (·.toNat < 128) = true :=
    Octets.all_toLatin fun b hb => (Base64.bounds_of_isLetter (Base64.mem_encode hb)).2.1
  rw [data?, Octets.utf8Chars?_ascii hascii]
  simp only [Option.bind_eq_bind, Option.bind_some, hfilter, hall, if_true, Octets.map_toLatin,
    Base64.canonical?_encode]

/-! ## A whole section -/

/-- What may stand as a label: something, in ASCII, without hyphens. -/
def isLabel (label : Octets) : Bool := !label.isEmpty && label.all fun b => b != 45 && b < 128

section
variable {label : Octets}

theorem isLabel_ne_dash (h : isLabel label = true) : ∀ b ∈ label, b ≠ 45 := by
  rw [isLabel, Bool.and_eq_true, List.all_eq_true] at h
  intro b hb
  have := h.2 b hb
  simp only [Bool.and_eq_true, bne_iff_ne] at this
  exact this.1

theorem isLabel_ascii (h : isLabel label = true) : ∀ b ∈ label, b.toNat < 128 := by
  rw [isLabel, Bool.and_eq_true, List.all_eq_true] at h
  intro b hb
  have := h.2 b hb
  simp only [Bool.and_eq_true, decide_eq_true_eq] at this
  exact UInt8.lt_iff_toNat_lt.1 this.2

/-- A block is ASCII. -/
theorem ascii_block (h : isLabel label = true) {data : Octets} :
    ∀ b ∈ block label data, b.toNat < 128 := by
  have hmarks : ∀ b ∈ beginMark ++ endMark ++ dashes, b.toNat < 128 := by decide +kernel
  have hlabel := isLabel_ascii h
  intro b hb
  simp only [block, beginLine, endLine, List.mem_append, List.mem_cons] at hb hmarks
  obtain ((hb | hb) | hb) | rfl | hb | (hb | hb) | hb := hb
  · exact hmarks b (.inl (.inl hb))
  · exact hlabel b hb
  · exact hmarks b (.inr hb)
  · decide
  · exact (bounds_of_mem_bodyLines hb).1
  · exact hmarks b (.inl (.inr hb))
  · exact hlabel b hb
  · exact hmarks b (.inr hb)

/-- The parts of a block are its label, its lines and its label again. -/
theorem firstParts_block (h : isLabel label = true) (data tail : Octets)
    (htail : tail.dropWhile isFiller = []) :
    firstParts (block label data ++ tail) = some (label, bodyLines data, label, []) := by
  have hdash := isLabel_ne_dash h
  have hbody : ∀ b ∈ bodyLines data, b ≠ 45 := fun b hb => (bounds_of_mem_bodyLines hb).2.1
  have hblock : block label data ++ tail =
      [] ++ (beginMark ++ (label ++ (dashes ++ (10 :: (bodyLines data ++
        (endMark ++ (label ++ (dashes ++ tail)))))))) := by
    simp [block, beginLine, endLine, List.append_assoc]
  have hmark : ∀ more : Octets, (endMark ++ more).dropWhile isFiller = endMark ++ more :=
    fun _ => rfl
  rw [firstParts, hblock, seek_dash rfl (by simp)]
  simp only [Option.bind_eq_bind, Option.bind_some]
  rw [seek_dash rfl hdash]
  simp only [Option.bind_some, dropWhile_bodyLines data (hmark _)]
  rw [seek_dash rfl hbody]
  simp only [Option.bind_some]
  rw [seek_dash rfl hdash]
  simp only [Option.bind_some, htail]

/-- The parts of a block are a section. -/
theorem section?_block (h : isLabel label = true) (data : Octets) :
    Pem.section? label (bodyLines data) label = some ⟨label, [], data⟩ := by
  have hempty : label.isEmpty = false := by
    rw [isLabel, Bool.and_eq_true, Bool.not_eq_true'] at h
    exact h.1
  rw [section?, Octets.utf8Chars?_ascii (isLabel_ascii h)]
  simp only [Option.bind_eq_bind, Option.bind_some, hempty, bne_self_eq_false, Bool.or_false,
    Bool.false_eq_true, if_false, splitBody_bodyLines, data?_bodyLines]
  rfl

/-- A block with blanks behind it is a run of one section. -/
theorem sections?_block (h : isLabel label = true) (data tail : Octets)
    (htail : tail.dropWhile isFiller = []) :
    sections? (block label data ++ tail) = some [⟨label, [], data⟩] := by
  have hlength : (block label data ++ tail).length =
      (block label data ++ tail).length - 1 + 1 := by
    simp [block, beginLine, beginMark, Octets.ofAscii]
  have hnone : ∀ fuel, sectionsFrom fuel [] = some [] := by
    intro fuel
    cases fuel <;> rfl
  rw [sections?, hlength, sectionsFrom, firstParts_block h data tail htail]
  simp only [section?_block h, hnone, Option.bind_eq_bind, Option.bind_some]

/-- The section of a block is found under its label. -/
theorem find?_block (h : isLabel label = true) (data tail : Octets)
    (htail : tail.dropWhile isFiller = []) {labels : List Octets} (hmem : label ∈ labels) :
    find? labels (block label data ++ tail) = some ⟨label, [], data⟩ := by
  rw [find?, sections?_block h data tail htail]
  simp [hmem]

end

end Pem

end Enrollment
