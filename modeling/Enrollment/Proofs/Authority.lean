import Enrollment.Engine.Https
import Enrollment.Proofs.OneLine
import Enrollment.Proofs.Stores

/-!
# The server that a request goes to

The HTTPS engine writes the host and the port of its server into the URL of every request. A request
goes to the server if they are the whole authority of the URL (`Https.Directed`), and to no other
one if no other server is written alike. But a host can be any text that is not blank, and it is
written as it is, also where its characters mean something else in a URL. So servers are reached,
and kept apart, exactly if their hosts have no such characters (`Https.directed_iff`).
-/

namespace Enrollment.Https

/-- What ends the authority of a URL. -/
def endsAuthority (c : Char) : Bool := c == '/' || c == '?' || c == '#'

/-- The authority of a URL: what stands between its scheme and its path, query or fragment. -/
def authority (url : String) : List Char :=
  (url.toList.drop "https://".length).takeWhile fun c => !endsAuthority c

/-- Whether a host is in brackets. -/
def isBracketed (host : String) : Bool :=
  host.toList.head? == some '[' && host.toList.getLast? == some ']'

/-- A host as an authority has to have it: in brackets if it has colons and is in none yet. -/
def hostPart (host : String) : List Char :=
  if host.toList.contains ':' && !isBracketed host then '[' :: host.toList ++ [']']
  else host.toList

/-- A host, and the port after a colon. -/
def withPort (host : List Char) (port : Int) : List Char := host ++ ':' :: (toString port).toList

/-- A URL that leads to a host and a port, and to nothing else. -/
structure Directed (host : String) (port : Int) (url : String) : Prop where
  scheme : "https://".toList <+: url.toList
  server : authority url = withPort (hostPart host) port
  noUser : '@' ∉ authority url

/-- A host without characters that mean something else in a URL. A bracket in front of an address
with colons is closed at its end. -/
structure Plain (host : String) : Prop where
  delimiters : ∀ c ∈ host.toList, endsAuthority c = false
  noUser : '@' ∉ host.toList
  brackets : ':' ∈ host.toList → host.toList.head? = some '[' → host.toList.getLast? = some ']'

/-- Two hosts that are the same, up to brackets around one of them. -/
def SameHost (host host' : String) : Prop :=
  host = host' ∨ host = "[" ++ host' ++ "]" ∨ host' = "[" ++ host ++ "]"

/-! ## Ports -/

section
variable {m n : Int} {c : Char}

/-- Nothing in a port means anything else in a URL. -/
theorem port_unmarked (h : c ∈ (toString n).toList) :
    c ≠ ':' ∧ c ≠ '@' ∧ endsAuthority c = false := by
  have hc := isDigit_of_mem_toString h
  have hmark {mark : Char} (hdigit : mark.isDigit = false) (hminus : mark ≠ '-') : c ≠ mark := by
    rintro rfl
    exact hc.elim (by simp [hdigit]) hminus
  refine ⟨hmark rfl (by decide), hmark rfl (by decide), ?_⟩
  simp only [endsAuthority, Bool.or_eq_false_iff, beq_eq_false_iff_ne]
  exact ⟨⟨hmark rfl (by decide), hmark rfl (by decide)⟩, hmark rfl (by decide)⟩

/-- Different ports are written differently. -/
theorem port_injective (h : (toString m).toList = (toString n).toList) : m = n := by
  have hnat {k l : Nat} (h : k.repr.toList = l.repr.toList) : k = l := by
    rw [Nat.toList_repr, Nat.toList_repr] at h
    have hvalues := congrArg (fun digits => Nat.ofDigitChars 10 digits 0) h
    simpa only [Nat.ofDigitChars_ten_toDigits] using hvalues
  have hminus {k l : Nat} : ("-" ++ k.repr).toList ≠ l.repr.toList := by
    intro h
    have hmem : '-' ∈ l.repr.toList := by
      rw [← h, String.toList_append]
      exact .head _
    exact absurd (isDigit_of_mem_repr hmem) (by decide)
  simp only [Int.toString_eq_repr, Int.repr_eq_if] at h
  split at h <;> split at h
  · have := hnat h
    omega
  · exact absurd h.symm hminus
  · exact absurd h hminus
  · rw [String.toList_append, String.toList_append] at h
    have := hnat (List.append_cancel_left h)
    omega

end

/-! ## Hosts -/

section
variable {host host' : String} {c : Char}

theorem mem_hostPart (h : c ∈ host.toList) : c ∈ hostPart host := by
  unfold hostPart
  split
  · exact List.mem_append_left _ (.tail _ h)
  · exact h

/-- A host is put into brackets as it has to be if a bracket in front of it is closed. -/
theorem bracketed_eq_iff : (bracketed host).toList = hostPart host ↔
    (':' ∈ host.toList → host.toList.head? = some '[' → host.toList.getLast? = some ']') := by
  have hlonger : host.toList ≠ '[' :: (host.toList ++ [']']) := by
    intro h
    have hlength := congrArg List.length h
    simp only [List.length_cons, List.length_append] at hlength
    omega
  unfold bracketed hostPart isBracketed
  by_cases hcolon : ':' ∈ host.toList
  · by_cases hfront : host.toList.head? = some '['
    · by_cases hback : host.toList.getLast? = some ']'
      · simp [hcolon, hfront, hback]
      · simp [hcolon, hfront, hback, hlonger]
    · simp [hcolon, hfront]
  · simp [hcolon]

/-- Two hosts that are written alike are the same, up to brackets. -/
theorem SameHost.of_hostPart (h : hostPart host = hostPart host') : SameHost host host' := by
  have hbrackets {a b : String} (h : a.toList = '[' :: b.toList ++ [']']) :
      a = "[" ++ b ++ "]" := by
    rw [← String.toList_inj, h]
    simp
  unfold hostPart at h
  split at h <;> split at h
  · exact .inl (String.toList_inj.1 (List.append_cancel_right (List.cons.inj h).2))
  · exact .inr (.inr (hbrackets h.symm))
  · exact .inr (.inl (hbrackets h))
  · exact .inl (String.toList_inj.1 h)

end

/-! ## Authorities -/

section
variable {host host' : String} {port port' : Int} {c : Char}

/-- An authority can be taken apart, as there is no colon in a port. -/
theorem withPort_inj {part part' : List Char} (h : withPort part port = withPort part' port') :
    part = part' ∧ port = port' := by
  have hcolon (n : Int) : ':' ∉ (toString n).toList.reverse := fun hmem =>
    (port_unmarked (List.mem_reverse.1 hmem)).1 rfl
  have hback := congrArg List.reverse h
  simp only [withPort, List.reverse_append, List.reverse_cons, List.append_assoc,
    List.singleton_append] at hback
  obtain ⟨hport, hpart⟩ := eq_of_append_cons (hcolon _) (hcolon _) hback
  exact ⟨List.reverse_injective hpart, port_injective (List.reverse_injective hport)⟩

/-- A URL has the scheme, the host and the port, and then a path. -/
theorem toList_url (host : String) (port : Int) (segment : Option String) (operation : String) :
    ∃ path, (url segment ⟨some host, some port⟩ operation).toList =
      "https://".toList ++ (withPort (bracketed host).toList port ++ '/' :: path) := by
  have hurl : ∃ path, url segment ⟨some host, some port⟩ operation =
      "https://" ++ (bracketed host ++ (":" ++ (toString port ++ (pathPrefix ++ path)))) := by
    unfold url
    simp only [Option.getD_some, Option.map_some]
    split
    · exact ⟨"/" ++ operation, by simp only [String.append_assoc]⟩
    · exact ⟨"/" ++ operation, by simp only [String.append_assoc]⟩
    · next name _ => exact ⟨"/" ++ (name ++ ("/" ++ operation)), by simp only [String.append_assoc]⟩
  obtain ⟨path, hurl⟩ := hurl
  have hcolon : ":".toList = [':'] := rfl
  have hprefix : pathPrefix.toList = '/' :: ".well-known/est".toList := rfl
  refine ⟨".well-known/est".toList ++ path.toList, ?_⟩
  simp only [hurl, withPort, String.toList_append, hcolon, hprefix, List.append_assoc,
    List.cons_append, List.nil_append]

/-- The authority of a URL ends in front of the path at the latest. -/
theorem authority_url (host : String) (port : Int) (segment : Option String) (operation : String) :
    authority (url segment ⟨some host, some port⟩ operation) =
      (withPort (bracketed host).toList port).takeWhile fun c => !endsAuthority c := by
  obtain ⟨path, hurl⟩ := toList_url host port segment operation
  have hscheme : "https://".length = "https://".toList.length := rfl
  rw [authority, hurl, hscheme, List.drop_left, List.takeWhile_append]
  split
  · next hlength =>
    rw [List.takeWhile_cons_of_neg (by decide), List.append_nil]
    exact ((List.takeWhile_prefix _).eq_of_length hlength).symm
  · rfl

/-- What is added to a host means nothing else in a URL. -/
theorem mem_withPort_bracketed (h : c ∈ withPort (bracketed host).toList port) :
    c ∈ host.toList ∨ c ≠ '@' ∧ endsAuthority c = false := by
  rcases List.mem_append.1 h with h | h
  · unfold bracketed at h
    split at h
    · rw [String.toList_append, String.toList_append, List.mem_append, List.mem_append] at h
      rcases h with (h | h) | h
      · cases List.mem_singleton.1 h
        exact .inr ⟨by decide, rfl⟩
      · exact .inl h
      · cases List.mem_singleton.1 h
        exact .inr ⟨by decide, rfl⟩
    · exact .inl h
  · rcases List.mem_cons.1 h with rfl | h
    · exact .inr ⟨by decide, rfl⟩
    · exact .inr (port_unmarked h).2

/-- The authority of a URL is the host and the port, if nothing in the host ends it. -/
theorem authority_url_of_delimiters (h : ∀ c ∈ host.toList, endsAuthority c = false)
    (port : Int) (segment : Option String) (operation : String) :
    authority (url segment ⟨some host, some port⟩ operation) =
      withPort (bracketed host).toList port := by
  rw [authority_url, List.takeWhile_eq_self_iff]
  intro c hc
  rw [Bool.not_eq_true']
  exact (mem_withPort_bracketed hc).elim (h c) And.right

/-- A URL leads to its server exactly if the host is plain. -/
theorem directed_url_iff (port : Int) (segment : Option String) (operation : String) :
    Directed host port (url segment ⟨some host, some port⟩ operation) ↔ Plain host := by
  constructor
  · intro h
    have hmem {c : Char} (hc : c ∈ host.toList) :
        c ∈ authority (url segment ⟨some host, some port⟩ operation) := by
      rw [h.server]
      exact List.mem_append_left _ (mem_hostPart hc)
    have hdelimiters : ∀ c ∈ host.toList, endsAuthority c = false := by
      intro c hc
      simpa using List.mem_takeWhile_imp (hmem hc)
    refine ⟨hdelimiters, fun huser => h.noUser (hmem huser), bracketed_eq_iff.1 ?_⟩
    have hserver := h.server
    rw [authority_url_of_delimiters hdelimiters] at hserver
    exact (withPort_inj hserver).1
  · intro h
    obtain ⟨path, hurl⟩ := toList_url host port segment operation
    have hauthority := authority_url_of_delimiters h.delimiters port segment operation
    refine ⟨?_, ?_, ?_⟩
    · rw [hurl]
      exact List.prefix_append _ _
    · rw [hauthority, bracketed_eq_iff.2 h.brackets]
    · rw [hauthority]
      exact fun huser => (mem_withPort_bracketed huser).elim h.noUser fun h => h.1 rfl

end

/-- **Where requests go**: to the server they are sent to, and those for different servers to
different ones, exactly if the hosts are plain. -/
theorem directed_iff (host host' : String) (port port' : Int) (segment segment' : Option String)
    (operation operation' : String) :
    (Directed host port (url segment ⟨some host, some port⟩ operation) ∧
      Directed host' port' (url segment' ⟨some host', some port'⟩ operation') ∧
      (authority (url segment ⟨some host, some port⟩ operation) =
          authority (url segment' ⟨some host', some port'⟩ operation') →
        port = port' ∧ SameHost host host')) ↔
    Plain host ∧ Plain host' := by
  constructor
  · rintro ⟨h, h', -⟩
    exact ⟨(directed_url_iff _ _ _).1 h, (directed_url_iff _ _ _).1 h'⟩
  · rintro ⟨h, h'⟩
    have hdirected := (directed_url_iff port segment operation).2 h
    have hdirected' := (directed_url_iff port' segment' operation').2 h'
    refine ⟨hdirected, hdirected', fun hsame => ?_⟩
    rw [hdirected.server, hdirected'.server] at hsame
    obtain ⟨hpart, hport⟩ := withPort_inj hsame
    exact ⟨hport, .of_hostPart hpart⟩

/-- Addresses are plain, in brackets or not. -/
example : Plain "2001:db8::1" ∧ Plain "[2001:db8::1]" :=
  ⟨⟨by simp [endsAuthority], by decide, by decide⟩, ⟨by simp [endsAuthority], by decide, by decide⟩⟩

/-- What a client is told that is to use a server with a path in its name. -/
def strayedSteps : List (Nat × Step) :=
  [(0, .setServerName "est/x"), (0, .setServerPort (.int 443))]

/-- A path in the name of a server ends the authority: the port is lost, and servers that differ
behind it are taken for the same. -/
theorem not_directed_path :
    (∀ n, ∀ store ∈ sampleClients.store? n, store.Initial) ∧
    { endpoint := ⟨some "est/x", some 443⟩ } ∈
      (sampleClients.run (Scripted.engine none) strayedSteps).store? 0 ∧
    authority (url none ⟨some "est/x", some 443⟩ "cacerts") = "est".toList ∧
    authority (url none ⟨some "est/y", some 8443⟩ "cacerts") = "est".toList ∧
    ¬Directed "est/x" 443 (url none ⟨some "est/x", some 443⟩ "cacerts") := by
  refine ⟨initial_sampleClients, rfl, rfl, rfl, fun h => ?_⟩
  have hplain := (directed_url_iff _ _ _).1 h
  exact absurd (hplain.delimiters '/' (by decide)) (by decide)

end Enrollment.Https
