import PrintProxy.Proofs.Uri.HttpForm

/-!
# Completed ports

A reference is given a port by writing one behind its server and reading the
server again.  Whether the server can be read with a port does not depend on the
port, so a reference is completed at the first attempt or never, and nothing but
the port of the server changes.
-/

namespace PrintProxy

namespace Authority

variable {text : String} {authority : Authority}

theorem parse_eq (notEmpty : text.toList ≠ []) (noTerminator : HasNoTerminator text) :
    parse text = (check text.toList).map fun _ => ⟨text⟩ := by
  have ends : EndsBefore text.toList [] := ⟨noTerminator, by simp⟩
  have found := split_append ends
  rw [List.append_nil] at found
  rw [parse, if_neg (by simpa using notEmpty), found]
  cases check text.toList <;> rfl

/-- Whether a server can be read with a port does not depend on the port. -/
theorem NamesServer.parse_withPort (names : NamesServer authority.text) (port : UInt16) :
    parse (authority.withPort port).text =
      if authority.port?.isSome ∨ ':' ∉ behindBrackets authority.text.toList then
        .ok (authority.withPort port)
      else .error .invalidAuthority := by
  rw [parse_eq (Uri.toList_withPort_ne_nil names.notEmpty port)
    (Uri.hasNoTerminator_withPort names.noTerminator port), check_withPort names.checked]
  split <;> rfl

end Authority

namespace Uri

variable {uri : Uri} {authority : Authority} {port number : UInt16}

/-- The references differ in nothing but the port of the server. -/
structure SameButPort (uri other : Uri) : Prop where
  scheme : other.scheme = uri.scheme
  userInfo : other.authority.bind Authority.userInfo? = uri.authority.bind Authority.userInfo?
  host : other.host? = uri.host?
  path : other.path = uri.path
  query : other.query = uri.query

theorem SameButPort.refl (uri : Uri) : uri.SameButPort uri := ⟨rfl, rfl, rfl, rfl, rfl⟩

theorem sameButPort_withPort (names : uri.NamesItsServer) (named : uri.authority = some authority)
    (port : UInt16) :
    uri.SameButPort { uri with authority := some (authority.withPort port) } where
  scheme := rfl
  userInfo := by
    rw [named]
    exact Authority.userInfo?_withPort authority port
  host := by
    rw [host?, host?, named]
    exact congrArg some (Authority.host_withPort (names authority named).checked port)
  path := rfl
  query := rfl

theorem withDefaultPort_none (uri : Uri) : uri.withDefaultPort none = uri := by
  unfold withDefaultPort
  cases uri.authority <;> rfl

theorem withDefaultPort_of_unnamed (unnamed : uri.authority = none) (port : Option UInt16) :
    uri.withDefaultPort port = uri := by
  simp only [withDefaultPort, unnamed]

theorem withDefaultPort_of_port (stated : uri.port?.isSome) (port : Option UInt16) :
    uri.withDefaultPort port = uri := by
  unfold withDefaultPort
  split
  · next authority number named =>
      rw [port?, named, Option.bind_some] at stated
      rw [if_pos stated]
  · rfl

theorem withDefaultPort_of_refused (named : uri.authority = some authority) {fault : UriFault}
    (refused : Authority.parse (authority.text ++ ":" ++ Numeral.decimal port.toNat) =
      .error fault) : uri.withDefaultPort (some port) = uri := by
  simp only [withDefaultPort, named, refused, ite_self]

theorem withDefaultPort_of_missing (named : uri.authority = some authority)
    (missing : authority.port? = none) (port : UInt16) :
    uri.withDefaultPort (some port) =
      match Authority.parse (authority.withPort port).text with
      | .ok completed => { uri with authority := some completed }
      | .error _ => uri := by
  have noPort : ¬authority.port?.isSome := by simp [missing]
  rw [Authority.withPort, if_neg noPort]
  unfold withDefaultPort
  rw [named]
  exact if_neg noPort

/-- Whether a port is put behind a server does not depend on the port. -/
theorem withDefaultPort_eq (names : uri.NamesItsServer) (named : uri.authority = some authority)
    (port : UInt16) :
    uri.withDefaultPort (some port) =
      if authority.port?.isSome ∨ ':' ∉ Authority.behindBrackets authority.text.toList then
        { uri with authority := some (authority.withPort port) }
      else uri := by
  cases stated : authority.port? with
  | some own =>
      have same : authority.withPort port = authority := if_pos (by simp [stated])
      rw [if_pos (.inl rfl), same, ← named]
      exact withDefaultPort_of_port (by simp [port?, named, stated]) _
  | none =>
      have found := (names authority named).parse_withPort port
      rw [stated] at found
      rw [withDefaultPort_of_missing named stated, found]
      by_cases takes : (none : Option UInt16).isSome ∨
          ':' ∉ Authority.behindBrackets authority.text.toList
      · rw [if_pos takes, if_pos takes]
      · rw [if_neg takes, if_neg takes]

section

variable (names : uri.NamesItsServer)

include names

/-- Nothing but the port changes. -/
theorem sameButPort_withDefaultPort (port : Option UInt16) :
    uri.SameButPort (uri.withDefaultPort port) := by
  cases port with
  | none =>
      rw [withDefaultPort_none]
      exact .refl uri
  | some port =>
      cases named : uri.authority with
      | none =>
          rw [withDefaultPort_of_unnamed named]
          exact .refl uri
      | some authority =>
          rw [withDefaultPort_eq names named]
          split
          · exact sameButPort_withPort names named port
          · exact .refl uri

theorem port?_withDefaultPort (named : uri.authority = some authority) {completed : Authority}
    (found :
      Authority.parse (authority.text ++ ":" ++ Numeral.decimal port.toNat) = .ok completed) :
    (uri.withDefaultPort (some port)).port? = some port := by
  have room : ':' ∉ Authority.behindBrackets authority.text.toList := by
    intro colon
    have digits : ∀ digit ∈ (Numeral.decimal port.toNat).toList, digit.isDigit :=
      fun _ => Numeral.isDigit_of_mem_decimal
    have refused := Authority.check_append_port (names authority named).checked digits
    have checked := (Authority.parts_of_parse found).2.2.1
    rw [String.toList_append, String.toList_append, List.append_assoc] at checked
    rw [if_pos colon] at refused
    cases refused.symm.trans checked
  rw [withDefaultPort_eq names named, if_pos (.inr room), port?, Option.bind_some,
    Authority.port?_withPort, Authority.port?_eq_none_of_not_colon room, Option.getD_none]

/-- What has been completed is complete, and what could not be completed cannot be. -/
theorem withDefaultPort_withDefaultPort (port : UInt16) (other : Option UInt16) :
    (uri.withDefaultPort (some port)).withDefaultPort other = uri.withDefaultPort (some port) := by
  cases named : uri.authority with
  | none => rw [withDefaultPort_of_unnamed named, withDefaultPort_of_unnamed named]
  | some authority =>
      rw [withDefaultPort_eq names named]
      split
      · next takes =>
          apply withDefaultPort_of_port
          rw [port?, Option.bind_some, Authority.port?_withPort]
          rfl
      · next refuses =>
          cases other with
          | none => exact withDefaultPort_none uri
          | some other => rw [withDefaultPort_eq names named, if_neg refuses]

end

/-- Completing a reference changes nothing but its port, and only if it has a server without one.
The port is then the one to be put there, provided that the server can be read with it, and it stays
whatever is to be put there next. -/
theorem withDefaultPort_completes_once (names : uri.NamesItsServer) (port : Option UInt16) :
    uri.SameButPort (uri.withDefaultPort port) ∧
      (port = none ∨ uri.authority = none ∨ uri.port?.isSome → uri.withDefaultPort port = uri) ∧
      ∀ number ∈ port,
        (∀ authority ∈ uri.authority,
          match Authority.parse (authority.text ++ ":" ++ Numeral.decimal number.toNat) with
          | .ok _ => (uri.withDefaultPort port).port? = some number
          | .error _ => uri.withDefaultPort port = uri) ∧
        ∀ other, (uri.withDefaultPort port).withDefaultPort other = uri.withDefaultPort port := by
  refine ⟨sameButPort_withDefaultPort names port, ?unchanged, ?completed⟩
  case unchanged =>
    rintro (rfl | unnamed | stated)
    · exact withDefaultPort_none uri
    · exact withDefaultPort_of_unnamed unnamed port
    · exact withDefaultPort_of_port stated port
  case completed =>
    rintro number ⟨⟩
    refine ⟨?_, withDefaultPort_withDefaultPort names number⟩
    intro authority named
    split
    · next found => exact port?_withDefaultPort names named found
    · next refused => exact withDefaultPort_of_refused named refused

/-- A server with a password and a bracketed address. -/
def bracketedServer : Uri := ⟨some "ipp", some ⟨"user:80@[::1]"⟩, "", some "q"⟩

/-- Neither the password nor the address is in the way of a port, and the port that is put there is
not replaced. -/
theorem withDefaultPort_completes_once_bracketed :
    parse "ipp://user:80@[::1]?q" = .ok bracketedServer ∧
      bracketedServer.SameButPort (bracketedServer.withDefaultPort (some 631)) ∧
      (bracketedServer.withDefaultPort (some 631)).port? = some 631 ∧
      (bracketedServer.withDefaultPort (some 631)).withDefaultPort (some 80) =
        bracketedServer.withDefaultPort (some 631) := by
  have parsed : parse "ipp://user:80@[::1]?q" = .ok bracketedServer := by decide
  have takes : Authority.parse ("user:80@[::1]" ++ ":" ++ Numeral.decimal (631 : UInt16).toNat) =
      .ok ⟨"user:80@[::1]:631"⟩ := by decide
  obtain ⟨same, _, completes⟩ :=
    withDefaultPort_completes_once (namesItsServer_of_parse parsed) (some 631)
  obtain ⟨completed, once⟩ := completes 631 rfl
  have stated := completed ⟨"user:80@[::1]"⟩ rfl
  simp only [takes] at stated
  exact ⟨parsed, same, stated, once (some 80)⟩

end Uri

end PrintProxy
