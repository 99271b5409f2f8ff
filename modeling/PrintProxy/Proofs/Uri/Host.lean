import PrintProxy.Proofs.Uri.Port

/-!
# Hosts

What an authority has as its host can stand alone, or with a port behind it, and
is then found as the host again.  For an `@` ends before a host begins, and a
colon in a host is between brackets.
-/

namespace PrintProxy.Authority

variable {text : String} {rest : List Char}

/-- The characters are those of a bracketed address, or of a name without a colon. -/
inductive IsHost : List Char → Prop where
  | bracketed {address : List Char} :
      '@' ∉ address → ']' ∉ address → IsHost ('[' :: (address ++ [']']))
  | plain {name : List Char} :
      '@' ∉ name → ':' ∉ name → (∀ rest, name ≠ '[' :: rest) → IsHost name

theorem at_not_mem_hostPort (authority : Authority) : '@' ∉ authority.hostPort := by
  intro isAt
  have passed := List.mem_takeWhile_imp (List.mem_reverse.mp isAt)
  cases passed

theorem not_mem_takeWhile {separator : Char} (characters : List Char) :
    separator ∉ characters.takeWhile (· != separator) := by
  intro member
  have passed := List.mem_takeWhile_imp member
  simp at passed

/-- What is found as the host of an authority is a host. -/
theorem isHost_host (authority : Authority) : IsHost authority.host.toList := by
  have noAt := authority.at_not_mem_hostPort
  by_cases bracketed : ∃ rest, authority.hostPort = '[' :: rest
  · obtain ⟨rest, bracketed⟩ := bracketed
    rw [host_of_bracketed bracketed, String.toList_ofList]
    rw [bracketed] at noAt
    rw [List.cons_append]
    refine .bracketed ?_ (not_mem_takeWhile rest)
    intro isAt
    exact noAt (List.mem_cons_of_mem _ ((List.takeWhile_sublist _).subset isAt))
  · rw [not_exists] at bracketed
    rw [host_of_not_bracketed bracketed, String.toList_ofList]
    refine .plain ?_ (not_mem_takeWhile _) ?_
    · intro isAt
      exact noAt ((List.takeWhile_sublist _).subset isAt)
    · intro rest begins
      obtain ⟨behind, whole⟩ := List.takeWhile_prefix (l := authority.hostPort) (· != ':')
      rw [begins] at whole
      exact bracketed _ whole.symm

namespace IsHost

variable (isHost : IsHost text.toList)

include isHost

theorem at_not_mem : '@' ∉ text.toList := by
  generalize text.toList = characters at isHost
  cases isHost with
  | bracketed noAt _ => simp [noAt]
  | plain noAt _ _ => exact noAt

theorem hostPort_eq : hostPort ⟨text⟩ = text.toList := by
  have whole := afterLast_append isHost.at_not_mem []
  rwa [List.nil_append] at whole

theorem userInfo?_eq : userInfo? ⟨text⟩ = none := by
  have whole := beforeLast?_append isHost.at_not_mem []
  rw [List.nil_append] at whole
  rw [userInfo?, whole]
  rfl

theorem colon_not_mem_behindBrackets : ':' ∉ behindBrackets text.toList := by
  generalize text.toList = characters at isHost
  cases isHost with
  | @bracketed address _ _ =>
      rw [← List.cons_append, behindBrackets_concat]
      simp
  | plain _ noColon _ =>
      intro colon
      have inside := (List.takeWhile_sublist _).subset (List.mem_reverse.mp colon)
      exact noColon (List.mem_reverse.mp inside)

theorem port?_eq : port? ⟨text⟩ = none :=
  port?_eq_none_of_not_colon isHost.colon_not_mem_behindBrackets

theorem host_eq : host ⟨text⟩ = text := by
  have whole := isHost.hostPort_eq
  rw [← String.toList_inj]
  generalize text.toList = characters at isHost whole
  cases isHost with
  | @bracketed address _ noClosing =>
      have front : (address ++ [']']).takeWhile (· != ']') = address := by
        rw [takeWhile_append_cons (by decide), List.takeWhile_eq_self_iff]
        exact fun character member => bne_iff_ne.mpr fun same => noClosing (same ▸ member)
      rw [host_of_bracketed whole, String.toList_ofList, front]
      rfl
  | plain _ noColon notBracketed =>
      rw [host_of_not_bracketed (by rwa [whole]), whole, String.toList_ofList,
        List.takeWhile_eq_self_iff]
      exact fun character member => bne_iff_ne.mpr fun same => noColon (same ▸ member)

theorem host_withPort (port : UInt16) : (withPort ⟨text⟩ port).host = text := by
  refine (host_withPort_of_closed ?_ port).trans isHost.host_eq
  intro rest bracketed
  rw [isHost.hostPort_eq] at bracketed
  generalize text.toList = characters at isHost bracketed
  cases isHost with
  | bracketed _ _ =>
      cases bracketed
      simp
  | plain _ _ notBracketed => exact absurd bracketed (notBracketed rest)

end IsHost

/-- A server as it is written: its host, and its port if it has one. -/
def serverText (host : String) (port : Option UInt16) : String :=
  host ++
    match port with
    | some port => ":" ++ Numeral.decimal port.toNat
    | none => ""

theorem serverText_some (host : String) (port : UInt16) :
    serverText host (some port) = host ++ ":" ++ Numeral.decimal port.toNat :=
  (String.append_assoc ..).symm

theorem HasNoTerminator.serverText {host : String} (noTerminator : HasNoTerminator host)
    (port : Option UInt16) : HasNoTerminator (serverText host port) := by
  cases port with
  | none =>
      intro character member
      exact noTerminator character (by simpa [Authority.serverText] using member)
  | some port =>
      rw [serverText_some]
      exact noTerminator.append_port _

theorem IsHost.serverText_some (isHost : IsHost text.toList) (port : UInt16) :
    serverText text (some port) = (withPort ⟨text⟩ port).text := by
  have missing : ¬(port? ⟨text⟩).isSome := by simp [isHost.port?_eq]
  rw [withPort, if_neg missing, Authority.serverText_some]

/-- What is read of a written server is what was put there. -/
theorem IsHost.parts_of_serverText (isHost : IsHost text.toList) (port : Option UInt16) :
    userInfo? ⟨serverText text port⟩ = none ∧ host ⟨serverText text port⟩ = text ∧
      port? ⟨serverText text port⟩ = port := by
  cases port with
  | none =>
      have alone : serverText text none = text := String.append_empty
      rw [alone]
      exact ⟨isHost.userInfo?_eq, isHost.host_eq, isHost.port?_eq⟩
  | some port =>
      rw [isHost.serverText_some]
      refine ⟨?_, isHost.host_withPort port, ?_⟩
      · exact (userInfo?_withPort _ port).trans isHost.userInfo?_eq
      · rw [port?_withPort, isHost.port?_eq, Option.getD_none]

end PrintProxy.Authority

namespace PrintProxy.Uri

/-- The reference says where something is, and nothing else. -/
structure Locates (uri : Uri) (host : String) (port : Option UInt16) (path : String) : Prop where
  scheme : uri.scheme = some "ipp"
  userInfo : uri.authority.bind Authority.userInfo? = none
  host : uri.host? = some host
  port : uri.port? = port
  path : uri.path = path
  query : uri.query = none

theorem locates_serverText {host path : String} (isHost : Authority.IsHost host.toList)
    (port : Option UInt16) (notEmpty : path ≠ "") :
    Locates ⟨some "ipp", some ⟨Authority.serverText host port⟩, path, none⟩ host port path := by
  obtain ⟨noUserInfo, sameHost, samePort⟩ := isHost.parts_of_serverText port
  refine ⟨rfl, noUserInfo, congrArg some sameHost, samePort, ?_, rfl⟩
  simp [Uri.path, notEmpty]

end PrintProxy.Uri
