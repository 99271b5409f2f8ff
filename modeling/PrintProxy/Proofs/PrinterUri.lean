import PrintProxy.Config
import PrintProxy.Proofs.IpAddress
import PrintProxy.Proofs.Uri.Host
import PrintProxy.Proofs.Uri.PrinterName

/-!
# Advertised printers and the hosts of their servers

A server is reached under a registered name or under an address, and an address
of version 6 stands in brackets.  Each is the host of an authority, alone and
with a port behind it, unless an octet of a name is encoded: a percent sign is
accepted only in user information and in brackets.

A configuration completes the port of a host without a colon.  The colons of an
address in brackets are taken for that of a port, so the printer is advertised
without one there.
-/

namespace PrintProxy

namespace Authority

variable {character : Char} {characters : List Char} {text host : String}

/-- The characters are those of a registered name, which may have encoded octets. -/
def AreOfName (characters : List Char) : Prop :=
  ∀ character ∈ characters, isPlain character ∨ character = '%'

/-- The forms in which a server's host is written. -/
inductive WritesHost : String → Prop where
  | name {text : String} : AreOfName text.toList → WritesHost text
  | v4 {text : String} {address : Ipv4} : Ipv4.parse? text.toList = some address → WritesHost text
  | v6 {text : String} {groups : Vector UInt16 8} :
      IpAddress.parse? text = some (.v6 groups) → WritesHost ("[" ++ text ++ "]")

/-- The characters are those of an address that brackets are put around. -/
structure AreOfAddress (characters : List Char) : Prop where
  each : ∀ character ∈ characters, isPlain character ∨ character = ':'
  several : ':' ∈ characters
  few : characters.count ':' ≤ greatestColonCount

theorem areOfAddress_of_parse? {groups : Vector UInt16 8}
    (read : IpAddress.parse? text = some (.v6 groups)) : AreOfAddress text.toList := by
  have isV6 : IpAddress.parseV6? text.toList = some (.v6 groups) := by
    unfold IpAddress.parse? at read
    split at read
    · cases read
    · exact read
  obtain ⟨each, several, few⟩ := IpAddress.characters_of_parseV6? isV6
  refine ⟨?_, several, few⟩
  intro character member
  rcases each character member with (alphanum | rfl) | colon
  · exact .inl (isPlain_of_isAlphanum alphanum)
  · exact .inl rfl
  · exact .inr colon

/-- A host is a name or an address in brackets; an address of version 4 could be a name. -/
theorem WritesHost.form (writes : WritesHost host) :
    AreOfName host.toList ∨
      ∃ address, host.toList = '[' :: (address ++ [']']) ∧ AreOfAddress address := by
  cases writes with
  | name each => exact .inl each
  | v4 read =>
      left
      intro character member
      rcases Ipv4.mem_of_parse? read member with digit | rfl
      · exact .inl (isPlain_of_isAlphanum (by simp [Char.isAlphanum, digit]))
      · exact .inl rfl
  | @v6 text _ read => exact .inr ⟨text.toList, by simp, areOfAddress_of_parse? read⟩

theorem AreOfName.not_mem (isName : AreOfName characters) (separator : Char)
    (notPlain : isPlain separator = false) (notPercent : separator ≠ '%') :
    separator ∉ characters := by
  intro member
  rcases isName separator member with plain | percent
  · exact ne_of_isPlain plain separator notPlain rfl
  · exact notPercent percent

theorem AreOfAddress.not_mem (isAddress : AreOfAddress characters) (separator : Char)
    (notPlain : isPlain separator = false) (notColon : separator ≠ ':') :
    separator ∉ characters := by
  intro member
  rcases isAddress.each separator member with plain | colon
  · exact ne_of_isPlain plain separator notPlain rfl
  · exact notColon colon

namespace WritesHost

variable (writes : WritesHost host)

include writes

theorem isHost : IsHost host.toList := by
  rcases writes.form with isName | ⟨address, isBracketed, isAddress⟩
  · refine .plain (isName.not_mem _ rfl (by decide)) (isName.not_mem _ rfl (by decide)) ?_
    rintro rest begins
    exact isName.not_mem '[' rfl (by decide) (by simp [begins])
  · rw [isBracketed]
    exact .bracketed (isAddress.not_mem _ rfl (by decide)) (isAddress.not_mem _ rfl (by decide))

theorem colon_mem_iff : ':' ∈ host.toList ↔ '[' ∈ host.toList := by
  rcases writes.form with isName | ⟨address, isBracketed, isAddress⟩
  · exact iff_of_false (isName.not_mem _ rfl (by decide)) (isName.not_mem _ rfl (by decide))
  · simp [isBracketed, isAddress.several]

theorem percent_not_mem_of_bracketed (bracketed : '[' ∈ host.toList) : '%' ∉ host.toList := by
  rcases writes.form with isName | ⟨address, isBracketed, isAddress⟩
  · exact absurd bracketed (isName.not_mem _ rfl (by decide))
  · simp [isBracketed, isAddress.not_mem '%' rfl (by decide)]

theorem hasNoTerminator : HasNoTerminator host := by
  have other {separator : Char} (notPlain : isPlain separator = false)
      (notPercent : separator ≠ '%') (notColon : separator ≠ ':')
      (notBracket : separator ≠ '[' ∧ separator ≠ ']') : separator ∉ host.toList := by
    rcases writes.form with isName | ⟨address, isBracketed, isAddress⟩
    · exact isName.not_mem _ notPlain notPercent
    · simp [isBracketed, isAddress.not_mem _ notPlain notColon, notBracket]
  intro character member
  simp only [isTerminator, Bool.or_eq_false_iff, decide_eq_false_iff_not]
  refine ⟨⟨?_, ?_⟩, ?_⟩
  all_goals
    rintro rfl
    exact other rfl (by decide) (by decide) (by decide) member

theorem check_of_percent_not_mem (noPercent : '%' ∉ host.toList) :
    check host.toList = .ok () := by
  rcases writes.form with isName | ⟨address, isBracketed, isAddress⟩
  · have each : ∀ character ∈ host.toList, isPlain character := fun character member =>
      (isName character member).resolve_right fun percent => noPercent (percent ▸ member)
    rw [check, foldlM_plain rfl each (Nat.zero_le _)]
    rfl
  · have opens : Progress.step {} '[' = .ok { opened := true } := rfl
    have inside := @foldlM_colons _ { opened := true } rfl isAddress.each
      (by simpa using isAddress.few)
    rw [check, isBracketed, List.foldlM_cons, opens]
    change ((address ++ [']']).foldlM Progress.step { opened := true } >>= _) = _
    rw [List.foldlM_append, inside]
    rfl

theorem percent_not_mem_of_check_append {rest : List Char} (noAt : '@' ∉ rest)
    (noClosing : ']' ∉ rest) (checked : check (host.toList ++ rest) = .ok ()) :
    '%' ∉ host.toList := by
  have absent := percent_not_mem_of_check checked
  rw [behindBrackets_append noAt noClosing, List.mem_append, not_or] at absent
  rcases writes.form with isName | ⟨address, isBracketed, isAddress⟩
  · have whole := behindBrackets_append (isName.not_mem '@' rfl (by decide))
      (isName.not_mem ']' rfl (by decide)) []
    rw [List.nil_append] at whole
    rw [whole] at absent
    exact absent.1
  · exact writes.percent_not_mem_of_bracketed (by simp [isBracketed])

/-- A host is an authority, with a port or without, unless there is a percent sign in it. -/
theorem check_serverText_iff (port : Option UInt16) :
    check (serverText host port).toList = .ok () ↔ '%' ∉ host.toList := by
  cases port with
  | none =>
      have alone : (serverText host none).toList = host.toList ++ [] := by simp [serverText]
      rw [alone]
      refine ⟨writes.percent_not_mem_of_check_append List.not_mem_nil List.not_mem_nil, ?_⟩
      rw [List.append_nil]
      exact writes.check_of_percent_not_mem
  | some port =>
      have text : (serverText host (some port)).toList =
          host.toList ++ ':' :: (Numeral.decimal port.toNat).toList := by
        simp [serverText]
      rw [text]
      refine ⟨writes.percent_not_mem_of_check_append (not_mem_port (by decide) rfl _)
        (not_mem_port (by decide) rfl _), ?_⟩
      intro noPercent
      rw [check_append_port (writes.check_of_percent_not_mem noPercent)
        fun _ => Numeral.isDigit_of_mem_decimal]
      exact if_neg writes.isHost.colon_not_mem_behindBrackets

theorem namesServer_serverText_iff (port : Option UInt16) :
    NamesServer (serverText host port) ↔ '%' ∉ host.toList ∧ serverText host port ≠ "" := by
  rw [← writes.check_serverText_iff port]
  constructor
  · intro isServer
    exact ⟨isServer.checked, fun empty => isServer.notEmpty (String.toList_eq_nil_iff.mpr empty)⟩
  · rintro ⟨checked, notEmpty⟩
    exact ⟨fun empty => notEmpty (String.toList_eq_nil_iff.mp empty),
      writes.hasNoTerminator.serverText port, checked⟩

theorem locates_of_advertised {port : Option UInt16} {name : String} {printer : Uri}
    (segment : Uri.IsSegment name)
    (parsed : Uri.parse s!"ipp://{serverText host port}/printers/{name}" = .ok printer) :
    printer.Locates host port ("/printers/" ++ name) := by
  have noTerminator := writes.hasNoTerminator.serverText port
  obtain ⟨_, _, rfl⟩ := (Uri.parse_advertised_eq_ok_iff noTerminator segment).mp parsed
  exact Uri.locates_serverText writes.isHost port (by simp)

/-- A printer behind a host is found there, and at the port that is written with the host, unless
there is a percent sign in the host, nothing at all, or too much. -/
theorem exists_advertised_iff (port stated : Option UInt16) {name : String}
    (segment : Uri.IsSegment name) :
    (∃ printer, Uri.parse s!"ipp://{serverText host port}/printers/{name}" = .ok printer ∧
        printer.Locates host stated ("/printers/" ++ name)) ↔
      stated = port ∧ '%' ∉ host.toList ∧ serverText host port ≠ "" ∧
        16 + (serverText host port).utf8ByteSize + name.utf8ByteSize ≤ Uri.greatestLength := by
  have noTerminator := writes.hasNoTerminator.serverText port
  rw [← and_assoc (a := '%' ∉ host.toList), ← writes.namesServer_serverText_iff port]
  constructor
  · rintro ⟨printer, parsed, locates⟩
    obtain ⟨isServer, fits, _⟩ := (Uri.parse_advertised_eq_ok_iff noTerminator segment).mp parsed
    have samePort := locates.port.symm.trans (writes.locates_of_advertised segment parsed).port
    exact ⟨samePort, isServer, fits⟩
  · rintro ⟨rfl, isServer, fits⟩
    have parsed := (Uri.parse_advertised_eq_ok_iff noTerminator segment).mpr ⟨isServer, fits, rfl⟩
    exact ⟨_, parsed, writes.locates_of_advertised segment parsed⟩

end WritesHost

end Authority

namespace Config

open Authority (WritesHost serverText)

variable {config : Config} {host : String}

theorem authorityFor_eq (writes : WritesHost host) :
    config.authorityFor host =
      serverText host (if '[' ∈ host.toList then none else some config.port) := by
  unfold authorityFor
  by_cases bracketed : '[' ∈ host.toList
  · rw [if_pos bracketed, if_pos (List.contains_iff_mem.mpr (writes.colon_mem_iff.mpr bracketed))]
    exact String.append_empty.symm
  · have noColon : ¬host.toList.contains ':' := by
      rwa [List.contains_iff_mem, writes.colon_mem_iff]
    rw [if_neg bracketed, if_neg noColon, Authority.serverText_some]

theorem authorityFor_serverText (port : UInt16) :
    config.authorityFor (serverText host (some port)) = serverText host (some port) := by
  have colon : (serverText host (some port)).toList.contains ':' = true := by
    simp [Authority.serverText_some]
  rw [authorityFor, if_pos colon]

/-- The URI of the printer behind a server is not too long. -/
def HasRoomFor (config : Config) (server : String) : Prop :=
  16 + server.utf8ByteSize + config.printerName.utf8ByteSize ≤ Uri.greatestLength

/-- The printer is advertised at the configured port, or at the port that is stated with the host,
unless the host is a bracketed address: then it is advertised without a port if none is stated. -/
theorem printerUri_locates_iff (writes : WritesHost host)
    (segment : Uri.IsSegment config.printerName) :
    ((∃ printer, config.printerUri (some host) = .ok printer ∧
        printer.Locates host (some config.port) ("/printers/" ++ config.printerName)) ↔
      '[' ∉ host.toList ∧ '%' ∉ host.toList ∧
        config.HasRoomFor (host ++ ":" ++ Numeral.decimal config.port.toNat)) ∧
    ((∃ printer, config.printerUri (some host) = .ok printer ∧
        printer.Locates host none ("/printers/" ++ config.printerName)) ↔
      '[' ∈ host.toList ∧ config.HasRoomFor host) ∧
    ∀ port : UInt16,
      (∃ printer,
          config.printerUri (some (host ++ ":" ++ Numeral.decimal port.toNat)) = .ok printer ∧
          printer.Locates host (some port) ("/printers/" ++ config.printerName)) ↔
        '%' ∉ host.toList ∧ config.HasRoomFor (host ++ ":" ++ Numeral.decimal port.toNat) := by
  have notEmpty (port : UInt16) : serverText host (some port) ≠ "" := by
    simp [Authority.serverText_some]
  have alone : serverText host none = host := String.append_empty
  simp only [printerUri, Option.getD_some, ← Authority.serverText_some]
  refine ⟨?completed, ?bracketed, ?stated⟩
  case completed =>
    rw [authorityFor_eq writes, writes.exists_advertised_iff _ _ segment]
    by_cases bracketed : '[' ∈ host.toList
    · simp [bracketed]
    · simp [bracketed, notEmpty, HasRoomFor]
  case bracketed =>
    rw [authorityFor_eq writes, writes.exists_advertised_iff _ _ segment]
    by_cases bracketed : '[' ∈ host.toList
    · have noPercent := writes.percent_not_mem_of_bracketed bracketed
      have notNothing : host ≠ "" := by
        rintro rfl
        cases bracketed
      simp [bracketed, noPercent, notNothing, alone, HasRoomFor]
    · simp [bracketed]
  case stated =>
    intro port
    rw [authorityFor_serverText, writes.exists_advertised_iff _ _ segment]
    simp [notEmpty, HasRoomFor]

/-- A named host, alone and with a port. -/
theorem printerUri_locates_iff_printhost :
    (∃ printer, standard.printerUri (some "printhost") = .ok printer ∧
        printer.Locates "printhost" (some 631) "/printers/test-printer") ∧
      ∃ printer, standard.printerUri (some "printhost:8631") = .ok printer ∧
        printer.Locates "printhost" (some 8631) "/printers/test-printer" := by
  have plain : ∀ character ∈ "printhost".toList, Authority.isPlain character :=
    List.all_eq_true.mp rfl
  have writes : WritesHost "printhost" :=
    .name fun character member => .inl (plain character member)
  have segment : Uri.IsSegment standard.printerName := by decide
  obtain ⟨completed, _, stated⟩ := printerUri_locates_iff writes segment
  have noBracket : '[' ∉ "printhost".toList := by decide
  have noPercent : '%' ∉ "printhost".toList := by decide
  have room : standard.HasRoomFor "printhost:631" := by unfold HasRoomFor; decide
  have roomForOther : standard.HasRoomFor "printhost:8631" := by unfold HasRoomFor; decide
  exact ⟨completed.mpr ⟨noBracket, noPercent, room⟩, (stated 8631).mpr ⟨noPercent, roomForOther⟩⟩

/-- The configured port is missing behind an address of version 6. -/
theorem printerUri_bracketed_without_port :
    WritesHost "[::1]" ∧ Uri.IsSegment standard.printerName ∧
      standard.printerUri (some "[::1]") =
        .ok ⟨some "ipp", some ⟨"[::1]"⟩, "/printers/test-printer", none⟩ ∧
      Uri.port? ⟨some "ipp", some ⟨"[::1]"⟩, "/printers/test-printer", none⟩ ≠
        some standard.port := by
  have address : IpAddress.parse? "::1" = some (.v6 #v[0, 0, 0, 0, 0, 0, 0, 1]) := by decide +kernel
  exact ⟨.v6 address, by decide, by decide +kernel, by decide⟩

end Config

end PrintProxy
