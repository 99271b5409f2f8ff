import PrintProxy.Proofs.Dispatcher.LocalStep
import PrintProxy.Proofs.Http.LocalExchange
import PrintProxy.Proofs.Text.Numeral

/-!
# Where the printer is advertised

Two computations give the URI of the advertised printer: that of a configuration
completes the server's name with the configured port, that of a dispatcher takes
the name as the request has it.  Both put the same printer behind the server, so
they agree exactly if the name states the port, or if there is no name and the
configured port is the standard one.
-/

namespace PrintProxy

/-- The code is that of an operation that asks for printers. -/
def Message.AsksForPrinters (request : Message) : Prop :=
  request.header.code = OperationCode.cupsGetDefault.code ∨
    request.header.code = OperationCode.cupsGetPrinters.code

instance (request : Message) : Decidable request.AsksForPrinters :=
  inferInstanceAs (Decidable (_ ∨ _))

/-- The groups that an answer repeats of a request, with the job that they name. -/
def Message.repeatedGroups (request : Message) : List AttributeGroup :=
  ((Operation.carrying .getPrinters request).nameJob (.responseFor request)).attributes.groups

/-- The groups are one that tells of the printer, or none if there is no printer. -/
def Announces (groups : List AttributeGroup) : Except UriFault Uri → Prop
  | .ok printer =>
      ∃ group : AttributeGroup, groups = [group] ∧ group.tag = .printerAttributes ∧
        group.get? AttributeName.printerUriSupported =
          some (.ofValue AttributeName.printerUriSupported (.uri printer.render))
  | .error _ => groups = []

theorem get?_printerUriSupported_printerGroup (printer : Uri) :
    (printerGroup printer).get? AttributeName.printerUriSupported =
      some (.ofValue AttributeName.printerUriSupported (.uri printer.render)) := by
  apply AttributeGroup.get?_addAll_append []
  simp only [List.forall_mem_cons, Attribute.name_ofValue, List.not_mem_nil, false_implies,
    implies_true, and_true]
  decide

theorem announces_printerGroup (advertised : Except UriFault Uri) :
    Announces (advertised.toOption.toList.map printerGroup) advertised := by
  cases advertised with
  | error fault => rfl
  | ok printer =>
      exact ⟨_, rfl, AttributeGroup.tag_addAll _ _, get?_printerUriSupported_printerGroup printer⟩

namespace Announces

variable {groups : List AttributeGroup} {printer other : Uri} {fault : UriFault}

theorem render_eq (announces : Announces groups (.ok printer))
    (announcesOther : Announces groups (.ok other)) : printer.render = other.render := by
  obtain ⟨group, rfl, _, found⟩ := announces
  obtain ⟨_, same, _, foundOther⟩ := announcesOther
  cases same
  have texts := congrArg Attribute.string (Option.some.inj (found.symm.trans foundOther))
  rwa [Value.uri, Value.uri, Attribute.string_ofValue_text, Attribute.string_ofValue_text] at texts

theorem not_error (announces : Announces groups (.ok printer)) :
    ¬Announces groups (.error fault) := by
  obtain ⟨group, rfl, _⟩ := announces
  exact List.cons_ne_nil group []

/-- Texts that put the printer on different servers are read as different printers. -/
theorem advertised_iff {server otherServer name : String}
    (announces : Announces groups (Uri.parse s!"ipp://{server}/printers/{name}"))
    (noTerminator : Authority.HasNoTerminator server)
    (otherNoTerminator : Authority.HasNoTerminator otherServer) :
    Announces groups (Uri.parse s!"ipp://{otherServer}/printers/{name}") ↔
      otherServer = server ∨
        groups = [] ∧ ∃ fault, Uri.parse s!"ipp://{otherServer}/printers/{name}" = .error fault := by
  constructor
  · intro agrees
    cases made : Uri.parse s!"ipp://{otherServer}/printers/{name}" with
    | error fault =>
        rw [made] at agrees
        exact .inr ⟨agrees, fault, rfl⟩
    | ok printer =>
        rw [made] at agrees
        cases advertised : Uri.parse s!"ipp://{server}/printers/{name}" with
        | error fault =>
            rw [advertised] at announces
            exact absurd announces agrees.not_error
        | ok other =>
            rw [advertised] at announces
            exact .inl (Uri.server_eq_of_advertised otherNoTerminator noTerminator made advertised
              (agrees.render_eq announces))
  · intro either
    cases either with
    | inl same =>
        rw [same]
        exact announces
    | inr neither =>
        obtain ⟨nothing, fault, failed⟩ := neither
        rw [failed]
        exact nothing

end Announces

namespace Config

variable (config : Config)

/-- The name of a request's server has a colon, which is taken for that of a port, or there is no
name and the configured port is the standard one. -/
def StatesPort : Option String → Prop
  | some server => ':' ∈ server.toList
  | none => config.port = 631

/-- The name that a request's server is advertised under. -/
def advertisingServer (server : Option String) : String :=
  config.authorityFor (server.getD "localhost")

theorem printerUri_eq (server : Option String) :
    config.printerUri server =
      Uri.parse s!"ipp://{config.advertisingServer server}/printers/{config.printerName}" :=
  rfl

theorem advertisingServer_eq_iff (server : Option String) :
    config.advertisingServer server = server.getD "localhost:631" ↔ config.StatesPort server := by
  unfold advertisingServer
  cases server with
  | none =>
      have standard : "localhost:631" = "localhost" ++ ":" ++ Numeral.decimal 631 := by decide
      have completed : config.authorityFor "localhost" =
          "localhost" ++ ":" ++ Numeral.decimal config.port.toNat := rfl
      rw [Option.getD_none, Option.getD_none, completed, standard, String.append_right_inj,
        Numeral.decimal_inj]
      exact UInt16.toNat_inj (b := 631)
  | some server =>
      rw [Option.getD_some, Option.getD_some, authorityFor, StatesPort, ← List.contains_iff_mem]
      split
      · next stated => exact iff_of_true rfl stated
      · next missing =>
          refine iff_of_false ?_ missing
          rw [String.append_assoc, String.append_eq_left_iff]
          intro nothing
          have colon := congrArg String.toList nothing
          rw [String.toList_append] at colon
          cases colon

theorem hasNoTerminator_authorityFor {server : String}
    (noTerminator : Authority.HasNoTerminator server) :
    Authority.HasNoTerminator (config.authorityFor server) := by
  unfold authorityFor
  split
  · exact noTerminator
  · exact noTerminator.append_port _

theorem hasNoTerminator_advertisingServer (request : Message) :
    Authority.HasNoTerminator (config.advertisingServer request.printerServer?) :=
  config.hasNoTerminator_authorityFor (request.hasNoTerminator_getD_printerServer? (.of_all rfl))

end Config

namespace Dispatcher

variable {dispatcher : Dispatcher} {request : Message} {kind : OperationKind}

theorem exists_kind_of_asksForPrinters (asks : request.AsksForPrinters) :
    ∃ kind : OperationKind, kind.code.code = request.header.code ∧
      (kind = .getPrinters ∨ kind = .getDefault) := by
  rcases asks with code | code
  · exact ⟨.getDefault, code.symm, .inr rfl⟩
  · exact ⟨.getPrinters, code.symm, .inl rfl⟩

theorem advertise_carrying :
    dispatcher.advertise (.carrying kind request) =
      { Operation.carrying kind request with
        printers := (dispatcher.advertisedPrinter request).toOption.toList } := by
  have same : (Operation.carrying kind request).request = request := rfl
  have noneNamed : (Operation.carrying kind request).printers.isEmpty := rfl
  rw [advertise, if_pos noneNamed, same]
  cases dispatcher.advertisedPrinter request <;> rfl

/-- No state and no target matters to who is told of the printer. -/
theorem groups_handle_of_asksForPrinters (dispatcher : Dispatcher)
    (asks : request.AsksForPrinters) (state : State) :
    (dispatcher.handle request state).1.attributes.groups =
      request.repeatedGroups ++
        (dispatcher.advertisedPrinter request).toOption.toList.map printerGroup := by
  obtain ⟨kind, code, aboutPrinters⟩ := exists_kind_of_asksForPrinters asks
  have ownCode : (Operation.carrying kind request).request.header.code =
      (Operation.carrying kind request).kind.code.code := code.symm
  have noAddressee : (Operation.carrying kind request).kind.addressee = .nothing := by
    rcases aboutPrinters with rfl | rfl <;> rfl
  have settled : dispatcher.settle (state.lastJobId + 1) (.carrying kind request) =
      dispatcher.advertise (.carrying kind request) := by
    rcases aboutPrinters with rfl | rfl <;> rfl
  simp only [handle, OperationKind.ofCode?_eq_some_iff.mpr code, handleOperation, noAddressee]
  rw [fst_emulate ownCode, settled, advertise_carrying]
  generalize dispatcher.advertisedPrinter request = advertised
  have isOne : advertised.toOption.toList.take 1 = advertised.toOption.toList := by
    cases advertised <;> rfl
  rcases aboutPrinters with rfl | rfl
  · exact congrArg (·.attributes.groups) (Message.foldl_pushGroup_eq _ _)
  · refine (congrArg (·.attributes.groups) (Message.foldl_pushGroup_eq _ _)).trans ?_
    rw [isOne]
    rfl

/-- A dispatcher announces its printer on the server that the request names.  This is where the
configuration says that the printer is advertised exactly if the name states the port, or if neither
finds a URI. -/
theorem handle_announces_printer (config : Config) (transport : Transport) (request : Message)
    (asks : request.AsksForPrinters) (state : State) :
    ∃ told, ((ofConfig config transport).handle request state).1.attributes.groups =
        request.repeatedGroups ++ told ∧
      Announces told
        (Uri.parse s!"ipp://{request.advertisingServer}/printers/{config.printerName}") ∧
      (Announces told (config.printerUri request.printerServer?) ↔
        config.StatesPort request.printerServer? ∨
          told = [] ∧ ∃ fault, config.printerUri request.printerServer? = .error fault) := by
  have advertised : (ofConfig config transport).advertisedPrinter request =
      Uri.parse s!"ipp://{request.advertisingServer}/printers/{config.printerName}" :=
    advertisedPrinter_eq _ request
  have appended := groups_handle_of_asksForPrinters (ofConfig config transport) asks state
  have announces := announces_printerGroup
    (Uri.parse s!"ipp://{request.advertisingServer}/printers/{config.printerName}")
  rw [advertised] at appended
  refine ⟨_, appended, announces, ?_⟩
  rw [config.printerUri_eq, announces.advertised_iff request.hasNoTerminator_advertisingServer
    (config.hasNoTerminator_advertisingServer request)]
  exact or_congr_left (config.advertisingServer_eq_iff _)

/-- A request for the default printer, addressed to a printer. -/
def defaultRequest (printer : String) : Message :=
  ⟨⟨.v2_0, 0x4001, 5⟩,
    ⟨[⟨.operationAttributes, [.ofValue AttributeName.printerUri (.uri printer)]⟩]⟩,
    []⟩

def requestWithPort : Message := defaultRequest "ipp://printhost:8631/printers/p"

theorem handle_announces_printer_requestWithPort :
    ∃ told, (unconnected.handle requestWithPort {}).1.attributes.groups =
        requestWithPort.repeatedGroups ++ told ∧
      Announces told
        (.ok ⟨some "ipp", some ⟨"printhost:8631"⟩, "/printers/test-printer", none⟩) := by
  have server : requestWithPort.printerServer? = some "printhost:8631" := by decide +kernel
  have configured : Config.standard.printerUri (some "printhost:8631") =
      .ok ⟨some "ipp", some ⟨"printhost:8631"⟩, "/printers/test-printer", none⟩ := by
    decide +kernel
  have states : Config.standard.StatesPort (some "printhost:8631") := by
    rw [Config.StatesPort]
    decide
  obtain ⟨told, appended, _, agrees⟩ := handle_announces_printer .standard (.overHttp .unavailable)
    requestWithPort (by decide) {}
  rw [server, configured] at agrees
  exact ⟨told, appended, agrees.mpr (.inl states)⟩

def requestWithoutPort : Message := defaultRequest "ipp://printhost/printers/p"

def requestWithoutPortOctets : Bytes :=
  [2, 0, 0x40, 1, 0, 0, 0, 5, 1, 0x45, 0, 11, 0x70, 0x72, 0x69, 0x6e, 0x74, 0x65, 0x72, 0x2d,
    0x75, 0x72, 0x69, 0, 26, 0x69, 0x70, 0x70, 0x3a, 0x2f, 0x2f, 0x70, 0x72, 0x69, 0x6e, 0x74,
    0x68, 0x6f, 0x73, 0x74, 0x2f, 0x70, 0x72, 0x69, 0x6e, 0x74, 0x65, 0x72, 0x73, 0x2f, 0x70, 3]

/-- The configured port is missing from the URI that the dispatcher announces. -/
theorem handle_announces_otherPrinter :
    Message.decode requestWithoutPortOctets = .ok requestWithoutPort ∧
      requestWithoutPort.printerServer? = some "printhost" ∧
      Config.standard.printerUri (some "printhost") =
        .ok ⟨some "ipp", some ⟨"printhost:631"⟩, "/printers/test-printer", none⟩ ∧
      ∃ told, (unconnected.handle requestWithoutPort {}).1.attributes.groups =
          requestWithoutPort.repeatedGroups ++ told ∧
        Announces told
          (.ok ⟨some "ipp", some ⟨"printhost"⟩, "/printers/test-printer", none⟩) ∧
        ¬Announces told (Config.standard.printerUri (some "printhost")) := by
  have decoded : Message.decode requestWithoutPortOctets = .ok requestWithoutPort :=
    Wire.decode_eq_ok_iff.mpr ⟨by decide, rfl⟩
  have server : requestWithoutPort.printerServer? = some "printhost" := by decide +kernel
  have configured : Config.standard.printerUri (some "printhost") =
      .ok ⟨some "ipp", some ⟨"printhost:631"⟩, "/printers/test-printer", none⟩ := by
    decide +kernel
  have advertised : unconnected.advertisedPrinter requestWithoutPort =
      .ok ⟨some "ipp", some ⟨"printhost"⟩, "/printers/test-printer", none⟩ := by
    decide +kernel
  have asks : requestWithoutPort.AsksForPrinters := by decide
  have appended := unconnected.groups_handle_of_asksForPrinters asks {}
  have announces := announces_printerGroup (unconnected.advertisedPrinter requestWithoutPort)
  rw [advertised] at appended announces
  refine ⟨decoded, server, configured, _, appended, announces, ?_⟩
  rw [configured]
  intro agrees
  have sameText := announces.render_eq agrees
  revert sameText
  decide

end Dispatcher

end PrintProxy
