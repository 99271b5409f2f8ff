import PrintProxy.Proofs.Dispatcher.Advertising
import PrintProxy.Proofs.Operation.Frame

/-!
# Under which name the printer is advertised

The configured name is put into the text of a URI, and the name that is told is
read off the URI again.  It is the configured one exactly if that can be one
segment of a path and the text is not too long.  Any other name is told in part,
or the printer is not told of at all.
-/

namespace PrintProxy

/-- The groups are one that tells of a printer under a name. -/
def Names (groups : List AttributeGroup) (name : String) : Prop :=
  ∃ group : AttributeGroup, groups = [group] ∧ group.tag = .printerAttributes ∧
    group.get? AttributeName.printerName =
      some (.ofValue AttributeName.printerName (.nameWithoutLanguage name))

theorem get?_printerName_printerGroup (printer : Uri) :
    (printerGroup printer).get? AttributeName.printerName =
      some (.ofValue AttributeName.printerName (.nameWithoutLanguage printer.printerName)) := by
  apply AttributeGroup.get?_addAll_append
    [.ofValue AttributeName.printerUriSupported (.uri printer.render)]
  simp only [List.forall_mem_cons, Attribute.name_ofValue, List.not_mem_nil, false_implies,
    implies_true, and_true]
  decide

theorem names_printerGroup_iff {printer : Uri} {name : String} :
    Names [printerGroup printer] name ↔ printer.printerName = name := by
  constructor
  · intro names
    obtain ⟨_, same, _, found⟩ := names
    cases same
    rw [get?_printerName_printerGroup] at found
    have texts := congrArg Attribute.string (Option.some.inj found)
    rwa [Value.nameWithoutLanguage, Value.nameWithoutLanguage, Attribute.string_ofValue_text,
      Attribute.string_ofValue_text] at texts
  · intro same
    subst same
    exact ⟨_, rfl, AttributeGroup.tag_addAll _ _, get?_printerName_printerGroup printer⟩

/-- The groups name a printer by what is found of it, if it is found at all. -/
theorem names_map_printerGroup_iff {advertised : Except UriFault Uri} {name : String} :
    Names (advertised.toOption.toList.map printerGroup) name ↔
      ∃ printer, advertised = .ok printer ∧ printer.printerName = name := by
  cases advertised with
  | error fault =>
      constructor
      · intro names
        obtain ⟨_, nothing, _⟩ := names
        cases nothing
      · intro found
        obtain ⟨_, same, _⟩ := found
        cases same
  | ok printer =>
      refine names_printerGroup_iff.trans ⟨fun same => ⟨printer, rfl, same⟩, ?_⟩
      rintro ⟨_, ⟨⟩, same⟩
      exact same

namespace Dispatcher

theorem amends_repeatedGroups (request : Message) :
    request.attributes.Amends .jobAttributes jobAddressNames ⟨request.repeatedGroups⟩ := by
  rw [Message.repeatedGroups, Operation.nameJob_eq_addAll]
  refine Attributes.amends_addAll ?_ request.attributes .jobAttributes
  intro attr addresses
  rcases Operation.eq_of_mem_jobAddress addresses with ⟨_, rfl⟩ | ⟨_, _, _, rfl⟩ <;>
    simp [jobAddressNames]

/-- A request for printers is answered with its own groups, of which only the job attributes may be
amended, and with what is told of the configured printer.  This is one group under the configured
name exactly if the name can be one segment of a path and there is room for it in a URI.  Otherwise
it is one group under what is found of the name, or nothing if the text of the URI is none. -/
theorem handle_names_printer_iff (dispatcher : Dispatcher) (request : Message)
    (asks : request.AsksForPrinters) (isNamed : dispatcher.printerName ≠ "") (state : State) :
    ∃ told, (dispatcher.handle request state).1.attributes.groups =
        request.repeatedGroups ++ told ∧
      request.attributes.Amends .jobAttributes jobAddressNames ⟨request.repeatedGroups⟩ ∧
      (Names told dispatcher.printerName ↔
        Uri.IsSegment dispatcher.printerName ∧
          16 + request.advertisingServer.utf8ByteSize + dispatcher.printerName.utf8ByteSize ≤
            Uri.greatestLength) ∧
      ((∃ fault, dispatcher.advertisedPrinter request = .error fault) ∧ told = [] ∨
        Names told (Uri.nameFound dispatcher.printerName)) := by
  have server := request.namesServer_advertisingServer
  have text := dispatcher.advertisedPrinter_eq request
  refine ⟨_, dispatcher.groups_handle_of_asksForPrinters asks state,
    amends_repeatedGroups request, ?_, ?_⟩
  · rw [names_map_printerGroup_iff, text]
    exact Uri.exists_printerName_iff server isNamed
  · cases advertised : dispatcher.advertisedPrinter request with
    | error fault => exact .inl ⟨⟨fault, rfl⟩, rfl⟩
    | ok printer =>
        right
        have found := Uri.printerName_of_advertised server.noTerminator (text.symm.trans advertised)
        exact names_printerGroup_iff.mpr found

/-- A dispatcher that advertises its printer under a name. -/
def advertising (printerName : String) : Dispatcher := { unconnected with printerName }

theorem handle_names_printer_iff_office :
    ∃ told, ((advertising "office-2").handle requestWithPort {}).1.attributes.groups =
        requestWithPort.repeatedGroups ++ told ∧
      Names told "office-2" := by
  obtain ⟨told, appended, _, names, _⟩ :=
    handle_names_printer_iff (advertising "office-2") requestWithPort (by decide) (by decide) {}
  have server : requestWithPort.advertisingServer = "printhost:8631" := by decide +kernel
  rw [server] at names
  exact ⟨told, appended, names.mpr ⟨by decide, by decide⟩⟩

/-- Of a name with a slash in it only what stands behind is told. -/
theorem handle_names_otherPrinter :
    ∃ told, ((advertising "floor2/office").handle requestWithPort {}).1.attributes.groups =
        requestWithPort.repeatedGroups ++ told ∧
      Names told "office" ∧ ¬Names told "floor2/office" := by
  have advertised : (advertising "floor2/office").advertisedPrinter requestWithPort =
      .ok ⟨some "ipp", some ⟨"printhost:8631"⟩, "/printers/floor2/office", none⟩ := by
    decide +kernel
  have asks : requestWithPort.AsksForPrinters := by decide
  have appended := (advertising "floor2/office").groups_handle_of_asksForPrinters asks {}
  rw [advertised] at appended
  refine ⟨_, appended, names_printerGroup_iff.mpr (by decide), ?_⟩
  intro names
  have same := names_printerGroup_iff.mp names
  revert same
  decide

end Dispatcher

end PrintProxy
