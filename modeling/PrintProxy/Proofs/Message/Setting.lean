import PrintProxy.Proofs.Attributes.Placement
import PrintProxy.Proofs.Message.Getters
import PrintProxy.Proofs.Uri.Rendering

/-!
# Setting properties

A typed setter of a message adds one attribute, so the law of adding is a law of
setting: its getter reads back what was set unless something else is stated
ahead, every other getter reads what it read, and the rest of the message stays.
-/

namespace PrintProxy

namespace Uri

/-- The text of a URI that was read is read again, unless it has become too long. -/
theorem parse_render_eq {text : String} {uri : Uri} (parsed : parse text = .ok uri) :
    parse uri.render =
      if uri.render.utf8ByteSize ≤ greatestLength then .ok { uri with writtenPath := uri.path }
      else .error .tooLong := by
  split
  · next fits => exact parse_render parsed fits
  · next tooLong => rw [parse, if_pos (Nat.lt_of_not_le tooLong)]

end Uri

namespace Message

/-- What becomes of a message when a property of it is set. -/
structure IsSet (before : Message) (property : Property) (content : property.Content)
    (after : Message) : Prop where
  receives : before.attributes.Receives property.tag
    (.ofValue property.name (property.value content)) after.attributes
  header : after.header = before.header
  payload : after.payload = before.payload
  readBack_iff : property.get after = property.readBack content ↔
    ¬before.StatesAhead property.tag property.name ∨
      property.get before = property.readBack content
  hidden : before.StatesAhead property.tag property.name →
    property.get after = property.get before
  others : ∀ other : Property, other ≠ property → other.get after = other.get before
  /-- Setting the property to the same content again changes nothing. -/
  again : property.set after content = after

theorem isSet_set (message : Message) (property : Property) (content : property.Content) :
    message.IsSet property content (property.set message content) where
  receives := by
    rw [Property.set_eq]
    exact Attributes.receives_add _ _ _
  header := by rw [Property.set_eq]; rfl
  payload := by rw [Property.set_eq]; rfl
  readBack_iff := Property.get_set_eq_readBack_iff message property content
  hidden stated := Property.get_set_of_statesAhead stated content
  others _ differs := Property.get_set_of_ne differs message content
  again := by
    simp only [Property.set_eq, add, Attributes.add_add]

/-- What is found under a name is what stands at the place that is found; adding an attribute to any
list of groups changes the one place that receives it; and a typed setter inherits this for its
getter.  A URI is read back as the URI that its text shows. -/
theorem receives_add_and_isSet_set :
    (∀ (attributes : Attributes) (name : String),
      attributes.get? name = (attributes.place? name).bind attributes.at?) ∧
    (∀ (attributes : Attributes) (tag : DelimiterTag) (attr : Attribute),
      attributes.Receives tag attr (attributes.add tag attr)) ∧
    (∀ (message : Message) (property : Property) (content : property.Content),
      message.IsSet property content (property.set message content)) ∧
    ∀ (text : String) (uri : Uri), Uri.parse text = .ok uri →
      Uri.parse uri.render =
        if uri.render.utf8ByteSize ≤ Uri.greatestLength then
          .ok { uri with writtenPath := uri.path }
        else .error .tooLong :=
  ⟨Attributes.get?_eq_bind_place?, Attributes.receives_add, isSet_set,
    fun _ _ parsed => Uri.parse_render_eq parsed⟩

/-- The attribute that numbers a job. -/
def numberingJob (number : Int32) : Attribute := .ofValue AttributeName.jobId (.integer number)

/-- The first group repeats a name, the second one has it too, and the last one has the delimiter of
the first. -/
def numberedThrice : Attributes :=
  ⟨[⟨.jobAttributes, [numberingJob 1, numberingJob 2]⟩,
    ⟨.operationAttributes, [numberingJob 3]⟩,
    ⟨.jobAttributes, [.ofValue AttributeName.copies (.integer 4)]⟩]⟩

/-- A first group of the delimiter, a group behind one that has the name, a group that is not there,
and a path that was left out in front of a query, which is read back as the root. -/
theorem receives_add_and_isSet_set_numberedThrice :
    ((numberedThrice.add .jobAttributes (numberingJob 5)).get? AttributeName.jobId =
        some (numberingJob 5) ∧
      (numberedThrice.add .jobAttributes (numberingJob 5)).size = 4 ∧
      (numberedThrice.add .jobAttributes (numberingJob 5)).at? ⟨0, 1⟩ = some (numberingJob 2)) ∧
    ((numberedThrice.add .operationAttributes (numberingJob 5)).get? AttributeName.jobId =
        some (numberingJob 1) ∧
      (numberedThrice.add .operationAttributes (numberingJob 5)).place? AttributeName.jobId ≠
        some ⟨1, 0⟩) ∧
    ((numberedThrice.add .printerAttributes (.ofValue "media" (.integer 5))).get? "media" =
        some (.ofValue "media" (.integer 5)) ∧
      (numberedThrice.add .printerAttributes (.ofValue "media" (.integer 5))).groups.map (·.tag) =
        [.jobAttributes, .operationAttributes, .jobAttributes, .printerAttributes]) ∧
    ((Message.setJobId ⟨⟨.v2_0, 0x0002, 5⟩, numberedThrice, []⟩ 7).jobId = .ok 1 ∧
      (Message.setJobState ⟨⟨.v2_0, 0x0002, 5⟩, numberedThrice, []⟩ .pending).jobState =
        .ok .pending) ∧
    Uri.parse (Uri.render ⟨some "ipp", some ⟨"printer"⟩, "", some "tray"⟩) =
      .ok ⟨some "ipp", some ⟨"printer"⟩, "/", some "tray"⟩ := by
  have own := receives_add_and_isSet_set.2.1 numberedThrice .jobAttributes (numberingJob 5)
  have taken := receives_add_and_isSet_set.2.1 numberedThrice .operationAttributes (numberingJob 5)
  have absent := receives_add_and_isSet_set.2.1 numberedThrice .printerAttributes
    (.ofValue "media" (.integer 5))
  have numbered := receives_add_and_isSet_set.2.2.1 ⟨⟨.v2_0, 0x0002, 5⟩, numberedThrice, []⟩
    .jobId (7 : Int32)
  have waiting := receives_add_and_isSet_set.2.2.1 ⟨⟨.v2_0, 0x0002, 5⟩, numberedThrice, []⟩
    .jobState JobState.pending
  have parsed : Uri.parse "ipp://printer?tray" =
      .ok ⟨some "ipp", some ⟨"printer"⟩, "", some "tray"⟩ := by decide +kernel
  have fits : (Uri.render ⟨some "ipp", some ⟨"printer"⟩, "", some "tray"⟩).utf8ByteSize ≤
      Uri.greatestLength := by decide +kernel
  have pathless := receives_add_and_isSet_set.2.2.2 _ _ parsed
  rw [if_pos fits] at pathless
  refine ⟨⟨?_, ?_, ?_⟩, ⟨?_, ?_⟩, ⟨?_, ?_⟩, ⟨?_, ?_⟩, pathless⟩
  · exact own.found_iff.mpr (.inl (by decide))
  · exact own.size.trans (by decide)
  · exact (own.kept ⟨0, 1⟩ (by decide)).trans (by decide)
  · exact (taken.hidden (by decide)).trans (by decide)
  · exact fun found => taken.isFound_iff.mp found (by decide)
  · exact absent.found_iff.mpr (.inl (by decide))
  · exact absent.tags.trans (by decide)
  · exact (numbered.hidden (by decide)).trans rfl
  · exact waiting.readBack_iff.mpr (.inl (by decide))

/-- The name is taken ahead, yet what is found equals the added attribute: it is the one ahead. -/
theorem get?_add_twin :
    ¬((Attributes.add ⟨[⟨.operationAttributes, [numberingJob 1]⟩]⟩ .jobAttributes
          (numberingJob 1)).get? AttributeName.jobId = some (numberingJob 1) ↔
      ¬Attributes.NamesAhead ⟨[⟨.operationAttributes, [numberingJob 1]⟩]⟩ .jobAttributes
        AttributeName.jobId) := by
  decide

end Message

end PrintProxy
