import PrintProxy.Attribute

/-!
# Attribute groups and attribute lists

A group holds attributes under a delimiter, a list holds groups; both keep
their order and may repeat names and delimiters.  Adding to a group puts an
attribute in the place of the first one of its name, or behind all; adding to a
list adds to the first group of the delimiter, or to a new group behind all.
-/

namespace PrintProxy

/-- Changes the first item that passes a test, or puts a new one behind all. -/
def changeFirst {α : Type} (isMeant : α → Bool) (change : α → α) (fresh : α) : List α → List α
  | [] => [fresh]
  | item :: rest =>
      if isMeant item then change item :: rest else item :: changeFirst isMeant change fresh rest

/-- Attributes under a delimiter. -/
structure AttributeGroup where
  tag : DelimiterTag
  attributes : List Attribute
deriving DecidableEq, Repr

namespace AttributeGroup

def empty (tag : DelimiterTag) : AttributeGroup := ⟨tag, []⟩

def get? (group : AttributeGroup) (name : String) : Option Attribute :=
  group.attributes.find? (·.name == name)

/-- Puts an attribute in the place of the first one of its name, or behind all. -/
def add (group : AttributeGroup) (attr : Attribute) : AttributeGroup :=
  { group with
    attributes := changeFirst (·.name == attr.name) (fun _ => attr) attr group.attributes }

def addAll (group : AttributeGroup) (attrs : List Attribute) : AttributeGroup :=
  attrs.foldl add group

/-- Puts an attribute behind all, whatever its name. -/
def push (group : AttributeGroup) (attr : Attribute) : AttributeGroup :=
  { group with attributes := group.attributes ++ [attr] }

/-- Takes the first attribute of a name out: the attribute, and what is left. -/
def extract (group : AttributeGroup) (name : String) : Option Attribute × AttributeGroup :=
  match group.attributes.findIdx? (·.name == name) with
  | some position =>
      (group.attributes[position]?,
        { group with attributes := group.attributes.eraseIdx position })
  | none => (none, group)

def remove (group : AttributeGroup) (name : String) : AttributeGroup := (group.extract name).2

end AttributeGroup

/-- Groups in wire order. -/
structure Attributes where
  groups : List AttributeGroup
deriving DecidableEq, Repr

namespace Attributes

def empty : Attributes := ⟨[]⟩

def groupsOf (attributes : Attributes) (tag : DelimiterTag) : List AttributeGroup :=
  attributes.groups.filter (·.tag == tag)

def all (attributes : Attributes) : List Attribute := attributes.groups.flatMap (·.attributes)

def get? (attributes : Attributes) (name : String) : Option Attribute :=
  attributes.all.find? (·.name == name)

def size (attributes : Attributes) : Nat :=
  attributes.all.length

/-- Adds an attribute to the first group of a delimiter, or to a new group behind all. -/
def add (attributes : Attributes) (tag : DelimiterTag) (attr : Attribute) : Attributes :=
  ⟨changeFirst (·.tag == tag) (·.add attr) ((AttributeGroup.empty tag).add attr)
    attributes.groups⟩

def pushGroup (attributes : Attributes) (group : AttributeGroup) : Attributes :=
  ⟨attributes.groups ++ [group]⟩

end Attributes

end PrintProxy
