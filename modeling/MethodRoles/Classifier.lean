import MethodRoles.Inheritance.Hierarchy
import MethodRoles.Role.Sorting

/-!
# The classifier

A classifier classifies one class after the other and remembers the last result.
The values come from an object that the client brings along, or from a fresh
one.  A fresh object is of the class itself if it can be made; otherwise a
hierarchy may lead to a related class, first among those below, then among those
above.

A policy says whether the hierarchy is used and which classes are never made an
object of.  Classes whose names end in `Viewer` open windows and are never
among the allowed ones.
-/

namespace MethodRoles

/-- Which fresh objects may be made. -/
structure ProbePolicy where
  /-- Whether objects of related classes may stand in. -/
  usesHierarchy : Bool
  /-- The classes that are never made an object of. -/
  excluded : List Text
deriving DecidableEq

namespace ProbePolicy

/-- The end of the names of classes that open windows. -/
def windowedSuffix : Text :=
  "Viewer".toList

/-- Whether an object of a class may be made. -/
def allows (policy : ProbePolicy) (className : Text) : Bool :=
  !policy.excluded.contains className && !Text.endsWith windowedSuffix className

/-- The excluded classes in reports, between braces. -/
def describeExcluded (policy : ProbePolicy) : Text :=
  '\x7b' :: Text.join [',', ' '] ((Text.distinct policy.excluded).map Text.quoted) ++ ['\x7d']

end ProbePolicy

/-- The classes related to a class, in the order in which they are tried. -/
def Hierarchy.related {Object : Type} (hierarchy : Hierarchy Object) (className : Text) :
    List Text :=
  hierarchy.descendants className ++ hierarchy.ancestors className

/-- The first allowed class related to a class of which an object can be made. -/
def ProbePolicy.relatedSource? {Object : Type} (policy : ProbePolicy)
    (hierarchy : Hierarchy Object) (className : Text) : Option (Text × Object) :=
  ((hierarchy.related className).filter policy.allows).findSome? fun candidate =>
    (hierarchy.instantiate? candidate).map fun object => (candidate, object)

/-- The class that a fresh object for a class is made of, with the object. -/
def ProbePolicy.source? {Object : Type} (policy : ProbePolicy)
    (hierarchy? : Option (Hierarchy Object)) (directory : Directory Object) :
    Option (Text × Object) :=
  if policy.allows directory.className then
    match directory.object?, hierarchy? with
    | some object, _ => some (directory.className, object)
    | none, some hierarchy =>
        if policy.usesHierarchy then
          policy.relatedSource? hierarchy directory.className
        else
          none
    | none, none => none
  else
    none

/-- A policy, a hierarchy and the last result. -/
structure Classifier (Object : Type) where
  /-- Which fresh objects may be made. -/
  policy : ProbePolicy
  /-- Where related classes are looked up. -/
  hierarchy? : Option (Hierarchy Object)
  /-- The result of the last classification. -/
  last : Classification

namespace Classifier

variable {Object : Type}

/-- A classifier that has classified nothing yet. -/
def start (policy : ProbePolicy) (hierarchy? : Option (Hierarchy Object)) :
    Classifier Object :=
  ⟨policy, hierarchy?, .blank⟩

/-- The description of a classifier in reports. -/
def describe (classifier : Classifier Object) : Text :=
  let written (truth : Bool) : Text := if truth then "true".toList else "false".toList
  "Classifier \x7b config: ClassifierConfig \x7b use_hierarchy: ".toList ++
    written classifier.policy.usesHierarchy ++ ", no_probe: ".toList ++
    classifier.policy.describeExcluded ++ " \x7d, hierarchy: ".toList ++
    written classifier.hierarchy?.isSome ++ ", parsed: ".toList ++
    Text.quoted classifier.last.className ++ " \x7d".toList

variable [Probeable Object]

/-- Classify a class with the values of a fresh object, and list the calls on it. -/
def classifyClass (classifier : Classifier Object) (directory : Directory Object) :
    Classifier Object × List Call :=
  let source? := classifier.policy.source? classifier.hierarchy? directory
  let probe := source?.map fun source => Recorded.created source.2
  let (classification, probe) := directory.classify probe
  ({ classifier with last := classification }, (probe.map Recorded.calls).getD [])

/-- Classify a class with the values of a given object, and list the calls on it. -/
def classifyObject (classifier : Classifier Object) (directory : Directory Object)
    (object : Object) : Classifier Object × Object × List Call :=
  match directory.classify (some (Recorded.borrowed object)) with
  | (classification, some recorded) =>
      ({ classifier with last := classification }, recorded.object, recorded.calls)
  | (classification, none) => ({ classifier with last := classification }, object, [])

end Classifier

end MethodRoles
