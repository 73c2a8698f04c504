import MethodRoles.Classifier
import MethodRoles.Spelling.Capacity
import MethodRoles.Probe.Scripted
import MethodRoles.Scan.Reader
import MethodRoles.Inheritance.Update
import MethodRoles.Inheritance.MethodIndex
import MethodRoles.Scan.Group
import MethodRoles.Scan.Word
import MethodRoles.Overload.HeadReading
import MethodRoles.Role.Selection
import MethodRoles.Proofs.Role.Conservation
import MethodRoles.Proofs.Role.Independence
import MethodRoles.Proofs.Role.Restoration
import MethodRoles.Proofs.Overload.RoundTrip
import MethodRoles.Proofs.Overload.Layout
import MethodRoles.Proofs.Role.Sorting
import MethodRoles.Proofs.Role.Family
import MethodRoles.Proofs.Role.Overlap
import MethodRoles.Proofs.Role.Calls
import MethodRoles.Proofs.Role.Values
import MethodRoles.Proofs.Inheritance.Growth
import MethodRoles.Proofs.Inheritance.Climbing
import MethodRoles.Proofs.Inheritance.Building
import MethodRoles.Proofs.Inheritance.Levels
import MethodRoles.Proofs.Inheritance.Registration
import MethodRoles.Proofs.Spelling.ClassName
import MethodRoles.Proofs.Spelling.Regular
import MethodRoles.Proofs.Overload.NormalForm
import MethodRoles.Proofs.Overload.Recognition
import MethodRoles.Proofs.Spelling.Capacity
import MethodRoles.Proofs.Spelling.Stable
import MethodRoles.Proofs.Inheritance.Walks
import MethodRoles.Proofs.Role.Order
import MethodRoles.Proofs.Inheritance.Agreement
import MethodRoles.Proofs.Role.Trials
import MethodRoles.Proofs.Role.Grouping
import MethodRoles.Proofs.Role.Pairing
import MethodRoles.Proofs.Inheritance.Searching
import MethodRoles.Proofs.Role.Source
import MethodRoles.Proofs.Inheritance.Overlay
import MethodRoles.Proofs.Overload.Prose
import MethodRoles.Proofs.Overload.Filling
import MethodRoles.Proofs.Overload.EmptyItems
import MethodRoles.Proofs.Overload.NativeParameter
import MethodRoles.Proofs.SlotType.Accepting
import MethodRoles.Proofs.Spelling.Array
import MethodRoles.Proofs.Spelling.Respacing
import MethodRoles.Proofs.Inheritance.Circle
import MethodRoles.Proofs.Inheritance.MethodIndex
import MethodRoles.Proofs.Scan.Balance
import MethodRoles.Proofs.Overload.HeadGrammar
import MethodRoles.Proofs.Role.Selection
