import MethodRoles.SlotType.Basic

/-!
# The vocabulary of type spellings

The fixed spellings, in normal spacing, that name a type as a whole.  The other
words with a fixed part in a spelling are listed here too: qualifiers, which
change nothing, and the generic names, which make a group of their arguments.
-/

namespace MethodRoles.Spelling

/-- The vocabulary entries of one type. -/
def entriesOf (type : SlotType) (spellings : List String) : List (Text × SlotType) :=
  spellings.map fun spelling => (spelling.toList, type)

/-- The spellings that name a type as a whole. -/
def vocabulary : List (Text × SlotType) :=
  entriesOf (.scalar "int".toList)
      ["int", "short", "signed char", "unsigned int", "unsigned short", "unsigned char",
        "unsigned", "vtkIdType", "size_t", "int8", "int16", "int32", "uint8", "uint16",
        "uint32"] ++
    entriesOf (.scalar "long".toList)
      ["long", "long long", "unsigned long", "unsigned long long", "__int64",
        "unsigned __int64", "int64", "uint64", "vtkTypeInt64", "vtkTypeUInt64"] ++
    entriesOf (.scalar "float".toList) ["float", "double"] ++
    entriesOf (.scalar "bool".toList) ["bool"] ++
    entriesOf (.scalar "char".toList) ["char"] ++
    entriesOf (.scalar "string".toList)
      ["string", "str", "bytes", "char*", "void*", "std::string", "vtkStdString"] ++
    entriesOf (.scalar "unicode".toList) ["unicode", "vtkUnicodeString"] ++
    entriesOf (.scalar "pointer".toList) ["Pointer", "pointer"] ++
    entriesOf .function ["function", "Callback", "callable", "Callable", "PyObject*"] ++
    entriesOf .absent ["None", "NoneType", "void"]

/-- The type that a spelling names as a whole. -/
def lookup? (spelling : Text) : Option SlotType :=
  vocabulary.lookup spelling

/-- The words, each with its space, that may stand before a type and leave it as it is. -/
def qualifiers : List Text :=
  ["const ", "struct ", "class ", "enum ", "virtual ", "static "].map String.toList

/-- The generic names whose subscript is a tuple. -/
def tupleNames : List Text :=
  ["Tuple", "tuple"].map String.toList

/-- The generic names whose subscript lists the elements of a sequence. -/
def sequenceNames : List Text :=
  ["List", "list", "Sequence", "MutableSequence", "Iterable", "Iterator"].map String.toList

/-- The templates whose arguments are the elements of a sequence. -/
def containerTemplates : List Text :=
  ["std::vector", "vector", "std::list", "std::deque", "std::set"].map String.toList

/-- The templates that stand for their only argument. -/
def holderTemplates : List Text :=
  ["vtkSmartPointer", "vtkNew", "vtkWeakPointer"].map String.toList

end MethodRoles.Spelling
