import CallTracer.Text
/-! The catalogue of the types that the tracer can print. -/
namespace CallTracer

/-- How a parameter is turned into what is printed for it. -/
inductive Conversion
  | asIs
  | enumName
  | widenUnsigned
  | widenSigned
  deriving DecidableEq, Repr

/-- The macro of the generated source that names the value of an enumeration. -/
def enumToString : Text := "E2S".toList

def Conversion.apply (c : Conversion) (name : Text) : Text :=
  match c with
  | asIs => name
  | enumName => enumToString ++ '(' :: name ++ [')']
  | widenUnsigned => "(unsigned int)(".toList ++ name ++ [')']
  | widenSigned => "(int)(".toList ++ name ++ [')']

/-- How `printf` shows a value; `none` belongs to types without values. -/
inductive Directive
  | none
  | string
  | unsigned
  | signed
  | floating
  | size
  | wide
  | hexadecimal
  | pointer
  deriving DecidableEq, Repr

/-- The text of a directive inside a string literal; the wide one interrupts the literal. -/
def Directive.text : Directive → Text
  | none => []
  | string => "%s".toList
  | unsigned => "%u".toList
  | signed => "%i".toList
  | floating => "%f".toList
  | size => "%zu".toList
  | wide => "%\" PRId64\"".toList
  | hexadecimal => "%x".toList
  | pointer => "%p".toList

/-- A type that the tracer can print; `absent` stands for a result without type. -/
inductive KnownType
  | void
  | absent
  | enum
  | bitfield
  | boolean
  | byte
  | char
  | ubyte
  | ushort
  | short
  | uint
  | int
  | sizei
  | float
  | double
  | uint64
  | int64
  | sizeiptr
  | intptr
  | sync
  | debugProc
  | constFloat
  | constFloatPtr
  | constDoublePtr
  | constIntPtr
  | constUintPtr
  | constGenericPtr
  | constVoidPtr
  | constEnumPtr
  | constCharPtr
  | constUbytePtr
  | constSizeiPtr
  | constUint64Ptr
  | constInt64Ptr
  | constIntptrPtr
  | constSizeiptrPtr
  | constCharPtrConstPtr
  | voidPtrPtr
  | floatPtr
  | doublePtr
  | intPtr
  | uintPtr
  | genericPtr
  | voidPtr
  | enumPtr
  | charPtr
  | ubytePtr
  | booleanPtr
  | sizeiPtr
  | uint64Ptr
  | int64Ptr
  | intptrPtr
  deriving DecidableEq, Repr

namespace KnownType

/-- In the order of the catalogue. -/
def all : List KnownType :=
  [void, absent, enum, bitfield, boolean, byte, char, ubyte, ushort, short, uint, int, sizei, float,
    double, uint64, int64, sizeiptr, intptr, sync, debugProc, constFloat, constFloatPtr,
    constDoublePtr, constIntPtr, constUintPtr, constGenericPtr, constVoidPtr, constEnumPtr,
    constCharPtr, constUbytePtr, constSizeiPtr, constUint64Ptr, constInt64Ptr, constIntptrPtr,
    constSizeiptrPtr, constCharPtrConstPtr, voidPtrPtr, floatPtr, doublePtr, intPtr, uintPtr,
    genericPtr, voidPtr, enumPtr, charPtr, ubytePtr, booleanPtr, sizeiPtr, uint64Ptr, int64Ptr,
    intptrPtr]

/-- The spelling of a type, by which it is found. -/
def spelling : KnownType → Text
  | void => "void".toList
  | absent => []
  | enum => "GLenum".toList
  | bitfield => "GLbitfield".toList
  | boolean => "GLboolean".toList
  | byte => "GLbyte".toList
  | char => "GLchar".toList
  | ubyte => "GLubyte".toList
  | ushort => "GLushort".toList
  | short => "GLshort".toList
  | uint => "GLuint".toList
  | int => "GLint".toList
  | sizei => "GLsizei".toList
  | float => "GLfloat".toList
  | double => "GLdouble".toList
  | uint64 => "GLuint64".toList
  | int64 => "GLint64".toList
  | sizeiptr => "GLsizeiptr".toList
  | intptr => "GLintptr".toList
  | sync => "GLsync".toList
  | debugProc => "GLDEBUGPROC".toList
  | constFloat => "const GLfloat".toList
  | constFloatPtr => "const GLfloat*".toList
  | constDoublePtr => "const GLdouble*".toList
  | constIntPtr => "const GLint*".toList
  | constUintPtr => "const GLuint*".toList
  | constGenericPtr => "const GLvoid*".toList
  | constVoidPtr => "const void*".toList
  | constEnumPtr => "const GLenum*".toList
  | constCharPtr => "const GLchar*".toList
  | constUbytePtr => "const GLubyte*".toList
  | constSizeiPtr => "const GLsizei*".toList
  | constUint64Ptr => "const GLuint64*".toList
  | constInt64Ptr => "const GLint64*".toList
  | constIntptrPtr => "const GLintptr*".toList
  | constSizeiptrPtr => "const GLsizeiptr*".toList
  | constCharPtrConstPtr => "const GLchar* const*".toList
  | voidPtrPtr => "void**".toList
  | floatPtr => "GLfloat*".toList
  | doublePtr => "GLdouble*".toList
  | intPtr => "GLint*".toList
  | uintPtr => "GLuint*".toList
  | genericPtr => "GLvoid*".toList
  | voidPtr => "void*".toList
  | enumPtr => "GLenum*".toList
  | charPtr => "GLchar*".toList
  | ubytePtr => "GLubyte*".toList
  | booleanPtr => "GLboolean*".toList
  | sizeiPtr => "GLsizei*".toList
  | uint64Ptr => "GLuint64*".toList
  | int64Ptr => "GLint64*".toList
  | intptrPtr => "GLintptr*".toList

def directive : KnownType → Directive
  | void | absent => .none
  | enum => .string
  | bitfield | boolean | byte | char | ubyte | ushort | uint => .unsigned
  | short | int | sizei => .signed
  | float | double | constFloat => .floating
  | uint64 => .size
  | int64 | sizeiptr | intptr => .wide
  | sync => .hexadecimal
  | _ => .pointer

def conversion : KnownType → Conversion
  | enum => .enumName
  | bitfield | boolean | byte | char | ubyte | ushort => .widenUnsigned
  | short => .widenSigned
  | _ => .asIs

def isVoid : KnownType → Bool
  | void | absent => true
  | _ => false

def ofSpelling? (spelling : Text) : Option KnownType := all.find? (·.spelling = spelling)

theorem mem_all (t : KnownType) : t ∈ all := by cases t <;> decide

theorem nodup_spellings : (all.map spelling).Nodup := by decide

@[simp] theorem ofSpelling?_spelling (t : KnownType) : ofSpelling? t.spelling = some t := by
  cases t <;> decide

theorem spelling_injective {s t : KnownType} (h : s.spelling = t.spelling) : s = t := by
  have := ofSpelling?_spelling s
  rw [h, ofSpelling?_spelling] at this
  exact (Option.some.inj this).symm

theorem spelling_of_ofSpelling? {s : Text} {t : KnownType} (h : ofSpelling? s = some t) :
    t.spelling = s := by
  have := List.find?_some h
  simpa using this

end KnownType
end CallTracer
