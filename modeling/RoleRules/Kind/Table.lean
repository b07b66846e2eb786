import RoleRules.Text.Digest
/-!
# The built-in kinds

Every object has a kind, and every kind is described by a table: its names and module,
its documentation, its bases, its *resolution order* (itself, then the kinds it inherits
from, in the order attributes are looked up), a few sizes and flags, and its *slots*: what
the kind itself holds under each name, in the order it holds them.

A slot holds one of:

* a method, a slot method (bound as a *method-wrapper*) or a class method, with its
  documentation and signature;
* an attribute computed from the instance, or stored in it; these two win over whatever the
  instance holds under the same name;
* a function already bound to the kind (its constructor), or a static method;
* a documentation text, or nothing.

The documentation texts are kept as digests (`Digest`). The table covers every kind that
can be reached from plain values by reading attributes: the kinds of those values, their
bases, the kinds of everything their slots hold, and so on, until nothing new appears.
-/
namespace RoleRules

/-- What a kind holds under one name. -/
inductive Slot where
  /-- a method, bound to the instance it is read from -/
  | method (doc : Option Digest) (signature : Option String)
  /-- a slot method, bound to the instance as a method-wrapper -/
  | wrapper (doc : Option Digest) (signature : Option String)
  /-- a class method, bound to the kind it is read from -/
  | classMethod (doc : Option Digest) (signature : Option String)
  /-- an attribute computed from the instance -/
  | computed (doc : Option Digest)
  /-- an attribute stored in the instance -/
  | member (doc : Option Digest)
  /-- a function bound to the kind once and for all -/
  | builtin (doc : Option Digest) (signature : Option String)
  /-- a static method: a function bound to nothing -/
  | static (doc : Option Digest) (signature : Option String)
  /-- a documentation text -/
  | text (doc : Digest)
  /-- nothing -/
  | none

namespace Slot

/-- Whether the slot wins over the instance's own entries: computed and stored
attributes do. -/
def overrides : Slot → Bool
  | computed _ | member _ => true
  | _ => false

/-- The documentation of what the slot holds. -/
def doc? : Slot → Option Digest
  | method d _ | wrapper d _ | classMethod d _ | computed d | member d | builtin d _
  | static d _ => d
  | text _ | none => Option.none

/-- The signature of what the slot holds. -/
def signature? : Slot → Option String
  | method _ s | wrapper _ s | classMethod _ s | builtin _ s | static _ s => s
  | _ => Option.none

end Slot

/-- The built-in kinds of objects. -/
inductive Kind where
  | object
  | type
  | none
  | bool
  | int
  | float
  | str
  | list
  | tuple
  | dict
  | namespace
  | mappingProxy
  | builtinFunction
  | methodWrapper
  | methodDescriptor
  | wrapperDescriptor
  | classMethodDescriptor
  | getSetDescriptor
  | memberDescriptor
  | staticMethod
deriving DecidableEq, Inhabited

/-- The description of a kind. -/
structure KindInfo where
  name : String
  qualname : String
  module : String
  /-- its documentation; when absent, the kind reads its own `__doc__` slot -/
  doc : Option Digest
  signature : Option String
  base : Option Kind
  bases : List Kind
  /-- the resolution order: the kind, then the kinds it inherits from -/
  mro : List Kind
  basicSize : Nat
  itemSize : Nat
  flags : Nat
  weakrefOffset : Nat
  dictOffset : Nat
  /-- the kind's own slots, in order -/
  slots : List (String × Slot)

/-- The description of the kind object. -/
def KindInfo.object : KindInfo where
  name := "object"
  qualname := "object"
  module := "builtins"
  doc := some ⟨173, 10773293258331966451⟩
  signature := some "()"
  base := Option.none
  bases := []
  mro := [.object]
  basicSize := 16
  itemSize := 0
  flags := 529664
  weakrefOffset := 0
  dictOffset := 0
  slots := [
    ("__new__", .builtin (some ⟨71, 8443550207110521336⟩) (some "($type, *args, **kwargs)")),
    ("__repr__", .wrapper (some ⟨18, 12900174875343279371⟩) (some "($self, /)")),
    ("__hash__", .wrapper (some ⟨18, 9763334783979631526⟩) (some "($self, /)")),
    ("__str__", .wrapper (some ⟨17, 977681581763616165⟩) (some "($self, /)")),
    ("__getattribute__", .wrapper (some ⟨27, 9203573781539796766⟩) (some "($self, name, /)")),
    ("__setattr__", .wrapper (some ⟨37, 135107462226293980⟩) (some "($self, name, value, /)")),
    ("__delattr__", .wrapper (some ⟨30, 7160934921947280034⟩) (some "($self, name, /)")),
    ("__lt__", .wrapper (some ⟨18, 7456414128569676616⟩) (some "($self, value, /)")),
    ("__le__", .wrapper (some ⟨19, 10890637951357037409⟩) (some "($self, value, /)")),
    ("__eq__", .wrapper (some ⟨19, 8510901444924553488⟩) (some "($self, value, /)")),
    ("__ne__", .wrapper (some ⟨19, 9416577791280775068⟩) (some "($self, value, /)")),
    ("__gt__", .wrapper (some ⟨18, 10984575993019088330⟩) (some "($self, value, /)")),
    ("__ge__", .wrapper (some ⟨19, 10467773679576807255⟩) (some "($self, value, /)")),
    ("__init__", .wrapper (some ⟨62, 3842527144151351868⟩) (some "($self, /, *args, **kwargs)")),
    ("__reduce_ex__", .method (some ⟨18, 2318139262418725782⟩) (some "($self, protocol, /)")),
    ("__reduce__", .method (some ⟨18, 2318139262418725782⟩) (some "($self, /)")),
    ("__getstate__", .method (some ⟨18, 2318139262418725782⟩) (some "($self, /)")),
    ("__subclasshook__", .classMethod (some ⟨308, 16065045164969326658⟩) Option.none),
    ("__init_subclass__", .classMethod (some ⟨135, 10247004311814609675⟩) Option.none),
    ("__format__", .method (some ⟨25, 4186372691807683491⟩) (some "($self, format_spec, /)")),
    ("__sizeof__", .method (some ⟨35, 6369484651399974912⟩) (some "($self, /)")),
    ("__dir__", .method (some ⟨29, 3397340315486238706⟩) (some "($self, /)")),
    ("__class__", .computed (some ⟨18, 3015774433455088441⟩)),
    ("__doc__", .text ⟨173, 10773293258331966451⟩)]

/-- The description of the kind type. -/
def KindInfo.type : KindInfo where
  name := "type"
  qualname := "type"
  module := "builtins"
  doc := some ⟨79, 255214862233525705⟩
  signature := Option.none
  base := some .object
  bases := [.object]
  mro := [.type, .object]
  basicSize := 904
  itemSize := 40
  flags := 2148031744
  weakrefOffset := 368
  dictOffset := 264
  slots := [
    ("__new__", .builtin (some ⟨71, 8443550207110521336⟩) (some "($type, *args, **kwargs)")),
    ("__repr__", .wrapper (some ⟨18, 12900174875343279371⟩) (some "($self, /)")),
    ("__call__", .wrapper (some ⟨24, 10200766467704223970⟩) (some "($self, /, *args, **kwargs)")),
    ("__getattribute__", .wrapper (some ⟨27, 9203573781539796766⟩) (some "($self, name, /)")),
    ("__setattr__", .wrapper (some ⟨37, 135107462226293980⟩) (some "($self, name, value, /)")),
    ("__delattr__", .wrapper (some ⟨30, 7160934921947280034⟩) (some "($self, name, /)")),
    ("__init__", .wrapper (some ⟨62, 3842527144151351868⟩) (some "($self, /, *args, **kwargs)")),
    ("__or__", .wrapper (some ⟨18, 8033188657347353352⟩) (some "($self, value, /)")),
    ("__ror__", .wrapper (some ⟨18, 10535789417649109894⟩) (some "($self, value, /)")),
    ("mro", .method (some ⟨40, 13424847686880884627⟩) (some "($self, /)")),
    ("__subclasses__", .method (some ⟨38, 1825841041936231780⟩) (some "($self, /)")),
    ("__prepare__", .classMethod (some ⟨74, 15925041741764472387⟩) Option.none),
    ("__instancecheck__", .method (some ⟨34, 13627698397482675272⟩) (some "($self, instance, /)")),
    ("__subclasscheck__", .method (some ⟨31, 2433164427009038612⟩) (some "($self, subclass, /)")),
    ("__dir__", .method (some ⟨45, 12644818579770367687⟩) (some "($self, /)")),
    ("__sizeof__", .method (some ⟨45, 836439323338117196⟩) (some "($self, /)")),
    ("__basicsize__", .member Option.none),
    ("__itemsize__", .member Option.none),
    ("__flags__", .member Option.none),
    ("__weakrefoffset__", .member Option.none),
    ("__base__", .member Option.none),
    ("__dictoffset__", .member Option.none),
    ("__mro__", .member Option.none),
    ("__name__", .computed Option.none),
    ("__qualname__", .computed Option.none),
    ("__bases__", .computed Option.none),
    ("__module__", .computed Option.none),
    ("__abstractmethods__", .computed Option.none),
    ("__dict__", .computed Option.none),
    ("__doc__", .computed Option.none),
    ("__text_signature__", .computed Option.none),
    ("__annotations__", .computed Option.none)]

/-- The description of the kind NoneType. -/
def KindInfo.none : KindInfo where
  name := "NoneType"
  qualname := "NoneType"
  module := "builtins"
  doc := Option.none
  signature := Option.none
  base := some .object
  bases := [.object]
  mro := [.none, .object]
  basicSize := 16
  itemSize := 0
  flags := 528640
  weakrefOffset := 0
  dictOffset := 0
  slots := [
    ("__new__", .builtin (some ⟨71, 8443550207110521336⟩) (some "($type, *args, **kwargs)")),
    ("__repr__", .wrapper (some ⟨18, 12900174875343279371⟩) (some "($self, /)")),
    ("__bool__", .wrapper (some ⟨23, 5137446720177675400⟩) (some "($self, /)")),
    ("__doc__", .none)]

/-- The description of the kind bool. -/
def KindInfo.bool : KindInfo where
  name := "bool"
  qualname := "bool"
  module := "builtins"
  doc := some ⟨222, 931342389775772892⟩
  signature := Option.none
  base := some .int
  bases := [.int]
  mro := [.bool, .int, .object]
  basicSize := 32
  itemSize := 4
  flags := 21500160
  weakrefOffset := 0
  dictOffset := 0
  slots := [
    ("__new__", .builtin (some ⟨71, 8443550207110521336⟩) (some "($type, *args, **kwargs)")),
    ("__repr__", .wrapper (some ⟨18, 12900174875343279371⟩) (some "($self, /)")),
    ("__and__", .wrapper (some ⟨18, 7391516040810037010⟩) (some "($self, value, /)")),
    ("__rand__", .wrapper (some ⟨18, 13172440587779893520⟩) (some "($self, value, /)")),
    ("__xor__", .wrapper (some ⟨18, 2436426972426695146⟩) (some "($self, value, /)")),
    ("__rxor__", .wrapper (some ⟨18, 15751759312345123304⟩) (some "($self, value, /)")),
    ("__or__", .wrapper (some ⟨18, 8033188657347353352⟩) (some "($self, value, /)")),
    ("__ror__", .wrapper (some ⟨18, 10535789417649109894⟩) (some "($self, value, /)")),
    ("__doc__", .text ⟨222, 931342389775772892⟩)]

/-- The description of the kind int. -/
def KindInfo.int : KindInfo where
  name := "int"
  qualname := "int"
  module := "builtins"
  doc := some ⟨605, 9847899740905644132⟩
  signature := Option.none
  base := some .object
  bases := [.object]
  mro := [.int, .object]
  basicSize := 24
  itemSize := 4
  flags := 21501184
  weakrefOffset := 0
  dictOffset := 0
  slots := [
    ("__new__", .builtin (some ⟨71, 8443550207110521336⟩) (some "($type, *args, **kwargs)")),
    ("__repr__", .wrapper (some ⟨18, 12900174875343279371⟩) (some "($self, /)")),
    ("__hash__", .wrapper (some ⟨18, 9763334783979631526⟩) (some "($self, /)")),
    ("__getattribute__", .wrapper (some ⟨27, 9203573781539796766⟩) (some "($self, name, /)")),
    ("__lt__", .wrapper (some ⟨18, 7456414128569676616⟩) (some "($self, value, /)")),
    ("__le__", .wrapper (some ⟨19, 10890637951357037409⟩) (some "($self, value, /)")),
    ("__eq__", .wrapper (some ⟨19, 8510901444924553488⟩) (some "($self, value, /)")),
    ("__ne__", .wrapper (some ⟨19, 9416577791280775068⟩) (some "($self, value, /)")),
    ("__gt__", .wrapper (some ⟨18, 10984575993019088330⟩) (some "($self, value, /)")),
    ("__ge__", .wrapper (some ⟨19, 10467773679576807255⟩) (some "($self, value, /)")),
    ("__add__", .wrapper (some ⟨18, 4129680204341720017⟩) (some "($self, value, /)")),
    ("__radd__", .wrapper (some ⟨18, 1570732800710843489⟩) (some "($self, value, /)")),
    ("__sub__", .wrapper (some ⟨18, 7542708837087806219⟩) (some "($self, value, /)")),
    ("__rsub__", .wrapper (some ⟨18, 15183929931739015507⟩) (some "($self, value, /)")),
    ("__mul__", .wrapper (some ⟨18, 17328777137735395310⟩) (some "($self, value, /)")),
    ("__rmul__", .wrapper (some ⟨18, 14812756991295402068⟩) (some "($self, value, /)")),
    ("__mod__", .wrapper (some ⟨18, 3111327488385849411⟩) (some "($self, value, /)")),
    ("__rmod__", .wrapper (some ⟨18, 6861162533413011787⟩) (some "($self, value, /)")),
    ("__divmod__", .wrapper (some ⟨27, 8613078014901994672⟩) (some "($self, value, /)")),
    ("__rdivmod__", .wrapper (some ⟨27, 15924393404957040896⟩) (some "($self, value, /)")),
    ("__pow__", .wrapper (some ⟨29, 4521693585478205445⟩) (some "($self, value, mod=None, /)")),
    ("__rpow__", .wrapper (some ⟨29, 3596758550649332797⟩) (some "($self, value, mod=None, /)")),
    ("__neg__", .wrapper (some ⟨5, 6298928102107170818⟩) (some "($self, /)")),
    ("__pos__", .wrapper (some ⟨5, 2716538612266555052⟩) (some "($self, /)")),
    ("__abs__", .wrapper (some ⟨9, 1539724111139280814⟩) (some "($self, /)")),
    ("__bool__", .wrapper (some ⟨23, 5137446720177675400⟩) (some "($self, /)")),
    ("__invert__", .wrapper (some ⟨5, 130210108659377467⟩) (some "($self, /)")),
    ("__lshift__", .wrapper (some ⟨19, 16802605675115457022⟩) (some "($self, value, /)")),
    ("__rlshift__", .wrapper (some ⟨19, 11321735471963159758⟩) (some "($self, value, /)")),
    ("__rshift__", .wrapper (some ⟨19, 7624184667552819318⟩) (some "($self, value, /)")),
    ("__rrshift__", .wrapper (some ⟨19, 13386176493055198226⟩) (some "($self, value, /)")),
    ("__and__", .wrapper (some ⟨18, 7391516040810037010⟩) (some "($self, value, /)")),
    ("__rand__", .wrapper (some ⟨18, 13172440587779893520⟩) (some "($self, value, /)")),
    ("__xor__", .wrapper (some ⟨18, 2436426972426695146⟩) (some "($self, value, /)")),
    ("__rxor__", .wrapper (some ⟨18, 15751759312345123304⟩) (some "($self, value, /)")),
    ("__or__", .wrapper (some ⟨18, 8033188657347353352⟩) (some "($self, value, /)")),
    ("__ror__", .wrapper (some ⟨18, 10535789417649109894⟩) (some "($self, value, /)")),
    ("__int__", .wrapper (some ⟨9, 1800783313396538727⟩) (some "($self, /)")),
    ("__float__", .wrapper (some ⟨11, 8345035503545068464⟩) (some "($self, /)")),
    ("__floordiv__", .wrapper (some ⟨19, 9581271784729116708⟩) (some "($self, value, /)")),
    ("__rfloordiv__", .wrapper (some ⟨19, 15552951119765811652⟩) (some "($self, value, /)")),
    ("__truediv__", .wrapper (some ⟨18, 11731607002379071661⟩) (some "($self, value, /)")),
    ("__rtruediv__", .wrapper (some ⟨18, 3062572872689186917⟩) (some "($self, value, /)")),
    ("__index__", .wrapper (some ⟨89, 12320190436868253103⟩) (some "($self, /)")),
    ("conjugate", .method (some ⟨47, 5256206067415334823⟩) Option.none),
    ("bit_length", .method (some ⟨101, 6247951601421416152⟩) (some "($self, /)")),
    ("bit_count", .method (some ⟨156, 17864963136880479905⟩) (some "($self, /)")),
    ("to_bytes", .method (some ⟨769, 13203777893161764792⟩) (some "($self, /, length=1, byteorder='big', *, signed=False)")),
    ("from_bytes", .classMethod (some ⟨764, 5931668090696114633⟩) (some "($type, /, bytes, byteorder='big', *, signed=False)")),
    ("as_integer_ratio", .method (some ⟨240, 16055267295116765086⟩) (some "($self, /)")),
    ("__trunc__", .method (some ⟨38, 13374318960052990001⟩) Option.none),
    ("__floor__", .method (some ⟨36, 5406460867411084046⟩) Option.none),
    ("__ceil__", .method (some ⟨38, 16583219472534373072⟩) Option.none),
    ("__round__", .method (some ⟨96, 8113936650156517567⟩) (some "($self, ndigits=<unrepresentable>, /)")),
    ("__getnewargs__", .method Option.none (some "($self, /)")),
    ("__format__", .method Option.none (some "($self, format_spec, /)")),
    ("__sizeof__", .method (some ⟨33, 2803411780188856407⟩) (some "($self, /)")),
    ("real", .computed (some ⟨33, 4730309881145738414⟩)),
    ("imag", .computed (some ⟨38, 7982385523055448401⟩)),
    ("numerator", .computed (some ⟨50, 15855254789009079804⟩)),
    ("denominator", .computed (some ⟨52, 3474987988966588537⟩)),
    ("__doc__", .text ⟨605, 9847899740905644132⟩)]

/-- The description of the kind float. -/
def KindInfo.float : KindInfo where
  name := "float"
  qualname := "float"
  module := "builtins"
  doc := some ⟨67, 600983061448505513⟩
  signature := some "(x=0, /)"
  base := some .object
  bases := [.object]
  mro := [.float, .object]
  basicSize := 24
  itemSize := 0
  flags := 4199680
  weakrefOffset := 0
  dictOffset := 0
  slots := [
    ("__new__", .builtin (some ⟨71, 8443550207110521336⟩) (some "($type, *args, **kwargs)")),
    ("__repr__", .wrapper (some ⟨18, 12900174875343279371⟩) (some "($self, /)")),
    ("__hash__", .wrapper (some ⟨18, 9763334783979631526⟩) (some "($self, /)")),
    ("__getattribute__", .wrapper (some ⟨27, 9203573781539796766⟩) (some "($self, name, /)")),
    ("__lt__", .wrapper (some ⟨18, 7456414128569676616⟩) (some "($self, value, /)")),
    ("__le__", .wrapper (some ⟨19, 10890637951357037409⟩) (some "($self, value, /)")),
    ("__eq__", .wrapper (some ⟨19, 8510901444924553488⟩) (some "($self, value, /)")),
    ("__ne__", .wrapper (some ⟨19, 9416577791280775068⟩) (some "($self, value, /)")),
    ("__gt__", .wrapper (some ⟨18, 10984575993019088330⟩) (some "($self, value, /)")),
    ("__ge__", .wrapper (some ⟨19, 10467773679576807255⟩) (some "($self, value, /)")),
    ("__add__", .wrapper (some ⟨18, 4129680204341720017⟩) (some "($self, value, /)")),
    ("__radd__", .wrapper (some ⟨18, 1570732800710843489⟩) (some "($self, value, /)")),
    ("__sub__", .wrapper (some ⟨18, 7542708837087806219⟩) (some "($self, value, /)")),
    ("__rsub__", .wrapper (some ⟨18, 15183929931739015507⟩) (some "($self, value, /)")),
    ("__mul__", .wrapper (some ⟨18, 17328777137735395310⟩) (some "($self, value, /)")),
    ("__rmul__", .wrapper (some ⟨18, 14812756991295402068⟩) (some "($self, value, /)")),
    ("__mod__", .wrapper (some ⟨18, 3111327488385849411⟩) (some "($self, value, /)")),
    ("__rmod__", .wrapper (some ⟨18, 6861162533413011787⟩) (some "($self, value, /)")),
    ("__divmod__", .wrapper (some ⟨27, 8613078014901994672⟩) (some "($self, value, /)")),
    ("__rdivmod__", .wrapper (some ⟨27, 15924393404957040896⟩) (some "($self, value, /)")),
    ("__pow__", .wrapper (some ⟨29, 4521693585478205445⟩) (some "($self, value, mod=None, /)")),
    ("__rpow__", .wrapper (some ⟨29, 3596758550649332797⟩) (some "($self, value, mod=None, /)")),
    ("__neg__", .wrapper (some ⟨5, 6298928102107170818⟩) (some "($self, /)")),
    ("__pos__", .wrapper (some ⟨5, 2716538612266555052⟩) (some "($self, /)")),
    ("__abs__", .wrapper (some ⟨9, 1539724111139280814⟩) (some "($self, /)")),
    ("__bool__", .wrapper (some ⟨23, 5137446720177675400⟩) (some "($self, /)")),
    ("__int__", .wrapper (some ⟨9, 1800783313396538727⟩) (some "($self, /)")),
    ("__float__", .wrapper (some ⟨11, 8345035503545068464⟩) (some "($self, /)")),
    ("__floordiv__", .wrapper (some ⟨19, 9581271784729116708⟩) (some "($self, value, /)")),
    ("__rfloordiv__", .wrapper (some ⟨19, 15552951119765811652⟩) (some "($self, value, /)")),
    ("__truediv__", .wrapper (some ⟨18, 11731607002379071661⟩) (some "($self, value, /)")),
    ("__rtruediv__", .wrapper (some ⟨18, 3062572872689186917⟩) (some "($self, value, /)")),
    ("conjugate", .method (some ⟨48, 1443428845940808597⟩) (some "($self, /)")),
    ("__trunc__", .method (some ⟨49, 11871678589698740629⟩) (some "($self, /)")),
    ("__floor__", .method (some ⟨32, 15085580355514916107⟩) (some "($self, /)")),
    ("__ceil__", .method (some ⟨34, 12215631197143106766⟩) (some "($self, /)")),
    ("__round__", .method (some ⟨127, 4335175253956032207⟩) (some "($self, ndigits=None, /)")),
    ("as_integer_ratio", .method (some ⟨307, 1646407475908814319⟩) (some "($self, /)")),
    ("fromhex", .classMethod (some ⟨143, 15042378626883431584⟩) (some "($type, string, /)")),
    ("hex", .method (some ⟨146, 3511900346470053244⟩) (some "($self, /)")),
    ("is_integer", .method (some ⟨39, 12781269322725711506⟩) (some "($self, /)")),
    ("__getnewargs__", .method Option.none (some "($self, /)")),
    ("__getformat__", .classMethod (some ⟨322, 14260107734954270933⟩) (some "($type, typestr, /)")),
    ("__format__", .method (some ⟨43, 16102392265553655810⟩) (some "($self, format_spec, /)")),
    ("real", .computed (some ⟨33, 4730309881145738414⟩)),
    ("imag", .computed (some ⟨38, 7982385523055448401⟩)),
    ("__doc__", .text ⟨67, 600983061448505513⟩)]

/-- The description of the kind str. -/
def KindInfo.str : KindInfo where
  name := "str"
  qualname := "str"
  module := "builtins"
  doc := some ⟨421, 9772027084725142127⟩
  signature := Option.none
  base := some .object
  bases := [.object]
  mro := [.str, .object]
  basicSize := 80
  itemSize := 0
  flags := 273159424
  weakrefOffset := 0
  dictOffset := 0
  slots := [
    ("__new__", .builtin (some ⟨71, 8443550207110521336⟩) (some "($type, *args, **kwargs)")),
    ("__repr__", .wrapper (some ⟨18, 12900174875343279371⟩) (some "($self, /)")),
    ("__hash__", .wrapper (some ⟨18, 9763334783979631526⟩) (some "($self, /)")),
    ("__str__", .wrapper (some ⟨17, 977681581763616165⟩) (some "($self, /)")),
    ("__getattribute__", .wrapper (some ⟨27, 9203573781539796766⟩) (some "($self, name, /)")),
    ("__lt__", .wrapper (some ⟨18, 7456414128569676616⟩) (some "($self, value, /)")),
    ("__le__", .wrapper (some ⟨19, 10890637951357037409⟩) (some "($self, value, /)")),
    ("__eq__", .wrapper (some ⟨19, 8510901444924553488⟩) (some "($self, value, /)")),
    ("__ne__", .wrapper (some ⟨19, 9416577791280775068⟩) (some "($self, value, /)")),
    ("__gt__", .wrapper (some ⟨18, 10984575993019088330⟩) (some "($self, value, /)")),
    ("__ge__", .wrapper (some ⟨19, 10467773679576807255⟩) (some "($self, value, /)")),
    ("__iter__", .wrapper (some ⟨21, 1079519681625556457⟩) (some "($self, /)")),
    ("__mod__", .wrapper (some ⟨18, 3111327488385849411⟩) (some "($self, value, /)")),
    ("__rmod__", .wrapper (some ⟨18, 6861162533413011787⟩) (some "($self, value, /)")),
    ("__len__", .wrapper (some ⟨17, 5064123361520204729⟩) (some "($self, /)")),
    ("__getitem__", .wrapper (some ⟨17, 7565153642936091364⟩) (some "($self, key, /)")),
    ("__add__", .wrapper (some ⟨18, 4129680204341720017⟩) (some "($self, value, /)")),
    ("__mul__", .wrapper (some ⟨18, 17328777137735395310⟩) (some "($self, value, /)")),
    ("__rmul__", .wrapper (some ⟨18, 14812756991295402068⟩) (some "($self, value, /)")),
    ("__contains__", .wrapper (some ⟨19, 15789828322746143383⟩) (some "($self, key, /)")),
    ("encode", .method (some ⟨454, 5308351396961545099⟩) (some "($self, /, encoding='utf-8', errors='strict')")),
    ("replace", .method (some ⟨270, 8641760027479397372⟩) (some "($self, old, new, count=-1, /)")),
    ("split", .method (some ⟨594, 2798559857418421645⟩) (some "($self, /, sep=None, maxsplit=-1)")),
    ("rsplit", .method (some ⟨485, 17580628601782005625⟩) (some "($self, /, sep=None, maxsplit=-1)")),
    ("join", .method (some ⟨204, 12928235200169985519⟩) (some "($self, iterable, /)")),
    ("capitalize", .method (some ⟨129, 1155452645284148073⟩) (some "($self, /)")),
    ("casefold", .method (some ⟨65, 3552088464629055448⟩) (some "($self, /)")),
    ("title", .method (some ⟨172, 3604707799805671916⟩) (some "($self, /)")),
    ("center", .method (some ⟨115, 13556496273964652635⟩) (some "($self, width, fillchar=' ', /)")),
    ("count", .method (some ⟨198, 18178329143560224870⟩) Option.none),
    ("expandtabs", .method (some ⟨130, 10775958115131601999⟩) (some "($self, /, tabsize=8)")),
    ("find", .method (some ⟨237, 13228924187981451024⟩) Option.none),
    ("partition", .method (some ⟨352, 2354612641258381982⟩) (some "($self, sep, /)")),
    ("index", .method (some ⟨267, 5942972257058640093⟩) Option.none),
    ("ljust", .method (some ⟨121, 14118743866755612082⟩) (some "($self, width, fillchar=' ', /)")),
    ("lower", .method (some ⟨51, 8263465501767225702⟩) (some "($self, /)")),
    ("lstrip", .method (some ⟨129, 13022500146606395192⟩) (some "($self, chars=None, /)")),
    ("rfind", .method (some ⟨239, 7160049228154714112⟩) Option.none),
    ("rindex", .method (some ⟨269, 17039818516446682979⟩) Option.none),
    ("rjust", .method (some ⟨122, 7944758524543896429⟩) (some "($self, width, fillchar=' ', /)")),
    ("rstrip", .method (some ⟨130, 14592067178815052686⟩) (some "($self, chars=None, /)")),
    ("rpartition", .method (some ⟨372, 5067559077925276687⟩) (some "($self, sep, /)")),
    ("splitlines", .method (some ⟨157, 9681445983153287737⟩) (some "($self, /, keepends=False)")),
    ("strip", .method (some ⟨142, 16077246919497081517⟩) (some "($self, chars=None, /)")),
    ("swapcase", .method (some ⟨80, 12702413358238524405⟩) (some "($self, /)")),
    ("translate", .method (some ⟨396, 7872271444306561220⟩) (some "($self, table, /)")),
    ("upper", .method (some ⟨51, 9774070251557044349⟩) (some "($self, /)")),
    ("startswith", .method (some ⟨269, 4274284350224104669⟩) Option.none),
    ("endswith", .method (some ⟨265, 1720097824567046492⟩) Option.none),
    ("removeprefix", .method (some ⟨185, 14813919010491547953⟩) (some "($self, prefix, /)")),
    ("removesuffix", .method (some ⟨213, 9479255181414892009⟩) (some "($self, suffix, /)")),
    ("isascii", .method (some ⟨161, 6132687781218828739⟩) (some "($self, /)")),
    ("islower", .method (some ⟨197, 11252854315351483884⟩) (some "($self, /)")),
    ("isupper", .method (some ⟨198, 15440832043650867175⟩) (some "($self, /)")),
    ("istitle", .method (some ⟨203, 1564039065025513591⟩) (some "($self, /)")),
    ("isspace", .method (some ⟨188, 9558418636988363538⟩) (some "($self, /)")),
    ("isdecimal", .method (some ⟨188, 11752326690680788896⟩) (some "($self, /)")),
    ("isdigit", .method (some ⟨183, 646653348001264155⟩) (some "($self, /)")),
    ("isnumeric", .method (some ⟨179, 15411948559676143570⟩) (some "($self, /)")),
    ("isalpha", .method (some ⟨189, 6071575571197982976⟩) (some "($self, /)")),
    ("isalnum", .method (some ⟨198, 8521589991430840829⟩) (some "($self, /)")),
    ("isidentifier", .method (some ⟨176, 8112473009797788338⟩) (some "($self, /)")),
    ("isprintable", .method (some ⟨158, 16318681475140394682⟩) (some "($self, /)")),
    ("zfill", .method (some ⟨112, 2063897739798590255⟩) (some "($self, width, /)")),
    ("format", .method (some ⟨166, 14944639866622560449⟩) Option.none),
    ("format_map", .method (some ⟨154, 17633575714486812497⟩) Option.none),
    ("__format__", .method (some ⟨69, 3829737432278294474⟩) (some "($self, format_spec, /)")),
    ("maketrans", .static (some ⟨533, 10471938801837853037⟩) (some "(x, y=<unrepresentable>, z=<unrepresentable>, /)")),
    ("__sizeof__", .method (some ⟨50, 800214926499324702⟩) (some "($self, /)")),
    ("__getnewargs__", .method Option.none Option.none),
    ("__doc__", .text ⟨421, 9772027084725142127⟩)]

/-- The description of the kind list. -/
def KindInfo.list : KindInfo where
  name := "list"
  qualname := "list"
  module := "builtins"
  doc := some ⟨141, 9708907784676780148⟩
  signature := some "(iterable=(), /)"
  base := some .object
  bases := [.object]
  mro := [.list, .object]
  basicSize := 40
  itemSize := 0
  flags := 38294816
  weakrefOffset := 0
  dictOffset := 0
  slots := [
    ("__new__", .builtin (some ⟨71, 8443550207110521336⟩) (some "($type, *args, **kwargs)")),
    ("__repr__", .wrapper (some ⟨18, 12900174875343279371⟩) (some "($self, /)")),
    ("__hash__", .none),
    ("__getattribute__", .wrapper (some ⟨27, 9203573781539796766⟩) (some "($self, name, /)")),
    ("__lt__", .wrapper (some ⟨18, 7456414128569676616⟩) (some "($self, value, /)")),
    ("__le__", .wrapper (some ⟨19, 10890637951357037409⟩) (some "($self, value, /)")),
    ("__eq__", .wrapper (some ⟨19, 8510901444924553488⟩) (some "($self, value, /)")),
    ("__ne__", .wrapper (some ⟨19, 9416577791280775068⟩) (some "($self, value, /)")),
    ("__gt__", .wrapper (some ⟨18, 10984575993019088330⟩) (some "($self, value, /)")),
    ("__ge__", .wrapper (some ⟨19, 10467773679576807255⟩) (some "($self, value, /)")),
    ("__iter__", .wrapper (some ⟨21, 1079519681625556457⟩) (some "($self, /)")),
    ("__init__", .wrapper (some ⟨62, 3842527144151351868⟩) (some "($self, /, *args, **kwargs)")),
    ("__len__", .wrapper (some ⟨17, 5064123361520204729⟩) (some "($self, /)")),
    ("__getitem__", .method (some ⟨26, 12383260367688459879⟩) Option.none),
    ("__setitem__", .wrapper (some ⟨23, 5050300053818439988⟩) (some "($self, key, value, /)")),
    ("__delitem__", .wrapper (some ⟨17, 13223826446925731675⟩) (some "($self, key, /)")),
    ("__add__", .wrapper (some ⟨18, 4129680204341720017⟩) (some "($self, value, /)")),
    ("__mul__", .wrapper (some ⟨18, 17328777137735395310⟩) (some "($self, value, /)")),
    ("__rmul__", .wrapper (some ⟨18, 14812756991295402068⟩) (some "($self, value, /)")),
    ("__contains__", .wrapper (some ⟨19, 15789828322746143383⟩) (some "($self, key, /)")),
    ("__iadd__", .wrapper (some ⟨22, 9772474524360017341⟩) (some "($self, value, /)")),
    ("__imul__", .wrapper (some ⟨22, 1780193757327016748⟩) (some "($self, value, /)")),
    ("__reversed__", .method (some ⟨40, 7319139648272149047⟩) (some "($self, /)")),
    ("__sizeof__", .method (some ⟨48, 17945210335525658209⟩) (some "($self, /)")),
    ("clear", .method (some ⟨27, 10572398890014683764⟩) (some "($self, /)")),
    ("copy", .method (some ⟨34, 14459452282107290627⟩) (some "($self, /)")),
    ("append", .method (some ⟨37, 5132936516270806809⟩) (some "($self, object, /)")),
    ("insert", .method (some ⟨27, 13836687627443046520⟩) (some "($self, index, object, /)")),
    ("extend", .method (some ⟨52, 17626696666202389592⟩) (some "($self, iterable, /)")),
    ("pop", .method (some ⟨109, 520871923424128402⟩) (some "($self, index=-1, /)")),
    ("remove", .method (some ⟨81, 5124243338339946837⟩) (some "($self, value, /)")),
    ("index", .method (some ⟨76, 11646942401352568080⟩) (some "($self, value, start=0, stop=sys.maxsize, /)")),
    ("count", .method (some ⟨38, 8495789478028189209⟩) (some "($self, value, /)")),
    ("reverse", .method (some ⟨19, 7770927870596143211⟩) (some "($self, /)")),
    ("sort", .method (some ⟨366, 12928861330587272244⟩) (some "($self, /, *, key=None, reverse=False)")),
    ("__class_getitem__", .classMethod (some ⟨11, 11402260610712229277⟩) Option.none),
    ("__doc__", .text ⟨141, 9708907784676780148⟩)]

/-- The description of the kind tuple. -/
def KindInfo.tuple : KindInfo where
  name := "tuple"
  qualname := "tuple"
  module := "builtins"
  doc := some ⟨233, 11229151642774911410⟩
  signature := some "(iterable=(), /)"
  base := some .object
  bases := [.object]
  mro := [.tuple, .object]
  basicSize := 24
  itemSize := 8
  flags := 71849248
  weakrefOffset := 0
  dictOffset := 0
  slots := [
    ("__new__", .builtin (some ⟨71, 8443550207110521336⟩) (some "($type, *args, **kwargs)")),
    ("__repr__", .wrapper (some ⟨18, 12900174875343279371⟩) (some "($self, /)")),
    ("__hash__", .wrapper (some ⟨18, 9763334783979631526⟩) (some "($self, /)")),
    ("__getattribute__", .wrapper (some ⟨27, 9203573781539796766⟩) (some "($self, name, /)")),
    ("__lt__", .wrapper (some ⟨18, 7456414128569676616⟩) (some "($self, value, /)")),
    ("__le__", .wrapper (some ⟨19, 10890637951357037409⟩) (some "($self, value, /)")),
    ("__eq__", .wrapper (some ⟨19, 8510901444924553488⟩) (some "($self, value, /)")),
    ("__ne__", .wrapper (some ⟨19, 9416577791280775068⟩) (some "($self, value, /)")),
    ("__gt__", .wrapper (some ⟨18, 10984575993019088330⟩) (some "($self, value, /)")),
    ("__ge__", .wrapper (some ⟨19, 10467773679576807255⟩) (some "($self, value, /)")),
    ("__iter__", .wrapper (some ⟨21, 1079519681625556457⟩) (some "($self, /)")),
    ("__len__", .wrapper (some ⟨17, 5064123361520204729⟩) (some "($self, /)")),
    ("__getitem__", .wrapper (some ⟨17, 7565153642936091364⟩) (some "($self, key, /)")),
    ("__add__", .wrapper (some ⟨18, 4129680204341720017⟩) (some "($self, value, /)")),
    ("__mul__", .wrapper (some ⟨18, 17328777137735395310⟩) (some "($self, value, /)")),
    ("__rmul__", .wrapper (some ⟨18, 14812756991295402068⟩) (some "($self, value, /)")),
    ("__contains__", .wrapper (some ⟨19, 15789828322746143383⟩) (some "($self, key, /)")),
    ("__getnewargs__", .method Option.none (some "($self, /)")),
    ("index", .method (some ⟨76, 11646942401352568080⟩) (some "($self, value, start=0, stop=sys.maxsize, /)")),
    ("count", .method (some ⟨38, 8495789478028189209⟩) (some "($self, value, /)")),
    ("__class_getitem__", .classMethod (some ⟨11, 11402260610712229277⟩) Option.none),
    ("__doc__", .text ⟨233, 11229151642774911410⟩)]

/-- The description of the kind dict. -/
def KindInfo.dict : KindInfo where
  name := "dict"
  qualname := "dict"
  module := "builtins"
  doc := some ⟨370, 4413134103128934670⟩
  signature := Option.none
  base := some .object
  bases := [.object]
  mro := [.dict, .object]
  basicSize := 48
  itemSize := 0
  flags := 541611328
  weakrefOffset := 0
  dictOffset := 0
  slots := [
    ("__new__", .builtin (some ⟨71, 8443550207110521336⟩) (some "($type, *args, **kwargs)")),
    ("__repr__", .wrapper (some ⟨18, 12900174875343279371⟩) (some "($self, /)")),
    ("__hash__", .none),
    ("__getattribute__", .wrapper (some ⟨27, 9203573781539796766⟩) (some "($self, name, /)")),
    ("__lt__", .wrapper (some ⟨18, 7456414128569676616⟩) (some "($self, value, /)")),
    ("__le__", .wrapper (some ⟨19, 10890637951357037409⟩) (some "($self, value, /)")),
    ("__eq__", .wrapper (some ⟨19, 8510901444924553488⟩) (some "($self, value, /)")),
    ("__ne__", .wrapper (some ⟨19, 9416577791280775068⟩) (some "($self, value, /)")),
    ("__gt__", .wrapper (some ⟨18, 10984575993019088330⟩) (some "($self, value, /)")),
    ("__ge__", .wrapper (some ⟨19, 10467773679576807255⟩) (some "($self, value, /)")),
    ("__iter__", .wrapper (some ⟨21, 1079519681625556457⟩) (some "($self, /)")),
    ("__init__", .wrapper (some ⟨62, 3842527144151351868⟩) (some "($self, /, *args, **kwargs)")),
    ("__or__", .wrapper (some ⟨18, 8033188657347353352⟩) (some "($self, value, /)")),
    ("__ror__", .wrapper (some ⟨18, 10535789417649109894⟩) (some "($self, value, /)")),
    ("__ior__", .wrapper (some ⟨19, 15044760325704083873⟩) (some "($self, value, /)")),
    ("__len__", .wrapper (some ⟨17, 5064123361520204729⟩) (some "($self, /)")),
    ("__getitem__", .method (some ⟨26, 12383260367688459879⟩) Option.none),
    ("__setitem__", .wrapper (some ⟨23, 5050300053818439988⟩) (some "($self, key, value, /)")),
    ("__delitem__", .wrapper (some ⟨17, 13223826446925731675⟩) (some "($self, key, /)")),
    ("__contains__", .method (some ⟨57, 3293698003147797369⟩) (some "($self, key, /)")),
    ("__sizeof__", .method (some ⟨47, 9358200145087213635⟩) Option.none),
    ("get", .method (some ⟨67, 12909828789432296433⟩) (some "($self, key, default=None, /)")),
    ("setdefault", .method (some ⟨136, 10496740661851668912⟩) (some "($self, key, default=None, /)")),
    ("pop", .method (some ⟨159, 9736957700447658373⟩) (some "($self, key, default=<unrepresentable>, /)")),
    ("popitem", .method (some ⟨145, 10608410076433729288⟩) (some "($self, /)")),
    ("keys", .method (some ⟨58, 57771407175866754⟩) Option.none),
    ("items", .method (some ⟨60, 6410559708620199332⟩) Option.none),
    ("values", .method (some ⟨54, 14388794308388517720⟩) Option.none),
    ("update", .method (some ⟨285, 193342472525862190⟩) Option.none),
    ("fromkeys", .classMethod (some ⟨72, 7501376090803750657⟩) (some "($type, iterable, value=None, /)")),
    ("clear", .method (some ⟨44, 17665787051380731051⟩) Option.none),
    ("copy", .method (some ⟨31, 14534971328635597445⟩) Option.none),
    ("__reversed__", .method (some ⟨45, 11495798143984284013⟩) (some "($self, /)")),
    ("__class_getitem__", .classMethod (some ⟨11, 11402260610712229277⟩) Option.none),
    ("__doc__", .text ⟨370, 4413134103128934670⟩)]

/-- The description of the kind SimpleNamespace. -/
def KindInfo.namespace : KindInfo where
  name := "SimpleNamespace"
  qualname := "SimpleNamespace"
  module := "types"
  doc := some ⟨62, 17932301413417837758⟩
  signature := Option.none
  base := some .object
  bases := [.object]
  mro := [.namespace, .object]
  basicSize := 24
  itemSize := 0
  flags := 546048
  weakrefOffset := 0
  dictOffset := 16
  slots := [
    ("__new__", .builtin (some ⟨71, 8443550207110521336⟩) (some "($type, *args, **kwargs)")),
    ("__repr__", .wrapper (some ⟨18, 12900174875343279371⟩) (some "($self, /)")),
    ("__getattribute__", .wrapper (some ⟨27, 9203573781539796766⟩) (some "($self, name, /)")),
    ("__setattr__", .wrapper (some ⟨37, 135107462226293980⟩) (some "($self, name, value, /)")),
    ("__delattr__", .wrapper (some ⟨30, 7160934921947280034⟩) (some "($self, name, /)")),
    ("__lt__", .wrapper (some ⟨18, 7456414128569676616⟩) (some "($self, value, /)")),
    ("__le__", .wrapper (some ⟨19, 10890637951357037409⟩) (some "($self, value, /)")),
    ("__eq__", .wrapper (some ⟨19, 8510901444924553488⟩) (some "($self, value, /)")),
    ("__ne__", .wrapper (some ⟨19, 9416577791280775068⟩) (some "($self, value, /)")),
    ("__gt__", .wrapper (some ⟨18, 10984575993019088330⟩) (some "($self, value, /)")),
    ("__ge__", .wrapper (some ⟨19, 10467773679576807255⟩) (some "($self, value, /)")),
    ("__init__", .wrapper (some ⟨62, 3842527144151351868⟩) (some "($self, /, *args, **kwargs)")),
    ("__reduce__", .method (some ⟨37, 5232817114269871808⟩) Option.none),
    ("__dict__", .member Option.none),
    ("__doc__", .text ⟨62, 17932301413417837758⟩),
    ("__hash__", .none)]

/-- The description of the kind mappingproxy. -/
def KindInfo.mappingProxy : KindInfo where
  name := "mappingproxy"
  qualname := "mappingproxy"
  module := "builtins"
  doc := Option.none
  signature := Option.none
  base := some .object
  bases := [.object]
  mro := [.mappingProxy, .object]
  basicSize := 24
  itemSize := 0
  flags := 545088
  weakrefOffset := 0
  dictOffset := 0
  slots := [
    ("__new__", .builtin (some ⟨71, 8443550207110521336⟩) (some "($type, *args, **kwargs)")),
    ("__repr__", .wrapper (some ⟨18, 12900174875343279371⟩) (some "($self, /)")),
    ("__str__", .wrapper (some ⟨17, 977681581763616165⟩) (some "($self, /)")),
    ("__getattribute__", .wrapper (some ⟨27, 9203573781539796766⟩) (some "($self, name, /)")),
    ("__lt__", .wrapper (some ⟨18, 7456414128569676616⟩) (some "($self, value, /)")),
    ("__le__", .wrapper (some ⟨19, 10890637951357037409⟩) (some "($self, value, /)")),
    ("__eq__", .wrapper (some ⟨19, 8510901444924553488⟩) (some "($self, value, /)")),
    ("__ne__", .wrapper (some ⟨19, 9416577791280775068⟩) (some "($self, value, /)")),
    ("__gt__", .wrapper (some ⟨18, 10984575993019088330⟩) (some "($self, value, /)")),
    ("__ge__", .wrapper (some ⟨19, 10467773679576807255⟩) (some "($self, value, /)")),
    ("__iter__", .wrapper (some ⟨21, 1079519681625556457⟩) (some "($self, /)")),
    ("__or__", .wrapper (some ⟨18, 8033188657347353352⟩) (some "($self, value, /)")),
    ("__ror__", .wrapper (some ⟨18, 10535789417649109894⟩) (some "($self, value, /)")),
    ("__ior__", .wrapper (some ⟨19, 15044760325704083873⟩) (some "($self, value, /)")),
    ("__len__", .wrapper (some ⟨17, 5064123361520204729⟩) (some "($self, /)")),
    ("__getitem__", .wrapper (some ⟨17, 7565153642936091364⟩) (some "($self, key, /)")),
    ("__contains__", .wrapper (some ⟨19, 15789828322746143383⟩) (some "($self, key, /)")),
    ("get", .method (some ⟨60, 15175962923792386666⟩) Option.none),
    ("keys", .method (some ⟨58, 57771407175866754⟩) Option.none),
    ("values", .method (some ⟨54, 14388794308388517720⟩) Option.none),
    ("items", .method (some ⟨60, 6410559708620199332⟩) Option.none),
    ("copy", .method (some ⟨31, 14534971328635597445⟩) Option.none),
    ("__class_getitem__", .classMethod (some ⟨11, 11402260610712229277⟩) Option.none),
    ("__reversed__", .method (some ⟨36, 16890033125487245319⟩) Option.none),
    ("__doc__", .none),
    ("__hash__", .none)]

/-- The description of the kind builtin_function_or_method. -/
def KindInfo.builtinFunction : KindInfo where
  name := "builtin_function_or_method"
  qualname := "builtin_function_or_method"
  module := "builtins"
  doc := Option.none
  signature := Option.none
  base := some .object
  bases := [.object]
  mro := [.builtinFunction, .object]
  basicSize := 56
  itemSize := 0
  flags := 547200
  weakrefOffset := 40
  dictOffset := 0
  slots := [
    ("__repr__", .wrapper (some ⟨18, 12900174875343279371⟩) (some "($self, /)")),
    ("__hash__", .wrapper (some ⟨18, 9763334783979631526⟩) (some "($self, /)")),
    ("__call__", .wrapper (some ⟨24, 10200766467704223970⟩) (some "($self, /, *args, **kwargs)")),
    ("__getattribute__", .wrapper (some ⟨27, 9203573781539796766⟩) (some "($self, name, /)")),
    ("__lt__", .wrapper (some ⟨18, 7456414128569676616⟩) (some "($self, value, /)")),
    ("__le__", .wrapper (some ⟨19, 10890637951357037409⟩) (some "($self, value, /)")),
    ("__eq__", .wrapper (some ⟨19, 8510901444924553488⟩) (some "($self, value, /)")),
    ("__ne__", .wrapper (some ⟨19, 9416577791280775068⟩) (some "($self, value, /)")),
    ("__gt__", .wrapper (some ⟨18, 10984575993019088330⟩) (some "($self, value, /)")),
    ("__ge__", .wrapper (some ⟨19, 10467773679576807255⟩) (some "($self, value, /)")),
    ("__reduce__", .method Option.none Option.none),
    ("__module__", .member Option.none),
    ("__doc__", .computed Option.none),
    ("__name__", .computed Option.none),
    ("__qualname__", .computed Option.none),
    ("__self__", .computed Option.none),
    ("__text_signature__", .computed Option.none)]

/-- The description of the kind method-wrapper. -/
def KindInfo.methodWrapper : KindInfo where
  name := "method-wrapper"
  qualname := "method-wrapper"
  module := "builtins"
  doc := Option.none
  signature := Option.none
  base := some .object
  bases := [.object]
  mro := [.methodWrapper, .object]
  basicSize := 32
  itemSize := 0
  flags := 20864
  weakrefOffset := 0
  dictOffset := 0
  slots := [
    ("__repr__", .wrapper (some ⟨18, 12900174875343279371⟩) (some "($self, /)")),
    ("__hash__", .wrapper (some ⟨18, 9763334783979631526⟩) (some "($self, /)")),
    ("__call__", .wrapper (some ⟨24, 10200766467704223970⟩) (some "($self, /, *args, **kwargs)")),
    ("__getattribute__", .wrapper (some ⟨27, 9203573781539796766⟩) (some "($self, name, /)")),
    ("__lt__", .wrapper (some ⟨18, 7456414128569676616⟩) (some "($self, value, /)")),
    ("__le__", .wrapper (some ⟨19, 10890637951357037409⟩) (some "($self, value, /)")),
    ("__eq__", .wrapper (some ⟨19, 8510901444924553488⟩) (some "($self, value, /)")),
    ("__ne__", .wrapper (some ⟨19, 9416577791280775068⟩) (some "($self, value, /)")),
    ("__gt__", .wrapper (some ⟨18, 10984575993019088330⟩) (some "($self, value, /)")),
    ("__ge__", .wrapper (some ⟨19, 10467773679576807255⟩) (some "($self, value, /)")),
    ("__reduce__", .method Option.none Option.none),
    ("__self__", .member Option.none),
    ("__objclass__", .computed Option.none),
    ("__name__", .computed Option.none),
    ("__qualname__", .computed Option.none),
    ("__doc__", .computed Option.none),
    ("__text_signature__", .computed Option.none)]

/-- The description of the kind method_descriptor. -/
def KindInfo.methodDescriptor : KindInfo where
  name := "method_descriptor"
  qualname := "method_descriptor"
  module := "builtins"
  doc := Option.none
  signature := Option.none
  base := some .object
  bases := [.object]
  mro := [.methodDescriptor, .object]
  basicSize := 56
  itemSize := 0
  flags := 678272
  weakrefOffset := 0
  dictOffset := 0
  slots := [
    ("__repr__", .wrapper (some ⟨18, 12900174875343279371⟩) (some "($self, /)")),
    ("__call__", .wrapper (some ⟨24, 10200766467704223970⟩) (some "($self, /, *args, **kwargs)")),
    ("__getattribute__", .wrapper (some ⟨27, 9203573781539796766⟩) (some "($self, name, /)")),
    ("__get__", .wrapper (some ⟨56, 15318221421879889681⟩) (some "($self, instance, owner=None, /)")),
    ("__reduce__", .method Option.none Option.none),
    ("__objclass__", .member Option.none),
    ("__name__", .member Option.none),
    ("__doc__", .computed Option.none),
    ("__qualname__", .computed Option.none),
    ("__text_signature__", .computed Option.none)]

/-- The description of the kind wrapper_descriptor. -/
def KindInfo.wrapperDescriptor : KindInfo where
  name := "wrapper_descriptor"
  qualname := "wrapper_descriptor"
  module := "builtins"
  doc := Option.none
  signature := Option.none
  base := some .object
  bases := [.object]
  mro := [.wrapperDescriptor, .object]
  basicSize := 56
  itemSize := 0
  flags := 676224
  weakrefOffset := 0
  dictOffset := 0
  slots := [
    ("__repr__", .wrapper (some ⟨18, 12900174875343279371⟩) (some "($self, /)")),
    ("__call__", .wrapper (some ⟨24, 10200766467704223970⟩) (some "($self, /, *args, **kwargs)")),
    ("__getattribute__", .wrapper (some ⟨27, 9203573781539796766⟩) (some "($self, name, /)")),
    ("__get__", .wrapper (some ⟨56, 15318221421879889681⟩) (some "($self, instance, owner=None, /)")),
    ("__reduce__", .method Option.none Option.none),
    ("__objclass__", .member Option.none),
    ("__name__", .member Option.none),
    ("__doc__", .computed Option.none),
    ("__qualname__", .computed Option.none),
    ("__text_signature__", .computed Option.none)]

/-- The description of the kind classmethod_descriptor. -/
def KindInfo.classMethodDescriptor : KindInfo where
  name := "classmethod_descriptor"
  qualname := "classmethod_descriptor"
  module := "builtins"
  doc := Option.none
  signature := Option.none
  base := some .object
  bases := [.object]
  mro := [.classMethodDescriptor, .object]
  basicSize := 56
  itemSize := 0
  flags := 545152
  weakrefOffset := 0
  dictOffset := 0
  slots := [
    ("__repr__", .wrapper (some ⟨18, 12900174875343279371⟩) (some "($self, /)")),
    ("__call__", .wrapper (some ⟨24, 10200766467704223970⟩) (some "($self, /, *args, **kwargs)")),
    ("__getattribute__", .wrapper (some ⟨27, 9203573781539796766⟩) (some "($self, name, /)")),
    ("__get__", .wrapper (some ⟨56, 15318221421879889681⟩) (some "($self, instance, owner=None, /)")),
    ("__objclass__", .member Option.none),
    ("__name__", .member Option.none),
    ("__doc__", .computed Option.none),
    ("__qualname__", .computed Option.none),
    ("__text_signature__", .computed Option.none)]

/-- The description of the kind getset_descriptor. -/
def KindInfo.getSetDescriptor : KindInfo where
  name := "getset_descriptor"
  qualname := "getset_descriptor"
  module := "builtins"
  doc := Option.none
  signature := Option.none
  base := some .object
  bases := [.object]
  mro := [.getSetDescriptor, .object]
  basicSize := 48
  itemSize := 0
  flags := 545152
  weakrefOffset := 0
  dictOffset := 0
  slots := [
    ("__repr__", .wrapper (some ⟨18, 12900174875343279371⟩) (some "($self, /)")),
    ("__getattribute__", .wrapper (some ⟨27, 9203573781539796766⟩) (some "($self, name, /)")),
    ("__get__", .wrapper (some ⟨56, 15318221421879889681⟩) (some "($self, instance, owner=None, /)")),
    ("__set__", .wrapper (some ⟨38, 8488033945899134752⟩) (some "($self, instance, value, /)")),
    ("__delete__", .wrapper (some ⟨32, 14212704257402651497⟩) (some "($self, instance, /)")),
    ("__objclass__", .member Option.none),
    ("__name__", .member Option.none),
    ("__doc__", .computed Option.none),
    ("__qualname__", .computed Option.none)]

/-- The description of the kind member_descriptor. -/
def KindInfo.memberDescriptor : KindInfo where
  name := "member_descriptor"
  qualname := "member_descriptor"
  module := "builtins"
  doc := Option.none
  signature := Option.none
  base := some .object
  bases := [.object]
  mro := [.memberDescriptor, .object]
  basicSize := 48
  itemSize := 0
  flags := 545152
  weakrefOffset := 0
  dictOffset := 0
  slots := [
    ("__repr__", .wrapper (some ⟨18, 12900174875343279371⟩) (some "($self, /)")),
    ("__getattribute__", .wrapper (some ⟨27, 9203573781539796766⟩) (some "($self, name, /)")),
    ("__get__", .wrapper (some ⟨56, 15318221421879889681⟩) (some "($self, instance, owner=None, /)")),
    ("__set__", .wrapper (some ⟨38, 8488033945899134752⟩) (some "($self, instance, value, /)")),
    ("__delete__", .wrapper (some ⟨32, 14212704257402651497⟩) (some "($self, instance, /)")),
    ("__reduce__", .method Option.none Option.none),
    ("__objclass__", .member Option.none),
    ("__name__", .member Option.none),
    ("__doc__", .computed Option.none),
    ("__qualname__", .computed Option.none)]

/-- The description of the kind staticmethod. -/
def KindInfo.staticMethod : KindInfo where
  name := "staticmethod"
  qualname := "staticmethod"
  module := "builtins"
  doc := some ⟨596, 9860814505100481677⟩
  signature := Option.none
  base := some .object
  bases := [.object]
  mro := [.staticMethod, .object]
  basicSize := 32
  itemSize := 0
  flags := 546048
  weakrefOffset := 0
  dictOffset := 24
  slots := [
    ("__new__", .builtin (some ⟨71, 8443550207110521336⟩) (some "($type, *args, **kwargs)")),
    ("__repr__", .wrapper (some ⟨18, 12900174875343279371⟩) (some "($self, /)")),
    ("__call__", .wrapper (some ⟨24, 10200766467704223970⟩) (some "($self, /, *args, **kwargs)")),
    ("__get__", .wrapper (some ⟨56, 15318221421879889681⟩) (some "($self, instance, owner=None, /)")),
    ("__init__", .wrapper (some ⟨62, 3842527144151351868⟩) (some "($self, /, *args, **kwargs)")),
    ("__func__", .member Option.none),
    ("__wrapped__", .member Option.none),
    ("__isabstractmethod__", .computed Option.none),
    ("__dict__", .computed Option.none),
    ("__doc__", .text ⟨596, 9860814505100481677⟩)]

/-- The description of a kind. -/
def Kind.info : Kind → KindInfo
  | .object => KindInfo.object
  | .type => KindInfo.type
  | .none => KindInfo.none
  | .bool => KindInfo.bool
  | .int => KindInfo.int
  | .float => KindInfo.float
  | .str => KindInfo.str
  | .list => KindInfo.list
  | .tuple => KindInfo.tuple
  | .dict => KindInfo.dict
  | .namespace => KindInfo.namespace
  | .mappingProxy => KindInfo.mappingProxy
  | .builtinFunction => KindInfo.builtinFunction
  | .methodWrapper => KindInfo.methodWrapper
  | .methodDescriptor => KindInfo.methodDescriptor
  | .wrapperDescriptor => KindInfo.wrapperDescriptor
  | .classMethodDescriptor => KindInfo.classMethodDescriptor
  | .getSetDescriptor => KindInfo.getSetDescriptor
  | .memberDescriptor => KindInfo.memberDescriptor
  | .staticMethod => KindInfo.staticMethod

namespace Kind

/-- The name of a kind, as messages show it. -/
def name (k : Kind) : String := k.info.name

/-- What the kind itself holds under a name. -/
def slot? (k : Kind) (n : String) : Option Slot :=
  (k.info.slots.find? fun s => s.1 == n).map Prod.snd

/-- The first kind of the resolution order that holds a name, with what it holds there. -/
def find? (k : Kind) (n : String) : Option (Kind × Slot) :=
  k.info.mro.findSome? fun c => (c.slot? n).map (c, ·)

theorem find?_some {k c : Kind} {n : String} {s : Slot} (h : k.find? n = some (c, s)) :
    c.slot? n = some s := by
  unfold find? at h
  obtain ⟨c', -, hc⟩ := List.exists_of_findSome?_eq_some h
  cases hs : c'.slot? n with
  | none => simp [hs] at hc
  | some s' =>
    simp only [hs, Option.map_some, Option.some.injEq, Prod.mk.injEq] at hc
    obtain ⟨rfl, rfl⟩ := hc
    exact hs

example : Kind.bool.info.mro = [.bool, .int, .object] := rfl

end Kind

end RoleRules
