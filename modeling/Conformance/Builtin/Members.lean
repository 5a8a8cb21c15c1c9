import Conformance.Builtin

/-!
# Members of built-in classes

The members of the own namespaces of built-in classes, by their kinds. The kind of a member
decides what becomes of it when it is read on an object: functions are bound to the object, and
what is computed from the object gives a value. No built-in member is abstract or final.
-/

namespace Conformance

/-- The kinds of members that are not written in the language itself. -/
inductive MemberKind where
  /-- A function that carries out an operator or a special form. -/
  | operator
  /-- A function that is called on an object. -/
  | method
  /-- A function that is called on the class. -/
  | classMethod
  /-- The function that makes new objects. -/
  | constructor
  /-- A value that is computed from an object; at best it is of the given class. -/
  | computed (result : Builtin)
  /-- A value that is kept in an object; at best it is of the given class. -/
  | field (result : Builtin)
  /-- A place for a value in each object, in which there is none yet. -/
  | slot
  /-- A built-in function that is called on nothing. -/
  | free
  /-- A function that is written in the language itself. -/
  | written
  deriving DecidableEq, Repr

namespace Builtin

/-- The names in the own namespace of a built-in class, by the kind of member. -/
structure MemberNames where
  /-- The functions that carry out operators and special forms. -/
  operators : List String := []
  /-- The functions that are called on an object. -/
  methods : List String := []
  /-- The functions that are called on the class. -/
  classMethods : List String := []
  /-- The class has a function of its own that makes new objects. -/
  hasConstructor : Bool := false
  /-- The functions that are written in the language itself. -/
  functions : List String := []
  /-- The built-in functions that are static methods. -/
  statics : List String := []
  /-- The static methods that are written in the language itself. -/
  staticFunctions : List String := []
  /-- The built-in classes that are made into class-wide methods. -/
  classwide : List (String × Builtin) := []
  /-- What is computed from an object, with the class of the value. -/
  computed : List (String × Builtin) := []
  /-- What is kept in an object, with the class of the value. -/
  fields : List (String × Builtin) := []
  /-- What is kept in the class, with the class of the value. -/
  data : List (String × Builtin) := []
  /-- What is computed by a function that is written in the language itself. -/
  properties : List String := []
  /-- The functions that tell nothing of what they are for. -/
  undocumented : List String := []
  /-- The functions that tell nothing of their parameters. -/
  unsigned : List String := []
  /-- What is computed or kept, and tells what it is for. -/
  documented : List String := []

/-- The members of the own namespace of a built-in class. -/
def members : Builtin → MemberNames
  | .object => {
      operators := ["__delattr__", "__eq__", "__ge__", "__getattribute__", "__gt__", "__hash__",
                    "__init__", "__le__", "__lt__", "__ne__", "__repr__", "__setattr__", "__str__"]
      methods := ["__dir__", "__format__", "__getstate__", "__reduce__", "__reduce_ex__",
                  "__sizeof__"]
      classMethods := ["__init_subclass__", "__subclasshook__"]
      hasConstructor := true
      computed := [("__class__", .type)]
      data := [("__doc__", .str)]
      unsigned := ["__init_subclass__", "__subclasshook__"]
      documented := ["__class__"] }
  | .type => {
      operators := ["__call__", "__delattr__", "__getattribute__", "__init__", "__or__",
                    "__repr__", "__ror__", "__setattr__"]
      methods := ["__dir__", "__instancecheck__", "__sizeof__", "__subclasscheck__",
                  "__subclasses__", "mro"]
      classMethods := ["__prepare__"]
      hasConstructor := true
      computed := [("__abstractmethods__", .noneType), ("__annotations__", .dict),
                   ("__bases__", .tuple), ("__dict__", .namespaceView), ("__doc__", .noneType),
                   ("__module__", .str), ("__name__", .str), ("__qualname__", .str),
                   ("__text_signature__", .noneType)]
      fields := [("__base__", .type), ("__basicsize__", .int), ("__dictoffset__", .int),
                 ("__flags__", .int), ("__itemsize__", .int), ("__mro__", .tuple),
                 ("__weakrefoffset__", .int)]
      unsigned := ["__prepare__"] }
  | .int => {
      operators := ["__abs__", "__add__", "__and__", "__bool__", "__divmod__", "__eq__",
                    "__float__", "__floordiv__", "__ge__", "__getattribute__", "__gt__",
                    "__hash__", "__index__", "__int__", "__invert__", "__le__", "__lshift__",
                    "__lt__", "__mod__", "__mul__", "__ne__", "__neg__", "__or__", "__pos__",
                    "__pow__", "__radd__", "__rand__", "__rdivmod__", "__repr__", "__rfloordiv__",
                    "__rlshift__", "__rmod__", "__rmul__", "__ror__", "__rpow__", "__rrshift__",
                    "__rshift__", "__rsub__", "__rtruediv__", "__rxor__", "__sub__",
                    "__truediv__", "__xor__"]
      methods := ["__ceil__", "__floor__", "__format__", "__getnewargs__", "__round__",
                  "__sizeof__", "__trunc__", "as_integer_ratio", "bit_count", "bit_length",
                  "conjugate", "to_bytes"]
      classMethods := ["from_bytes"]
      hasConstructor := true
      computed := [("denominator", .int), ("imag", .int), ("numerator", .int), ("real", .int)]
      data := [("__doc__", .str)]
      undocumented := ["__format__", "__getnewargs__"]
      unsigned := ["__ceil__", "__floor__", "__trunc__", "conjugate"]
      documented := ["denominator", "imag", "numerator", "real"] }
  | .bool => {
      operators := ["__and__", "__or__", "__rand__", "__repr__", "__ror__", "__rxor__", "__xor__"]
      hasConstructor := true
      data := [("__doc__", .str)] }
  | .float => {
      operators := ["__abs__", "__add__", "__bool__", "__divmod__", "__eq__", "__float__",
                    "__floordiv__", "__ge__", "__getattribute__", "__gt__", "__hash__", "__int__",
                    "__le__", "__lt__", "__mod__", "__mul__", "__ne__", "__neg__", "__pos__",
                    "__pow__", "__radd__", "__rdivmod__", "__repr__", "__rfloordiv__", "__rmod__",
                    "__rmul__", "__rpow__", "__rsub__", "__rtruediv__", "__sub__", "__truediv__"]
      methods := ["__ceil__", "__floor__", "__format__", "__getnewargs__", "__round__",
                  "__trunc__", "as_integer_ratio", "conjugate", "hex", "is_integer"]
      classMethods := ["__getformat__", "fromhex"]
      hasConstructor := true
      computed := [("imag", .float), ("real", .float)]
      data := [("__doc__", .str)]
      undocumented := ["__getnewargs__"]
      documented := ["imag", "real"] }
  | .complex => {
      operators := ["__abs__", "__add__", "__bool__", "__eq__", "__ge__", "__getattribute__",
                    "__gt__", "__hash__", "__le__", "__lt__", "__mul__", "__ne__", "__neg__",
                    "__pos__", "__pow__", "__radd__", "__repr__", "__rmul__", "__rpow__",
                    "__rsub__", "__rtruediv__", "__sub__", "__truediv__"]
      methods := ["__complex__", "__format__", "__getnewargs__", "conjugate"]
      hasConstructor := true
      fields := [("imag", .float), ("real", .float)]
      data := [("__doc__", .str)]
      undocumented := ["__getnewargs__"]
      documented := ["imag", "real"] }
  | .str => {
      operators := ["__add__", "__contains__", "__eq__", "__ge__", "__getattribute__",
                    "__getitem__", "__gt__", "__hash__", "__iter__", "__le__", "__len__",
                    "__lt__", "__mod__", "__mul__", "__ne__", "__repr__", "__rmod__", "__rmul__",
                    "__str__"]
      methods := ["__format__", "__getnewargs__", "__sizeof__", "capitalize", "casefold",
                  "center", "count", "encode", "endswith", "expandtabs", "find", "format",
                  "format_map", "index", "isalnum", "isalpha", "isascii", "isdecimal", "isdigit",
                  "isidentifier", "islower", "isnumeric", "isprintable", "isspace", "istitle",
                  "isupper", "join", "ljust", "lower", "lstrip", "partition", "removeprefix",
                  "removesuffix", "replace", "rfind", "rindex", "rjust", "rpartition", "rsplit",
                  "rstrip", "split", "splitlines", "startswith", "strip", "swapcase", "title",
                  "translate", "upper", "zfill"]
      hasConstructor := true
      statics := ["maketrans"]
      data := [("__doc__", .str)]
      undocumented := ["__getnewargs__"]
      unsigned := ["__getnewargs__", "count", "endswith", "find", "format", "format_map", "index",
                   "rfind", "rindex", "startswith"] }
  | .bytes => {
      operators := ["__add__", "__contains__", "__eq__", "__ge__", "__getattribute__",
                    "__getitem__", "__gt__", "__hash__", "__iter__", "__le__", "__len__",
                    "__lt__", "__mod__", "__mul__", "__ne__", "__repr__", "__rmod__", "__rmul__",
                    "__str__"]
      methods := ["__bytes__", "__getnewargs__", "capitalize", "center", "count", "decode",
                  "endswith", "expandtabs", "find", "hex", "index", "isalnum", "isalpha",
                  "isascii", "isdigit", "islower", "isspace", "istitle", "isupper", "join",
                  "ljust", "lower", "lstrip", "partition", "removeprefix", "removesuffix",
                  "replace", "rfind", "rindex", "rjust", "rpartition", "rsplit", "rstrip",
                  "split", "splitlines", "startswith", "strip", "swapcase", "title", "translate",
                  "upper", "zfill"]
      classMethods := ["fromhex"]
      hasConstructor := true
      statics := ["maketrans"]
      data := [("__doc__", .str)]
      undocumented := ["__getnewargs__"]
      unsigned := ["__getnewargs__", "capitalize", "count", "endswith", "find", "index",
                   "isalnum", "isalpha", "isascii", "isdigit", "islower", "isspace", "istitle",
                   "isupper", "lower", "rfind", "rindex", "startswith", "swapcase", "title",
                   "upper"] }
  | .bytearray => {
      operators := ["__add__", "__contains__", "__delitem__", "__eq__", "__ge__",
                    "__getattribute__", "__getitem__", "__gt__", "__iadd__", "__imul__",
                    "__init__", "__iter__", "__le__", "__len__", "__lt__", "__mod__", "__mul__",
                    "__ne__", "__repr__", "__rmod__", "__rmul__", "__setitem__", "__str__"]
      methods := ["__alloc__", "__reduce__", "__reduce_ex__", "__sizeof__", "append",
                  "capitalize", "center", "clear", "copy", "count", "decode", "endswith",
                  "expandtabs", "extend", "find", "hex", "index", "insert", "isalnum", "isalpha",
                  "isascii", "isdigit", "islower", "isspace", "istitle", "isupper", "join",
                  "ljust", "lower", "lstrip", "partition", "pop", "remove", "removeprefix",
                  "removesuffix", "replace", "reverse", "rfind", "rindex", "rjust", "rpartition",
                  "rsplit", "rstrip", "split", "splitlines", "startswith", "strip", "swapcase",
                  "title", "translate", "upper", "zfill"]
      classMethods := ["fromhex"]
      hasConstructor := true
      statics := ["maketrans"]
      data := [("__doc__", .str), ("__hash__", .noneType)]
      unsigned := ["__alloc__", "capitalize", "count", "endswith", "find", "index", "isalnum",
                   "isalpha", "isascii", "isdigit", "islower", "isspace", "istitle", "isupper",
                   "lower", "rfind", "rindex", "startswith", "swapcase", "title", "upper"] }
  | .list => {
      operators := ["__add__", "__contains__", "__delitem__", "__eq__", "__ge__",
                    "__getattribute__", "__gt__", "__iadd__", "__imul__", "__init__", "__iter__",
                    "__le__", "__len__", "__lt__", "__mul__", "__ne__", "__repr__", "__rmul__",
                    "__setitem__"]
      methods := ["__getitem__", "__reversed__", "__sizeof__", "append", "clear", "copy", "count",
                  "extend", "index", "insert", "pop", "remove", "reverse", "sort"]
      classMethods := ["__class_getitem__"]
      hasConstructor := true
      data := [("__doc__", .str), ("__hash__", .noneType)]
      unsigned := ["__class_getitem__", "__getitem__"] }
  | .tuple => {
      operators := ["__add__", "__contains__", "__eq__", "__ge__", "__getattribute__",
                    "__getitem__", "__gt__", "__hash__", "__iter__", "__le__", "__len__",
                    "__lt__", "__mul__", "__ne__", "__repr__", "__rmul__"]
      methods := ["__getnewargs__", "count", "index"]
      classMethods := ["__class_getitem__"]
      hasConstructor := true
      data := [("__doc__", .str)]
      undocumented := ["__getnewargs__"]
      unsigned := ["__class_getitem__"] }
  | .dict => {
      operators := ["__delitem__", "__eq__", "__ge__", "__getattribute__", "__gt__", "__init__",
                    "__ior__", "__iter__", "__le__", "__len__", "__lt__", "__ne__", "__or__",
                    "__repr__", "__ror__", "__setitem__"]
      methods := ["__contains__", "__getitem__", "__reversed__", "__sizeof__", "clear", "copy",
                  "get", "items", "keys", "pop", "popitem", "setdefault", "update", "values"]
      classMethods := ["__class_getitem__", "fromkeys"]
      hasConstructor := true
      data := [("__doc__", .str), ("__hash__", .noneType)]
      unsigned := ["__class_getitem__", "__getitem__", "__sizeof__", "clear", "copy", "items",
                   "keys", "update", "values"] }
  | .set => {
      operators := ["__and__", "__eq__", "__ge__", "__getattribute__", "__gt__", "__iand__",
                    "__init__", "__ior__", "__isub__", "__iter__", "__ixor__", "__le__",
                    "__len__", "__lt__", "__ne__", "__or__", "__rand__", "__repr__", "__ror__",
                    "__rsub__", "__rxor__", "__sub__", "__xor__"]
      methods := ["__contains__", "__reduce__", "__sizeof__", "add", "clear", "copy",
                  "difference", "difference_update", "discard", "intersection",
                  "intersection_update", "isdisjoint", "issubset", "issuperset", "pop", "remove",
                  "symmetric_difference", "symmetric_difference_update", "union", "update"]
      classMethods := ["__class_getitem__"]
      hasConstructor := true
      data := [("__doc__", .str), ("__hash__", .noneType)]
      unsigned := ["__class_getitem__", "__contains__", "__reduce__", "__sizeof__", "add",
                   "clear", "copy", "difference", "difference_update", "discard", "intersection",
                   "intersection_update", "isdisjoint", "pop", "remove", "symmetric_difference",
                   "symmetric_difference_update", "union", "update"] }
  | .frozenset => {
      operators := ["__and__", "__eq__", "__ge__", "__getattribute__", "__gt__", "__hash__",
                    "__iter__", "__le__", "__len__", "__lt__", "__ne__", "__or__", "__rand__",
                    "__repr__", "__ror__", "__rsub__", "__rxor__", "__sub__", "__xor__"]
      methods := ["__contains__", "__reduce__", "__sizeof__", "copy", "difference",
                  "intersection", "isdisjoint", "issubset", "issuperset", "symmetric_difference",
                  "union"]
      classMethods := ["__class_getitem__"]
      hasConstructor := true
      data := [("__doc__", .str)]
      unsigned := ["__class_getitem__", "__contains__", "__reduce__", "__sizeof__", "copy",
                   "difference", "intersection", "isdisjoint", "symmetric_difference", "union"] }
  | .baseException => {
      operators := ["__delattr__", "__getattribute__", "__init__", "__repr__", "__setattr__",
                    "__str__"]
      methods := ["__reduce__", "__setstate__", "add_note", "with_traceback"]
      hasConstructor := true
      computed := [("__cause__", .noneType), ("__context__", .noneType), ("__dict__", .dict),
                   ("__traceback__", .noneType), ("args", .tuple)]
      fields := [("__suppress_context__", .bool)]
      data := [("__doc__", .str)]
      undocumented := ["__reduce__", "__setstate__"]
      unsigned := ["__reduce__", "__setstate__", "add_note", "with_traceback"]
      documented := ["__cause__", "__context__"] }
  | .exception => {
      operators := ["__init__"]
      hasConstructor := true
      data := [("__doc__", .str)] }
  | .valueError => {
      operators := ["__init__"]
      hasConstructor := true
      data := [("__doc__", .str)] }
  | .module => {
      operators := ["__delattr__", "__getattribute__", "__init__", "__repr__", "__setattr__"]
      methods := ["__dir__"]
      hasConstructor := true
      computed := [("__annotations__", .dict)]
      fields := [("__dict__", .dict)]
      data := [("__doc__", .str)]
      unsigned := ["__dir__"] }
  | .builtinFunction => {
      operators := ["__call__", "__eq__", "__ge__", "__getattribute__", "__gt__", "__hash__",
                    "__le__", "__lt__", "__ne__", "__repr__"]
      methods := ["__reduce__"]
      computed := [("__doc__", .str), ("__name__", .str), ("__qualname__", .str),
                   ("__self__", .module), ("__text_signature__", .str)]
      fields := [("__module__", .str)]
      undocumented := ["__reduce__"]
      unsigned := ["__reduce__"] }
  | .noneType => {
      operators := ["__bool__", "__repr__"]
      hasConstructor := true
      data := [("__doc__", .noneType)] }
  | .abcMeta => {
      functions := ["__instancecheck__", "__subclasscheck__", "_abc_caches_clear",
                    "_abc_registry_clear", "_dump_registry", "register"]
      staticFunctions := ["__new__"]
      data := [("__doc__", .str), ("__module__", .str)] }
  | .function => {
      operators := ["__call__", "__get__", "__repr__"]
      hasConstructor := true
      computed := [("__annotations__", .dict), ("__code__", .code), ("__defaults__", .noneType),
                   ("__dict__", .dict), ("__kwdefaults__", .noneType), ("__name__", .str),
                   ("__qualname__", .str)]
      fields := [("__builtins__", .dict), ("__closure__", .noneType), ("__doc__", .noneType),
                 ("__globals__", .dict), ("__module__", .str)] }
  | .boundMethod => {
      operators := ["__call__", "__delattr__", "__eq__", "__ge__", "__getattribute__", "__gt__",
                    "__hash__", "__le__", "__lt__", "__ne__", "__repr__", "__setattr__"]
      methods := ["__reduce__"]
      hasConstructor := true
      computed := [("__doc__", .noneType)]
      fields := [("__func__", .function), ("__self__", .object)]
      undocumented := ["__reduce__"]
      documented := ["__func__", "__self__"] }
  | .property => {
      operators := ["__delete__", "__get__", "__getattribute__", "__init__", "__set__"]
      methods := ["__set_name__", "deleter", "getter", "setter"]
      hasConstructor := true
      computed := [("__isabstractmethod__", .bool)]
      fields := [("__doc__", .noneType), ("fdel", .noneType), ("fget", .function),
                 ("fset", .noneType)]
      unsigned := ["__set_name__", "deleter", "getter", "setter"] }
  | .staticMethod => {
      operators := ["__call__", "__get__", "__init__", "__repr__"]
      hasConstructor := true
      computed := [("__dict__", .dict), ("__isabstractmethod__", .bool)]
      fields := [("__func__", .function), ("__wrapped__", .function)]
      data := [("__doc__", .str)] }
  | .classMethod => {
      operators := ["__get__", "__init__", "__repr__"]
      hasConstructor := true
      computed := [("__dict__", .dict), ("__isabstractmethod__", .bool)]
      fields := [("__func__", .function), ("__wrapped__", .function)]
      data := [("__doc__", .str)] }
  | .partialFunction => {
      operators := ["__call__", "__delattr__", "__getattribute__", "__repr__", "__setattr__"]
      methods := ["__reduce__", "__setstate__"]
      classMethods := ["__class_getitem__"]
      hasConstructor := true
      computed := [("__dict__", .dict)]
      fields := [("__vectorcalloffset__", .int), ("args", .tuple), ("func", .function),
                 ("keywords", .dict)]
      data := [("__doc__", .str), ("__module__", .str)]
      undocumented := ["__reduce__", "__setstate__"]
      unsigned := ["__class_getitem__", "__reduce__", "__setstate__"]
      documented := ["args", "func", "keywords"] }
  | .partialMethod => {
      functions := ["__get__", "__init__", "__repr__", "_make_unbound_method"]
      classwide := [("__class_getitem__", .genericAlias)]
      computed := [("__dict__", .dict), ("__weakref__", .noneType)]
      properties := ["__isabstractmethod__"]
      data := [("__doc__", .str), ("__module__", .str)]
      documented := ["__dict__", "__weakref__"] }
  | .operatorDescriptor => {
      operators := ["__call__", "__get__", "__getattribute__", "__repr__"]
      methods := ["__reduce__"]
      computed := [("__doc__", .str), ("__qualname__", .str), ("__text_signature__", .str)]
      fields := [("__name__", .str), ("__objclass__", .type)]
      undocumented := ["__reduce__"]
      unsigned := ["__reduce__"] }
  | .methodDescriptor => {
      operators := ["__call__", "__get__", "__getattribute__", "__repr__"]
      methods := ["__reduce__"]
      computed := [("__doc__", .str), ("__qualname__", .str), ("__text_signature__", .str)]
      fields := [("__name__", .str), ("__objclass__", .type)]
      undocumented := ["__reduce__"]
      unsigned := ["__reduce__"] }
  | .classMethodDescriptor => {
      operators := ["__call__", "__get__", "__getattribute__", "__repr__"]
      computed := [("__doc__", .str), ("__qualname__", .str), ("__text_signature__", .str)]
      fields := [("__name__", .str), ("__objclass__", .type)] }
  | .computedDescriptor => {
      operators := ["__delete__", "__get__", "__getattribute__", "__repr__", "__set__"]
      computed := [("__doc__", .str), ("__qualname__", .str)]
      fields := [("__name__", .str), ("__objclass__", .type)] }
  | .fieldDescriptor => {
      operators := ["__delete__", "__get__", "__getattribute__", "__repr__", "__set__"]
      methods := ["__reduce__"]
      computed := [("__doc__", .noneType), ("__qualname__", .str)]
      fields := [("__name__", .str), ("__objclass__", .type)]
      undocumented := ["__reduce__"]
      unsigned := ["__reduce__"] }
  | .boundOperator => {
      operators := ["__call__", "__eq__", "__ge__", "__getattribute__", "__gt__", "__hash__",
                    "__le__", "__lt__", "__ne__", "__repr__"]
      methods := ["__reduce__"]
      computed := [("__doc__", .str), ("__name__", .str), ("__objclass__", .type),
                   ("__qualname__", .str), ("__text_signature__", .str)]
      fields := [("__self__", .int)]
      undocumented := ["__reduce__"]
      unsigned := ["__reduce__"] }
  | .namespaceView => {
      operators := ["__contains__", "__eq__", "__ge__", "__getattribute__", "__getitem__",
                    "__gt__", "__ior__", "__iter__", "__le__", "__len__", "__lt__", "__ne__",
                    "__or__", "__repr__", "__ror__", "__str__"]
      methods := ["__reversed__", "copy", "get", "items", "keys", "values"]
      classMethods := ["__class_getitem__"]
      hasConstructor := true
      data := [("__doc__", .noneType), ("__hash__", .noneType)]
      unsigned := ["__class_getitem__", "__reversed__", "copy", "get", "items", "keys", "values"] }
  | .code => {
      operators := ["__eq__", "__ge__", "__getattribute__", "__gt__", "__hash__", "__le__",
                    "__lt__", "__ne__", "__repr__"]
      methods := ["__sizeof__", "_varname_from_oparg", "co_lines", "co_positions", "replace"]
      hasConstructor := true
      computed := [("_co_code_adaptive", .bytes), ("co_cellvars", .tuple), ("co_code", .bytes),
                   ("co_freevars", .tuple), ("co_lnotab", .bytes), ("co_varnames", .tuple)]
      fields := [("co_argcount", .int), ("co_consts", .tuple), ("co_exceptiontable", .bytes),
                 ("co_filename", .str), ("co_firstlineno", .int), ("co_flags", .int),
                 ("co_kwonlyargcount", .int), ("co_linetable", .bytes), ("co_name", .str),
                 ("co_names", .tuple), ("co_nlocals", .int), ("co_posonlyargcount", .int),
                 ("co_qualname", .str), ("co_stacksize", .int)]
      data := [("__doc__", .str)]
      undocumented := ["__sizeof__", "co_lines", "co_positions"]
      unsigned := ["__sizeof__", "co_lines", "co_positions"] }
  | .abstractRegistry => {
      hasConstructor := true
      data := [("__doc__", .str), ("__module__", .str)] }
  | .genericAlias => {
      operators := ["__call__", "__eq__", "__ge__", "__getattribute__", "__getitem__", "__gt__",
                    "__hash__", "__iter__", "__le__", "__lt__", "__ne__", "__or__", "__repr__",
                    "__ror__"]
      methods := ["__dir__", "__instancecheck__", "__mro_entries__", "__reduce__",
                  "__subclasscheck__"]
      hasConstructor := true
      computed := [("__parameters__", .tuple), ("__typing_unpacked_tuple_args__", .noneType)]
      fields := [("__args__", .tuple), ("__origin__", .type), ("__unpacked__", .bool)]
      data := [("__doc__", .str)]
      undocumented := ["__dir__", "__instancecheck__", "__mro_entries__", "__reduce__",
                       "__subclasscheck__"]
      unsigned := ["__dir__", "__instancecheck__", "__mro_entries__", "__reduce__",
                   "__subclasscheck__"]
      documented := ["__parameters__"] }

end Builtin

end Conformance
