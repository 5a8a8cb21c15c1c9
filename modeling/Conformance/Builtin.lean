/-!
# Built-in classes

The classes that exist in every world before any is declared, their names and their ancestors.
-/

namespace Conformance

/-- The classes that every world has. -/
inductive Builtin where
  | object | type
  | int | bool | float | complex | str | bytes | bytearray
  | list | tuple | dict | set | frozenset
  | baseException | exception | valueError
  | module | builtinFunction | noneType | abcMeta
  | function | boundMethod | property | staticMethod | classMethod
  | partialFunction | partialMethod
  | operatorDescriptor | methodDescriptor | classMethodDescriptor
  | computedDescriptor | fieldDescriptor | boundOperator
  | namespaceView | code | abstractRegistry | genericAlias
  deriving DecidableEq, Repr

namespace Builtin

/-- All built-in classes. -/
def all : List Builtin :=
  [object, type, int, bool, float, complex, str, bytes, bytearray, list, tuple, dict, set,
   frozenset, baseException, exception, valueError, module, builtinFunction, noneType, abcMeta,
   function, boundMethod, property, staticMethod, classMethod, partialFunction, partialMethod,
   operatorDescriptor, methodDescriptor, classMethodDescriptor, computedDescriptor,
   fieldDescriptor, boundOperator, namespaceView, code, abstractRegistry, genericAlias]

/-- The name of the class. -/
def name : Builtin → String
  | object => "object"
  | type => "type"
  | int => "int"
  | bool => "bool"
  | float => "float"
  | complex => "complex"
  | str => "str"
  | bytes => "bytes"
  | bytearray => "bytearray"
  | list => "list"
  | tuple => "tuple"
  | dict => "dict"
  | set => "set"
  | frozenset => "frozenset"
  | baseException => "BaseException"
  | exception => "Exception"
  | valueError => "ValueError"
  | module => "module"
  | builtinFunction => "builtin_function_or_method"
  | noneType => "NoneType"
  | abcMeta => "ABCMeta"
  | function => "function"
  | boundMethod => "method"
  | property => "property"
  | staticMethod => "staticmethod"
  | classMethod => "classmethod"
  | partialFunction => "partial"
  | partialMethod => "partialmethod"
  | operatorDescriptor => "wrapper_descriptor"
  | methodDescriptor => "method_descriptor"
  | classMethodDescriptor => "classmethod_descriptor"
  | computedDescriptor => "getset_descriptor"
  | fieldDescriptor => "member_descriptor"
  | boundOperator => "method-wrapper"
  | namespaceView => "mappingproxy"
  | code => "code"
  | abstractRegistry => "_abc_data"
  | genericAlias => "GenericAlias"

/-- The module that the class belongs to. -/
def moduleName : Builtin → String
  | abcMeta => "abc"
  | partialFunction | partialMethod => "functools"
  | abstractRegistry => "_abc"
  | genericAlias => "types"
  | _ => "builtins"

/-- The name of the class in full; a class of the module `builtins` goes without it. -/
def qualifiedName (b : Builtin) : String :=
  if b.moduleName = "builtins" then b.name else b.moduleName ++ "." ++ b.name

/-- The class can be named without a module. The others are met only as the type of something. This
is a part of what the module `builtins` has: a name such as `range` or `KeyError` stands for nothing
here. -/
def isNamed : Builtin → Bool
  | object | type | int | bool | float | complex | str | bytes | bytearray => true
  | list | tuple | dict | set | frozenset | baseException | exception | valueError => true
  | property | staticMethod | classMethod => true
  | _ => false

/-- The built-in class that a bare name stands for. -/
def ofName? (s : String) : Option Builtin := all.find? fun b => b.isNamed && b.name == s

/-- The functions that can be named without a module: two of those that the module `builtins` has.
-/
def functionNames : List String := ["len", "print"]

/-- The class and its ancestors, nearest first. -/
def lineage : Builtin → List Builtin
  | object => [object]
  | bool => [bool, int, object]
  | exception => [exception, baseException, object]
  | valueError => [valueError, exception, baseException, object]
  | abcMeta => [abcMeta, type, object]
  | b => [b, object]

end Builtin

end Conformance
